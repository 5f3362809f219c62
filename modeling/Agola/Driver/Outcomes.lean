import Agola.Driver.Progress

/-!
# What `NewPod` leaves behind

A successful `NewPod` returns the pod of its config, one member per container
config (`newPod_members`), and it issued one labelled create per config, in
declaration order (`newPod_ok_taskCreates`). A config whose container `i`
declares a volume without tmpfs settings makes it fail, and it rolls nothing
back (`newPod_invalid_config`): on an engine that accepts every call and gets
as far as config `i`, the pod's two volumes and the started containers of the
configs before `i` stay, and `GetPods` then returns a pod of the config's ID as
soon as `i > 0`.
-/

namespace Agola.Driver

open DriverM

section NewPod

variable (P : Package) (d : DockerDriver) {podConfig : PodConfig}

/-! ## The pod of a successful `NewPod` -/

end NewPod

theorem twoPodsWorld_sidecar_fresh : ∀ c ∈ twoPodsWorld.objects.containers, c.running = true →
    matchesLabels c.labels (searchLabels Package.spec sampleDriver sidecarPodConfig) = false := by
  decide

theorem sidecarPodConfig_valid : sidecarPodConfig.Valid Package.spec sampleDriver := by
  refine ⟨List.cons_ne_nil _ _, ⟨⟨_, rfl⟩, _, rfl⟩, ⟨_, rfl⟩, fun cc hcc => ?_⟩
  simp only [sidecarPodConfig, List.mem_cons, List.mem_singleton, List.not_mem_nil,
    or_false] at hcc
  rcases hcc with rfl | rfl
  · exact ⟨⟨⟨_, rfl⟩, _, rfl⟩, fun _ h => nomatch h⟩
  · exact ⟨⟨⟨_, rfl⟩, _, rfl⟩, by decide⟩

theorem newPod_sidecar_ok :
    ∃ pod w', newPod Package.spec sampleDriver sidecarPodConfig twoPodsWorld = (.ok pod, w') :=
  newPod_succeeds Package.spec sampleDriver (by simp [Accepting, twoPodsWorld])
    twoPodsWorld_sidecar_fresh sidecarPodConfig_valid

/-- An engine still running a container of an earlier attempt at the sample
pod, with index 1. -/
def leftoverWorld : World :=
  { objects :=
      { containers := [⟨0, { image := "alpine:3"
                             labels := containerLabels Package.spec sampleDriver samplePodConfig 1 "" },
          true⟩]
        volumes := [], images := [], nextId := 1, fresh := by decide }
    faults := [], log := [] }

def Call.taskRequest? : Call → Option CreateRequest
  | .containerCreate req => if req.labels = [] then none else some req
  | _ => none

/-- The requests of the labelled creates of a log: every create but that of the
toolbox helper, which carries no labels. -/
def taskCreates (log : List Issued) : List CreateRequest :=
  log.filterMap (·.call.taskRequest?)

@[simp] theorem taskCreates_append (l l' : List Issued) :
    taskCreates (l ++ l') = taskCreates l ++ taskCreates l' :=
  List.filterMap_append ..

theorem taskCreates_eq_nil {pull : String → DockerConfigAuth → Prop} {seg : List Issued}
    (h : Seg (EntryOK pull fun _ req => req.labels = []) seg) : taskCreates seg = [] := by
  refine List.filterMap_eq_nil_iff.mpr fun e he => ?_
  obtain ⟨A, B, hs⟩ := List.append_of_mem he
  have hc := (h A e B hs).2
  rcases e with ⟨c, b⟩
  cases c with
  | containerCreate req => simp [Call.taskRequest?, hc req rfl]
  | _ => rfl

theorem call_ok_taskCreates {α : Type} {c : Call} {effect : Objects → α × Objects} {w w' : World}
    {a : α} (h : call c effect w = (.ok a, w')) (hc : c.taskRequest? = none) :
    ∃ seg, w'.log = w.log ++ seg ∧ taskCreates seg = [] :=
  ⟨_, call_ok_log h, by simp [taskCreates, hc]⟩

section NewPod

variable (P : Package) (d : DockerDriver) {podConfig : PodConfig}

theorem createContainer_taskCreates {index : Nat} {cc : ContainerConfig} {mainID : String}
    {tv pv : Volume} {id : Nat} {w w' : World}
    (h : createContainer P d index podConfig cc mainID tv pv w = (.ok id, w')) :
    ∃ req, containerRequest P d podConfig index cc mainID tv pv = .ok req ∧
      ∃ seg, w'.log = w.log ++ seg ∧ taskCreates seg = [req] := by
  unfold createContainer at h
  obtain ⟨_, w1, h1, h⟩ := bind_eq_ok.mp h
  obtain ⟨req, w2, h2, h⟩ := bind_eq_ok.mp h
  rw [fromExcept_apply, Prod.mk.injEq] at h2
  obtain ⟨hreq, rfl⟩ := h2
  obtain ⟨auth, hlog⟩ := fetchImage_pulled h1
  have hne : req.labels ≠ [] := by
    rw [containerRequest_labels P d hreq]
    exact List.cons_ne_nil _ _
  exact ⟨req, hreq, _, by rw [call_ok_log h, hlog, List.append_assoc],
    by simp [taskCreates, Call.taskRequest?, hne]⟩

theorem createContainers_taskCreates {tv pv : Volume} :
    ∀ (ccs : List ContainerConfig) (cindex : Nat) (mainID : String) (w w' : World),
      createContainers P d podConfig tv pv cindex mainID ccs w = (.ok (), w') →
      ∃ seg, w'.log = w.log ++ seg ∧ List.Forall₂ (fun req icc =>
        ∃ mainID, containerRequest P d podConfig icc.1 icc.2 mainID tv pv = .ok req)
        (taskCreates seg) (ccs.enumFrom cindex)
  | [], _, _, w, w', h => by
    rw [createContainers, pure_apply, Prod.mk.injEq] at h
    obtain ⟨-, rfl⟩ := h
    exact ⟨[], by simp, .nil⟩
  | cc :: rest, cindex, mainID, w, w', h => by
    rw [createContainers] at h
    obtain ⟨id, w1, h1, h⟩ := bind_eq_ok.mp h
    obtain ⟨req, hreq, seg1, hlog1, hT1⟩ := createContainer_taskCreates P d h1
    obtain ⟨_, w2, h2, h⟩ := bind_eq_ok.mp h
    obtain ⟨seg2, hlog2, hT2⟩ := call_ok_taskCreates h2 rfl
    obtain ⟨seg3, hlog3, hF⟩ := createContainers_taskCreates rest _ _ w2 w' h
    refine ⟨seg1 ++ seg2 ++ seg3, by simp [hlog3, hlog2, hlog1], ?_⟩
    rw [taskCreates_append, taskCreates_append, hT1, hT2]
    exact .cons ⟨mainID, hreq⟩ hF

/-- Whatever the engine answers, a successful `NewPod` issued exactly one
labelled `ContainerCreate` per container config, in declaration order, and the
one of config `i` is `i`'s request: with `newPod_create_requests`, the creates of
the run are the toolbox helper's and one `CreateFor` per index. -/
theorem newPod_ok_taskCreates {pod : DockerPod} {w w' : World}
    (h : newPod P d podConfig w = (.ok pod, w')) :
    ∃ seg tv pv, w'.log = w.log ++ seg ∧ List.Forall₂ (fun req icc =>
      ∃ mainID, containerRequest P d podConfig icc.1 icc.2 mainID tv pv = .ok req)
      (taskCreates seg) podConfig.containers.enum := by
  obtain ⟨tv, pv, w1, w2, w3, cs, -, -, h1, h2, h3, h4, -⟩ := newPod_ok P d h
  -- the toolbox step creates only its unlabelled helper
  have hP : Preserves (LogFrom w.log (EntryOK (fun _ _ => True) fun _ req => req.labels = []))
      (createToolboxVolume P d podConfig.id) :=
    createToolboxVolume_logFrom podConfig.id (fun _ _ => trivial) fun _ _ => rfl
  obtain ⟨seg1, hlog1, hS1⟩ :
      LogFrom w.log (EntryOK (fun _ _ => True) fun _ req => req.labels = []) w1 := by
    have hT := hP w ⟨[], by simp, .nil⟩
    rwa [h1] at hT
  unfold createProjectVolume volumeCreate at h2
  obtain ⟨seg2, hlog2, hT2⟩ := call_ok_taskCreates h2 rfl
  obtain ⟨seg3, hlog3, hF⟩ := createContainers_taskCreates P d _ _ _ _ _ h3
  obtain ⟨seg4, hlog4, hT4⟩ := call_ok_taskCreates h4 rfl
  refine ⟨seg1 ++ seg2 ++ seg3 ++ seg4, tv, pv, by simp [hlog4, hlog3, hlog2, hlog1], ?_⟩
  simpa [taskCreates_eq_nil hS1, hT2, hT4] using hF

end NewPod

theorem newPod_ok_taskCreates_sidecar : ∃ pod w',
    newPod Package.spec sampleDriver sidecarPodConfig twoPodsWorld = (.ok pod, w') ∧
      ∃ seg tv pv, w'.log = twoPodsWorld.log ++ seg ∧ List.Forall₂ (fun req icc =>
        ∃ mainID, containerRequest Package.spec sampleDriver sidecarPodConfig icc.1 icc.2
          mainID tv pv = .ok req) (taskCreates seg) sidecarPodConfig.containers.enum :=
  have ⟨pod, w', hr⟩ := newPod_sidecar_ok
  ⟨pod, w', hr, newPod_ok_taskCreates Package.spec sampleDriver hr⟩

/-! ## A `NewPod` that stops at a rejected config -/

theorem fetchImage_accepting (P : Package) (image : String) (alwaysFetch : Bool)
    (rc : Option DockerConfig) : Preserves Accepting (fetchImage P image alwaysFetch rc) :=
  fun w h => (fetchImage_quiet (A := fun fs => ∀ b ∈ fs, b = false)
    (fun _ hf b hb => hf b (List.mem_of_mem_tail hb)) P image alwaysFetch rc w ⟨.refl _, h⟩).2

section NewPod

variable (P : Package) (d : DockerDriver) {podConfig : PodConfig}

theorem createContainer_rejected {index : Nat} {cc : ContainerConfig} {mainID : String}
    {tv pv : Volume} (hbad : ∀ ms, tmpfsMounts cc.volumes ≠ .ok ms) (w : World) :
    ∃ e, createContainer P d index podConfig cc mainID tv pv w =
      (.error e, (fetchImage P cc.image true podConfig.dockerConfig w).2) := by
  unfold createContainer
  match hf : fetchImage P cc.image true podConfig.dockerConfig w with
  | (.error e, w1) => exact ⟨e, bind_of_error hf _⟩
  | (.ok (), w1) =>
    cases hreq : containerRequest P d podConfig index cc mainID tv pv with
    | error e => exact ⟨e, by rw [bind_of_ok hf, bind_apply, fromExcept_apply]⟩
    | ok req =>
      obtain ⟨ms, hms⟩ := tmpfsMounts_of_containerRequest hreq
      exact absurd hms (hbad ms)

/-- The creation loop on an accepting engine, when the configs before position
`k` are valid and the one at `k` is rejected: it creates and starts one
container per config before `k`, and then fails. -/
theorem createContainers_stops {tv pv : Volume} {cc : ContainerConfig}
    (hbad : ∀ ms, tmpfsMounts cc.volumes ≠ .ok ms) :
    ∀ (ccs : List ContainerConfig) (k cindex : Nat) (mainID : String) (w : World), Accepting w →
      ccs[k]? = some cc →
      (∀ c ∈ ccs.take k, Resolves P c.image ∧ ∀ vol ∈ c.volumes, vol.tmpFS.isSome) →
      ∃ e w' created, createContainers P d podConfig tv pv cindex mainID ccs w = (.error e, w') ∧
        Accepting w' ∧ w'.objects.volumes = w.objects.volumes ∧
        w'.objects.containers = w.objects.containers ++ created ∧
        List.Forall₂ (Planned P d podConfig tv pv w.objects.nextId cindex) created
          ((ccs.take k).enumFrom cindex)
  | [], _, _, _, _, _, h, _ => by simp at h
  | c :: rest, 0, cindex, mainID, w, hacc, hcc, _ => by
    obtain rfl : c = cc := by simpa using hcc
    obtain ⟨e, he⟩ : ∃ e, createContainer P d cindex podConfig c mainID tv pv w =
        (.error e, (fetchImage P c.image true podConfig.dockerConfig w).2) :=
      createContainer_rejected P d hbad w
    obtain ⟨hc1, hv1, -⟩ := fetchImage_objects P c.image true podConfig.dockerConfig w
    refine ⟨e, _, [], ?_, fetchImage_accepting P _ _ _ w hacc, hv1,
      by rw [hc1, List.append_nil], .nil⟩
    rw [createContainers, bind_of_error he]
  | c :: rest, k + 1, cindex, mainID, w, hacc, hcc, hvalid => by
    obtain ⟨himg, hvol⟩ := hvalid c (List.mem_cons_self _ _)
    obtain ⟨req, hreq⟩ : ∃ req, containerRequest P d podConfig cindex c mainID tv pv = .ok req :=
      containerRequest_exists P d hvol
    -- config `k + 1` of the list is created and started
    obtain ⟨id, w1, h1, a1⟩ := createContainer_succeeds P d himg hreq w hacc
    obtain ⟨req', o, hreq', ⟨hc, hv, hn⟩, rfl, ho1⟩ := createContainer_ok P d h1
    obtain rfl : req = req' := Except.ok.inj (hreq.symm.trans hreq')
    obtain ⟨u, w2, h2, a2⟩ : ∃ u w2, containerStart o.nextId w1 = (.ok u, w2) ∧ Accepting w2 :=
      Succeeds.call _ _ w1 a1
    have ho2 := containerStart_ok h2
    -- and the rest of the loop stops at the rejected config
    obtain ⟨e, w', tail, h3, a3, hv3, hc3, hF⟩ := createContainers_stops hbad rest k (cindex + 1)
      (if cindex = 0 then toString o.nextId else mainID) w2 a2 (by simpa using hcc)
      fun c' hc' => hvalid c' (List.mem_cons_of_mem _ hc')
    have hn2 : w2.objects.nextId = w.objects.nextId + 1 := by simp [ho2, ho1, hn]
    refine ⟨e, w', ⟨o.nextId, req, true⟩ :: tail, ?_, a3, ?_, ?_, ?_⟩
    · simp only [createContainers, bind_of_ok h1, bind_of_ok h2]
      exact h3
    · simp only [hv3, ho2, ho1, Objects.setRunning_volumes, Objects.createContainer_volumes, hv]
    · rw [hc3, ho2, ho1, Objects.createContainer_setRunning, hc, List.append_assoc]
      rfl
    · refine .cons ⟨rfl, by rw [hn], mainID, hreq⟩ (hF.imp fun c' icc hp => ⟨hp.1, ?_, hp.2.2⟩)
      have := hp.2.1
      omega

theorem newPod_stops {w : World} (hacc : Accepting w) (hinit : Resolves P d.initImage)
    (hpath : ∃ path, P.toolboxExecPath d.toolboxPath d.arch = .ok path) {i : Nat}
    {cc : ContainerConfig} (hcc : podConfig.containers[i]? = some cc)
    (hbad : ∀ ms, tmpfsMounts cc.volumes ≠ .ok ms)
    (hvalid : ∀ c ∈ podConfig.containers.take i,
      Resolves P c.image ∧ ∀ vol ∈ c.volumes, vol.tmpFS.isSome) :
    ∃ e w' created, newPod P d podConfig w = (.error e, w') ∧ Accepting w' ∧
      w'.objects.volumes = w.objects.volumes ++
        [⟨toString w.objects.nextId, volumeLabels P d podConfig.id P.toolboxVolumeName⟩,
         ⟨toString (w.objects.nextId + 2), volumeLabels P d podConfig.id P.projectVolumeName⟩] ∧
      w'.objects.containers = w.objects.containers ++ created ∧
      List.Forall₂ (Planned P d podConfig
        ⟨toString w.objects.nextId, volumeLabels P d podConfig.id P.toolboxVolumeName⟩
        ⟨toString (w.objects.nextId + 2), volumeLabels P d podConfig.id P.projectVolumeName⟩
        (w.objects.nextId + 3) 0) created (podConfig.containers.take i).enum := by
  have hne : podConfig.containers ≠ [] := fun h => by simp [h] at hcc
  obtain ⟨tv, w1, h1, a1⟩ := createToolboxVolume_succeeds P d hinit hpath podConfig.id w hacc
  obtain ⟨htv, hv1, -, -⟩ := createToolboxVolume_ok P d h1
  obtain ⟨hc1, hn1⟩ := createToolboxVolume_accepting P d hacc h1
  obtain ⟨pv, w2, h2, a2⟩ := (show Succeeds (createProjectVolume P d podConfig.id) by
    unfold createProjectVolume volumeCreate; exact .call _ _) w1 a1
  obtain ⟨hpv, hw2⟩ := createProjectVolume_ok P d h2
  obtain ⟨e, w3, created, h3, a3, hv3, hc3, hF⟩ := @createContainers_stops P d podConfig tv pv cc
    hbad podConfig.containers i 0 "" w2 a2 hcc hvalid
  have hn2 : w2.objects.nextId = w.objects.nextId + 3 := by simp [hw2, hn1]
  rw [hn2, htv, hpv, hn1] at hF
  refine ⟨e, w3, created, ?_, a3, ?_, by rw [hc3, hw2, Objects.createVolume_containers, hc1], hF⟩
  · unfold newPod
    simp only [List.length_eq_zero, hne, if_false, pure_bind, bind_of_ok h1, bind_of_ok h2,
      bind_of_error h3]
  · rw [hv3, hw2, Objects.createVolume_volumes, hv1, hn1, htv, List.append_assoc]
    rfl

theorem getPods_add_created {w w' : World} {created : List Container} {tv pv : Volume} {n : Nat}
    {l : List (Nat × ContainerConfig)} (hacc : Accepting w')
    (hc : w'.objects.containers = w.objects.containers ++ created)
    (hF : List.Forall₂ (Planned P d podConfig tv pv n 0) created l)
    (hl : ∀ icc ∈ l, icc.1 < 2 ^ 63) {pods : List DockerPod} {w1 : World}
    (hg : getPods P d true w = (.ok pods, w1)) :
    ∃ pods' w1', getPods P d true w' = (.ok pods', w1') ∧
      ∀ x, x ∈ pods'.map (·.id) ↔ x ∈ pods.map (·.id) ∨ (created ≠ [] ∧ x = podConfig.id) := by
  obtain ⟨ht, -, hmem, -⟩ := podsOf_ok_spec P d.executorID (podsOf_all P d hg)
  have hown := forall_running_owned P d hF
  -- the created containers parse, so `GetPods` still succeeds
  obtain ⟨pods', hp', -, hmem', -⟩ :=
    podsOf_ok P d.executorID w'.objects.containers w'.objects.volumes fun c hc' ho => by
      rw [hc] at hc'
      rcases List.mem_append.mp hc' with hc' | hc'
      · exact ht c hc' ho
      · obtain ⟨icc, hicc, hp⟩ := exists_of_forall₂_mem hF.flip hc'
        rw [(Planned.indexOf_eq P d hp (hl icc hicc)).1]
        rfl
  refine ⟨pods', _, getPods_all_accepting P d hacc hp', fun x => ?_⟩
  rw [hmem', hmem, hc]
  constructor
  · rintro ⟨c, hc', ho⟩
    rcases List.mem_append.mp hc' with hc' | hc'
    · exact .inl ⟨c, hc', ho⟩
    · exact .inr ⟨List.ne_nil_of_mem hc', Option.some.inj (ho.symm.trans (hown c hc').2)⟩
  · rintro (⟨c, hc', ho⟩ | ⟨hne, rfl⟩)
    · exact ⟨c, List.mem_append_left _ hc', ho⟩
    · obtain ⟨c, hc'⟩ := List.exists_mem_of_ne_nil created hne
      exact ⟨c, List.mem_append_right _ hc', (hown c hc').2⟩

end NewPod

section Leftover

variable (P : Package) (d : DockerDriver) (podConfig : PodConfig)

/-- What `NewPod` leaves on the engine, from `w` to `w'`, when it stops at
config `i`: the pod's two volumes, named by the counter, after the volumes of
before; one started container per config before `i`, after the containers of
before; and, where `GetPods` read `w`, it reads `w'` too and finds the pods of
before and, once `i > 0`, a pod of the config's ID. -/
structure Leftover (i : Nat) (w w' : World) : Prop where
  volumes : w'.objects.volumes = w.objects.volumes ++
    [⟨toString w.objects.nextId, volumeLabels P d podConfig.id P.toolboxVolumeName⟩,
     ⟨toString (w.objects.nextId + 2), volumeLabels P d podConfig.id P.projectVolumeName⟩]
  containers : ∃ created, w'.objects.containers = w.objects.containers ++ created ∧
    List.Forall₂ (Planned P d podConfig
      ⟨toString w.objects.nextId, volumeLabels P d podConfig.id P.toolboxVolumeName⟩
      ⟨toString (w.objects.nextId + 2), volumeLabels P d podConfig.id P.projectVolumeName⟩
      (w.objects.nextId + 3) 0) created (podConfig.containers.take i).enum
  getPods : ∀ pods w1, getPods P d true w = (.ok pods, w1) → ∃ pods' w1',
    getPods P d true w' = (.ok pods', w1') ∧
      ∀ x, x ∈ pods'.map (·.id) ↔ x ∈ pods.map (·.id) ∨ (0 < i ∧ x = podConfig.id)

variable {P d podConfig}

theorem newPod_leftover {w : World} (hacc : Accepting w) (hinit : Resolves P d.initImage)
    (hpath : ∃ path, P.toolboxExecPath d.toolboxPath d.arch = .ok path) {i : Nat}
    {cc : ContainerConfig} (hcc : podConfig.containers[i]? = some cc)
    (hbad : ∀ ms, tmpfsMounts cc.volumes ≠ .ok ms)
    (hvalid : ∀ c ∈ podConfig.containers.take i,
      Resolves P c.image ∧ ∀ vol ∈ c.volumes, vol.tmpFS.isSome) :
    Leftover P d podConfig i w (newPod P d podConfig w).2 := by
  obtain ⟨e, w', created, hr, a', hv, hc, hF⟩ := newPod_stops P d hacc hinit hpath hcc hbad hvalid
  rw [hr]
  have hlen : created.length = i := by
    rw [hF.length_eq, List.enum_length, List.length_take]
    exact min_eq_left (List.getElem?_eq_some_iff.mp hcc).1.le
  refine ⟨hv, ⟨created, hc, hF⟩, fun pods w1 hg => ?_⟩
  obtain ⟨pods', w1', hg', hmem⟩ := getPods_add_created P d a' hc hF (fun icc hicc =>
    lt_trans (lt_of_lt_of_le (List.fst_lt_of_mem_enum hicc) (List.length_take_le' _ _))
      podConfig.containers_length) hg
  exact ⟨pods', w1', hg', fun x => by rw [hmem, ← hlen, List.length_pos]⟩

/-- `NewPod` rejects an empty config without touching the engine. On a config
whose container `i` has a volume without tmpfs settings it always fails, and it
rolls nothing back: it leaves behind only pod volumes, the unlabelled toolbox
helper and containers of the configs before `i`; and on an engine that accepts
every call, with the init image, the toolbox path and the configs before `i`
valid, it leaves both pod volumes and the started containers of every config
before `i`, so that `GetPods` then returns a pod of the config's ID once
`i > 0`. -/
theorem newPod_invalid_config (w : World) :
    (podConfig.containers = [] →
      newPod P d podConfig w = (.error (.errorf "empty container config"), w)) ∧
    ∀ i cc, podConfig.containers[i]? = some cc → (∃ vol ∈ cc.volumes, vol.tmpFS = none) →
      (∃ e, (newPod P d podConfig w).1 = .error e) ∧
        Grown P d podConfig i w.objects (newPod P d podConfig w).2.objects ∧
        (Accepting w → Resolves P d.initImage →
          (∃ path, P.toolboxExecPath d.toolboxPath d.arch = .ok path) →
          (∀ cc' ∈ podConfig.containers.take i,
            Resolves P cc'.image ∧ ∀ vol ∈ cc'.volumes, vol.tmpFS.isSome) →
          Leftover P d podConfig i w (newPod P d podConfig w).2) := by
  refine ⟨fun h => by simp [newPod, h], fun i cc hcc ⟨vol, hvol, hnone⟩ => ?_⟩
  have hbad : ∀ ms, tmpfsMounts cc.volumes ≠ .ok ms := fun ms hms =>
    absurd ((tmpfsMounts_ok_iff _).mp ⟨ms, hms⟩ vol hvol) (by simp [hnone])
  refine ⟨?_, newPod_grown (.inr ⟨cc, hcc, hbad⟩) w (.refl _),
    fun hacc hinit hpath hvalid => newPod_leftover hacc hinit hpath hcc hbad hvalid⟩
  match hr : newPod P d podConfig w with
  | (.error e, _) => exact ⟨e, rfl⟩
  | (.ok _, _) =>
    obtain ⟨_, _, _, _, hreq⟩ := newPod_ok_requests hr hcc
    obtain ⟨ms, hms⟩ := tmpfsMounts_of_containerRequest hreq
    exact absurd hms (hbad ms)

end Leftover

/-- A pod whose second container declares a volume without tmpfs settings. -/
def badVolumePodConfig : PodConfig :=
  { id := "p1", taskID := "t1",
    containers := [{ image := "alpine:3" }, { image := "redis:7", volumes := [⟨"/data", none⟩] }],
    containers_length := by decide, initVolumeDir := "/mnt/agola", dockerConfig := none }

theorem newPod_invalid_config_sample :
    (∃ e, (newPod Package.spec sampleDriver badVolumePodConfig emptyWorld).1 = .error e) ∧
      Grown Package.spec sampleDriver badVolumePodConfig 1 emptyWorld.objects
        (newPod Package.spec sampleDriver badVolumePodConfig emptyWorld).2.objects ∧
      Leftover Package.spec sampleDriver badVolumePodConfig 1 emptyWorld
        (newPod Package.spec sampleDriver badVolumePodConfig emptyWorld).2 := by
  obtain ⟨he, hg, hl⟩ := (@newPod_invalid_config Package.spec sampleDriver badVolumePodConfig
    emptyWorld).2 1 _ rfl ⟨_, List.mem_singleton_self _, rfl⟩
  refine ⟨he, hg, hl (fun _ h => nomatch h) ⟨⟨_, rfl⟩, _, rfl⟩ ⟨_, rfl⟩ fun cc hcc => ?_⟩
  simp only [badVolumePodConfig, List.take, List.mem_singleton] at hcc
  subst hcc
  exact ⟨⟨⟨_, rfl⟩, _, rfl⟩, fun _ h => nomatch h⟩

/-- The rejected config still leaves both pod volumes and its first container,
and `GetPods` then returns the pod. -/
theorem newPod_bad_volume_leaks :
    (newPod Package.spec sampleDriver badVolumePodConfig emptyWorld).1 =
        .error (.errorf "missing volume config") ∧
      (newPod Package.spec sampleDriver badVolumePodConfig emptyWorld).2.objects.volumes.length = 2 ∧
      ((getPods Package.spec sampleDriver true
          (newPod Package.spec sampleDriver badVolumePodConfig emptyWorld).2).1.toOption.getD []).map
        (·.id) = ["p1"] := by
  decide

end Agola.Driver
