import Agola.Driver.NewPod

/-!
# Runs of `NewPod`

One lemma per engine call says what a successful call did to the objects; from
them, what each step of `NewPod` leaves on success: `fetchImage` touches no
container or volume, the toolbox volume adds the volume and at most the
unlabelled helper container, and the creation loop appends one started
container per config, with fresh IDs in declaration order.
-/

namespace Agola.Driver

open DriverM

variable {w w' : World}

/-! ## Successful engine calls -/

theorem containerCreate_ok {req : CreateRequest} {id : Nat} (h : containerCreate req w = (.ok id, w')) :
    id = w.objects.nextId ∧ w'.objects = (w.objects.createContainer req).2 :=
  call_ok h

theorem containerStart_ok {id : Nat} {u : Unit} (h : containerStart id w = (.ok u, w')) :
    w'.objects = w.objects.setRunning id true :=
  (call_ok h).2

theorem volumeCreate_ok {labels : Labels} {v : Volume} (h : volumeCreate labels w = (.ok v, w')) :
    v = ⟨toString w.objects.nextId, labels⟩ ∧ w'.objects = (w.objects.createVolume labels).2 :=
  call_ok h

theorem containerList_ok {filters : Labels} {all : Bool} {cs : List Container}
    (h : containerList filters all w = (.ok cs, w')) :
    cs = w.objects.containers.filter (fun c => (all || c.running) && matchesLabels c.labels filters) ∧
      w'.objects = w.objects :=
  call_ok h

/-! ## Frames -/

def Objects.Frame (cs : List Container) (vs : List Volume) (n : Nat) (o : Objects) : Prop :=
  o.containers = cs ∧ o.volumes = vs ∧ o.nextId = n

section NewPod

variable (P : Package) (d : DockerDriver)

theorem fetchImage_frame (image : String) (alwaysFetch : Bool) (rc : Option DockerConfig)
    (cs : List Container) (vs : List Volume) (n : Nat) :
    Preserves (fun w => Objects.Frame cs vs n w.objects) (fetchImage P image alwaysFetch rc) := by
  unfold fetchImage
  refine Preserves.bind (Preserves.fromExcept _) fun _ => ?_
  refine Preserves.bind (Preserves.fromExcept _) fun _ => ?_
  refine Preserves.bind (call_preserves _ _ fun _ h => h) fun _ => ?_
  exact Preserves.ite (Preserves.bind (call_preserves _ _ fun _ h => h) fun _ => ioStep_preserves _)
    (Preserves.pure _)

theorem fetchImage_objects (image : String) (alwaysFetch : Bool) (rc : Option DockerConfig)
    (w : World) : Objects.Frame w.objects.containers w.objects.volumes w.objects.nextId
      (fetchImage P image alwaysFetch rc w).2.objects :=
  fetchImage_frame P image alwaysFetch rc _ _ _ w ⟨rfl, rfl, rfl⟩

theorem createToolboxVolume_ok {podID : String} {v : Volume}
    (h : createToolboxVolume P d podID w = (.ok v, w')) :
    v = ⟨toString w.objects.nextId, volumeLabels P d podID P.toolboxVolumeName⟩ ∧
      w'.objects.volumes = w.objects.volumes ++ [v] ∧
      w.objects.nextId ≤ w'.objects.nextId ∧
      ∃ H, w'.objects.containers = w.objects.containers ++ H ∧
        ∀ c ∈ H, c.labels = [] ∧ w.objects.nextId ≤ c.id := by
  unfold createToolboxVolume at h
  obtain ⟨_, w1, h1, h⟩ := bind_eq_ok.mp h
  obtain ⟨hc1, hv1, hn1⟩ := fetchImage_objects P _ _ _ w
  rw [h1] at hc1 hv1 hn1
  dsimp only at hc1 hv1 hn1
  obtain ⟨tv, w2, h2, h⟩ := bind_eq_ok.mp h
  obtain ⟨rfl, ho2⟩ := volumeCreate_ok h2
  obtain ⟨id, w3, h3, h⟩ := bind_eq_ok.mp h
  obtain ⟨rfl, ho3⟩ := containerCreate_ok h3
  obtain ⟨_, w4, h4, h⟩ := bind_eq_ok.mp h
  have ho4 := containerStart_ok h4
  obtain ⟨_, w5, h5, h⟩ := bind_eq_ok.mp h
  obtain ⟨-, rfl⟩ := Prod.mk.inj_iff.mp h5
  obtain ⟨_, w6, h6, h⟩ := bind_eq_ok.mp h
  have ho6 := ioStep_ok h6
  obtain ⟨_, w7, h7, h⟩ := bind_eq_ok.mp h
  have ho7 := ioStep_ok h7
  obtain ⟨_, w8, h8, h⟩ := bind_eq_ok.mp h
  have ho8 := (call_ok h8).2
  obtain ⟨_, w9, h9, h⟩ := bind_eq_ok.mp h
  simp only [pure_apply, Prod.mk.injEq, Except.ok.injEq] at h
  obtain ⟨rfl, rfl⟩ := h
  have hn2 : w2.objects.nextId = w.objects.nextId + 1 := by simp [ho2, hn1]
  have hw8 : w8.objects = w4.objects := by rw [ho8, ho7, ho6]
  set helper : Container := ⟨w2.objects.nextId, helperRequest d ⟨toString w1.objects.nextId,
    volumeLabels P d podID P.toolboxVolumeName⟩, true⟩
  have hc4 : w4.objects.containers = w.objects.containers ++ [helper] := by
    rw [ho4, ho3, Objects.createContainer_setRunning]; simp [ho2, hc1, helper]
  have hv4 : w4.objects.volumes = w.objects.volumes ++
      [⟨toString w1.objects.nextId, volumeLabels P d podID P.toolboxVolumeName⟩] := by
    simp [ho4, ho3, ho2, hv1]
  have hn4 : w4.objects.nextId = w.objects.nextId + 2 := by simp [ho4, ho3, hn2]
  rcases call_cases (.containerRemove w2.objects.nextId true)
    (fun o => ((), o.removeContainer w2.objects.nextId)) w8 with ⟨-, he⟩ | ⟨-, he⟩ <;>
    simp only [ignoreError, containerRemove, he, hw8, Prod.mk.injEq] at h9 <;> obtain ⟨-, rfl⟩ := h9
  · dsimp only
    refine ⟨by rw [hn1], hv4, by omega, [helper], hc4, ?_⟩
    simp only [List.mem_singleton, forall_eq]
    exact ⟨rfl, by omega⟩
  · dsimp only
    refine ⟨by rw [hn1], by simpa using hv4, by simp; omega, [], ?_, by simp⟩
    simp only [Objects.removeContainer_containers, hc4, List.filter_append, List.append_nil]
    rw [List.filter_eq_self.mpr fun c hc => by simpa using Nat.ne_of_lt (by
      have := w.objects.fresh c hc; omega)]
    simp [helper]

theorem createProjectVolume_ok {podID : String} {v : Volume}
    (h : createProjectVolume P d podID w = (.ok v, w')) :
    v = ⟨toString w.objects.nextId, volumeLabels P d podID P.projectVolumeName⟩ ∧
      w'.objects = (w.objects.createVolume (volumeLabels P d podID P.projectVolumeName)).2 :=
  volumeCreate_ok h

theorem createContainer_ok {index : Nat} {podConfig : PodConfig} {cc : ContainerConfig}
    {mainID : String} {tv pv : Volume} {id : Nat}
    (h : createContainer P d index podConfig cc mainID tv pv w = (.ok id, w')) :
    ∃ req o, containerRequest P d podConfig index cc mainID tv pv = .ok req ∧
      Objects.Frame w.objects.containers w.objects.volumes w.objects.nextId o ∧
      id = o.nextId ∧ w'.objects = (o.createContainer req).2 := by
  unfold createContainer at h
  obtain ⟨_, w1, h1, h⟩ := bind_eq_ok.mp h
  have hf := fetchImage_objects P cc.image true podConfig.dockerConfig w
  rw [h1] at hf
  obtain ⟨req, w2, h2, h⟩ := bind_eq_ok.mp h
  simp only [fromExcept_apply, Prod.mk.injEq] at h2
  obtain ⟨hreq, rfl⟩ := h2
  exact ⟨req, w1.objects, hreq, hf, containerCreate_ok h⟩

/-- The containers the creation loop appends when every step succeeds: the
request of each config, the next ID, started. -/
def plannedContainers (podConfig : PodConfig) (tv pv : Volume) :
    Nat → String → Nat → List ContainerConfig → Except DriverError (List Container)
  | _, _, _, [] => .ok []
  | cindex, mainID, n, cc :: rest => do
    let req ← containerRequest P d podConfig cindex cc mainID tv pv
    let tail ← plannedContainers podConfig tv pv (cindex + 1)
      (if cindex = 0 then toString n else mainID) (n + 1) rest
    pure (⟨n, req, true⟩ :: tail)

theorem createContainers_ok {podConfig : PodConfig} {tv pv : Volume} :
    ∀ (ccs : List ContainerConfig) (cindex : Nat) (mainID : String) (w w' : World),
      createContainers P d podConfig tv pv cindex mainID ccs w = (.ok (), w') →
      ∃ created, plannedContainers P d podConfig tv pv cindex mainID w.objects.nextId ccs =
          .ok created ∧
        w'.objects.containers = w.objects.containers ++ created ∧
        w'.objects.volumes = w.objects.volumes ∧
        w'.objects.nextId = w.objects.nextId + ccs.length
  | [], _, _, w, w', h => by
    simp only [createContainers, pure_apply, Prod.mk.injEq] at h
    obtain ⟨-, rfl⟩ := h
    exact ⟨[], rfl, by simp, rfl, rfl⟩
  | cc :: rest, cindex, mainID, w, w', h => by
    simp only [createContainers] at h
    obtain ⟨id, w1, h1, h⟩ := bind_eq_ok.mp h
    obtain ⟨req, o, hreq, ⟨hc, hv, hn⟩, rfl, ho1⟩ := createContainer_ok P d h1
    obtain ⟨_, w2, h2, h⟩ := bind_eq_ok.mp h
    have ho2 := containerStart_ok h2
    have hc2 : w2.objects.containers = w.objects.containers ++ [⟨o.nextId, req, true⟩] := by
      rw [ho2, ho1, Objects.createContainer_setRunning, hc]
    have hv2 : w2.objects.volumes = w.objects.volumes := by simp [ho2, ho1, hv]
    have hn2 : w2.objects.nextId = w.objects.nextId + 1 := by simp [ho2, ho1, hn]
    obtain ⟨tail, htail, hc', hv', hn'⟩ := createContainers_ok rest _ _ w2 w' h
    refine ⟨⟨o.nextId, req, true⟩ :: tail, ?_, by simp [hc', hc2], by rw [hv', hv2], ?_⟩
    · rw [hn2, hn] at htail
      simp [plannedContainers, hreq, htail, hn, bind, Except.bind, pure, Except.pure]
    · rw [hn', hn2]; simp; omega

/-- What the creation loop plans for config `icc.2` at index `icc.1`, counting
from index `cindex` and ID `n`: a started container whose ID advances with the
index, created from the config's request. -/
def Planned (podConfig : PodConfig) (tv pv : Volume) (n cindex : Nat) (c : Container)
    (icc : Nat × ContainerConfig) : Prop :=
  c.running = true ∧ c.id + cindex = n + icc.1 ∧
    ∃ mainID, containerRequest P d podConfig icc.1 icc.2 mainID tv pv = .ok c.req

theorem plannedContainers_forall₂ {podConfig : PodConfig} {tv pv : Volume} :
    ∀ (ccs : List ContainerConfig) (cindex : Nat) (mainID : String) (n : Nat)
      (created : List Container),
      plannedContainers P d podConfig tv pv cindex mainID n ccs = .ok created →
      List.Forall₂ (Planned P d podConfig tv pv n cindex) created (ccs.enumFrom cindex)
  | [], _, _, _, created, h => by
    simp only [plannedContainers, Except.ok.injEq] at h
    simp [← h]
  | cc :: rest, cindex, mainID, n, created, h => by
    simp only [plannedContainers, bind, Except.bind, pure, Except.pure] at h
    cases hreq : containerRequest P d podConfig cindex cc mainID tv pv with
    | error e => simp [hreq] at h
    | ok req =>
      cases htail : plannedContainers P d podConfig tv pv (cindex + 1)
          (if cindex = 0 then toString n else mainID) (n + 1) rest with
      | error e => simp [hreq, htail] at h
      | ok tail =>
        simp only [hreq, htail, Except.ok.injEq] at h
        subst h
        refine .cons ⟨rfl, rfl, mainID, hreq⟩ ?_
        refine (plannedContainers_forall₂ rest _ _ _ _ htail).imp fun c icc hp => ?_
        exact ⟨hp.1, by have := hp.2.1; omega, hp.2.2⟩

/-! ## The labels `NewPod` writes and lists by -/

variable {podConfig : PodConfig}

@[simp] theorem containerLabels_lookup (index : Nat) (name : String) (k : LabelKey) :
    (containerLabels P d podConfig index name).lookup (P.labelKey k) = match k with
      | .agola => some P.agolaLabelValue
      | .executorID => some d.executorID
      | .podID => some podConfig.id
      | .taskID => some podConfig.taskID
      | .containerIndex => some (itoa index)
      | .containerName => some name
      | .volumeName => none := by
  cases k <;> simp [containerLabels]

theorem matchesLabels_searchLabels (labels : Labels) :
    matchesLabels labels (searchLabels P d podConfig) = true ↔
      labels.lookup P.agolaLabelKey = some P.agolaLabelValue ∧
      labels.lookup P.executorIDKey = some d.executorID ∧
      labels.lookup P.podIDKey = some podConfig.id ∧
      labels.lookup P.taskIDKey = some podConfig.taskID := by
  simp [searchLabels, matchesLabels, GoMap.set, GoMap.erase]
  tauto

theorem containerRequest_labels {index : Nat} {cc : ContainerConfig} {mainID : String}
    {tv pv : Volume} {req : CreateRequest}
    (h : containerRequest P d podConfig index cc mainID tv pv = .ok req) :
    req.labels = containerLabels P d podConfig index (containerName P index cc) := by
  unfold containerRequest at h
  cases ht : tmpfsMounts cc.volumes <;>
    simp [ht, bind, Except.bind, pure, Except.pure] at h
  rw [← h]

/-! ## Discovery -/

/-- The index `NewPod` reads from a listed container: its index label, parsed. -/
def parsedIndex (c : Container) : Option Int := (c.labels.lookup P.containerIndexKey).bind atoi

/-- The member a listed container becomes, when its index parses. -/
def discovered (c : Container) : Option DockerContainer :=
  (parsedIndex P c).map fun i => ⟨i, c.sortMounts⟩

theorem discoverContainer_eq (acc : Discovery) (c : Container) :
    discoverContainer P acc c = match discovered P c with
      | none => .ok acc
      | some dc => if dc.index ∈ acc.seenIndexes then
          .error (.errorf ("duplicate container with index " ++ toString dc.index))
        else .ok ⟨acc.pod.addContainer dc (c.labels.lookup P.containerNameKey),
          dc.index :: acc.seenIndexes, acc.count + 1⟩ := by
  unfold discoverContainer discovered parsedIndex
  cases c.labels.lookup P.containerIndexKey with
  | none => rfl
  | some s => cases h : atoi s <;> simp [h]

theorem discoverContainers_ok {acc acc' : Discovery} {cs : List Container}
    (h : discoverContainers P acc cs = .ok acc') :
    acc'.pod.containers = acc.pod.containers ++ cs.filterMap (discovered P) ∧
      acc'.count = acc.count + (cs.filterMap (discovered P)).length ∧
      ((cs.filterMap (discovered P)).map (·.index)).Nodup ∧
      (∀ dc ∈ cs.filterMap (discovered P), dc.index ∉ acc.seenIndexes) ∧
      ∃ m, acc'.pod = { acc.pod with
        containers := acc.pod.containers ++ cs.filterMap (discovered P), containersMap := m } := by
  induction cs generalizing acc with
  | nil =>
    simp only [discoverContainers, Except.ok.injEq] at h
    subst h
    exact ⟨by simp, by simp, by simp, by simp, acc.pod.containersMap, by simp⟩
  | cons c cs ih =>
    simp only [discoverContainers, discoverContainer_eq] at h
    cases hd : discovered P c with
    | none =>
      simp only [hd, Except.bind] at h
      simpa [List.filterMap_cons, hd] using ih h
    | some dc =>
      by_cases hnew : dc.index ∈ acc.seenIndexes
      · simp [hd, hnew, Except.bind] at h
      · simp only [hd, hnew, if_false, Except.bind] at h
        obtain ⟨h1, h2, h3, h4, m, h5⟩ := ih h
        simp only [DockerPod.addContainer] at h1 h2 h3 h4 h5
        refine ⟨by simp [h1, List.filterMap_cons, hd], by simp [h2, List.filterMap_cons, hd]; omega,
          ?_, ?_, m, by simp [h5, List.filterMap_cons, hd]⟩
        · simp only [List.filterMap_cons, hd, List.map_cons, List.nodup_cons]
          refine ⟨fun hm => ?_, h3⟩
          obtain ⟨dc', hdc', hi⟩ := List.mem_map.mp hm
          exact h4 dc' hdc' (by simp [hi])
        · simp only [List.filterMap_cons, hd, List.mem_cons]
          rintro dc' (rfl | hdc')
          · exact hnew
          · exact fun hs => h4 dc' hdc' (List.mem_cons_of_mem _ hs)

/-! ## A successful `NewPod` -/

/-- What a successful `NewPod` did, step by step. -/
theorem newPod_ok {pod : DockerPod} (h : newPod P d podConfig w = (.ok pod, w')) :
    ∃ tv pv w1 w2 w3 cs acc main,
      createToolboxVolume P d podConfig.id w = (.ok tv, w1) ∧
      createProjectVolume P d podConfig.id w1 = (.ok pv, w2) ∧
      createContainers P d podConfig tv pv 0 "" podConfig.containers w2 = (.ok (), w3) ∧
      containerList (searchLabels P d podConfig) false w3 = (.ok cs, w') ∧
      discoverContainers P ⟨podShell d podConfig tv pv, [], 0⟩ cs = .ok acc ∧
      acc.count = cs.length ∧ (sortByIndex acc.pod.containers).head? = some main ∧
      pod = { acc.pod with
        containers := sortByIndex acc.pod.containers
        containersMap := acc.pod.containersMap.set "" main } := by
  unfold newPod at h
  by_cases hlen : podConfig.containers = []
  · simp [hlen] at h
  simp only [hlen, List.length_eq_zero, if_false, pure_bind] at h
  obtain ⟨tv, w1, h1, h⟩ := bind_eq_ok.mp h
  obtain ⟨pv, w2, h2, h⟩ := bind_eq_ok.mp h
  obtain ⟨_, w3, h3, h⟩ := bind_eq_ok.mp h
  obtain ⟨cs, w4, h4, h⟩ := bind_eq_ok.mp h
  by_cases hcs : cs = []
  · simp [hcs] at h
  simp only [hcs, if_false, pure_bind] at h
  obtain ⟨acc, w5, h5, h⟩ := bind_eq_ok.mp h
  simp only [fromExcept_apply, Prod.mk.injEq] at h5
  obtain ⟨hacc, rfl⟩ := h5
  by_cases hcount : acc.count = cs.length
  · simp only [hcount, ne_eq, not_true_eq_false, if_false, pure_bind] at h
    cases hs : sortByIndex acc.pod.containers with
    | nil => simp [hs] at h
    | cons main rest =>
      simp only [hs, pure_apply, Prod.mk.injEq, Except.ok.injEq] at h
      obtain ⟨rfl, rfl⟩ := h
      exact ⟨tv, pv, w1, w2, w3, cs, acc, main, h1, h2, h3, h4, hacc, hcount, by rw [hs]; rfl, by rw [hs]⟩
  · simp [hcount] at h

theorem sortByIndex_lt {l : List DockerContainer} (h : (l.map (·.index)).Nodup) :
    ((sortByIndex l).map (·.index)).Sorted (· < ·) := by
  have hs : ((sortByIndex l).map (·.index)).Sorted (· ≤ ·) :=
    List.pairwise_map.mpr (sortByIndex_sorted l)
  exact hs.lt_of_le (((sortByIndex_perm l).map _).nodup_iff.mpr h)

end NewPod

end Agola.Driver
