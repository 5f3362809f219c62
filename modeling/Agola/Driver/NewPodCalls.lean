import Agola.Driver.NewPodFailure

/-!
# What `NewPod` sends to the engine

The requests of `NewPod`, read off the call log: the environment of a
container as `K=V` entries, the credentials sent with each image pull, and the
`ContainerCreate` request of each container config, which is only issued after
that config's image was pulled in the same call.
-/

namespace Agola.Driver

open DriverM

/-! ## The environment of a container -/

/-- How the container runtime reads one `K=V` entry: the key is the text before
the first `=`, the value all that follows it. -/
def splitEnv (entry : String) : String × String :=
  (String.mk (entry.toList.takeWhile (· ≠ '=')),
    String.mk ((entry.toList.dropWhile (· ≠ '=')).drop 1))

theorem splitEnv_entry {k v : String} (hk : '=' ∉ k.toList) : splitEnv (k ++ "=" ++ v) = (k, v) := by
  have hne : ∀ c ∈ k.data, (fun c => decide (c ≠ '=')) c = true := fun c hc =>
    decide_eq_true fun he => hk (he ▸ hc)
  have hdata : (k ++ "=" ++ v).data = k.data ++ '=' :: v.data := by simp
  simp only [splitEnv, String.toList, hdata, List.takeWhile_append_of_pos hne,
    List.dropWhile_append_of_pos hne]
  simp

/-- Splitting every entry of `makeEnvSlice env` at its first `=` gives back
`env`, entry for entry and in its order, when no key holds `=`. -/
theorem makeEnvSlice_splitEnv (env : GoMap String) (hkeys : ∀ p ∈ env, '=' ∉ p.1.toList) :
    (makeEnvSlice env).map splitEnv = env := by
  induction env with
  | nil => rfl
  | cons p env ih =>
    simp only [makeEnvSlice, List.map_cons] at ih ⊢
    rw [splitEnv_entry (hkeys p (List.mem_cons_self _ _)),
      ih fun q hq => hkeys q (List.mem_cons_of_mem _ hq)]

/-- A `PATH` whose value holds `=` signs comes back unchanged. -/
theorem makeEnvSlice_splitEnv_path :
    (∀ p ∈ [("PATH", "/bin"), ("OPTS", "a=b=c")], '=' ∉ p.1.toList) ∧
      (makeEnvSlice [("PATH", "/bin"), ("OPTS", "a=b=c")]).map splitEnv =
        [("PATH", "/bin"), ("OPTS", "a=b=c")] :=
  ⟨by decide, makeEnvSlice_splitEnv _ (by decide)⟩

/-- A key holding `=` does not come back: `{"a=b": "c"}` and `{"a": "b=c"}`
give the same entry, which splits as the second. -/
theorem makeEnvSlice_key_with_eq :
    makeEnvSlice [("a=b", "c")] = makeEnvSlice [("a", "b=c")] ∧
      (makeEnvSlice [("a=b", "c")]).map splitEnv = [("a", "b=c")] := by
  decide

/-! ## Call logs -/

/-- Every entry of the log segment `seg` satisfies `R`, given the entries before
it in `seg`. -/
def Seg (R : List Issued → Issued → Prop) (seg : List Issued) : Prop :=
  ∀ A e B, seg = A ++ e :: B → R A e

namespace Seg

variable {R R' : List Issued → Issued → Prop} {s s₁ s₂ : List Issued}

theorem nil : Seg R [] := fun A e B h => by simp at h

theorem singleton {e : Issued} (h : R [] e) : Seg R [e] := by
  intro A e' B hs
  rcases A with _ | ⟨a, A⟩
  · obtain ⟨rfl, -⟩ := List.cons.inj hs
    exact h
  · simp at hs

theorem append (h₁ : Seg R s₁) (h₂ : Seg (fun A e => R (s₁ ++ A) e) s₂) : Seg R (s₁ ++ s₂) := by
  intro A e B h
  rcases List.append_eq_append_iff.mp h with ⟨a', rfl, h'⟩ | ⟨c', rfl, h'⟩
  · exact h₂ a' e B h'
  · rcases c' with _ | ⟨x, c'⟩
    · simpa using h₂ [] e B (by simpa using h'.symm)
    · obtain ⟨rfl, rfl⟩ := List.cons.inj h'
      exact h₁ A e c' rfl

theorem mono (h : Seg R s) (hR : ∀ A e, R A e → R' A e) : Seg R' s :=
  fun A e B hs => hR A e (h A e B hs)

end Seg

/-- The log is `L0` followed by a segment whose entries satisfy `R`. -/
def LogFrom (L0 : List Issued) (R : List Issued → Issued → Prop) (w : World) : Prop :=
  ∃ seg, w.log = L0 ++ seg ∧ Seg R seg

/-- A log entry whose image pulls satisfy `pull` and whose container creates
satisfy `create`, given the entries before it. -/
def EntryOK (pull : String → DockerConfigAuth → Prop) (create : List Issued → CreateRequest → Prop)
    (A : List Issued) (e : Issued) : Prop :=
  (∀ image auth, e.call = .imagePull image auth → pull image auth) ∧
    ∀ req, e.call = .containerCreate req → create A req

section LogFrom

variable {L0 : List Issued} {R : List Issued → Issued → Prop}
  {pull : String → DockerConfigAuth → Prop} {create : List Issued → CreateRequest → Prop}

theorem call_ok_log {α : Type} {c : Call} {effect : Objects → α × Objects} {w w' : World} {a : α}
    (h : call c effect w = (.ok a, w')) : w'.log = w.log ++ [⟨c, true⟩] := by
  obtain ⟨b, hb, hok⟩ := call_log c effect w
  rw [h] at hb
  rwa [hok a w' h] at hb

theorem call_logFrom {α : Type} {c : Call} (effect : Objects → α × Objects)
    (h : ∀ A b, R A ⟨c, b⟩) : Preserves (LogFrom L0 R) (call c effect) := by
  rintro w ⟨seg, hlog, hseg⟩
  obtain ⟨b, hb, -⟩ := call_log c effect w
  exact ⟨seg ++ [⟨c, b⟩], by rw [hb, hlog, List.append_assoc], hseg.append (.singleton (h _ b))⟩

theorem call_other_logFrom {α : Type} {c : Call} (effect : Objects → α × Objects)
    (hp : ∀ image auth, c ≠ .imagePull image auth) (hc : ∀ req, c ≠ .containerCreate req) :
    Preserves (LogFrom L0 (EntryOK pull create)) (call c effect) :=
  call_logFrom effect fun _ _ => ⟨fun i a h => absurd h (hp i a), fun r h => absurd h (hc r)⟩

theorem ioStep_logFrom (step : String) : Preserves (LogFrom L0 R) (ioStep step) :=
  fun w ⟨seg, hlog, hseg⟩ => ⟨seg, (ioStep_log step w).trans hlog, hseg⟩

end LogFrom

/-! ## Image pulls -/

/-- The credentials `fetchImage` sends for an image of registry `regName`: the
registry's entry in the config, or empty credentials when there is none. -/
def registryAuthFor (registryConfig : Option DockerConfig) (regName : String) : DockerConfigAuth :=
  match registryConfig with
  | some rc => (rc.auths.lookup regName).getD {}
  | none => {}

section Pulls

variable (P : Package) (d : DockerDriver) (podConfig : PodConfig)

/-- A pull of `image` sends the credentials of the image's own registry, taken
from `rc`. -/
def PullAuth (rc : Option DockerConfig) (image : String) (auth : DockerConfigAuth) : Prop :=
  ∃ reg, P.getRegistry image = .ok reg ∧ auth = registryAuthFor rc reg

variable {P} {L0 : List Issued} {pull : String → DockerConfigAuth → Prop}
  {create : List Issued → CreateRequest → Prop}

theorem getRegistry_of_mapError {image reg : String} {f : String → DriverError}
    (h : (P.getRegistry image).mapError f = .ok reg) : P.getRegistry image = .ok reg := by
  cases hr : P.getRegistry image <;> simp_all [Except.mapError]

theorem fetchImage_logFrom (image : String) (alwaysFetch : Bool) (rc : Option DockerConfig)
    (hpull : ∀ auth, PullAuth P rc image auth → pull image auth) :
    Preserves (LogFrom L0 (EntryOK pull create)) (fetchImage P image alwaysFetch rc) := by
  unfold fetchImage
  refine Preserves.bind_fromExcept fun reg hreg => ?_
  refine (Preserves.fromExcept _).bind fun _ => ?_
  refine (call_other_logFrom (c := .imageList image) _ (fun _ _ => nofun) fun _ => nofun).bind
    fun _ => ?_
  refine Preserves.ite ((call_logFrom _ fun _ _ => ⟨fun _ _ h => ?_, fun _ h => nomatch h⟩).bind
    fun _ => ioStep_logFrom _) (Preserves.pure _)
  obtain ⟨rfl, rfl⟩ := Call.imagePull.inj h
  exact hpull _ ⟨reg, getRegistry_of_mapError hreg, rfl⟩

theorem fetchImage_pulled {image : String} {rc : Option DockerConfig} {w w' : World}
    (h : fetchImage P image true rc w = (.ok (), w')) :
    ∃ auth, w'.log = w.log ++ [⟨.imageList image, true⟩, ⟨.imagePull image auth, true⟩] := by
  unfold fetchImage at h
  obtain ⟨_, w1, h1, hr⟩ := bind_eq_ok.mp h
  obtain ⟨_, w2, h2, hr⟩ := bind_eq_ok.mp hr
  obtain ⟨_, w3, h3, hr⟩ := bind_eq_ok.mp hr
  simp only [Bool.true_or, if_true] at hr
  obtain ⟨_, w4, h4, h5⟩ := bind_eq_ok.mp hr
  obtain ⟨-, rfl⟩ := Prod.mk.inj h1
  obtain ⟨-, rfl⟩ := Prod.mk.inj h2
  have h6 := ioStep_log "copy the pull progress" w4
  rw [h5] at h6
  exact ⟨_, by rw [h6, call_ok_log h4, call_ok_log h3, List.append_assoc]; rfl⟩

end Pulls

/-! ## What `NewPod` may log -/

section Steps

variable {P : Package} {d : DockerDriver} {podConfig : PodConfig} {L0 : List Issued}
  {pull : String → DockerConfigAuth → Prop} {create : List Issued → CreateRequest → Prop}

theorem createToolboxVolume_logFrom (podID : String)
    (hpull : ∀ auth, PullAuth P d.initDockerConfig d.initImage auth → pull d.initImage auth)
    (hcreate : ∀ A v, create A (helperRequest d v)) :
    Preserves (LogFrom L0 (EntryOK pull create)) (createToolboxVolume P d podID) := by
  unfold createToolboxVolume
  refine (fetchImage_logFrom _ _ _ hpull).bind fun _ => ?_
  refine (call_other_logFrom (c := .volumeCreate (volumeLabels P d podID P.toolboxVolumeName)) _
    (fun _ _ => nofun) fun _ => nofun).bind fun tv => ?_
  have hhelper : ∀ A b, EntryOK pull create A ⟨.containerCreate (helperRequest d tv), b⟩ :=
    fun A _ => ⟨fun _ _ h => (nomatch h), fun _ h => Call.containerCreate.inj h ▸ hcreate A tv⟩
  refine (call_logFrom _ hhelper).bind fun id => ?_
  refine (call_other_logFrom (c := .containerStart id) _ (fun _ _ => nofun) fun _ => nofun).bind
    fun _ => ?_
  refine (Preserves.fromExcept _).bind fun _ => ?_
  refine (ioStep_logFrom _).bind fun _ => (ioStep_logFrom _).bind fun _ => ?_
  refine (call_other_logFrom (c := .copyToContainer id "/tmp/agola") _ (fun _ _ => nofun) fun _ => nofun).bind
    fun _ => ?_
  exact (ignoreError_preserves (call_other_logFrom (c := .containerRemove id true) _
    (fun _ _ => nofun) fun _ => nofun)).bind fun _ => Preserves.pure _

theorem createContainer_logFrom {index : Nat} {cc : ContainerConfig} (mainID : String)
    {tv pv : Volume}
    (hpull : ∀ auth, PullAuth P podConfig.dockerConfig cc.image auth → pull cc.image auth)
    (hcreate : ∀ A req, containerRequest P d podConfig index cc mainID tv pv = .ok req →
      (∃ auth, ⟨.imagePull cc.image auth, true⟩ ∈ A) → create A req) :
    Preserves (LogFrom L0 (EntryOK pull create))
      (createContainer P d index podConfig cc mainID tv pv) := by
  intro w hw
  have hf : LogFrom L0 (EntryOK pull create) (fetchImage P cc.image true podConfig.dockerConfig w).2 :=
    fetchImage_logFrom cc.image true podConfig.dockerConfig hpull w hw
  unfold createContainer
  refine bind_world (fun _ _ hfw => by rwa [hfw] at hf) fun _ w1 hfw => ?_
  rw [hfw] at hf
  cases hreq : containerRequest P d podConfig index cc mainID tv pv with
  | error e => exact hf
  | ok req =>
    show LogFrom L0 _ (call (.containerCreate req) (fun o => o.createContainer req) w1).2
    obtain ⟨auth, hlog⟩ := fetchImage_pulled hfw
    obtain ⟨seg0, hseg0, -⟩ := hw
    obtain ⟨seg1, hseg1, hS1⟩ := hf
    obtain ⟨b, hb, -⟩ := call_log (.containerCreate req) (fun o => o.createContainer req) w1
    refine ⟨seg1 ++ [⟨.containerCreate req, b⟩], by rw [hb, hseg1, List.append_assoc],
      hS1.append (.singleton ⟨fun _ _ h => (nomatch h), fun r h => ?_⟩)⟩
    obtain rfl := Call.containerCreate.inj h
    have hseg : seg1 = seg0 ++ [⟨.imageList cc.image, true⟩, ⟨.imagePull cc.image auth, true⟩] := by
      rw [hseg0, List.append_assoc, hseg1] at hlog
      exact List.append_cancel_left hlog
    exact hcreate _ _ hreq ⟨auth, by simp [hseg]⟩

theorem createContainers_logFrom {tv pv : Volume} {mainID : String}
    (hpull : ∀ cc ∈ podConfig.containers, ∀ auth,
      PullAuth P podConfig.dockerConfig cc.image auth → pull cc.image auth)
    (hcreate : ∀ i cc A req, podConfig.containers[i]? = some cc → 0 < i →
      containerRequest P d podConfig i cc mainID tv pv = .ok req →
      (∃ auth, ⟨.imagePull cc.image auth, true⟩ ∈ A) → create A req) :
    ∀ (ccs : List ContainerConfig) (cindex : Nat), 0 < cindex →
      (∀ j cc, ccs[j]? = some cc → podConfig.containers[cindex + j]? = some cc) →
      Preserves (LogFrom L0 (EntryOK pull create))
        (createContainers P d podConfig tv pv cindex mainID ccs)
  | [], _, _, _ => Preserves.pure _
  | cc :: rest, cindex, hpos, hccs => by
    have hcc : podConfig.containers[cindex]? = some cc := by simpa using hccs 0 cc (by simp)
    simp only [createContainers, Nat.pos_iff_ne_zero.mp hpos, if_false]
    refine (createContainer_logFrom mainID (hpull cc (List.getElem?_mem hcc))
      fun A req => hcreate cindex cc A req hcc hpos).bind fun id => ?_
    refine (call_other_logFrom (c := .containerStart id) _ (fun _ _ => nofun) fun _ => nofun).bind
      fun _ => ?_
    exact createContainers_logFrom hpull hcreate rest (cindex + 1) (Nat.succ_pos _) fun j c hj => by
      simpa [Nat.add_right_comm cindex 1 j, Nat.add_assoc] using hccs (j + 1) c (by simpa using hj)

end Steps

/-! ## What the steps after the toolbox keep -/

/-- `o'` still holds every container of `o`, with its ID and request, and every
volume of `o`. -/
def Objects.Keeps (o o' : Objects) : Prop :=
  (∀ c ∈ o.containers, ∃ c' ∈ o'.containers, c'.id = c.id ∧ c'.req = c.req) ∧
    ∀ v ∈ o.volumes, v ∈ o'.volumes

namespace Objects

theorem Keeps.refl (o : Objects) : o.Keeps o :=
  ⟨fun c hc => ⟨c, hc, rfl, rfl⟩, fun _ hv => hv⟩

theorem Keeps.trans {o₁ o₂ o₃ : Objects} (h₁ : o₁.Keeps o₂) (h₂ : o₂.Keeps o₃) : o₁.Keeps o₃ := by
  refine ⟨fun c hc => ?_, fun v hv => h₂.2 v (h₁.2 v hv)⟩
  obtain ⟨c', hc', hid, hreq⟩ := h₁.1 c hc
  obtain ⟨c'', hc'', hid', hreq'⟩ := h₂.1 c' hc'
  exact ⟨c'', hc'', hid'.trans hid, hreq'.trans hreq⟩

theorem keeps_createContainer (o : Objects) (req : CreateRequest) :
    o.Keeps (o.createContainer req).2 :=
  ⟨fun c hc => ⟨c, by simp [hc], rfl, rfl⟩, fun _ hv => hv⟩

theorem keeps_setRunning (o : Objects) (id : Nat) (b : Bool) : o.Keeps (o.setRunning id b) :=
  ⟨fun c hc => ⟨_, List.mem_map_of_mem _ hc, by split <;> rfl, by split <;> rfl⟩, fun _ hv => hv⟩

theorem keeps_createVolume (o : Objects) (labels : Labels) : o.Keeps (o.createVolume labels).2 :=
  ⟨fun c hc => ⟨c, hc, rfl, rfl⟩, fun _ hv => by simp [hv]⟩

end Objects

section Keeps

variable {P : Package} {d : DockerDriver} {podConfig : PodConfig} {o : Objects}

theorem call_keeps {α : Type} (c : Call) (effect : Objects → α × Objects)
    (h : ∀ o' : Objects, o'.Keeps (effect o').2) :
    Preserves (fun w => o.Keeps w.objects) (call c effect) :=
  call_preserves c effect fun o' ho' => ho'.trans (h o')

theorem fetchImage_keeps (image : String) (alwaysFetch : Bool) (rc : Option DockerConfig) :
    Preserves (fun w => o.Keeps w.objects) (fetchImage P image alwaysFetch rc) := fun w hw => by
  obtain ⟨hc, hv, -⟩ := fetchImage_objects P image alwaysFetch rc w
  exact hw.trans ⟨fun c h => ⟨c, hc ▸ h, rfl, rfl⟩, fun v h => hv ▸ h⟩

theorem createContainer_keeps (index : Nat) (cc : ContainerConfig) (mainID : String)
    (tv pv : Volume) :
    Preserves (fun w => o.Keeps w.objects) (createContainer P d index podConfig cc mainID tv pv) :=
  (fetchImage_keeps _ _ _).bind fun _ => (Preserves.fromExcept _).bind fun req =>
    call_keeps _ _ fun o' => Objects.keeps_createContainer o' req

theorem createContainers_keeps (tv pv : Volume) :
    ∀ (ccs : List ContainerConfig) (cindex : Nat) (mainID : String),
      Preserves (fun w => o.Keeps w.objects) (createContainers P d podConfig tv pv cindex mainID ccs)
  | [], _, _ => Preserves.pure _
  | _ :: rest, _, _ => by
    simp only [createContainers]
    exact (createContainer_keeps _ _ _ _ _).bind fun _ =>
      (call_keeps _ _ fun o' => Objects.keeps_setRunning o' _ _).bind fun _ =>
        createContainers_keeps tv pv rest _ _

theorem containerList_keeps (filters : Labels) (all : Bool) :
    Preserves (fun w => o.Keeps w.objects) (containerList filters all) :=
  call_keeps _ _ fun o' => .refl o'

end Keeps

/-! ## The requests of a run -/

section Spec

variable (P : Package) (d : DockerDriver) (podConfig : PodConfig)

def tmpfsMount (vol : VolumeConfig) : Mount :=
  { type := .tmpfs, target := vol.path, tmpfsSizeBytes := vol.tmpFS.map (·.size) }

/-- The pod volume `name` of a run of `NewPod` from `w` to `w'`: named by an ID
the engine handed out during the run, labelled for the pod, and still there at
the end. -/
def PodVolume (w w' : World) (name : String) (v : Volume) : Prop :=
  (∃ n, w.objects.nextId ≤ n ∧ v = ⟨toString n, volumeLabels P d podConfig.id name⟩) ∧
    v ∈ w'.objects.volumes

/-- The container a run of `NewPod` from `w` to `w'` created for container 0:
its ID was handed out during the run, it carries container 0's labels, and it
is still there at the end. -/
def MainContainer (w w' : World) (c0 : Container) : Prop :=
  c0 ∈ w'.objects.containers ∧ w.objects.nextId ≤ c0.id ∧
    ∃ cc0, podConfig.containers[0]? = some cc0 ∧
      c0.req.labels = containerLabels P d podConfig 0 (containerName P 0 cc0)

/-- The `ContainerCreate` request `req` for container `i`, of config `cc`, in a
run of `NewPod` from `w` to `w'`. -/
structure CreateFor (w w' : World) (i : Nat) (cc : ContainerConfig) (req : CreateRequest) :
    Prop where
  /-- Container `i`'s labels: agola, the executor, the pod, the task, the index
  `i` in decimal and the resolved name (`containerLabels_lookup`). -/
  labels : req.labels = containerLabels P d podConfig i (containerName P i cc)
  /-- Container 0 keeps its own network; every later one joins the network of
  the container this run created for container 0. -/
  networkMode : (i = 0 ∧ req.networkMode = "") ∨
    (0 < i ∧ ∃ c0, MainContainer P d podConfig w w' c0 ∧
      req.networkMode = "container:" ++ toString c0.id)
  /-- Every declared volume is a tmpfs. -/
  tmpfs : ∀ vol ∈ cc.volumes, vol.tmpFS.isSome
  /-- The run's toolbox volume, read-only at the init volume dir, and its
  project volume at the project dir, for a named container; then one tmpfs per
  declared volume, in order. -/
  mounts : ∃ tv pv, PodVolume P d podConfig w w' P.toolboxVolumeName tv ∧
    PodVolume P d podConfig w w' P.projectVolumeName pv ∧
    req.mounts = (if containerName P i cc ≠ "" then
      [{ type := .volume, source := tv.name, target := podConfig.initVolumeDir, readOnly := true },
       { type := .volume, source := pv.name, target := P.defaultProjectDir }] else []) ++
      cc.volumes.map tmpfsMount

/-- The pulls a run of `NewPod` may issue: the init image with the driver's
credentials, or the image of a container config with the pod's. -/
def PodPull (image : String) (auth : DockerConfigAuth) : Prop :=
  (image = d.initImage ∧ PullAuth P d.initDockerConfig image auth) ∨
    ∃ cc ∈ podConfig.containers, image = cc.image ∧ PullAuth P podConfig.dockerConfig image auth

/-- The creates a run of `NewPod` from `w` to `w'` may issue, after the entries
`A` of the run: the toolbox helper, or the request for container `i`, after an
accepted pull of its image. -/
def PodCreate (w w' : World) (A : List Issued) (req : CreateRequest) : Prop :=
  (∃ v, req = helperRequest d v) ∨ ∃ i cc, podConfig.containers[i]? = some cc ∧
    CreateFor P d podConfig w w' i cc req ∧ ∃ auth, ⟨.imagePull cc.image auth, true⟩ ∈ A

variable {P d podConfig}

theorem tmpfsMounts_eq_ok : ∀ {vols : List VolumeConfig} {ms : List Mount},
    tmpfsMounts vols = .ok ms → (∀ vol ∈ vols, vol.tmpFS.isSome) ∧ ms = vols.map tmpfsMount
  | [], ms, h => by
    simp only [tmpfsMounts, Except.ok.injEq] at h
    simp [← h]
  | vol :: vols, ms, h => by
    simp only [tmpfsMounts] at h
    cases ht : vol.tmpFS with
    | none => simp [ht] at h
    | some t =>
      cases hr : tmpfsMounts vols with
      | error e => simp [ht, hr, Except.map] at h
      | ok ms' =>
        simp only [ht, hr, Except.map, Except.ok.injEq] at h
        obtain ⟨hsome, rfl⟩ := tmpfsMounts_eq_ok hr
        subst h
        refine ⟨fun v hv => ?_, by simp [tmpfsMount, ht]⟩
        rcases List.mem_cons.mp hv with rfl | hv
        · simp [ht]
        · exact hsome v hv

theorem containerRequest_ok {index : Nat} {cc : ContainerConfig} {mainID : String}
    {tv pv : Volume} {req : CreateRequest}
    (h : containerRequest P d podConfig index cc mainID tv pv = .ok req) :
    (∀ vol ∈ cc.volumes, vol.tmpFS.isSome) ∧
      req.networkMode = (if index ≠ 0 then "container:" ++ mainID else "") ∧
      req.mounts = (if containerName P index cc ≠ "" then
        [{ type := .volume, source := tv.name, target := podConfig.initVolumeDir, readOnly := true },
         { type := .volume, source := pv.name, target := P.defaultProjectDir }] else []) ++
        cc.volumes.map tmpfsMount := by
  unfold containerRequest at h
  cases ht : tmpfsMounts cc.volumes with
  | error e => simp [ht, bind, Except.bind] at h
  | ok ms =>
    simp only [ht, bind, Except.bind, pure, Except.pure, Except.ok.injEq] at h
    obtain ⟨hsome, rfl⟩ := tmpfsMounts_eq_ok ht
    subst h
    exact ⟨hsome, rfl, rfl⟩

theorem containerRequest_createFor {w w' : World} {i : Nat} {cc : ContainerConfig}
    {mainID : String} {tv pv : Volume} {req : CreateRequest}
    (h : containerRequest P d podConfig i cc mainID tv pv = .ok req)
    (htv : PodVolume P d podConfig w w' P.toolboxVolumeName tv)
    (hpv : PodVolume P d podConfig w w' P.projectVolumeName pv)
    (hmain : 0 < i → ∃ c0, MainContainer P d podConfig w w' c0 ∧ mainID = toString c0.id) :
    CreateFor P d podConfig w w' i cc req := by
  obtain ⟨hsome, hnet, hmounts⟩ := containerRequest_ok h
  refine ⟨containerRequest_labels P d h, ?_, hsome, tv, pv, htv, hpv, hmounts⟩
  rcases Nat.eq_zero_or_pos i with rfl | hi
  · exact .inl ⟨rfl, by simpa using hnet⟩
  · obtain ⟨c0, hc0, rfl⟩ := hmain hi
    exact .inr ⟨hi, c0, hc0, by simpa [Nat.pos_iff_ne_zero.mp hi] using hnet⟩

end Spec

/-! ## Runs of `NewPod` -/

section Run

variable {P : Package} {d : DockerDriver} {podConfig : PodConfig}

theorem newPod_end {I : World → Prop} (w : World) (hempty : podConfig.containers = [] → I w)
    (htoolbox : ∀ e w1, createToolboxVolume P d podConfig.id w = (.error e, w1) → I w1)
    (hproject : ∀ tv w1 e w2, createToolboxVolume P d podConfig.id w = (.ok tv, w1) →
      createProjectVolume P d podConfig.id w1 = (.error e, w2) → I w2)
    (hloop : ∀ tv w1 pv w2, createToolboxVolume P d podConfig.id w = (.ok tv, w1) →
      createProjectVolume P d podConfig.id w1 = (.ok pv, w2) →
      I (createContainers P d podConfig tv pv 0 "" podConfig.containers w2).2)
    (hlist : Preserves I (containerList (searchLabels P d podConfig) false)) :
    I (newPod P d podConfig w).2 := by
  unfold newPod
  by_cases hne : podConfig.containers = []
  · simpa [hne] using hempty hne
  simp only [hne, List.length_eq_zero, if_false, pure_bind]
  refine bind_world htoolbox fun tv w1 h1 => ?_
  refine bind_world (hproject tv w1 · · h1) fun pv w2 h2 => ?_
  have h3 := hloop tv w1 pv w2 h1 h2
  refine bind_world (fun _ _ hL => by rwa [hL] at h3) fun _ w3 hL => ?_
  rw [hL] at h3
  refine (hlist.bind fun cs => ?_) w3 h3
  refine Preserves.ite (Preserves.throw _) ?_
  refine (Preserves.fromExcept _).bind fun acc => ?_
  refine Preserves.ite (Preserves.throw _) ?_
  split
  · exact Preserves.throw _
  · exact Preserves.pure _

theorem newPod_keeps {w w1 w2 : World} {tv pv : Volume} (hne : podConfig.containers ≠ [])
    (h1 : createToolboxVolume P d podConfig.id w = (.ok tv, w1))
    (h2 : createProjectVolume P d podConfig.id w1 = (.ok pv, w2)) :
    w2.objects.Keeps (newPod P d podConfig w).2.objects ∧
      ∀ cc0 rest id0 w3, podConfig.containers = cc0 :: rest →
        createContainer P d 0 podConfig cc0 "" tv pv w2 = (.ok id0, w3) →
        w3.objects.Keeps (newPod P d podConfig w).2.objects := by
  refine newPod_end (I := fun w' => w2.objects.Keeps w'.objects ∧ ∀ cc0 rest id0 w3,
      podConfig.containers = cc0 :: rest →
      createContainer P d 0 podConfig cc0 "" tv pv w2 = (.ok id0, w3) → w3.objects.Keeps w'.objects)
    w (fun h => absurd h hne) (fun e w1' h => by simp [h1] at h) (fun tv' w1' e w2' h1' h2' => ?_)
    (fun tv' w1' pv' w2' h1' h2' => ?_) fun w' hw' => ⟨containerList_keeps _ _ w' hw'.1,
      fun cc0 rest id0 w3 hcs h3 => containerList_keeps _ _ w' (hw'.2 cc0 rest id0 w3 hcs h3)⟩
  · simp only [h1, Prod.mk.injEq, Except.ok.injEq] at h1'
    obtain ⟨rfl, rfl⟩ := h1'
    simp [h2] at h2'
  · simp only [h1, Prod.mk.injEq, Except.ok.injEq] at h1'
    obtain ⟨rfl, rfl⟩ := h1'
    simp only [h2, Prod.mk.injEq, Except.ok.injEq] at h2'
    obtain ⟨rfl, rfl⟩ := h2'
    refine ⟨createContainers_keeps _ _ _ _ _ w2 (.refl _), fun cc0 rest id0 w3 hcs h3 => ?_⟩
    rw [hcs]
    simp only [createContainers]
    rw [bind_of_ok h3]
    exact ((call_keeps _ _ fun o' => Objects.keeps_setRunning o' _ _).bind fun _ =>
      createContainers_keeps _ _ _ _ _) w3 (.refl _)

/-- Every entry a run of `NewPod` logs, whatever the engine answers: its pulls
send the credentials of the image's registry, and its creates are the toolbox
helper's, or a `CreateFor` issued after an accepted pull of the config's image. -/
theorem newPod_logFrom (w : World) :
    LogFrom w.log (EntryOK (PodPull P d podConfig) (PodCreate P d podConfig w (newPod P d podConfig w).2))
      (newPod P d podConfig w).2 := by
  have h0 : LogFrom w.log (EntryOK (PodPull P d podConfig)
      (PodCreate P d podConfig w (newPod P d podConfig w).2)) w := ⟨[], by simp, .nil⟩
  have htask : ∀ cc ∈ podConfig.containers, ∀ auth, PullAuth P podConfig.dockerConfig cc.image auth →
      PodPull P d podConfig cc.image auth := fun cc hcc _ h => .inr ⟨cc, hcc, rfl, h⟩
  have hT := createToolboxVolume_logFrom podConfig.id (fun _ h => .inl ⟨rfl, h⟩)
    (fun _ v => .inl ⟨v, rfl⟩) w h0
  have hP : ∀ tv w1, createToolboxVolume P d podConfig.id w = (.ok tv, w1) →
      LogFrom w.log (EntryOK (PodPull P d podConfig)
        (PodCreate P d podConfig w (newPod P d podConfig w).2)) (createProjectVolume P d podConfig.id w1).2 :=
    fun tv w1 h1 => call_other_logFrom
      (c := .volumeCreate (volumeLabels P d podConfig.id P.projectVolumeName)) _ (fun _ _ => nofun)
      (fun _ => nofun) w1 (by rw [h1] at hT; exact hT)
  refine newPod_end w (fun _ => h0) (fun e w1 h1 => by rw [h1] at hT; exact hT)
    (fun tv w1 e w2 h1 h2 => by have := hP tv w1 h1; rwa [h2] at this)
    (fun tv w1 pv w2 h1 h2 => ?_) (call_other_logFrom _ (fun _ _ => nofun) fun _ => nofun)
  have h2L := hP tv w1 h1
  rw [h2] at h2L
  rcases hcs : podConfig.containers with _ | ⟨cc0, rest⟩
  · exact h2L
  obtain ⟨hK2, hK3⟩ := newPod_keeps (by simp [hcs]) h1 h2
  obtain ⟨htvEq, hv1, hn1, -⟩ := createToolboxVolume_ok P d h1
  obtain ⟨hpvEq, hw2⟩ := createProjectVolume_ok P d h2
  -- the run's pod volumes, and the requests of container 0
  have htvV : PodVolume P d podConfig w (newPod P d podConfig w).2 P.toolboxVolumeName tv :=
    ⟨⟨_, le_rfl, htvEq⟩, hK2.2 tv (by simp [hw2, hv1])⟩
  have hpvV : PodVolume P d podConfig w (newPod P d podConfig w).2 P.projectVolumeName pv :=
    ⟨⟨_, hn1, hpvEq⟩, hK2.2 pv (by simp [hw2, hpvEq])⟩
  have hcc0 : podConfig.containers[0]? = some cc0 := by simp [hcs]
  have h3L := createContainer_logFrom "" (htask cc0 (by simp [hcs])) (fun A req hreq hpull =>
    .inr ⟨0, cc0, hcc0, containerRequest_createFor hreq htvV hpvV (fun h => absurd h (Nat.lt_irrefl 0)),
      hpull⟩) w2 h2L
  simp only [createContainers, if_true]
  refine bind_world (fun _ _ h3 => by rwa [h3] at h3L) fun id0 w3 h3 => ?_
  rw [h3] at h3L
  -- the later containers join the network of the one created for container 0
  obtain ⟨req0, o, hreq0, ⟨-, -, hn⟩, rfl, hw3⟩ := createContainer_ok P d h3
  obtain ⟨c0, hc0, hid, hreq⟩ := (hK3 cc0 rest _ w3 hcs h3).1 ⟨o.nextId, req0, false⟩ (by simp [hw3])
  have hmain : MainContainer P d podConfig w (newPod P d podConfig w).2 c0 :=
    ⟨hc0, by rw [hid, hn, hw2]; simp only [Objects.createVolume_nextId]; omega, cc0, hcc0,
      by rw [hreq]; exact containerRequest_labels P d hreq0⟩
  exact ((call_other_logFrom (c := .containerStart o.nextId) _ (fun _ _ => nofun)
    fun _ => nofun).bind fun _ => createContainers_logFrom htask
      (fun i cc A req hcc _ hreq hpull => .inr ⟨i, cc, hcc,
        containerRequest_createFor hreq htvV hpvV fun _ => ⟨c0, hmain, by rw [hid]⟩, hpull⟩)
      rest 1 Nat.one_pos fun j cc hj => by rw [hcs, Nat.add_comm]; simpa using hj) w3 h3L

/-- In every run of `NewPod`, whatever the engine answers, every
`ContainerCreate` it issues is the toolbox helper's or the request for a
container `i` of the config: with `i`'s labels, joining the network of the
container this run created for container 0 exactly when `i > 0`, and mounting
the run's pod volumes when the container has a name, then one tmpfs per
declared volume. No create is issued for a config with a volume that is not a
tmpfs. -/
theorem newPod_create_requests (w : World) :
    ∃ seg, (newPod P d podConfig w).2.log = w.log ++ seg ∧
      ∀ A req b B, seg = A ++ ⟨.containerCreate req, b⟩ :: B →
        (∃ v, req = helperRequest d v) ∨ ∃ i cc, podConfig.containers[i]? = some cc ∧
          CreateFor P d podConfig w (newPod P d podConfig w).2 i cc req := by
  obtain ⟨seg, hlog, hseg⟩ := @newPod_logFrom P d podConfig w
  refine ⟨seg, hlog, fun A req b B h => ?_⟩
  rcases (hseg A _ B h).2 req rfl with hhelper | ⟨i, cc, hcc, hfor, -⟩
  · exact .inl hhelper
  · exact .inr ⟨i, cc, hcc, hfor⟩

theorem itoa_injective {i j : Nat} (hi : i < 2 ^ 63) (hj : j < 2 ^ 63) (h : itoa i = itoa j) :
    i = j := by
  have hij := atoi_itoa i hi
  rw [h, atoi_itoa j hj] at hij
  exact_mod_cast (Option.some.inj hij).symm

/-- In every run of `NewPod`, whatever images the engine already holds and
whatever it answers, every image pull sends the credentials of the image's
own registry: the init image's from the driver's config, a task image's from
the pod's, each the registry's entry or empty credentials. And the create for
container `i` (the one labelled with index `i`) comes only after an accepted
pull of `i`'s image in the same run. -/
theorem newPod_pulls_before_creates (w : World) :
    ∃ seg, (newPod P d podConfig w).2.log = w.log ++ seg ∧
      (∀ image auth b, ⟨.imagePull image auth, b⟩ ∈ seg → PodPull P d podConfig image auth) ∧
      ∀ A req b B i cc, seg = A ++ ⟨.containerCreate req, b⟩ :: B →
        podConfig.containers[i]? = some cc → req.labels.lookup P.containerIndexKey = some (itoa i) →
        ∃ auth, ⟨.imagePull cc.image auth, true⟩ ∈ A := by
  obtain ⟨seg, hlog, hseg⟩ := @newPod_logFrom P d podConfig w
  refine ⟨seg, hlog, fun image auth b hmem => ?_, fun A req b B i cc h hcc hidx => ?_⟩
  · obtain ⟨A, B, rfl⟩ := List.append_of_mem hmem
    exact (hseg A _ B rfl).1 image auth rfl
  · rcases (hseg A _ B h).2 req rfl with ⟨v, rfl⟩ | ⟨j, cc', hcc', hfor, hpull⟩
    · simp [helperRequest] at hidx
    · rw [hfor.labels] at hidx
      simp only [Package.containerIndexKey, containerLabels_lookup, Option.some.injEq] at hidx
      have hbound : ∀ {k c}, podConfig.containers[k]? = some c → k < 2 ^ 63 := fun hk =>
        lt_trans (List.getElem?_eq_some_iff.mp hk).1 podConfig.containers_length
      obtain rfl := itoa_injective (hbound hcc') (hbound hcc) hidx
      rw [hcc] at hcc'
      cases hcc'
      exact hpull

end Run

end Agola.Driver
