import Agola.Driver.NewPodSpec
import Agola.Driver.GetPods

/-!
# `NewPod` on its failure paths

`NewPod` rolls nothing back: when a step fails it returns at once, and what the
steps before it created stays. The volumes it leaves are pod volumes; the
containers it leaves are the toolbox helper, which carries no labels, and the
containers of the configs the creation loop got through. A config whose volume
has no tmpfs settings stops the loop at that config, so nothing is created for
it or for any config after it.
-/

namespace Agola.Driver

open DriverM

section NewPod

variable (P : Package) (d : DockerDriver) (podConfig : PodConfig)

/-- The labels of a container `NewPod` may create: none (the toolbox helper), or
those of the container of a config before position `bound`. -/
def MayAdd (bound : Nat) (labels : Labels) : Prop :=
  labels = [] ∨ ∃ j name, j < bound ∧ labels = containerLabels P d podConfig j name

/-- What `NewPod` may have done so far to the objects `o0`: the counter only
grows, every container is one of `o0` or a new one it may create, and every
volume is one of `o0` or a volume of the pod. -/
structure Grown (bound : Nat) (o0 o : Objects) : Prop where
  nextId_le : o0.nextId ≤ o.nextId
  containers : ∀ c ∈ o.containers, (∃ c0 ∈ o0.containers, c0.id = c.id ∧ c0.req = c.req) ∨
    (o0.nextId ≤ c.id ∧ MayAdd P d podConfig bound c.labels)
  volumes : ∀ v ∈ o.volumes, v ∈ o0.volumes ∨ ∃ name, v.labels = volumeLabels P d podConfig.id name

variable {P d podConfig} {bound : Nat} {o0 o : Objects}

theorem Grown.refl (o0 : Objects) : Grown P d podConfig bound o0 o0 :=
  ⟨le_rfl, fun c hc => .inl ⟨c, hc, rfl, rfl⟩, fun _ hv => .inl hv⟩

theorem Grown.of_sources {o' : Objects} (h : Grown P d podConfig bound o0 o)
    (hc : ∀ c ∈ o'.containers, ∃ c' ∈ o.containers, c'.id = c.id ∧ c'.req = c.req)
    (hv : o'.volumes = o.volumes) (hn : o'.nextId = o.nextId) : Grown P d podConfig bound o0 o' where
  nextId_le := hn ▸ h.nextId_le
  containers c hc' := by
    obtain ⟨c', hc', hid, hreq⟩ := hc c hc'
    rcases h.containers c' hc' with ⟨c0, h0, h1, h2⟩ | ⟨h1, h2⟩
    · exact .inl ⟨c0, h0, h1.trans hid, h2.trans hreq⟩
    · exact .inr ⟨hid ▸ h1, by rwa [Container.labels, ← hreq]⟩
  volumes v hv' := h.volumes v (hv ▸ hv')

theorem Grown.setRunning (h : Grown P d podConfig bound o0 o) (id : Nat) (b : Bool) :
    Grown P d podConfig bound o0 (o.setRunning id b) := by
  refine h.of_sources (fun c hc => ?_) rfl rfl
  obtain ⟨c', hc', rfl⟩ := List.mem_map.mp hc
  exact ⟨c', hc', by split <;> rfl, by split <;> rfl⟩

theorem Grown.removeContainer (h : Grown P d podConfig bound o0 o) (id : Nat) :
    Grown P d podConfig bound o0 (o.removeContainer id) :=
  h.of_sources (fun c hc => ⟨c, (List.mem_filter.mp hc).1, rfl, rfl⟩) rfl rfl

theorem Grown.createContainer (h : Grown P d podConfig bound o0 o) {req : CreateRequest}
    (hreq : MayAdd P d podConfig bound req.labels) :
    Grown P d podConfig bound o0 (o.createContainer req).2 where
  nextId_le := by simp only [Objects.createContainer_nextId]; have := h.nextId_le; omega
  containers c hc := by
    rcases List.mem_append.mp hc with hc | hc
    · exact h.containers c hc
    · rw [List.mem_singleton.mp hc]
      exact .inr ⟨h.nextId_le, hreq⟩
  volumes := h.volumes

theorem Grown.createVolume (h : Grown P d podConfig bound o0 o) (name : String) :
    Grown P d podConfig bound o0 (o.createVolume (volumeLabels P d podConfig.id name)).2 where
  nextId_le := by simp only [Objects.createVolume_nextId]; have := h.nextId_le; omega
  containers := h.containers
  volumes v hv := by
    rcases List.mem_append.mp hv with hv | hv
    · exact h.volumes v hv
    · rw [List.mem_singleton.mp hv]
      exact .inr ⟨name, rfl⟩

/-! ## Each step of `NewPod` -/

variable (P d podConfig bound o0)

/-- The invariant of the failure paths, on worlds. -/
abbrev GrownFrom : World → Prop := fun w => Grown P d podConfig bound o0 w.objects

theorem fetchImage_grown (image : String) (alwaysFetch : Bool) (rc : Option DockerConfig) :
    Preserves (GrownFrom P d podConfig bound o0) (fetchImage P image alwaysFetch rc) := by
  intro w hw
  obtain ⟨hc, hv, hn⟩ := fetchImage_objects P image alwaysFetch rc w
  exact hw.of_sources (fun c hc' => ⟨c, hc ▸ hc', rfl, rfl⟩) hv hn

theorem ignoreError_preserves {I : World → Prop} {x : DriverM Unit} (hx : Preserves I x) :
    Preserves I (ignoreError x) :=
  fun w hw => hx w hw

theorem createToolboxVolume_grown :
    Preserves (GrownFrom P d podConfig bound o0) (createToolboxVolume P d podConfig.id) := by
  unfold createToolboxVolume
  refine (fetchImage_grown P d podConfig bound o0 _ _ _).bind fun _ => ?_
  refine (call_preserves _ _ fun _ h => h.createVolume _).bind fun _ => ?_
  refine (call_preserves _ _ fun _ h => h.createContainer (.inl rfl)).bind fun _ => ?_
  refine (call_preserves _ _ fun _ h => h.setRunning _ _).bind fun _ => ?_
  refine (Preserves.fromExcept _).bind fun _ => ?_
  refine (ioStep_preserves _).bind fun _ => (ioStep_preserves _).bind fun _ => ?_
  refine (call_preserves _ _ fun _ h => h).bind fun _ => ?_
  exact (ignoreError_preserves (call_preserves _ _ fun _ h => h.removeContainer _)).bind
    fun _ => Preserves.pure _

theorem createProjectVolume_grown :
    Preserves (GrownFrom P d podConfig bound o0) (createProjectVolume P d podConfig.id) :=
  call_preserves _ _ fun _ h => h.createVolume _

variable {P d podConfig bound o0}

theorem tmpfsMounts_ok_iff (vols : List VolumeConfig) :
    (∃ ms, tmpfsMounts vols = .ok ms) ↔ ∀ vol ∈ vols, vol.tmpFS.isSome := by
  induction vols with
  | nil => simp [tmpfsMounts]
  | cons vol vols ih =>
    simp only [tmpfsMounts, List.mem_cons, forall_eq_or_imp]
    cases vol.tmpFS with
    | none => simp
    | some t =>
      rw [← ih]
      cases tmpfsMounts vols <;> simp [Except.map]

theorem tmpfsMounts_of_containerRequest {index : Nat} {cc : ContainerConfig} {mainID : String}
    {tv pv : Volume} {req : CreateRequest}
    (h : containerRequest P d podConfig index cc mainID tv pv = .ok req) :
    ∃ ms, tmpfsMounts cc.volumes = .ok ms := by
  unfold containerRequest at h
  cases ht : tmpfsMounts cc.volumes with
  | error e => simp [ht, bind, Except.bind] at h
  | ok ms => exact ⟨ms, rfl⟩

theorem createContainer_fails {index : Nat} {cc : ContainerConfig} {mainID : String}
    {tv pv : Volume} (hbad : ∀ ms, tmpfsMounts cc.volumes ≠ .ok ms) (w w' : World) (id : Nat) :
    createContainer P d index podConfig cc mainID tv pv w ≠ (.ok id, w') := fun h => by
  obtain ⟨req, -, hreq, -⟩ := createContainer_ok P d h
  obtain ⟨ms, hms⟩ := tmpfsMounts_of_containerRequest hreq
  exact hbad ms hms

theorem createContainer_grown {index : Nat} {cc : ContainerConfig} {mainID : String}
    {tv pv : Volume} (h : index < bound ∨ ∀ ms, tmpfsMounts cc.volumes ≠ .ok ms) :
    Preserves (GrownFrom P d podConfig bound o0)
      (createContainer P d index podConfig cc mainID tv pv) := by
  unfold createContainer
  refine (fetchImage_grown P d podConfig bound o0 _ _ _).bind fun _ => ?_
  refine Preserves.bind_fromExcept fun req hreq => ?_
  rcases h with hlt | hbad
  · exact call_preserves _ _ fun _ h =>
      h.createContainer (.inr ⟨index, _, hlt, containerRequest_labels P d hreq⟩)
  · obtain ⟨ms, hms⟩ := tmpfsMounts_of_containerRequest hreq
    exact absurd hms (hbad ms)

theorem createContainers_grown (tv pv : Volume) :
    ∀ (ccs : List ContainerConfig) (cindex : Nat) (mainID : String), cindex ≤ bound →
      (bound < cindex + ccs.length →
        ∃ cc, ccs[bound - cindex]? = some cc ∧ ∀ ms, tmpfsMounts cc.volumes ≠ .ok ms) →
      Preserves (GrownFrom P d podConfig bound o0)
        (createContainers P d podConfig tv pv cindex mainID ccs)
  | [], _, _, _, _ => Preserves.pure _
  | cc :: rest, cindex, mainID, hle, hbad => by
    simp only [createContainers]
    by_cases hlt : cindex < bound
    · refine (createContainer_grown (.inl hlt)).bind fun _ => ?_
      refine (call_preserves _ _ fun _ h => h.setRunning _ _).bind fun _ => ?_
      refine createContainers_grown tv pv rest (cindex + 1) _ hlt fun hb => ?_
      obtain ⟨c, hc, hc'⟩ := hbad (by simp only [List.length_cons]; omega)
      have hsub : bound - cindex = bound - (cindex + 1) + 1 := by omega
      rw [hsub, List.getElem?_cons_succ] at hc
      exact ⟨c, hc, hc'⟩
    · obtain ⟨c, hc, hc'⟩ := hbad (by simp only [List.length_cons]; omega)
      rw [show bound - cindex = 0 by omega, List.getElem?_cons_zero, Option.some.injEq] at hc
      subst hc
      exact Preserves.bind_of_error (createContainer_grown (.inr hc'))
        fun w _ w' => createContainer_fails hc' w w' _

/-- `NewPod`, whatever it returns, leaves only what `Grown` allows, for a
`bound` past its configs or at a config whose volumes are rejected. -/
theorem newPod_grown (hbound : podConfig.containers.length ≤ bound ∨
      ∃ cc, podConfig.containers[bound]? = some cc ∧ ∀ ms, tmpfsMounts cc.volumes ≠ .ok ms) :
    Preserves (GrownFrom P d podConfig bound o0) (newPod P d podConfig) := by
  unfold newPod
  simp only [throw_bind, pure_bind]
  refine Preserves.ite (Preserves.throw _) ?_
  refine (createToolboxVolume_grown P d podConfig bound o0).bind fun tv => ?_
  refine (createProjectVolume_grown P d podConfig bound o0).bind fun pv => ?_
  refine (createContainers_grown tv pv _ 0 "" (Nat.zero_le _) fun hlt => ?_).bind fun _ => ?_
  · rcases hbound with hle | ⟨cc, hcc, hbad⟩
    · omega
    · exact ⟨cc, by simpa using hcc, hbad⟩
  refine (call_preserves _ _ fun _ h => h).bind fun cs => ?_
  refine Preserves.ite (Preserves.throw _) ?_
  refine (Preserves.fromExcept _).bind fun acc => ?_
  refine Preserves.ite (Preserves.throw _) ?_
  split
  · exact Preserves.throw _
  · exact Preserves.pure _

theorem exists_of_forall₂_mem {α β : Type} {R : α → β → Prop} {l₁ : List α} {l₂ : List β}
    (h : List.Forall₂ R l₁ l₂) {b : β} (hb : b ∈ l₂) : ∃ a ∈ l₁, R a b := by
  induction h with
  | nil => cases hb
  | cons hab _ ih =>
    rcases List.mem_cons.mp hb with rfl | hb
    · exact ⟨_, List.mem_cons_self _ _, hab⟩
    · obtain ⟨a, ha, hr⟩ := ih hb
      exact ⟨a, List.mem_cons_of_mem _ ha, hr⟩

theorem newPod_ok_requests {w w' : World} {pod : DockerPod}
    (h : newPod P d podConfig w = (.ok pod, w')) {i : Nat} {cc : ContainerConfig}
    (hcc : podConfig.containers[i]? = some cc) :
    ∃ mainID tv pv req, containerRequest P d podConfig i cc mainID tv pv = .ok req := by
  obtain ⟨tv, pv, _, _, _, _, _, _, -, -, h3, -⟩ := newPod_ok P d h
  obtain ⟨created, hplan, -⟩ := createContainers_ok P d _ _ _ _ _ h3
  obtain ⟨c, -, -, -, mainID, hreq⟩ := exists_of_forall₂_mem
    (plannedContainers_forall₂ P d _ _ _ _ _ hplan) (List.mk_mem_enum_iff_getElem?.mpr hcc)
  exact ⟨mainID, tv, pv, c.req, hreq⟩

/-- Whatever `NewPod` returns, every container it leaves is the unlabelled
toolbox helper or carries the labels of one of the pod's containers. -/
theorem newPod_leftovers (w : World) :
    Grown P d podConfig podConfig.containers.length w.objects (newPod P d podConfig w).2.objects :=
  newPod_grown (.inl le_rfl) w (.refl _)

end NewPod

/-- A driver on an architecture the toolbox is not built for. -/
def riscvDriver : DockerDriver := { sampleDriver with arch := "riscv64" }

/-- The architecture lookup fails after the helper container was created and
started: `NewPod` returns the wrapped error and the helper, a running `cat` with
no labels, stays behind. -/
theorem newPod_bad_arch_leaves_helper :
    (newPod Package.spec riscvDriver samplePodConfig emptyWorld).1 =
        .error (.wrapf "failed to get toolbox path for arch \"riscv64\""
          (.package "unsupported arch riscv64")) ∧
      (newPod Package.spec riscvDriver samplePodConfig emptyWorld).2.objects.containers.map
        (fun c => (c.labels, c.running, c.req.entrypoint)) = [([], true, ["cat"])] := by
  decide

end Agola.Driver
