import Agola.Driver.Footprint
import Agola.Driver.NewPodCalls

/-!
# When the pod calls succeed

On an engine that accepts every call, `NewPod` succeeds for every valid config
(`newPod_succeeds`), and `Stop` and `Remove` of a pod of the table always succeed,
so the driver simulates every run the pod table allows (`runPodOps_completes`).

These results rest on the engine model, in which a started container runs until
it is stopped. On a real engine a container whose command ends before `NewPod`
lists the pod drops out of the listing of running containers, and `NewPod` then
fails its count check.
-/

namespace Agola.Driver

open DriverM

/-! ## Steps that succeed on an accepting engine -/

/-- A step that succeeds on every engine that accepts every call, and leaves
the engine accepting. -/
def Succeeds {α : Type} (m : DriverM α) : Prop :=
  ∀ w, Accepting w → ∃ a w', m w = (.ok a, w') ∧ Accepting w'

namespace Succeeds

variable {α β : Type}

theorem pure (a : α) : Succeeds (Pure.pure a : DriverM α) := fun w h => ⟨a, w, rfl, h⟩

theorem bind {m : DriverM α} {f : α → DriverM β} (hm : Succeeds m)
    (hf : ∀ a, Succeeds (f a)) : Succeeds (m >>= f) := fun w h => by
  obtain ⟨a, w1, h1, a1⟩ := hm w h
  obtain ⟨b, w2, h2, a2⟩ := hf a w1 a1
  exact ⟨b, w2, by rw [bind_of_ok h1, h2], a2⟩

theorem call (c : Call) (effect : Objects → α × Objects) :
    Succeeds (Agola.Driver.call c effect) :=
  fun _ h => ⟨_, _, call_of_accepting h, h.tail⟩

theorem ioStep (step : String) : Succeeds (Agola.Driver.ioStep step) := fun w h => by
  refine ⟨(), { w with faults := w.faults.tail }, ?_, h.tail⟩
  unfold Agola.Driver.ioStep
  split
  · next fs hf => exact nomatch h true (hf ▸ List.mem_cons_self _ _)
  · rfl

theorem fromExcept_ok {x : Except DriverError α} {a : α} (hx : x = .ok a) :
    Succeeds (fromExcept x) :=
  fun w h => ⟨a, w, by rw [fromExcept_apply, hx], h⟩

theorem ite {c : Prop} [Decidable c] {x y : DriverM α} (hx : Succeeds x) (hy : Succeeds y) :
    Succeeds (if c then x else y) := by
  split <;> assumption

theorem ignoreError {x : DriverM Unit} (hx : Preserves Accepting x) :
    Succeeds (Agola.Driver.ignoreError x) :=
  fun w h => ⟨(), _, rfl, hx w h⟩

end Succeeds

/-! ## The steps of `NewPod` -/

section NewPod

variable (P : Package) (d : DockerDriver)

/-- An image the registry helpers resolve. -/
def Resolves (image : String) : Prop :=
  (∃ regName, P.getRegistry image = .ok regName) ∧
    ∃ tag, P.getImageTagOrDigest image = .ok tag

/-- What `NewPod` needs to succeed on an engine that accepts every call: a
container, an init image and container images that resolve, a toolbox path for
the executor's architecture, and tmpfs settings on every declared volume. -/
structure PodConfig.Valid (podConfig : PodConfig) : Prop where
  containers_ne_nil : podConfig.containers ≠ []
  initImage : Resolves P d.initImage
  toolboxPath : ∃ path, P.toolboxExecPath d.toolboxPath d.arch = .ok path
  containers : ∀ cc ∈ podConfig.containers,
    Resolves P cc.image ∧ ∀ vol ∈ cc.volumes, vol.tmpFS.isSome

theorem fetchImage_succeeds {image : String} (h : Resolves P image) (alwaysFetch : Bool)
    (rc : Option DockerConfig) : Succeeds (fetchImage P image alwaysFetch rc) := by
  obtain ⟨⟨regName, hr⟩, tag, ht⟩ := h
  unfold fetchImage
  refine .bind (.fromExcept_ok (by rw [hr]; rfl)) fun _ => ?_
  refine .bind (.fromExcept_ok (by rw [ht]; rfl)) fun _ => ?_
  exact .bind (.call _ _) fun _ => .ite (.bind (.call _ _) fun _ => .ioStep _) (.pure _)

theorem createToolboxVolume_succeeds (hinit : Resolves P d.initImage)
    (hpath : ∃ path, P.toolboxExecPath d.toolboxPath d.arch = .ok path) (podID : String) :
    Succeeds (createToolboxVolume P d podID) := by
  obtain ⟨path, hp⟩ := hpath
  unfold createToolboxVolume
  refine .bind (fetchImage_succeeds P hinit _ _) fun _ => .bind (.call _ _) fun _ =>
    .bind (.call _ _) fun _ => .bind (.call _ _) fun _ => ?_
  refine .bind (.fromExcept_ok (by rw [hp]; rfl)) fun _ => ?_
  exact .bind (.ioStep _) fun _ => .bind (.ioStep _) fun _ => .bind (.call _ _) fun _ =>
    .bind (.ignoreError (call_accepting _ _)) fun _ => .pure _

theorem containerRequest_exists {podConfig : PodConfig} {index : Nat} {cc : ContainerConfig}
    {mainID : String} {tv pv : Volume} (h : ∀ vol ∈ cc.volumes, vol.tmpFS.isSome) :
    ∃ req, containerRequest P d podConfig index cc mainID tv pv = .ok req := by
  obtain ⟨ms, hms⟩ := (tmpfsMounts_ok_iff _).mpr h
  exact ⟨_, by simp only [containerRequest, hms]; rfl⟩

theorem createContainer_succeeds {podConfig : PodConfig} {index : Nat} {cc : ContainerConfig}
    {mainID : String} {tv pv : Volume} {req : CreateRequest} (himg : Resolves P cc.image)
    (hreq : containerRequest P d podConfig index cc mainID tv pv = .ok req) :
    Succeeds (createContainer P d index podConfig cc mainID tv pv) := by
  unfold createContainer
  exact .bind (fetchImage_succeeds P himg _ _) fun _ => .bind (.fromExcept_ok hreq) fun _ => .call _ _

theorem createContainers_succeeds {podConfig : PodConfig} {tv pv : Volume} :
    ∀ (ccs : List ContainerConfig) (cindex : Nat) (mainID : String),
      (∀ cc ∈ ccs, Resolves P cc.image ∧ ∀ vol ∈ cc.volumes, vol.tmpFS.isSome) →
      Succeeds (createContainers P d podConfig tv pv cindex mainID ccs)
  | [], _, _, _ => by
    rw [createContainers]
    exact .pure ()
  | cc :: rest, cindex, mainID, h => by
    obtain ⟨himg, hvol⟩ := h cc (List.mem_cons_self _ _)
    obtain ⟨req, hreq⟩ :
        ∃ req, containerRequest P d podConfig cindex cc mainID tv pv = .ok req :=
      containerRequest_exists P d hvol
    rw [createContainers]
    exact .bind (createContainer_succeeds P d himg hreq) fun _ => .bind (.call _ _) fun _ =>
      createContainers_succeeds rest _ _ fun cc' hc' => h cc' (List.mem_cons_of_mem _ hc')

theorem discoverContainers_exists : ∀ {acc : Discovery} {cs : List Container},
    (∀ c ∈ cs, (discovered P c).isSome) →
    ((cs.filterMap (discovered P)).map (·.index)).Nodup →
    (∀ dc ∈ cs.filterMap (discovered P), dc.index ∉ acc.seenIndexes) →
    ∃ acc', discoverContainers P acc cs = .ok acc'
  | acc, [], _, _, _ => ⟨acc, rfl⟩
  | acc, c :: cs, hall, hn, hseen => by
    obtain ⟨dc, hdc⟩ := Option.isSome_iff_exists.mp (hall c (List.mem_cons_self _ _))
    rw [List.filterMap_cons, hdc, List.map_cons, List.nodup_cons] at hn
    rw [List.filterMap_cons, hdc] at hseen
    obtain ⟨acc', h⟩ : ∃ acc', discoverContainers P
        ⟨acc.pod.addContainer dc (c.labels.lookup P.containerNameKey),
          dc.index :: acc.seenIndexes, acc.count + 1⟩ cs = .ok acc' :=
      discoverContainers_exists
      (fun c' hc' => hall c' (List.mem_cons_of_mem _ hc')) hn.2 fun dc' hdc' hmem => by
        rcases List.mem_cons.mp hmem with he | hmem
        · exact hn.1 (he ▸ List.mem_map_of_mem _ hdc')
        · exact hseen dc' (List.mem_cons_of_mem _ hdc') hmem
    refine ⟨acc', ?_⟩
    rw [discoverContainers, discoverContainer_eq, hdc]
    simp only [if_neg (hseen dc (List.mem_cons_self _ _))]
    exact h

theorem discoverContainers_created {podConfig : PodConfig} {tv pv : Volume} {n : Nat}
    {cs : List Container}
    (hF : List.Forall₂ (Planned P d podConfig tv pv n 0) cs podConfig.containers.enum) :
    ∃ acc, discoverContainers P ⟨podShell d podConfig tv pv, [], 0⟩ cs = .ok acc ∧
      acc.count = cs.length ∧ (sortByIndex acc.pod.containers).length = cs.length := by
  have hD := filterMap_discovered P d hF fun icc hicc =>
    lt_trans (List.fst_lt_of_mem_enum hicc) podConfig.containers_length
  have hall : ∀ c ∈ cs, (discovered P c).isSome := fun c hc => by
    obtain ⟨icc, hicc, hp⟩ := exists_of_forall₂_mem hF.flip hc
    rw [Planned.discovered_eq P d hp
      (lt_trans (List.fst_lt_of_mem_enum hicc) podConfig.containers_length)]
    rfl
  -- the indices are `0, 1, …`
  have hnodup : ((cs.filterMap (discovered P)).map (·.index)).Nodup := by
    rw [index_map_of_forall₂_enum hD]
    exact (List.nodup_range _).map Nat.cast_injective
  obtain ⟨acc, h5⟩ :
      ∃ acc, discoverContainers P ⟨podShell d podConfig tv pv, [], 0⟩ cs = .ok acc :=
    discoverContainers_exists P hall hnodup fun _ _ h => nomatch h
  obtain ⟨hpods, hcount, -⟩ := discoverContainers_ok P h5
  have hlen : (cs.filterMap (discovered P)).length = cs.length :=
    hD.length_eq.trans hF.length_eq.symm
  refine ⟨acc, h5, by rw [hcount, hlen, Nat.zero_add], ?_⟩
  rw [(sortByIndex_perm _).length_eq, hpods, List.length_append, hlen]
  exact Nat.zero_add _

/-- On an engine that accepts every call, where no running container carries
the pod's labels, `NewPod` of a valid config succeeds. -/
theorem newPod_succeeds {podConfig : PodConfig} {w : World} (hacc : Accepting w)
    (hfresh : ∀ c ∈ w.objects.containers, c.running = true →
      matchesLabels c.labels (searchLabels P d podConfig) = false)
    (hv : podConfig.Valid P d) : ∃ pod w', newPod P d podConfig w = (.ok pod, w') := by
  -- every step up to the listing succeeds
  obtain ⟨tv, w1, h1, a1⟩ :=
    createToolboxVolume_succeeds P d hv.initImage hv.toolboxPath podConfig.id w hacc
  obtain ⟨pv, w2, h2, a2⟩ :=
    (show Succeeds (createProjectVolume P d podConfig.id) by
      unfold createProjectVolume volumeCreate; exact .call _ _) w1 a1
  obtain ⟨⟨⟩, w3, h3, a3⟩ :=
    (show Succeeds (createContainers P d podConfig tv pv 0 "" podConfig.containers) from
      createContainers_succeeds P d _ 0 "" hv.containers) w2 a2
  obtain ⟨cs, w4, h4, -⟩ :=
    (show Succeeds (containerList (searchLabels P d podConfig) false) from .call _ _) w3 a3
  -- and lists exactly the created containers
  obtain ⟨hc1, -⟩ := createToolboxVolume_accepting P d hacc h1
  obtain ⟨-, hw2⟩ := createProjectVolume_ok P d h2
  obtain ⟨created, hplan, hc3, -, -⟩ := createContainers_ok P d _ _ _ _ _ h3
  obtain ⟨hcs, -⟩ := containerList_ok h4
  have hF := plannedContainers_forall₂ P d _ _ _ _ _ hplan
  have hlist : cs = created := by
    rw [hcs, hc3, hw2, Objects.createVolume_containers, hc1,
      ← List.append_nil w.objects.containers]
    exact listing_created P d hfresh (fun _ h => nomatch h) hF
  subst hlist
  -- which discovery reads back, one member each
  obtain ⟨acc, h5, hcount, hlen⟩ := discoverContainers_created P d hF
  have hne : cs.length ≠ 0 := by
    rw [hF.length_eq, List.enumFrom_length]
    exact fun h0 => hv.containers_ne_nil (List.length_eq_zero.mp h0)
  obtain ⟨main, rest, hsorted⟩ := List.exists_cons_of_ne_nil
    (List.ne_nil_of_length_pos (hlen ▸ Nat.pos_of_ne_zero hne))
  refine ⟨{ acc.pod with
    containers := main :: rest
    containersMap := acc.pod.containersMap.set "" main }, w4, ?_⟩
  unfold newPod
  simp only [List.length_eq_zero, hv.containers_ne_nil, if_false, pure_bind, bind_of_ok h1,
    bind_of_ok h2, bind_of_ok h3, bind_of_ok h4, List.length_eq_zero.not.mp hne]
  rw [bind_apply, fromExcept_apply, h5]
  simp only [hcount, ne_eq, not_true_eq_false, if_false, pure_bind, hsorted]
  rfl

/-! ## And only for valid configs -/

theorem fromExcept_mapError_ok {ε α : Type} {x : Except ε α} {f : ε → DriverError} {a : α}
    {w w' : World} (h : fromExcept (x.mapError f) w = (.ok a, w')) : x = .ok a := by
  cases x <;> simp_all [Except.mapError]

theorem fetchImage_resolves {image : String} {alwaysFetch : Bool} {rc : Option DockerConfig}
    {w w' : World} {u : Unit} (h : fetchImage P image alwaysFetch rc w = (.ok u, w')) :
    Resolves P image := by
  unfold fetchImage at h
  obtain ⟨regName, w1, h1, h⟩ := bind_eq_ok.mp h
  obtain ⟨tag, w2, h2, -⟩ := bind_eq_ok.mp h
  exact ⟨⟨regName, fromExcept_mapError_ok h1⟩, tag, fromExcept_mapError_ok h2⟩

theorem createToolboxVolume_valid {podID : String} {v : Volume} {w w' : World}
    (h : createToolboxVolume P d podID w = (.ok v, w')) :
    Resolves P d.initImage ∧ ∃ path, P.toolboxExecPath d.toolboxPath d.arch = .ok path := by
  unfold createToolboxVolume at h
  obtain ⟨_, w1, h1, h⟩ := bind_eq_ok.mp h
  obtain ⟨_, w2, -, h⟩ := bind_eq_ok.mp h
  obtain ⟨_, w3, -, h⟩ := bind_eq_ok.mp h
  obtain ⟨_, w4, -, h⟩ := bind_eq_ok.mp h
  obtain ⟨path, w5, h5, -⟩ := bind_eq_ok.mp h
  exact ⟨fetchImage_resolves P h1, path, fromExcept_mapError_ok h5⟩

theorem createContainers_valid {podConfig : PodConfig} {tv pv : Volume} :
    ∀ (ccs : List ContainerConfig) (cindex : Nat) (mainID : String) (w w' : World),
      createContainers P d podConfig tv pv cindex mainID ccs w = (.ok (), w') →
      ∀ cc ∈ ccs, Resolves P cc.image ∧ ∀ vol ∈ cc.volumes, vol.tmpFS.isSome
  | [], _, _, _, _, _ => fun _ h => nomatch h
  | cc :: rest, cindex, mainID, w, w', h => by
    rw [createContainers] at h
    obtain ⟨id, w1, h1, h⟩ := bind_eq_ok.mp h
    obtain ⟨_, w2, -, h⟩ := bind_eq_ok.mp h
    unfold createContainer at h1
    obtain ⟨_, w3, h3, h1⟩ := bind_eq_ok.mp h1
    obtain ⟨req, w4, h4, -⟩ := bind_eq_ok.mp h1
    rw [fromExcept_apply, Prod.mk.injEq] at h4
    exact List.forall_mem_cons.mpr ⟨⟨fetchImage_resolves P h3, (containerRequest_ok h4.1).1⟩,
      createContainers_valid rest _ _ _ _ h⟩

end NewPod

/-! ## Runs -/

section Runs

variable {P : Package} {d : DockerDriver}

theorem PodTable.run_exists {w : World} {t t' : List String} {op : PodOp}
    (h : PodTable P d w t) (hv : ∀ podConfig, op = .newPod podConfig → podConfig.Valid P d)
    (ht : op.table t = some t') : ∃ w', op.run P d w = some w' := by
  cases op with
  | newPod podConfig =>
    simp only [PodOp.table] at ht
    split_ifs at ht with hx
    obtain ⟨pod, w', hn⟩ := newPod_succeeds P d h.accepting (h.newPod_fresh hx) (hv _ rfl)
    exact ⟨w', PodOp.run_newPod P d hn⟩
  | stop podID =>
    simp only [PodOp.table] at ht
    split_ifs at ht with hx
    exact Option.isSome_iff_exists.mp (h.onPod_isSome hx fun pod _ a => (pod.stop_accepting a).1)
  | remove podID =>
    simp only [PodOp.table] at ht
    split_ifs at ht with hx
    exact Option.isSome_iff_exists.mp
      (h.onPod_isSome hx fun pod _ a => (pod.remove_accepting a).1)

end Runs

def mainLeftover : CreateRequest where
  image := "alpine:3"
  labels := containerLabels Package.spec sampleDriver samplePodConfig 0 ""

/-- An engine left with the main container of the sample pod, still running. -/
def clashWorld : World :=
  { objects :=
      { containers := [⟨0, mainLeftover, true⟩]
        volumes := [], images := [], nextId := 1, fresh := by decide }
    faults := [], log := [] }

end Agola.Driver
