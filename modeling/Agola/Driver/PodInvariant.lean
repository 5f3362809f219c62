import Agola.Driver.GetPods
import Agola.Driver.NewPodSpec

/-!
# The shape of a pod

`Exec` finds its target through `containersMap`, under a container's name or
under `""` for the main container, and `Remove` walks the members. Both loops
that fill a pod, the discovery of `NewPod` and the second container loop of
`GetPods`, add each member under its own name label, so in both pods every
non-empty key leads to a member of that name and every named member can be
reached by its name. Only `NewPod` rejects a repeated index and keys its first
member under `""`.
-/

namespace Agola.Driver

namespace DockerPod

variable (P : Package)

/-- The name index of a pod: every non-empty key leads to a member carrying that
name, and every member with a non-empty name can be looked up by it. -/
structure NamesIndexed (pod : DockerPod) : Prop where
  /-- A non-empty key leads to a member of that name. -/
  lookup_mem : ∀ n dc, n ≠ "" → pod.containersMap.lookup n = some dc →
    dc ∈ pod.containers ∧ dc.container.labels.lookup P.containerNameKey = some n
  /-- A named member can be looked up by its name. -/
  named_lookup : ∀ dc ∈ pod.containers, ∀ n, n ≠ "" →
    dc.container.labels.lookup P.containerNameKey = some n → (pod.containersMap.lookup n).isSome

theorem addContainer_lookup (pod : DockerPod) (dc : DockerContainer) (name? : Option String)
    {n : String} (hn : n ≠ "") :
    (pod.addContainer dc name?).containersMap.lookup n =
      if name? = some n then some dc else pod.containersMap.lookup n := by
  rcases name? with _ | name
  · simp [addContainer]
  · by_cases h : name = n
    · subst h; simp [addContainer, hn]
    · by_cases h' : name = "" <;> simp [addContainer, h, h', hn.symm, GoMap.lookup_set_ne _ _ (Ne.symm h)]

variable {P}

theorem NamesIndexed.of_empty (pod : DockerPod) (hc : pod.containers = [])
    (hm : pod.containersMap = []) : pod.NamesIndexed P where
  lookup_mem _ _ _ hl := by rw [hm] at hl; cases hl
  named_lookup _ hd := by rw [hc] at hd; cases hd

theorem NamesIndexed.addContainer {pod : DockerPod} (h : pod.NamesIndexed P) (dc : DockerContainer) :
    (pod.addContainer dc (dc.container.labels.lookup P.containerNameKey)).NamesIndexed P where
  lookup_mem n dc' hn hl := by
    rw [addContainer_lookup _ _ _ hn] at hl
    split at hl
    · cases hl
      exact ⟨List.mem_append_right _ (List.mem_singleton_self _), ‹_›⟩
    · obtain ⟨h1, h2⟩ := h.lookup_mem n dc' hn hl
      exact ⟨List.mem_append_left _ h1, h2⟩
  named_lookup dc' hmem n hn hname := by
    rw [addContainer_lookup _ _ _ hn]
    split
    · rfl
    · rcases List.mem_append.mp hmem with hmem | hmem
      · exact h.named_lookup dc' hmem n hn hname
      · rw [List.mem_singleton.mp hmem] at hname
        contradiction

theorem NamesIndexed.congr {pod pod' : DockerPod} (h : pod.NamesIndexed P)
    (hc : pod'.containers.Perm pod.containers)
    (hm : ∀ n, n ≠ "" → pod'.containersMap.lookup n = pod.containersMap.lookup n) :
    pod'.NamesIndexed P where
  lookup_mem n dc hn hl := by
    rw [hm n hn] at hl
    exact (h.lookup_mem n dc hn hl).imp_left hc.mem_iff.mpr
  named_lookup dc hmem n hn hname := by
    rw [hm n hn]
    exact h.named_lookup dc (hc.mem_iff.mp hmem) n hn hname

end DockerPod

open DockerPod DriverM

variable {P : Package}

/-! ## The pod of `NewPod` -/

theorem discovered_labels {c : Container} {dc : DockerContainer} (h : discovered P c = some dc) :
    dc.container.labels = c.labels := by
  simp only [discovered, Option.map_eq_some'] at h
  obtain ⟨_, _, rfl⟩ := h
  rfl

theorem discoverContainers_namesIndexed {acc acc' : Discovery} {cs : List Container}
    (h : discoverContainers P acc cs = .ok acc') (hi : acc.pod.NamesIndexed P) :
    acc'.pod.NamesIndexed P := by
  induction cs generalizing acc with
  | nil =>
    simp only [discoverContainers, Except.ok.injEq] at h
    exact h ▸ hi
  | cons c cs ih =>
    simp only [discoverContainers, discoverContainer_eq] at h
    cases hd : discovered P c with
    | none =>
      simp only [hd, Except.bind] at h
      exact ih h hi
    | some dc =>
      by_cases hnew : dc.index ∈ acc.seenIndexes
      · simp [hd, hnew, Except.bind] at h
      · simp only [hd, hnew, if_false, Except.bind] at h
        refine ih h ?_
        rw [← discovered_labels hd]
        exact hi.addContainer dc

/-! ## The pods of `GetPods` -/

variable (executorID : String)

theorem DockerPod.NamesIndexed.fillPod {pod : DockerPod} (h : pod.NamesIndexed P) (c : Container)
    (cIndex : Int) : (fillPod P pod c cIndex).NamesIndexed P := by
  have h' := h.addContainer ⟨cIndex, c.sortMounts⟩
  unfold Agola.Driver.fillPod
  split
  · exact h'.congr (List.Perm.refl _) fun _ _ => rfl
  · exact h'

theorem fillPodFrom_namesIndexed (podID : String) {pod : DockerPod} (h : pod.NamesIndexed P)
    (cs : List Container) : (fillPodFrom P executorID podID pod cs).NamesIndexed P := by
  induction cs generalizing pod with
  | nil => exact h
  | cons c cs ih =>
    simp only [fillPodFrom]
    split
    · exact ih (h.fillPod c _)
    · exact ih h

theorem rebuiltPod_namesIndexed (podID : String) (cs : List Container) (vs : List Volume) :
    (rebuiltPod P executorID podID cs vs).NamesIndexed P := by
  obtain ⟨t, p, ha⟩ := attachFrom_eq P executorID podID
    (fillPodFrom P executorID podID (emptyPod executorID podID) cs) vs
  refine (fillPodFrom_namesIndexed executorID podID (.of_empty (emptyPod executorID podID) rfl rfl) cs).congr ?_ fun _ _ => ?_
  · simp only [rebuiltPod, ha]
    exact sortByIndex_perm _
  · simp only [rebuiltPod, ha]

/-- What a successful `GetPods` returns: one pod per pod ID of this executor
among the listed containers, each the rebuilt pod of the listing. -/
theorem getPods_ok {d : DockerDriver} {all : Bool} {w w' : World} {pods : List DockerPod}
    (h : getPods P d all w = (.ok pods, w')) :
    ∃ cs, cs = w.objects.containers.filter (fun c => (all || c.running) && matchesLabels c.labels []) ∧
      (∀ podID, podID ∈ pods.map DockerPod.id ↔
        ∃ c ∈ cs, ownedPodID P d.executorID c.labels = some podID) ∧
      ∀ pod ∈ pods, pod = rebuiltPod P d.executorID pod.id cs w.objects.volumes := by
  unfold getPods at h
  obtain ⟨cs, w1, h1, h⟩ := bind_eq_ok.mp h
  obtain ⟨vs, w2, h2, h⟩ := bind_eq_ok.mp h
  obtain ⟨rfl, hw1⟩ := containerList_ok h1
  obtain ⟨rfl, -⟩ := call_ok h2
  simp only [fromExcept_apply, Prod.mk.injEq, hw1] at h
  have ht : ∀ c ∈ w.objects.containers.filter fun c => (all || c.running) && matchesLabels c.labels [],
      (ownedPodID P d.executorID c.labels).isSome → (indexOf P c).isSome := by
    intro c hc ho
    by_contra hi
    obtain ⟨e, he⟩ := (podsOf_error_iff P d.executorID _ _).mpr
      ⟨c, hc, ho, Option.not_isSome_iff_eq_none.mp hi⟩
    rw [he] at h
    cases h.1
  obtain ⟨pods', hp, -, hids, hpods⟩ := podsOf_ok P d.executorID _ w.objects.volumes ht
  rw [hp, Except.ok.injEq] at h
  exact ⟨_, rfl, h.1 ▸ hids, h.1 ▸ hpods⟩

/-! ## Both builders -/

/-- Every pod the driver builds indexes each named member under its name. The
pod of `NewPod` also has distinct, ascending member indices and keys its first
member under `""`; the pods of `GetPods` are only sorted by index. -/
theorem pods_wellFormed (P : Package) (d : DockerDriver) :
    (∀ (podConfig : PodConfig) (w w' : World) (pod : DockerPod),
      newPod P d podConfig w = (.ok pod, w') →
        (pod.containers.map (·.index)).Sorted (· < ·) ∧ pod.containers ≠ [] ∧
          pod.containersMap.lookup "" = pod.containers.head? ∧ pod.NamesIndexed P) ∧
    (∀ (all : Bool) (w w' : World) (pods : List DockerPod),
      getPods P d all w = (.ok pods, w') →
        ∀ pod ∈ pods, (pod.containers.map (·.index)).Sorted (· ≤ ·) ∧ pod.NamesIndexed P) := by
  refine ⟨fun podConfig w w' pod h => ?_, fun all w w' pods h pod hpod => ?_⟩
  · obtain ⟨tv, pv, -, -, -, cs, acc, main, -, -, -, -, h5, -, hmain, rfl⟩ := newPod_ok P d h
    obtain ⟨hpods, -, hnodup, -, -⟩ := discoverContainers_ok P h5
    have hidx : (acc.pod.containers.map (·.index)).Nodup := by
      rw [hpods]
      simpa [podShell] using hnodup
    have hn := discoverContainers_namesIndexed h5 (.of_empty _ rfl rfl)
    refine ⟨sortByIndex_lt hidx, List.ne_nil_of_mem (List.mem_of_mem_head? hmain), by simp [hmain], ?_⟩
    exact hn.congr (sortByIndex_perm _) fun n hn => GoMap.lookup_set_ne _ _ hn
  · obtain ⟨cs, -, -, hcs⟩ := getPods_ok h
    rw [hcs pod hpod]
    exact ⟨List.pairwise_map.mpr (sortByIndex_sorted _), rebuiltPod_namesIndexed _ _ _ _⟩

/-- An engine running two containers of the sample pod, both named `x`, at
indices 0 and 1. -/
def sharedNameWorld : World :=
  { objects :=
      { containers := [⟨0, { image := "alpine:3"
                             labels := containerLabels Package.spec sampleDriver samplePodConfig 0 "x" },
          true⟩, ⟨1, { image := "alpine:3"
                       labels := containerLabels Package.spec sampleDriver samplePodConfig 1 "x" },
          true⟩]
        volumes := [], images := [], nextId := 2, fresh := by decide }
    faults := [], log := [] }

/-- An engine running a container of an earlier attempt at the sample pod, with
index -1. -/
def negativeIndexWorld : World :=
  { objects :=
      { containers := [⟨0, { image := "alpine:3"
                             labels := (containerLabels Package.spec sampleDriver samplePodConfig 0 "").set
                               Package.spec.containerIndexKey "-1" }, true⟩]
        volumes := [], images := [], nextId := 1, fresh := by decide }
    faults := [], log := [] }

/-- The pod `GetPods` rebuilds has no `""` key, and its member 0, named `x`, is
not the one found under `x`; the pod `NewPod` builds next to a leftover with
index -1 keys that leftover under `""`. -/
theorem pods_shared_name_negative_main :
    ((getPods Package.spec sampleDriver true sharedNameWorld).1.toOption.getD []).map
        (fun pod => ((pod.containersMap.lookup "").isSome, (pod.containersMap.lookup "x").map (·.index),
          pod.containers.map fun dc =>
            (dc.index, dc.container.labels.lookup Package.spec.containerNameKey == some "x"))) =
        [(false, some 1, [(0, true), (1, true)])] ∧
      (newPod Package.spec sampleDriver samplePodConfig negativeIndexWorld).1.toOption.map
        (fun pod => (pod.containersMap.lookup "").map (·.index)) = some (some (-1)) := by
  decide

end Agola.Driver
