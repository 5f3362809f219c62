import Agola.Driver.PodTable

/-!
# What the executor leaves on the engine

`PodTable` says which pods `GetPods` sees. This module says that nothing else
of the executor stays on the engine: every container and every volume it
labelled belongs to a pod of the table. For containers this is what `GetPods`
lists. For volumes it rests on how `NewPod` makes them, one toolbox and one
project volume for a pod ID that has none yet, and on how `GetPods` attaches
them: the pod it rebuilds names each volume of its pod ID, so `Remove` of that
pod takes them all (`mem_rebuiltPod_volumeNames`). A run that ends with an empty
table therefore leaves nothing of the executor behind (`runPodOps_footprint`).
-/

namespace Agola.Driver

open DriverM

/-! ## The volumes a rebuilt pod names -/

section Attach

variable (P : Package) (executorID : String)

theorem ownedPodID_volumeLabels (d : DockerDriver) (podID name : String) :
    ownedPodID P d.executorID (volumeLabels P d podID name) = some podID := by
  simp [ownedPodID, volumeLabels]

theorem lookup_volumeLabels (d : DockerDriver) (podID name : String) :
    (volumeLabels P d podID name).lookup P.volumeNameKey = some name := by
  simp [volumeLabels]

theorem attachVolume_toolboxVolumeName (pod : DockerPod) (v : Volume) :
    (attachVolume P pod v).toolboxVolumeName =
      if v.labels.lookup P.volumeNameKey = some P.toolboxVolumeName then v.name
      else pod.toolboxVolumeName := by
  unfold attachVolume
  split <;> rename_i hk <;> simp only [hk, Option.some.injEq, reduceCtorEq, if_false]
  split_ifs <;> rfl

theorem attachVolume_projectVolumeName (pod : DockerPod) (v : Volume) :
    (attachVolume P pod v).projectVolumeName =
      if v.labels.lookup P.volumeNameKey = some P.projectVolumeName then v.name
      else pod.projectVolumeName := by
  unfold attachVolume
  split <;> rename_i hk <;> simp only [hk, Option.some.injEq, reduceCtorEq, if_false]
  split_ifs with h1 h2 <;> first | rfl | exact absurd (h1.symm.trans h2) P.toolbox_ne_project

/-- Two volumes `GetPods` attaches to one pod under one kind: the later one
would hide the earlier. -/
def Clash (v v' : Volume) : Prop :=
  ∃ x, ownedPodID P executorID v.labels = some x ∧
    ownedPodID P executorID v'.labels = some x ∧
    v.labels.lookup P.volumeNameKey = v'.labels.lookup P.volumeNameKey

variable {P executorID} {f : DockerPod → String} {k podID : String}
  (hf : ∀ pod v, f (attachVolume P pod v) =
    if v.labels.lookup P.volumeNameKey = some k then v.name else f pod)
include hf

theorem attachFrom_kind_of_none : ∀ (pod : DockerPod) {vs : List Volume},
    (∀ v ∈ vs, ownedPodID P executorID v.labels = some podID →
      v.labels.lookup P.volumeNameKey ≠ some k) →
    f (attachFrom P executorID podID pod vs) = f pod
  | _, [], _ => rfl
  | pod, v :: vs, h => by
    rw [attachFrom, attachFrom_kind_of_none _ fun v' hv' => h v' (List.mem_cons_of_mem _ hv')]
    split_ifs with ho
    · rw [hf, if_neg (h v (List.mem_cons_self _ _) ho)]
    · rfl

theorem attachFrom_kind {v : Volume} (ho : ownedPodID P executorID v.labels = some podID)
    (hk : v.labels.lookup P.volumeNameKey = some k) : ∀ (pod : DockerPod) {vs : List Volume},
    v ∈ vs → vs.Pairwise (fun v v' => ¬ Clash P executorID v v') →
      f (attachFrom P executorID podID pod vs) = v.name
  | _, [], hv, _ => absurd hv (List.not_mem_nil _)
  | pod, u :: vs, hv, hu => by
    rw [attachFrom]
    by_cases hvs : v ∈ vs
    · exact attachFrom_kind ho hk _ hvs hu.of_cons
    · obtain rfl := (List.mem_cons.mp hv).resolve_right hvs
      -- the pod has no other volume of this kind after `v`
      have hnone : ∀ v' ∈ vs, ownedPodID P executorID v'.labels = some podID →
          v'.labels.lookup P.volumeNameKey ≠ some k := fun v' hv' ho' hk' =>
        List.rel_of_pairwise_cons hu hv' ⟨podID, ho, ho', hk.trans hk'.symm⟩
      rw [attachFrom_kind_of_none hf _ hnone, if_pos ho, hf, if_pos hk]

omit hf

variable (P executorID)

theorem mem_rebuiltPod_volumeNames (cs : List Container) {vs : List Volume}
    (hvs : vs.Pairwise fun v v' => ¬ Clash P executorID v v') {v : Volume} (hv : v ∈ vs)
    (ho : ownedPodID P executorID v.labels = some podID)
    (hk : v.labels.lookup P.volumeNameKey = some P.toolboxVolumeName ∨
      v.labels.lookup P.volumeNameKey = some P.projectVolumeName) :
    v.name ∈ [(rebuiltPod P executorID podID cs vs).toolboxVolumeName,
      (rebuiltPod P executorID podID cs vs).projectVolumeName] := by
  rcases hk with hk | hk
  · exact List.mem_cons.mpr (.inl
      (attachFrom_kind (attachVolume_toolboxVolumeName P) ho hk _ hv hvs).symm)
  · exact List.mem_cons_of_mem _ (List.mem_singleton.mpr
      (attachFrom_kind (attachVolume_projectVolumeName P) ho hk _ hv hvs).symm)

end Attach

/-! ## The executor's volumes -/

section Volumes

variable (P : Package) (executorID : String)

/-- The executor's volumes as `NewPod` creates them: each is the toolbox or the
project volume of its pod and has a name, and no pod has two of a kind. -/
structure PodVolumes (vs : List Volume) : Prop where
  kinds : ∀ v ∈ vs, (ownedPodID P executorID v.labels).isSome →
    v.labels.lookup P.volumeNameKey = some P.toolboxVolumeName ∨
      v.labels.lookup P.volumeNameKey = some P.projectVolumeName
  named : ∀ v ∈ vs, (ownedPodID P executorID v.labels).isSome → v.name ≠ ""
  unique : vs.Pairwise fun v v' => ¬ Clash P executorID v v'

variable {P executorID}

theorem PodVolumes.sublist {vs vs' : List Volume} (h : PodVolumes P executorID vs)
    (hs : vs'.Sublist vs) : PodVolumes P executorID vs' :=
  ⟨fun v hv => h.kinds v (hs.subset hv), fun v hv => h.named v (hs.subset hv),
    h.unique.sublist hs⟩

theorem PodVolumes.newPod {d : DockerDriver} {vs : List Volume} {podID : String} (n m : Nat)
    (h : PodVolumes P d.executorID vs)
    (hfresh : ∀ v ∈ vs, ownedPodID P d.executorID v.labels ≠ some podID) :
    PodVolumes P d.executorID (vs ++ [⟨toString n, volumeLabels P d podID P.toolboxVolumeName⟩,
      ⟨toString m, volumeLabels P d podID P.projectVolumeName⟩]) := by
  refine ⟨fun v hv ho => ?_, fun v hv ho => ?_, List.pairwise_append.mpr ⟨h.unique, ?_, ?_⟩⟩
  · rcases List.mem_append.mp hv with hv | hv
    · exact h.kinds v hv ho
    · simp only [List.mem_cons, List.mem_singleton, List.not_mem_nil, or_false] at hv
      rcases hv with rfl | rfl <;> simp only [lookup_volumeLabels, true_or, or_true]
  · rcases List.mem_append.mp hv with hv | hv
    · exact h.named v hv ho
    · simp only [List.mem_cons, List.mem_singleton, List.not_mem_nil, or_false] at hv
      rcases hv with rfl | rfl <;> exact toString_ne_empty _
  -- the two new volumes have different kinds
  · refine List.pairwise_pair.mpr fun ⟨_, _, _, hk⟩ => P.toolbox_ne_project ?_
    simpa only [lookup_volumeLabels, Option.some.injEq] using hk
  -- and no old volume shares their pod
  · rintro v hv v' hv' ⟨x, ho, ho', -⟩
    simp only [List.mem_cons, List.mem_singleton, List.not_mem_nil, or_false] at hv'
    rcases hv' with rfl | rfl <;>
      exact hfresh v hv (by rw [ho, ← ho', ownedPodID_volumeLabels])

end Volumes

/-! ## The invariant and the calls -/

section Footprint

variable (P : Package) (d : DockerDriver)

/-- An engine in `PodTable` whose volumes of the executor are accounted for:
each belongs to a pod of the table, and they are as `NewPod` creates them. -/
structure Footprint (w : World) (t : List String) extends PodTable P d w t : Prop where
  volumesListed : ∀ v ∈ w.objects.volumes, ∀ x,
    ownedPodID P d.executorID v.labels = some x → x ∈ t
  podVolumes : PodVolumes P d.executorID w.objects.volumes

variable {P d}

theorem Footprint.newPod {w w' : World} {t : List String} {podConfig : PodConfig}
    {pod : DockerPod} (h : Footprint P d w t) (hx : podConfig.id ∉ t)
    (hn : newPod P d podConfig w = (.ok pod, w')) : Footprint P d w' (podConfig.id :: t) := by
  obtain ⟨-, -, -, -, hvs, -⟩ := newPod_accepting_ok P d h.accepting (h.newPod_fresh hx) hn
  refine ⟨h.toPodTable.newPod hx hn, fun v hv x ho => ?_, ?_⟩
  · rw [hvs] at hv
    rcases List.mem_append.mp hv with hv | hv
    · exact List.mem_cons_of_mem _ (h.volumesListed v hv x ho)
    · simp only [List.mem_cons, List.mem_singleton, List.not_mem_nil, or_false] at hv
      rcases hv with rfl | rfl <;>
        exact (Option.some.inj ((ownedPodID_volumeLabels P d _ _).symm.trans ho)) ▸
          List.mem_cons_self _ _
  · rw [hvs]
    exact h.podVolumes.newPod _ _ fun v hv ho => hx (h.volumesListed v hv _ ho)

theorem Footprint.stop {w w1 : World} {t : List String} {pods : List DockerPod}
    {pod : DockerPod} (h : Footprint P d w t) (hg : getPods P d true w = (.ok pods, w1)) :
    Footprint P d (pod.stop w1).2 t := by
  obtain ⟨-, -, -, -, hw1, a1⟩ := getPods_accepting_ok P d h.accepting hg
  obtain ⟨-, hvS, -⟩ := pod.stop_objects a1
  rw [hw1] at hvS
  exact ⟨h.toPodTable.stop hg, hvS ▸ h.volumesListed, hvS ▸ h.podVolumes⟩

theorem Footprint.remove {w w1 : World} {t : List String} {pods : List DockerPod}
    {pod : DockerPod} (h : Footprint P d w t) (hg : getPods P d true w = (.ok pods, w1))
    (hpod : pod ∈ pods) : Footprint P d (pod.remove w1).2 (t.erase pod.id) := by
  obtain ⟨-, -, -, hre⟩ := podsOf_ok_spec P d.executorID (podsOf_all P d hg)
  obtain ⟨-, -, -, -, hw1, a1⟩ := getPods_accepting_ok P d h.accepting hg
  obtain ⟨-, -, -, hvR, -⟩ := pod.remove_accepting a1
  rw [hw1] at hvR
  refine ⟨h.toPodTable.remove hg hpod, fun v hv x ho => ?_,
    h.podVolumes.sublist (hvR ▸ List.filter_sublist _)⟩
  rw [hvR] at hv
  obtain ⟨hv, hkeep⟩ := List.mem_filter.mp hv
  refine h.nodup.mem_erase_iff.mpr ⟨fun hx => ?_, h.volumesListed v hv x ho⟩
  subst hx
  -- a volume of the removed pod is one the pod names, so `Remove` took it
  have hsome : (ownedPodID P d.executorID v.labels).isSome := by rw [ho]; rfl
  have hname := mem_rebuiltPod_volumeNames P d.executorID w.objects.containers
    h.podVolumes.unique hv ho (h.podVolumes.kinds v hv hsome)
  rw [← hre pod hpod] at hname
  exact of_decide_eq_true hkeep
    (List.mem_filter.mpr ⟨hname, decide_eq_true (h.podVolumes.named v hv hsome)⟩)

theorem Footprint.run (ops : List PodOp) {w w' : World} {t t' : List String}
    (h : Footprint P d w t) (hrun : runPodOps P d ops w = some w') (ht : runTable ops t = some t') :
    Footprint P d w' t' :=
  runPodOps_keeps (fun h hx hn => h.newPod hx hn) (fun h hg _ => h.stop hg)
    (fun h hg hpod => h.remove hg hpod) ops h hrun ht

/-- On an engine whose executor objects are accounted for, every run of `NewPod`,
`Stop` and `Remove` calls that completes, and that the table allows, leaves every
container and every volume of the executor in a pod of the table the run
computes: a run that ends with an empty table leaves nothing of the executor on
the engine. -/
theorem runPodOps_footprint {ops : List PodOp} {w w' : World} {t t' : List String}
    (h : Footprint P d w t) (hrun : runPodOps P d ops w = some w')
    (ht : runTable ops t = some t') :
    (∀ c ∈ w'.objects.containers, ∀ x,
      ownedPodID P d.executorID c.labels = some x → x ∈ t') ∧
    ∀ v ∈ w'.objects.volumes, ∀ x, ownedPodID P d.executorID v.labels = some x → x ∈ t' :=
  have h' := h.run ops hrun ht
  ⟨h'.containersListed, h'.volumesListed⟩

end Footprint

/-- The sample pod started and removed again on the empty engine: nothing of
the executor is left. -/
theorem runPodOps_footprint_startRemove : ∃ w',
    Footprint Package.spec sampleDriver emptyWorld [] ∧
      runPodOps Package.spec sampleDriver [.newPod samplePodConfig, .remove "p1"] emptyWorld =
        some w' ∧
      runTable [.newPod samplePodConfig, .remove "p1"] [] = some [] ∧
      (∀ c ∈ w'.objects.containers,
        ownedPodID Package.spec sampleDriver.executorID c.labels = none) ∧
      ∀ v ∈ w'.objects.volumes,
        ownedPodID Package.spec sampleDriver.executorID v.labels = none := by
  obtain ⟨pod, w1, hr⟩ := newPod_sample_ok
  have h1 := podTable_emptyWorld.newPod (List.not_mem_nil _) hr
  obtain ⟨w', hw'⟩ := Option.isSome_iff_exists.mp
    (h1.onPod_isSome (List.mem_singleton_self _) fun pod _ a => (pod.remove_accepting a).1)
  have hrun : runPodOps Package.spec sampleDriver [.newPod samplePodConfig, .remove "p1"]
      emptyWorld = some w' := by
    rw [runPodOps, PodOp.run_newPod _ _ hr, Option.some_bind, runPodOps]
    show (onPod Package.spec sampleDriver DockerPod.remove samplePodConfig.id w1).bind _ = _
    rw [hw']
    rfl
  have h : Footprint Package.spec sampleDriver emptyWorld [] :=
    ⟨podTable_emptyWorld, fun _ h => (nomatch h), fun _ h => (nomatch h), fun _ h => (nomatch h),
      .nil⟩
  have ht : runTable [.newPod samplePodConfig, .remove "p1"] [] = some [] := by decide
  have ⟨hcs, hvs⟩ := runPodOps_footprint h hrun ht
  exact ⟨w', h, hrun, ht,
    fun c hc => Option.eq_none_iff_forall_not_mem.mpr fun x ho => (nomatch hcs c hc x ho),
    fun v hv => Option.eq_none_iff_forall_not_mem.mpr fun x ho => (nomatch hvs v hv x ho)⟩

end Agola.Driver
