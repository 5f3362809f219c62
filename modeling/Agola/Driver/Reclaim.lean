import Agola.Driver.Lifecycle
import Agola.Driver.Rehydrate

/-!
# The pods `GetPods` sees across `NewPod`, `Stop` and `Remove`

`GetPods` rebuilds a pod from the listed containers and volumes of its ID and from
nothing else (`podsOf_mem_local`), so each operation changes what it returns for
its own pod only: `NewPod` adds one pod, `Remove` drops its pod, and `Stop` drops
it from the listing of running containers. The last two assume distinct container
IDs and volume names, which the engine guarantees and the model does not keep.
-/

namespace Agola.Driver

open DriverM

section Rebuilt

variable (P : Package) (executorID : String)

theorem fillPodFrom_container_ids (podID : String) : ∀ (pod : DockerPod) (cs : List Container),
    (fillPodFrom P executorID podID pod cs).containers.map (·.container.id) =
      pod.containers.map (·.container.id) ++
        (cs.filter fun c => ownedPodID P executorID c.labels = some podID).map (·.id)
  | pod, [] => by simp [fillPodFrom]
  | pod, c :: cs => by
    by_cases ho : ownedPodID P executorID c.labels = some podID
    · obtain ⟨l, hf⟩ := fillPod_eq P pod c ((indexOf P c).getD 0)
      simp only [fillPodFrom, if_pos ho]
      rw [fillPodFrom_container_ids podID _ cs, hf]
      simp [DockerPod.addContainer, List.filter_cons, ho]
    · rw [fillPodFrom_cons_of_ne P executorID podID c ho, fillPodFrom_container_ids podID pod cs,
        List.filter_cons_of_neg (by simpa using ho)]

theorem rebuiltPod_container_ids (podID : String) (cs : List Container) (vs : List Volume) :
    ((rebuiltPod P executorID podID cs vs).containers.map (·.container.id)).Perm
      ((cs.filter fun c => ownedPodID P executorID c.labels = some podID).map (·.id)) := by
  obtain ⟨t, p, ha⟩ := attachFrom_eq P executorID podID
    (fillPodFrom P executorID podID (emptyPod executorID podID) cs) vs
  simp only [rebuiltPod, ha]
  refine ((sortByIndex_perm _).map _).trans ?_
  rw [fillPodFrom_container_ids]
  rfl

theorem attachVolume_names (pod : DockerPod) (v : Volume) :
    ((attachVolume P pod v).toolboxVolumeName = pod.toolboxVolumeName ∨
        (attachVolume P pod v).toolboxVolumeName = v.name) ∧
      ((attachVolume P pod v).projectVolumeName = pod.projectVolumeName ∨
        (attachVolume P pod v).projectVolumeName = v.name) := by
  unfold attachVolume
  split
  · split
    · exact ⟨.inr rfl, .inl rfl⟩
    · split
      · exact ⟨.inl rfl, .inr rfl⟩
      · exact ⟨.inl rfl, .inl rfl⟩
  · exact ⟨.inl rfl, .inl rfl⟩

theorem attachFrom_name {f : DockerPod → String}
    (hf : ∀ pod v, f (attachVolume P pod v) = f pod ∨ f (attachVolume P pod v) = v.name)
    (podID : String) : ∀ (pod : DockerPod) (vs : List Volume),
      f (attachFrom P executorID podID pod vs) = f pod ∨
        ∃ v ∈ vs, ownedPodID P executorID v.labels = some podID ∧
          v.name = f (attachFrom P executorID podID pod vs)
  | _, [] => .inl rfl
  | pod, v :: vs => by
    by_cases ho : ownedPodID P executorID v.labels = some podID
    · simp only [attachFrom, if_pos ho]
      rcases attachFrom_name hf podID (attachVolume P pod v) vs with h | ⟨v', hv', ho', hn⟩
      · rcases hf pod v with h' | h'
        · exact .inl (h.trans h')
        · exact .inr ⟨v, List.mem_cons_self _ _, ho, (h.trans h').symm⟩
      · exact .inr ⟨v', List.mem_cons_of_mem _ hv', ho', hn⟩
    · rw [attachFrom_cons_of_ne P executorID podID v ho]
      rcases attachFrom_name hf podID pod vs with h | ⟨v', hv', ho', hn⟩
      · exact .inl h
      · exact .inr ⟨v', List.mem_cons_of_mem _ hv', ho', hn⟩

theorem rebuiltPod_volumeNames (podID : String) (cs : List Container) (vs : List Volume) :
    let pod := rebuiltPod P executorID podID cs vs
    ∀ name ∈ [pod.toolboxVolumeName, pod.projectVolumeName], name = "" ∨
      ∃ v ∈ vs, ownedPodID P executorID v.labels = some podID ∧ v.name = name := by
  obtain ⟨l, dcs, m, hf, -⟩ := fillPodFrom_eq P executorID podID (emptyPod executorID podID) cs
  have h0 : (fillPodFrom P executorID podID (emptyPod executorID podID) cs).toolboxVolumeName = "" ∧
      (fillPodFrom P executorID podID (emptyPod executorID podID) cs).projectVolumeName = "" := by
    rw [hf]
    exact ⟨rfl, rfl⟩
  have ht := attachFrom_name P executorID (fun pod v => (attachVolume_names P pod v).1) podID
    (fillPodFrom P executorID podID (emptyPod executorID podID) cs) vs
  have hp := attachFrom_name P executorID (fun pod v => (attachVolume_names P pod v).2) podID
    (fillPodFrom P executorID podID (emptyPod executorID podID) cs) vs
  rw [h0.1] at ht
  rw [h0.2] at hp
  simp only [List.mem_cons, List.mem_singleton, List.not_mem_nil, or_false]
  rintro name (rfl | rfl)
  · exact ht
  · exact hp

theorem mem_rebuiltPod_ids (podID : String) {cs : List Container} (vs : List Volume)
    (hids : (cs.map (·.id)).Nodup) {c : Container} (hc : c ∈ cs) :
    c.id ∈ (rebuiltPod P executorID podID cs vs).containers.map (·.container.id) ↔
      ownedPodID P executorID c.labels = some podID := by
  rw [(rebuiltPod_container_ids P executorID podID cs vs).mem_iff]
  constructor
  · intro hm
    obtain ⟨c', hc', he⟩ := List.mem_map.mp hm
    obtain ⟨hc'', ho⟩ := List.mem_filter.mp hc'
    rw [List.inj_on_of_nodup_map hids hc'' hc he] at ho
    exact of_decide_eq_true ho
  · exact fun ho => List.mem_map_of_mem _ (List.mem_filter.mpr ⟨hc, decide_eq_true ho⟩)

theorem rebuiltPod_volume_owned (podID : String) (cs : List Container) {vs : List Volume}
    (hnames : (vs.map (·.name)).Nodup) {v : Volume} (hv : v ∈ vs)
    (hname : v.name ∈ [(rebuiltPod P executorID podID cs vs).toolboxVolumeName,
      (rebuiltPod P executorID podID cs vs).projectVolumeName].filter (· ≠ "")) :
    ownedPodID P executorID v.labels = some podID := by
  obtain ⟨hname, hne⟩ := List.mem_filter.mp hname
  rcases rebuiltPod_volumeNames P executorID podID cs vs _ hname with he | ⟨v0, hv0, ho, he⟩
  · exact absurd he (of_decide_eq_true hne)
  · rwa [← List.inj_on_of_nodup_map hnames hv0 hv he]

theorem mem_pods_iff {cs : List Container} {vs : List Volume} {pods : List DockerPod}
    (hmem : ∀ podID, podID ∈ pods.map DockerPod.id ↔
      ∃ c ∈ cs, ownedPodID P executorID c.labels = some podID)
    (hre : ∀ pod ∈ pods, pod = rebuiltPod P executorID pod.id cs vs) (q : DockerPod) :
    q ∈ pods ↔ (∃ c ∈ cs, ownedPodID P executorID c.labels = some q.id) ∧
      q = rebuiltPod P executorID q.id cs vs := by
  refine ⟨fun hq => ⟨(hmem q.id).mp (List.mem_map_of_mem _ hq), hre q hq⟩, fun ⟨ho, he⟩ => ?_⟩
  obtain ⟨b, hb, hbq⟩ := List.mem_map.mp ((hmem q.id).mpr ho)
  rw [he, ← hbq, ← hre b hb]
  exact hb

theorem fillPodFrom_filter (podID : String) {keep : Container → Bool} :
    ∀ (pod : DockerPod) (cs : List Container),
      (∀ c ∈ cs, keep c = false → ownedPodID P executorID c.labels ≠ some podID) →
      fillPodFrom P executorID podID pod (cs.filter keep) = fillPodFrom P executorID podID pod cs
  | _, [], _ => rfl
  | pod, c :: cs, h => by
    have ih := fun pod =>
      fillPodFrom_filter podID pod cs fun c' hc' => h c' (List.mem_cons_of_mem _ hc')
    cases hk : keep c
    · rw [List.filter_cons_of_neg (by simp [hk]),
        fillPodFrom_cons_of_ne P executorID podID c (h c (List.mem_cons_self _ _) hk), ih]
    · rw [List.filter_cons_of_pos hk]
      exact ih _

theorem attachFrom_filter (podID : String) {keep : Volume → Bool} :
    ∀ (pod : DockerPod) (vs : List Volume),
      (∀ v ∈ vs, keep v = false → ownedPodID P executorID v.labels ≠ some podID) →
      attachFrom P executorID podID pod (vs.filter keep) = attachFrom P executorID podID pod vs
  | _, [], _ => rfl
  | pod, v :: vs, h => by
    have ih := fun pod =>
      attachFrom_filter podID pod vs fun v' hv' => h v' (List.mem_cons_of_mem _ hv')
    cases hk : keep v
    · rw [List.filter_cons_of_neg (by simp [hk]),
        attachFrom_cons_of_ne P executorID podID v (h v (List.mem_cons_self _ _) hk), ih]
    · rw [List.filter_cons_of_pos hk]
      exact ih _

theorem rebuiltPod_filter (podID : String) {keep : Container → Bool} {keepV : Volume → Bool}
    {cs : List Container} {vs : List Volume}
    (hc : ∀ c ∈ cs, keep c = false → ownedPodID P executorID c.labels ≠ some podID)
    (hv : ∀ v ∈ vs, keepV v = false → ownedPodID P executorID v.labels ≠ some podID) :
    rebuiltPod P executorID podID (cs.filter keep) (vs.filter keepV) =
      rebuiltPod P executorID podID cs vs := by
  simp only [rebuiltPod, fillPodFrom_filter P executorID podID _ cs hc,
    attachFrom_filter P executorID podID _ vs hv]

theorem rebuiltPod_own (podID : String) (cs : List Container) (vs : List Volume) :
    rebuiltPod P executorID podID cs vs =
      rebuiltPod P executorID podID
        (cs.filter fun c => ownedPodID P executorID c.labels = some podID)
        (vs.filter fun v => ownedPodID P executorID v.labels = some podID) :=
  (rebuiltPod_filter P executorID podID (fun _ _ hk => by simpa using hk)
    fun _ _ hk => by simpa using hk).symm

theorem podsOf_ok_spec {cs : List Container} {vs : List Volume} {pods : List DockerPod}
    (h : podsOf P executorID cs vs = .ok pods) :
    (∀ c ∈ cs, (ownedPodID P executorID c.labels).isSome → (indexOf P c).isSome) ∧
      (pods.map DockerPod.id).Nodup ∧
      (∀ podID, podID ∈ pods.map DockerPod.id ↔
        ∃ c ∈ cs, ownedPodID P executorID c.labels = some podID) ∧
      ∀ pod ∈ pods, pod = rebuiltPod P executorID pod.id cs vs := by
  have ht : ∀ c ∈ cs, (ownedPodID P executorID c.labels).isSome → (indexOf P c).isSome :=
    fun c hc ho => by
      cases hi : indexOf P c with
      | none =>
        obtain ⟨e, he⟩ := (podsOf_error_iff P executorID cs vs).mpr ⟨c, hc, ho, hi⟩
        rw [he] at h
        cases h
      | some _ => rfl
  obtain ⟨pods0, hp0, hn, hmem, hre⟩ := podsOf_ok P executorID cs vs ht
  rw [hp0, Except.ok.injEq] at h
  subst h
  exact ⟨ht, hn, hmem, hre⟩

theorem filter_filter_of_dropped {α : Type} {l : List α} {keep p : α → Bool}
    (h : ∀ a ∈ l, keep a = false → p a = false) : (l.filter keep).filter p = l.filter p := by
  rw [List.filter_filter]
  exact List.filter_congr fun a ha => by cases hk : keep a <;> simp [hk, h a ha]

theorem podsOf_mem_local {cs cs' : List Container} {vs vs' : List Volume}
    {pods pods' : List DockerPod} (h : podsOf P executorID cs vs = .ok pods)
    (h' : podsOf P executorID cs' vs' = .ok pods') {q : DockerPod}
    (hcs : cs'.filter (fun c => ownedPodID P executorID c.labels = some q.id) =
      cs.filter fun c => ownedPodID P executorID c.labels = some q.id)
    (hvs : vs'.filter (fun v => ownedPodID P executorID v.labels = some q.id) =
      vs.filter fun v => ownedPodID P executorID v.labels = some q.id) :
    q ∈ pods' ↔ q ∈ pods := by
  obtain ⟨-, -, hmem, hre⟩ := podsOf_ok_spec P executorID h
  obtain ⟨-, -, hmem', hre'⟩ := podsOf_ok_spec P executorID h'
  have key : ∀ l : List Container, (∃ c ∈ l, ownedPodID P executorID c.labels = some q.id) ↔
      ∃ c, c ∈ l.filter fun c => ownedPodID P executorID c.labels = some q.id := fun l => by simp
  have hlocal : rebuiltPod P executorID q.id cs' vs' = rebuiltPod P executorID q.id cs vs := by
    rw [rebuiltPod_own P executorID q.id cs', hcs, hvs, ← rebuiltPod_own]
  rw [mem_pods_iff P executorID hmem' hre', mem_pods_iff P executorID hmem hre, key, key, hcs,
    hlocal]

/-- Dropping from a listing with distinct IDs the members of one pod that
`podsOf` returned, and only volumes of that pod, leaves `podsOf` returning the
other pods, each as it was. -/
theorem podsOf_drop_pod {cs : List Container} {vs : List Volume} {pods : List DockerPod}
    {pod : DockerPod} (h : podsOf P executorID cs vs = .ok pods) (hcs : (cs.map (·.id)).Nodup)
    (hpod : pod ∈ pods) {keepV : Volume → Bool}
    (hvol : ∀ v ∈ vs, keepV v = false → ownedPodID P executorID v.labels = some pod.id) :
    ∃ pods', podsOf P executorID (cs.filter fun c => c.id ∉ pod.containers.map (·.container.id))
        (vs.filter keepV) = .ok pods' ∧ pods'.Perm (pods.filter fun q => q.id ≠ pod.id) := by
  obtain ⟨ht, hn, -, hre⟩ := podsOf_ok_spec P executorID h
  set mids := pod.containers.map (·.container.id)
  -- a listed container is a member exactly when it carries the pod's ID
  have hmid : ∀ c ∈ cs, c.id ∈ mids ↔ ownedPodID P executorID c.labels = some pod.id :=
    fun c hc => by
      have := mem_rebuiltPod_ids P executorID pod.id vs hcs hc
      rwa [← hre pod hpod] at this
  obtain ⟨pods', hp', hn', hmem', -⟩ := podsOf_ok P executorID _ (vs.filter keepV)
    fun c hc => ht c (List.mem_filter.mp hc).1
  refine ⟨pods', hp', ?_⟩
  rw [List.perm_ext_iff_of_nodup (List.Nodup.of_map _ hn') ((List.Nodup.of_map _ hn).filter _)]
  intro q
  rw [List.mem_filter, decide_eq_true_iff]
  by_cases hq : q.id = pod.id
  -- no listed container of the pod is left
  · refine iff_of_false (fun hq' => ?_) fun h => h.2 hq
    obtain ⟨c, hc, ho⟩ := (hmem' q.id).mp (List.mem_map_of_mem _ hq')
    obtain ⟨hc, hm⟩ := List.mem_filter.mp hc
    exact of_decide_eq_true hm ((hmid c hc).mpr (hq ▸ ho))
  -- and what is dropped is the pod's, so every other pod is as it was
  · rw [podsOf_mem_local P executorID h hp' (filter_filter_of_dropped fun c hc hk => ?_)
      (filter_filter_of_dropped fun v hv hk => ?_), and_iff_left hq]
    · rw [(hmid c hc).mp (by simpa using hk)]
      simpa using Ne.symm hq
    · rw [hvol v hv hk]
      simpa using Ne.symm hq

end Rebuilt

theorem filter_running_map_stopped (ids : List Nat) (q : Labels → Bool) : ∀ l : List Container,
    (l.map fun c => if c.id ∈ ids then { c with running := false } else c).filter
        (fun c => c.running && q c.labels) =
      (l.filter fun c => c.running && q c.labels).filter fun c => c.id ∉ ids
  | [] => rfl
  | x :: l => by
    have ih := filter_running_map_stopped ids q l
    by_cases hx : x.id ∈ ids
    · rw [List.map_cons, if_pos hx, List.filter_cons_of_neg (by simp), ih, List.filter_cons]
      split <;> simp [hx]
    · rw [List.map_cons, if_neg hx, List.filter_cons, List.filter_cons, ih]
      split <;> simp [hx]

section GetPods

variable (P : Package) (d : DockerDriver)

theorem getPods_objects (all : Bool) (w : World) : (getPods P d all w).2.objects = w.objects :=
  ((call_preserves (J := (· = w.objects)) _ _ fun _ h => h).bind fun _ =>
    (call_preserves (J := (· = w.objects)) _ _ fun _ h => h).bind fun _ => Preserves.fromExcept _ :
      Preserves (fun w' => w'.objects = w.objects) (getPods P d all)) w rfl

theorem getPods_podsOf {all : Bool} {w w1 : World} {pods : List DockerPod}
    (h : getPods P d all w = (.ok pods, w1)) :
    podsOf P d.executorID
      (w.objects.containers.filter fun c => (all || c.running) && matchesLabels c.labels [])
      w.objects.volumes = .ok pods := by
  unfold getPods at h
  obtain ⟨cs, w2, h1, h⟩ := bind_eq_ok.mp h
  obtain ⟨vs, w3, h2, h⟩ := bind_eq_ok.mp h
  obtain ⟨rfl, hw2⟩ := containerList_ok h1
  obtain ⟨rfl, -⟩ := call_ok h2
  simp only [fromExcept_apply, Prod.mk.injEq, hw2] at h
  exact h.1

theorem getPods_accepting_ok {all : Bool} {w w1 : World} {pods : List DockerPod}
    (hacc : Accepting w) (h : getPods P d all w = (.ok pods, w1)) :
    let cs := w.objects.containers.filter fun c => (all || c.running) && matchesLabels c.labels []
    (∀ c ∈ cs, (ownedPodID P d.executorID c.labels).isSome → (indexOf P c).isSome) ∧
      (pods.map DockerPod.id).Nodup ∧
      (∀ podID, podID ∈ pods.map DockerPod.id ↔
        ∃ c ∈ cs, ownedPodID P d.executorID c.labels = some podID) ∧
      (∀ pod ∈ pods, pod = rebuiltPod P d.executorID pod.id cs w.objects.volumes) ∧
      w1.objects = w.objects ∧ Accepting w1 := by
  have hacc1 : Accepting (getPods P d all w).2 := ((call_accepting _ _).bind fun _ =>
    (call_accepting _ _).bind fun _ => Preserves.fromExcept _ :
      Preserves Accepting (getPods P d all))
      w hacc
  rw [h] at hacc1
  obtain ⟨ht, hn, hmem, hre⟩ := podsOf_ok_spec P d.executorID (getPods_podsOf P d h)
  exact ⟨ht, hn, hmem, hre, by simpa [h] using getPods_objects P d all w, hacc1⟩

/-- On an engine that accepts every call, whose containers have distinct IDs and
whose volumes have distinct names, removing one pod `GetPods` returned leaves
`GetPods` returning exactly the other pods it returned, each as it was: `Remove`
deletes the pod's listed containers and its volumes, and nothing of another
pod. -/
theorem getPods_remove_others {all : Bool} {w w1 : World} {pods : List DockerPod} {pod : DockerPod}
    (hacc : Accepting w) (hids : (w.objects.containers.map (·.id)).Nodup)
    (hnames : (w.objects.volumes.map (·.name)).Nodup)
    (h : getPods P d all w = (.ok pods, w1)) (hpod : pod ∈ pods) :
    (pod.remove w1).1 = .ok () ∧ ∃ pods', (getPods P d all (pod.remove w1).2).1 = .ok pods' ∧
      pods'.Perm (pods.filter fun q => q.id ≠ pod.id) := by
  obtain ⟨-, -, -, hre, hw1, a1⟩ := getPods_accepting_ok P d hacc h
  set cs := w.objects.containers.filter fun c => (all || c.running) && matchesLabels c.labels []
  set vs := w.objects.volumes
  set names := [pod.toolboxVolumeName, pod.projectVolumeName].filter (· ≠ "")
  obtain ⟨hr, aR, hcR, hvR, -⟩ := pod.remove_accepting a1
  -- a removed volume is a volume of the pod
  have hvol : ∀ v ∈ vs, decide (v.name ∉ names) = false →
      ownedPodID P d.executorID v.labels = some pod.id := fun v hv hk => by
    have := rebuiltPod_volume_owned P d.executorID pod.id cs hnames hv
    rw [← hre pod hpod] at this
    exact this (not_not.mp (of_decide_eq_false hk))
  obtain ⟨pods', hp', hperm⟩ := podsOf_drop_pod P d.executorID (getPods_podsOf P d h)
    (hids.sublist ((List.filter_sublist _).map _)) hpod hvol
  have e2 : (getPods P d all (pod.remove w1).2).1 = podsOf P d.executorID
      (cs.filter fun c => c.id ∉ pod.containers.map (·.container.id))
      (vs.filter fun v => v.name ∉ names) := by
    rw [getPods_accepting P d all aR, hcR, hvR, hw1, List.filter_filter, List.filter_filter]
    simp only [cs, Bool.and_comm]
  exact ⟨hr, pods', e2.trans hp', hperm⟩

/-- On an engine that accepts every call and whose containers have distinct IDs,
stopping one pod that `GetPods` of the running containers returned leaves that
listing returning exactly the other pods, each as it was. -/
theorem getPods_stop_others {w w1 : World} {pods : List DockerPod} {pod : DockerPod}
    (hacc : Accepting w) (hids : (w.objects.containers.map (·.id)).Nodup)
    (h : getPods P d false w = (.ok pods, w1)) (hpod : pod ∈ pods) :
    (pod.stop w1).1 = .ok () ∧ ∃ pods', (getPods P d false (pod.stop w1).2).1 = .ok pods' ∧
      pods'.Perm (pods.filter fun q => q.id ≠ pod.id) := by
  obtain ⟨-, -, -, -, hw1, a1⟩ := getPods_accepting_ok P d hacc h
  obtain ⟨hs, aS⟩ := pod.stop_accepting a1
  obtain ⟨hcS, hvS, -⟩ := pod.stop_objects a1
  -- `Stop` keeps every volume
  have hkeep : ∀ v ∈ w.objects.volumes, (fun _ => true : Volume → Bool) v = false →
      ownedPodID P d.executorID v.labels = some pod.id := fun _ _ h => nomatch h
  obtain ⟨pods', hp', hperm⟩ := podsOf_drop_pod P d.executorID (getPods_podsOf P d h)
    (hids.sublist ((List.filter_sublist _).map _)) hpod hkeep
  refine ⟨hs, pods', ?_, hperm⟩
  rw [getPods_accepting P d false aS, hcS, hvS, hw1, ← hp']
  simp only [Bool.false_or, List.filter_true]
  rw [filter_running_map_stopped _ fun labels => matchesLabels labels []]

theorem podsOf_newPod_adds {podConfig : PodConfig} {all : Bool} {pod : DockerPod}
    {w w' : World} {pods pods' : List DockerPod} (h : newPod P d podConfig w = (.ok pod, w'))
    (hc : ∀ c ∈ w.objects.containers, ownedPodID P d.executorID c.labels ≠ some podConfig.id)
    (hg : podsOf P d.executorID
      (w.objects.containers.filter fun c => (all || c.running) && matchesLabels c.labels [])
      w.objects.volumes = .ok pods)
    (hg' : podsOf P d.executorID
      (w'.objects.containers.filter fun c => (all || c.running) && matchesLabels c.labels [])
      w'.objects.volumes = .ok pods') :
    ∃ gp, gp.id = podConfig.id ∧ pods'.Perm (gp :: pods) := by
  have hfresh : ∀ c ∈ w.objects.containers, c.running = true →
      matchesLabels c.labels (searchLabels P d podConfig) = false := fun c hc' _ =>
    Bool.eq_false_iff.mpr fun hm => hc c hc' (ownedPodID_of_matchesLabels P d hm)
  obtain ⟨tv, pv, H, created, n, acc, main, -, hcs, hH, hvs, htv, hpv, hF, -, hmain, -⟩ :=
    newPod_created P d h hfresh
  obtain ⟨-, hn, hmem, -⟩ := podsOf_ok_spec P d.executorID hg
  obtain ⟨-, hn', hmem', -⟩ := podsOf_ok_spec P d.executorID hg'
  have hrun := forall_running_owned P d hF
  have hlist : ∀ c : Container, c.running = true →
      ((all || c.running) && matchesLabels c.labels []) = true :=
    fun c hr => by simp [hr, matchesLabels]
  have hvol : ∀ name, ownedPodID P d.executorID (volumeLabels P d podConfig.id name) =
      some podConfig.id := fun _ => by simp [ownedPodID, volumeLabels]
  -- the containers and volumes of every other pod are those of before
  have hcs_q : ∀ q, q ≠ podConfig.id →
      (w'.objects.containers.filter fun c => (all || c.running) && matchesLabels c.labels []).filter
        (fun c => ownedPodID P d.executorID c.labels = some q) =
      (w.objects.containers.filter fun c => (all || c.running) && matchesLabels c.labels []).filter
        (fun c => ownedPodID P d.executorID c.labels = some q) := by
    intro q hq
    have hrest :
        ((H ++ created).filter fun c => (all || c.running) && matchesLabels c.labels []).filter
        (fun c => ownedPodID P d.executorID c.labels = some q) = [] :=
      List.filter_eq_nil_iff.mpr fun c hc' => by
        rcases List.mem_append.mp (List.mem_filter.mp hc').1 with hc'' | hc''
        · simp [hH c hc'', ownedPodID]
        · simpa [(hrun c hc'').2] using Ne.symm hq
    rw [hcs, List.append_assoc, List.filter_append, List.filter_append, hrest, List.append_nil]
  have hvs_q : ∀ q, q ≠ podConfig.id →
      w'.objects.volumes.filter (fun v => ownedPodID P d.executorID v.labels = some q) =
        w.objects.volumes.filter (fun v => ownedPodID P d.executorID v.labels = some q) := by
    intro q hq
    have hpair : [tv, pv].filter (fun v => ownedPodID P d.executorID v.labels = some q) = [] := by
      simpa [htv, hpv, hvol] using Ne.symm hq
    rw [hvs, List.filter_append, hpair, List.append_nil]
  -- the pod's containers are listed, so `GetPods` returns a pod of its ID
  obtain ⟨c0, hc0⟩ : ∃ c0, c0 ∈ created := by
    cases created with
    | nil => simp at hmain
    | cons c0 _ => exact ⟨c0, List.mem_cons_self _ _⟩
  have hlisted : c0 ∈ w'.objects.containers.filter
      fun c => (all || c.running) && matchesLabels c.labels [] :=
    List.mem_filter.mpr ⟨by simp [hcs, hc0], hlist c0 (hrun c0 hc0).1⟩
  obtain ⟨gp, hgp, hgid⟩ :=
    List.mem_map.mp ((hmem' podConfig.id).mpr ⟨c0, hlisted, (hrun c0 hc0).2⟩)
  -- which none of the pods of before has
  have hold : ∀ q ∈ pods, q.id ≠ podConfig.id := fun q hq he => by
    obtain ⟨c, hc', ho⟩ := (hmem q.id).mp (List.mem_map_of_mem _ hq)
    exact hc c (List.mem_filter.mp hc').1 (he ▸ ho)
  refine ⟨gp, hgid, ?_⟩
  rw [List.perm_ext_iff_of_nodup (List.Nodup.of_map _ hn')
    (List.nodup_cons.mpr ⟨fun hm => hold gp hm hgid, List.Nodup.of_map _ hn⟩)]
  intro q
  rw [List.mem_cons]
  by_cases hq : q.id = podConfig.id
  · have hq' : q ∉ pods := fun hm => hold q hm hq
    simp only [hq', or_false]
    exact ⟨fun hm => List.inj_on_of_nodup_map hn' hm hgp (hq.trans hgid.symm), fun he => he ▸ hgp⟩
  · have hne : q ≠ gp := fun he => hq (he ▸ hgid)
    rw [podsOf_mem_local P d.executorID hg hg'
      (hcs_q _ hq) (hvs_q _ hq)]
    simp only [hne, false_or]

/-- On an engine that holds no container of the pod's ID, a successful `NewPod`
adds exactly one pod to what a successful `GetPods` returns, under the pod's ID,
and leaves the others as they were. -/
theorem getPods_newPod_adds {podConfig : PodConfig} {all : Bool} {pod : DockerPod}
    {w w' w1 w1' : World} {pods pods' : List DockerPod} (h : newPod P d podConfig w = (.ok pod, w'))
    (hc : ∀ c ∈ w.objects.containers, ownedPodID P d.executorID c.labels ≠ some podConfig.id)
    (hg : getPods P d all w = (.ok pods, w1)) (hg' : getPods P d all w' = (.ok pods', w1')) :
    ∃ gp, gp.id = podConfig.id ∧ pods'.Perm (gp :: pods) :=
  podsOf_newPod_adds P d h hc (getPods_podsOf P d hg) (getPods_podsOf P d hg')

end GetPods

theorem getPods_twoPodsWorld (all : Bool) : ∃ pods w1,
    getPods Package.spec sampleDriver all twoPodsWorld = (.ok pods, w1) ∧ pods.length = 2 := by
  have hok : (getPods Package.spec sampleDriver all twoPodsWorld).1.toOption.map List.length =
      some 2 := by
    cases all <;> decide
  match hr : getPods Package.spec sampleDriver all twoPodsWorld, hok with
  | (.ok pods, w1), hlen => exact ⟨pods, w1, rfl, Option.some.inj hlen⟩

/-- Removing either pod of the two leaves `GetPods` returning the other. -/
theorem getPods_remove_others_twoPods : ∃ pods w1,
    getPods Package.spec sampleDriver true twoPodsWorld = (.ok pods, w1) ∧ pods.length = 2 ∧
      ∀ pod ∈ pods, Accepting twoPodsWorld ∧ (twoPodsWorld.objects.containers.map (·.id)).Nodup ∧
        (twoPodsWorld.objects.volumes.map (·.name)).Nodup ∧ (pod.remove w1).1 = .ok () ∧
        ∃ pods', (getPods Package.spec sampleDriver true (pod.remove w1).2).1 = .ok pods' ∧
          pods'.Perm (pods.filter fun q => q.id ≠ pod.id) := by
  obtain ⟨pods, w1, hr, hlen⟩ := getPods_twoPodsWorld true
  have hacc : Accepting twoPodsWorld := by simp [Accepting, twoPodsWorld]
  have hids : (twoPodsWorld.objects.containers.map (·.id)).Nodup := by decide
  have hnames : (twoPodsWorld.objects.volumes.map (·.name)).Nodup := by decide
  exact ⟨pods, w1, hr, hlen, fun pod hpod =>
    ⟨hacc, hids, hnames, getPods_remove_others Package.spec sampleDriver hacc hids hnames hr hpod⟩⟩

/-- Stopping either pod of the two leaves `GetPods` of the running containers
returning the other. -/
theorem getPods_stop_others_twoPods : ∃ pods w1,
    getPods Package.spec sampleDriver false twoPodsWorld = (.ok pods, w1) ∧ pods.length = 2 ∧
      ∀ pod ∈ pods, Accepting twoPodsWorld ∧ (twoPodsWorld.objects.containers.map (·.id)).Nodup ∧
        (pod.stop w1).1 = .ok () ∧
        ∃ pods', (getPods Package.spec sampleDriver false (pod.stop w1).2).1 = .ok pods' ∧
          pods'.Perm (pods.filter fun q => q.id ≠ pod.id) := by
  obtain ⟨pods, w1, hr, hlen⟩ := getPods_twoPodsWorld false
  have hacc : Accepting twoPodsWorld := by simp [Accepting, twoPodsWorld]
  have hids : (twoPodsWorld.objects.containers.map (·.id)).Nodup := by decide
  exact ⟨pods, w1, hr, hlen, fun pod hpod =>
    ⟨hacc, hids, getPods_stop_others Package.spec sampleDriver hacc hids hr hpod⟩⟩

/-- A third pod started next to the two. -/
theorem getPods_newPod_adds_sample : ∃ pod w' pods w1 pods' w1',
    newPod Package.spec sampleDriver thirdPodConfig twoPodsWorld = (.ok pod, w') ∧
      (∀ c ∈ twoPodsWorld.objects.containers,
        ownedPodID Package.spec sampleDriver.executorID c.labels ≠ some thirdPodConfig.id) ∧
      getPods Package.spec sampleDriver true twoPodsWorld = (.ok pods, w1) ∧ pods.length = 2 ∧
      getPods Package.spec sampleDriver true w' = (.ok pods', w1') ∧
      ∃ gp, gp.id = thirdPodConfig.id ∧ pods'.Perm (gp :: pods) := by
  obtain ⟨pods, w1, hg, hlen⟩ := getPods_twoPodsWorld true
  have hc : ∀ c ∈ twoPodsWorld.objects.containers,
      ownedPodID Package.spec sampleDriver.executorID c.labels ≠ some thirdPodConfig.id := by
    decide
  have hok : (match newPod Package.spec sampleDriver thirdPodConfig twoPodsWorld with
      | (.ok _, w') => (getPods Package.spec sampleDriver true w').1.toOption.isSome
      | (.error _, _) => false) = true := by
    decide
  match hr : newPod Package.spec sampleDriver thirdPodConfig twoPodsWorld, hok with
  | (.ok pod, w'), hok =>
    have hok : (getPods Package.spec sampleDriver true w').1.toOption.isSome = true := hok
    match hg' : getPods Package.spec sampleDriver true w', hok with
    | (.ok pods', w1'), _ =>
      exact ⟨pod, w', pods, w1, pods', w1', rfl, hc, hg, hlen, hg',
        getPods_newPod_adds Package.spec sampleDriver hr hc hg hg'⟩

end Agola.Driver
