import Agola.Driver.Pod

/-!
# Rebuilding pods from labels: `GetPods`

`GetPods` lists every container and volume and regroups the ones of this
executor by their pod ID label. The first loop creates one empty pod per pod
ID, the second adds the containers, the third attaches the volumes. In the
second loop a container whose index label is missing or does not parse
deletes its pod, and the loop then goes on with the deleted pod's nil pointer.
-/

namespace Agola.Driver

section GetPods

variable (P : Package) (executorID : String)

/-- The two checks `GetPods` makes before it looks at a container or a volume:
the object carries this executor's ID, and some pod ID. -/
def ownedPodID (labels : Labels) : Option String :=
  if labels.lookup P.executorIDKey = some executorID then labels.lookup P.podIDKey else none

/-- The index a container's label gives: `strconv.Atoi` of the label, or of
`""` when the label is missing. -/
def indexOf (c : Container) : Option Int :=
  atoi ((c.labels.lookup P.containerIndexKey).getD "")

def emptyPod (podID : String) : DockerPod where
  id := podID
  labels := []
  containers := []
  containersMap := []
  toolboxVolumeName := ""
  projectVolumeName := ""
  executorID := executorID
  initVolumeDir := ""

/-- The first container loop of `GetPods`. -/
def collectPods : GoMap DockerPod → List Container → GoMap DockerPod
  | m, [] => m
  | m, c :: cs => match ownedPodID P executorID c.labels with
    | none => collectPods m cs
    | some podID =>
      collectPods (if (m.lookup podID).isSome then m else m.set podID (emptyPod executorID podID)) cs

/-- The labels a pod takes from its index-0 container: those with the driver's
prefix, except the container name. -/
def podLabels (labels : Labels) : Labels :=
  labels.filter fun p => hasPrefix p.1 P.labelPrefix && p.1 != P.containerNameKey

/-- What the second loop does to the pod of a container it has parsed. -/
def fillPod (pod : DockerPod) (c : Container) (cIndex : Int) : DockerPod :=
  let pod := pod.addContainer ⟨cIndex, c.sortMounts⟩ (c.labels.lookup P.containerNameKey)
  if cIndex = 0 then { pod with labels := podLabels P c.labels } else pod

/-- The second container loop of `GetPods`. A missing or unparsable index label
deletes the container's pod, and the loop then reads the deleted pod: the nil
pointer dereference of the Go code. -/
def fillPods : GoMap DockerPod → List Container → Except DriverError (GoMap DockerPod)
  | m, [] => .ok m
  | m, c :: cs => match ownedPodID P executorID c.labels with
    | none => fillPods m cs
    | some podID =>
      let cIndexStr? := c.labels.lookup P.containerIndexKey
      let m := if cIndexStr?.isNone then m.erase podID else m
      let cIndex? := atoi (cIndexStr?.getD "")
      let m := if cIndex?.isNone then m.erase podID else m
      match m.lookup podID with
      | none => .error .nilDereference
      | some pod => fillPods (m.set podID (fillPod P pod c (cIndex?.getD 0))) cs

/-- What the volume loop does to the pod of a volume. -/
def attachVolume (pod : DockerPod) (v : Volume) : DockerPod :=
  match v.labels.lookup P.volumeNameKey with
  | some name =>
    if name = P.toolboxVolumeName then { pod with toolboxVolumeName := v.name }
    else if name = P.projectVolumeName then { pod with projectVolumeName := v.name }
    else pod
  | none => pod

/-- The volume loop of `GetPods`: volumes of absent pods are skipped. -/
def attachVolumes : GoMap DockerPod → List Volume → GoMap DockerPod
  | m, [] => m
  | m, v :: vs => match ownedPodID P executorID v.labels with
    | none => attachVolumes m vs
    | some podID => match m.lookup podID with
      | none => attachVolumes m vs
      | some pod => attachVolumes (m.set podID (attachVolume P pod v)) vs

/-- `GetPods` on the containers and volumes the engine listed. The pods come in
the map's order, which Go leaves unspecified. -/
def podsOf (containers : List Container) (volumes : List Volume) :
    Except DriverError (List DockerPod) := do
  let m ← fillPods P executorID (collectPods P executorID [] containers) containers
  let m := attachVolumes P executorID m volumes
  pure (m.map fun p => { p.2 with containers := sortByIndex p.2.containers })

/-- `DockerDriver.GetPods`. -/
def getPods (d : DockerDriver) (all : Bool) : DriverM (List DockerPod) := do
  let containers ← containerList [] all
  let volumes ← volumeList
  DriverM.fromExcept (podsOf P d.executorID containers volumes)

/-! ## The panic of the second loop -/

theorem atoi_empty : atoi "" = none := by decide

theorem fillPods_cons_owned {m : GoMap DockerPod} {c : Container} {cs : List Container}
    {podID : String} (h : ownedPodID P executorID c.labels = some podID) :
    fillPods P executorID m (c :: cs) = match indexOf P c with
      | none => .error .nilDereference
      | some i => match m.lookup podID with
        | none => .error .nilDereference
        | some pod => fillPods P executorID (m.set podID (fillPod P pod c i)) cs := by
  simp only [fillPods, h, indexOf]
  cases hl : c.labels.lookup P.containerIndexKey with
  | none => simp [atoi_empty]
  | some s => cases ha : atoi s <;> simp [ha]

theorem fillPods_cons_unowned {m : GoMap DockerPod} {c : Container} {cs : List Container}
    (h : ownedPodID P executorID c.labels = none) :
    fillPods P executorID m (c :: cs) = fillPods P executorID m cs := by
  simp only [fillPods, h]

def Covers (m : GoMap DockerPod) (cs : List Container) : Prop :=
  ∀ c ∈ cs, ∀ podID, ownedPodID P executorID c.labels = some podID → (m.lookup podID).isSome

theorem Covers.set {m : GoMap DockerPod} {c : Container} {cs : List Container}
    (hm : Covers P executorID m (c :: cs)) (podID : String) (pod : DockerPod) :
    Covers P executorID (m.set podID pod) cs := by
  intro c' hc' p hp
  exact (GoMap.isSome_lookup_set m podID p pod).mpr (.inr (hm c' (List.mem_cons_of_mem _ hc') p hp))

theorem isSome_lookup_setIfAbsent {m : GoMap DockerPod} {podID p : String} (pod : DockerPod)
    (h : p = podID ∨ (m.lookup p).isSome) :
    ((if (m.lookup podID).isSome then m else m.set podID pod).lookup p).isSome := by
  split
  · rcases h with rfl | h <;> assumption
  · exact (GoMap.isSome_lookup_set m podID p pod).mpr h

/-- The second loop fails exactly when some container of this executor carries
no index label that `strconv.Atoi` parses. -/
theorem fillPods_error_iff {m : GoMap DockerPod} {cs : List Container}
    (hm : Covers P executorID m cs) :
    (∃ e, fillPods P executorID m cs = .error e) ↔
      ∃ c ∈ cs, (ownedPodID P executorID c.labels).isSome ∧ indexOf P c = none := by
  induction cs generalizing m with
  | nil => simp [fillPods]
  | cons c cs ih =>
    cases ho : ownedPodID P executorID c.labels with
    | none =>
      rw [fillPods_cons_unowned P executorID ho, ih (fun c' hc' => hm c' (List.mem_cons_of_mem _ hc'))]
      simp [ho]
    | some podID =>
      rw [fillPods_cons_owned P executorID ho]
      cases hi : indexOf P c with
      | none => exact iff_of_true ⟨_, rfl⟩ ⟨c, List.mem_cons_self _ _, by simp [ho], hi⟩
      | some i =>
        obtain ⟨pod, hpod⟩ := Option.isSome_iff_exists.mp (hm c (List.mem_cons_self _ _) podID ho)
        simp only [hpod]
        rw [ih (hm.set P executorID podID _)]
        simp [hi]

theorem collectPods_covers (m : GoMap DockerPod) (cs : List Container) :
    ∀ ds, (∀ c ∈ ds, ∀ podID, ownedPodID P executorID c.labels = some podID →
      (m.lookup podID).isSome ∨ ∃ c' ∈ cs, ownedPodID P executorID c'.labels = some podID) →
    Covers P executorID (collectPods P executorID m cs) ds := by
  induction cs generalizing m with
  | nil => intro ds h c hc p hp; simpa [collectPods] using h c hc p hp
  | cons c cs ih =>
    intro ds h
    cases ho : ownedPodID P executorID c.labels with
    | none =>
      simp only [collectPods, ho]
      refine ih m ds fun c' hc' p hp => ?_
      rcases h c' hc' p hp with h1 | ⟨c'', hc'', h2⟩
      · exact .inl h1
      · rcases List.mem_cons.mp hc'' with rfl | hc''
        · rw [ho] at h2; cases h2
        · exact .inr ⟨c'', hc'', h2⟩
    | some podID =>
      simp only [collectPods, ho]
      refine ih _ ds fun c' hc' p hp => ?_
      rcases h c' hc' p hp with h1 | ⟨c'', hc'', h2⟩
      · exact .inl (isSome_lookup_setIfAbsent _ (.inr h1))
      · rcases List.mem_cons.mp hc'' with rfl | hc''
        · exact .inl (isSome_lookup_setIfAbsent _ (.inl (Option.some.inj (h2.symm.trans ho))))
        · exact .inr ⟨c'', hc'', h2⟩

/-- `GetPods` panics, whatever the volumes, exactly when some container of this
executor has a pod ID label but no index label that `strconv.Atoi` parses. -/
theorem podsOf_error_iff (cs : List Container) (vs : List Volume) :
    (∃ e, podsOf P executorID cs vs = .error e) ↔
      ∃ c ∈ cs, (ownedPodID P executorID c.labels).isSome ∧ indexOf P c = none := by
  have hcov := collectPods_covers P executorID [] cs cs fun c hc p hp => .inr ⟨c, hc, hp⟩
  rw [← fillPods_error_iff P executorID hcov]
  unfold podsOf
  cases fillPods P executorID (collectPods P executorID [] cs) cs <;>
    simp [bind, Except.bind, pure, Except.pure]

/-- One container of this executor that has a pod ID but no index label: the
second loop deletes its pod and then dereferences it, so `GetPods` panics
instead of dropping the pod. -/
theorem podsOf_unindexed_container_panics :
    podsOf Package.spec "e1"
      [⟨0, { image := "alpine:3", labels := [(Package.spec.executorIDKey, "e1"),
        (Package.spec.podIDKey, "p1")] }, true⟩] [] = .error .nilDereference := by
  decide

/-! ## What `GetPods` returns when no container is tainted -/

/-- The second loop's work on one pod: the containers of that pod ID, in
listing order. -/
def fillPodFrom (podID : String) : DockerPod → List Container → DockerPod
  | pod, [] => pod
  | pod, c :: cs => fillPodFrom podID
      (if ownedPodID P executorID c.labels = some podID then fillPod P pod c ((indexOf P c).getD 0)
        else pod) cs

def attachFrom (podID : String) : DockerPod → List Volume → DockerPod
  | pod, [] => pod
  | pod, v :: vs => attachFrom podID
      (if ownedPodID P executorID v.labels = some podID then attachVolume P pod v else pod) vs

theorem fillPodFrom_cons_of_ne (podID : String) (c : Container)
    (h : ownedPodID P executorID c.labels ≠ some podID) (pod : DockerPod) (cs : List Container) :
    fillPodFrom P executorID podID pod (c :: cs) = fillPodFrom P executorID podID pod cs := by
  simp [fillPodFrom, h]

theorem attachFrom_cons_of_ne (podID : String) (v : Volume)
    (h : ownedPodID P executorID v.labels ≠ some podID) (pod : DockerPod) (vs : List Volume) :
    attachFrom P executorID podID pod (v :: vs) = attachFrom P executorID podID pod vs := by
  simp [attachFrom, h]

/-- The pod `GetPods` returns for a pod ID: an empty pod, filled with that pod
ID's containers, then with its volumes, its members sorted by index. -/
def rebuiltPod (podID : String) (cs : List Container) (vs : List Volume) : DockerPod :=
  let pod := attachFrom P executorID podID
    (fillPodFrom P executorID podID (emptyPod executorID podID) cs) vs
  { pod with containers := sortByIndex pod.containers }

theorem lookup_collectPods_of_some {m : GoMap DockerPod} {k : String} {pod : DockerPod}
    (cs : List Container) (h : m.lookup k = some pod) :
    (collectPods P executorID m cs).lookup k = some pod := by
  induction cs generalizing m with
  | nil => exact h
  | cons c cs ih =>
    simp only [collectPods]
    split
    · exact ih h
    · refine ih ?_
      split
      · exact h
      · rename_i podID _ hn
        by_cases hk : k = podID
        · subst hk; simp [h] at hn
        · simpa [hk] using h

theorem lookup_collectPods_of_none {m : GoMap DockerPod} {k : String}
    (cs : List Container) (h : m.lookup k = none) :
    (collectPods P executorID m cs).lookup k =
      if ∃ c ∈ cs, ownedPodID P executorID c.labels = some k then some (emptyPod executorID k)
      else none := by
  induction cs generalizing m with
  | nil => rw [if_neg (by simp)]; exact h
  | cons c cs ih =>
    simp only [collectPods]
    cases ho : ownedPodID P executorID c.labels with
    | none => simp [ih h, ho]
    | some podID =>
      by_cases hk : k = podID
      · subst hk
        simp [h, ho, lookup_collectPods_of_some P executorID cs (GoMap.lookup_set_self m k _)]
      · have h' : (if (m.lookup podID).isSome then m
            else m.set podID (emptyPod executorID podID)).lookup k = none := by
          split <;> simp [hk, h]
        simp only [ih h', List.mem_cons, exists_eq_or_imp, ho, Option.some.injEq, Ne.symm hk, false_or]

theorem lookup_collectPods (cs : List Container) (k : String) :
    (collectPods P executorID [] cs).lookup k =
      if ∃ c ∈ cs, ownedPodID P executorID c.labels = some k then some (emptyPod executorID k)
      else none :=
  lookup_collectPods_of_none P executorID cs rfl

theorem collectPods_nodup {m : GoMap DockerPod} (cs : List Container)
    (h : (m.map Prod.fst).Nodup) : ((collectPods P executorID m cs).map Prod.fst).Nodup := by
  induction cs generalizing m with
  | nil => exact h
  | cons c cs ih =>
    simp only [collectPods]
    split
    · exact ih h
    · exact ih (by split <;> first | exact h | exact GoMap.nodup_set _ _ h)

theorem fillPods_ok {m : GoMap DockerPod} {cs : List Container} (hm : Covers P executorID m cs)
    (ht : ∀ c ∈ cs, (ownedPodID P executorID c.labels).isSome → (indexOf P c).isSome) :
    ∃ m', fillPods P executorID m cs = .ok m' ∧
      (∀ k, m'.lookup k = (m.lookup k).map (fillPodFrom P executorID k · cs)) ∧
      ((m.map Prod.fst).Nodup → (m'.map Prod.fst).Nodup) := by
  induction cs generalizing m with
  | nil => exact ⟨m, rfl, fun k => by cases m.lookup k <;> rfl, id⟩
  | cons c cs ih =>
    have ht' := fun c' hc' => ht c' (List.mem_cons_of_mem _ hc')
    cases ho : ownedPodID P executorID c.labels with
    | none =>
      obtain ⟨m', hm', hl, hn⟩ := ih (fun c' hc' => hm c' (List.mem_cons_of_mem _ hc')) ht'
      refine ⟨m', by rw [fillPods_cons_unowned P executorID ho, hm'], fun k => ?_, hn⟩
      rw [hl]
      simp only [fillPodFrom_cons_of_ne P executorID k c (by simp [ho])]
    | some podID =>
      obtain ⟨i, hi⟩ := Option.isSome_iff_exists.mp (ht c (List.mem_cons_self _ _) (by simp [ho]))
      obtain ⟨pod, hpod⟩ := Option.isSome_iff_exists.mp (hm c (List.mem_cons_self _ _) podID ho)
      obtain ⟨m', hm', hl, hn⟩ := ih (hm.set P executorID podID (fillPod P pod c i)) ht'
      refine ⟨m', by rw [fillPods_cons_owned P executorID ho, hi]; simpa [hpod] using hm',
        fun k => ?_, fun h => hn (GoMap.nodup_set _ _ h)⟩
      by_cases hk : k = podID
      · subst hk; simp [hl, hpod, fillPodFrom, ho, hi]
      · rw [hl, GoMap.lookup_set_ne _ _ hk]
        simp only [fillPodFrom_cons_of_ne P executorID k c (by simp [ho, Ne.symm hk])]

theorem attachVolumes_lookup (m : GoMap DockerPod) (vs : List Volume) (k : String) :
    (attachVolumes P executorID m vs).lookup k = (m.lookup k).map (attachFrom P executorID k · vs) := by
  induction vs generalizing m with
  | nil => simp only [attachVolumes]; cases m.lookup k <;> rfl
  | cons v vs ih =>
    cases ho : ownedPodID P executorID v.labels with
    | none =>
      simp only [attachVolumes, ho]
      rw [ih]
      simp only [attachFrom_cons_of_ne P executorID k v (by simp [ho])]
    | some podID =>
      cases hpod : m.lookup podID with
      | none =>
        simp only [attachVolumes, ho, hpod]
        rw [ih]
        by_cases hk : k = podID
        · subst hk; simp [hpod]
        · simp only [attachFrom_cons_of_ne P executorID k v (by simp [ho, Ne.symm hk])]
      | some pod =>
        simp only [attachVolumes, ho, hpod]
        rw [ih]
        by_cases hk : k = podID
        · subst hk; simp [hpod, attachFrom, ho]
        · rw [GoMap.lookup_set_ne _ _ hk]
          simp only [attachFrom_cons_of_ne P executorID k v (by simp [ho, Ne.symm hk])]

theorem attachVolumes_nodup {m : GoMap DockerPod} (vs : List Volume)
    (h : (m.map Prod.fst).Nodup) : ((attachVolumes P executorID m vs).map Prod.fst).Nodup := by
  induction vs generalizing m with
  | nil => exact h
  | cons v vs ih =>
    simp only [attachVolumes]
    split
    · exact ih h
    · split
      · exact ih h
      · exact ih (GoMap.nodup_set _ _ h)

theorem addContainer_lookup_empty (pod : DockerPod) (dc : DockerContainer) (name? : Option String) :
    (pod.addContainer dc name?).containersMap.lookup "" = pod.containersMap.lookup "" := by
  unfold DockerPod.addContainer
  rcases name? with _ | name
  · rfl
  · dsimp only
    split
    · exact GoMap.lookup_set_ne _ _ (Ne.symm ‹_›)
    · rfl

theorem fillPod_eq (pod : DockerPod) (c : Container) (cIndex : Int) :
    ∃ l, fillPod P pod c cIndex =
      { pod.addContainer ⟨cIndex, c.sortMounts⟩ (c.labels.lookup P.containerNameKey) with labels := l } := by
  unfold fillPod
  split
  · exact ⟨_, rfl⟩
  · exact ⟨pod.labels, rfl⟩

theorem fillPodFrom_eq (podID : String) (pod : DockerPod) (cs : List Container) :
    ∃ l dcs m, fillPodFrom P executorID podID pod cs =
        { pod with labels := l, containers := dcs, containersMap := m } ∧
      m.lookup "" = pod.containersMap.lookup "" := by
  induction cs generalizing pod with
  | nil => exact ⟨pod.labels, pod.containers, pod.containersMap, rfl, rfl⟩
  | cons c cs ih =>
    by_cases ho : ownedPodID P executorID c.labels = some podID
    · obtain ⟨l₀, hf⟩ := fillPod_eq P pod c ((indexOf P c).getD 0)
      obtain ⟨l, dcs, m, h, hm⟩ := ih (fillPod P pod c ((indexOf P c).getD 0))
      refine ⟨l, dcs, m, ?_, ?_⟩
      · simp only [fillPodFrom, if_pos ho]
        rw [h, hf]
        rfl
      · rw [hm, hf]
        exact addContainer_lookup_empty _ _ _
    · rw [fillPodFrom_cons_of_ne P executorID podID c ho]
      exact ih pod

theorem fillPodFrom_id (podID : String) (pod : DockerPod) (cs : List Container) :
    (fillPodFrom P executorID podID pod cs).id = pod.id := by
  obtain ⟨l, dcs, m, h, -⟩ := fillPodFrom_eq P executorID podID pod cs
  rw [h]

theorem fillPodFrom_append (podID : String) (pod : DockerPod) (cs cs' : List Container) :
    fillPodFrom P executorID podID pod (cs ++ cs') =
      fillPodFrom P executorID podID (fillPodFrom P executorID podID pod cs) cs' := by
  induction cs generalizing pod with
  | nil => rfl
  | cons c cs ih => exact ih _

theorem fillPodFrom_of_not_owned (podID : String) (pod : DockerPod) (cs : List Container)
    (h : ∀ c ∈ cs, ownedPodID P executorID c.labels ≠ some podID) :
    fillPodFrom P executorID podID pod cs = pod := by
  induction cs with
  | nil => rfl
  | cons c cs ih =>
    rw [fillPodFrom_cons_of_ne P executorID podID c (h c (List.mem_cons_self _ _))]
    exact ih fun c' hc' => h c' (List.mem_cons_of_mem _ hc')

theorem attachFrom_append (podID : String) (pod : DockerPod) (vs vs' : List Volume) :
    attachFrom P executorID podID pod (vs ++ vs') =
      attachFrom P executorID podID (attachFrom P executorID podID pod vs) vs' := by
  induction vs generalizing pod with
  | nil => rfl
  | cons v vs ih => exact ih _

theorem attachFrom_of_not_owned (podID : String) (pod : DockerPod) (vs : List Volume)
    (h : ∀ v ∈ vs, ownedPodID P executorID v.labels ≠ some podID) :
    attachFrom P executorID podID pod vs = pod := by
  induction vs with
  | nil => rfl
  | cons v vs ih =>
    rw [attachFrom_cons_of_ne P executorID podID v (h v (List.mem_cons_self _ _))]
    exact ih fun v' hv' => h v' (List.mem_cons_of_mem _ hv')

theorem attachVolume_eq (pod : DockerPod) (v : Volume) :
    ∃ t p, attachVolume P pod v = { pod with toolboxVolumeName := t, projectVolumeName := p } := by
  unfold attachVolume
  split
  · split
    · exact ⟨_, _, rfl⟩
    · split <;> exact ⟨_, _, rfl⟩
  · exact ⟨_, _, rfl⟩

theorem attachFrom_eq (podID : String) (pod : DockerPod) (vs : List Volume) :
    ∃ t p, attachFrom P executorID podID pod vs =
      { pod with toolboxVolumeName := t, projectVolumeName := p } := by
  induction vs generalizing pod with
  | nil => exact ⟨_, _, rfl⟩
  | cons v vs ih =>
    simp only [attachFrom]
    split
    · obtain ⟨t, p, hv⟩ := attachVolume_eq P pod v
      obtain ⟨t', p', h⟩ := ih (attachVolume P pod v)
      exact ⟨t', p', by rw [h, hv]⟩
    · exact ih pod

theorem attachFrom_id (podID : String) (pod : DockerPod) (vs : List Volume) :
    (attachFrom P executorID podID pod vs).id = pod.id := by
  obtain ⟨t, p, h⟩ := attachFrom_eq P executorID podID pod vs
  rw [h]

/-- When no container of this executor is tainted, `GetPods` returns one pod
per pod ID of this executor's containers, and that pod is `rebuiltPod`. -/
theorem podsOf_ok (cs : List Container) (vs : List Volume)
    (ht : ∀ c ∈ cs, (ownedPodID P executorID c.labels).isSome → (indexOf P c).isSome) :
    ∃ pods, podsOf P executorID cs vs = .ok pods ∧ (pods.map DockerPod.id).Nodup ∧
      (∀ podID, podID ∈ pods.map DockerPod.id ↔
        ∃ c ∈ cs, ownedPodID P executorID c.labels = some podID) ∧
      ∀ pod ∈ pods, pod = rebuiltPod P executorID pod.id cs vs := by
  have hcov := collectPods_covers P executorID [] cs cs fun c hc p hp => .inr ⟨c, hc, hp⟩
  have hn0 := collectPods_nodup P executorID (m := []) cs List.nodup_nil
  obtain ⟨m', hm', hl, hn⟩ := fillPods_ok P executorID hcov ht
  set m'' := attachVolumes P executorID m' vs
  have hn'' : (m''.map Prod.fst).Nodup := attachVolumes_nodup P executorID vs (hn hn0)
  -- every entry of the final map is the rebuilt pod of its key
  have hentry : ∀ k v, (k, v) ∈ m'' →
      v = attachFrom P executorID k (fillPodFrom P executorID k (emptyPod executorID k) cs) vs ∧
        ∃ c ∈ cs, ownedPodID P executorID c.labels = some k := by
    intro k v hkv
    have hlk := (GoMap.mem_iff_lookup hn'').mp hkv
    rw [attachVolumes_lookup, hl, lookup_collectPods] at hlk
    split at hlk
    · simp only [Option.map_some', Option.some.injEq] at hlk
      exact ⟨hlk.symm, ‹_›⟩
    · simp at hlk
  have hkey : ∀ p ∈ m'', p.2.id = p.1 := by
    rintro ⟨k, v⟩ hkv
    rw [(hentry k v hkv).1, attachFrom_id, fillPodFrom_id]
    rfl
  have hids : (m''.map fun p => { p.2 with containers := sortByIndex p.2.containers }).map
      DockerPod.id = m''.map Prod.fst := by
    simp only [List.map_map]
    exact List.map_congr_left fun p hp => hkey p hp
  refine ⟨m''.map fun p => { p.2 with containers := sortByIndex p.2.containers },
    by simp [podsOf, hm', bind, Except.bind, pure, Except.pure, m''], ?_, ?_, ?_⟩
  · rw [hids]; exact hn''
  · intro podID
    rw [hids]
    constructor
    · intro hp
      obtain ⟨⟨k, v⟩, hkv, rfl⟩ := List.mem_map.mp hp
      exact (hentry k v hkv).2
    · intro hc
      have hlk : m''.lookup podID = some (attachFrom P executorID podID
          (fillPodFrom P executorID podID (emptyPod executorID podID) cs) vs) := by
        rw [attachVolumes_lookup, hl, lookup_collectPods, if_pos hc]
        rfl
      exact List.mem_map.mpr ⟨_, (GoMap.mem_iff_lookup hn'').mpr hlk, rfl⟩
  · intro pod hpod
    obtain ⟨⟨k, v⟩, hkv, rfl⟩ := List.mem_map.mp hpod
    have hk : ({ v with containers := sortByIndex v.containers } : DockerPod).id = k :=
      hkey (k, v) hkv
    rw [hk, (hentry k v hkv).1]
    rfl

end GetPods

end Agola.Driver
