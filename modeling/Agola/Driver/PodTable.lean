import Agola.Driver.Reclaim

/-!
# The executor's pods as a table of pod IDs

`runTable` is the abstract model: `NewPod` adds the ID of its config, `Stop` keeps
the table and `Remove` erases its pod's ID. The driver refines it: on an engine in
the invariant `PodTable`, which every call keeps, each run that completes leaves
`GetPods` returning one pod per ID of the table (`runPodOps_refines`).
-/

namespace Agola.Driver

open DriverM

/-- A call the executor makes on its pods. `Stop` and `Remove` name the pod by
its ID and act on the pod of that ID that `GetPods` returns. -/
inductive PodOp
  | newPod (podConfig : PodConfig)
  | stop (podID : String)
  | remove (podID : String)

/-! ## The abstract table -/

/-- What a call does to the table of pod IDs: `NewPod` adds an ID the table
does not hold, `Stop` and `Remove` apply to an ID it holds. -/
def PodOp.table : PodOp → List String → Option (List String)
  | .newPod podConfig, t => if podConfig.id ∈ t then none else some (podConfig.id :: t)
  | .stop podID, t => if podID ∈ t then some t else none
  | .remove podID, t => if podID ∈ t then some (t.erase podID) else none

def runTable : List PodOp → List String → Option (List String)
  | [], t => some t
  | op :: ops, t => (op.table t).bind (runTable ops)

section Driver

variable (P : Package) (d : DockerDriver)

/-! ## The calls on the engine -/

/-- `Stop` or `Remove` of the pod of an ID, as `GetPods` returns it; `none` when
a call fails or `GetPods` returns no pod of that ID. -/
def onPod (f : DockerPod → DriverM Unit) (podID : String) (w : World) : Option World :=
  match getPods P d true w with
  | (.ok pods, w1) => (pods.find? (·.id = podID)).bind fun pod =>
    match f pod w1 with
    | (.ok (), w2) => some w2
    | (.error _, _) => none
  | (.error _, _) => none

theorem onPod_eq_some {f : DockerPod → DriverM Unit} {podID : String} {w w' : World}
    (h : onPod P d f podID w = some w') : ∃ pods w1 pod, getPods P d true w = (.ok pods, w1) ∧
      pod ∈ pods ∧ pod.id = podID ∧ f pod w1 = (.ok (), w') := by
  unfold onPod at h
  split at h
  next pods w1 hg =>
    obtain ⟨pod, hfind, hr⟩ := Option.bind_eq_some.mp h
    split at hr
    next w2 he =>
      refine ⟨pods, w1, pod, hg, List.mem_of_find?_eq_some hfind, ?_, Option.some.inj hr ▸ he⟩
      simpa using List.find?_some hfind
    next => cases hr
  next => cases h

/-- A call on the engine; `none` when it fails. -/
def PodOp.run : PodOp → World → Option World
  | .newPod podConfig, w => match Agola.Driver.newPod P d podConfig w with
    | (.ok _, w') => some w'
    | (.error _, _) => none
  | .stop podID, w => onPod P d DockerPod.stop podID w
  | .remove podID, w => onPod P d DockerPod.remove podID w

theorem PodOp.run_newPod {podConfig : PodConfig} {w w' : World} {pod : DockerPod}
    (h : Agola.Driver.newPod P d podConfig w = (.ok pod, w')) :
    (PodOp.newPod podConfig).run P d w = some w' := by
  simp only [PodOp.run, h]

def runPodOps : List PodOp → World → Option World
  | [], w => some w
  | op :: ops, w => (op.run P d w).bind (runPodOps ops)

/-! ## The invariant -/

/-- An engine that holds the pods of the table `t`: it accepts every call, its
container IDs and volume names are distinct, no volume is named like an ID the
counter has yet to give out, and `GetPods` returns one pod per ID of `t`. -/
structure PodTable (w : World) (t : List String) : Prop where
  accepting : Accepting w
  ids : (w.objects.containers.map (·.id)).Nodup
  names : (w.objects.volumes.map (·.name)).Nodup
  freshNames : ∀ v ∈ w.objects.volumes, ∀ n, w.objects.nextId ≤ n → v.name ≠ toString n
  pods : ∃ pods w1, getPods P d true w = (.ok pods, w1) ∧ (pods.map DockerPod.id).Perm t

theorem filter_listed_all (l : List Container) :
    l.filter (fun c => (true || c.running) && matchesLabels c.labels []) = l :=
  List.filter_eq_self.mpr fun c _ => by simp [matchesLabels]

theorem getPods_all_accepting {w : World} {pods : List DockerPod} (hacc : Accepting w)
    (h : podsOf P d.executorID w.objects.containers w.objects.volumes = .ok pods) :
    getPods P d true w = (.ok pods, (getPods P d true w).2) :=
  Prod.ext (by rw [getPods_accepting P d true hacc, filter_listed_all, h]) rfl

theorem podsOf_all {w w1 : World} {pods : List DockerPod}
    (h : getPods P d true w = (.ok pods, w1)) :
    podsOf P d.executorID w.objects.containers w.objects.volumes = .ok pods := by
  simpa only [filter_listed_all] using getPods_podsOf P d h

theorem Planned.ids_nodup {podConfig : PodConfig} {tv pv : Volume} {n : Nat}
    {created : List Container} {l : List ContainerConfig}
    (hF : List.Forall₂ (Planned P d podConfig tv pv n 0) created l.enum) :
    (created.map (·.id)).Nodup := by
  have hmap : created.map (·.id) = (List.range l.length).map (n + ·) := by
    rw [← List.enum_map_fst, List.map_map]
    refine (congr_fun₂ List.forall₂_eq_eq_eq _ _).mp ?_
    exact List.forall₂_map_left_iff.mpr (List.forall₂_map_right_iff.mpr
      (hF.imp fun c icc hp => by simpa using hp.2.1))
  rw [hmap]
  exact (List.nodup_range _).map (add_right_injective n)

/-! ## Each call keeps the invariant -/

variable {P d}

theorem PodTable.containersListed {w : World} {t : List String} (h : PodTable P d w t) :
    ∀ c ∈ w.objects.containers, ∀ x,
      ownedPodID P d.executorID c.labels = some x → x ∈ t := by
  obtain ⟨pods, w1, hg, hperm⟩ := h.pods
  obtain ⟨-, -, hmem, -⟩ := podsOf_ok_spec P d.executorID (podsOf_all P d hg)
  exact fun c hc x ho => hperm.subset ((hmem x).mpr ⟨c, hc, ho⟩)

theorem PodTable.nodup {w : World} {t : List String} (h : PodTable P d w t) : t.Nodup := by
  obtain ⟨pods, w1, hg, hperm⟩ := h.pods
  exact hperm.nodup_iff.mp (podsOf_ok_spec P d.executorID (podsOf_all P d hg)).2.1

theorem PodTable.newPod_fresh {w : World} {t : List String} {podConfig : PodConfig}
    (h : PodTable P d w t) (hx : podConfig.id ∉ t) : ∀ c ∈ w.objects.containers,
      c.running = true → matchesLabels c.labels (searchLabels P d podConfig) = false :=
  fun c hc _ => Bool.eq_false_iff.mpr fun hm =>
    hx (h.containersListed c hc _ (ownedPodID_of_matchesLabels P d hm))

theorem PodTable.newPod {w w' : World} {t : List String} {podConfig : PodConfig}
    {pod : DockerPod} (h : PodTable P d w t) (hx : podConfig.id ∉ t)
    (hn : newPod P d podConfig w = (.ok pod, w')) : PodTable P d w' (podConfig.id :: t) := by
  have hc : ∀ c ∈ w.objects.containers,
      ownedPodID P d.executorID c.labels ≠ some podConfig.id := fun c hc ho =>
    hx (h.containersListed c hc _ ho)
  obtain ⟨created, hcs, -, hnew, hvs, -, -, hnext, tv, pv, n, hF⟩ :=
    newPod_accepting_ok P d h.accepting (h.newPod_fresh hx) hn
  obtain ⟨hacc, hids, hnames, hfreshN, pods, w1, hg, hperm⟩ := h
  obtain ⟨ht, -, -, -⟩ := podsOf_ok_spec P d.executorID (podsOf_all P d hg)
  have hacc' : Accepting w' := by
    have := newPod_accepting P d podConfig hacc
    rwa [hn] at this
  -- the created containers parse, so `GetPods` rebuilds the new listing
  have hparse : ∀ c ∈ created, (indexOf P c).isSome := fun c hc => by
    obtain ⟨icc, hicc, hp⟩ := exists_of_forall₂_mem hF.flip hc
    rw [(Planned.indexOf_eq P d hp
      (lt_trans (List.fst_lt_of_mem_enum hicc) podConfig.containers_length)).1]
    rfl
  obtain ⟨pods', hp', -⟩ := podsOf_ok P d.executorID w'.objects.containers w'.objects.volumes
    fun c hc ho => by
      rw [hcs] at hc
      exact (List.mem_append.mp hc).elim (fun hc => ht c hc ho) (hparse c)
  have hg' := getPods_all_accepting P d hacc' hp'
  obtain ⟨gp, hgid, hperm'⟩ :=
    podsOf_newPod_adds P d hn hc (getPods_podsOf P d hg) (getPods_podsOf P d hg')
  refine ⟨hacc', ?_, ?_, ?_, pods', _, hg', ?_⟩
  -- the created containers take IDs from the counter
  · rw [hcs, List.map_append]
    refine hids.append (Planned.ids_nodup P d hF) (List.disjoint_left.mpr fun a ha hb => ?_)
    obtain ⟨c, hc0, rfl⟩ := List.mem_map.mp ha
    obtain ⟨c', hc', he⟩ := List.mem_map.mp hb
    have := w.objects.fresh c hc0
    have := hnew c' hc'
    omega
  -- and so do the two volumes
  · rw [hvs, List.map_append]
    refine hnames.append ?_ (List.disjoint_left.mpr fun a ha hb => ?_)
    · simpa using fun he => by have := toString_injective he; omega
    · obtain ⟨v, hv, rfl⟩ := List.mem_map.mp ha
      simp only [List.map_cons, List.map_nil, List.mem_cons, List.mem_singleton,
        List.not_mem_nil, or_false] at hb
      rcases hb with hb | hb
      · exact hfreshN v hv _ le_rfl hb
      · exact hfreshN v hv _ (by omega) hb
  · intro v hv m hm
    rw [hvs] at hv
    rcases List.mem_append.mp hv with hv | hv
    · exact hfreshN v hv m (by omega)
    · simp only [List.mem_cons, List.mem_singleton, List.not_mem_nil, or_false] at hv
      rcases hv with rfl | rfl <;> exact fun he => by have := toString_injective he; omega
  · exact (hperm'.map _).trans (by rw [List.map_cons, hgid]; exact hperm.cons _)

theorem PodTable.stop {w w1 : World} {t : List String} {pods : List DockerPod} {pod : DockerPod}
    (h : PodTable P d w t) (hg : getPods P d true w = (.ok pods, w1)) :
    PodTable P d (pod.stop w1).2 t := by
  obtain ⟨hacc, hids, hnames, hfreshN, pods0, w0, hg0, hperm⟩ := h
  rw [hg, Prod.mk.injEq, Except.ok.injEq] at hg0
  obtain ⟨rfl, rfl⟩ := hg0
  obtain ⟨ht, hn, hmem, -⟩ := podsOf_ok_spec P d.executorID (podsOf_all P d hg)
  obtain ⟨-, -, -, -, hw1, a1⟩ := getPods_accepting_ok P d hacc hg
  obtain ⟨-, aS⟩ := pod.stop_accepting a1
  obtain ⟨hcS, hvS, hnS⟩ := pod.stop_objects a1
  rw [hw1] at hcS hvS hnS
  -- stopping changes no ID and no label
  set g := fun c : Container =>
    if c.id ∈ pod.containers.map (·.container.id) then { c with running := false } else c
  have hgid : ∀ c, (g c).id = c.id := fun c => by simp only [g]; split <;> rfl
  have hglab : ∀ c, (g c).labels = c.labels := fun c => by simp only [g]; split <;> rfl
  have howned : ∀ x, (∃ c ∈ (pod.stop w1).2.objects.containers,
      ownedPodID P d.executorID c.labels = some x) ↔
        ∃ c ∈ w.objects.containers, ownedPodID P d.executorID c.labels = some x := fun x => by
    simp only [hcS, List.mem_map, hglab]
    exact ⟨fun ⟨_, ⟨c, hc, rfl⟩, ho⟩ => ⟨c, hc, by rwa [hglab] at ho⟩,
      fun ⟨c, hc, ho⟩ => ⟨g c, ⟨c, hc, rfl⟩, by rwa [hglab]⟩⟩
  obtain ⟨pods', hp', hn', hmem', -⟩ := podsOf_ok P d.executorID
    (pod.stop w1).2.objects.containers (pod.stop w1).2.objects.volumes fun c hc ho => by
      rw [hcS] at hc
      obtain ⟨c0, hc0, rfl⟩ := List.mem_map.mp hc
      rw [hglab] at ho
      simpa only [indexOf, hglab] using ht c0 hc0 ho
  refine ⟨aS, ?_, by rw [hvS]; exact hnames, by rw [hvS, hnS]; exact hfreshN, pods', _,
    getPods_all_accepting P d aS hp', ?_⟩
  · rw [hcS, List.map_map]
    exact (List.map_congr_left fun c _ => hgid c).symm ▸ hids
  · refine ((List.perm_ext_iff_of_nodup hn' hn).mpr fun x => ?_).trans hperm
    rw [hmem', hmem, howned]

theorem PodTable.remove {w w1 : World} {t : List String} {pods : List DockerPod} {pod : DockerPod}
    (h : PodTable P d w t) (hg : getPods P d true w = (.ok pods, w1)) (hpod : pod ∈ pods) :
    PodTable P d (pod.remove w1).2 (t.erase pod.id) := by
  obtain ⟨hacc, hids, hnames, hfreshN, pods0, w0, hg0, hperm⟩ := h
  rw [hg, Prod.mk.injEq, Except.ok.injEq] at hg0
  obtain ⟨rfl, rfl⟩ := hg0
  have hg0 := podsOf_all P d hg
  obtain ⟨-, hn, -, hre⟩ := podsOf_ok_spec P d.executorID hg0
  obtain ⟨-, -, -, -, hw1, a1⟩ := getPods_accepting_ok P d hacc hg
  obtain ⟨-, aR, hcR, hvR, hnR⟩ := pod.remove_accepting a1
  rw [hw1] at hcR hvR hnR
  -- a removed volume is a volume of the pod
  have hvol : ∀ v ∈ w.objects.volumes,
      decide (v.name ∉ [pod.toolboxVolumeName, pod.projectVolumeName].filter (· ≠ "")) =
        false →
        ownedPodID P d.executorID v.labels = some pod.id := fun v hv hk => by
    have := rebuiltPod_volume_owned P d.executorID pod.id w.objects.containers hnames hv
    rw [← hre pod hpod] at this
    exact this (not_not.mp (of_decide_eq_false hk))
  obtain ⟨pods', hp', hperm'⟩ := podsOf_drop_pod P d.executorID hg0 hids hpod hvol
  have hnt : t.Nodup := hperm.nodup_iff.mp hn
  refine ⟨aR, by rw [hcR]; exact hids.sublist ((List.filter_sublist _).map _),
    by rw [hvR]; exact hnames.sublist ((List.filter_sublist _).map _), fun v hv m hm => ?_,
    pods', _, getPods_all_accepting P d aR (by rw [hcR, hvR]; exact hp'), ?_⟩
  · rw [hvR] at hv
    exact hfreshN v (List.mem_filter.mp hv).1 m (hnR ▸ hm)
  · have hmap : (pods.filter fun q => decide (q.id ≠ pod.id)).map DockerPod.id =
        (pods.map DockerPod.id).filter (· != pod.id) := by
      rw [List.filter_map]
      exact congrArg _ (List.filter_congr fun q _ =>
        Bool.eq_iff_iff.mpr (by simp [bne_iff_ne]))
    rw [hnt.erase_eq_filter]
    exact (hperm'.map _).trans (hmap ▸ hperm.filter _)

theorem PodTable.onPod_isSome {w : World} {t : List String} {x : String}
    {f : DockerPod → DriverM Unit} (h : PodTable P d w t) (hx : x ∈ t)
    (hf : ∀ pod w, Accepting w → (f pod w).1 = .ok ()) : (onPod P d f x w).isSome := by
  obtain ⟨pods, w1, hg, hperm⟩ := h.pods
  obtain ⟨-, -, -, -, -, a1⟩ := getPods_accepting_ok P d h.accepting hg
  obtain ⟨pod, hpod, rfl⟩ := List.mem_map.mp (hperm.symm.subset hx)
  obtain ⟨q, hq⟩ := Option.isSome_iff_exists.mp
    ((List.find?_isSome (p := fun q => decide (q.id = pod.id))).mpr
      ⟨pod, hpod, decide_eq_true rfl⟩)
  simp only [onPod, hg, hq, Option.some_bind]
  have hok := hf q w1 a1
  rcases hfq : f q w1 with ⟨r, w2⟩
  rw [hfq] at hok
  subst hok
  rfl

/-! ## Runs -/

section Runs

variable {I : World → List String → Prop}
  (hnew : ∀ {w w' t} {podConfig : PodConfig} {pod : DockerPod}, I w t → podConfig.id ∉ t →
    newPod P d podConfig w = (.ok pod, w') → I w' (podConfig.id :: t))
  (hstop : ∀ {w w1 t pods} {pod : DockerPod}, I w t → getPods P d true w = (.ok pods, w1) →
    pod ∈ pods → I (pod.stop w1).2 t)
  (hremove : ∀ {w w1 t pods} {pod : DockerPod}, I w t → getPods P d true w = (.ok pods, w1) →
    pod ∈ pods → I (pod.remove w1).2 (t.erase pod.id))
include hnew hstop hremove

/-- A relation between engines and tables that each call keeps, as the table
allows it, is kept by every call the table allows. -/
theorem runOp_keeps {w w' : World} {t t' : List String} {op : PodOp} (h : I w t)
    (hr : op.run P d w = some w') (ht : op.table t = some t') : I w' t' := by
  cases op with
  | newPod podConfig =>
    simp only [PodOp.table] at ht
    split_ifs at ht with hx
    cases ht
    simp only [PodOp.run] at hr
    split at hr
    next pod w2 hn => exact Option.some.inj hr ▸ hnew h hx hn
    next => cases hr
  | stop podID =>
    simp only [PodOp.table] at ht
    split_ifs at ht with hx
    cases ht
    obtain ⟨pods, w1, pod, hg, hpod, -, he⟩ := onPod_eq_some P d hr
    have hs := hstop h hg hpod
    rwa [he] at hs
  | remove podID =>
    simp only [PodOp.table] at ht
    split_ifs at ht with hx
    cases ht
    obtain ⟨pods, w1, pod, hg, hpod, rfl, he⟩ := onPod_eq_some P d hr
    have hs := hremove h hg hpod
    rwa [he] at hs

theorem runPodOps_keeps : ∀ (ops : List PodOp) {w w' : World} {t t' : List String},
    I w t → runPodOps P d ops w = some w' → runTable ops t = some t' → I w' t'
  | [], _, _, _, _, h, hr, ht => by
    simp only [runPodOps, runTable, Option.some.injEq] at hr ht
    exact hr ▸ ht ▸ h
  | op :: ops, _, _, _, _, h, hr, ht => by
    obtain ⟨w2, h2, hr⟩ := Option.bind_eq_some.mp hr
    obtain ⟨t2, ht2, ht⟩ := Option.bind_eq_some.mp ht
    exact runPodOps_keeps ops (runOp_keeps hnew hstop hremove h h2 ht2) hr ht

end Runs

theorem PodTable.step {w w' : World} {t t' : List String} {op : PodOp} (h : PodTable P d w t)
    (hr : op.run P d w = some w') (ht : op.table t = some t') : PodTable P d w' t' :=
  runOp_keeps (fun h hx hn => h.newPod hx hn) (fun h hg _ => h.stop hg)
    (fun h hg hpod => h.remove hg hpod) h hr ht

theorem PodTable.run (ops : List PodOp) {w w' : World} {t t' : List String}
    (h : PodTable P d w t) (hrun : runPodOps P d ops w = some w') (ht : runTable ops t = some t') :
    PodTable P d w' t' :=
  runPodOps_keeps (fun h hx hn => h.newPod hx hn) (fun h hg _ => h.stop hg)
    (fun h hg hpod => h.remove hg hpod) ops h hrun ht

/-- The driver refines the table: on an engine in the invariant, every run of
`NewPod`, `Stop` and `Remove` calls that completes, and that the table allows,
leaves `GetPods` returning one pod per ID of the table the run computes. -/
theorem runPodOps_refines {ops : List PodOp} {w w' : World} {t t' : List String}
    (h : PodTable P d w t) (hrun : runPodOps P d ops w = some w') (ht : runTable ops t = some t') :
    ∃ pods w1, getPods P d true w' = (.ok pods, w1) ∧ (pods.map DockerPod.id).Perm t' :=
  (h.run ops hrun ht).pods

end Driver

theorem podTable_emptyWorld : PodTable Package.spec sampleDriver emptyWorld [] :=
  ⟨fun _ h => (nomatch h), List.nodup_nil, List.nodup_nil, fun _ h => (nomatch h), [],
    (getPods Package.spec sampleDriver true emptyWorld).2, Prod.ext (by decide) rfl, .nil⟩

/-- The sample pod started on the empty engine. -/
theorem runPodOps_refines_sample : ∃ w',
    PodTable Package.spec sampleDriver emptyWorld [] ∧
      runPodOps Package.spec sampleDriver [.newPod samplePodConfig] emptyWorld = some w' ∧
      runTable [.newPod samplePodConfig] [] = some ["p1"] ∧
      ∃ pods w1, getPods Package.spec sampleDriver true w' = (.ok pods, w1) ∧
        (pods.map DockerPod.id).Perm ["p1"] := by
  obtain ⟨pod, w', hr⟩ := newPod_sample_ok
  have hrun :
      runPodOps Package.spec sampleDriver [.newPod samplePodConfig] emptyWorld = some w' := by
    rw [runPodOps, PodOp.run_newPod _ _ hr]
    rfl
  have ht : runTable [.newPod samplePodConfig] [] = some ["p1"] := rfl
  exact ⟨w', podTable_emptyWorld, hrun, ht, runPodOps_refines podTable_emptyWorld hrun ht⟩

end Agola.Driver
