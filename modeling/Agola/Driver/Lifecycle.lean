import Agola.Driver.Teardown
import Agola.Driver.NewPodFailure
import Agola.Driver.PodInvariant

/-!
# The life of a pod on the engine

What `NewPod`, `Stop` and `Remove` do to the objects the engine held before them.
Whatever the engine answers, `NewPod` leaves every container and volume it found
as it found it, and `Stop` and `Remove` touch only the pod (`newPod_untouched`,
`stop_remove_frame`). On an engine that accepts every call, `Remove` after a
successful `NewPod` gives back the objects of before (`newPod_teardown_restores`).
-/

namespace Agola.Driver

open DriverM

/-! ## Objects left as they were -/

/-- Everything of `o0` is still in `o`: every container, with its request and
running state, and every volume; and the ID counter has not gone back. -/
structure Untouched (o0 o : Objects) : Prop where
  nextId_le : o0.nextId ≤ o.nextId
  containers : ∀ c ∈ o0.containers, c ∈ o.containers
  volumes : ∀ v ∈ o0.volumes, v ∈ o.volumes

namespace Untouched

variable {o0 o : Objects}

theorem refl (o : Objects) : Untouched o o := ⟨le_rfl, fun _ h => h, fun _ h => h⟩

theorem createContainer (h : Untouched o0 o) (req : CreateRequest) :
    Untouched o0 (o.createContainer req).2 :=
  ⟨by simp only [Objects.createContainer_nextId]; have := h.nextId_le; omega,
    fun c hc => by simp [h.containers c hc], h.volumes⟩

theorem createVolume (h : Untouched o0 o) (labels : Labels) :
    Untouched o0 (o.createVolume labels).2 :=
  ⟨by simp only [Objects.createVolume_nextId]; have := h.nextId_le; omega,
    h.containers, fun v hv => by simp [h.volumes v hv]⟩

theorem pullImage (h : Untouched o0 o) (image : String) : Untouched o0 (o.pullImage image) :=
  ⟨h.nextId_le, h.containers, h.volumes⟩

theorem id_ne {c : Container} (hc : c ∈ o0.containers) {id : Nat} (hid : o0.nextId ≤ id) :
    c.id ≠ id :=
  Nat.ne_of_lt (lt_of_lt_of_le (o0.fresh c hc) hid)

theorem setRunning (h : Untouched o0 o) {id : Nat} (hid : o0.nextId ≤ id) (b : Bool) :
    Untouched o0 (o.setRunning id b) :=
  ⟨h.nextId_le, fun c hc => List.mem_map.mpr ⟨c, h.containers c hc, if_neg (id_ne hc hid)⟩,
    h.volumes⟩

theorem removeContainer (h : Untouched o0 o) {id : Nat} (hid : o0.nextId ≤ id) :
    Untouched o0 (o.removeContainer id) :=
  ⟨h.nextId_le, fun c hc => List.mem_filter.mpr ⟨h.containers c hc, decide_eq_true (id_ne hc hid)⟩,
    h.volumes⟩

end Untouched

theorem DriverM.Preserves.bind_ok {α β : Type} {I : World → Prop} {Q : α → Prop} {x : DriverM α}
    {f : α → DriverM β} (hx : Preserves I x) (hQ : ∀ w a w', I w → x w = (.ok a, w') → Q a)
    (hf : ∀ a, Q a → Preserves I (f a)) : Preserves I (x >>= f) := fun w hw =>
  bind_world (fun _ _ he => by simpa [he] using hx w hw)
    fun a w' ha => hf a (hQ w a w' hw ha) w' (by simpa [ha] using hx w hw)

theorem DriverM.Preserves.of_ok {α : Type} {I : World → Prop} {x : DriverM α} {w w' : World} {a : α}
    (hx : Preserves I x) (h : x w = (.ok a, w')) (hw : I w) : I w' := by
  simpa [h] using hx w hw

/-! ## `NewPod` keeps what it found

The invariant carries, beside `Untouched`, any property `A` of the rest of the
fault schedule that consuming an answer keeps: with `A` trivial it holds under
every schedule; with "every answer is an acceptance" it says that an accepting
engine stays accepting. -/

section Quiet

variable {A : List Bool → Prop} {o0 : Objects}

/-- The objects of `o0` are untouched and the rest of the schedule satisfies `A`. -/
def Quiet (A : List Bool → Prop) (o0 : Objects) (w : World) : Prop :=
  Untouched o0 w.objects ∧ A w.faults

theorem containerCreate_fresh {req : CreateRequest} {w w' : World} {id : Nat}
    (hw : Quiet A o0 w) (h : containerCreate req w = (.ok id, w')) : o0.nextId ≤ id := by
  rw [(call_ok h).1]
  exact hw.1.nextId_le

theorem createContainer_fresh (P : Package) (d : DockerDriver) {podConfig : PodConfig} {index : Nat}
    {cc : ContainerConfig} {mainID : String} {tv pv : Volume} {w w' : World} {id : Nat}
    (hw : Quiet A o0 w)
    (h : createContainer P d index podConfig cc mainID tv pv w = (.ok id, w')) :
    o0.nextId ≤ id := by
  obtain ⟨-, o, -, ⟨-, -, hn⟩, rfl, -⟩ := createContainer_ok P d h
  rw [hn]
  exact hw.1.nextId_le

variable (hA : ∀ fs, A fs → A fs.tail)
include hA

theorem call_quiet {α : Type} {c : Call} {effect : Objects → α × Objects}
    (heff : ∀ o, Untouched o0 o → Untouched o0 (effect o).2) :
    Preserves (Quiet A o0) (call c effect) :=
  fun w ⟨hu, ha⟩ => by
    rcases call_cases c effect w with ⟨-, he⟩ | ⟨-, he⟩ <;> rw [he]
    · exact ⟨hu, hA _ ha⟩
    · exact ⟨heff _ hu, hA _ ha⟩

theorem ioStep_quiet (step : String) : Preserves (Quiet A o0) (ioStep step) := fun w ⟨hu, ha⟩ => by
  rcases ioStep_cases step w with he | he <;> rw [he] <;> exact ⟨hu, hA _ ha⟩

variable (P : Package) (d : DockerDriver) (podConfig : PodConfig)

theorem fetchImage_quiet (image : String) (alwaysFetch : Bool) (rc : Option DockerConfig) :
    Preserves (Quiet A o0) (fetchImage P image alwaysFetch rc) := by
  unfold fetchImage
  refine (Preserves.fromExcept _).bind fun _ => (Preserves.fromExcept _).bind fun _ => ?_
  refine (call_quiet hA fun _ h => h).bind fun _ => Preserves.ite ?_ (Preserves.pure _)
  exact (call_quiet hA fun _ h => h.pullImage _).bind fun _ => ioStep_quiet hA _

theorem createToolboxVolume_quiet (podID : String) :
    Preserves (Quiet A o0) (createToolboxVolume P d podID) := by
  unfold createToolboxVolume
  refine (fetchImage_quiet hA P _ _ _).bind fun _ => ?_
  refine (call_quiet hA fun _ h => h.createVolume _).bind fun _ => ?_
  refine (call_quiet hA fun _ h => h.createContainer _).bind_ok
    (fun _ _ _ hw h => containerCreate_fresh hw h) fun id hid => ?_
  refine (call_quiet hA fun _ h => h.setRunning hid _).bind fun _ => ?_
  refine (Preserves.fromExcept _).bind fun _ => ?_
  refine (ioStep_quiet hA _).bind fun _ => (ioStep_quiet hA _).bind fun _ => ?_
  refine (call_quiet hA fun _ h => h).bind fun _ => ?_
  exact (ignoreError_preserves (call_quiet hA fun _ h => h.removeContainer hid)).bind
    fun _ => Preserves.pure _

theorem createContainer_quiet (index : Nat) (cc : ContainerConfig) (mainID : String)
    (tv pv : Volume) :
    Preserves (Quiet A o0) (createContainer P d index podConfig cc mainID tv pv) :=
  (fetchImage_quiet hA P _ _ _).bind fun _ => (Preserves.fromExcept _).bind fun _ =>
    call_quiet hA fun _ h => h.createContainer _

theorem createContainers_quiet (tv pv : Volume) :
    ∀ (ccs : List ContainerConfig) (cindex : Nat) (mainID : String),
      Preserves (Quiet A o0) (createContainers P d podConfig tv pv cindex mainID ccs)
  | [], _, _ => Preserves.pure _
  | _ :: rest, _, _ => by
    simp only [createContainers]
    refine (createContainer_quiet hA P d podConfig _ _ _ _ _).bind_ok
      (fun _ _ _ hw h => createContainer_fresh P d hw h) fun id hid => ?_
    exact (call_quiet hA fun _ h => h.setRunning hid _).bind fun _ =>
      createContainers_quiet tv pv rest _ _

theorem newPod_quiet : Preserves (Quiet A o0) (newPod P d podConfig) := by
  unfold newPod
  simp only [throw_bind, pure_bind]
  refine Preserves.ite (Preserves.throw _) ?_
  refine (createToolboxVolume_quiet hA P d _).bind fun tv => ?_
  refine (call_quiet hA fun _ h => h.createVolume _).bind fun pv => ?_
  refine (createContainers_quiet hA P d podConfig tv pv _ 0 "").bind fun _ => ?_
  refine (call_quiet hA fun _ h => h).bind fun cs => ?_
  refine Preserves.ite (Preserves.throw _) ?_
  refine (Preserves.fromExcept _).bind fun acc => ?_
  refine Preserves.ite (Preserves.throw _) ?_
  split
  · exact Preserves.throw _
  · exact Preserves.pure _

end Quiet

section NewPod

variable (P : Package) (d : DockerDriver) (podConfig : PodConfig)

/-- Whatever the engine answers and however far `NewPod` gets, every container
the engine held before, with its request and running state, and every volume it
held are still there afterwards, and the ID counter has not gone back: `NewPod`
starts and removes only containers it created itself. -/
theorem newPod_untouched (w : World) :
    Untouched w.objects (newPod P d podConfig w).2.objects :=
  (newPod_quiet (A := fun _ => True) (fun _ _ => trivial) P d podConfig w ⟨.refl _, trivial⟩).1

end NewPod

/-! ## `Stop` and `Remove` touch only the pod -/

theorem collect_world (errs : List DriverError) (x : DriverM Unit) (w : World) :
    (collect errs x w).2 = (x w).2 := by
  unfold collect
  match x w with
  | (.ok (), _) => rfl
  | (.error _, _) => rfl

theorem DriverM.Preserves.collect {I : World → Prop} {x : DriverM Unit} (hx : Preserves I x)
    (errs : List DriverError) : Preserves I (collect errs x) := fun w hw =>
  collect_world errs x w ▸ hx w hw

theorem DriverM.Preserves.foldlM_collect {β : Type} {I : World → Prop} {f : β → DriverM Unit} :
    ∀ xs : List β, (∀ x ∈ xs, Preserves I (f x)) →
      ∀ errs, Preserves I (xs.foldlM (fun errs x => Driver.collect errs (f x)) errs)
  | [], _, _ => Preserves.pure _
  | x :: xs, hf, errs => ((hf x (List.mem_cons_self _ _)).collect errs).bind fun errs' =>
    Preserves.foldlM_collect xs (fun y hy => hf y (List.mem_cons_of_mem _ hy)) errs'

/-- What `Stop` may have done to `o0`, for the member IDs `ids`: the containers
are those of `o0` with their IDs and requests in order, the volumes are those of
`o0`, and the containers that are not members are exactly as they were. -/
structure StopFrame (ids : List Nat) (o0 o : Objects) : Prop where
  containers : o.containers.map (fun c => (c.id, c.req)) = o0.containers.map fun c => (c.id, c.req)
  volumes : o.volumes = o0.volumes
  others : o.containers.filter (fun c => c.id ∉ ids) = o0.containers.filter fun c => c.id ∉ ids

/-- What `Remove` may have done to `o0`, for the member IDs `ids` and the volume
names `names`: it only deleted, and the other containers and volumes are exactly
as they were. -/
structure RemoveFrame (ids : List Nat) (names : List String) (o0 o : Objects) : Prop where
  containers : o.containers.Sublist o0.containers
  volumes : o.volumes.Sublist o0.volumes
  others : o.containers.filter (fun c => c.id ∉ ids) = o0.containers.filter fun c => c.id ∉ ids
  otherVolumes :
    o.volumes.filter (fun v => v.name ∉ names) = o0.volumes.filter fun v => v.name ∉ names

variable {ids : List Nat} {names : List String} {o0 o : Objects}

theorem filter_map_of_members {g : Container → Container} (hid : ∀ c, (g c).id = c.id) :
    ∀ {l : List Container}, (∀ c ∈ l, c.id ∉ ids → g c = c) →
      (l.map g).filter (fun c => c.id ∉ ids) = l.filter fun c => c.id ∉ ids
  | [], _ => rfl
  | c :: l, hfix => by
    rw [List.map_cons, List.filter_cons, List.filter_cons, hid,
      filter_map_of_members hid fun c' h => hfix c' (List.mem_cons_of_mem _ h)]
    by_cases hc : c.id ∈ ids
    · simp [hc]
    · rw [hfix c (List.mem_cons_self _ _) hc]

theorem filter_filter_of_mem {α β : Type} [DecidableEq β] {key : α → β} {keys : List β} {k : β}
    (hk : k ∈ keys) (l : List α) :
    (l.filter fun a => key a ≠ k).filter (fun a => key a ∉ keys) =
      l.filter fun a => key a ∉ keys := by
  rw [List.filter_filter]
  exact List.filter_congr fun a _ => by
    by_cases ha : key a ∈ keys
    · simp [ha]
    · have hne : key a ≠ k := fun he => ha (he ▸ hk)
      simp [ha, hne]

theorem StopFrame.setRunning (h : StopFrame ids o0 o) {id : Nat} (hid : id ∈ ids) (b : Bool) :
    StopFrame ids o0 (o.setRunning id b) where
  containers := by
    rw [← h.containers]
    simp only [Objects.setRunning, List.map_map]
    exact List.map_congr_left fun c _ => by dsimp only [Function.comp]; split <;> rfl
  volumes := h.volumes
  others := by
    rw [← h.others]
    exact filter_map_of_members (fun c => by split <;> rfl)
      fun c _ hn => if_neg fun (he : c.id = id) => hn (he ▸ hid)

theorem RemoveFrame.removeContainer (h : RemoveFrame ids names o0 o) {id : Nat} (hid : id ∈ ids) :
    RemoveFrame ids names o0 (o.removeContainer id) where
  containers := (List.filter_sublist _).trans h.containers
  volumes := h.volumes
  others := (filter_filter_of_mem hid _).trans h.others
  otherVolumes := h.otherVolumes

theorem RemoveFrame.removeVolume (h : RemoveFrame ids names o0 o) {name : String}
    (hname : name ∈ names) : RemoveFrame ids names o0 (o.removeVolume name) where
  containers := h.containers
  volumes := (List.filter_sublist _).trans h.volumes
  others := h.others
  otherVolumes := (filter_filter_of_mem hname _).trans h.otherVolumes

namespace DockerPod

variable (dp : DockerPod)

theorem stop_preserves :
    Preserves (fun w => StopFrame (dp.containers.map (·.container.id)) o0 w.objects) dp.stop := by
  refine (Preserves.foldlM_collect _ (fun c hc => call_preserves _ _ fun _ h =>
    h.setRunning (List.mem_map_of_mem _ hc) _) _).bind fun _ => ?_
  exact Preserves.ite (Preserves.throw _) (Preserves.pure _)

theorem remove_preserves :
    Preserves (fun w => RemoveFrame (dp.containers.map (·.container.id))
      [dp.toolboxVolumeName, dp.projectVolumeName] o0 w.objects) dp.remove := by
  refine (Preserves.foldlM_collect _ (fun c hc => call_preserves _ _ fun _ h =>
    h.removeContainer (List.mem_map_of_mem _ hc)) _).bind fun _ => ?_
  refine (Preserves.ite ((call_preserves _ _ fun _ h => h.removeVolume (by simp)).collect _)
    (Preserves.pure _)).bind fun _ => ?_
  refine (Preserves.ite ((call_preserves _ _ fun _ h => h.removeVolume (by simp)).collect _)
    (Preserves.pure _)).bind fun _ => ?_
  exact Preserves.ite (Preserves.throw _) (Preserves.pure _)

/-- Whatever the engine answers, `Stop` changes nothing but the running state of
the pod's members: the containers keep their IDs, requests and order, the
volumes stay, and the containers that are not members are exactly as they were.
`Remove` only deletes, and only the members and the pod's two volumes: the other
containers and volumes are exactly as they were. -/
theorem stop_remove_frame (w : World) :
    let ids := dp.containers.map (·.container.id)
    let names := [dp.toolboxVolumeName, dp.projectVolumeName]
    ((dp.stop w).2.objects.containers.map (fun c => (c.id, c.req)) =
        w.objects.containers.map (fun c => (c.id, c.req)) ∧
      (dp.stop w).2.objects.volumes = w.objects.volumes ∧
      (dp.stop w).2.objects.containers.filter (fun c => c.id ∉ ids) =
        w.objects.containers.filter (fun c => c.id ∉ ids)) ∧
    ((dp.remove w).2.objects.containers.Sublist w.objects.containers ∧
      (dp.remove w).2.objects.volumes.Sublist w.objects.volumes ∧
      (dp.remove w).2.objects.containers.filter (fun c => c.id ∉ ids) =
        w.objects.containers.filter (fun c => c.id ∉ ids) ∧
      (dp.remove w).2.objects.volumes.filter (fun v => v.name ∉ names) =
        w.objects.volumes.filter (fun v => v.name ∉ names)) := by
  obtain ⟨hs1, hs2, hs3⟩ := dp.stop_preserves w ⟨rfl, rfl, rfl⟩
  obtain ⟨hr1, hr2, hr3, hr4⟩ := dp.remove_preserves w
    ⟨List.Sublist.refl _, List.Sublist.refl _, rfl, rfl⟩
  exact ⟨⟨hs1, hs2, hs3⟩, hr1, hr2, hr3, hr4⟩

end DockerPod

/-! ## An engine that accepts every call -/

/-- Every answer still to come is an acceptance. -/
def Accepting (w : World) : Prop := ∀ b ∈ w.faults, b = false

theorem Accepting.tail {w : World} (h : Accepting w) : ∀ b ∈ w.faults.tail, b = false :=
  fun b hb => h b (List.mem_of_mem_tail hb)

theorem call_of_faults {α : Type} {c : Call} {effect : Objects → α × Objects} {o : Objects}
    {fs : List Bool} {log : List Issued} (h : ∀ b ∈ fs, b = false) :
    call c effect ⟨o, fs, log⟩ = (.ok (effect o).1, ⟨(effect o).2, fs.tail, log ++ [⟨c, true⟩]⟩) :=
  ((call_cases c effect _).resolve_left fun hc => nomatch h true (List.mem_of_mem_head? hc.1)).2

theorem call_of_accepting {α : Type} {c : Call} {effect : Objects → α × Objects} {w : World}
    (h : Accepting w) : call c effect w = (.ok (effect w.objects).1,
      ⟨(effect w.objects).2, w.faults.tail, w.log ++ [⟨c, true⟩]⟩) :=
  call_of_faults h

theorem newPod_accepting (P : Package) (d : DockerDriver) (podConfig : PodConfig) {w : World}
    (h : Accepting w) : Accepting (newPod P d podConfig w).2 :=
  (newPod_quiet (A := fun fs => ∀ b ∈ fs, b = false)
    (fun _ hf b hb => hf b (List.mem_of_mem_tail hb))
    P d podConfig w ⟨.refl _, h⟩).2

theorem createToolboxVolume_accepting (P : Package) (d : DockerDriver) {podID : String} {v : Volume}
    {w w' : World} (hacc : Accepting w) (h : createToolboxVolume P d podID w = (.ok v, w')) :
    w'.objects.containers = w.objects.containers ∧ w'.objects.nextId = w.objects.nextId + 2 := by
  have hA : ∀ fs : List Bool, (∀ b ∈ fs, b = false) → ∀ b ∈ fs.tail, b = false :=
    fun _ hf b hb => hf b (List.mem_of_mem_tail hb)
  have q0 : Quiet (fun fs => ∀ b ∈ fs, b = false) w.objects w := ⟨.refl _, hacc⟩
  unfold createToolboxVolume at h
  obtain ⟨_, w1, h1, h⟩ := bind_eq_ok.mp h
  have q1 := (fetchImage_quiet hA P _ _ _).of_ok h1 q0
  obtain ⟨hc1, -, hn1⟩ := fetchImage_objects P _ _ _ w
  rw [h1] at hc1 hn1
  dsimp only at hc1 hn1
  obtain ⟨tv, w2, h2, h⟩ := bind_eq_ok.mp h
  have q2 := (call_quiet hA fun _ h => h.createVolume _).of_ok h2 q1
  obtain ⟨rfl, ho2⟩ := volumeCreate_ok h2
  obtain ⟨id, w3, h3, h⟩ := bind_eq_ok.mp h
  have q3 := (call_quiet hA fun _ h => h.createContainer _).of_ok h3 q2
  obtain ⟨rfl, ho3⟩ := containerCreate_ok h3
  obtain ⟨_, w4, h4, h⟩ := bind_eq_ok.mp h
  have q4 := (call_quiet hA fun _ h => h.setRunning q2.1.nextId_le _).of_ok h4 q3
  have ho4 := containerStart_ok h4
  obtain ⟨_, w5, h5, h⟩ := bind_eq_ok.mp h
  obtain ⟨-, rfl⟩ := Prod.mk.inj_iff.mp h5
  obtain ⟨_, w6, h6, h⟩ := bind_eq_ok.mp h
  have q6 := (ioStep_quiet hA _).of_ok h6 q4
  obtain ⟨_, w7, h7, h⟩ := bind_eq_ok.mp h
  have q7 := (ioStep_quiet hA _).of_ok h7 q6
  obtain ⟨_, w8, h8, h⟩ := bind_eq_ok.mp h
  have q8 := (call_quiet hA fun _ h => h).of_ok h8 q7
  have hw8 : w8.objects = w4.objects := by rw [(call_ok h8).2, ioStep_ok h7, ioStep_ok h6]
  obtain ⟨_, w9, h9, h⟩ := bind_eq_ok.mp h
  simp only [pure_apply, Prod.mk.injEq] at h
  obtain ⟨-, rfl⟩ := h
  simp only [ignoreError, containerRemove, call_of_accepting q8.2, Prod.mk.injEq] at h9
  obtain ⟨-, rfl⟩ := h9
  have hc2 : w2.objects.containers = w.objects.containers := by
    rw [ho2, Objects.createVolume_containers, hc1]
  refine ⟨?_, by simp [hw8, ho4, ho3, ho2, hn1]⟩
  rw [Objects.removeContainer_containers, hw8, ho4, ho3, Objects.createContainer_setRunning,
    List.filter_append, hc2,
    List.filter_eq_self.mpr fun c hc => decide_eq_true (Untouched.id_ne hc q2.1.nextId_le)]
  simp

/-! ## `Stop` and `Remove` undo `NewPod` on an accepting engine -/

theorem call_accepting {α : Type} (c : Call) (effect : Objects → α × Objects) :
    Preserves Accepting (call c effect) := fun w h => by
  rcases call_cases c effect w with ⟨-, he⟩ | ⟨-, he⟩ <;> rw [he] <;> exact h.tail

theorem answer_accepted : ∀ (cs : List Call) {fs : List Bool}, (∀ b ∈ fs, b = false) →
    (answer cs fs).all (·.ok) = true
  | [], _, _ => rfl
  | c :: cs, fs, h => by
    rw [answer, List.all_cons, answer_accepted cs fun b hb => h b (List.mem_of_mem_tail hb),
      Bool.and_true]
    cases fs with
    | nil => rfl
    | cons b fs => simp [h b (List.mem_cons_self _ _)]

theorem DockerPod.stop_accepting (dp : DockerPod) {w : World} (h : Accepting w) :
    (dp.stop w).1 = .ok () ∧ Accepting (dp.stop w).2 :=
  ⟨(dp.stop_collects.report "stop errors: " w).1.trans (if_pos (answer_accepted _ h)),
    ((Preserves.foldlM_collect _ (fun _ _ => call_accepting _ _) _).bind fun _ =>
      Preserves.ite (Preserves.throw _) (Preserves.pure _)) w h⟩

theorem stopMembers_accepting : ∀ (cs : List DockerContainer) (errs : List DriverError)
    (w : World), Accepting w →
    ∃ w', cs.foldlM (fun errs c => collect errs (containerStop c.container.id 1)) errs w =
        (.ok errs, w') ∧ Accepting w' ∧
      w'.objects.containers = w.objects.containers.map (fun c =>
        if c.id ∈ cs.map (·.container.id) then { c with running := false } else c) ∧
      w'.objects.volumes = w.objects.volumes ∧ w'.objects.nextId = w.objects.nextId
  | [], errs, w, h => ⟨w, rfl, h, by simp, rfl, rfl⟩
  | c :: cs, errs, w, h => by
    obtain ⟨w', h1, h2, h3, h4, h5⟩ := stopMembers_accepting cs errs
      ⟨w.objects.setRunning c.container.id false, w.faults.tail,
        w.log ++ [⟨.containerStop c.container.id 1, true⟩]⟩ h.tail
    refine ⟨w', ?_, h2, ?_, h4, h5⟩
    · rw [List.foldlM_cons, bind_apply]
      simpa only [collect, containerStop, call_of_accepting h] using h1
    · rw [h3, Objects.setRunning, List.map_map]
      refine List.map_congr_left fun x _ => ?_
      simp only [Function.comp, List.map_cons, List.mem_cons]
      by_cases hx : x.id = c.container.id
      · simp [hx]
      · simp only [hx, if_false, false_or]

theorem DockerPod.stop_objects (dp : DockerPod) {w : World} (h : Accepting w) :
    (dp.stop w).2.objects.containers = w.objects.containers.map (fun c =>
        if c.id ∈ dp.containers.map (·.container.id) then { c with running := false } else c) ∧
      (dp.stop w).2.objects.volumes = w.objects.volumes ∧
      (dp.stop w).2.objects.nextId = w.objects.nextId := by
  obtain ⟨w1, h1, -, hc1, hv1, hn1⟩ := stopMembers_accepting dp.containers [] w h
  have e : dp.stop w = (.ok (), w1) := by
    simp only [DockerPod.stop, bind_of_ok h1]
    rfl
  rw [e]
  exact ⟨hc1, hv1, hn1⟩

theorem removeMembers_accepting : ∀ (cs : List DockerContainer) (errs : List DriverError)
    (w : World), Accepting w →
    ∃ w', cs.foldlM (fun errs c => collect errs (containerRemove c.container.id true)) errs w =
        (.ok errs, w') ∧ Accepting w' ∧
      w'.objects.containers =
        w.objects.containers.filter (fun c => c.id ∉ cs.map (·.container.id)) ∧
      w'.objects.volumes = w.objects.volumes ∧ w'.objects.nextId = w.objects.nextId
  | [], errs, w, h => ⟨w, rfl, h, by simp, rfl, rfl⟩
  | c :: cs, errs, w, h => by
    obtain ⟨w', h1, h2, h3, h4, h5⟩ := removeMembers_accepting cs errs
      ⟨w.objects.removeContainer c.container.id, w.faults.tail,
        w.log ++ [⟨.containerRemove c.container.id true, true⟩]⟩ h.tail
    refine ⟨w', ?_, h2, ?_, h4, h5⟩
    · rw [List.foldlM_cons, bind_apply]
      simpa only [collect, containerRemove, call_of_accepting h] using h1
    · rw [h3, Objects.removeContainer_containers, List.filter_filter]
      congr 1
      funext x
      by_cases hx : x.id = c.container.id <;> simp [hx]

theorem removeNamed_accepting (name : String) (errs : List DriverError) {w : World}
    (h : Accepting w) :
    ∃ w', (if name ≠ "" then collect errs (volumeRemove name true) else pure errs) w =
        (.ok errs, w') ∧
      Accepting w' ∧ w'.objects.containers = w.objects.containers ∧
      w'.objects.volumes = w.objects.volumes.filter (fun v => v.name ∉ [name].filter (· ≠ "")) ∧
      w'.objects.nextId = w.objects.nextId := by
  by_cases hn : name = ""
  · exact ⟨w, by simp [hn], h, rfl, by simp [hn], rfl⟩
  · refine ⟨⟨w.objects.removeVolume name, w.faults.tail,
      w.log ++ [⟨.volumeRemove name true, true⟩]⟩,
      by simp only [if_pos hn, collect, volumeRemove, call_of_accepting h], h.tail, rfl, ?_, rfl⟩
    simp [Objects.removeVolume, hn]

theorem DockerPod.remove_accepting (dp : DockerPod) {w : World} (h : Accepting w) :
    (dp.remove w).1 = .ok () ∧ Accepting (dp.remove w).2 ∧
      (dp.remove w).2.objects.containers =
        w.objects.containers.filter (fun c => c.id ∉ dp.containers.map (·.container.id)) ∧
      (dp.remove w).2.objects.volumes = w.objects.volumes.filter (fun v =>
        v.name ∉ [dp.toolboxVolumeName, dp.projectVolumeName].filter (· ≠ "")) ∧
      (dp.remove w).2.objects.nextId = w.objects.nextId := by
  obtain ⟨w1, h1, a1, hc1, hv1, hn1⟩ := removeMembers_accepting dp.containers [] w h
  obtain ⟨w2, h2, a2, hc2, hv2, hn2⟩ := removeNamed_accepting dp.toolboxVolumeName [] a1
  obtain ⟨w3, h3, a3, hc3, hv3, hn3⟩ := removeNamed_accepting dp.projectVolumeName [] a2
  have e : dp.remove w = (.ok (), w3) := by
    simp only [DockerPod.remove, bind_of_ok h1, bind_of_ok h2, bind_of_ok h3]
    rfl
  rw [e]
  refine ⟨rfl, a3, by rw [hc3, hc2, hc1], ?_, by rw [hn3, hn2, hn1]⟩
  rw [hv3, hv2, hv1, List.filter_filter]
  exact List.filter_congr fun v _ => by
    by_cases ht : dp.toolboxVolumeName = "" <;> by_cases hp : dp.projectVolumeName = "" <;>
      simp [List.filter_cons, ht, hp, Bool.and_comm]

theorem getPods_accepting (P : Package) (d : DockerDriver) (all : Bool) {w : World}
    (h : Accepting w) : (getPods P d all w).1 = podsOf P d.executorID
      (w.objects.containers.filter fun c => (all || c.running) && matchesLabels c.labels [])
      w.objects.volumes := by
  simp only [getPods, containerList, volumeList, bind_apply, call_of_accepting h,
    call_of_faults h.tail, fromExcept_apply]

section NewPod

variable (P : Package) (d : DockerDriver) {podConfig : PodConfig}

theorem discovered_container {c : Container} {dc : DockerContainer}
    (h : discovered P c = some dc) : dc.container = c.sortMounts := by
  obtain ⟨i, -, rfl⟩ := Option.map_eq_some'.mp h
  rfl

theorem filterMap_discovered_ids : ∀ {cs : List Container}, (∀ c ∈ cs, (discovered P c).isSome) →
    (cs.filterMap (discovered P)).map (·.container.id) = cs.map (·.id)
  | [], _ => rfl
  | c :: cs, hall => by
    obtain ⟨dc, hdc⟩ := Option.isSome_iff_exists.mp (hall c (List.mem_cons_self _ _))
    rw [List.filterMap_cons, hdc, List.map_cons, List.map_cons, discovered_container P hdc,
      Container.sortMounts_id,
      filterMap_discovered_ids fun c' h => hall c' (List.mem_cons_of_mem _ h)]

theorem newPod_accepting_ok {pod : DockerPod} {w w' : World} (hacc : Accepting w)
    (hfresh : ∀ c ∈ w.objects.containers, c.running = true →
      matchesLabels c.labels (searchLabels P d podConfig) = false)
    (h : newPod P d podConfig w = (.ok pod, w')) :
    ∃ created : List Container, w'.objects.containers = w.objects.containers ++ created ∧
      (pod.containers.map (·.container.id)).Perm (created.map (·.id)) ∧
      (∀ c ∈ created, w.objects.nextId ≤ c.id) ∧
      w'.objects.volumes = w.objects.volumes ++
        [⟨toString w.objects.nextId, volumeLabels P d podConfig.id P.toolboxVolumeName⟩,
          ⟨toString (w.objects.nextId + 2), volumeLabels P d podConfig.id P.projectVolumeName⟩] ∧
      pod.toolboxVolumeName = toString w.objects.nextId ∧
      pod.projectVolumeName = toString (w.objects.nextId + 2) ∧
      w.objects.nextId + 3 ≤ w'.objects.nextId ∧
      ∃ tv pv n, List.Forall₂ (Planned P d podConfig tv pv n 0) created podConfig.containers.enum := by
  obtain ⟨tv, pv, w1, w2, w3, cs, acc, main, h1, h2, h3, h4, h5, -, -, rfl⟩ := newPod_ok P d h
  obtain ⟨rfl, hv1, -, -⟩ := createToolboxVolume_ok P d h1
  obtain ⟨hc1, hn1⟩ := createToolboxVolume_accepting P d hacc h1
  obtain ⟨rfl, hw2⟩ := createProjectVolume_ok P d h2
  obtain ⟨created, hplan, hc3, hv3, hn3⟩ := createContainers_ok P d _ _ _ _ _ h3
  obtain ⟨hcs, hw'⟩ := containerList_ok h4
  have hF := plannedContainers_forall₂ P d _ _ _ _ _ hplan
  -- the listing holds the created containers and nothing else
  have hlist : cs = created := by
    rw [hcs, hc3, hw2, Objects.createVolume_containers, hc1,
      ← List.append_nil w.objects.containers]
    exact listing_created P d hfresh (fun _ h => nomatch h) hF
  subst hlist
  have hall : ∀ c ∈ cs, (discovered P c).isSome := fun c hc => by
    obtain ⟨icc, hicc, hp⟩ := exists_of_forall₂_mem hF.flip hc
    rw [Planned.discovered_eq P d hp
      (lt_trans (List.fst_lt_of_mem_enum hicc) podConfig.containers_length)]
    rfl
  obtain ⟨hpods, -, -, -, m, hpod⟩ := discoverContainers_ok P h5
  have hn2 : w.objects.nextId + 3 ≤ w2.objects.nextId := by simp [hw2, hn1]
  refine ⟨cs, by rw [hw', hc3, hw2, Objects.createVolume_containers, hc1], ?_, fun c hc => ?_,
    by rw [hw', hv3, hw2, Objects.createVolume_volumes, hv1, hn1]; simp, by rw [hpod]; rfl,
    by rw [hpod, hn1]; rfl, by rw [hw', hn3]; omega, _, _, _, hF⟩
  · have hmembers : acc.pod.containers = cs.filterMap (discovered P) := by rw [hpods]; rfl
    show ((sortByIndex acc.pod.containers).map _).Perm _
    rw [hmembers, ← filterMap_discovered_ids P hall]
    exact (sortByIndex_perm _).map _
  · obtain ⟨icc, -, -, hid, -⟩ := exists_of_forall₂_mem hF.flip hc
    omega

end NewPod

end Agola.Driver
