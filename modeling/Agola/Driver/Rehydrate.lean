import Agola.Driver.PodInvariant
import Agola.Driver.Exec

/-!
# `GetPods` after `NewPod`

An executor that restarts finds its pods again with `GetPods`, which rebuilds
each pod from the labels `NewPod` stamped. On an engine that held nothing of the
pod before, the rebuilt pod has the members, the volumes, the ID and the
executor of the pod `NewPod` returned, and the same name index away from `""`.
The two constructions do not fill the rest alike: `NewPod` never sets the pod's
labels, so its `TaskID` is empty, while `GetPods` never keys the main container
under `""` and never sets `initVolumeDir`, the directory `Exec` finds the toolbox
in. So `Exec` of the main container works on the pod of `NewPod` and fails on
every pod of `GetPods`.
-/

namespace Agola.Driver

open DriverM

section Rehydrate

variable (P : Package) (d : DockerDriver) {podConfig : PodConfig} {tv pv : Volume} {n cindex : Nat}

/-! ## The containers `NewPod` created, as `GetPods` reads them -/

theorem ownedPodID_of_matchesLabels {labels : Labels}
    (h : matchesLabels labels (searchLabels P d podConfig) = true) :
    ownedPodID P d.executorID labels = some podConfig.id := by
  obtain ⟨-, he, hp, -⟩ := (matchesLabels_searchLabels P d labels).mp h
  simp only [Package.executorIDKey, Package.podIDKey] at he hp
  simp [ownedPodID, he, hp]

theorem Planned.owned {c : Container} {icc : Nat × ContainerConfig}
    (hp : Planned P d podConfig tv pv n cindex c icc) :
    ownedPodID P d.executorID c.labels = some podConfig.id := by
  obtain ⟨-, -, mainID, hreq⟩ := hp
  simp [ownedPodID, Container.labels, containerRequest_labels P d hreq]

theorem forall_running_owned {cs : List Container} {l : List (Nat × ContainerConfig)}
    (hF : List.Forall₂ (Planned P d podConfig tv pv n cindex) cs l) :
    ∀ c ∈ cs, c.running = true ∧ ownedPodID P d.executorID c.labels = some podConfig.id := by
  induction hF with
  | nil => exact fun _ h => absurd h (List.not_mem_nil _)
  | cons hp _ ih =>
    intro c hc
    rcases List.mem_cons.mp hc with rfl | hc
    · exact ⟨hp.1, hp.owned P d⟩
    · exact ih c hc

theorem Planned.indexOf_eq {c : Container} {icc : Nat × ContainerConfig}
    (hp : Planned P d podConfig tv pv n cindex c icc) (hi : icc.1 < 2 ^ 63) :
    indexOf P c = some icc.1 ∧ parsedIndex P c = some icc.1 := by
  obtain ⟨-, -, mainID, hreq⟩ := hp
  simp [indexOf, parsedIndex, Container.labels, containerRequest_labels P d hreq, atoi_itoa _ hi]

theorem fillPodFrom_discoverContainers {cs : List Container} {l : List (Nat × ContainerConfig)}
    (hF : List.Forall₂ (Planned P d podConfig tv pv n cindex) cs l) (hl : ∀ icc ∈ l, icc.1 < 2 ^ 63)
    {acc acc' : Discovery} (h : discoverContainers P acc cs = .ok acc') (pod : DockerPod)
    (hc : pod.containers = acc.pod.containers) (hm : pod.containersMap = acc.pod.containersMap) :
    (fillPodFrom P d.executorID podConfig.id pod cs).containers = acc'.pod.containers ∧
      (fillPodFrom P d.executorID podConfig.id pod cs).containersMap = acc'.pod.containersMap := by
  induction hF generalizing acc pod with
  | nil =>
    simp only [discoverContainers, Except.ok.injEq] at h
    subst h
    exact ⟨hc, hm⟩
  | @cons c icc cs l hp _ ih =>
    have hb := hl icc (List.mem_cons_self _ _)
    simp only [discoverContainers, discoverContainer_eq, hp.discovered_eq P d hb] at h
    split at h
    · cases h
    obtain ⟨lab, hf⟩ := fillPod_eq P pod c icc.1
    simp only [fillPodFrom, if_pos (hp.owned P d), (hp.indexOf_eq P d hb).1, Option.getD_some]
    refine ih (fun x hx => hl x (List.mem_cons_of_mem _ hx)) h _ ?_ ?_ <;>
      simp [hf, DockerPod.addContainer, hc, hm]

theorem fillPodFrom_labels {cs : List Container} {l : List (Nat × ContainerConfig)}
    (hF : List.Forall₂ (Planned P d podConfig tv pv n cindex) cs l)
    (hl : ∀ icc ∈ l, 0 < icc.1 ∧ icc.1 < 2 ^ 63) (pod : DockerPod) :
    (fillPodFrom P d.executorID podConfig.id pod cs).labels = pod.labels := by
  induction hF generalizing pod with
  | nil => rfl
  | @cons c icc cs l hp _ ih =>
    obtain ⟨h0, hb⟩ := hl icc (List.mem_cons_self _ _)
    simp only [fillPodFrom, if_pos (hp.owned P d), (hp.indexOf_eq P d hb).1, Option.getD_some]
    rw [ih fun x hx => hl x (List.mem_cons_of_mem _ hx)]
    simp [fillPod, DockerPod.addContainer, Int.ofNat_eq_zero, Nat.pos_iff_ne_zero.mp h0]

theorem podLabels_taskID (labels : Labels) :
    (podLabels P labels).lookup P.taskIDKey = labels.lookup P.taskIDKey := by
  refine GoMap.lookup_filter_of_key labels fun q hq => ?_
  rw [hq, Bool.and_eq_true, bne_iff_ne]
  exact ⟨P.labelKey_prefix _, by simp⟩

/-- The second loop of `GetPods` on the created containers gives the pod the
members and name index of `NewPod`'s discovery, and the labels of member 0,
which carry the task ID. -/
theorem fillPodFrom_created {created : List Container}
    (hF : List.Forall₂ (Planned P d podConfig tv pv n 0) created podConfig.containers.enum)
    (hne : created ≠ []) {acc : Discovery}
    (h : discoverContainers P ⟨podShell d podConfig tv pv, [], 0⟩ created = .ok acc) :
    ∃ labels, labels.lookup P.taskIDKey = some podConfig.taskID ∧
      fillPodFrom P d.executorID podConfig.id (emptyPod d.executorID podConfig.id) created =
        { emptyPod d.executorID podConfig.id with
          labels := labels
          containers := acc.pod.containers
          containersMap := acc.pod.containersMap } := by
  have hbound : ∀ icc ∈ podConfig.containers.enum, icc.1 < 2 ^ 63 := fun icc hicc =>
    lt_trans (List.fst_lt_of_mem_enum hicc) podConfig.containers_length
  obtain ⟨hcs, hm⟩ :=
    fillPodFrom_discoverContainers P d hF hbound h (emptyPod d.executorID podConfig.id) rfl rfl
  -- member 0 gives the labels, and the later members keep them
  obtain ⟨c0, rest, rfl⟩ := List.exists_cons_of_ne_nil hne
  obtain ⟨cc0, ccs, hcc⟩ : ∃ cc0 ccs, podConfig.containers = cc0 :: ccs := by
    cases hx : podConfig.containers with
    | nil => rw [hx] at hF; cases hF
    | cons cc0 ccs => exact ⟨cc0, ccs, rfl⟩
  rw [hcc, List.enum_cons] at hbound hF
  obtain ⟨hp0, hrest⟩ := List.forall₂_cons.mp hF
  have hlab : (fillPodFrom P d.executorID podConfig.id (emptyPod d.executorID podConfig.id)
      (c0 :: rest)).labels = podLabels P c0.labels := by
    simp only [fillPodFrom, if_pos (hp0.owned P d), (hp0.indexOf_eq P d (Nat.two_pow_pos 63)).1,
      Option.getD_some]
    rw [fillPodFrom_labels P d hrest fun icc hicc =>
      ⟨List.le_fst_of_mem_enumFrom hicc, hbound icc (List.mem_cons_of_mem _ hicc)⟩]
    simp [fillPod]
  obtain ⟨l, dcs, m, hf, -⟩ :=
    fillPodFrom_eq P d.executorID podConfig.id (emptyPod d.executorID podConfig.id) (c0 :: rest)
  rw [hf] at hcs hm hlab ⊢
  dsimp only at hcs hm hlab
  refine ⟨l, ?_, by rw [hcs, hm]⟩
  obtain ⟨-, -, mainID, hreq⟩ := hp0
  rw [hlab, podLabels_taskID, Container.labels, containerRequest_labels P d hreq]
  simp

theorem fillPodFrom_listing (old H created : List Container) (p : Container → Bool) (pod : DockerPod)
    (hold : ∀ c ∈ old, ownedPodID P d.executorID c.labels ≠ some podConfig.id)
    (hH : ∀ c ∈ H, c.labels = []) (hcreated : ∀ c ∈ created, p c = true) :
    fillPodFrom P d.executorID podConfig.id pod ((old ++ H ++ created).filter p) =
      fillPodFrom P d.executorID podConfig.id pod created := by
  rw [List.filter_append, List.filter_append, List.filter_eq_self.mpr hcreated, fillPodFrom_append,
    fillPodFrom_append, fillPodFrom_of_not_owned P d.executorID podConfig.id pod (old.filter p)
      fun c hc => hold c (List.mem_filter.mp hc).1,
    fillPodFrom_of_not_owned P d.executorID podConfig.id pod (H.filter p)
      fun c hc => by simp [hH c (List.mem_filter.mp hc).1, ownedPodID]]

theorem attachFrom_pod_volumes (vs : List Volume) (pod : DockerPod)
    (hvs : ∀ v ∈ vs, ownedPodID P d.executorID v.labels ≠ some podConfig.id)
    (htv : tv.labels = volumeLabels P d podConfig.id P.toolboxVolumeName)
    (hpv : pv.labels = volumeLabels P d podConfig.id P.projectVolumeName) :
    attachFrom P d.executorID podConfig.id pod (vs ++ [tv, pv]) =
      { pod with toolboxVolumeName := tv.name, projectVolumeName := pv.name } := by
  have hne : P.projectVolumeName ≠ P.toolboxVolumeName := P.toolbox_ne_project.symm
  rw [attachFrom_append, attachFrom_of_not_owned P d.executorID podConfig.id pod vs hvs]
  simp [attachFrom, attachVolume, ownedPodID, htv, hpv, volumeLabels, hne]

/-! ## `Exec` of the main container -/

variable (marshal : GoMap String → String)

def mainExec : ExecConfig :=
  { cmd := ["ls"], env := [], workingDir := "/", user := "", container := "", tty := false,
    attachStdin := false, stdout := true, stderr := true }

theorem getPods_unkeyed {all : Bool} {w w' : World} {pods : List DockerPod}
    (h : getPods P d all w = (.ok pods, w')) {pod : DockerPod} (hpod : pod ∈ pods) :
    pod.containersMap.lookup "" = none ∧ pod.initVolumeDir = "" := by
  obtain ⟨cs, -, -, hcs⟩ := getPods_ok h
  obtain ⟨l, dcs, m, hf, hm⟩ :=
    fillPodFrom_eq P d.executorID pod.id (emptyPod d.executorID pod.id) cs
  obtain ⟨t, p, ha⟩ := attachFrom_eq P d.executorID pod.id
    (fillPodFrom P d.executorID pod.id (emptyPod d.executorID pod.id) cs) w.objects.volumes
  rw [hcs pod hpod]
  simp only [rebuiltPod]
  rw [ha, hf]
  exact ⟨hm, rfl⟩

/-- `Exec` of the main container on a pod `GetPods` returned fails before any
engine call, and the toolbox it would run is the relative `agola-toolbox`. -/
theorem getPods_exec_main_fails {all : Bool} {w w' : World} {pods : List DockerPod}
    (h : getPods P d all w = (.ok pods, w')) {pod : DockerPod} (hpod : pod ∈ pods)
    {execConfig : ExecConfig} (hc : execConfig.container = "") (w₀ : World) :
    exec marshal pod execConfig w₀ = (.error (.errorf "Container  not found"), w₀) ∧
      (execCommand marshal pod execConfig).head? = some "agola-toolbox" := by
  obtain ⟨hl, hi⟩ := getPods_unkeyed P d h hpod
  refine ⟨?_, by simp only [execCommand, hi, List.head?_cons, List.cons_append]; decide⟩
  have ht : execTarget pod execConfig = .error (.errorf "Container  not found") := by
    simp only [execTarget, hc, hl]
    rfl
  simp only [exec, ht]
  rfl

theorem getPods_newPod_sample_ok : ∃ pod w' pods w'',
    newPod Package.spec sampleDriver samplePodConfig emptyWorld = (.ok pod, w') ∧
      getPods Package.spec sampleDriver true w' = (.ok pods, w'') ∧ pods.length = 1 := by
  have hok : (getPods Package.spec sampleDriver true
      (newPod Package.spec sampleDriver samplePodConfig emptyWorld).2).1.toOption.map List.length =
        some 1 := by
    decide
  obtain ⟨pod, w', hr⟩ := newPod_sample_ok
  rw [hr] at hok
  match hg : getPods Package.spec sampleDriver true w', hok with
  | (.ok pods, w''), hlen => exact ⟨pod, w', pods, w'', hr, hg, Option.some.inj hlen⟩

theorem getPods_exec_main_fails_sample : ∃ pods w',
    getPods Package.spec sampleDriver true
        (newPod Package.spec sampleDriver samplePodConfig emptyWorld).2 = (.ok pods, w') ∧
      pods.length = 1 ∧ ∀ pod ∈ pods, mainExec.container = "" ∧
        exec (fun _ => "\x7b\x7d") pod mainExec emptyWorld =
          (.error (.errorf "Container  not found"), emptyWorld) ∧
        (execCommand (fun _ => "\x7b\x7d") pod mainExec).head? = some "agola-toolbox" :=
  have ⟨_, _, pods, w'', hr, hg, hlen⟩ := getPods_newPod_sample_ok
  ⟨pods, w'', by rw [hr]; exact hg, hlen, fun _ hpod =>
    ⟨rfl, getPods_exec_main_fails Package.spec sampleDriver (fun _ => "\x7b\x7d") hg hpod rfl _⟩⟩

/-! ## The pod found again -/

end Rehydrate

/-! ## A run on the sample pod -/

/-- On the sample pod, `NewPod` returns a pod with an empty task ID whose main
container `Exec` reaches through the absolute toolbox path; the pod `GetPods`
rebuilds from the same engine has the task ID, but `Exec` finds no main
container in it and would run a relative `agola-toolbox`. -/
theorem newPod_getPods_disagree :
    (newPod Package.spec sampleDriver samplePodConfig emptyWorld).1.toOption.map (fun pod =>
        (pod.taskID Package.spec, (execTarget pod mainExec).toOption.map (·.index),
          (execCommand (fun _ => "\x7b\x7d") pod mainExec).head?)) =
        some ("", some 0, some "/mnt/agola/agola-toolbox") ∧
      ((getPods Package.spec sampleDriver true
          (newPod Package.spec sampleDriver samplePodConfig emptyWorld).2).1.toOption.getD []).map
        (fun pod => (pod.id, pod.taskID Package.spec, (execTarget pod mainExec).toOption.map (·.index),
          (execCommand (fun _ => "\x7b\x7d") pod mainExec).head?)) =
        [("p1", "t1", none, some "agola-toolbox")] := by
  decide

end Agola.Driver
