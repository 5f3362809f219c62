import Agola.Driver.NewPodRun

/-!
# What `NewPod` builds

`NewPod` does not keep the IDs it creates: it lists the containers that carry
the pod's labels and rebuilds the pod from the listing, checking only that every
listed container parsed and that no index repeats. On a runtime where no running
container carries the pod's labels beforehand, the listing is exactly what the
creation loop made (`newPod_created`).
-/

namespace Agola.Driver

open DriverM

section NewPod

variable (P : Package) (d : DockerDriver) {podConfig : PodConfig} {tv pv : Volume} {n cindex : Nat}

theorem Planned.listed {c : Container} {icc : Nat × ContainerConfig}
    (hp : Planned P d podConfig tv pv n cindex c icc) :
    ((false || c.running) && matchesLabels c.labels (searchLabels P d podConfig)) = true := by
  obtain ⟨hr, -, mainID, hreq⟩ := hp
  rw [Container.labels, containerRequest_labels P d hreq, hr, Bool.false_or, Bool.true_and,
    matchesLabels_searchLabels]
  simp

theorem listing_created {cs H created : List Container} {l : List (Nat × ContainerConfig)}
    (hfresh : ∀ c ∈ cs, c.running = true →
      matchesLabels c.labels (searchLabels P d podConfig) = false)
    (hH : ∀ c ∈ H, c.labels = [])
    (hF : List.Forall₂ (Planned P d podConfig tv pv n cindex) created l) :
    (cs ++ H ++ created).filter
      (fun c => (false || c.running) && matchesLabels c.labels (searchLabels P d podConfig)) =
      created := by
  have hlisted :=
    ((List.forall₂_and_left _ _).mp (hF.imp fun _ _ hp => ⟨hp.listed P d, hp⟩)).1
  rw [List.filter_append, List.filter_append, List.filter_eq_nil_iff.mpr,
    List.filter_eq_nil_iff.mpr, List.filter_eq_self.mpr hlisted]
  · rfl
  · intro c hc
    simp [hH c hc, matchesLabels, searchLabels, GoMap.set]
  · intro c hc
    cases hr : c.running
    · simp
    · simp [hfresh c hc hr]

theorem Planned.discovered_eq {c : Container} {icc : Nat × ContainerConfig}
    (hp : Planned P d podConfig tv pv n cindex c icc) (hi : icc.1 < 2 ^ 63) :
    discovered P c = some ⟨icc.1, c.sortMounts⟩ := by
  obtain ⟨-, -, mainID, hreq⟩ := hp
  simp [discovered, parsedIndex, Container.labels, containerRequest_labels P d hreq, atoi_itoa _ hi]

theorem filterMap_discovered {cs : List Container} {l : List (Nat × ContainerConfig)}
    (h : List.Forall₂ (Planned P d podConfig tv pv n cindex) cs l) (hl : ∀ icc ∈ l, icc.1 < 2 ^ 63) :
    List.Forall₂ (fun dc icc => dc.index = icc.1 ∧
        ∃ c ∈ cs, Planned P d podConfig tv pv n cindex c icc ∧ dc.container = c.sortMounts)
      (cs.filterMap (discovered P)) l := by
  induction h with
  | nil => exact .nil
  | @cons c icc cs l hc _ ih =>
    rw [List.filterMap_cons, hc.discovered_eq P d (hl icc (List.mem_cons_self _ _))]
    refine .cons ⟨rfl, c, List.mem_cons_self _ _, hc, rfl⟩ ?_
    refine (ih fun x hx => hl x (List.mem_cons_of_mem _ hx)).imp fun _ _ ⟨hi, c', hc', hp⟩ => ?_
    exact ⟨hi, c', List.mem_cons_of_mem _ hc', hp⟩

end NewPod

theorem index_map_of_forall₂_enum {α : Type} {R : DockerContainer → Nat × α → Prop}
    {dcs : List DockerContainer} {l : List α}
    (h : List.Forall₂ (fun dc icc => dc.index = icc.1 ∧ R dc icc) dcs l.enum) :
    dcs.map (·.index) = (List.range l.length).map fun i : Nat => (i : Int) := by
  rw [← List.enum_map_fst, List.map_map]
  refine (congr_fun₂ List.forall₂_eq_eq_eq _ _).mp ?_
  exact List.forall₂_map_left_iff.mpr (List.forall₂_map_right_iff.mpr (h.imp fun _ _ hx => hx.1))

theorem sorted_of_forall₂_enum {α : Type} {R : DockerContainer → Nat × α → Prop}
    {dcs : List DockerContainer} {l : List α}
    (h : List.Forall₂ (fun dc icc => dc.index = icc.1 ∧ R dc icc) dcs l.enum) :
    dcs.Sorted ByIndex := by
  have hle : (dcs.map (·.index)).Pairwise (· ≤ ·) := by
    rw [index_map_of_forall₂_enum h]
    exact (List.pairwise_lt_range _).map _ fun _ _ hab => by omega
  exact (List.pairwise_map.mp hle : dcs.Pairwise fun a b => a.index ≤ b.index)

section NewPod

variable (P : Package) (d : DockerDriver) {podConfig : PodConfig}

/-- A successful `NewPod` on a runtime where no running container carries the
pod's labels: the engine gained helper containers without labels, the planned
containers and the two volumes; the listing was exactly the planned containers,
and the pod is their discovery, with its first member keyed under `""`. -/
theorem newPod_created {pod : DockerPod} {w w' : World}
    (h : newPod P d podConfig w = (.ok pod, w'))
    (hfresh : ∀ c ∈ w.objects.containers, c.running = true →
      matchesLabels c.labels (searchLabels P d podConfig) = false) :
    ∃ tv pv H created n acc main, w.objects.nextId ≤ n ∧
      w'.objects.containers = w.objects.containers ++ H ++ created ∧ (∀ c ∈ H, c.labels = []) ∧
      w'.objects.volumes = w.objects.volumes ++ [tv, pv] ∧
      tv.labels = volumeLabels P d podConfig.id P.toolboxVolumeName ∧
      pv.labels = volumeLabels P d podConfig.id P.projectVolumeName ∧
      List.Forall₂ (Planned P d podConfig tv pv n 0) created podConfig.containers.enum ∧
      discoverContainers P ⟨podShell d podConfig tv pv, [], 0⟩ created = .ok acc ∧
      (created.filterMap (discovered P)).head? = some main ∧
      pod = { podShell d podConfig tv pv with
        containers := created.filterMap (discovered P)
        containersMap := acc.pod.containersMap.set "" main } := by
  obtain ⟨tv, pv, w1, w2, w3, cs, acc, main, h1, h2, h3, h4, h5, -, hmain, rfl⟩ := newPod_ok P d h
  obtain ⟨htv, hv1, hn1, H, hH, hHl⟩ := createToolboxVolume_ok P d h1
  obtain ⟨rfl, hw2⟩ := createProjectVolume_ok P d h2
  obtain ⟨created, hplan, hc3, hv3, -⟩ := createContainers_ok P d _ _ _ _ _ h3
  obtain ⟨hcs, hw'⟩ := containerList_ok h4
  have hF := plannedContainers_forall₂ P d _ _ _ _ _ hplan
  -- the listing holds the created containers and nothing else
  have hlist : cs = created := by
    rw [hcs, hc3, hw2, Objects.createVolume_containers, hH]
    exact listing_created P d hfresh (fun c hc => (hHl c hc).1) hF
  subst hlist
  -- discovery reads every created container back at its index, already sorted
  have hbound : ∀ icc ∈ podConfig.containers.enumFrom 0, icc.1 < 2 ^ 63 := fun icc hicc =>
    lt_trans (List.fst_lt_of_mem_enum hicc) podConfig.containers_length
  obtain ⟨hpods, -, -, -, m, hpod⟩ := discoverContainers_ok P h5
  have hsorted : sortByIndex acc.pod.containers = cs.filterMap (discovered P) := by
    rw [hpods]
    exact (sorted_of_forall₂_enum (filterMap_discovered P d hF hbound)).insertionSort_eq
  refine ⟨tv, _, H, cs, w2.objects.nextId, acc, main, by rw [hw2]; simp; omega,
    by rw [hw', hc3, hw2, Objects.createVolume_containers, hH], fun c hc => (hHl c hc).1,
    by rw [hw', hv3, hw2, Objects.createVolume_volumes, hv1]; simp, by rw [htv], rfl, hF, h5,
    hsorted ▸ hmain, ?_⟩
  rw [hsorted, hpod]

end NewPod

/-! ## Runs on a sample pod -/

def sampleDriver : DockerDriver :=
  { toolboxPath := "/opt/toolbox", initImage := "busybox:stable", initDockerConfig := none,
    executorID := "e1", arch := "amd64" }

def samplePodConfig : PodConfig :=
  { id := "p1", taskID := "t1", containers := [{ image := "alpine:3", cmd := ["sh"] }],
    containers_length := by decide, initVolumeDir := "/mnt/agola", dockerConfig := none }

def emptyWorld : World :=
  { objects := { containers := [], volumes := [], images := [], nextId := 0, fresh := by simp },
    faults := [], log := [] }

/-- An engine running the main containers of two pods of the sample driver,
`p1` with its toolbox volume and `p2` with its project volume. -/
def twoPodsWorld : World :=
  { objects :=
      { containers :=
          [⟨0, { image := "alpine:3"
                 labels := containerLabels Package.spec sampleDriver samplePodConfig 0 "" }, true⟩,
           ⟨1, { image := "alpine:3"
                 labels := containerLabels Package.spec sampleDriver
                   { samplePodConfig with id := "p2" } 0 "" }, true⟩]
        volumes :=
          [⟨"v1", volumeLabels Package.spec sampleDriver "p1" Package.spec.toolboxVolumeName⟩,
           ⟨"v2", volumeLabels Package.spec sampleDriver "p2" Package.spec.projectVolumeName⟩]
        images := [], nextId := 2, fresh := by decide }
    faults := [], log := [] }

def thirdPodConfig : PodConfig := { samplePodConfig with id := "p3" }

/-- A pod of an unnamed main container and a sidecar named `redis` with a tmpfs
volume. -/
def sidecarPodConfig : PodConfig :=
  { id := "p3", taskID := "t3",
    containers := [{ image := "alpine:3", cmd := ["sh"] },
      { image := "redis:7", name := "redis", volumes := [⟨"/data", some ⟨64⟩⟩] }],
    containers_length := by decide, initVolumeDir := "/mnt/agola", dockerConfig := none }

theorem newPod_sample_ok :
    ∃ pod w', newPod Package.spec sampleDriver samplePodConfig emptyWorld = (.ok pod, w') := by
  have hok : (newPod Package.spec sampleDriver samplePodConfig emptyWorld).1.toOption.isSome := by
    decide
  match hr : newPod Package.spec sampleDriver samplePodConfig emptyWorld, hok with
  | (.ok pod, w'), _ => exact ⟨pod, w', rfl⟩

end Agola.Driver
