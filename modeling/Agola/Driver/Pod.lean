import Agola.Driver.Runtime

/-!
# Pods

A `DockerPod` is what `NewPod` builds and what `GetPods` rebuilds from the
engine's labels: the member containers with their parsed indices, a map from
container name to member, the two volume names, and the labels of the main
container.
-/

namespace Agola.Driver

/-- The fields of `DockerDriver` that the modelled code reads. The logger and
the client are the world itself; `network` is set by an option but never read
by the code. -/
structure DockerDriver where
  toolboxPath : String
  initImage : String
  initDockerConfig : Option DockerConfig
  executorID : String
  arch : String

/-- `MountSlice.Less`: mounts ordered by destination. -/
def mountLess (a b : Mount) : Bool := decide (a.target < b.target)

/-- `sort.Sort(MountSlice(container.Mounts))`. The sort is done on the
container's own slice, which the `DockerContainer` built from it shares. -/
def Container.sortMounts (c : Container) : Container :=
  { c with req := { c.req with mounts := c.req.mounts.insertionSort fun a b => !mountLess b a } }

@[simp] theorem Container.sortMounts_id (c : Container) : c.sortMounts.id = c.id := rfl
@[simp] theorem Container.sortMounts_labels (c : Container) : c.sortMounts.labels = c.labels := rfl

/-- `DockerContainer`: a listed container with its parsed index. -/
structure DockerContainer where
  index : Int
  container : Container
  deriving DecidableEq, Repr, Inhabited

structure DockerPod where
  id : String
  labels : Labels
  containers : List DockerContainer
  containersMap : GoMap DockerContainer
  toolboxVolumeName : String
  projectVolumeName : String
  executorID : String
  initVolumeDir : String
  deriving DecidableEq, Repr, Inhabited

/-- `ContainersByIndexSortFunc`, as the order `slices.SortFunc` sorts by. -/
def ByIndex (a b : DockerContainer) : Prop := a.index ≤ b.index

instance : DecidableRel ByIndex := fun a b => inferInstanceAs (Decidable (a.index ≤ b.index))

instance : IsTotal DockerContainer ByIndex := ⟨fun a b => le_total a.index b.index⟩

instance : IsTrans DockerContainer ByIndex := ⟨fun _ _ _ => le_trans⟩

/-- `slices.SortFunc(pod.containers, ContainersByIndexSortFunc)`. Go's sort is
not stable; no result below depends on the order of equal indices. -/
def sortByIndex (cs : List DockerContainer) : List DockerContainer :=
  cs.insertionSort ByIndex

theorem sortByIndex_perm (cs : List DockerContainer) : (sortByIndex cs).Perm cs :=
  List.perm_insertionSort _ _

theorem sortByIndex_sorted (cs : List DockerContainer) : (sortByIndex cs).Sorted ByIndex :=
  List.sorted_insertionSort _ _

namespace DockerPod

/-- `DockerPod.TaskID`: the task ID label of the pod, `""` when absent (the
zero value a Go map lookup returns). -/
def taskID (P : Package) (dp : DockerPod) : String :=
  (dp.labels.lookup P.taskIDKey).getD ""

/-- What one container does to its pod in the discovery loops of `NewPod` and
`GetPods`: it is appended, and indexed by its name when the name is not empty. -/
def addContainer (pod : DockerPod) (dc : DockerContainer) (name? : Option String) : DockerPod :=
  { pod with
    containers := pod.containers ++ [dc]
    containersMap := match name? with
      | some name => if name ≠ "" then pod.containersMap.set name dc else pod.containersMap
      | none => pod.containersMap }

end DockerPod

end Agola.Driver
