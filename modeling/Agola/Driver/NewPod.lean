import Agola.Driver.Pod

/-!
# Building a pod: `NewPod`

`NewPod` creates the toolbox volume (pulling the init image and seeding the
volume through a throwaway helper container), the project volume, and then one
container per container config, in declaration order: every container after
the first joins the first one's network namespace. It then lists the
containers carrying the pod's labels and assembles the pod from what the
listing shows, parsing each container's index label.
-/

namespace Agola.Driver

open DriverM

/-- A tmpfs volume of a container config. -/
structure VolumeTmpFS where
  size : Int
  deriving DecidableEq, Repr

/-- A volume of a container config: only tmpfs volumes are supported, and a
volume whose `TmpFS` is nil is rejected. -/
structure VolumeConfig where
  path : String
  tmpFS : Option VolumeTmpFS
  deriving DecidableEq, Repr

/-- `ContainerConfig`, with the fields `createContainer` reads. -/
structure ContainerConfig where
  image : String
  cmd : List String := []
  env : GoMap String := []
  workingDir : String := ""
  name : String := ""
  privileged : Bool := false
  volumes : List VolumeConfig := []
  deriving DecidableEq, Repr

/-- `PodConfig`. A Go slice holds at most `math.MaxInt` elements, so every
container index fits in an `int`. -/
structure PodConfig where
  id : String
  taskID : String
  containers : List ContainerConfig
  containers_length : containers.length < 2 ^ 63
  initVolumeDir : String
  dockerConfig : Option DockerConfig

/-- Run an operation and drop its error, keeping what it did to the world. -/
def ignoreError (x : DriverM Unit) : DriverM Unit := fun w => (.ok (), (x w).2)

/-- Go's `%q` for the strings the driver formats. -/
def quote (s : String) : String := "\"" ++ s ++ "\""

section NewPod

variable (P : Package) (d : DockerDriver)

/-- `DockerDriver.fetchImage`. The credentials sent with a pull are recorded in
the call log before their JSON and base64 encoding. -/
def fetchImage (image : String) (alwaysFetch : Bool) (registryConfig : Option DockerConfig) :
    DriverM Unit := do
  let regName ← fromExcept ((P.getRegistry image).mapError .package)
  let registryAuth : DockerConfigAuth := match registryConfig with
    | some rc => (rc.auths.lookup regName).getD {}
    | none => {}
  let tag ← fromExcept ((P.getImageTagOrDigest image).mapError .package)
  let img ← imageList image
  let isPresent := decide (img.length > 0)
  if alwaysFetch || tag = "latest" || !isPresent then
    imagePull image registryAuth
    ioStep "copy the pull progress"

def volumeLabels (podID volumeName : String) : Labels :=
  let labels : Labels := GoMap.set [] P.agolaLabelKey P.agolaLabelValue
  let labels := labels.set P.executorIDKey d.executorID
  let labels := labels.set P.podIDKey podID
  labels.set P.volumeNameKey volumeName

def createProjectVolume (podID : String) : DriverM Volume :=
  volumeCreate (volumeLabels P d podID P.projectVolumeName)

/-- The throwaway container that seeds the toolbox volume: `cat` on a TTY, with
the volume bound at `/tmp/agola`, and no labels. -/
def helperRequest (toolboxVol : Volume) : CreateRequest where
  entrypoint := ["cat"]
  image := d.initImage
  tty := true
  binds := [toolboxVol.name ++ ":" ++ "/tmp/agola"]

def createToolboxVolume (podID : String) : DriverM Volume := do
  fetchImage P d.initImage false d.initDockerConfig
  let toolboxVol ← volumeCreate (volumeLabels P d podID P.toolboxVolumeName)
  let containerID ← containerCreate (helperRequest d toolboxVol)
  containerStart containerID
  let _ ← fromExcept ((P.toolboxExecPath d.toolboxPath d.arch).mapError fun e =>
    .wrapf ("failed to get toolbox path for arch " ++ quote d.arch) (.package e))
  ioStep "archive.CopyInfoSourcePath"
  ioStep "archive.TarResource"
  copyToContainer containerID "/tmp/agola"
  -- ignore remove error
  ignoreError (containerRemove containerID true)
  pure toolboxVol

/-- The name of container `index`: the declared one, or the main container's
name for an unnamed first container. -/
def containerName (index : Nat) (containerConfig : ContainerConfig) : String :=
  if containerConfig.name = "" ∧ index = 0 then P.mainContainerName else containerConfig.name

def containerLabels (podConfig : PodConfig) (index : Nat) (name : String) : Labels :=
  let labels : Labels := GoMap.set [] P.agolaLabelKey P.agolaLabelValue
  let labels := labels.set P.executorIDKey d.executorID
  let labels := labels.set P.podIDKey podConfig.id
  let labels := labels.set P.taskIDKey podConfig.taskID
  let labels := labels.set P.containerIndexKey (itoa index)
  labels.set P.containerNameKey name

/-- `makeEnvSlice`: one `K=V` entry per variable, in the map's order. -/
def makeEnvSlice (env : GoMap String) : List String :=
  env.map fun p => p.1 ++ "=" ++ p.2

/-- The tmpfs mounts of the declared volumes; the first volume whose `TmpFS` is
nil is an error. -/
def tmpfsMounts : List VolumeConfig → Except DriverError (List Mount)
  | [] => .ok []
  | vol :: vols => match vol.tmpFS with
    | some t => (tmpfsMounts vols).map fun ms =>
        { type := .tmpfs, target := vol.path, tmpfsSizeBytes := some t.size } :: ms
    | none => .error (.errorf "missing volume config")

/-- What `createContainer` sends to `ContainerCreate` for container `index`,
once the image is pulled. -/
def containerRequest (podConfig : PodConfig) (index : Nat) (containerConfig : ContainerConfig)
    (maincontainerID : String) (toolboxVol projectVol : Volume) : Except DriverError CreateRequest := do
  let name := containerName P index containerConfig
  let baseMounts : List Mount := if name ≠ "" then
    [{ type := .volume, source := toolboxVol.name, target := podConfig.initVolumeDir, readOnly := true },
     { type := .volume, source := projectVol.name, target := P.defaultProjectDir }]
    else []
  let tmpfs ← tmpfsMounts containerConfig.volumes
  pure {
    entrypoint := containerConfig.cmd
    env := makeEnvSlice containerConfig.env
    workingDir := containerConfig.workingDir
    image := containerConfig.image
    tty := true
    labels := containerLabels P d podConfig index name
    privileged := containerConfig.privileged
    networkMode := if index ≠ 0 then "container:" ++ maincontainerID else ""
    mounts := baseMounts ++ tmpfs }

/-- `DockerDriver.createContainer`, given `podConfig.Containers[index]`. Task
images are always pulled, so only authorized users can fetch them. -/
def createContainer (index : Nat) (podConfig : PodConfig) (containerConfig : ContainerConfig)
    (maincontainerID : String) (toolboxVol projectVol : Volume) : DriverM Nat := do
  fetchImage P containerConfig.image true podConfig.dockerConfig
  let req ← fromExcept
    (containerRequest P d podConfig index containerConfig maincontainerID toolboxVol projectVol)
  containerCreate req

/-- The creation loop of `NewPod`, from container `cindex` on: create, remember
the first container's ID, start. -/
def createContainers (podConfig : PodConfig) (toolboxVol projectVol : Volume) :
    Nat → String → List ContainerConfig → DriverM Unit
  | _, _, [] => pure ()
  | cindex, mainContainerID, containerConfig :: rest => do
    let containerID ←
      createContainer P d cindex podConfig containerConfig mainContainerID toolboxVol projectVol
    let mainContainerID := if cindex = 0 then toString containerID else mainContainerID
    containerStart containerID
    createContainers podConfig toolboxVol projectVol (cindex + 1) mainContainerID rest

/-- The labels `NewPod` lists its containers by. -/
def searchLabels (podConfig : PodConfig) : Labels :=
  let labels : Labels := GoMap.set [] P.agolaLabelKey P.agolaLabelValue
  let labels := labels.set P.executorIDKey d.executorID
  let labels := labels.set P.podIDKey podConfig.id
  labels.set P.taskIDKey podConfig.taskID

/-- `fmt`'s `%s` of a `map[string]string`: keys in order. -/
def formatLabels (m : Labels) : String :=
  "map[" ++ " ".intercalate ((m.insertionSort fun a b => a.1 ≤ b.1).map fun p => p.1 ++ ":" ++ p.2)
    ++ "]"

/-- The state of the discovery loop of `NewPod`. -/
structure Discovery where
  pod : DockerPod
  seenIndexes : List Int
  count : Nat

/-- One iteration of the discovery loop: a container without a parsable index
label is ignored, a repeated index is an error. -/
def discoverContainer (acc : Discovery) (container : Container) : Except DriverError Discovery :=
  match container.labels.lookup P.containerIndexKey with
  | none => .ok acc
  | some cIndexStr => match atoi cIndexStr with
    | none => .ok acc
    | some cIndex =>
      if cIndex ∈ acc.seenIndexes then
        .error (.errorf ("duplicate container with index " ++ toString cIndex))
      else .ok {
        pod := acc.pod.addContainer ⟨cIndex, container.sortMounts⟩
          (container.labels.lookup P.containerNameKey)
        seenIndexes := cIndex :: acc.seenIndexes
        count := acc.count + 1 }

def discoverContainers : Discovery → List Container → Except DriverError Discovery
  | acc, [] => .ok acc
  | acc, c :: cs => (discoverContainer P acc c).bind fun acc => discoverContainers acc cs

def podShell (podConfig : PodConfig) (toolboxVol projectVol : Volume) : DockerPod where
  id := podConfig.id
  labels := []
  containers := []
  containersMap := []
  toolboxVolumeName := toolboxVol.name
  projectVolumeName := projectVol.name
  executorID := d.executorID
  initVolumeDir := podConfig.initVolumeDir

/-- `DockerDriver.NewPod`. -/
def newPod (podConfig : PodConfig) : DriverM DockerPod := do
  if podConfig.containers.length = 0 then throw (.errorf "empty container config")
  let toolboxVol ← createToolboxVolume P d podConfig.id
  let projectVol ← createProjectVolume P d podConfig.id
  createContainers P d podConfig toolboxVol projectVol 0 "" podConfig.containers
  let containers ← containerList (searchLabels P d podConfig) false
  if containers.length = 0 then
    throw (.errorf ("no container with labels " ++ formatLabels (searchLabels P d podConfig)))
  let acc ← fromExcept (discoverContainers P ⟨podShell d podConfig toolboxVol projectVol, [], 0⟩ containers)
  if acc.count ≠ containers.length then
    throw (.errorf ("expected " ++ toString containers.length ++ " containers but got " ++
      toString acc.count))
  -- put the containers in the right order based on their container index
  let sorted := sortByIndex acc.pod.containers
  -- main container is the first one
  match sorted with
  | [] => throw .indexOutOfRange
  | main :: _ => pure { acc.pod with containers := sorted, containersMap := acc.pod.containersMap.set "" main }

end NewPod

end Agola.Driver
