import Agola.Driver.Pod

/-!
# `Exec`

`DockerPod.Exec` runs a command in one member of a pod. Old engines cannot set
the environment or the working directory of an exec, so the command goes
through the toolbox binary that `NewPod` copied into the toolbox volume, mounted
at the pod's `initVolumeDir`. The target member is looked up by name in
`containersMap`, where `""` stands for the main container.
-/

namespace Agola.Driver

/-! ## `filepath.Join` -/

/-- The elements of a slash-separated path, as character lists. -/
def splitPath : List Char → List (List Char)
  | [] => [[]]
  | c :: cs => match splitPath cs with
    | [] => [[c]]
    | e :: es => if c = '/' then [] :: e :: es else (c :: e) :: es

/-- One element of `filepath.Clean`'s lexical pass: empty and `.` elements go,
`..` removes the element before it, or is dropped at the root. -/
def cleanStep (rooted : Bool) (stack : List (List Char)) (elem : List Char) : List (List Char) :=
  if elem = [] ∨ elem = ['.'] then stack
  else if elem = ['.', '.'] then
    match stack with
    | top :: rest => if top = ['.', '.'] then elem :: stack else rest
    | [] => if rooted then [] else [elem]
  else elem :: stack

/-- `filepath.Clean`. -/
def cleanPath (p : String) : String :=
  let rooted := p.toList.head? = some '/'
  let elems := ((splitPath p.toList).foldl (cleanStep rooted) []).reverse
  let body := String.mk ("/".toList.intercalate elems)
  if rooted then "/" ++ body else if body = "" then "." else body

/-- `filepath.Join`: the non-empty elements, joined by `/` and cleaned; `""`
when there are none. -/
def filepathJoin (elems : List String) : String :=
  match elems.filter (· ≠ "") with
  | [] => ""
  | es => cleanPath ("/".intercalate es)

example : filepathJoin ["/mnt/agola/", "agola-toolbox"] = "/mnt/agola/agola-toolbox" := by decide

/-! ## The exec request -/

/-- `ExecConfig`. `stdout` and `stderr` say whether a writer was given. -/
structure ExecConfig where
  cmd : List String
  env : GoMap String
  workingDir : String
  user : String
  container : String
  tty : Bool
  attachStdin : Bool
  stdout : Bool
  stderr : Bool

variable (marshal : GoMap String → String)

/-- The argv `Exec` sends: the toolbox sets the environment, given as the
`json.Marshal` of the config's map, and the working directory, then execs the
command. Marshalling a `map[string]string` cannot fail, so the error branch of
the source is not reachable. -/
def execCommand (dp : DockerPod) (execConfig : ExecConfig) : List String :=
  [filepathJoin [dp.initVolumeDir, "agola-toolbox"], "exec", "-e", marshal execConfig.env,
    "-w", execConfig.workingDir, "--"] ++ execConfig.cmd

def dockerExecConfig (dp : DockerPod) (execConfig : ExecConfig) : ExecRequest where
  cmd := execCommand marshal dp execConfig
  tty := execConfig.tty
  attachStdin := execConfig.attachStdin
  attachStdout := execConfig.stdout
  attachStderr := execConfig.stderr
  user := execConfig.user

/-- The member `Exec` targets: the one under the config's container name. -/
def execTarget (dp : DockerPod) (execConfig : ExecConfig) : Except DriverError DockerContainer :=
  match dp.containersMap.lookup execConfig.container with
  | some c => .ok c
  | none => .error (.errorf ("Container " ++ execConfig.container ++ " not found"))

/-- `DockerPod.Exec` up to the start of the session: the exec is created in the
target container and attached to. It returns the exec ID; the copy goroutine
it then starts is the session of `ExecSession`. -/
def exec (dp : DockerPod) (execConfig : ExecConfig) : DriverM Nat := do
  let targetContainer ← DriverM.fromExcept (execTarget dp execConfig)
  let execID ← containerExecCreate targetContainer.container.id (dockerExecConfig marshal dp execConfig)
  containerExecAttach execID execConfig.tty
  pure execID

end Agola.Driver
