import Agola.Driver.Labels

/-!
# The driver package

The two source files use label keys, fixed names and helpers declared in files
of agola that are not in this snapshot. They are parameters of the model,
bundled in `Package` with the few facts the code relies on. `Package.spec` is
one instance, modelled from the spec, used where a statement needs concrete
values.
-/

namespace Agola.Driver

/-- The label keys of the driver package, one constructor per constant. -/
inductive LabelKey
  | agola
  | executorID
  | podID
  | taskID
  | containerIndex
  | containerName
  | volumeName
  deriving DecidableEq, Repr

/-- What the two source files use from files of agola that are not in this
snapshot: the driver package's label keys and fixed names, the registry
helpers and `toolboxExecPath`. The model takes them as parameters and keeps
only the facts the code relies on: the keys are distinct strings sharing the
driver's label prefix, and the two volume names differ. -/
structure Package where
  labelPrefix : String
  labelKey : LabelKey → String
  labelKey_injective : Function.Injective labelKey
  labelKey_prefix : ∀ k, hasPrefix (labelKey k) labelPrefix = true
  agolaLabelValue : String
  toolboxVolumeName : String
  projectVolumeName : String
  toolbox_ne_project : toolboxVolumeName ≠ projectVolumeName
  mainContainerName : String
  defaultProjectDir : String
  /-- `registry.GetRegistry`: the registry host of an image reference. -/
  getRegistry : String → Except String String
  /-- `registry.GetImageTagOrDigest`. -/
  getImageTagOrDigest : String → Except String String
  /-- `toolboxExecPath(toolboxPath, arch)`: fails for an unknown architecture. -/
  toolboxExecPath : String → String → Except String String

namespace Package

variable (P : Package)

@[simp] def agolaLabelKey : String := P.labelKey .agola
@[simp] def executorIDKey : String := P.labelKey .executorID
@[simp] def podIDKey : String := P.labelKey .podID
@[simp] def taskIDKey : String := P.labelKey .taskID
@[simp] def containerIndexKey : String := P.labelKey .containerIndex
@[simp] def containerNameKey : String := P.labelKey .containerName
@[simp] def volumeNameKey : String := P.labelKey .volumeName

@[simp] theorem labelKey_inj {a b : LabelKey} : P.labelKey a = P.labelKey b ↔ a = b :=
  P.labelKey_injective.eq_iff

end Package


/-! ## An instance modelled from the spec -/

def hostPart : List Char → Option (List Char)
  | [] => none
  | '/' :: _ => some []
  | c :: cs => (hostPart cs).map (c :: ·)

def afterLast (sep : Char) : List Char → Option (List Char)
  | [] => none
  | c :: cs => match afterLast sep cs with
    | some t => some t
    | none => if c = sep then some cs else none

/-- Modelled from the spec (4.1): the registry of an image reference is its
first path component when that names a host, and Docker Hub otherwise; an
empty reference is malformed. -/
def registryOf (image : String) : Except String String :=
  if image = "" then .error "invalid reference format" else
  match hostPart image.toList with
  | some h =>
    if h.contains '.' || h.contains ':' || h == "localhost".toList then .ok (String.mk h)
    else .ok "docker.io"
  | none => .ok "docker.io"

/-- Modelled from the spec (4.1): the digest after `@`, else the tag after the
last `:` of the last path component, falling back to `latest`. -/
def tagOrDigestOf (image : String) : Except String String :=
  if image = "" then .error "invalid reference format" else
  match afterLast '@' image.toList with
  | some d => .ok (String.mk d)
  | none =>
    let last := (afterLast '/' image.toList).getD image.toList
    match afterLast ':' last with
    | some t => .ok (String.mk t)
    | none => .ok "latest"

example : registryOf "alpine:3" = .ok "docker.io" ∧ tagOrDigestOf "alpine:3" = .ok "3" ∧
    registryOf "quay.io/x/y" = .ok "quay.io" ∧ tagOrDigestOf "quay.io:5000/y" = .ok "latest" := by
  decide

/-- Modelled from the spec (4.4): the toolbox binary of a known architecture;
an unknown architecture is unsupported. -/
def toolboxExecPathOf (toolboxDir arch : String) : Except String String :=
  if arch = "amd64" ∨ arch = "arm64" then .ok (toolboxDir ++ "/agola-toolbox-linux-" ++ arch)
  else .error ("unsupported arch " ++ arch)

/-- The label keys under the names the spec gives them (section 3); the spec
does not give the prefix's text. -/
def specLabelKey : LabelKey → String
  | .agola => "agola.io/agola"
  | .executorID => "agola.io/executorID"
  | .podID => "agola.io/podID"
  | .taskID => "agola.io/taskID"
  | .containerIndex => "agola.io/containerIndex"
  | .containerName => "agola.io/containerName"
  | .volumeName => "agola.io/volumeName"

/-- A package modelled from the spec. -/
def Package.spec : Package where
  labelPrefix := "agola.io/"
  labelKey := specLabelKey
  labelKey_injective := by
    intro a b h
    cases a <;> cases b <;> first | rfl | exact absurd h (by decide)
  labelKey_prefix := by intro k; cases k <;> decide
  agolaLabelValue := "true"
  toolboxVolumeName := "toolbox"
  projectVolumeName := "project"
  toolbox_ne_project := by decide
  mainContainerName := "main"
  defaultProjectDir := "/agola/project"
  getRegistry := registryOf
  getImageTagOrDigest := tagOrDigestOf
  toolboxExecPath := toolboxExecPathOf

end Agola.Driver
