import Agola.Driver.Package

/-!
# The container engine and the driver monad

The driver talks to a Docker engine through one shared client. The model keeps
the engine's objects in a `World`: containers with the request they were
created from, volumes, the local image references, and the counter that names
new objects. Every engine call consults a fault schedule, so a statement over
every schedule covers every way the engine can fail, and appends itself to a
call log. Objects change only through the driver's calls: a started container
runs until it is stopped and never exits on its own, and no other client acts
on the engine between two calls.

A driver operation returns a value or an error together with the world as it
left it: Go's `if err != nil { return nil, err }` stops the operation but rolls
nothing back.
-/

namespace Agola.Driver

/-- `registry.DockerConfigAuth`: the credentials for one registry. -/
structure DockerConfigAuth where
  username : String := ""
  password : String := ""
  auth : String := ""
  deriving DecidableEq, Repr

/-- `registry.DockerConfig`: credentials keyed by registry host. -/
structure DockerConfig where
  auths : GoMap DockerConfigAuth
  deriving DecidableEq, Repr

inductive MountType
  | volume
  | tmpfs
  deriving DecidableEq, Repr

/-- `mount.Mount`, with the fields the driver sets. -/
structure Mount where
  type : MountType
  source : String := ""
  target : String
  readOnly : Bool := false
  tmpfsSizeBytes : Option Int := none
  deriving DecidableEq, Repr

/-- The `container.Config` and `container.HostConfig` fields the driver sets in
a `ContainerCreate`; every other field keeps Go's zero value. -/
structure CreateRequest where
  entrypoint : List String := []
  env : List String := []
  workingDir : String := ""
  image : String
  tty : Bool := false
  labels : Labels := []
  privileged : Bool := false
  networkMode : String := ""
  binds : List String := []
  mounts : List Mount := []
  deriving DecidableEq, Repr, Inhabited

/-- A container of the engine, as `ContainerList` returns it: its labels and
mounts are those of the request it was created from. -/
structure Container where
  id : Nat
  req : CreateRequest
  running : Bool
  deriving DecidableEq, Repr, Inhabited

def Container.labels (c : Container) : Labels := c.req.labels

structure Volume where
  name : String
  labels : Labels
  deriving DecidableEq, Repr, Inhabited

/-- The engine's objects. IDs come from a counter, so every container's ID is
below it and a new container's ID is fresh. -/
structure Objects where
  containers : List Container
  volumes : List Volume
  images : List String
  nextId : Nat
  fresh : ∀ c ∈ containers, c.id < nextId

/-- `dockertypes.ExecConfig`, with the fields `Exec` sets. -/
structure ExecRequest where
  cmd : List String
  tty : Bool
  attachStdin : Bool
  attachStdout : Bool
  attachStderr : Bool
  user : String
  deriving DecidableEq, Repr

/-- A call the driver issues to the engine. -/
inductive Call
  | imageList (reference : String)
  | imagePull (image : String) (registryAuth : DockerConfigAuth)
  | volumeCreate (labels : Labels)
  | volumeList
  | volumeRemove (name : String) (force : Bool)
  | containerCreate (req : CreateRequest)
  | containerStart (id : Nat)
  | containerStop (id : Nat) (timeout : Nat)
  | containerRemove (id : Nat) (force : Bool)
  | containerList (filters : Labels) (all : Bool)
  | copyToContainer (id : Nat) (path : String)
  | containerExecCreate (id : Nat) (config : ExecRequest)
  | containerExecAttach (execID : Nat) (tty : Bool)
  deriving DecidableEq, Repr

/-- One entry of the call log: the call and whether the engine accepted it. -/
structure Issued where
  call : Call
  ok : Bool
  deriving DecidableEq, Repr

structure World where
  objects : Objects
  /-- The engine's answers, one per fallible step: `true` makes it fail. -/
  faults : List Bool
  log : List Issued

inductive DriverError
  /-- The engine's error for a call. -/
  | runtime (call : Call)
  /-- A local file or stream step failed. -/
  | io (step : String)
  /-- An error returned by a helper of another package. -/
  | package (msg : String)
  /-- `errors.Errorf`. -/
  | errorf (msg : String)
  /-- `errors.Wrapf`. -/
  | wrapf (msg : String) (cause : DriverError)
  /-- The Go runtime panic of an index out of range. -/
  | indexOutOfRange
  /-- The Go runtime panic of a nil pointer dereference. -/
  | nilDereference
  /-- `errors.Errorf(msg + "%v", errs)`: several errors reported as one. -/
  | aggregate (msg : String) (errs : List DriverError)

/-! Equality of errors is decidable, so statements about returned errors can be
checked by evaluation. `deriving DecidableEq` does not reach the nested list of
`aggregate`; the instance goes through a structural `beq`. -/

mutual
def DriverError.beq : DriverError → DriverError → Bool
  | .runtime c, .runtime c' => c == c'
  | .io s, .io s' => s == s'
  | .package m, .package m' => m == m'
  | .errorf m, .errorf m' => m == m'
  | .wrapf m e, .wrapf m' e' => m == m' && e.beq e'
  | .indexOutOfRange, .indexOutOfRange => true
  | .nilDereference, .nilDereference => true
  | .aggregate m es, .aggregate m' es' => m == m' && DriverError.beqList es es'
  | _, _ => false

def DriverError.beqList : List DriverError → List DriverError → Bool
  | [], [] => true
  | e :: es, e' :: es' => e.beq e' && DriverError.beqList es es'
  | _, _ => false
end

mutual
theorem DriverError.eq_of_beq : ∀ {e e' : DriverError}, e.beq e' = true → e = e'
  | .runtime _, e', h => by
    cases e' with
    | runtime => exact congrArg _ (beq_iff_eq.mp h)
    | _ => nomatch h
  | .io _, e', h => by
    cases e' with
    | io => exact congrArg _ (beq_iff_eq.mp h)
    | _ => nomatch h
  | .package _, e', h => by
    cases e' with
    | package => exact congrArg _ (beq_iff_eq.mp h)
    | _ => nomatch h
  | .errorf _, e', h => by
    cases e' with
    | errorf => exact congrArg _ (beq_iff_eq.mp h)
    | _ => nomatch h
  | .wrapf _ _, e', h => by
    cases e' with
    | wrapf =>
      obtain ⟨hm, he⟩ := Bool.and_eq_true_iff.mp h
      rw [beq_iff_eq.mp hm, DriverError.eq_of_beq he]
    | _ => nomatch h
  | .indexOutOfRange, e', h => by
    cases e' with
    | indexOutOfRange => rfl
    | _ => nomatch h
  | .nilDereference, e', h => by
    cases e' with
    | nilDereference => rfl
    | _ => nomatch h
  | .aggregate _ _, e', h => by
    cases e' with
    | aggregate =>
      obtain ⟨hm, hes⟩ := Bool.and_eq_true_iff.mp h
      rw [beq_iff_eq.mp hm, DriverError.eq_of_beqList hes]
    | _ => nomatch h

theorem DriverError.eq_of_beqList : ∀ {es es' : List DriverError},
    DriverError.beqList es es' = true → es = es'
  | [], [], _ => rfl
  | _ :: _, _ :: _, h => by
    obtain ⟨he, hes⟩ := Bool.and_eq_true_iff.mp h
    rw [DriverError.eq_of_beq he, DriverError.eq_of_beqList hes]
  | [], _ :: _, h | _ :: _, [], h => nomatch h
end

mutual
theorem DriverError.beq_self : ∀ e : DriverError, e.beq e = true
  | .runtime c => beq_self_eq_true c
  | .io s | .package s | .errorf s => beq_self_eq_true s
  | .wrapf m e => Bool.and_eq_true_iff.mpr ⟨beq_self_eq_true m, DriverError.beq_self e⟩
  | .indexOutOfRange | .nilDereference => rfl
  | .aggregate m es => Bool.and_eq_true_iff.mpr ⟨beq_self_eq_true m, DriverError.beqList_self es⟩

theorem DriverError.beqList_self : ∀ es : List DriverError, DriverError.beqList es es = true
  | [] => rfl
  | e :: es => Bool.and_eq_true_iff.mpr ⟨DriverError.beq_self e, DriverError.beqList_self es⟩
end

instance : DecidableEq DriverError := fun e _ =>
  decidable_of_iff _ ⟨DriverError.eq_of_beq, fun h => h ▸ DriverError.beq_self e⟩

/-! ## The engine's objects -/

namespace Objects

variable (o : Objects)

def createContainer (req : CreateRequest) : Nat × Objects :=
  (o.nextId, { o with
    containers := o.containers ++ [⟨o.nextId, req, false⟩]
    nextId := o.nextId + 1
    fresh := by
      intro c hc
      rcases List.mem_append.mp hc with hc | hc
      · exact Nat.lt_succ_of_lt (o.fresh c hc)
      · simp only [List.mem_singleton] at hc; subst hc; exact Nat.lt_succ_self _ })

/-- Set `running` on the container with the given ID. -/
def setRunning (id : Nat) (b : Bool) : Objects :=
  { o with
    containers := o.containers.map fun c => if c.id = id then { c with running := b } else c
    fresh := by
      intro c hc
      obtain ⟨c', hc', rfl⟩ := List.mem_map.mp hc
      split <;> exact o.fresh c' hc' }

def removeContainer (id : Nat) : Objects :=
  { o with
    containers := o.containers.filter fun c => c.id ≠ id
    fresh := fun c hc => o.fresh c (List.mem_filter.mp hc).1 }

def createVolume (labels : Labels) : Volume × Objects :=
  (⟨toString o.nextId, labels⟩, { o with
    volumes := o.volumes ++ [⟨toString o.nextId, labels⟩]
    nextId := o.nextId + 1
    fresh := fun c hc => Nat.lt_succ_of_lt (o.fresh c hc) })

def removeVolume (name : String) : Objects :=
  { o with volumes := o.volumes.filter fun v => v.name ≠ name }

def pullImage (image : String) : Objects :=
  { o with images := o.images ++ [image] }

/-- An exec instance takes the next ID; the model keeps no other state for it. -/
def createExec : Nat × Objects :=
  (o.nextId, { o with nextId := o.nextId + 1, fresh := fun c hc => Nat.lt_succ_of_lt (o.fresh c hc) })

variable (req : CreateRequest) (id : Nat) (b : Bool) (labels : Labels)

@[simp] theorem createContainer_fst : (o.createContainer req).1 = o.nextId := rfl
@[simp] theorem createContainer_containers :
    (o.createContainer req).2.containers = o.containers ++ [⟨o.nextId, req, false⟩] := rfl
@[simp] theorem createContainer_volumes : (o.createContainer req).2.volumes = o.volumes := rfl
@[simp] theorem createContainer_nextId : (o.createContainer req).2.nextId = o.nextId + 1 := rfl
@[simp] theorem setRunning_volumes : (o.setRunning id b).volumes = o.volumes := rfl
@[simp] theorem setRunning_nextId : (o.setRunning id b).nextId = o.nextId := rfl
@[simp] theorem removeContainer_volumes : (o.removeContainer id).volumes = o.volumes := rfl
@[simp] theorem removeContainer_nextId : (o.removeContainer id).nextId = o.nextId := rfl
@[simp] theorem createVolume_fst :
    (o.createVolume labels).1 = ⟨toString o.nextId, labels⟩ := rfl
@[simp] theorem createVolume_containers : (o.createVolume labels).2.containers = o.containers := rfl
@[simp] theorem createVolume_volumes :
    (o.createVolume labels).2.volumes = o.volumes ++ [⟨toString o.nextId, labels⟩] := rfl
@[simp] theorem createVolume_nextId : (o.createVolume labels).2.nextId = o.nextId + 1 := rfl
@[simp] theorem pullImage_containers (image : String) : (o.pullImage image).containers = o.containers :=
  rfl

theorem createContainer_setRunning :
    ((o.createContainer req).2.setRunning o.nextId true).containers =
      o.containers ++ [⟨o.nextId, req, true⟩] := by
  simp only [setRunning, createContainer, List.map_append, List.map_singleton, if_pos rfl]
  rw [List.map_congr_left fun x hx => if_neg (Nat.ne_of_lt (o.fresh x hx)), List.map_id']
  simp

@[simp] theorem removeContainer_containers :
    (o.removeContainer id).containers = o.containers.filter fun c => c.id ≠ id := rfl

end Objects

/-- Docker's `label=k=v` filters: every filter pair is a label of the object. -/
def matchesLabels (labels filters : Labels) : Bool :=
  filters.all fun p => labels.lookup p.1 = some p.2

/-! ## The driver monad -/

def DriverM (α : Type) : Type := World → Except DriverError α × World

namespace DriverM

protected def pure {α : Type} (a : α) : DriverM α := fun w => (.ok a, w)

protected def bind {α β : Type} (x : DriverM α) (f : α → DriverM β) : DriverM β := fun w =>
  match x w with
  | (.ok a, w') => f a w'
  | (.error e, w') => (.error e, w')

instance : Monad DriverM where
  pure := DriverM.pure
  bind := DriverM.bind

def throw {α : Type} (e : DriverError) : DriverM α := fun w => (.error e, w)

def fromExcept {α : Type} (x : Except DriverError α) : DriverM α := fun w => (x, w)

variable {α β : Type}

@[simp] theorem pure_apply (a : α) (w : World) : (pure a : DriverM α) w = (.ok a, w) := rfl

@[simp] theorem throw_apply (e : DriverError) (w : World) :
    (throw e : DriverM α) w = (.error e, w) := rfl

@[simp] theorem fromExcept_apply (x : Except DriverError α) (w : World) :
    fromExcept x w = (x, w) := rfl

@[simp] theorem throw_bind (e : DriverError) (f : α → DriverM β) :
    (throw e : DriverM α) >>= f = throw e := rfl

@[simp] theorem pure_bind (a : α) (f : α → DriverM β) : (pure a : DriverM α) >>= f = f a := rfl

theorem bind_apply (x : DriverM α) (f : α → DriverM β) (w : World) :
    (x >>= f) w = match x w with
      | (.ok a, w') => f a w'
      | (.error e, w') => (.error e, w') := rfl

@[simp] theorem bind_of_ok {x : DriverM α} {w w' : World} {a : α} (h : x w = (.ok a, w'))
    (f : α → DriverM β) : (x >>= f) w = f a w' := by
  rw [bind_apply, h]

@[simp] theorem bind_of_error {x : DriverM α} {w w' : World} {e : DriverError}
    (h : x w = (.error e, w')) (f : α → DriverM β) : (x >>= f) w = (.error e, w') := by
  rw [bind_apply, h]

theorem bind_bind {γ : Type} (x : DriverM α) (f : α → DriverM β) (g : β → DriverM γ) :
    x >>= f >>= g = x >>= fun a => f a >>= g := by
  funext w
  simp only [bind_apply]
  match x w with
  | (.ok _, _) => rfl
  | (.error _, _) => rfl

theorem bind_eq_ok {x : DriverM α} {f : α → DriverM β} {w w'' : World} {b : β} :
    (x >>= f) w = (.ok b, w'') ↔ ∃ a w', x w = (.ok a, w') ∧ f a w' = (.ok b, w'') := by
  rw [bind_apply]
  constructor
  · intro h
    match hx : x w, h with
    | (.ok a, w'), h => exact ⟨a, w', rfl, h⟩
  · rintro ⟨a, w', hx, hf⟩
    rw [hx]
    exact hf

/-- The world `x >>= f` leaves is that of a failed `x`, or that `f` leaves
after `x` succeeded. -/
theorem bind_world {I : World → Prop} {x : DriverM α} {f : α → DriverM β} {w : World}
    (herr : ∀ e w', x w = (.error e, w') → I w')
    (hok : ∀ a w', x w = (.ok a, w') → I (f a w').2) : I ((x >>= f) w).2 := by
  rcases h : x w with ⟨_ | a, w'⟩
  · rw [bind_of_error h]
    exact herr _ _ h
  · rw [bind_of_ok h]
    exact hok _ _ h

/-- `x` keeps `I` of the world, whether it succeeds or fails. -/
def Preserves (I : World → Prop) (x : DriverM α) : Prop :=
  ∀ w, I w → I (x w).2

theorem Preserves.bind {I : World → Prop} {x : DriverM α} {f : α → DriverM β}
    (hx : Preserves I x) (hf : ∀ a, Preserves I (f a)) : Preserves I (x >>= f) := by
  intro w hw
  rw [bind_apply]
  match hxw : x w with
  | (.ok a, w') => exact hf a w' (by simpa [hxw] using hx w hw)
  | (.error e, w') => simpa [hxw] using hx w hw

theorem Preserves.pure {I : World → Prop} (a : α) : Preserves I (Pure.pure a : DriverM α) :=
  fun _ hw => hw

theorem Preserves.throw {I : World → Prop} (e : DriverError) : Preserves I (throw e : DriverM α) :=
  fun _ hw => hw

theorem Preserves.fromExcept {I : World → Prop} (x : Except DriverError α) :
    Preserves I (fromExcept x) :=
  fun _ hw => hw

theorem Preserves.ite {I : World → Prop} {c : Prop} [Decidable c] {x y : DriverM α}
    (hx : Preserves I x) (hy : Preserves I y) : Preserves I (if c then x else y) := by
  split <;> assumption

theorem Preserves.bind_fromExcept {I : World → Prop} {x : Except DriverError α}
    {f : α → DriverM β} (hf : ∀ a, x = .ok a → Preserves I (f a)) :
    Preserves I (DriverM.fromExcept x >>= f) := by
  intro w hw
  cases hx : x with
  | error e => simpa [bind_apply, hx] using hw
  | ok a => simpa [bind_apply, hx] using hf a hx w hw

theorem Preserves.bind_of_error {I : World → Prop} {x : DriverM α} {f : α → DriverM β}
    (hx : Preserves I x) (hfail : ∀ w a w', x w ≠ (.ok a, w')) : Preserves I (x >>= f) := by
  intro w hw
  rw [bind_apply]
  match hxw : x w with
  | (.ok a, w') => exact absurd hxw (hfail w a w')
  | (.error e, w') => simpa [hxw] using hx w hw

end DriverM

open DriverM

/-! ## Engine calls -/

/-- Issue one engine call. The fault schedule decides whether it fails; a
failed call changes no object. Either way the call is logged. -/
def call {α : Type} (c : Call) (effect : Objects → α × Objects) : DriverM α := fun w =>
  match w.faults with
  | true :: fs => (.error (.runtime c), { w with faults := fs, log := w.log ++ [⟨c, false⟩] })
  | fs => (.ok (effect w.objects).1,
      { objects := (effect w.objects).2, faults := fs.tail, log := w.log ++ [⟨c, true⟩] })

/-- A local step that can fail (a file read, a stream copy): it consumes one
answer of the fault schedule and touches no engine object. -/
def ioStep (step : String) : DriverM Unit := fun w =>
  match w.faults with
  | true :: fs => (.error (.io step), { w with faults := fs })
  | fs => (.ok (), { w with faults := fs.tail })

def imageList (reference : String) : DriverM (List String) :=
  call (.imageList reference) fun o => (o.images.filter (· = reference), o)

def imagePull (image : String) (auth : DockerConfigAuth) : DriverM Unit :=
  call (.imagePull image auth) fun o => ((), o.pullImage image)

def volumeCreate (labels : Labels) : DriverM Volume :=
  call (.volumeCreate labels) fun o => o.createVolume labels

def volumeList : DriverM (List Volume) :=
  call .volumeList fun o => (o.volumes, o)

def volumeRemove (name : String) (force : Bool) : DriverM Unit :=
  call (.volumeRemove name force) fun o => ((), o.removeVolume name)

def containerCreate (req : CreateRequest) : DriverM Nat :=
  call (.containerCreate req) fun o => o.createContainer req

def containerStart (id : Nat) : DriverM Unit :=
  call (.containerStart id) fun o => ((), o.setRunning id true)

def containerStop (id timeout : Nat) : DriverM Unit :=
  call (.containerStop id timeout) fun o => ((), o.setRunning id false)

def containerRemove (id : Nat) (force : Bool) : DriverM Unit :=
  call (.containerRemove id force) fun o => ((), o.removeContainer id)

/-- `ContainerList` with label filters; without `All` only running containers. -/
def containerList (filters : Labels) (all : Bool) : DriverM (List Container) :=
  call (.containerList filters all) fun o =>
    (o.containers.filter fun c => (all || c.running) && matchesLabels c.labels filters, o)

def copyToContainer (id : Nat) (path : String) : DriverM Unit :=
  call (.copyToContainer id path) fun o => ((), o)

def containerExecCreate (id : Nat) (config : ExecRequest) : DriverM Nat :=
  call (.containerExecCreate id config) fun o => o.createExec

/-- `ContainerExecAttach`: the hijacked connection of the exec is the session
of `ExecSession`. -/
def containerExecAttach (execID : Nat) (tty : Bool) : DriverM Unit :=
  call (.containerExecAttach execID tty) fun o => ((), o)

theorem call_cases {α : Type} (c : Call) (effect : Objects → α × Objects) (w : World) :
    (w.faults.head? = some true ∧ call c effect w = (.error (.runtime c),
      { w with faults := w.faults.tail, log := w.log ++ [⟨c, false⟩] })) ∨
    (w.faults.head? ≠ some true ∧ call c effect w = (.ok (effect w.objects).1,
      { objects := (effect w.objects).2, faults := w.faults.tail,
        log := w.log ++ [⟨c, true⟩] })) := by
  unfold call
  match h : w.faults with
  | true :: fs => simp
  | false :: fs => simp
  | [] => simp

theorem ioStep_cases (step : String) (w : World) :
    ioStep step w = (.error (.io step), { w with faults := w.faults.tail }) ∨
    ioStep step w = (.ok (), { w with faults := w.faults.tail }) := by
  unfold ioStep
  match w.faults with
  | true :: fs => simp
  | false :: fs => simp
  | [] => simp

theorem call_preserves {α : Type} {J : Objects → Prop} (c : Call) (effect : Objects → α × Objects)
    (h : ∀ o, J o → J (effect o).2) : Preserves (fun w => J w.objects) (call c effect) := by
  intro w hw
  rcases call_cases c effect w with ⟨-, he⟩ | ⟨-, he⟩ <;> rw [he]
  · exact hw
  · exact h _ hw

theorem ioStep_preserves {J : Objects → Prop} (step : String) :
    Preserves (fun w => J w.objects) (ioStep step) := by
  intro w hw
  rcases ioStep_cases step w with he | he <;> rw [he] <;> exact hw

theorem call_ok {α : Type} {c : Call} {effect : Objects → α × Objects} {w w' : World} {a : α}
    (h : call c effect w = (.ok a, w')) :
    a = (effect w.objects).1 ∧ w'.objects = (effect w.objects).2 := by
  rcases call_cases c effect w with ⟨-, he⟩ | ⟨-, he⟩ <;> rw [he] at h
  · cases h
  · cases h; exact ⟨rfl, rfl⟩

theorem call_log {α : Type} (c : Call) (effect : Objects → α × Objects) (w : World) :
    ∃ b, (call c effect w).2.log = w.log ++ [⟨c, b⟩] ∧
      ∀ a w', call c effect w = (.ok a, w') → b = true := by
  rcases call_cases c effect w with ⟨-, he⟩ | ⟨-, he⟩ <;> rw [he]
  · exact ⟨false, rfl, fun _ _ h => nomatch h⟩
  · exact ⟨true, rfl, fun _ _ _ => rfl⟩

theorem ioStep_log (step : String) (w : World) : (ioStep step w).2.log = w.log := by
  rcases ioStep_cases step w with he | he <;> rw [he]

theorem ioStep_ok {step : String} {w w' : World} {a : Unit} (h : ioStep step w = (.ok a, w')) :
    w'.objects = w.objects := by
  rcases ioStep_cases step w with he | he <;> rw [he] at h <;> cases h; rfl

end Agola.Driver
