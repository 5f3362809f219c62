import Agola.Driver.Pod

/-!
# Tearing a pod down: `Stop` and `Remove`

`Stop` stops every member container; `Remove` removes every member and then the
pod's two volumes. Neither gives up at a failed call: the loop collects each
error and goes on, and the operation returns one error aggregating them, or
`nil` when the engine accepted every call.

The statements name the calls each operation issues and read the engine's
answers off the fault schedule, so they hold for every pod and every pattern of
failures.
-/

namespace Agola.Driver

open DriverM

/-- One iteration of the loops of `Stop` and `Remove`: run `x`, and on an error
append it to `errs` and go on. -/
def collect (errs : List DriverError) (x : DriverM Unit) : DriverM (List DriverError) := fun w =>
  match x w with
  | (.ok (), w') => (.ok errs, w')
  | (.error e, w') => (.ok (errs ++ [e]), w')

namespace DockerPod

/-- `DockerPod.Stop`. -/
def stop (dp : DockerPod) : DriverM Unit := do
  let timeout := 1
  let errs ← dp.containers.foldlM
    (fun errs c => collect errs (containerStop c.container.id timeout)) []
  if errs.length ≠ 0 then
    throw (.aggregate "stop errors: " errs)

/-- `DockerPod.Remove`. -/
def remove (dp : DockerPod) : DriverM Unit := do
  let errs ← dp.containers.foldlM
    (fun errs c => collect errs (containerRemove c.container.id true)) []
  let errs ← (if dp.toolboxVolumeName ≠ "" then
      collect errs (volumeRemove dp.toolboxVolumeName true)
    else pure errs)
  let errs ← (if dp.projectVolumeName ≠ "" then
      collect errs (volumeRemove dp.projectVolumeName true)
    else pure errs)
  if errs.length ≠ 0 then
    throw (.aggregate "remove errors: " errs)

end DockerPod

/-! ## What the engine answers -/

/-- The log of the calls `cs` issued one after another under the fault schedule
`faults`: the `i`th call is refused exactly when the `i`th answer is `true`. -/
def answer : List Call → List Bool → List Issued
  | [], _ => []
  | c :: cs, faults => ⟨c, faults.head? != some true⟩ :: answer cs faults.tail

/-- The engine's errors for the refused calls of a log, in order. -/
def failedErrors (issued : List Issued) : List DriverError :=
  (issued.filter (!·.ok)).map fun i => .runtime i.call

/-- What a teardown should return for the calls it issued: `nil` when the engine
accepted every one, else one error aggregating the errors of exactly the
refused calls. -/
def aggregateResult (msg : String) (issued : List Issued) : Except DriverError Unit :=
  if issued.all (·.ok) then .ok () else .error (.aggregate msg (failedErrors issued))

theorem answer_append (cs ds : List Call) (faults : List Bool) :
    answer (cs ++ ds) faults = answer cs faults ++ answer ds (faults.drop cs.length) := by
  induction cs generalizing faults with
  | nil => rfl
  | cons c cs ih => simp [answer, ih, List.drop_tail]

theorem failedErrors_append (l l' : List Issued) :
    failedErrors (l ++ l') = failedErrors l ++ failedErrors l' := by
  simp [failedErrors]

theorem failedErrors_eq_nil_iff {l : List Issued} : failedErrors l = [] ↔ l.all (·.ok) := by
  simp [failedErrors, List.filter_eq_nil_iff]

/-! ## Collecting loops -/

/-- `x` is a stretch of a collecting loop: from any errors collected so far it
issues exactly the calls `cs`, in order and skipping none, and appends the
errors of those the engine refused. -/
def Collects (x : List DriverError → DriverM (List DriverError)) (cs : List Call) : Prop :=
  ∀ errs w, ∃ w', x errs w = (.ok (errs ++ failedErrors (answer cs w.faults)), w') ∧
    w'.log = w.log ++ answer cs w.faults ∧ w'.faults = w.faults.drop cs.length

namespace Collects

variable {x y : List DriverError → DriverM (List DriverError)} {cs ds : List Call}

theorem call (c : Call) (effect : Objects → Unit × Objects) :
    Collects (fun errs => collect errs (Driver.call c effect)) [c] := by
  intro errs w
  rcases call_cases c effect w with ⟨hf, he⟩ | ⟨hf, he⟩
  · refine ⟨{ w with faults := w.faults.tail, log := w.log ++ [⟨c, false⟩] }, ?_, ?_, (List.drop_one _).symm⟩ <;>
      simp [collect, he, answer, failedErrors, hf]
  · refine ⟨⟨(effect w.objects).2, w.faults.tail, w.log ++ [⟨c, true⟩]⟩, ?_, ?_, (List.drop_one _).symm⟩ <;>
      simp [collect, he, answer, failedErrors, hf]

theorem pure : Collects (fun errs => Pure.pure errs) [] :=
  fun errs w => ⟨w, by simp [answer, failedErrors], by simp [answer], rfl⟩

theorem bind (hx : Collects x cs) (hy : Collects y ds) :
    Collects (fun errs => x errs >>= y) (cs ++ ds) := by
  intro errs w
  obtain ⟨w₁, hx₁, hlog₁, hf₁⟩ := hx errs w
  obtain ⟨w₂, hy₂, hlog₂, hf₂⟩ := hy _ w₁
  refine ⟨w₂, ?_, ?_, ?_⟩
  · show (x errs >>= y) w = _
    rw [bind_of_ok hx₁, hy₂, hf₁, answer_append, failedErrors_append, List.append_assoc]
  · rw [hlog₂, hlog₁, hf₁, answer_append, List.append_assoc]
  · rw [hf₂, hf₁, List.drop_drop, List.length_append, Nat.add_comm]

theorem ite (c : Prop) [Decidable c] (hx : Collects x cs) (hy : Collects y ds) :
    Collects (fun errs => if c then x errs else y errs) (if c then cs else ds) := by
  split <;> assumption

theorem foldlM {α : Type} {f : List DriverError → α → DriverM (List DriverError)} {mk : α → Call}
    (hf : ∀ a, Collects (fun errs => f errs a) [mk a]) :
    ∀ as : List α, Collects (fun errs => as.foldlM f errs) (as.map mk)
  | [] => Collects.pure
  | a :: as => (hf a).bind (Collects.foldlM hf as)

theorem report (hx : Collects x cs) (msg : String) (w : World) :
    let r := (x [] >>= fun errs =>
      if errs.length ≠ 0 then throw (.aggregate msg errs) else Pure.pure ()) w
    r.1 = aggregateResult msg (answer cs w.faults) ∧ r.2.log = w.log ++ answer cs w.faults := by
  obtain ⟨w', hx', hlog, -⟩ := hx [] w
  simp only [bind_of_ok hx', List.nil_append, aggregateResult, ← failedErrors_eq_nil_iff]
  by_cases hnil : failedErrors (answer cs w.faults) = [] <;> simp [hnil, hlog]

end Collects

theorem volumeRemoves_eq (toolbox project : String) :
    (if toolbox ≠ "" then [Call.volumeRemove toolbox true] else []) ++
        (if project ≠ "" then [Call.volumeRemove project true] else []) =
      ([toolbox, project].filter (· ≠ "")).map fun v => .volumeRemove v true := by
  by_cases ht : toolbox = "" <;> by_cases hp : project = "" <;> simp [ht, hp]

namespace DockerPod

theorem stop_collects (dp : DockerPod) :
    Collects (fun errs => dp.containers.foldlM
        (fun errs c => collect errs (containerStop c.container.id 1)) errs)
      (dp.containers.map fun c => .containerStop c.container.id 1) :=
  Collects.foldlM (fun _ => Collects.call _ _) dp.containers

theorem remove_collects (dp : DockerPod) :
    Collects (fun errs => do
        let errs ← dp.containers.foldlM
          (fun errs c => collect errs (containerRemove c.container.id true)) errs
        let errs ← (if dp.toolboxVolumeName ≠ "" then
            collect errs (volumeRemove dp.toolboxVolumeName true)
          else pure errs)
        if dp.projectVolumeName ≠ "" then
            collect errs (volumeRemove dp.projectVolumeName true)
          else pure errs)
      (dp.containers.map (fun c => .containerRemove c.container.id true) ++
        ([dp.toolboxVolumeName, dp.projectVolumeName].filter (· ≠ "")).map fun v =>
          .volumeRemove v true) := by
  rw [← volumeRemoves_eq]
  exact (Collects.foldlM (fun _ => Collects.call _ _) dp.containers).bind
    (((Collects.call _ _).ite (dp.toolboxVolumeName ≠ "") Collects.pure).bind
      ((Collects.call _ _).ite (dp.projectVolumeName ≠ "") Collects.pure))

/-- `Stop` issues one `ContainerStop` with a one-second timeout per member, and
`Remove` one forced `ContainerRemove` per member and then one forced
`VolumeRemove` per non-empty volume name. Each issues every call whatever the
earlier ones returned, and returns `nil` exactly when the engine accepted every
call it issued, else one error aggregating the errors of exactly the refused
calls. -/
theorem stop_remove_collect_every_error (dp : DockerPod) (w : World) :
    let stops := dp.containers.map fun c => Call.containerStop c.container.id 1
    let removes := dp.containers.map (fun c => Call.containerRemove c.container.id true) ++
      ([dp.toolboxVolumeName, dp.projectVolumeName].filter (· ≠ "")).map fun v =>
        Call.volumeRemove v true
    (dp.stop w).2.log = w.log ++ answer stops w.faults ∧
      (dp.stop w).1 = aggregateResult "stop errors: " (answer stops w.faults) ∧
      (dp.remove w).2.log = w.log ++ answer removes w.faults ∧
      (dp.remove w).1 = aggregateResult "remove errors: " (answer removes w.faults) := by
  have hstop := dp.stop_collects.report "stop errors: " w
  have hremove := dp.remove_collects.report "remove errors: " w
  simp only [bind_bind] at hremove
  exact ⟨hstop.2, hstop.1, hremove.2, hremove.1⟩

end DockerPod

end Agola.Driver
