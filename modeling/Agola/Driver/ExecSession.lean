import Agola.Driver.Exec

/-!
# The exec session and `Wait`

`Exec` starts a goroutine that copies the attached stream to the caller's
writers and then sends the copy's error on the unbuffered channel `endCh`.
`Wait` selects between the caller's context and `endCh`, polls
`ContainerExecInspect` until the exec stops running, and then closes the
attached connection. The session is a state machine with one event per step of
the goroutine, the caller, the context, the output or the connection; Go's
`select` may take either ready case, and an inspect may answer anything.

A session that is not cancelled can always still end normally
(`reachable_completes`); a `Wait` that returns on cancellation leaves the
goroutine blocked on `endCh` for good.
-/

namespace Agola.Driver

/-- The copy goroutine `Exec` starts. -/
inductive Copier
  /-- In `io.Copy` or `stdcopy.StdCopy` from the attached reader. -/
  | copying
  /-- Blocked in `endCh <- err`: nobody has received yet. -/
  | sending
  /-- The send was received and the goroutine ended. -/
  | finished
  deriving DecidableEq, Repr

/-- The three returns of `Wait`. -/
inductive WaitResult
  /-- `return 0, ctx.Err()`. -/
  | cancelled
  /-- `return -1, err` after an inspect error. -/
  | inspectFailed
  /-- `return exitCode, nil`. -/
  | exited (code : Int)
  deriving DecidableEq, Repr

/-- Where the caller is in `Wait`. -/
inductive Waiter
  | idle
  /-- In the `select` on `ctx.Done()` and `endCh`. -/
  | selecting
  /-- In the inspect loop. -/
  | inspecting
  /-- The exec exited with `code`; `e.hresp.Close()` comes next. -/
  | closing (code : Int)
  | returned (result : WaitResult)
  deriving DecidableEq, Repr

structure Session where
  copier : Copier
  waiter : Waiter
  /-- `ctx.Done()` is closed. -/
  cancelled : Bool
  /-- The exec's output has ended, so the copy can return. -/
  outputEnded : Bool
  /-- `e.hresp.Close()` was called. -/
  connClosed : Bool
  deriving DecidableEq, Repr

/-- The session when `Exec` returns. -/
def Session.start : Session := ⟨.copying, .idle, false, false, false⟩

/-- An answer of `ContainerExecInspect`. -/
inductive InspectResult
  | error
  | running
  | exited (code : Int)
  deriving DecidableEq, Repr

inductive Event
  /-- The caller's context is cancelled. -/
  | cancel
  /-- The exec's output ends. -/
  | endOutput
  /-- The copy returns, at the end of the output or on a closed connection. -/
  | copyDone
  | callWait
  /-- `select` takes `<-ctx.Done()`. -/
  | selectDone
  /-- `select` takes `<-e.endCh`, meeting the goroutine's send. -/
  | selectReceive
  /-- One `ContainerExecInspect` and its answer; `running` sleeps and loops. -/
  | inspect (r : InspectResult)
  /-- `e.hresp.Close()`. -/
  | close
  deriving DecidableEq, Repr

def afterInspect : InspectResult → Waiter
  | .error => .returned .inspectFailed
  | .running => .inspecting
  | .exited code => .closing code

/-- One step of the session; `none` when the event cannot happen now. -/
def step (s : Session) : Event → Option Session
  | .cancel => some { s with cancelled := true }
  | .endOutput => some { s with outputEnded := true }
  | .copyDone =>
    if s.copier = .copying ∧ (s.outputEnded ∨ s.connClosed) then some { s with copier := .sending }
    else none
  | .callWait => if s.waiter = .idle then some { s with waiter := .selecting } else none
  | .selectDone =>
    if s.waiter = .selecting ∧ s.cancelled then some { s with waiter := .returned .cancelled }
    else none
  | .selectReceive =>
    if s.waiter = .selecting ∧ s.copier = .sending then
      some { s with waiter := .inspecting, copier := .finished }
    else none
  | .inspect r => if s.waiter = .inspecting then some { s with waiter := afterInspect r } else none
  | .close => match s.waiter with
    | .closing code => some { s with waiter := .returned (.exited code), connClosed := true }
    | _ => none

def run (s : Session) : List Event → Option Session
  | [] => some s
  | e :: es => (step s e).bind fun s' => run s' es

def Reachable (s : Session) : Prop := ∃ es, run Session.start es = some s

theorem run_append (s : Session) (es es' : List Event) :
    run s (es ++ es') = (run s es).bind fun s' => run s' es' := by
  induction es generalizing s with
  | nil => rfl
  | cons e es ih => simp [run, ih, Option.bind_assoc]

theorem Reachable.step {s s' : Session} {e : Event} (h : Reachable s) (hs : step s e = some s') :
    Reachable s' := by
  obtain ⟨es, hes⟩ := h
  exact ⟨es ++ [e], by simp [run_append, hes, run, hs]⟩

theorem run_invariant {I : Session → Prop} (hstep : ∀ s e s', step s e = some s' → I s → I s') :
    ∀ (es : List Event) (s s' : Session), run s es = some s' → I s → I s'
  | [], s, s', h, hs => by cases h; exact hs
  | e :: es, s, s', h, hs => by
    simp only [run, Option.bind_eq_some] at h
    obtain ⟨s1, h1, h2⟩ := h
    exact run_invariant hstep es s1 s' h2 (hstep s e s1 h1 hs)

/-! ## What one step can do -/

theorem step_cases {s s' : Session} {e : Event} (hs : step s e = some s') :
    s' = { s with cancelled := true } ∨
    s' = { s with outputEnded := true } ∨
    (s.copier = .copying ∧ s' = { s with copier := .sending }) ∨
    (s.waiter = .idle ∧ s' = { s with waiter := .selecting }) ∨
    (s.waiter = .selecting ∧ s.cancelled ∧ s' = { s with waiter := .returned .cancelled }) ∨
    (s.waiter = .selecting ∧ s.copier = .sending ∧
      s' = { s with waiter := .inspecting, copier := .finished }) ∨
    (∃ r, s.waiter = .inspecting ∧ s' = { s with waiter := afterInspect r }) ∨
    (∃ code, s.waiter = .closing code ∧
      s' = { s with waiter := .returned (.exited code), connClosed := true }) := by
  cases e with
  | cancel => cases hs; exact .inl rfl
  | endOutput => cases hs; exact .inr (.inl rfl)
  | copyDone =>
    simp only [step] at hs
    split_ifs at hs with hc
    cases hs; exact .inr (.inr (.inl ⟨hc.1, rfl⟩))
  | callWait =>
    simp only [step] at hs
    split_ifs at hs with hc
    cases hs; exact .inr (.inr (.inr (.inl ⟨hc, rfl⟩)))
  | selectDone =>
    simp only [step] at hs
    split_ifs at hs with hc
    cases hs; exact .inr (.inr (.inr (.inr (.inl ⟨hc.1, hc.2, rfl⟩))))
  | selectReceive =>
    simp only [step] at hs
    split_ifs at hs with hc
    cases hs; exact .inr (.inr (.inr (.inr (.inr (.inl ⟨hc.1, hc.2, rfl⟩)))))
  | inspect r =>
    simp only [step] at hs
    split_ifs at hs with hc
    cases hs; exact .inr (.inr (.inr (.inr (.inr (.inr (.inl ⟨r, hc, rfl⟩))))))
  | close =>
    simp only [step] at hs
    split at hs
    · cases hs; exact .inr (.inr (.inr (.inr (.inr (.inr (.inr ⟨_, ‹_›, rfl⟩))))))
    · cases hs

theorem step_returned {s s' : Session} {e : Event} {r : WaitResult}
    (hs : step s e = some s') (hr : s.waiter = .returned r) :
    s'.waiter = .returned r ∧ s'.connClosed = s.connClosed ∧
      (s'.copier = s.copier ∨ s.copier = .copying ∧ s'.copier = .sending) := by
  rcases step_cases hs with rfl | rfl | ⟨hc, rfl⟩ | ⟨hw, -⟩ | ⟨hw, -⟩ | ⟨hw, -⟩ | ⟨_, hw, -⟩ | ⟨_, hw, -⟩
  · exact ⟨hr, rfl, .inl rfl⟩
  · exact ⟨hr, rfl, .inl rfl⟩
  · exact ⟨hr, rfl, .inr ⟨hc, rfl⟩⟩
  all_goals rw [hr] at hw; cases hw

/-! ## Runs -/

theorem run_returned_sending {r : WaitResult} {b : Bool} :
    ∀ (es : List Event) (s s' : Session), run s es = some s' →
      s.waiter = .returned r ∧ s.copier = .sending ∧ s.connClosed = b →
        s'.waiter = .returned r ∧ s'.copier = .sending ∧ s'.connClosed = b :=
  run_invariant fun _ _ _ hs ⟨hr, hc, hb⟩ => by
    obtain ⟨hr', hb', hc' | ⟨hc'', -⟩⟩ := step_returned hs hr
    · exact ⟨hr', hc'.trans hc, hb'.trans hb⟩
    · rw [hc] at hc''; cases hc''

/-- The copy goroutine finishes exactly when `Wait` receives its send on the
unbuffered `endCh`: from then on `Wait` is inspecting, closing, or has returned
other than on cancellation. -/
theorem reachable_copier_finished_iff {s : Session} (h : Reachable s) :
    s.copier = .finished ↔
      s.waiter ≠ .idle ∧ s.waiter ≠ .selecting ∧ s.waiter ≠ .returned .cancelled := by
  obtain ⟨es, hes⟩ := h
  refine run_invariant (I := fun s => (s.copier = .finished ↔
    s.waiter ≠ .idle ∧ s.waiter ≠ .selecting ∧ s.waiter ≠ .returned .cancelled))
    (fun s e s' hs hI => ?_) es _ _ hes (by simp [Session.start])
  rcases step_cases hs with rfl | rfl | ⟨hc, rfl⟩ | ⟨hw, rfl⟩ | ⟨hw, -, rfl⟩ | ⟨hw, -, rfl⟩ |
    ⟨r, hw, rfl⟩ | ⟨code, hw, rfl⟩
  -- the context and the output touch neither side
  · exact hI
  · exact hI
  -- neither side has received yet when the copy returns, `Wait` selects or is cancelled
  · simp_all
  · simp_all
  · simp_all
  -- the receive finishes both sides at once
  · simp
  -- the inspect loop and the close stay past the receive
  · cases r <;> simp_all [afterInspect]
  · simp_all

/-- A session whose context is not cancelled and whose `Wait` has not returned
can always end normally: some continuation without a cancellation has `Wait`
return an exit code, with the copy goroutine finished and the connection closed.
(After a cancellation the inspect calls of `Wait` use the cancelled context, so
the model's inspect, which may answer anything, is no longer the engine's.) -/
theorem reachable_completes {s : Session} (h : Reachable s) (hc : s.cancelled = false)
    (hw : ∀ r, s.waiter ≠ .returned r) :
    ∃ es s' code, Event.cancel ∉ es ∧ run s es = some s' ∧
      s'.waiter = .returned (.exited code) ∧ s'.copier = .finished ∧ s'.connClosed = true := by
  have hfin := reachable_copier_finished_iff h
  obtain ⟨copier, waiter, cancelled, outputEnded, connClosed⟩ := s
  cases waiter with
  | idle =>
    cases copier with
    | copying =>
      exact ⟨[.endOutput, .copyDone, .callWait, .selectReceive, .inspect (.exited 0), .close],
        _, 0, by decide, rfl, rfl, rfl, rfl⟩
    | sending => exact ⟨[.callWait, .selectReceive, .inspect (.exited 0), .close],
        _, 0, by decide, rfl, rfl, rfl, rfl⟩
    | finished => simp at hfin
  | selecting =>
    cases copier with
    | copying => exact ⟨[.endOutput, .copyDone, .selectReceive, .inspect (.exited 0), .close],
        _, 0, by decide, rfl, rfl, rfl, rfl⟩
    | sending =>
      exact ⟨[.selectReceive, .inspect (.exited 0), .close], _, 0, by decide, rfl, rfl, rfl, rfl⟩
    | finished => simp at hfin
  | inspecting =>
    obtain rfl : copier = .finished := hfin.mpr (by simp)
    exact ⟨[.inspect (.exited 0), .close], _, 0, by decide, rfl, rfl, rfl, rfl⟩
  | closing code =>
    obtain rfl : copier = .finished := hfin.mpr (by simp)
    exact ⟨[.close], _, code, by decide, rfl, rfl, rfl, rfl⟩
  | returned r => exact absurd rfl (hw r)

/-- `Wait` is selecting while the command still runs. -/
theorem reachable_completes_selecting :
    Reachable ⟨.copying, .selecting, false, false, false⟩ ∧
      (⟨.copying, .selecting, false, false, false⟩ : Session).cancelled = false ∧
      (∀ r, (⟨.copying, .selecting, false, false, false⟩ : Session).waiter ≠ .returned r) ∧
      ∃ es s' code, Event.cancel ∉ es ∧ run ⟨.copying, .selecting, false, false, false⟩ es = some s' ∧
        s'.waiter = .returned (.exited code) ∧ s'.copier = .finished ∧ s'.connClosed = true :=
  have h : Reachable ⟨.copying, .selecting, false, false, false⟩ := ⟨[.callWait], rfl⟩
  have hw : ∀ r, (⟨.copying, .selecting, false, false, false⟩ : Session).waiter ≠ .returned r :=
    fun _ he => nomatch he
  ⟨h, rfl, hw, reachable_completes h rfl hw⟩

/-- Two interleavings `Wait` returns from with the connection still open: the
context is cancelled before the command ends, after which the copy goroutine
blocks on `endCh` for good; and an inspect error after the copy ended. -/
theorem wait_early_returns_leave_session_open :
    run .start [.callWait, .cancel, .selectDone, .endOutput, .copyDone] =
        some ⟨.sending, .returned .cancelled, true, true, false⟩ ∧
      (∀ es s', run ⟨.sending, .returned .cancelled, true, true, false⟩ es = some s' →
        s'.waiter = .returned .cancelled ∧ s'.copier = .sending ∧ s'.connClosed = false) ∧
      run .start [.endOutput, .copyDone, .callWait, .selectReceive, .inspect .error] =
        some ⟨.finished, .returned .inspectFailed, false, true, false⟩ := by
  exact ⟨rfl, fun es s' hs => run_returned_sending es _ s' hs ⟨rfl, rfl, rfl⟩, rfl⟩

end Agola.Driver
