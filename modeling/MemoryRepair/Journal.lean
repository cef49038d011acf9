import MemoryRepair.Overflow
import MemoryRepair.Platform
import MemoryRepair.Report
import MemoryRepair.Slot
import MemoryRepair.Trace.Event

/-!
Computations against an outside world. They keep a journal of what they did, in
order: log lines, requests to the platform, uses of the immutable attribute,
reports, and the milestones of a monitoring session. An overflow ends a
computation at once; what it did before stays done.
-/
namespace MemoryRepair

/-- A use of the immutable attribute of a slot's file. -/
inductive FlagCall
  | get (slot : Slot)
  | clear (slot : Slot)
  | set (slot : Slot)
  deriving DecidableEq, Repr

namespace FlagCall

def slot : FlagCall → Slot
  | get slot | clear slot | set slot => slot

def render : FlagCall → String
  | get slot => "get " ++ slot.fileName
  | clear slot => "clear " ++ slot.fileName
  | set slot => "set " ++ slot.fileName

end FlagCall

inductive Entry
  | log (line : LogLine)
  | call (call : PlatformCall)
  | flag (call : FlagCall)
  | report (report : Report)
  | event (event : Trace.Event)
  /-- A write that turns the tracepoint on or off, and whether it succeeded. -/
  | tracepoint (enable : Bool) (done : Bool)
  /-- A try to load or unload a driver, and whether the program could be run at all. -/
  | driver (load : Bool) (name : String) (ran : Bool)

namespace Entry

def line? : Entry → Option LogLine
  | .log line => some line
  | _ => none

def call? : Entry → Option PlatformCall
  | .call c => some c
  | _ => none

def flag? : Entry → Option FlagCall
  | .flag c => some c
  | _ => none

def report? : Entry → Option Report
  | .report r => some r
  | _ => none

def event? : Entry → Option Trace.Event
  | .event e => some e
  | _ => none

end Entry

/-- What a computation leaves. An overflow leaves no value, but the state and the
journal up to the point where it happened. -/
structure Ran (σ α : Type) where
  value : Except Overflow α
  state : σ
  journal : List Entry

def Act (σ α : Type) : Type := σ → Ran σ α

namespace Act

def run (act : Act σ α) (state : σ) : Ran σ α := act state

protected def pure (value : α) : Act σ α := fun state => ⟨.ok value, state, []⟩

/-- Nothing runs after an overflow. -/
protected def bind (act : Act σ α) (next : α → Act σ β) : Act σ β := fun state =>
  let first := act state
  match first.value with
  | .error overflow => ⟨.error overflow, first.state, first.journal⟩
  | .ok value =>
    let second := next value first.state
    ⟨second.value, second.state, first.journal ++ second.journal⟩

instance : Monad (Act σ) where
  pure := Act.pure
  bind := Act.bind

@[simp] theorem run_pure (value : α) (state : σ) :
    run (pure value : Act σ α) state = ⟨.ok value, state, []⟩ := rfl

theorem run_bind_ok {act : Act σ α} {next : α → Act σ β} {state : σ} {value : α}
    (h : (run act state).value = .ok value) :
    run (act >>= next) state =
      ⟨(run (next value) (run act state).state).value,
        (run (next value) (run act state).state).state,
        (run act state).journal ++ (run (next value) (run act state).state).journal⟩ := by
  change Act.bind act next state = _
  simp only [Act.bind]
  rw [show (act state).value = .ok value from h]
  rfl

theorem run_bind_error {act : Act σ α} {next : α → Act σ β} {state : σ} {overflow : Overflow}
    (h : (run act state).value = .error overflow) :
    run (act >>= next) state =
      ⟨.error overflow, (run act state).state, (run act state).journal⟩ := by
  change Act.bind act next state = _
  simp only [Act.bind]
  rw [show (act state).value = .error overflow from h]
  rfl

/-- Two computations that do the same, up to the values with which they go on. -/
theorem run_bind_eq {act other : Act σ α} {next otherNext : α → Act σ β} {state : σ}
    {value otherValue : α} (hvalue : (run act state).value = .ok value)
    (hother : (run other state).value = .ok otherValue)
    (hstate : (run other state).state = (run act state).state)
    (hjournal : (run other state).journal = (run act state).journal)
    (hnext : run (next value) (run act state).state =
      run (otherNext otherValue) (run act state).state) :
    run (act >>= next) state = run (other >>= otherNext) state := by
  rw [run_bind_ok hvalue, run_bind_ok hother, hstate, hjournal, hnext]

/-- What follows a computation matters only for the value that it yields. -/
theorem run_bind_congr {act : Act σ α} {next other : α → Act σ β} {state : σ}
    (h : ∀ value, (run act state).value = .ok value →
      run (next value) (run act state).state = run (other value) (run act state).state) :
    run (act >>= next) state = run (act >>= other) state := by
  cases hvalue : (run act state).value with
  | error overflow => rw [run_bind_error hvalue, run_bind_error hvalue]
  | ok value => exact run_bind_eq hvalue hvalue rfl rfl (h value hvalue)

/-- Computations that do the same in a state do the same with what follows them. -/
theorem run_bind_left {act other : Act σ α} {next : α → Act σ β} {state : σ}
    (h : run act state = run other state) :
    run (act >>= next) state = run (other >>= next) state := by
  change Act.bind act next state = Act.bind other next state
  simp only [Act.bind]
  rw [show act state = other state from h]

theorem bind_assoc (act : Act σ α) (next : α → Act σ β) (last : β → Act σ γ) :
    act >>= next >>= last = act >>= fun value => next value >>= last := by
  funext state
  change Act.bind (Act.bind act next) last state =
    Act.bind act (fun value => Act.bind (next value) last) state
  cases hvalue : (act state).value with
  | error overflow => simp only [Act.bind, hvalue]
  | ok value =>
    cases hnext : (next value (act state).state).value with
    | error overflow => simp only [Act.bind, hvalue, hnext]
    | ok result => simp only [Act.bind, hvalue, hnext, List.append_assoc]

def state : Act σ σ := fun state => ⟨.ok state, state, []⟩

def write (entry : Entry) : Act σ Unit := fun state => ⟨.ok (), state, [entry]⟩

def writeLines (lines : List LogLine) : Act σ Unit := fun state =>
  ⟨.ok (), state, lines.map .log⟩

def error (text : String) : Act σ Unit := write (.log ⟨.error, text⟩)
def warn (text : String) : Act σ Unit := write (.log ⟨.warn, text⟩)
def info (text : String) : Act σ Unit := write (.log ⟨.info, text⟩)
def debug (text : String) : Act σ Unit := write (.log ⟨.debug, text⟩)

/-- The value of a checked sum or product; an overflow ends the computation. -/
def checked (result : Except Overflow α) : Act σ α := fun state => ⟨result, state, []⟩

/-- Change the state by a function that also answers. -/
def step (f : σ → α × σ) : Act σ α := fun state => ⟨.ok (f state).1, (f state).2, []⟩

/-- Run a computation and show the part of the journal that it writes. -/
def journaled (act : Act σ α) : Act σ (α × List Entry) := fun state =>
  let ran := act state
  ⟨ran.value.map fun value => (value, ran.journal), ran.state, ran.journal⟩

/-- Change the state. -/
def update (f : σ → σ) : Act σ Unit := step fun state => ((), f state)

/-- Put a request to a machine, which may log before it answers. -/
def ask (f : σ → Reply σ α) : Act σ α := fun state =>
  ⟨.ok (f state).value, (f state).state, (f state).log.map .log⟩

@[simp] theorem run_write (entry : Entry) (s : σ) :
    run (write entry) s = ⟨.ok (), s, [entry]⟩ := rfl

@[simp] theorem run_writeLines (lines : List LogLine) (s : σ) :
    run (writeLines lines) s = ⟨.ok (), s, lines.map .log⟩ := rfl

@[simp] theorem run_ask (f : σ → Reply σ α) (s : σ) :
    run (ask f) s = ⟨.ok (f s).value, (f s).state, (f s).log.map .log⟩ := rfl

theorem run_write_bind (entry : Entry) (next : Unit → Act σ β) (s : σ) :
    run (write entry >>= next) s =
      ⟨(run (next ()) s).value, (run (next ()) s).state, entry :: (run (next ()) s).journal⟩ := rfl

theorem run_ask_bind (f : σ → Reply σ α) (next : α → Act σ β) (s : σ) :
    run (ask f >>= next) s =
      ⟨(run (next (f s).value) (f s).state).value, (run (next (f s).value) (f s).state).state,
        (f s).log.map .log ++ (run (next (f s).value) (f s).state).journal⟩ := rfl

theorem run_state_bind (next : σ → Act σ β) (s : σ) :
    run (state >>= next) s = run (next s) s := rfl

@[simp] theorem run_checked (result : Except Overflow α) (s : σ) :
    run (checked result) s = ⟨result, s, []⟩ := rfl

theorem checked_ok_bind (value : α) (next : α → Act σ β) :
    checked (.ok value) >>= next = next value := rfl

theorem checked_error_bind (overflow : Overflow) (next : α → Act σ β) :
    checked (.error overflow) >>= next = checked (.error overflow) := rfl

end Act

end MemoryRepair
