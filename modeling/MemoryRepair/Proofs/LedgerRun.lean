import MemoryRepair.Proofs.LedgerSize

/-!
Runs of a ledger: records, openings and readings in any order, each with its answer. The
store is faithful, so that a run changes the variables by its records alone, each of which
stores one chunk in one slot or changes nothing, unless a write is not whole. An overflow
ends the program; here it is an answer like others, so that what holds after every run holds
also where a program ended.
-/
namespace MemoryRepair

variable {σ : Type}

namespace Act

variable {α : Type}

/-- Run a computation to its end or to its overflow. -/
def caught (act : Act σ α) : Act σ (Except Overflow α) := fun state =>
  ⟨.ok (act.run state).value, (act.run state).state, (act.run state).journal⟩

theorem Ends.caught {act : Act σ α} {state : σ} {post : α → σ → Prop} (h : Ends act state post) :
    Ends act.caught state fun answer after => ∃ value, answer = .ok value ∧ post value after := by
  obtain ⟨value, hvalue, hpost⟩ := h
  exact ⟨_, rfl, value, hvalue, hpost⟩

theorem caught_overflown {act : Act σ α} {state : σ} {overflow : Overflow}
    (h : act.run state = ⟨.error overflow, state, []⟩) :
    Ends act.caught state fun answer after => answer = .error overflow ∧ after = state :=
  ⟨_, rfl, congrArg Ran.value h, congrArg Ran.state h⟩

end Act

namespace Ledger

inductive Use
  | record (s : Section)
  | reopen (capacity : UInt64)
  | read (slots : List Slot)

inductive Answer
  | recorded (s : Section) (result : Except Failure Slot)
  | opened
  | contents (result : Except Failure (List Content))
  | overflown (overflow : Overflow)

namespace Answer

/-- The section that was recorded in the slot. -/
def storedAt? (slot : Slot) : Answer → Option Section
  | recorded s (.ok k) => if k = slot then some s else none
  | _ => none

end Answer

/-- The sections recorded in a slot, in the order of the calls. -/
def storedAt (slot : Slot) (answers : List Answer) : List Section :=
  answers.filterMap (Answer.storedAt? slot)

def use (vars : VariableStore σ) (ledger : Ledger) : Use → Act σ (Answer × Ledger)
  | .record s => do
    match ← (record vars ledger s).caught with
    | .ok (result, ledger) => pure (.recorded s result, ledger)
    | .error overflow => pure (.overflown overflow, ledger)
  | .reopen capacity => do
    match ← (load vars capacity).caught with
    | .ok ledger => pure (.opened, ledger)
    | .error overflow => pure (.overflown overflow, ledger)
  | .read slots => do
    let directory := vars.directory (← Act.state)
    pure (.contents (readSlots vars directory slots), ledger)

/-- Uses one after the other. -/
def perform (vars : VariableStore σ) (ledger : Ledger) :
    List Use → Act σ (List Answer × Ledger)
  | [] => pure ([], ledger)
  | next :: rest => do
    let (answer, ledger) ← use vars ledger next
    let (answers, ledger) ← perform vars ledger rest
    pure (answer :: answers, ledger)

/-- What a use does to the variables, by its answer. -/
inductive Used (vars : VariableStore σ) (quiet : σ → Prop) (before : VariableDirectory) :
    Answer → VariableDirectory → Prop
  | stored {s : Section} {raw : UInt64} {slot : Slot} {bytes : Bytes} (hrouted : Routed s raw slot)
      (hreached : before.Reached) (hstored : Stored raw (before.get slot) bytes) :
      Used vars quiet before (.recorded s (.ok slot)) (before.put slot (some (.file bytes)))
  | cut (hpart : ¬ vars.WritesWhole quiet) (s : Section) (slot : Slot) (bytes : Bytes)
      (failure : Failure) :
      Used vars quiet before (.recorded s (.error failure)) (before.put slot (some (.file bytes)))
  | refused (s : Section) (failure : Failure) :
      Used vars quiet before (.recorded s (.error failure)) before
  | opened : Used vars quiet before .opened before
  | contents (result : Except Failure (List Content)) :
      Used vars quiet before (.contents result) before
  | overflown (overflow : Overflow) : Used vars quiet before (.overflown overflow) before

inductive Performed (vars : VariableStore σ) (quiet : σ → Prop) :
    VariableDirectory → List Answer → VariableDirectory → Prop
  | nil (directory : VariableDirectory) : Performed vars quiet directory [] directory
  | cons {before mid after : VariableDirectory} {answer : Answer} {answers : List Answer}
      (head : Used vars quiet before answer mid) (tail : Performed vars quiet mid answers after) :
      Performed vars quiet before (answer :: answers) after

section Run

variable {vars : VariableStore σ} {quiet : σ → Prop} {state : σ} {directory : VariableDirectory}

theorem use_ends (hfaithful : vars.Faithful quiet) (ledger : Ledger) (next : Use)
    (hshows : Shows vars quiet directory state) :
    Act.Ends (use vars ledger next) state fun result after =>
      ∃ last, Used vars quiet directory result.1 last ∧ Shows vars quiet last after := by
  cases next with
  | record s =>
    by_cases hcount : ledger.CanCount s
    · refine Act.Ends.bind (record_ends hfaithful hcount hshows).caught ?_
      rintro answer after ⟨⟨result, ledger⟩, rfl, last, hrecorded, hlast⟩
      refine .pure ⟨last, ?_, hlast⟩
      cases hrecorded with
      | stored hrouted _ hreached hstored => exact .stored hrouted hreached hstored
      | cut hpart => exact .cut hpart s _ _ _
      | full => exact .refused s _
      | unrouted => exact .refused s _
      | failed => exact .refused s _
    · refine Act.Ends.bind (Act.caught_overflown (run_record_overflown vars hcount state)) ?_
      rintro answer after ⟨rfl, rfl⟩
      exact .pure ⟨directory, .overflown _, hshows⟩
  | reopen capacity =>
    by_cases hsum : (vars.directory state).totalSize < UInt64.size
    · refine Act.Ends.bind (load_ends vars capacity state hsum).caught ?_
      rintro answer after ⟨loaded, rfl, -, rfl⟩
      exact .pure ⟨directory, .opened, hshows⟩
    · refine Act.Ends.bind
        (Act.caught_overflown (run_load_overflown vars capacity state (Nat.le_of_not_lt hsum))) ?_
      rintro answer after ⟨rfl, rfl⟩
      exact .pure ⟨directory, .overflown _, hshows⟩
  | read slots => exact .state_bind (.pure ⟨directory, .contents _, hshows⟩)

theorem perform_ends (hfaithful : vars.Faithful quiet) (uses : List Use) (ledger : Ledger)
    (hshows : Shows vars quiet directory state) :
    Act.Ends (perform vars ledger uses) state fun result after =>
      ∃ last, Performed vars quiet directory result.1 last ∧ Shows vars quiet last after := by
  induction uses generalizing ledger state directory with
  | nil => exact .pure ⟨directory, .nil directory, hshows⟩
  | cons next rest ih =>
    refine Act.Ends.bind (use_ends hfaithful ledger next hshows) ?_
    rintro ⟨answer, used⟩ mid ⟨between, hused, hmid⟩
    refine Act.Ends.bind (ih used hmid) ?_
    rintro ⟨answers, final⟩ after ⟨last, hperformed, hlast⟩
    exact .pure ⟨last, .cons hused hperformed, hlast⟩

end Run

end Ledger

end MemoryRepair
