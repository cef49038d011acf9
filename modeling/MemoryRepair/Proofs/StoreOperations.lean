import MemoryRepair.Ledger

/-!
What a computation does to a store of variables: the uses of the immutable attribute,
the openings of files and the writes, each with the answer that the store gave. The
journal has only the uses of the attribute, since the others show in the state.
-/
namespace MemoryRepair

/-- A request to a store of variables with the answer to it. -/
inductive Operation
  | get (slot : Slot) (answer : Except IoError Bool)
  | clear (slot : Slot) (answer : Except IoError Unit)
  | set (slot : Slot) (answer : Except IoError Unit)
  | openFile (slot : Slot) (create : Bool) (answer : Except IoError Unit)
  | write (slot : Slot) (bytes : Bytes) (answer : Except IoError Nat)

namespace Operation

def flag? : Operation → Option FlagCall
  | get slot _ => some (.get slot)
  | clear slot _ => some (.clear slot)
  | set slot _ => some (.set slot)
  | _ => none

/-- The request to clear or to set the attribute, with its answer. -/
def change (slot : Slot) (immutable : Bool) (answer : Except IoError Unit) : Operation :=
  if immutable then set slot answer else clear slot answer

end Operation

variable {σ α β : Type} {vars : VariableStore σ}

namespace VariableStore

/-- In the first state the store gives the answer of the operation, and it moves to the
second. -/
inductive Does (vars : VariableStore σ) : σ → Operation → σ → Prop
  | get (slot : Slot) (state : σ) :
      Does vars state (.get slot (vars.isImmutable slot state).1) (vars.isImmutable slot state).2
  | change (slot : Slot) (immutable : Bool) (state : σ) :
      Does vars state (.change slot immutable (vars.setImmutable slot immutable state).1)
        (vars.setImmutable slot immutable state).2
  | openFile (slot : Slot) (create : Bool) (state : σ) :
      Does vars state (.openFile slot create (vars.openFile slot create state).1)
        (vars.openFile slot create state).2
  | write (slot : Slot) (bytes : Bytes) (state : σ) :
      Does vars state (.write slot bytes (vars.write slot bytes state).1)
        (vars.write slot bytes state).2

/-- The store does one operation after the other. -/
inductive Undergoes (vars : VariableStore σ) : σ → List Operation → σ → Prop
  | nil (state : σ) : Undergoes vars state [] state
  | cons {state mid after : σ} {operation : Operation} {operations : List Operation}
      (head : vars.Does state operation mid) (tail : Undergoes vars mid operations after) :
      Undergoes vars state (operation :: operations) after

theorem Undergoes.append {state mid after : σ} {first second : List Operation}
    (hfirst : vars.Undergoes state first mid) (hsecond : vars.Undergoes mid second after) :
    vars.Undergoes state (first ++ second) after := by
  induction hfirst with
  | nil => exact hsecond
  | cons head _ ih => exact .cons head (ih hsecond)

theorem Undergoes.split {state after : σ} {first second : List Operation}
    (h : vars.Undergoes state (first ++ second) after) :
    ∃ mid, vars.Undergoes state first mid ∧ vars.Undergoes mid second after := by
  induction first generalizing state with
  | nil => exact ⟨state, .nil state, h⟩
  | cons operation rest ih =>
    rw [List.cons_append] at h
    cases h with
    | cons head tail =>
      obtain ⟨mid, hrest, hsecond⟩ := ih tail
      exact ⟨mid, .cons head hrest, hsecond⟩

end VariableStore

namespace VariableStore

/-- The answers about the immutable attribute tell of an attribute of each slot's path.
A request that succeeds does what it says, and no request reaches another path. What a
failed request leaves at its own path is open. -/
structure Flagged (vars : VariableStore σ) (flag : σ → Slot → Bool) : Prop where
  get_answer : ∀ state slot immutable, (vars.isImmutable slot state).1 = .ok immutable →
    flag state slot = immutable
  get_keeps : ∀ state slot, flag (vars.isImmutable slot state).2 = flag state
  change_done : ∀ state slot immutable, (vars.setImmutable slot immutable state).1 = .ok () →
    flag (vars.setImmutable slot immutable state).2 slot = immutable
  change_keeps : ∀ state slot immutable k, k ≠ slot →
    flag (vars.setImmutable slot immutable state).2 k = flag state k
  open_keeps : ∀ state slot create, flag (vars.openFile slot create state).2 = flag state
  write_keeps : ∀ state slot bytes, flag (vars.write slot bytes state).2 = flag state

section Flagged

variable {flag : σ → Slot → Bool}

/-- Operations that change no attribute at a path keep the one there. -/
theorem Flagged.keeps (hflag : vars.Flagged flag) {state after : σ}
    {operations : List Operation} (h : vars.Undergoes state operations after) {k : Slot}
    (hk : ∀ immutable answer, .change k immutable answer ∉ operations) :
    flag after k = flag state k := by
  induction h with
  | nil => rfl
  | @cons state mid after operation rest head tail ih =>
    have hrest := ih fun immutable answer hmem =>
      hk immutable answer (List.mem_cons_of_mem _ hmem)
    rw [hrest]
    cases head with
    | get slot => rw [hflag.get_keeps]
    | openFile slot create => rw [hflag.open_keeps]
    | write slot bytes => rw [hflag.write_keeps]
    | change slot immutable =>
      apply hflag.change_keeps
      rintro rfl
      exact hk immutable _ List.mem_cons_self

theorem Flagged.of_get (hflag : vars.Flagged flag) {state after : σ} {slot : Slot}
    {immutable : Bool} {rest : List Operation}
    (h : vars.Undergoes state (.get slot (.ok immutable) :: rest) after) :
    flag state slot = immutable := by
  cases h with
  | cons head tail =>
    generalize hop : Operation.get slot (.ok immutable) = operation at head
    cases head with
    | get other =>
      obtain ⟨rfl, hanswer⟩ := Operation.get.inj hop
      exact hflag.get_answer state slot immutable hanswer.symm
    | change other b => cases b <;> cases hop
    | openFile other create => cases hop
    | write other bytes => cases hop

theorem Flagged.of_set (hflag : vars.Flagged flag) {state after : σ} {slot : Slot}
    {before : List Operation} (h : vars.Undergoes state (before ++ [.set slot (.ok ())]) after) :
    flag after slot = true := by
  obtain ⟨mid, -, hlast⟩ := h.split
  cases hlast with
  | cons head tail =>
    cases tail
    generalize hop : Operation.set slot (.ok ()) = operation at head
    cases head with
    | get other => cases hop
    | openFile other create => cases hop
    | write other bytes => cases hop
    | change other b =>
      cases b with
      | false => cases hop
      | true =>
        obtain ⟨rfl, hanswer⟩ := Operation.set.inj hop
        exact hflag.change_done mid slot true hanswer.symm

end Flagged

end VariableStore

namespace Act

/-- From the given state the computation does the operations to the store and ends with
the value. Its journal names the uses of the attribute among them. -/
structure Operates (vars : VariableStore σ) (act : Act σ α) (state : σ)
    (operations : List Operation) (value : α) : Prop where
  undergone : vars.Undergoes state operations (act.run state).state
  calls : (act.run state).journal.filterMap Entry.flag? = operations.filterMap Operation.flag?
  value_eq : (act.run state).value = .ok value

namespace Operates

theorem pure (value : α) (state : σ) :
    Operates vars (Pure.pure value : Act σ α) state [] value where
  undergone := .nil state
  calls := rfl
  value_eq := rfl

theorem log (line : LogLine) (state : σ) :
    Operates vars (Act.write (.log line)) state [] () where
  undergone := .nil state
  calls := rfl
  value_eq := rfl

theorem bind {act : Act σ α} {next : α → Act σ β} {state : σ} {first second : List Operation}
    {value : α} {result : β} (hfirst : Operates vars act state first value)
    (hsecond : Operates vars (next value) (act.run state).state second result) :
    Operates vars (act >>= next) state (first ++ second) result := by
  have hrun : Act.run (act >>= next) state = _ := Act.run_bind_ok hfirst.value_eq
  constructor
  · rw [hrun]
    exact hfirst.undergone.append hsecond.undergone
  · rw [hrun, List.filterMap_append, List.filterMap_append, hfirst.calls, hsecond.calls]
  · rw [hrun]
    exact hsecond.value_eq

/-- What is not done to the store is no operation. -/
theorem bind_idle {act : Act σ α} {next : α → Act σ β} {state : σ} {operations : List Operation}
    {value : α} {result : β} (hfirst : Operates vars act state operations value)
    (hsecond : Operates vars (next value) (act.run state).state [] result) :
    Operates vars (act >>= next) state operations result := by
  have h := hfirst.bind hsecond
  rwa [List.append_nil] at h

theorem of_run_eq {act other : Act σ α} {state : σ} {operations : List Operation} {value : α}
    (hrun : act.run state = other.run state) (h : Operates vars other state operations value) :
    Operates vars act state operations value :=
  ⟨hrun ▸ h.undergone, hrun ▸ h.calls, hrun ▸ h.value_eq⟩

end Operates

end Act

namespace Ledger

theorem operates_readFlag (vars : VariableStore σ) (slot : Slot) (state : σ) :
    ∃ answer, Act.Operates vars (readFlag vars slot) state [.get slot answer] answer :=
  ⟨_, .cons (.get slot state) (.nil _), rfl, rfl⟩

theorem operates_writeFlag (vars : VariableStore σ) (slot : Slot) (immutable : Bool) (state : σ) :
    ∃ answer, Act.Operates vars (writeFlag vars slot immutable) state
      [.change slot immutable answer] answer := by
  refine ⟨_, .cons (.change slot immutable state) (.nil _), ?_, rfl⟩
  cases immutable <;> rfl

theorem operates_restoreFlag (vars : VariableStore σ) (slot : Slot) (state : σ) :
    ∃ answer, Act.Operates vars (restoreFlag vars slot) state [.set slot answer] () := by
  obtain ⟨answer, hset⟩ := operates_writeFlag vars slot true state
  refine ⟨answer, hset.bind_idle ?_⟩
  cases answer with
  | ok => exact .pure () _
  | error err => exact .log _ _

theorem operates_openFile (vars : VariableStore σ) (slot : Slot) (create : Bool) (state : σ) :
    ∃ answer, Act.Operates vars (Act.step (vars.openFile slot create)) state
      [.openFile slot create answer] answer :=
  ⟨_, .cons (.openFile slot create state) (.nil _), rfl, rfl⟩

theorem operates_write (vars : VariableStore σ) (slot : Slot) (bytes : Bytes) (state : σ) :
    ∃ answer, Act.Operates vars (Act.step (vars.write slot bytes)) state
      [.write slot bytes answer] answer :=
  ⟨_, .cons (.write slot bytes state) (.nil _), rfl, rfl⟩

end Ledger

end MemoryRepair
