import MemoryRepair.Journal

/-!
Conversations with a platform: requests, each with the answer that the platform
gave in the state it was in. A computation holds a conversation if its journal
has just these requests and the platform just these answers, in one order. The
conversation names devices themselves, where the journal has only their names.
-/
namespace MemoryRepair

/-- A request to a platform with the answer to it. -/
inductive Exchange (δ : Type)
  | corrupted (answer : Except Failure UInt64)
  | page (action : PageAction) (address : UInt64) (answer : Except IoError Unit)
  | devices (answer : Except Failure (List δ))
  | memoryType (device : δ) (answer : Except Failure MemoryType)
  | command (device : δ) (what : RepairCommand) (address : UInt64) (answer : Except IoError Nat)

namespace Exchange

def call (platform : Platform σ δ) : Exchange δ → PlatformCall
  | corrupted _ => .corrupted
  | page action address _ => .page action address
  | devices _ => .devices
  | memoryType device _ => .memoryType (platform.deviceName device)
  | command device what address _ => .command what (platform.deviceName device) address

/-- The address for which the given page action was requested. -/
def paged? (wanted : PageAction) : Exchange δ → Option UInt64
  | page action address _ => if action = wanted then some address else none
  | _ => none

/-- The answer to the given repair command. -/
def commanded? (wanted : RepairCommand) : Exchange δ → Option (Except IoError Nat)
  | command _ what _ answer => if what = wanted then some answer else none
  | _ => none

/-- The device that was asked for its memory type. -/
def asked? : Exchange δ → Option δ
  | memoryType device _ => some device
  | _ => none

end Exchange

namespace Platform

variable {σ δ : Type} {platform : Platform σ δ}

/-- In the first state the platform gives the answer of the exchange, and it moves
to the second. -/
inductive Answers (platform : Platform σ δ) : σ → Exchange δ → σ → Prop
  | corrupted (state : σ) :
      Answers platform state (.corrupted (platform.corrupted state).value)
        (platform.corrupted state).state
  | page (action : PageAction) (address : UInt64) (state : σ) :
      Answers platform state (.page action address (platform.page action address state).value)
        (platform.page action address state).state
  | devices (state : σ) :
      Answers platform state (.devices (platform.devices state).value)
        (platform.devices state).state
  | memoryType (device : δ) (state : σ) :
      Answers platform state (.memoryType device (platform.memoryType device state).value)
        (platform.memoryType device state).state
  | command (device : δ) (what : RepairCommand) (address : UInt64) (state : σ) :
      Answers platform state
        (.command device what address (platform.command device what address state).value)
        (platform.command device what address state).state

/-- The platform gives the answers of a conversation one after the other. -/
inductive Converses (platform : Platform σ δ) : σ → List (Exchange δ) → σ → Prop
  | nil (state : σ) : Converses platform state [] state
  | cons {state mid after : σ} {exchange : Exchange δ} {talk : List (Exchange δ)}
      (head : platform.Answers state exchange mid) (tail : Converses platform mid talk after) :
      Converses platform state (exchange :: talk) after

theorem Converses.append {state mid after : σ} {first second : List (Exchange δ)}
    (hfirst : platform.Converses state first mid) (hsecond : platform.Converses mid second after) :
    platform.Converses state (first ++ second) after := by
  induction hfirst with
  | nil => exact hsecond
  | cons head _ ih => exact .cons head (ih hsecond)

end Platform

namespace Act

variable {σ δ α β : Type} {platform : Platform σ δ}

/-- From the given state the computation holds the conversation and ends with the
value. Beside its requests it only logs. -/
structure Holds (platform : Platform σ δ) (act : Act σ α) (state : σ)
    (talk : List (Exchange δ)) (value : Except Overflow α) : Prop where
  answered : platform.Converses state talk (act.run state).state
  calls : (act.run state).journal.filterMap Entry.call? = talk.map (Exchange.call platform)
  quiet : ∀ entry ∈ (act.run state).journal, entry.line?.isSome ∨ entry.call?.isSome
  value_eq : (act.run state).value = value

namespace Holds

theorem pure (value : α) (state : σ) :
    Holds platform (Pure.pure value : Act σ α) state [] (.ok value) where
  answered := .nil state
  calls := rfl
  quiet := fun _ hentry => nomatch hentry
  value_eq := rfl

theorem checked (result : Except Overflow α) (state : σ) :
    Holds platform (Act.checked result) state [] result where
  answered := .nil state
  calls := rfl
  quiet := fun _ hentry => nomatch hentry
  value_eq := rfl

theorem log (line : LogLine) (state : σ) :
    Holds platform (Act.write (.log line)) state [] (.ok ()) where
  answered := .nil state
  calls := rfl
  quiet := fun _ hentry => by simp_all [Entry.line?]
  value_eq := rfl

theorem bind {act : Act σ α} {next : α → Act σ β} {state : σ} {first second : List (Exchange δ)}
    {value : α} {result : Except Overflow β} (hfirst : Holds platform act state first (.ok value))
    (hsecond : Holds platform (next value) (act.run state).state second result) :
    Holds platform (act >>= next) state (first ++ second) result := by
  have hrun : Act.run (act >>= next) state = _ := Act.run_bind_ok hfirst.value_eq
  refine ⟨?_, ?_, ?_, ?_⟩
  · rw [hrun]
    exact hfirst.answered.append hsecond.answered
  · rw [hrun, List.filterMap_append, hfirst.calls, hsecond.calls, List.map_append]
  · rw [hrun]
    intro entry hentry
    rcases List.mem_append.mp hentry with hentry | hentry
    · exact hfirst.quiet entry hentry
    · exact hsecond.quiet entry hentry
  · rw [hrun]
    exact hsecond.value_eq

theorem bind_error {act : Act σ α} {next : α → Act σ β} {state : σ} {talk : List (Exchange δ)}
    {overflow : Overflow} (h : Holds platform act state talk (.error overflow)) :
    Holds platform (act >>= next) state talk (.error overflow) := by
  have hrun : Act.run (act >>= next) state = _ := Act.run_bind_error h.value_eq
  refine ⟨?_, ?_, ?_, ?_⟩
  · rw [hrun]
    exact h.answered
  · rw [hrun]
    exact h.calls
  · rw [hrun]
    exact h.quiet
  · rw [hrun]

theorem bind_silent {act : Act σ α} {next : α → Act σ β} {state : σ} {talk : List (Exchange δ)}
    {value : α} {result : Except Overflow β} (h : Holds platform act state talk (.ok value))
    (hsilent : Holds platform (next value) (act.run state).state [] result) :
    Holds platform (act >>= next) state talk result := by
  have hbind : Holds platform (act >>= next) state (talk ++ []) result := h.bind hsilent
  rwa [List.append_nil] at hbind

theorem pure_bind {next : α → Act σ β} {value : α} {state : σ} {talk : List (Exchange δ)}
    {result : Except Overflow β} (h : Holds platform (next value) state talk result) :
    Holds platform (Pure.pure value >>= next) state talk result :=
  (Holds.pure value state).bind h

theorem checked_bind {sum : Except Overflow α} {next : α → Act σ β} {value : α} {state : σ}
    {talk : List (Exchange δ)} {result : Except Overflow β} (hsum : sum = .ok value)
    (h : Holds platform (next value) state talk result) :
    Holds platform (Act.checked sum >>= next) state talk result := by
  subst hsum
  exact (Holds.checked (.ok value) state).bind h

/-- A line in front of a computation is no part of its conversation. -/
theorem log_bind {next : Unit → Act σ β} {line : LogLine} {state : σ} {talk : List (Exchange δ)}
    {result : Except Overflow β} (h : Holds platform (next ()) state talk result) :
    Holds platform (Act.write (.log line) >>= next) state talk result :=
  (Holds.log line state).bind h

end Holds

end Act

end MemoryRepair
