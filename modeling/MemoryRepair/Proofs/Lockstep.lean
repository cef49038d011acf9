import MemoryRepair.Repair
import MemoryRepair.Ledger

/-!
Two computations in two worlds, side by side. They keep in step if from related states
they come to related states, end alike and write the same of what is watched in their
journals. A repair keeps in step with itself on a platform that answers the same, and a
record with itself on a store that answers the same; the worlds may differ in everything
that their relation leaves open.
-/
namespace MemoryRepair

variable {σ τ δ α β γ ζ : Type}

namespace Act

/-- Two computations end alike: with the same overflow, or with values that correspond. -/
inductive EndAlike (same : α → β → Prop) : Except Overflow α → Except Overflow β → Prop
  | value {value : α} {other : β} (h : same value other) : EndAlike same (.ok value) (.ok other)
  | overflow (overflow : Overflow) : EndAlike same (.error overflow) (.error overflow)

/-- From the two states the computations end alike, in related states, and write the same
watched entries in the same order. -/
structure InStep (watched : Entry → Bool) (rel : σ → τ → Prop) (same : α → β → Prop)
    (act : Act σ α) (other : Act τ β) (state : σ) (twin : τ) : Prop where
  values : EndAlike same (act.run state).value (other.run twin).value
  states : rel (act.run state).state (other.run twin).state
  journals : (act.run state).journal.filter watched = (other.run twin).journal.filter watched

variable {watched : Entry → Bool} {rel : σ → τ → Prop}

theorem EndAlike.mono {same close : α → β → Prop} {value : Except Overflow α}
    {other : Except Overflow β} (h : EndAlike same value other)
    (himp : ∀ a b, same a b → close a b) : EndAlike close value other := by
  cases h with
  | value hsame => exact .value (himp _ _ hsame)
  | overflow overflow => exact .overflow overflow

namespace InStep

variable {same : α → β → Prop} {last : γ → ζ → Prop} {state : σ} {twin : τ}

theorem mono {close : α → β → Prop} {act : Act σ α} {other : Act τ β}
    (h : InStep watched rel same act other state twin) (himp : ∀ a b, same a b → close a b) :
    InStep watched rel close act other state twin :=
  ⟨h.values.mono himp, h.states, h.journals⟩

theorem pure {value : α} {other : β} (hsame : same value other) (hrel : rel state twin) :
    InStep watched rel same (Pure.pure value) (Pure.pure other) state twin :=
  ⟨.value hsame, hrel, rfl⟩

theorem bind {act : Act σ α} {other : Act τ β} {next : α → Act σ γ} {otherNext : β → Act τ ζ}
    (h : InStep watched rel same act other state twin)
    (hnext : ∀ value result, (act.run state).value = .ok value →
      (other.run twin).value = .ok result → same value result →
      rel (act.run state).state (other.run twin).state →
      InStep watched rel last (next value) (otherNext result) (act.run state).state
        (other.run twin).state) :
    InStep watched rel last (act >>= next) (other >>= otherNext) state twin := by
  have hvalues := h.values
  -- The first computations overflow both, so that nothing follows, or both have a value.
  cases hvalue : (act.run state).value with
  | error overflow =>
    rw [hvalue] at hvalues
    generalize hother : (other.run twin).value = result at hvalues
    cases hvalues with
    | overflow =>
      refine ⟨?_, ?_, ?_⟩ <;> rw [run_bind_error hvalue, run_bind_error hother]
      · exact .overflow overflow
      · exact h.states
      · exact h.journals
  | ok value =>
    rw [hvalue] at hvalues
    generalize hother : (other.run twin).value = result at hvalues
    cases hvalues with
    | @value _ result hsame =>
      have hrest := hnext value result hvalue hother hsame h.states
      refine ⟨?_, ?_, ?_⟩ <;> rw [run_bind_ok hvalue, run_bind_ok hother]
      · exact hrest.values
      · exact hrest.states
      · rw [List.filter_append, List.filter_append, h.journals, hrest.journals]

end InStep

/-- From all related states the computations end alike, with the same values. -/
def Lockstep (watched : Entry → Bool) (rel : σ → τ → Prop) (act : Act σ α) (other : Act τ α) :
    Prop :=
  ∀ state twin, rel state twin → InStep watched rel Eq act other state twin

namespace Lockstep

theorem pure (value : α) :
    Lockstep watched rel (Pure.pure value : Act σ α) (Pure.pure value : Act τ α) :=
  fun _ _ hrel => .pure rfl hrel

theorem write (entry : Entry) :
    Lockstep watched rel (Act.write entry : Act σ Unit) (Act.write entry : Act τ Unit) :=
  fun _ _ hrel => ⟨.value rfl, hrel, rfl⟩

theorem writeLines (lines : List LogLine) :
    Lockstep watched rel (Act.writeLines lines : Act σ Unit) (Act.writeLines lines : Act τ Unit) :=
  fun _ _ hrel => ⟨.value rfl, hrel, rfl⟩

theorem checked (result : Except Overflow α) :
    Lockstep watched rel (Act.checked result : Act σ α) (Act.checked result : Act τ α) := by
  intro state twin hrel
  refine ⟨?_, hrel, rfl⟩
  rw [run_checked, run_checked]
  cases result with
  | error overflow => exact .overflow overflow
  | ok value => exact .value rfl

theorem step {f : σ → α × σ} {g : τ → α × τ}
    (h : ∀ state twin, rel state twin →
      (f state).1 = (g twin).1 ∧ rel (f state).2 (g twin).2) :
    Lockstep watched rel (Act.step f) (Act.step g) :=
  fun state twin hrel => ⟨.value (h state twin hrel).1, (h state twin hrel).2, rfl⟩

theorem bind {act : Act σ α} {other : Act τ α} {next : α → Act σ β} {otherNext : α → Act τ β}
    (h : Lockstep watched rel act other)
    (hnext : ∀ value, Lockstep watched rel (next value) (otherNext value)) :
    Lockstep watched rel (act >>= next) (other >>= otherNext) := by
  intro state twin hrel
  refine (h state twin hrel).bind ?_
  rintro value _ - - rfl hafter
  exact hnext value _ _ hafter

theorem state_bind {next : σ → Act σ β} {otherNext : τ → Act τ β}
    (h : ∀ state twin, rel state twin → Lockstep watched rel (next state) (otherNext twin)) :
    Lockstep watched rel (Act.state >>= next) (Act.state >>= otherNext) := by
  intro state twin hrel
  obtain ⟨hvalues, hstates, hjournals⟩ := h state twin hrel state twin hrel
  exact ⟨hvalues, hstates, hjournals⟩

end Lockstep

end Act

/-- Replies with the same answer that leave related states. -/
def Reply.Alike (rel : σ → τ → Prop) (reply : Reply σ α) (other : Reply τ α) : Prop :=
  reply.value = other.value ∧ rel reply.state other.state

/-- In related states both platforms give the same answers, and the states stay related. -/
structure Platform.Alike (rel : σ → τ → Prop) (platform : Platform σ δ) (other : Platform τ δ) :
    Prop where
  deviceName : ∀ device, platform.deviceName device = other.deviceName device
  corrupted : ∀ state twin, rel state twin →
    Reply.Alike rel (platform.corrupted state) (other.corrupted twin)
  page : ∀ action address state twin, rel state twin →
    Reply.Alike rel (platform.page action address state) (other.page action address twin)
  devices : ∀ state twin, rel state twin →
    Reply.Alike rel (platform.devices state) (other.devices twin)
  memoryType : ∀ device state twin, rel state twin →
    Reply.Alike rel (platform.memoryType device state) (other.memoryType device twin)
  command : ∀ device what address state twin, rel state twin →
    Reply.Alike rel (platform.command device what address state)
      (other.command device what address twin)

def Notifier.Alike (rel : σ → τ → Prop) (notifier : Notifier σ) (other : Notifier τ) : Prop :=
  ∀ report state twin, rel state twin →
    Reply.Alike rel (notifier.notify report state) (other.notify report twin)

/-- In related states both stores show the same directory and give the same answers, and
the states stay related. -/
structure VariableStore.Alike (rel : σ → τ → Prop) (vars : VariableStore σ)
    (other : VariableStore τ) : Prop where
  path : ∀ slot, vars.path slot = other.path slot
  directory : ∀ state twin, rel state twin → vars.directory state = other.directory twin
  openFile : ∀ slot create state twin, rel state twin →
    (vars.openFile slot create state).1 = (other.openFile slot create twin).1 ∧
      rel (vars.openFile slot create state).2 (other.openFile slot create twin).2
  write : ∀ slot bytes state twin, rel state twin →
    (vars.write slot bytes state).1 = (other.write slot bytes twin).1 ∧
      rel (vars.write slot bytes state).2 (other.write slot bytes twin).2
  isImmutable : ∀ slot state twin, rel state twin →
    (vars.isImmutable slot state).1 = (other.isImmutable slot twin).1 ∧
      rel (vars.isImmutable slot state).2 (other.isImmutable slot twin).2
  setImmutable : ∀ slot immutable state twin, rel state twin →
    (vars.setImmutable slot immutable state).1 = (other.setImmutable slot immutable twin).1 ∧
      rel (vars.setImmutable slot immutable state).2 (other.setImmutable slot immutable twin).2

/-- Whether the entry is a request to the platform or a report. -/
def Entry.isRepairing (entry : Entry) : Bool :=
  entry.call?.isSome || entry.report?.isSome

/-- Whether the entry is a use of the immutable attribute. -/
def Entry.isFlagCall (entry : Entry) : Bool :=
  entry.flag?.isSome

theorem filter_lines {watched : Entry → Bool} (hlog : ∀ line, watched (.log line) = false)
    (lines : List LogLine) : (lines.map Entry.log).filter watched = [] := by
  rw [List.filter_eq_nil_iff]
  intro entry hmem
  obtain ⟨line, -, rfl⟩ := List.mem_map.mp hmem
  rw [hlog]
  exact Bool.false_ne_true

namespace Repair

variable {rel : σ → τ → Prop} {platform : Platform σ δ} {other : Platform τ δ}

/-- What a machine logs on the way to its answer is not watched. -/
theorem lockstep_ask {f : σ → Reply σ α} {g : τ → Reply τ α}
    (h : ∀ state twin, rel state twin → Reply.Alike rel (f state) (g twin)) :
    Act.Lockstep Entry.isRepairing rel (Act.ask f) (Act.ask g) := by
  intro state twin hrel
  obtain ⟨hvalue, hstate⟩ := h state twin hrel
  refine ⟨.value hvalue, hstate, ?_⟩
  rw [Act.run_ask, Act.run_ask, filter_lines (fun _ => rfl), filter_lines (fun _ => rfl)]

theorem lockstep_request (call : PlatformCall) {f : σ → Reply σ α} {g : τ → Reply τ α}
    (h : ∀ state twin, rel state twin → Reply.Alike rel (f state) (g twin)) :
    Act.Lockstep Entry.isRepairing rel (request call f) (request call g) :=
  .bind (.write _) fun _ => lockstep_ask h

section Alike

variable (halike : platform.Alike rel other)

include halike

theorem lockstep_page (action : PageAction) (address : UInt64) :
    Act.Lockstep Entry.isRepairing rel (page platform action address)
      (page other action address) :=
  lockstep_request _ (halike.page action address)

theorem lockstep_command (device : δ) (what : RepairCommand) (address : UInt64) :
    Act.Lockstep Entry.isRepairing rel (command platform device what address)
      (command other device what address) := by
  unfold command
  rw [halike.deviceName]
  exact lockstep_request _ (halike.command device what address)

theorem lockstep_offlineAll (mode : Mode) (addresses : List UInt64) :
    Act.Lockstep Entry.isRepairing rel (offlineAll platform mode addresses)
      (offlineAll other mode addresses) := by
  induction addresses with
  | nil => exact .pure 0
  | cons address rest ih =>
    refine .bind (lockstep_page halike .offline address) fun answer => ?_
    cases answer with
    | ok => exact ih
    | error err => exact .bind (.write _) fun _ => .bind ih fun failures => .pure (failures + 1)

theorem lockstep_isolate (threshold : UInt64) (mode : Mode) (addresses : List UInt64) :
    Act.Lockstep Entry.isRepairing rel (isolate platform threshold mode addresses)
      (isolate other threshold mode addresses) := by
  refine .bind (lockstep_request _ halike.corrupted) fun answer => ?_
  cases answer with
  | error failure => exact .bind (.write _) fun _ => .pure _
  | ok corrupted =>
    refine .bind (.checked _) fun sum => ?_
    by_cases hover : threshold < sum
    · simp only [if_pos hover]
      exact .bind (.write _) fun _ => .pure _
    · simp only [if_neg hover]
      refine .bind (lockstep_offlineAll halike mode addresses) fun failures => ?_
      by_cases hfailed : 0 < failures ∨ addresses = []
      · simp only [if_pos hfailed]
        exact .pure _
      · simp only [if_neg hfailed]
        exact .pure _

theorem lockstep_onlineAll (mode : Mode) (addresses : List UInt64) :
    Act.Lockstep Entry.isRepairing rel (onlineAll platform mode addresses)
      (onlineAll other mode addresses) := by
  induction addresses with
  | nil => exact .pure true
  | cons address rest ih =>
    refine .bind (lockstep_page halike .online address) fun answer => ?_
    cases answer with
    | ok => exact .bind (.write _) fun _ => ih
    | error err => exact .bind (.write _) fun _ => .bind ih fun _ => .pure false

theorem lockstep_removeAll (mode : Mode) (addresses : List UInt64) :
    Act.Lockstep Entry.isRepairing rel (removeAll platform mode addresses)
      (removeAll other mode addresses) := by
  induction addresses with
  | nil => exact .pure ()
  | cons address rest ih =>
    refine .bind (.write _) fun _ => .bind (lockstep_page halike .remove address) fun answer => ?_
    cases answer with
    | ok => exact ih
    | error err => exact .bind (.write _) fun _ => ih

theorem lockstep_repairOn (mode : Mode) (what : RepairCommand) (device : δ) (first : UInt64)
    (addresses : List UInt64) :
    Act.Lockstep Entry.isRepairing rel (repairOn platform mode what device first addresses)
      (repairOn other mode what device first addresses) := by
  refine .bind (lockstep_command halike device what first) fun result => ?_
  cases hsucceeded : succeeded result with
  | false => exact .bind (lockstep_removeAll halike mode addresses) fun _ => .pure _
  | true =>
    refine .bind (lockstep_onlineAll halike mode addresses) fun online => ?_
    cases online with
    | false => exact .pure Outcome.onlineFailed
    | true => exact .pure Outcome.success

theorem lockstep_search (mode : Mode) (commands : RepairCommand × RepairCommand)
    (errorType : UInt32) (first : UInt64) (addresses : List UInt64) (found : Bool)
    (devices : List δ) :
    Act.Lockstep Entry.isRepairing rel
      (search platform mode commands errorType first addresses found devices)
      (search other mode commands errorType first addresses found devices) := by
  induction devices generalizing found with
  | nil => cases found <;> exact .bind (.write _) fun _ => .pure _
  | cons device rest ih =>
    unfold search
    rw [halike.deviceName]
    refine .bind (lockstep_request _ (halike.memoryType device)) fun answer => ?_
    rcases answer with failure | _ | _ | _
    · exact .bind (.write _) fun _ => ih found
    · refine .bind (lockstep_command halike device commands.1 first) fun result => ?_
      cases hsucceeded : succeeded result with
      | true => exact lockstep_repairOn halike mode commands.2 device first addresses
      | false =>
        cases helsewhere : isElsewhere result with
        | true => exact .bind (.write _) fun _ => ih true
        | false => exact .bind (.write _) fun _ => .pure _
    · exact ih found
    · exact ih found

theorem lockstep_repair (s : Section) (mode : Mode) (commands : RepairCommand × RepairCommand)
    (first : UInt64) (addresses : List UInt64) :
    Act.Lockstep Entry.isRepairing rel (repair platform s mode commands first addresses)
      (repair other s mode commands first addresses) := by
  refine .bind (lockstep_request _ halike.devices) fun answer => ?_
  rcases answer with failure | _ | ⟨device, rest⟩
  · exact .bind (.write _) fun _ => .pure _
  · exact .bind (.write _) fun _ => .pure _
  · exact lockstep_search halike mode commands s.repairType first addresses false (device :: rest)

theorem lockstep_attempt (threshold : UInt64) (s : Section) (mode : Mode)
    (commands : RepairCommand × RepairCommand) :
    Act.Lockstep Entry.isRepairing rel (attempt platform threshold s mode commands)
      (attempt other threshold s mode commands) := by
  refine .bind (lockstep_isolate halike threshold mode (s.addresses mode)) fun isolated => ?_
  cases isolated with
  | error outcome => exact .pure outcome
  | ok =>
    cases s.addresses mode with
    | nil => exact .pure _
    | cons first rest => exact lockstep_repair halike s mode commands first (first :: rest)

theorem lockstep_run {notifier : Notifier σ} {otherNotifier : Notifier τ}
    (hnotifier : notifier.Alike rel otherNotifier) (threshold : UInt64) (s : Section)
    (mode : Mode) :
    Act.Lockstep Entry.isRepairing rel (run platform notifier threshold s mode)
      (run other otherNotifier threshold s mode) := by
  unfold run
  cases RepairCommand.ofMode mode with
  | none => exact .pure none
  | some commands =>
    exact .bind (.write _) fun _ => .bind (lockstep_attempt halike threshold s mode commands)
      fun outcome => .bind (.write _) fun _ => .bind (lockstep_ask (hnotifier _)) fun _ =>
        .pure (some outcome)

end Alike

end Repair

namespace Ledger

variable {watched : Entry → Bool} {rel : σ → τ → Prop} {vars : VariableStore σ}
  {other : VariableStore τ} (halike : vars.Alike rel other)

include halike

theorem lockstep_readFlag (slot : Slot) :
    Act.Lockstep watched rel (readFlag vars slot) (readFlag other slot) :=
  .bind (.write _) fun _ => .step (halike.isImmutable slot)

theorem lockstep_writeFlag (slot : Slot) (immutable : Bool) :
    Act.Lockstep watched rel (writeFlag vars slot immutable) (writeFlag other slot immutable) :=
  .bind (.write _) fun _ => .step (halike.setImmutable slot immutable)

theorem lockstep_restoreFlag (slot : Slot) :
    Act.Lockstep watched rel (restoreFlag vars slot) (restoreFlag other slot) := by
  refine .bind (lockstep_writeFlag halike slot true) fun answer => ?_
  cases answer with
  | ok => exact .pure ()
  | error err =>
    simp only [halike.path]
    exact .write _

theorem lockstep_whileWritable (slot : Slot) {act : Act σ (Except IoError α)}
    {otherAct : Act τ (Except IoError α)} (hact : Act.Lockstep watched rel act otherAct) :
    Act.Lockstep watched rel (whileWritable vars slot act)
      (whileWritable other slot otherAct) := by
  refine .bind (lockstep_readFlag halike slot) fun flag => ?_
  have hrestore : ∀ result : Except IoError α, Act.Lockstep watched rel
      (do restoreFlag vars slot; pure result) (do restoreFlag other slot; pure result) :=
    fun result => .bind (lockstep_restoreFlag halike slot) fun _ => .pure result
  rcases flag with err | _ | _
  · exact .pure _
  · exact hact
  · refine .bind (lockstep_writeFlag halike slot false) fun cleared => ?_
    cases cleared with
    | error err => exact hrestore (.error err)
    | ok => exact .bind hact hrestore

theorem lockstep_writeOnce (slot : Slot) (bytes : Bytes) :
    Act.Lockstep watched rel (writeOnce vars slot bytes) (writeOnce other slot bytes) := by
  refine .bind (.step (halike.write slot bytes)) fun answer => ?_
  cases answer with
  | error err => exact .pure _
  | ok taken => exact .pure _

theorem lockstep_writeChunk (slot : Slot) (create : Bool) (bytes : Bytes) :
    Act.Lockstep watched rel (writeChunk vars slot create bytes)
      (writeChunk other slot create bytes) := by
  refine .bind (.step (halike.openFile slot create)) fun answer => ?_
  cases answer with
  | error err => exact .pure _
  | ok => exact lockstep_writeOnce halike slot bytes

theorem lockstep_append (slot : Slot) (raw : UInt64) :
    Act.Lockstep watched rel (append vars slot raw) (append other slot raw) := by
  refine .state_bind fun state twin hrel => ?_
  rw [halike.directory state twin hrel]
  cases (other.directory twin).get slot with
  | none => exact .bind (lockstep_writeChunk halike slot true _) fun _ => .pure _
  | some v =>
    cases hread : v.read with
    | error err => simp only [hread]; exact .pure _
    | ok content =>
      cases hattributes : attributes? content with
      | none => simp only [hread, hattributes, halike.path]; exact .pure _
      | some attributes =>
        simp only [hread, hattributes]
        exact .bind (lockstep_whileWritable halike slot (lockstep_writeChunk halike slot false _))
          fun _ => .pure _

theorem lockstep_record (ledger : Ledger) (s : Section) :
    Act.Lockstep watched rel (record vars ledger s) (record other ledger s) := by
  unfold record
  cases s.rawFault with
  | none => exact .pure _
  | some raw =>
    cases hslot : Slot.ofFault (FaultAddress.decode raw) with
    | error failure => simp only [hslot]; exact .pure _
    | ok slot =>
      simp only [hslot]
      refine .bind (.checked _) fun needed => ?_
      by_cases hfull : ledger.capacity < needed
      · simp only [if_pos hfull]
        exact .pure _
      · simp only [if_neg hfull]
        refine .bind (lockstep_append halike slot raw) fun answer => ?_
        cases answer with
        | error failure => exact .pure _
        | ok => exact .bind (.write _) fun _ => .pure _

end Ledger

end MemoryRepair
