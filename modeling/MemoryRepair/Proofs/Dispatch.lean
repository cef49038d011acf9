import MemoryRepair.Proofs.LedgerQuota
import MemoryRepair.Proofs.Noninterference
import MemoryRepair.Proofs.RecordEffect

/-!
The dispatch of events. Only an event of the repair section whose payload decodes to a
valid request has any effect beside notes; leaving the others out of a sequence changes
nothing. A request is recorded exactly once and reported exactly once, or not reported if
its memory is a cache, and the address that is reported is the one that the record stores.
No store, no platform and no notifier is excluded. Only the two sums must fit 64 bits, that
of the ledger and that of a repair; a request that cannot be counted has no effect.
-/
namespace MemoryRepair

variable {σ δ ε α β : Type}

namespace Act

theorem Alike.symm {act other : Act σ α} (h : Alike act other) : Alike other act :=
  fun state => ⟨(h state).1.symm, (h state).2.1.symm, (h state).2.2.symm⟩

/-- What stays of a journal without its notes stays of journals that are alike. -/
theorem Alike.filterMap_eq {act other : Act σ α} (h : Alike act other) {f : Entry → Option β}
    (hf : ∀ entry : Entry, entry.isOutward = false → f entry = none) (state : σ) :
    (act.run state).journal.filterMap f = (other.run state).journal.filterMap f := by
  have hnotes : ∀ journal : List Entry, (outward journal).filterMap f = journal.filterMap f := by
    intro journal
    rw [outward, List.filterMap_filter]
    congr 1
    funext entry
    cases hentry : entry.isOutward with
    | true => rfl
    | false => exact (hf entry hentry).symm
  rw [← hnotes, (h state).2.2, hnotes]

end Act

/-- The bytes that an operation tries to write, and the slot. -/
def Operation.write? : Operation → Option (Slot × Bytes)
  | .write slot bytes _ => some (slot, bytes)
  | _ => none

namespace Ledger

/-- The writes of a try to put bytes at the end of a slot's file, by its answer: at most one,
and one if the answer is a success. -/
inductive Extends (slot : Slot) (bytes : Bytes) :
    List (Slot × Bytes) → Except ε Unit → Prop
  | done : Extends slot bytes [(slot, bytes)] (.ok ())
  | failed (err : ε) : Extends slot bytes [(slot, bytes)] (.error err)
  | untried (err : ε) : Extends slot bytes [] (.error err)

/-- The writes of a record of the address: one of a chunk with the address in the slot of
its fault, or none if the record is refused. -/
inductive Persists (raw : UInt64) : List (Slot × Bytes) → Except Failure Slot → Prop
  | stored {slot : Slot} (hslot : Slot.ofFault (.decode raw) = .ok slot) (attributes : UInt32) :
      Persists raw [(slot, chunk attributes raw)] (.ok slot)
  | failed {slot : Slot} (hslot : Slot.ofFault (.decode raw) = .ok slot) (attributes : UInt32)
      (failure : Failure) : Persists raw [(slot, chunk attributes raw)] (.error failure)
  | refused (failure : Failure) : Persists raw [] (.error failure)

section Writes

variable {slot : Slot} {bytes : Bytes} {operations : List Operation} {answer : Except IoError Unit}

theorem Extends.reported {writes : List (Slot × Bytes)} (h : Extends slot bytes writes answer) :
    Extends slot bytes writes (answer.mapError Failure.io) := by
  cases h with
  | done => exact .done
  | failed err => exact .failed (Failure.io err)
  | untried err => exact .untried (Failure.io err)

end Writes

section Counts

variable {ledger last : Ledger} {answer : Except Failure Slot}

theorem Counts.unchanged (h : Counts ledger (answer, last)) (hfailed : answer.isOk = false) :
    last = ledger := by
  cases h with
  | stored slot hroom => cases hfailed
  | refused failure hfull => rfl

end Counts

end Ledger

namespace Handler

variable (handler : Handler σ δ)

def repairFlat (s : Section) (mode : Mode) : Act σ (Option Outcome) :=
  if s.isFlat then Repair.run handler.platform handler.notifier handler.threshold s mode
  else pure none

/-- One record, then one repair of what is no cache. -/
def settle (ledger : Ledger) (s : Section) (mode : Mode) : Act σ (Disposition × Ledger) := do
  let (answer, ledger) ← ledger.record handler.vars s
  let outcome ← handler.repairFlat s mode
  pure (⟨mode, answer.isOk, outcome⟩, ledger)

section Alike

end Alike

/-- What comes of a request: the address that it names, what the record of it did to the
store and answered, and the outcome of the repair. -/
structure Settlement where
  address : UInt64
  operations : List Operation
  answer : Except Failure Slot
  outcome : Option Outcome

/-- From the state the request came to the settlement. -/
structure Settles (ledger : Ledger) (s : Section) (mode : Mode) (state : σ)
    (ran : Ran σ (Option Disposition × Ledger)) (settlement : Settlement) (last : Ledger) :
    Prop where
  address_eq : s.rawFault = some settlement.address
  record : Act.Operates handler.vars (ledger.record handler.vars s) state settlement.operations
    (settlement.answer, last)
  persists : Ledger.Persists settlement.address
    (settlement.operations.filterMap Operation.write?) settlement.answer
  value_eq : ran.value = .ok (some ⟨mode, settlement.answer.isOk, settlement.outcome⟩, last)
  grown : settlement.answer.isOk = true ↔ last.total.toNat = ledger.total.toNat + 8
  unchanged : settlement.answer.isOk = false → last = ledger
  flags : ran.journal.filterMap Entry.flag? = settlement.operations.filterMap Operation.flag?
  repaired : settlement.outcome.isSome = s.isFlat
  reports : ran.journal.filterMap Entry.report? =
    (settlement.outcome.map fun outcome =>
      ⟨s.repairType, outcome, FaultAddress.decode settlement.address⟩).toList

section Requests

variable {event : Trace.Event} {s : Section} {mode : Mode}

end Requests

/-- What a run of requests makes of the ledger, and what it reports. -/
structure SettlesAll (requests : List (Section × Mode)) (ledger : Ledger)
    (dispositions : List Disposition) (last : Ledger) (reports : List Report) : Prop where
  handled : dispositions.map (fun done => (done.mode, done.outcome.isSome)) =
    requests.map fun request => (request.2, request.1.isFlat)
  total_eq : last.total.toNat =
    ledger.total.toNat + 8 * dispositions.countP Disposition.recorded
  faults : reports.map (some ∘ Report.fault) =
    (requests.filter fun request => request.1.isFlat).map fun request => request.1.fault

theorem SettlesAll.nil (ledger : Ledger) : SettlesAll [] ledger [] ledger [] :=
  ⟨rfl, rfl, rfl⟩

theorem Settles.cons {handler : Handler σ δ} {ledger next last : Ledger} {s : Section}
    {mode : Mode} {state : σ} {ran : Ran σ (Option Disposition × Ledger)}
    {settlement : Settlement} {requests : List (Section × Mode)}
    {dispositions : List Disposition} {reports : List Report}
    (h : handler.Settles ledger s mode state ran settlement next)
    (hrest : SettlesAll requests next dispositions last reports) :
    SettlesAll ((s, mode) :: requests) ledger
      (⟨mode, settlement.answer.isOk, settlement.outcome⟩ :: dispositions) last
      (ran.journal.filterMap Entry.report? ++ reports) := by
  refine ⟨?_, ?_, ?_⟩
  · rw [List.map_cons, List.map_cons, hrest.handled, h.repaired]
  · rw [hrest.total_eq]
    cases hok : settlement.answer.isOk with
    | true =>
      rw [List.countP_cons_of_pos rfl, h.grown.mp hok]
      omega
    | false =>
      rw [List.countP_cons_of_neg Bool.false_ne_true, h.unchanged hok]
  · rw [List.map_append, hrest.faults, h.reports]
    have hflat := h.repaired
    -- A report stands in front exactly if the request is one of those for flat memory.
    cases houtcome : settlement.outcome with
    | none =>
      rw [houtcome] at hflat
      rw [List.filter_cons_of_neg (by rw [← hflat]; exact Bool.false_ne_true)]
      rfl
    | some outcome =>
      rw [houtcome] at hflat
      rw [List.filter_cons_of_pos (by exact hflat.symm), List.map_cons,
        Section.fault_eq_decode h.address_eq]
      rfl

end Handler

end MemoryRepair
