import MemoryRepair.Proofs.AttributeBracket
import MemoryRepair.Proofs.LedgerSize

/-!
The quota of an opened ledger. Nothing is assumed of the store: a request about the
attribute may fail or change anything, and before each call the outside may change the
state as it likes. The count still rises by eight bytes for each record that is stored and
by nothing else, since it is the ledger's own. A ledger that refused a record for want of
room has none for any later one, and then touches nothing.
-/
namespace MemoryRepair

variable {σ : Type}

/-- What wrote nothing to the journal leaves its value and state to what follows. -/
theorem Act.run_bind_of_eq {α β : Type} {act : Act σ α} {next : α → Act σ β} {state after : σ}
    {value : α} (h : run act state = ⟨.ok value, after, []⟩) :
    run (act >>= next) state = run (next value) after := by
  have hvalue : (run act state).value = .ok value := by rw [h]
  rw [run_bind_ok hvalue, h]
  rfl

namespace Ledger

/-- A call on a ledger in use, with what happens outside before it. -/
structure Visit (σ : Type) where
  outside : σ → σ
  fault : Section

/-- One call after the other on the same ledger. -/
def visit (vars : VariableStore σ) (ledger : Ledger) :
    List (Visit σ) → Act σ (List (Except Failure Slot) × Ledger)
  | [] => pure ([], ledger)
  | next :: rest => do
    Act.update next.outside
    let (answer, ledger) ← record vars ledger next.fault
    let (answers, ledger) ← visit vars ledger rest
    pure (answer :: answers, ledger)

/-- What the outside alone makes of the state. -/
def outsideOf (visits : List (Visit σ)) (state : σ) : σ :=
  visits.foldl (fun state next => next.outside state) state

/-- How many records were stored. -/
def storedCount (answers : List (Except Failure Slot)) : Nat :=
  answers.countP (·.isOk)

@[simp] theorem storedCount_ok (slot : Slot) (answers : List (Except Failure Slot)) :
    storedCount (.ok slot :: answers) = storedCount answers + 1 :=
  List.countP_cons_of_pos rfl

@[simp] theorem storedCount_error (failure : Failure) (answers : List (Except Failure Slot)) :
    storedCount (.error failure :: answers) = storedCount answers :=
  List.countP_cons_of_neg fun h => nomatch h

/-- Neither the count nor the capacity is within a record of the end of 64 bits. -/
structure Bounded (ledger : Ledger) : Prop where
  total : ledger.CanGrow
  capacity : ledger.capacity.toNat + recordSize < UInt64.size

/-- A record counts if it is stored, for which there was room, and only for want of room
is it refused as such. -/
inductive Counts (ledger : Ledger) : Except Failure Slot × Ledger → Prop
  | stored (slot : Slot) (hroom : ledger.HasRoom) :
      Counts ledger (.ok slot, ledger.grown)
  | refused (failure : Failure) (hfull : failure.IsFull → ¬ ledger.HasRoom) :
      Counts ledger (.error failure, ledger)

/-- A count that was stored is within the capacity, so that bounds stay in force. -/
theorem Counts.bounded {ledger last : Ledger} {answer : Except Failure Slot}
    (h : Counts ledger (answer, last)) (hbounded : ledger.Bounded) : last.Bounded := by
  cases h with
  | stored slot hroom =>
    refine ⟨?_, hbounded.capacity⟩
    rw [CanGrow, hroom.canGrow.toNat_total_grown]
    exact Nat.lt_of_le_of_lt (Nat.add_le_add_right hroom recordSize) hbounded.capacity
  | refused failure hfull => exact hbounded

section Step

variable (vars : VariableStore σ) (ledger : Ledger) (s : Section) (state : σ)

/-- Storing an address fails for other reasons than the quota. -/
theorem append_ends_unfull (slot : Slot) (raw : UInt64) :
    Act.Ends (append vars slot raw) state fun answer _ =>
      ∀ failure, answer = .error failure → ¬ failure.IsFull := by
  have hio : ∀ (answer : Except IoError Unit) (failure : Failure),
      answer.mapError Failure.io = .error failure → ¬ failure.IsFull := by
    intro answer failure h
    cases answer with
    | ok => cases h
    | error err =>
      cases h
      exact id
  cases appends vars slot raw state with
  | created hget hrun =>
    obtain ⟨operations, answer, hoperates, -⟩ :=
      attempt_writeChunk vars slot true (chunk baseAttributes raw) state
    exact .of_run_eq hrun (reported_ends ⟨answer, hoperates.value_eq, hio answer⟩)
  | @extended content attributes hget hattributes hrun =>
    obtain ⟨operations, answer, hoperates, -⟩ := lifted_whileWritable
      (attempt_writeChunk vars slot false (chunk (attributes ||| appendAttribute) raw)) state
    exact .of_run_eq hrun (reported_ends ⟨answer, hoperates.value_eq, hio answer⟩)
  | refused failure hunread hother hrun =>
    refine .of_run_eq hrun (.pure ?_)
    rintro other ⟨⟩
    exact hother

variable {ledger s}

theorem record_counts (hcount : ledger.CanCount s) :
    Act.Ends (record vars ledger s) state fun result _ => Counts ledger result := by
  cases records vars ledger s with
  | unrouted failure hrefused hother heq =>
    rw [heq]
    exact .pure (.refused failure fun hfull => absurd hfull hother)
  | overflown hrouted hover heq => exact absurd (hcount _ _ hrouted) hover
  | full hrouted hgrow hfull heq =>
    rw [heq]
    exact .pure (.refused _ fun _ => hfull)
  | @kept raw slot hrouted hroom heq =>
    rw [heq]
    refine Act.Ends.bind (append_ends_unfull vars state slot raw) ?_
    intro answer after hunfull
    cases answer with
    | ok => exact .write_bind (.pure (.stored slot hroom))
    | error failure =>
      exact .pure (.refused failure fun hfull => absurd hfull (hunfull failure rfl))

/-- Without room nothing is done for a record. -/
theorem run_record_without_room (hcount : ledger.CanCount s) (hroom : ¬ ledger.HasRoom) :
    ∃ failure,
      Act.run (record vars ledger s) state = ⟨.ok (.error failure, ledger), state, []⟩ := by
  cases records vars ledger s with
  | unrouted failure hrefused hother heq => exact ⟨failure, congrArg (Act.run · state) heq⟩
  | overflown hrouted hover heq => exact absurd (hcount _ _ hrouted) hover
  | full hrouted hgrow hfull heq => exact ⟨_, congrArg (Act.run · state) heq⟩
  | kept hrouted hfits heq => exact absurd hfits hroom

end Step

/-- What a run of calls makes of the ledger. -/
structure Quota (start : Ledger) (answers : List (Except Failure Slot)) (last : Ledger) :
    Prop where
  capacity_eq : last.capacity = start.capacity
  total_eq : last.total.toNat = start.total.toNat + recordSize * storedCount answers
  bounded : last.total.toNat ≤ max start.total.toNat start.capacity.toNat
  exhausted : (∃ failure, .error failure ∈ answers ∧ failure.IsFull) → ¬ last.HasRoom

theorem Quota.nil (ledger : Ledger) : Quota ledger [] ledger where
  capacity_eq := rfl
  total_eq := rfl
  bounded := Nat.le_max_left _ _
  exhausted := fun ⟨_, hmem, _⟩ => nomatch hmem

theorem Quota.cons {start mid last : Ledger} {answer : Except Failure Slot}
    {answers : List (Except Failure Slot)} (hhead : Counts start (answer, mid))
    (htail : Quota mid answers last) : Quota start (answer :: answers) last := by
  obtain ⟨hcapacity, htotal, hbounded, hexhausted⟩ := htail
  cases hhead with
  | stored slot hroom =>
    rw [hroom.canGrow.toNat_total_grown] at htotal hbounded
    rw [capacity_grown] at hcapacity hbounded
    unfold HasRoom at hroom
    refine ⟨hcapacity, ?_, by omega, ?_⟩
    · rw [storedCount_ok, htotal, Nat.mul_succ]
      omega
    · rintro ⟨failure, hmem, hfull⟩
      have hrest := (List.mem_cons.mp hmem).resolve_left fun h => nomatch h
      exact hexhausted ⟨failure, hrest, hfull⟩
  | refused failure hwant =>
    refine ⟨hcapacity, (storedCount_error failure answers).symm ▸ htotal, hbounded, ?_⟩
    rintro ⟨other, hmem, hfull⟩
    rcases List.mem_cons.mp hmem with heq | hrest
    · -- The count never falls, so that the room missing here is missing at the end too.
      obtain rfl : other = failure := Except.error.inj heq
      have hnone := hwant hfull
      unfold HasRoom at hnone ⊢
      rw [hcapacity]
      omega
    · exact hexhausted ⟨other, hrest, hfull⟩

theorem visit_quota (vars : VariableStore σ) (visits : List (Visit σ)) {ledger : Ledger}
    (hbounded : ledger.Bounded) (state : σ) :
    Act.Ends (visit vars ledger visits) state fun result _ =>
      result.1.length = visits.length ∧ Quota ledger result.1 result.2 := by
  induction visits generalizing ledger state with
  | nil => exact .pure ⟨rfl, .nil ledger⟩
  | cons next rest ih =>
    have houtside : Act.Ends (Act.update next.outside) state fun _ _ => True := .step trivial
    refine Act.Ends.bind houtside fun _ before _ => ?_
    refine Act.Ends.bind (record_counts vars before (hbounded.total.canCount next.fault)) ?_
    rintro ⟨answer, mid⟩ after hcounts
    refine Act.Ends.bind (ih (hcounts.bounded hbounded) after) ?_
    rintro ⟨answers, last⟩ final ⟨hlength, hquota⟩
    exact .pure ⟨congrArg (· + 1) hlength, hquota.cons hcounts⟩

/-- Without room a run refuses everything and leaves the state to the outside. -/
theorem run_visit_without_room (vars : VariableStore σ) {ledger : Ledger}
    (hgrow : ledger.CanGrow) (hroom : ¬ ledger.HasRoom) (visits : List (Visit σ)) (state : σ) :
    ∃ failures : List Failure, failures.length = visits.length ∧
      Act.run (visit vars ledger visits) state =
        ⟨.ok (failures.map .error, ledger), outsideOf visits state, []⟩ := by
  induction visits generalizing state with
  | nil => exact ⟨[], rfl, rfl⟩
  | cons next rest ih =>
    obtain ⟨failure, hrecord⟩ :=
      run_record_without_room vars (next.outside state) (hgrow.canCount next.fault) hroom
    obtain ⟨failures, hlength, hrest⟩ := ih (next.outside state)
    have hupdate : Act.run (Act.update next.outside) state = ⟨.ok (), next.outside state, []⟩ := rfl
    refine ⟨failure :: failures, congrArg (· + 1) hlength, ?_⟩
    rw [visit, Act.run_bind_of_eq hupdate, Act.run_bind_of_eq hrecord]
    exact Act.run_bind_of_eq hrest

/-- Along every run of calls on an opened ledger the count is the size at opening and eight
bytes for each record stored, within the capacity if it was so at opening, and no sum
overflows. After a refusal for want of room every later call is refused and does nothing. -/
theorem visit_within_quota (vars : VariableStore σ) (capacity : UInt64) (state : σ)
    (visits later : List (Visit σ))
    (hstart : (vars.directory state).totalSize + 8 < UInt64.size)
    (hcapacity : capacity.toNat + 8 < UInt64.size) :
    let start := (vars.directory state).totalSize
    Act.Ends (load vars capacity >>= fun ledger => visit vars ledger visits) state
      fun (answers, last) after =>
        answers.length = visits.length ∧
        (last.capacity = capacity ∧ last.total.toNat = start + 8 * storedCount answers) ∧
        last.total.toNat ≤ max start capacity.toNat ∧
        last.total.toNat + 8 < UInt64.size ∧
        storedCount answers ≤ (capacity.toNat - start) / 8 ∧
        (capacity.toNat < start + 8 → storedCount answers = 0) ∧
        ((∃ failure, .error failure ∈ answers ∧ failure.IsFull) →
          ∃ failures : List Failure, failures.length = later.length ∧
            Act.run (visit vars last later) after =
              ⟨.ok (failures.map .error, last), outsideOf later after, []⟩) := by
  intro start
  have hsum : (vars.directory state).totalSize < UInt64.size := by omega
  refine Act.Ends.bind (load_ends vars capacity state hsum) ?_
  rintro ledger opened ⟨⟨rfl, hopened⟩, rfl⟩
  have hbounded : ledger.Bounded := by
    refine ⟨?_, hcapacity⟩
    rw [CanGrow, hopened]
    exact hstart
  refine (visit_quota vars visits hbounded _).mono ?_
  rintro ⟨answers, last⟩ after ⟨hlength, hquota⟩
  obtain ⟨hlast, htotal, hmax, hexhausted⟩ := hquota
  rw [hopened] at htotal hmax
  simp only [recordSize] at htotal
  dsimp only at hlast htotal hmax
  have hgrow : last.CanGrow := by
    unfold CanGrow recordSize
    omega
  refine ⟨hlength, ⟨hlast, htotal⟩, hmax, hgrow, by omega, by omega, fun hfull => ?_⟩
  exact run_visit_without_room vars hgrow (hexhausted hfull) later after

/-- Room for one record. The second call finds the file removed but the quota used up, and
the third does nothing to the directory put in its place. -/
theorem visit_within_quota_plain :
    let fault : Section := .ofHeader [] [0, 0]
    let empty : VariableDirectory := .present fun _ => none
    let visits : List (Visit VariableDirectory) :=
      [⟨id, fault⟩, ⟨fun directory => directory.put 0 none, fault⟩]
    let later : List (Visit VariableDirectory) :=
      [⟨fun directory => directory.put 0 (some .directory), fault⟩]
    let act := load plainStore 8 >>= fun ledger => visit plainStore ledger visits
    (plainStore.directory empty).totalSize + 8 < UInt64.size ∧
      (8 : UInt64).toNat + 8 < UInt64.size ∧
      (Act.run act empty).value = .ok ([.ok 0, .error (.ledgerFull 8 8)], ⟨8, 8⟩) ∧
      ∃ failures : List Failure, failures.length = 1 ∧
        Act.run (visit plainStore ⟨8, 8⟩ later) (Act.run act empty).state =
          ⟨.ok (failures.map .error, ⟨8, 8⟩), outsideOf later (Act.run act empty).state, []⟩ := by
  intro fault empty visits later act
  have hstart : (plainStore.directory empty).totalSize + 8 < UInt64.size := by decide
  have hcapacity : (8 : UInt64).toNat + 8 < UInt64.size := by decide
  have hvalue : (Act.run act empty).value = .ok ([.ok 0, .error (.ledgerFull 8 8)], ⟨8, 8⟩) := rfl
  have hends := visit_within_quota plainStore 8 empty visits later hstart hcapacity
  obtain ⟨-, -, -, -, -, -, hlater⟩ := hends.of_value hvalue
  exact ⟨hstart, hcapacity, hvalue, hlater ⟨.ledgerFull 8 8, by simp, trivial⟩⟩

end Ledger

end MemoryRepair
