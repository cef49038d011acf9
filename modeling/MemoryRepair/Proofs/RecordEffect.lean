import MemoryRepair.Proofs.SlotIdentity

/-!
The exact effect of a record. What a record needs, and in which order it refuses what
lacks it, can be told from the section, the count and what the store shows before the
record. A record that is accepted changes one slot and the count; one that is refused
changes neither. Whether the attribute can be set again afterwards matters for neither.
Only a file that cannot be opened, or does not take the whole chunk, makes a record fail
that lacks nothing; it may leave the first part of the chunk, but is not counted.
-/
namespace MemoryRepair

variable {σ : Type}

namespace Section

/-- An address needs the last two registers. -/
theorem exists_rawFault_iff {s : Section} :
    (∃ raw, s.rawFault = some raw) ↔ 2 ≤ s.registers.length := by
  rw [← List.length_reverse]
  unfold rawFault
  split
  · next heq =>
    simp [heq]
  · next hshort =>
    constructor
    · rintro ⟨raw, h⟩
      cases h
    · intro h
      match hrev : s.registers.reverse, h with
      | high :: low :: rest, _ => exact absurd hrev (hshort high low rest)

theorem fault_eq_decode {s : Section} {raw : UInt64} (hraw : s.rawFault = some raw) :
    s.fault = some (.decode raw) := by
  rw [fault, hraw, Option.map_some]

/-- The number of the slot that the section's fault asks for, if it has an address. -/
def slotNumber? (s : Section) : Option Nat :=
  s.fault.map FaultAddress.slotNumber

end Section

namespace Ledger

/-- What a record needs to store a fault in the slot. -/
structure Accepts (vars : VariableStore σ) (ledger : Ledger) (s : Section) (state : σ)
    (slot : Slot) : Prop where
  registers : 2 ≤ s.registers.length
  number : s.slotNumber? = some slot.val
  room : ledger.HasRoom
  admits : Admits vars slot state

/-- What a record lacks first. -/
inductive Rejects (vars : VariableStore σ) (ledger : Ledger) (s : Section) (state : σ) :
    Failure → Prop
  | registers (h : s.registers.length < 2) : Rejects vars ledger s state .internal
  | unslotted {fault : FaultAddress} (hfault : s.fault = some fault)
      (h : 8 ≤ fault.slotNumber) :
      Rejects vars ledger s state (.slot fault.processor fault.errorType)
  | full {slot : Slot} (hnumber : s.slotNumber? = some slot.val)
      (h : ¬ ledger.HasRoom) :
      Rejects vars ledger s state (.ledgerFull ledger.total ledger.capacity)
  | denied {slot : Slot} {failure : Failure} (hnumber : s.slotNumber? = some slot.val)
      (hroom : ledger.HasRoom) (h : Denies vars slot state failure) :
      Rejects vars ledger s state failure

/-- The address of the section is behind what stood at the slot, as the end of a file made
or extended by twelve bytes, and no other slot is touched. -/
structure Gains (s : Section) (slot : Slot) (before after : VariableDirectory) : Prop where
  added : ∃ attributes raw, s.rawFault = some raw ∧ (chunk attributes raw).length = 12 ∧
    (before.get slot = none ∧ after.get slot = some (.file (chunk attributes raw)) ∨
      ∃ content, before.get slot = some (.file content) ∧
        after.get slot = some (.file (content ++ chunk attributes raw)))
  others : ∀ k, k ≠ slot → after.get k = before.get k

/-- What a file that fails leaves of a record: the slot is as before, or ends with the first
part of the chunk, and no other slot is touched. -/
inductive Spoils (s : Section) (slot : Slot) (before : VariableDirectory) :
    VariableDirectory → Prop
  | unopened : Spoils s slot before before
  | cut {raw : UInt64} {bytes : Bytes} (hraw : s.rawFault = some raw)
      (hcut : Cut raw (before.get slot) bytes) :
      Spoils s slot before (before.put slot (some (.file bytes)))

theorem slotNumber_eq_some_iff {s : Section} {slot : Slot} :
    s.slotNumber? = some slot.val ↔ ∃ raw, Routed s raw slot := by
  constructor
  · intro h
    obtain ⟨fault, hfault, hnumber⟩ := Option.map_eq_some_iff.mp h
    obtain ⟨raw, hraw, rfl⟩ := Option.map_eq_some_iff.mp hfault
    exact ⟨raw, hraw, Slot.ofFault_eq_ok_iff.mpr hnumber.symm⟩
  · rintro ⟨raw, hraw, hslot⟩
    rw [Section.slotNumber?, Section.fault_eq_decode hraw]
    exact congrArg some (Slot.ofFault_eq_ok_iff.mp hslot).symm

theorem Stored.gains {s : Section} {raw : UInt64} (hraw : s.rawFault = some raw) {slot : Slot}
    {before : VariableDirectory} {bytes : Bytes} (hreached : before.Reached)
    (h : Stored raw (before.get slot) bytes) :
    Gains s slot before (before.put slot (some (.file bytes))) := by
  refine ⟨?_, fun k hk => before.get_put_of_ne _ hk⟩
  obtain ⟨slots, rfl⟩ := hreached
  rw [VariableDirectory.get_put_self]
  generalize VariableDirectory.get _ slot = v at h ⊢
  cases h with
  | created => exact ⟨_, raw, hraw, length_chunk _ raw, Or.inl ⟨rfl, rfl⟩⟩
  | appended => exact ⟨_, raw, hraw, length_chunk _ raw, Or.inr ⟨_, rfl, rfl⟩⟩

section Effect

variable {vars : VariableStore σ} {quiet : σ → Prop} {ledger : Ledger} {s : Section} {state : σ}

/-- What lacks nothing is stored, unless the file fails. -/
theorem Accepts.record_ends (hfaithful : vars.Faithful quiet) (hquiet : quiet state) {slot : Slot}
    (h : Accepts vars ledger s state slot) :
    Act.Ends (record vars ledger s) state fun result after =>
      result = (.ok slot, ledger.grown) ∧
          Gains s slot (vars.directory state) (vars.directory after) ∨
        ¬ vars.Serves quiet ∧ ∃ err, result = (.error (.io err), ledger) ∧
          Spoils s slot (vars.directory state) (vars.directory after) := by
  obtain ⟨raw, hrouted⟩ := slotNumber_eq_some_iff.mp h.number
  rw [record_of_room hrouted h.room]
  refine Act.Ends.bind (append_ends hfaithful raw hquiet h.admits) ?_
  rintro answer after ⟨last, happended, -, rfl⟩
  generalize hlast : vars.directory after = last at happended
  cases happended with
  | stored hstored =>
    refine .write_bind (.pure (Or.inl ⟨rfl, ?_⟩))
    rw [hlast]
    exact hstored.gains hrouted.1 h.admits.reached
  | cut hpart hcut err =>
    refine .pure (Or.inr ⟨fun hserves => hpart hserves.whole, err, rfl, ?_⟩)
    rw [hlast]
    exact .cut hrouted.1 hcut
  | unopened hunserved err =>
    refine .pure (Or.inr ⟨hunserved, err, rfl, ?_⟩)
    rw [hlast]
    exact .unopened

theorem Rejects.record_ends (hfaithful : vars.Faithful quiet) (hquiet : quiet state)
    (hgrow : ledger.CanGrow) {failure : Failure} (h : Rejects vars ledger s state failure) :
    Act.Ends (record vars ledger s) state fun result after =>
      result = (.error failure, ledger) ∧ vars.directory after = vars.directory state := by
  cases h with
  | registers h =>
    have hnone : s.rawFault = none := Option.eq_none_iff_forall_ne_some.mpr fun raw hraw =>
      Nat.not_le.mpr h (Section.exists_rawFault_iff.mp ⟨raw, hraw⟩)
    rw [record_of_none hnone]
    exact .pure ⟨rfl, rfl⟩
  | unslotted hfault h =>
    have hrun := run_record_unslotted vars ledger hfault h state
    exact .of_run_eq (hrun.trans (Act.run_pure _ _).symm) (.pure ⟨rfl, rfl⟩)
  | full hnumber h =>
    obtain ⟨raw, hrouted⟩ := slotNumber_eq_some_iff.mp hnumber
    rw [record_of_full hrouted hgrow h]
    exact .pure ⟨rfl, rfl⟩
  | denied hnumber hroom h =>
    obtain ⟨raw, hrouted⟩ := slotNumber_eq_some_iff.mp hnumber
    rw [record_of_room hrouted hroom]
    refine Act.Ends.bind (append_refuses hfaithful raw hquiet h) ?_
    rintro answer after ⟨rfl, -, hafter⟩
    exact .pure ⟨rfl, hafter⟩

end Effect

/-- A write that takes only five bytes is not counted, and stays in the file. -/
example :
    let short : VariableStore VariableDirectory :=
      { plainStore with write := fun slot bytes => VariableDirectory.writeFile slot (bytes.take 5) }
    let ran := Act.run (record short ⟨64, 0⟩ (.ofHeader [] [0, 0])) (.present fun _ => none)
    ran.value = .ok (.error (.io .writeZero), ⟨64, 0⟩) ∧
      ran.state.get 0 = some (.file [7, 0, 0, 0, 0]) := by
  constructor <;> rfl

end Ledger

end MemoryRepair
