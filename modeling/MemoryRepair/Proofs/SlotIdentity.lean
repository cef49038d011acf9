import MemoryRepair.Proofs.SlotLog

/-!
Which faults a slot keeps. With the error types 0 and 1 each of the four processors has two
slots, whose numbers have the processor and the error type as their digits. Only the number
is checked against the slots there are, while a packed address leaves room for two further
error types, which take slots of the next processor.
-/
namespace MemoryRepair

namespace FaultAddress

/-- The number of the slot for a fault, whether there is such a slot or not. -/
def slotNumber (fault : FaultAddress) : Nat :=
  2 * fault.processor.toNat + fault.errorType.toNat

end FaultAddress

namespace Slot

theorem ofPair_eq_ok_iff {processor errorType : UInt32} {slot : Slot} :
    ofPair processor errorType = .ok slot ↔
      slot.val = 2 * processor.toNat + errorType.toNat := by
  unfold ofPair
  constructor
  · intro h
    split at h
    · exact congrArg Fin.val (Except.ok.inj h).symm
    · cases h
  · intro h
    have hlt : 2 * processor.toNat + errorType.toNat < 8 := h ▸ slot.isLt
    rw [dif_pos hlt]
    exact congrArg Except.ok (Fin.ext h.symm)

theorem ofPair_eq_error {processor errorType : UInt32}
    (h : 8 ≤ 2 * processor.toNat + errorType.toNat) :
    ofPair processor errorType = .error (.slot processor errorType) :=
  dif_neg (Nat.not_lt.mpr h)

theorem exists_ofPair_iff {processor errorType : UInt32} :
    (∃ slot, ofPair processor errorType = .ok slot) ↔
      2 * processor.toNat + errorType.toNat < 8 := by
  constructor
  · rintro ⟨slot, hslot⟩
    rw [← ofPair_eq_ok_iff.mp hslot]
    exact slot.isLt
  · exact fun h => ⟨⟨_, h⟩, ofPair_eq_ok_iff.mpr rfl⟩

/-- With an error type of one bit the pair is read off the slot. -/
theorem digits_of_ofPair {processor errorType : UInt32} {slot : Slot} (hbit : errorType ≤ 1)
    (h : ofPair processor errorType = .ok slot) :
    processor.toNat = slot.val / 2 ∧ errorType.toNat = slot.val % 2 := by
  have hnumber := ofPair_eq_ok_iff.mp h
  have htype : errorType.toNat ≤ 1 := hbit
  omega

theorem ofPair_injective {processor errorType otherProcessor otherType : UInt32} {slot : Slot}
    (hbit : errorType ≤ 1) (hother : otherType ≤ 1) (h : ofPair processor errorType = .ok slot)
    (hsame : ofPair otherProcessor otherType = .ok slot) :
    processor = otherProcessor ∧ errorType = otherType := by
  have hdigits := digits_of_ofPair hbit h
  have hdigits' := digits_of_ofPair hother hsame
  exact ⟨UInt32.toNat_inj.mp (hdigits.1.trans hdigits'.1.symm),
    UInt32.toNat_inj.mp (hdigits.2.trans hdigits'.2.symm)⟩

theorem ofFault_eq_ok_iff {fault : FaultAddress} {slot : Slot} :
    ofFault fault = .ok slot ↔ slot.val = fault.slotNumber :=
  ofPair_eq_ok_iff

end Slot

namespace Ledger

variable {σ : Type}

/-- A fault without a slot is refused before anything is done. -/
theorem run_record_unslotted (vars : VariableStore σ) (ledger : Ledger) {s : Section}
    {fault : FaultAddress} (hfault : s.fault = some fault) (hslot : 8 ≤ fault.slotNumber)
    (state : σ) :
    Act.run (record vars ledger s) state =
      ⟨.ok (.error (.slot fault.processor fault.errorType), ledger), state, []⟩ := by
  obtain ⟨raw, hraw, rfl⟩ := Option.map_eq_some_iff.mp hfault
  rw [record_of_unslotted hraw (Slot.ofPair_eq_error hslot), Act.run_pure]

theorem ofFault_of_forall₂_routed {slot : Slot} {sections : List Section} {raws : List UInt64}
    (h : List.Forall₂ (Routed · · slot) sections raws) {raw : UInt64} (hmem : raw ∈ raws) :
    Slot.ofFault (FaultAddress.decode raw) = .ok slot := by
  induction h with
  | nil => cases hmem
  | cons hrouted _ ih =>
    rcases List.mem_cons.mp hmem with rfl | hrest
    · exact hrouted.2
    · exact ih hrest

/-- The faults kept in a slot have its number. Those with an error type of one bit have the
processor and the error type that the number spells, and so are all of one kind. -/
structure Identifies (slot : Slot) (faults : List FaultAddress) : Prop where
  number : ∀ fault ∈ faults, slot.val = fault.slotNumber
  digits : ∀ fault ∈ faults, fault.errorType ≤ 1 →
    fault.processor.toNat = slot.val / 2 ∧ fault.errorType.toNat = slot.val % 2
  apart : ∀ fault ∈ faults, ∀ other ∈ faults, fault.errorType ≤ 1 → other.errorType ≤ 1 →
    fault.processor = other.processor ∧ fault.errorType = other.errorType

theorem identifies_of_ofFault {slot : Slot} {faults : List FaultAddress}
    (h : ∀ fault ∈ faults, Slot.ofFault fault = .ok slot) : Identifies slot faults where
  number fault hfault := Slot.ofFault_eq_ok_iff.mp (h fault hfault)
  digits fault hfault hbit := Slot.digits_of_ofPair hbit (h fault hfault)
  apart fault hfault other hother hbit hbit' :=
    Slot.ofPair_injective hbit hbit' (h fault hfault) (h other hother)

/-- The pairs with an error type of one bit are told apart by their slots, and so are the
faults that a run stores in them. A fault whose number is no slot is refused. -/
theorem perform_identifies (vars : VariableStore σ) (quiet : σ → Prop)
    (hfaithful : vars.Faithful quiet) (ledger : Ledger) (uses : List Use) (state : σ)
    (hquiet : quiet state) :
    (∀ processor errorType : UInt32, errorType ≤ 1 →
      ((∃ slot, Slot.ofPair processor errorType = .ok slot) ↔ processor ≤ 3)) ∧
    (∀ (processor errorType otherProcessor otherType : UInt32) (slot : Slot),
      errorType ≤ 1 → otherType ≤ 1 → Slot.ofPair processor errorType = .ok slot →
      Slot.ofPair otherProcessor otherType = .ok slot →
      processor = otherProcessor ∧ errorType = otherType) ∧
    (∀ (now : Ledger) (s : Section) (fault : FaultAddress) (here : σ), s.fault = some fault →
      8 ≤ fault.slotNumber → Act.run (record vars now s) here =
        ⟨.ok (.error (.slot fault.processor fault.errorType), now), here, []⟩) ∧
    Act.Ends (perform vars ledger uses) state fun result after =>
      ∀ slot, ∃ raws, List.Forall₂ Section.EndsWith (storedAt slot result.1) raws ∧
        (vars.WritesWhole quiet →
          Logged ((vars.directory state).get slot) raws ((vars.directory after).get slot)) ∧
        Identifies slot (raws.map FaultAddress.decode) := by
  refine ⟨fun processor errorType hbit => ?_, fun _ _ _ _ _ => Slot.ofPair_injective,
    fun now s fault here hfault hslot => run_record_unslotted vars now hfault hslot here, ?_⟩
  · have htype : errorType.toNat ≤ 1 := hbit
    rw [Slot.exists_ofPair_iff]
    change _ ↔ processor.toNat ≤ 3
    omega
  · refine (perform_ends hfaithful uses ledger ⟨hquiet, rfl⟩).mono ?_
    rintro ⟨answers, last⟩ after ⟨directory, hperformed, -, rfl⟩ slot
    obtain ⟨raws, hrouted, hlogged⟩ := hperformed.logged slot
    have hends := hrouted.imp fun _ _ h => Section.rawFault_eq_some_iff.mp h.1
    refine ⟨raws, hends, hlogged, identifies_of_ofFault fun fault hfault => ?_⟩
    obtain ⟨raw, hraw, rfl⟩ := List.mem_map.mp hfault
    exact ofFault_of_forall₂_routed hrouted hraw

/-- Faults of three pairs, each in its own slot. -/
theorem perform_identifies_machine :
    let vars := Machine.variableStore "/efi"
    let machine : Machine := { files := ⟨[(["efi"], .directory)]⟩ }
    let uses : List Use :=
      [.record (.ofHeader [] [1, 0]), .record (.ofHeader [] [3, 0x40000]),
       .record (.ofHeader [] [1, 0x40000])]
    machine.script.sabotage = false ∧
      (∃ slot, Slot.ofPair 3 1 = .ok slot) ∧
      Act.Ends (perform vars ⟨64, 0⟩ uses) machine fun result after =>
        ∀ slot, ∃ raws, List.Forall₂ Section.EndsWith (storedAt slot result.1) raws ∧
          Logged ((vars.directory machine).get slot) raws ((vars.directory after).get slot) ∧
          Identifies slot (raws.map FaultAddress.decode) := by
  obtain ⟨haccepts, -, -, hends⟩ :=
    perform_identifies (Machine.variableStore "/efi") _ (Machine.faithful_variableStore "/efi")
      ⟨64, 0⟩ [.record (.ofHeader [] [1, 0]), .record (.ofHeader [] [3, 0x40000]),
        .record (.ofHeader [] [1, 0x40000])] { files := ⟨[(["efi"], .directory)]⟩ } rfl
  refine ⟨rfl, (haccepts 3 1 (by decide)).mpr (by decide), hends.mono ?_⟩
  intro result after hkept slot
  obtain ⟨raws, hstored, hlogged, hidentifies⟩ := hkept slot
  exact ⟨raws, hstored, hlogged (Machine.serves_variableStore "/efi").whole, hidentifies⟩

/-- Processor 0 with error type 2 has the slot of processor 1 with error type 0, and a run
stores the faults of both in it. -/
theorem slot_shared :
    let fault : Section := .ofHeader [] [1, 0]
    let other : Section := .ofHeader [] [0, 0x80000]
    let empty : VariableDirectory := .present fun _ => none
    let ran := Act.run (perform plainStore ⟨64, 0⟩ [.record fault, .record other]) empty
    (Slot.ofPair 1 0 = .ok 2 ∧ Slot.ofPair 0 2 = .ok 2) ∧
    (fault.fault.map fun f => (f.processor, f.errorType)) = some (1, 0) ∧
    (other.fault.map fun f => (f.processor, f.errorType)) = some (0, 2) ∧
    ran.value = .ok ([.recorded fault (.ok 2), .recorded other (.ok 2)], ⟨64, 16⟩) ∧
    (ran.state.get 2).map Variable.size = some 24 := by
  refine ⟨⟨?_, ?_⟩, ?_, ?_, ?_, ?_⟩ <;> rfl

end Ledger

end MemoryRepair
