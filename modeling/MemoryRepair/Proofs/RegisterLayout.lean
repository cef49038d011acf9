import MemoryRepair.Proofs.IsolationThreshold
import MemoryRepair.Proofs.RecordEffect

/-!
The registers of a repair request. They are the request bits, then the words of each
address and of the fault, so that every register belongs to exactly one of these. A section
is accepted in a mode exactly if its registers can be read this way with as many addresses
as the mode has; the addresses and the fault are then unique, and they are what the repair
and the record use.
-/
namespace MemoryRepair

namespace FaultAddress

def lowWord (raw : UInt64) : UInt32 := raw.toUInt32

def highWord (raw : UInt64) : UInt32 := (raw >>> 32).toUInt32

/-- The two words of a 64-bit value, the low one first. -/
def splitWords (raw : UInt64) : List UInt32 := [lowWord raw, highWord raw]

theorem toNat_lowWord (raw : UInt64) : (lowWord raw).toNat = raw.toNat % UInt32.size :=
  UInt64.toNat_toUInt32 raw

theorem toNat_highWord (raw : UInt64) : (highWord raw).toNat = raw.toNat / UInt32.size := by
  have hlt : raw.toNat / UInt32.size < UInt32.size :=
    Nat.div_lt_of_lt_mul raw.toNat_lt_size
  have hshift : (raw >>> 32).toNat = raw.toNat / UInt32.size := by
    rw [UInt64.toNat_shiftRight, Nat.shiftRight_eq_div_pow]
    rfl
  rw [highWord, UInt64.toNat_toUInt32, hshift]
  exact Nat.mod_eq_of_lt hlt

theorem joinWords_splitWords (raw : UInt64) : joinWords (lowWord raw) (highWord raw) = raw := by
  refine UInt64.toNat_inj.mp ?_
  rw [toNat_joinWords, toNat_lowWord, toNat_highWord, Nat.add_comm]
  exact Nat.div_add_mod raw.toNat UInt32.size

theorem splitWords_joinWords (low high : UInt32) :
    splitWords (joinWords low high) = [low, high] := by
  have hlow : lowWord (joinWords low high) = low := by
    refine UInt32.toNat_inj.mp ?_
    rw [toNat_lowWord, toNat_joinWords, Nat.add_mul_mod_self_left]
    exact Nat.mod_eq_of_lt low.toNat_lt_size
  have hhigh : highWord (joinWords low high) = high := by
    refine UInt32.toNat_inj.mp ?_
    rw [toNat_highWord, toNat_joinWords, Nat.add_mul_div_left _ _ (by decide),
      Nat.div_eq_of_lt low.toNat_lt_size, Nat.zero_add]
  rw [splitWords, hlow, hhigh]

/-- Registers in pairs are the words of some values. -/
theorem exists_flatMap_splitWords {words : List UInt32} {n : Nat} (h : words.length = 2 * n) :
    ∃ raws : List UInt64, raws.length = n ∧ raws.flatMap splitWords = words := by
  induction n generalizing words with
  | zero => exact ⟨[], rfl, (List.eq_nil_of_length_eq_zero h).symm⟩
  | succ n ih =>
    match words, h with
    | low :: high :: rest, h =>
      have hrest : rest.length = 2 * n := by simpa [Nat.mul_succ] using h
      obtain ⟨raws, hlength, hwords⟩ := ih hrest
      refine ⟨joinWords low high :: raws, congrArg (· + 1) hlength, ?_⟩
      rw [List.flatMap_cons, splitWords_joinWords, hwords]
      rfl

theorem length_flatMap_splitWords (raws : List UInt64) :
    (raws.flatMap splitWords).length = 2 * raws.length := by
  induction raws with
  | nil => rfl
  | cons raw rest ih =>
    rw [List.flatMap_cons, List.length_append, ih, List.length_cons]
    simp only [splitWords, List.length_cons, List.length_nil]
    omega

/-- The words of the value with some number stand at twice the number. -/
theorem getElem?_flatMap_splitWords (raws : List UInt64) (i : Nat) :
    (raws.flatMap splitWords)[2 * i]? = raws[i]?.map lowWord ∧
      (raws.flatMap splitWords)[2 * i + 1]? = raws[i]?.map highWord := by
  induction raws generalizing i with
  | nil => exact ⟨rfl, rfl⟩
  | cons raw rest ih =>
    cases i with
    | zero => exact ⟨rfl, rfl⟩
    | succ i => exact ih i

end FaultAddress

namespace Mode

theorem mem_all (mode : Mode) : mode ∈ all := by
  cases mode <;> decide

theorem registerCount_injective {mode other : Mode}
    (h : other.registerCount = mode.registerCount) : other = mode := by
  cases other <;> cases mode <;> cases h <;> rfl

end Mode

namespace Section

open FaultAddress

/-- The registers of a request: the request bits, the addresses and the fault. -/
def layout (register : UInt32) (addresses : List UInt64) (fault : UInt64) : List UInt32 :=
  register :: (addresses.flatMap splitWords ++ splitWords fault)

/-- The section asks for a repair in the mode, with the given contents of its registers. -/
structure Requests (s : Section) (mode : Mode) (register : UInt32) (addresses : List UInt64)
    (fault : UInt64) : Prop where
  valid_bits : s.validBits &&& requiredBits = requiredBits
  module_id : s.moduleId = moduleCode
  submodule_id : s.submoduleId = submoduleCode
  request_bit : register &&& 0xFF &&& mode.requestBits ≠ 0
  address_count : addresses.length = mode.addressCount
  registers_eq : s.registers = layout register addresses fault

section Layout

variable {s : Section} {register : UInt32} {addresses : List UInt64} {fault : UInt64}

theorem layout_eq_cons : layout register addresses fault =
    register :: (addresses ++ [fault]).flatMap splitWords := by
  rw [layout, List.flatMap_append, List.flatMap_singleton]

theorem length_layout :
    (layout register addresses fault).length = 1 + 2 * addresses.length + 2 := by
  rw [layout_eq_cons, List.length_cons, length_flatMap_splitWords, List.length_append]
  simp only [List.length_singleton]
  omega

/-- Any registers of the right number are a layout. -/
theorem exists_layout {registers : List UInt32} {n : Nat} (h : registers.length = 1 + 2 * n + 2) :
    ∃ register addresses fault, addresses.length = n ∧
      registers = layout register addresses fault := by
  cases registers with
  | nil =>
    rw [List.length_nil] at h
    omega
  | cons register rest =>
    have hrest : rest.length = 2 * (n + 1) := by
      rw [List.length_cons] at h
      omega
    obtain ⟨raws, hlength, rfl⟩ := exists_flatMap_splitWords hrest
    rcases List.eq_nil_or_concat raws with rfl | ⟨addresses, fault, rfl⟩
    · cases hlength
    · refine ⟨register, addresses, fault, by simpa using hlength, ?_⟩
      rw [List.concat_eq_append, layout_eq_cons]

/-- The pair of registers with a number holds the value with this number, the fault last. -/
theorem addressAt_layout (h : s.registers = layout register addresses fault) (i : Nat) :
    s.addressAt i = (addresses ++ [fault])[i]? := by
  have hpair := getElem?_flatMap_splitWords (addresses ++ [fault]) i
  have hlow : s.registers[1 + 2 * i]? = (addresses ++ [fault])[i]?.map lowWord := by
    rw [h, layout_eq_cons, Nat.add_comm, List.getElem?_cons_succ]
    exact hpair.1
  have hhigh : s.registers[2 + 2 * i]? = (addresses ++ [fault])[i]?.map highWord := by
    rw [h, layout_eq_cons, Nat.add_comm, List.getElem?_cons_succ]
    exact hpair.2
  rw [addressAt, hlow, hhigh]
  cases (addresses ++ [fault])[i]? with
  | none => rfl
  | some raw => exact congrArg some (joinWords_splitWords raw)

theorem filterMap_range_getElem? (raws more : List UInt64) :
    (List.range raws.length).filterMap (fun i => (raws ++ more)[i]?) = raws := by
  induction raws with
  | nil => rfl
  | cons raw rest ih =>
    rw [List.length_cons, List.range_succ_eq_map, List.filterMap_cons, List.filterMap_map]
    exact congrArg (raw :: ·) ih

/-- All addresses are read back, in order. -/
theorem addresses_layout {mode : Mode} (h : s.registers = layout register addresses fault)
    (hcount : addresses.length = mode.addressCount) : s.addresses mode = addresses := by
  rw [Section.addresses, ← hcount, funext (addressAt_layout h)]
  exact filterMap_range_getElem? addresses [fault]

theorem rawFault_layout (h : s.registers = layout register addresses fault) :
    s.rawFault = some fault := by
  refine rawFault_eq_some_iff.mpr ⟨register :: addresses.flatMap splitWords, _, _, h, ?_⟩
  rw [← toNat_joinWords, joinWords_splitWords]

end Layout

section Validation

variable {s : Section} {mode : Mode}

theorem asksFor_iff : s.asksFor mode = true ↔
    s.repairType &&& mode.requestBits ≠ 0 ∧ s.registers.length = mode.registerCount := by
  rw [asksFor, Bool.and_eq_true, bne_iff_ne, beq_iff_eq]

/-- The number of registers tells the mode. -/
theorem asksFor_unique {other : Mode} (h : s.asksFor mode = true)
    (hother : s.asksFor other = true) : other = mode :=
  Mode.registerCount_injective ((asksFor_iff.mp hother).2.symm.trans (asksFor_iff.mp h).2)

/-- In a table with all modes, whatever its order, the mode of a request is found. -/
theorem find?_asksFor_eq_some_iff {table : List Mode} (htable : mode ∈ table) :
    table.find? s.asksFor = some mode ↔ s.asksFor mode = true := by
  refine ⟨List.find?_some, fun h => ?_⟩
  cases hfind : table.find? s.asksFor with
  | none => exact absurd h (List.find?_eq_none.mp hfind mode htable)
  | some other => rw [asksFor_unique h (List.find?_some hfind)]

theorem find?_asksFor_of_perm {table : List Mode} (h : table.Perm Mode.all) :
    table.find? s.asksFor = Mode.all.find? s.asksFor := by
  refine Option.ext fun mode => ?_
  have htable : mode ∈ table := h.mem_iff.mpr (Mode.mem_all mode)
  rw [find?_asksFor_eq_some_iff htable, find?_asksFor_eq_some_iff (Mode.mem_all mode)]

/-- A section is accepted if it is one of its module and asks for the mode. -/
theorem validate_eq_ok_iff : s.validate = .ok mode ↔
    s.validBits &&& requiredBits = requiredBits ∧ s.moduleId = moduleCode ∧
      s.submoduleId = submoduleCode ∧ s.asksFor mode = true := by
  have hfound := find?_asksFor_eq_some_iff (s := s) (Mode.mem_all mode)
  unfold validate
  constructor
  · intro h
    split at h
    · cases h
    split at h
    · cases h
    · next hbits hmodule =>
      rw [not_or, Decidable.not_not, Decidable.not_not] at hmodule
      split at h
      · cases h
      · next found hfind =>
        cases h
        exact ⟨Decidable.not_not.mp hbits, hmodule.1, hmodule.2, List.find?_some hfind⟩
  · rintro ⟨hbits, hmodule, hsubmodule, hasks⟩
    rw [if_neg (by simp [hbits]), if_neg (by simp [hmodule, hsubmodule]), hfound.mpr hasks]

theorem validate_eq_ok_iff_requests : s.validate = .ok mode ↔
    ∃ register addresses fault, s.Requests mode register addresses fault := by
  rw [validate_eq_ok_iff, asksFor_iff]
  constructor
  · rintro ⟨hbits, hmodule, hsubmodule, hbit, hcount⟩
    obtain ⟨register, addresses, fault, hlength, hregisters⟩ := exists_layout hcount
    refine ⟨register, addresses, fault, hbits, hmodule, hsubmodule, ?_, hlength, hregisters⟩
    rwa [repairType, hregisters] at hbit
  · rintro ⟨register, addresses, fault, h⟩
    refine ⟨h.valid_bits, h.module_id, h.submodule_id, ?_, ?_⟩
    · rw [repairType, h.registers_eq]
      exact h.request_bit
    · rw [h.registers_eq, length_layout, h.address_count]
      rfl

end Validation

section Requests

variable {s : Section} {mode : Mode} {register : UInt32} {addresses : List UInt64}
  {fault : UInt64}

theorem Requests.validate_eq (h : s.Requests mode register addresses fault) :
    s.validate = .ok mode :=
  validate_eq_ok_iff_requests.mpr ⟨register, addresses, fault, h⟩

theorem Requests.addresses_eq (h : s.Requests mode register addresses fault) :
    s.addresses mode = addresses :=
  addresses_layout h.registers_eq h.address_count

theorem Requests.rawFault_eq (h : s.Requests mode register addresses fault) :
    s.rawFault = some fault :=
  rawFault_layout h.registers_eq

theorem Requests.unique (h : s.Requests mode register addresses fault) {other : Mode}
    {register' : UInt32} {addresses' : List UInt64} {fault' : UInt64}
    (h' : s.Requests other register' addresses' fault') :
    other = mode ∧ register' = register ∧ addresses' = addresses ∧ fault' = fault := by
  have hmode : other = mode := Except.ok.inj (h'.validate_eq.symm.trans h.validate_eq)
  subst hmode
  refine ⟨rfl, ?_, h'.addresses_eq.symm.trans h.addresses_eq,
    Option.some.inj (h'.rawFault_eq.symm.trans h.rawFault_eq)⟩
  exact (List.cons.inj (h'.registers_eq.symm.trans h.registers_eq)).1

end Requests

end Section

namespace Ledger

variable {σ : Type} (vars : VariableStore σ)

/-- The ledger's answers to what the system refuses are not its own failures. -/
theorem reported_ne_internal (act : Act σ (Except IoError Unit)) (state : σ) :
    (Act.run (reported act) state).value ≠ .ok (.error .internal) := by
  intro h
  cases hvalue : (act.run state).value with
  | error overflow =>
    rw [reported, Act.run_bind_error hvalue] at h
    cases h
  | ok answer =>
    rw [reported, Act.run_bind_ok hvalue] at h
    cases answer <;> cases h

theorem append_ne_internal (slot : Slot) (raw : UInt64) (state : σ) :
    (Act.run (append vars slot raw) state).value ≠ .ok (.error .internal) := by
  cases hget : (vars.directory state).get slot with
  | none =>
    rw [run_append_absent raw hget]
    exact reported_ne_internal _ state
  | some v =>
    cases hread : v.read with
    | error err =>
      rw [run_append_unread raw hget hread]
      exact nofun
    | ok content =>
      obtain rfl := Variable.eq_file_of_read hread
      cases hattributes : attributes? content with
      | none =>
        rw [run_append_short raw hget hattributes]
        exact nofun
      | some attributes =>
        rw [run_append_file raw hget hattributes]
        exact reported_ne_internal _ state

/-- The record of a section that has an address never fails for want of one. -/
theorem record_ne_internal {s : Section} {raw : UInt64} (hraw : s.rawFault = some raw)
    (ledger last : Ledger) (state : σ) :
    (Act.run (record vars ledger s) state).value ≠ .ok (.error .internal, last) := by
  cases records vars ledger s with
  | unrouted failure hrefused hother heq =>
    rw [heq]
    rintro ⟨⟩
    have hslot := hrefused raw hraw
    unfold Slot.ofFault Slot.ofPair at hslot
    split at hslot <;> cases hslot
  | overflown hrouted hover heq =>
    rw [heq, Act.run_checked]
    exact nofun
  | full hrouted hgrow hfull heq =>
    rw [heq]
    exact nofun
  | @kept raw slot hrouted hfits heq =>
    rw [heq]
    intro h
    have hother := append_ne_internal vars slot raw state
    cases hvalue : (Act.run (append vars slot raw) state).value with
    | error overflow =>
      rw [keep, Act.run_bind_error hvalue] at h
      cases h
    | ok answer =>
      rw [keep, Act.run_bind_ok hvalue] at h
      cases answer with
      | error failure =>
        cases h
        exact hother hvalue
      | ok => cases h

end Ledger

namespace Repair

variable {σ δ : Type}

/-- The pages that a run takes offline are as many as it counts against the threshold, or
it takes none. -/
structure IsolatesAll (platform : Platform σ δ) (threshold : UInt64) (s : Section) (mode : Mode)
    (state : σ) (ran : Ran σ (Option Outcome)) : Prop where
  accounted : (requiredKb mode).toNat = pageSizeKb.toNat * (s.addresses mode).length
  allowed : Allows threshold mode (platform.corrupted state).value →
    ran.calls.filterMap (PlatformCall.paged? .offline) = s.addresses mode
  denied : ¬ Allows threshold mode (platform.corrupted state).value →
    ran.calls.filterMap (PlatformCall.paged? .offline) = []

theorem run_isolatesAll (platform : Platform σ δ) (notifier : Notifier σ) (threshold : UInt64)
    {s : Section} {mode : Mode} {register : UInt32} {addresses : List UInt64} {fault : UInt64}
    (h : s.Requests mode register addresses fault) (state : σ) :
    IsolatesAll platform threshold s mode state
      (Act.run (run platform notifier threshold s mode) state) := by
  have haccounted : (requiredKb mode).toNat = pageSizeKb.toNat * (s.addresses mode).length := by
    rw [toNat_requiredKb, h.addresses_eq, h.address_count]
    rfl
  cases hmode : RepairCommand.ofMode mode with
  | none =>
    -- Cache mode has no pages and makes no request.
    obtain rfl : mode = .cache := by cases mode <;> trivial
    exact ⟨haccounted, fun _ => rfl, fun _ => rfl⟩
  | some commands =>
    obtain ⟨talk, result, hcourse, hholds, -⟩ :=
      holds_attempt platform threshold s mode commands state
    obtain ⟨answer, rest, rfl, hall, hnone⟩ := hcourse.offline
    have hanswer := corrupted_eq_of_converses hholds.answered
    refine ⟨haccounted, fun hallows => ?_, fun hdenied => ?_⟩
    · rw [hanswer] at hallows
      rw [paged_calls_run notifier hmode hholds, hall hallows]
    · rw [hanswer] at hdenied
      rw [paged_calls_run notifier hmode hholds, hnone hdenied]

end Repair

namespace Section

/-- A section is accepted in a mode exactly if its registers are laid out for the mode. What
they hold is then unique, it is read back whole, and no other mode is possible, so that the
order in which the modes are tried does not matter. The record of such a section has its
address, and a repair has all of its pages. -/
theorem validate_iff_layout (s : Section) (mode : Mode) :
    (s.validate = .ok mode ↔
      ∃ register addresses fault, s.Requests mode register addresses fault) ∧
    (∀ register addresses fault, s.Requests mode register addresses fault →
      s.addresses mode = addresses ∧ s.rawFault = some fault ∧
      ∀ other register' addresses' fault', s.Requests other register' addresses' fault' →
        other = mode ∧ register' = register ∧ addresses' = addresses ∧ fault' = fault) ∧
    (∀ table : List Mode, table.Perm Mode.all →
      table.find? s.asksFor = Mode.all.find? s.asksFor) ∧
    (s.validate = .ok mode → ∀ {σ δ : Type} (vars : VariableStore σ) (ledger last : Ledger)
      (platform : Platform σ δ) (notifier : Notifier σ) (threshold : UInt64) (state : σ),
      (Act.run (Ledger.record vars ledger s) state).value ≠ .ok (.error .internal, last) ∧
      Repair.IsolatesAll platform threshold s mode state
        (Act.run (Repair.run platform notifier threshold s mode) state)) := by
  refine ⟨validate_eq_ok_iff_requests, ?_, fun table => find?_asksFor_of_perm, ?_⟩
  · intro register addresses fault h
    exact ⟨h.addresses_eq, h.rawFault_eq, fun _ _ _ _ => h.unique⟩
  · intro hvalid σ δ vars ledger last platform notifier threshold state
    obtain ⟨register, addresses, fault, h⟩ := validate_eq_ok_iff_requests.mp hvalid
    exact ⟨Ledger.record_ne_internal vars h.rawFault_eq ledger last state,
      Repair.run_isolatesAll platform notifier threshold h state⟩

/-- A page and a fault that both need their high words, with the modes tried backwards. -/
theorem validate_iff_layout_highWords :
    let s : Section := { Repair.onePage with registers := [3, 0x1000, 7, 5, 9] }
    let handler := Handler.plain 8
    let empty : VariableDirectory := .present fun _ => none
    s.Requests .acls 3 [0x700001000] 0x900000005 ∧ s.validate = .ok .acls ∧
    s.addresses .acls = [0x700001000] ∧ s.rawFault = some 0x900000005 ∧
    [Mode.cache, .sppr, .acls].Perm Mode.all ∧
    [Mode.cache, .sppr, .acls].find? s.asksFor = Mode.all.find? s.asksFor ∧
    (Act.run (Ledger.record handler.vars ⟨64, 0⟩ s) empty).value ≠
      .ok (.error .internal, ⟨64, 0⟩) ∧
    Repair.IsolatesAll handler.platform 64 s .acls empty
      (Act.run (Repair.run handler.platform .silent 64 s .acls) empty) := by
  intro s handler empty
  have h : s.Requests .acls 3 [0x700001000] 0x900000005 :=
    ⟨by decide, rfl, rfl, by decide, rfl, rfl⟩
  have htable : [Mode.cache, .sppr, .acls].Perm Mode.all := by decide
  obtain ⟨hvalid, hread, horder, hused⟩ := validate_iff_layout s .acls
  have haccepted := hvalid.mpr ⟨_, _, _, h⟩
  obtain ⟨haddresses, hraw, -⟩ := hread _ _ _ h
  exact ⟨h, haccepted, haddresses, hraw, htable, horder _ htable,
    hused haccepted handler.vars ⟨64, 0⟩ ⟨64, 0⟩ handler.platform .silent 64 empty⟩

end Section

end MemoryRepair
