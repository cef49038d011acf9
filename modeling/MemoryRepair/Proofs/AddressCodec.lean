import Mathlib.Data.List.GetD
import MemoryRepair.Proofs.SlotIdentity

/-!
The packed address as a codec. A coordinate is the stretch of bits between its offset and
the offset of the next one, and the thirteen stretches fill the word. So the words and the
addresses whose coordinates fit their widths are in bijection; any other address is packed
as the one that is left when the bits beyond the widths are dropped.
-/
namespace MemoryRepair

theorem getD_unpack (bases : List Nat) (n i : Nat) (hi : i < bases.length) :
    (unpack bases n).getD i 0 = n / span (bases.take i) % bases.getD i 1 := by
  induction bases generalizing n i with
  | nil => cases hi
  | cons base bases ih =>
    cases i with
    | zero =>
      have hspan : span [] = 1 := rfl
      simp only [unpack, List.take_zero, hspan, Nat.div_one, List.getD_cons_zero]
    | succ i =>
      have hspan : span (base :: bases.take i) = base * span (bases.take i) := rfl
      simp only [unpack, List.take_succ_cons, List.getD_cons_succ, hspan]
      rw [ih (n / base) i (Nat.lt_of_succ_lt_succ hi), Nat.div_div_eq_div_mul]

theorem getD_unpack_lt {bases : List Nat} (hpos : ∀ base ∈ bases, 0 < base) (n i : Nat) :
    (unpack bases n).getD i 0 < bases.getD i 1 := by
  induction bases generalizing n i with
  | nil => exact Nat.one_pos
  | cons base bases ih =>
    cases i with
    | zero => exact Nat.mod_lt n (hpos base List.mem_cons_self)
    | succ i => exact ih (fun b hb => hpos b (List.mem_cons_of_mem _ hb)) (n / base) i

theorem pack_lt_span (bases digits : List Nat) (hpos : ∀ base ∈ bases, 0 < base) :
    pack bases digits < span bases := by
  induction bases generalizing digits with
  | nil => exact Nat.one_pos
  | cons base bases ih =>
    have hbase : 0 < base := hpos base List.mem_cons_self
    have hrest : ∀ b ∈ bases, 0 < b := fun b hb => hpos b (List.mem_cons_of_mem _ hb)
    have hspan : span (base :: bases) = base * span bases := rfl
    cases digits with
    | nil => exact hspan ▸ Nat.mul_pos hbase (Nat.zero_lt_of_lt (ih [] hrest))
    | cons digit digits =>
      have hdigit : digit % base < base := Nat.mod_lt _ hbase
      have htail : pack bases digits + 1 ≤ span bases := ih digits hrest
      calc pack (base :: bases) (digit :: digits)
          < base * pack bases digits + base := by rw [pack]; omega
        _ = base * (pack bases digits + 1) := (Nat.mul_succ _ _).symm
        _ ≤ span (base :: bases) := hspan ▸ Nat.mul_le_mul_left base htail

namespace FaultAddress

/-- How many bits a coordinate has. -/
def width (c : Coordinate) : Nat := (layout.lookup c).getD 0

/-- How many bits lie below a coordinate. -/
def offset (c : Coordinate) : Nat := ((layout.takeWhile (·.1 != c)).map (·.2)).sum

/-- The coordinates fit the widths they are packed with. -/
def Fits (fault : FaultAddress) : Prop :=
  ∀ entry ∈ layout, (fault.get entry.1).toNat < 2 ^ entry.2

instance (fault : FaultAddress) : Decidable fault.Fits :=
  inferInstanceAs (Decidable (∀ entry ∈ layout, (fault.get entry.1).toNat < 2 ^ entry.2))

/-- The address without the bits beyond the widths. -/
def reduced (fault : FaultAddress) : FaultAddress :=
  ofCoordinates fun c => UInt32.ofNat ((fault.get c).toNat % 2 ^ width c)

/-- Every coordinate stands in the layout, with its width. -/
theorem layout_place (c : Coordinate) :
    layout[layout.findIdx (·.1 == c)]? = some (c, width c) := by
  cases c <;> rfl

theorem width_of_mem {entry : Coordinate × Nat} (h : entry ∈ layout) :
    width entry.1 = entry.2 :=
  (by decide : ∀ entry ∈ layout, width entry.1 = entry.2) entry h

theorem fits_iff {fault : FaultAddress} :
    fault.Fits ↔ ∀ c, (fault.get c).toNat < 2 ^ width c := by
  constructor
  · intro h c
    exact h _ (List.mem_of_getElem? (layout_place c))
  · intro h entry hentry
    exact width_of_mem hentry ▸ h entry.1

theorem bases_place (c : Coordinate) :
    bases[layout.findIdx (·.1 == c)]? = some (2 ^ width c) := by
  rw [bases, List.getElem?_map, layout_place]
  exact congrArg some (Nat.one_shiftLeft _)

theorem span_take_place (c : Coordinate) :
    span (bases.take (layout.findIdx (·.1 == c))) = 2 ^ offset c := by
  cases c <;> rfl

theorem pow_width_le (c : Coordinate) : 2 ^ width c ≤ UInt32.size := by
  cases c <;> decide

theorem toNat_ofNat_mod_width (n : Nat) (c : Coordinate) :
    (UInt32.ofNat (n % 2 ^ width c)).toNat = n % 2 ^ width c := by
  have hlt : n % 2 ^ width c < 2 ^ width c := Nat.mod_lt _ (Nat.two_pow_pos _)
  exact UInt32.toNat_ofNat_of_lt' (Nat.lt_of_lt_of_le hlt (pow_width_le c))

theorem toNat_get_reduced (fault : FaultAddress) (c : Coordinate) :
    (fault.reduced.get c).toNat = (fault.get c).toNat % 2 ^ width c := by
  rw [reduced, get_ofCoordinates, toNat_ofNat_mod_width]

theorem ext_get {fault other : FaultAddress}
    (h : ∀ c, (fault.get c).toNat = (other.get c).toNat) : fault = other := by
  have hget : ∀ c, fault.get c = other.get c := fun c => UInt32.toNat_inj.mp (h c)
  cases fault
  cases other
  simp only [mk.injEq]
  exact ⟨hget .processor, hget .die, hget .stack, hget .sid, hget .channel, hget .bankGroup,
    hget .bank, hget .row, hget .column, hget .errorType, hget .repairType, hget .reserved,
    hget .crc8⟩

theorem reduced_eq_self_iff {fault : FaultAddress} : fault.reduced = fault ↔ fault.Fits := by
  rw [fits_iff]
  constructor
  · intro h c
    rw [← h, toNat_get_reduced]
    exact Nat.mod_lt _ (Nat.two_pow_pos _)
  · intro h
    exact ext_get fun c => (toNat_get_reduced fault c).trans (Nat.mod_eq_of_lt (h c))

/-- A coordinate is the stretch of bits at its offset. -/
theorem toNat_get_decode (raw : UInt64) (c : Coordinate) :
    ((decode raw).get c).toNat = raw.toNat >>> offset c % 2 ^ width c := by
  obtain ⟨hplace, -⟩ := List.getElem?_eq_some_iff.mp (bases_place c)
  have hbase : bases.getD (layout.findIdx (·.1 == c)) 1 = 2 ^ width c := by
    rw [List.getD_eq_getElem?_getD, bases_place, Option.getD_some]
  have hdigit := getD_unpack bases raw.toNat _ hplace
  rw [hbase, span_take_place, ← Nat.shiftRight_eq_div_pow] at hdigit
  rw [decode, ofDigits, get_ofCoordinates, hdigit, toNat_ofNat_mod_width]

theorem decode_fits (raw : UInt64) : (decode raw).Fits := by
  rw [fits_iff]
  intro c
  rw [toNat_get_decode]
  exact Nat.mod_lt _ (Nat.two_pow_pos _)

theorem bases_getD_le (i : Nat) : bases.getD i 1 ≤ UInt32.size := by
  have hle : ∀ base ∈ bases, base ≤ UInt32.size := by decide
  by_cases hi : i < bases.length
  · rw [List.getD_eq_getElem _ _ hi]
    exact hle _ (List.getElem_mem hi)
  · rw [List.getD_eq_default _ _ (Nat.le_of_not_lt hi)]
    decide

/-- The coordinates of an unpacked word, in layout order, are its digits. -/
theorem toList_decode (raw : UInt64) :
    (decode raw).toList.map (·.toNat) = unpack bases raw.toNat := by
  have hlist : (decode raw).toList.map (·.toNat) =
      (List.range bases.length).map fun i =>
        (UInt32.ofNat ((unpack bases raw.toNat).getD i 0)).toNat := rfl
  rw [hlist]
  apply List.ext_getElem
  · simp
  · intro i hi hi'
    have hdigit : (unpack bases raw.toNat).getD i 0 < UInt32.size :=
      Nat.lt_of_lt_of_le (getD_unpack_lt bases_pos raw.toNat i) (bases_getD_le i)
    rw [List.getElem_map, List.getElem_range, UInt32.toNat_ofNat_of_lt' hdigit,
      List.getD_eq_getElem _ _ hi']

@[simp] theorem encode_decode (raw : UInt64) : encode (decode raw) = raw := by
  rw [encode, toList_decode, pack_unpack, span_bases]
  have hmod : raw.toNat % UInt64.size = raw.toNat := Nat.mod_eq_of_lt raw.toNat_lt
  rw [hmod, UInt64.ofNat_toNat]

@[simp] theorem decode_encode (fault : FaultAddress) : decode (encode fault) = fault.reduced := by
  apply ext_get
  intro c
  have hraw : (encode fault).toNat = pack bases (fault.toList.map (·.toNat)) :=
    UInt64.toNat_ofNat_of_lt' (span_bases ▸ pack_lt_span _ _ bases_pos)
  have hlength : (fault.toList.map (·.toNat)).length = bases.length := rfl
  have hdigit : (fault.toList.map (·.toNat))[layout.findIdx (·.1 == c)]? =
      some (fault.get c).toNat := by
    rw [List.getElem?_map, toList, List.getElem?_map, layout_place]
    rfl
  rw [toNat_get_reduced, decode, ofDigits, get_ofCoordinates, hraw,
    unpack_pack _ _ bases_pos hlength, List.getD_eq_getElem?_getD, List.getElem?_zipWith, hdigit,
    bases_place]
  exact toNat_ofNat_mod_width (fault.get c).toNat c

theorem toNat_encode_ofWords (low high : UInt32) :
    (encode (ofWords low high)).toNat = high.toNat * 2 ^ 32 + low.toNat := by
  rw [ofWords, encode_decode, toNat_joinWords, UInt32.size]
  omega

/-- The address at the end of a section is recovered from its coordinates, bit for bit. -/
theorem encode_fault_eq_some_iff {s : Section} {raw : UInt64} :
    s.fault.map encode = some raw ↔ s.EndsWith raw := by
  have hinverse : encode ∘ decode = id := funext encode_decode
  rw [Section.fault, Option.map_map, hinverse, Option.map_id_apply]
  exact Section.rawFault_eq_some_iff

/-- Unpacking takes the words to the addresses that fit, and packing is its inverse there;
elsewhere packing and unpacking drop the bits beyond the widths. The word of two registers
has the high one above the low one, and so has the word packed from a section's fault. -/
theorem encode_decode_bijection :
    (∀ raw : UInt64, (decode raw).Fits ∧ encode (decode raw) = raw) ∧
    (∀ fault : FaultAddress,
      decode (encode fault) = fault.reduced ∧ (decode (encode fault) = fault ↔ fault.Fits)) ∧
    (∀ low high : UInt32,
      (encode (ofWords low high)).toNat = high.toNat * 2 ^ 32 + low.toNat) ∧
    (∀ (s : Section) (raw : UInt64), s.fault.map encode = some raw ↔ s.EndsWith raw) := by
  refine ⟨fun raw => ⟨decode_fits raw, encode_decode raw⟩, fun fault => ?_,
    toNat_encode_ofWords, fun _ _ => encode_fault_eq_some_iff⟩
  have hreduced := decode_encode fault
  exact ⟨hreduced, hreduced ▸ reduced_eq_self_iff⟩

/-- A stack of four bits loses the highest of them. -/
example : (decode (encode { zero with stack := 9, sid := 7 })).stack = 1 := by decide

end FaultAddress

end MemoryRepair
