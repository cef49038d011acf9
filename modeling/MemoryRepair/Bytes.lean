/-!
Byte strings and the little-endian numbers inside them. A number of k bytes is
a base-256 numeral with its least significant digit first.
-/
namespace MemoryRepair

abbrev Bytes := List UInt8

namespace Bytes

/-- Whether there are at least n bytes. No byte after the first n is looked at. -/
def reaches : Bytes → Nat → Bool
  | _, 0 => true
  | [], _ + 1 => false
  | _ :: rest, n + 1 => reaches rest n

@[simp] theorem reaches_iff {bytes : Bytes} {n : Nat} :
    bytes.reaches n = true ↔ n ≤ bytes.length := by
  induction bytes generalizing n with
  | nil => cases n <;> simp [reaches]
  | cons b rest ih => cases n <;> simp [reaches, ih]

/-- The len bytes from start on, if they all exist. -/
def slice (bytes : Bytes) (start len : Nat) : Option Bytes :=
  if bytes.reaches (start + len) then some ((bytes.drop start).take len) else none

theorem slice_eq_some_iff {bytes piece : Bytes} {start len : Nat} :
    slice bytes start len = some piece ↔
      start + len ≤ bytes.length ∧ (bytes.drop start).take len = piece := by
  by_cases h : bytes.reaches (start + len) = true
  · rw [slice, if_pos h, Option.some.injEq]
    exact ⟨fun hpiece => ⟨reaches_iff.mp h, hpiece⟩, And.right⟩
  · rw [slice, if_neg h]
    exact ⟨fun hnone => (nomatch hnone), fun hpiece => absurd (reaches_iff.mpr hpiece.1) h⟩

theorem slice_of_le {bytes : Bytes} {start len : Nat} (h : start + len ≤ bytes.length) :
    slice bytes start len = some ((bytes.drop start).take len) :=
  slice_eq_some_iff.mpr ⟨h, rfl⟩

theorem slice_of_lt {bytes : Bytes} {start len : Nat} (h : bytes.length < start + len) :
    slice bytes start len = none := by
  refine Option.eq_none_iff_forall_ne_some.mpr fun piece hpiece => ?_
  exact absurd (slice_eq_some_iff.mp hpiece).1 (Nat.not_le.mpr h)

theorem length_of_slice {bytes piece : Bytes} {start len : Nat}
    (h : slice bytes start len = some piece) : piece.length = len := by
  obtain ⟨hreach, rfl⟩ := slice_eq_some_iff.mp h
  simp only [List.length_take, List.length_drop]
  omega

/-- A piece of a byte string is found where it stands. -/
theorem slice_append (before piece after : Bytes) :
    slice (before ++ (piece ++ after)) before.length piece.length = some piece := by
  refine slice_eq_some_iff.mpr ⟨?_, ?_⟩
  · simp only [List.length_append]
    omega
  · rw [List.drop_left, List.take_left]

theorem slice_append_left (piece after : Bytes) :
    slice (piece ++ after) 0 piece.length = some piece :=
  slice_append [] piece after

/-- The chunks of width bytes, a shorter rest left out. -/
def chunks (width : Nat) (bytes : Bytes) : List Bytes :=
  if _h : 0 < width ∧ (bytes.take width).length = width then
    bytes.take width :: chunks width (bytes.drop width)
  else []
termination_by bytes.length
decreasing_by
  simp only [List.length_take] at _h
  simp only [List.length_drop]
  omega

theorem chunks_of_short {width : Nat} {bytes : Bytes} (h : bytes.length < width) :
    chunks width bytes = [] := by
  rw [chunks]
  have hlen : (bytes.take width).length ≠ width := by
    rw [List.length_take]
    omega
  exact dif_neg fun hboth => hlen hboth.2

theorem chunks_step {width : Nat} {bytes : Bytes} (hpos : 0 < width) (h : width ≤ bytes.length) :
    chunks width bytes = bytes.take width :: chunks width (bytes.drop width) := by
  have hlen : (bytes.take width).length = width := by
    rw [List.length_take]
    omega
  rw [chunks, dif_pos ⟨hpos, hlen⟩]

theorem chunks_append {width : Nat} {piece : Bytes} (hpos : 0 < width)
    (hpiece : piece.length = width) (rest : Bytes) :
    chunks width (piece ++ rest) = piece :: chunks width rest := by
  rw [chunks_step hpos (by simp [hpiece]), List.take_left' hpiece, List.drop_left' hpiece]

/-- Pieces of one width are the chunks of what they make together, whatever shorter rest
follows them. -/
theorem chunks_flatMap_append {α : Type} {width : Nat} {piece : α → Bytes}
    (hpiece : ∀ a, (piece a).length = width) (items : List α) {tail : Bytes}
    (htail : tail.length < width) :
    chunks width (items.flatMap piece ++ tail) = items.map piece := by
  induction items with
  | nil => exact chunks_of_short htail
  | cons item rest ih =>
    rw [List.flatMap_cons, List.append_assoc,
      chunks_append (Nat.zero_lt_of_lt htail) (hpiece item), ih, List.map_cons]

theorem chunks_flatMap {α : Type} {width : Nat} (hpos : 0 < width) {piece : α → Bytes}
    (hpiece : ∀ a, (piece a).length = width) (items : List α) :
    chunks width (items.flatMap piece) = items.map piece := by
  rw [← List.append_nil (items.flatMap piece)]
  exact chunks_flatMap_append hpiece items hpos

theorem length_of_mem_chunks {width : Nat} {bytes chunk : Bytes} (hpos : 0 < width)
    (h : chunk ∈ chunks width bytes) : chunk.length = width := by
  by_cases hlong : width ≤ bytes.length
  · rw [chunks_step hpos hlong] at h
    rcases List.mem_cons.mp h with rfl | hrest
    · rw [List.length_take, Nat.min_eq_left hlong]
    · exact length_of_mem_chunks hpos hrest
  · rw [chunks_of_short (Nat.lt_of_not_le hlong)] at h
    exact absurd h List.not_mem_nil
termination_by bytes.length
decreasing_by
  rw [List.length_drop]
  omega

/-- The chunks joined are the bytes without the rest that fills no chunk. -/
theorem flatten_chunks (width : Nat) (bytes : Bytes) (hpos : 0 < width) :
    (chunks width bytes).flatten = bytes.take (width * (bytes.length / width)) := by
  by_cases h : width ≤ bytes.length
  · rw [chunks_step hpos h, List.flatten_cons, flatten_chunks width (bytes.drop width) hpos,
      List.length_drop, ← List.take_add]
    have hcount : bytes.length / width = (bytes.length - width) / width + 1 :=
      Nat.div_eq_sub_div hpos h
    rw [hcount, Nat.mul_add, Nat.mul_one, Nat.add_comm]
  · have hshort : bytes.length < width := Nat.lt_of_not_le h
    rw [chunks_of_short hshort, Nat.div_eq_of_lt hshort]
    rfl
termination_by bytes.length
decreasing_by
  rw [List.length_drop]
  omega

end Bytes

namespace LittleEndian

def encode : Nat → Nat → Bytes
  | 0, _ => []
  | width + 1, n => UInt8.ofNat n :: encode width (n / 256)

def decode : Bytes → Nat
  | [] => 0
  | b :: rest => b.toNat + 256 * decode rest

/-- How many numbers have a numeral of so many bytes. -/
def limit : Nat → Nat
  | 0 => 1
  | width + 1 => 256 * limit width

@[simp] theorem length_encode (width n : Nat) : (encode width n).length = width := by
  induction width generalizing n with
  | zero => rfl
  | succ width ih => simp [encode, ih]

theorem decode_lt (bytes : Bytes) : decode bytes < limit bytes.length := by
  induction bytes with
  | nil => exact Nat.zero_lt_one
  | cons b rest ih =>
    have hb := b.toNat_lt
    simp only [decode, List.length_cons, limit]
    omega

theorem decode_encode (width n : Nat) : decode (encode width n) = n % limit width := by
  induction width generalizing n with
  | zero => exact (Nat.mod_one n).symm
  | succ width ih =>
    have hb : (UInt8.ofNat n).toNat = n % 256 := by simp
    rw [encode, decode, ih, hb, limit, Nat.mod_mul]

theorem encode_decode (bytes : Bytes) : encode bytes.length (decode bytes) = bytes := by
  induction bytes with
  | nil => rfl
  | cons b rest ih =>
    have hb := b.toNat_lt
    have hhead : UInt8.ofNat (b.toNat + 256 * decode rest) = b := by
      apply UInt8.toNat_inj.mp
      simp only [UInt8.toNat_ofNat', Nat.reducePow]
      omega
    have htail : (b.toNat + 256 * decode rest) / 256 = decode rest := by omega
    simp only [List.length_cons, encode, decode, hhead, htail, ih]

def ofWord16 (w : UInt16) : Bytes := encode 2 w.toNat
def ofWord32 (w : UInt32) : Bytes := encode 4 w.toNat
def ofWord64 (w : UInt64) : Bytes := encode 8 w.toNat

def toWord16 (bytes : Bytes) : UInt16 := UInt16.ofNat (decode bytes)
def toWord32 (bytes : Bytes) : UInt32 := UInt32.ofNat (decode bytes)
def toWord64 (bytes : Bytes) : UInt64 := UInt64.ofNat (decode bytes)

theorem toWord16_ofWord16 (w : UInt16) : toWord16 (ofWord16 w) = w := by
  apply UInt16.toNat_inj.mp
  have h := w.toNat_lt
  simp only [toWord16, ofWord16, decode_encode, limit, UInt16.toNat_ofNat']
  omega

theorem toWord32_ofWord32 (w : UInt32) : toWord32 (ofWord32 w) = w := by
  apply UInt32.toNat_inj.mp
  have h := w.toNat_lt
  simp only [toWord32, ofWord32, decode_encode, limit, UInt32.toNat_ofNat']
  omega

theorem toWord64_ofWord64 (w : UInt64) : toWord64 (ofWord64 w) = w := by
  apply UInt64.toNat_inj.mp
  have h := w.toNat_lt
  simp only [toWord64, ofWord64, decode_encode, limit, UInt64.toNat_ofNat']
  omega

theorem encode_decode_of_length {bytes : Bytes} {width : Nat} (h : bytes.length = width) :
    decode bytes < limit width ∧ encode width (decode bytes) = bytes := by
  subst h
  exact ⟨decode_lt bytes, encode_decode bytes⟩

theorem ofWord16_toWord16 {bytes : Bytes} (h : bytes.length = 2) :
    ofWord16 (toWord16 bytes) = bytes := by
  obtain ⟨hlt, hencode⟩ := encode_decode_of_length h
  have hvalue : (toWord16 bytes).toNat = decode bytes :=
    UInt16.toNat_ofNat'.trans (Nat.mod_eq_of_lt hlt)
  rw [ofWord16, hvalue, hencode]

theorem ofWord32_toWord32 {bytes : Bytes} (h : bytes.length = 4) :
    ofWord32 (toWord32 bytes) = bytes := by
  obtain ⟨hlt, hencode⟩ := encode_decode_of_length h
  have hvalue : (toWord32 bytes).toNat = decode bytes :=
    UInt32.toNat_ofNat'.trans (Nat.mod_eq_of_lt hlt)
  rw [ofWord32, hvalue, hencode]

theorem ofWord64_toWord64 {bytes : Bytes} (h : bytes.length = 8) :
    ofWord64 (toWord64 bytes) = bytes := by
  obtain ⟨hlt, hencode⟩ := encode_decode_of_length h
  have hvalue : (toWord64 bytes).toNat = decode bytes :=
    UInt64.toNat_ofNat'.trans (Nat.mod_eq_of_lt hlt)
  rw [ofWord64, hvalue, hencode]

/-- The 32-bit number at an offset, if all its bytes exist. -/
def word32At (bytes : Bytes) (offset : Nat) : Option UInt32 :=
  (bytes.slice offset 4).map toWord32

theorem word32At_append (w : UInt32) (after : Bytes) :
    word32At (ofWord32 w ++ after) 0 = some w := by
  have hlength : (ofWord32 w).length = 4 := length_encode 4 w.toNat
  rw [word32At, ← hlength, Bytes.slice_append_left, Option.map_some, toWord32_ofWord32]

/-- What follows a number takes nothing away from it. -/
theorem word32At_append_of_some {bytes : Bytes} {w : UInt32} (h : word32At bytes 0 = some w)
    (more : Bytes) : word32At (bytes ++ more) 0 = some w := by
  obtain ⟨piece, hpiece, rfl⟩ := Option.map_eq_some_iff.mp h
  obtain ⟨hreach, hbytes⟩ := Bytes.slice_eq_some_iff.mp hpiece
  have hslice : Bytes.slice (bytes ++ more) 0 4 = some piece := by
    refine Bytes.slice_eq_some_iff.mpr ⟨?_, ?_⟩
    · rw [List.length_append]
      omega
    · rw [List.drop_zero] at hbytes ⊢
      rw [List.take_append_of_le_length (by omega), hbytes]
  rw [word32At, hslice]
  rfl

theorem drop_ofWord32 (word : UInt32) (more : Bytes) : (ofWord32 word ++ more).drop 4 = more :=
  List.drop_left' (length_encode 4 word.toNat)

end LittleEndian

end MemoryRepair
