import Mathlib.Algebra.GroupWithZero.Nat
import MemoryRepair.Proofs.SectionCodec

/-!
Which bytes are a section, and what is written for it again. A section stands at the
front of the bytes if the header is whole, the size that it states is one of whole
registers, and so many bytes follow the header. Written again it gives these bytes, with
the places that carry nothing for a repair set to zero. No shorter front of a written
section is a section.
-/
namespace MemoryRepair.Section

/-- The size of the register array, as the header states it. -/
def statedSize (bytes : Bytes) : Nat :=
  LittleEndian.decode ((bytes.drop 28).take 4)

/-- The header is whole, and the registers whose size it states follow it. -/
structure Whole (bytes : Bytes) : Prop where
  header : headerSize ≤ bytes.length
  registers : statedSize bytes % 4 = 0
  array : headerSize + statedSize bytes ≤ bytes.length

/-- The places of the header that carry nothing for a repair. -/
def isUnused (place : Nat) : Bool :=
  (16 ≤ place && place ≤ 23) || (25 ≤ place && place ≤ 27)

def clearUnused (bytes : Bytes) : Bytes :=
  bytes.mapIdx fun place b => if isUnused place then 0 else b

/-- The registers behind the header, as many bytes as it states. -/
def statedArray (bytes : Bytes) : Bytes :=
  (bytes.drop headerSize).take (statedSize bytes)

/-- The section whose header and registers stand at the front of the bytes. -/
def front (bytes : Bytes) : Section :=
  ofHeader (bytes.take headerSize)
    (((statedArray bytes).chunks 4).map LittleEndian.toWord32)

theorem ofBytes_of_short {bytes : Bytes} (h : bytes.length < headerSize) :
    ofBytes bytes = .error .truncated := by
  have hsize : bytes.slice 28 4 = none := Bytes.slice_of_lt h
  unfold ofBytes
  rw [hsize]

/-- Behind a whole header the stated size decides. -/
theorem ofBytes_of_header {bytes : Bytes} (h : headerSize ≤ bytes.length) :
    ofBytes bytes =
      if statedSize bytes % 4 ≠ 0 then .error (.unaligned (statedSize bytes))
      else if headerSize + statedSize bytes ≤ bytes.length then .ok (front bytes)
      else .error .truncated := by
  have hsize : bytes.slice 28 4 = some ((bytes.drop 28).take 4) := Bytes.slice_of_le h
  have hstated : LittleEndian.decode ((bytes.drop 28).take 4) = statedSize bytes := rfl
  unfold ofBytes
  simp only [hsize, hstated]
  by_cases harray : headerSize + statedSize bytes ≤ bytes.length
  · have hslice : bytes.slice headerSize (statedSize bytes) = some (statedArray bytes) :=
      Bytes.slice_of_le harray
    simp only [hslice, if_pos harray]
    rfl
  · simp only [Bytes.slice_of_lt (Nat.lt_of_not_le harray), if_neg harray]

theorem ofBytes_eq_ok_iff {bytes : Bytes} {s : Section} :
    ofBytes bytes = .ok s ↔ Whole bytes ∧ front bytes = s := by
  by_cases hheader : headerSize ≤ bytes.length
  · rw [ofBytes_of_header hheader]
    constructor
    · intro h
      split at h
      · cases h
      · next hregisters =>
        split at h
        · next harray =>
          cases h
          exact ⟨⟨hheader, Decidable.not_not.mp hregisters, harray⟩, rfl⟩
        · cases h
    · rintro ⟨hwhole, rfl⟩
      rw [if_neg (Decidable.not_not.mpr hwhole.registers), if_pos hwhole.array]
  · rw [ofBytes_of_short (Nat.lt_of_not_le hheader)]
    constructor
    · intro h
      cases h
    · rintro ⟨hwhole, -⟩
      exact absurd hwhole.header hheader

theorem statedSize_toBytes {s : Section} (h : s.registers.length * 4 < UInt32.size) :
    statedSize s.toBytes = s.registers.length * 4 := by
  have hsize : (LittleEndian.encode 4 (s.registers.length * 4)).length = 4 :=
    LittleEndian.length_encode 4 _
  rw [statedSize, toBytes_eq, List.drop_left' (length_identityBytes s), List.take_left' hsize,
    LittleEndian.decode_encode]
  exact Nat.mod_eq_of_lt h

/-- A front with the whole header states the same size. -/
theorem statedSize_of_initial {before bytes : Bytes} (hinitial : before <+: bytes)
    (h : headerSize ≤ before.length) : statedSize before = statedSize bytes := by
  obtain ⟨after, rfl⟩ := hinitial
  have hdrop : 28 ≤ before.length := Nat.le_trans (by decide) h
  have htake : 4 ≤ (before.drop 28).length := by
    rw [List.length_drop]
    exact Nat.le_sub_of_add_le h
  rw [statedSize, statedSize, List.drop_append_of_le_length hdrop,
    List.take_append_of_le_length htake]

/-- A strict front of a written section ends before the registers that it states. -/
theorem ofBytes_of_cut {s : Section} {before : Bytes}
    (hregisters : s.registers.length * 4 < UInt32.size) (hinitial : before <+: s.toBytes)
    (hstrict : before ≠ s.toBytes) : ofBytes before = .error .truncated := by
  have hlength : before.length < headerSize + s.registers.length * 4 := by
    rw [headerSize, ← length_toBytes]
    exact Nat.lt_of_le_of_ne hinitial.length_le fun heq => hstrict (hinitial.eq_of_length heq)
  by_cases hheader : headerSize ≤ before.length
  · have hstated : statedSize before = s.registers.length * 4 :=
      (statedSize_of_initial hinitial hheader).trans (statedSize_toBytes hregisters)
    rw [ofBytes_of_header hheader, hstated, if_neg (by omega), if_neg (Nat.not_le.mpr hlength)]
  · exact ofBytes_of_short (Nat.lt_of_not_le hheader)

/-- A piece of a byte string, byte by byte. -/
theorem take_drop_eq_map {bytes : Bytes} {start len : Nat} (h : start + len ≤ bytes.length) :
    (bytes.drop start).take len = (List.range' start len).map (bytes.getD · 0) := by
  apply List.ext_getElem
  · simp only [List.length_take, List.length_drop, List.length_map, List.length_range']
    omega
  · intro i hi hrange
    have hbound : i < len := by simpa using hrange
    have hplace : start + i < bytes.length := by omega
    simp [List.getElem?_eq_getElem hplace]

/-- Words read in chunks of four bytes are written back as these bytes. -/
theorem flatMap_chunks {array : Bytes} (h : array.length % 4 = 0) :
    ((Bytes.chunks 4 array).map LittleEndian.toWord32).flatMap LittleEndian.ofWord32 = array := by
  have hword : ∀ chunk ∈ Bytes.chunks 4 array,
      LittleEndian.ofWord32 (LittleEndian.toWord32 chunk) = chunk := fun chunk hmem =>
    LittleEndian.ofWord32_toWord32 (Bytes.length_of_mem_chunks (by decide) hmem)
  have hchunks : (Bytes.chunks 4 array).map
      (fun chunk => LittleEndian.ofWord32 (LittleEndian.toWord32 chunk)) =
      Bytes.chunks 4 array := by
    rw [List.map_congr_left hword, List.map_id']
  rw [List.flatMap_map, List.flatMap_def, hchunks, Bytes.flatten_chunks 4 array (by decide),
    Nat.mul_div_cancel' (Nat.dvd_of_mod_eq_zero h), List.take_length]

/-- The header is written as it was read, the unused places apart. -/
theorem identityBytes_ofHeader {header : Bytes} (h : header.length = headerSize)
    (registers : List UInt32) :
    (ofHeader header registers).identityBytes ++ header.drop 28 = clearUnused header := by
  have hvalid : LittleEndian.ofWord32 (ofHeader header registers).validBits =
      (header.drop 0).take 4 :=
    LittleEndian.ofWord32_toWord32 (by simp [h, headerSize])
  have htype : LittleEndian.ofWord16 (ofHeader header registers).errType =
      (header.drop 14).take 2 :=
    LittleEndian.ofWord16_toWord16 (by simp [h, headerSize])
  have hsize : header.drop 28 = (header.drop 28).take 4 := by
    rw [List.take_of_length_le (by simp [h, headerSize])]
  have hall : clearUnused header =
      (List.range' 0 32).map fun i => if isUnused i then 0 else header.getD i 0 := by
    apply List.ext_getElem
    · simp [clearUnused, h, headerSize]
    · intro i hi hrange
      have hplace : i < header.length := by simpa [clearUnused] using hi
      simp [clearUnused, List.getElem?_eq_getElem hplace]
  rw [identityBytes, hvalid, htype, hsize, hall, take_drop_eq_map (by rw [h]; decide),
    take_drop_eq_map (by rw [h]; decide), take_drop_eq_map (by rw [h]; decide)]
  rfl

/-- No place behind the header is unused. -/
theorem clearUnused_append {header : Bytes} (h : header.length = headerSize) (array : Bytes) :
    clearUnused (header ++ array) = clearUnused header ++ array := by
  have harray : array.mapIdx (fun place b => if isUnused (place + header.length) then 0 else b) =
      array := by
    apply List.ext_getElem
    · rw [List.length_mapIdx]
    · intro i hi hbound
      have hused : isUnused (i + header.length) = false := by
        rw [h]
        simp [isUnused, headerSize]
      simp [hused]
  rw [clearUnused, List.mapIdx_append, harray]
  rfl

theorem toBytes_front {bytes : Bytes} (h : Whole bytes) :
    (front bytes).toBytes = clearUnused (bytes.take (headerSize + statedSize bytes)) := by
  have hheader : (bytes.take headerSize).length = headerSize := by
    rw [List.length_take, Nat.min_eq_left h.header]
  have harray : (statedArray bytes).length = statedSize bytes := by
    have hrest : statedSize bytes ≤ bytes.length - headerSize := Nat.le_sub_of_add_le' h.array
    rw [statedArray, List.length_take, List.length_drop, Nat.min_eq_left hrest]
  have hback : (front bytes).registers.flatMap LittleEndian.ofWord32 = statedArray bytes :=
    flatMap_chunks (by rw [harray, h.registers])
  have hcount : (front bytes).registers.length * 4 = statedSize bytes := by
    rw [← length_flatMap_ofWord32, hback, harray]
  have hsize : LittleEndian.encode 4 (statedSize bytes) = (bytes.take headerSize).drop 28 := by
    have hfour : ((bytes.drop 28).take 4).length = 4 := by
      have hlong := h.header
      simp only [headerSize] at hlong
      simp only [List.length_take, List.length_drop]
      omega
    have hencode := LittleEndian.encode_decode ((bytes.drop 28).take 4)
    rw [hfour] at hencode
    rw [List.drop_take]
    exact hencode
  rw [toBytes_eq, hback, hcount, hsize, ← List.append_assoc, front,
    identityBytes_ofHeader hheader, ← clearUnused_append hheader, List.take_add]
  rfl

/-- A section is read from its bytes and what follows them, and from no strict front of them.
Exactly the bytes with a whole section in front are read, and what is written for it again is
that front with its unused places cleared. -/
theorem ofBytes_exact :
    (∀ s : Section, s.registers.length < 2 ^ 30 →
      (∀ after, ofBytes (s.toBytes ++ after) = .ok s) ∧
      ∀ before, before <+: s.toBytes → before ≠ s.toBytes →
        ofBytes before = .error .truncated) ∧
    ∀ bytes, ((∃ s, ofBytes bytes = .ok s) ↔ Whole bytes) ∧
      ∀ s, ofBytes bytes = .ok s →
        s.toBytes = clearUnused (bytes.take (headerSize + statedSize bytes)) := by
  refine ⟨fun s hcount => ?_, fun bytes => ⟨?_, fun s hread => ?_⟩⟩
  · have hsize : s.registers.length * 4 < UInt32.size := by
      simp only [UInt32.size]
      omega
    exact ⟨fun after => ofBytes_toBytes_append s after hsize,
      fun before hinitial hstrict => ofBytes_of_cut hsize hinitial hstrict⟩
  · constructor
    · rintro ⟨s, hread⟩
      exact (ofBytes_eq_ok_iff.mp hread).1
    · intro hwhole
      exact ⟨front bytes, ofBytes_eq_ok_iff.mpr ⟨hwhole, rfl⟩⟩
  · obtain ⟨hwhole, rfl⟩ := ofBytes_eq_ok_iff.mp hread
    exact toBytes_front hwhole

/-- A section with two registers and a different number in each place of its header. -/
def twoRegisters : Section where
  validBits := 0x04030201
  version := 5
  socId := 6
  socketId := 7
  totemId := 8
  nimbusId := 9
  subsystemId := 10
  moduleId := 11
  submoduleId := 12
  coreId := 13
  portId := 14
  errType := 0x100F
  severity := 17
  registers := [0x16151413, 0x1A191817]

/-- Bytes of that section with other content in the unused places and behind it. -/
def noisyBytes : Bytes :=
  [1, 2, 3, 4, 5, 6, 7, 8, 9, 10, 11, 12, 13, 14, 15, 16] ++ List.replicate 8 0xFF ++ [17] ++
    List.replicate 3 0xFF ++ [8, 0, 0, 0, 19, 20, 21, 22, 23, 24, 25, 26, 0xFF]

theorem ofBytes_exact_twoRegisters :
    twoRegisters.registers.length < 2 ^ 30 ∧
    ofBytes (twoRegisters.toBytes ++ [0xFF]) = .ok twoRegisters ∧
    ofBytes (twoRegisters.toBytes.take 39) = .error .truncated ∧
    (∃ s, ofBytes noisyBytes = .ok s) ∧
    ∀ s, ofBytes noisyBytes = .ok s → s.toBytes = twoRegisters.toBytes := by
  have hcount : twoRegisters.registers.length < 2 ^ 30 := by decide
  obtain ⟨hback, hstrict⟩ := ofBytes_exact.1 twoRegisters hcount
  obtain ⟨hread, hwritten⟩ := ofBytes_exact.2 noisyBytes
  refine ⟨hcount, hback _, hstrict _ (List.take_prefix 39 _) (by decide), ?_, fun s hs => ?_⟩
  · exact hread.mpr ⟨by decide, by decide, by decide⟩
  · rw [hwritten s hs]
    rfl

end MemoryRepair.Section
