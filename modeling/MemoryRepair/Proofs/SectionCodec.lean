import MemoryRepair.Section

/-!
A section read back from its bytes. The header has its fields at fixed places, the
register array is as long as the header says, and bytes after it are ignored.
-/
namespace MemoryRepair.Section

/-- The bytes in front of the size of the register array. -/
def identityBytes (s : Section) : Bytes :=
  LittleEndian.ofWord32 s.validBits ++
  [s.version, s.socId, s.socketId, s.totemId, s.nimbusId, s.subsystemId, s.moduleId,
   s.submoduleId, s.coreId, s.portId] ++
  LittleEndian.ofWord16 s.errType ++
  List.replicate 8 0 ++ [s.severity] ++ List.replicate 3 0

theorem length_identityBytes (s : Section) : s.identityBytes.length = 28 := rfl

theorem toBytes_eq (s : Section) :
    s.toBytes = s.identityBytes ++ (LittleEndian.encode 4 (s.registers.length * 4) ++
      s.registers.flatMap LittleEndian.ofWord32) := by
  rw [← List.append_assoc]
  rfl

theorem length_flatMap_ofWord32 (words : List UInt32) :
    (words.flatMap LittleEndian.ofWord32).length = words.length * 4 := by
  induction words with
  | nil => rfl
  | cons word rest ih =>
    have hword : (LittleEndian.ofWord32 word).length = 4 := LittleEndian.length_encode 4 _
    rw [List.flatMap_cons, List.length_append, hword, ih, List.length_cons]
    omega

theorem length_toBytes (s : Section) : s.toBytes.length = 32 + s.registers.length * 4 := by
  rw [toBytes_eq, List.length_append, List.length_append, length_identityBytes,
    LittleEndian.length_encode, length_flatMap_ofWord32]
  omega

/-- Words written one after the other are read back in chunks of four bytes. -/
theorem map_chunks_flatMap (words : List UInt32) :
    (Bytes.chunks 4 (words.flatMap LittleEndian.ofWord32)).map LittleEndian.toWord32 = words := by
  have hword : ∀ word, (LittleEndian.ofWord32 word).length = 4 := fun word =>
    LittleEndian.length_encode 4 _
  have hback : LittleEndian.toWord32 ∘ LittleEndian.ofWord32 = id :=
    funext LittleEndian.toWord32_ofWord32
  rw [Bytes.chunks_flatMap (by decide) hword, List.map_map, hback, List.map_id]

theorem ofHeader_identityBytes (s : Section) (size : Bytes) :
    ofHeader (s.identityBytes ++ size) s.registers = s := by
  have hvalid : ((s.identityBytes ++ size).drop 0).take 4 = LittleEndian.ofWord32 s.validBits :=
    rfl
  have htype : ((s.identityBytes ++ size).drop 14).take 2 = LittleEndian.ofWord16 s.errType := rfl
  unfold ofHeader
  simp only [hvalid, htype, LittleEndian.toWord32_ofWord32, LittleEndian.toWord16_ofWord16]
  rfl

/-- A section whose array has a size of 32 bits is read back, whatever follows it. -/
theorem ofBytes_toBytes_append (s : Section) (after : Bytes)
    (h : s.registers.length * 4 < UInt32.size) : ofBytes (s.toBytes ++ after) = .ok s := by
  have hsize : (LittleEndian.encode 4 (s.registers.length * 4)).length = 4 :=
    LittleEndian.length_encode 4 _
  have hdecode : LittleEndian.decode (LittleEndian.encode 4 (s.registers.length * 4)) =
      s.registers.length * 4 := by
    rw [LittleEndian.decode_encode]
    exact Nat.mod_eq_of_lt h
  have hheader : (s.identityBytes ++ LittleEndian.encode 4 (s.registers.length * 4)).length =
      headerSize := by
    rw [List.length_append, length_identityBytes, hsize]
    rfl
  have hstated : (s.toBytes ++ after).slice 28 4 =
      some (LittleEndian.encode 4 (s.registers.length * 4)) := by
    have hslice := Bytes.slice_append s.identityBytes
      (LittleEndian.encode 4 (s.registers.length * 4))
      (s.registers.flatMap LittleEndian.ofWord32 ++ after)
    rwa [hsize, length_identityBytes, ← List.append_assoc _ _ after, ← List.append_assoc _ _ after,
      ← toBytes_eq] at hslice
  have harray : (s.toBytes ++ after).slice headerSize (s.registers.length * 4) =
      some (s.registers.flatMap LittleEndian.ofWord32) := by
    have hslice := Bytes.slice_append
      (s.identityBytes ++ LittleEndian.encode 4 (s.registers.length * 4))
      (s.registers.flatMap LittleEndian.ofWord32) after
    rwa [hheader, length_flatMap_ofWord32, ← List.append_assoc, List.append_assoc s.identityBytes,
      ← toBytes_eq] at hslice
  have htake : (s.toBytes ++ after).take headerSize =
      s.identityBytes ++ LittleEndian.encode 4 (s.registers.length * 4) := by
    rw [toBytes_eq, ← List.append_assoc, List.append_assoc _ _ after, ← hheader, List.take_left]
  unfold ofBytes
  simp only [hstated, hdecode, harray, htake, map_chunks_flatMap, ofHeader_identityBytes]
  rw [if_neg (by simp)]

end MemoryRepair.Section
