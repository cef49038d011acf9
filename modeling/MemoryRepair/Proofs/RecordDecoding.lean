import MemoryRepair.Trace.Event

/-!
Decoding a record. What a field spans is told by how the record is composed: a static field
stands at its offset, and a dynamic one names the place and the length of an array that stands
elsewhere in the record. A record decodes exactly if its fields span a section type and a
payload, and a number that agrees with the length of the payload in 32 bits.
-/
namespace MemoryRepair

namespace Bytes

/-- A byte string has a piece at a place, as a whole. -/
def StandsAt (bytes : Bytes) (place : Nat) (piece : Bytes) : Prop :=
  ∃ before after, bytes = before ++ (piece ++ after) ∧ before.length = place

theorem slice_eq_some_iff_standsAt {bytes piece : Bytes} {place len : Nat} :
    bytes.slice place len = some piece ↔ piece.length = len ∧ bytes.StandsAt place piece := by
  constructor
  · intro h
    obtain ⟨hreach, hpiece⟩ := slice_eq_some_iff.mp h
    refine ⟨length_of_slice h, bytes.take place, (bytes.drop place).drop len, ?_, ?_⟩
    · rw [← hpiece, List.take_append_drop, List.take_append_drop]
    · rw [List.length_take]
      omega
  · rintro ⟨rfl, before, after, rfl, rfl⟩
    exact slice_append before piece after

end Bytes

namespace Trace

namespace Field

/-- The bytes that a field spans in a record. The descriptor of a dynamic field is the first
word of it: the place of the array in the low half, its length in the high half. -/
inductive Spans (field : Field) (record : Bytes) : Bytes → Prop
  | static {piece : Bytes} (hstatic : field.dynamic = false)
      (hend : field.offset.toNat + field.size.toNat < UInt64.size)
      (hsize : piece.length = field.size.toNat)
      (hpiece : record.StandsAt field.offset.toNat piece) : Spans field record piece
  | dynamic {piece : Bytes} (place : Nat) (more : Bytes) (hdynamic : field.dynamic = true)
      (hend : field.offset.toNat + field.size.toNat < UInt64.size)
      (hsize : 4 + more.length = field.size.toNat)
      (hdescriptor : record.StandsAt field.offset.toNat
        (LittleEndian.encode 4 (place + UInt16.size * piece.length) ++ more))
      (hplace : place < UInt16.size) (hlength : piece.length < UInt16.size)
      (hpiece : record.StandsAt place piece) : Spans field record piece

/-- The number that a field states, in one, two, four or eight bytes. -/
def States (field : Field) (record : Bytes) (value : Nat) : Prop :=
  ∃ width, (width = 1 ∨ width = 2 ∨ width = 4 ∨ width = 8) ∧
    value < LittleEndian.limit width ∧ field.Spans record (LittleEndian.encode width value)

section Fields

variable {field : Field} {record piece : Bytes}

/-- The two halves of a descriptor. -/
theorem decode_descriptor {place length : Nat} (hplace : place < UInt16.size)
    (hlength : length < UInt16.size) :
    LittleEndian.decode (LittleEndian.encode 4 (place + UInt16.size * length)) % UInt16.size =
      place ∧
    LittleEndian.decode (LittleEndian.encode 4 (place + UInt16.size * length)) / UInt16.size =
      length := by
  rw [LittleEndian.decode_encode]
  simp only [UInt16.size, LittleEndian.limit] at *
  omega

theorem slice_of_spans (h : field.Spans record piece) : field.slice record = some piece := by
  unfold slice
  cases h with
  | static hstatic hend hsize hpiece =>
    have hraw := Bytes.slice_eq_some_iff_standsAt.mpr ⟨hsize, hpiece⟩
    rw [if_pos hend, hraw, hstatic]
    rfl
  | dynamic place more hdynamic hend hsize hdescriptor hplace hlength hpiece =>
    have hwhole : (LittleEndian.encode 4 (place + UInt16.size * piece.length) ++ more).length =
        field.size.toNat := by
      rw [List.length_append, LittleEndian.length_encode, hsize]
    have hraw := Bytes.slice_eq_some_iff_standsAt.mpr ⟨hwhole, hdescriptor⟩
    have hword : Bytes.slice
        (LittleEndian.encode 4 (place + UInt16.size * piece.length) ++ more) 0 4 =
          some (LittleEndian.encode 4 (place + UInt16.size * piece.length)) :=
      Bytes.slice_append_left (LittleEndian.encode 4 (place + UInt16.size * piece.length)) more
    obtain ⟨hmod, hdiv⟩ := decode_descriptor hplace hlength
    rw [if_pos hend, hraw, hdynamic]
    simp only [Option.bind_eq_bind, Option.bind_some, if_true, hword, hmod, hdiv]
    exact Bytes.slice_eq_some_iff_standsAt.mpr ⟨rfl, hpiece⟩

theorem spans_of_slice (h : field.slice record = some piece) : field.Spans record piece := by
  unfold slice at h
  by_cases hend : field.offset.toNat + field.size.toNat < UInt64.size
  · rw [if_pos hend] at h
    obtain ⟨raw, hraw, hrest⟩ := Option.bind_eq_some_iff.mp h
    obtain ⟨hsize, hstands⟩ := Bytes.slice_eq_some_iff_standsAt.mp hraw
    by_cases hdynamic : field.dynamic = true
    · simp only [hdynamic, if_true] at hrest
      obtain ⟨descriptor, hdescriptor, hpiece⟩ := Option.bind_eq_some_iff.mp hrest
      obtain ⟨hfour, before, more, hsplit, hbefore⟩ :=
        Bytes.slice_eq_some_iff_standsAt.mp hdescriptor
      obtain ⟨hlength, hplace⟩ := Bytes.slice_eq_some_iff_standsAt.mp hpiece
      have hvalue := LittleEndian.decode_lt descriptor
      rw [hfour] at hvalue
      have hcode : LittleEndian.encode 4 (LittleEndian.decode descriptor % UInt16.size +
          UInt16.size * piece.length) = descriptor := by
        rw [hlength, Nat.mod_add_div, ← hfour, LittleEndian.encode_decode]
      rw [List.length_eq_zero_iff.mp hbefore, List.nil_append] at hsplit
      simp only [UInt16.size, LittleEndian.limit] at *
      refine .dynamic _ more hdynamic hend ?_ ?_ (Nat.mod_lt _ (by decide)) ?_ hplace
      · rw [← hsize, hsplit, List.length_append, hfour]
      · simp only [UInt16.size]
        rw [hcode, ← hsplit]
        exact hstands
      · simp only [UInt16.size]
        omega
    · simp only [hdynamic, Bool.false_eq_true, if_false, Option.some.injEq] at hrest
      cases hrest
      exact .static (Bool.eq_false_iff.mpr hdynamic) hend hsize hstands
  · rw [if_neg hend] at h
    cases h

/-- Slicing finds what a field spans, and nothing else. -/
theorem slice_eq_some_iff : field.slice record = some piece ↔ field.Spans record piece :=
  ⟨spans_of_slice, slice_of_spans⟩

/-- A number of at most eight bytes fits a word. -/
theorem limit_le_size {width : Nat} (h : width = 1 ∨ width = 2 ∨ width = 4 ∨ width = 8) :
    LittleEndian.limit width ≤ UInt64.size := by
  rcases h with rfl | rfl | rfl | rfl <;> decide

/-- Reading finds the number that a field states, and nothing else. -/
theorem read_eq_some_iff {word : UInt64} :
    field.read record = some word ↔ field.States record word.toNat := by
  unfold read
  constructor
  · intro h
    obtain ⟨raw, hraw, hrest⟩ := Option.bind_eq_some_iff.mp h
    by_cases hwidth : raw.length = 1 ∨ raw.length = 2 ∨ raw.length = 4 ∨ raw.length = 8
    · rw [if_pos hwidth] at hrest
      have hlt := LittleEndian.decode_lt raw
      have hvalue : word.toNat = LittleEndian.decode raw := by
        have hlimit := limit_le_size hwidth
        rw [← Option.some.inj hrest, LittleEndian.toWord64, UInt64.toNat_ofNat']
        exact Nat.mod_eq_of_lt (Nat.lt_of_lt_of_le hlt hlimit)
      refine ⟨raw.length, hwidth, hvalue ▸ hlt, ?_⟩
      rw [hvalue, LittleEndian.encode_decode]
      exact slice_eq_some_iff.mp hraw
    · rw [if_neg hwidth] at hrest
      cases hrest
  · intro h
    obtain ⟨width, hwidth, hlt, hspans⟩ := h
    have hvalue : LittleEndian.toWord64 (LittleEndian.encode width word.toNat) = word := by
      rw [LittleEndian.toWord64, LittleEndian.decode_encode, Nat.mod_eq_of_lt hlt,
        UInt64.ofNat_toNat]
    rw [slice_eq_some_iff.mpr hspans]
    simp only [Option.bind_eq_bind, Option.bind_some, LittleEndian.length_encode, if_pos hwidth,
      hvalue]

/-- What a field states fits a word. -/
theorem States.lt_size {value : Nat} (h : field.States record value) : value < UInt64.size := by
  obtain ⟨width, hwidth, hlt, -⟩ := h
  have hlimit := limit_le_size hwidth
  omega

/-- Reading gives back the number as a word. -/
theorem States.read {value : Nat} (h : field.States record value) :
    (UInt64.ofNat value).toNat = value ∧ field.read record = some (UInt64.ofNat value) := by
  have hvalue : (UInt64.ofNat value).toNat = value := by
    rw [UInt64.toNat_ofNat']
    exact Nat.mod_eq_of_lt h.lt_size
  refine ⟨hvalue, read_eq_some_iff.mpr ?_⟩
  rwa [hvalue]

/-- A field states one number at most. -/
theorem States.unique {value other : Nat} (h : field.States record value)
    (hother : field.States record other) : value = other := by
  obtain ⟨hvalue, hread⟩ := h.read
  obtain ⟨hvalue', hread'⟩ := hother.read
  rw [hread] at hread'
  rw [← hvalue, Option.some.inj hread', hvalue']

end Fields

end Field

namespace Decoder

/-- A record from which an event is put together: the fields span the bytes of its section type
and its payload, and the number that they state counts the payload modulo 2^32. -/
structure Composes (decoder : Decoder) (record : Bytes) (event : Event) : Prop where
  sectionType : decoder.sectionType.Spans record event.sectionType.bytes
  stated : ∃ value, decoder.length.States record value ∧
    value % UInt32.size = event.payload.length
  payload : decoder.payload.Spans record event.payload
  length : event.length.toNat = event.payload.length

/-- A record decodes to the events that it composes. -/
theorem decode_eq_ok_iff {decoder : Decoder} {timestamp : UInt64} {record : Bytes}
    {event : Event} : decoder.decode timestamp record = .ok event ↔
      event.timestamp = timestamp ∧ decoder.Composes record event := by
  constructor
  · intro h
    unfold decode at h
    cases hbytes : decoder.sectionType.slice record with
    | none => simp [hbytes] at h
    | some bytes =>
      by_cases hsize : bytes.length = 16
      · cases hword : decoder.length.read record with
        | none => simp [hbytes, hsize, hword] at h
        | some word =>
          cases hpayload : decoder.payload.slice record with
          | none => simp [hbytes, hsize, hword, hpayload] at h
          | some payload =>
            by_cases hlength : payload.length = word.toUInt32.toNat
            · simp only [hbytes, dif_pos hsize, hword, hpayload, if_pos hlength,
                Except.ok.injEq] at h
              subst h
              refine ⟨rfl, Field.slice_eq_some_iff.mp hbytes, ⟨word.toNat,
                Field.read_eq_some_iff.mp hword, ?_⟩, Field.slice_eq_some_iff.mp hpayload,
                hlength.symm⟩
              rw [hlength, UInt64.toNat_toUInt32]
            · simp only [hbytes, dif_pos hsize, hword, hpayload, if_neg hlength,
                reduceCtorEq] at h
      · simp [hbytes, hsize] at h
  · rintro ⟨htimestamp, hcomposes⟩
    obtain ⟨value, hstates, hmod⟩ := hcomposes.stated
    obtain ⟨hvalue, hword⟩ := hstates.read
    have hlength : (UInt64.ofNat value).toUInt32 = event.length := by
      apply UInt32.toNat_inj.mp
      rw [UInt64.toNat_toUInt32, hvalue, hcomposes.length]
      exact hmod
    unfold decode
    simp only [Field.slice_eq_some_iff.mpr hcomposes.sectionType, hword,
      Field.slice_eq_some_iff.mpr hcomposes.payload, hlength, hcomposes.length,
      event.sectionType.size, dif_pos, if_true, ← htimestamp]

theorem ofFormat_eq_ok_iff {format : EventFormat} {decoder : Decoder} :
    ofFormat format = .ok decoder ↔ decoder.id = format.id ∧
      format.field? "sec_type" = some decoder.sectionType ∧
      format.field? "len" = some decoder.length ∧ format.field? "buf" = some decoder.payload := by
  unfold ofFormat
  constructor
  · intro h
    split at h
    · next htype hlength hpayload =>
      cases h
      exact ⟨rfl, htype, hlength, hpayload⟩
    · cases h
    · cases h
    · cases h
  · rintro ⟨hid, htype, hlength, hpayload⟩
    simp only [htype, hlength, hpayload, ← hid]

/-- The fields of the format decide on a record. It decodes to an event exactly if it composes
the event; and then it states the very length of the payload exactly if the number that it
states is below 2^32. -/
theorem decode_composes {format : EventFormat} {decoder : Decoder}
    (h : ofFormat format = .ok decoder) :
    (decoder.id = format.id ∧ format.field? "sec_type" = some decoder.sectionType ∧
      format.field? "len" = some decoder.length ∧
      format.field? "buf" = some decoder.payload) ∧
    ∀ (timestamp : UInt64) (record : Bytes) (event : Event),
      (decoder.decode timestamp record = .ok event ↔
        event.timestamp = timestamp ∧ decoder.Composes record event) ∧
      (decoder.Composes record event →
        (decoder.length.States record event.payload.length ↔
          ∃ value, value < UInt32.size ∧ decoder.length.States record value)) := by
  refine ⟨ofFormat_eq_ok_iff.mp h, fun timestamp record event => ⟨decode_eq_ok_iff, ?_⟩⟩
  intro hcomposes
  constructor
  · intro hexact
    have hlt := event.length.toNat_lt_size
    rw [hcomposes.length] at hlt
    exact ⟨event.payload.length, hlt, hexact⟩
  · rintro ⟨value, hlt, hstates⟩
    obtain ⟨other, hother, hmod⟩ := hcomposes.stated
    have hsame := hother.unique hstates
    rw [hsame, Nat.mod_eq_of_lt hlt] at hmod
    rwa [← hmod]

end Decoder

/-- A format that states the length in eight bytes. -/
def EventFormat.wideLength : EventFormat where
  name := "non_standard_event"
  id := 1487
  fields := [⟨"sec_type", 0, 16, false⟩, ⟨"len", 16, 8, false⟩, ⟨"buf", 24, 4, true⟩]

def Decoder.wideLength : Decoder where
  id := 1487
  sectionType := ⟨"sec_type", 0, 16, false⟩
  length := ⟨"len", 16, 8, false⟩
  payload := ⟨"buf", 24, 4, true⟩

/-- A record of this format that carries four bytes at its end. -/
def wideRecord (stated : Nat) : Bytes :=
  Guid.repairSection.bytes ++ (LittleEndian.encode 8 stated ++
    (LittleEndian.encode 4 (28 + UInt16.size * 4) ++ [0xAA, 0xBB, 0xCC, 0xDD]))

def wideEvent : Event := ⟨7, .repairSection, 4, [0xAA, 0xBB, 0xCC, 0xDD]⟩

theorem Decoder.decode_composes_wideLength :
    ofFormat .wideLength = .ok .wideLength ∧
      Decoder.wideLength.decode 7 (wideRecord 4) = .ok wideEvent ∧
      Decoder.wideLength.Composes (wideRecord 4) wideEvent := by
  have hdecode : Decoder.wideLength.decode 7 (wideRecord 4) = .ok wideEvent := rfl
  have hall := decode_composes (show ofFormat .wideLength = .ok .wideLength from rfl)
  exact ⟨rfl, hdecode, ((hall.2 7 (wideRecord 4) wideEvent).1.mp hdecode).2⟩

/-- A record that states 2^32 bytes too many decodes all the same. -/
theorem Decoder.decode_wideLength_excess :
    ofFormat .wideLength = .ok .wideLength ∧
      Decoder.wideLength.length.read (wideRecord (UInt32.size + 4)) = some 4294967300 ∧
      Decoder.wideLength.payload.slice (wideRecord (UInt32.size + 4)) = some wideEvent.payload ∧
      wideEvent.payload.length ≠ (4294967300 : UInt64).toNat ∧
      Decoder.wideLength.decode 7 (wideRecord (UInt32.size + 4)) = .ok wideEvent := by
  exact ⟨rfl, by decide, by decide, by decide, rfl⟩

end Trace

end MemoryRepair
