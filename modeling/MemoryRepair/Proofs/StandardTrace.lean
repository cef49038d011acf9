import MemoryRepair.Proofs.RecordDecoding
import MemoryRepair.Proofs.RingItems
import MemoryRepair.Trace.Source

/-!
The layout of trace pages and of the event's records that the kernel describes. The
descriptions parse to a fixed header and a fixed decoder; a page of that layout is read
from its items, and a record whose fields describe a payload decodes to it.
-/
namespace MemoryRepair.Trace

/-- A description with each of its lines ended. -/
def describe (lines : List String) : List Char :=
  lines.flatMap fun line => line.toList ++ ['\n']

def standardHeaderText : List Char := describe
  ["\tfield: u64 timestamp;\toffset:0;\tsize:8;\tsigned:0;",
   "\tfield: local_t commit;\toffset:8;\tsize:8;\tsigned:1;",
   "\tfield: int overwrite;\toffset:8;\tsize:1;\tsigned:1;",
   "\tfield: char data;\toffset:16;\tsize:4080;\tsigned:1;"]

def standardFormatText : List Char := describe
  ["name: non_standard_event",
   "ID: 1487",
   "format:",
   "\tfield:unsigned short common_type;\toffset:0;\tsize:2;\tsigned:0;",
   "\tfield:unsigned char common_flags;\toffset:2;\tsize:1;\tsigned:0;",
   "\tfield:unsigned char common_preempt_count;\toffset:3;\tsize:1;\tsigned:0;",
   "\tfield:int common_pid;\toffset:4;\tsize:4;\tsigned:1;",
   "",
   "\tfield:char sec_type[16];\toffset:8;\tsize:16;\tsigned:0;",
   "\tfield:char fru_id[16];\toffset:24;\tsize:16;\tsigned:0;",
   "\tfield:__data_loc char[] fru_text;\toffset:40;\tsize:4;\tsigned:0;",
   "\tfield:u8 sev;\toffset:44;\tsize:1;\tsigned:0;",
   "\tfield:u32 len;\toffset:48;\tsize:4;\tsigned:0;",
   "\tfield:__data_loc u8[] buf;\toffset:52;\tsize:4;\tsigned:0;",
   "",
   "print fmt: \"severity: %d; sec type:%pU; FRU: %pU %s; data len:%d; raw data:%s\""]

def HeaderPage.standard : HeaderPage where
  timestampOffset := 0
  commitOffset := 8
  commitSize := 8
  dataOffset := 16

def EventFormat.standard : EventFormat where
  name := "non_standard_event"
  id := 1487
  fields :=
    [⟨"common_type", 0, 2, false⟩, ⟨"common_flags", 2, 1, false⟩,
     ⟨"common_preempt_count", 3, 1, false⟩, ⟨"common_pid", 4, 4, false⟩,
     ⟨"sec_type", 8, 16, false⟩, ⟨"fru_id", 24, 16, false⟩, ⟨"fru_text", 40, 4, true⟩,
     ⟨"sev", 44, 1, false⟩, ⟨"len", 48, 4, false⟩, ⟨"buf", 52, 4, true⟩]

def Decoder.standard : Decoder where
  id := 1487
  sectionType := ⟨"sec_type", 8, 16, false⟩
  length := ⟨"len", 48, 4, false⟩
  payload := ⟨"buf", 52, 4, true⟩

def Source.standard : Source := ⟨.standard, .standard⟩

theorem parse_standardHeaderText : HeaderPage.parse standardHeaderText = some .standard := by
  decide +kernel

theorem parse_standardFormatText : EventFormat.parse standardFormatText = some .standard := by
  decide +kernel

theorem ofFormat_standard : Decoder.ofFormat .standard = .ok .standard := rfl

/-- The source that the kernel's descriptions give. -/
structure Source.IsStandard (source : Source) : Prop where
  header : HeaderPage.parse standardHeaderText = some source.header
  decoder : (EventFormat.parse standardFormatText).map Decoder.ofFormat = some (.ok source.decoder)

theorem Source.isStandard_iff {source : Source} : source.IsStandard ↔ source = .standard := by
  constructor
  · intro h
    have hheader := h.header
    have hdecoder := h.decoder
    rw [parse_standardHeaderText] at hheader
    rw [parse_standardFormatText, Option.map_some, ofFormat_standard] at hdecoder
    obtain ⟨header, decoder⟩ := source
    cases hheader
    cases hdecoder
    rfl
  · rintro rfl
    exact ⟨parse_standardHeaderText, by
      rw [parse_standardFormatText, Option.map_some, ofFormat_standard]
      rfl⟩

/-- A page with the given time, commit word and committed bytes. What stands behind the
committed bytes is arbitrary. -/
def page (time commit : UInt64) (body tail : Bytes) : Bytes :=
  LittleEndian.ofWord64 time ++ (LittleEndian.ofWord64 commit ++ (body ++ tail))

theorem ofPage_page (time commit : UInt64) (body tail : Bytes)
    (hcommit : commit.toNat % Cursor.deltaLimit = body.length) :
    Cursor.ofPage (page time commit body tail) .standard = .ok (some ⟨time, body⟩) := by
  have htime : (LittleEndian.ofWord64 time).length = 8 := LittleEndian.length_encode 8 _
  have hword : (LittleEndian.ofWord64 commit).length = 8 := LittleEndian.length_encode 8 _
  have htimeSlice : (page time commit body tail).slice 0 8 = some (LittleEndian.ofWord64 time) := by
    have hslice := Bytes.slice_append_left (LittleEndian.ofWord64 time)
      (LittleEndian.ofWord64 commit ++ (body ++ tail))
    rwa [htime] at hslice
  have hcommitSlice :
      (page time commit body tail).slice 8 8 = some (LittleEndian.ofWord64 commit) := by
    have hslice := Bytes.slice_append (LittleEndian.ofWord64 time) (LittleEndian.ofWord64 commit)
      (body ++ tail)
    rwa [htime, hword] at hslice
  have hsize : LittleEndian.decode (LittleEndian.ofWord64 commit) = commit.toNat := by
    rw [LittleEndian.ofWord64, LittleEndian.decode_encode]
    exact Nat.mod_eq_of_lt commit.toNat_lt
  have hdata : (page time commit body tail).drop 16 = body ++ tail := by
    rw [page, ← List.append_assoc]
    exact List.drop_left' (by rw [List.length_append, htime, hword])
  have hlength : 16 ≤ (page time commit body tail).length := by
    simp only [page, List.length_append, htime, hword]
    omega
  have hrest : (body ++ tail).take (commit.toNat % Cursor.deltaLimit) = body := by
    rw [hcommit, List.take_left]
  have hplaces : HeaderPage.standard.timestampOffset.toNat = 0 ∧
      HeaderPage.standard.commitOffset.toNat = 8 ∧ HeaderPage.standard.commitSize.toNat = 8 ∧
      HeaderPage.standard.dataOffset.toNat = 16 := by decide
  unfold Cursor.ofPage
  rw [Word64.add_eq_ok _ _ (by decide), Word64.add_eq_ok _ _ (by decide)]
  simp only [bind, Except.bind, hplaces, htimeSlice, hcommitSlice, hword, hlength, hsize, hdata,
    hrest, LittleEndian.toWord64_ofWord64]
  rfl

theorem readPage_page (items : List RingItem) (time commit : UInt64) (tail : Bytes)
    (hcommit : commit.toNat % Cursor.deltaLimit = (RingItem.encodeAll items).length)
    (htime : RingItem.InTime time.toNat items) :
    Source.standard.readPage (page time commit (RingItem.encodeAll items) tail) =
      (RingItem.records time.toNat items).flatMap Source.standard.readRecord := by
  have hpage := ofPage_page time commit (RingItem.encodeAll items) tail hcommit
  unfold Source.readPage
  rw [show Source.standard.header = HeaderPage.standard from rfl, hpage]
  simp only [Cursor.readAll_items items time htime, List.append_nil]

/-- A record has no time that could overflow. -/
theorem Source.overflow_not_mem_readRecord (source : Source) (record : Record)
    (overflow : Overflow) : .overflow overflow ∉ source.readRecord record := by
  unfold Source.readRecord
  cases recordId record.data with
  | none => simp
  | some id =>
    by_cases hown : id = source.decoder.id
    · cases source.decoder.decode record.timestamp record.data <;> simp [hown]
    · simp [hown]

/-- The fields of a record name a section type and describe a payload: its length, and in
the descriptor its length again with its place. -/
structure Describes (data : Bytes) (sectionType : Guid) (payload : Bytes) : Prop where
  id : data.slice 0 2 = some (LittleEndian.ofWord16 Decoder.standard.id)
  section_type : data.slice 8 16 = some sectionType.bytes
  length : data.slice 48 4 = some (LittleEndian.encode 4 payload.length)
  buffer : ∃ offset, offset < UInt16.size ∧ payload.length < UInt16.size ∧
    data.slice 52 4 = some (LittleEndian.encode 4 (offset + UInt16.size * payload.length)) ∧
    data.slice offset payload.length = some payload

/-- A record with the fields of a payload and no other content. -/
def recordOf (sectionType : Guid) (payload : Bytes) : Bytes :=
  LittleEndian.ofWord16 Decoder.standard.id ++ (List.replicate 6 0 ++ (sectionType.bytes ++
    (List.replicate 24 0 ++ (LittleEndian.encode 4 payload.length ++
      (LittleEndian.encode 4 (56 + UInt16.size * payload.length) ++ payload)))))

theorem describes_recordOf (sectionType : Guid) {payload : Bytes}
    (h : payload.length < UInt16.size) :
    Describes (recordOf sectionType payload) sectionType payload := by
  have hid : (LittleEndian.ofWord16 Decoder.standard.id).length = 2 := rfl
  have hlength : ∀ n, (LittleEndian.encode 4 n).length = 4 := LittleEndian.length_encode 4
  have htype := sectionType.size
  constructor
  · exact Bytes.slice_append_left (LittleEndian.ofWord16 Decoder.standard.id) _
  · have hslice := Bytes.slice_append
      (LittleEndian.ofWord16 Decoder.standard.id ++ List.replicate 6 0) sectionType.bytes
      (List.replicate 24 0 ++ (LittleEndian.encode 4 payload.length ++
        (LittleEndian.encode 4 (56 + UInt16.size * payload.length) ++ payload)))
    rwa [htype, List.append_assoc] at hslice
  · have hslice := Bytes.slice_append
      (LittleEndian.ofWord16 Decoder.standard.id ++ (List.replicate 6 0 ++ (sectionType.bytes ++
        List.replicate 24 0))) (LittleEndian.encode 4 payload.length)
      (LittleEndian.encode 4 (56 + UInt16.size * payload.length) ++ payload)
    simpa only [recordOf, List.append_assoc, List.length_append, List.length_replicate, hid, htype,
      hlength] using hslice
  · refine ⟨56, by decide, h, ?_, ?_⟩
    · have hslice := Bytes.slice_append
        (LittleEndian.ofWord16 Decoder.standard.id ++ (List.replicate 6 0 ++ (sectionType.bytes ++
          (List.replicate 24 0 ++ LittleEndian.encode 4 payload.length))))
        (LittleEndian.encode 4 (56 + UInt16.size * payload.length)) payload
      simpa only [recordOf, List.append_assoc, List.length_append, List.length_replicate, hid,
        htype, hlength] using hslice
    · have hslice := Bytes.slice_append
        (LittleEndian.ofWord16 Decoder.standard.id ++ (List.replicate 6 0 ++ (sectionType.bytes ++
          (List.replicate 24 0 ++ (LittleEndian.encode 4 payload.length ++
            LittleEndian.encode 4 (56 + UInt16.size * payload.length)))))) payload []
      simpa only [recordOf, List.append_assoc, List.append_nil, List.length_append,
        List.length_replicate, hid, htype, hlength] using hslice

/-- The time of a record goes into its event and decides nothing. -/
theorem Decoder.decode_at (decoder : Decoder) (time other : UInt64) (data : Bytes) :
    decoder.decode time data =
      (decoder.decode other data).map fun event => { event with timestamp := time } := by
  unfold decode
  cases decoder.sectionType.slice data with
  | none => rfl
  | some bytes =>
    by_cases hsize : bytes.length = 16
    · simp only [dif_pos hsize]
      cases decoder.length.read data with
      | none => rfl
      | some value =>
        cases decoder.payload.slice data with
        | none => rfl
        | some payload =>
          by_cases hlength : payload.length = value.toUInt32.toNat
          · simp only [if_pos hlength]
            rfl
          · simp only [if_neg hlength]
            rfl
    · simp only [dif_neg hsize]
      rfl

/-- The fields of the standard event span what the record describes. -/
theorem Describes.composes {data payload : Bytes} {sectionType : Guid}
    (h : Describes data sectionType payload) (time : UInt64) :
    Decoder.standard.Composes data ⟨time, sectionType, UInt32.ofNat payload.length, payload⟩ := by
  obtain ⟨place, hplace, hlength, hdescriptor, hpayload⟩ := h.buffer
  have hsmall : payload.length < UInt32.size := Nat.lt_trans hlength (by decide)
  have hstated : Decoder.standard.length.Spans data (LittleEndian.encode 4 payload.length) :=
    .static rfl (by decide) (LittleEndian.length_encode 4 payload.length)
      (Bytes.slice_eq_some_iff_standsAt.mp h.length).2
  constructor
  · exact .static rfl (by decide) sectionType.size
      (Bytes.slice_eq_some_iff_standsAt.mp h.section_type).2
  · exact ⟨payload.length, ⟨4, by decide, hsmall, hstated⟩, Nat.mod_eq_of_lt hsmall⟩
  · refine .dynamic place [] rfl (by decide) rfl ?_ hplace hlength
      (Bytes.slice_eq_some_iff_standsAt.mp hpayload).2
    rw [List.append_nil]
    exact (Bytes.slice_eq_some_iff_standsAt.mp hdescriptor).2
  · rw [UInt32.toNat_ofNat']
    exact Nat.mod_eq_of_lt hsmall

/-- A record that describes a payload decodes to it. -/
theorem Describes.decode_eq {data payload : Bytes} {sectionType : Guid}
    (h : Describes data sectionType payload) (time : UInt64) :
    Decoder.standard.decode time data =
      .ok ⟨time, sectionType, UInt32.ofNat payload.length, payload⟩ :=
  Decoder.decode_eq_ok_iff.mpr ⟨rfl, h.composes time⟩

end MemoryRepair.Trace
