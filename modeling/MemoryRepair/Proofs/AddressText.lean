import Mathlib.Data.List.Sort
import MemoryRepair.Proofs.LedgerReading
import MemoryRepair.Proofs.TextPieces

/-!
Addresses as texts. A fault address is spelled by a decimal numeral, or by a hexadecimal one
behind its mark, and reading accepts the spellings of the 64-bit numbers and nothing else.
The ledger prints each record as such a spelling with its coordinates beside it, and decoding
what was printed shows the same coordinates.
-/
namespace MemoryRepair

namespace FaultAddress

open Text (Denotes Unsigned Strips)

/-- The numerals of an address: decimal, or hexadecimal behind a mark. -/
inductive Spells : List Char → Nat → Prop
  | marked {mark numeral : List Char} {n : Nat} (hmark : mark = ['0', 'x'] ∨ mark = ['0', 'X'])
      (h : Unsigned 16 numeral n) : Spells (mark ++ numeral) n
  | plain {text : List Char} {n : Nat} (h : Unsigned 10 text n) : Spells text n

section Reading

variable {text numeral : List Char} {n : Nat}

theorem hexDigits?_eq_some_iff :
    hexDigits? text = some numeral ↔
      ∃ mark, (mark = ['0', 'x'] ∨ mark = ['0', 'X']) ∧ text = mark ++ numeral := by
  constructor
  · intro h
    unfold hexDigits? at h
    split at h
    · cases h
      exact ⟨_, Or.inl rfl, rfl⟩
    · cases h
      exact ⟨_, Or.inr rfl, rfl⟩
    · cases h
  · rintro ⟨mark, rfl | rfl, rfl⟩ <;> rfl

/-- The letter of a mark is no decimal digit. -/
theorem not_unsigned_marked {mark : List Char} (hmark : mark = ['0', 'x'] ∨ mark = ['0', 'X']) :
    ¬ Unsigned 10 (mark ++ numeral) n := by
  intro h
  have hhead : (mark ++ numeral).head? ≠ some '+' := by
    rcases hmark with rfl | rfl <;> simp
  obtain ⟨-, hdigits⟩ := (Text.unsigned_iff_of_head hhead).mp h
  have hletter : ∀ d < 10, ¬ Text.StandsFor 10 'x' d ∧ ¬ Text.StandsFor 10 'X' d := by
    unfold Text.StandsFor
    decide
  rcases hmark with rfl | rfl
  · obtain ⟨d, hd⟩ := hdigits.standsFor (c := 'x') (by simp)
    exact (hletter d hd.1).1 hd
  · obtain ⟨d, hd⟩ := hdigits.standsFor (c := 'X') (by simp)
    exact (hletter d hd.1).2 hd

theorem spells_iff_of_marked (h : hexDigits? text = some numeral) :
    Spells text n ↔ Unsigned 16 numeral n := by
  obtain ⟨mark, hmark, htext⟩ := hexDigits?_eq_some_iff.mp h
  constructor
  · intro hspells
    cases hspells with
    | marked hother hnumeral =>
      rw [hexDigits?_eq_some_iff.mpr ⟨_, hother, rfl⟩] at h
      cases h
      exact hnumeral
    | plain hplain =>
      rw [htext] at hplain
      exact absurd hplain (not_unsigned_marked hmark)
  · intro hnumeral
    rw [htext]
    exact .marked hmark hnumeral

theorem spells_iff_of_plain (h : hexDigits? text = none) :
    Spells text n ↔ Unsigned 10 text n := by
  constructor
  · intro hspells
    cases hspells with
    | marked hmark _ =>
      rw [hexDigits?_eq_some_iff.mpr ⟨_, hmark, rfl⟩] at h
      cases h
    | plain hplain => exact hplain
  · exact .plain

theorem readRaw_eq_ok_iff {raw : UInt64} :
    readRaw text = .ok raw ↔ Spells text raw.toNat := by
  unfold readRaw
  cases hdigits : hexDigits? text with
  | none => rw [spells_iff_of_plain hdigits, Text.readWord64_eq_ok_iff (by decide) (by decide)]
  | some numeral =>
    rw [spells_iff_of_marked hdigits, Text.readWord64_eq_ok_iff (by decide) (by decide)]

theorem exists_readRaw_iff :
    (∃ raw, readRaw text = .ok raw) ↔ ∃ v < UInt64.size, Spells text v := by
  constructor
  · rintro ⟨raw, hraw⟩
    exact ⟨raw.toNat, raw.toNat_lt_size, readRaw_eq_ok_iff.mp hraw⟩
  · rintro ⟨v, hv, hspells⟩
    refine ⟨UInt64.ofNat v, readRaw_eq_ok_iff.mpr ?_⟩
    rwa [UInt64.toNat_ofNat_of_lt' hv]

end Reading

section Parsing

variable {text : String}

theorem parse_of_ok {raw : UInt64} (h : readRaw (Text.trim text.toList) = .ok raw) :
    parse text = .ok (decode raw) := by
  simp only [parse, h]

theorem parse_of_error {err : Text.NumeralError}
    (h : readRaw (Text.trim text.toList) = .error err) :
    parse text = .error (.faultAddress (String.ofList (Text.trim text.toList))) := by
  simp only [parse, h]

theorem parse_eq_ok_iff {fault : FaultAddress} :
    parse text = .ok fault ↔
      ∃ v < UInt64.size, Spells (Text.trim text.toList) v ∧ fault = decode (UInt64.ofNat v) := by
  constructor
  · intro h
    cases hraw : readRaw (Text.trim text.toList) with
    | error err => cases h.symm.trans (parse_of_error hraw)
    | ok raw =>
      cases h.symm.trans (parse_of_ok hraw)
      exact ⟨raw.toNat, raw.toNat_lt_size, readRaw_eq_ok_iff.mp hraw, by rw [UInt64.ofNat_toNat]⟩
  · rintro ⟨v, hv, hspells, rfl⟩
    refine parse_of_ok (readRaw_eq_ok_iff.mpr ?_)
    rwa [UInt64.toNat_ofNat_of_lt' hv]

example : (parse "\t0X+00fF ").toOption = some (decode 255) := by decide +kernel

theorem parse_eq_error_iff {failure : Failure} :
    parse text = .error failure ↔
      failure = .faultAddress (String.ofList (Text.trim text.toList)) ∧
        ¬ ∃ v < UInt64.size, Spells (Text.trim text.toList) v := by
  rw [← exists_readRaw_iff]
  cases hraw : readRaw (Text.trim text.toList) with
  | error err => simp [parse_of_error hraw, eq_comm]
  | ok raw => simp [parse_of_ok hraw]

end Parsing

end FaultAddress

namespace Json

/-- The first value stands somewhere inside the other one. -/
inductive Within (part : Json) : Json → Prop
  | whole : Within part part
  | item {items : List Json} {item : Json} (hmem : item ∈ items) (h : Within part item) :
      Within part (.array items)
  | field {fields : List (String × Json)} {name : String} {value : Json}
      (hmem : (name, value) ∈ fields) (h : Within part value) : Within part (.object fields)

theorem infix_intercalate (mark : String) {part : String} {parts : List String}
    (h : part ∈ parts) :
    part.toList <:+: (mark.intercalate parts).toList := by
  rw [String.toList_intercalate]
  refine List.infix_of_mem_flatten ?_
  induction parts with
  | nil => cases h
  | cons first rest ih =>
    cases rest with
    | nil =>
      rw [List.mem_singleton.mp h]
      exact List.mem_singleton_self _
    | cons second rest =>
      rcases List.mem_cons.mp h with rfl | hrest
      · exact List.mem_cons_self
      · exact List.mem_cons_of_mem _ (List.mem_cons_of_mem _ (ih hrest))

theorem prettyItems_eq_map (depth : Nat) (items : List Json) :
    prettyItems depth items = items.map fun item => indent depth ++ prettyAt depth item := by
  induction items with
  | nil => rfl
  | cons item rest ih => rw [prettyItems, ih, List.map_cons]

theorem prettyFields_eq_map (depth : Nat) (fields : List (String × Json)) :
    prettyFields depth fields = fields.map fun field =>
      indent depth ++ quote field.1 ++ ": " ++ prettyAt depth field.2 := by
  induction fields with
  | nil => rfl
  | cons field rest ih => rw [prettyFields, ih, List.map_cons]

/-- A text at the end of one of the parts that are joined between two others. -/
theorem infix_joined (front back : String) {text mark : String} {parts : List String}
    (h : mark ++ text ∈ parts) :
    text.toList <:+: (front ++ ",".intercalate parts ++ back).toList := by
  have hpart : text.toList <:+: (mark ++ text).toList := by
    rw [String.toList_append]
    exact (List.suffix_append _ _).isInfix
  refine (hpart.trans (infix_intercalate "," h)).trans ?_
  rw [String.toList_append, String.toList_append]
  exact List.infix_append _ _ _

theorem infix_array {item : Json} {items : List Json} (depth : Nat) (h : item ∈ items) :
    (prettyAt (depth + 1) item).toList <:+: (prettyAt depth (.array items)).toList := by
  have hpart := infix_joined "[" (indent depth ++ "]")
    (List.mem_map_of_mem (f := fun item => indent (depth + 1) ++ prettyAt (depth + 1) item) h)
  rw [← prettyItems_eq_map, ← String.append_assoc] at hpart
  -- An empty array is printed without its parts, but it has no item.
  cases items with
  | nil => cases h
  | cons first rest => exact hpart

theorem infix_object {name : String} {value : Json} {fields : List (String × Json)} (depth : Nat)
    (h : (name, value) ∈ fields) :
    (prettyAt (depth + 1) value).toList <:+: (prettyAt depth (.object fields)).toList := by
  have hpart := infix_joined "\x7b" (indent depth ++ "\x7d")
    (List.mem_map_of_mem (f := fun field : String × Json =>
      indent (depth + 1) ++ quote field.1 ++ ": " ++ prettyAt (depth + 1) field.2) h)
  rw [← prettyFields_eq_map, ← String.append_assoc] at hpart
  cases fields with
  | nil => cases h
  | cons first rest => exact hpart

/-- What stands inside a value is printed inside it, somewhat indented. -/
theorem Within.infix_prettyAt {part value : Json} (h : Within part value) (depth : Nat) :
    ∃ inner, (prettyAt inner part).toList <:+: (prettyAt depth value).toList := by
  induction h generalizing depth with
  | whole => exact ⟨depth, List.infix_rfl⟩
  | item hmem _ ih =>
    obtain ⟨inner, hinner⟩ := ih (depth + 1)
    exact ⟨inner, hinner.trans (infix_array depth hmem)⟩
  | field hmem _ ih =>
    obtain ⟨inner, hinner⟩ := ih (depth + 1)
    exact ⟨inner, hinner.trans (infix_object depth hmem)⟩

/-- Every record of a slot is shown in the ledger. -/
theorem within_ofLedger (ledger : Ledger) {contents : List Ledger.Content}
    {content : Ledger.Content} (hcontent : content ∈ contents) {raw : UInt64}
    (hraw : raw ∈ content.records) : Within (ofRecord raw) (ofLedger ledger contents) := by
  have hslot : Within (ofRecord raw) (ofSlot content) :=
    .field (List.mem_of_getElem? (i := 3) rfl) (.item (List.mem_map_of_mem hraw) .whole)
  exact .field (List.mem_of_getElem? (i := 1) rfl) (.item (List.mem_map_of_mem hcontent) hslot)

/-- A text without marks stands between quotation marks as it is. -/
theorem quote_eq {s : String} (h : ∀ c ∈ s.toList, ¬ (c = '"' ∨ c = '\\')) :
    quote s = "\"" ++ s ++ "\"" := by
  have hsame : s.toList.flatMap (fun c => if c = '"' ∨ c = '\\' then ['\\', c] else [c]) =
      s.toList := by
    rw [List.flatMap_congr fun c hc => if_neg (h c hc), List.flatMap_singleton']
  rw [quote, hsame, ← String.toList_inj, String.toList_ofList, String.toList_append,
    String.toList_append]
  rfl

theorem quote_label (c : Coordinate) : quote c.label = "\"" ++ c.label ++ "\"" :=
  quote_eq (by cases c <;> simp [Coordinate.label])

/-- A printed address has no marks inside. -/
theorem quote_hexPadded (n : Nat) :
    quote ("0x" ++ Text.hexPadded 16 n) = "\"" ++ ("0x" ++ Text.hexPadded 16 n) ++ "\"" := by
  refine quote_eq fun c hc => ?_
  rw [String.toList_append] at hc
  rcases List.mem_append.mp hc with hmark | hdigit
  · rcases (by simpa using hmark : c = '0' ∨ c = 'x') with rfl | rfl <;> decide
  · obtain ⟨d, hd, rfl⟩ := Text.exists_digitChar_of_mem_hexPadded hdigit
    exact (by decide : ∀ d < 16, ¬ (d.digitChar = '"' ∨ d.digitChar = '\\')) d hd

end Json

namespace FaultAddress

/-- The coordinates with the labels that they are shown by, in the order of the layout. -/
def labelled : List (String × Coordinate) :=
  [("processor", .processor), ("die", .die), ("stack", .stack), ("sid", .sid),
   ("channel", .channel), ("bank_group", .bankGroup), ("bank", .bank), ("row", .row),
   ("column", .column), ("error_type", .errorType), ("repair_type", .repairType),
   ("reserved", .reserved), ("crc8", .crc8)]

/-- The text of a fault: a line for each coordinate, with its label and its value. -/
def linesAt (depth : Nat) (order : List (String × Coordinate)) (fault : FaultAddress) : String :=
  "\x7b" ++ ",".intercalate (order.map fun (label, c) => Json.indent (depth + 1) ++
    "\"" ++ label ++ "\": " ++ Text.decimal (fault.get c).toNat) ++ Json.indent depth ++ "\x7d"

/-- The text of a record in the ledger: its coordinates, in the order of their labels, and
beside them its packed address. -/
def recordAt (depth : Nat) (raw : UInt64) (numeral : String) : String :=
  "\"fault\": " ++ linesAt depth (labelled.insertionSort fun a b => a.1 ≤ b.1) (decode raw) ++
    "," ++ Json.indent depth ++ "\"raw\": \"" ++ numeral ++ "\""

section Lines

variable (depth : Nat) (fault : FaultAddress)

theorem prettyAt_ofCoordinates {coordinates : List Coordinate} (hne : coordinates ≠ []) :
    Json.prettyAt depth (Json.ofCoordinates coordinates fault) =
      linesAt depth (coordinates.map fun c => (c.label, c)) fault := by
  have hlines : Json.prettyFields (depth + 1) (coordinates.map fun c =>
        (c.label, .number (fault.get c).toNat)) =
      (coordinates.map fun c => (c.label, c)).map fun (label, c) =>
        Json.indent (depth + 1) ++ "\"" ++ label ++ "\": " ++
          Text.decimal (fault.get c).toNat := by
    rw [Json.prettyFields_eq_map, List.map_map, List.map_map]
    refine List.map_congr_left fun c _ => ?_
    simp only [Function.comp_apply, Json.quote_label, Json.prettyAt, String.append_assoc]
    rfl
  rw [linesAt, ← hlines, Json.ofCoordinates]
  cases coordinates with
  | nil => exact absurd rfl hne
  | cons c rest => rfl

theorem prettyAt_ofFault :
    Json.prettyAt depth (Json.ofFault fault) = linesAt depth labelled fault :=
  prettyAt_ofCoordinates depth fault (by simp [layout])

/-- The ledger orders the coordinates by their labels. -/
theorem prettyAt_ofFaultByLabel :
    Json.prettyAt depth (Json.ofFaultByLabel fault) =
      linesAt depth (labelled.insertionSort fun a b => a.1 ≤ b.1) fault := by
  have hsorted : labelled.insertionSort (fun a b => a.1 ≤ b.1) =
      [Coordinate.bank, .bankGroup, .channel, .column, .crc8, .die, .errorType, .processor,
        .repairType, .reserved, .row, .sid, .stack].map fun c => (c.label, c) := by
    decide +kernel
  rw [hsorted]
  exact prettyAt_ofCoordinates depth fault (by simp)

theorem infix_ofRecord (raw : UInt64) :
    (recordAt (depth + 1) raw ("0x" ++ Text.hexPadded 16 raw.toNat)).toList <:+:
      (Json.prettyAt depth (Json.ofRecord raw)).toList := by
  have htext : Json.prettyAt depth (Json.ofRecord raw) =
      "\x7b" ++ (Json.indent (depth + 1) ++ "\"fault\"" ++ ": " ++
        Json.prettyAt (depth + 1) (Json.ofFaultByLabel (decode raw)) ++ "," ++
        (Json.indent (depth + 1) ++ "\"raw\"" ++ ": " ++
          Json.quote ("0x" ++ Text.hexPadded 16 raw.toNat))) ++ Json.indent depth ++ "\x7d" :=
    rfl
  have hparts : Json.prettyAt depth (Json.ofRecord raw) =
      "\x7b" ++ Json.indent (depth + 1) ++
        recordAt (depth + 1) raw ("0x" ++ Text.hexPadded 16 raw.toNat) ++
        (Json.indent depth ++ "\x7d") := by
    rw [htext, Json.quote_hexPadded, prettyAt_ofFaultByLabel, recordAt]
    simp only [String.append_assoc]
    rfl
  rw [hparts, String.toList_append, String.toList_append]
  exact List.infix_append _ _ _

end Lines

/-- The digits of a printed record are read as the record. -/
theorem parse_printed (raw : UInt64) :
    parse ("0x" ++ Text.hexPadded 16 raw.toNat) = .ok (decode raw) := by
  have hlength : (Text.hexPadded 16 raw.toNat).toList.length = 16 :=
    Text.length_hexPadded (by decide) raw.toNat_lt
  have hne : (Text.hexPadded 16 raw.toNat).toList ≠ [] := by
    intro hnil
    rw [hnil] at hlength
    cases hlength
  have htext : ("0x" ++ Text.hexPadded 16 raw.toNat).toList =
      ['0', 'x'] ++ (Text.hexPadded 16 raw.toNat).toList := String.toList_append
  have hblank : ∀ c ∈ ("0x" ++ Text.hexPadded 16 raw.toNat).toList, Text.isBlank c = false := by
    rw [htext]
    intro c hc
    rcases List.mem_append.mp hc with hmark | hdigit
    · have hall : (['0', 'x'].all fun c => !Text.isBlank c) = true := by decide
      simpa using List.all_eq_true.mp hall c hmark
    · obtain ⟨d, hd, rfl⟩ := Text.exists_digitChar_of_mem_hexPadded hdigit
      exact (by decide : ∀ d < 16, Text.isBlank d.digitChar = false) d hd
  refine parse_eq_ok_iff.mpr ⟨raw.toNat, raw.toNat_lt_size, ?_, by rw [UInt64.ofNat_toNat]⟩
  rw [Text.trim_of_bare (.of_forall hblank), htext]
  exact .marked (Or.inl rfl) ((Text.denotes_hexPadded 16 raw.toNat).unsigned hne)

/-- Reading accepts the spellings of 64-bit numbers, with blanks around them, and refuses
every other text by name. A record in the output of the ledger is such a spelling, and the
decode command shows for it the coordinates that stand beside it there: the thirteen of the
address that it spells. -/
theorem parse_spellings :
    (∀ text : String, ∃ core, (∀ other, Text.Strips text.toList other ↔ other = core) ∧
      (∀ fault, parse text = .ok fault ↔
        ∃ v < 2 ^ 64, Spells core v ∧ fault = decode (UInt64.ofNat v)) ∧
      ∀ failure, parse text = .error failure ↔
        failure = .faultAddress (String.ofList core) ∧ ¬ ∃ v < 2 ^ 64, Spells core v) ∧
    ∀ (settings : Settings) (machine : Machine) (contents : List Ledger.Content),
      let vars := Machine.variableStore settings.variableDirectory
      Ledger.readAll vars (vars.directory machine) = .ok contents →
      (vars.directory machine).totalSize < UInt64.size →
      ∃ output, (Act.run (CommandLine.ledgerOutput settings) machine).value = .ok (.ok output) ∧
        ∀ content ∈ contents, ∀ raw ∈ content.records, ∃ digits depth,
          (recordAt depth raw ("0x" ++ String.ofList digits)).toList <:+: output.toList ∧
          digits.length = 16 ∧ (∀ c ∈ digits, ∃ d < 16, c = d.digitChar) ∧
          Text.Denotes 16 digits raw.toNat ∧
          CommandLine.decodeOutput ("0x" ++ String.ofList digits) =
            .ok (linesAt 0 labelled (decode raw)) := by
  constructor
  · intro text
    exact ⟨Text.trim text.toList, fun other => Text.strips_iff, fun fault => parse_eq_ok_iff,
      fun failure => parse_eq_error_iff⟩
  · intro settings machine contents vars hcontents hsum
    obtain ⟨answer, hvalue, -, ledger, hanswer⟩ :=
      CommandLine.ledgerOutput_ends settings machine hsum
    rw [hcontents] at hanswer
    refine ⟨_, hvalue.trans (congrArg _ hanswer), fun content hcontent raw hraw => ?_⟩
    obtain ⟨depth, hinfix⟩ := (Json.within_ofLedger ledger hcontent hraw).infix_prettyAt 0
    refine ⟨(Text.hexPadded 16 raw.toNat).toList, depth + 1, ?_,
      Text.length_hexPadded (by decide) raw.toNat_lt,
      fun c => Text.exists_digitChar_of_mem_hexPadded, Text.denotes_hexPadded 16 raw.toNat, ?_⟩
    · rw [String.ofList_toList]
      exact (infix_ofRecord depth raw).trans hinfix
    · rw [String.ofList_toList, CommandLine.decodeOutput, parse_printed, ← prettyAt_ofFault]
      rfl

/-- One slot with one record, whose printed text is decoded again. -/
theorem parse_spellings_oneRecord :
    let settings : Settings := { Settings.initial with variableDirectory := "/efi" }
    let machine : Machine :=
      { files := ⟨[(["efi"], .directory),
          (["efi", Slot.fileName 3], .file (Ledger.chunk 7 0x03FF))]⟩ }
    let vars := Machine.variableStore "/efi"
    Ledger.readAll vars (vars.directory machine) = .ok [⟨3, 7, [0x03FF]⟩] ∧
    (vars.directory machine).totalSize < UInt64.size ∧
    ∃ output, (Act.run (CommandLine.ledgerOutput settings) machine).value = .ok (.ok output) ∧
      ∃ digits depth,
        (recordAt depth 0x03FF ("0x" ++ String.ofList digits)).toList <:+: output.toList ∧
        CommandLine.decodeOutput ("0x" ++ String.ofList digits) =
          .ok (linesAt 0 labelled ⟨3, 1, 7, 7, 1, 0, 0, 0, 0, 0, 0, 0, 0⟩) := by
  intro settings machine vars
  have hread : Ledger.readAll vars (vars.directory machine) = .ok [⟨3, 7, [0x03FF]⟩] := by
    have hsome : (Ledger.readAll vars (vars.directory machine)).toOption =
        some [⟨3, 7, [0x03FF]⟩] := by decide +kernel
    cases hresult : Ledger.readAll vars (vars.directory machine) with
    | error failure =>
      rw [hresult] at hsome
      cases hsome
    | ok contents =>
      rw [hresult] at hsome
      rw [Option.some.inj hsome]
  have hsum : (vars.directory machine).totalSize < UInt64.size := by decide +kernel
  have hdecode : decode 0x03FF = ⟨3, 1, 7, 7, 1, 0, 0, 0, 0, 0, 0, 0, 0⟩ := by decide
  obtain ⟨output, hvalue, hrecords⟩ := parse_spellings.2 settings machine _ hread hsum
  obtain ⟨digits, depth, hprinted, -, -, -, hdecoded⟩ :=
    hrecords _ List.mem_cons_self 0x03FF List.mem_cons_self
  rw [hdecode] at hdecoded
  exact ⟨hread, hsum, output, hvalue, digits, depth, hprinted, hdecoded⟩

end FaultAddress

end MemoryRepair
