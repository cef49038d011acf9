import MemoryRepair.Proofs.StandardTrace
import MemoryRepair.Proofs.TextPieces

/-!
Descriptions as the kernel writes them. A field is declared on a line of its own, and a text
has these lines in their order with other lines between them. Parsing such a text gives back
what was written: the name, the number and the fields of an event, and for a page the places
of the fields that are the first of their names.
-/
namespace MemoryRepair

namespace Trace

/-- The given lines in their order, and between them other lines that begin with none of the
keys when they are trimmed. -/
inductive Interspersed (keys : List String) : List String → List String → Prop
  | nil : Interspersed keys [] []
  | keep (line : String) {core lines : List String} :
      Interspersed keys core lines → Interspersed keys (line :: core) (line :: lines)
  | other (line : String) {core lines : List String} (hline : '\n' ∉ line.toList)
      (hkeys : ∀ key ∈ keys, ¬ key.toList <+: Text.trim line.toList) :
      Interspersed keys core lines → Interspersed keys core (line :: lines)

section Lines

variable {α : Type} {keys core lines : List String}

theorem Interspersed.newline_not_mem (h : Interspersed keys core lines)
    (hcore : ∀ line ∈ core, '\n' ∉ line.toList) : ∀ line ∈ lines, '\n' ∉ line.toList := by
  induction h with
  | nil => exact hcore
  | keep line _ ih =>
    rw [List.forall_mem_cons] at hcore ⊢
    exact ⟨hcore.1, ih hcore.2⟩
  | other line hline _ _ ih =>
    rw [List.forall_mem_cons]
    exact ⟨hline, ih hcore⟩

/-- Lines from which nothing is read drop out. -/
theorem Interspersed.filterMap_eq {read : String → Option α} (h : Interspersed keys core lines)
    (hread : ∀ line, (∀ key ∈ keys, ¬ key.toList <+: Text.trim line.toList) → read line = none) :
    lines.filterMap read = core.filterMap read := by
  induction h with
  | nil => rfl
  | keep line _ ih => rw [List.filterMap_cons, List.filterMap_cons, ih]
  | other line _ hkeys _ ih => rw [List.filterMap_cons_none (hread line hkeys), ih]

/-- A description is split into its lines. The last one may end with the text. -/
theorem splitBy_describe {rest : String} (h : ∀ line ∈ lines ++ [rest], '\n' ∉ line.toList) :
    Text.splitBy (· == '\n') (describe lines ++ rest.toList) =
      (lines ++ [rest]).map String.toList := by
  have hsplit : ∀ text ∈ (lines ++ [rest]).map String.toList, ∀ c ∈ text, (c == '\n') = false := by
    rw [List.forall_mem_map]
    exact fun line hline => Text.beq_eq_false_of_not_mem (h line hline)
  rw [List.map_append, List.forall_mem_append] at hsplit
  have hdescribe : describe lines = (lines.map String.toList).flatMap (· ++ ['\n']) :=
    (List.flatMap_map String.toList (· ++ ['\n']) lines).symm
  rw [hdescribe, Text.splitBy_flatMap_append hsplit.1 (beq_self_eq_true '\n')
    (hsplit.2 _ List.mem_cons_self), List.map_append]
  rfl

/-- What is read off a description is read off the lines that matter. -/
theorem Interspersed.filterMap_lines {read : List Char → Option α} {rest : String}
    (h : Interspersed keys core (lines ++ [rest])) (hcore : ∀ line ∈ core, '\n' ∉ line.toList)
    (hreturn : ∀ line, read (Text.stripReturn line) = read line)
    (hread : ∀ line, (∀ key ∈ keys, ¬ key.toList <+: Text.trim line) → read line = none)
    (hkeys : ∀ key ∈ keys, key.toList ≠ []) :
    (Text.lines (describe lines ++ rest.toList)).filterMap read =
      core.filterMap fun line => read line.toList := by
  have hempty : read [] = none := by
    apply hread
    intro key hkey hprefix
    exact hkeys key hkey (List.prefix_nil.mp hprefix)
  rw [Text.filterMap_lines hreturn hempty, splitBy_describe (h.newline_not_mem hcore),
    List.filterMap_map]
  exact h.filterMap_eq fun line hline => hread line.toList hline

end Lines

/-- A field with what is written about it. A page's fields have a blank before the type, and
an array has its length in brackets after the name. -/
structure Declaration where
  spaced : Bool
  type : String
  name : String
  count : Option String
  offset : UInt64
  size : UInt64
  signed : Bool
  type_ne : type.toList ≠ [] := by decide
  type_bare : Text.Bare type.toList := by decide
  type_plain : ';' ∉ type.toList ∧ '\n' ∉ type.toList := by decide
  name_ne : name.toList ≠ [] := by decide
  name_solid : name.toList.any Text.isBlank = false := by decide
  name_plain : ';' ∉ name.toList ∧ '[' ∉ name.toList := by decide
  count_plain : ∀ text ∈ count, text.toList.any Text.isBlank = false ∧ ';' ∉ text.toList := by
    decide

namespace Declaration

def gap (d : Declaration) : String :=
  if d.spaced then " " else ""

def suffix (d : Declaration) : String :=
  match d.count with
  | none => ""
  | some text => "[" ++ text ++ "]"

/-- A number with its key. -/
def entry (key : String) (n : Nat) : String :=
  "\t" ++ key ++ ":" ++ Text.decimal n

def line (d : Declaration) : String :=
  "\tfield:" ++ d.gap ++ d.type ++ " " ++ d.name ++ d.suffix ++ ";" ++
    entry "offset" d.offset.toNat ++ ";" ++ entry "size" d.size.toNat ++ ";" ++
    entry "signed" d.signed.toNat ++ ";"

/-- The field that is declared. -/
def field (d : Declaration) : Field where
  name := d.name
  offset := d.offset
  size := d.size
  dynamic := decide ("__data_loc".toList <+: d.type.toList)

/-- The type and the name, without the blanks around them. -/
def declared (d : Declaration) : List Char :=
  d.type.toList ++ ' ' :: (d.name.toList ++ d.suffix.toList)

theorem toList_entry (key : String) (n : Nat) :
    (entry key n).toList = '\t' :: (key.toList ++ ':' :: Nat.toDigits 10 n) := by
  simp [entry, Text.decimal]

/-- The parts of the line that end with a semicolon. -/
def parts (d : Declaration) : List (List Char) :=
  [d.gap.toList ++ d.declared, (entry "offset" d.offset.toNat).toList,
    (entry "size" d.size.toNat).toList, (entry "signed" d.signed.toNat).toList]

theorem toList_line (d : Declaration) :
    d.line.toList = '\t' :: (Field.mark ++ d.parts.flatMap (· ++ [';'])) := by
  unfold line parts declared Field.mark
  simp

section Parts

variable (d : Declaration)

theorem isBlank_of_mem_gap : ∀ c ∈ d.gap.toList, Text.isBlank c = true := by
  unfold gap
  by_cases hspaced : d.spaced = true
  · rw [if_pos hspaced]
    simp [Text.isBlank, Text.blankRanges]
  · rw [if_neg hspaced]
    simp

/-- The last word of a declaration has no blank and no semicolon. -/
theorem word_plain : (d.name.toList ++ d.suffix.toList).any Text.isBlank = false ∧
    ';' ∉ d.name.toList ++ d.suffix.toList := by
  have hsuffix : d.suffix.toList.any Text.isBlank = false ∧ ';' ∉ d.suffix.toList := by
    unfold suffix
    cases hcount : d.count with
    | none => decide
    | some text =>
      have hplain := d.count_plain text hcount
      simp only [String.toList_append, List.any_append, List.mem_append, Bool.or_eq_false_iff,
        not_or]
      exact ⟨⟨⟨by decide, hplain.1⟩, by decide⟩, ⟨by decide, hplain.2⟩, by decide⟩
  rw [List.any_append, Bool.or_eq_false_iff, List.mem_append, not_or]
  exact ⟨⟨d.name_solid, hsuffix.1⟩, d.name_plain.1, hsuffix.2⟩

theorem isBlank_of_mem_word : ∀ c ∈ d.name.toList ++ d.suffix.toList, Text.isBlank c = false := by
  intro c hc
  have hword := d.word_plain.1
  rw [List.any_eq_false] at hword
  exact Bool.eq_false_iff.mpr (hword c hc)

theorem word_ne : d.name.toList ++ d.suffix.toList ≠ [] :=
  List.append_ne_nil_of_left_ne_nil d.name_ne _

theorem bare_declared : Text.Bare d.declared :=
  d.type_bare.surround d.type_ne (.of_forall d.isBlank_of_mem_word) d.word_ne [' ']

theorem trim_declared : Text.trim (d.gap.toList ++ d.declared) = d.declared :=
  Text.trim_append d.isBlank_of_mem_gap d.bare_declared

theorem nameOf_declared : Field.nameOf d.declared = some d.name := by
  have hword : (Text.words d.declared).getLast? = some (d.name.toList ++ d.suffix.toList) :=
    Text.getLast?_words_append d.word_ne d.isBlank_of_mem_word (by decide) _
  have hname : ∀ c ∈ d.name.toList, (c != '[') = true := by
    intro c hc
    rw [bne_iff_ne]
    rintro rfl
    exact d.name_plain.2 hc
  have hsuffix : d.suffix.toList.takeWhile (· != '[') = [] := by
    unfold suffix
    cases d.count with
    | none => rfl
    | some text => simp
  rw [Field.nameOf, hword, Option.map_some, List.takeWhile_append_of_pos hname, hsuffix,
    List.append_nil, String.ofList_toList]

/-- A mark without a blank begins the declaration exactly if it begins the type. -/
theorem isPrefixOf_declared {mark : List Char} (hmark : ' ' ∉ mark) :
    mark.isPrefixOf d.declared = decide (mark <+: d.type.toList) := by
  rw [Bool.eq_iff_iff, List.isPrefixOf_iff_prefix, decide_eq_true_iff]
  constructor
  · intro h
    rcases List.prefix_or_prefix_of_prefix h (List.prefix_append d.type.toList _) with h' | h'
    · exact h'
    · obtain ⟨more, rfl⟩ := h'
      cases more with
      | nil => exact ⟨[], by simp⟩
      | cons c more =>
        rw [declared, List.prefix_append_right_inj, List.cons_prefix_cons] at h
        rw [h.1] at hmark
        simp at hmark
  · exact fun h => h.trans (List.prefix_append _ _)

end Parts

theorem bare_toDigits (n : Nat) : Text.Bare (Nat.toDigits 10 n) :=
  .of_forall fun _ hc => Text.isBlank_of_isDigit (Text.isDigit_of_mem_toDigits hc)

/-- A number is found under its key. -/
theorem splitOnce?_entry {key : String} (hbare : Text.Bare key.toList) (hne : key.toList ≠ [])
    (hkey : ':' ∉ key.toList) (n : Nat) :
    Text.splitOnce? ':' (Text.trim (entry key n).toList) =
      some (key.toList, Nat.toDigits 10 n) := by
  have hentry : Text.Bare (key.toList ++ ([':'] ++ Nat.toDigits 10 n)) :=
    hbare.surround hne (bare_toDigits n) Nat.toDigits_ne_nil [':']
  have htrim : Text.trim (entry key n).toList = key.toList ++ ':' :: Nat.toDigits 10 n := by
    rw [toList_entry]
    exact Text.trim_cons (by decide) hentry
  rw [htrim, Text.splitOnce?_append hkey]

theorem numberOf_entries (offset size : UInt64) (signed : Nat) :
    Field.numberOf "offset" [(entry "offset" offset.toNat).toList,
        (entry "size" size.toNat).toList, (entry "signed" signed).toList, []] = some offset ∧
      Field.numberOf "size" [(entry "offset" offset.toNat).toList,
        (entry "size" size.toNat).toList, (entry "signed" signed).toList, []] = some size := by
  have hoffset := @splitOnce?_entry "offset" (by decide) (by decide) (by decide)
  have hsize := @splitOnce?_entry "size" (by decide) (by decide) (by decide)
  have hsigned := @splitOnce?_entry "signed" (by decide) (by decide) (by decide)
  have hnone : Text.splitOnce? ':' (Text.trim []) = none := rfl
  constructor <;>
    simp [Field.numberOf, hoffset, hsize, hsigned, hnone, Text.readWord64_toDigits,
      Except.toOption]

section Separators

variable {c : Char}

theorem not_mem_entry (hc : c = ';' ∨ c = '\n') {key : String} (hkey : c ∉ key.toList) (n : Nat) :
    c ∉ (entry key n).toList := by
  rw [toList_entry]
  simp only [List.mem_cons, List.mem_append, not_or]
  have hdigits : c ∉ Nat.toDigits 10 n := by
    intro hmem
    have hdigit := Text.isDigit_of_mem_toDigits hmem
    rcases hc with rfl | rfl <;> exact absurd hdigit (by decide)
  have hfixed : c ≠ '\t' ∧ c ≠ ':' := by
    rcases hc with rfl | rfl <;> decide
  exact ⟨hfixed.1, hkey, hfixed.2, hdigits⟩

theorem not_mem_declared (d : Declaration) (hc : c = ';' ∨ c = '\n') :
    c ∉ d.gap.toList ++ d.declared := by
  have hspace : c ≠ ' ' := by
    rcases hc with rfl | rfl <;> decide
  have hgap : c ∉ d.gap.toList := by
    unfold gap
    by_cases hspaced : d.spaced = true
    · rw [if_pos hspaced]
      simpa using hspace
    · rw [if_neg hspaced]
      simp
  have htype : c ∉ d.type.toList := by
    rcases hc with rfl | rfl
    · exact d.type_plain.1
    · exact d.type_plain.2
  have hword : c ∉ d.name.toList ++ d.suffix.toList := by
    rcases hc with rfl | rfl
    · exact d.word_plain.2
    · intro hmem
      exact absurd (d.isBlank_of_mem_word '\n' hmem) (by decide)
  rw [declared, List.mem_append, List.mem_append, List.mem_cons, not_or, not_or, not_or]
  exact ⟨hgap, htype, hspace, hword⟩

/-- No part of a line has a semicolon or a line feed. -/
theorem not_mem_parts (d : Declaration) (hc : c = ';' ∨ c = '\n') : ∀ part ∈ d.parts, c ∉ part := by
  have hkeys : c ∉ "offset".toList ∧ c ∉ "size".toList ∧ c ∉ "signed".toList := by
    rcases hc with rfl | rfl <;> decide
  simp only [parts, List.forall_mem_cons]
  exact ⟨d.not_mem_declared hc, not_mem_entry hc hkeys.1 _, not_mem_entry hc hkeys.2.1 _,
    not_mem_entry hc hkeys.2.2 _, List.forall_mem_nil _⟩

theorem newline_not_mem_line (d : Declaration) : '\n' ∉ d.line.toList := by
  have hparts : '\n' ∉ d.parts.flatMap (· ++ [';']) := by
    intro h
    obtain ⟨part, hpart, hmem⟩ := List.mem_flatMap.mp h
    rcases List.mem_append.mp hmem with hmem | hmem
    · exact d.not_mem_parts (.inr rfl) part hpart hmem
    · exact absurd hmem (by decide)
  rw [toList_line, List.mem_cons, List.mem_append, not_or, not_or]
  exact ⟨by decide, by decide, hparts⟩

end Separators

/-- Parsing the line of a declaration gives the field that is declared. -/
theorem parse_line (d : Declaration) : Field.parse d.line.toList = some d.field := by
  have hline : Text.trim d.line.toList = Field.mark ++ d.parts.flatMap (· ++ [';']) := by
    obtain ⟨middle, hmiddle⟩ : ∃ middle, d.parts.flatMap (· ++ [';']) = middle ++ [';'] :=
      ⟨(d.parts.take 3).flatMap (· ++ [';']) ++ (entry "signed" d.signed.toNat).toList,
        by simp [parts]⟩
    have hmark : Text.Bare Field.mark := by decide
    have hend : Text.Bare [';'] := by decide
    rw [toList_line, hmiddle]
    exact Text.trim_cons (by decide) (hmark.surround (by decide) hend (by decide) middle)
  have hsplit : Text.splitBy (· == ';') (d.parts.flatMap (· ++ [';'])) = d.parts ++ [[]] := by
    have hparts := Text.splitBy_flatMap_append
      (fun part hpart => Text.beq_eq_false_of_not_mem (d.not_mem_parts (.inl rfl) part hpart))
      (beq_self_eq_true ';') (List.forall_mem_nil _)
    rwa [List.append_nil] at hparts
  rw [Field.parse, hline, Text.stripStart?_append, Option.bind_eq_bind, Option.bind_some, hsplit]
  simp only [parts, List.cons_append, List.nil_append, d.trim_declared, d.nameOf_declared,
    (numberOf_entries _ _ _).1, (numberOf_entries _ _ _).2, Option.bind_eq_bind, Option.bind_some,
    d.isPrefixOf_declared (show ' ' ∉ "__data_loc".toList by decide), field]

theorem filterMap_parse_line (ds : List Declaration) :
    ((ds.map line).filterMap fun text => Field.parse text.toList) = ds.map field := by
  rw [List.filterMap_map, ← List.filterMap_eq_map]
  exact congrArg (List.filterMap · ds) (funext fun d => d.parse_line)

end Declaration

theorem Field.parse_eq_none {line : List Char} (h : ¬ Field.mark <+: Text.trim line) :
    Field.parse line = none := by
  rw [Field.parse, Text.stripStart?_eq_none h]
  rfl

theorem Field.not_mark_prefix_cons {c : Char} (hc : 'f' ≠ c) (rest : List Char) :
    ¬ Field.mark <+: c :: rest := by
  intro h
  exact hc (List.cons_prefix_cons.mp h).1

/-- The fields of a description are read off the lines that matter. -/
theorem parseAll_describe {keys core lines : List String} {rest : String}
    (h : Interspersed keys core (lines ++ [rest])) (hcore : ∀ line ∈ core, '\n' ∉ line.toList)
    (hkeys : ∀ key ∈ keys, key.toList ≠ []) (hfield : "field:" ∈ keys) :
    Field.parseAll (describe lines ++ rest.toList) =
      core.filterMap fun line => Field.parse line.toList := by
  apply h.filterMap_lines hcore ?_ ?_ hkeys
  · intro line
    rw [Field.parse, Field.parse, Text.trim_stripReturn]
  · intro line hline
    exact Field.parse_eq_none (hline "field:" hfield)

/-- A key and its value. -/
def headline (key value : String) : String :=
  key ++ " " ++ value

/-- The lines of an event's description. -/
def eventLines (name : String) (id : UInt16) (ds : List Declaration) : List String :=
  headline "name:" name :: headline "ID:" (Text.decimal id.toNat) :: "format:" ::
    ds.map Declaration.line

def eventKeys : List String := ["field:", "name:", "ID:"]

/-- The value of a key stands on the first line that begins with it. -/
theorem value?_describe {keys core lines : List String} {rest key : String}
    (h : Interspersed keys core (lines ++ [rest])) (hcore : ∀ line ∈ core, '\n' ∉ line.toList)
    (hkeys : ∀ key ∈ keys, key.toList ≠ []) (hkey : key ∈ keys) :
    EventFormat.value? key (describe lines ++ rest.toList) =
      ((core.filterMap fun line =>
        Text.stripStart? key.toList (Text.trim line.toList)).head?).map Text.trim := by
  rw [EventFormat.value?, ← List.head?_filterMap, h.filterMap_lines hcore ?_ ?_ hkeys]
  · intro line
    rw [Text.trim_stripReturn]
  · intro line hline
    exact Text.stripStart?_eq_none (hline key hkey)

section Event

variable {name : String} {id : UInt16} {ds : List Declaration} {lines : List String} {rest : String}

theorem toList_headline (key value : String) :
    (headline key value).toList = key.toList ++ ' ' :: value.toList := by
  simp [headline]

theorem newline_not_mem_eventLines (id : UInt16) (ds : List Declaration)
    (hname : '\n' ∉ name.toList) :
    ∀ line ∈ eventLines name id ds, '\n' ∉ line.toList := by
  have hid : '\n' ∉ Nat.toDigits 10 id.toNat := fun h =>
    absurd (Text.isDigit_of_mem_toDigits h) (by decide)
  simp only [eventLines, List.forall_mem_cons, List.forall_mem_map]
  simp only [toList_headline, List.mem_append, List.mem_cons, not_or, Text.decimal,
    String.toList_ofList]
  exact ⟨⟨by decide, by decide, hname⟩, ⟨by decide, by decide, hid⟩, by decide,
    fun d _ => d.newline_not_mem_line⟩

/-- Trimmed, the first two lines begin with their keys, and the values follow. -/
theorem exists_trim_headlines (hbare : Text.Bare name.toList) (id : UInt16) :
    ∃ nameRest idRest,
      Text.trim (headline "name:" name).toList = "name:".toList ++ nameRest ∧
      Text.trim nameRest = name.toList ∧
      Text.trim (headline "ID:" (Text.decimal id.toNat)).toList = "ID:".toList ++ idRest ∧
      Text.trim idRest = Nat.toDigits 10 id.toNat := by
  have hdigits : (Text.decimal id.toNat).toList = Nat.toDigits 10 id.toNat := String.toList_ofList
  obtain ⟨nameRest, hname, hnameRest⟩ :=
    Text.exists_trim_entry (show Text.Bare "name:".toList by decide) (by decide) hbare
  obtain ⟨idRest, hid, hidRest⟩ :=
    Text.exists_trim_entry (show Text.Bare "ID:".toList by decide) (by decide)
      (Declaration.bare_toDigits id.toNat)
  refine ⟨nameRest, idRest, ?_, hnameRest, ?_, hidRest⟩
  · rw [toList_headline, hname]
  · rw [toList_headline, hdigits, hid]

/-- Parsing the description of an event gives back its name, its number and its fields. -/
theorem parse_eventLines (hbare : Text.Bare name.toList) (hname : '\n' ∉ name.toList)
    (h : Interspersed eventKeys (eventLines name id ds) (lines ++ [rest])) :
    EventFormat.parse (describe lines ++ rest.toList) =
      some ⟨name, id, ds.map Declaration.field⟩ := by
  have hcore := newline_not_mem_eventLines id ds hname
  have hkeys : ∀ key ∈ eventKeys, key.toList ≠ [] := by decide
  obtain ⟨nameRest, idRest, hnameLine, hnameRest, hidLine, hidRest⟩ :=
    exists_trim_headlines hbare id
  have hnameValue : EventFormat.value? "name:" (describe lines ++ rest.toList) =
      some name.toList := by
    rw [value?_describe h hcore hkeys (by decide), eventLines, List.filterMap_cons, hnameLine,
      Text.stripStart?_append]
    simp only [List.head?_cons, Option.map_some, hnameRest]
  have hidValue : EventFormat.value? "ID:" (describe lines ++ rest.toList) =
      some (Nat.toDigits 10 id.toNat) := by
    have hother : Text.stripStart? "ID:".toList ("name:".toList ++ nameRest) = none :=
      Text.stripStart?_eq_none (by simp)
    rw [value?_describe h hcore hkeys (by decide), eventLines, List.filterMap_cons, hnameLine,
      hother, List.filterMap_cons, hidLine, Text.stripStart?_append]
    simp only [List.head?_cons, Option.map_some, hidRest]
  have hfields : Field.parseAll (describe lines ++ rest.toList) = ds.map Declaration.field := by
    have hnameNone : Field.parse (headline "name:" name).toList = none :=
      Field.parse_eq_none (by rw [hnameLine]; exact Field.not_mark_prefix_cons (by decide) _)
    have hidNone : Field.parse (headline "ID:" (Text.decimal id.toNat)).toList = none :=
      Field.parse_eq_none (by rw [hidLine]; exact Field.not_mark_prefix_cons (by decide) _)
    have hformatNone : Field.parse "format:".toList = none := Field.parse_eq_none (by decide)
    rw [parseAll_describe h hcore hkeys (by decide), eventLines]
    simp only [List.filterMap_cons, hnameNone, hidNone, hformatNone,
      Declaration.filterMap_parse_line]
  rw [EventFormat.parse, hnameValue, hidValue, hfields]
  simp only [Option.bind_eq_bind, Option.bind_some, Text.readWord16_toDigits, Except.toOption,
    String.ofList_toList]

end Event

section Page

variable {ds : List Declaration}

/-- The first declaration of a name. -/
def IsFirst (ds : List Declaration) (name : String) (d : Declaration) : Prop :=
  d.name = name ∧ ∃ before after, ds = before ++ d :: after ∧ ∀ other ∈ before, other.name ≠ name

theorem findField_map_eq_some_iff {name : String} {field : Field} :
    findField (ds.map Declaration.field) name = some field ↔
      ∃ d, IsFirst ds name d ∧ d.field = field := by
  rw [findField, List.find?_map, Option.map_eq_some_iff]
  simp only [List.find?_eq_some_iff_append, IsFirst]
  simp [Declaration.field]

theorem findField_map_eq_none_iff {name : String} :
    findField (ds.map Declaration.field) name = none ↔ ∀ d ∈ ds, d.name ≠ name := by
  rw [findField, List.find?_map, Option.map_eq_none_iff, List.find?_eq_none]
  simp [Declaration.field]

/-- Where the fields that are the first of their names say that a page keeps its parts. -/
def Places (ds : List Declaration) (header : HeaderPage) : Prop :=
  ∃ timestamp commit data, IsFirst ds "timestamp" timestamp ∧ IsFirst ds "commit" commit ∧
    IsFirst ds "data" data ∧
    header = ⟨timestamp.offset, commit.offset, commit.size, data.offset⟩

/-- The fields that are looked up on a page. -/
def HeaderPage.fieldNames : List String := ["timestamp", "commit", "data"]

/-- Parsing the description of a page finds the places, or there is no declaration of a name. -/
theorem HeaderPage.parse_lines {lines : List String} {rest : String}
    (h : Interspersed ["field:"] (ds.map Declaration.line) (lines ++ [rest])) :
    (∀ header, HeaderPage.parse (describe lines ++ rest.toList) = some header ↔
      Places ds header) ∧
    (HeaderPage.parse (describe lines ++ rest.toList) = none ↔
      ∃ name ∈ HeaderPage.fieldNames, ∀ d ∈ ds, d.name ≠ name) := by
  have hcore : ∀ line ∈ ds.map Declaration.line, '\n' ∉ line.toList := by
    rw [List.forall_mem_map]
    exact fun d _ => d.newline_not_mem_line
  have hfields : Field.parseAll (describe lines ++ rest.toList) = ds.map Declaration.field := by
    rw [parseAll_describe h hcore (by decide) List.mem_cons_self,
      Declaration.filterMap_parse_line]
  constructor
  · intro header
    simp only [HeaderPage.parse, hfields, Option.bind_eq_bind, Option.bind_eq_some_iff,
      findField_map_eq_some_iff, Option.some.injEq]
    constructor
    · rintro ⟨_, ⟨timestamp, htimestamp, rfl⟩, _, ⟨commit, hcommit, rfl⟩, _, ⟨data, hdata, rfl⟩,
        hheader⟩
      exact ⟨timestamp, commit, data, htimestamp, hcommit, hdata, hheader.symm⟩
    · rintro ⟨timestamp, commit, data, htimestamp, hcommit, hdata, hheader⟩
      exact ⟨_, ⟨timestamp, htimestamp, rfl⟩, _, ⟨commit, hcommit, rfl⟩, _, ⟨data, hdata, rfl⟩,
        hheader.symm⟩
  · have habsent : (∃ name ∈ fieldNames, ∀ d ∈ ds, d.name ≠ name) ↔
        findField (ds.map Declaration.field) "timestamp" = none ∨
          findField (ds.map Declaration.field) "commit" = none ∨
            findField (ds.map Declaration.field) "data" = none := by
      simp [fieldNames, findField_map_eq_none_iff]
    rw [habsent, HeaderPage.parse, hfields]
    cases findField (ds.map Declaration.field) "timestamp" with
    | none => simp
    | some timestamp =>
      cases findField (ds.map Declaration.field) "commit" with
      | none => simp
      | some commit => cases findField (ds.map Declaration.field) "data" <;> simp

end Page

/-- Parsing gives back what a description was written from, whatever other lines stand between
the lines that matter and whether or not the text ends with a line feed. -/
theorem parse_described :
    (∀ (name : String) (id : UInt16) (ds : List Declaration) (lines : List String) (rest : String),
      Text.Bare name.toList → '\n' ∉ name.toList →
      Interspersed eventKeys (eventLines name id ds) (lines ++ [rest]) →
      EventFormat.parse (describe lines ++ rest.toList) =
        some ⟨name, id, ds.map Declaration.field⟩) ∧
    ∀ (ds : List Declaration) (lines : List String) (rest : String),
      Interspersed ["field:"] (ds.map Declaration.line) (lines ++ [rest]) →
      (∀ header, HeaderPage.parse (describe lines ++ rest.toList) = some header ↔
        Places ds header) ∧
      (HeaderPage.parse (describe lines ++ rest.toList) = none ↔
        ∃ name ∈ HeaderPage.fieldNames, ∀ d ∈ ds, d.name ≠ name) :=
  ⟨fun _ _ _ _ _ hbare hname h => parse_eventLines hbare hname h,
    fun _ _ _ h => HeaderPage.parse_lines h⟩

/-- Declarations of an event with a static field and a dynamic one. -/
def messageFields : List Declaration :=
  [{ spaced := false, type := "char", name := "driver", count := some "16",
     offset := 8, size := 16, signed := true },
   { spaced := false, type := "__data_loc char[]", name := "msg", count := none,
     offset := 24, size := 4, signed := false }]

/-- Declarations of a page, one name of which comes twice. -/
def pageFields : List Declaration :=
  [{ spaced := true, type := "u64", name := "timestamp", count := none,
     offset := 0, size := 8, signed := false },
   { spaced := true, type := "local_t", name := "commit", count := none,
     offset := 8, size := 8, signed := true },
   { spaced := true, type := "char", name := "data", count := none,
     offset := 16, size := 4080, signed := true },
   { spaced := true, type := "char", name := "data", count := none,
     offset := 0, size := 1, signed := true }]

example : messageFields.map Declaration.line =
    ["\tfield:char driver[16];\toffset:8;\tsize:16;\tsigned:1;",
     "\tfield:__data_loc char[] msg;\toffset:24;\tsize:4;\tsigned:0;"] := by
  decide +kernel

theorem parse_described_messageFields :
    EventFormat.parse (describe (["", "name: bus_event", "ID: 135", "format:"] ++
        messageFields.map Declaration.line ++ [""]) ++ "print fmt: \"%s\", REC->msg".toList) =
      some ⟨"bus_event", 135, [⟨"driver", 8, 16, false⟩, ⟨"msg", 24, 4, true⟩]⟩ ∧
    HeaderPage.parse (describe (pageFields.map Declaration.line) ++ "".toList) =
      some .standard := by
  have hevent : Interspersed eventKeys (eventLines "bus_event" 135 messageFields)
      ((["", "name: bus_event", "ID: 135", "format:"] ++ messageFields.map Declaration.line ++
        [""]) ++ ["print fmt: \"%s\", REC->msg"]) := by
    have hcore : eventLines "bus_event" 135 messageFields =
        ["name: bus_event", "ID: 135", "format:"] ++ messageFields.map Declaration.line := by
      decide +kernel
    rw [hcore]
    exact .other "" (by decide) (by decide) (.keep _ (.keep _ (.keep _ (.keep _ (.keep _
      (.other "" (by decide) (by decide) (.other _ (by decide) (by decide) .nil)))))))
  have hpage : Interspersed ["field:"] (pageFields.map Declaration.line)
      (pageFields.map Declaration.line ++ [""]) :=
    .keep _ (.keep _ (.keep _ (.keep _ (.other "" (by decide) (by decide) .nil))))
  have hplaces : Places pageFields .standard :=
    ⟨_, _, _, ⟨rfl, [], _, rfl, List.forall_mem_nil _⟩, ⟨rfl, [_], _, rfl, by decide⟩,
      ⟨rfl, [_, _], _, rfl, by decide⟩, rfl⟩
  exact ⟨parse_described.1 "bus_event" 135 messageFields _ _ (by decide) (by decide) hevent,
    ((parse_described.2 pageFields _ _ hpage).1 .standard).mpr hplaces⟩

namespace HeaderPage

/-- Declarations of the fields that are looked up, with the places of a header. -/
def declarations (header : HeaderPage) : List Declaration :=
  [{ spaced := true, type := "u64", name := "timestamp", count := none,
     offset := header.timestampOffset, size := 8, signed := false },
   { spaced := true, type := "local_t", name := "commit", count := none,
     offset := header.commitOffset, size := header.commitSize, signed := true },
   { spaced := true, type := "char", name := "data", count := none,
     offset := header.dataOffset, size := 4080, signed := true }]

/-- A description of pages with the places of a header. -/
def text (header : HeaderPage) : List Char :=
  describe (header.declarations.map Declaration.line)

theorem parse_text (header : HeaderPage) : HeaderPage.parse header.text = some header := by
  have hlines : Interspersed ["field:"] (header.declarations.map Declaration.line)
      (header.declarations.map Declaration.line ++ [""]) :=
    .keep _ (.keep _ (.keep _ (.other "" (by decide) (by decide) .nil)))
  have hplaces : Places header.declarations header :=
    ⟨_, _, _, ⟨rfl, [], _, rfl, List.forall_mem_nil _⟩, ⟨rfl, [_], _, rfl, by simp⟩,
      ⟨rfl, [_, _], _, rfl, by simp⟩, rfl⟩
  have hparse := ((HeaderPage.parse_lines hlines).1 header).mpr hplaces
  rwa [String.toList_empty, List.append_nil] at hparse

end HeaderPage

end Trace

end MemoryRepair
