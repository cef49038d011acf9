import Mathlib.Data.List.TakeWhile
import MemoryRepair.Proofs.Numerals
import MemoryRepair.Text.Lines

/-!
Texts put together from pieces. A text is split where it was joined, trimming takes away the
blanks around a text that has none at its ends, and what is read off the lines of a text is
read off the pieces between its line feeds. The digits of a number are read as the number.
-/
namespace MemoryRepair.Text

section Pieces

variable {test : Char → Bool} {piece : List Char} {mark : Char}

theorem splitBy_of_forall (hpiece : ∀ c ∈ piece, test c = false) :
    splitBy test piece = [piece] := by
  induction piece with
  | nil => rfl
  | cons c piece ih =>
    rw [splitBy, hpiece c List.mem_cons_self,
      ih fun other hother => hpiece other (List.mem_cons_of_mem _ hother)]
    rfl

/-- A text is split at every such character. -/
theorem splitBy_append_mark (hmark : test mark = true) (front rest : List Char) :
    splitBy test (front ++ mark :: rest) = splitBy test front ++ splitBy test rest := by
  induction front with
  | nil => simp only [List.nil_append, splitBy, hmark, if_true, List.singleton_append]
  | cons c front ih =>
    rw [List.cons_append, splitBy, splitBy, ih]
    by_cases hc : test c = true
    · rw [if_pos hc, if_pos hc, List.cons_append]
    · rw [if_neg hc, if_neg hc]
      cases hsplit : splitBy test front with
      | nil => exact absurd hsplit (splitBy_ne_nil test front)
      | cons first pieces => rfl

/-- A piece without such a character ends at the first one. -/
theorem splitBy_append_cons (hpiece : ∀ c ∈ piece, test c = false) (hmark : test mark = true)
    (rest : List Char) : splitBy test (piece ++ mark :: rest) = piece :: splitBy test rest := by
  rw [splitBy_append_mark hmark, splitBy_of_forall hpiece]
  rfl

/-- Pieces that each end with such a character, and a rest without one. -/
theorem splitBy_flatMap_append {pieces : List (List Char)} {rest : List Char}
    (hpieces : ∀ piece ∈ pieces, ∀ c ∈ piece, test c = false) (hmark : test mark = true)
    (hrest : ∀ c ∈ rest, test c = false) :
    splitBy test (pieces.flatMap (· ++ [mark]) ++ rest) = pieces ++ [rest] := by
  induction pieces with
  | nil => exact splitBy_of_forall hrest
  | cons piece pieces ih =>
    rw [List.forall_mem_cons] at hpieces
    rw [List.flatMap_cons, List.append_assoc, List.append_assoc, List.singleton_append,
      splitBy_append_cons hpieces.1 hmark, ih hpieces.2, List.cons_append]

theorem beq_eq_false_of_not_mem (h : mark ∉ piece) : ∀ c ∈ piece, (c == mark) = false := by
  intro c hc
  rw [beq_eq_false_iff_ne]
  rintro rfl
  exact h hc

/-- The last piece ends as the text does, unless the text ends between two pieces. -/
theorem splitBy_concat (test : Char → Bool) {c : Char} (hc : test c = false) (front : List Char) :
    ∃ pieces piece, splitBy test (front ++ [c]) = pieces ++ [piece ++ [c]] := by
  induction front with
  | nil => exact ⟨[], [], by simp [splitBy, hc]⟩
  | cons first front ih =>
    obtain ⟨pieces, piece, hsplit⟩ := ih
    by_cases hfirst : test first = true
    · exact ⟨[] :: pieces, piece, by simp [splitBy, hfirst, hsplit]⟩
    · cases pieces with
      | nil => exact ⟨[], first :: piece, by simp [splitBy, hfirst, hsplit]⟩
      | cons other pieces =>
        exact ⟨(first :: other) :: pieces, piece, by simp [splitBy, hfirst, hsplit]⟩

/-- The first word of a text that begins with a single blank. -/
theorem head?_words_cons {word : List Char} (hne : word ≠ [])
    (hword : ∀ c ∈ word, isBlank c = false) {first last : Char} (hfirst : isBlank first = true)
    (hlast : isBlank last = true) (rest : List Char) :
    (words (first :: (word ++ last :: rest))).head? = some word := by
  rw [words, splitBy, if_pos hfirst, splitBy_append_cons hword hlast]
  simp [hne]

/-- The last word of a text that does not end with a blank. -/
theorem getLast?_words_append {word : List Char} (hne : word ≠ [])
    (hword : ∀ c ∈ word, isBlank c = false) {blank : Char} (hblank : isBlank blank = true)
    (front : List Char) : (words (front ++ blank :: word)).getLast? = some word := by
  rw [words, splitBy_append_mark hblank, splitBy_of_forall hword, List.filter_append]
  simp [hne]

theorem stripStart?_append (mark rest : List Char) :
    stripStart? mark (mark ++ rest) = some rest := by
  rw [stripStart?, if_pos (List.isPrefixOf_iff_prefix.mpr (List.prefix_append mark rest)),
    List.drop_left]

theorem stripStart?_eq_none {mark text : List Char} (h : ¬ mark <+: text) :
    stripStart? mark text = none := by
  rw [stripStart?, if_neg fun hprefix => h (List.isPrefixOf_iff_prefix.mp hprefix)]

theorem splitOnce?_append {mark : Char} {front : List Char} (hfront : mark ∉ front)
    (rest : List Char) : splitOnce? mark (front ++ mark :: rest) = some (front, rest) := by
  have hne : ∀ c ∈ front, (c != mark) = true := by
    intro c hc
    rw [bne_iff_ne]
    rintro rfl
    exact hfront hc
  rw [splitOnce?, List.dropWhile_append_of_pos hne, List.takeWhile_append_of_pos hne,
    List.dropWhile_cons_of_neg (by simp), List.takeWhile_cons_of_neg (by simp), List.append_nil]

end Pieces

section Blanks

/-- A text that neither begins nor ends with a blank. -/
structure Bare (text : List Char) : Prop where
  head : text.head?.any isBlank = false
  last : text.getLast?.any isBlank = false

instance (text : List Char) : Decidable (Bare text) :=
  decidable_of_iff (text.head?.any isBlank = false ∧ text.getLast?.any isBlank = false)
    ⟨fun h => ⟨h.1, h.2⟩, fun h => ⟨h.head, h.last⟩⟩

theorem Bare.of_forall {text : List Char} (h : ∀ c ∈ text, isBlank c = false) : Bare text := by
  have hends : ∀ found : Option Char, (∀ c ∈ found, c ∈ text) → found.any isBlank = false := by
    intro found hfound
    cases found with
    | none => rfl
    | some c => exact h c (hfound c rfl)
  exact ⟨hends _ fun _ => List.mem_of_mem_head?, hends _ fun _ => List.mem_of_getLast?⟩

/-- What stands between two texts makes no difference to the ends of the whole. -/
theorem Bare.surround {front back : List Char} (hfront : Bare front) (hfrontNe : front ≠ [])
    (hback : Bare back) (hbackNe : back ≠ []) (middle : List Char) :
    Bare (front ++ (middle ++ back)) := by
  constructor
  · rw [List.head?_append, List.head?_eq_some_head hfrontNe, Option.some_or,
      ← List.head?_eq_some_head hfrontNe]
    exact hfront.head
  · rw [← List.append_assoc, List.getLast?_append, List.getLast?_eq_some_getLast hbackNe,
      Option.some_or, ← List.getLast?_eq_some_getLast hbackNe]
    exact hback.last

theorem dropWhile_isBlank {text : List Char} (h : text.head?.any isBlank = false) :
    text.dropWhile isBlank = text := by
  cases text with
  | nil => rfl
  | cons c rest =>
    rw [List.head?_cons, Option.any_some] at h
    exact List.dropWhile_cons_of_neg (Bool.not_eq_true _ ▸ h)

theorem head?_dropWhile_isBlank (text : List Char) :
    (text.dropWhile isBlank).head?.any isBlank = false := by
  induction text with
  | nil => rfl
  | cons c rest ih =>
    by_cases hc : isBlank c = true
    · rw [List.dropWhile_cons_of_pos hc]
      exact ih
    · rw [List.dropWhile_cons_of_neg hc, List.head?_cons, Option.any_some]
      exact Bool.eq_false_iff.mpr hc

/-- Trimming takes away the blanks before a text. -/
theorem trim_append {front text : List Char} (hfront : ∀ c ∈ front, isBlank c = true)
    (h : Bare text) : trim (front ++ text) = text := by
  have hreverse : text.reverse.head?.any isBlank = false := by
    rw [List.head?_reverse]
    exact h.last
  rw [trim, trimStart, List.dropWhile_append_of_pos hfront, dropWhile_isBlank h.head, trimEnd,
    dropWhile_isBlank hreverse, List.reverse_reverse]

theorem trim_cons {c : Char} {text : List Char} (hc : isBlank c = true) (h : Bare text) :
    trim (c :: text) = text :=
  trim_append (List.forall_mem_singleton.mpr hc) h

theorem trim_of_bare {text : List Char} (h : Bare text) : trim text = text :=
  trim_append (List.forall_mem_nil _) h

/-- A blank at the end makes no difference to a trimmed text. -/
theorem trim_concat {c : Char} (hc : isBlank c = true) (text : List Char) :
    trim (text ++ [c]) = trim text := by
  have hend : ∀ front : List Char, trimEnd (front ++ [c]) = trimEnd front := by
    intro front
    rw [trimEnd, List.reverse_concat, List.dropWhile_cons_of_pos hc, trimEnd]
  rw [trim, trim, trimStart, trimStart, List.dropWhile_append]
  by_cases hempty : (text.dropWhile isBlank).isEmpty = true
  · rw [if_pos hempty, List.dropWhile_cons_of_pos hc, List.isEmpty_iff.mp hempty]
    rfl
  · rw [if_neg hempty, hend]

theorem trim_append_blanks {back : List Char} (hback : ∀ c ∈ back, isBlank c = true)
    (text : List Char) : trim (text ++ back) = trim text := by
  induction back generalizing text with
  | nil => rw [List.append_nil]
  | cons c back ih =>
    rw [List.forall_mem_cons] at hback
    rw [List.append_cons, ih hback.2, trim_concat hback.1]

/-- A text with the blanks around it left out. -/
def Strips (text core : List Char) : Prop :=
  ∃ front back, text = front ++ core ++ back ∧ (∀ c ∈ front, isBlank c = true) ∧
    (∀ c ∈ back, isBlank c = true) ∧ Bare core

theorem exists_trimEnd_append (text : List Char) :
    ∃ back, text = trimEnd text ++ back ∧ (∀ c ∈ back, isBlank c = true) ∧
      (trimEnd text).getLast?.any isBlank = false := by
  refine ⟨(text.reverse.takeWhile isBlank).reverse, ?_, ?_, ?_⟩
  · rw [trimEnd, ← List.reverse_append, List.takeWhile_append_dropWhile, List.reverse_reverse]
  · intro c hc
    exact List.all_eq_true.mp List.all_takeWhile c (List.mem_reverse.mp hc)
  · rw [trimEnd, List.getLast?_reverse]
    exact head?_dropWhile_isBlank text.reverse

/-- Trimming leaves out the blanks around a text, and nothing else can be left. -/
theorem strips_iff {text core : List Char} : Strips text core ↔ core = trim text := by
  constructor
  · rintro ⟨front, back, rfl, hfront, hback, hcore⟩
    rw [trim_append_blanks hback, trim_append hfront hcore]
  · rintro rfl
    obtain ⟨back, hback, hblank, hlast⟩ := exists_trimEnd_append (trimStart text)
    refine ⟨text.takeWhile isBlank, back, ?_, ?_, hblank, ?_, hlast⟩
    · rw [List.append_assoc, trim, ← hback, trimStart, List.takeWhile_append_dropWhile]
    · exact List.all_eq_true.mp List.all_takeWhile
    · have hhead : (trimStart text).head?.any isBlank = false := head?_dropWhile_isBlank text
      rw [trim]
      cases hcore : trimEnd (trimStart text) with
      | nil => rfl
      | cons c rest =>
        rw [hback, hcore] at hhead
        exact hhead

theorem trim_stripReturn (line : List Char) : trim (stripReturn line) = trim line := by
  unfold stripReturn
  split
  · next rest hreverse =>
    have hline : line = rest.reverse ++ ['\r'] := by
      rw [← List.reverse_reverse line, hreverse, List.reverse_cons]
    rw [hline, trim_concat (by decide)]
  · rfl

theorem isBlank_of_isDigit {c : Char} (h : c.isDigit = true) : isBlank c = false := by
  have hrange : 48 ≤ c.toNat ∧ c.toNat ≤ 57 := by
    simpa [Char.isDigit, UInt32.le_iff_toNat_le] using h
  simp only [isBlank, blankRanges, List.any_cons, List.any_nil, Bool.or_false, Bool.or_eq_false_iff,
    Bool.and_eq_false_iff, decide_eq_false_iff_not]
  omega

/-- The line of a key with its value begins with the key, and the value follows. -/
theorem exists_trim_entry {key value : List Char} (hkey : Bare key) (hne : key ≠ [])
    (hvalue : Bare value) :
    ∃ rest, trim (key ++ ' ' :: value) = key ++ rest ∧ trim rest = value := by
  by_cases hempty : value = []
  · subst hempty
    refine ⟨[], ?_, rfl⟩
    rw [trim_concat (by decide), trim_of_bare hkey, List.append_nil]
  · have hentry := hkey.surround hne hvalue hempty [' ']
    exact ⟨' ' :: value, trim_of_bare hentry, trim_cons (by decide) hvalue⟩

end Blanks

section Lines

variable {α : Type}

/-- What is read off the lines of a text is read off its pieces, if it depends neither on a
carriage return at the end nor on a piece that is empty. -/
theorem filterMap_lines {read : List Char → Option α}
    (hreturn : ∀ line, read (stripReturn line) = read line) (hempty : read [] = none)
    (text : List Char) :
    (lines text).filterMap read = (splitBy (· == '\n') text).filterMap read := by
  have hclose : ∀ pieces, (closeLines pieces).filterMap read = pieces.filterMap read := by
    intro pieces
    induction pieces with
    | nil => rfl
    | cons line pieces ih =>
      cases pieces with
      | nil =>
        rw [closeLines]
        by_cases hline : line.isEmpty = true
        · rw [if_pos hline, List.isEmpty_iff.mp hline, List.filterMap_cons_none hempty]
        · rw [if_neg hline]
      | cons next rest =>
        rw [closeLines, List.filterMap_cons, List.filterMap_cons, hreturn, ih]
  exact hclose _

end Lines

section Numbers

theorem isDigit_of_mem_toDigits {n : Nat} {c : Char} (h : c ∈ Nat.toDigits 10 n) :
    c.isDigit = true :=
  Nat.isDigit_of_mem_toDigits (by decide) (by decide) h

theorem unsigned_toDigits (n : Nat) : Unsigned 10 (Nat.toDigits 10 n) n :=
  (denotes_toDigits (by decide) n).unsigned Nat.toDigits_ne_nil

theorem readWord64_toDigits (n : UInt64) : readWord64 10 (Nat.toDigits 10 n.toNat) = .ok n :=
  (readWord64_eq_ok_iff (by decide) (by decide)).mpr (unsigned_toDigits n.toNat)

theorem readWord16_toDigits (n : UInt16) : readWord16 10 (Nat.toDigits 10 n.toNat) = .ok n := by
  have hle : n.toNat ≤ UInt16.size - 1 := Nat.le_pred_of_lt n.toNat_lt_size
  have hread := (readUnsigned_eq_ok_iff (by decide) (by decide)).mpr
    ⟨unsigned_toDigits n.toNat, hle⟩
  rw [readWord16, hread]
  exact congrArg Except.ok UInt16.ofNat_toNat

end Numbers

end MemoryRepair.Text
