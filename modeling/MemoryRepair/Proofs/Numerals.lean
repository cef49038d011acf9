import Mathlib.Algebra.GroupWithZero.Nat
import Mathlib.Data.List.Induction
import MemoryRepair.Text.Numeral

/-!
What numerals denote. A row of digits denotes a number, any zeros in front of it included,
and a letter stands for its digit in either case. A reader accepts exactly the rows that
denote a number within its limit, after a plus sign or none, and padded digits denote the
number that was written.
-/
namespace MemoryRepair.Text

/-- The character stands for the digit; letters may be of either case. -/
def StandsFor (base : Nat) (c : Char) (d : Nat) : Prop :=
  d < base ∧ (c = d.digitChar ∨ c = d.digitChar.toUpper)

/-- A row of digits and the number that it denotes. -/
inductive Denotes (base : Nat) : List Char → Nat → Prop
  | nil : Denotes base [] 0
  | concat {front : List Char} {n d : Nat} {c : Char} (hfront : Denotes base front n)
      (hc : StandsFor base c d) : Denotes base (front ++ [c]) (n * base + d)

/-- A numeral without a minus sign: one digit or more, after a plus sign or none. -/
def Unsigned (base : Nat) (text : List Char) (n : Nat) : Prop :=
  ∃ sign digits, text = sign ++ digits ∧ (sign = [] ∨ sign = ['+']) ∧ digits ≠ [] ∧
    Denotes base digits n

section Digits

variable {base d : Nat} {c : Char}

theorem digit?_toNat (h : digit? base c = some d) :
    d < base ∧ (d < 10 ∧ c.toNat = 48 + d ∨
      10 ≤ d ∧ (c.toNat = 87 + d ∨ c.toNat = 55 + d)) := by
  obtain ⟨hvalue, hlt⟩ := Option.filter_eq_some_iff.mp h
  simp only [decide_eq_true_eq] at hlt
  have hzero : '0'.toNat = 48 ∧ 'a'.toNat = 97 ∧ 'A'.toNat = 65 := by decide
  have hle : ∀ a b : Char, a ≤ b → a.toNat ≤ b.toNat := fun _ _ h => h
  refine ⟨hlt, ?_⟩
  split at hvalue
  · next hrange =>
    have hlow := hle _ _ hrange.1
    have hhigh : c.toNat ≤ 57 := hle _ _ hrange.2
    cases hvalue
    omega
  · split at hvalue
    · next hrange =>
      have hlow := hle _ _ hrange.1
      cases hvalue
      omega
    · split at hvalue
      · next hrange =>
        have hlow := hle _ _ hrange.1
        cases hvalue
        omega
      · cases hvalue

theorem digit?_eq_some_iff (hbase : base ≤ 16) :
    digit? base c = some d ↔ StandsFor base c d := by
  have hchars : ∀ d : Fin 16, digit? 16 d.val.digitChar = some d.val ∧
      digit? 16 d.val.digitChar.toUpper = some d.val := by decide
  have hcodes : ∀ d : Fin 16, d.val < 10 ∧ d.val.digitChar.toNat = 48 + d.val ∨
      10 ≤ d.val ∧ d.val.digitChar.toNat = 87 + d.val ∧
        d.val.digitChar.toUpper.toNat = 55 + d.val := by decide
  constructor
  · intro h
    obtain ⟨hlt, hcode⟩ := digit?_toNat h
    refine ⟨hlt, ?_⟩
    rw [← Char.toNat_inj, ← Char.toNat_inj]
    have hd := hcodes ⟨d, Nat.lt_of_lt_of_le hlt hbase⟩
    simp only at hd
    omega
  · rintro ⟨hlt, hc⟩
    have hd := hchars ⟨d, Nat.lt_of_lt_of_le hlt hbase⟩
    have hsixteen : digit? 16 c = some d := by
      rcases hc with rfl | rfl
      · exact hd.1
      · exact hd.2
    obtain ⟨hvalue, -⟩ := Option.filter_eq_some_iff.mp hsixteen
    exact Option.filter_eq_some_iff.mpr ⟨hvalue, decide_eq_true hlt⟩

theorem StandsFor.unique {other : Nat} (hbase : base ≤ 16) (h : StandsFor base c d)
    (hother : StandsFor base c other) : d = other :=
  Option.some.inj (((digit?_eq_some_iff hbase).mpr h).symm.trans
    ((digit?_eq_some_iff hbase).mpr hother))

theorem standsFor_digitChar (h : d < base) : StandsFor base d.digitChar d :=
  ⟨h, Or.inl rfl⟩

theorem not_standsFor_sign (hbase : base ≤ 16) (hc : c = '+' ∨ c = '-') :
    ¬ StandsFor base c d := by
  intro h
  have hdigit := digit?_toNat ((digit?_eq_some_iff hbase).mpr h)
  rcases hc with rfl | rfl
  · have hcode : '+'.toNat = 43 := rfl
    omega
  · have hcode : '-'.toNat = 45 := rfl
    omega

end Digits

section Rows

variable {base n : Nat} {text : List Char}

theorem denotes_concat_iff {front : List Char} {c : Char} :
    Denotes base (front ++ [c]) n ↔
      ∃ m d, Denotes base front m ∧ StandsFor base c d ∧ n = m * base + d := by
  constructor
  · intro h
    generalize htext : front ++ [c] = text at h
    cases h with
    | nil => simp at htext
    | concat hfront hc =>
      obtain ⟨rfl, hlast⟩ := List.append_inj' htext rfl
      cases hlast
      exact ⟨_, _, hfront, hc, rfl⟩
  · rintro ⟨m, d, hfront, hc, rfl⟩
    exact .concat hfront hc

theorem denotes_nil_iff : Denotes base [] n ↔ n = 0 := by
  constructor
  · intro h
    generalize htext : [] = text at h
    cases h with
    | nil => rfl
    | concat => simp at htext
  · rintro rfl
    exact .nil

theorem Denotes.unique {m : Nat} (hbase : base ≤ 16) (h : Denotes base text n)
    (hother : Denotes base text m) : n = m := by
  induction h generalizing m with
  | nil => exact (denotes_nil_iff.mp hother).symm
  | concat _ hc ih =>
    obtain ⟨k, d, hfront, hd, rfl⟩ := denotes_concat_iff.mp hother
    rw [ih hfront, hc.unique hbase hd]

/-- Every character of a row stands for a digit. -/
theorem Denotes.standsFor (h : Denotes base text n) {c : Char} (hmem : c ∈ text) :
    ∃ d, StandsFor base c d := by
  induction h with
  | nil => cases hmem
  | concat _ hlast ih =>
    rcases List.mem_append.mp hmem with hfront | hc
    · exact ih hfront
    · rw [List.mem_singleton.mp hc]
      exact ⟨_, hlast⟩

theorem Denotes.append_zeros (hbase : 0 < base) (h : Denotes base text n) (count : Nat) :
    Denotes base (List.replicate count '0' ++ text) n := by
  have hzero : StandsFor base '0' 0 := standsFor_digitChar hbase
  induction h with
  | nil =>
    rw [List.append_nil]
    induction count with
    | zero => exact .nil
    | succ count ih =>
      rw [List.replicate_succ']
      simpa using ih.concat hzero
  | concat _ hc ih =>
    rw [← List.append_assoc]
    exact ih.concat hc

theorem denotes_toDigits (hbase : 1 < base) (n : Nat) :
    Denotes base (Nat.toDigits base n) n := by
  rw [Nat.toDigits_eq_if hbase]
  split
  · next hsmall => simpa using Denotes.nil.concat (standsFor_digitChar hsmall)
  · next hlarge =>
    have hpos : 0 < n := Nat.lt_of_lt_of_le (Nat.zero_lt_of_lt hbase) (Nat.le_of_not_lt hlarge)
    have hfront := denotes_toDigits hbase (n / base)
    have hlast := standsFor_digitChar (Nat.mod_lt n (Nat.zero_lt_of_lt hbase))
    simpa only [Nat.div_add_mod'] using hfront.concat hlast
termination_by n
decreasing_by exact Nat.div_lt_self hpos hbase

end Rows

section Signs

variable {base n : Nat} {text : List Char}

theorem Denotes.not_mem_sign (hbase : base ≤ 16) (h : Denotes base text n) {c : Char}
    (hc : c = '+' ∨ c = '-') : c ∉ text := by
  intro hmem
  obtain ⟨d, hd⟩ := h.standsFor hmem
  exact not_standsFor_sign hbase hc hd

/-- No sign is needed. -/
theorem Denotes.unsigned (h : Denotes base text n) (hne : text ≠ []) : Unsigned base text n :=
  ⟨[], text, rfl, Or.inl rfl, hne, h⟩

theorem unsigned_plus_iff (hbase : base ≤ 16) :
    Unsigned base ('+' :: text) n ↔ text ≠ [] ∧ Denotes base text n := by
  constructor
  · rintro ⟨sign, digits, htext, rfl | rfl, hne, h⟩
    · have hplus : '+' ∉ '+' :: text := htext ▸ h.not_mem_sign hbase (Or.inl rfl)
      exact absurd List.mem_cons_self hplus
    · obtain rfl := (List.cons.inj htext).2
      exact ⟨hne, h⟩
  · rintro ⟨hne, h⟩
    exact ⟨['+'], text, rfl, Or.inr rfl, hne, h⟩

theorem unsigned_iff_of_head (hhead : text.head? ≠ some '+') :
    Unsigned base text n ↔ text ≠ [] ∧ Denotes base text n := by
  constructor
  · rintro ⟨sign, digits, rfl, rfl | rfl, hne, h⟩
    · exact ⟨hne, h⟩
    · exact absurd rfl hhead
  · rintro ⟨hne, h⟩
    exact h.unsigned hne

end Signs

section Reading

variable {base limit n : Nat} {beyond : NumeralError} {text : List Char}

/-- Digits are read up to the last one, and that one is added. -/
theorem readDigits_concat_eq_ok_iff {acc : Nat} {front : List Char} {c : Char} :
    readDigits base limit beyond acc (front ++ [c]) = .ok n ↔
      ∃ m d, readDigits base limit beyond acc front = .ok m ∧ digit? base c = some d ∧
        n = m * base + d ∧ n ≤ limit := by
  induction front generalizing acc with
  | nil =>
    rw [List.nil_append, readDigits, readDigits]
    cases digit? base c with
    | none => simp
    | some d =>
      by_cases hle : acc * base + d ≤ limit
      · simp only [if_pos hle, readDigits, Except.ok.injEq, Option.some.injEq]
        constructor
        · rintro rfl
          exact ⟨acc, d, rfl, rfl, rfl, hle⟩
        · rintro ⟨_, _, rfl, rfl, rfl, -⟩
          rfl
      · simp only [if_neg hle, reduceCtorEq, Except.ok.injEq, Option.some.injEq, false_iff]
        rintro ⟨_, _, rfl, rfl, rfl, hfits⟩
        exact hle hfits
  | cons b front ih =>
    rw [List.cons_append, readDigits, readDigits]
    cases digit? base b with
    | none => simp
    | some e =>
      by_cases hle : acc * base + e ≤ limit
      · simp only [if_pos hle]
        exact ih
      · simp [if_neg hle]

theorem readDigits_eq_ok_iff (hpos : 0 < base) (hbase : base ≤ 16) :
    readDigits base limit beyond 0 text = .ok n ↔ Denotes base text n ∧ n ≤ limit := by
  induction text using List.reverseRecOn generalizing n with
  | nil =>
    rw [readDigits, Except.ok.injEq, denotes_nil_iff]
    constructor
    · rintro rfl
      exact ⟨rfl, Nat.zero_le limit⟩
    · rintro ⟨rfl, -⟩
      rfl
  | append_singleton front c ih =>
    rw [readDigits_concat_eq_ok_iff, denotes_concat_iff]
    constructor
    · rintro ⟨m, d, hfront, hc, hn, hle⟩
      exact ⟨⟨m, d, (ih.mp hfront).1, (digit?_eq_some_iff hbase).mp hc, hn⟩, hle⟩
    · rintro ⟨⟨m, d, hfront, hc, hn⟩, hle⟩
      have hm : m ≤ limit := by
        have hgrows : m ≤ m * base := Nat.le_mul_of_pos_right m hpos
        omega
      exact ⟨m, d, ih.mpr ⟨hfront, hm⟩, (digit?_eq_some_iff hbase).mpr hc, hn, hle⟩

theorem readUnsigned_eq_ok_iff (hpos : 0 < base) (hbase : base ≤ 16) :
    readUnsigned base limit text = .ok n ↔ Unsigned base text n ∧ n ≤ limit := by
  unfold readUnsigned
  split
  · have hempty : Unsigned base [] n ↔ [] ≠ [] ∧ Denotes base [] n :=
      unsigned_iff_of_head (by simp)
    simp [hempty]
  · simp [unsigned_plus_iff hbase]
  · have hminus : ¬ Denotes base ['-'] n := fun h =>
      h.not_mem_sign hbase (Or.inr rfl) List.mem_cons_self
    have hlone : Unsigned base ['-'] n ↔ ['-'] ≠ [] ∧ Denotes base ['-'] n :=
      unsigned_iff_of_head (by simp)
    simp [hlone, hminus]
  · next digits hone =>
    have hne : digits ≠ [] := fun hnil => hone (hnil ▸ rfl)
    rw [unsigned_plus_iff hbase, readDigits_eq_ok_iff hpos hbase, and_iff_right hne]
  · next hnil _ _ hplus =>
    have hhead : text.head? ≠ some '+' := by
      intro hhead
      obtain ⟨rest, htext⟩ := List.head?_eq_some_iff.mp hhead
      exact hplus rest htext
    rw [unsigned_iff_of_head hhead, readDigits_eq_ok_iff hpos hbase,
      and_iff_right fun htext => hnil htext]

theorem readWord64_eq_ok_iff (hpos : 0 < base) (hbase : base ≤ 16) {word : UInt64} :
    readWord64 base text = .ok word ↔ Unsigned base text word.toNat := by
  have hle : word.toNat ≤ UInt64.size - 1 := Nat.le_pred_of_lt word.toNat_lt_size
  have hread : readUnsigned base (UInt64.size - 1) text = .ok word.toNat ↔
      Unsigned base text word.toNat := by
    rw [readUnsigned_eq_ok_iff hpos hbase, and_iff_left hle]
  rw [← hread, readWord64]
  cases hresult : readUnsigned base (UInt64.size - 1) text with
  | error err => simp [Except.map]
  | ok m =>
    have hm : m ≤ UInt64.size - 1 := ((readUnsigned_eq_ok_iff hpos hbase).mp hresult).2
    simp only [Except.map, Except.ok.injEq]
    constructor
    · rintro rfl
      exact (UInt64.toNat_ofNat_of_lt' (by simp only [UInt64.size] at hm ⊢; omega)).symm
    · rintro rfl
      exact UInt64.ofNat_toNat

end Reading

section Padded

variable {width n : Nat}

theorem toList_hexPadded (width n : Nat) :
    (hexPadded width n).toList =
      List.replicate (width - (Nat.toDigits 16 n).length) '0' ++ Nat.toDigits 16 n := by
  rw [hexPadded, String.toList_ofList]

theorem denotes_hexPadded (width n : Nat) : Denotes 16 (hexPadded width n).toList n := by
  rw [toList_hexPadded]
  exact (denotes_toDigits (by decide) n).append_zeros (by decide) _

/-- A number that fits the width is written with so many digits. -/
theorem length_hexPadded (hwidth : 0 < width) (h : n < 16 ^ width) :
    (hexPadded width n).toList.length = width := by
  have hle : (Nat.toDigits 16 n).length ≤ width :=
    (Nat.length_toDigits_le_iff (by decide) hwidth).mpr h
  rw [toList_hexPadded, List.length_append, List.length_replicate]
  omega

theorem exists_digitChar_of_mem_toDigits {base : Nat} (hbase : 1 < base) {c : Char} (n : Nat)
    (h : c ∈ Nat.toDigits base n) : ∃ d < base, c = d.digitChar := by
  rw [Nat.toDigits_eq_if hbase] at h
  split at h
  · next hsmall => exact ⟨n, hsmall, List.mem_singleton.mp h⟩
  · next hlarge =>
    have hpos : 0 < n := Nat.lt_of_lt_of_le (Nat.zero_lt_of_lt hbase) (Nat.le_of_not_lt hlarge)
    rcases List.mem_append.mp h with hfront | hlast
    · exact exists_digitChar_of_mem_toDigits hbase (n / base) hfront
    · exact ⟨n % base, Nat.mod_lt n (Nat.zero_lt_of_lt hbase), List.mem_singleton.mp hlast⟩
termination_by n
decreasing_by exact Nat.div_lt_self hpos hbase

/-- Padded digits are written in lower case. -/
theorem exists_digitChar_of_mem_hexPadded {c : Char} (h : c ∈ (hexPadded width n).toList) :
    ∃ d < 16, c = d.digitChar := by
  rw [toList_hexPadded] at h
  rcases List.mem_append.mp h with hzero | hdigit
  · exact ⟨0, by decide, List.eq_of_mem_replicate hzero⟩
  · exact exists_digitChar_of_mem_toDigits (by decide) n hdigit

end Padded

end MemoryRepair.Text
