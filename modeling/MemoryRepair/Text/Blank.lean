/-!
Blank characters: the 25 code points with the White_Space property. Trimming
removes them from the ends of a text and words are the maximal runs between
them.
-/
namespace MemoryRepair.Text

def blankRanges : List (Nat × Nat) :=
  [(0x9, 0xD), (0x20, 0x20), (0x85, 0x85), (0xA0, 0xA0), (0x1680, 0x1680), (0x2000, 0x200A),
   (0x2028, 0x2029), (0x202F, 0x202F), (0x205F, 0x205F), (0x3000, 0x3000)]

def isBlank (c : Char) : Bool :=
  blankRanges.any fun (low, high) => low ≤ c.toNat && c.toNat ≤ high

def trimStart (text : List Char) : List Char :=
  text.dropWhile isBlank

def trimEnd (text : List Char) : List Char :=
  (text.reverse.dropWhile isBlank).reverse

def trim (text : List Char) : List Char :=
  trimEnd (trimStart text)

/-- The pieces between the characters that satisfy the test; there is always one. -/
def splitBy (test : Char → Bool) : List Char → List (List Char)
  | [] => [[]]
  | c :: rest =>
    if test c then [] :: splitBy test rest
    else
      match splitBy test rest with
      | [] => [[c]]
      | piece :: pieces => (c :: piece) :: pieces

def words (text : List Char) : List (List Char) :=
  (splitBy isBlank text).filter fun word => !word.isEmpty

theorem splitBy_ne_nil (test : Char → Bool) (text : List Char) : splitBy test text ≠ [] := by
  cases text with
  | nil => simp [splitBy]
  | cons c rest =>
    rw [splitBy]
    split
    · simp
    · split <;> simp

/-- The text without a leading mark, if it starts with the mark. -/
def stripStart? (mark text : List Char) : Option (List Char) :=
  if mark.isPrefixOf text then some (text.drop mark.length) else none

/-- The mark stands somewhere in the text. -/
def occursIn (mark : List Char) : List Char → Bool
  | [] => mark.isEmpty
  | c :: rest => mark.isPrefixOf (c :: rest) || occursIn mark rest

/-- The parts before and after the first occurrence of a character. -/
def splitOnce? (mark : Char) (text : List Char) : Option (List Char × List Char) :=
  match text.dropWhile (· != mark) with
  | [] => none
  | _ :: rest => some (text.takeWhile (· != mark), rest)

end MemoryRepair.Text
