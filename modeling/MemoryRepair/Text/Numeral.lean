/-!
Numerals. A reader takes an optional plus sign (and a minus sign for signed
numbers), then one or more digits, and names the first thing that is wrong:
characters are judged from left to right, so an overflow that shows before a bad
digit is reported as an overflow.
-/
namespace MemoryRepair.Text

inductive NumeralError
  | empty
  | invalidDigit
  | tooLarge
  | tooSmall
  deriving DecidableEq, Repr

namespace NumeralError

def message : NumeralError → String
  | empty => "cannot parse integer from empty string"
  | invalidDigit => "invalid digit found in string"
  | tooLarge => "number too large to fit in target type"
  | tooSmall => "number too small to fit in target type"

end NumeralError

/-- The value of a digit below the base, letters of either case standing for ten and more. -/
def digit? (base : Nat) (c : Char) : Option Nat :=
  let value? :=
    if '0' ≤ c ∧ c ≤ '9' then some (c.toNat - '0'.toNat)
    else if 'a' ≤ c ∧ c ≤ 'z' then some (c.toNat - 'a'.toNat + 10)
    else if 'A' ≤ c ∧ c ≤ 'Z' then some (c.toNat - 'A'.toNat + 10)
    else none
  value?.filter (· < base)

/-- Continue a numeral whose digits so far are worth acc. -/
def readDigits (base limit : Nat) (beyond : NumeralError) (acc : Nat) :
    List Char → Except NumeralError Nat
  | [] => .ok acc
  | c :: rest =>
    match digit? base c with
    | none => .error .invalidDigit
    | some d =>
      if acc * base + d ≤ limit then readDigits base limit beyond (acc * base + d) rest
      else .error beyond

/-- Read an unsigned numeral of at most the given value. -/
def readUnsigned (base limit : Nat) : List Char → Except NumeralError Nat
  | [] => .error .empty
  | ['+'] | ['-'] => .error .invalidDigit
  | '+' :: digits => readDigits base limit .tooLarge 0 digits
  | digits => readDigits base limit .tooLarge 0 digits

def readWord64 (base : Nat) (text : List Char) : Except NumeralError UInt64 :=
  (readUnsigned base (UInt64.size - 1) text).map UInt64.ofNat

def readWord16 (base : Nat) (text : List Char) : Except NumeralError UInt16 :=
  (readUnsigned base (UInt16.size - 1) text).map UInt16.ofNat

/-- The largest number of 32 bits with sign; the smallest has one more in size. -/
def largestInt32 : Nat := 0x7FFFFFFF

/-- Read a decimal numeral of 32 bits with sign. -/
def readInt32 : List Char → Except NumeralError Int
  | [] => .error .empty
  | ['+'] | ['-'] => .error .invalidDigit
  | '+' :: digits => (readDigits 10 largestInt32 .tooLarge 0 digits).map Int.ofNat
  | '-' :: digits => (readDigits 10 (largestInt32 + 1) .tooSmall 0 digits).map fun n => -Int.ofNat n
  | digits => (readDigits 10 largestInt32 .tooLarge 0 digits).map Int.ofNat

def decimal (n : Nat) : String :=
  String.ofList (Nat.toDigits 10 n)

def signedDecimal (n : Int) : String :=
  if n < 0 then "-" ++ decimal n.natAbs else decimal n.natAbs

def hex (n : Nat) : String :=
  String.ofList (Nat.toDigits 16 n)

/-- Hexadecimal digits, filled up with zeros on the left. -/
def hexPadded (width n : Nat) : String :=
  let digits := Nat.toDigits 16 n
  String.ofList (List.replicate (width - digits.length) '0' ++ digits)

/-- A number as it is shown for an address: marked, lowercase, no leading zero. -/
def hexMarked (n : Nat) : String :=
  "0x" ++ hex n

end MemoryRepair.Text
