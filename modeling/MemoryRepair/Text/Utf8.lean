import MemoryRepair.Bytes
import MemoryRepair.Text.Numeral

/-!
UTF-8. The lead byte fixes the length of a character and the range of its second
byte; later bytes are plain continuation bytes. A fault is located at the first
byte of the character that cannot be read, with the number of bytes that are
certainly wrong, or none when the text merely ends too early.
-/
namespace MemoryRepair.Text.Utf8

structure Fault where
  offset : Nat
  wrong : Option Nat
  deriving DecidableEq, Repr

namespace Fault

def message (fault : Fault) : String :=
  match fault.wrong with
  | some n =>
    "invalid utf-8 sequence of " ++ decimal n ++ " bytes from index " ++ decimal fault.offset
  | none => "incomplete utf-8 byte sequence from index " ++ decimal fault.offset

end Fault

inductive Lead
  | ascii
  | invalid
  /-- Bounds of the second byte and the number of bytes after it. -/
  | wide (low high : Nat) (more : Nat)

def lead (b : Nat) : Lead :=
  if b < 0x80 then .ascii
  else if b < 0xC2 then .invalid
  else if b < 0xE0 then .wide 0x80 0xBF 0
  else if b = 0xE0 then .wide 0xA0 0xBF 1
  else if b = 0xED then .wide 0x80 0x9F 1
  else if b < 0xF0 then .wide 0x80 0xBF 1
  else if b = 0xF0 then .wide 0x90 0xBF 2
  else if b < 0xF4 then .wide 0x80 0xBF 2
  else if b = 0xF4 then .wide 0x80 0x8F 2
  else .invalid

/-- The payload bits of a lead byte followed by the given number of bytes. -/
def leadBits (following b : Nat) : Nat :=
  b % (0x40 >>> following)

/-- What remains to be read of a character. -/
structure Partial where
  /-- Where the character starts and how many of its bytes were read. -/
  start : Nat
  taken : Nat
  value : Nat
  low : Nat
  high : Nat
  /-- Bytes after the next one. -/
  more : Nat

/-- Decode, with the index of the next byte, the character under way, if any, and
the characters before it, the last one first. -/
def decodeFrom (index : Nat) (under : Option Partial) (before : List Char) :
    Bytes → Except Fault (List Char)
  | [] =>
    match under with
    | none => .ok before.reverse
    | some p => .error ⟨p.start, none⟩
  | b :: rest =>
    match under with
    | none =>
      match lead b.toNat with
      | .ascii => decodeFrom (index + 1) none (Char.ofNat b.toNat :: before) rest
      | .invalid => .error ⟨index, some 1⟩
      | .wide low high more =>
        decodeFrom (index + 1) (some ⟨index, 1, leadBits (more + 1) b.toNat, low, high, more⟩)
          before rest
    | some p =>
      if p.low ≤ b.toNat ∧ b.toNat ≤ p.high then
        let value := p.value * 64 + b.toNat % 64
        match p.more with
        | 0 => decodeFrom (index + 1) none (Char.ofNat value :: before) rest
        | more + 1 =>
          decodeFrom (index + 1) (some ⟨p.start, p.taken + 1, value, 0x80, 0xBF, more⟩)
            before rest
      else .error ⟨p.start, some p.taken⟩

def decode (bytes : Bytes) : Except Fault (List Char) :=
  decodeFrom 0 none [] bytes

/-- The bytes of a text. -/
def encode (text : String) : Bytes :=
  text.toUTF8.toList

end MemoryRepair.Text.Utf8
