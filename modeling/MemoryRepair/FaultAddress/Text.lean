import MemoryRepair.FaultAddress
import MemoryRepair.Failure
import MemoryRepair.Text.Blank

/-!
Fault addresses as texts. A packed address is read from a decimal numeral or,
after the mark 0x, a hexadecimal one, with blanks around it ignored. A fault is
shown by its eleven physical coordinates.
-/
namespace MemoryRepair

namespace FaultAddress

/-- The digits of a marked hexadecimal numeral. -/
def hexDigits? (text : List Char) : Option (List Char) :=
  match text with
  | '0' :: 'x' :: digits | '0' :: 'X' :: digits => some digits
  | _ => none

def readRaw (text : List Char) : Except Text.NumeralError UInt64 :=
  match hexDigits? text with
  | some digits => Text.readWord64 16 digits
  | none => Text.readWord64 10 text

def parse (text : String) : Except Failure FaultAddress :=
  let core := Text.trim text.toList
  match readRaw core with
  | .ok raw => .ok (decode raw)
  | .error _ => .error (.faultAddress (String.ofList core))

end FaultAddress

namespace Coordinate

def label : Coordinate → String
  | processor => "processor"
  | die => "die"
  | stack => "stack"
  | sid => "sid"
  | channel => "channel"
  | bankGroup => "bank_group"
  | bank => "bank"
  | row => "row"
  | column => "column"
  | errorType => "error_type"
  | repairType => "repair_type"
  | reserved => "reserved"
  | crc8 => "crc8"

end Coordinate

namespace FaultAddress

/-- The coordinates that a fault is shown by. -/
def shown : List Coordinate :=
  [.processor, .die, .stack, .sid, .channel, .bankGroup, .bank, .row, .column, .errorType,
   .repairType]

def render (fault : FaultAddress) : String :=
  " ".intercalate (shown.map fun c => c.label ++ "=" ++ Text.decimal (fault.get c).toNat)

end FaultAddress

end MemoryRepair
