import MemoryRepair.Ledger

/-!
Structured output. A value is written on one line, or spread over lines with an
indent of two spaces for each level.
-/
namespace MemoryRepair

inductive Json
  | number (n : Nat)
  | text (s : String)
  | array (items : List Json)
  | object (fields : List (String × Json))

namespace Json

/-- Texts hold names and numerals only; marks inside them are escaped all the same. -/
def quote (s : String) : String :=
  String.ofList (['"'] ++ (s.toList.flatMap fun c =>
    if c = '"' ∨ c = '\\' then ['\\', c] else [c]) ++ ['"'])

def indent (depth : Nat) : String :=
  "\n" ++ String.ofList (List.replicate (2 * depth) ' ')

mutual

def compact : Json → String
  | number n => Text.decimal n
  | text s => quote s
  | array items => "[" ++ ",".intercalate (compactItems items) ++ "]"
  | object fields => "\x7b" ++ ",".intercalate (compactFields fields) ++ "\x7d"

def compactItems : List Json → List String
  | [] => []
  | item :: rest => compact item :: compactItems rest

def compactFields : List (String × Json) → List String
  | [] => []
  | (name, value) :: rest => (quote name ++ ":" ++ compact value) :: compactFields rest

end

mutual

def prettyAt (depth : Nat) : Json → String
  | number n => Text.decimal n
  | text s => quote s
  | array [] => "[]"
  | array items =>
    "[" ++ ",".intercalate (prettyItems (depth + 1) items) ++ indent depth ++ "]"
  | object [] => "\x7b\x7d"
  | object fields =>
    "\x7b" ++ ",".intercalate (prettyFields (depth + 1) fields) ++ indent depth ++ "\x7d"

def prettyItems (depth : Nat) : List Json → List String
  | [] => []
  | item :: rest => (indent depth ++ prettyAt depth item) :: prettyItems depth rest

def prettyFields (depth : Nat) : List (String × Json) → List String
  | [] => []
  | (name, value) :: rest =>
    (indent depth ++ quote name ++ ": " ++ prettyAt depth value) :: prettyFields depth rest

end

def pretty (value : Json) : String := prettyAt 0 value

/-- The coordinates of a fault in the given order. -/
def ofCoordinates (coordinates : List Coordinate) (fault : FaultAddress) : Json :=
  object (coordinates.map fun c => (c.label, number (fault.get c).toNat))

/-- A fault with its coordinates in layout order. -/
def ofFault (fault : FaultAddress) : Json :=
  ofCoordinates (FaultAddress.layout.map (·.1)) fault

/-- A fault with its coordinates in the order of their labels. -/
def ofFaultByLabel (fault : FaultAddress) : Json :=
  ofCoordinates
    [.bank, .bankGroup, .channel, .column, .crc8, .die, .errorType, .processor, .repairType,
     .reserved, .row, .sid, .stack] fault

def ofContent (content : Ledger.Content) : Json :=
  object
    [("name", text content.slot.name), ("guid", text content.slot.guid),
     ("attributes", number content.attributes.toNat),
     ("records", array (content.records.map fun raw => number raw.toNat))]

/-- A record in full: its packed address in sixteen digits and its coordinates. -/
def ofRecord (raw : UInt64) : Json :=
  object
    [("fault", ofFaultByLabel (FaultAddress.decode raw)),
     ("raw", text ("0x" ++ Text.hexPadded 16 raw.toNat))]

/-- A slot in full, its fields in the order of their names. -/
def ofSlot (content : Ledger.Content) : Json :=
  object
    [("attributes", number content.attributes.toNat), ("guid", text content.slot.guid),
     ("name", text content.slot.name), ("records", array (content.records.map ofRecord))]

def ofLedger (ledger : Ledger) (contents : List Ledger.Content) : Json :=
  object
    [("capacity", number ledger.capacity.toNat), ("slots", array (contents.map ofSlot)),
     ("total_size", number ledger.total.toNat)]

end Json

end MemoryRepair
