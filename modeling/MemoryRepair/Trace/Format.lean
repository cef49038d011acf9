import MemoryRepair.Bytes
import MemoryRepair.Text.Lines
import MemoryRepair.Text.Numeral

/-!
Layout descriptions of trace pages and trace events. A description is a text in
which every field has a line of its own: a declaration that ends in the field's
name, then its offset and its size.
-/
namespace MemoryRepair.Trace

structure Field where
  name : String
  offset : UInt64
  size : UInt64
  /-- The field holds the place of an array and not the array itself. -/
  dynamic : Bool
  deriving DecidableEq, Repr

namespace Field

def mark : List Char := "field:".toList

/-- The number that the last part with the given key states. -/
def numberOf (key : String) (parts : List (List Char)) : Option UInt64 :=
  parts.foldl (fun found part =>
    match Text.splitOnce? ':' (Text.trim part) with
    | some (k, value) =>
      if String.ofList k = key then (Text.readWord64 10 value).toOption else found
    | none => found) none

/-- The last word of a declaration, without an array suffix. -/
def nameOf (declaration : List Char) : Option String :=
  (Text.words declaration).getLast?.map fun word => String.ofList (word.takeWhile (· != '['))

def parse (line : List Char) : Option Field := do
  let text ← Text.stripStart? mark (Text.trim line)
  match Text.splitBy (· == ';') text with
  | [] => none
  | first :: parts =>
    let declaration := Text.trim first
    let name ← nameOf declaration
    let offset ← numberOf "offset" parts
    let size ← numberOf "size" parts
    some { name, offset, size, dynamic := "__data_loc".toList.isPrefixOf declaration }

/-- The bytes of a field. The descriptor of a dynamic field has the offset of the
array in its low 16 bits and the length in its high 16 bits. -/
def slice (field : Field) (record : Bytes) : Option Bytes := do
  let raw ←
    if field.offset.toNat + field.size.toNat < UInt64.size then
      record.slice field.offset.toNat field.size.toNat
    else none
  if field.dynamic then
    let descriptor ← raw.slice 0 4
    let place := LittleEndian.decode descriptor
    record.slice (place % UInt16.size) (place / UInt16.size)
  else some raw

/-- The value of a field of one, two, four or eight bytes. -/
def read (field : Field) (record : Bytes) : Option UInt64 := do
  let raw ← field.slice record
  if raw.length = 1 ∨ raw.length = 2 ∨ raw.length = 4 ∨ raw.length = 8 then
    some (LittleEndian.toWord64 raw)
  else none

/-- The fields of a description in the order of their lines. -/
def parseAll (text : List Char) : List Field :=
  (Text.lines text).filterMap parse

end Field

def findField (fields : List Field) (name : String) : Option Field :=
  fields.find? (·.name == name)

/-- Where a page keeps its timestamp, its commit word and its records. -/
structure HeaderPage where
  timestampOffset : UInt64
  commitOffset : UInt64
  commitSize : UInt64
  dataOffset : UInt64
  deriving DecidableEq, Repr

namespace HeaderPage

def parse (text : List Char) : Option HeaderPage := do
  let fields := Field.parseAll text
  let timestamp ← findField fields "timestamp"
  let commit ← findField fields "commit"
  let data ← findField fields "data"
  some ⟨timestamp.offset, commit.offset, commit.size, data.offset⟩

end HeaderPage

structure EventFormat where
  name : String
  id : UInt16
  fields : List Field
  deriving DecidableEq, Repr

namespace EventFormat

/-- What follows a key on the first line that starts with it. -/
def value? (key : String) (text : List Char) : Option (List Char) :=
  ((Text.lines text).findSome? fun line =>
    Text.stripStart? key.toList (Text.trim line)).map Text.trim

def parse (text : List Char) : Option EventFormat := do
  let name ← value? "name:" text
  let idText ← value? "ID:" text
  let id ← (Text.readWord16 10 idText).toOption
  some ⟨String.ofList name, id, Field.parseAll text⟩

def field? (format : EventFormat) (name : String) : Option Field :=
  findField format.fields name

end EventFormat

end MemoryRepair.Trace
