import MemoryRepair.Failure
import MemoryRepair.Log
import MemoryRepair.Trace.Page

/-!
Vendor error events inside trace records. A record of the event names the type of
its section, states the length of the payload, and carries the payload in a
dynamic field; a record whose stated length is not that of its payload is no
event.
-/
namespace MemoryRepair.Trace

/-- Sixteen bytes that identify a kind of section. -/
structure Guid where
  bytes : Bytes
  size : bytes.length = 16
  deriving DecidableEq

namespace Guid

/-- Groups of a written identifier: how many bytes, and whether they stand reversed. -/
def groups : List (Nat × Bool) :=
  [(4, true), (2, true), (2, true), (2, false), (6, false)]

def renderGroups : List (Nat × Bool) → Bytes → List String
  | [], _ => []
  | (len, reversed) :: rest, bytes =>
    let group := bytes.take len
    let ordered := if reversed then group.reverse else group
    String.join (ordered.map fun b => Text.hexPadded 2 b.toNat) ::
      renderGroups rest (bytes.drop len)

def render (guid : Guid) : String :=
  "-".intercalate (renderGroups groups guid.bytes)

/-- The section type of memory repair requests. -/
def repairSection : Guid where
  bytes := [0xA8, 0x28, 0xB3, 0xC8, 0x17, 0x99, 0xF6, 0x4A,
    0x9A, 0x13, 0x2E, 0x08, 0xAB, 0x2E, 0x75, 0x86]
  size := rfl

end Guid

structure Event where
  timestamp : UInt64
  sectionType : Guid
  length : UInt32
  payload : Bytes
  deriving DecidableEq

def eventGroup : String := "ras"
def eventName : String := "non_standard_event"

/-- How the records of the event are read. -/
structure Decoder where
  id : UInt16
  sectionType : Field
  length : Field
  payload : Field
  deriving DecidableEq, Repr

namespace Decoder

def ofFormat (format : EventFormat) : Except Failure Decoder :=
  match format.field? "sec_type", format.field? "len", format.field? "buf" with
  | some sectionType, some length, some payload => .ok ⟨format.id, sectionType, length, payload⟩
  | none, _, _ => .error (missing "sec_type")
  | _, none, _ => .error (missing "len")
  | _, _, none => .error (missing "buf")
where
  missing (name : String) : Failure :=
    .eventFormat (format.name ++ ": missing field " ++ name)

/-- Why a record is no event. -/
inductive Rejection
  | noSectionType
  | noLength
  | noPayload
  | lengthMismatch (stated actual : Nat)
  deriving DecidableEq, Repr

def Rejection.log : Rejection → List LogLine
  | .noSectionType => [⟨.warn, "Cannot get the event section type"⟩]
  | .noLength => [⟨.warn, "Cannot get the event length"⟩]
  | .noPayload => []
  | .lengthMismatch stated actual =>
    [⟨.warn, "Event length (" ++ Text.decimal stated ++ ") does not match the payload size (" ++
      Text.decimal actual ++ ")"⟩]

/-- The stated length counts modulo 2^32. -/
def decode (decoder : Decoder) (timestamp : UInt64) (record : Bytes) : Except Rejection Event :=
  match decoder.sectionType.slice record with
  | none => .error .noSectionType
  | some bytes =>
    if h : bytes.length = 16 then
      match decoder.length.read record with
      | none => .error .noLength
      | some value =>
        let length := value.toUInt32
        match decoder.payload.slice record with
        | none => .error .noPayload
        | some payload =>
          if payload.length = length.toNat then .ok ⟨timestamp, ⟨bytes, h⟩, length, payload⟩
          else .error (.lengthMismatch length.toNat payload.length)
    else .error .noSectionType

/-- What decoding writes to the log. -/
def decodeLog : Except Rejection Event → List LogLine
  | .error rejection => rejection.log
  | .ok event =>
    [⟨.debug, "sec_type: " ++ event.sectionType.render ++ ", length: " ++
      Text.decimal event.length.toNat⟩]

end Decoder

/-- The identifier of the event that a record belongs to. -/
def recordId (record : Bytes) : Option UInt16 :=
  (record.slice 0 2).map LittleEndian.toWord16

end MemoryRepair.Trace
