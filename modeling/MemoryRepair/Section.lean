import MemoryRepair.FaultAddress
import MemoryRepair.Log
import MemoryRepair.Overflow
import MemoryRepair.Text.Numeral

/-!
The vendor error section. Thirty-two bytes of header carry the identity of the
faulty module and the size of a register array that follows them. The first
register holds the request bits, the last two the packed fault address, and the
registers between them pairs of words for the physical addresses to repair.
-/
namespace MemoryRepair

/-- The repairs that a section can ask for. -/
inductive Mode
  | acls
  | sppr
  | cache
  deriving DecidableEq, Repr

namespace Mode

def all : List Mode := [acls, sppr, cache]

def name : Mode → String
  | acls => "ACLS"
  | sppr => "SPPR"
  | cache => "cache mode"

def addressCount : Mode → Nat
  | acls => 1
  | sppr => 16
  | cache => 0

/-- Registers of a request: the request bits, two per address, two for the fault. -/
def registerCount (mode : Mode) : Nat :=
  1 + 2 * mode.addressCount + 2

def requestBits : Mode → UInt32
  | acls => 0x03
  | sppr => 0x0C
  | cache => 0xF0

end Mode

structure Section where
  validBits : UInt32
  version : UInt8
  socId : UInt8
  socketId : UInt8
  totemId : UInt8
  nimbusId : UInt8
  subsystemId : UInt8
  moduleId : UInt8
  submoduleId : UInt8
  coreId : UInt8
  portId : UInt8
  errType : UInt16
  severity : UInt8
  registers : List UInt32
  deriving DecidableEq, Repr

namespace Section

def headerSize : Nat := 32

/-- Why bytes are no section. -/
inductive Malformed
  | truncated
  | unaligned (size : Nat)
  deriving DecidableEq, Repr

def Malformed.log : Malformed → List LogLine
  | .truncated => []
  | .unaligned size =>
    [⟨.warn, "Register array size (" ++ Text.decimal size ++ ") is not a multiple of 4"⟩]

/-- The header fields by their names. -/
def headerFields (s : Section) : List (String × Nat) :=
  [("valid_bits", s.validBits.toNat), ("version", s.version.toNat), ("soc_id", s.socId.toNat),
   ("socket_id", s.socketId.toNat), ("totem_id", s.totemId.toNat),
   ("nimbus_id", s.nimbusId.toNat), ("subsystem_id", s.subsystemId.toNat),
   ("module_id", s.moduleId.toNat), ("submodule_id", s.submoduleId.toNat),
   ("core_id", s.coreId.toNat), ("port_id", s.portId.toNat), ("err_type", s.errType.toNat),
   ("severity", s.severity.toNat)]

/-- The header fields, given all their bytes, with a register array. -/
def ofHeader (header : Bytes) (registers : List UInt32) : Section :=
  let byte (i : Nat) : UInt8 := header.getD i 0
  let field (start len : Nat) : Bytes := (header.drop start).take len
  { validBits := LittleEndian.toWord32 (field 0 4)
    version := byte 4
    socId := byte 5
    socketId := byte 6
    totemId := byte 7
    nimbusId := byte 8
    subsystemId := byte 9
    moduleId := byte 10
    submoduleId := byte 11
    coreId := byte 12
    portId := byte 13
    errType := LittleEndian.toWord16 (field 14 2)
    severity := byte 24
    registers }

/-- Bytes after the register array are ignored. -/
def ofBytes (bytes : Bytes) : Except Malformed Section :=
  match bytes.slice 28 4 with
  | none => .error .truncated
  | some sizeBytes =>
    let size := LittleEndian.decode sizeBytes
    if size % 4 ≠ 0 then .error (.unaligned size)
    else
      match bytes.slice headerSize size with
      | none => .error .truncated
      | some array =>
        .ok (ofHeader (bytes.take headerSize) ((array.chunks 4).map LittleEndian.toWord32))

/-- The places that carry nothing for a repair are zero. -/
def toBytes (s : Section) : Bytes :=
  LittleEndian.ofWord32 s.validBits ++
  [s.version, s.socId, s.socketId, s.totemId, s.nimbusId, s.subsystemId, s.moduleId,
   s.submoduleId, s.coreId, s.portId] ++
  LittleEndian.ofWord16 s.errType ++
  List.replicate 8 0 ++ [s.severity] ++ List.replicate 3 0 ++
  LittleEndian.encode 4 (s.registers.length * 4) ++
  s.registers.flatMap LittleEndian.ofWord32

/-- The request bits: the low byte of the first register, none without registers. -/
def repairType (s : Section) : UInt32 :=
  match s.registers with
  | [] => 0
  | register :: _ => register &&& 0xFF

/-- A request for memory in use as flat memory has no cache bit. -/
def isFlat (s : Section) : Bool :=
  s.repairType &&& Mode.cache.requestBits == 0

/-- The mask bits for the module, the submodule and the register array. -/
def requiredBits : UInt32 := 0x1060

def moduleCode : UInt8 := 0x28
def submoduleCode : UInt8 := 6

/-- Why a section asks for no repair. -/
inductive Refusal
  | missingBits
  | foreignModule
  | unknownRequest
  deriving DecidableEq, Repr

/-- The request has a bit of the mode and an array of its length. -/
def asksFor (s : Section) (mode : Mode) : Bool :=
  s.repairType &&& mode.requestBits != 0 && s.registers.length == mode.registerCount

def validate (s : Section) : Except Refusal Mode :=
  if s.validBits &&& requiredBits ≠ requiredBits then .error .missingBits
  else if s.moduleId ≠ moduleCode ∨ s.submoduleId ≠ submoduleCode then .error .foreignModule
  else
    match Mode.all.find? s.asksFor with
    | none => .error .unknownRequest
    | some mode => .ok mode

def identityLine (s : Section) : LogLine :=
  ⟨.debug, "module_id: " ++ Text.hexMarked s.moduleId.toNat ++ ", submodule_id: " ++
    Text.decimal s.submoduleId.toNat ++ ", reg_array_size: " ++
    Text.decimal (s.registers.length * 4)⟩

/-- What a validation writes to the log. -/
def validationLog (s : Section) : List LogLine :=
  match s.validate with
  | .error .missingBits =>
    [⟨.debug, "Err val_bits validate failed, val_bits is " ++ Text.hexMarked s.validBits.toNat⟩]
  | .error .foreignModule =>
    [s.identityLine, ⟨.debug, "Err module_id or submodule_id does not match"⟩]
  | .error .unknownRequest =>
    [s.identityLine,
     ⟨.warn, "Err type (" ++ Text.hexMarked s.repairType.toNat ++
       ") is unknown or register array length (" ++ Text.decimal (s.registers.length * 4) ++
       ") is invalid"⟩]
  | .ok _ => [s.identityLine]

/-- The packed fault address in the last two registers, the low word first. -/
def rawFault (s : Section) : Option UInt64 :=
  match s.registers.reverse with
  | high :: low :: _ => some (FaultAddress.joinWords low high)
  | _ => none

def fault (s : Section) : Option FaultAddress :=
  s.rawFault.map FaultAddress.decode

/-- The address in the pair of registers with the given number. -/
def addressAt (s : Section) (i : Nat) : Option UInt64 :=
  match s.registers[1 + 2 * i]?, s.registers[2 + 2 * i]? with
  | some low, some high => some (FaultAddress.joinWords low high)
  | _, _ => none

/-- The same for a number of 64 bits, whose double has to fit too. -/
def addressAtWord (s : Section) (i : UInt64) : Except Overflow (Option UInt64) :=
  (Word64.mul 2 i).map fun _ => s.addressAt i.toNat

def addresses (s : Section) (mode : Mode) : List UInt64 :=
  (List.range mode.addressCount).filterMap s.addressAt

end Section

end MemoryRepair
