import MemoryRepair.Journal
import MemoryRepair.Section
import MemoryRepair.VariableStore
import MemoryRepair.FaultAddress.Text

/-!
The ledger of faults in the firmware variables. Each record is a chunk of twelve
bytes at the end of its slot's file: an attribute word and the packed address.
The ledger counts eight bytes for each record against its capacity.
-/
namespace MemoryRepair

structure Ledger where
  capacity : UInt64
  /-- The size in use, as counted since the ledger was opened. -/
  total : UInt64
  deriving DecidableEq, Repr

namespace Ledger

/-- Attributes of a new variable: kept in flash, visible at boot and at run time. -/
def baseAttributes : UInt32 := 0x7

/-- The attribute that turns a write into an append. -/
def appendAttribute : UInt32 := 0x40

def recordSize : Nat := 8

/-- One record as it is written: attributes, then the packed address. -/
def chunk (attributes : UInt32) (raw : UInt64) : Bytes :=
  LittleEndian.ofWord32 attributes ++ LittleEndian.ofWord64 raw

/-- The attribute word at the start of a variable. -/
def attributes? (content : Bytes) : Option UInt32 :=
  LittleEndian.word32At content 0

/-- Opening counts the sizes of the files that exist. -/
def load (store : VariableStore σ) (capacity : UInt64) : Act σ Ledger := do
  let total ← Act.checked (Word64.sum 0 (store.directory (← Act.state)).sizes)
  Act.debug ("Current fault info total size: " ++ Text.decimal (total.toNat / 1024) ++
    "KB, flash max threshold: " ++ Text.decimal (capacity.toNat / 1024) ++ "KB")
  if capacity < total then
    Act.warn ("Fault info storage " ++ Text.decimal total.toNat ++
      " reached threshold, cannot save new record")
  pure ⟨capacity, total⟩

def readFlag (store : VariableStore σ) (slot : Slot) : Act σ (Except IoError Bool) := do
  Act.write (.flag (.get slot))
  Act.step (store.isImmutable slot)

def writeFlag (store : VariableStore σ) (slot : Slot) (immutable : Bool) :
    Act σ (Except IoError Unit) := do
  Act.write (.flag (if immutable then .set slot else .clear slot))
  Act.step (store.setImmutable slot immutable)

/-- Make an immutable file immutable again; a failure is only logged. -/
def restoreFlag (store : VariableStore σ) (slot : Slot) : Act σ Unit := do
  match ← writeFlag store slot true with
  | .ok () => pure ()
  | .error err =>
    Act.error ("Cannot set immutable for " ++ store.path slot ++ ": " ++ err.message)

/-- Run a computation while the slot's file is writable. The attribute of an
immutable file is restored whatever happens after it was read. -/
def whileWritable (store : VariableStore σ) (slot : Slot) (act : Act σ (Except IoError α)) :
    Act σ (Except IoError α) := do
  match ← readFlag store slot with
  | .error err => pure (.error err)
  | .ok false => act
  | .ok true =>
    let result ←
      match ← writeFlag store slot false with
      | .error err => pure (.error err)
      | .ok () => act
    restoreFlag store slot
    pure result

/-- Write to the slot's opened file. Attributes and data belong in a single write, so
that one that takes only a part of them fails and is not continued. -/
def writeOnce (store : VariableStore σ) (slot : Slot) (bytes : Bytes) :
    Act σ (Except IoError Unit) := do
  match ← Act.step (store.write slot bytes) with
  | .error err => pure (.error err)
  | .ok taken => pure (if taken = bytes.length then .ok () else .error .writeZero)

/-- Open the slot's file, making it if that is asked for, and write at its end. -/
def writeChunk (store : VariableStore σ) (slot : Slot) (create : Bool) (bytes : Bytes) :
    Act σ (Except IoError Unit) := do
  match ← Act.step (store.openFile slot create) with
  | .error err => pure (.error err)
  | .ok () => writeOnce store slot bytes

/-- Store a packed address in its slot. -/
def append (store : VariableStore σ) (slot : Slot) (raw : UInt64) :
    Act σ (Except Failure Unit) := do
  match (store.directory (← Act.state)).get slot with
  | none =>
    pure ((← writeChunk store slot true (chunk baseAttributes raw)).mapError .io)
  | some v =>
    match v.read with
    | .error err => pure (.error (.io err))
    | .ok content =>
      match attributes? content with
      | none => pure (.error (.storedVariable (store.path slot)))
      | some attributes =>
        let bytes := chunk (attributes ||| appendAttribute) raw
        pure ((← whileWritable store slot (writeChunk store slot false bytes)).mapError .io)

/-- Record the fault of a section. The sum of the count and the record is checked before
anything is done to the slot. -/
def record (vars : VariableStore σ) (ledger : Ledger) (s : Section) :
    Act σ (Except Failure Slot × Ledger) :=
  match s.rawFault with
  | none => pure (.error .internal, ledger)
  | some raw =>
    match Slot.ofFault (FaultAddress.decode raw) with
    | .error failure => pure (.error failure, ledger)
    | .ok slot => do
      let needed ← Act.checked (Word64.add ledger.total (.ofNat recordSize))
      if ledger.capacity < needed then
        pure (.error (.ledgerFull ledger.total ledger.capacity), ledger)
      else
        match ← append vars slot raw with
        | .error failure => pure (.error failure, ledger)
        | .ok () =>
          Act.info ("Wrote HBM fault info to flash " ++ slot.fileName)
          pure (.ok slot, { ledger with total := needed })

/-- A slot read back. -/
structure Content where
  slot : Slot
  attributes : UInt32
  records : List UInt64
  deriving DecidableEq, Repr

namespace Content

/-- An attribute word, then records of eight bytes; a shorter rest is ignored. -/
def ofBytes (slot : Slot) (bytes : Bytes) : Option Content :=
  (attributes? bytes).map fun attributes =>
    ⟨slot, attributes, (Bytes.chunks recordSize (bytes.drop 4)).map LittleEndian.toWord64⟩

def faults (content : Content) : List FaultAddress :=
  content.records.map FaultAddress.decode

end Content

/-- Read a slot back, if anything stands there. -/
def readSlot (vars : VariableStore σ) (directory : VariableDirectory) (slot : Slot) :
    Except Failure (Option Content) :=
  match directory.get slot with
  | none => .ok none
  | some v =>
    match v.read with
    | .error err => .error (.io err)
    | .ok bytes =>
      match Content.ofBytes slot bytes with
      | none => .error (.storedVariable (vars.path slot))
      | some content => .ok (some content)

/-- Read slots back in order, up to the first that fails. -/
def readSlots (vars : VariableStore σ) (directory : VariableDirectory) :
    List Slot → Except Failure (List Content)
  | [] => .ok []
  | slot :: rest =>
    match readSlot vars directory slot with
    | .error failure => .error failure
    | .ok none => readSlots vars directory rest
    | .ok (some content) => (readSlots vars directory rest).map (content :: ·)

def readAll (vars : VariableStore σ) (directory : VariableDirectory) :
    Except Failure (List Content) :=
  readSlots vars directory Slot.all

end Ledger

end MemoryRepair
