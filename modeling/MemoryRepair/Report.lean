import MemoryRepair.Failure
import MemoryRepair.FaultAddress

/-!
The result of a repair and the message that reports it to the management
controller. A message is a row of hexadecimal fields of fixed width; the request
bits decide the repair and isolation codes, the first set bit winning.
-/
namespace MemoryRepair

inductive Outcome
  | isolateFailedOverThreshold
  | isolateFailedOther
  | repairFailedNoResource
  | repairFailedInvalidParam
  | repairFailedOther
  | onlineFailed
  | success
  deriving DecidableEq, Repr

namespace Outcome

def all : List Outcome :=
  [isolateFailedOverThreshold, isolateFailedOther, repairFailedNoResource,
   repairFailedInvalidParam, repairFailedOther, onlineFailed, success]

def name : Outcome → String
  | isolateFailedOverThreshold => "IsolateFailedOverThreshold"
  | isolateFailedOther => "IsolateFailedOther"
  | repairFailedNoResource => "RepairFailedNoResource"
  | repairFailedInvalidParam => "RepairFailedInvalidParam"
  | repairFailedOther => "RepairFailedOther"
  | onlineFailed => "OnlineFailed"
  | success => "Success"

def code : Outcome → UInt8
  | isolateFailedOverThreshold => 0x81
  | isolateFailedOther => 0x82
  | repairFailedNoResource => 0x94
  | repairFailedInvalidParam => 0x98
  | repairFailedOther => 0x9C
  | onlineFailed => 0xA0
  | success => 0

/-- What a query or repair means that did not answer with a positive count. -/
def ofFailedCommand : Except IoError Nat → Outcome
  | .error (.os errno) =>
    if errno = Errno.noSpace then repairFailedNoResource
    else if errno = Errno.noDevice ∨ errno = Errno.invalidArgument then repairFailedInvalidParam
    else repairFailedOther
  | _ => repairFailedOther

end Outcome

structure Report where
  repairType : UInt32
  outcome : Outcome
  fault : FaultAddress
  deriving DecidableEq, Repr

namespace Report

def singleAddress : UInt8 := 6
def row : UInt8 := 1

/-- Request bits with their repair code and isolation code. -/
def codeTable : List (UInt32 × UInt8 × UInt8) :=
  [(1, 0, singleAddress), (2, 1, singleAddress), (4, 2, row), (8, 3, row)]

/-- Repair code and isolation code. -/
def codes (report : Report) : UInt8 × UInt8 :=
  match codeTable.find? fun (bit, _) => report.repairType &&& bit != 0 with
  | some (_, codes) => codes
  | none => (0, 0)

/-- The fields of the message with their widths in digits. -/
def fields (report : Report) : List (Nat × Nat) :=
  let fault := report.fault
  [(2, report.codes.1.toNat), (2, report.outcome.code.toNat), (2, report.codes.2.toNat), (16, 0),
   (2, fault.processor.toNat), (2, fault.die.toNat), (2, fault.stack.toNat), (2, 0),
   (2, fault.sid.toNat), (2, 0), (2, fault.channel.toNat), (2, fault.bankGroup.toNat),
   (2, fault.bank.toNat), (8, fault.row.toNat), (8, fault.column.toNat), (10, 0)]

def message (report : Report) : String :=
  "REP00" ++ String.join (report.fields.map fun (width, n) => Text.hexPadded width n)

end Report

end MemoryRepair
