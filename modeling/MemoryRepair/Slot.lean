import MemoryRepair.Failure
import MemoryRepair.FaultAddress

/-!
The eight firmware variables that keep fault records. A slot is chosen by the
processor and the error type of a fault.
-/
namespace MemoryRepair

abbrev Slot := Fin 8

namespace Slot

def table : Vector (String × String) 8 :=
  #v[("repair0000", "CD2FF4D9-D937-4e1d-B810-A1A568C37C01"),
     ("repair0001", "DD92CC91-43E6-4c69-A42A-B08F72FCB157"),
     ("repair0100", "4A8E0D1E-4CFA-47b2-9359-DA3A0006878B"),
     ("repair0101", "733F9979-4ED4-478d-BD6A-E4D0F0390FDB"),
     ("repair0200", "9BFBBA1F-5A93-4d36-AD47-D3C2D714D914"),
     ("repair0201", "A0920D6F-78B8-4c09-9F61-7CEC845F116C"),
     ("repair0300", "0049CE5E-8C18-414c-BDC1-A87E60CEEFD7"),
     ("repair0301", "6AED17B4-50C7-4a40-A5A7-48AF55DD8EAC")]

def all : List Slot := List.finRange 8

def name (slot : Slot) : String := table[slot].1

def guid (slot : Slot) : String := table[slot].2

/-- The variable's name, which is also the name of its file. -/
def fileName (slot : Slot) : String := slot.name ++ "-" ++ slot.guid

/-- Slot 2p + e keeps the faults of processor p with error type e. -/
def ofPair (processor errorType : UInt32) : Except Failure Slot :=
  if h : 2 * processor.toNat + errorType.toNat < 8 then
    .ok ⟨2 * processor.toNat + errorType.toNat, h⟩
  else .error (.slot processor errorType)

def ofFault (fault : FaultAddress) : Except Failure Slot :=
  ofPair fault.processor fault.errorType

end Slot

end MemoryRepair
