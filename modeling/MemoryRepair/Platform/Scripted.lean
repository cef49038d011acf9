import MemoryRepair.Platform

/-!
A platform whose answers are written down beforehand. It answers from a table,
logs nothing and leaves the outside world as it is, so a repair on it shows what
the repair itself decides.
-/
namespace MemoryRepair

structure ScriptedDevice where
  name : String
  memoryType : Except Failure MemoryType
  /-- The answer to the query of either mode. -/
  query : Except IoError Nat
  /-- The answer to the repair of either mode. -/
  repair : Except IoError Nat

namespace ScriptedDevice

def answer (device : ScriptedDevice) : RepairCommand → Except IoError Nat
  | .aclsQuery | .spprQuery => device.query
  | .aclsRepair | .spprRepair => device.repair

end ScriptedDevice

structure ScriptedPlatform where
  /-- The corrupted memory, if it is stated at all. -/
  corrupted : Option UInt64
  devices : Except Errno (List ScriptedDevice)
  /-- Requests for pages that fail; all others succeed. -/
  failures : List ((PageAction × UInt64) × Errno)

namespace ScriptedPlatform

def pageAnswer (script : ScriptedPlatform) (action : PageAction) (address : UInt64) :
    Except IoError Unit :=
  match script.failures.lookup (action, address) with
  | some errno => .error (.os errno)
  | none => .ok ()

def toPlatform (script : ScriptedPlatform) : Platform σ ScriptedDevice where
  corrupted state := ⟨(script.corrupted.map .ok).getD (.error .meminfoEntry), state, []⟩
  page action address state := ⟨script.pageAnswer action address, state, []⟩
  devices state := ⟨script.devices.mapError fun errno => .io (.os errno), state, []⟩
  deviceName device := device.name
  memoryType device state := ⟨device.memoryType, state, []⟩
  command device what _ state := ⟨device.answer what, state, []⟩

end ScriptedPlatform

end MemoryRepair
