import MemoryRepair.Failure
import MemoryRepair.Log
import MemoryRepair.Section
import MemoryRepair.Text.Lines

/-!
The kernel surfaces behind a repair: the amount of memory already given up, the
life cycle of pages, and the repair devices with their query and repair commands.
A platform is a machine over some states; every request moves it to a next state.
-/
namespace MemoryRepair

inductive PageAction
  | offline
  | remove
  | online
  deriving DecidableEq, Repr

namespace PageAction

def all : List PageAction := [offline, remove, online]

def fileName : PageAction → String
  | offline => "offline_page"
  | remove => "remove_page"
  | online => "online_page"

end PageAction

inductive RepairCommand
  | aclsQuery
  | aclsRepair
  | spprQuery
  | spprRepair
  deriving DecidableEq, Repr

namespace RepairCommand

def all : List RepairCommand := [aclsQuery, aclsRepair, spprQuery, spprRepair]

def fileName : RepairCommand → String
  | aclsQuery => "acls_query"
  | aclsRepair => "acls_repair"
  | spprQuery => "sppr_query"
  | spprRepair => "sppr_repair"

/-- The query and the repair command of a mode; cache mode has none. -/
def ofMode : Mode → Option (RepairCommand × RepairCommand)
  | .acls => some (aclsQuery, aclsRepair)
  | .sppr => some (spprQuery, spprRepair)
  | .cache => none

end RepairCommand

inductive MemoryType
  | hbm
  | ddr
  | unknown
  deriving DecidableEq, Repr

namespace MemoryType

def ofName (name : String) : MemoryType :=
  if name = "HBM" then hbm
  else if name = "DDR" then ddr
  else unknown

end MemoryType

/-- The amount of corrupted memory, in KiB, that a memory information text states. -/
def corruptedMemory (meminfo : List Char) : Option UInt64 := do
  let rest ← (Text.lines meminfo).findSome? (Text.stripStart? "HardwareCorrupted:".toList)
  let word ← (Text.words rest).head?
  (Text.readWord64 10 word).toOption

/-- An answer, the log lines on the way to it, and the state after it. -/
structure Reply (σ α : Type) where
  value : α
  state : σ
  log : List LogLine := []

structure Platform (σ δ : Type) where
  corrupted : σ → Reply σ (Except Failure UInt64)
  page : PageAction → UInt64 → σ → Reply σ (Except IoError Unit)
  devices : σ → Reply σ (Except Failure (List δ))
  deviceName : δ → String
  memoryType : δ → σ → Reply σ (Except Failure MemoryType)
  command : δ → RepairCommand → UInt64 → σ → Reply σ (Except IoError Nat)

/-- A request to the platform. -/
inductive PlatformCall
  | corrupted
  | page (action : PageAction) (address : UInt64)
  | devices
  | memoryType (device : String)
  | command (what : RepairCommand) (device : String) (address : UInt64)
  deriving DecidableEq, Repr

namespace PlatformCall

def render : PlatformCall → String
  | corrupted => "hardware_corrupted"
  | page action address => action.fileName ++ " " ++ Text.hexMarked address.toNat
  | devices => "repair_devices"
  | memoryType device => "memory_type " ++ device
  | command what device address =>
    what.fileName ++ " " ++ device ++ " " ++ Text.hexMarked address.toNat

end PlatformCall

end MemoryRepair
