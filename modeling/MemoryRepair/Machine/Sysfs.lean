import MemoryRepair.Machine
import MemoryRepair.Platform

/-!
The platform of a machine: text files whose writes are commands. A command writes
the address at the start of its file, and the number of bytes taken is the count
that the driver answers.
-/
namespace MemoryRepair.Machine

structure PlatformPaths where
  meminfo : String
  pageEject : String
  devices : String
  deriving Repr

def deviceMark : String := "HISI0521"

def addressLine (address : UInt64) : Bytes :=
  Text.Utf8.encode (Text.hexMarked address.toNat ++ "\n")

/-- Write an address to the file of a command. -/
def writeAddress (path : String) (address : UInt64) (machine : Machine) :
    Reply Machine (Except IoError Nat) :=
  match machine.files.openWrite path with
  | .error err =>
    ⟨.error err, machine, [⟨.warn, "HBM: Cannot open '" ++ path ++ "': " ++ err.message⟩]⟩
  | .ok (place, node) =>
    match machine.files.writeOpened .start place node (addressLine address) with
    | (.ok count, files) => ⟨.ok count, { machine with files }, []⟩
    | (.error err, files) =>
      ⟨.error err, { machine with files },
        [⟨.warn, "HBM: Failed to set " ++ path ++ " (" ++ Text.hexMarked address.toNat ++ "): " ++
          err.message⟩]⟩

def corrupted (path : String) (machine : Machine) : Reply Machine (Except Failure UInt64) :=
  match machine.files.readText path with
  | .error err =>
    ⟨.error (.io err), machine,
      [⟨.error, "Failed to open " ++ path ++ ": " ++ err.message⟩]⟩
  | .ok text =>
    match corruptedMemory text with
    | none => ⟨.error .meminfoEntry, machine, []⟩
    | some amount => ⟨.ok amount, machine, []⟩

/-- The paths of the repair devices, in the order of their names. -/
def repairDevices (path : String) (machine : Machine) :
    Reply Machine (Except Failure (List String)) :=
  match machine.files.list path with
  | .error err =>
    ⟨.error (.io err), machine,
      [⟨.warn, "Can't read '" ++ path ++ "': " ++ err.message⟩]⟩
  | .ok names =>
    let devices := names.filter fun name => Text.occursIn deviceMark.toList name.toList
    ⟨.ok ((devices.mergeSort (fun a b => !decide (b < a))).map (Path.join path)), machine, []⟩

def deviceMemory (device : String) (machine : Machine) :
    Reply Machine (Except Failure MemoryType) :=
  let path := Path.join device "memory_type"
  match machine.files.readText path with
  | .error err =>
    ⟨.error (.io err), machine,
      [⟨.warn, "HBM: Cannot read '" ++ path ++ "': " ++ err.message⟩]⟩
  | .ok text =>
    let name := (text.reverse.dropWhile (· == '\n')).reverse
    ⟨.ok (MemoryType.ofName (String.ofList name)), machine, []⟩

def platform (paths : PlatformPaths) : Platform Machine String where
  corrupted := Machine.corrupted paths.meminfo
  page action address machine :=
    let reply := writeAddress (Path.join paths.pageEject action.fileName) address machine
    ⟨reply.value.map fun _ => (), reply.state, reply.log⟩
  devices := repairDevices paths.devices
  deviceName device := device
  memoryType := deviceMemory
  command device what address := writeAddress (Path.join device what.fileName) address

end MemoryRepair.Machine
