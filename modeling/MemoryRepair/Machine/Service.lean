import MemoryRepair.FaultAddress.Text
import MemoryRepair.Machine
import MemoryRepair.Repair

/-!
The management service of a machine. It listens on a socket; each message has a
connection of its own, and a message that cannot be delivered is given up.
-/
namespace MemoryRepair.Machine

/-- The most bytes that the path of a socket may have. -/
def socketPathLimit : Nat := 107

/-- Why a path cannot name a socket, if it cannot. -/
def socketPathFault? (path : String) : Option IoError :=
  if path.toList.contains '\x00' then some (.other "paths must not contain interior null bytes")
  else if socketPathLimit < path.utf8ByteSize then
    some (.other "path must be shorter than SUN_LEN")
  else none

/-- Deliver one message to the service at a path. -/
def send (path : String) (message : String) (machine : Machine) :
    Except IoError Unit × Machine :=
  match socketPathFault? path with
  | some err => (.error err, machine)
  | none =>
    match machine.files.find path with
    | .error err => (.error err, machine)
    | .ok (_, .socket true) => (.ok (), { machine with inbox := machine.inbox ++ [message] })
    | .ok _ => (.error (.os Errno.refused), machine)

def notifier (path : String) : Notifier Machine where
  notify report machine :=
    let message := report.message
    let lines : List LogLine :=
      [⟨.debug, "Fault address: " ++ report.fault.render⟩,
       ⟨.debug, "Send msg to sysSentry, bmc msg is " ++ message⟩]
    match send path message machine with
    | (.ok (), after) => ⟨(), after, lines⟩
    | (.error err, after) =>
      ⟨(), after, lines ++
        [⟨.error, "Failed to send data to BMC notice socket " ++ path ++ ": " ++ err.message⟩]⟩

end MemoryRepair.Machine
