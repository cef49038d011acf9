import MemoryRepair.FileTree
import MemoryRepair.VariableStore

/-!
A machine as the monitor sees it: its files, the messages that the management
service has received, and how the immutable attribute of the variables answers.
-/
namespace MemoryRepair

/-- How requests about the immutable attribute are answered. -/
structure AttributeScript where
  /-- What a file not yet asked about answers. -/
  initial : Bool := true
  failGet : Option Errno := none
  failClear : Option Errno := none
  failSet : Option Errno := none
  /-- Clearing then replaces the file by an empty directory. -/
  sabotage : Bool := false
  /-- Ask the inodes of the files, whose attribute is clear and may not be set. -/
  inodes : Bool := false
  deriving DecidableEq, Repr

structure Machine where
  files : FileTree := {}
  script : AttributeScript := {}
  /-- Attributes answered or set so far. -/
  attributes : List (Slot × Bool) := []
  inbox : List String := []

namespace Machine

def variableOf : Node → Variable
  | .file content => .file content
  | .directory => .directory
  | .fullDevice => .sealed Errno.noMemory
  | .socket _ => .sealed Errno.noDevice
  | .pipe _ => .sealed Errno.noDevice
  | .faulty _ errno => .sealed errno

/-- The place of the variables' directory, or why the paths of the slots lead
nowhere. The slots have file names of one length, so any of them tells. -/
def variablePlace (files : FileTree) (directory : String) : Except IoError Place :=
  (files.resolve (Path.join directory (Slot.fileName 0))).map List.dropLast

def variableDirectory (files : FileTree) (directory : String) : VariableDirectory :=
  match variablePlace files directory with
  | .error err => .unreachable err
  | .ok place => .present fun slot => (files.lookup (place ++ [slot.fileName])).map variableOf

/-- Put a node at the path of a slot. -/
def setVariable (machine : Machine) (directory : String) (slot : Slot) (node : Node) : Machine :=
  match variablePlace machine.files directory with
  | .error _ => machine
  | .ok place => { machine with files := machine.files.set (place ++ [slot.fileName]) node }

def remember (machine : Machine) (slot : Slot) (immutable : Bool) : Machine :=
  { machine with
    attributes := (slot, immutable) :: machine.attributes.filter (·.1 != slot) }

/-- Ask the inode at the path of a slot. -/
def inodeAnswers (machine : Machine) (path : String) : Except IoError Unit :=
  match machine.files.find path with
  | .error err => .error err
  | .ok (_, .file _) | .ok (_, .directory) => .ok ()
  | .ok (_, .socket _) => .error (.os Errno.noDevice)
  | .ok _ => .error (.os Errno.notTerminal)

def isImmutable (directory : String) (slot : Slot) (machine : Machine) :
    Except IoError Bool × Machine :=
  match machine.script.failGet with
  | some errno => (.error (.os errno), machine)
  | none =>
    if machine.script.inodes then
      ((machine.inodeAnswers (Path.join directory slot.fileName)).map fun _ => false, machine)
    else
      match machine.attributes.lookup slot with
      | some immutable => (.ok immutable, machine)
      | none => (.ok machine.script.initial, machine.remember slot machine.script.initial)

/-- Set or clear the attribute in place of the inode. -/
def changeAttribute (directory : String) (slot : Slot) (immutable : Bool) (machine : Machine) :
    Except IoError Unit × Machine :=
  if machine.script.inodes then
    match machine.inodeAnswers (Path.join directory slot.fileName) with
    | .error err => (.error err, machine)
    | .ok () => (if immutable then .error (.os Errno.notPermitted) else .ok (), machine)
  else (.ok (), machine.remember slot immutable)

/-- Put an empty directory in the place of the file at the path of a slot. -/
def replaceByDirectory (directory : String) (slot : Slot) (machine : Machine) :
    Except IoError Unit × Machine :=
  match machine.files.find (Path.join directory slot.fileName) with
  | .error err => (.error err, machine)
  | .ok (_, .directory) => (.error (.os Errno.isDirectory), machine)
  | .ok (place, _) => (.ok (), { machine with files := machine.files.set place .directory })

def setImmutable (directory : String) (slot : Slot) (immutable : Bool) (machine : Machine) :
    Except IoError Unit × Machine :=
  match if immutable then machine.script.failSet else machine.script.failClear with
  | some errno => (.error (.os errno), machine)
  | none =>
    match changeAttribute directory slot immutable machine with
    | (.ok (), after) =>
      if machine.script.sabotage ∧ immutable = false then replaceByDirectory directory slot after
      else (.ok (), after)
    | failed => failed

/-- Open the file at the path of a slot, making it if nothing stands there. -/
def openVariable (directory : String) (slot : Slot) (create : Bool) (machine : Machine) :
    Except IoError Unit × Machine :=
  match variablePlace machine.files directory with
  | .error err => (.error err, machine)
  | .ok place =>
    match machine.files.lookup (place ++ [slot.fileName]) with
    | none =>
      if create then (.ok (), machine.setVariable directory slot (.file []))
      else (.error (.os Errno.noEntry), machine)
    | some .directory => (.error (.os Errno.isDirectory), machine)
    | some (.socket _) => (.error (.os Errno.noDevice), machine)
    | some _ => (.ok (), machine)

/-- Write at the end of what stands at the path of a slot. -/
def writeVariable (directory : String) (slot : Slot) (bytes : Bytes) (machine : Machine) :
    Except IoError Nat × Machine :=
  match variablePlace machine.files directory with
  | .error err => (.error err, machine)
  | .ok place =>
    match machine.files.lookup (place ++ [slot.fileName]) with
    | none => (.error (.os Errno.noEntry), machine)
    | some node =>
      let (answer, files) :=
        machine.files.writeOpened .finish (place ++ [slot.fileName]) node bytes
      (answer, { machine with files })

/-- The variables in a directory of a machine. -/
def variableStore (directory : String) : VariableStore Machine where
  directory machine := variableDirectory machine.files directory
  path slot := Path.join directory slot.fileName
  openFile := openVariable directory
  write := writeVariable directory
  isImmutable := isImmutable directory
  setImmutable := setImmutable directory

end Machine

end MemoryRepair
