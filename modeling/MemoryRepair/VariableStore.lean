import MemoryRepair.Bytes
import MemoryRepair.Failure
import MemoryRepair.Slot

/-!
The directory that keeps one file per slot, and the immutable attribute of these
files. A store is a machine over some states: it shows the directory, opens and
writes the files of slots, and answers requests about the attribute. Any of its
answers may be an error, and a write may take fewer bytes than it was given.
-/
namespace MemoryRepair

/-- What stands at the path of a slot. -/
inductive Variable
  | file (content : Bytes)
  | directory
  /-- A special file that refuses to be opened. -/
  | sealed (errno : Errno)
  deriving DecidableEq, Repr

namespace Variable

/-- The size that the system states for a directory. -/
def directorySize : Nat := 4096

def size : Variable → Nat
  | file content => content.length
  | directory => directorySize
  | sealed _ => 0

def read : Variable → Except IoError Bytes
  | file content => .ok content
  | directory => .error (.os Errno.isDirectory)
  | sealed errno => .error (.os errno)

end Variable

inductive VariableDirectory
  /-- The paths of the slots lead nowhere, for the given reason. -/
  | unreachable (error : IoError)
  | present (slots : Slot → Option Variable)

namespace VariableDirectory

def get (directory : VariableDirectory) (slot : Slot) : Option Variable :=
  match directory with
  | unreachable _ => none
  | present slots => slots slot

/-- The same directory with new content at one slot. -/
def put (directory : VariableDirectory) (slot : Slot) (v : Option Variable) :
    VariableDirectory :=
  match directory with
  | unreachable err => unreachable err
  | present slots => present fun k => if k = slot then v else slots k

@[simp] theorem get_put_self (slots : Slot → Option Variable) (slot : Slot)
    (v : Option Variable) : (put (present slots) slot v).get slot = v := by
  simp [put, get]

theorem get_put_of_ne (directory : VariableDirectory) {slot k : Slot} (v : Option Variable)
    (h : k ≠ slot) : (directory.put slot v).get k = directory.get k := by
  cases directory <;> simp [put, get, h]

@[simp] theorem put_put (directory : VariableDirectory) (slot : Slot) (v w : Option Variable) :
    (directory.put slot v).put slot w = directory.put slot w := by
  cases directory with
  | unreachable err => rfl
  | present slots =>
    refine congrArg present (funext fun k => ?_)
    by_cases hk : k = slot <;> simp [hk]

theorem put_eq_self {directory : VariableDirectory} {slot : Slot} {v : Option Variable}
    (h : directory.get slot = v) : directory.put slot v = directory := by
  cases directory with
  | unreachable err => rfl
  | present slots =>
    refine congrArg present (funext fun k => ?_)
    by_cases hk : k = slot
    · rw [if_pos hk, hk, ← h, get]
    · rw [if_neg hk]

/-- The sizes of all that stands at the slots, in their order. -/
def sizes (directory : VariableDirectory) : List Nat :=
  Slot.all.filterMap fun slot => (directory.get slot).map Variable.size

end VariableDirectory

structure VariableStore (σ : Type) where
  directory : σ → VariableDirectory
  path : Slot → String
  /-- Open a slot's file to write at its end, making it if that is asked for. -/
  openFile : Slot → (create : Bool) → σ → Except IoError Unit × σ
  /-- Write at the end of a slot's opened file; the answer is how many bytes were taken. -/
  write : Slot → Bytes → σ → Except IoError Nat × σ
  isImmutable : Slot → σ → Except IoError Bool × σ
  setImmutable : Slot → Bool → σ → Except IoError Unit × σ

end MemoryRepair
