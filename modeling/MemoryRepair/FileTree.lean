import MemoryRepair.Bytes
import MemoryRepair.Failure
import MemoryRepair.Text.Blank

/-!
A tree of files as plain data: the places that exist, each with what stands
there. Paths are resolved from the root as the system does it, every place on the
way having to be a directory.
-/
namespace MemoryRepair

/-- The names on the way from the root. -/
abbrev Place := List String

inductive Node
  | file (content : Bytes)
  | directory
  /-- A device that opens but takes no data. -/
  | fullDevice
  | socket (listening : Bool)
  | pipe (content : Bytes)
  /-- A file that can be read up to some place, where every read fails. -/
  | faulty (content : Bytes) (errno : Errno)
  deriving DecidableEq, Repr

structure FileTree where
  nodes : List (Place × Node) := []
  deriving Repr

namespace Path

/-- A path continued by another, which replaces it if it starts at the root. -/
def join (base more : String) : String :=
  if more.startsWith "/" ∨ base.isEmpty then more
  else if base.endsWith "/" then base ++ more
  else base ++ "/" ++ more

/-- The parts between slashes. -/
def parts (path : String) : List String :=
  (Text.splitBy (· == '/') path.toList).map String.ofList

end Path

namespace FileTree

/-- What stands at a place. The root is always a directory. -/
def lookup (tree : FileTree) (place : Place) : Option Node :=
  if place = [] then some .directory
  else (tree.nodes.find? (·.1 == place)).map (·.2)

/-- Put a node at a place, in the place of the node there if there is one. -/
def set (tree : FileTree) (place : Place) (node : Node) : FileTree :=
  if tree.nodes.any (·.1 == place) then
    ⟨tree.nodes.map fun (p, n) => if p = place then (p, node) else (p, n)⟩
  else ⟨tree.nodes ++ [(place, node)]⟩

/-- Remove a place with everything below it. -/
def remove (tree : FileTree) (place : Place) : FileTree :=
  ⟨tree.nodes.filter fun (p, _) => !place.isPrefixOf p⟩

/-- Make every place on the way to a place a directory, if nothing stands there. -/
def withParents (tree : FileTree) (place : Place) : FileTree :=
  (List.range (place.length - 1)).foldl (fun tree k =>
    let parent := place.take (k + 1)
    match tree.lookup parent with
    | none => tree.set parent .directory
    | some _ => tree) tree

/-- Put a node in the place of all that stands at a place and below it; without a
node the place is left empty. -/
def graft (tree : FileTree) (place : Place) (node? : Option Node) : FileTree :=
  let bare := tree.remove place
  match node? with
  | none => bare
  | some node => (bare.withParents place).set place node

/-- The places where another tree differs, each with what stands there in it. -/
def changes (before after : FileTree) : List (Place × Option Node) :=
  let added := after.nodes.filterMap fun (place, node) =>
    if before.lookup place = some node then none else some (place, some node)
  let removed := before.nodes.filterMap fun (place, _) =>
    if (after.lookup place).isSome then none else some (place, none)
  added ++ removed

/-- Names directly below a place. -/
def children (tree : FileTree) (place : Place) : List String :=
  tree.nodes.filterMap fun (p, _) =>
    if p.dropLast = place then p.getLast? else none

/-- The most bytes that a name may have. -/
def nameLimit : Nat := 255

/-- The most bytes that a whole path may have. -/
def pathLimit : Nat := 4095

/-- Follow the parts of a path. The last place reached need not exist. -/
def walk (tree : FileTree) (here : Place) : List String → Except IoError Place
  | [] => .ok here
  | part :: rest =>
    match tree.lookup here with
    | none => .error (.os Errno.noEntry)
    | some .directory =>
      if part = "" ∨ part = "." then walk tree here rest
      else if part = ".." then walk tree here.dropLast rest
      else if nameLimit < part.utf8ByteSize then .error (.os Errno.nameTooLong)
      else walk tree (here ++ [part]) rest
    | some _ => .error (.os Errno.notDirectory)

/-- The place of a path. Relative paths lead nowhere. -/
def resolve (tree : FileTree) (path : String) : Except IoError Place :=
  if path.toList.contains '\x00' then
    .error (.other "file name contained an unexpected NUL byte")
  else if pathLimit < path.utf8ByteSize then .error (.os Errno.nameTooLong)
  else
    match Path.parts path with
    | "" :: part :: rest => tree.walk [] (part :: rest)
    | _ => .error (.os Errno.noEntry)

/-- The place of a path and what stands there. -/
def find (tree : FileTree) (path : String) : Except IoError (Place × Node) :=
  match tree.resolve path with
  | .error err => .error err
  | .ok place =>
    match tree.lookup place with
    | none => .error (.os Errno.noEntry)
    | some node => .ok (place, node)

/-- The whole content of the file at a path. -/
def read (tree : FileTree) (path : String) : Except IoError Bytes :=
  match tree.find path with
  | .error err => .error err
  | .ok (_, .file content) | .ok (_, .pipe content) => .ok content
  | .ok (_, .directory) => .error (.os Errno.isDirectory)
  | .ok (_, .fullDevice) => .error (.os Errno.noMemory)
  | .ok (_, .socket _) => .error (.os Errno.noDevice)
  | .ok (_, .faulty _ errno) => .error (.os errno)

/-- The content of a file as a text. -/
def readText (tree : FileTree) (path : String) : Except IoError (List Char) :=
  match tree.read path with
  | .error err => .error err
  | .ok bytes =>
    match Text.Utf8.decode bytes with
    | .ok text => .ok text
    | .error _ => .error .invalidText

/-- Open a path for writing: the place and the node that takes the data. -/
def openWrite (tree : FileTree) (path : String) : Except IoError (Place × Node) :=
  match tree.find path with
  | .ok (_, .directory) => .error (.os Errno.isDirectory)
  | .ok (_, .socket _) => .error (.os Errno.noDevice)
  | found => found

/-- Where a write puts its bytes in a file. -/
inductive WriteAt
  | start
  | finish
  deriving DecidableEq, Repr

/-- The content after bytes are written; the rest of a longer content stays. -/
def overwrite (side : WriteAt) (content bytes : Bytes) : Bytes :=
  match side with
  | .start => bytes ++ content.drop bytes.length
  | .finish => content ++ bytes

/-- Write to an opened node; the answer is the number of bytes taken. -/
def writeOpened (tree : FileTree) (side : WriteAt) (place : Place) (node : Node) (bytes : Bytes) :
    Except IoError Nat × FileTree :=
  match node with
  | .file content => (.ok bytes.length, tree.set place (.file (overwrite side content bytes)))
  | .pipe content => (.ok bytes.length, tree.set place (.pipe (content ++ bytes)))
  | _ => (.error (.os Errno.noSpace), tree)

/-- Make a directory in a directory that exists. -/
def makeDirectory (tree : FileTree) (path : String) : Except IoError FileTree :=
  match tree.resolve path with
  | .error err => .error err
  | .ok place =>
    match tree.lookup place with
    | some _ => .error (.os Errno.fileExists)
    | none =>
      match tree.lookup place.dropLast with
      | some .directory => .ok (tree.set place .directory)
      | some _ => .error (.os Errno.notDirectory)
      | none => .error (.os Errno.noEntry)

/-- The names in the directory at a path. -/
def list (tree : FileTree) (path : String) : Except IoError (List String) :=
  match tree.find path with
  | .error err => .error err
  | .ok (place, .directory) => .ok (tree.children place)
  | .ok _ => .error (.os Errno.notDirectory)

end FileTree

end MemoryRepair
