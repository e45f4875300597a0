import Credential.Host.File

/-!
# A directory in memory

A tree of files and folders under one root, with paths in the usual form: names joined by
slashes, where an empty name and `.` stay where they are and `..` goes one level up. A step
from anything but a folder fails, so `key.pem/` is no file.

A walk that leaves the directory, above its root or from the root of the host, is in folders
that hold no other name.
-/

namespace Credential.Host

/-- A file with its mode bits, or a folder. -/
inductive Node where
  | file (data : Bytes) (mode : Nat)
  | folder
  deriving DecidableEq, Repr

/-- A place in a directory: the names that lead to it from the root. -/
abbrev Place := List String

/-- The files and folders of a directory, by their places. -/
structure Directory where
  nodes : List (Place × Node) := []
  deriving DecidableEq, Repr

namespace Directory

/-! ## Reading -/

/-- The node at a place; the root is a folder. -/
def node? (dir : Directory) (place : Place) : Option Node :=
  if place = [] then some .folder else dir.nodes.lookup place

/-- Where a walk is: at a place of the directory, or in a folder of the host. -/
inductive Position where
  | inside (place : Place)
  | outside
  deriving DecidableEq, Repr

/-- One level up. -/
def Position.up : Position → Position
  | .inside (name :: names) => .inside (name :: names).dropLast
  | _ => .outside

/-- The node that a name leads to from a folder. -/
def child? (dir : Directory) (name : String) : Position → Option (Position × Node)
  | .inside place => (dir.node? (place ++ [name])).map fun node => (.inside (place ++ [name]), node)
  | .outside => none

/-- The most octets of a name. -/
def maxName : Nat := 255

/-- The node that names lead to from the node at a position. -/
def walk (dir : Directory) (position : Position) (node : Node) :
    List String → Except FileError Node
  | [] => .ok node
  | name :: names =>
    if node ≠ .folder then .error .notDirectory
    else if name = "" ∨ name = "." then walk dir position node names
    else if name = ".." then walk dir position.up .folder names
    else if name.utf8ByteSize > maxName then .error .nameTooLong
    else match dir.child? name position with
      | none => .error .notFound
      | some (next, node) => walk dir next node names

/-- The names of a path. -/
def names (path : String) : List String := path.splitOn "/"

/-- The most octets of a path. -/
def maxPath : Nat := 4095

/-- The position that a path starts from. -/
def origin (path : String) : Position :=
  if path.startsWith "/" then .outside else .inside []

/-- The node at a path. -/
def resolve (dir : Directory) (path : String) : Except FileError Node :=
  if path.toList.contains '\x00' then .error .nulInName
  else if path = "" then .error .notFound
  else if path.utf8ByteSize > maxPath then .error .nameTooLong
  else dir.walk (origin path) .folder (names path)

/-- The content of a file. -/
def content (dir : Directory) (path : String) : Except FileError Bytes := do
  match ← dir.resolve path with
  | .file data _ => return data
  | .folder => throw .isDirectory

/-- Who may use a file. -/
def permissions (dir : Directory) (path : String) : Permissions :=
  match dir.resolve path with
  | .ok (.file _ mode) => .ofMode mode
  | _ => .unknown

/-! ## Changes -/

/-- The place that names lead to from a place of the directory. -/
def placeFrom (place : Place) : List String → Place
  | [] => place
  | name :: names =>
    if name = "" ∨ name = "." then placeFrom place names
    else if name = ".." then placeFrom place.dropLast names
    else placeFrom (place ++ [name]) names

/-- The place that a path of the directory writes. -/
def placeOf (path : String) : Place := placeFrom [] (names path)

/-- The directory with a node at a place, which replaces the one that was there. -/
def put (dir : Directory) (place : Place) (node : Node) : Directory :=
  ⟨(place, node) :: dir.nodes.filter fun n => n.1 ≠ place⟩

/-- The directory with a node under a place, and with the folders on the way to it. -/
def putUnder (dir : Directory) (place : Place) (node : Node) : List String → Directory
  | [] => dir
  | [name] => dir.put (place ++ [name]) node
  | name :: names =>
    let next := place ++ [name]
    let opened := if (dir.node? next).isSome then dir else dir.put next .folder
    putUnder opened next node names

/-- The directory with a node at a path, and with the folders on the way to it. What a folder
holds stays if the folder is inserted again. -/
def insert (dir : Directory) (path : String) (node : Node) : Directory :=
  dir.putUnder [] node (placeOf path)

/-- The directory without the node at a path and all that is under it. -/
def erase (dir : Directory) (path : String) : Directory :=
  ⟨dir.nodes.filter fun n => !(placeOf path).isPrefixOf n.1⟩

/-- The directory with other mode bits on the file at a path. -/
def setMode (dir : Directory) (path : String) (mode : Nat) : Directory :=
  match dir.nodes.lookup (placeOf path) with
  | some (.file data _) => dir.put (placeOf path) (.file data mode)
  | _ => dir

end Directory

end Credential.Host
