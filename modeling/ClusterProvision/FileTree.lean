import ClusterProvision.Text.Parts
import ClusterProvision.Text.Utf8

/-!
# `ClusterProvision.FileTree`: files below a working directory, and reading one

A path is followed name by name. An empty name and `.` stay where they are, and `..` goes
up. Nothing is known of what lies outside the working directory, so no name is found
there. A file cannot be gone through, and a directory cannot be read.

Names and contents are bytes. A file is read as text only if its bytes are one.
-/

set_option autoImplicit false

namespace ClusterProvision

/-- What is found under a name. -/
inductive FileEntry where
  | file (content : List UInt8)
  | directory
  deriving DecidableEq, Repr

/-- The files and directories below a working directory, each under the names that lead to
it. -/
structure FileTree where
  entries : List (List (List UInt8) × FileEntry)
  deriving DecidableEq, Repr

/-- Why a file cannot be read. -/
inductive ReadFault where
  | nulInPath
  | notFound
  | notDirectory
  | isDirectory
  | nameTooLong
  | notText
  deriving DecidableEq, Repr

/-- The message for a fault in reading. -/
def ReadFault.message : ReadFault → String
  | nulInPath => "file name contained an unexpected NUL byte"
  | notFound => "No such file or directory (os error 2)"
  | notDirectory => "Not a directory (os error 20)"
  | isDirectory => "Is a directory (os error 21)"
  | nameTooLong => "File name too long (os error 36)"
  | notText => "stream did not contain valid UTF-8"

namespace FileTree

/-- How many bytes a name may have. -/
def maxName : Nat := 255

/-- How many bytes a path may have. -/
def maxPath : Nat := 4095

/-- The names of a path: what stands between its slashes. -/
def names (path : List UInt8) : List (List UInt8) := Text.parts 0x2F path

/-- A tree of files with their paths. -/
def ofList (files : List (List UInt8 × FileEntry)) : FileTree :=
  ⟨files.map fun (path, entry) => (names path, entry)⟩

/-- What is found under names. Names that lead on to an entry lead to a directory. -/
def find? (tree : FileTree) (path : List (List UInt8)) : Option FileEntry :=
  match tree.entries.lookup path with
  | some entry => some entry
  | none =>
    if tree.entries.any fun (names, _) => path.isPrefixOf names then some .directory else none

/-- Where a path has led so far: to a directory below the working directory, to one outside
it, or to a file. -/
inductive Place where
  | inside (path : List (List UInt8))
  | outside
  | file (content : List UInt8)
  deriving DecidableEq, Repr

/-- The directory above a place. -/
def Place.up : Place → Place
  | inside [] => outside
  | inside path => inside path.dropLast
  | place => place

/-- Goes from a place to what has the given name there. -/
def enter (tree : FileTree) (name : List UInt8) : Place → Except ReadFault Place
  | .inside path =>
    match tree.find? (path ++ [name]) with
    | some (.file content) => .ok (.file content)
    | some .directory => .ok (.inside (path ++ [name]))
    | none => .error .notFound
  | _ => .error .notFound

/-- Follows names from a place. -/
def follow (tree : FileTree) : Place → List (List UInt8) → Except ReadFault Place
  | place, [] => .ok place
  | .file _, _ :: _ => .error .notDirectory
  | place, name :: rest =>
    if name = [] ∨ name = [0x2E] then tree.follow place rest
    else if name = [0x2E, 0x2E] then tree.follow place.up rest
    else if maxName < name.length then .error .nameTooLong
    else do tree.follow (← tree.enter name place) rest

/-- Reads the text of the file that a path leads to. -/
def readText (tree : FileTree) (path : List UInt8) : Except ReadFault String := do
  if path.contains 0 then throw .nulInPath
  if path.isEmpty then throw .notFound
  if maxPath < path.length then throw .nameTooLong
  let start := if path.head? = some 0x2F then Place.outside else Place.inside []
  match ← tree.follow start (names path) with
  | .file content =>
    match Text.ofUtf8? content with
    | some text => return text
    | none => throw .notText
  | _ => throw .isDirectory

end FileTree
end ClusterProvision
