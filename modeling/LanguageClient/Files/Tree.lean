import LanguageClient.Files.Fault
import LanguageClient.Path
import LanguageClient.Table
import LanguageClient.Text.Utf8

/-! # File trees

The files below the working folder and those below the root, as data. A path is followed part
by part, from the working folder or from the root; above the working folder nothing is known
but that steps up lead to folders.
-/

namespace LanguageClient

/-- Files by the names on the way to them, and the folders there are besides those that the
    files stand in. -/
structure FileBranch where
  files : Table (List Text) (List UInt8) := []
  folders : List (List Text) := []
  deriving Repr, DecidableEq

/-- What stands below the working folder, and what is known to stand below the root. -/
structure FileTree where
  here : FileBranch := {}
  root : FileBranch := {}
  deriving Repr, DecidableEq

/-- What a path leads to. -/
inductive FileNode where
  | file (bytes : List UInt8)
  | folder
  deriving Repr, DecidableEq

/-- A place on the way along a path: some names below the working folder, some names below the
    root, or a folder above the working folder. -/
inductive FilePlace where
  | inside (names : List Text)
  | rooted (names : List Text)
  | above
  deriving Repr, DecidableEq

/-- The folder that a place stands in. The root stands in itself. -/
def FilePlace.up : FilePlace → FilePlace
  | .inside [] => .above
  | .inside names => .inside names.dropLast
  | .rooted names => .rooted names.dropLast
  | .above => .above

namespace FileBranch

/-- A branch out of files and folders by their paths. -/
def ofPaths (files : List (Text × List UInt8)) (folders : List Text) : FileBranch :=
  { files := files.map (fun file => (Path.names file.1, file.2))
    folders := folders.map Path.names }

def isFolder (branch : FileBranch) (names : List Text) : Bool :=
  names.isEmpty || branch.folders.any (names.isPrefixOf ·) ||
    branch.files.any (fun file => names.isPrefixOf file.1 && names != file.1)

def enter (branch : FileBranch) (names : List Text) (name : Text) :
    Except FileFault (List Text) :=
  let next := names ++ [name]
  if branch.isFolder next || Table.has branch.files next then .ok next else .error .notFound

def nodeAt (branch : FileBranch) (names : List Text) : FileNode :=
  match Table.get? branch.files names with
  | some bytes => .file bytes
  | none => .folder

end FileBranch

namespace FileTree

/-- The bytes of a name: those of its characters, and one for a half that stands for a byte. -/
def byteSize (name : Text) : Nat :=
  name.toList.foldl (fun size point => size + (point.char?.map Char.utf8Size).getD 1) 0

/-- Names longer than this are refused. -/
def maxNameBytes : Nat := 255

/-- Paths longer than this are refused. -/
def maxPathBytes : Nat := 4095

/-- One step along a path, from a folder. -/
def step (tree : FileTree) (place : FilePlace) (part : Text) :
    Except FileFault FilePlace :=
  if byteSize part > maxNameBytes then .error .nameTooLong
  else if part = ".." then .ok place.up
  else match place with
    | .inside names => (tree.here.enter names part).map .inside
    | .rooted names => (tree.root.enter names part).map .rooted
    | .above => .error .notFound

def nodeAt (tree : FileTree) : FilePlace → FileNode
  | .inside names => tree.here.nodeAt names
  | .rooted names => tree.root.nodeAt names
  | .above => .folder

def follow (tree : FileTree) : FilePlace → List Text → Except FileFault FilePlace
  | place, [] => .ok place
  | place, part :: rest =>
    match tree.nodeAt place with
    | .file _ => .error .notAFolder
    | .folder =>
      match tree.step place part with
      | .ok next => follow tree next rest
      | .error fault => .error fault

def resolve (tree : FileTree) (start : FilePlace) (path : Text) : Except FileFault FilePlace :=
  if byteSize path > maxPathBytes then .error .nameTooLong
  else if path.isEmpty then .error .notFound
  else follow tree (if Path.isAbsolute path then .rooted [] else start) (Path.names path)

def read (tree : FileTree) (path : Text) : Except FileFault (List UInt8) :=
  match tree.resolve (.inside []) path with
  | .error fault => .error fault
  | .ok place =>
    match tree.nodeAt place with
    | .file bytes => .ok bytes
    | .folder => .error .isAFolder

/-- Whether a path asks for a folder by what it ends with. -/
def asksForFolder (path : Text) : Bool :=
  match (Path.parts path).getLast? with
  | some part => part = "" || part = "."
  | none => false

/-- Why a program cannot be run from the folder at `folder`. No file of the tree may be run.
    A program named without a folder is looked for elsewhere, where there is none but the
    folders that a dot names. -/
def runFault (tree : FileTree) (folder : FilePlace) (program : Text) : FileFault :=
  if !program.toList.contains '/' then
    if program = "." ∨ program = ".." then .denied
    else if byteSize program > maxNameBytes then .nameTooLong
    else .notFound
  else match tree.resolve folder program with
    | .error fault => fault
    | .ok place =>
      match tree.nodeAt place with
      | .file _ => if asksForFolder program then .notAFolder else .denied
      | .folder => .denied

end FileTree

end LanguageClient
