import LanguageClient.Fault
import LanguageClient.Text.Lines

/-! # Paths as text

Paths are text with slashes between their parts. Nothing here looks at a file system.
-/

namespace LanguageClient.Path

def parts (path : Text) : List Text :=
  (Text.splitChars '/' path.toList).map Text.ofList

/-- The slashes that begin an absolute path: one, or two if it begins with exactly two. -/
def root (path : Text) : Text :=
  match path.toList with
  | '/' :: '/' :: '/' :: _ => "/"
  | '/' :: '/' :: _ => "//"
  | '/' :: _ => "/"
  | _ => ""

def isAbsolute (path : Text) : Bool :=
  path.startsWith "/"

/-- Walk back over a part and the step up behind it, where the part is a name. The parts
    already kept stand last first. -/
def foldUp (absolute : Bool) (kept : List Text) (part : Text) : List Text :=
  if part = "" ∨ part = "." then kept
  else if part ≠ ".." then part :: kept
  else match kept with
    | [] => if absolute then [] else [part]
    | ".." :: _ => part :: kept
    | _ :: before => before

/-- The path without empty parts, dots, and names that a step up takes back. -/
def normalize (path : Text) : Text :=
  let start := root path
  let kept := (parts path).foldl (foldUp (start ≠ "")) []
  let text := start ++ Text.intercalate "/" kept.reverse
  if text = "" then "." else text

/-- Whether half of a pair stands for a byte in a path, as one that is no text does. -/
def isEscape (half : Fin 0x800) : Bool :=
  0x480 ≤ half.val && half.val < 0x500

/-- Whether a path of a file can hold a code point: no null character, and of the halves of pairs
    only those that stand for bytes. -/
def isUsablePoint : CodePoint → Bool
  | .scalar c => c != '\x00'
  | .surrogate half => isEscape half

/-- Whether a path can lead anywhere. -/
def isUsable (path : Text) : Bool :=
  path.toList.all isUsablePoint

/-- Why the system cannot even be asked about a path, if it cannot. -/
def obstacle? (path : Text) : Option Fault :=
  (Text.unencodable? isEscape 0 path.toList).or
    (if path.toList.contains '\x00' then some .nullInPath else none)

/-- The names in a path: its parts without empty ones and dots. -/
def names (path : Text) : List Text :=
  (parts path).filter (fun (part : Text) => part ≠ "" ∧ part ≠ ".")

/-- The path without empty parts and dots; a step up stays as it is. -/
def tidy (path : Text) : Text :=
  let text := root path ++ Text.intercalate "/" (names path)
  if text = "" then "." else text

/-- A relative path below another one. -/
def join (path below : Text) : Text :=
  root path ++ Text.intercalate "/" (names path ++ names below)

def folder (path : Text) : Text :=
  let text := root path ++ Text.intercalate "/" (names path).dropLast
  if text = "" then "." else text

/-- The suffix of a file name with its dot in front. Dots that begin a name begin no
    suffix. -/
def suffix (path : Text) : Text :=
  let name := (path.toList.reverse.takeWhile (· ≠ CodePoint.scalar '/')).reverse
  let bare := name.dropWhile (· == CodePoint.scalar '.')
  if bare.contains '.' then
    "." ++ Text.ofList (bare.reverse.takeWhile (· ≠ CodePoint.scalar '.')).reverse
  else ""

end LanguageClient.Path
