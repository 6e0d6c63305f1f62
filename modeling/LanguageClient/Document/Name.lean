import LanguageClient.Fault

/-! # Names of documents

A host may name its documents by their paths, or by other values that have a text. Documents
are kept by their paths alone, but a host is answered with the name that it used, and two
names of one path may be told apart.
-/

namespace LanguageClient

/-- How a type of values names documents. The names in a table, and those of the places that a
    pointer is on, are told apart by `==`. -/
class DocumentName (π : Type) [BEq π] where
  /-- The text of a name. -/
  text : π → Text
  /-- The name of a path. -/
  ofPath : Text → π
  /-- Whether a name counts as nothing, whatever its text. -/
  isBlank : π → Bool
  /-- Whether what is said of one name is said of the other. -/
  agrees : π → π → Bool
  /-- Why a name cannot be kept in a table, if it cannot. -/
  refusal? : π → Option Fault
  text_ofPath (path : Text) : text (ofPath path) = path
  refusal?_ofPath (path : Text) : refusal? (ofPath path) = none

namespace DocumentName

/-- A path names itself. -/
instance : DocumentName Text where
  text path := path
  ofPath path := path
  isBlank _ := false
  agrees path other := path == other
  refusal? _ := none
  text_ofPath _ := rfl
  refusal?_ofPath _ := rfl

@[simp] theorem text_path (path : Text) : text path = path := rfl

@[simp] theorem ofPath_path (path : Text) : (ofPath path : Text) = path := rfl

@[simp] theorem isBlank_path (path : Text) : isBlank path = false := rfl

@[simp] theorem agrees_path (path other : Text) : agrees path other = (path == other) := rfl

@[simp] theorem refusal?_path (path : Text) : refusal? path = none := rfl

variable {π : Type} [BEq π] [DocumentName π]

/-- Check that a name can be kept in a table. -/
def check (name : π) : Except Fault Unit :=
  match refusal? name with
  | none => .ok ()
  | some fault => .error fault

def pathToOpen (name : π) : Text :=
  if isBlank name then "" else text name

end DocumentName

end LanguageClient
