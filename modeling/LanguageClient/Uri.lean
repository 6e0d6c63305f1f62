import LanguageClient.Path
import LanguageClient.Text.Blank

/-! # File URIs

A file is named to the server by a URI. The path of something that is there is resolved first; one
that stays relative follows the scheme as it is, so that it comes back out of the URI. What the URI
of an absolute path is, and which path such a URI names, is the business of the system.
-/

namespace LanguageClient

/-- What the system knows of paths and of the URIs of absolute ones. -/
class Places where
  /-- The path itself, or if something is there the absolute path of it, without links. -/
  resolve : Text → Text
  /-- The URI of an absolute path. -/
  uriOf : Text → Text
  /-- The path that the URI of a file names; `none` if it names no file of this system. -/
  pathOf? : Text → Option Text
  uriOf_ne_empty {path : Text} (absolute : Path.isAbsolute path = true) : uriOf path ≠ ""

def Uri.fileScheme : Text := "file://"

namespace Places.Bare

/-- Nothing is at any path, and the URI of an absolute path spells it as it is. -/
scoped instance bare : Places where
  resolve path := path
  uriOf path := Uri.fileScheme ++ path
  pathOf? _ := none
  uriOf_ne_empty _ := fun nothing =>
    absurd (Text.append_eq_empty_iff.mp nothing).1 (by decide)

end Places.Bare

namespace Uri

variable [Places]

/-- The URI of a path; a blank path has none. -/
def ofPath (path : Text) : Text :=
  let text := Text.strip path
  if text.isEmpty then ""
  else
    let resolved := Places.resolve text
    if Path.isAbsolute resolved then Places.uriOf resolved else fileScheme ++ resolved

/-- The characters behind the scheme of a file URI. -/
def dropScheme? : List CodePoint → Option (List CodePoint)
  | 'f' :: 'i' :: 'l' :: 'e' :: ':' :: '/' :: '/' :: rest => some rest
  | _ => none

/-- The path that a URI names; a URI of another scheme stays as it is. -/
def toPath (uri : Text) : Text :=
  let text := Text.strip uri
  match dropScheme? text.toList with
  | some rest =>
    let path := Text.ofList rest
    if Path.isAbsolute path then (Places.pathOf? text).getD path else path
  | none => text

end Uri

end LanguageClient
