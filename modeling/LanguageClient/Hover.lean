import LanguageClient.Json.Basic
import LanguageClient.Text.Lines

/-! # Hover text

The plain text of a hover result. Its contents come as a string, as a list of strings and
tagged strings, or as one tagged string that may be Markdown.
-/

namespace LanguageClient.Hover

/-- Three backticks, with which the lines around a code block begin. -/
def fence : Text := "```"

/-- Markdown without the lines that begin and end code blocks. -/
def stripFences (text : Text) : Text :=
  Text.intercalate "\n" (text.lines.filter (fun line => !line.startsWith fence))

/-- The text of a string, or of a tagged string. -/
def segment? : Json → Option Text
  | .str text => some text
  | .obj entries => (Json.field (.obj entries) "value").text?
  | _ => none

/-- The segments in the contents of a hover result, empty ones included. -/
def segments : Json → List Text
  | .arr items => items.filterMap segment?
  | .obj entries =>
    let contents := Json.obj entries
    match (contents.field "value").text? with
    | none => []
    | some text =>
      if (contents.field "kind").text? = some "markdown" then [stripFences text] else [text]
  | .str text => [text]
  | _ => []

/-- The text of a hover result; `none` if there is nothing but blanks in it. -/
def textOf? (contents : Json) : Option Text :=
  let text := Text.intercalate "\n" ((segments contents).filter (fun segment => !segment.isEmpty))
  if Text.isAllBlank text then none else some text

end LanguageClient.Hover
