import LanguageClient.Text.Blank

/-! # Lines of text

Two ways to cut text into lines: at line feeds alone, which is how positions in a document
count lines, and at every line boundary of Unicode, which is how prose is read.
-/

namespace LanguageClient.Text

/-- The parts between the characters `mark`; text without the mark is its one part. -/
def splitChars (mark : CodePoint) : List CodePoint → List (List CodePoint)
  | [] => [[]]
  | c :: rest =>
    if c = mark then [] :: splitChars mark rest
    else match splitChars mark rest with
      | [] => [[c]]
      | part :: parts => (c :: part) :: parts

/-- The lines of a document: the parts between line feeds. -/
def lines (text : Text) : List Text :=
  (splitChars '\n' text.toList).map ofList

/-- A character that ends a line of prose. -/
def isLineBoundary (c : CodePoint) : Bool :=
  let code := c.toNat
  (10 ≤ code && code ≤ 13) || (28 ≤ code && code ≤ 30) || code == 0x85 || code == 0x2028 ||
    code == 0x2029

/-- The lines of prose, without what ends them. A carriage return with a line feed behind it
    is one ending, and a last line without an ending counts when it is not empty. -/
def proseLinesFrom : List CodePoint → List CodePoint → List (List CodePoint)
  | current, [] => if current.isEmpty then [] else [current.reverse]
  | current, '\r' :: '\n' :: rest => current.reverse :: proseLinesFrom [] rest
  | current, c :: rest =>
    if isLineBoundary c then current.reverse :: proseLinesFrom [] rest
    else proseLinesFrom (c :: current) rest

def proseLines (text : Text) : List Text :=
  (proseLinesFrom [] text.toList).map ofList

/-- Text with every carriage return, alone or before a line feed, read as a line feed. -/
def unifyNewlines : List Char → List Char
  | [] => []
  | '\r' :: '\n' :: rest => '\n' :: unifyNewlines rest
  | c :: rest => (if c = '\r' then '\n' else c) :: unifyNewlines rest

end LanguageClient.Text
