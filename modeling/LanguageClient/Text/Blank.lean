import LanguageClient.Text.Basic

/-! # Blank characters

The white space of Unicode, with the four ASCII separators: what is taken off the ends of a
name, a path or a command before it is used.
-/

namespace LanguageClient.Text

/-- White space of any script, line and paragraph separators included. -/
def isBlank (c : CodePoint) : Bool :=
  let code := c.toNat
  (9 ≤ code && code ≤ 13) || (28 ≤ code && code ≤ 32) || code == 0x85 || code == 0xA0 ||
    code == 0x1680 || (0x2000 ≤ code && code ≤ 0x200A) || code == 0x2028 || code == 0x2029 ||
    code == 0x202F || code == 0x205F || code == 0x3000

def dropBlanks (text : List CodePoint) : List CodePoint :=
  text.dropWhile isBlank

/-- The characters without the blanks at either end. -/
def stripChars (text : List CodePoint) : List CodePoint :=
  (dropBlanks (dropBlanks text).reverse).reverse

/-- The text without the blanks at either end. -/
def strip (text : Text) : Text :=
  ofList (stripChars text.toList)

/-- Text with nothing but blanks in it. -/
def isAllBlank (text : Text) : Bool :=
  text.toList.all isBlank

/-- The first character that is left is no blank. -/
theorem head_dropBlanks {text rest : List CodePoint} {c : CodePoint}
    (h : dropBlanks text = c :: rest) :
    isBlank c = false := by
  induction text with
  | nil => simp [dropBlanks] at h
  | cons d tail ih =>
    unfold dropBlanks at h ih
    rw [List.dropWhile_cons] at h
    split at h
    · exact ih h
    · simp_all

end LanguageClient.Text
