import LanguageClient.Text.Printable

/-! # Quoted text

How text is shown inside a message: between quotes, on one line, every character that
does not show as itself written by its code. Single quotes are used unless the text has one
and has no double quote.
-/

namespace LanguageClient.Text

/-- The hexadecimal digit of a value below sixteen. -/
def hexDigit (n : Nat) : Char :=
  if n < 10 then Char.ofNat ('0'.toNat + n) else Char.ofNat ('a'.toNat + (n - 10))

/-- The last `width` hexadecimal digits of a number. -/
def hexDigits : Nat → Nat → List Char
  | 0, _ => []
  | width + 1, n => hexDigits width (n / 16) ++ [hexDigit (n % 16)]

/-- A code point by its number: a letter that says how many digits there are, and the digits. -/
def codeOf (letter : Char) (width : Nat) (point : CodePoint) : List CodePoint :=
  ('\\' :: letter :: hexDigits width point.toNat).map CodePoint.scalar

/-- One code point inside quotes of the kind `quote`. -/
def quoteChar (quote : Char) (c : CodePoint) : List CodePoint :=
  if c = quote ∨ c = '\\' then ['\\', c]
  else if c = '\t' then ['\\', 't']
  else if c = '\n' then ['\\', 'n']
  else if c = '\r' then ['\\', 'r']
  else if isPrintable c then [c]
  else if c.toNat < 0x100 then codeOf 'x' 2 c
  else if c.toNat < 0x10000 then codeOf 'u' 4 c
  else codeOf 'U' 8 c

/-- The kind of quote that the text is put between. -/
def quoteFor (text : List CodePoint) : Char :=
  if text.contains '\'' && !text.contains '"' then '"' else '\''

def quoted (text : Text) : Text :=
  let points := text.toList
  let quote := quoteFor points
  ofList (.scalar quote :: points.flatMap (quoteChar quote) ++ [.scalar quote])

end LanguageClient.Text
