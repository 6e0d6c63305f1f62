import LanguageClient.Decimal.Numeral
import LanguageClient.Json.Basic
import LanguageClient.Text.Quoted

/-! # Writing JSON

The compact form that messages travel in: no white space, entries in their order, every
character as it is but the quote, the backslash and the controls.
-/

namespace LanguageClient.Json

/-- A character inside of a string. -/
def escapeChar (c : Char) : List Char :=
  if c = '"' then ['\\', '"']
  else if c = '\\' then ['\\', '\\']
  else if c = '\n' then ['\\', 'n']
  else if c = '\r' then ['\\', 'r']
  else if c = '\t' then ['\\', 't']
  else if c = '\x08' then ['\\', 'b']
  else if c = '\x0c' then ['\\', 'f']
  else if c.toNat < 0x20 then '\\' :: 'u' :: Text.hexDigits 4 c.toNat
  else [c]

/-- A code point inside of a string. -/
def escape : CodePoint → List CodePoint
  | .scalar c => (escapeChar c).map .scalar
  | half => [half]

def printString (text : Text) : List CodePoint :=
  .scalar '"' :: text.toList.flatMap escape ++ [.scalar '"']

/-- Characters as code points. -/
def spell (text : String) : List CodePoint :=
  text.toList.map .scalar

mutual

def print : Json → List CodePoint
  | .null => spell "null"
  | .bool true => spell "true"
  | .bool false => spell "false"
  | .int value => spell (toString value)
  | .float value => spell (Binary64.messageStyle.text value)
  | .str text => printString text
  | .arr items => .scalar '[' :: printItems items ++ [.scalar ']']
  | .obj entries => .scalar '\x7b' :: printEntries entries ++ [.scalar '\x7d']

def printItems : List Json → List CodePoint
  | [] => []
  | [item] => print item
  | item :: rest => print item ++ .scalar ',' :: printItems rest

def printEntries : List (Text × Json) → List CodePoint
  | [] => []
  | [(name, value)] => printString name ++ .scalar ':' :: print value
  | (name, value) :: rest =>
    printString name ++ .scalar ':' :: print value ++ .scalar ',' :: printEntries rest

end

end LanguageClient.Json
