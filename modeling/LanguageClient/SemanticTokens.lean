import LanguageClient.Json.Basic

/-! # Semantic tokens

A server sends the tokens of a document as a flat row of integers, five for each token,
every position relative to the token in front. Decoding gives the absolute positions.
-/

namespace LanguageClient

/-- What a token is. -/
inductive TokenType where
  | variableName
  | parameterName
  | functionName
  | methodName
  | propertyName
  | className
  | enumName
  | enumMember
  | typeName
  | namespaceName
  | keyword
  | modifier
  | comment
  | stringLiteral
  | numberLiteral
  | operator
  | macroName
  | unknown
  deriving Repr, DecidableEq

namespace TokenType

def name : TokenType → Text
  | variableName => "variable"
  | parameterName => "parameter"
  | functionName => "function"
  | methodName => "method"
  | propertyName => "property"
  | className => "class"
  | enumName => "enum"
  | enumMember => "enumMember"
  | typeName => "type"
  | namespaceName => "namespace"
  | keyword => "keyword"
  | modifier => "modifier"
  | comment => "comment"
  | stringLiteral => "string"
  | numberLiteral => "number"
  | operator => "operator"
  | macroName => "macro"
  | unknown => "unknown"

/-- The types that servers are told of, in order. -/
def announced : List TokenType :=
  [variableName, parameterName, functionName, methodName, propertyName, className, enumName,
    enumMember, typeName, namespaceName, keyword, modifier, comment, stringLiteral,
    numberLiteral, operator, macroName]

/-- The type of a name; a name that was never announced is unknown. -/
def ofName (name : Text) : TokenType :=
  (announced.find? (fun type => type.name = name)).getD unknown

def ofJson : Json → TokenType
  | .str name => ofName name
  | _ => unknown

end TokenType

/-- A token at its place in the document. -/
structure SemanticToken where
  line : Int
  col : Int
  length : Int
  type : TokenType
  /-- The name of the type as the server gave it. -/
  typeName : Text
  deriving Repr, DecidableEq

namespace SemanticToken

/-- The integers of an array that holds nothing else. -/
def integers? : List Json → Option (List Int)
  | [] => some []
  | .int value :: rest => (integers? rest).map (value :: ·)
  | _ :: _ => none

/-- The name at a place of the legend; places outside it have no name. -/
def legendName (legend : List Text) (index : Int) : Text :=
  if 0 ≤ index then (legend[index.toNat]?).getD "" else ""

/-- Tokens out of groups of five, given the place of the token in front. A step to another
    line starts the columns afresh. -/
def decodeFrom (legend : List Text) (line col : Int) : List Int → List SemanticToken
  | deltaLine :: deltaCol :: length :: index :: _ :: rest =>
    let line := if deltaLine > 0 then line + deltaLine else line
    let col := if deltaLine > 0 then deltaCol else col + deltaCol
    let typeName := legendName legend index
    { line, col, length, type := .ofName typeName, typeName } :: decodeFrom legend line col rest
  | _ => []

/-- The integers that describe the tokens of a document. What is no row of integers in
    groups of five describes none. -/
def rowOf (data : Json) : List Int :=
  match data.items?.bind integers? with
  | some values => if values.length % 5 = 0 then values else []
  | none => []

def decode (data : Json) (legend : List Text) : List SemanticToken :=
  decodeFrom legend 0 0 (rowOf data)

/-- The places in the legend that a row of integers asks for. -/
def indices : List Int → List Int
  | _ :: _ :: _ :: index :: _ :: rest => index :: indices rest
  | _ => []

end SemanticToken

end LanguageClient
