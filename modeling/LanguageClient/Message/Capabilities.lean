import LanguageClient.Json.Basic
import LanguageClient.SemanticTokens

/-! # The handshake

What this client announces of itself, what a server says it can do, and how far the
handshake with one server has come.
-/

namespace LanguageClient

/-- The parameters of the first request: what this client is and understands. -/
def handshakeParams (processId : Int) (rootUri : Text) : Json :=
  let never : Text × Json := ("dynamicRegistration", .bool false)
  let formats := Json.arr [.str "plaintext", .str "markdown"]
  .obj (("processId", .int processId) ::
    ("clientInfo", .obj [("name", .str "texteditor")]) ::
    ("capabilities", .obj [("textDocument", .obj [
      ("synchronization", .obj [never]),
      ("publishDiagnostics", .obj [("relatedInformation", .bool true)]),
      ("hover", .obj [never, ("contentFormat", formats)]),
      ("completion", .obj [never,
        ("completionItem", .obj [("documentationFormat", formats)]),
        ("contextSupport", .bool true)]),
      ("semanticTokens", .obj [never,
        ("requests", .obj [("full", .bool true)]),
        ("tokenTypes", .arr (TokenType.announced.map (fun type => .str type.name))),
        ("tokenModifiers", .arr []),
        ("formats", .arr [.str "relative"])])])]) ::
    if rootUri.isEmpty then [] else [("rootUri", .str rootUri)])

/-- What a server can do. -/
structure ServerCapabilities where
  /-- The names of the token types, by the numbers that stand for them. -/
  tokenLegend : List Text := []
  hover : Bool := false
  completion : Bool := false
  deriving Repr, DecidableEq

namespace ServerCapabilities

/-- Whether a feature is offered: a truth value says so, and an object of options does. -/
def offers : Json → Bool
  | .bool value => value
  | .obj _ => true
  | _ => false

/-- The legend in the description of a token provider. -/
def legendOf (provider : Json) : List Text :=
  match (provider.field "legend").field "tokenTypes" with
  | .arr names => names.map Json.textOrEmpty
  | _ => []

/-- What a server says of itself in the result of the first request. -/
def ofResult (result : Json) : ServerCapabilities :=
  let announced := result.field "capabilities"
  { tokenLegend := legendOf (announced.field "semanticTokensProvider")
    hover := offers (announced.field "hoverProvider")
    completion := offers (announced.field "completionProvider") }

end ServerCapabilities

/-- How far the handshake with a server has come. -/
structure Handshake where
  capabilities : ServerCapabilities := {}
  /-- Whether the server has answered. -/
  received : Bool := false
  /-- Whether the server has been told that this client is ready. -/
  confirmed : Bool := false
  deriving Repr, DecidableEq

namespace Handshake

/-- Take the answer of the server; only the first counts. -/
def accept (handshake : Handshake) (result : Json) : Handshake :=
  if handshake.received then handshake
  else { handshake with capabilities := .ofResult result, received := true }

/-- Note that a document was opened. The first time, the server is to be told that this
    client is ready. -/
def documentOpened (handshake : Handshake) : Bool × Handshake :=
  (!handshake.confirmed, { handshake with confirmed := true })

end Handshake

end LanguageClient
