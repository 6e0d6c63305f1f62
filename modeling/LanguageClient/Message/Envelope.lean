import LanguageClient.Json.Basic

/-! # Envelopes

Every message is an object with the protocol version in front. A request carries an
identifier that its response repeats, and a notification carries none.
-/

namespace LanguageClient.Message

/-- The parameters of a message as an entry; absent parameters leave none. -/
def paramsEntry : Json → Json.Entries
  | .null => []
  | params => [("params", params)]

def request (id : Int) (method : Text) (params : Json) : Json :=
  .obj (("jsonrpc", .str "2.0") :: ("id", .int id) :: ("method", .str method) ::
    paramsEntry params)

def notification (method : Text) (params : Json) : Json :=
  .obj (("jsonrpc", .str "2.0") :: ("method", .str method) :: paramsEntry params)

/-- The error code of a method that nobody answers. -/
def methodNotFound : Int := -32601

/-- The answer to a request from the server, which this client does not take. -/
def refusal (id : Json) (method : Text) : Json :=
  .obj [("jsonrpc", .str "2.0"), ("id", id),
    ("error", .obj [("code", .int methodNotFound),
      ("message", .str ("Method not supported: " ++ method))])]

/-- The text of the error in a response; empty when there is none. -/
def errorText (error : Json) : Text :=
  (error.field "message").textOrEmpty

end LanguageClient.Message
