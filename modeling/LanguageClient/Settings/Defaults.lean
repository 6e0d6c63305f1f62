import LanguageClient.Settings.Timings

/-! # Default settings

The languages and timings of an editor that has no settings of its own.
-/

namespace LanguageClient.Settings

/-- A language with its suffixes, and the command of its server if it has one. -/
def languageEntry (name : Text) (suffixes : List Text) (command : Text) :
    Text × Json :=
  (name, .obj (("extensions", .arr (suffixes.map Json.str)) ::
    if command.isEmpty then [] else [("lsp", .str command)]))

/-- The languages that are known from the start. -/
def defaultLanguages : Json.Entries :=
  [languageEntry "c" [".c", ".h", ".cpp", ".hpp", ".cc", ".cxx"] "clangd --log=error",
    languageEntry "python" [".py", ".pyw"] "pylsp",
    languageEntry "javascript" [".js", ".jsx", ".ts", ".tsx"] "",
    languageEntry "java" [".java"] "",
    languageEntry "go" [".go"] "gopls",
    languageEntry "rust" [".rs"] "rust-analyzer",
    languageEntry "json" [".json"] "",
    languageEntry "markdown" [".md", ".markdown"] "./md-lsp"]

/-- The settings of an editor without a settings file. -/
def defaults : Json.Entries :=
  [("languages", .obj defaultLanguages), ("lsp", SessionSettings.toJson {})]

end LanguageClient.Settings
