import WebClip.Text.Blank
import WebClip.Text.LowerCase
/-!
# Languages of code

The languages that code blocks of a page may have, and other names they go by. Code
in any other language is plain text.
-/

namespace WebClip.Page.Language

open WebClip.Text

/-- The language of code in no known language. -/
def plainText : String := "plain text"

/-- The languages of code blocks. -/
def known : List String :=
  ["abap", "abc", "agda", "arduino", "ascii art", "assembly", "bash", "basic", "bnf", "c", "c#",
   "c++", "clojure", "coffeescript", "coq", "css", "dart", "dhall", "diff", "docker", "ebnf",
   "elixir", "elm", "erlang", "f#", "flow", "fortran", "gherkin", "glsl", "go", "graphql", "groovy",
   "haskell", "hcl", "html", "idris", "java", "javascript", "json", "julia", "kotlin", "latex",
   "less", "lisp", "livescript", "llvm ir", "lua", "makefile", "markdown", "markup", "matlab",
   "mathematica", "mermaid", "nix", "notion formula", "objective-c", "ocaml", "pascal", "perl",
   "php", "plain text", "powershell", "prolog", "protobuf", "purescript", "python", "r", "racket",
   "reason", "ruby", "rust", "sass", "scala", "scheme", "scss", "shell", "smalltalk", "solidity",
   "sql", "swift", "toml", "typescript", "vb.net", "verilog", "vhdl", "visual basic",
   "webassembly", "xml", "yaml", "java/c/c++/c#"]

/-- Other names of languages. -/
def aliases : List (String × String) :=
  [("ts", "typescript"), ("tsx", "typescript"), ("js", "javascript"), ("jsx", "javascript"),
   ("mjs", "javascript"), ("node", "javascript"), ("py", "python"), ("python3", "python"),
   ("py3", "python"), ("sh", "shell"), ("zsh", "shell"), ("console", "shell"),
   ("shell-session", "shell"), ("ps1", "powershell"), ("pwsh", "powershell"), ("yml", "yaml"),
   ("md", "markdown"), ("rb", "ruby"), ("rs", "rust"), ("kt", "kotlin"), ("kts", "kotlin"),
   ("golang", "go"), ("cs", "c#"), ("csharp", "c#"), ("fsharp", "f#"), ("cpp", "c++"),
   ("cc", "c++"), ("cxx", "c++"), ("hpp", "c++"), ("h", "c"), ("objc", "objective-c"),
   ("objectivec", "objective-c"), ("dockerfile", "docker"), ("make", "makefile"), ("tex", "latex"),
   ("htm", "html"), ("xhtml", "html"), ("svg", "xml"), ("text", plainText), ("txt", plainText),
   ("plaintext", plainText), ("plain", plainText), ("proto", "protobuf"), ("gql", "graphql"),
   ("tf", "hcl"), ("wasm", "webassembly"), ("vb", "visual basic"), ("patch", "diff"),
   ("ml", "ocaml"), ("clj", "clojure"), ("ex", "elixir"), ("exs", "elixir"), ("erl", "erlang"),
   ("hs", "haskell"), ("jl", "julia"), ("pl", "perl"), ("scm", "scheme"), ("sol", "solidity"),
   ("psql", "sql"), ("mysql", "sql")]

/-- The language that a name means. -/
def ofName (name : String) : String :=
  let name := String.ofList (lower (trim name.toList))
  let name := (aliases.lookup name).getD name
  if known.contains name then name else plainText

end WebClip.Page.Language
