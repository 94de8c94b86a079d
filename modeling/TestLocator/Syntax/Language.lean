/-!
# Languages

* `Language` — the languages of scripts;
* `Language.name`, `Language.ofExtension`.
-/

namespace TestLocator.Syntax

/-- The languages of scripts. -/
inductive Language where
  | javaScript
  | typeScript
  /-- TypeScript with elements. -/
  | tsx
  deriving DecidableEq, Repr, Inhabited

namespace Language

/-- The name of a language. -/
def name : Language → String
  | javaScript => "JavaScript"
  | typeScript => "TypeScript"
  | tsx => "TSX"

/-- The language of files with an extension; a file is plain JavaScript unless its extension tells
otherwise. -/
def ofExtension (extension : String) : Language :=
  if ["ts", "mts", "cts"].contains extension then typeScript
  else if extension == "tsx" then tsx
  else javaScript

end Language

end TestLocator.Syntax
