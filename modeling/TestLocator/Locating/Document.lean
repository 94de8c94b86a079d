import TestLocator.Files.Path
import TestLocator.Syntax.Language
import TestLocator.Text.Lines

/-!
# Documents

A script as a document: its text with one way to end a line and without the marker, and its lines.

* `languageOf` — the language of a file;
* `defaultMarker`, `stripMarker`;
* `Document`, **`Document.ofText`**;
* `Document.lineCount`, `Document.line?`, `Document.slice?` — lines, counted from `1`.
-/

namespace TestLocator.Locating

open TestLocator.Files TestLocator.Syntax TestLocator.Text

/-- The language of a file. -/
def languageOf (path : Path) : Language :=
  match path.extension? with
  | some extension => .ofExtension extension
  | none => .javaScript

/-- The word that flags an expected type error. -/
def defaultMarker : String := "$ExpectError"

/-- Leave a marker out. A marker with a line feed is not looked for, so that no line is lost. -/
def stripMarker (marker cs : List Char) : List Char :=
  if marker.contains '\n' then cs else removeAll marker cs

/-- A script with its lines. -/
structure Document where
  path : Path
  language : Language
  text : String
  lines : List String
  deriving Inhabited

namespace Document

/-- The document of a text. -/
def ofText (path : Path) (text marker : String) : Document :=
  let cs := stripMarker marker.toList (unifyBreaks text.toList)
  { path
    language := languageOf path
    text := String.ofList cs
    lines := (splitLines cs).map String.ofList }

/-- The number of lines. -/
def lineCount (d : Document) : Nat := d.lines.length

/-- A line, counted from `1`. -/
def line? (d : Document) (n : Nat) : Option String := if n = 0 then none else d.lines[n - 1]?

/-- The lines from one to another with line feeds between them, if there are such lines. -/
def slice? (d : Document) (first last : Nat) : Option String :=
  if first = 0 ∨ last < first ∨ d.lineCount < last then none
  else some ("\n".intercalate ((d.lines.drop (first - 1)).take (last - first + 1)))

end Document

end TestLocator.Locating
