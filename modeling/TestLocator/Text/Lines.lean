/-!
# Lines

Texts as lists of characters, cut into lines.

* `unifyBreaks` — one way to end a line;
* `splitLines` — the lines of a text, without what ends them;
* `joinLines` — lines with a line feed between them;
* `removeAll` — a text without the occurrences of a word.
-/

namespace TestLocator.Text

/-- Write the carriage returns of a text as line feeds, one with the line feed after it as one.
`done` is what has been written, last first. -/
def unifyBreaksOnto (done : List Char) : List Char → List Char
  | [] => done.reverse
  | '\r' :: '\n' :: cs => unifyBreaksOnto ('\n' :: done) cs
  | '\r' :: cs => unifyBreaksOnto ('\n' :: done) cs
  | c :: cs => unifyBreaksOnto (c :: done) cs

/-- Write every way to end a line as a line feed. -/
def unifyBreaks (cs : List Char) : List Char := unifyBreaksOnto [] cs

/-- A line whose end has been reached: a carriage return before the line feed belongs to the end.
The characters come last first. -/
def finishLine : List Char → List Char
  | '\r' :: cs => cs.reverse
  | cs => cs.reverse

/-- Cut a text into lines. `current` is the line that has been started, and `done` are the lines
before it, both last first. -/
def splitLinesOnto (done : List (List Char)) (current : List Char) : List Char → List (List Char)
  | [] => (if current.isEmpty then done else current.reverse :: done).reverse
  | '\n' :: cs => splitLinesOnto (finishLine current :: done) [] cs
  | c :: cs => splitLinesOnto done (c :: current) cs

/-- The lines of a text. A line feed ends a line, and so does a carriage return with a line feed; an
empty last line does not count. -/
def splitLines (cs : List Char) : List (List Char) := splitLinesOnto [] [] cs

/-- Lines with a line feed between them. -/
def joinLines (ls : List (List Char)) : List Char := ['\n'].intercalate ls

/-- Leave out the occurrences of a word from left to right. The first `skip` characters belong to an
occurrence; `done` is what has been kept, last first. -/
def removeAllOnto (word done : List Char) : Nat → List Char → List Char
  | _, [] => done.reverse
  | skip + 1, _ :: cs => removeAllOnto word done skip cs
  | 0, c :: cs =>
    if word.isPrefixOf (c :: cs) then removeAllOnto word done (word.length - 1) cs
    else removeAllOnto word (c :: done) 0 cs

/-- A text without the occurrences of a word, which do not overlap; an empty word does not occur. -/
def removeAll (word cs : List Char) : List Char :=
  if word.isEmpty then cs else removeAllOnto word [] 0 cs

end TestLocator.Text
