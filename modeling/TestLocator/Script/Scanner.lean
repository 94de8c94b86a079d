import TestLocator.Parsing.Scan

/-!
# Hand-written scanners of scripts

Some tokens of scripts hang on what follows them: a semicolon may be left out before some tokens on
a new line, a question mark opens a conditional or an optional chain, and the text of templates and
elements runs up to the next thing that is no text.

* `templateText`, `hasElementText`, `htmlComment` — runs of text;
* `plainMark`, `typedMark` — the question mark of a conditional, in plain and in typed scripts;
* `Semicolon`, `plainSemicolon`, `typedSemicolon` — whether a semicolon may be left out;
* **`plainScanner`**, **`typedScanner`** — the scanners of the two grammars.
-/

namespace TestLocator.Script

open TestLocator.Parsing

/-! ## Characters -/

/-- Blanks, of which a line end is one. -/
def isBlank (c : Nat) : Bool := (9 ≤ c && c ≤ 13) || c == 32

/-- Digits. -/
def isDigit (c : Nat) : Bool := 48 ≤ c && c ≤ 57

/-- Letters. -/
def isLetter (c : Nat) : Bool := (65 ≤ c && c ≤ 90) || (97 ≤ c && c ≤ 122)

/-- The line feed. -/
def isFeed (c : Nat) : Bool := c == 10

/-- The separators of lines and of paragraphs. -/
def isSeparator (c : Nat) : Bool := c == 0x2028 || c == 0x2029

/-- What ends a line. -/
def isLineEnd (c : Nat) : Bool := isFeed c || isSeparator c

/-- The first place from `i` on whose character is not of a class. -/
def spanEnd (src : Source) (p : Nat → Bool) (i : Nat) : Nat :=
  if i < src.size && p (src.codeAt i) then spanEnd src p (i + 1) else i
termination_by src.size - i
decreasing_by simp_all; omega

/-- Whether a text stands at a place. -/
def standsAt (src : Source) (i : Nat) (text : String) : Bool :=
  go text.toList i
where
  go : List Char → Nat → Bool
    | [], _ => true
    | c :: cs, i => src.codeAt i == c.toNat && go cs (i + 1)

/-- Whether the character at a place is a certain one. -/
def isAt (src : Source) (i : Nat) (c : Char) : Bool := src.codeAt i == c.toNat

/-- Whether the character at a place is one of some. -/
def isAnyAt (src : Source) (i : Nat) (cs : String) : Bool := cs.toList.any fun c => isAt src i c

/-! ## The external tokens -/

/-- The number of the semicolon that is left out. -/
def omittedSemicolon : Nat := 0
/-- The number of a piece of a template. -/
def templateChars : Nat := 1
/-- The number of the question mark of a conditional. -/
def conditionalMark : Nat := 2
/-- The number of a comment in the manner of markup. -/
def markupComment : Nat := 3
/-- The number of the operator that tells that an operand has been read. -/
def logicalOr : Nat := 4
/-- The number of an escape in a string. -/
def escapeSequence : Nat := 5
/-- The number of the body of a regular expression. -/
def regexPattern : Nat := 6
/-- The number of text between elements. -/
def elementChars : Nat := 7
/-- The number of the semicolon that is left out after a signature. -/
def signatureSemicolon : Nat := 8

/-! ## Runs of text -/

/-- The end of the text of a template from `i` on: it stops before the closing mark, before an
escape and before a placeholder; there is none if the text ends first. -/
def templateEnd (src : Source) (i : Nat) : Option Nat :=
  if i < src.size then
    if isAnyAt src i "`\\" then some i
    else if src.codeAt i == 0 then none
    else if isAt src i '$' && isAt src (i + 1) '\x7b' then some i
    else templateEnd src (i + 1)
  else none
termination_by src.size - i

/-- A piece of a template, which is not empty. -/
def templateText (src : Source) (i : Nat) : Option Found :=
  (templateEnd src i).bind fun j => if i < j then some ⟨templateChars, i, j⟩ else none

/-- What text between elements consists of. -/
def isElementChar (c : Nat) : Bool :=
  !(c == 0 || c == '<'.toNat || c == '>'.toNat || c == 0x7b || c == 0x7d || c == '&'.toNat)

/-- Whether text between elements counts: it has more than line ends and the blanks after them. -/
def hasElementText : List Nat → Bool → Bool
  | [], _ => false
  | c :: cs, afterFeed =>
    if isFeed c then hasElementText cs true
    else if afterFeed && isBlank c then hasElementText cs true
    else true

/-- A comment in the manner of markup, from `i` on. It starts at `start` if nothing is passed over
first. -/
def htmlComment (src : Source) (start i : Nat) : Option Found :=
  let j := spanEnd src (fun c => isBlank c || isSeparator c) i
  let start := if j == i then start else j
  let body := if standsAt src j "<!--" then some (j + 4)
    else if standsAt src j "-->" then some (j + 3) else none
  body.map fun b => ⟨markupComment, start, spanEnd src (fun c => c != 0 && !isLineEnd c) b⟩

/-! ## Conditionals -/

/-- The question mark of a conditional in a plain script: a second mark must not follow, nor a
point, unless a digit comes after it. -/
def plainMark (src : Source) (start i : Nat) : Option Found :=
  let j := spanEnd src isBlank i
  let start := if j == i then start else j
  if !isAt src j '?' || isAt src (j + 1) '?' then none
  else if isAt src (j + 1) '.' && !isDigit (src.codeAt (j + 2)) then none
  else some ⟨conditionalMark, start, j + 1⟩

/-- The question mark of a conditional in a typed script, where it may also mark something as
optional. -/
def typedMark (src : Source) (start i : Nat) : Option Found :=
  let j := spanEnd src isBlank i
  let start := if j == i then start else j
  if !isAt src j '?' || isAnyAt src (j + 1) "?." then none
  else
    let k := spanEnd src isBlank (j + 1)
    if isAnyAt src k ":)," then none
    else if isAt src k '.' && !isDigit (src.codeAt (k + 1)) then none
    else some ⟨conditionalMark, start, j + 1⟩

/-! ## Semicolons that are left out -/

/-- What a look for a left-out semicolon has found. -/
structure Semicolon where
  leftOut : Bool
  /-- A comment has been passed. -/
  sawComment : Bool
  /-- How far the look went. -/
  reached : Nat

/-- The end of a comment's body from `i` on, and whether it has a line end. -/
def blockCommentEnd (src : Source) (i : Nat) (sawFeed : Bool) : Nat × Bool × Bool :=
  if i < src.size then
    if src.codeAt i == 0 then (i, sawFeed, false)
    else if standsAt src i "*/" then (i + 2, sawFeed, true)
    else blockCommentEnd src (i + 1) (sawFeed || isLineEnd (src.codeAt i))
  else (i, sawFeed, false)
termination_by src.size - i

/-- How a look past blanks and comments ended. -/
inductive Passed where
  /-- Before something else. -/
  | done
  /-- After a comment on one line. -/
  | inLine
  /-- At a slash that opens no comment. -/
  | slash
  deriving DecidableEq

/-- Pass blanks and comments, in `fuel` steps. If not `all`, the look ends after the first comment
in marks that is not followed by a slash. -/
def plainPass (src : Source) (all : Bool) : Nat → Nat → Bool → Bool → Passed × Nat × Bool
  | 0, i, saw, _ => (.done, i, saw)
  | fuel + 1, i, saw, sawFeed =>
    let j := spanEnd src isBlank i
    if !isAt src j '/' then (.done, j, saw)
    else if isAt src (j + 1) '/' then
      plainPass src all fuel (spanEnd src (fun c => c != 0 && !isLineEnd c) (j + 2)) true sawFeed
    else if isAt src (j + 1) '*' then
      let (k, sawFeed, closed) := blockCommentEnd src (j + 2) sawFeed
      let saw := saw || closed
      if closed && !all && !isAt src k '/' then
        (if sawFeed then .done else .inLine, k, saw)
      else plainPass src all fuel k saw sawFeed
    else (.slash, j + 1, saw)

/-- Pass blanks and comments in a typed script, in `fuel` steps. -/
def typedPass (src : Source) : Nat → Nat → Bool → Passed × Nat × Bool
  | 0, i, saw => (.done, i, saw)
  | fuel + 1, i, saw =>
    let j := spanEnd src isBlank i
    if !isAt src j '/' then (.done, j, saw)
    else if isAt src (j + 1) '/' then
      typedPass src fuel (spanEnd src (fun c => c != 0 && !isFeed c) (j + 2)) true
    else if isAt src (j + 1) '*' then
      typedPass src fuel (blockCommentEnd src (j + 2) false).1 saw
    else (.slash, j + 1, saw)

/-- Where a word operator that starts with `i` at a place ends, if there is one. -/
def wordOperatorEnd (src : Source) (i : Nat) : Option Nat :=
  if !standsAt src i "in" then none
  else if !isLetter (src.codeAt (i + 2)) then some (i + 2)
  else if standsAt src i "instanceof" && !isLetter (src.codeAt (i + 10)) then some (i + 10)
  else none

/-- Where an operator at a place that goes on with the statement before it ends, if there is one:
a sign does unless what follows makes it the start of a new statement. -/
def operatorEnd (src : Source) (i : Nat) : Option Nat :=
  if isAt src i '+' then if isAt src (i + 1) '+' then none else some (i + 1)
  else if isAt src i '-' then if isAt src (i + 1) '-' then none else some (i + 1)
  else if isAt src i '!' then if isAt src (i + 1) '=' then some (i + 1) else none
  else if isAt src i 'i' then wordOperatorEnd src i
  else none

/-- A semicolon is left out unless an operator goes on with the statement. -/
def unlessOperator (src : Source) (saw : Bool) (i : Nat) : Semicolon :=
  match operatorEnd src i with
  | some j => ⟨false, saw, j⟩
  | none => ⟨true, saw, i⟩

/-- Look for a left-out semicolon in a plain script after a line end. -/
def plainNewLine (src : Source) (i : Nat) (saw : Bool) : Semicolon :=
  let (passed, j, saw) := plainPass src true (src.size + 1) i saw false
  if passed == .slash then ⟨false, saw, j⟩
  else if isAnyAt src j "`,:;*%><=[(?^|&/" then ⟨false, saw, j⟩
  else if isAt src j '.' then ⟨isDigit (src.codeAt (j + 1)), saw, j + 1⟩
  else unlessOperator src saw j

/-- Look for a left-out semicolon in a plain script. `expectsComment` tells that a comment over
several lines is a line end. -/
def plainSemicolon (src : Source) (expectsComment : Bool) : Nat → Nat → Bool → Semicolon
  | 0, i, saw => ⟨false, saw, i⟩
  | fuel + 1, i, saw =>
    let here (i : Nat) (saw : Bool) : Semicolon :=
      if isAt src i '\x7d' then ⟨true, saw, i⟩
      else if isLineEnd (src.codeAt i) then plainNewLine src (i + 1) saw
      else if isBlank (src.codeAt i) then plainSemicolon src expectsComment fuel (i + 1) saw
      else ⟨false, saw, i⟩
    if src.codeAt i == 0 then ⟨true, saw, i⟩
    else if isAt src i '/' then
      let (passed, j, saw) := plainPass src false (src.size + 1) i saw false
      if passed == .slash then ⟨false, saw, j⟩
      else if passed == .done && expectsComment && !isAnyAt src j ",=" then ⟨true, saw, j⟩
      else here j saw
    else here i saw

/-- Look for a left-out semicolon in a typed script. `afterOperand` tells that an operator could
follow, and `inSignature` that a body could. -/
def typedSemicolon (src : Source) (afterOperand inSignature : Bool) (i : Nat) : Semicolon :=
  let i := spanEnd src (fun c => isBlank c && !isFeed c) i
  if src.codeAt i == 0 then ⟨true, false, i⟩
  else if isAt src i '\x7d' then
    let j := spanEnd src isBlank (i + 1)
    ⟨!isAt src j ':' || afterOperand, false, j⟩
  else if !isFeed (src.codeAt i) then ⟨false, false, i⟩
  else
    let (passed, j, saw) := typedPass src (src.size + 1) (i + 1) false
    if passed == .slash then ⟨false, saw, j⟩
    else if isAnyAt src j "`,.;*%><=?^|&/:" then ⟨false, saw, j⟩
    else if isAt src j '\x7b' && inSignature then ⟨false, saw, j⟩
    else if isAnyAt src j "([" && afterOperand then ⟨false, saw, j⟩
    else unlessOperator src saw j

/-! ## The scanners -/

/-- What the two scanners have in common: text first, then semicolons, conditionals and comments. -/
def scanWith (mark : Source → Nat → Nat → Option Found)
    (semicolon : Source → Nat → Nat → Option Semicolon) : External := fun src i wanted =>
  let wants (t : Nat) : Bool := wanted.testBit t
  if wants templateChars then
    if wants omittedSemicolon then none else templateText src i
  else
    let j := if wants elementChars then spanEnd src isElementChar i else i
    if wants elementChars && hasElementText (src.codes.extract i j).toList false then
      some ⟨elementChars, i, j⟩
    else
      match semicolon src j wanted with
      | some s =>
        if s.leftOut then some ⟨omittedSemicolon, j, j⟩
        else if !s.sawComment && wants conditionalMark && isAt src s.reached '?' then
          mark src s.reached s.reached
        else none
      | none =>
        if wants conditionalMark then mark src i j
        else if wants markupComment && !wants logicalOr && !wants escapeSequence
            && !wants regexPattern then
          htmlComment src i j
        else none

/-- The scanner of plain scripts. -/
def plainScanner : External :=
  scanWith plainMark fun src i wanted =>
    if wanted.testBit omittedSemicolon then
      some (plainSemicolon src (!wanted.testBit logicalOr) (src.size + 1) i false)
    else none

/-- The scanner of typed scripts. -/
def typedScanner : External :=
  scanWith typedMark fun src i wanted =>
    if wanted.testBit omittedSemicolon || wanted.testBit signatureSemicolon then
      some (typedSemicolon src (wanted.testBit logicalOr) (wanted.testBit signatureSemicolon) i)
    else none

end TestLocator.Script
