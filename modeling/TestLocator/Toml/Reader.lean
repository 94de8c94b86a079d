import TestLocator.Toml.Scalar

/-!
# Reading configuration files

* `readString`, `readKey`, `readValue`;
* `Statement`, `readStatements`;
* **`document?`** — the entries of a document.
-/

namespace TestLocator.Toml

/-- What has been read and what follows, if it could be read. -/
abbrev Reading (α : Type) := Option (α × List Char)

/-! ## Blanks and comments -/

/-- A blank within a line. -/
def isGap (c : Char) : Bool := c = ' ' ∨ c = '\t'

/-- What follows the blanks of a line. -/
def skipGaps (cs : List Char) : List Char := cs.dropWhile isGap

/-- A character that may stand in texts and comments. -/
def isPlain (c : Char) : Bool := c = '\t' ∨ (' ' ≤ c ∧ c ≠ '\x7f')

/-- What follows a line end, if one comes next. -/
def afterNewline? : List Char → Option (List Char)
  | '\n' :: cs => some cs
  | '\r' :: '\n' :: cs => some cs
  | _ => none

/-- What follows a comment. -/
def afterComment? : List Char → Option (List Char)
  | [] => some []
  | '\n' :: cs => some ('\n' :: cs)
  | '\r' :: '\n' :: cs => some ('\r' :: '\n' :: cs)
  | c :: cs => if isPlain c then afterComment? cs else none

/-- What follows blanks, line ends and comments, in `fuel` steps. -/
def afterBlanks? : Nat → List Char → Option (List Char)
  | 0, cs => some cs
  | fuel + 1, cs =>
    match skipGaps cs with
    | '#' :: rest => (afterComment? rest).bind (afterBlanks? fuel)
    | rest =>
      match afterNewline? rest with
      | some rest => afterBlanks? fuel rest
      | none => some rest

/-- What follows the end of a statement: blanks, a comment and a line end, or nothing. -/
def afterStatement? (cs : List Char) : Option (List Char) :=
  let rest := match skipGaps cs with
    | '#' :: rest => afterComment? rest
    | rest => some rest
  rest.bind fun rest => if rest.isEmpty then some [] else afterNewline? rest

/-! ## Texts -/

/-- The character of a number, unless it is none. -/
def charOf? (digits : List Char) : Option Char :=
  (digits.mapM (digitValue? 16)).bind fun ds =>
    let n := ds.foldl (fun n d => n * 16 + d) 0
    if n < 0xD800 ∨ (0xDFFF < n ∧ n < 0x110000) then some (Char.ofNat n) else none

/-- The character that an escape stands for, and how many characters it takes after the
backslash. -/
def readEscape : List Char → Option (Char × Nat)
  | 'b' :: _ => some ('\x08', 1)
  | 't' :: _ => some ('\t', 1)
  | 'n' :: _ => some ('\n', 1)
  | 'f' :: _ => some ('\x0c', 1)
  | 'r' :: _ => some ('\r', 1)
  | 'e' :: _ => some ('\x1b', 1)
  | '"' :: _ => some ('"', 1)
  | '\\' :: _ => some ('\\', 1)
  | 'x' :: cs => if 2 ≤ cs.length then (charOf? (cs.take 2)).map (·, 3) else none
  | 'u' :: cs => if 4 ≤ cs.length then (charOf? (cs.take 4)).map (·, 5) else none
  | 'U' :: cs => if 8 ≤ cs.length then (charOf? (cs.take 8)).map (·, 9) else none
  | _ => none

/-- A text between double quotes, up to the closing one. The first `skip` characters have been read
as part of an escape; `done` are the characters of the text, last first. -/
def readBasic (done : List Char) : Nat → List Char → Reading (List Char)
  | _, [] => none
  | skip + 1, _ :: cs => readBasic done skip cs
  | 0, '"' :: cs => some (done.reverse, cs)
  | 0, '\\' :: cs => (readEscape cs).bind fun (c, n) => readBasic (c :: done) n cs
  | 0, c :: cs => if isPlain c then readBasic (c :: done) 0 cs else none

/-- A text between single quotes, up to the closing one. -/
def readLiteral (done : List Char) : List Char → Reading (List Char)
  | [] => none
  | '\'' :: cs => some (done.reverse, cs)
  | c :: cs => if isPlain c then readLiteral (c :: done) cs else none

/-- What follows blanks and line ends. -/
def skipLines : List Char → List Char
  | ' ' :: cs | '\t' :: cs | '\n' :: cs => skipLines cs
  | '\r' :: '\n' :: cs => skipLines cs
  | cs => cs

/-- How many characters a backslash at a line end takes with the blanks after it, if only blanks
come before the line end. -/
def foldedLength? (cs : List Char) : Option Nat :=
  (afterNewline? (skipGaps cs)).map fun rest => cs.length - (skipLines rest).length

/-- The end of a text between three quotes: up to two more quotes belong to the text. -/
def closing? (q : Char) (cs : List Char) : Reading (List Char) :=
  let n := (cs.takeWhile (· = q)).length
  if 3 ≤ n then some (List.replicate (min n 5 - 3) q, cs.drop (min n 5)) else none

/-- A text between three double quotes, up to the closing ones. -/
def readLongBasic (done : List Char) : Nat → List Char → Reading (List Char)
  | _, [] => none
  | skip + 1, _ :: cs => readLongBasic done skip cs
  | 0, '"' :: cs =>
    match closing? '"' ('"' :: cs) with
    | some (more, rest) => some (done.reverse ++ more, rest)
    | none => readLongBasic ('"' :: done) 0 cs
  | 0, '\\' :: cs =>
    match foldedLength? cs with
    | some n => readLongBasic done n cs
    | none => (readEscape cs).bind fun (c, n) => readLongBasic (c :: done) n cs
  | 0, c :: cs =>
    if isPlain c ∨ (afterNewline? (c :: cs)).isSome then readLongBasic (c :: done) 0 cs else none

/-- A text between three single quotes, up to the closing ones. -/
def readLongLiteral (done : List Char) : List Char → Reading (List Char)
  | [] => none
  | '\'' :: cs =>
    match closing? '\'' ('\'' :: cs) with
    | some (more, rest) => some (done.reverse ++ more, rest)
    | none => readLongLiteral ('\'' :: done) cs
  | c :: cs =>
    if isPlain c ∨ (afterNewline? (c :: cs)).isSome then readLongLiteral (c :: done) cs else none

/-- A text without the line end that it starts with. -/
def dropNewline (cs : List Char) : List Char := (afterNewline? cs).getD cs

/-- A text of any kind. -/
def readString : List Char → Reading (List Char)
  | '"' :: '"' :: '"' :: cs => readLongBasic [] 0 (dropNewline cs)
  | '\'' :: '\'' :: '\'' :: cs => readLongLiteral [] (dropNewline cs)
  | '"' :: cs => readBasic [] 0 cs
  | '\'' :: cs => readLiteral [] cs
  | _ => none

/-! ## Keys -/

/-- A character of a key without quotes. -/
def isKeyChar (c : Char) : Bool := c.isAlphanum || c = '_' || c = '-'

/-- A part of a key. -/
def readKeyPart (cs : List Char) : Reading String :=
  match cs with
  | '"' :: rest => (readBasic [] 0 rest).map fun (s, rest) => (String.ofList s, rest)
  | '\'' :: rest => (readLiteral [] rest).map fun (s, rest) => (String.ofList s, rest)
  | _ =>
    let part := cs.takeWhile isKeyChar
    if part.isEmpty then none else some (String.ofList part, cs.dropWhile isKeyChar)

/-- A key of parts with points between them, in `fuel` steps. -/
def readKeyParts : Nat → List Char → Reading (List String)
  | 0, _ => none
  | fuel + 1, cs =>
    (readKeyPart (skipGaps cs)).bind fun (part, rest) =>
      match skipGaps rest with
      | '.' :: rest => (readKeyParts fuel rest).map fun (parts, rest) => (part :: parts, rest)
      | rest => some ([part], rest)

/-- Keys have at most so many parts. -/
def maxKeyParts : Nat := 80

/-- A key. -/
def readKey (cs : List Char) : Reading (List String) :=
  (readKeyParts (cs.length + 1) cs).filter fun (parts, _) => parts.length ≤ maxKeyParts

/-! ## Values -/

/-- A number, a date or a word. A date and a time may have a space between them. -/
def readScalar (cs : List Char) : Reading Value :=
  let run := cs.takeWhile isRunChar
  let rest := cs.dropWhile isRunChar
  match rest with
  | ' ' :: d :: more =>
    if isDigit d ∧ afterDate? run = some [] then
      let time := (d :: more).takeWhile isRunChar
      (scalar? (run ++ ' ' :: time)).map (·, (d :: more).dropWhile isRunChar)
    else (scalar? run).map (·, rest)
  | _ => (scalar? run).map (·, rest)

/-- Values may be nested so deep. -/
def nestingLimit : Nat := 80

mutual

/-- A value, where `levels` more may be opened, in `fuel` steps. -/
def readValue : Nat → Nat → List Char → Reading Value
  | 0, _, _ => none
  | fuel + 1, levels, cs =>
    match cs with
    | '"' :: _ | '\'' :: _ => (readString cs).map fun (s, rest) => (.string (String.ofList s), rest)
    | '[' :: rest => if levels = 0 then none else readItems fuel (levels - 1) [] rest
    | '\x7b' :: rest => if levels = 0 then none else readPairs fuel (levels - 1) [] rest
    | _ => readScalar cs

/-- The items of an array up to its end. `done` are those read before, last first. -/
def readItems : Nat → Nat → List Value → List Char → Reading Value
  | 0, _, _, _ => none
  | fuel + 1, levels, done, cs =>
    match afterBlanks? cs.length cs with
    | none => none
    | some (']' :: rest) => some (.array done.reverse, rest)
    | some cs =>
      match readValue fuel levels cs with
      | none => none
      | some (v, rest) =>
        match afterBlanks? rest.length rest with
        | some (',' :: rest) => readItems fuel levels (v :: done) rest
        | some (']' :: rest) => some (.array (v :: done).reverse, rest)
        | _ => none

/-- The pairs of a table that is written as a value, up to its end. -/
def readPairs : Nat → Nat → Entries → List Char → Reading Value
  | 0, _, _, _ => none
  | fuel + 1, levels, done, cs =>
    match afterBlanks? cs.length cs with
    | none => none
    | some ('\x7d' :: rest) => some (.table .inline done, rest)
    | some cs =>
      match readPair fuel levels cs with
      | none => none
      | some ((key, v), rest) =>
        match insertPair key v done with
        | none => none
        | some done =>
          match afterBlanks? rest.length rest with
          | some (',' :: rest) => readPairs fuel levels done rest
          | some ('\x7d' :: rest) => some (.table .inline done, rest)
          | _ => none

/-- A key and its value. -/
def readPair : Nat → Nat → List Char → Reading (List String × Value)
  | 0, _, _ => none
  | fuel + 1, levels, cs =>
    match readKey cs with
    | none => none
    | some (key, rest) =>
      match rest with
      | '=' :: rest =>
        (readValue fuel levels (skipGaps rest)).map fun (v, rest) => ((key, v), rest)
      | _ => none

end

/-! ## Documents -/

/-- A line of a document that says something. -/
inductive Statement where
  | pair (key : List String) (value : Value)
  | header (key : List String)
  | itemHeader (key : List String)
  deriving Repr, Inhabited

/-- A header. -/
def readHeader (cs : List Char) : Reading Statement :=
  match cs with
  | '[' :: '[' :: rest =>
    match readKey rest with
    | some (key, ']' :: ']' :: rest) => some (.itemHeader key, rest)
    | _ => none
  | '[' :: rest =>
    match readKey rest with
    | some (key, ']' :: rest) => some (.header key, rest)
    | _ => none
  | _ => none

/-- A statement. -/
def readStatement (cs : List Char) : Reading Statement :=
  match cs with
  | '[' :: _ => readHeader cs
  | _ =>
    (readPair (3 * cs.length + 3) nestingLimit cs).map fun ((key, v), rest) => (.pair key v, rest)

/-- The statements of a document, each on a line of its own, in `fuel` steps. -/
def readStatements : Nat → List Char → Option (List Statement)
  | 0, _ => some []
  | fuel + 1, cs =>
    match afterBlanks? cs.length cs with
    | none => none
    | some [] => some []
    | some cs =>
      (readStatement cs).bind fun (s, rest) =>
        (afterStatement? rest).bind fun rest => (readStatements fuel rest).map (s :: ·)

/-- Add a statement to the entries of a document, below the header that stands before it. -/
def addStatement (es : Entries) (header : List String) : Statement → Option (Entries × List String)
  | .pair key v => (updateTable (insertPair key v) header es).map (·, header)
  | .header key =>
    (updateTable (openTable (key.getLast?.getD "")) key.dropLast es).map (·, key)
  | .itemHeader key =>
    (updateTable (openItem (key.getLast?.getD "")) key.dropLast es).map (·, key)

/-- The entries that some statements make, with a byte-order mark in front left aside. -/
def document? (text : List Char) : Option Entries :=
  let cs := match text with
    | '\ufeff' :: rest => rest
    | _ => text
  (readStatements (cs.length + 1) cs).bind fun statements =>
    (statements.foldlM (fun (st : Entries × List String) s => addStatement st.1 st.2 s)
      (([], []) : Entries × List String)).map (·.1)

end TestLocator.Toml
