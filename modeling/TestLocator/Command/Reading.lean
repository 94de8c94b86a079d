/-!
# Reading command lines

What the words of a command line do to a state, whatever the state is.

* `Topic`, `UsageFault` — what is asked for instead of a run, and what is wrong with a command line;
* `Assign`, `Action`, `Switch`, `Level` — the words that are understood;
* `Progress`, `Progress.settle` — how far reading has come;
* `Level.readLetters`, `Level.readName` — words that start with a hyphen;
* **`Level.read`** — all words, up to the name of a command.
-/

namespace TestLocator.Command

/-- What help is about. -/
inductive Topic where
  | program
  | locate
  | batch
  | init
  | help
  deriving DecidableEq, Repr, Inhabited

/-- Why a command line does not lead to a run. -/
inductive UsageFault where
  /-- Help has been asked for. -/
  | help (topic : Topic)
  /-- The version has been asked for. -/
  | version
  /-- Nothing has been asked for. -/
  | nothingGiven
  | missingCommand
  | unknownCommand
  | unknownArgument
  /-- A switch has a value. -/
  | unexpectedValue
  /-- A value is missing, or it is none of those that are allowed. -/
  | invalidValue
  | invalidNumber
  /-- What may be given once has been given again. -/
  | repeated
  | missingArgument
  deriving DecidableEq, Repr, Inhabited

/-- What a value does to the state. -/
abbrev Assign (σ : Type) := String → σ → Except UsageFault σ

/-- What a switch does to the state. -/
inductive Action (σ : Type) where
  /-- It acts alone. -/
  | alone (f : σ → Except UsageFault σ)
  /-- It takes a value. -/
  | withValue (f : Assign σ)

/-- A switch with its names. -/
structure Switch (σ : Type) where
  short : Option Char := none
  long : String
  action : Action σ

/-- The words that are understood at a level of the command line. -/
structure Level (σ : Type) where
  switches : List (Switch σ)
  /-- What the values without switches do, in their order. -/
  places : List (Assign σ) := []
  /-- The names of commands, which have levels of their own. -/
  commands : List String := []
  /-- What is wrong with a value that has no place; it may stand after two hyphens. -/
  surplus : Bool → String → UsageFault

/-- What is still to be done: a value, if there is one already, and what it does. -/
structure Pending (σ : Type) where
  assign : Assign σ
  value : Option String

/-- How far reading has come. -/
structure Progress (σ : Type) where
  state : σ
  pending : Option (Pending σ) := none
  /-- The places that have no value yet. -/
  places : List (Assign σ)
  /-- Two hyphens have been read: no switches follow. -/
  onlyValues : Bool := false

namespace Progress

variable {σ : Type}

/-- Do what is still to be done. -/
def settle (p : Progress σ) : Except UsageFault (Progress σ) :=
  match p.pending with
  | none => .ok p
  | some ⟨_, none⟩ => .error .invalidValue
  | some ⟨assign, some v⟩ => (assign v p.state).map fun s => { p with state := s, pending := none }

/-- Let a switch act alone. -/
def act (p : Progress σ) (f : σ → Except UsageFault σ) : Except UsageFault (Progress σ) :=
  p.settle.bind fun p => (f p.state).map fun s => { p with state := s }

/-- Let a switch wait for its value. -/
def await (p : Progress σ) (f : Assign σ) : Except UsageFault (Progress σ) :=
  p.settle.map fun p => { p with pending := some ⟨f, none⟩ }

/-- The switch that waits for its value, if one does. -/
def waiting? (p : Progress σ) : Option (Assign σ) :=
  match p.pending with
  | some ⟨assign, none⟩ => some assign
  | _ => none

/-- Put a value into the next place. -/
def place (p : Progress σ) (surplus : Bool → String → UsageFault) (word : String) :
    Except UsageFault (Progress σ) :=
  match p.places with
  | [] => .error (surplus p.onlyValues word)
  | assign :: places =>
    p.settle.map fun p => { p with pending := some ⟨assign, some word⟩, places }

end Progress

namespace Level

variable {σ : Type}

/-- The switch of a letter. -/
def ofShort? (l : Level σ) (c : Char) : Option (Action σ) :=
  (l.switches.find? fun s => s.short = some c).map (·.action)

/-- The switch of a name. -/
def ofLong? (l : Level σ) (name : String) : Option (Action σ) :=
  (l.switches.find? fun s => s.long = name).map (·.action)

/-- The letters after a hyphen: switches, of which the last one may have its value behind it. -/
def readLetters (l : Level σ) (p : Progress σ) : List Char → Except UsageFault (Progress σ)
  | [] => .ok p
  | c :: cs =>
    match l.ofShort? c with
    | none => .error .unknownArgument
    | some (.alone f) =>
      match p.act f with
      | .error e => .error e
      | .ok p => l.readLetters p cs
    | some (.withValue f) =>
      match cs with
      | [] => p.await f
      | '=' :: value => p.act (f (String.ofList value))
      | value => p.act (f (String.ofList value))

/-- The name after two hyphens, which may have a value behind an equals sign. -/
def readName (l : Level σ) (p : Progress σ) (cs : List Char) : Except UsageFault (Progress σ) :=
  let name := String.ofList (cs.takeWhile (· ≠ '='))
  let value := (cs.dropWhile (· ≠ '=')).tail?.map String.ofList
  match l.ofLong? name, value with
  | none, _ => .error .unknownArgument
  | some (.alone _), some _ => .error .unexpectedValue
  | some (.alone f), none => p.act f
  | some (.withValue f), some v => p.act (f v)
  | some (.withValue f), none => p.await f

/-- A word. A hyphen alone is a value. -/
def readWord (l : Level σ) (p : Progress σ) (word : String) : Except UsageFault (Progress σ) :=
  if p.onlyValues then p.place l.surplus word
  else
    match word.toList with
    | ['-', '-'] => .ok { p with onlyValues := true }
    | '-' :: '-' :: cs => l.readName p cs
    | '-' :: c :: cs => l.readLetters p (c :: cs)
    | _ =>
      match p.waiting? with
      | some assign => .ok { p with pending := some ⟨assign, some word⟩ }
      | none => p.place l.surplus word

/-- Whether a word is the name of a command. -/
def isCommand (l : Level σ) (p : Progress σ) (word : String) : Bool :=
  !p.onlyValues && p.waiting?.isNone && l.commands.contains word

/-- The words of a level: the state that they make, and the words from the name of a command on. -/
def readFrom (l : Level σ) (p : Progress σ) : List String → Except UsageFault (σ × List String)
  | [] => p.settle.map fun p => (p.state, [])
  | word :: words =>
    if l.isCommand p word then .ok (p.state, word :: words)
    else
      match l.readWord p word with
      | .error e => .error e
      | .ok p => l.readFrom p words

/-- Read words from a state on. -/
def read (l : Level σ) (start : σ) (words : List String) : Except UsageFault (σ × List String) :=
  l.readFrom { state := start, places := l.places } words

end Level

end TestLocator.Command
