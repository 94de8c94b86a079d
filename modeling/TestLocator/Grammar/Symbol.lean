import TestLocator.Grammar.Rule

/-!
# Grammar symbols

What a step of a production can be: a token of the lexical grammar, a token of the hand-written
scanner, the end of the text, or another rule. Rules that were written with names are read here as
rules over symbols.

* `Symbol`, `Visibility`;
* `RuleSet.reachable` — drop the rules that the start never needs;
* `Draft`, `Draft.ofGrammar` — the grammar over symbols.
-/

namespace TestLocator.Grammar

/-- A grammar symbol. -/
inductive Symbol where
  | external (index : Nat)
  | eof
  | terminal (index : Nat)
  | rule (index : Nat)
  deriving Repr, DecidableEq, Inhabited, Hashable

/-- How a symbol shows in a tree. -/
inductive Visibility where
  /-- No node of its own. -/
  | hidden
  /-- No node of its own: a repetition or an unnamed pattern. -/
  | auxiliary
  /-- A bare token. -/
  | anonymous
  /-- A node with a kind. -/
  | named
  deriving Repr, DecidableEq, Inhabited

/-- Whether a symbol shows at all. -/
def Visibility.isVisible : Visibility → Bool
  | .named | .anonymous => true
  | .hidden | .auxiliary => false

/-- A name with a leading underscore is hidden. -/
def Visibility.ofName (name : String) : Visibility :=
  if name.startsWith "_" then .hidden else .named

namespace Rule

mutual

/-- The names that a rule mentions. -/
def names {σ : Type} : Rule σ → List σ
  | ref n => [n]
  | seq rs => namesAll rs
  | choice rs => namesAll rs
  | repeat1 r => names r
  | marked _ r => names r
  | _ => []

/-- The names that a list of rules mentions. -/
def namesAll {σ : Type} : List (Rule σ) → List σ
  | [] => []
  | r :: rs => names r ++ namesAll rs

end

mutual

/-- Rename every reference. -/
def rename {σ τ : Type} (f : σ → Rule τ) : Rule σ → Rule τ
  | blank => blank
  | text s => text s
  | chars c => chars c
  | ref n => f n
  | seq rs => seq (renameAll f rs)
  | choice rs => choice (renameAll f rs)
  | repeat1 r => repeat1 (rename f r)
  | marked m r => marked m (rename f r)

/-- Rename every reference in a list of rules. -/
def renameAll {σ τ : Type} (f : σ → Rule τ) : List (Rule σ) → List (Rule τ)
  | [] => []
  | r :: rs => rename f r :: renameAll f rs

end

end Rule

/-- The rules that can be reached from some names, in `fuel` rounds. -/
def closeNames (rules : List (String × Rule String)) : Nat → List String → List String
  | 0, seen => seen
  | fuel + 1, seen =>
    let next := rules.foldl (fun acc r =>
      if seen.contains r.1
      then r.2.names.foldl (fun acc n => if acc.contains n then acc else n :: acc) acc
      else acc) seen
    if next.length == seen.length then seen else closeNames rules fuel next

/-- The grammar without the rules that the start, the extras and the externals never need. Orders
that mention a dropped rule go with it. -/
def RuleSet.reachable (g : RuleSet) : RuleSet :=
  let start := (g.rules.head?.map (·.1)).toList ++ Rule.namesAll (g.extras ++ g.externals) ++ [g.word]
  let used := closeNames g.rules (g.rules.length + 1) start
  let dropped := (g.rules.map (·.1)).filter fun n => !used.contains n
  { g with
    rules := g.rules.filter fun r => used.contains r.1
    inlined := g.inlined.filter fun n => !dropped.contains n
    supertypes := g.supertypes.filter fun n => !dropped.contains n
    precedences := g.precedences.filter fun l => !l.any fun
      | .rule n => dropped.contains n
      | .prec _ => false }

/-- A named rule over symbols. -/
structure Variable where
  name : String
  kind : Visibility
  body : Rule Symbol
  deriving Inhabited

/-- A grammar over symbols. -/
structure Draft where
  definitions : Array Variable
  externals : Array Variable
  extras : List (Rule Symbol)
  inlined : List Symbol
  supertypes : List Symbol
  precedences : List (List PrecEntry)
  word : Symbol
  deriving Inhabited

/-- The symbol of a name: a rule if there is one, else an external token. -/
def RuleSet.symbolOf (g : RuleSet) (name : String) : Symbol :=
  match g.rules.findIdx? (·.1 == name) with
  | some i => .rule i
  | none =>
    match g.externals.findIdx? fun r => r == .ref name with
    | some i => .external i
    | none => .eof

/-- Read a grammar over symbols. -/
def Draft.ofGrammar (grammar : RuleSet) : Draft :=
  let g := grammar.reachable
  let resolve : Rule String → Rule Symbol := Rule.rename fun n => .ref (g.symbolOf n)
  let external (r : Rule String) : Variable :=
    match r with
    | .ref n => ⟨n, .ofName n, resolve r⟩
    | _ => ⟨"", .anonymous, resolve r⟩
  { definitions := (g.rules.map fun r =>
      ⟨r.1, if g.supertypes.contains r.1 then .hidden else .ofName r.1, resolve r.2⟩).toArray
    externals := (g.externals.map external).toArray
    extras := g.extras.map resolve
    inlined := g.inlined.map g.symbolOf
    supertypes := g.supertypes.map g.symbolOf
    precedences := g.precedences
    word := g.symbolOf g.word }

end TestLocator.Grammar
