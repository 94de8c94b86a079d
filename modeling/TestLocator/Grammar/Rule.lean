import TestLocator.Grammar.CharSet

/-!
# Grammar rules

The rules of a context-free grammar with precedences, aliases and fields, as they are written down
before anything is computed from them.

* `Rule` — texts, character sets, references, sequences, choices and repetitions, with `Marks`;
* `Rule.opt`, `Rule.many`, `Rule.commaSep1`, `Rule.prec`, `Rule.field`, … — ways to write rules;
* `RuleSet` — named rules together with extras, external tokens and precedence orders.

A rule is generic in how it names other rules: by name when written, by symbol later.
-/

namespace TestLocator.Grammar

/-- How strongly a step of a rule binds. -/
inductive Prec where
  | level (n : Int)
  | named (name : String)
  deriving Repr, DecidableEq, Inhabited, Hashable

/-- Which way a chain of equally strong steps groups. -/
inductive Assoc where
  | left
  | right
  deriving Repr, DecidableEq, Inhabited, Hashable

/-- Another name under which a step appears in the tree. -/
structure Alias where
  name : String
  named : Bool
  deriving Repr, DecidableEq, Inhabited, Hashable

/-- The marks that a rule can carry. -/
structure Marks where
  prec : Option Prec := none
  assoc : Option Assoc := none
  dynamic : Int := 0
  /-- The alias under which the tree shows what the rule reads. -/
  shown : Option Alias := none
  /-- The field under which the parent holds it. -/
  field : Option String := none
  /-- All that the rule reads is one token. -/
  token : Bool := false
  /-- The token must follow the one before it without blanks. -/
  immediate : Bool := false
  deriving Repr, DecidableEq, Inhabited

/-- A grammar rule that names other rules by `σ`. -/
inductive Rule (σ : Type) where
  | blank
  | text (s : String)
  | chars (c : CharSet)
  | ref (name : σ)
  | seq (parts : List (Rule σ))
  | choice (options : List (Rule σ))
  | repeat1 (body : Rule σ)
  | marked (marks : Marks) (body : Rule σ)
  deriving Repr, Inhabited

namespace Rule

variable {σ : Type}

mutual

/-- Equality of rules, part by part. -/
def same [BEq σ] : Rule σ → Rule σ → Bool
  | blank, blank => true
  | text s, text t => s == t
  | chars c, chars d => c == d
  | ref a, ref b => a == b
  | seq ps, seq qs => sameAll ps qs
  | choice ps, choice qs => sameAll ps qs
  | repeat1 p, repeat1 q => same p q
  | marked m p, marked n q => m == n && same p q
  | _, _ => false

/-- Equality of lists of rules. -/
def sameAll [BEq σ] : List (Rule σ) → List (Rule σ) → Bool
  | [], [] => true
  | p :: ps, q :: qs => same p q && sameAll ps qs
  | _, _ => false

end

instance [BEq σ] : BEq (Rule σ) := ⟨same⟩

instance : Coe String (Rule σ) := ⟨text⟩

/-- Add marks to a rule. Marks on the same rule are joined, but those of a token stay its own. -/
def mark (f : Marks → Marks) : Rule σ → Rule σ
  | marked m body => if m.token then marked (f {}) (marked m body) else marked (f m) body
  | r => marked (f {}) r

/-- The alternatives of a rule with nested choices opened. -/
def alternatives : Rule σ → List (Rule σ)
  | choice rs => rs
  | r => [r]

/-- A choice, with nested choices opened and repeated options dropped. -/
def oneOf [BEq σ] (rs : List (Rule σ)) : Rule σ :=
  choice <| (rs.flatMap alternatives).foldl
    (fun acc r => if acc.any (same r) then acc else acc ++ [r]) []

/-- A rule that may be left out. -/
def opt [BEq σ] (r : Rule σ) : Rule σ := oneOf [r, blank]

/-- Any number of repetitions. -/
def many [BEq σ] (r : Rule σ) : Rule σ := oneOf [repeat1 r, blank]

/-- One or more, with a separator between them. -/
def sepBy1 [BEq σ] (sep r : Rule σ) : Rule σ := seq [r, many (seq [sep, r])]

/-- One or more, with commas between them. -/
def commaSep1 [BEq σ] (r : Rule σ) : Rule σ := sepBy1 (text ",") r

/-- Any number, with commas between them. -/
def commaSep [BEq σ] (r : Rule σ) : Rule σ := opt (commaSep1 r)

/-- A rule with a precedence. -/
def prec (p : Prec) : Rule σ → Rule σ := mark fun m => { m with prec := some p }

/-- A rule with a precedence that groups to the left. -/
def precLeft (p : Prec) : Rule σ → Rule σ :=
  mark fun m => { m with prec := some p, assoc := some .left }

/-- A rule with a precedence that groups to the right. -/
def precRight (p : Prec) : Rule σ → Rule σ :=
  mark fun m => { m with prec := some p, assoc := some .right }

/-- A rule that groups to the left. -/
def left : Rule σ → Rule σ := precLeft (.level 0)

/-- A rule that groups to the right. -/
def right : Rule σ → Rule σ := precRight (.level 0)

/-- A rule with a precedence that is weighed between finished readings. -/
def dynamic (n : Int) : Rule σ → Rule σ := mark fun m => { m with dynamic := n }

/-- A rule whose node is reached from its parent by a field. -/
def field (name : String) : Rule σ → Rule σ := mark fun m => { m with field := some name }

/-- A rule that appears in the tree as a node of another kind. -/
def aliasAs (name : String) : Rule σ → Rule σ := mark fun m => { m with shown := some ⟨name, true⟩ }

/-- A rule that appears in the tree as another bare token. -/
def aliasText (name : String) : Rule σ → Rule σ :=
  mark fun m => { m with shown := some ⟨name, false⟩ }

/-- A rule that is one token. -/
def token : Rule σ → Rule σ := mark fun m => { m with token := true }

/-- A rule that is one token with nothing before it. -/
def immediate : Rule σ → Rule σ := mark fun m => { m with token := true, immediate := true }

/-- A pattern of one or more of the same. -/
def plus (r : Rule σ) : Rule σ := repeat1 r

/-- A pattern of at least one and at most `n` of the same. -/
def upTo [BEq σ] : Nat → Rule σ → Rule σ
  | n + 2, r => seq [r, opt (upTo (n + 1) r)]
  | _, r => r

end Rule

/-- An entry of a precedence order: a named precedence, or every step of a rule. -/
inductive PrecEntry where
  | prec (name : String)
  | rule (name : String)
  deriving Repr, DecidableEq, Inhabited

/-- A grammar as it is written down. The first rule is the start. -/
structure RuleSet where
  /-- The named rules in their order. -/
  rules : List (String × Rule String)
  /-- What may stand between any two tokens. -/
  extras : List (Rule String)
  /-- Tokens that a hand-written scanner finds. -/
  externals : List (Rule String)
  /-- Rules that are replaced by their bodies. -/
  inlined : List String
  /-- Hidden rules that stand for a family of nodes. -/
  supertypes : List String
  /-- Precedence orders, strongest first. -/
  precedences : List (List PrecEntry)
  /-- The token that keywords are spelled like. -/
  word : String
  deriving Inhabited

end TestLocator.Grammar
