import TestLocator.Grammar.Symbol

/-!
# Tokens

The texts and patterns of the rules become tokens: equal ones become one token, and a rule that is
nothing but a token gives the token its name.

* `TokenDef`, `ExternalDef`;
* `Draft.extractTokens` — replace texts and patterns by tokens;
* `Tokenized` — the result.
-/

namespace TestLocator.Grammar

/-- A token of the lexical grammar. -/
structure TokenDef where
  name : String
  kind : Visibility
  body : Rule Symbol
  deriving Inhabited

/-- A token of the hand-written scanner, and the lexical token that it also is, if any. -/
structure ExternalDef where
  name : String
  kind : Visibility
  twin : Option Nat
  deriving Inhabited, Repr

/-- The tokens found so far, with the number of places where each stands. -/
structure TokenPool where
  tokens : Array TokenDef := #[]
  uses : Array Nat := #[]
  /-- The number of unnamed patterns of the current rule. -/
  unnamed : Nat := 0
  deriving Inhabited

/-- The token of a rule: an earlier one with the same body, or a new one. -/
def TokenPool.add (pool : TokenPool) (owner : String) (body : Rule Symbol)
    (literal : Option String) : Symbol × TokenPool :=
  match pool.tokens.findIdx? fun t => t.body == body with
  | some i => (.terminal i, { pool with uses := pool.uses.modify i (· + 1) })
  | none =>
    let i := pool.tokens.size
    match literal with
    | some s => (.terminal i,
        { pool with tokens := pool.tokens.push ⟨s, .anonymous, body⟩, uses := pool.uses.push 1 })
    | none =>
      let n := pool.unnamed + 1
      (.terminal i,
        { tokens := pool.tokens.push ⟨s!"{owner}_token{n}", .auxiliary, body⟩
          uses := pool.uses.push 1
          unnamed := n })

/-- The text of a rule that is nothing but a text. -/
def Rule.literal? {σ : Type} : Rule σ → Option String
  | text s => some s
  | _ => none

mutual

/-- Replace the texts and patterns of a rule by tokens. -/
def Rule.tokenize (owner : String) : Rule Symbol → StateM TokenPool (Rule Symbol)
  | .text s => fun pool => let (t, p) := pool.add owner (.text s) (some s); (.ref t, p)
  | .chars c => fun pool => let (t, p) := pool.add owner (.chars c) none; (.ref t, p)
  | .marked m body => fun pool =>
    if m.token then
      let own := { m with token := false }
      let whole := if own == {} then body else .marked m body
      let (t, p) := pool.add owner whole body.literal?
      (.ref t, p)
    else
      let (b, p) := body.tokenize owner pool
      (.marked m b, p)
  | .seq rs => fun pool => let (rs, p) := Rule.tokenizeAll owner rs pool; (.seq rs, p)
  | .choice rs => fun pool => let (rs, p) := Rule.tokenizeAll owner rs pool; (.choice rs, p)
  | .repeat1 r => fun pool => let (r, p) := r.tokenize owner pool; (.repeat1 r, p)
  | .ref s => fun pool => (.ref s, pool)
  | .blank => fun pool => (.blank, pool)

/-- Replace the texts and patterns of some rules by tokens. -/
def Rule.tokenizeAll (owner : String) : List (Rule Symbol) → StateM TokenPool (List (Rule Symbol))
  | [] => fun pool => ([], pool)
  | r :: rs => fun pool =>
    let (r, p) := r.tokenize owner pool
    let (rs, p) := Rule.tokenizeAll owner rs p
    (r :: rs, p)

end

/-- A grammar whose rules are made of symbols only. -/
structure Tokenized where
  definitions : Array Variable
  tokens : Array TokenDef
  externals : Array ExternalDef
  /-- Tokens that may stand anywhere. -/
  extras : List Symbol
  /-- Patterns that may stand before any token. -/
  separators : List (Rule Symbol)
  inlined : List Symbol
  supertypes : List Symbol
  precedences : List (List PrecEntry)
  /-- The token that keywords are spelled like. -/
  word : Nat
  deriving Inhabited

/-- Replace the texts and patterns of one rule. -/
def Variable.tokenize (v : Variable) (pool : TokenPool) : Variable × TokenPool :=
  let (body, p) := v.body.tokenize v.name { pool with unnamed := 0 }
  ({ v with body }, p)

/-- Replace the texts and patterns of some rules in their order. -/
def tokenizeVariables (vs : Array Variable) (pool : TokenPool) : Array Variable × TokenPool :=
  vs.foldl (fun (acc, p) v => let (v, p) := v.tokenize p; (acc.push v, p)) (#[], pool)

/-- The renaming of symbols after rules became tokens: `none` for a rule that stays. -/
structure Renaming where
  /-- For each old rule its new symbol. -/
  target : Array Symbol

/-- The new symbol of an old one. -/
def Renaming.apply (r : Renaming) : Symbol → Symbol
  | .rule i => r.target.getD i (.rule i)
  | s => s

/-- Replace texts and patterns by tokens, and drop rules that are nothing but a token. -/
def Draft.extractTokens (d : Draft) : Tokenized :=
  let (definitions, pool) := tokenizeVariables d.definitions {}
  let (externals, pool) := tokenizeVariables d.externals pool
  let step (acc : Array Variable × Array TokenDef × Array Symbol × Nat) (v : Variable) :=
    let (kept, tokens, target, i) := acc
    let stays := (kept.push v, tokens, target.push (.rule kept.size), i + 1)
    match v.body with
    | .ref (.terminal t) =>
      let old := tokens[t]?.getD default
      if i > 0 && pool.uses.getD t 0 == 1 && (old.kind == .auxiliary || v.kind != .hidden)
      then (kept, tokens.set! t { old with name := v.name, kind := v.kind },
        target.push (.terminal t), i + 1)
      else stays
    | _ => stays
  let (kept, tokens, target, _) := definitions.foldl step (#[], pool.tokens, #[], 0)
  let newNames : Renaming := ⟨target⟩
  let renameRule := Rule.rename fun s => .ref (newNames.apply s)
  let external (v : Variable) : ExternalDef :=
    match renameRule v.body with
    | .ref (.terminal t) => ⟨(tokens[t]?.getD default).name, v.kind, some t⟩
    | _ => ⟨v.name, v.kind, none⟩
  let extra (r : Rule Symbol) : Option Symbol :=
    match r with
    | .ref s => some (newNames.apply s)
    | _ => (tokens.findIdx? fun t => t.body == r).map .terminal
  { definitions := kept.map fun v => { v with body := renameRule v.body }
    tokens
    externals := externals.map external
    extras := d.extras.filterMap extra
    separators := d.extras.filter fun r => (extra r).isNone
    inlined := d.inlined.map newNames.apply
    supertypes := d.supertypes.map newNames.apply
    precedences := d.precedences
    word := match newNames.apply d.word with
      | .terminal t => t
      | _ => 0 }

end TestLocator.Grammar
