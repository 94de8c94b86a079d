import TestLocator.Proofs.Parsing.Levels

/-!
# Walks move by move

The walk to the first node that is too deep counts levels beside its cursor: one more for each move
down, one less for each move up. Here the walk is made move by move, and a count that would fall
below zero stops it.

* `Stand`, `Stand.move`, `Stand.run` — where a walk stands, one move, and several;
* `Takes`, `takes_move` — what a move does, for each place where a walk may stand;
* `Cursor.In`, `Cursor.In.mem_preorder` — a cursor that stands in a tree, and its true level;
* `Stand.Sound`, `Takes.sound`, `Takes.result_go`, `Takes.movesLeft_eq` — each move keeps the count
  right, leads to the same result, and uses up one of the moves that are left;
* `Stand.run_cases`, `Stand.run_of_movesLeft_le` — several moves;
* `level_of_find?_preorder` — the first node that is too deep is just one level too deep;
* **`firstDeeperThan_moves`** — the whole walk.
-/

namespace TestLocator.Parsing

open Concrete

/-- Where a walk stands: the cursor, the count of levels, and whether the walk is done with all that
is below the cursor. -/
structure Stand where
  cursor : Cursor
  count : Nat
  done : Bool

/-- What comes of a move. -/
inductive Move where
  | go (s : Stand)
  | stop (result : Option Concrete)
  /-- The count would fall below zero. -/
  | underflow

namespace Stand

/-- Where a walk through a tree begins. -/
def ofRoot (root : Concrete) : Stand := ⟨.ofRoot root, 0, false⟩

/-- One move: down from a node that has children, and else on to the next sibling, or up. -/
def move (limit : Nat) : Stand → Move
  | ⟨c, k, false⟩ =>
    if limit < k then .stop (some c.node)
    else
      match c.firstChild? with
      | some d => .go ⟨d, k + 1, false⟩
      | none => .go ⟨c, k, true⟩
  | ⟨c, k, true⟩ =>
    match c.nextSibling?, c.parent?, k with
    | some d, _, k => .go ⟨d, k, false⟩
    | none, none, _ => .stop none
    | none, some _, 0 => .underflow
    | none, some d, k + 1 => .go ⟨d, k, true⟩

/-- So many moves, unless the walk stops before. -/
def run (limit : Nat) : Nat → Stand → Move
  | 0, s => .go s
  | n + 1, s =>
    match s.move limit with
    | .go t => run limit n t
    | m => m

end Stand

/-- What a move does, for each place where a walk may stand. -/
inductive Takes (limit : Nat) : Stand → Move → Prop
  | tooDeep {c : Cursor} {k : Nat} : limit < k → Takes limit ⟨c, k, false⟩ (.stop (some c.node))
  | down {c d : Cursor} {k : Nat} : ¬ limit < k → c.firstChild? = some d →
    Takes limit ⟨c, k, false⟩ (.go ⟨d, k + 1, false⟩)
  | turn {c : Cursor} {k : Nat} : ¬ limit < k → c.firstChild? = none →
    Takes limit ⟨c, k, false⟩ (.go ⟨c, k, true⟩)
  | on {c d : Cursor} {k : Nat} : c.nextSibling? = some d →
    Takes limit ⟨c, k, true⟩ (.go ⟨d, k, false⟩)
  | up {c d : Cursor} {k : Nat} : c.nextSibling? = none → c.parent? = some d →
    Takes limit ⟨c, k + 1, true⟩ (.go ⟨d, k, true⟩)
  | out {c : Cursor} {k : Nat} : c.nextSibling? = none → c.parent? = none →
    Takes limit ⟨c, k, true⟩ (.stop none)
  | underflow {c d : Cursor} : c.nextSibling? = none → c.parent? = some d →
    Takes limit ⟨c, 0, true⟩ .underflow

theorem takes_move (limit : Nat) (s : Stand) : Takes limit s (s.move limit) := by
  obtain ⟨c, k, done⟩ := s
  cases done with
  | false =>
    rw [Stand.move]
    split_ifs with hdeep
    · exact .tooDeep hdeep
    · cases hchild : c.firstChild? with
      | some d => exact .down hdeep hchild
      | none => exact .turn hdeep hchild
  | true =>
    cases hnext : c.nextSibling? with
    | some d =>
      simp only [Stand.move, hnext]
      exact .on hnext
    | none =>
      cases hparent : c.parent? with
      | none =>
        simp only [Stand.move, hnext, hparent]
        exact .out hnext hparent
      | some d =>
        cases k with
        | zero =>
          simp only [Stand.move, hnext, hparent]
          exact .underflow hnext hparent
        | succ k =>
          simp only [Stand.move, hnext, hparent]
          exact .up hnext hparent

/-! ## Cursors in a tree -/

namespace Cursor

variable {root : Concrete} {c d : Cursor} {k : Nat}

theorem depth_firstChild? (h : c.firstChild? = some d) : d.depth = c.depth + 1 := by
  unfold firstChild? at h
  split at h
  · cases h
  · cases h
    rfl

theorem depth_nextSibling? (h : c.nextSibling? = some d) : d.depth = c.depth := by
  unfold nextSibling? at h
  split at h
  · cases h
  · cases h
    rfl

theorem depth_parent? (h : c.parent? = some d) : c.depth = d.depth + 1 := by
  unfold parent? at h
  split at h
  · cases h
  · rename_i habove
    cases h
    rw [depth, habove]
    rfl

/-- A cursor stands in a tree: it is at the root, or at a child of a node where a cursor stands, with
the siblings that come after that child. -/
inductive In (root : Concrete) : Cursor → Prop
  | root : In root (.ofRoot root)
  | child {c : Cursor} {node : Concrete} {earlier later : List Concrete} : In root c →
    c.node.children = earlier ++ node :: later → In root ⟨node, later, (c.node, c.later) :: c.above⟩

theorem In.firstChild? (hc : In root c) (h : c.firstChild? = some d) : In root d := by
  unfold Cursor.firstChild? at h
  split at h
  · cases h
  · rename_i x xs hx
    cases h
    exact hc.child (hx.trans (List.nil_append _).symm)

theorem In.nextSibling? (hc : In root c) (h : c.nextSibling? = some d) : In root d := by
  cases hc with
  | root => cases h
  | @child c node earlier later hc hchildren =>
    cases later with
    | nil => cases h
    | cons x xs =>
      cases h
      rw [List.append_cons] at hchildren
      exact hc.child hchildren

theorem In.parent? (hc : In root c) (h : c.parent? = some d) : In root d := by
  cases hc with
  | root => cases h
  | child hc _ =>
    cases h
    exact hc

/-- **The nodes above a cursor** are as many as the level of its node. -/
theorem In.mem_preorder (hc : In root c) : (c.depth, c.node) ∈ root.preorder 0 := by
  induction hc with
  | root => exact mem_preorder_self 0 root
  | @child c node _ _ _ hchildren ih =>
    have hnode : node ∈ c.node.children := hchildren ▸ List.mem_append_right _ List.mem_cons_self
    exact preorder_subset_of_mem ih
      (preorder_subset_of_mem_children hnode (mem_preorder_self _ node))

/-! ## Climbing and walking, a move at a time -/

theorem climb_of_nextSibling? (h : c.nextSibling? = some d) :
    climb c.node c.later c.above k = some (d, k) := by
  obtain ⟨node, later, above⟩ := c
  cases later with
  | nil => cases h
  | cons x xs =>
    cases h
    cases above <;> rfl

theorem climb_of_parent? (hnext : c.nextSibling? = none) (h : c.parent? = some d) :
    climb c.node c.later c.above k = climb d.node d.later d.above (k - 1) := by
  obtain ⟨node, later, above⟩ := c
  cases later with
  | cons x xs => cases hnext
  | nil =>
    cases above with
    | nil => cases h
    | cons p above =>
      cases h
      rfl

theorem climb_of_no_parent (hnext : c.nextSibling? = none) (h : c.parent? = none) :
    climb c.node c.later c.above k = none := by
  obtain ⟨node, later, above⟩ := c
  cases later with
  | cons x xs => cases hnext
  | nil =>
    cases above with
    | nil => rfl
    | cons p above => cases h

variable {limit : Nat}

theorem firstDeeperThan_of_lt (hk : limit < k) : c.firstDeeperThan limit k = some c.node := by
  rw [firstDeeperThan, if_pos hk]

theorem firstDeeperThan_of_firstChild? (hk : ¬ limit < k) (h : c.firstChild? = some d) :
    c.firstDeeperThan limit k = d.firstDeeperThan limit (k + 1) := by
  rw [firstDeeperThan, if_neg hk]
  split
  · rename_i e he
    cases h.symm.trans he
    rfl
  · rename_i hnone
    cases h.symm.trans hnone

theorem firstDeeperThan_of_no_child (hk : ¬ limit < k) (h : c.firstChild? = none) :
    c.firstDeeperThan limit k =
      (climb c.node c.later c.above k).bind fun (d, j) => d.firstDeeperThan limit j := by
  rw [firstDeeperThan, if_neg hk]
  split
  · rename_i e he
    cases h.symm.trans he
  · split <;> simp_all

end Cursor

/-! ## One move -/

namespace Stand

/-- The cursor stands in a tree, and the count is the number of nodes above it. -/
structure Sound (root : Concrete) (s : Stand) : Prop where
  inTree : s.cursor.In root
  count_eq : s.count = s.cursor.depth

/-- What a walk comes to that goes on by whole levels. -/
def result (limit : Nat) : Stand → Option Concrete
  | ⟨c, k, false⟩ => c.firstDeeperThan limit k
  | ⟨c, k, true⟩ =>
    (Cursor.climb c.node c.later c.above k).bind fun (d, j) => d.firstDeeperThan limit j

/-- So many moves a walk makes at most: it enters and leaves each node that is still to come, and
leaves those above the cursor. -/
def movesLeft : Stand → Nat
  | ⟨c, _, false⟩ => 2 * c.remaining + c.depth
  | ⟨c, _, true⟩ => 2 * (sizeAll c.later + Cursor.sizeAbove c.above) + c.depth + 1

end Stand

namespace Takes

variable {limit : Nat} {root : Concrete} {s t : Stand} {r : Option Concrete}

/-- **A move keeps the count right**, wherever it goes. -/
theorem sound (h : Takes limit s (.go t)) (hs : s.Sound root) : t.Sound root := by
  obtain ⟨hin, hcount⟩ := hs
  cases h with
  | down _ hchild => exact ⟨hin.firstChild? hchild, by rw [Cursor.depth_firstChild? hchild, ← hcount]⟩
  | turn => exact ⟨hin, hcount⟩
  | on hnext => exact ⟨hin.nextSibling? hnext, hcount.trans (Cursor.depth_nextSibling? hnext).symm⟩
  | up _ hparent =>
    rw [Cursor.depth_parent? hparent] at hcount
    exact ⟨hin.parent? hparent, Nat.succ.inj hcount⟩

theorem not_underflow (hs : s.Sound root) : ¬ Takes limit s .underflow := by
  rintro ⟨⟩
  rename_i hparent
  have hcount := hs.count_eq
  rw [Cursor.depth_parent? hparent] at hcount
  exact absurd hcount (Nat.zero_ne_add_one _)

/-- **A move leads to the same result.** -/
theorem result_go (h : Takes limit s (.go t)) : s.result limit = t.result limit := by
  cases h with
  | down hk hchild => exact Cursor.firstDeeperThan_of_firstChild? hk hchild
  | turn hk hchild => exact Cursor.firstDeeperThan_of_no_child hk hchild
  | on hnext =>
    simp only [Stand.result]
    rw [Cursor.climb_of_nextSibling? hnext, Option.bind_some]
  | up hnext hparent =>
    simp only [Stand.result]
    rw [Cursor.climb_of_parent? hnext hparent, Nat.add_sub_cancel]

theorem result_stop (h : Takes limit s (.stop r)) : s.result limit = r := by
  cases h with
  | tooDeep hk => exact Cursor.firstDeeperThan_of_lt hk
  | out hnext hparent =>
    simp only [Stand.result]
    rw [Cursor.climb_of_no_parent hnext hparent, Option.bind_none]

/-- **A move uses up one of the moves that are left.** -/
theorem movesLeft_eq (h : Takes limit s (.go t)) : s.movesLeft = t.movesLeft + 1 := by
  cases h with
  | @down c d _ _ hchild =>
    have hdepth := Cursor.depth_firstChild? hchild
    unfold Cursor.firstChild? at hchild
    split at hchild
    · cases hchild
    · rename_i x xs hx
      cases hchild
      simp only [Stand.movesLeft, Cursor.remaining, c.node.size_eq, hx, sizeAll, Cursor.sizeAbove,
        hdepth]
      omega
  | @turn c _ _ hchild =>
    unfold Cursor.firstChild? at hchild
    split at hchild
    · rename_i hnil
      simp only [Stand.movesLeft, Cursor.remaining, c.node.size_eq, hnil, sizeAll]
      omega
    · cases hchild
  | @on c d _ hnext =>
    obtain ⟨node, later, above⟩ := c
    cases later with
    | nil => cases hnext
    | cons x xs =>
      cases hnext
      rfl
  | @up c d _ hnext hparent =>
    obtain ⟨node, later, above⟩ := c
    cases later with
    | cons x xs => cases hnext
    | nil =>
      cases above with
      | nil => cases hparent
      | cons p above =>
        cases hparent
        simp only [Stand.movesLeft, Cursor.depth, Cursor.sizeAbove, sizeAll, List.length_cons]
        omega

end Takes

/-! ## Several moves -/

namespace Stand

variable {limit n : Nat} {root : Concrete} {s t : Stand}

theorem move_cases (limit : Nat) (hs : s.Sound root) :
    (∃ t, s.move limit = .go t ∧ t.Sound root ∧ s.result limit = t.result limit ∧
      s.movesLeft = t.movesLeft + 1) ∨ s.move limit = .stop (s.result limit) := by
  have h := takes_move limit s
  cases hm : s.move limit with
  | go t =>
    rw [hm] at h
    exact .inl ⟨t, rfl, h.sound hs, h.result_go, h.movesLeft_eq⟩
  | stop r =>
    rw [hm] at h
    exact .inr (congrArg Move.stop h.result_stop.symm)
  | underflow =>
    rw [hm] at h
    exact absurd h (Takes.not_underflow hs)

theorem run_succ_of_go (h : s.move limit = .go t) : s.run limit (n + 1) = t.run limit n := by
  rw [run, h]

theorem run_succ_of_stop {r : Option Concrete} (h : s.move limit = .stop r) :
    s.run limit (n + 1) = .stop r := by
  rw [run, h]

theorem run_cases (limit n : Nat) (hs : s.Sound root) :
    (∃ t, s.run limit n = .go t ∧ t.Sound root) ∨ s.run limit n = .stop (s.result limit) := by
  induction n generalizing s with
  | zero => exact .inl ⟨s, rfl, hs⟩
  | succ n ih =>
    obtain ⟨t, hgo, ht, hresult, -⟩ | hstop := move_cases limit hs
    · rw [run_succ_of_go hgo, hresult]
      exact ih ht
    · exact .inr (run_succ_of_stop hstop)

theorem movesLeft_pos (s : Stand) : 0 < s.movesLeft := by
  obtain ⟨c, k, done⟩ := s
  have hpos := c.node.size_pos
  cases done with
  | false => rw [movesLeft, Cursor.remaining]; omega
  | true => exact Nat.succ_pos _

/-- **A walk stops** when it has made as many moves as are left. -/
theorem run_of_movesLeft_le (hs : s.Sound root) (hn : s.movesLeft ≤ n) :
    s.run limit n = .stop (s.result limit) := by
  induction n generalizing s with
  | zero => exact absurd s.movesLeft_pos (Nat.not_lt.mpr hn)
  | succ n ih =>
    obtain ⟨t, hgo, ht, hresult, hleft⟩ | hstop := move_cases limit hs
    · rw [run_succ_of_go hgo, hresult]
      exact ih ht (by omega)
    · exact run_succ_of_stop hstop

theorem sound_ofRoot (root : Concrete) : (ofRoot root).Sound root := ⟨.root, rfl⟩

theorem movesLeft_ofRoot (root : Concrete) : (ofRoot root).movesLeft = 2 * root.size := by
  simp [ofRoot, movesLeft, Cursor.remaining, Cursor.depth, Cursor.ofRoot, Cursor.sizeAbove, sizeAll]

end Stand

/-! ## The level of the first node that is too deep -/

namespace Concrete

variable {limit depth : Nat} {x : Nat × Concrete}

theorem exists_of_find?_preorderAll {p : Nat × Concrete → Bool} {cs : List Concrete}
    (h : (preorderAll depth cs).find? p = some x) : ∃ c ∈ cs, (c.preorder depth).find? p = some x := by
  induction cs with
  | nil => cases h
  | cons c cs ih =>
    rw [preorderAll, List.find?_append, Option.or_eq_some_iff] at h
    rcases h with h | ⟨-, h⟩
    · exact ⟨c, List.mem_cons_self, h⟩
    · obtain ⟨d, hd, hx⟩ := ih h
      exact ⟨d, List.mem_cons_of_mem _ hd, hx⟩

theorem level_of_find?_preorder {n : Concrete} (hdepth : depth ≤ limit + 1)
    (h : (n.preorder depth).find? (limit < ·.1) = some x) : x.1 = limit + 1 := by
  induction n using inductionOnSize generalizing depth with
  | h n ih =>
    by_cases hdeep : limit < depth
    · rw [find?_preorder_of_lt hdeep] at h
      rw [← Option.some.inj h]
      omega
    · rw [find?_preorder_of_le (Nat.not_lt.mp hdeep)] at h
      obtain ⟨c, hc, hx⟩ := exists_of_find?_preorderAll h
      exact ih c (size_lt_of_mem_children hc) (by omega) hx

end Concrete

/-! ## The whole walk -/

theorem firstDeeperThan_eq_some_iff {limit : Nat} {root n : Concrete} :
    Cursor.firstDeeperThan limit (.ofRoot root) 0 = some n ↔
      ∃ before after, root.preorder 0 = before ++ (limit + 1, n) :: after ∧
        ∀ x ∈ before, x.1 ≤ limit := by
  rw [Cursor.firstDeeperThan_ofRoot, Option.map_eq_some_iff]
  constructor
  · rintro ⟨⟨k, m⟩, hfind, rfl⟩
    obtain rfl : k = limit + 1 := level_of_find?_preorder (Nat.zero_le _) hfind
    obtain ⟨-, before, after, horder, hbefore⟩ := List.find?_eq_some_iff_append.mp hfind
    exact ⟨before, after, horder, fun x hx => by simpa using hbefore x hx⟩
  · rintro ⟨before, after, horder, hbefore⟩
    refine ⟨(limit + 1, n), List.find?_eq_some_iff_append.mpr ⟨by simp, before, after, horder, ?_⟩,
      rfl⟩
    exact fun x hx => by simpa using hbefore x hx

/-- **The walk that looks for nodes that are too deep**, move by move. -/
theorem firstDeeperThan_moves (limit : Nat) (root : Concrete) :
    (∀ n s, (Stand.ofRoot root).run limit n = .go s →
      s.cursor.In root ∧ s.count = s.cursor.depth ∧
        (s.count, s.cursor.node) ∈ root.preorder 0) ∧
    (∀ n, (Stand.ofRoot root).run limit n ≠ .underflow) ∧
    (Stand.ofRoot root).run limit (2 * root.size) =
      .stop (Cursor.firstDeeperThan limit (.ofRoot root) 0) ∧
    (Cursor.firstDeeperThan limit (.ofRoot root) 0 = none ↔ ∀ x ∈ root.preorder 0, x.1 ≤ limit) ∧
    ∀ n, Cursor.firstDeeperThan limit (.ofRoot root) 0 = some n ↔
      ∃ before after, root.preorder 0 = before ++ (limit + 1, n) :: after ∧
        ∀ x ∈ before, x.1 ≤ limit := by
  have hroot := Stand.sound_ofRoot root
  refine ⟨fun n s hgo => ?_, fun n hunder => ?_, ?_, Cursor.firstDeeperThan_eq_none_iff,
    fun n => firstDeeperThan_eq_some_iff⟩
  · obtain ⟨t, ht, hsound⟩ | hstop := Stand.run_cases limit n hroot
    · obtain rfl : t = s := Move.go.inj (ht.symm.trans hgo)
      exact ⟨hsound.inTree, hsound.count_eq, hsound.count_eq ▸ hsound.inTree.mem_preorder⟩
    · cases hstop.symm.trans hgo
  · obtain ⟨t, ht, -⟩ | hstop := Stand.run_cases limit n hroot
    · cases ht.symm.trans hunder
    · cases hstop.symm.trans hunder
  · exact Stand.run_of_movesLeft_le hroot (Nat.le_of_eq (Stand.movesLeft_ofRoot root))

end TestLocator.Parsing
