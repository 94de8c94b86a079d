import TestLocator.Proofs.Parsing.Extents

/-!
# Sketches of trees

Where the nodes of a tree stand follows from what they are written as: from the tokens, and what is
between them. A sketch of a tree tells only these.

* `Point.past` — the place behind some characters;
* `Sketch`, `Sketch.written`, **`Sketch.drawn`** — sketches, their texts and their trees;
* `Stands`, `text_of_stands` — a text that stands at a place is the text of a node there;
* `Sketch.height`, `level_lt_of_mem_preorderAll_drawnAll` — how deep a tree is.
-/

namespace TestLocator.Parsing

/-! ## Places -/

namespace Point

/-- The place behind a character. -/
def next (p : Point) (c : Char) : Point :=
  if c = '\n' then ⟨p.offset + 1, p.row + 1, 0⟩ else ⟨p.offset + 1, p.row, p.column + c.utf8Size⟩

/-- The place behind some characters. -/
def past (p : Point) (cs : List Char) : Point := cs.foldl next p

theorem past_append (p : Point) (cs ds : List Char) : p.past (cs ++ ds) = (p.past cs).past ds :=
  List.foldl_append

theorem offset_past (cs : List Char) : ∀ p : Point, (p.past cs).offset = p.offset + cs.length := by
  induction cs with
  | nil => exact fun _ => rfl
  | cons c cs ih =>
    intro p
    have hnext : (p.next c).offset = p.offset + 1 := by
      unfold next
      split <;> rfl
    change ((p.next c).past cs).offset = _
    rw [ih, hnext, List.length_cons]
    omega

theorem row_past (cs : List Char) : ∀ p : Point, (p.past cs).row = p.row + cs.count '\n' := by
  induction cs with
  | nil => exact fun _ => rfl
  | cons c cs ih =>
    intro p
    change ((p.next c).past cs).row = _
    rw [ih, List.count_cons, next]
    by_cases hc : c = '\n'
    · simp [hc]
      omega
    · simp [hc]

end Point

/-! ## Sketches -/

/-- A tree without places. -/
inductive Sketch where
  /-- Text between tokens. -/
  | gap (text : String)
  /-- A node without children, which may have no name. -/
  | leaf (kind : String) (named : Bool) (fields : List String) (text : String)
  /-- A node that is made of some pieces. -/
  | node (kind : String) (fields : List String) (pieces : List Sketch)

namespace Sketch

mutual

/-- The text of a sketch. -/
def written : Sketch → List Char
  | gap text => text.toList
  | leaf _ _ _ text => text.toList
  | node _ _ pieces => writtenAll pieces

/-- The text of some sketches, one after the other. -/
def writtenAll : List Sketch → List Char
  | [] => []
  | s :: ss => s.written ++ writtenAll ss

end

mutual

/-- The tree of a sketch that starts at a place; a gap makes none. -/
def drawn (p : Point) : Sketch → List Concrete
  | gap _ => []
  | leaf kind named fields text =>
    [.node { kind, named, fields, start := p, stop := p.past text.toList } []]
  | node kind fields pieces =>
    [.node { kind, fields, start := p, stop := p.past (writtenAll pieces) } (drawnAll p pieces)]

/-- The trees of some sketches, each behind the one before it. -/
def drawnAll (p : Point) : List Sketch → List Concrete
  | [] => []
  | s :: ss => s.drawn p ++ drawnAll (p.past s.written) ss

end

theorem writtenAll_append (ss ts : List Sketch) :
    writtenAll (ss ++ ts) = writtenAll ss ++ writtenAll ts := by
  induction ss with
  | nil => rfl
  | cons s ss ih => rw [List.cons_append, writtenAll, writtenAll, ih, List.append_assoc]

theorem writtenAll_flatMap {α : Type} (f : α → List Sketch) (xs : List α) :
    writtenAll (xs.flatMap f) = xs.flatMap fun x => writtenAll (f x) := by
  induction xs with
  | nil => rfl
  | cons x xs ih => rw [List.flatMap_cons, writtenAll_append, ih, List.flatMap_cons]

theorem drawnAll_append (ss ts : List Sketch) : ∀ p : Point,
    drawnAll p (ss ++ ts) = drawnAll p ss ++ drawnAll (p.past (writtenAll ss)) ts := by
  induction ss with
  | nil => exact fun _ => rfl
  | cons s ss ih =>
    intro p
    rw [List.cons_append, drawnAll, drawnAll, ih, writtenAll, Point.past_append, List.append_assoc]

/-! ## Texts -/

/-- Some characters stand at a place of a text. -/
def Stands (text : String) (p : Point) (cs : List Char) : Prop := cs <+: text.toList.drop p.offset

theorem stands_append {text : String} {p : Point} {cs ds : List Char} :
    Stands text p (cs ++ ds) ↔ Stands text p cs ∧ Stands text (p.past cs) ds := by
  unfold Stands
  rw [Point.offset_past, ← List.drop_drop]
  generalize text.toList.drop p.offset = rest
  constructor
  · rintro ⟨after, rfl⟩
    rw [List.append_assoc, List.drop_left]
    exact ⟨List.prefix_append _ _, List.prefix_append _ _⟩
  · rintro ⟨⟨after, rfl⟩, h⟩
    rw [List.drop_left] at h
    exact (List.prefix_append_right_inj cs).mpr h

/-- A node is the text that stands at its place. -/
theorem text_of_stands {text : String} {n : Concrete} {cs : List Char}
    (hstop : n.data.stop = n.data.start.past cs) (h : Stands text n.data.start cs) :
    n.text (.ofString text) = String.ofList cs := by
  have hlength : n.data.stop.offset - n.data.start.offset = cs.length := by
    rw [hstop, Point.offset_past, Nat.add_sub_cancel_left]
  rw [← String.toList_inj, Concrete.text, Source.slice_ofString, hlength, String.toList_ofList]
  exact (List.prefix_iff_eq_take.mp h).symm

/-! ## Levels -/

mutual

/-- The number of levels of the tree. -/
def height : Sketch → Nat
  | gap _ => 0
  | leaf .. => 1
  | node _ _ pieces => heightAll pieces + 1

/-- The number of levels of the highest tree. -/
def heightAll : List Sketch → Nat
  | [] => 0
  | s :: ss => max s.height (heightAll ss)

end

theorem heightAll_le {ss : List Sketch} {h : Nat} (hle : ∀ s ∈ ss, s.height ≤ h) :
    heightAll ss ≤ h := by
  induction ss with
  | nil => exact Nat.zero_le _
  | cons s ss ih =>
    rw [heightAll]
    have hrest := ih fun t ht => hle t (List.mem_cons_of_mem _ ht)
    exact Nat.max_le.mpr ⟨hle s List.mem_cons_self, hrest⟩

theorem preorderAll_append (depth : Nat) (cs ds : List Concrete) :
    Concrete.preorderAll depth (cs ++ ds) =
      Concrete.preorderAll depth cs ++ Concrete.preorderAll depth ds := by
  induction cs with
  | nil => rfl
  | cons c cs ih =>
    rw [List.cons_append, Concrete.preorderAll, Concrete.preorderAll, ih, List.append_assoc]

mutual

theorem level_lt_of_mem_preorderAll_drawn {x : Nat × Concrete} {p : Point} {depth : Nat} :
    ∀ {s : Sketch}, x ∈ Concrete.preorderAll depth (s.drawn p) → x.1 < depth + s.height
  | gap _, h => absurd h List.not_mem_nil
  | leaf .., h => by
    obtain rfl := List.mem_singleton.mp h
    exact Nat.lt_succ_self _
  | node _ _ pieces, h => by
    rw [drawn, Concrete.preorderAll, Concrete.preorder, List.cons_append, List.mem_cons] at h
    rw [height]
    rcases h with rfl | h
    · exact Nat.lt_add_of_pos_right (Nat.succ_pos _)
    · rw [Concrete.preorderAll, List.append_nil] at h
      have hlt := level_lt_of_mem_preorderAll_drawnAll h
      omega

theorem level_lt_of_mem_preorderAll_drawnAll {x : Nat × Concrete} {p : Point} {depth : Nat} :
    ∀ {ss : List Sketch}, x ∈ Concrete.preorderAll depth (drawnAll p ss) →
      x.1 < depth + heightAll ss
  | [], h => absurd h List.not_mem_nil
  | s :: ss, h => by
    rw [drawnAll, preorderAll_append, List.mem_append] at h
    rw [heightAll]
    rcases h with h | h
    · have hlt := level_lt_of_mem_preorderAll_drawn h
      omega
    · have hlt := level_lt_of_mem_preorderAll_drawnAll h
      omega

end

end Sketch

end TestLocator.Parsing
