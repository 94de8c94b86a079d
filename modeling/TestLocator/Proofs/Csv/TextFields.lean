import TestLocator.Proofs.Csv.Header
import TestLocator.Proofs.Text.Ascii

/-!
# The fields of a text

All that a reader looks for is ASCII, so that it takes no character apart: where a table is a text,
so is each of its fields.

* `atFront_encode`, `atFront_encode_mark` — the front of a text;
* `decode?_eq_some_iff`, `IsText` — the bytes that are a text;
* `Reader.HoldsText` — all that a reader holds is text, and stays so from one character to the next;
* **`isText_of_mem_recordsOf`** — the fields of a text are texts.
-/

namespace TestLocator.Csv

open TestLocator.Text

/-! ## The front of a text -/

theorem atFront_encode {cs : List Char} (h : cs.head? ≠ some '\uFEFF') :
    Reader.atFront (encode cs) = ({}, encode cs) := by
  refine atFront_of_ne fun rest hrest => ?_
  cases cs with
  | nil => cases hrest
  | cons c cs =>
    have hbytes : String.utf8EncodeChar c ++ encode cs = String.utf8EncodeChar '\uFEFF' ++ rest :=
      hrest
    exact h (congrArg some (eq_of_utf8EncodeChar_append hbytes))

theorem atFront_encode_mark (cs : List Char) :
    Reader.atFront (encode ('\uFEFF' :: cs)) = ({ mark := { byte := 3 } }, encode cs) := rfl

/-! ## Characters -/

theorem decode?_eq_some_iff {bs : Bytes} {cs : List Char} : decode? bs = some cs ↔ bs = encode cs := by
  constructor
  · intro h
    obtain ⟨chars, hchars, rfl⟩ := Option.map_eq_some_iff.mp h
    have hsome : bs.toByteArray.utf8Decode?.isSome := by rw [hchars]; rfl
    have hencode := @ByteArray.utf8Encode_get_utf8Decode? _ hsome
    have hget : bs.toByteArray.utf8Decode?.get hsome = chars := by simp [hchars]
    rw [hget] at hencode
    have hbytes := congrArg (fun b : ByteArray => b.data.toList) hencode
    rw [List.toList_data_toByteArray] at hbytes
    exact hbytes.symm.trans List.toList_data_toByteArray
  · rintro rfl
    exact decode?_encode cs

/-- Some bytes are a text. -/
def IsText (bs : Bytes) : Prop := ∃ cs, bs = encode cs

theorem isText_iff {bs : Bytes} : IsText bs ↔ (decode? bs).isSome := by
  simp only [IsText, Option.isSome_iff_exists, decode?_eq_some_iff]

instance : DecidablePred IsText := fun _ => decidable_of_iff' _ isText_iff

/-- All that a reader holds is text. -/
structure Reader.HoldsText (r : Reader) : Prop where
  field : IsText r.field.reverse
  fields : ∀ f ∈ r.fields, IsText f
  done : ∀ record ∈ r.done, ∀ f ∈ record.fields, IsText f

theorem Mode.next_of_not_ascii {b : UInt8} (hb : 128 ≤ b.toNat) (m : Mode) :
    (m.next b).2 = .keep := by
  have hne : ∀ a : UInt8, a.toNat < 128 → b ≠ a := by
    rintro a ha rfl
    omega
  have hcomma : b ≠ comma := hne comma (by decide)
  have hquote : b ≠ quoteMark := hne quoteMark (by decide)
  have hfeed : b ≠ lineFeed := hne lineFeed (by decide)
  have hreturn : b ≠ carriageReturn := hne carriageReturn (by decide)
  cases m <;>
    simp [next, nextBeforeRecord, nextInStart, nextInField, hcomma, hquote, hfeed, hreturn]

namespace Reader

variable {r : Reader}

theorem step_of_keep {b : UInt8} (h : (r.mode.next b).2 = .keep) :
    (r.step b).field = b :: r.field ∧ (r.step b).fields = r.fields ∧ (r.step b).done = r.done := by
  simp only [step, apply, h, and_self]

theorem run_not_ascii {bs : Bytes} (hbs : ∀ b ∈ bs, 128 ≤ b.toNat) :
    (r.run bs).field = bs.reverse ++ r.field ∧ (r.run bs).fields = r.fields ∧
      (r.run bs).done = r.done := by
  induction bs generalizing r with
  | nil => exact ⟨rfl, rfl, rfl⟩
  | cons b bs ih =>
    obtain ⟨hb, hbs⟩ := List.forall_mem_cons.mp hbs
    obtain ⟨hfield, hfields, hdone⟩ := step_of_keep (Mode.next_of_not_ascii hb r.mode)
    obtain ⟨hfield', hfields', hdone'⟩ := ih (r := r.step b) hbs
    refine ⟨?_, hfields'.trans hfields, hdone'.trans hdone⟩
    rw [List.reverse_cons, List.append_assoc, List.singleton_append, ← hfield]
    exact hfield'

namespace HoldsText

theorem finish (h : r.HoldsText) : r.finish.HoldsText := by
  refine ⟨⟨[], rfl⟩, fun f hf => absurd hf List.not_mem_nil, fun record hmem f hf => ?_⟩
  rcases List.mem_cons.mp hmem with rfl | hmem
  · rcases List.mem_cons.mp (List.mem_reverse.mp hf) with rfl | hf
    · exact h.field
    · exact h.fields f hf
  · exact h.done record hmem f hf

theorem step_ascii (h : r.HoldsText) {c : Char} (hc : c.toNat < 128) :
    (r.step (UInt8.ofNat c.toNat)).HoldsText := by
  simp only [step, apply]
  cases (r.mode.next (UInt8.ofNat c.toNat)).2 with
  | skip => exact ⟨h.field, h.fields, h.done⟩
  | keep =>
    obtain ⟨cs, hcs⟩ := h.field
    refine ⟨⟨cs ++ [c], ?_⟩, h.fields, h.done⟩
    rw [encode_append, encode_ascii hc, ← hcs, List.reverse_cons]
    rfl
  | endField =>
    refine ⟨⟨[], rfl⟩, fun f hf => ?_, h.done⟩
    rcases List.mem_cons.mp hf with rfl | hf
    · exact h.field
    · exact h.fields f hf
  | endRecord => exact finish ⟨h.field, h.fields, h.done⟩

/-- **A character is read as a whole**, however many bytes it has. -/
theorem run_char (h : r.HoldsText) (c : Char) : (r.run (String.utf8EncodeChar c)).HoldsText := by
  by_cases hc : c.toNat < 128
  · have hbyte : String.utf8EncodeChar c = [UInt8.ofNat c.toNat] := by
      simpa [encode] using encode_ascii hc []
    rw [hbyte]
    exact h.step_ascii hc
  · have hbytes : ∀ b ∈ String.utf8EncodeChar c, 128 ≤ b.toNat := fun b hb => by
      by_contra hlow
      have hcb := toNat_eq_of_mem_utf8EncodeChar hb (Nat.lt_of_not_le hlow)
      omega
    obtain ⟨hfield, hfields, hdone⟩ := run_not_ascii (r := r) hbytes
    obtain ⟨cs, hcs⟩ := h.field
    refine ⟨⟨cs ++ [c], ?_⟩, hfields ▸ h.fields, hdone ▸ h.done⟩
    rw [hfield, List.reverse_append, List.reverse_reverse, hcs, encode_append, encode_cons]
    exact congrArg _ (List.append_nil _).symm

theorem run (h : r.HoldsText) (cs : List Char) : (r.run (encode cs)).HoldsText := by
  induction cs generalizing r with
  | nil => exact h
  | cons c cs ih =>
    rw [encode_cons, run_append]
    exact ih (h.run_char c)

theorem isText_of_mem_allRecords (h : r.HoldsText) {cs : List Char} {record : Record}
    (hrecord : record ∈ allRecords r (encode cs)) : ∀ f ∈ record.fields, IsText f := by
  have hrun := h.run cs
  unfold allRecords at hrecord
  split_ifs at hrecord with hopen
  · exact hrun.finish.done record (List.mem_reverse.mp hrecord)
  · exact hrun.done record (List.mem_reverse.mp hrecord)

end HoldsText

end Reader

/-- **The fields of a text are texts.** -/
theorem isText_of_mem_recordsOf {cs : List Char} {record : Record}
    (hrecord : record ∈ recordsOf (encode cs)) : ∀ f ∈ record.fields, IsText f := by
  have hstart : ∀ mark, Reader.HoldsText { mark } := fun _ =>
    ⟨⟨[], rfl⟩, fun _ hf => absurd hf List.not_mem_nil, fun _ hr => absurd hr List.not_mem_nil⟩
  rw [recordsOf_eq] at hrecord
  by_cases hmark : cs.head? = some '\uFEFF'
  · obtain ⟨rest, rfl⟩ := List.head?_eq_some_iff.mp hmark
    rw [atFront_encode_mark] at hrecord
    exact (hstart _).isText_of_mem_allRecords hrecord
  · rw [atFront_encode hmark] at hrecord
    exact (hstart _).isText_of_mem_allRecords hrecord

end TestLocator.Csv
