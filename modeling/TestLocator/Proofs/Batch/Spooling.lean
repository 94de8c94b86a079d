import Mathlib.Tactic.SplitIfs
import TestLocator.Batch.Spool
import TestLocator.Proofs.Text.Ascii

/-!
# Output through a buffer

Whatever a buffer holds back, a sink gets the output from its front, and no failure of the sink is
lost on the way.

* `flatten_recordPieces` — the pieces of a record are the record;
* `ByteSink.Takes` — a sink takes all of some bytes;
* `Progressed` — how far the output of a text has come;
* `progressed_deliver`, `progressed_put` — one step of the output;
* `progressed_putAll`, `progressed_spoolOnto` — the output of some pieces and of some rows;
* `spoolRows_eq` — what becomes of the output does not hang on the buffer;
* **`spoolRows_all_or_failure`** — all of the output has been taken, or the writing has failed.
-/

namespace TestLocator.Batch

open TestLocator.Csv TestLocator.Files TestLocator.Text

/-! ## Pieces -/

theorem flatten_map_singleton (bs : Bytes) : (bs.map ([·])).flatten = bs := by
  induction bs with
  | nil => rfl
  | cons b bs ih => rw [List.map_cons, List.flatten_cons, ih, List.singleton_append]

theorem flatten_fieldPieces (field : List Char) :
    (fieldPieces field).flatten = encode (writeField field) := by
  have hquotes : (field.flatMap fun c =>
      if c = '"' then [encode ['"', '"']] else (encode [c]).map ([·])).flatten =
        encode (doubleQuotes field) := by
    induction field with
    | nil => rfl
    | cons c cs ih =>
      have hdouble : doubleQuotes (c :: cs) =
        (if c = '"' then ['"', '"'] else [c]) ++ doubleQuotes cs := rfl
      rw [List.flatMap_cons, List.flatten_append, ih, hdouble, encode_append]
      split_ifs
      · rw [List.flatten_singleton]
      · rw [flatten_map_singleton]
  unfold fieldPieces writeField
  split_ifs
  · rw [List.flatten_append, List.flatten_append, hquotes, List.flatten_singleton, ← encode_append,
      ← encode_append]
    rfl
  · exact flatten_map_singleton _

theorem flatten_intercalate_fieldPieces (fields : List (List Char)) :
    ([encode [',']].intercalate (fields.map fieldPieces)).flatten =
      encode ([','].intercalate (fields.map writeField)) := by
  induction fields with
  | nil => rfl
  | cons field fields ih =>
    cases fields with
    | nil => simpa using flatten_fieldPieces field
    | cons next fields =>
      simp only [List.map_cons, List.intercalate_cons_cons] at ih ⊢
      rw [List.flatten_append, List.flatten_append, ih, flatten_fieldPieces, encode_append,
        encode_append, List.flatten_singleton]

/-- **The pieces of a record** are the record. -/
theorem flatten_recordPieces (fields : List (List Char)) :
    (recordPieces fields).flatten = encode (writeRecord fields) := by
  rw [recordPieces, writeRecord, List.flatten_append, flatten_intercalate_fieldPieces,
    List.flatten_singleton, encode_append]

/-! ## Sinks -/

/-- A sink takes all of some bytes. -/
def ByteSink.Takes (sink : ByteSink) (bs : Bytes) : Prop := ∀ n ∈ sink.limit, bs.length ≤ n

theorem ByteSink.takes_of_none {sink : ByteSink} (h : sink.limit = none) (bs : Bytes) :
    sink.Takes bs := by
  intro n hn
  cases h.symm.trans hn

theorem ByteSink.takes_iff_of_some {sink : ByteSink} {n : Nat} (h : sink.limit = some n)
    {bs : Bytes} : sink.Takes bs ↔ bs.length ≤ n := by
  refine ⟨fun htakes => htakes n h, fun hle m hm => ?_⟩
  cases h.symm.trans hm
  exact hle

theorem ByteSink.takes_or (sink : ByteSink) (bs : Bytes) :
    sink.Takes bs ∨ ∃ n, sink.limit = some n ∧ n < bs.length := by
  cases hlimit : sink.limit with
  | none => exact .inl (takes_of_none hlimit bs)
  | some n =>
    obtain hshort | hall := Nat.lt_or_ge n bs.length
    · exact .inr ⟨n, rfl, hshort⟩
    · exact .inl ((takes_iff_of_some hlimit).mpr hall)

/-! ## Steps -/

/-- How far the output of a text has come. It is in the sink and in the buffer behind it, or the sink
has failed with a part of it. -/
inductive Progressed (sink : ByteSink) (text : Bytes) : Progress → Prop
  | going {s : Spool} : s.received ++ s.buffer = text →
    sink.Takes s.received → Progressed sink text (s, .ok ())
  | failed {s : Spool} {n : Nat} : sink.limit = some n → n < text.length →
    s.received = text.take n → Progressed sink text (s, .error sink.failure)

variable {capacity : Nat} {sink : ByteSink} {s : Spool} {text more : Bytes} {p : Progress}

theorem accept_eq {received : Bytes} (h : sink.Takes received) (bs : Bytes) :
    sink.accept received bs = (received ++ bs, .ok ()) ∧ sink.Takes (received ++ bs) ∨
      ∃ n, sink.limit = some n ∧ n < (received ++ bs).length ∧
        sink.accept received bs = ((received ++ bs).take n, .error sink.failure) := by
  unfold ByteSink.accept
  obtain hall | ⟨n, hn, hshort⟩ := sink.takes_or (received ++ bs)
  · refine .inl ⟨?_, hall⟩
    cases hlimit : sink.limit with
    | none => rfl
    | some n => exact if_pos (List.length_append ▸ hall n hlimit)
  · refine .inr ⟨n, hn, hshort, ?_⟩
    rw [List.length_append] at hshort
    simp only [hn, if_neg (Nat.not_le_of_lt hshort), List.take_append,
      List.take_of_length_le (h n hn)]

theorem progressed_deliver (h : Progressed sink text (s, .ok ())) :
    Progressed sink text (s.deliver sink) := by
  cases h with
  | going htext hlimit =>
    unfold Spool.deliver
    obtain ⟨haccept, hall⟩ | ⟨n, hn, hshort, haccept⟩ := accept_eq hlimit s.buffer
    · rw [haccept]
      exact .going ((List.append_nil _).trans htext) (htext ▸ hall)
    · rw [haccept]
      exact .failed hn (htext ▸ hshort) (htext ▸ rfl)

theorem Progressed.andThen {next : Spool → Progress} (h : Progressed sink text p)
    (hnext : ∀ s, Progressed sink text (s, .ok ()) → Progressed sink (text ++ more) (next s)) :
    Progressed sink (text ++ more) (p.andThen next) := by
  cases h with
  | going htext hlimit => exact hnext _ (.going htext hlimit)
  | failed hn hshort hreceived =>
    refine .failed hn ?_ ?_
    · rw [List.length_append]
      omega
    · rw [List.take_append_of_le_length (Nat.le_of_lt hshort), hreceived]

theorem progressed_append (h : Progressed sink text (s, .ok ())) (piece : Bytes) :
    Progressed sink (text ++ piece) (s.append piece, .ok ()) := by
  cases h with
  | going htext hlimit =>
    exact .going (by rw [← htext, List.append_assoc]; rfl) hlimit

theorem progressed_put (h : Progressed sink text (s, .ok ())) (piece : Bytes) :
    Progressed sink (text ++ piece) (s.put capacity sink piece) := by
  unfold Spool.put
  split_ifs
  · exact progressed_append h piece
  · exact (progressed_deliver h).andThen fun _ hs => progressed_append hs piece

/-! ## Runs -/

variable (capacity) in
theorem progressed_putAll (h : Progressed sink text (s, .ok ())) (pieces : List Bytes) :
    Progressed sink (text ++ pieces.flatten) (s.putAll capacity sink pieces) := by
  induction pieces generalizing s text with
  | nil => rwa [List.flatten_nil, List.append_nil]
  | cons piece pieces ih =>
    rw [List.flatten_cons, ← List.append_assoc]
    exact (progressed_put h piece).andThen fun _ hs => ih hs

variable (capacity) in
theorem progressed_spoolOnto (h : Progressed sink text (s, .ok ())) (rows : List OutputRow) :
    Progressed sink (text ++ encode (rows.flatMap fun r => writeRecord r.cells))
      (spoolOnto capacity sink s false rows) := by
  induction rows generalizing s text with
  | nil => rwa [List.flatMap_nil, show encode [] = [] from rfl, List.append_nil]
  | cons r rows ih =>
    have hrow := progressed_putAll capacity h (recordPieces r.cells)
    rw [flatten_recordPieces] at hrow
    rw [List.flatMap_cons, encode_append, ← List.append_assoc]
    exact hrow.andThen fun _ hs => ih hs

variable (capacity sink) in
/-- The header goes in front of the first row. -/
theorem progressed_spoolOnto_first (rows : List OutputRow) :
    Progressed sink (encode (renderRows rows)) (spoolOnto capacity sink {} true rows) := by
  have hstart : Progressed sink [] (({} : Spool), .ok ()) := .going rfl fun _ _ => Nat.zero_le _
  cases rows with
  | nil => exact hstart
  | cons r rows =>
    have hfirst := progressed_putAll capacity hstart
      (recordPieces outputHeader ++ recordPieces r.cells)
    rw [List.nil_append, List.flatten_append, flatten_recordPieces, flatten_recordPieces] at hfirst
    rw [renderRows, List.map_cons, writeTable, List.flatMap_cons, List.flatMap_cons,
      ← List.append_assoc, encode_append, encode_append, List.flatMap_map]
    exact hfirst.andThen fun _ hs => progressed_spoolOnto capacity hs rows

/-! ## The whole output -/

theorem flush_eq (h : Progressed sink text p) :
    p.andThen (·.deliver sink) = ({ received := text }, .ok ()) ∧
        sink.Takes text ∨
      ∃ s n, sink.limit = some n ∧ n < text.length ∧ s.received = text.take n ∧
        p.andThen (·.deliver sink) = (s, .error sink.failure) := by
  cases h with
  | failed hn hshort hreceived => exact .inr ⟨_, _, hn, hshort, hreceived, rfl⟩
  | @going s htext hlimit =>
    obtain ⟨haccept, hall⟩ | ⟨n, hn, hshort, haccept⟩ := accept_eq hlimit s.buffer
    · refine .inl ⟨?_, htext ▸ hall⟩
      rw [Progress.andThen, Spool.deliver, haccept, htext]
    · refine .inr ⟨{ s with received := text.take n }, n, hn, htext ▸ hshort, rfl, ?_⟩
      rw [Progress.andThen, Spool.deliver, haccept, htext]

theorem received_deliver (h : s.buffer = [] ∨ sink.limit = some s.received.length) :
    (s.deliver sink).1.received = s.received := by
  have haccept : (sink.accept s.received s.buffer).1 = s.received := by
    unfold ByteSink.accept
    obtain hnil | hfull := h
    · split
      · rw [hnil, List.append_nil]
      · split_ifs <;> simp [hnil]
    · simp only [hfull]
      split_ifs with hfits
      · rw [List.eq_nil_of_length_eq_zero (by omega : s.buffer.length = 0), List.append_nil]
      · rw [Nat.sub_self, List.take_zero, List.append_nil]
  unfold Spool.deliver
  split <;> rename_i hresult <;> rw [← haccept, hresult]

theorem writeRows_of_takes {destination : Path} {rows : List OutputRow}
    (h : sink.Takes (encode (renderRows rows))) :
    writeRows sink destination rows = (encode (renderRows rows), .ok ()) := by
  unfold writeRows
  cases hlimit : sink.limit with
  | none => rfl
  | some n => exact if_pos (h n hlimit)

theorem writeRows_of_lt {destination : Path} {rows : List OutputRow} {n : Nat}
    (hn : sink.limit = some n) (h : n < (encode (renderRows rows)).length) :
    writeRows sink destination rows =
      ((encode (renderRows rows)).take n, .error (.output destination sink.failure)) := by
  unfold writeRows
  rw [hn]
  exact if_neg (Nat.not_le_of_lt h)

/-- **What becomes of the output does not hang on the buffer.** -/
theorem spoolRows_eq (capacity : Nat) (sink : ByteSink) (destination : Path)
    (rows : List OutputRow) :
    spoolRows capacity sink destination rows = writeRows sink destination rows := by
  unfold spoolRows
  obtain ⟨hflush, hall⟩ | ⟨s, n, hn, hshort, hreceived, hflush⟩ :=
    flush_eq (progressed_spoolOnto_first capacity sink rows)
  · rw [hflush, writeRows_of_takes hall]
    exact Prod.ext (received_deliver (.inl rfl)) rfl
  · have hfull : s.received.length = n := by
      rw [hreceived, List.length_take]
      omega
    rw [hflush, writeRows_of_lt hn hshort, ← hreceived]
    exact Prod.ext (received_deliver (.inr (hfull ▸ hn))) rfl

/-- **All of the output, or a failure**, through a buffer of any capacity. -/
theorem spoolRows_all_or_failure (capacity k : Nat) (failure : AccessFailure) (destination : Path)
    (rows : List OutputRow) :
    ∃ received result, spoolRows capacity ⟨some k, failure⟩ destination rows = (received, result) ∧
      writeRows ⟨some k, failure⟩ destination rows = (received, result) ∧
      received <+: encode (renderRows rows) ∧
      received.length = min k (encode (renderRows rows)).length ∧
      (result = .ok () ↔ received = encode (renderRows rows)) ∧
      (result = .ok () ↔ (encode (renderRows rows)).length ≤ k) ∧
      (result ≠ .ok () → result = .error (.output destination failure)) := by
  rw [spoolRows_eq]
  by_cases hfits : (encode (renderRows rows)).length ≤ k
  · have hwritten : writeRows ⟨some k, failure⟩ destination rows = _ :=
      writeRows_of_takes ((ByteSink.takes_iff_of_some rfl).mpr hfits)
    exact ⟨_, _, hwritten, hwritten, List.prefix_rfl, (Nat.min_eq_right hfits).symm, by simp,
      by simp [hfits], by simp⟩
  · have hshort : k < (encode (renderRows rows)).length := Nat.lt_of_not_le hfits
    have hwritten : writeRows ⟨some k, failure⟩ destination rows = _ := writeRows_of_lt rfl hshort
    have hpart : (encode (renderRows rows)).take k ≠ encode (renderRows rows) := by
      intro h
      have hlength := congrArg List.length h
      rw [List.length_take] at hlength
      omega
    exact ⟨_, _, hwritten, hwritten, List.take_prefix _ _, List.length_take, by simp [hpart],
      by simp [hfits], fun _ => rfl⟩

/-- A buffer of eight bytes in front of a sink that fails within the header: nothing of the row is
delivered. -/
example :
    spoolRows 8 ⟨some 20, notText⟩ ⟨"o"⟩ [⟨"a", "b", "c"⟩] =
      (encode "A (filename),B (test".toList, .error (.output ⟨"o"⟩ notText)) := by
  rfl

end TestLocator.Batch
