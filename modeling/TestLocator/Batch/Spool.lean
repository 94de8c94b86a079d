import TestLocator.Batch.Table

/-!
# Spooled output

A sink does not get the output byte by byte. The bytes gather in a buffer, which is delivered when
something does not fit into it any more, and again at the end.

* `ByteSink.accept` — what a sink takes of some bytes;
* `Spool`, `Spool.deliver`, `Spool.put` — a buffer in front of a sink;
* `fieldPieces`, `recordPieces` — the pieces of a record, each of which is put as a whole;
* **`spoolRows`** — writing the rows of an output through a buffer.
-/

namespace TestLocator.Batch

open TestLocator.Csv TestLocator.Files TestLocator.Text

/-- Give bytes to a sink that has taken some already. It takes as many as it may and fails if these
are not all: what it has then, and how it went. -/
def ByteSink.accept (sink : ByteSink) (received bs : Bytes) : Bytes × Except AccessFailure Unit :=
  match sink.limit with
  | none => (received ++ bs, .ok ())
  | some n =>
    if received.length + bs.length ≤ n then (received ++ bs, .ok ())
    else (received ++ bs.take (n - received.length), .error sink.failure)

/-- What a sink has taken, and what is still in the buffer. -/
structure Spool where
  received : Bytes := []
  buffer : Bytes := []
  deriving DecidableEq, Inhabited

/-- How far the output has come, and whether it goes on. -/
abbrev Progress := Spool × Except AccessFailure Unit

/-- Go on unless something has failed. -/
def Progress.andThen : Progress → (Spool → Progress) → Progress
  | (s, .ok ()), next => next s
  | (s, .error e), _ => (s, .error e)

namespace Spool

/-- Deliver the buffer. If the sink does not take all of it, it is kept as it is. -/
def deliver (sink : ByteSink) (s : Spool) : Progress :=
  match sink.accept s.received s.buffer with
  | (received, .ok ()) => ({ received }, .ok ())
  | (received, .error e) => ({ s with received }, .error e)

/-- Put a piece behind what is in the buffer. -/
def append (s : Spool) (piece : Bytes) : Spool := { s with buffer := s.buffer ++ piece }

/-- Put a piece into a buffer of some capacity. One that does not fit waits until the buffer is
delivered. -/
def put (capacity : Nat) (sink : ByteSink) (s : Spool) (piece : Bytes) : Progress :=
  if s.buffer.length + piece.length ≤ capacity then (s.append piece, .ok ())
  else (s.deliver sink).andThen fun s => (s.append piece, .ok ())

/-- Put some pieces into the buffer, one after the other. -/
def putAll (capacity : Nat) (sink : ByteSink) (s : Spool) : List Bytes → Progress
  | [] => (s, .ok ())
  | piece :: pieces => (s.put capacity sink piece).andThen fun s => putAll capacity sink s pieces

end Spool

/-- The pieces of a field: its bytes, and two quotes at once for each quote in it. -/
def fieldPieces (field : List Char) : List Bytes :=
  if needsQuotes field then
    [encode ['"']] ++
      (field.flatMap fun c => if c = '"' then [encode ['"', '"']] else (encode [c]).map ([·])) ++
      [encode ['"']]
  else (encode field).map ([·])

/-- The pieces of a record with its line end. -/
def recordPieces (fields : List (List Char)) : List Bytes :=
  [encode [',']].intercalate (fields.map fieldPieces) ++ [encode ['\n']]

/-- Put rows into the buffer, one after the other; the header goes in front of the first of all
rows. -/
def spoolOnto (capacity : Nat) (sink : ByteSink) (s : Spool) (isFirst : Bool) :
    List OutputRow → Progress
  | [] => (s, .ok ())
  | r :: rows =>
    let header := if isFirst then recordPieces outputHeader else []
    (s.putAll capacity sink (header ++ recordPieces r.cells)).andThen fun s =>
      spoolOnto capacity sink s false rows

/-- Write rows to a sink through a buffer: what the sink has taken, and whether that was all. After
the last row the buffer is delivered. It is delivered once more when it is given up, however the
writing has ended. -/
def spoolRows (capacity : Nat) (sink : ByteSink) (destination : Path) (rows : List OutputRow) :
    Bytes × Except BatchFailure Unit :=
  let (s, result) := (spoolOnto capacity sink {} true rows).andThen (·.deliver sink)
  let (s, _) := s.deliver sink
  (s.received, result.mapError (.output destination))

end TestLocator.Batch
