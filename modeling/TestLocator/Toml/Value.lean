/-!
# Values of configuration files

* `Origin`, `Value`, `Entries` — values, and how a table has come about;
* `insertPair` — put a value under a dotted key;
* `updateTable`, `openTable`, `openItem` — what the headers of a document do.
-/

namespace TestLocator.Toml

/-- How a table has come about, which tells whether it may grow. -/
inductive Origin where
  /-- Written as a value; it does not grow. -/
  | inline
  /-- Opened by a header. -/
  | header
  /-- Above a table that a header opens. -/
  | implied
  /-- Above the last part of a dotted key. -/
  | dotted
  deriving DecidableEq, Repr, Inhabited

/-- A value. -/
inductive Value where
  | string (s : String)
  | integer (n : Int)
  | float
  | boolean (b : Bool)
  | dateTime
  | array (items : List Value)
  /-- Tables that headers open one after the other. -/
  | tables (items : List Value)
  | table (origin : Origin) (entries : List (String × Value))
  deriving Repr, Inhabited

/-- The entries of a table. -/
abbrev Entries := List (String × Value)

/-- Change the value of a key, or add one. -/
def setEntry (key : String) (v : Value) : Entries → Entries
  | [] => [(key, v)]
  | (k, w) :: es => if k = key then (k, v) :: es else (k, w) :: setEntry key v es

/-- Put a value under a dotted key. A key has one value, and a dotted key reaches only into tables
that dotted keys have made, or through those that are implied. -/
def insertPair : List String → Value → Entries → Option Entries
  | [], _, _ => none
  | [key], v, es => if (es.lookup key).isSome then none else some (es ++ [(key, v)])
  | key :: k :: ks, v, es =>
    match es.lookup key with
    | none => (insertPair (k :: ks) v []).map fun t => es ++ [(key, .table .dotted t)]
    | some (.table .dotted t) =>
      (insertPair (k :: ks) v t).map fun t => setEntry key (.table .dotted t) es
    | some (.table .implied t) =>
      if ks.isEmpty then none
      else (insertPair (k :: ks) v t).map fun t => setEntry key (.table .implied t) es
    | some (.tables items) =>
      if ks.isEmpty then none
      else
        match items.getLast? with
        | some (.table origin t) =>
          (insertPair (k :: ks) v t).map fun t =>
            setEntry key (.tables (items.dropLast ++ [.table origin t])) es
        | _ => none
    | some _ => none

/-- Change the entries of the table at a path of a header. Tables on the way are implied if they are
not there; of several tables the last one counts. -/
def updateTable (f : Entries → Option Entries) : List String → Entries → Option Entries
  | [], es => f es
  | key :: ks, es =>
    match es.lookup key with
    | none => (updateTable f ks []).map fun t => es ++ [(key, .table .implied t)]
    | some (.table .inline _) => none
    | some (.table origin t) =>
      (updateTable f ks t).map fun t => setEntry key (.table origin t) es
    | some (.tables items) =>
      match items.getLast? with
      | some (.table origin t) =>
        (updateTable f ks t).map fun t =>
          setEntry key (.tables (items.dropLast ++ [.table origin t])) es
      | _ => none
    | some _ => none

/-- Open a table under a key, which may be implied already but nothing else. -/
def openTable (key : String) (es : Entries) : Option Entries :=
  match es.lookup key with
  | none => some (es ++ [(key, .table .header [])])
  | some (.table .implied t) => some (setEntry key (.table .header t) es)
  | some _ => none

/-- Open one more table among those under a key. -/
def openItem (key : String) (es : Entries) : Option Entries :=
  match es.lookup key with
  | none => some (es ++ [(key, .tables [.table .header []])])
  | some (.tables items) => some (setEntry key (.tables (items ++ [.table .header []])) es)
  | some _ => none

end TestLocator.Toml
