import TestLocator.Parsing.Parser
import TestLocator.Parsing.Shown
import TestLocator.Script.EcmaGrammar
import TestLocator.Script.TypedGrammar
import TestLocator.Script.Scanner
import TestLocator.Syntax.Language

/-!
# Parsers of scripts

* `parserTables` — the tables of each language, which are made when they are first needed;
* **`concreteTree`** — the concrete tree of a script.
-/

namespace TestLocator.Script

open TestLocator.Parsing TestLocator.Syntax

/-- The tables of plain scripts. -/
def plainTables : Thunk Tables := Thunk.mk fun _ => Tables.ofGrammar ecmaGrammar

/-- The tables of typed scripts. -/
def typedTables : Thunk Tables := Thunk.mk fun _ => Tables.ofGrammar (typedGrammar .plain)

/-- The tables of typed scripts with elements. -/
def elementTables : Thunk Tables := Thunk.mk fun _ => Tables.ofGrammar (typedGrammar .elements)

/-- The tables of a language. -/
def parserTables : Language → Tables
  | .javaScript => plainTables.get
  | .typeScript => typedTables.get
  | .tsx => elementTables.get

/-- The scanner of a language. -/
def scannerOf : Language → External
  | .javaScript => plainScanner
  | .typeScript | .tsx => typedScanner

/-- The concrete tree of a script, with at most so many levels below its root. -/
def concreteTree (language : Language) (src : Source) (levels : Nat) : Option Concrete :=
  let tables := parserTables language
  (tables.parse (scannerOf language) src).map (Concrete.ofTree tables src levels)

end TestLocator.Script
