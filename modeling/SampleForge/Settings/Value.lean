import SampleForge.Numeric.Binary64

/-!
# Values of a settings file

A settings file is a TOML 1.0 document.  Its tables keep their entries in the order in which the file
brings them up, and every table remembers how it came into being, because that decides what may still
be added to it.  Dates and times are recognised but not kept: no setting has such a value.
-/

namespace SampleForge.Settings

open Numeric

/-- How a table came into being. -/
inductive TableKind where
  /-- By the header of a table inside it. -/
  | implied
  /-- By a dotted key. -/
  | dotted
  /-- By a header of its own. -/
  | defined
  /-- In braces; such a table is complete. -/
  | inline
deriving DecidableEq

/-- A value of a settings file. -/
inductive Value where
  | integer (value : Int)
  | float (value : Binary64)
  | boolean (value : Bool)
  | text (value : String)
  | dateTime
  | array (items : List Value)
  | table (kind : TableKind) (entries : List (String × Value))
  /-- Tables made one by one under the same header, the latest first. -/
  | tables (latest : List (List (String × Value)))

/-- The entries of a table, in order. -/
abbrev Entries := List (String × Value)

/-- A table that may still grow. -/
structure Table where
  kind : TableKind
  entries : Entries

namespace Entries

def replace (entries : Entries) (key : String) (value : Value) : Entries :=
  entries.map fun entry => if entry.1 = key then (key, value) else entry

def remove (entries : Entries) (key : String) : Entries :=
  entries.filter fun entry => entry.1 ≠ key

end Entries

namespace Table

def empty (kind : TableKind) : Table := ⟨kind, []⟩

def find? (table : Table) (key : String) : Option Value :=
  table.entries.lookup key

def append (table : Table) (key : String) (value : Value) : Table :=
  { table with entries := table.entries ++ [(key, value)] }

def replace (table : Table) (key : String) (value : Value) : Table :=
  { table with entries := Entries.replace table.entries key value }

def toValue (table : Table) : Value := .table table.kind table.entries

/-- Changes the table at the end of a path and hands on what the change brings to light.  Tables
missing on the way are made; a path through tables that were made one by one goes through the latest.
A dotted path does not enter a table that has a header of its own, and nothing enters a table in
braces or a value that is no table. -/
def update {α : Type} (viaDots : Bool) (change : Table → Option (α × Table)) :
    List String → Table → Option (α × Table)
  | [], table => change table
  | key :: path, table =>
    match table.find? key with
    | none => do
      let (a, inner) ← update viaDots change path (empty (if viaDots then .dotted else .implied))
      some (a, table.append key inner.toValue)
    | some (.table kind entries) =>
      if kind = .inline ∨ (viaDots = true ∧ kind = .defined) then none
      else do
        let (a, inner) ← update viaDots change path ⟨kind, entries⟩
        some (a, table.replace key inner.toValue)
    | some (.tables (latest :: earlier)) => do
      let (a, inner) ← update viaDots change path ⟨.defined, latest⟩
      some (a, table.replace key (.tables (inner.entries :: earlier)))
    | some _ => none

/-- Sets a key that must be new.  After a dotted path the table must have been made by one, without
a path it must not. -/
def define (dottedPath : Bool) (key : String) (value : Value) (table : Table) :
    Option (Unit × Table) :=
  if decide (table.kind = .dotted) = dottedPath ∧ (table.find? key).isNone then
    some ((), table.append key value)
  else none

/-- Sets the key at the end of a dotted path. -/
def insert (path : List String) (key : String) (value : Value) (table : Table) : Option Table :=
  (table.update true (define (!path.isEmpty) key value) path).map Prod.snd

/-- Takes an implied table out, to go on with it under its own header: hands on its entries.  Any other
value under the key forbids the header. -/
def detach (key : String) (table : Table) : Option (Entries × Table) :=
  match table.find? key with
  | none => some ([], table)
  | some (.table .implied entries) =>
    some (entries, { table with entries := Entries.remove table.entries key })
  | some _ => none

/-- Puts a finished table under its key; only an implied table may stand there already. -/
def attach (key : String) (finished : Entries) (table : Table) : Option (Unit × Table) :=
  match table.find? key with
  | none => some ((), table.append key (.table .defined finished))
  | some (.table .implied _) => some ((), table.replace key (.table .defined finished))
  | some _ => none

/-- Adds a finished table to those made one by one under a key. -/
def attachOne (key : String) (finished : Entries) (table : Table) : Option (Unit × Table) :=
  match table.find? key with
  | none => some ((), table.append key (.tables [finished]))
  | some (.tables earlier) => some ((), table.replace key (.tables (finished :: earlier)))
  | some _ => none

end Table
end SampleForge.Settings
