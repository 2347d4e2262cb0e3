import PeerLink.Decimal.Binary64

/-!
The data of a configuration document: tables keep their entries in the order in which they were
written, and remember how they came about, because that decides what may still be added to them.
-/

set_option autoImplicit false
set_option relaxedAutoImplicit false

namespace PeerLink.Toml

/-- How a table was written: between braces, under a header of its own, as a step on the way of
another header, or by keys with dots. -/
inductive Origin where
  | inline
  | header
  | implied
  | dotted
  deriving DecidableEq

/-- A date or a time keeps nothing: settings have no use for one. -/
inductive Value where
  | boolean (value : Bool)
  | integer (value : Int)
  | float (value : Binary64)
  | string (value : String)
  | moment
  | array (items : List Value)
  | table (origin : Origin) (entries : List (String × Value))
  | tables (elements : List (List (String × Value)))

/-- Entries under distinct keys, the first written first. -/
abbrev Table := List (String × Value)

/-- A document holds the integers of 64 bits, one of them the sign: this is their least. -/
def leastInteger : Int := -9223372036854775808

def greatestInteger : Int := 9223372036854775807

namespace Table

/-- The entry is new, unless the key is taken. -/
def add? (key : String) (value : Value) (table : Table) : Option Table :=
  match table.lookup key with
  | some _ => none
  | none => some (table ++ [(key, value)])

/-- The value under a key that is there, replaced in its place. -/
def set (key : String) (value : Value) (table : Table) : Table :=
  table.map fun entry ↦ if entry.1 == key then (key, value) else entry

def erase (key : String) (table : Table) : Table :=
  table.filter fun entry ↦ entry.1 != key

end Table

/-- Which tables a path may lead through: a header passes all but those between braces, a dotted
key only those that no header has claimed. -/
inductive Way where
  | header
  | dotted
  deriving DecidableEq

namespace Way

def passes : Way → Origin → Bool
  | header, origin => origin != .inline
  | dotted, origin => origin == .implied || origin == .dotted

/-- What a missing table on the way becomes. -/
def creates : Way → Origin
  | header => .implied
  | dotted => .dotted

end Way

namespace Table

/-- The change made to the table that `path` leads to. The way through an array of tables leads to
its last element. -/
def alter (way : Way) (change : Origin → Table → Option Table) :
    List String → Origin → Table → Option Table
  | [], origin, table => change origin table
  | key :: path, _, table =>
    match table.lookup key with
    | none => do
      let inner ← alter way change path way.creates []
      return table ++ [(key, .table way.creates inner)]
    | some (.table origin inner) =>
      if way.passes origin then do
        return table.set key (.table origin (← alter way change path origin inner))
      else none
    | some (.tables elements) => do
      let last ← alter way change path .header (← elements.getLast?)
      return table.set key (.tables (elements.dropLast ++ [last]))
    | some _ => none

/-- An entry under a dotted key. A path must end in a table that dotted keys made. -/
def assign (path : List String) (key : String) (value : Value) (origin : Origin) (table : Table) :
    Option Table :=
  table.alter .dotted
    (fun reached table ↦
      if path.isEmpty || reached == .dotted then table.add? key value else none)
    path origin

/-- A header claims a table once; one that other headers have implied moves to the end. -/
def claim (key : String) (table : Table) : Option Table :=
  match table.lookup key with
  | none => some (table ++ [(key, .table .header [])])
  | some (.table .implied entries) => some (table.erase key ++ [(key, .table .header entries)])
  | some _ => none

/-- One more element of an array of tables, which the first one starts. -/
def extend (key : String) (table : Table) : Option Table :=
  match table.lookup key with
  | none => some (table ++ [(key, .tables [[]])])
  | some (.tables elements) => some (table.set key (.tables (elements ++ [[]])))
  | some _ => none

end Table

end PeerLink.Toml
