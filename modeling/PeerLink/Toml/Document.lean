import PeerLink.Toml.Element

/-!
Whole documents: lines of assignments, each to the table of the last header before it. `parse?`
gives the table a document stands for, or nothing if it breaks a rule of the format.
-/

set_option autoImplicit false
set_option relaxedAutoImplicit false

namespace PeerLink.Toml

open Text (Reader)

inductive Statement where
  | entry (key : Key) (value : Value)
  | header (key : Key)
  | element (key : Key)

namespace Statement

def reader : Reader Statement
  | '[' :: '[' :: rest => do
    let (key, rest) ← Key.reader rest
    return (element key, ← Reader.skip? [']', ']'] rest)
  | '[' :: rest => do
    let (key, rest) ← Key.reader rest
    return (header key, ← Reader.skip? [']'] rest)
  | text => (assignment (Toml.element depthLimit) text).map fun ((key, value), rest) ↦
    (entry key value, rest)

/-- A line, with a statement or without. -/
def line : Reader (Option Statement) := fun text ↦
  match endLine? text with
  | some rest => some (none, rest)
  | none => do
    let (statement, rest) ← reader (skipBlanks text)
    return (some statement, ← endLine? rest)

end Statement

/-- The statements of a document, which may start with a byte order mark. -/
def statements? (text : List Char) : Option (List Statement) :=
  let text := (Reader.skip? ['\ufeff'] text).getD text
  match Reader.many Statement.line text with
  | (lines, []) => some (lines.filterMap id)
  | _ => none

/-- A document as far as it has been read: all its tables, and the path of the one that is being
filled. -/
structure Draft where
  root : Table := []
  current : List String := []

namespace Draft

def apply (draft : Draft) : Statement → Option Draft
  | .entry key value => do
    let change := Table.assign key.path key.name value
    return { draft with root := ← draft.root.alter .header change draft.current .header }
  | .header key => do
    let root ← draft.root.alter .header (fun _ table ↦ table.claim key.name) key.path .header
    return ⟨root, key.path ++ [key.name]⟩
  | .element key => do
    let root ← draft.root.alter .header (fun _ table ↦ table.extend key.name) key.path .header
    return ⟨root, key.path ++ [key.name]⟩

end Draft

def parse? (text : String) : Option Table := do
  let statements ← statements? text.toList
  let draft ← statements.foldlM Draft.apply {}
  return draft.root

end PeerLink.Toml
