import PeerLink.Toml.Quoted
import PeerLink.Toml.Scalar

/-!
Keys and values. Arrays and tables between braces nest up to a limit, and a key has fewer steps
than a limit, so no document leads deeper than that.
-/

set_option autoImplicit false
set_option relaxedAutoImplicit false

namespace PeerLink.Toml

open Text (Reader)

/-- How deep brackets and braces nest, and how many steps a key has at most. -/
def depthLimit : Nat := 79

def isBareChar (char : Char) : Bool := char.isAlphanum || char == '_' || char == '-'

/-- One step of a key, bare or quoted on one line. -/
def step : Reader String
  | '"' :: rest => basic rest
  | '\'' :: rest => literal rest
  | text =>
    let name := text.takeWhile isBareChar
    if name.isEmpty then none else some (String.ofList name, text.dropWhile isBareChar)

/-- A step with the blanks around it. -/
def spacedStep : Reader String := fun text ↦
  (step (skipBlanks text)).map fun (name, rest) ↦ (name, skipBlanks rest)

/-- The way to an entry and the name it has there. -/
structure Key where
  path : List String
  name : String
  deriving DecidableEq

/-- Steps with dots between them. -/
def Key.reader : Reader Key := fun text ↦ do
  let (first, rest) ← spacedStep text
  let (others, rest) := Reader.many (fun text ↦ (Reader.skip? ['.'] text).bind spacedStep) rest
  let steps := first :: others
  if steps.length ≤ depthLimit then
    some (⟨steps.dropLast, steps.getLast (by simp [steps])⟩, rest)
  else none

/-- A key, an equals sign and what `value` reads, with blanks before it. -/
def assignment (value : Reader Value) : Reader (Key × Value) := fun text ↦ do
  let (key, rest) ← Key.reader text
  let rest ← Reader.skip? ['='] rest
  let (value, rest) ← value (skipBlanks rest)
  return ((key, value), rest)

/-- The elements of an array behind its opening bracket. A comma may follow the last one. -/
def array (element : Reader Value) : Reader Value := fun text ↦ do
  let spaced : Reader Value := fun text ↦
    (element (skipGap text)).map fun (value, rest) ↦ (value, skipGap rest)
  let (items, rest) := Reader.listed spaced text
  let rest := if items.isEmpty then rest else (Reader.skip? [','] rest).getD rest
  let rest ← Reader.skip? [']'] (skipGap rest)
  return (.array items, rest)

/-- The entries of a table behind its opening brace. -/
def inlineTable (element : Reader Value) : Reader Value := fun text ↦ do
  let spaced : Reader (Key × Value) := fun text ↦
    (assignment element text).map fun (entry, rest) ↦ (entry, skipBlanks rest)
  let (entries, rest) := Reader.listed spaced text
  let rest ← Reader.skip? ['}'] (skipBlanks rest)
  let table ← entries.foldlM
    (fun (table : Table) (key, value) ↦ table.assign key.path key.name value .inline) []
  return (.table .inline table, rest)

/-- A value with no more than so many brackets and braces around another. -/
def element (depth : Nat) : Reader Value := fun text ↦
  match text with
  | '"' :: _ | '\'' :: _ => (quoted text).map fun (value, rest) ↦ (.string value, rest)
  | '[' :: rest =>
    match depth with
    | 0 => none
    | depth + 1 => array (element depth) rest
  | '{' :: rest =>
    match depth with
    | 0 => none
    | depth + 1 => inlineTable (element depth) rest
  | _ => Scalar.reader text

end PeerLink.Toml
