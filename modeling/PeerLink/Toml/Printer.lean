import PeerLink.Toml.Value

/-!
Writing settings down: sections under headers with a blank line between them, a line for each
entry, and every text basic and on one line.
-/

set_option autoImplicit false
set_option relaxedAutoImplicit false

namespace PeerLink.Toml

/-- A value of a single word or text. -/
inductive Atom where
  | boolean (value : Bool)
  | integer (value : Int)
  | string (value : String)
  deriving DecidableEq

def Atom.value : Atom → Value
  | boolean value => .boolean value
  | integer value => .integer value
  | string value => .string value

/-- Whether a document can hold the value. -/
def Atom.fits : Atom → Bool
  | integer value => leastInteger ≤ value && value ≤ greatestInteger
  | _ => true

namespace Printer

/-- The code of a character in at least four upper-case digits. -/
def code (char : Char) : List Char :=
  let digits := (Nat.toDigits 16 char.toNat).map Char.toUpper
  List.replicate (4 - digits.length) '0' ++ digits

/-- A character of a basic text. -/
def character (char : Char) : List Char :=
  match char with
  | '\x08' => ['\\', 'b']
  | '\t' => ['\\', 't']
  | '\n' => ['\\', 'n']
  | '\x0c' => ['\\', 'f']
  | '\r' => ['\\', 'r']
  | '"' => ['\\', '"']
  | '\\' => ['\\', '\\']
  | char => if char < ' ' || char == '\x7f' then '\\' :: 'u' :: code char else [char]

def basic (text : String) : List Char := '"' :: text.toList.flatMap character ++ ['"']

def atom : Atom → List Char
  | .boolean value => if value then "true".toList else "false".toList
  | .integer value =>
    if value < 0 then '-' :: Nat.toDigits 10 value.natAbs else Nat.toDigits 10 value.natAbs
  | .string value => basic value

def entry (entry : String × Atom) : List Char :=
  entry.1.toList ++ " = ".toList ++ atom entry.2 ++ ['\n']

end Printer

/-- A named group of entries. -/
structure Section where
  name : String
  entries : List (String × Atom)

namespace Section

def print (part : Section) : List Char :=
  '[' :: part.name.toList ++ "]\n".toList ++ part.entries.flatMap Printer.entry

def fits (part : Section) : Bool := part.entries.all fun entry ↦ entry.2.fits

/-- The document of some sections, if a document can hold all their values. -/
def document? (sections : List Section) : Option String :=
  if sections.all fits then
    some (String.ofList (List.intercalate ['\n'] (sections.map print)))
  else none

end Section

end PeerLink.Toml
