import PeerLink.Text.Number
import PeerLink.Toml.Blank

/-!
Quoted texts: basic ones between double quotes, with escapes, and literal ones between single
quotes, without. Between three quotes both may span lines, a line end right behind the opening is
left out, every line end is a line feed, and one or two quotes may stand anywhere, even in front of
the closing.
-/

set_option autoImplicit false
set_option relaxedAutoImplicit false

namespace PeerLink.Toml

open Text (Reader)

/-- The character with the code that so many hexadecimal digits write. -/
def coded (width : Nat) : Reader Char := fun text ↦ do
  let digits := text.take width
  let code ← Text.number? 16 digits
  if digits.length = width ∧ code.isValidChar then
    some (Char.ofNat code, text.drop width)
  else none

/-- An escape, behind its backslash. -/
def escape : Reader Char
  | 'b' :: rest => some ('\x08', rest)
  | 't' :: rest => some ('\t', rest)
  | 'n' :: rest => some ('\n', rest)
  | 'f' :: rest => some ('\x0c', rest)
  | 'r' :: rest => some ('\r', rest)
  | '"' :: rest => some ('"', rest)
  | '\\' :: rest => some ('\\', rest)
  | 'u' :: rest => coded 4 rest
  | 'U' :: rest => coded 8 rest
  | _ => none

def basicChar : Reader Char
  | '\\' :: rest => escape rest
  | char :: rest => if isPlain char && char != '"' then some (char, rest) else none
  | [] => none

/-- A basic text on one line, behind its opening quote. -/
def basic : Reader String := fun text ↦
  match Reader.many basicChar text with
  | (content, '"' :: rest) => some (String.ofList content, rest)
  | _ => none

/-- A literal text on one line, behind its opening quote. -/
def literal : Reader String := fun text ↦
  let inside := fun char ↦ isPlain char && char != '\''
  match text.dropWhile inside with
  | '\'' :: rest => some (String.ofList (text.takeWhile inside), rest)
  | _ => none

/-- The text behind the line end, and all further space, that a backslash takes out. -/
def continuation? (text : List Char) : Option (List Char) :=
  (newline? (skipBlanks text)).map skipSpace

/-- A piece of a text over several lines: a line end, or a character, or a quote that does not
begin three of them. -/
def linesPart (quote : Char) : Reader (List Char) := fun text ↦
  match text with
  | [] => none
  | char :: rest =>
    if char = quote then
      if [quote, quote].isPrefixOf rest then none else some ([quote], rest)
    else if isPlain char then some ([char], rest)
    else (newline? text).map (['\n'], ·)

/-- A piece of a basic text over several lines. -/
def basicLinesPart : Reader (List Char)
  | '\\' :: rest =>
    match continuation? rest with
    | some rest => some ([], rest)
    | none => (escape rest).map fun (char, rest) ↦ ([char], rest)
  | text => linesPart '"' text

/-- The quotes that close a text over several lines; up to two in front of the last three belong to
the text. -/
def closing (quote : Char) : Reader (List Char) := fun text ↦
  let count := (text.takeWhile (· == quote)).length
  if count < 3 then none
  else
    let kept := min (count - 3) 2
    some (List.replicate kept quote, text.drop (kept + 3))

/-- A text over several lines, behind its opening quotes. -/
def lines (quote : Char) (part : Reader (List Char)) : Reader String := fun text ↦ do
  let (parts, rest) := Reader.many part ((newline? text).getD text)
  let (last, rest) ← closing quote rest
  return (String.ofList (parts.flatten ++ last), rest)

/-- A quoted text of any of the four kinds. -/
def quoted : Reader String
  | '"' :: '"' :: '"' :: rest => lines '"' basicLinesPart rest
  | '"' :: rest => basic rest
  | '\'' :: '\'' :: '\'' :: rest => lines '\'' (linesPart '\'') rest
  | '\'' :: rest => literal rest
  | _ => none

end PeerLink.Toml
