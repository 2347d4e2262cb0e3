import PeerLink.Text.Reader

/-!
What stands between the parts of a document: blanks, line ends and comments. A carriage return
counts only in front of a line feed.
-/

set_option autoImplicit false
set_option relaxedAutoImplicit false

namespace PeerLink.Toml

open Text (Reader)

/-- A character that may stand in a comment or a text: none of the controls but the tab. -/
def isPlain (char : Char) : Bool := char == '\t' || (' ' ≤ char && char != '\x7f')

def isBlank (char : Char) : Bool := char == ' ' || char == '\t'

def skipBlanks (text : List Char) : List Char := text.dropWhile isBlank

/-- The text behind a line end. -/
def newline? : List Char → Option (List Char)
  | '\n' :: rest => some rest
  | '\r' :: '\n' :: rest => some rest
  | _ => none

/-- The text behind the blanks and line ends at its front. -/
def skipSpace : List Char → List Char
  | [] => []
  | '\r' :: '\n' :: rest => skipSpace rest
  | char :: rest => if isBlank char || char == '\n' then skipSpace rest else char :: rest

/-- The text behind the rest of a comment. -/
def skipComment (text : List Char) : List Char := text.dropWhile isPlain

/-- The text behind what may end a line: blanks, a comment, and a line end or nothing more. -/
def endLine? (text : List Char) : Option (List Char) :=
  let rest := match skipBlanks text with
    | '#' :: rest => skipComment rest
    | rest => rest
  if rest.isEmpty then some [] else newline? rest

/-- One blank, line end or comment with its line end. -/
def gapPart : Reader Unit := fun text ↦
  match text with
  | '#' :: rest => (newline? (skipComment rest)).map ((), ·)
  | char :: rest => if isBlank char then some ((), rest) else (newline? text).map ((), ·)
  | [] => none

/-- The text behind the blanks, line ends and comments at its front. -/
def skipGap (text : List Char) : List Char := (Reader.many gapPart text).2

end PeerLink.Toml
