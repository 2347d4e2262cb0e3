import PeerLink.Text.Number
import PeerLink.Text.Reader

/-!
Dates and times: `1979-05-27`, `07:32:00.5`, and both with a `T` or a space between them and an
optional distance from universal time behind them. Every month has its own last day.
-/

set_option autoImplicit false
set_option relaxedAutoImplicit false

namespace PeerLink.Toml.Moment

open Text (Reader)

/-- A number of exactly so many decimal digits. -/
def fixed (width : Nat) : Reader Nat := fun text ↦
  if (text.take width).length = width then
    (Text.number? 10 (text.take width)).map (·, text.drop width)
  else none

/-- Two digits up to a limit. -/
def pair (limit : Nat) : Reader Nat := fun text ↦
  (fixed 2 text).filter fun (value, _) ↦ value ≤ limit

def isLeap (year : Nat) : Bool := year % 4 == 0 && (year % 100 != 0 || year % 400 == 0)

def lastDay (year month : Nat) : Nat :=
  if month = 2 then (if isLeap year then 29 else 28)
  else if month ∈ [4, 6, 9, 11] then 30
  else 31

/-- The text behind a date. -/
def skipDate? (text : List Char) : Option (List Char) := do
  let (year, rest) ← fixed 4 text
  let (month, rest) ← pair 12 (← Reader.skip? ['-'] rest)
  let (day, rest) ← pair (lastDay year month) (← Reader.skip? ['-'] rest)
  if month = 0 ∨ day = 0 then none else some rest

/-- The text behind a fraction of a second, which needs a digit. -/
def skipFraction? (text : List Char) : Option (List Char) := do
  let digits ← Reader.skip? ['.'] text
  let rest := digits.dropWhile (Text.isDigit 10)
  if rest.length < digits.length then some rest else none

/-- The text behind a time of day; a minute may have a leap second. -/
def skipTime? (text : List Char) : Option (List Char) := do
  let (_, rest) ← pair 23 text
  let (_, rest) ← pair 59 (← Reader.skip? [':'] rest)
  let (_, rest) ← pair 60 (← Reader.skip? [':'] rest)
  return (skipFraction? rest).getD rest

/-- The text behind a distance from universal time. -/
def skipOffset? : List Char → Option (List Char)
  | 'Z' :: rest => some rest
  | 'z' :: rest => some rest
  | sign :: rest => do
    if sign != '+' && sign != '-' then none
    let (_, rest) ← pair 23 rest
    let (_, rest) ← pair 59 (← Reader.skip? [':'] rest)
    return rest
  | [] => none

def isDate (text : List Char) : Bool := skipDate? text == some []

def isTime (text : List Char) : Bool := skipTime? text == some []

/-- Whether the text is a date, a mark and a time, with or without a distance. -/
def isDateTime (text : List Char) : Bool :=
  match skipDate? text with
  | some (mark :: rest) =>
    (mark == 'T' || mark == 't' || mark == ' ') &&
      match skipTime? rest with
      | some [] => true
      | some rest => skipOffset? rest == some []
      | none => false
  | _ => false

end PeerLink.Toml.Moment
