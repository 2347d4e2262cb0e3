import PeerLink.Toml.Moment
import PeerLink.Toml.Value

/-!
Values written without quotes or brackets: booleans, numbers, dates and times. A word holds no
blank, except that a date may have its time behind one.
-/

set_option autoImplicit false
set_option relaxedAutoImplicit false

namespace PeerLink.Toml.Scalar

open Text (Reader)

def isWordChar (char : Char) : Bool := char.isAlphanum || "+-._:".toList.contains char

/-- The digits without the underscores between them. -/
def ungroup? (base : Nat) : List Char → Option (List Char)
  | [] => none
  | [char] => if Text.isDigit base char then some [char] else none
  | char :: '_' :: rest =>
    if Text.isDigit base char then (ungroup? base rest).map (char :: ·) else none
  | char :: rest =>
    if Text.isDigit base char then (ungroup? base rest).map (char :: ·) else none

def grouped? (base : Nat) (text : List Char) : Option Nat :=
  (ungroup? base text).map (Text.ofDigits base)

/-- A decimal number without leading zeros. -/
def plain? (text : List Char) : Option Nat :=
  if text.head? = some '0' ∧ text ≠ ['0'] then none else grouped? 10 text

/-- Whether there is a minus sign, and the text behind the sign, if there is one. -/
def sign : List Char → Bool × List Char
  | '-' :: rest => (true, rest)
  | '+' :: rest => (false, rest)
  | text => (false, text)

def signed (negative : Bool) (value : Nat) : Int := if negative then -(value : Int) else value

/-- A word is an integer if it is one of those a document can hold. -/
def integer? (word : List Char) : Option Int := do
  let value ← match word with
    | '0' :: 'x' :: digits => (grouped? 16 digits).map Int.ofNat
    | '0' :: 'o' :: digits => (grouped? 8 digits).map Int.ofNat
    | '0' :: 'b' :: digits => (grouped? 2 digits).map Int.ofNat
    | word => (plain? (sign word).2).map (signed (sign word).1)
  if leastInteger ≤ value ∧ value ≤ greatestInteger then some value else none

/-- The exponent behind its mark. -/
def exponent? (text : List Char) : Option Int :=
  (grouped? 10 (sign text).2).map (signed (sign text).1)

/-- The parts of a number with a point, an exponent or both. -/
def decimal? (negative : Bool) (text : List Char) : Option Binary64 := do
  let isMark := fun char ↦ char == 'e' || char == 'E'
  let mantissa := text.takeWhile (!isMark ·)
  let marked := text.dropWhile (!isMark ·)
  let exponent ← match marked with
    | [] => some 0
    | _ :: exponent => exponent? exponent
  let whole := mantissa.takeWhile (· != '.')
  let pointed := mantissa.dropWhile (· != '.')
  let _ ← plain? whole
  let fraction ← match pointed with
    | [] => if marked.isEmpty then none else some []
    | _ :: fraction => ungroup? 10 fraction
  let digits := (← ungroup? 10 whole) ++ fraction
  return .ofDecimal negative (Text.ofDigits 10 digits) (exponent - fraction.length)

/-- A word is a floating-point number if it names one; a number too great to be one is refused, one
too small is negative infinity. -/
def float? (word : List Char) : Option Binary64 := do
  let (negative, text) := sign word
  if text = "inf".toList then some (.infinite negative)
  else if text = "nan".toList then some .nan
  else
    let value ← decimal? negative text
    if value = .infinite false then none else some value

def ofWord? (word : List Char) : Option Value :=
  if word = "true".toList then some (.boolean true)
  else if word = "false".toList then some (.boolean false)
  else if Moment.isDate word || Moment.isTime word || Moment.isDateTime word then some .moment
  else match integer? word with
    | some value => some (.integer value)
    | none => (float? word).map .float

/-- The word at the front of a text; with its time, if it is a date and a digit follows a space. -/
def word (text : List Char) : List Char × List Char :=
  let word := text.takeWhile isWordChar
  let rest := text.dropWhile isWordChar
  match rest with
  | ' ' :: digit :: _ =>
    if Moment.isDate word && digit.isDigit then
      let time := (rest.drop 1).takeWhile isWordChar
      (word ++ ' ' :: time, rest.drop (1 + time.length))
    else (word, rest)
  | _ => (word, rest)

def reader : Reader Value := fun text ↦
  let (word, rest) := word text
  (ofWord? word).map (·, rest)

end PeerLink.Toml.Scalar
