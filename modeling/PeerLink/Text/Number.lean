/-!
Numbers written in digits. `unsigned?` is the reading of settings: an optional plus sign and ASCII
digits, leading zeros included, below a limit.
-/

set_option autoImplicit false
set_option relaxedAutoImplicit false

namespace PeerLink.Text

/-- The value of a digit, of which there are `base`; letters count in both cases. -/
def digit? (base : Nat) (char : Char) : Option Nat :=
  let value :=
    if char.isDigit then char.toNat - '0'.toNat
    else if char.isLower then char.toNat - 'a'.toNat + 10
    else if char.isUpper then char.toNat - 'A'.toNat + 10
    else base
  if value < base then some value else none

def isDigit (base : Nat) (char : Char) : Bool := (digit? base char).isSome

/-- The number that digits write, the highest first. -/
def ofDigits (base : Nat) (digits : List Char) : Nat :=
  digits.foldl (fun value char ↦ base * value + (digit? base char).getD 0) 0

/-- The number a text writes, if it is made of digits only and has one. -/
def number? (base : Nat) (text : List Char) : Option Nat :=
  if text ≠ [] ∧ text.all (isDigit base) then some (ofDigits base text) else none

def unsigned? (limit : Nat) (text : List Char) : Option Nat :=
  let digits := match text with
    | '+' :: digits => digits
    | digits => digits
  (number? 10 digits).filter (· < limit)

theorem digit?_of_isDigit {char : Char} (h : char.isDigit) :
    digit? 10 char = some (char.toNat - '0'.toNat) := by
  have hc := Char.isDigit_iff_toNat.mp h
  have h0 : ('0' : Char).toNat = 48 := rfl
  simp only [digit?, h, if_true, h0]
  rw [if_pos]
  have h9 : ('9' : Char).toNat = 57 := rfl
  omega

theorem ofDigits_eq_ofDigitChars {digits : List Char} (h : ∀ char ∈ digits, char.isDigit) :
    ofDigits 10 digits = Nat.ofDigitChars 10 digits 0 := by
  have key : ∀ start : Nat,
      digits.foldl (fun value char ↦ 10 * value + (digit? 10 char).getD 0) start =
        Nat.ofDigitChars 10 digits start := by
    induction digits with
    | nil => intro start; rfl
    | cons char digits ih =>
      intro start
      have hc := digit?_of_isDigit (h char (by simp))
      simp only [List.foldl_cons, hc, Option.getD_some, Nat.ofDigitChars]
      exact ih (fun other hmem ↦ h other (by simp [hmem])) _
  exact key 0

theorem isDigit_toDigits (value : Nat) : ∀ char ∈ Nat.toDigits 10 value, char.isDigit :=
  fun _ h ↦ Nat.isDigit_of_mem_toDigits (by decide) (by decide) h

end PeerLink.Text
