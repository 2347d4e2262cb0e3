import PeerLink.Text.Number
import PeerLink.Text.Reader

/-!
Numeric host addresses: four octets with dots between them, or eight groups of up to four
hexadecimal digits with colons between them, where a double colon stands for the zero groups left
out and the last two groups may be written as four octets.
-/

set_option autoImplicit false
set_option relaxedAutoImplicit false

namespace PeerLink.Address

open Text (Reader)

structure V4 where
  a : UInt8
  b : UInt8
  c : UInt8
  d : UInt8
  deriving DecidableEq

/-- The groups of an address, the first one leftmost. -/
structure V6 where
  groups : List UInt16
  length_eq : groups.length = 8
  deriving DecidableEq

/-- A number below `limit` in as many digits as there are, unless these are more than `width`. -/
def digits (base limit : Nat) (width : Option Nat) : Reader Nat := fun text ↦ do
  let digits := text.takeWhile (Text.isDigit base)
  let value ← Text.number? base digits
  if value < limit ∧ width.all (digits.length ≤ ·) then
    some (value, text.drop digits.length)
  else none

/-- Up to three digits, the first of several not a zero. -/
def octet : Reader UInt8 := fun text ↦
  match text with
  | '0' :: rest => if (rest.takeWhile (Text.isDigit 10)).isEmpty then some (0, rest) else none
  | _ => (digits 10 256 (some 3) text).map fun (value, rest) ↦ (UInt8.ofNat value, rest)

def V4.reader : Reader V4 := fun text ↦ do
  let (a, rest) ← octet text
  let (b, rest) ← octet (← Reader.skip? ['.'] rest)
  let (c, rest) ← octet (← Reader.skip? ['.'] rest)
  let (d, rest) ← octet (← Reader.skip? ['.'] rest)
  return (⟨a, b, c, d⟩, rest)

/-- The two groups that the octets fill. -/
def V4.groups (host : V4) : List UInt16 :=
  [UInt16.ofNat (256 * host.a.toNat + host.b.toNat),
   UInt16.ofNat (256 * host.c.toNat + host.d.toNat)]

namespace V6

def group : Reader UInt16 := fun text ↦
  (digits 16 65536 (some 4) text).map fun (value, rest) ↦ (UInt16.ofNat value, rest)

/-- The groups at the front of a text, and whether octets ended them. -/
structure Groups where
  groups : List UInt16
  octets : Bool
  rest : List Char

/-- Reads up to `limit` groups, each behind a colon except where `text` may start with one. -/
def readGroups (limit : Nat) (first : Bool) (text : List Char) : Groups :=
  match limit with
  | 0 => ⟨[], false, text⟩
  | left + 1 =>
    let behind := if first then some text else Reader.skip? [':'] text
    match if left = 0 then none else behind.bind V4.reader with
    | some (host, rest) => ⟨host.groups, true, rest⟩
    | none =>
      match behind.bind group with
      | none => ⟨[], false, text⟩
      | some (group, rest) =>
        let more := readGroups left false rest
        { more with groups := group :: more.groups }

def reader : Reader V6 := fun text ↦
  let front := readGroups 8 true text
  if h : front.groups.length = 8 then some (⟨front.groups, h⟩, front.rest)
  else if front.octets then none
  else do
    let rest ← Reader.skip? [':', ':'] front.rest
    let back := readGroups (7 - front.groups.length) true rest
    let zeros := List.replicate (8 - front.groups.length - back.groups.length) 0
    let groups := front.groups ++ zeros ++ back.groups
    if h : groups.length = 8 then some (⟨groups, h⟩, back.rest) else none

end V6

end PeerLink.Address
