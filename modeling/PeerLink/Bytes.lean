/-!
Octet strings, and the three ways the protocol writes them down: a 16-bit length in network order,
the hexadecimal text of diagnostics, and the bracketed decimal list of traffic traces.
-/

set_option autoImplicit false
set_option relaxedAutoImplicit false

namespace PeerLink

/-- What travels on a stream. -/
abbrev Bytes := List UInt8

namespace Bytes

def hexDigit (value : Nat) : Char :=
  if value < 10 then Char.ofNat (48 + value) else Char.ofNat (87 + value)

/-- Two lower-case digits, the high one first. -/
def hexPair (octet : UInt8) : List Char :=
  [hexDigit (octet.toNat / 16), hexDigit (octet.toNat % 16)]

def hex (bytes : Bytes) : String :=
  String.ofList (bytes.flatMap hexPair)

def ofHexDigit (digit : Char) : Nat :=
  if digit.isDigit then digit.toNat - 48 else digit.toNat - 87

/-- The octets that pairs of lower-case digits write. -/
def ofHex : List Char → Bytes
  | high :: low :: rest => UInt8.ofNat (16 * ofHexDigit high + ofHexDigit low) :: ofHex rest
  | _ => []

/-- The decimal values in brackets, separated by a comma and a space. -/
def decimalList (bytes : Bytes) : String :=
  "[" ++ String.intercalate ", " (bytes.map fun octet ↦ toString octet.toNat) ++ "]"

/-- The high octet first. -/
def ofWord (word : UInt16) : Bytes :=
  [UInt8.ofNat (word.toNat / 256), UInt8.ofNat (word.toNat % 256)]

def toWord (high low : UInt8) : UInt16 :=
  UInt16.ofNat (256 * high.toNat + low.toNat)

theorem toWord_ofWord (word : UInt16) :
    toWord (UInt8.ofNat (word.toNat / 256)) (UInt8.ofNat (word.toNat % 256)) = word := by
  have h := word.toNat_lt
  apply UInt16.toNat_inj.mp
  simp only [toWord, UInt16.toNat_ofNat', UInt8.toNat_ofNat']
  omega

theorem toNat_toWord (high low : UInt8) :
    (toWord high low).toNat = 256 * high.toNat + low.toNat := by
  have hhigh := high.toNat_lt
  have hlow := low.toNat_lt
  simp only [toWord, UInt16.toNat_ofNat']
  omega

theorem ofWord_toWord (high low : UInt8) : ofWord (toWord high low) = [high, low] := by
  have hhigh := high.toNat_lt
  have hlow := low.toNat_lt
  have hquotient : (256 * high.toNat + low.toNat) / 256 = high.toNat := by omega
  have hremainder : (256 * high.toNat + low.toNat) % 256 = low.toNat := by omega
  rw [ofWord, toNat_toWord, hquotient, hremainder, UInt8.ofNat_toNat, UInt8.ofNat_toNat]

end Bytes

end PeerLink
