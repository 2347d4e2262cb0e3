import PeerLink.Error

/-!
The fixed three-octet header: the length of the body behind it, high octet first, and the sender's
protocol version. `read` undoes `write`, and `readAll` is `read` until it fails.
-/

set_option autoImplicit false
set_option relaxedAutoImplicit false

namespace PeerLink

/-- The protocol version this library speaks. -/
def currentVersion : UInt8 := 1

/-- The length counts the body only. -/
structure Header where
  length : UInt16
  version : UInt8
  deriving DecidableEq

namespace Header

/-- The octets a header takes up. -/
def size : Nat := 3

/-- The header of a body of `length` octets at the current version. -/
def ofLength (length : UInt16) : Header := ⟨length, currentVersion⟩

def write (header : Header) : Bytes :=
  Bytes.ofWord header.length ++ [header.version]

/-- The header at the front of `bytes`, and what is left of them. A missing version is noticed
after the length was taken. -/
def read : Bytes → Except ProtocolError Header × Bytes
  | high :: low :: version :: rest => (.ok ⟨Bytes.toWord high low, version⟩, rest)
  | [_, _] => (.error .unreadableVersion, [])
  | bytes => (.error .unreadableLength, bytes)

/-- How reading headers one after another went: those that were whole, the failure that ended it
and the octets left unread. -/
structure Run where
  headers : List Header
  failure : ProtocolError
  rest : Bytes

def readAll : Bytes → Run
  | high :: low :: version :: rest =>
    let run := readAll rest
    { run with headers := ⟨Bytes.toWord high low, version⟩ :: run.headers }
  | [_, _] => ⟨[], .unreadableVersion, []⟩
  | bytes => ⟨[], .unreadableLength, bytes⟩

@[simp] theorem length_write (header : Header) : header.write.length = size := rfl

theorem read_write (header : Header) (rest : Bytes) :
    read (header.write ++ rest) = (.ok header, rest) := by
  simp [write, Bytes.ofWord, read, Bytes.toWord_ofWord]

/-- Each step of `readAll` is one `read`. -/
theorem readAll_eq (bytes : Bytes) :
    readAll bytes = match read bytes with
      | (.ok header, rest) => { readAll rest with headers := header :: (readAll rest).headers }
      | (.error failure, rest) => ⟨[], failure, rest⟩ := by
  match bytes with
  | [] | [_] | [_, _] | _ :: _ :: _ :: _ => rfl

end Header

end PeerLink
