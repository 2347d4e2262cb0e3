import PeerLink.Wire.FrameBuffer

/-!
Decoding step by step on octets that run out. Asking for more octets than are left, looking at a
place that is not there and taking a greater number from a smaller one are never errors of the
input: each is an `overrun`, a stop of its own, so that it can be asked whether one is ever reached.
`Packet.scan` and `FrameBuffer.scan` test what is left before they ask for it.
-/

set_option autoImplicit false
set_option relaxedAutoImplicit false

namespace PeerLink

/-- Why work on octets stops: for an error that it reports, or because it asked for what is not
there. -/
inductive Stop where
  | failure (failure : ProtocolError)
  | overrun (wanted available : Nat)
  deriving DecidableEq

/-- Work on octets from front to back. What is unread survives a stop. -/
abbrev Scanning := ExceptT Stop (StateM Bytes)

namespace Scanning

variable {α β : Type}

/-- How the work ends on `bytes`, and what is unread then. -/
def on (work : Scanning α) (bytes : Bytes) : Except Stop α × Bytes :=
  work.run.run bytes

/-! ### What can be asked for -/

def unread : Scanning Nat := return (← get).length

/-- The next octet. -/
def octet : Scanning UInt8 := do
  match ← get with
  | value :: rest =>
    set rest
    return value
  | [] => throw (.overrun 1 0)

/-- The next two octets, the high one first. -/
def word : Scanning UInt16 := do
  match ← get with
  | high :: low :: rest =>
    set rest
    return Bytes.toWord high low
  | bytes => throw (.overrun 2 bytes.length)

/-- The next `count` octets, which stay unread. -/
def front (count : Nat) : Scanning Bytes := do
  let bytes ← get
  if count ≤ bytes.length then return bytes.take count
  else throw (.overrun count bytes.length)

/-- The next `count` octets. -/
def take (count : Nat) : Scanning Bytes := do
  let octets ← front count
  modify (·.drop count)
  return octets

/-- The next sixteen octets. -/
def vector : Scanning BodyVector := do
  let bytes ← get
  match BodyVector.split? bytes with
  | some (value, rest) =>
    set rest
    return value
  | none => throw (.overrun BodyVector.size bytes.length)

/-- The octet at `index`, which stays unread like all others. -/
def peek (index : Nat) : Scanning UInt8 := do
  let bytes ← get
  match bytes[index]? with
  | some value => return value
  | none => throw (.overrun (index + 1) bytes.length)

/-- A difference of which it is taken for granted that it is not negative. -/
def difference (whole part : Nat) : Scanning Nat :=
  if part ≤ whole then return whole - part else throw (.overrun part whole)

/-! ### What is tested -/

def refuse (failure : ProtocolError) : Scanning α := throw (.failure failure)

def ensure (condition : Prop) [Decidable condition] (failure : ProtocolError) : Scanning Unit :=
  if condition then return () else refuse failure

/-- A difference that is tested for being negative. -/
def less (whole part : Nat) (failure : ProtocolError) : Scanning Nat := do
  ensure (part ≤ whole) failure
  return whole - part

/-- Work on octets of their own. Whatever stops it stops the whole. -/
def within (octets : Bytes) (work : Scanning α) : Scanning α := do
  match (work.on octets).1 with
  | .ok value => return value
  | .error stop => throw stop

/-! ### One step, then the rest -/

section Bind

variable {bytes rest : Bytes} {next : α → Scanning β}

@[simp] theorem on_pure (value : α) : on (pure value) bytes = (.ok value, bytes) := rfl

/-- Work that ends is followed by the rest, on what it left unread. -/
theorem on_bind_of_ok {work : Scanning α} {value : α} (h : work.on bytes = (.ok value, rest)) :
    on (work >>= next) bytes = (next value).on rest := by
  unfold on at h ⊢
  rw [ExceptT.run_bind, StateT.run_bind, h]
  rfl

/-- Work that stops is followed by nothing. -/
theorem on_bind_of_error {work : Scanning α} {stop : Stop}
    (h : work.on bytes = (.error stop, rest)) :
    on (work >>= next) bytes = (.error stop, rest) := by
  unfold on at h ⊢
  rw [ExceptT.run_bind, StateT.run_bind, h]
  rfl

theorem on_unread_bind {next : Nat → Scanning β} :
    on (unread >>= next) bytes = (next bytes.length).on bytes := rfl

theorem on_octet_bind {next : UInt8 → Scanning β} (value : UInt8) :
    on (octet >>= next) (value :: rest) = (next value).on rest := rfl

theorem on_word_bind {next : UInt16 → Scanning β} (high low : UInt8) :
    on (word >>= next) (high :: low :: rest) = (next (Bytes.toWord high low)).on rest := rfl

theorem on_ensure_bind {next : Unit → Scanning β} {condition : Prop} [Decidable condition]
    (failure : ProtocolError) :
    on (ensure condition failure >>= next) bytes =
      if condition then (next ()).on bytes else (.error (.failure failure), bytes) := by
  unfold ensure
  split
  · rfl
  · rfl

theorem on_less_bind {next : Nat → Scanning β} (whole part : Nat) (failure : ProtocolError) :
    on (less whole part failure >>= next) bytes =
      if part ≤ whole then (next (whole - part)).on bytes
      else (.error (.failure failure), bytes) := by
  unfold less
  rw [bind_assoc, on_ensure_bind]
  rfl

end Bind

section Requests

variable {bytes : Bytes}

theorem on_front {count : Nat} (h : count ≤ bytes.length) :
    (front count).on bytes = (.ok (bytes.take count), bytes) := by
  have hfront : (front count).on bytes =
      on (if count ≤ bytes.length then return bytes.take count
        else throw (.overrun count bytes.length)) bytes := rfl
  rw [hfront, if_pos h]
  rfl

theorem on_take {count : Nat} (h : count ≤ bytes.length) :
    (take count).on bytes = (.ok (bytes.take count), bytes.drop count) :=
  on_bind_of_ok (on_front h)

theorem on_vector {value : BodyVector} {rest : Bytes}
    (h : BodyVector.split? bytes = some (value, rest)) :
    vector.on bytes = (.ok value, rest) := by
  have hvector : vector.on bytes =
      on (match BodyVector.split? bytes with
        | some (value, rest) => do
          set rest
          return value
        | none => throw (.overrun BodyVector.size bytes.length)) bytes := rfl
  rw [hvector, h]
  rfl

theorem on_peek {index : Nat} {value : UInt8} (h : bytes[index]? = some value) :
    (peek index).on bytes = (.ok value, bytes) := by
  have hpeek : (peek index).on bytes =
      on (match bytes[index]? with
        | some value => return value
        | none => throw (.overrun (index + 1) bytes.length)) bytes := rfl
  rw [hpeek, h]
  rfl

theorem on_difference {whole part : Nat} (h : part ≤ whole) :
    (difference whole part).on bytes = (.ok (whole - part), bytes) := by
  unfold difference
  rw [if_pos h]
  rfl

/-- What is missing from the end of an input is what was read. -/
theorem on_difference_drop {unread : Bytes} {count : Nat} (h : count ≤ bytes.length) :
    (difference bytes.length (bytes.drop count).length).on unread = (.ok count, unread) := by
  rw [List.length_drop, on_difference (Nat.sub_le _ _), Nat.sub_sub_self h]

theorem on_within {α : Type} (octets : Bytes) (work : Scanning α) :
    (within octets work).on bytes = ((work.on octets).1, bytes) := by
  unfold within
  cases (work.on octets).1 with
  | ok value => rfl
  | error stop => rfl

end Requests

end Scanning

open Scanning

/-! ### Decoding -/

/-- Which of the two fields is cut short is told apart. -/
def Header.scan : Scanning Header := do
  ensure (2 ≤ (← unread)) .unreadableLength
  let length ← word
  ensure (1 ≤ (← unread)) .unreadableVersion
  let version ← octet
  return ⟨length, version⟩

namespace Packet

/-- The vector of a type that carries one, and how much of the declared length is left behind it. -/
def scanVector (head : Header) (type : MessageType) (declared : Nat) :
    Scanning (Option BodyVector × Nat) :=
  if type.carriesVector then do
    ensure (BodyVector.size ≤ (← unread)) .unreadableVector
    let value ← vector
    let left ← less declared BodyVector.size (.invalidLength head.length (1 + BodyVector.size))
    return (some value, left)
  else
    return (none, declared)

/-- A payload of `size` octets, behind which strict framing lets nothing stand. -/
def scanPayload (framing : Framing) (size : Nat) : Scanning Bytes := do
  let available ← unread
  ensure (size ≤ available) (.unreadableMessage size available)
  let payload ← take size
  let left ← unread
  ensure (¬ (framing = .strict ∧ 0 < left)) (.trailingBytes left)
  return payload

/-- What follows the type. -/
def scanBody (framing : Framing) (head : Header) (type : MessageType) : Scanning Body := do
  let declared ← less head.length.toNat 1 (.invalidLength head.length 1)
  let (vector, size) ← scanVector head type declared
  let payload ← scanPayload framing size
  return ⟨type, vector, .ofWire type payload⟩

/-- The packet at the front, and how many octets are gone when it has been read. -/
def scan (options : DecodeOptions) : Scanning Front := do
  let total ← unread
  ensure (minSize ≤ total) (.tooShort total)
  let head ← Header.scan
  ensure (options.versions.accepts head.version) (.unsupportedVersion head.version)
  ensure (0 < (← unread)) .unreadableType
  let tag ← octet
  match MessageType.ofTag? tag with
  | none => refuse (.unknownType tag)
  | some type =>
    let body ← scanBody options.framing head type
    let consumed ← difference total (← unread)
    return ⟨⟨head, body⟩, consumed⟩

end Packet

/-- A frame is taken off once it is there, and decoded on its own. While it is not, the octets that
it lacks are counted, for the room that they will need. -/
def FrameBuffer.scan (options : DecodeOptions) : Scanning (Option Packet) := do
  let strict : DecodeOptions := { options with framing := .strict }
  if (← unread) < 2 then return none
  else
    let declared := (Bytes.toWord (← peek 0) (← peek 1)).toNat
    if declared = 0 then
      if (← unread) < Packet.minSize then return none
      else
        let start ← front Packet.minSize
        let _ ← within start (Packet.scan strict)
        refuse (.invalidLength 0 1)
    else if (← unread) < Header.size + declared then
      let _ ← difference (Header.size + declared) (← unread)
      return none
    else
      let frame ← take (Header.size + declared)
      let decoded ← within frame (Packet.scan strict)
      return some decoded.packet

end PeerLink
