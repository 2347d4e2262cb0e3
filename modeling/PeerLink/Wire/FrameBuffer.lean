import PeerLink.Wire.Decode

/-!
Packets from a buffer that fills up piece by piece. A frame is taken off the buffer once its
declared length is there, and then decoded on its own, so octets of the next frame never matter.
A declared length of zero can hold no type: the buffer is left as it is and every later step
reports the same error.
-/

set_option autoImplicit false
set_option relaxedAutoImplicit false

namespace PeerLink

/-- One attempt to take a packet off a buffer, with the buffer that is left. -/
inductive FrameStep where
  | waiting
  | packet (packet : Packet) (rest : Bytes)
  | failed (failure : ProtocolError) (rest : Bytes)
  deriving DecidableEq

namespace FrameStep

/-- The buffer after a step taken on `buffer`. -/
def buffer (before : Bytes) : FrameStep → Bytes
  | waiting => before
  | packet _ rest | failed _ rest => rest

/-- What the step tells whoever asked for a packet. -/
def result : FrameStep → Except ProtocolError (Option Packet)
  | waiting => .ok none
  | packet decoded _ => .ok (some decoded)
  | failed failure _ => .error failure

end FrameStep

namespace FrameBuffer

/-- The size of the frame at the front of `buffer`, once its length field is there. -/
def frameSize? : Bytes → Option Nat
  | high :: low :: _ => some (Header.size + (Bytes.toWord high low).toNat)
  | _ => none

/-- The error of a header that declares length zero: that of decoding its first four octets. -/
def zeroLengthError (options : DecodeOptions) (buffer : Bytes) : ProtocolError :=
  match Packet.decodeFront { options with framing := .strict } (buffer.take Packet.minSize) with
  | .error failure => failure
  | .ok _ => .invalidLength 0 1

/-- Frames are decoded strictly, whatever framing the options ask for. -/
def step (options : DecodeOptions) (buffer : Bytes) : FrameStep :=
  match frameSize? buffer with
  | none => .waiting
  | some size =>
    if size = Header.size then
      if buffer.length < Packet.minSize then .waiting
      else .failed (zeroLengthError options buffer) buffer
    else if buffer.length < size then
      .waiting
    else
      match Packet.decodeFront { options with framing := .strict } (buffer.take size) with
      | .ok front => .packet front.packet (buffer.drop size)
      | .error failure => .failed failure (buffer.drop size)

/-- The fault of a stream that ends inside a frame. -/
def remainingFault : TransportFault := ⟨.other, "bytes remaining on stream"⟩

/-- The step at the end of the stream: octets that will never be completed are an error. -/
def finalStep (options : DecodeOptions) (buffer : Bytes) : FrameStep :=
  match step options buffer with
  | .waiting => if buffer.isEmpty then .waiting else .failed (.transport remainingFault) buffer
  | other => other

/-- Octets that arrive one at a time, with a step after each. The steps that did not wait are given
with their positions, counted from `start`, and then what is left in the buffer. -/
def trickle (options : DecodeOptions) (start : Nat) : Bytes → Bytes → List (Nat × FrameStep) × Bytes
  | [], buffer => ([], buffer)
  | octet :: octets, buffer =>
    let buffer := buffer ++ [octet]
    let taken := step options buffer
    let (others, rest) := trickle options (start + 1) octets (taken.buffer buffer)
    match taken with
    | .waiting => (others, rest)
    | _ => ((start, taken) :: others, rest)

end FrameBuffer

end PeerLink
