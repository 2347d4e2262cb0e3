import PeerLink.Error
import PeerLink.Time.Attempt

/-!
Byte streams on the clock. An operation is given the time and a deadline and either completes by
then or is abandoned at the deadline. `incoming` bounds what reads can still hand out, which is why
a loop of reads ends.
-/

set_option autoImplicit false
set_option relaxedAutoImplicit false

namespace PeerLink

class ByteStream (σ : Type) where
  /-- At most `limit` octets; none at all mean the end of the input. -/
  read : (limit now deadline : Nat) → σ → Timed σ (Except TransportFault Bytes)
  /-- How many octets at the front of `bytes` the stream accepted. -/
  write : (bytes : Bytes) → (now deadline : Nat) → σ → Timed σ (Except TransportFault Nat)
  flush : (now deadline : Nat) → σ → Timed σ (Except TransportFault Unit)
  /-- Ends the outgoing direction. -/
  shutdown : (now deadline : Nat) → σ → Timed σ (Except TransportFault Unit)
  /-- The stream once its owner is gone. -/
  release : σ → σ
  incoming : σ → Nat
  incoming_read : ∀ {limit now deadline : Nat} {stream : σ} {bytes : Bytes},
    (read limit now deadline stream).outcome = .done (.ok bytes) →
      incoming (read limit now deadline stream).stream + bytes.length ≤ incoming stream

/-- A write of many octets: how it ended, what was not accepted, the time and the stream. -/
structure Drain (σ : Type) where
  outcome : Attempt (Except TransportFault Unit)
  left : Bytes
  now : Nat
  stream : σ

namespace ByteStream

variable {σ : Type} [ByteStream σ]

/-- Writes again and again until every octet is accepted. A write that accepts nothing fails with
`stuck`. -/
def drain (stuck : TransportFault) (deadline : Nat) (bytes : Bytes) (now : Nat) (stream : σ) :
    Drain σ :=
  match bytes with
  | [] => ⟨.done (.ok ()), [], now, stream⟩
  | octet :: octets =>
    let writing := write (octet :: octets) now deadline stream
    match writing.outcome with
    | .expired => ⟨.expired, octet :: octets, writing.now, writing.stream⟩
    | .done (.error fault) => ⟨.done (.error fault), octet :: octets, writing.now, writing.stream⟩
    | .done (.ok 0) => ⟨.done (.error stuck), octet :: octets, writing.now, writing.stream⟩
    | .done (.ok (count + 1)) =>
      drain stuck deadline (octets.drop count) writing.now writing.stream
termination_by bytes.length
decreasing_by simp only [List.length_drop, List.length_cons]; omega

/-- Every octet accepted, then the stream flushed. -/
def drainAndFlush (stuck : TransportFault) (deadline : Nat) (bytes : Bytes) (now : Nat)
    (stream : σ) : Drain σ :=
  let draining := drain stuck deadline bytes now stream
  match draining.outcome with
  | .done (.ok ()) =>
    let flushing := flush draining.now deadline draining.stream
    ⟨flushing.outcome, draining.left, flushing.now, flushing.stream⟩
  | _ => draining

end ByteStream

end PeerLink
