import PeerLink.Stream.Basic

/-!
A stream that behaves as scripted: each kind of call has a queue of cues, taken in order. A delay
starts when it is first reached and goes on running when the call that reached it is abandoned; a
stall blocks its queue for good. With an empty queue reads wait for ever and all else succeeds.
-/

set_option autoImplicit false
set_option relaxedAutoImplicit false

namespace PeerLink.Script

/-- What a call meets: a result, a delay of some milliseconds before the next cue, or a stall. -/
inductive Cue (α : Type) where
  | result (value : α)
  | delay (milliseconds : Nat)
  | stall

/-- The cues to come, and when the delay that is running ends. -/
structure Queue (α : Type) where
  running : Option Nat := none
  cues : List (Cue α) := []

/-- How far a call gets: to a result, to the end of its queue, or no further by its deadline. -/
inductive Turn (α : Type) where
  | ready (value : α) (now : Nat) (rest : List (Cue α))
  | idle (now : Nat)
  | expired (rest : Queue α)

variable {α : Type}

/-- Follows the cues from `now` on. -/
def follow (deadline now : Nat) : List (Cue α) → Turn α
  | [] => .idle now
  | .result value :: rest => .ready value now rest
  | .delay milliseconds :: rest =>
    if now + milliseconds ≤ deadline then follow deadline (now + milliseconds) rest
    else .expired ⟨some (now + milliseconds), rest⟩
  | .stall :: rest => .expired ⟨none, .stall :: rest⟩

namespace Queue

/-- A delay that is running has to end first. -/
def next (deadline now : Nat) (queue : Queue α) : Turn α :=
  match queue.running with
  | none => follow deadline now queue.cues
  | some due =>
    if due ≤ deadline then follow deadline (max now due) queue.cues
    else .expired queue

def append (cues : List (Cue α)) (queue : Queue α) : Queue α :=
  { queue with cues := queue.cues ++ cues }

/-- Other cues; a delay that is running goes on. -/
def replace (cues : List (Cue α)) (queue : Queue α) : Queue α :=
  { queue with cues }

end Queue

/-- The octets that the reads of a script can still hand out. -/
def octets : List (Cue (Except TransportFault Bytes)) → Nat
  | [] => 0
  | .result (.ok bytes) :: rest => bytes.length + octets rest
  | _ :: rest => octets rest

theorem octets_follow {deadline now : Nat} {cues : List (Cue (Except TransportFault Bytes))}
    {bytes : Bytes} {time : Nat} {rest : List (Cue (Except TransportFault Bytes))}
    (h : follow deadline now cues = .ready (.ok bytes) time rest) :
    octets rest + bytes.length = octets cues := by
  induction cues generalizing now with
  | nil => cases h
  | cons cue cues ih =>
    cases cue with
    | result value =>
      cases h
      simp only [octets]
      omega
    | delay milliseconds =>
      simp only [follow] at h
      split at h
      · exact ih h
      · cases h
    | stall => cases h

theorem octets_next {deadline now : Nat} {queue : Queue (Except TransportFault Bytes)}
    {bytes : Bytes} {time : Nat} {rest : List (Cue (Except TransportFault Bytes))}
    (h : queue.next deadline now = .ready (.ok bytes) time rest) :
    octets rest + bytes.length = octets queue.cues := by
  simp only [Queue.next] at h
  split at h
  · exact octets_follow h
  · split at h
    · exact octets_follow h
    · cases h

/-- The queues of a stream, and all it has accepted so far. -/
structure Stream where
  reads : Queue (Except TransportFault Bytes) := {}
  writes : Queue (Except TransportFault Nat) := {}
  flushes : Queue (Except TransportFault Unit) := {}
  shutdowns : Queue (Except TransportFault Unit) := {}
  accepted : Bytes := []

namespace Stream

/-- Octets beyond `limit` stay for the next read. -/
def read (limit now deadline : Nat) (stream : Stream) :
    Timed Stream (Except TransportFault Bytes) :=
  match stream.reads.next deadline now with
  | .expired reads => ⟨.expired, deadline, { stream with reads }⟩
  | .idle _ => ⟨.expired, deadline, { stream with reads := {} }⟩
  | .ready (.error fault) now cues => ⟨.done (.error fault), now, { stream with reads := { cues } }⟩
  | .ready (.ok bytes) now cues =>
    let left := bytes.drop limit
    let cues := if left.isEmpty then cues else .result (.ok left) :: cues
    ⟨.done (.ok (bytes.take limit)), now, { stream with reads := { cues } }⟩

def write (bytes : Bytes) (now deadline : Nat) (stream : Stream) :
    Timed Stream (Except TransportFault Nat) :=
  match stream.writes.next deadline now with
  | .expired writes => ⟨.expired, deadline, { stream with writes }⟩
  | .idle now =>
    ⟨.done (.ok bytes.length), now,
      { stream with writes := {}, accepted := stream.accepted ++ bytes }⟩
  | .ready (.error fault) now cues =>
    ⟨.done (.error fault), now, { stream with writes := { cues } }⟩
  | .ready (.ok count) now cues =>
    ⟨.done (.ok (min count bytes.length)), now,
      { stream with writes := { cues }, accepted := stream.accepted ++ bytes.take count }⟩

def flush (now deadline : Nat) (stream : Stream) : Timed Stream (Except TransportFault Unit) :=
  match stream.flushes.next deadline now with
  | .expired flushes => ⟨.expired, deadline, { stream with flushes }⟩
  | .idle now => ⟨.done (.ok ()), now, { stream with flushes := {} }⟩
  | .ready result now cues => ⟨.done result, now, { stream with flushes := { cues } }⟩

def shutdown (now deadline : Nat) (stream : Stream) : Timed Stream (Except TransportFault Unit) :=
  match stream.shutdowns.next deadline now with
  | .expired shutdowns => ⟨.expired, deadline, { stream with shutdowns }⟩
  | .idle now => ⟨.done (.ok ()), now, { stream with shutdowns := {} }⟩
  | .ready result now cues => ⟨.done result, now, { stream with shutdowns := { cues } }⟩

theorem octets_read {limit now deadline : Nat} {stream : Stream} {bytes : Bytes}
    (h : (read limit now deadline stream).outcome = .done (.ok bytes)) :
    octets (read limit now deadline stream).stream.reads.cues + bytes.length ≤
      octets stream.reads.cues := by
  unfold read at h ⊢
  split at h
  · cases h
  · cases h
  · cases h
  · rename_i whole time cues hnext
    have hoctets := octets_next hnext
    cases h
    dsimp only
    split
    · simp only [List.length_take]
      omega
    · simp only [octets, List.length_take, List.length_drop]
      omega

instance : ByteStream Stream where
  read := read
  write := write
  flush := flush
  shutdown := shutdown
  release := id
  incoming := fun stream ↦ octets stream.reads.cues
  incoming_read := octets_read

end Stream

end PeerLink.Script
