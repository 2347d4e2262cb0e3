import PeerLink.Proofs.Link.OrderedStream

/-!
What ends the outgoing direction of a stream. A sink is closed by a shutdown that succeeds, and
stays closed when its owner goes (`ClosingSink`). A connection asks for that when it is closed
(`Connection.closed_close`), and no send does (`Connection.closed_send`).
-/

set_option autoImplicit false
set_option relaxedAutoImplicit false

namespace PeerLink

/-- A stream whose outgoing direction is ended by a shutdown and not by writing. Whether it ends
with its owner as well is left open. -/
class ClosingSink (τ : Type) [ByteStream τ] where
  /-- Whether the outgoing direction was ended. -/
  closed : τ → Bool
  closed_write : ∀ (bytes : Bytes) (now deadline : Nat) (stream : τ),
    closed (ByteStream.write bytes now deadline stream).stream = closed stream
  closed_flush : ∀ (now deadline : Nat) (stream : τ),
    closed (ByteStream.flush now deadline stream).stream = closed stream
  closed_shutdown : ∀ {now deadline : Nat} {stream : τ},
    (ByteStream.shutdown now deadline stream).outcome = .done (.ok ()) →
      closed (ByteStream.shutdown now deadline stream).stream = true
  closed_release : ∀ {stream : τ}, closed stream = true → closed (ByteStream.release stream) = true

open ClosingSink (closed)

namespace Pipe

theorem Channel.closed_of_put? {channel after : Channel} {bytes : Bytes} {count : Nat}
    (h : channel.put? bytes = some (count, after)) : after.closed = channel.closed := by
  unfold put? at h
  dsimp only at h
  split_ifs at h
  cases h
  rfl

namespace End

theorem closed_target_write (bytes : Bytes) (now deadline : Nat) (pipe : End) :
    (write bytes now deadline pipe).stream.target.closed = pipe.target.closed := by
  unfold write
  dsimp only
  split_ifs
  · rfl
  · split
    · rfl
    · rename_i hput
      refine (congrArg Channel.closed (Duplex.outgoing_setOutgoing _ _ _)).trans ?_
      exact Channel.closed_of_put? hput

instance : ClosingSink End where
  closed pipe := pipe.target.closed
  closed_write := closed_target_write
  closed_flush _ _ _ := rfl
  closed_shutdown {_ _ pipe} _ := congrArg Channel.closed (target_closeOutgoing pipe)
  closed_release {pipe} _ := by
    rw [target_release, target_closeOutgoing, Channel.close]

end End

end Pipe

section Closing

variable {τ : Type} [ByteStream τ] [ClosingSink τ]

theorem ByteStream.closed_drain (stuck : TransportFault) (deadline : Nat) (bytes : Bytes)
    (now : Nat) (stream : τ) :
    closed (drain stuck deadline bytes now stream).stream = closed stream := by
  fun_induction drain stuck deadline bytes now stream with
  | case1 => rfl
  | case2 => exact ClosingSink.closed_write _ _ _ _
  | case3 => exact ClosingSink.closed_write _ _ _ _
  | case4 => exact ClosingSink.closed_write _ _ _ _
  | case5 now stream octet octets writing count hcount ih =>
    exact ih.trans (ClosingSink.closed_write _ _ _ _)

namespace Connection

theorem closed_emptyOutbox (deadline : Nat) (outbox : Bytes) (now : Nat) (stream : τ) :
    closed (emptyOutbox deadline outbox now stream).stream = closed stream := by
  have hdrained := ByteStream.closed_drain frameNotWritten deadline outbox now stream
  unfold emptyOutbox ByteStream.drainAndFlush
  dsimp only
  split
  · exact (ClosingSink.closed_flush _ _ _).trans hdrained
  · exact hdrained

theorem closed_push (deadline : Nat) (packet : Packet) (outbox : Bytes) (now : Nat) (stream : τ) :
    closed (push deadline packet outbox now stream).stream = closed stream := by
  unfold push
  split
  · rfl
  · exact closed_emptyOutbox _ _ _ _

/-- A send leaves the outgoing direction as it is, whatever comes of it. -/
theorem closed_send (connection : Connection) (packet : Packet) (scene : Scene τ) :
    closed (connection.send packet scene).2.2.stream = closed scene.stream := by
  obtain ⟨-, -, hstream⟩ := send_eq connection packet scene
  rw [hstream]
  unfold sendTo
  split_ifs
  · dsimp only
    split
    · exact (closed_push _ _ _ _ _).trans (closed_emptyOutbox _ _ _ _)
    · exact closed_emptyOutbox _ _ _ _
  · exact closed_push _ _ _ _ _

/-- A close that succeeds has ended the outgoing direction. -/
theorem closed_close {connection : Connection} {deadline : Nat} {scene : Scene τ}
    (h : (connection.close deadline scene).1 = .done (.ok ())) :
    closed (connection.close deadline scene).2.stream = true := by
  unfold close at h ⊢
  dsimp only at h ⊢
  split at h
  · cases h
  · cases h
  · rename_i hended
    refine ClosingSink.closed_release ?_
    dsimp only [Scene.moveTo, Scene.note]
    split at hended
    · exact ClosingSink.closed_shutdown hended
    · rename_i hdrained
      exact absurd hended hdrained

end Connection

end Closing

end PeerLink
