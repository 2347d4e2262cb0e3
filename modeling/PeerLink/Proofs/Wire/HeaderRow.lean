import PeerLink.Proofs.Wire.Bounds
import PeerLink.Wire.Writing

/-!
Headers one behind the other. Any input is a row of headers and a rest that is too short for one
more (`exists_row`). Reading gives back the row, whatever its lengths and versions are, and stops at
the rest (`readAll_row`): a length that is cut stays unread, and a length that is whole is gone when
the missing version is noticed (`read_of_lt`). Call by call on one cursor it goes the same way
(`on_scanRow`).
-/

set_option autoImplicit false
set_option relaxedAutoImplicit false

namespace PeerLink.Header

open Scanning

variable {header : Header} {bytes rest : Bytes}

/-- `count` headers, read one after another. The first that cannot be read stops it. -/
def scanRow : Nat → Scanning (List Header)
  | 0 => return []
  | count + 1 => do
    let header ← scan
    let headers ← scanRow count
    return header :: headers

/-- Headers written one after another. -/
def putRow (headers : List Header) : Writing Unit := forM headers put

/-! ### One header -/

theorem write_toWord (high low version : UInt8) :
    write ⟨Bytes.toWord high low, version⟩ = [high, low, version] := by
  rw [write, Bytes.ofWord_toWord]
  rfl

/-- What was read is what would be written. -/
theorem eq_of_read (h : read bytes = (.ok header, rest)) : bytes = header.write ++ rest := by
  match bytes, h with
  | high :: low :: version :: tail, h =>
    cases h
    rw [write_toWord]
    rfl

/-- What is reported of octets in which no header fits, and what is left of them. A version is
missed only behind a whole length, which is gone then. -/
def cutShort (bytes : Bytes) : ProtocolError × Bytes :=
  if bytes.length = 2 then (.unreadableVersion, []) else (.unreadableLength, bytes)

theorem read_of_lt (h : bytes.length < size) :
    read bytes = (.error (cutShort bytes).1, (cutShort bytes).2) := by
  match bytes, h with
  | [], _ | [_], _ | [_, _], _ => rfl

/-! ### A row -/

/-- The run with headers in front of its own. -/
def Run.after (headers : List Header) (run : Run) : Run :=
  { run with headers := headers ++ run.headers }

theorem readAll_of_error {failure : ProtocolError} (h : read bytes = (.error failure, rest)) :
    readAll bytes = ⟨[], failure, rest⟩ := by
  rw [readAll_eq, h]

theorem readAll_of_ok (h : read bytes = (.ok header, rest)) :
    readAll bytes = (readAll rest).after [header] := by
  rw [readAll_eq, h]
  rfl

theorem readAll_row (headers : List Header) (rest : Bytes) :
    readAll (headers.flatMap write ++ rest) = (readAll rest).after headers := by
  induction headers with
  | nil => rfl
  | cons header headers ih =>
    rw [List.flatMap_cons, List.append_assoc, readAll_of_ok (read_write header _), ih]
    rfl

theorem readAll_row_of_lt (headers : List Header) (h : rest.length < size) :
    readAll (headers.flatMap write ++ rest) = ⟨headers, (cutShort rest).1, (cutShort rest).2⟩ := by
  rw [readAll_row, readAll_of_error (read_of_lt h), Run.after, List.append_nil]

theorem length_flatMap_write (headers : List Header) :
    (headers.flatMap write).length = size * headers.length := by
  induction headers with
  | nil => rfl
  | cons header headers ih =>
    rw [List.flatMap_cons, List.length_append, length_write, ih, List.length_cons, Nat.mul_succ,
      Nat.add_comm]

/-- Every input is a row of headers and a rest in which no header fits. -/
theorem exists_row (bytes : Bytes) :
    ∃ (headers : List Header) (rest : Bytes),
      bytes = headers.flatMap write ++ rest ∧ rest.length < size := by
  induction bytes using readAll.induct with
  | case1 high low version bytes ih =>
    obtain ⟨headers, rest, hrow, hrest⟩ := ih
    refine ⟨⟨Bytes.toWord high low, version⟩ :: headers, rest, ?_, hrest⟩
    rw [List.flatMap_cons, write_toWord, List.append_assoc, ← hrow]
    rfl
  | case2 high low => exact ⟨[], [high, low], rfl, by simp [size]⟩
  | case3 bytes hlong hpair =>
    refine ⟨[], bytes, rfl, ?_⟩
    rcases bytes with _ | ⟨high, _ | ⟨low, _ | ⟨version, tail⟩⟩⟩
    · simp [size]
    · simp [size]
    · exact (hpair high low rfl).elim
    · exact (hlong high low version tail rfl).elim

/-! ### Call by call -/

theorem into_putRow (headers : List Header) (buffer : Bytes) :
    (putRow headers).into buffer = (.ok (), buffer ++ headers.flatMap write) := by
  unfold putRow
  induction headers generalizing buffer with
  | nil =>
    rw [List.flatMap_nil, List.append_nil]
    rfl
  | cons header headers ih =>
    rw [List.forM_cons, Writing.into_bind_of_ok (into_put header buffer), ih, List.flatMap_cons,
      List.append_assoc]

/-- As many calls as there are headers succeed, and the next one is where the run ends. -/
theorem on_scanRow (count : Nat) (bytes : Bytes) :
    (scanRow count).on bytes =
      if count ≤ (readAll bytes).headers.length then
        (.ok ((readAll bytes).headers.take count), bytes.drop (size * count))
      else (.error (.failure (readAll bytes).failure), (readAll bytes).rest) := by
  induction count generalizing bytes with
  | zero =>
    rw [if_pos (Nat.zero_le _)]
    rfl
  | succ count ih =>
    have hscan := on_scan bytes
    unfold scanRow
    cases hread : read bytes with
    | mk result rest =>
      rw [hread] at hscan
      cases result with
      | error failure =>
        rw [readAll_of_error hread, on_bind_of_error hscan]
        exact (if_neg (Nat.not_succ_le_zero count)).symm
      | ok header =>
        obtain rfl := eq_of_read hread
        have hrow := ih rest
        have hdrop :
            (header.write ++ rest).drop (size * (count + 1)) = rest.drop (size * count) := by
          rw [Nat.mul_succ, Nat.add_comm, ← List.drop_drop, List.drop_left' (length_write header)]
        rw [readAll_of_ok hread, hdrop, on_bind_of_ok hscan]
        simp only [Run.after, List.singleton_append, List.length_cons, List.take_succ_cons,
          Nat.add_le_add_iff_right]
        by_cases hcount : count ≤ (readAll rest).headers.length
        · rw [if_pos hcount] at hrow ⊢
          rw [on_bind_of_ok hrow, on_pure]
        · rw [if_neg hcount] at hrow ⊢
          rw [on_bind_of_error hrow]

/-- Headers read one after another from any input are those which, written one after another, give
back its octets: as many as there are threes of them. Then reading ends at a length that is not
whole, which stays, or behind a whole one without its version, which is gone. Any headers written
one after another are read back, and nothing is left. -/
theorem reading_inverts_writing :
    (∀ bytes : Bytes,
      let run := readAll bytes
      let whole := bytes.length / 3
      run.headers.length = whole ∧
        (putRow run.headers).into [] = (.ok (), bytes.take (3 * whole)) ∧
        (run.failure, run.rest) =
          (if bytes.length % 3 = 2 then (.unreadableVersion, [])
            else (.unreadableLength, bytes.drop (3 * whole))) ∧
        ∀ count, (scanRow count).on bytes =
          if count ≤ whole then (.ok (run.headers.take count), bytes.drop (3 * count))
          else (.error (.failure run.failure), run.rest)) ∧
      ∀ headers : List Header,
        readAll ((putRow headers).into []).2 = ⟨headers, .unreadableLength, []⟩ := by
  constructor
  · intro bytes run whole
    obtain ⟨headers, rest, hrow, hrest⟩ := exists_row bytes
    have hrun : run = ⟨headers, (cutShort rest).1, (cutShort rest).2⟩ := by
      rw [← readAll_row_of_lt headers hrest, ← hrow]
    have hshort : rest.length < 3 := hrest
    have hlength : bytes.length = (headers.flatMap write).length + rest.length := by
      rw [hrow, List.length_append]
    have hsize : (headers.flatMap write).length = 3 * headers.length := length_flatMap_write headers
    -- The rest is shorter than a header, so it is what dividing by a header's size leaves.
    have hcount : headers.length = whole := by omega
    have hleft : rest.length = bytes.length % 3 := by omega
    rw [hcount] at hsize
    have htake : bytes.take (3 * whole) = headers.flatMap write := by
      rw [hrow, List.take_left' hsize]
    have hdrop : bytes.drop (3 * whole) = rest := by
      rw [hrow, List.drop_left' hsize]
    have hheaders : run.headers.length = whole := by rw [hrun, hcount]
    refine ⟨hheaders, ?_, ?_, fun count ↦ ?_⟩
    · rw [hrun, htake, into_putRow, List.nil_append]
    · rw [hrun, hdrop, ← hleft]
      rfl
    · rw [← hheaders]
      exact on_scanRow count bytes
  · intro headers
    rw [into_putRow, List.nil_append, ← List.append_nil (headers.flatMap write)]
    exact readAll_row_of_lt headers (by decide)

/-- Two headers and a length without its version. -/
example : readAll [0, 9, 1, 255, 254, 7, 0, 4] =
    ⟨[⟨9, 1⟩, ⟨65534, 7⟩], .unreadableVersion, []⟩ := rfl

end PeerLink.Header
