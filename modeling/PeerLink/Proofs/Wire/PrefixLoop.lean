import Mathlib.Logic.Function.Iterate
import PeerLink.Proofs.Wire.RoundTrip

/-!
Decoding packet after packet. Encodings that stand one behind the other are read back as canonical
packets, each with its own size, and what follows them is then read as if it stood alone
(`decodeAllFrom_flatten`). Of any input the run accepts encodings up to where it stops, and it stops
at the end or at an error (`exists_wires_decodeAllFrom`). As a loop over offsets into the whole
input (`Run.round`) it comes to rest, because every packet takes up at least four octets
(`iterate_round`).
-/

set_option autoImplicit false
set_option relaxedAutoImplicit false

namespace PeerLink.Packet

variable {options : DecodeOptions} {bytes : Bytes} {offset : Nat}

/-! ### One packet -/

/-- The run with packets in front of its own. -/
def Run.after (fronts : List Front) (run : Run) : Run :=
  { run with fronts := fronts ++ run.fronts }

theorem Run.after_after (first second : List Front) (run : Run) :
    (run.after second).after first = run.after (first ++ second) := by
  unfold after
  rw [List.append_assoc]

theorem decodeAllFrom_nil : decodeAllFrom options offset [] = ⟨[], none, offset⟩ := by
  rw [decodeAllFrom]
  rfl

theorem decodeAllFrom_of_error {failure : ProtocolError} (hbytes : bytes ≠ [])
    (h : decodePrefix options bytes = .error failure) :
    decodeAllFrom options offset bytes = ⟨[], some failure, offset⟩ := by
  rw [decodeAllFrom, if_neg (by simpa using hbytes)]
  split
  · rename_i other hother
    rw [h] at hother
    cases hother
    rfl
  · rename_i front hfront
    rw [h] at hfront
    cases hfront

theorem decodeAllFrom_of_ok {front : Front} (h : decodePrefix options bytes = .ok front) :
    decodeAllFrom options offset bytes =
      (decodeAllFrom options (offset + front.consumed) (bytes.drop front.consumed)).after
        [front] := by
  have hbytes : bytes ≠ [] := by
    rintro rfl
    cases h
  rw [decodeAllFrom, if_neg (by simpa using hbytes)]
  split
  · rename_i failure hfailure
    rw [h] at hfailure
    cases hfailure
  · rename_i other hother
    rw [h] at hother
    cases hother
    rfl

/-- Every input is empty, or refused, or begins with a packet in front of a shorter one. -/
@[elab_as_elim]
theorem front_induction {motive : Bytes → Prop} (options : DecodeOptions) (nil : motive [])
    (error : ∀ bytes failure, bytes ≠ [] → decodePrefix options bytes = .error failure →
      motive bytes)
    (ok : ∀ bytes front, decodePrefix options bytes = .ok front →
      motive (bytes.drop front.consumed) → motive bytes)
    (bytes : Bytes) : motive bytes := by
  induction hsize : bytes.length using Nat.strongRecOn generalizing bytes with
  | ind size ih =>
    subst hsize
    by_cases hbytes : bytes = []
    · exact hbytes ▸ nil
    · cases hfront : decodePrefix options bytes with
      | error failure => exact error bytes failure hbytes hfront
      | ok front =>
        have hconsumed := consumed_of_decodeFront hfront
        have hshorter : (bytes.drop front.consumed).length < bytes.length := by
          unfold minSize Header.size at hconsumed
          rw [List.length_drop]
          omega
        exact ok bytes front hfront (ih _ hshorter _ rfl)

/-- Where a run starts only shifts the offset at which it stops. -/
theorem decodeAllFrom_add (start : Nat) :
    decodeAllFrom options (start + offset) bytes =
      let run := decodeAllFrom options offset bytes
      { run with offset := start + run.offset } := by
  induction bytes using front_induction options generalizing offset with
  | nil => rw [decodeAllFrom_nil, decodeAllFrom_nil]
  | error bytes failure hbytes hfailure =>
    rw [decodeAllFrom_of_error hbytes hfailure, decodeAllFrom_of_error hbytes hfailure]
  | ok bytes front hfront ih =>
    rw [decodeAllFrom_of_ok hfront, decodeAllFrom_of_ok hfront, Nat.add_assoc, ih]
    rfl

/-! ### Encodings one behind the other -/

theorem decodePrefix_encode_append {packet : Packet} {wire : Bytes} (h : packet.encode = .ok wire)
    (haccepts : options.versions.accepts packet.head.version) (rest : Bytes) :
    decodePrefix options (wire ++ rest) = .ok ⟨packet.canonical, wire.length⟩ := by
  rw [decodePrefix, decodeFront_encode_append h, if_pos haccepts, if_neg (by simp)]

theorem decodeAllFrom_flatten {packets : List Packet} {wires : List Bytes}
    (h : packets.map encode = wires.map .ok)
    (haccepts : ∀ packet ∈ packets, options.versions.accepts packet.head.version) (tail : Bytes) :
    decodeAllFrom options offset (wires.flatten ++ tail) =
      (decodeAllFrom options (offset + wires.flatten.length) tail).after
        (packets.zipWith (fun packet wire ↦ ⟨packet.canonical, wire.length⟩) wires) := by
  induction packets generalizing wires offset with
  | nil =>
    obtain rfl : wires = [] := List.map_eq_nil_iff.mp h.symm
    rfl
  | cons packet packets ih =>
    cases wires with
    | nil => cases h
    | cons wire wires =>
      obtain ⟨hwire, hwires⟩ := List.cons.inj h
      have hfront := decodePrefix_encode_append hwire
        (haccepts packet (List.mem_cons_self ..)) (wires.flatten ++ tail)
      have hothers := fun other hother ↦ haccepts other (List.mem_cons_of_mem packet hother)
      rw [List.flatten_cons, List.append_assoc, decodeAllFrom_of_ok hfront, List.drop_left,
        ih hwires hothers, Run.after_after, List.length_append, ← Nat.add_assoc]
      rfl

/-- A run accepts encodings and stops where the input ends or cannot be decoded. -/
theorem exists_wires_decodeAllFrom (options : DecodeOptions) (offset : Nat) (bytes : Bytes) :
    ∃ (wires : List Bytes) (rest : Bytes), bytes = wires.flatten ++ rest ∧
      (decodeAllFrom options offset bytes).fronts.map (fun front ↦ front.packet.encode) =
        wires.map .ok ∧
      (decodeAllFrom options offset bytes).offset = offset + wires.flatten.length ∧
      ((decodeAllFrom options offset bytes).failure = none ∧ rest = [] ∨
        ∃ failure, (decodeAllFrom options offset bytes).failure = some failure ∧ rest ≠ [] ∧
          decodePrefix options rest = .error failure) := by
  induction bytes using front_induction options generalizing offset with
  | nil =>
    rw [decodeAllFrom_nil]
    exact ⟨[], [], rfl, rfl, rfl, Or.inl ⟨rfl, rfl⟩⟩
  | error bytes failure hbytes hfailure =>
    rw [decodeAllFrom_of_error hbytes hfailure]
    exact ⟨[], bytes, rfl, rfl, rfl, Or.inr ⟨failure, rfl, hbytes, hfailure⟩⟩
  | ok bytes front hfront ih =>
    have haccepted := accepted_of_decodeFront hfront
    obtain ⟨wires, rest, hdrop, hencode, hoffset, hend⟩ := ih (offset + front.consumed)
    rw [decodeAllFrom_of_ok hfront]
    refine ⟨bytes.take front.consumed :: wires, rest, ?_, ?_, ?_, hend⟩
    · rw [List.flatten_cons, List.append_assoc, ← hdrop, List.take_append_drop]
    · exact congrArg₂ List.cons haccepted.encode_eq hencode
    · refine hoffset.trans ?_
      rw [List.flatten_cons, List.length_append, List.length_take,
        Nat.min_eq_left haccepted.consumed_le, Nat.add_assoc]

/-! ### The loop over offsets -/

namespace Run

/-- One round: decodes what stands at the offset and moves on behind it, unless the run has failed
or the input has ended. -/
def round (options : DecodeOptions) (bytes : Bytes) (run : Run) : Run :=
  if run.failure.isSome ∨ bytes.length ≤ run.offset then run
  else
    match decodePrefix options (bytes.drop run.offset) with
    | .error failure => { run with failure := some failure }
    | .ok front =>
      { run with fronts := run.fronts ++ [front], offset := run.offset + front.consumed }

theorem round_eq_self {run : Run} (h : run.failure.isSome ∨ bytes.length ≤ run.offset) :
    run.round options bytes = run := if_pos h

end Run

/-- Each round that finds a packet passes at least four octets, so a quarter of the input and one
more round see the end. -/
theorem iterate_round (hoffset : offset ≤ bytes.length) (fronts : List Front) {rounds : Nat}
    (hrounds : (bytes.length - offset) / 4 < rounds) :
    (Run.round options bytes)^[rounds] ⟨fronts, none, offset⟩ =
      (decodeAllFrom options offset (bytes.drop offset)).after fronts := by
  induction rounds generalizing fronts offset with
  | zero => omega
  | succ rounds ih =>
    rw [Function.iterate_succ_apply]
    by_cases hend : bytes.length ≤ offset
    · have hself : Run.round options bytes ⟨fronts, none, offset⟩ = ⟨fronts, none, offset⟩ :=
        Run.round_eq_self (Or.inr hend)
      rw [hself, Function.iterate_fixed hself, List.drop_eq_nil_of_le hend, decodeAllFrom_nil,
        Run.after, List.append_nil]
    have hdrop : bytes.drop offset ≠ [] := by simpa using hend
    have hround : Run.round options bytes ⟨fronts, none, offset⟩ = _ := if_neg (by simpa using hend)
    rw [hround]
    dsimp only
    cases hfront : decodePrefix options (bytes.drop offset) with
    | error failure =>
      rw [decodeAllFrom_of_error hdrop hfront, Run.after, List.append_nil]
      exact Function.iterate_fixed (Run.round_eq_self (Or.inl rfl)) rounds
    | ok front =>
      obtain ⟨hlow, hhigh⟩ := consumed_of_decodeFront hfront
      unfold minSize Header.size at hlow
      rw [List.length_drop] at hhigh
      dsimp only
      rw [ih (by omega) _ (by omega), decodeAllFrom_of_ok hfront, List.drop_drop, Run.after_after]

/-- Encodings in a row are read as canonical packets of their own sizes, and what follows them as if
it stood alone. On any input the loop over offsets comes to rest; what it read was written as the
octets in front of the offset where it stopped, and short of the end it stopped at the error of
what stands there. -/
theorem decodeAll_flatten (options : DecodeOptions) :
    (∀ (packets : List Packet) (wires : List Bytes) (tail : Bytes),
      packets.map encode = wires.map .ok →
        (∀ packet ∈ packets, options.versions.accepts packet.head.version) →
          let alone := decodeAll options tail
          decodeAll options (wires.flatten ++ tail) =
            ⟨packets.zipWith (fun packet wire ↦ ⟨packet.canonical, wire.length⟩) wires ++
              alone.fronts, alone.failure, wires.flatten.length + alone.offset⟩) ∧
      ∀ bytes : Bytes,
        let run := decodeAll options bytes
        (∀ rounds, bytes.length / 4 < rounds →
          (Run.round options bytes)^[rounds] ⟨[], none, 0⟩ = run) ∧
        run.offset ≤ bytes.length ∧
        (∃ wires : List Bytes, run.fronts.map (fun front ↦ front.packet.encode) = wires.map .ok ∧
          wires.flatten = bytes.take run.offset) ∧
        (run.failure = none ↔ run.offset = bytes.length) ∧
        ∀ failure, run.failure = some failure →
          decodePrefix options (bytes.drop run.offset) = .error failure := by
  refine ⟨fun packets wires tail h haccepts ↦ ?_, fun bytes ↦ ?_⟩
  · intro alone
    have hshift := @decodeAllFrom_add options tail 0 wires.flatten.length
    rw [decodeAll, decodeAllFrom_flatten h haccepts, Nat.zero_add,
      ← Nat.add_zero wires.flatten.length, hshift]
    rfl
  · intro run
    obtain ⟨wires, rest, hbytes, hencode, hoffset, hend⟩ :=
      exists_wires_decodeAllFrom options 0 bytes
    have hstop : run.offset = wires.flatten.length := hoffset.trans (Nat.zero_add _)
    have hrest : bytes.drop run.offset = rest := by rw [hstop, hbytes, List.drop_left]
    have hlength : bytes.length = run.offset + rest.length := by
      rw [hstop, hbytes, List.length_append]
    refine ⟨fun rounds hrounds ↦ ?_, by omega, ⟨wires, hencode, ?_⟩, ?_, fun failure hfailure ↦ ?_⟩
    · exact iterate_round (Nat.zero_le _) [] hrounds
    · rw [hstop, hbytes, List.take_left]
    · rcases hend with ⟨hnone, rfl⟩ | ⟨failure, hfailure, hne, -⟩
      · simp only [List.length_nil, Nat.add_zero] at hlength
        exact iff_of_true hnone hlength.symm
      · have hpos := List.length_pos_iff.mpr hne
        refine iff_of_false (fun hnone ↦ ?_) (by omega)
        exact Option.some_ne_none failure (hfailure.symm.trans hnone)
    · rcases hend with ⟨hnone, -⟩ | ⟨other, hother, -, hdecoded⟩
      · exact absurd (hfailure.symm.trans hnone) (Option.some_ne_none failure)
      · obtain rfl : failure = other := Option.some.inj (hfailure.symm.trans hother)
        rwa [hrest]

/-- Two packets and three octets of a third: both are read, and four rounds see the loop at rest in
front of what is too short. -/
theorem decodeAll_flatten_cut_third :
    let options : DecodeOptions := { versions := .any }
    let first : Packet := ⟨⟨999, 7⟩, ⟨.handshake, some .zero, .undecoded [0x68]⟩⟩
    let second : Packet := .ok []
    let bytes : Bytes := [0, 2, 7, 0, 0x68, 0, 1, 1, 1, 0, 9, 1]
    let run : Run := ⟨[⟨first.canonical, 5⟩, ⟨second.canonical, 4⟩], some (.tooShort 3), 9⟩
    decodeAll options bytes = run ∧ (Run.round options bytes)^[4] ⟨[], none, 0⟩ = run := by
  intro options first second bytes run
  obtain ⟨hflatten, hany⟩ := decodeAll_flatten options
  have hcut : decodeAll options [0, 9, 1] = ⟨[], some (.tooShort 3), 0⟩ :=
    decodeAllFrom_of_error (by decide) rfl
  have hfirst : first.encode = .ok [0, 2, 7, 0, 0x68] :=
    encode_eq_ok_iff.mpr ⟨⟨by decide, by decide⟩, by decide⟩
  have hsecond : second.encode = .ok [0, 1, 1, 1] :=
    encode_eq_ok_iff.mpr ⟨⟨by decide, by decide⟩, by decide⟩
  have hrun : decodeAll options bytes = run := by
    refine (hflatten [first, second] [[0, 2, 7, 0, 0x68], [0, 1, 1, 1]] [0, 9, 1] ?_ ?_).trans ?_
    · rw [List.map_cons, hfirst, List.map_cons, hsecond]
      rfl
    · intro packet _
      rfl
    · rw [hcut]
      rfl
  exact ⟨hrun, ((hany bytes).1 4 (by decide)).trans hrun⟩

end PeerLink.Packet
