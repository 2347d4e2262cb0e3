import Mathlib.Data.List.Basic
import Mathlib.Data.List.TakeWhile
import PeerLink.Toml.Element
import PeerLink.Toml.Printer

/-!
What the printer writes for a single value is read back as that value, and the reader stops at the
line end behind it. A text is printed character by character, and every character is read back on
its own, whether it had to be escaped or not; an integer is printed as a word that can be nothing
but an integer.
-/

set_option autoImplicit false
set_option relaxedAutoImplicit false

namespace PeerLink.Toml

open Text (Reader)

/-! ### Words -/

section

variable {allowed : Char → Bool} {front : List Char} {behind : Char}
  (hfront : ∀ char ∈ front, allowed char = true) (hbehind : allowed behind = false)
  (rest : List Char)

include hfront hbehind

/-- A word ends in front of the first character that does not belong to it. -/
theorem takeWhile_word : (front ++ behind :: rest).takeWhile allowed = front := by
  rw [List.takeWhile_append_of_pos hfront, List.takeWhile_cons_of_neg (by simp [hbehind]),
    List.append_nil]

theorem dropWhile_word : (front ++ behind :: rest).dropWhile allowed = behind :: rest := by
  rw [List.dropWhile_append_of_pos hfront, List.dropWhile_cons_of_neg (by simp [hbehind])]

end

/-! ### Texts -/

theorem Printer.code_of_lt : ∀ code < 128,
    (Printer.code (Char.ofNat code)).length = 4 ∧
      Text.number? 16 (Printer.code (Char.ofNat code)) = some code := by
  decide +kernel

theorem coded_code {char : Char} (h : char.toNat < 128) (rest : List Char) :
    coded 4 (Printer.code char ++ rest) = some (char, rest) := by
  obtain ⟨hlength, hnumber⟩ := Printer.code_of_lt char.toNat h
  rw [Char.ofNat_toNat] at hlength hnumber
  have hvalid : char.toNat.isValidChar := .inl (by omega)
  unfold coded
  dsimp only
  rw [List.take_left' hlength, List.drop_left' hlength, hnumber]
  simp only [Option.bind_eq_bind, Option.bind_some, hlength, hvalid, and_self, if_true,
    Char.ofNat_toNat]

theorem lt_of_isControl {char : Char} (h : (char < ' ' || char == '\x7f') = true) :
    char.toNat < 128 := by
  rw [Bool.or_eq_true, decide_eq_true_eq, beq_iff_eq] at h
  rcases h with h | rfl
  · exact Nat.lt_trans h (by decide)
  · decide

theorem isPlain_of_not_isControl {char : Char} (h : ¬(char < ' ' || char == '\x7f') = true) :
    isPlain char = true := by
  rw [Bool.or_eq_true, decide_eq_true_eq, beq_iff_eq, not_or] at h
  unfold isPlain
  simp [Char.not_lt.mp h.1, h.2]

theorem basicChar_of_isPlain {char : Char} (h : isPlain char = true) (hquote : char ≠ '"')
    (hbackslash : char ≠ '\\') (rest : List Char) :
    basicChar (char :: rest) = some (char, rest) := by
  rw [basicChar.eq_2 char rest hbackslash, h, bne_iff_ne.mpr hquote]
  rfl

/-- Whether a character is printed as it is, escaped by name or escaped by its code, it is read back
as it was. -/
theorem basicChar_character (char : Char) (rest : List Char) :
    basicChar (Printer.character char ++ rest) = some (char, rest) := by
  unfold Printer.character
  split
  · rfl
  · rfl
  · rfl
  · rfl
  · rfl
  · rfl
  · rfl
  · rename_i hquote hbackslash
    split_ifs with hcontrol
    · exact coded_code (lt_of_isControl hcontrol) rest
    · exact basicChar_of_isPlain (isPlain_of_not_isControl hcontrol) hquote hbackslash rest

theorem Printer.exists_character (char : Char) :
    ∃ first rest, Printer.character char = first :: rest ∧ first ≠ '"' := by
  unfold Printer.character
  split
  case h_8 hquote _ =>
    split_ifs
    · exact ⟨_, _, rfl, by decide⟩
    · exact ⟨_, _, rfl, hquote⟩
  all_goals exact ⟨_, _, rfl, by decide⟩

theorem Printer.character_ne_nil (char : Char) : Printer.character char ≠ [] := by
  obtain ⟨first, rest, heq, -⟩ := Printer.exists_character char
  rw [heq]
  exact List.cons_ne_nil first rest

/-- The closing quote ends a text, because no character is printed with a quote in front. -/
theorem basic_characters (text : String) (rest : List Char) :
    basic (text.toList.flatMap Printer.character ++ '"' :: rest) = some (text, rest) := by
  have hquote : basicChar ('"' :: rest) = none := rfl
  unfold basic
  rw [Reader.many_flatMap (fun char _ ↦ Printer.character_ne_nil char)
      (fun char _ ↦ basicChar_character char),
    Reader.many_of_none hquote]
  simp

theorem quoted_of_basic {text : List Char} (h : ∀ rest, text ≠ '"' :: '"' :: rest) :
    quoted ('"' :: text) = basic text := by
  unfold quoted
  split
  · rename_i rest heq
    exact absurd (List.cons.inj heq).2 (h rest)
  · rename_i rest _ heq
    rw [(List.cons.inj heq).2]
  all_goals simp_all

/-- Two quotes at the front are an empty text, unless a third one follows. -/
theorem quoted_basic (text : String) (rest : List Char) (h : rest.head? ≠ some '"') :
    quoted (Printer.basic text ++ rest) = some (text, rest) := by
  have hprint : Printer.basic text ++ rest =
      '"' :: (text.toList.flatMap Printer.character ++ '"' :: rest) := by
    simp [Printer.basic]
  rw [hprint, quoted_of_basic, basic_characters]
  -- A second quote behind the first one could only close an empty text; then `h` rules out a third.
  intro others heq
  rcases htext : text.toList with _ | ⟨char, chars⟩
  · rw [htext] at heq
    simp_all
  · obtain ⟨first, behind, hchar, hfirst⟩ := Printer.exists_character char
    rw [htext, List.flatMap_cons, hchar] at heq
    exact hfirst (List.cons.inj heq).1

/-! ### Integers -/

/-- The highest digit of a number is no zero, unless the number is. -/
theorem eq_zero_of_head?_toDigits (value : Nat) (h : (Nat.toDigits 10 value).head? = some '0') :
    value = 0 := by
  induction value using Nat.strongRecOn with
  | ind value ih =>
    rcases Nat.lt_or_ge value 10 with hsmall | hlarge
    · rw [Nat.toDigits_of_lt_base hsmall] at h
      exact Nat.digitChar_eq_zero.mp (Option.some.inj h)
    · rw [Nat.toDigits_of_base_le (by decide) hlarge,
        List.head?_append_of_ne_nil _ Nat.toDigits_ne_nil] at h
      have hzero : value / 10 = 0 := ih (value / 10) (by omega) h
      omega

namespace Scalar

theorem ungroup?_of_isDigit {digits : List Char} (hdigits : ∀ char ∈ digits, char.isDigit)
    (hne : digits ≠ []) : ungroup? 10 digits = some digits := by
  induction digits with
  | nil => exact absurd rfl hne
  | cons char others ih =>
    have hchar : Text.isDigit 10 char = true := by
      rw [Text.isDigit, Text.digit?_of_isDigit (hdigits char List.mem_cons_self)]
      rfl
    rcases others with _ | ⟨next, others⟩
    · unfold ungroup?
      rw [if_pos hchar]
    · have hnext : next ≠ '_' := by
        rintro rfl
        exact absurd (hdigits '_' (by simp)) (by decide)
      have hothers := ih (fun other hother ↦ hdigits other (List.mem_cons_of_mem _ hother))
        (List.cons_ne_nil _ _)
      unfold ungroup?
      simp [hchar, hothers, hnext]

theorem plain?_toDigits (value : Nat) : plain? (Nat.toDigits 10 value) = some value := by
  have hdigits := Text.isDigit_toDigits value
  have hzeros : ¬((Nat.toDigits 10 value).head? = some '0' ∧ Nat.toDigits 10 value ≠ ['0']) := by
    rintro ⟨hhead, hne⟩
    refine hne ?_
    rw [eq_zero_of_head?_toDigits value hhead]
    rfl
  rw [plain?, if_neg hzeros, grouped?, ungroup?_of_isDigit hdigits Nat.toDigits_ne_nil,
    Option.map_some, Text.ofDigits_eq_ofDigitChars hdigits, Nat.ofDigitChars_ten_toDigits]

/-- The minus sign comes off again, and nothing else does. -/
theorem sign_integer (value : Int) :
    ∃ negative, sign (Printer.atom (.integer value)) =
        (negative, Nat.toDigits 10 value.natAbs) ∧
      signed negative value.natAbs = value := by
  by_cases hnegative : value < 0
  · refine ⟨true, ?_, ?_⟩
    · simp [Printer.atom, hnegative, sign]
    · rw [signed, if_pos rfl]
      omega
  · refine ⟨false, ?_, ?_⟩
    · have hdigits := Text.isDigit_toDigits value.natAbs
      rw [Printer.atom, if_neg hnegative]
      unfold sign
      split
      · rename_i rest heq
        exact absurd (hdigits '-' (by simp [heq])) (by decide)
      · rename_i rest heq
        exact absurd (hdigits '+' (by simp [heq])) (by decide)
      · rfl
    · rw [signed, if_neg Bool.false_ne_true]
      omega

/-- A printed integer has digits only behind its first character. -/
theorem isDigit_of_mem_tail_integer (value : Int) :
    ∀ char ∈ (Printer.atom (.integer value)).tail, char.isDigit := by
  intro char hchar
  rw [Printer.atom] at hchar
  split_ifs at hchar
  · exact Text.isDigit_toDigits value.natAbs char hchar
  · exact Text.isDigit_toDigits value.natAbs char (List.mem_of_mem_tail hchar)

theorem integer_ne_nil (value : Int) : Printer.atom (.integer value) ≠ [] := by
  rw [Printer.atom]
  split_ifs
  · exact List.cons_ne_nil _ _
  · exact Nat.toDigits_ne_nil

theorem isWordChar_of_isDigit {char : Char} (h : char.isDigit) : isWordChar char = true := by
  simp [isWordChar, Char.isAlphanum, h]

theorem isWordChar_integer (value : Int) :
    ∀ char ∈ Printer.atom (.integer value), isWordChar char := by
  have hdigits : ∀ char ∈ Nat.toDigits 10 value.natAbs, isWordChar char := fun char hchar ↦
    isWordChar_of_isDigit (Text.isDigit_toDigits value.natAbs char hchar)
  rw [Printer.atom]
  split_ifs
  · exact List.forall_mem_cons.mpr ⟨by decide, hdigits⟩
  · exact hdigits

end Scalar

namespace Moment

theorem drop_of_fixed {width value : Nat} {text rest : List Char}
    (h : fixed width text = some (value, rest)) : rest = text.drop width := by
  unfold fixed at h
  split_ifs at h
  obtain ⟨_, _, heq⟩ := Option.map_eq_some_iff.mp h
  exact (Prod.mk.inj heq).2.symm

theorem drop_of_pair {limit value : Nat} {text rest : List Char}
    (h : pair limit text = some (value, rest)) : rest = text.drop 2 :=
  drop_of_fixed (Option.filter_eq_some_iff.mp h).1

/-- Behind the first character, digits alone are no place for a mark that is none. -/
theorem skip?_drop_eq_none {text : List Char} (h : ∀ char ∈ text.tail, char.isDigit)
    (mark : Char) (hmark : mark.isDigit = false) (count : Nat) :
    Reader.skip? [mark] (text.drop (count + 1)) = none := by
  refine Reader.skip?_eq_none fun hhead ↦ ?_
  have hmem : mark ∈ text.drop (count + 1) := List.mem_of_mem_head? hhead
  rw [← List.drop_tail] at hmem
  exact absurd (h mark (List.mem_of_mem_drop hmem)) (by simp [hmark])

theorem skipDate?_eq_none {text : List Char} (h : ∀ char ∈ text.tail, char.isDigit) :
    skipDate? text = none := by
  unfold skipDate?
  rcases hyear : fixed 4 text with _ | ⟨year, rest⟩
  · rfl
  · rw [drop_of_fixed hyear]
    simp [skip?_drop_eq_none h '-' rfl 3]

theorem skipTime?_eq_none {text : List Char} (h : ∀ char ∈ text.tail, char.isDigit) :
    skipTime? text = none := by
  unfold skipTime?
  rcases hhour : pair 23 text with _ | ⟨hour, rest⟩
  · rfl
  · rw [drop_of_pair hhour]
    simp [skip?_drop_eq_none h ':' rfl 1]

end Moment

namespace Scalar

theorem integer?_integer {value : Int} (h : (Atom.integer value).fits = true) :
    integer? (Printer.atom (.integer value)) = some value := by
  have hrange : leastInteger ≤ value ∧ value ≤ greatestInteger := by simpa [Atom.fits] using h
  obtain ⟨negative, hsign, hsigned⟩ := sign_integer value
  have hletter : ∀ first letter rest,
      letter.isDigit = false → Printer.atom (.integer value) ≠ first :: letter :: rest := by
    intro first letter rest hletter heq
    have hdigit := isDigit_of_mem_tail_integer value letter (by simp [heq])
    simp [hletter] at hdigit
  unfold integer?
  split
  · rename_i heq
    exact absurd heq (hletter _ _ _ rfl)
  · rename_i heq
    exact absurd heq (hletter _ _ _ rfl)
  · rename_i heq
    exact absurd heq (hletter _ _ _ rfl)
  · simp [hsign, plain?_toDigits, hsigned, hrange]

/-- A printed integer is neither a boolean nor a date nor a time. -/
theorem ofWord?_integer {value : Int} (h : (Atom.integer value).fits = true) :
    ofWord? (Printer.atom (.integer value)) = some (.integer value) := by
  have htail := isDigit_of_mem_tail_integer value
  have htrue : Printer.atom (.integer value) ≠ "true".toList := fun heq ↦
    absurd (htail 'r' (by simp [heq])) (by decide)
  have hfalse : Printer.atom (.integer value) ≠ "false".toList := fun heq ↦
    absurd (htail 'a' (by simp [heq])) (by decide)
  rw [ofWord?, if_neg htrue, if_neg hfalse, Moment.isDate, Moment.isTime, Moment.isDateTime,
    Moment.skipDate?_eq_none htail, Moment.skipTime?_eq_none htail, integer?_integer h]
  rfl

/-- A word ends with its line. -/
theorem reader_of_isWordChar {text : List Char} (h : ∀ char ∈ text, isWordChar char)
    (rest : List Char) :
    reader (text ++ '\n' :: rest) = (ofWord? text).map (·, '\n' :: rest) := by
  have hend : isWordChar '\n' = false := rfl
  unfold reader word
  rw [takeWhile_word h hend, dropWhile_word h hend]
  rfl

end Scalar

/-! ### Values -/

theorem isWordChar_boolean (value : Bool) :
    ∀ char ∈ Printer.atom (.boolean value), Scalar.isWordChar char := by
  have hwords : (Printer.atom (.boolean value)).all Scalar.isWordChar = true := by
    cases value <;> rfl
  exact List.all_eq_true.mp hwords

/-- Neither a quote nor a bracket nor a brace can stand in a word. -/
theorem element_of_isWordChar (depth : Nat) {text : List Char} (hne : text ≠ [])
    (h : ∀ char ∈ text, Scalar.isWordChar char) (rest : List Char) :
    element depth (text ++ '\n' :: rest) = (Scalar.ofWord? text).map (·, '\n' :: rest) := by
  have hfront : ∀ char, Scalar.isWordChar char = false →
      ∀ others, text ++ '\n' :: rest ≠ char :: others := by
    intro char hchar others heq
    obtain ⟨first, behind, rfl⟩ := List.exists_cons_of_ne_nil hne
    have hfirst := h first List.mem_cons_self
    rw [(List.cons.inj heq).1, hchar] at hfirst
    contradiction
  rw [element.eq_7 depth _ (hfront '"' rfl) (hfront '\'' rfl) (hfront '[' rfl) (hfront '{' rfl),
    Scalar.reader_of_isWordChar h rest]

/-- The value at the end of a line is the one that was printed there. -/
theorem element_atom (depth : Nat) {atom : Atom} (h : atom.fits = true) (rest : List Char) :
    element depth (Printer.atom atom ++ '\n' :: rest) = some (atom.value, '\n' :: rest) := by
  rcases atom with value | value | text
  · rw [element_of_isWordChar depth (by cases value <;> decide) (isWordChar_boolean value)]
    cases value <;> rfl
  · rw [element_of_isWordChar depth (Scalar.integer_ne_nil value)
        (Scalar.isWordChar_integer value), Scalar.ofWord?_integer h]
    rfl
  · have hquoted := quoted_basic text ('\n' :: rest) (by simp)
    rw [Printer.basic, List.cons_append, List.cons_append] at hquoted
    rw [Printer.atom, Printer.basic, List.cons_append, List.cons_append, element.eq_1, hquoted]
    rfl

/-- A blank belongs to no class of characters without the space and the tab. -/
theorem isBlank_eq_false (allowed : Char → Bool) (hspace : allowed ' ' = false)
    (htab : allowed '\t' = false) {char : Char} (h : allowed char = true) :
    isBlank char = false := by
  rw [isBlank, Bool.or_eq_false_iff, beq_eq_false_iff_ne, beq_eq_false_iff_ne]
  constructor
  · rintro rfl
    exact absurd h (by simp [hspace])
  · rintro rfl
    exact absurd h (by simp [htab])

theorem Printer.exists_atom (atom : Atom) :
    ∃ first others, Printer.atom atom = first :: others ∧ isBlank first = false := by
  rcases atom with value | value | text
  · cases value <;> exact ⟨_, _, rfl, by decide⟩
  · obtain ⟨first, others, heq⟩ := List.exists_cons_of_ne_nil (Scalar.integer_ne_nil value)
    have hfirst := Scalar.isWordChar_integer value first (by simp [heq])
    exact ⟨first, others, heq, isBlank_eq_false Scalar.isWordChar rfl rfl hfirst⟩
  · exact ⟨_, _, rfl, by decide⟩

theorem skipBlanks_atom (atom : Atom) (rest : List Char) :
    skipBlanks (Printer.atom atom ++ rest) = Printer.atom atom ++ rest := by
  obtain ⟨first, others, heq, hfirst⟩ := Printer.exists_atom atom
  rw [heq, List.cons_append, skipBlanks, List.dropWhile_cons_of_neg (by simp [hfirst])]

end PeerLink.Toml
