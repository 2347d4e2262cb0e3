/-!
Readers take a value off the front of a text, or fail and leave the text to another reader. `many`
repeats a reader as long as it makes progress, so every reader built here ends.
-/

set_option autoImplicit false
set_option relaxedAutoImplicit false

namespace PeerLink.Text

/-- The value read, and the text behind it. -/
abbrev Reader (α : Type) := List Char → Option (α × List Char)

namespace Reader

variable {α β : Type}

/-- The text behind `expected`, if the text starts with it. -/
def skip? (expected : List Char) (text : List Char) : Option (List Char) :=
  expected.isPrefixOf? text

/-- What `step` reads off the front, over and over, until it fails or stands still. -/
def many (step : Reader α) (text : List Char) : List α × List Char :=
  match step text with
  | none => ([], text)
  | some (value, rest) =>
    if _h : rest.length < text.length then
      let (values, rest) := many step rest
      (value :: values, rest)
    else ([], text)
termination_by text.length

/-- Any number of values with commas between them. -/
def listed (item : Reader α) (text : List Char) : List α × List Char :=
  match item text with
  | none => ([], text)
  | some (value, rest) =>
    let (values, rest) := many (fun text ↦ (skip? [','] text).bind item) rest
    (value :: values, rest)

theorem many_of_none {step : Reader α} {text : List Char} (h : step text = none) :
    many step text = ([], text) := by
  unfold many
  simp [h]

theorem many_of_some {step : Reader α} {text rest : List Char} {value : α}
    (h : step text = some (value, rest)) (hrest : rest.length < text.length) :
    many step text = (value :: (many step rest).1, (many step rest).2) := by
  rw [many]
  simp [h, hrest]

theorem many_of_length_le {step : Reader α} {text rest : List Char} {value : α}
    (h : step text = some (value, rest)) (hrest : text.length ≤ rest.length) :
    many step text = ([], text) := by
  rw [many]
  simp [h, Nat.not_lt.mpr hrest]

theorem many_append {step : Reader α} {front rest : List Char} {value : α} (hfront : front ≠ [])
    (h : step (front ++ rest) = some (value, rest)) :
    many step (front ++ rest) = (value :: (many step rest).1, (many step rest).2) := by
  refine many_of_some h ?_
  rw [List.length_append]
  exact Nat.lt_add_of_pos_left (List.length_pos_iff.mpr hfront)

/-- A reader that undoes a printer undoes it over and over. -/
theorem many_flatMap {step : Reader α} {print : β → List Char} {value : β → α} {items : List β}
    (hprint : ∀ item ∈ items, print item ≠ [])
    (h : ∀ item ∈ items, ∀ rest, step (print item ++ rest) = some (value item, rest))
    (rest : List Char) :
    many step (items.flatMap print ++ rest) =
      (items.map value ++ (many step rest).1, (many step rest).2) := by
  induction items with
  | nil => rfl
  | cons item items ih =>
    rw [List.flatMap_cons, List.append_assoc,
      many_append (hprint item List.mem_cons_self) (h item List.mem_cons_self _),
      ih (fun other hother ↦ hprint other (List.mem_cons_of_mem _ hother))
        fun other hother ↦ h other (List.mem_cons_of_mem _ hother)]
    rfl

theorem skip?_cons_self (char : Char) (rest : List Char) :
    skip? [char] (char :: rest) = some rest := by
  show (if char == char then some rest else none) = some rest
  rw [if_pos (beq_self_eq_true char)]

theorem skip?_eq_none {char : Char} {text : List Char} (h : text.head? ≠ some char) :
    skip? [char] text = none := by
  cases text with
  | nil => rfl
  | cons first rest =>
    have hne : char ≠ first := fun heq ↦ h (congrArg some heq.symm)
    show (if char == first then some rest else none) = none
    rw [if_neg (by simpa using hne)]

end Reader

end PeerLink.Text
