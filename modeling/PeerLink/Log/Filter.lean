import PeerLink.Log.Event

/-!
Which events are written. A directive sets a level for all components or for those whose path
starts with its target; of several that concern a component the one with the longest target counts,
and a component that none concerns is silent.
-/

set_option autoImplicit false
set_option relaxedAutoImplicit false

namespace PeerLink.Log

/-- The least severe level that is let through; `none` is silence. -/
abbrev Threshold := Option Level

namespace Threshold

def admits (threshold : Threshold) (level : Level) : Bool :=
  threshold.any fun limit ↦ level.verbosity ≤ limit.verbosity

/-- A level by name, `off`, or a verbosity from nought to five. -/
def ofText? (text : List Char) : Option Threshold :=
  match text with
  | [digit] =>
    if '0' ≤ digit ∧ digit ≤ '5' then some (Level.ofVerbosity? (digit.toNat - '0'.toNat)) else none
  | _ =>
    if text.map Char.toLower = "off".toList then some none
    else (Level.ofWord? (String.ofList text)).map some

end Threshold

structure Directive where
  target : List Char := []
  threshold : Threshold
  deriving DecidableEq

namespace Directive

def isTargetChar (char : Char) : Bool := char.isAlphanum || char == '_' || char == ':' || char == '-'

def target? (text : List Char) : Option (List Char) :=
  if text ≠ [] ∧ text.all isTargetChar then some text else none

/-- A level, a target, or both with an equals sign between them. A target alone lets everything
through. -/
def ofText? (text : List Char) : Option Directive :=
  let target := text.takeWhile (· != '=')
  match text.dropWhile (· != '=') with
  | [] =>
    match Threshold.ofText? text with
    | some threshold => some { threshold }
    | none => (target? text).map fun target ↦ ⟨target, some .trace⟩
  | _ :: level => do return ⟨← target? target, ← Threshold.ofText? level⟩

def concerns (directive : Directive) (origin : Origin) : Bool :=
  directive.target.isPrefixOf origin.path.toList

end Directive

abbrev Filter := List Directive

namespace Filter

def ofLevel (level : Level) : Filter := [{ threshold := some level }]

/-- Directives with commas between them; without any, errors are let through. -/
def ofText? (text : String) : Option Filter := do
  let parts := (text.toList.splitOn ',').filter (· ≠ [])
  let directives ← parts.mapM Directive.ofText?
  return if directives.isEmpty then ofLevel .error else directives

/-- The directive that counts for a component: of equally long targets the last. -/
def directive? (filter : Filter) (origin : Origin) : Option Directive :=
  (filter.filter (·.concerns origin)).foldl
    (fun best directive ↦
      match best with
      | none => some directive
      | some best =>
        if directive.target.length < best.target.length then some best else some directive)
    none

def admits (filter : Filter) (event : Event) : Bool :=
  (filter.directive? event.origin).any fun directive ↦ directive.threshold.admits event.level

end Filter

end PeerLink.Log
