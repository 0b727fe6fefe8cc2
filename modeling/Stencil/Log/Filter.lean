import Stencil.Log.Event
import Stencil.Decimal.Reader
import Stencil.Text.Alphanumeric
import Stencil.Text.Blank

/-!
# Log filters

A filter is a list of directives. A directive gives the least important level that passes, for the
events of one area or for all. Of the directives whose target starts the target of an event, the
longest decides; an event that no directive is about is dropped.
-/

namespace Stencil

/-- The levels that pass: those up to a level, or none. -/
abbrev Threshold := Option Level

namespace Threshold

/-- All thresholds with their words, in the order of their numbers. -/
def named : List (String × Threshold) :=
  [("off", none), ("error", some .error), ("warn", some .warn), ("info", some .info),
    ("debug", some .debug), ("trace", some .trace)]

/-- The word for a threshold. -/
def name : Threshold → String
  | none => "off"
  | some level => level.name

/-- Whether events of a level pass. -/
def admits (threshold : Threshold) (level : Level) : Bool :=
  match threshold with
  | none => false
  | some greatest => level.rank ≤ greatest.rank

/-- The number at hand, with an optional plus sign. -/
def number? (text : List Char) : Option Nat :=
  match text with
  | '-' :: _ => none
  | text => (Decimal.readInteger? text).map Int.toNat

/-- Reads a threshold: a word in any case, or a number from 0 to 5. -/
def ofText? (text : List Char) : Option Threshold :=
  match number? text with
  | some n => (named.map Prod.snd)[n]?
  | none => named.lookup (String.ofList (text.map Char.toLower))

end Threshold

/-- The threshold for the events of one area, or for all events. -/
structure Directive where
  target : Option String
  threshold : Threshold
  deriving DecidableEq, Repr

/-- Why a text is no filter. -/
inductive FilterFault where
  /-- A directive that does not start like one. -/
  | badDirective
  /-- A threshold that is neither a word for a level nor a number. -/
  | badThreshold
  deriving DecidableEq, Repr

namespace FilterFault

def message : FilterFault → String
  | .badDirective => "invalid filter directive"
  | .badThreshold =>
    "error parsing level filter: expected one of \"off\", \"error\", \"warn\", \"info\", "
      ++ "\"debug\", \"trace\", or a number 0-5"

end FilterFault

namespace Directive

/-- A directive as a text. -/
def text (directive : Directive) : String :=
  match directive.target with
  | some target => target ++ "=" ++ directive.threshold.name
  | none => directive.threshold.name

/-- Whether `c` may be the first character of a directive. -/
def isStart (c : Char) : Bool := Text.isAlphanumeric c || c = '-' || c = ':' || c = '_'

/-- Reads a directive: a threshold, a target, or both with an equals sign between them. A target
    without a threshold lets everything pass. The place of the equals sign is counted from the first
    character that is no blank, and the text is cut at that distance from its start. -/
def ofText (text : List Char) : Except FilterFault Directive :=
  let trimmed := Text.trim text
  match trimmed with
  | [] => .error .badDirective
  | c :: _ =>
    if !isStart c then .error .badDirective
    else match trimmed.findIdx? (· = '=') with
      | none =>
        match Threshold.ofText? text with
        | some threshold => .ok ⟨none, threshold⟩
        | none => .ok ⟨some (String.ofList text), some .trace⟩
      | some i =>
        let target := String.ofList (text.take i)
        let rest := text.drop (i + 1)
        if rest.isEmpty then .ok ⟨some target, some .trace⟩
        else match Threshold.ofText? rest with
          | some threshold => .ok ⟨some target, threshold⟩
          | none => .error .badThreshold

/-- Whether the directive is about the events of an area. -/
def isAbout (directive : Directive) (target : String) : Bool :=
  match directive.target with
  | some start => start.toList.isPrefixOf target.toList
  | none => true

/-- How closely the directive describes the events that it is about. -/
def closeness (directive : Directive) : Nat :=
  match directive.target with
  | some target => target.length + 1
  | none => 0

end Directive

/-- Directives, one for each target. -/
structure Filter where
  directives : List Directive
  deriving DecidableEq, Repr

namespace Filter

/-- Adds a directive, in place of the one for the same target. -/
def add (filter : Filter) (directive : Directive) : Filter :=
  ⟨filter.directives.filter (fun d => d.target ≠ directive.target) ++ [directive]⟩

/-- Reads directives with commas between them. Empty ones do not count. -/
def ofText (text : String) : Except FilterFault Filter := do
  let parts := (Text.split ',' text.toList).filter fun part => !part.isEmpty
  let directives ← parts.mapM Directive.ofText
  return directives.foldl add ⟨[]⟩

/-- The texts of the directives, in increasing order; one empty text if there are none. -/
def texts (filter : Filter) : List String :=
  match filter.directives.map Directive.text with
  | [] => [""]
  | texts => texts.mergeSort fun a b => a ≤ b

/-- The closest directive about the events of an area. -/
def directiveFor? (filter : Filter) (target : String) : Option Directive :=
  (filter.directives.filter (·.isAbout target)).foldl (fun best directive =>
    match best with
    | none => some directive
    | some other => if other.closeness < directive.closeness then some directive else some other)
    none

/-- Whether an event passes. Through a filter without directives, errors do. -/
def admits (filter : Filter) (event : Event) : Bool :=
  if filter.directives.isEmpty then event.level = .error
  else match filter.directiveFor? event.target with
    | some directive => directive.threshold.admits event.level
    | none => false

end Filter

end Stencil
