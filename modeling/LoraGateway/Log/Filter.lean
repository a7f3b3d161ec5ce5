import LoraGateway.Log.Directive

/-!
# Filters of the log

Which events are shown is decided by directives: of those about an event, the most specific one
gives the level down to which it is shown (`Filter.shows`). An event that no directive is about is
not shown.

An event that takes work to make is only made if its level and target are followed
(`Filter.follows`). That is asked in the same way, but before the event is there: a directive about
a field then counts for an event without it too, and can hide events that would be shown.
-/

namespace LoraGateway.Log

/-- Which events are shown. -/
structure Filter where
  directives : List Directive
  deriving DecidableEq, Repr

namespace Filter

/-- Everything down to a level. -/
def downTo (l : Level) : Filter :=
  ⟨[{ rank := l.rank }]⟩

/-- The more specific of two directives about one event, the later one if both are alike. -/
def prefer (best : Option Directive) (d : Directive) : Option Directive :=
  match best with
  | some b => if b.yieldsTo d then some d else some b
  | none => some d

/-- The most specific of some directives. -/
def mostSpecific? (directives : List Directive) : Option Directive :=
  directives.foldl prefer none

/-- True if an event is shown. -/
def shows (f : Filter) (e : Event) : Bool :=
  (mostSpecific? (f.directives.filter (·.covers e))).any (e.level.rank ≤ ·.rank)

/-- True if events of a level and target are followed. -/
def follows (f : Filter) (level : Level) (target : String) : Bool :=
  (mostSpecific? (f.directives.filter (·.mayCover target))).any (level.rank ≤ ·.rank)

/-- Reads directives with commas between them. Without any, only errors are shown. -/
def ofText? (s : String) : Option Filter :=
  match (s.splitOn ",").filter (!·.isEmpty) with
  | [] => some (downTo .error)
  | parts => (parts.mapM Directive.ofText?).map Filter.mk

end Filter

end LoraGateway.Log
