import LoraGateway.Decimal.Nearest
import LoraGateway.Log.Event
import LoraGateway.Log.Pattern
import LoraGateway.Text.Blank

/-!
# Directives of the log

A directive says of some events down to which level they are shown. Its text is a level alone, or a
target or a scope or both, and then a level after an equals sign or none for all levels.

| part   | form                   | which events                                |
|--------|------------------------|---------------------------------------------|
| target | `target`               | those whose target starts with it           |
| scope  | `[span]`               | those inside a span                         |
| scope  | `[{field}]`            | those that have a field                     |
| scope  | `[span{field=value}]`  | those inside a span whose field has a value |

There are no spans here, so a directive about them covers nothing. A directive may be asked about an
event (`covers`), or about a target when there is no event yet (`mayCover`).

Blanks around a directive are not skipped. Its form is that of the text between them, but its parts
are taken from the whole text, from as many characters in. So a level with a blank is no level, and
a target with one is the target of no event.
-/

namespace LoraGateway.Log

/-- Which events of a target a directive is about. -/
inductive Scope
  | all
  /-- Those that have a field. -/
  | withField (name : String)
  /-- Those inside a span. -/
  | inSpan
  deriving DecidableEq, Repr

/-- What is shown of the events of a target and scope: those down to a level of the given rank. -/
structure Directive where
  target : String := ""
  scope : Scope := .all
  rank : Nat
  deriving DecidableEq, Repr

/-- True if an event is within a scope. -/
def Scope.covers : Scope → Event → Bool
  | .all, _ => true
  | .withField name, e => e.hasField name
  | .inSpan, _ => false

namespace Directive

/-- True if a directive is about an event. -/
def covers (d : Directive) (e : Event) : Bool :=
  d.target.toList.isPrefixOf e.target.toList && d.scope.covers e

/-- True if a directive may be about an event of a target. Which fields the event has is not known
    yet, so it may be any. -/
def mayCover (d : Directive) (target : String) : Bool :=
  d.target.toList.isPrefixOf target.toList && d.scope != .inSpan

/-- True if, of two directives about one event, the second counts: a longer target comes before a
    shorter one, and a field before none. Of two fields it is the greater name that counts. -/
def yieldsTo (d other : Directive) : Bool :=
  if d.target.length = other.target.length then
    match d.scope, other.scope with
    | .withField a, .withField b => a ≤ b
    | .withField _, _ => false
    | _, _ => true
  else d.target.length < other.target.length

/-- The rank of a level in a directive: its name in any letter case, or a number. -/
def rankOfLevel? (level : List Char) : Option Nat :=
  match (String.ofList level).toLower with
  | "off" => some 0
  | "error" => some Level.error.rank
  | "warn" => some Level.warn.rank
  | "info" => some Level.info.rank
  | "debug" => some Level.debug.rank
  | "trace" => some Level.trace.rank
  | _ =>
    let digits := match level with
      | '+' :: rest => rest
      | _ => level
    (Decimal.nat? digits).filter (· ≤ Level.trace.rank)

/-- True for the characters that a target may start with. -/
def startsTarget (c : Char) : Bool :=
  c == '-' || c == ':' || c == '_' || Text.isAlphanumeric c

/-- The text of a scope: a span, and a field if there is one. -/
structure ScopeText where
  span : List Char
  field : Option (List Char)
  deriving DecidableEq, Repr

/-- Reads a scope after its opening bracket, with what follows its closing one. -/
def readScope? (s : List Char) : Option (ScopeText × List Char) :=
  let span := s.takeWhile fun c => c != ']' && c != '{'
  match s.drop span.length with
  | ']' :: rest => some (⟨span, none⟩, rest)
  | '{' :: inside =>
    let field := inside.takeWhile (· != '}')
    match inside.drop field.length with
    | '}' :: ']' :: rest => if field.isEmpty then none else some (⟨span, some field⟩, rest)
    | _ => none
  | _ => none

/-- True for the values that a field can be asked for: a number or a pattern. -/
def isFieldValue (value : List Char) : Bool :=
  (Decimal.float? value).isSome || Pattern.isWellFormed value

/-- The scope that a text gives. What follows a second equals sign in a field does not count. -/
def ScopeText.scope? (s : ScopeText) : Option Scope :=
  match s.field with
  | none => some .inSpan
  | some field =>
    let name := field.takeWhile (· != '=')
    match field.drop name.length with
    | [] => some (if s.span.isEmpty then .withField (String.ofList name) else .inSpan)
    | _ :: value =>
      if isFieldValue (value.takeWhile (· != '=')) then some .inSpan else none

/-- Reads a level after the other parts, if there is one. -/
def readLevel? : List Char → Option (Option (List Char))
  | [] => some none
  | '=' :: level => some (some level)
  | _ => none

/-- The parts of a directive. -/
structure Parts where
  target : List Char
  scope : Option ScopeText
  level : Option (List Char)
  deriving DecidableEq, Repr

/-- The parts of a text without blanks around it. -/
def Parts.ofText? (s : List Char) : Option Parts := do
  let target := s.takeWhile fun c => c != '[' && c != '='
  guard (target.head?.all startsTarget)
  match s.drop target.length with
  | '[' :: rest =>
    let (scope, rest) ← readScope? rest
    pure ⟨target, some scope, ← readLevel? rest⟩
  | rest =>
    guard (!target.isEmpty)
    pure ⟨target, none, ← readLevel? rest⟩

/-- The parts that a whole text has at the places of those of a text of the given length. A level
    runs to the end. -/
def Parts.within (p : Parts) (length : Nat) (whole : List Char) : Parts where
  target := whole.take p.target.length
  scope := p.scope.map fun s =>
    let start := p.target.length + 1
    { span := (whole.drop start).take s.span.length
      field := s.field.map fun field =>
        (whole.drop (start + s.span.length + 1)).take field.length }
  level := p.level.map fun level => whole.drop (length - level.length)

/-- The directive that a word gives: it is a level or else a target. -/
def ofWord (word : List Char) : Directive :=
  match rankOfLevel? word with
  | some rank => { rank }
  | none => { target := String.ofList word, rank := Level.trace.rank }

/-- The rank that the text of a level gives. Without a text it is that of all levels. -/
def rankAfterEquals? (level : List Char) : Option Nat :=
  if level.isEmpty then some Level.trace.rank else rankOfLevel? level

/-- Reads a directive. -/
def ofText? (s : String) : Option Directive := do
  let whole := s.toList
  let text := Text.trim whole
  let parts ← Parts.ofText? text
  match parts.within text.length whole with
  | ⟨_, none, none⟩ => pure (ofWord whole)
  | ⟨target, scope, level⟩ =>
    let scope ← (scope.map (·.scope?)).getD (some .all)
    let rank ← (level.map rankAfterEquals?).getD (some Level.trace.rank)
    pure { target := String.ofList target, scope, rank }

end Directive

end LoraGateway.Log
