import LoraGateway.Hex
import LoraGateway.Text.Alphanumeric
import LoraGateway.Text.Blank

/-!
# Patterns of field values

A directive can ask that the value of a field matches a pattern, which is a regular expression. No
event is decided by a pattern here, so that only its form counts: `Pattern.isWellFormed` looks at
one character at a time.

| form                           | what it is                                                   |
|--------------------------------|--------------------------------------------------------------|
| `x*`, `x+`, `x?`               | repetition of an item, which must be there                   |
| `(x)`, `(?flags:x)`, `(?<n>x)` | groups, no two of which have one name                        |
| `(?flags)`                     | flags for the rest of the group                              |
| `[x]`, `[^x]`, `[a-z]`         | classes, which may hold others; the ends of a range in order |
| `\x41`, `\n`, `\.`             | characters after a backslash                                 |
| `\A`, `\z`, `^`, `$`           | edges                                                        |
| `\d`, `\s`, `\w`, `\b`         | classes and edges of words, if they are those of ASCII       |

Patterns are about the characters of Unicode unless the flag `u` is off, but its tables are not at
hand. So its digits, blanks, words and categories have no form, nor has a character whose letter
case is to be ignored. With the flag off a pattern is about bytes, and what could match a part of a
character has no form (`State.accepts`).

Counts in braces have no form either, as their closing brace would end the field. Nor have
references to earlier groups and conditions on what comes next.
-/

namespace LoraGateway.Log.Pattern

/-- What a piece of a pattern stands for. -/
inductive Item
  /-- A character, or a byte if it is given by two digits. -/
  | char (c : Char) (asByte : Bool)
  /-- The digits, blanks or word characters, or all others. -/
  | charClass (negated : Bool)
  /-- The start or the end of the value. -/
  | edge
  /-- The start or the end of a word. -/
  | wordEdge
  deriving DecidableEq, Repr

/-- Where an escaped piece stands. -/
inductive Site
  | outside
  | inClass
  /-- At the end of a range of a class. -/
  | rangeEnd (low : Option Char)
  deriving DecidableEq, Repr

/-- The flags that decide on the form. -/
structure Flags where
  /-- Whether the letter case is ignored. -/
  caseless : Bool := false
  unicode : Bool := true
  /-- Whether blanks and comments are skipped. -/
  spaced : Bool := false
  deriving DecidableEq, Repr

/-- Sets flags that are given by their letters. Those after a hyphen are turned off. -/
def Flags.set (f : Flags) (on : Bool) : List Char → Flags
  | [] => f
  | '-' :: rest => f.set false rest
  | 'i' :: rest => { f with caseless := on }.set on rest
  | 'u' :: rest => { f with unicode := on }.set on rest
  | 'x' :: rest => { f with spaced := on }.set on rest
  | _ :: rest => f.set on rest

/-- Where the reader stands between two characters. -/
inductive Mode
  /-- Between items. -/
  | items (repeatable : Bool)
  /-- After the bracket that opens a class. -/
  | classStart (negatable : Bool)
  /-- After hyphens at the start of a class. -/
  | classHyphens
  /-- Between the pieces of a class. -/
  | classItems
  /-- In a class, after a character that is an operation if it is doubled. -/
  | classMark (c : Char)
  /-- After a piece of a class that may start a range. -/
  | classAfter (low : Option Char)
  /-- After the hyphen of what may be a range, and perhaps after a blank. -/
  | classHyphen (low : Option Char) (blank : Bool)
  /-- After a backslash. -/
  | escape (site : Site)
  /-- Before the last `left` digits of a character's code. -/
  | code (site : Site) (left value : Nat) (asByte : Bool)
  /-- After a parenthesis. -/
  | group
  /-- After a parenthesis and a question mark. -/
  | groupMark
  /-- After the `P` in front of a group's name. -/
  | nameMark
  /-- In the name of a group, which is kept in reverse. -/
  | groupName (read : List Char)
  /-- In the flags of a group, which are kept in reverse. -/
  | flags (read : List Char)
  deriving DecidableEq, Repr

/-- True where blanks and comments can be skipped. -/
def Mode.skipsBlanks : Mode → Bool
  | .escape _ | .groupMark | .nameMark | .groupName _ | .flags _ => false
  | _ => true

/-- The names of ASCII classes. -/
def classNames : List String :=
  ["alnum", "alpha", "ascii", "blank", "cntrl", "digit", "graph", "lower", "print", "punct",
    "space", "upper", "word", "xdigit"]

/-- True for the text in the brackets of a negated ASCII class. -/
def isNegatedName (text : List Char) : Bool :=
  classNames.any fun name => text == (":^" ++ name ++ ":").toList

/-- The state of the reader. -/
structure State where
  mode : Mode := .items false
  flags : Flags := {}
  /-- Whether the rest of the line is a comment. -/
  inComment : Bool := false
  /-- The flags outside each open group, from the innermost. -/
  groups : List Flags := []
  /-- What was read of each open class, from the innermost and in reverse. -/
  classes : List (List Char) := []
  /-- The names of groups, in reverse. -/
  names : List (List Char) := []
  deriving DecidableEq, Repr

namespace State

/-- Goes to another mode. -/
def go (s : State) (mode : Mode) : State :=
  { s with mode }

/-- Opens a group with flags of its own. -/
def openGroup (s : State) (flags : Flags) : State :=
  { s with mode := .items false, flags, groups := s.flags :: s.groups }

/-- Closes a group, which is an item itself. -/
def closeGroup? (s : State) : Option State :=
  match s.groups with
  | [] => none
  | flags :: groups => some { s with mode := .items true, flags, groups }

/-- Opens a class. -/
def openClass (s : State) : State :=
  { s with mode := .classStart true, classes := [] :: s.classes }

/-- Closes a class with the bracket that was read last. A class of bytes cannot hold a negated
    one. -/
def closeClass? (s : State) : Option State :=
  match s.classes with
  | [] => none
  | [_] => some { s with mode := .items true, classes := [] }
  | text :: classes =>
    if !s.flags.unicode && isNegatedName (text.drop 1).reverse then none
    else some { s with mode := .classItems, classes }

/-- True if a piece has a form under the flags, outside or inside a class. -/
def accepts (s : State) (inClass : Bool) : Item → Bool
  | .char c asByte =>
    if s.flags.unicode then !s.flags.caseless else c.toNat < 0x80 || !(inClass || asByte)
  | .charClass negated => !s.flags.unicode && !negated
  | .edge => !inClass
  | .wordEdge => !inClass && !s.flags.unicode

/-- Takes a piece outside of classes. -/
def takeItem? (s : State) (item : Item) : Option State :=
  if s.accepts false item then some (s.go (.items true)) else none

/-- Takes a piece of a class. -/
def takeInClass? (s : State) (item : Item) : Option State :=
  if s.accepts true item then
    match item with
    | .char c _ => some (s.go (.classAfter (some c)))
    | _ => some (s.go (.classAfter none))
  else none

/-- Takes a piece as the end of a range. -/
def takeRangeEnd? (s : State) (low : Option Char) (item : Item) : Option State :=
  match low, item with
  | some a, .char b _ => if a ≤ b && s.accepts true item then some (s.go .classItems) else none
  | _, _ => none

/-- Takes a piece at its site. -/
def take? (s : State) (item : Item) : Site → Option State
  | .outside => s.takeItem? item
  | .inClass => s.takeInClass? item
  | .rangeEnd low => s.takeRangeEnd? low item

/-- Reads a character between items. -/
def readItem? (s : State) (repeatable : Bool) (c : Char) : Option State :=
  match c with
  | '(' => some (s.go .group)
  | ')' => s.closeGroup?
  | '|' => some (s.go (.items false))
  | '*' | '+' | '?' => if repeatable then some (s.go (.items true)) else none
  | '{' => none
  | '[' => some s.openClass
  | '\\' => some (s.go (.escape .outside))
  | '.' => if s.flags.unicode then some (s.go (.items true)) else none
  | '^' | '$' => s.takeItem? .edge
  | _ => s.takeItem? (.char c false)

/-- Reads a character between the pieces of a class. -/
def readClassItem? (s : State) (c : Char) : Option State :=
  match c with
  | '[' => some s.openClass
  | ']' => s.closeClass?
  | '&' | '~' | '-' => some (s.go (.classMark c))
  | '\\' => some (s.go (.escape .inClass))
  | _ => s.takeInClass? (.char c false)

/-- Reads a character at the start of a class, where hyphens and then a bracket stand for
    themselves. -/
def readClassStart? (s : State) (negatable : Bool) (c : Char) : Option State :=
  match c, negatable with
  | '^', true => if s.flags.unicode then some (s.go (.classStart false)) else none
  | '-', _ => (s.takeInClass? (.char c false)).map (·.go .classHyphens)
  | ']', _ => (s.takeInClass? (.char c false)).map (·.go .classItems)
  | _, _ => s.readClassItem? c

/-- Reads a character after a piece of a class. -/
def readAfter? (s : State) (low : Option Char) (c : Char) : Option State :=
  if c = '-' then some (s.go (.classHyphen low false)) else s.readClassItem? c

/-- Reads a character after the hyphen of what may be a range. Two hyphens are an operation, unless
    there is a blank between them. -/
def readHyphen? (s : State) (low : Option Char) (blank : Bool) (c : Char) : Option State :=
  match c with
  | ']' => s.closeClass?
  | '-' => some (s.go (if blank then .classHyphen (some '-') false else .classItems))
  | '\\' => some (s.go (.escape (.rangeEnd low)))
  | _ => s.takeRangeEnd? low (.char c false)

/-- Reads the character after a backslash. -/
def readEscape? (s : State) (site : Site) (c : Char) : Option State :=
  match c with
  | 'x' => some (s.go (.code site 2 0 true))
  | 'u' => some (s.go (.code site 4 0 false))
  | 'U' => some (s.go (.code site 8 0 false))
  | 'd' | 's' | 'w' => s.take? (.charClass false) site
  | 'D' | 'S' | 'W' => s.take? (.charClass true) site
  | 'a' => s.take? (.char '\x07' false) site
  | 'f' => s.take? (.char '\x0c' false) site
  | 'n' => s.take? (.char '\n' false) site
  | 'r' => s.take? (.char '\r' false) site
  | 't' => s.take? (.char '\t' false) site
  | 'v' => s.take? (.char '\x0b' false) site
  | 'A' | 'z' => s.take? .edge site
  | 'b' | 'B' | '<' | '>' => s.take? .wordEdge site
  | _ => if c.isAlphanum || c.toNat ≥ 0x80 then none else s.take? (.char c false) site

/-- Reads a digit of a character's code. -/
def readCode? (s : State) (site : Site) (left value : Nat) (asByte : Bool) (c : Char) :
    Option State := do
  let digit ← Hex.ofDigit? c
  let value := 16 * value + digit
  if left ≤ 1 then
    guard value.isValidChar
    s.take? (.char (Char.ofNat value) asByte) site
  else pure (s.go (.code site (left - 1) value asByte))

/-- Reads a character of the name of a group. -/
def readName? (s : State) (read : List Char) (c : Char) : Option State :=
  if c = '>' then
    if read.isEmpty ∨ read ∈ s.names then none
    else some { s.openGroup s.flags with names := read :: s.names }
  else
    let isFirst := c == '_' || Text.isAlphanumeric c && !c.isDigit
    let isLater := c.isDigit || c == '.' || c == '[' || c == ']'
    if isFirst || !read.isEmpty && isLater then some (s.go (.groupName (c :: read))) else none

/-- Reads a character of the flags of a group. -/
def readFlag? (s : State) (read : List Char) (c : Char) : Option State :=
  let flags := s.flags.set true read.reverse
  if c = ':' then
    if read.head? = some '-' then none else some (s.openGroup flags)
  else if c = ')' then
    if read.isEmpty ∨ read.head? = some '-' then none
    else some { s with mode := .items false, flags }
  else if c ∈ ['i', 'm', 's', 'U', 'u', 'R', 'x', '-'] ∧ c ∉ read then
    some (s.go (.flags (c :: read)))
  else none

/-- Reads the character after a parenthesis and a question mark. -/
def readGroupMark? (s : State) (c : Char) : Option State :=
  match c with
  | '<' => some (s.go (.groupName []))
  | 'P' => some (s.go .nameMark)
  | _ => s.readFlag? [] c

/-- Reads a character that is not skipped. -/
def read? (s : State) (c : Char) : Option State :=
  match s.mode with
  | .items repeatable => s.readItem? repeatable c
  | .classStart negatable => s.readClassStart? negatable c
  | .classHyphens => if c = '-' then some s else s.readClassItem? c
  | .classItems => s.readClassItem? c
  | .classMark mark =>
    if c = mark then some (s.go .classItems)
    else do (← s.takeInClass? (.char mark false)).readAfter? (some mark) c
  | .classAfter low => s.readAfter? low c
  | .classHyphen low blank => s.readHyphen? low blank c
  | .escape site => s.readEscape? site c
  | .code site left value asByte => s.readCode? site left value asByte c
  | .group =>
    if c = '?' then some (s.go .groupMark) else (s.openGroup s.flags).readItem? false c
  | .groupMark => s.readGroupMark? c
  | .nameMark => if c = '<' then some (s.go (.groupName [])) else none
  | .groupName read => s.readName? read c
  | .flags read => s.readFlag? read c

/-- Skips a blank or the start of a comment. A character before it is not doubled. -/
def skip? (s : State) : Option State :=
  match s.mode with
  | .classMark mark => s.takeInClass? (.char mark false)
  | .classHyphen low _ => some (s.go (.classHyphen low true))
  | _ => some s

/-- Keeps a character with the text of the innermost class. -/
def note (s : State) (c : Char) : State :=
  match s.classes with
  | [] => s
  | text :: classes => { s with classes := (c :: text) :: classes }

/-- Reads a character. -/
def step? (s : State) (c : Char) : Option State :=
  let s := s.note c
  if s.inComment then some { s with inComment := c != '\n' }
  else if s.flags.spaced && s.mode.skipsBlanks && (Text.isBlank c || c == '#') then
    s.skip?.map fun s => { s with inComment := c == '#' }
  else s.read? c

/-- True if a pattern may end here. -/
def isFinal (s : State) : Bool :=
  match s.mode with
  | .items _ => s.groups.isEmpty
  | _ => false

end State

/-- True for the patterns with a proper form. -/
def isWellFormed (pattern : List Char) : Bool :=
  (pattern.foldlM State.step? {}).any State.isFinal

end LoraGateway.Log.Pattern
