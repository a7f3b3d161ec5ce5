import Mathlib.Data.List.TakeDrop
import LoraGateway.Hex
import LoraGateway.Proofs.JsonLexing
import LoraGateway.Proofs.JsonParsing
import LoraGateway.Proofs.JsonSyntax

/-!
# The grammar of JSON texts

Which characters write which syntax is said by the rules of JSON: with blanks around every token,
every form of numbers and every escape in strings (`Grammar.Value`, `Grammar.Element`). A text is a
text of the value of its syntax (`Grammar.IsText`).

* `Grammar.Number.ofChars?_eq`, `Grammar.Characters.run_append`: numbers and strings are read as
  what they write;
* `Grammar.Value.lexes`, `Grammar.Element.lexes`: so are values, by induction on how they are
  written;
* `Grammar.Element.ofText?_eq`: every text of the grammar is read as its syntax. So a text is a text
  of one value at most (`Grammar.IsText.unique`).
-/

namespace LoraGateway.Json

namespace Grammar

/-! ## The grammar -/

/-- Characters that may stand around a token. -/
def Spaces (cs : List Char) : Prop :=
  ∀ c ∈ cs, c ∈ [' ', '\t', '\n', '\r']

/-- One or more digits. -/
def Digits (cs : List Char) : Prop :=
  cs ≠ [] ∧ ∀ c ∈ cs, c.isDigit = true

/-- A sign, with whether it is a minus sign. -/
inductive Sign : List Char → Bool → Prop
  | none : Sign [] false
  | minus : Sign ['-'] true

/-- The digits before the point: without superfluous zeros. -/
def Whole (cs : List Char) : Prop :=
  Digits cs ∧ (cs.head? = some '0' → cs = ['0'])

/-- A fraction, with its digits. -/
inductive Fraction : List Char → List Char → Prop
  | none : Fraction [] []
  | point {ds : List Char} (h : Digits ds) : Fraction ('.' :: ds) ds

/-- The sign of an exponent, with whether it is a minus sign. -/
inductive ExponentSign : List Char → Bool → Prop
  | none : ExponentSign [] false
  | plus : ExponentSign ['+'] false
  | minus : ExponentSign ['-'] true

/-- An exponent, with its value. -/
inductive Exponent : List Char → Option Int → Prop
  | none : Exponent [] none
  | mark {mark : Char} {sign ds : List Char} {negative : Bool} (hmark : mark ∈ ['e', 'E'])
    (hsign : ExponentSign sign negative) (h : Digits ds) :
    Exponent (mark :: (sign ++ ds))
      (some (if negative then -(Decimal.value ds : Int) else Decimal.value ds))

/-- A number. -/
inductive Number : List Char → Numeral → Prop
  | mk {sign whole fraction ds exponent : List Char} {negative : Bool} {e : Option Int}
    (hsign : Sign sign negative) (hwhole : Whole whole) (hfraction : Fraction fraction ds)
    (hexponent : Exponent exponent e) :
    Number (sign ++ (whole ++ (fraction ++ exponent))) ⟨negative, whole, ds, e⟩

/-- The letters that may stand behind a backslash, with the characters that they stand for. -/
def escapes : List (Char × Char) :=
  [('"', '"'), ('\\', '\\'), ('/', '/'), ('b', '\x08'), ('f', '\x0c'), ('n', '\n'), ('r', '\r'),
    ('t', '\t')]

/-- The characters inside quotes, with the pieces that they stand for. -/
inductive Characters : List Char → List Piece → Prop
  | nil : Characters [] []
  | char {c : Char} {cs : List Char} {ps : List Piece} (hcontrol : 0x20 ≤ c.toNat)
    (hquote : c ≠ '"') (hbackslash : c ≠ '\\') (h : Characters cs ps) :
    Characters (c :: cs) (.char c :: ps)
  | escape {letter c : Char} {cs : List Char} {ps : List Piece} (hletter : (letter, c) ∈ escapes)
    (h : Characters cs ps) : Characters ('\\' :: letter :: cs) (.char c :: ps)
  | unit {a b c d : Char} {i j k l : Nat} {cs : List Char} {ps : List Piece}
    (ha : Hex.ofDigit? a = some i) (hb : Hex.ofDigit? b = some j) (hc : Hex.ofDigit? c = some k)
    (hd : Hex.ofDigit? d = some l) (h : Characters cs ps) :
    Characters ('\\' :: 'u' :: a :: b :: c :: d :: cs)
      (.unit (16 * (16 * (16 * i + j) + k) + l) :: ps)

/-- A string, with the text that it stands for. -/
inductive Quoted : List Char → Option String → Prop
  | mk {cs : List Char} {ps : List Piece} (h : Characters cs ps) :
    Quoted ('"' :: (cs ++ ['"'])) ((Piece.text? ps).map String.ofList)

mutual

/-- A value without blanks around it. -/
inductive Value : List Char → Syntax → Prop
  | null : Value ['n', 'u', 'l', 'l'] .null
  | true : Value ['t', 'r', 'u', 'e'] (.bool true)
  | false : Value ['f', 'a', 'l', 's', 'e'] (.bool false)
  | number {cs : List Char} {n : Numeral} (h : Number cs n) : Value cs (.number n)
  | string {cs : List Char} {s : Option String} (h : Quoted cs s) : Value cs (.string s)
  | emptyArray {cs : List Char} (h : Spaces cs) : Value ('[' :: (cs ++ [']'])) (.array [])
  | array {cs : List Char} {items : List Syntax} (h : Elements cs items) :
    Value ('[' :: (cs ++ [']'])) (.array items)
  | emptyObject {cs : List Char} (h : Spaces cs) : Value ('{' :: (cs ++ ['}'])) (.object [])
  | object {cs : List Char} {members : List (Option String × Syntax)} (h : Members cs members) :
    Value ('{' :: (cs ++ ['}'])) (.object members)

/-- A value with blanks around it. -/
inductive Element : List Char → Syntax → Prop
  | mk {before cs after : List Char} {s : Syntax} (hbefore : Spaces before) (h : Value cs s)
    (hafter : Spaces after) : Element (before ++ (cs ++ after)) s

/-- The items of an array that is not empty. -/
inductive Elements : List Char → List Syntax → Prop
  | one {cs : List Char} {s : Syntax} (h : Element cs s) : Elements cs [s]
  | more {cs ds : List Char} {s t : Syntax} {items : List Syntax} (h : Element cs s)
    (hrest : Elements ds (t :: items)) : Elements (cs ++ ',' :: ds) (s :: t :: items)

/-- A member of an object. -/
inductive Member : List Char → Option String × Syntax → Prop
  | mk {before cs after ds : List Char} {name : Option String} {s : Syntax}
    (hbefore : Spaces before) (hname : Quoted cs name) (hafter : Spaces after)
    (h : Element ds s) : Member (before ++ (cs ++ (after ++ ':' :: ds))) (name, s)

/-- The members of an object that is not empty. -/
inductive Members : List Char → List (Option String × Syntax) → Prop
  | one {cs : List Char} {m : Option String × Syntax} (h : Member cs m) : Members cs [m]
  | more {cs ds : List Char} {m n : Option String × Syntax}
    {members : List (Option String × Syntax)} (h : Member cs m)
    (hrest : Members ds (n :: members)) : Members (cs ++ ',' :: ds) (m :: n :: members)

end

/-- A text of a value: the value of its syntax. -/
def IsText (text : String) (v : Json) : Prop :=
  ∃ s, Element text.toList s ∧ s.value? = some v

/-! ## Reading numbers -/

theorem takeWhile_isDigit {ds rest : List Char} (hds : ∀ c ∈ ds, c.isDigit = true)
    (hrest : ∀ c ∈ rest.head?, c.isDigit = false) :
    (ds ++ rest).takeWhile Char.isDigit = ds := by
  rw [List.takeWhile_append_of_pos hds]
  cases rest with
  | nil => simp
  | cons c rest =>
    have hc : ¬c.isDigit = true := by rw [hrest c rfl]; nofun
    rw [List.takeWhile_cons_of_neg hc, List.append_nil]

theorem dropWhile_isDigit {ds rest : List Char} (hds : ∀ c ∈ ds, c.isDigit = true)
    (hrest : ∀ c ∈ rest.head?, c.isDigit = false) :
    (ds ++ rest).dropWhile Char.isDigit = rest := by
  have h := List.takeWhile_append_dropWhile (p := Char.isDigit) (l := ds ++ rest)
  rwa [takeWhile_isDigit hds hrest, List.append_cancel_left_eq] at h

theorem Digits.isNumber {ds : List Char} (h : Digits ds) : Decimal.isNumber ds = true := by
  obtain ⟨hne, hall⟩ := h
  rw [Decimal.isNumber, List.all_eq_true.2 hall, Bool.and_true]
  simpa using hne

theorem Whole.isWhole {cs : List Char} (h : Whole cs) : Numeral.isWhole cs = true := by
  obtain ⟨hdigits, hzero⟩ := h
  have hnumber := hdigits.isNumber
  match cs with
  | [] => exact absurd rfl hdigits.1
  | c :: rest =>
    by_cases hc : c = '0'
    · rw [hzero (by rw [hc]; rfl)]
      rfl
    · rw [Numeral.isWhole.eq_2 _ _ (fun h => absurd h hc), hnumber, Bool.and_true]
      simpa using hc

/-- What comes behind the digits of a number. -/
def Stops (cs : List Char) : Prop :=
  ∀ c ∈ cs.head?, c.isDigit = false ∧ c ≠ '.'

theorem Exponent.stops {cs : List Char} {e : Option Int} (h : Exponent cs e) : Stops cs := by
  cases h with
  | none => nofun
  | mark hmark =>
    rintro _ ⟨⟩
    simp only [List.mem_cons, List.not_mem_nil, or_false] at hmark
    rcases hmark with rfl | rfl <;> decide

theorem Exponent.exponent?_eq {cs : List Char} {e : Option Int} (h : Exponent cs e) :
    Numeral.exponent? cs = some e := by
  cases h with
  | none => rfl
  | @mark mark sign ds negative hmark hsign hdigits =>
    have hmark' : (mark == 'e' || mark == 'E') = true := by simpa using hmark
    have hsplit : Decimal.splitSign (sign ++ ds) = (negative, ds) := by
      cases hsign with
      | plus => rfl
      | minus => rfl
      | none =>
        -- Without a sign, the first digit is not taken for one.
        obtain ⟨hne, hall⟩ := hdigits
        match ds with
        | [] => exact absurd rfl hne
        | d :: rest =>
          have hd : d.isDigit = true := hall d List.mem_cons_self
          rw [List.nil_append, Decimal.splitSign.eq_3]
          · rintro r ⟨⟩
            cases hd
          · rintro r ⟨⟩
            cases hd
    rw [Numeral.exponent?, if_pos hmark', Decimal.signed?, hsplit]
    simp [Decimal.nat?, hdigits.isNumber]

theorem Fraction.splitFraction?_append {cs ds rest : List Char} (h : Fraction cs ds)
    (hrest : Stops rest) : Numeral.splitFraction? (cs ++ rest) = some (ds, rest) := by
  cases h with
  | none =>
    cases rest with
    | nil => rfl
    | cons c rest =>
      rw [List.nil_append, Numeral.splitFraction?.eq_2]
      rintro r ⟨⟩
      exact (hrest _ rfl).2 rfl
  | point hdigits =>
    have hstop : ∀ c ∈ rest.head?, c.isDigit = false := fun c hc => (hrest c hc).1
    simp [Numeral.splitFraction?, takeWhile_isDigit hdigits.2 hstop,
      dropWhile_isDigit hdigits.2 hstop, hdigits.1]

theorem Fraction.head?_append {cs ds rest : List Char} (h : Fraction cs ds) (hrest : Stops rest) :
    ∀ c ∈ (cs ++ rest).head?, c.isDigit = false := by
  cases h with
  | none => exact fun c hc => (hrest c hc).1
  | point _ =>
    rintro _ ⟨⟩
    rfl

theorem Number.ofChars?_eq {cs : List Char} {n : Numeral} (h : Number cs n) :
    Numeral.ofChars? cs = some n := by
  obtain ⟨hsign, hwhole, hfraction, hexponent⟩ := h
  rename_i sign whole fraction ds exponent negative e
  -- Behind the sign, the parts of a number are found one after the other.
  have hstop := hfraction.head?_append hexponent.stops
  have htake := takeWhile_isDigit hwhole.1.2 hstop
  have hdrop := dropWhile_isDigit hwhole.1.2 hstop
  have hparts := hfraction.splitFraction?_append hexponent.stops
  cases hsign with
  | minus =>
    simp [Numeral.ofChars?, htake, hdrop, hwhole.isWhole, hparts, hexponent.exponent?_eq]
  | none =>
    have hminus : ∀ rest, whole ++ (fraction ++ exponent) ≠ '-' :: rest := by
      intro rest hrest
      rw [hrest] at htake
      exact hwhole.1.1 htake.symm
    simp [Numeral.ofChars?, htake, hdrop, hwhole.isWhole, hparts, hexponent.exponent?_eq]

theorem Fraction.isNumberChar {cs ds : List Char} (h : Fraction cs ds) :
    ∀ c ∈ cs, Lexer.isNumberChar c = true := by
  cases h with
  | none => nofun
  | point h =>
    exact List.forall_mem_cons.2 ⟨rfl, fun c hc => Lexer.isNumberChar_of_isDigit (h.2 c hc)⟩

theorem Exponent.isNumberChar {cs : List Char} {e : Option Int} (h : Exponent cs e) :
    ∀ c ∈ cs, Lexer.isNumberChar c = true := by
  cases h with
  | none => nofun
  | @mark mark sign ds negative hmark hsign hdigits =>
    have hmark' : Lexer.isNumberChar mark = true := by
      simp only [List.mem_cons, List.not_mem_nil, or_false] at hmark
      rcases hmark with rfl | rfl <;> rfl
    have hsign' : ∀ c ∈ sign, Lexer.isNumberChar c = true := by
      cases hsign <;> simp [Lexer.isNumberChar]
    exact List.forall_mem_cons.2 ⟨hmark', List.forall_mem_append.2
      ⟨hsign', fun c hc => Lexer.isNumberChar_of_isDigit (hdigits.2 c hc)⟩⟩

theorem Number.lexes {cs : List Char} {n : Numeral} (h : Number cs n) :
    Lexer.Lexes cs [.number n] := by
  have hread := h.ofChars?_eq
  obtain ⟨hsign, hwhole, hfraction, hexponent⟩ := h
  rename_i sign whole fraction ds exponent negative e
  have hdigit {c : Char} (hc : c ∈ whole) : c.isDigit = true := hwhole.1.2 c hc
  have hbehind := List.forall_mem_append.2 ⟨hfraction.isNumberChar, hexponent.isNumberChar⟩
  cases hsign with
  | minus =>
    rw [List.singleton_append] at hread ⊢
    exact Lexer.lexes_numeral hread rfl (List.forall_mem_append.2
      ⟨fun c hc => Lexer.isNumberChar_of_isDigit (hdigit hc), hbehind⟩)
  | none =>
    match whole with
    | [] => exact absurd rfl hwhole.1.1
    | d :: rest =>
      exact Lexer.lexes_numeral hread (Lexer.start_of_isDigit (hdigit List.mem_cons_self))
        (List.forall_mem_append.2 ⟨fun c hc =>
          Lexer.isNumberChar_of_isDigit (hdigit (List.mem_cons_of_mem _ hc)), hbehind⟩)

/-! ## Reading strings -/

theorem hexDigit?_eq (c : Char) : Lexer.hexDigit? c = Hex.ofDigit? c := by
  have hdigit : c.isDigit = true ↔ '0' ≤ c ∧ c ≤ '9' := by
    simp only [Char.isDigit, Bool.and_eq_true, decide_eq_true_eq]
    exact Iff.rfl
  simp only [Lexer.hexDigit?, Hex.ofDigit?, hdigit]

theorem escaped?_eq {letter c : Char} (h : (letter, c) ∈ escapes) :
    letter ≠ 'u' ∧ Lexer.escaped? letter = some c := by
  simp only [escapes, List.mem_cons, Prod.mk.injEq, List.not_mem_nil, or_false] at h
  rcases h with ⟨rfl, rfl⟩ | ⟨rfl, rfl⟩ | ⟨rfl, rfl⟩ | ⟨rfl, rfl⟩ | ⟨rfl, rfl⟩ | ⟨rfl, rfl⟩ |
    ⟨rfl, rfl⟩ | ⟨rfl, rfl⟩ <;> exact ⟨by decide, rfl⟩

/-- Inside quotes, characters are read as the pieces that they stand for. -/
theorem Characters.run_append {cs : List Char} {ps : List Piece} (h : Characters cs ps)
    (read : List Piece) (rest : List Char) :
    Lexer.run (.string read) (cs ++ rest) = Lexer.run (.string (ps.reverse ++ read)) rest := by
  induction h generalizing read with
  | nil => rfl
  | @char c _ _ hcontrol hquote hbackslash _ ih =>
    have hstep : Lexer.step (.string read) c = some ([], .string (.char c :: read)) := by
      simp [Lexer.step, hquote, hbackslash, hcontrol]
    rw [List.cons_append, Lexer.run_cons_of_inside hstep, ih]
    simp
  | escape hletter _ ih =>
    obtain ⟨hu, hescaped⟩ := escaped?_eq hletter
    rw [List.cons_append, List.cons_append, Lexer.run_short_escape read hu hescaped, ih]
    simp
  | unit ha hb hc hd _ ih =>
    rw [← hexDigit?_eq] at ha hb hc hd
    rw [List.cons_append, List.cons_append, List.cons_append, List.cons_append, List.cons_append,
      List.cons_append, Lexer.run_unit_escape read ha hb hc hd, ih]
    simp

theorem Quoted.lexes {cs : List Char} {s : Option String} (h : Quoted cs s) :
    Lexer.Lexes cs [.string s] := by
  obtain ⟨h⟩ := h
  refine Lexer.lexes_string fun rest => ?_
  rw [h.run_append, List.append_nil]

/-! ## Reading values -/

open Lexer (Lexes)

theorem Spaces.lexes_append {before cs : List Char} {ts : List Token} (h : Spaces before)
    (hcs : Lexes cs ts) : Lexes (before ++ cs) ts := by
  induction before with
  | nil => exact hcs
  | cons c before ih =>
    obtain ⟨hc, hbefore⟩ := List.forall_mem_cons.1 h
    have hspace : Lexer.isSpace c = true := by
      simp only [List.mem_cons, List.not_mem_nil, or_false] at hc
      rcases hc with rfl | rfl | rfl | rfl <;> rfl
    exact .space hspace (ih hbefore)

theorem Spaces.boundary_append {after cs : List Char} (h : Spaces after)
    (hcs : Lexer.Boundary cs) : Lexer.Boundary (after ++ cs) := by
  cases after with
  | nil => exact hcs
  | cons c after =>
    have hc := h c List.mem_cons_self
    simp only [List.mem_cons, List.not_mem_nil, or_false] at hc
    rcases hc with rfl | rfl | rfl | rfl <;> exact Lexer.boundary_cons (by decide) (by decide) _

theorem Spaces.boundary {after : List Char} (h : Spaces after) : Lexer.Boundary after := by
  have hafter := h.boundary_append Lexer.boundary_nil
  rwa [List.append_nil] at hafter

/-- Brackets around what is between them. -/
theorem lexes_bracketed {opening closing : Char} {t u : Token} {cs : List Char} {ts : List Token}
    (hopening : Lexer.start opening = some ([t], .idle))
    (hclosing : Lexer.start closing = some ([u], .idle))
    (hboundary : Lexer.Boundary [closing]) (h : Lexes cs ts) :
    Lexes (opening :: (cs ++ [closing])) (t :: (ts ++ [u])) :=
  .cons hopening (h.append (.cons hclosing .nil) hboundary)

/-- What is on the two sides of a comma. -/
theorem lexes_separated {cs ds : List Char} {ts us : List Token} (h : Lexes cs ts)
    (h' : Lexes ds us) : Lexes (cs ++ ',' :: ds) (ts ++ .comma :: us) :=
  h.append (.cons rfl h') (Lexer.boundary_cons (by decide) (by decide) _)

theorem Spaces.lexes {cs : List Char} (h : Spaces cs) : Lexes cs [] := by
  have hcs := h.lexes_append .nil
  rwa [List.append_nil] at hcs

mutual

theorem Value.lexes : ∀ {cs : List Char} {s : Syntax}, Value cs s → Lexes cs s.tokens
  | _, _, .null => Lexer.lexes_word rfl rfl rfl
  | _, _, .true => Lexer.lexes_word rfl rfl rfl
  | _, _, .false => Lexer.lexes_word rfl rfl rfl
  | _, _, .number h => h.lexes
  | _, _, .string h => h.lexes
  | _, _, .emptyArray h =>
    lexes_bracketed rfl rfl (Lexer.boundary_cons (by decide) (by decide) _) h.lexes
  | _, _, .array h =>
    lexes_bracketed rfl rfl (Lexer.boundary_cons (by decide) (by decide) _) h.lexes
  | _, _, .emptyObject h =>
    lexes_bracketed rfl rfl (Lexer.boundary_cons (by decide) (by decide) _) h.lexes
  | _, _, .object h =>
    lexes_bracketed rfl rfl (Lexer.boundary_cons (by decide) (by decide) _) h.lexes
termination_by structural _ _ h => h

theorem Element.lexes : ∀ {cs : List Char} {s : Syntax}, Element cs s → Lexes cs s.tokens
  | _, s, .mk hbefore h hafter => by
    have hvalue := h.lexes.append hafter.lexes hafter.boundary
    rw [List.append_nil] at hvalue
    exact hbefore.lexes_append hvalue
termination_by structural _ _ h => h

theorem Elements.lexes : ∀ {cs : List Char} {items : List Syntax}, Elements cs items →
    Lexes cs (Syntax.itemTokens [] items)
  | _, _, .one h => by
    rw [Syntax.itemTokens, Syntax.itemTokens, List.append_nil, List.nil_append]
    exact h.lexes
  | _, _, .more h hrest => by
    have hitems := lexes_separated h.lexes hrest.lexes
    simpa [Syntax.itemTokens] using hitems
termination_by structural _ _ h => h

theorem Member.lexes : ∀ {cs : List Char} {m : Option String × Syntax}, Member cs m →
    Lexes cs (Syntax.pairTokens m)
  | _, _, .mk hbefore hname hafter h => by
    have hvalue : Lexes (':' :: _) (.colon :: _) := .cons rfl h.lexes
    have hcolon := hname.lexes.append (hafter.lexes_append hvalue)
      (hafter.boundary_append (Lexer.boundary_cons (by decide) (by decide) _))
    exact hbefore.lexes_append hcolon
termination_by structural _ _ h => h

theorem Members.lexes : ∀ {cs : List Char} {members : List (Option String × Syntax)},
    Members cs members → Lexes cs (Syntax.memberTokens [] members)
  | _, _, .one h => by
    rw [Syntax.memberTokens, Syntax.memberTokens, List.append_nil, List.nil_append]
    exact h.lexes
  | _, _, .more h hrest => by
    have hmembers := lexes_separated h.lexes hrest.lexes
    simpa [Syntax.memberTokens] using hmembers
termination_by structural _ _ h => h

end

/-- Every text of the grammar is read, as its syntax. -/
theorem Element.ofText?_eq {text : String} {s : Syntax} (h : Element text.toList s) :
    Syntax.ofText? text = some s := by
  have htokens : Token.ofChars? text.toList = some s.tokens := by
    have hend := h.lexes [] Lexer.boundary_nil
    rwa [List.append_nil, Lexer.run, Lexer.finish, Option.map_some, List.append_nil] at hend
  rw [Syntax.ofText?, htokens, Option.bind_some, Syntax.ofTokens?_tokens]

theorem IsText.standsFor {text : String} {v : Json} (h : IsText text v) : StandsFor text v := by
  obtain ⟨s, hs, hvalue⟩ := h
  rw [StandsFor, hs.ofText?_eq, Option.bind_some, hvalue]

/-- A text is a text of one value at most. -/
theorem IsText.unique {text : String} {v w : Json} (hv : IsText text v) (hw : IsText text w) :
    v = w := by
  rw [← Option.some_inj, ← hv.standsFor, ← hw.standsFor]

end Grammar

end LoraGateway.Json
