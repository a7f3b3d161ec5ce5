import Mathlib.Data.List.Basic
import Mathlib.Data.List.TakeDrop
import LoraGateway.Json.Printer
import LoraGateway.Proofs.JsonGrammar

/-!
# Reading back a printed value

A value without floating-point numbers is printed as a text of the grammar, on one line or on
several, and the syntax of both stands for the value (`Plain.exists_printedAs`). So its text reads
back as the value, as long as it is not nested too deeply (`Plain.ofText?_text`).

* `Grammar.number_signed`, `Numeral.value?_ofInt`: a whole number is printed as a numeral that
  stands for it;
* `Grammar.quoted_quote`, `Piece.text?_ofChars`: so is a string, its escapes included;
* `ItemsPrintedAs`, `MembersPrintedAs`: what containers hold, by induction on the items and members.
-/

namespace LoraGateway

/-! ## Whole numbers -/

namespace Decimal

/-- A positive number has no superfluous zeros in front. -/
theorem head?_digits_ne_zero {n : Nat} (hn : 0 < n) : (digits n).head? ≠ some '0' := by
  -- The first digit is that of the number without its last digit, unless there is only one.
  induction n using Nat.strongRecOn with
  | ind n ih =>
    by_cases h : n < 10
    · have single : ∀ m < 10, 0 < m → [Nat.digitChar m].head? ≠ some '0' := by decide
      rw [digits, Nat.toDigits_of_lt_base h]
      exact single n h hn
    · have hlt : n / 10 < n := Nat.div_lt_self hn (by decide)
      have hpos : 0 < n / 10 := Nat.div_pos (Nat.not_lt.1 h) (by decide)
      rw [digits, Nat.toDigits_of_base_le (by decide) (Nat.not_lt.1 h),
        List.head?_append_of_ne_nil _ Nat.toDigits_ne_nil]
      exact ih _ hlt hpos

end Decimal

namespace Json

namespace Numeral

/-- A whole number as it is written. -/
def ofInt (n : Int) : Numeral where
  negative := decide (n < 0)
  whole := Decimal.digits n.natAbs
  fraction := []
  exponent := none

/-- A whole number that fits 64 bits, with or without a sign, reads back as itself. -/
theorem value?_ofInt {n : Int} (hlow : Int64.minValue.toInt ≤ n) (hhigh : n < UInt64.size) :
    (ofInt n).value? = some (.int n) := by
  -- A sign decides which bound counts: that of 64 bits with a sign, or without one.
  have hint : (ofInt n).int? = some n := by
    by_cases hn : n < 0
    · have hmagnitude : 0 < n.natAbs ∧ Int64.minValue.toInt ≤ -(n.natAbs : Int) := by omega
      simp only [int?, isPlain, ofInt, Decimal.value_digits, hn, hmagnitude, decide_true,
        and_self, if_true, List.isEmpty_nil, Option.isNone_none, Bool.not_true, Bool.and_true,
        Bool.false_eq_true, if_false, Option.some.injEq]
      omega
    · have hmagnitude : n.natAbs < UInt64.size := by omega
      simp only [int?, isPlain, ofInt, Decimal.value_digits, hn, hmagnitude, decide_false,
        if_true, List.isEmpty_nil, Option.isNone_none, Bool.not_true, Bool.and_true,
        Bool.false_eq_true, if_false, Option.some.injEq]
      omega
  rw [value?, hint]

end Numeral

namespace Grammar

theorem digits_digits (n : Nat) : Digits (Decimal.digits n) :=
  ⟨Decimal.digits_ne_nil n, fun _ => Decimal.isDigit_of_mem_digits⟩

theorem whole_digits (n : Nat) : Whole (Decimal.digits n) := by
  refine ⟨digits_digits n, fun hzero => ?_⟩
  rcases Nat.eq_zero_or_pos n with rfl | hn
  · rfl
  · exact absurd hzero (Decimal.head?_digits_ne_zero hn)

theorem number_signed (n : Int) : Number (Decimal.signed n) (.ofInt n) := by
  have hunsigned {sign : List Char} {negative : Bool} (h : Sign sign negative) :
      Number (sign ++ Decimal.digits n.natAbs) ⟨negative, Decimal.digits n.natAbs, [], none⟩ := by
    have hnumber := Number.mk h (whole_digits n.natAbs) .none .none
    rwa [List.append_nil, List.append_nil] at hnumber
  by_cases hn : n < 0
  · rw [Decimal.signed, if_pos hn, Numeral.ofInt, decide_eq_true hn]
    exact hunsigned .minus
  · rw [Decimal.signed, if_neg hn, Numeral.ofInt, decide_eq_false hn]
    exact hunsigned .none

end Grammar

/-! ## Strings -/

namespace Piece

/-- The piece that a printed character is read as. -/
def ofChar (c : Char) : Piece :=
  if c.toNat < 0x20 ∧ c ∉ ['\x08', '\x0c', '\n', '\r', '\t'] then .unit c.toNat else .char c

theorem text?_unit_cons {n : Nat} (h : n < 0xD800) (ps : List Piece) :
    text? (.unit n :: ps) = (text? ps).map (Char.ofNat n :: ·) := by
  have hhigh : isHigh n = false := by
    rw [isHigh, decide_eq_false (by omega), Bool.false_and]
  have hlow : isLow n = false := by
    rw [isLow, decide_eq_false (by omega), Bool.false_and]
  match ps with
  | [] => simp [text?, hhigh, hlow]
  | .unit m :: rest => simp [text?, hhigh, hlow]
  | .char c :: rest => simp [text?, hhigh, hlow, Function.comp_def]

theorem text?_ofChar_cons (c : Char) (ps : List Piece) :
    text? (ofChar c :: ps) = (text? ps).map (c :: ·) := by
  by_cases h : c.toNat < 0x20 ∧ c ∉ ['\x08', '\x0c', '\n', '\r', '\t']
  · rw [ofChar, if_pos h, text?_unit_cons (by omega), Char.ofNat_toNat]
  · rw [ofChar, if_neg h, text?]

theorem text?_ofChars (cs : List Char) : text? (cs.map ofChar) = some cs := by
  induction cs with
  | nil => rfl
  | cons c cs ih => rw [List.map_cons, text?_ofChar_cons, ih, Option.map_some]

end Piece

namespace Grammar

theorem ofDigit?_digitChar {n : Nat} (h : n < 16) : Hex.ofDigit? n.digitChar = some n := by
  revert n
  decide

/-- A printed character writes one piece of the string that it is in. -/
theorem Characters.escape_append (c : Char) {cs : List Char} {ps : List Piece}
    (h : Characters cs ps) : Characters (Json.escape c ++ cs) (Piece.ofChar c :: ps) := by
  by_cases hshort : c ∈ ['"', '\\', '\x08', '\x0c', '\n', '\r', '\t']
  · -- A character with a short escape is written by it, also if it is a control character.
    simp only [List.mem_cons, List.not_mem_nil, or_false] at hshort
    rcases hshort with rfl | rfl | rfl | rfl | rfl | rfl | rfl <;> exact .escape (by decide) h
  · simp only [List.mem_cons, List.not_mem_nil, or_false, not_or] at hshort
    obtain ⟨hquote, hbackslash, hb, hf, hn, hr, ht⟩ := hshort
    by_cases hc : c.toNat < 0x20
    · have hcode : 16 * (16 * (16 * 0 + 0) + c.toNat / 16) + c.toNat % 16 = c.toNat := by omega
      have hunit := Characters.unit (a := '0') (b := '0') (i := 0) (j := 0) rfl rfl
        (ofDigit?_digitChar (show c.toNat / 16 < 16 by omega))
        (ofDigit?_digitChar (show c.toNat % 16 < 16 by omega)) h
      rw [hcode] at hunit
      simpa [Json.escape, Piece.ofChar, hc, hb, hf, hn, hr, ht] using hunit
    · have hchar := Characters.char (Nat.not_lt.1 hc) hquote hbackslash h
      simpa [Json.escape, Piece.ofChar, hc] using hchar

theorem characters_flatMap_escape (cs : List Char) :
    Characters (cs.flatMap Json.escape) (cs.map Piece.ofChar) := by
  induction cs with
  | nil => exact .nil
  | cons c cs ih => exact .escape_append c ih

theorem quoted_quote (s : String) : Quoted (quote s.toList) (some s) := by
  have h := Quoted.mk (characters_flatMap_escape s.toList)
  rwa [Piece.text?_ofChars, Option.map_some, String.ofList_toList] at h

end Grammar

/-! ## Printed values -/

open Grammar (Value Element Elements Member Members Spaces)

/-- Values without floating-point numbers whose containers are nested at most `depth` deep. -/
inductive Plain : Nat → Json → Prop
  | null {depth : Nat} : Plain depth .null
  | bool {depth : Nat} (b : Bool) : Plain depth (.bool b)
  | int {depth : Nat} {n : Int} (hlow : Int64.minValue.toInt ≤ n) (hhigh : n < UInt64.size) :
    Plain depth (.number (.int n))
  | string {depth : Nat} (s : String) : Plain depth (.string s)
  | array {depth : Nat} {items : List Json} (h : ∀ v ∈ items, Plain depth v) :
    Plain (depth + 1) (.array items)
  | object {depth : Nat} {members : List (String × Json)} (h : ∀ m ∈ members, Plain depth m.2) :
    Plain (depth + 1) (.object members)

/-- Both forms of a value write one syntax, which stands for the value. -/
structure PrintedAs (depth : Nat) (v : Json) (s : Syntax) : Prop where
  value : s.value? = some v
  depth_le : s.depth ≤ depth
  chars : Value v.chars s
  prettyChars : ∀ n, Value (v.prettyChars n) s

/-- The same of the items of an array that is not empty. On several lines, every item but the first
    has a comma before its line. -/
structure ItemsPrintedAs (depth : Nat) (items : List Json) (ss : List Syntax) : Prop where
  values : Syntax.itemValues? ss = some items
  depth_le : Syntax.depthItems ss ≤ depth
  chars : Elements (itemChars [] items) ss
  prettyChars : ∀ n after, Spaces after → Elements ((prettyItems n items).tail ++ after) ss

/-- The same of the members of an object that is not empty. -/
structure MembersPrintedAs (depth : Nat) (members : List (String × Json))
    (ss : List (Option String × Syntax)) : Prop where
  values : Syntax.memberValues? ss = some members
  depth_le : Syntax.depthMembers ss ≤ depth
  chars : Members (memberChars [] members) ss
  prettyChars : ∀ n after, Spaces after → Members ((prettyMembers n members).tail ++ after) ss

namespace Grammar

theorem spaces_nil : Spaces [] :=
  nofun

theorem spaces_newLine (n : Nat) : Spaces (newLine n) := by
  refine List.forall_mem_cons.2 ⟨by decide, fun c hc => ?_⟩
  rw [List.eq_of_mem_replicate hc]
  exact List.mem_cons_self

theorem Value.element {cs : List Char} {s : Syntax} (h : Value cs s) : Element cs s := by
  have hcs := Element.mk spaces_nil h spaces_nil
  rwa [List.append_nil, List.nil_append] at hcs

/-- A value that starts a line. -/
theorem Value.element_newLine {cs : List Char} {s : Syntax} (h : Value cs s) (n : Nat) :
    Element (newLine n ++ cs) s := by
  have hcs := Element.mk (spaces_newLine n) h spaces_nil
  rwa [List.append_nil] at hcs

end Grammar

section Containers

variable {depth : Nat} {v w : Json} {s t : Syntax}

theorem ItemsPrintedAs.one (hs : PrintedAs depth v s) : ItemsPrintedAs depth [v] [s] where
  values := by
    rw [Syntax.itemValues?, hs.value]
    rfl
  depth_le := Nat.max_le.2 ⟨hs.depth_le, Nat.zero_le _⟩
  chars := by
    have hv := Elements.one hs.chars.element
    simpa [itemChars] using hv
  prettyChars n after hafter := by
    have hv := Elements.one (.mk (Grammar.spaces_newLine n) (hs.prettyChars n) hafter)
    simpa [prettyItems] using hv

theorem ItemsPrintedAs.cons {items : List Json} {ss : List Syntax} (hs : PrintedAs depth v s)
    (h : ItemsPrintedAs depth (w :: items) (t :: ss)) :
    ItemsPrintedAs depth (v :: w :: items) (s :: t :: ss) where
  values := by
    rw [Syntax.itemValues?, hs.value, h.values]
    rfl
  depth_le := Nat.max_le.2 ⟨hs.depth_le, h.depth_le⟩
  chars := by
    have hitems := Elements.more hs.chars.element h.chars
    simpa [itemChars] using hitems
  prettyChars n after hafter := by
    have hitems := Elements.more ((hs.prettyChars n).element_newLine n) (h.prettyChars n after hafter)
    simpa [prettyItems] using hitems

theorem PrintedAs.array {items : List Json} {ss : List Syntax}
    (h : ItemsPrintedAs depth (v :: items) ss) :
    PrintedAs (depth + 1) (.array (v :: items)) (.array ss) where
  value := by rw [Syntax.value?, h.values, Option.map_some]
  depth_le := Nat.succ_le_succ h.depth_le
  chars := .array h.chars
  prettyChars n := .array (h.prettyChars (n + 1) (newLine n) (Grammar.spaces_newLine n))

theorem PrintedAs.member (hs : PrintedAs depth v s) (name : String) :
    Member (pairChars (name, v)) (some name, s) :=
  .mk Grammar.spaces_nil (Grammar.quoted_quote name) Grammar.spaces_nil hs.chars.element

/-- On several lines, a blank stands before the value of a member. -/
theorem PrintedAs.prettyMember (hs : PrintedAs depth v s) (name : String) (n : Nat)
    {after : List Char} (hafter : Spaces after) :
    Member (newLine n ++ prettyPair n (name, v) ++ after) (some name, s) := by
  have hblank : Spaces [' '] := List.forall_mem_singleton.2 List.mem_cons_self
  have hmember := Member.mk (Grammar.spaces_newLine n) (Grammar.quoted_quote name)
    Grammar.spaces_nil (.mk hblank (hs.prettyChars n) hafter)
  simpa [prettyPair] using hmember

theorem MembersPrintedAs.one (hs : PrintedAs depth v s) (name : String) :
    MembersPrintedAs depth [(name, v)] [(some name, s)] where
  values := by
    rw [Syntax.memberValues?, Syntax.memberValue?, hs.value]
    rfl
  depth_le := Nat.max_le.2 ⟨hs.depth_le, Nat.zero_le _⟩
  chars := by
    have hv := Members.one (hs.member name)
    simpa [memberChars] using hv
  prettyChars n after hafter := by
    have hv := Members.one (hs.prettyMember name n hafter)
    simpa [prettyMembers] using hv

theorem MembersPrintedAs.cons {m : String × Json} {members : List (String × Json)}
    {q : Option String × Syntax} {ss : List (Option String × Syntax)} (hs : PrintedAs depth v s)
    (name : String) (h : MembersPrintedAs depth (m :: members) (q :: ss)) :
    MembersPrintedAs depth ((name, v) :: m :: members) ((some name, s) :: q :: ss) where
  values := by
    rw [Syntax.memberValues?, Syntax.memberValue?, hs.value, h.values]
    rfl
  depth_le := Nat.max_le.2 ⟨hs.depth_le, h.depth_le⟩
  chars := by
    have hmembers := Members.more (hs.member name) h.chars
    simpa [memberChars] using hmembers
  prettyChars n after hafter := by
    have hmembers := Members.more (hs.prettyMember name n Grammar.spaces_nil)
      (h.prettyChars n after hafter)
    simpa [prettyMembers] using hmembers

theorem PrintedAs.object {m : String × Json} {members : List (String × Json)}
    {ss : List (Option String × Syntax)} (h : MembersPrintedAs depth (m :: members) ss) :
    PrintedAs (depth + 1) (.object (m :: members)) (.object ss) where
  value := by rw [Syntax.value?, h.values, Option.map_some]
  depth_le := Nat.succ_le_succ h.depth_le
  chars := .object h.chars
  prettyChars n := .object (h.prettyChars (n + 1) (newLine n) (Grammar.spaces_newLine n))

theorem exists_itemsPrintedAs (v : Json) (items : List Json)
    (h : ∀ w ∈ v :: items, ∃ s, PrintedAs depth w s) :
    ∃ s ss, ItemsPrintedAs depth (v :: items) (s :: ss) := by
  induction items generalizing v with
  | nil =>
    obtain ⟨s, hs⟩ := h v List.mem_cons_self
    exact ⟨s, [], .one hs⟩
  | cons w items ih =>
    obtain ⟨s, hs⟩ := h v List.mem_cons_self
    obtain ⟨t, ss, hitems⟩ := ih w fun x hx => h x (List.mem_cons_of_mem _ hx)
    exact ⟨s, t :: ss, .cons hs hitems⟩

theorem exists_membersPrintedAs (m : String × Json) (members : List (String × Json))
    (h : ∀ p ∈ m :: members, ∃ s, PrintedAs depth p.2 s) :
    ∃ q ss, MembersPrintedAs depth (m :: members) (q :: ss) := by
  induction members generalizing m with
  | nil =>
    obtain ⟨s, hs⟩ := h m List.mem_cons_self
    exact ⟨(some m.1, s), [], .one hs m.1⟩
  | cons p members ih =>
    obtain ⟨s, hs⟩ := h m List.mem_cons_self
    obtain ⟨q, ss, hmembers⟩ := ih p fun x hx => h x (List.mem_cons_of_mem _ hx)
    exact ⟨(some m.1, s), q :: ss, .cons hs m.1 hmembers⟩

end Containers

namespace Plain

variable {depth : Nat} {v : Json}

/-- Every plain value is printed as a syntax that stands for it. -/
theorem exists_printedAs (h : Plain depth v) : ∃ s, PrintedAs depth v s := by
  induction h with
  | null => exact ⟨.null, rfl, Nat.zero_le _, .null, fun _ => .null⟩
  | bool b =>
    refine ⟨.bool b, rfl, Nat.zero_le _, ?_, fun _ => ?_⟩ <;> cases b
    · exact .false
    · exact .true
    · exact .false
    · exact .true
  | @int _ n hlow hhigh =>
    refine ⟨.number (.ofInt n), ?_, Nat.zero_le _, .number (Grammar.number_signed n),
      fun _ => .number (Grammar.number_signed n)⟩
    rw [Syntax.value?, Numeral.value?_ofInt hlow hhigh, Option.map_some]
  | string s =>
    exact ⟨.string (some s), rfl, Nat.zero_le _, .string (Grammar.quoted_quote s),
      fun _ => .string (Grammar.quoted_quote s)⟩
  | @array _ items _ ih =>
    -- The brackets of an empty container stand on one line, also in the form on several lines.
    cases items with
    | nil =>
      exact ⟨.array [], rfl, Nat.succ_le_succ (Nat.zero_le _), .emptyArray Grammar.spaces_nil,
        fun _ => .emptyArray Grammar.spaces_nil⟩
    | cons v rest =>
      obtain ⟨s, ss, hitems⟩ := exists_itemsPrintedAs v rest ih
      exact ⟨_, .array hitems⟩
  | @object _ members _ ih =>
    cases members with
    | nil =>
      exact ⟨.object [], rfl, Nat.succ_le_succ (Nat.zero_le _), .emptyObject Grammar.spaces_nil,
        fun _ => .emptyObject Grammar.spaces_nil⟩
    | cons m rest =>
      obtain ⟨q, ss, hmembers⟩ := exists_membersPrintedAs m rest ih
      exact ⟨_, .object hmembers⟩

/-- The text of a plain value is a text of the value. -/
theorem isText_text (h : Plain depth v) : Grammar.IsText v.text v := by
  obtain ⟨s, hs⟩ := h.exists_printedAs
  refine ⟨s, ?_, hs.value⟩
  rw [text, String.toList_ofList]
  exact hs.chars.element

/-- So is its text on several lines, ended by a line feed. -/
theorem isText_prettyText (h : Plain depth v) : Grammar.IsText (v.prettyText ++ "\n") v := by
  obtain ⟨s, hs⟩ := h.exists_printedAs
  refine ⟨s, ?_, hs.value⟩
  rw [String.toList_append, prettyText, String.toList_ofList]
  exact .mk Grammar.spaces_nil (hs.prettyChars 0) (Grammar.spaces_newLine 0)

/-- The text of a plain value reads back as the value. -/
theorem ofText?_text (h : Plain maxDepth v) : ofText? v.text = some v := by
  obtain ⟨s, hs⟩ := h.exists_printedAs
  have helement : Element v.text.toList s := by
    rw [text, String.toList_ofList]
    exact hs.chars.element
  rw [ofText?, helement.ofText?_eq, Option.bind_eq_bind, Option.bind_some, if_pos hs.depth_le,
    hs.value]

theorem standsFor_text (h : Plain depth v) : StandsFor v.text v :=
  h.isText_text.standsFor

theorem standsFor_prettyText (h : Plain depth v) : StandsFor (v.prettyText ++ "\n") v :=
  h.isText_prettyText.standsFor

theorem mono {depth' : Nat} (h : Plain depth v) (hle : depth ≤ depth') : Plain depth' v := by
  induction h generalizing depth' with
  | null => exact .null
  | bool b => exact .bool b
  | int hlow hhigh => exact .int hlow hhigh
  | string s => exact .string s
  | array _ ih =>
    obtain ⟨d, rfl⟩ := Nat.exists_eq_add_of_le hle
    rw [Nat.add_right_comm]
    exact .array fun v hv => ih v hv (Nat.le_add_right ..)
  | object _ ih =>
    obtain ⟨d, rfl⟩ := Nat.exists_eq_add_of_le hle
    rw [Nat.add_right_comm]
    exact .object fun m hm => ih m hm (Nat.le_add_right ..)

end Plain

end LoraGateway.Json
