import LoraGateway.Beacon.LayoutText
import LoraGateway.Proofs.Result
import LoraGateway.Proofs.Trim

/-!
# Which texts are layouts

A layout is read from exactly three numbers with commas between them that make a usable layout. Of
several faults the first one is reported in a fixed order: a part that is no number comes before a
wrong number of parts, and this before a layout that is not usable.

* `SpellsOffset`: the ways to write an offset, which are those that are read
  (`offsetOfChars_eq_ok_iff`): reading stops at the first digit that makes the number too large, and
  more digits would not make it smaller again;
* `splitCommas_eq_splitOn`: parts are cut at commas;
* `Layout.ofText_reads_offsets`: what is read of a text, and what is reported.
-/

namespace LoraGateway.Beacon

open Text (AllBlank)

/-! ## Offsets -/

/-- The characters are digits of a number below 256, after an optional plus sign. -/
def SpellsOffset (cs : List Char) (n : Nat) : Prop :=
  ∃ sign digits, cs = sign ++ digits ∧ (sign = [] ∨ sign = ['+']) ∧ digits ≠ [] ∧
    (∀ c ∈ digits, c.isDigit = true) ∧ Decimal.value digits = n ∧ n ≤ 255

/-- More digits make a number larger. -/
theorem le_ofDigitChars (ds : List Char) (n : Nat) : n ≤ Nat.ofDigitChars 10 ds n := by
  rw [Nat.ofDigitChars_eq_ofDigitChars_zero]
  have hpower : 1 ≤ 10 ^ ds.length := Nat.one_le_pow _ _ (by decide)
  have hmul : 1 * n ≤ 10 ^ ds.length * n := Nat.mul_le_mul_right n hpower
  omega

theorem addDigit_eq_ok_iff {n m : Nat} {c : Char} : addDigit n c = .ok m ↔
    c.isDigit = true ∧ 10 * n + (c.toNat - '0'.toNat) = m ∧ m < 256 := by
  have hvalue : Decimal.value [c] = c.toNat - '0'.toNat := by
    simp [Decimal.value, Nat.ofDigitChars_cons, Nat.ofDigitChars_nil]
  rw [addDigit, hvalue]
  cases c.isDigit with
  | false => exact iff_of_false Result.throw_ne_ok fun h => nomatch h.1
  | true =>
    simp only [Bool.not_true, Bool.false_eq_true, if_false, true_and]
    split
    · next hlt =>
      rw [Result.pure_eq_ok_iff]
      exact ⟨fun h => ⟨h, h ▸ hlt⟩, And.left⟩
    · next hle => exact iff_of_false Result.throw_ne_ok fun h => hle (h.1 ▸ h.2)

/-- Behind a number below 256, digits are read if and only if the number stays there. -/
theorem foldlM_addDigit_eq_ok_iff {ds : List Char} {n m : Nat} (hn : n < 256) :
    ds.foldlM addDigit n = .ok m ↔
      (∀ c ∈ ds, c.isDigit = true) ∧ Nat.ofDigitChars 10 ds n = m ∧ m < 256 := by
  induction ds generalizing n with
  | nil =>
    rw [List.foldlM_nil, Result.pure_eq_ok_iff, Nat.ofDigitChars_nil]
    exact ⟨fun h => ⟨nofun, h, h ▸ hn⟩, fun h => h.2.1⟩
  | cons c ds ih =>
    rw [List.foldlM_cons, Result.bind_eq_ok_iff, List.forall_mem_cons, Nat.ofDigitChars_cons]
    constructor
    · rintro ⟨k, hk, hrest⟩
      obtain ⟨hc, rfl, hlt⟩ := addDigit_eq_ok_iff.1 hk
      obtain ⟨hds, hm⟩ := (ih hlt).1 hrest
      exact ⟨⟨hc, hds⟩, hm⟩
    · rintro ⟨⟨hc, hds⟩, hvalue, hm⟩
      -- The number is not made smaller by the digits that follow, so that it is below 256 here.
      have hle := le_ofDigitChars ds (10 * n + (c.toNat - '0'.toNat))
      have hlt : 10 * n + (c.toNat - '0'.toNat) < 256 := by omega
      exact ⟨_, addDigit_eq_ok_iff.2 ⟨hc, rfl, hlt⟩, (ih hlt).2 ⟨hds, hvalue, hm⟩⟩

theorem offsetOfDigits_eq_ok_iff {ds : List Char} {n : Nat} : offsetOfDigits ds = .ok n ↔
    ds ≠ [] ∧ (∀ c ∈ ds, c.isDigit = true) ∧ Decimal.value ds = n ∧ n < 256 := by
  cases ds with
  | nil => exact iff_of_false Result.throw_ne_ok fun h => h.1 rfl
  | cons c ds => exact (foldlM_addDigit_eq_ok_iff (by decide)).trans (by simp [Decimal.value])

/-- The offsets that are read are those that are spelled. -/
theorem offsetOfChars_eq_ok_iff {cs : List Char} {n : Nat} :
    offsetOfChars cs = .ok n ↔ SpellsOffset cs n := by
  have hdigits (ds : List Char) : offsetOfDigits ds = .ok n ↔
      ds ≠ [] ∧ (∀ c ∈ ds, c.isDigit = true) ∧ Decimal.value ds = n ∧ n ≤ 255 := by
    rw [offsetOfDigits_eq_ok_iff, Nat.lt_succ_iff]
  constructor
  · intro h
    unfold offsetOfChars at h
    split at h
    · cases h
    · next ds => exact ⟨['+'], ds, rfl, .inr rfl, (hdigits ds).1 h⟩
    · exact ⟨[], cs, rfl, .inl rfl, (hdigits cs).1 h⟩
  · rintro ⟨sign, ds, rfl, rfl | rfl, hspelled⟩
    · -- Without a sign, the first character is a digit and thus no sign.
      have hread := (hdigits ds).2 hspelled
      obtain ⟨hne, hall, -⟩ := hspelled
      unfold offsetOfChars
      split
      · next hnil => exact absurd hnil hne
      · next rest hplus =>
        rw [List.nil_append] at hplus
        subst hplus
        exact absurd (hall '+' List.mem_cons_self) (by decide)
      · exact hread
    · exact (hdigits ds).2 hspelled

/-! ## Parts -/

/-- A part of a text gives an offset: without the blanks around it, it spells it. -/
def GivesOffset (part : List Char) (offset : UInt8) : Prop :=
  SpellsOffset (Text.trim part) offset.toNat

theorem offsetOfPart_eq_ok_iff {part : List Char} {offset : UInt8} :
    offsetOfPart part = .ok offset ↔ GivesOffset part offset := by
  rw [GivesOffset, ← offsetOfChars_eq_ok_iff, offsetOfPart]
  cases h : offsetOfChars (Text.trim part) with
  | error fault => exact iff_of_false Result.throw_ne_ok nofun
  | ok n =>
    have hlt : n < UInt8.size := by
      obtain ⟨_, _, _, _, _, _, _, hle⟩ := offsetOfChars_eq_ok_iff.1 h
      exact Nat.lt_succ_of_le hle
    rw [Except.ok.injEq]
    constructor
    · intro hoffset
      rw [← Result.pure_eq_ok_iff.1 hoffset, UInt8.toNat_ofNat_of_lt' hlt]
    · rintro rfl
      exact congrArg Except.ok UInt8.ofNat_toNat

/-- A part gives some offset. -/
def IsOffset (part : List Char) : Prop :=
  ∃ offset, GivesOffset part offset

theorem exists_offsetOfPart_eq_ok {part : List Char} (h : IsOffset part) :
    ∃ offset, offsetOfPart part = .ok offset :=
  h.imp fun _ => offsetOfPart_eq_ok_iff.2

/-- A part that gives no offset is reported as it was given. -/
theorem exists_offsetOfPart_eq_error {part : List Char} (h : ¬IsOffset part) :
    ∃ fault, offsetOfPart part = .error (.badOffset (String.ofList part) fault) := by
  cases hchars : offsetOfChars (Text.trim part) with
  | ok n =>
    have hpart : offsetOfPart part = .ok (UInt8.ofNat n) := by rw [offsetOfPart, hchars]; rfl
    exact absurd ⟨_, offsetOfPart_eq_ok_iff.1 hpart⟩ h
  | error fault => exact ⟨fault, by rw [offsetOfPart, hchars]; rfl⟩

instance (part : List Char) (offset : UInt8) : Decidable (GivesOffset part offset) :=
  decidable_of_iff ((offsetOfPart part).toOption = some offset) <| by
    rw [← offsetOfPart_eq_ok_iff]
    cases offsetOfPart part <;> simp [Except.toOption]

instance (part : List Char) : Decidable (IsOffset part) :=
  decidable_of_iff ((offsetOfPart part).toOption.isSome = true) <| by
    simp only [IsOffset, ← offsetOfPart_eq_ok_iff]
    cases offsetOfPart part <;> simp [Except.toOption]

theorem splitCommas_eq_splitOn (cs : List Char) : splitCommas cs = cs.splitOn ',' := by
  induction cs with
  | nil => rfl
  | cons c rest ih =>
    rw [splitCommas, List.splitOn_cons_eq_if_modifyHead, ih]
    by_cases hc : c = ','
    · simp [hc]
    · have hne := List.splitOn_ne_nil ',' rest
      cases hsplit : rest.splitOn ',' with
      | nil => exact absurd hsplit hne
      | cons part parts => simp [hc]

/-! ## Layouts -/

namespace Layout

/-- The offsets in the order in which they are written. -/
def offsets (l : Layout) : List UInt8 :=
  [l.timeOffset, l.infoOffset, l.length]

/-- Makes a usable layout of the offsets in a text. -/
def ofOffsets : List UInt8 → Except LayoutTextFault Layout
  | [time, info, length] => do
    let l : Layout := ⟨time, info, length⟩
    l.check.mapError .unusable
    pure l
  | _ => throw .wrongCount

theorem ofText_eq (s : String) :
    ofText s = (s.toList.splitOn ',').mapM offsetOfPart >>= ofOffsets := by
  rw [← splitCommas_eq_splitOn]
  rfl

variable {l : Layout} {read : List UInt8}

theorem ofOffsets_eq_ok_iff : ofOffsets read = .ok l ↔ read = l.offsets ∧ l.check = .ok () := by
  constructor
  · intro h
    unfold ofOffsets at h
    split at h
    · next time info length =>
      obtain ⟨⟨⟩, hcheck, hl⟩ := Result.bind_eq_ok_iff.1 h
      rw [Result.pure_eq_ok_iff] at hl
      subst hl
      exact ⟨rfl, Result.mapError_eq_ok_iff.1 hcheck⟩
    · exact absurd h Result.throw_ne_ok
  · rintro ⟨rfl, hcheck⟩
    exact Result.bind_eq_ok_iff.2 ⟨(), Result.mapError_eq_ok_iff.2 hcheck, rfl⟩

theorem ofOffsets_of_length_ne (h : read.length ≠ 3) : ofOffsets read = .error .wrongCount := by
  unfold ofOffsets
  split
  · exact absurd rfl h
  · rfl

theorem ofOffsets_offsets_eq_error {fault : LayoutFault} (h : l.check = .error fault) :
    ofOffsets l.offsets = .error (.unusable fault) :=
  Result.bind_eq_error_iff.2 (.inl (Result.mapError_eq_error_iff.2 ⟨fault, h, rfl⟩))

variable {s : String}

/-- The parts of a text give offsets, one each. -/
theorem mapM_offsetOfPart_eq_ok_iff {parts : List (List Char)} :
    parts.mapM offsetOfPart = .ok read ↔ List.Forall₂ GivesOffset parts read := by
  simp only [Result.mapM_eq_ok_iff, offsetOfPart_eq_ok_iff]

theorem ofText_eq_ok_iff : ofText s = .ok l ↔
    List.Forall₂ GivesOffset (s.toList.splitOn ',') l.offsets ∧ l.check = .ok () := by
  simp only [ofText_eq, Result.bind_eq_ok_iff, mapM_offsetOfPart_eq_ok_iff, ofOffsets_eq_ok_iff]
  exact ⟨fun ⟨_, hread, hl, hcheck⟩ => ⟨hl ▸ hread, hcheck⟩,
    fun ⟨hread, hcheck⟩ => ⟨_, hread, rfl, hcheck⟩⟩

/-- The first part that gives no offset is reported, whatever comes after it. -/
theorem exists_ofText_eq_badOffset {before after : List (List Char)} {bad : List Char}
    (hs : s.toList.splitOn ',' = before ++ bad :: after) (hbefore : ∀ part ∈ before, IsOffset part)
    (hbad : ¬IsOffset bad) :
    ∃ fault, ofText s = .error (.badOffset (String.ofList bad) fault) := by
  obtain ⟨fault, hfault⟩ := exists_offsetOfPart_eq_error hbad
  have hread := fun part hpart => exists_offsetOfPart_eq_ok (hbefore part hpart)
  refine ⟨fault, ?_⟩
  rw [ofText_eq, hs, Result.mapM_append_cons_eq_error hread hfault]
  rfl

theorem ofText_eq_wrongCount (hs : ∀ part ∈ s.toList.splitOn ',', IsOffset part)
    (hcount : (s.toList.splitOn ',').length ≠ 3) : ofText s = .error .wrongCount := by
  obtain ⟨read, hread, hlength⟩ := Result.exists_mapM_eq_ok fun part hpart =>
    exists_offsetOfPart_eq_ok (hs part hpart)
  rw [ofText_eq, hread]
  exact ofOffsets_of_length_ne (hlength ▸ hcount)

theorem ofText_eq_unusable {fault : LayoutFault}
    (hs : List.Forall₂ GivesOffset (s.toList.splitOn ',') l.offsets)
    (hcheck : l.check = .error fault) : ofText s = .error (.unusable fault) := by
  rw [ofText_eq, mapM_offsetOfPart_eq_ok_iff.2 hs]
  exact ofOffsets_offsets_eq_error hcheck

end Layout

/-! ## Layouts that are written -/

/-- A part is an offset in decimal, with blanks around it or without. -/
def WritesOffset (part : List Char) (offset : UInt8) : Prop :=
  ∃ before after, AllBlank before ∧ AllBlank after ∧
    part = before ++ Decimal.digits offset.toNat ++ after

namespace WritesOffset

variable {part : List Char} {offset : UInt8}

theorem givesOffset (h : WritesOffset part offset) : GivesOffset part offset := by
  obtain ⟨before, after, hbefore, hafter, rfl⟩ := h
  have hdigit (c : Char) (hc : c ∈ Decimal.digits offset.toNat) : c.isDigit = true :=
    Decimal.isDigit_of_mem_digits hc
  have htrim : Text.trim (Decimal.digits offset.toNat) = Decimal.digits offset.toNat :=
    Text.trim_eq_self fun c hc => Text.isBlank_of_isDigit (hdigit c hc)
  rw [GivesOffset, Text.trim_append hbefore hafter, htrim]
  exact ⟨[], _, rfl, .inl rfl, Decimal.digits_ne_nil _, hdigit,
    Decimal.value_digits _, Nat.le_of_lt_succ offset.toNat_lt⟩

/-- No comma is written into an offset. -/
theorem comma_not_mem (h : WritesOffset part offset) : ',' ∉ part := by
  obtain ⟨before, after, hbefore, hafter, rfl⟩ := h
  simp only [List.mem_append, not_or]
  refine ⟨⟨fun hmem => ?_, fun hmem => ?_⟩, fun hmem => ?_⟩
  · exact absurd (hbefore _ hmem) (by decide)
  · exact absurd (Decimal.isDigit_of_mem_digits hmem) (by decide)
  · exact absurd (hafter _ hmem) (by decide)

end WritesOffset

/-- A usable layout reads back from its offsets in decimal. -/
theorem Layout.ofText_intercalate {l : Layout} {parts : List (List Char)} (h : l.check = .ok ())
    (hparts : List.Forall₂ WritesOffset parts l.offsets) :
    ofText (String.ofList ([','].intercalate parts)) = .ok l := by
  match parts, hparts with
  | [time, info, length], .cons htime (.cons hinfo (.cons hlength .nil)) =>
    have hgives : List.Forall₂ GivesOffset [time, info, length] l.offsets :=
      .cons htime.givesOffset (.cons hinfo.givesOffset (.cons hlength.givesOffset .nil))
    have hcomma : ∀ part ∈ [time, info, length], ',' ∉ part := by
      simp [htime.comma_not_mem, hinfo.comma_not_mem, hlength.comma_not_mem]
    rw [ofText_eq_ok_iff, String.toList_ofList, List.splitOn_intercalate _ hcomma (by simp)]
    exact ⟨hgives, h⟩

/-- A text is read as a layout if and only if its parts between commas are the three offsets of the
    layout, which is usable. Otherwise the leftmost part that is no offset is named, as it was given
    and however many parts there are; if every part is one, their number is reported unless there are
    three, and then what makes the layout unusable. Every usable layout reads back from its offsets in
    decimal, with blanks around them or without. -/
theorem Layout.ofText_reads_offsets :
    (∀ s, (∀ l : Layout, ofText s = .ok l ↔
        List.Forall₂ GivesOffset (s.toList.splitOn ',') l.offsets ∧ l.check = .ok ()) ∧
      (∀ before bad after, s.toList.splitOn ',' = before ++ bad :: after →
        (∀ part ∈ before, IsOffset part) → ¬IsOffset bad → ∃ fault : OffsetFault,
          (ofText s).mapError LayoutTextFault.message =
            .error (Text.quoted (String.ofList bad) ++ ": " ++ fault.message)) ∧
      ((∀ part ∈ s.toList.splitOn ',', IsOffset part) → (s.toList.splitOn ',').length ≠ 3 →
        (ofText s).mapError LayoutTextFault.message =
          .error "expected three comma-separated offsets") ∧
      ∀ (l : Layout) fault, List.Forall₂ GivesOffset (s.toList.splitOn ',') l.offsets →
        l.check = .error fault →
        (ofText s).mapError LayoutTextFault.message = .error fault.message) ∧
    ∀ (l : Layout) parts, l.check = .ok () → List.Forall₂ WritesOffset parts l.offsets →
      ofText (String.ofList ([','].intercalate parts)) = .ok l := by
  refine ⟨fun s => ⟨fun l => ofText_eq_ok_iff, fun before bad after hs hbefore hbad => ?_,
    fun hs hcount => ?_, fun l fault hs hcheck => ?_⟩, fun l parts => ofText_intercalate⟩
  · obtain ⟨fault, hfault⟩ := exists_ofText_eq_badOffset hs hbefore hbad
    exact ⟨fault, Result.mapError_eq_error_iff.2 ⟨_, hfault, rfl⟩⟩
  · exact Result.mapError_eq_error_iff.2 ⟨_, ofText_eq_wrongCount hs hcount, rfl⟩
  · exact Result.mapError_eq_error_iff.2 ⟨_, ofText_eq_unusable hs hcheck, rfl⟩

/-- A layout with a sign, superfluous zeros and blanks; a part that is no number in front of one that
    is too large; two offsets; offsets that overlap; and a layout that is written with blanks. -/
theorem Layout.ofText_reads_offsets_spaced :
    ofText " +02,\t8 ,017" = .ok eu868 ∧
    (∃ fault : OffsetFault, (ofText "2, x,256,").mapError LayoutTextFault.message =
      .error ("\" x\"" ++ ": " ++ fault.message)) ∧
    (ofText "2,8").mapError LayoutTextFault.message =
      .error "expected three comma-separated offsets" ∧
    (ofText "4,8,17").mapError LayoutTextFault.message =
      .error "invalid beacon layout: time field at 4 overlaps the first CRC at 6" ∧
    ofText "5 ,\n11,\u3000\u202923" = .ok us915 := by
  obtain ⟨hread, hwritten⟩ := ofText_reads_offsets
  refine ⟨?_, ?_, ?_, ?_, ?_⟩
  · exact ((hread _).1 _).2 ⟨by decide, by decide⟩
  · exact (hread _).2.1 ["2".toList] " x".toList ["256".toList, []] (by decide) (by decide)
      (by decide)
  · exact (hread _).2.2.1 (by decide) (by decide)
  · exact (hread _).2.2.2 ⟨4, 8, 17⟩ (.timeOverlapsCrc 4 8) (by decide) rfl
  · exact hwritten us915 ["5 ".toList, "\n11".toList, "\u3000\u202923".toList] rfl
      (.cons ⟨[], [' '], by decide, by decide, by decide⟩
        (.cons ⟨['\n'], [], by decide, by decide, by decide⟩
          (.cons ⟨['\u3000', '\u2029'], [], by decide, by decide, by decide⟩ .nil)))

end LoraGateway.Beacon
