import LoraGateway.Proofs.CallOrder
import LoraGateway.Proofs.EuiText

/-!
# The forms of values in messages

What a message reads back as is told by the calls alone, by the form that each kind of value has
(`FieldValue.ReadsAs`): strings and integers as they are, an identifier by pairs of digits with
dashes between them, and a byte string by its digits. The members of a message are those of its
fields and arrays, in their order (`Message.ReadsAs`).

* `Hex.spellsUpper_iff`, `Eui.isDashed_iff`: byte strings and identifiers have one form each;
* `Message.readsAs_iff`: calls read back as what they write, by induction on the calls.
-/

namespace LoraGateway

/-! ## Digits -/

namespace Hex

/-- The characters are upper-case digits which spell the bytes, two for each byte. -/
structure SpellsUpper (cs : List Char) (bs : Bytes) : Prop where
  spells : SpellsBytes cs bs
  upper : cs ⊆ upperDigits

theorem map_toUpper_eq_self {cs : List Char} (h : cs ⊆ upperDigits) :
    cs.map Char.toUpper = cs := by
  have hall : (upperDigits.all fun c => c.toUpper == c) = true := by decide +kernel
  have hupper (c : Char) (hc : c ∈ cs) : c.toUpper = c :=
    eq_of_beq (List.all_eq_true.1 hall c (h hc))
  rw [List.map_congr_left hupper, List.map_id']

theorem spellsUpper_iff {cs : List Char} {bs : Bytes} : SpellsUpper cs bs ↔ cs = encode bs := by
  constructor
  · rintro ⟨hspells, hupper⟩
    rw [← ofPairs?_eq_some_iff_spells, ofPairs?_eq_some_iff, map_toUpper_eq_self hupper] at hspells
    exact hspells
  · rintro rfl
    exact ⟨ofPairs?_eq_some_iff_spells.1 (ofPairs?_encode bs),
      fun _ => mem_upperDigits_of_mem_encode⟩

/-- The digits of bytes are in pairs in one way only. -/
theorem eq_map_byte_iff {pairs : List (List Char)} {bs : Bytes} :
    pairs = bs.map byte ↔
      pairs.flatten = encode bs ∧ pairs.length = bs.length ∧ ∀ pair ∈ pairs, pair.length = 2 := by
  have hflatten : (bs.map byte).flatten = encode bs := List.flatMap_def.symm
  have hlengths : (bs.map byte).map List.length = List.replicate bs.length 2 := by
    rw [List.map_map, ← List.map_const']
    rfl
  rw [List.eq_iff_flatten_eq, hflatten, hlengths, List.eq_replicate_iff, List.length_map,
    List.forall_mem_map]

end Hex

namespace Eui

/-- The characters are eight pairs of upper-case digits with dashes between them, which spell the
    identifier in base 16. -/
def IsDashed (cs : List Char) (e : Eui) : Prop :=
  ∃ pairs : List (List Char), cs = ['-'].intercalate pairs ∧ pairs.length = 8 ∧
    (∀ pair ∈ pairs, pair.length = 2) ∧ pairs.flatten ⊆ Hex.upperDigits ∧
    SpellsWord pairs.flatten e.value

theorem isDashed_iff {cs : List Char} {e : Eui} : IsDashed cs e ↔ cs = e.chars := by
  have hbytes := Bytes.length_beBytes 8 e.value.toNat
  constructor
  · rintro ⟨pairs, rfl, hlength, hpair, hupper, hspells⟩
    have hdigits := hspells.map_toUpper_eq
    rw [Hex.map_toUpper_eq_self hupper] at hdigits
    rw [chars, Hex.eq_map_byte_iff.2 ⟨hdigits, hlength.trans hbytes.symm, hpair⟩]
  · rintro rfl
    obtain ⟨hflatten, hlength, hpair⟩ :=
      Hex.eq_map_byte_iff.1 (rfl : (Bytes.beBytes 8 e.value.toNat).map Hex.byte = _)
    have hspells := ofText?_eq_some_iff.1 (ofText?_text e)
    rw [digits_text] at hspells
    refine ⟨_, rfl, hlength.trans hbytes, hpair, ?_, hflatten ▸ hspells⟩
    rw [hflatten]
    exact fun _ => Hex.mem_upperDigits_of_mem_encode

end Eui

/-! ## Values -/

/-- The JSON values that a value may read back as. -/
inductive FieldValue.ReadsAs : FieldValue → Json → Prop
  | text (s : String) : ReadsAs (.text s) (.string s)
  | int (n : Int64) : ReadsAs (.int n) (.number (.int n.toInt))
  | eui {e : Eui} {s : String} (h : Eui.IsDashed s.toList e) : ReadsAs (.eui e) (.string s)
  | bytes {bs : Bytes} {s : String} (h : Hex.SpellsUpper s.toList bs) :
    ReadsAs (.bytes bs) (.string s)

theorem FieldValue.readsAs_iff {v : FieldValue} {w : Json} : v.ReadsAs w ↔ w = v.json := by
  constructor
  · intro h
    cases h with
    | text s => rfl
    | int n => rfl
    | @eui e s h => rw [json, Eui.text, ← Eui.isDashed_iff.1 h, String.ofList_toList]
    | @bytes bs s h => rw [json, Hex.text, ← Hex.spellsUpper_iff.1 h, String.ofList_toList]
  · rintro rfl
    cases v with
    | text s => exact .text s
    | int n => exact .int n
    | eui e => exact .eui (Eui.isDashed_iff.2 String.toList_ofList)
    | bytes bs => exact .bytes (Hex.spellsUpper_iff.2 String.toList_ofList)

theorem FieldValue.forall₂_readsAs_iff {vs : List FieldValue} {ws : List Json} :
    List.Forall₂ ReadsAs vs ws ↔ ws = vs.map (·.json) := by
  have heq : ReadsAs = fun v w => v.json = w := by
    funext v w
    exact propext (readsAs_iff.trans eq_comm)
  rw [heq, ← List.forall₂_map_left_iff, List.forall₂_eq_eq_eq, eq_comm]

/-! ## Calls -/

namespace Message

/-- The members that calls read back as: one for each field and for each array, in their order. An
    array has the items of the calls right behind it, up to one that is no item; apart from these,
    items and the ends of arrays add nothing. -/
inductive ReadsAs : List Call → List (String × Json) → Prop
  | nil : ReadsAs [] []
  | field {name : String} {v : FieldValue} {w : Json} {calls : List Call}
    {members : List (String × Json)} (hv : v.ReadsAs w) (h : ReadsAs calls members) :
    ReadsAs (.field name v :: calls) ((name, w) :: members)
  | array {name : String} {vs : List FieldValue} {ws : List Json} {calls : List Call}
    {members : List (String × Json)} (hvs : List.Forall₂ FieldValue.ReadsAs vs ws)
    (hend : ∀ v, calls.head? ≠ some (.item v)) (h : ReadsAs calls members) :
    ReadsAs (.beginArray name :: (vs.map .item ++ calls)) ((name, .array ws) :: members)
  | item {v : FieldValue} {calls : List Call} {members : List (String × Json)}
    (h : ReadsAs calls members) : ReadsAs (.item v :: calls) members
  | endArray {calls : List Call} {members : List (String × Json)} (h : ReadsAs calls members) :
    ReadsAs (.endArray :: calls) members

variable {calls : List Call} {members : List (String × Json)}

/-- Calls start with some items, and go on with a call that is none. -/
theorem exists_items (calls : List Call) : ∃ (vs : List FieldValue) (behind : List Call),
    calls = vs.map .item ++ behind ∧ ∀ v, behind.head? ≠ some (.item v) := by
  induction calls with
  | nil => exact ⟨[], [], rfl, nofun⟩
  | cons c calls ih =>
    cases c with
    | item v =>
      obtain ⟨vs, behind, rfl, hend⟩ := ih
      exact ⟨v :: vs, behind, rfl, hend⟩
    | _ => exact ⟨[], _, rfl, fun v hv => by cases hv⟩

theorem leadingItems_append (vs : List FieldValue) (hend : ∀ v, calls.head? ≠ some (.item v)) :
    leadingItems (vs.map .item ++ calls) = vs.map (·.json) := by
  induction vs with
  | nil =>
    cases calls with
    | nil => rfl
    | cons c calls =>
      cases c with
      | item v => exact absurd rfl (hend v)
      | _ => rfl
  | cons v vs ih => exact congrArg (v.json :: ·) ih

theorem written_append (vs : List FieldValue) (calls : List Call) :
    written (vs.map .item ++ calls) = written calls := by
  induction vs with
  | nil => rfl
  | cons v vs ih => exact ih

/-- Items that are in no array add nothing. -/
theorem ReadsAs.of_items {vs : List FieldValue} (h : ReadsAs (vs.map .item ++ calls) members) :
    ReadsAs calls members := by
  induction vs with
  | nil => exact h
  | cons v vs ih =>
    cases h with
    | item h => exact ih h

/-- Calls read back as what they write, and as nothing else. -/
theorem readsAs_iff : ReadsAs calls members ↔ members = written calls := by
  constructor
  · intro h
    induction h with
    | nil => rfl
    | field hv h ih => rw [written, FieldValue.readsAs_iff.1 hv, ih]
    | array hvs hend h ih =>
      rw [written, leadingItems_append _ hend, written_append, ih,
        FieldValue.forall₂_readsAs_iff.1 hvs]
    | item h ih => exact ih
    | endArray h ih => exact ih
  · rintro rfl
    induction calls with
    | nil => exact .nil
    | cons c calls ih =>
      cases c with
      | field name v => exact .field (FieldValue.readsAs_iff.2 rfl) ih
      | beginArray name =>
        obtain ⟨vs, behind, rfl, hend⟩ := exists_items calls
        rw [written_append] at ih
        rw [written, leadingItems_append vs hend, written_append]
        exact .array (FieldValue.forall₂_readsAs_iff.2 rfl) hend ih.of_items
      | item v => exact .item ih
      | endArray => exact .endArray ih

end Message

end LoraGateway
