import Mathlib.Data.String.Basic
import LoraGateway.Proofs.MessageForm
import LoraGateway.Proofs.MessageText

/-!
# A message is one line of JSON

The text of a message has no control character, so it is one line, whatever its names and values
are, and it is a text of exactly one value: the object of the members that the calls read back as.

* `Json.Plain.isLine_chars`: what is printed for a value holds no control character, by
  induction on the value;
* `Json.lookup_insertMember`, `Json.lookup_canonicalMembers`: of members of one name, the last one
  stays;
* `Message.text_reads_back`: what a message reads back as.
-/

namespace LoraGateway

namespace Json

/-! ## Control characters -/

/-- True of characters none of which is a control character. -/
def IsLine (cs : List Char) : Prop :=
  ∀ c ∈ cs, 0x20 ≤ c.toNat

instance (cs : List Char) : Decidable (IsLine cs) :=
  List.decidableBAll (fun c : Char => 0x20 ≤ c.toNat) cs

theorem isLine_nil : IsLine [] :=
  nofun

theorem isLine_append {cs ds : List Char} : IsLine (cs ++ ds) ↔ IsLine cs ∧ IsLine ds :=
  List.forall_mem_append

theorem isLine_cons {c : Char} {cs : List Char} : IsLine (c :: cs) ↔ 0x20 ≤ c.toNat ∧ IsLine cs :=
  List.forall_mem_cons

theorem isLine_of_digits {ds : List Char} (h : ∀ c ∈ ds, c.isDigit = true) : IsLine ds := by
  intro c hc
  have hlow : '0'.toNat ≤ c.toNat := (Char.isDigit_iff_toNat.1 (h c hc)).1
  exact Nat.le_trans (by decide) hlow

theorem isLine_signed (n : Int) : IsLine (Decimal.signed n) := by
  have hdigits : IsLine (Decimal.digits n.natAbs) :=
    isLine_of_digits fun _ => Decimal.isDigit_of_mem_digits
  rw [Decimal.signed]
  split
  · exact isLine_cons.2 ⟨by decide, hdigits⟩
  · exact hdigits

/-- A control character is escaped, by a letter or by its code. -/
theorem isLine_escape (c : Char) : IsLine (escape c) := by
  unfold escape
  split
  case h_8 =>
    split
    · next hcontrol =>
      have hdigit : ∀ n < 16, 0x20 ≤ (Nat.digitChar n).toNat := by decide
      have hcode : IsLine ['\\', 'u', '0', '0'] := by decide
      have hdigits : IsLine [Nat.digitChar (c.toNat / 16), Nat.digitChar (c.toNat % 16)] :=
        isLine_cons.2 ⟨hdigit _ (by omega), isLine_cons.2 ⟨hdigit _ (by omega), isLine_nil⟩⟩
      exact isLine_append.2 ⟨hcode, hdigits⟩
    · next hcontrol => exact isLine_cons.2 ⟨Nat.not_lt.1 hcontrol, isLine_nil⟩
  all_goals decide

theorem isLine_quote (s : String) : IsLine (quote s.toList) := by
  refine isLine_cons.2 ⟨by decide, isLine_append.2 ⟨fun c hc => ?_, by decide⟩⟩
  obtain ⟨d, -, hd⟩ := List.mem_flatMap.1 hc
  exact isLine_escape d c hd

theorem isLine_itemChars {separator : List Char} (hseparator : IsLine separator) {items : List Json}
    (h : ∀ v ∈ items, IsLine v.chars) : IsLine (itemChars separator items) := by
  induction items generalizing separator with
  | nil => nofun
  | cons v rest ih =>
    rw [List.forall_mem_cons] at h
    rw [itemChars, isLine_append, isLine_append]
    exact ⟨⟨hseparator, h.1⟩, ih (by decide) h.2⟩

theorem isLine_memberChars {separator : List Char} (hseparator : IsLine separator)
    {members : List (String × Json)} (h : ∀ m ∈ members, IsLine m.2.chars) :
    IsLine (memberChars separator members) := by
  induction members generalizing separator with
  | nil => nofun
  | cons m rest ih =>
    rw [List.forall_mem_cons] at h
    have hpair : IsLine (pairChars m) := by
      rw [pairChars, isLine_append, isLine_cons]
      exact ⟨isLine_quote m.1, by decide, h.1⟩
    rw [memberChars, isLine_append, isLine_append]
    exact ⟨⟨hseparator, hpair⟩, ih (by decide) h.2⟩

/-- What is printed for a plain value is one line. -/
theorem Plain.isLine_chars {depth : Nat} {v : Json} (h : Plain depth v) : IsLine v.chars := by
  induction h with
  | null => decide
  | bool b => cases b <;> decide
  | @int _ n _ _ => exact isLine_signed n
  | string s => exact isLine_quote s
  | array _ ih =>
    exact isLine_cons.2 ⟨by decide, isLine_append.2 ⟨isLine_itemChars isLine_nil ih, by decide⟩⟩
  | object _ ih =>
    exact isLine_cons.2 ⟨by decide, isLine_append.2 ⟨isLine_memberChars isLine_nil ih, by decide⟩⟩

/-! ## Repeated names -/

/-- True of members whose names ascend. -/
def Ascending (members : List (String × Json)) : Prop :=
  members.Pairwise (·.1 < ·.1)

variable {name key : String} {v : Json} {members : List (String × Json)}

theorem mem_insertMember {p : String × Json} (h : p ∈ insertMember key v members) :
    p = (key, v) ∨ p ∈ members := by
  induction members with
  | nil => exact .inl (List.mem_singleton.1 h)
  | cons m rest ih =>
    rw [insertMember] at h
    split at h
    · exact .inr h
    · split at h
      · exact List.mem_cons.1 h
      · rcases List.mem_cons.1 h with rfl | h
        · exact .inr List.mem_cons_self
        · exact (ih h).imp_right (List.mem_cons_of_mem _)

theorem Ascending.insertMember (h : Ascending members) (key : String) (v : Json) :
    Ascending (insertMember key v members) := by
  induction members with
  | nil => exact List.pairwise_singleton ..
  | cons m rest ih =>
    obtain ⟨hm, hrest⟩ := List.pairwise_cons.1 h
    rw [Json.insertMember]
    split_ifs with heq hlt
    · exact h
    · refine List.pairwise_cons.2 ⟨fun p hp => ?_, h⟩
      rcases List.mem_cons.1 hp with rfl | hp
      · exact hlt
      · exact hlt.trans (hm p hp)
    · have hgt : m.1 < key := lt_of_le_of_ne (not_lt.1 hlt) (Ne.symm heq)
      refine List.pairwise_cons.2 ⟨fun p hp => ?_, ih hrest⟩
      rcases mem_insertMember hp with rfl | hp
      · exact hgt
      · exact hm p hp

theorem lookup_eq_none_of_lt (h : ∀ m ∈ members, name < m.1) : members.lookup name = none := by
  rw [List.lookup_eq_none_iff]
  intro m hm
  simpa using (h m hm).ne

theorem lookup_cons (name key : String) (v : Json) (members : List (String × Json)) :
    ((key, v) :: members).lookup name = if name = key then some v else members.lookup name := by
  rw [List.lookup_cons]
  split_ifs with h
  · rw [h, beq_self_eq_true]
  · rw [beq_false_of_ne h]

/-- What is put among ascending members is found there, unless there was a member of its name. -/
theorem lookup_insertMember (h : Ascending members) (name key : String) (v : Json) :
    (insertMember key v members).lookup name =
      if name = key then some ((members.lookup key).getD v) else members.lookup name := by
  induction members with
  | nil => rw [insertMember, lookup_cons, List.lookup_nil, List.lookup_nil, Option.getD_none]
  | cons m rest ih =>
    obtain ⟨hm, hrest⟩ := List.pairwise_cons.1 h
    obtain ⟨k, w⟩ := m
    rw [insertMember]
    by_cases heq : key = k
    · rw [if_pos heq, heq, lookup_cons k, if_pos rfl, Option.getD_some, lookup_cons]
      split_ifs <;> rfl
    · by_cases hlt : key < k
      · have hnone : ((k, w) :: rest).lookup key = none :=
          lookup_eq_none_of_lt (List.forall_mem_cons.2 ⟨hlt, fun p hp => hlt.trans (hm p hp)⟩)
        rw [if_neg heq, if_pos hlt, lookup_cons name key, hnone, Option.getD_none]
      · rw [if_neg heq, if_neg hlt, lookup_cons name k, ih hrest, lookup_cons key k, if_neg heq,
          lookup_cons name k]
        by_cases hname : name = k
        · have hkey : name ≠ key := fun h => heq (h ▸ hname)
          rw [if_pos hname, if_neg hkey, if_pos hname]
        · rw [if_neg hname, if_neg hname]

/-- The value that a list of members gives to a name: that of the last one. -/
def last? (name : String) (members : List (String × Json)) : Option Json :=
  (members.filter (·.1 == name)).getLast?.map (·.2)

theorem ascending_canonicalMembers (members : List (String × Json)) :
    Ascending (canonicalMembers members) := by
  induction members with
  | nil => exact List.Pairwise.nil
  | cons m rest ih => exact ih.insertMember _ _

/-- Of members of one name, the last one stays. -/
theorem lookup_canonicalMembers (name : String) (members : List (String × Json)) :
    (canonicalMembers members).lookup name = (last? name members).map canonical := by
  induction members with
  | nil => rfl
  | cons m rest ih =>
    obtain ⟨key, v⟩ := m
    rw [canonicalMembers, canonicalMember, lookup_insertMember (ascending_canonicalMembers rest),
      last?, List.filter_cons]
    by_cases hname : name = key
    · subst hname
      rw [if_pos rfl, ih, if_pos (beq_self_eq_true name), List.getLast?_cons, last?]
      cases (rest.filter (·.1 == name)).getLast? <;> rfl
    · rw [if_neg hname, ih, if_neg (by simpa using Ne.symm hname), last?]

/-- A value without objects in it is in canonical form. -/
theorem canonicalItems_eq_self {items : List Json} (h : ∀ v ∈ items, v.canonical = v) :
    canonicalItems items = items := by
  induction items with
  | nil => rfl
  | cons v rest ih =>
    rw [List.forall_mem_cons] at h
    rw [canonicalItems, h.1, ih h.2]

end Json

theorem FieldValue.canonical_json (v : FieldValue) : v.json.canonical = v.json := by
  cases v <;> rfl

namespace Message

theorem canonical_of_mem_leadingItems {calls : List Call} {v : Json} (h : v ∈ leadingItems calls) :
    v.canonical = v := by
  induction calls with
  | nil => cases h
  | cons c calls ih =>
    cases c with
    | item w =>
      rcases List.mem_cons.1 h with rfl | h
      · exact w.canonical_json
      · exact ih h
    | _ => cases h

/-- Messages hold no objects. -/
theorem canonical_of_mem_written {calls : List Call} {p : String × Json} (h : p ∈ written calls) :
    p.2.canonical = p.2 := by
  induction calls with
  | nil => cases h
  | cons c calls ih =>
    cases c with
    | field name v =>
      rcases List.mem_cons.1 h with rfl | h
      · exact v.canonical_json
      · exact ih h
    | beginArray name =>
      rcases List.mem_cons.1 h with rfl | h
      · rw [Json.canonical, Json.canonicalItems_eq_self fun _ => canonical_of_mem_leadingItems]
      · exact ih h
    | item v => exact ih h
    | endArray => exact ih h

theorem canonical_last?_written (name : String) (calls : List Call) :
    (Json.last? name (written calls)).map Json.canonical = Json.last? name (written calls) := by
  rw [Json.last?]
  cases hlast : ((written calls).filter (·.1 == name)).getLast? with
  | none => rfl
  | some p =>
    have hp : p ∈ written calls := List.mem_of_mem_filter (List.mem_of_getLast? hlast)
    exact congrArg some (canonical_of_mem_written hp)

/-- The text of a message is one line. As a JSON text it stands for exactly one value, the object of
    the members that the calls read back as, in their order, and so it is read. Where only the last
    member of a name counts, that is the last one of them. -/
theorem text_reads_back (calls : List Call) :
    let m := applyAll {} calls
    Json.IsLine m.text.toList ∧
    (∀ members, ReadsAs calls members ↔ members = m.allMembers) ∧
    (∀ v, Json.Grammar.IsText m.text v ↔ v = .object m.allMembers) ∧
    Json.ofText? m.text = some (.object m.allMembers) ∧
    ∀ name, ((Json.ofText? m.text).map Json.canonical).bind (Json.member? name) =
      Json.last? name m.allMembers := by
  intro m
  have hmembers : m.allMembers = written calls := allMembers_applyAll_empty calls
  have hplain : m.IsPlain := isPlain_applyAll isPlain_empty calls
  have hobject : Json.Plain 2 m.json := .object hplain.allMembers
  have hread : Json.ofText? m.text = some m.json := ofText?_text hplain
  have hisText : Json.Grammar.IsText m.text m.json := hobject.isText_text
  refine ⟨?_, fun members => ?_, fun v => ⟨fun hv => hv.unique hisText, ?_⟩, hread, fun name => ?_⟩
  · rw [text, Json.text, String.toList_ofList]
    exact hobject.isLine_chars
  · rw [readsAs_iff, hmembers]
  · rintro rfl
    exact hisText
  · rw [hread, Option.map_some, Option.bind_some, json, Json.canonical, Json.member?,
      Json.lookup_canonicalMembers, hmembers, canonical_last?_written]

/-- A string with escapes, the least integer, an identifier in an array, a byte string with a name
    that was written before, and an array that is still open; items in front of the first array and
    behind its end. -/
theorem text_reads_back_forms :
    let calls : List Call := [.item (.int 7), .field "a" (.text "\"\\/\n\x01é😀"),
      .field "n" (.int (-9223372036854775808)), .beginArray "e", .item (.eui ⟨0x0123456789ABCDEF⟩),
      .endArray, .item (.int 8), .field "a" (.bytes [0x0A, 0xFF]),
      .beginArray "o", .item (.text ""), .item (.int 0)]
    let members : List (String × Json) := [("a", .string "\"\\/\n\x01é😀"),
      ("n", .number (.int (-9223372036854775808))),
      ("e", .array [.string "01-23-45-67-89-AB-CD-EF"]), ("a", .string "0AFF"),
      ("o", .array [.string "", .number (.int 0)])]
    let m := applyAll {} calls
    ReadsAs calls members ∧ Json.ofText? m.text = some (.object members) ∧
      ((Json.ofText? m.text).map Json.canonical).bind (Json.member? "a") =
        some (.string "0AFF") := by
  intro calls members m
  have hdashed : Eui.IsDashed "01-23-45-67-89-AB-CD-EF".toList ⟨0x0123456789ABCDEF⟩ := by
    refine ⟨[['0', '1'], ['2', '3'], ['4', '5'], ['6', '7'], ['8', '9'], ['A', 'B'], ['C', 'D'],
      ['E', 'F']], rfl, rfl, by decide, by decide, List.range 16, ?_, rfl, rfl⟩
    decide
  have hdigits : Hex.SpellsUpper "0AFF".toList [0x0A, 0xFF] := by
    refine ⟨?_, by decide⟩
    exact Hex.SpellsBytes.cons_iff.2 ⟨⟨0, 10, by decide, by decide, rfl⟩,
      Hex.SpellsBytes.cons_iff.2 ⟨⟨15, 15, by decide, by decide, rfl⟩, rfl, nofun⟩⟩
  have hopen : ReadsAs [.beginArray "o", .item (.text ""), .item (.int 0)]
      [("o", .array [.string "", .number (.int 0)])] :=
    @ReadsAs.array "o" [.text "", .int 0] _ [] [] (.cons (.text "") (.cons (.int 0) .nil)) nofun
      .nil
  have hreads : ReadsAs calls members := by
    refine .item (.field (.text _) (.field (.int _) ?_))
    refine @ReadsAs.array "e" [.eui _] _ _ _ (.cons (.eui hdashed) .nil) nofun ?_
    exact .endArray (.item (.field (.bytes hdigits) hopen))
  obtain ⟨-, hmembers, -, hread, hlast⟩ := text_reads_back calls
  have hall := (hmembers members).1 hreads
  refine ⟨hreads, hread.trans ?_, (hlast "a").trans ?_⟩
  · rw [← hall]
  · rw [← hall]
    rfl

end Message

end LoraGateway
