import LoraGateway.Bytes

/-!
# The bytes of a text

A text is stored as the bytes of its characters one after the other (`Utf8.encode`), and a byte
string is a text if it can be made that way (`Utf8.fromUTF8?_eq_some_iff`). A byte below 128 stands
for the character of the same number wherever it occurs, and never for a part of another one
(`Utf8.utf8EncodeChar_eq_singleton`). Hence a text can be cut at any of them.

* `Utf8.encode_eq_append_cons`: in front of a byte below 128 and behind it there are texts.
-/

namespace LoraGateway.Utf8

/-- The bytes of a text. -/
def encode (cs : List Char) : Bytes :=
  cs.flatMap String.utf8EncodeChar

theorem encode_cons (c : Char) (cs : List Char) :
    encode (c :: cs) = String.utf8EncodeChar c ++ encode cs :=
  List.flatMap_cons ..

theorem encode_append (cs ds : List Char) : encode (cs ++ ds) = encode cs ++ encode ds :=
  List.flatMap_append ..

theorem encode_eq_nil_iff {cs : List Char} : encode cs = [] ↔ cs = [] := by
  cases cs with
  | nil => exact iff_of_true rfl rfl
  | cons c cs =>
    refine iff_of_false (fun h => ?_) (List.cons_ne_nil c cs)
    rw [encode_cons, List.append_eq_nil_iff, ← List.length_eq_zero_iff,
      String.length_utf8EncodeChar] at h
    exact absurd h.1 (Nat.ne_of_gt c.utf8Size_pos)

/-! ## Reading -/

theorem data_toByteArray (s : String) : s.toByteArray.data = (encode s.toList).toArray := by
  rw [← String.utf8Encode_toList]
  exact List.data_toByteArray

/-- The bytes that a text is read from are those of its characters. -/
theorem fromUTF8?_eq_some_iff {bs : Bytes} {s : String} :
    String.fromUTF8? ⟨bs.toArray⟩ = some s ↔ bs = encode s.toList := by
  have hbytes : (⟨bs.toArray⟩ : ByteArray) = s.toByteArray ↔ bs = encode s.toList := by
    rw [ByteArray.ext_iff, data_toByteArray]
    exact ⟨List.toArray_inj, congrArg _⟩
  rw [← hbytes, String.fromUTF8?]
  constructor
  · intro h
    split at h
    · exact congrArg String.toByteArray (Option.some.inj h)
    · cases h
  · intro h
    rw [h]
    exact dif_pos s.isValidUTF8

theorem exists_fromUTF8?_eq_some_iff {bs : Bytes} :
    (∃ s, String.fromUTF8? ⟨bs.toArray⟩ = some s) ↔ ∃ cs, bs = encode cs := by
  constructor
  · rintro ⟨s, hs⟩
    exact ⟨s.toList, fromUTF8?_eq_some_iff.1 hs⟩
  · rintro ⟨cs, rfl⟩
    refine ⟨String.ofList cs, fromUTF8?_eq_some_iff.2 ?_⟩
    rw [String.toList_ofList]

theorem toList_loop (bytes : ByteArray) (i : Nat) (read : Bytes) :
    ByteArray.toList.loop bytes i read = read.reverse ++ bytes.data.toList.drop i := by
  fun_induction ByteArray.toList.loop bytes i read with
  | case1 i read h ih =>
    have hi : i < bytes.data.toList.length := h
    have hget : bytes.get! i = bytes.data.toList[i] := getElem!_pos bytes.data i h
    rw [ih, List.reverse_cons, List.append_assoc, List.singleton_append,
      List.drop_eq_getElem_cons hi, hget]
  | case2 i read h =>
    rw [List.drop_eq_nil_of_le (Nat.not_lt.1 h), List.append_nil]

/-- A text that is written is the bytes of its characters. -/
theorem toList_toUTF8 (s : String) : s.toUTF8.toList = encode s.toList := by
  have hbytes : s.toUTF8.toList = s.toUTF8.data.toList := toList_loop s.toUTF8 0 []
  rw [hbytes, String.toUTF8_eq_toByteArray, data_toByteArray]

/-! ## Bytes below 128 -/

/-- A character of more than one byte has none below 128. -/
theorem le_of_mem_utf8EncodeChar {c : Char} (h : ¬c.val.toNat ≤ 127) :
    ∀ b ∈ String.utf8EncodeChar c, 128 ≤ b.toNat := by
  have hhigh (n : Nat) (hn : 128 ≤ n % 256) : 128 ≤ (UInt8.ofNat n).toNat := by
    rwa [UInt8.toNat_ofNat']
  rw [String.utf8EncodeChar]
  simp only [if_neg h]
  -- Two, three or four bytes.
  split
  · simp only [List.forall_mem_cons]
    exact ⟨hhigh _ (by omega), hhigh _ (by omega), nofun⟩
  · split
    · simp only [List.forall_mem_cons]
      exact ⟨hhigh _ (by omega), hhigh _ (by omega), hhigh _ (by omega), nofun⟩
    · simp only [List.forall_mem_cons]
      exact ⟨hhigh _ (by omega), hhigh _ (by omega), hhigh _ (by omega), hhigh _ (by omega), nofun⟩

/-- A byte below 128 is the whole of a character with its number. -/
theorem utf8EncodeChar_eq_singleton {c : Char} {b : UInt8} (hlow : b.toNat < 128)
    (h : b ∈ String.utf8EncodeChar c) : String.utf8EncodeChar c = [b] ∧ c.toNat = b.toNat := by
  by_cases hchar : c.val.toNat ≤ 127
  · rw [String.utf8EncodeChar] at h ⊢
    simp only [if_pos hchar, List.mem_singleton] at h ⊢
    subst h
    refine ⟨rfl, ?_⟩
    rw [UInt8.toNat_ofNat', Nat.mod_eq_of_lt (by omega)]
    rfl
  · exact absurd hlow (Nat.not_lt.2 (le_of_mem_utf8EncodeChar hchar b h))

theorem utf8EncodeChar_lineFeed : String.utf8EncodeChar '\n' = [0x0A] := by
  decide

/-- A character below 128 is the byte of its number. -/
theorem utf8EncodeChar_of_lt {c : Char} (h : c.toNat < 128) :
    String.utf8EncodeChar c = [UInt8.ofNat c.toNat] := by
  have hchar : c.val.toNat ≤ 127 := Nat.le_of_lt_succ h
  rw [String.utf8EncodeChar]
  simp only [if_pos hchar]
  rfl

/-- Of characters below 128, each is one byte. -/
theorem encode_of_ascii {cs : List Char} (h : ∀ c ∈ cs, c.toNat < 128) :
    encode cs = cs.map fun c => UInt8.ofNat c.toNat := by
  induction cs with
  | nil => rfl
  | cons c cs ih =>
    rw [List.forall_mem_cons] at h
    rw [encode_cons, utf8EncodeChar_of_lt h.1, ih h.2]
    rfl

/-- In front of a byte below 128 and behind it there are texts. -/
theorem encode_eq_append_cons {cs : List Char} {a b : Bytes} {mark : UInt8}
    (hlow : mark.toNat < 128) (h : encode cs = a ++ mark :: b) :
    ∃ xs c ys, cs = xs ++ c :: ys ∧ a = encode xs ∧ b = encode ys ∧ c.toNat = mark.toNat := by
  induction cs generalizing a with
  | nil => simp [encode] at h
  | cons c cs ih =>
    rw [encode_cons, List.append_eq_append_iff] at h
    obtain ⟨a', rfl, hrest⟩ | ⟨part, hc, hrest⟩ := h
    · -- The byte comes behind the first character.
      obtain ⟨xs, d, ys, rfl, rfl, hb, hd⟩ := ih hrest
      exact ⟨c :: xs, d, ys, rfl, (encode_cons c xs).symm, hb, hd⟩
    · cases part with
      | nil =>
        obtain ⟨xs, d, ys, rfl, hxs, hb, hd⟩ := ih (a := []) hrest.symm
        refine ⟨c :: xs, d, ys, rfl, ?_, hb, hd⟩
        rw [encode_cons, ← hxs, List.append_nil, hc, List.append_nil]
      | cons first part =>
        -- The byte is part of the first character, hence all of it.
        rw [List.cons_append, List.cons.injEq] at hrest
        obtain ⟨rfl, rfl⟩ := hrest
        have hmem : mark ∈ String.utf8EncodeChar c := by
          rw [hc]
          exact List.mem_append_right a List.mem_cons_self
        obtain ⟨hsingle, hvalue⟩ := utf8EncodeChar_eq_singleton hlow hmem
        rw [hsingle, List.singleton_eq_append_iff] at hc
        obtain ⟨rfl, hpart⟩ | ⟨-, hpart⟩ := hc
        · obtain rfl := (List.cons.inj hpart).2
          exact ⟨[], c, cs, rfl, rfl, rfl, hvalue⟩
        · cases hpart

end LoraGateway.Utf8
