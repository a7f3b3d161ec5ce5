import Mathlib.Data.List.Induction
import LoraGateway.Capture
import LoraGateway.Proofs.Trim
import LoraGateway.Proofs.Utf8

/-!
# The lines of a capture

A capture is read line by line (`Capture.AreLines`): it is a text if and only if each of its lines
is one (`Capture.texts?_eq_some_iff`), because a line feed is never a part of another character.
Each line contributes to what is read on its own: nothing, an item, or a bad line with its number
(`Capture.Contribute`). Only the number depends on the lines before.

* `Capture.read_lines`: captures can be read piece by piece, and what is read accounts for each line.
-/

namespace LoraGateway.Capture

/-- True for a capture that does not end within a line. -/
def IsClosed (bs : Bytes) : Prop :=
  bs = [] ∨ bs.getLast? = some lineFeed

/-- The texts of the lines of a capture, if all of them are texts. -/
def texts? (bs : Bytes) : Option (List String) :=
  (splitLines bs).mapM fun l => String.fromUTF8? ⟨l.toArray⟩

/-- The lines of a capture are what stands in front of each line feed, and what stands behind the
    last one unless that is empty. -/
inductive AreLines : Bytes → List String → Prop
  | nil : AreLines [] []
  | last {t : String} (hne : t ≠ "") (h : '\n' ∉ t.toList) : AreLines (Utf8.encode t.toList) [t]
  | line {t : String} {bs : Bytes} {ts : List String} (h : '\n' ∉ t.toList) (rest : AreLines bs ts) :
    AreLines (Utf8.encode t.toList ++ lineFeed :: bs) (t :: ts)

/-- True for a line that is passed over: a blank one or a comment. -/
def IsPassedOver (t : String) : Prop :=
  Text.trim t.toList = [] ∨ (Text.trim t.toList).head? = some '#'

/-- What lines contribute, of which the first has the number `n`: their items, their bad lines, and
    how many of them are passed over. -/
inductive Contribute : (n : Nat) → List String → List Item → List (Nat × String) → Nat → Prop
  | nil {n : Nat} : Contribute n [] [] [] 0
  | passedOver {n k : Nat} {t : String} {ts : List String} {is : List Item}
      {bad : List (Nat × String)} (h : IsPassedOver t) (rest : Contribute (n + 1) ts is bad k) :
    Contribute n (t :: ts) is bad (k + 1)
  | item {n k : Nat} {t : String} {ts : List String} {i : Item} {is : List Item}
      {bad : List (Nat × String)} (h : ¬IsPassedOver t)
      (hitem : itemOfTrimmed? (Text.trim t.toList) = some i)
      (rest : Contribute (n + 1) ts is bad k) :
    Contribute n (t :: ts) (i :: is) bad k
  | bad {n k : Nat} {t : String} {ts : List String} {is : List Item} {bad : List (Nat × String)}
      (h : ¬IsPassedOver t) (hnone : itemOfTrimmed? (Text.trim t.toList) = none)
      (rest : Contribute (n + 1) ts is bad k) :
    Contribute n (t :: ts) is ((n, String.ofList (Text.trim t.toList)) :: bad) k

/-! ## Lines of bytes -/

theorem splitLines_line {a : Bytes} (h : lineFeed ∉ a) (b : Bytes) :
    splitLines (a ++ lineFeed :: b) = a :: splitLines b := by
  induction a with
  | nil => rfl
  | cons c a ih =>
    rw [List.mem_cons, not_or] at h
    have hrest := ih h.2
    rw [splitLines] at hrest ⊢
    rw [List.cons_append, List.foldr_cons, hrest]
    exact if_neg (Ne.symm h.1)

theorem splitLines_last {a : Bytes} (hne : a ≠ []) (h : lineFeed ∉ a) : splitLines a = [a] := by
  induction a with
  | nil => exact absurd rfl hne
  | cons c a ih =>
    rw [List.mem_cons, not_or] at h
    cases a with
    | nil => exact if_neg (Ne.symm h.1)
    | cons d a =>
      have hrest := ih (List.cons_ne_nil d a) h.2
      rw [splitLines] at hrest ⊢
      rw [List.foldr_cons, hrest]
      exact if_neg (Ne.symm h.1)

/-- A capture is empty, a line that does not end, or a line in front of a capture. -/
theorem lines_induction {motive : Bytes → Prop} (nil : motive [])
    (last : ∀ a, a ≠ [] → lineFeed ∉ a → motive a)
    (line : ∀ a b, lineFeed ∉ a → motive b → motive (a ++ lineFeed :: b)) (bs : Bytes) :
    motive bs := by
  induction hlength : bs.length using Nat.strongRecOn generalizing bs with
  | ind n ih =>
    by_cases hmem : lineFeed ∈ bs
    · obtain ⟨a, b, rfl, ha⟩ := List.eq_append_cons_of_mem hmem
      refine line a b ha (ih b.length ?_ b rfl)
      rw [← hlength, List.length_append, List.length_cons]
      omega
    · cases bs with
      | nil => exact nil
      | cons c bs => exact last _ (List.cons_ne_nil c bs) hmem

theorem splitLines_append_of_isClosed {a : Bytes} (h : IsClosed a) (b : Bytes) :
    splitLines (a ++ b) = splitLines a ++ splitLines b := by
  obtain rfl | hlast := h
  · rfl
  · obtain ⟨a, rfl⟩ := List.getLast?_eq_some_iff.1 hlast
    rw [List.append_assoc, List.singleton_append]
    exact splitLines_append a b

theorem IsClosed.behind {a b : Bytes} (h : IsClosed (a ++ lineFeed :: b)) : IsClosed b := by
  cases b with
  | nil => exact .inl rfl
  | cons c b =>
    obtain hnil | hlast := h
    · exact absurd (List.append_eq_nil_iff.1 hnil).2 (List.cons_ne_nil _ _)
    · rw [List.getLast?_append, List.getLast?_cons_cons, List.getLast?_cons, Option.some_or,
        ← List.getLast?_cons] at hlast
      exact .inr hlast

/-! ## Lines of text -/

theorem encode_ne_nil {t : String} (h : t ≠ "") : Utf8.encode t.toList ≠ [] :=
  mt Utf8.encode_eq_nil_iff.1 (mt String.toList_eq_nil_iff.1 h)

theorem encode_cons_lineFeed (cs : List Char) :
    Utf8.encode ('\n' :: cs) = lineFeed :: Utf8.encode cs := by
  rw [Utf8.encode_cons, Utf8.utf8EncodeChar_lineFeed]
  rfl

/-- A line feed in front of which and behind which there is something stands between two texts. -/
theorem encode_eq_append_lineFeed {cs : List Char} {a b : Bytes}
    (h : Utf8.encode cs = a ++ lineFeed :: b) :
    ∃ xs ys, cs = xs ++ '\n' :: ys ∧ a = Utf8.encode xs ∧ b = Utf8.encode ys := by
  obtain ⟨xs, c, ys, hcs, ha, hb, hc⟩ := Utf8.encode_eq_append_cons (by decide) h
  obtain rfl : c = '\n' := Char.toNat_inj.1 hc
  exact ⟨xs, ys, hcs, ha, hb⟩

theorem lineFeed_mem_encode_iff {cs : List Char} : lineFeed ∈ Utf8.encode cs ↔ '\n' ∈ cs := by
  constructor
  · intro h
    obtain ⟨a, b, hab⟩ := List.append_of_mem h
    obtain ⟨xs, ys, rfl, -, -⟩ := encode_eq_append_lineFeed hab
    exact List.mem_append_right xs List.mem_cons_self
  · intro h
    obtain ⟨xs, ys, rfl⟩ := List.append_of_mem h
    rw [Utf8.encode_append, encode_cons_lineFeed]
    exact List.mem_append_right _ List.mem_cons_self

theorem mapM_text_cons {l : Bytes} {ls : List Bytes} {ts : List String} :
    (l :: ls).mapM (fun l => String.fromUTF8? ⟨l.toArray⟩) = some ts ↔
      ∃ t rest, l = Utf8.encode t.toList ∧
        ls.mapM (fun l => String.fromUTF8? ⟨l.toArray⟩) = some rest ∧ ts = t :: rest := by
  simp only [List.mapM_cons, Option.bind_eq_bind, Option.bind_eq_some_iff, Option.pure_def,
    Option.some_inj, Utf8.fromUTF8?_eq_some_iff, exists_and_left, eq_comm (a := ts)]

theorem areLines_of_texts? {bs : Bytes} {ts : List String} (h : texts? bs = some ts) :
    AreLines bs ts := by
  induction bs using lines_induction generalizing ts with
  | nil =>
    obtain rfl := Option.some.inj h
    exact .nil
  | last a hne ha =>
    rw [texts?, splitLines_last hne ha, mapM_text_cons] at h
    obtain ⟨t, rest, rfl, hrest, rfl⟩ := h
    obtain rfl := Option.some.inj hrest
    refine .last (fun ht => hne ?_) fun ht => ha (lineFeed_mem_encode_iff.2 ht)
    rw [ht]
    rfl
  | line a b ha ih =>
    rw [texts?, splitLines_line ha, mapM_text_cons] at h
    obtain ⟨t, rest, rfl, hrest, rfl⟩ := h
    exact .line (fun ht => ha (lineFeed_mem_encode_iff.2 ht)) (ih hrest)

theorem AreLines.texts?_eq {bs : Bytes} {ts : List String} (h : AreLines bs ts) :
    texts? bs = some ts := by
  induction h with
  | nil => rfl
  | last hne h =>
    rw [texts?, splitLines_last (encode_ne_nil hne) (mt lineFeed_mem_encode_iff.1 h), mapM_text_cons]
    exact ⟨_, [], rfl, rfl, rfl⟩
  | line h _ ih =>
    rw [texts?, splitLines_line (mt lineFeed_mem_encode_iff.1 h), mapM_text_cons]
    exact ⟨_, _, rfl, ih, rfl⟩

theorem texts?_eq_some_iff {bs : Bytes} {ts : List String} :
    texts? bs = some ts ↔ AreLines bs ts :=
  ⟨areLines_of_texts?, AreLines.texts?_eq⟩

/-- A capture that does not end within a line has as many lines as line feeds. -/
theorem AreLines.length_eq {bs : Bytes} {ts : List String} (h : AreLines bs ts)
    (hclosed : IsClosed bs) : ts.length = bs.count lineFeed := by
  induction h with
  | nil => rfl
  | last hne h =>
    obtain hnil | hlast := hclosed
    · exact absurd hnil (encode_ne_nil hne)
    · exact absurd (List.mem_of_getLast? hlast) (mt lineFeed_mem_encode_iff.1 h)
  | line h _ ih =>
    rw [List.length_cons, ih hclosed.behind, List.count_append,
      List.count_eq_zero_of_not_mem (mt lineFeed_mem_encode_iff.1 h), List.count_cons_self,
      Nat.zero_add]

/-- A capture has lines of text if and only if it is a text. -/
theorem exists_areLines_iff {bs : Bytes} : (∃ ts, AreLines bs ts) ↔ ∃ cs, bs = Utf8.encode cs := by
  constructor
  · rintro ⟨ts, h⟩
    induction h with
    | nil => exact ⟨[], rfl⟩
    | @last t _ _ => exact ⟨t.toList, rfl⟩
    | @line t _ _ _ _ ih =>
      obtain ⟨cs, rfl⟩ := ih
      refine ⟨t.toList ++ '\n' :: cs, ?_⟩
      rw [Utf8.encode_append, encode_cons_lineFeed]
  · rintro ⟨cs, h⟩
    induction bs using lines_induction generalizing cs with
    | nil => exact ⟨[], .nil⟩
    | last a hne ha =>
      obtain ⟨t, rfl⟩ : ∃ t : String, cs = t.toList := ⟨String.ofList cs, String.toList_ofList.symm⟩
      rw [h] at hne ha ⊢
      refine ⟨[t], .last (fun ht => hne ?_) (mt lineFeed_mem_encode_iff.2 ha)⟩
      rw [ht]
      rfl
    | line a b ha ih =>
      obtain ⟨xs, ys, rfl, rfl, hb⟩ := encode_eq_append_lineFeed h.symm
      obtain ⟨ts, hts⟩ := ih ys hb
      obtain ⟨t, rfl⟩ : ∃ t : String, xs = t.toList := ⟨String.ofList xs, String.toList_ofList.symm⟩
      exact ⟨t :: ts, .line (mt lineFeed_mem_encode_iff.2 ha) hts⟩

theorem ofBytes?_eq (bs : Bytes) : ofBytes? bs = (texts? bs).map (List.map Line.ofText) := by
  rw [ofBytes?, texts?]
  induction splitLines bs with
  | nil => rfl
  | cons l ls ih =>
    rw [List.mapM_cons, List.mapM_cons, ih]
    cases String.fromUTF8? ⟨l.toArray⟩ with
    | none => rfl
    | some t =>
      cases ls.mapM fun l => String.fromUTF8? ⟨l.toArray⟩ with
      | none => rfl
      | some ts => rfl

theorem ofBytes?_eq_some_iff {bs : Bytes} {lines : List Line} :
    ofBytes? bs = some lines ↔ ∃ ts, AreLines bs ts ∧ ts.map Line.ofText = lines := by
  rw [ofBytes?_eq, Option.map_eq_some_iff]
  simp only [texts?_eq_some_iff]

/-- A capture is read if and only if it is a text. -/
theorem exists_ofBytes?_iff {bs : Bytes} :
    (∃ lines, ofBytes? bs = some lines) ↔ ∃ s, String.fromUTF8? ⟨bs.toArray⟩ = some s := by
  have htext : (∃ s, String.fromUTF8? ⟨bs.toArray⟩ = some s) ↔ ∃ ts, AreLines bs ts := by
    rw [exists_areLines_iff, Utf8.exists_fromUTF8?_eq_some_iff]
  rw [htext]
  constructor
  · rintro ⟨lines, hlines⟩
    obtain ⟨ts, hts, -⟩ := ofBytes?_eq_some_iff.1 hlines
    exact ⟨ts, hts⟩
  · rintro ⟨ts, hts⟩
    exact ⟨_, ofBytes?_eq_some_iff.2 ⟨ts, hts, rfl⟩⟩

theorem mapM_eq_none_iff {α β : Type} (f : α → Option β) (l : List α) :
    l.mapM f = none ↔ ∃ x ∈ l, f x = none := by
  induction l with
  | nil => simp
  | cons x l ih =>
    simp only [List.mapM_cons, List.mem_cons, exists_eq_or_imp, ← ih]
    cases f x with
    | none => simp
    | some y => cases l.mapM f <;> simp

/-- A capture is read unless one of its lines is not text. -/
theorem ofBytes?_eq_none_iff {bs : Bytes} :
    ofBytes? bs = none ↔ ∃ line ∈ splitLines bs, String.fromUTF8? ⟨line.toArray⟩ = none := by
  simp only [ofBytes?, mapM_eq_none_iff, Option.map_eq_none_iff]

theorem ofBytes?_append {a : Bytes} (h : IsClosed a) (b : Bytes) :
    ofBytes? (a ++ b) = (ofBytes? a).bind fun la => (ofBytes? b).map (la ++ ·) := by
  rw [ofBytes?, splitLines_append_of_isClosed h, List.mapM_append, ← ofBytes?, ← ofBytes?]
  cases ofBytes? a with
  | none => rfl
  | some la =>
    cases ofBytes? b with
    | none => rfl
    | some lb => rfl

/-! ## What is read -/

theorem items_append (ls ms : List Line) : items (ls ++ ms) = items ls ++ items ms :=
  List.filterMap_append ..

/-- The bad lines among lines of which the first has the number `n`. -/
def badLinesFrom (n : Nat) (lines : List Line) : List (Nat × String) :=
  (lines.zipIdx n).filterMap fun
    | (.bad text, n) => some (n, text)
    | _ => none

theorem badLinesFrom_append (n : Nat) (ls ms : List Line) :
    badLinesFrom n (ls ++ ms) = badLinesFrom n ls ++ badLinesFrom (n + ls.length) ms := by
  rw [badLinesFrom, List.zipIdx_append, List.filterMap_append]
  rfl

theorem badLinesFrom_add (n k : Nat) (ls : List Line) :
    badLinesFrom (n + k) ls = (badLinesFrom n ls).map fun l => (l.1 + k, l.2) := by
  induction ls generalizing n with
  | nil => rfl
  | cons l ls ih =>
    have hrest := ih (n + 1)
    rw [Nat.add_right_comm] at hrest
    cases l with
    | skipped => exact hrest
    | item i => exact hrest
    | bad text => exact congrArg ((n + k, text) :: ·) hrest

theorem badLines_append (ls ms : List Line) : badLines (ls ++ ms) =
    badLines ls ++ (badLines ms).map fun l => (l.1 + ls.length, l.2) :=
  (badLinesFrom_append 1 ls ms).trans (congrArg _ (badLinesFrom_add 1 ls.length ms))

theorem isSkipped_iff {t : String} : isSkipped (Text.trim t.toList) = true ↔ IsPassedOver t := by
  rw [IsPassedOver]
  cases Text.trim t.toList with
  | nil => simp [isSkipped]
  | cons c cs => simp [isSkipped]

/-- What is read of lines is what they contribute. -/
theorem exists_contribute (n : Nat) (ts : List String) :
    ∃ k, Contribute n ts (items (ts.map Line.ofText)) (badLinesFrom n (ts.map Line.ofText)) k := by
  induction ts generalizing n with
  | nil => exact ⟨0, .nil⟩
  | cons t ts ih =>
    obtain ⟨k, hrest⟩ := ih (n + 1)
    by_cases hskipped : isSkipped (Text.trim t.toList) = true
    · have hline : Line.ofText t = .skipped := if_pos hskipped
      rw [List.map_cons, hline]
      exact ⟨k + 1, .passedOver (isSkipped_iff.1 hskipped) hrest⟩
    · have hpassed : ¬IsPassedOver t := mt isSkipped_iff.2 hskipped
      cases hitem : itemOfTrimmed? (Text.trim t.toList) with
      | none =>
        have hline : Line.ofText t = .bad (String.ofList (Text.trim t.toList)) := by
          rw [Line.ofText, if_neg hskipped, hitem]
        rw [List.map_cons, hline]
        exact ⟨k, .bad hpassed hitem hrest⟩
      | some i =>
        have hline : Line.ofText t = .item i := by
          rw [Line.ofText, if_neg hskipped, hitem]
        rw [List.map_cons, hline]
        exact ⟨k, .item hpassed hitem hrest⟩

namespace Contribute

variable {n k : Nat} {ts : List String} {is : List Item} {bad : List (Nat × String)}

/-- Each line contributes once. -/
theorem length_add_eq (h : Contribute n ts is bad k) : is.length + bad.length + k = ts.length := by
  induction h with
  | nil => rfl
  | passedOver _ _ ih => rw [List.length_cons, ← ih]; omega
  | item _ _ _ ih => rw [List.length_cons, List.length_cons, ← ih]; omega
  | bad _ _ _ ih => rw [List.length_cons, List.length_cons, ← ih]; omega

theorem le_number (h : Contribute n ts is bad k) : ∀ l ∈ bad, n ≤ l.1 := by
  induction h with
  | nil => exact nofun
  | passedOver _ _ ih => exact fun l hl => Nat.le_of_succ_le (ih l hl)
  | item _ _ _ ih => exact fun l hl => Nat.le_of_succ_le (ih l hl)
  | bad _ _ _ ih =>
    intro l hl
    obtain rfl | hl := List.mem_cons.1 hl
    · exact Nat.le_refl _
    · exact Nat.le_of_succ_le (ih l hl)

/-- The numbers of the bad lines go up. -/
theorem pairwise_lt (h : Contribute n ts is bad k) : bad.Pairwise fun l m => l.1 < m.1 := by
  induction h with
  | nil => exact .nil
  | passedOver _ _ ih => exact ih
  | item _ _ _ ih => exact ih
  | bad _ _ rest ih => exact .cons (fun l hl => rest.le_number l hl) ih

end Contribute

/-- Captures can be read piece by piece, and what is read of a capture accounts for each of its
    lines. A piece that does not end within a line can be read on its own: its items and its bad
    lines come before those of the rest, whose numbers are higher by the number of line feeds before
    them. A capture is read unless it is no text; then each line contributes nothing, an item, or a
    bad line with its number and its text without the blanks around it. -/
theorem read_lines :
    (∀ a b, IsClosed a →
      (ofBytes? (a ++ b) = none ↔ ofBytes? a = none ∨ ofBytes? b = none) ∧
      ∀ la lb, ofBytes? a = some la → ofBytes? b = some lb →
        ∃ lines, ofBytes? (a ++ b) = some lines ∧ items lines = items la ++ items lb ∧
          badLines lines =
            badLines la ++ (badLines lb).map fun l => (l.1 + a.count lineFeed, l.2)) ∧
    ∀ bs, (ofBytes? bs = none ↔ String.fromUTF8? ⟨bs.toArray⟩ = none) ∧
      ∀ lines, ofBytes? bs = some lines → ∃ ts skipped, AreLines bs ts ∧
        Contribute 1 ts (items lines) (badLines lines) skipped ∧
        (items lines).length + (badLines lines).length + skipped = ts.length ∧
        (badLines lines).Pairwise fun l m => l.1 < m.1 := by
  refine ⟨fun a b ha => ⟨?_, fun la lb hla hlb => ?_⟩, fun bs => ⟨?_, fun lines hlines => ?_⟩⟩
  · rw [ofBytes?_eq_none_iff, ofBytes?_eq_none_iff, ofBytes?_eq_none_iff,
      splitLines_append_of_isClosed ha]
    simp only [List.mem_append, or_and_right, exists_or]
  · obtain ⟨ts, hts, rfl⟩ := ofBytes?_eq_some_iff.1 hla
    refine ⟨ts.map Line.ofText ++ lb, ?_, items_append _ _, ?_⟩
    · rw [ofBytes?_append ha, hla, hlb]
      rfl
    · rw [badLines_append, List.length_map, hts.length_eq ha]
  · rw [← not_iff_not, ← ne_eq, ← ne_eq, Option.ne_none_iff_exists', Option.ne_none_iff_exists',
      exists_ofBytes?_iff]
  · obtain ⟨ts, hts, rfl⟩ := ofBytes?_eq_some_iff.1 hlines
    obtain ⟨skipped, hcontribute⟩ := exists_contribute 1 ts
    exact ⟨ts, skipped, hts, hcontribute, hcontribute.length_add_eq, hcontribute.pairwise_lt⟩

/-- A piece with a frame, a comment and a bad line in front of one with a blank line, a bad line and a
    frame without the line feed at its end; and a capture with a byte that no text holds. -/
theorem read_lines_numbered :
    let a := Utf8.encode "40 01\r\n# é\nzz \n".toList
    let b := Utf8.encode "\n\x7b\n*e0Aa;".toList
    IsClosed a ∧ (∃ lines, ofBytes? (a ++ b) = some lines ∧
      items lines = [.frame [0x40, 0x01], .frame [0xE0, 0xAA]] ∧
      badLines lines = [(3, "zz"), (5, "\x7b")]) ∧
    ofBytes? [0x34, 0x30, 0x0A, 0xFF] = none := by
  intro a b
  have hclosed : IsClosed a := .inr (by decide)
  have ha : AreLines a ["40 01\r", "# é", "zz "] :=
    .line (t := "40 01\r") (by decide) (.line (t := "# é") (by decide)
      (.line (t := "zz ") (by decide) .nil))
  have hb : AreLines b ["", "\x7b", "*e0Aa;"] :=
    .line (t := "") (by decide) (.line (t := "\x7b") (by decide)
      (.last (t := "*e0Aa;") (by decide) (by decide)))
  obtain ⟨-, hread⟩ := read_lines.1 a b hclosed
  obtain ⟨lines, hlines, hitems, hbad⟩ := hread _ _ (ofBytes?_eq_some_iff.2 ⟨_, ha, rfl⟩)
    (ofBytes?_eq_some_iff.2 ⟨_, hb, rfl⟩)
  refine ⟨hclosed, ⟨lines, hlines, hitems.trans rfl, hbad.trans rfl⟩, ?_⟩
  exact (read_lines.2 _).1.2 (by decide)

end LoraGateway.Capture
