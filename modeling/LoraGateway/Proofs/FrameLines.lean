import LoraGateway.Proofs.CaptureLines
import LoraGateway.Proofs.HexReading

/-!
# Frames in captures

A line is a frame if its digits spell one (`Capture.Spells`): without `*` and `;` around them and
without ASCII blanks, they are the digits of at least one whole byte. What is cleaned of such a line
is what is written for the frame (`Capture.cleanHex?_eq_some_iff`), so that it reads back and is not
changed by being cleaned again.

* `Capture.spells_trim_iff`: the lines that are read as a frame are those that write it in any of
  the ways that a capture allows.
* `Capture.frame_lines`: all of it, for the lines of a capture.
-/

namespace LoraGateway.Capture

/-- What is left of a line without `*` in front and `;` behind it, if it has both. -/
inductive Unwrapped : (line inner : List Char) → Prop
  | wrapped (inner : List Char) : Unwrapped ('*' :: (inner ++ [';'])) inner
  | bare {line : List Char} (h : ∀ inner, line ≠ '*' :: (inner ++ [';'])) : Unwrapped line line

/-- True for the digits of at least one whole byte. -/
structure IsFrameText (ds : List Char) : Prop where
  nonempty : ds ≠ []
  even : ds.length % 2 = 0
  digits : ∀ c ∈ ds, c ∈ Hex.digits

/-- A line spells a frame if, without wrapping and ASCII blanks, it is the digits of the frame in
    either letter case. -/
def Spells (line : List Char) (frame : Bytes) : Prop :=
  ∃ inner, Unwrapped line inner ∧ IsFrameText (inner.filter (!Text.isAsciiBlank ·)) ∧
    (inner.filter (!Text.isAsciiBlank ·)).map Char.toUpper = Hex.encode frame

/-- Digits in either letter case, with ASCII blanks anywhere among them. -/
inductive Spaced : (inner ds : List Char) → Prop
  | nil : Spaced [] []
  | blank {c : Char} {inner ds : List Char} (hc : Text.isAsciiBlank c = true)
      (rest : Spaced inner ds) : Spaced (c :: inner) ds
  | digit {n : Nat} {c : Char} {inner ds : List Char} (hn : n < 16)
      (hc : c = Hex.digit n ∨ c = (Hex.digit n).toLower) (rest : Spaced inner ds) :
    Spaced (c :: inner) (Hex.digit n :: ds)

/-- The ways to write a frame in a line: plain or wrapped, with blanks around it. -/
inductive IsRendering (frame : Bytes) : List Char → Prop
  | plain {before inner after : List Char} (hbefore : Text.AllBlank before)
      (hafter : Text.AllBlank after) (h : Spaced inner (Hex.encode frame)) :
    IsRendering frame (before ++ inner ++ after)
  | wrapped {before inner after : List Char} (hbefore : Text.AllBlank before)
      (hafter : Text.AllBlank after) (h : Spaced inner (Hex.encode frame)) :
    IsRendering frame (before ++ '*' :: (inner ++ [';']) ++ after)

/-! ## Digits of a line -/

theorem unwrapped_unwrap (line : List Char) : Unwrapped line (unwrap line) := by
  unfold unwrap
  split
  · next rest =>
    split
    · next hlast =>
      obtain ⟨inner, rfl⟩ := List.getLast?_eq_some_iff.1 hlast
      rw [List.dropLast_concat]
      exact .wrapped inner
    · next hlast =>
      refine .bare fun inner h => hlast ?_
      rw [(List.cons.inj h).2, List.getLast?_concat]
  · next hstart => exact .bare fun inner => hstart (inner ++ [';'])

theorem unwrapped_iff {line inner : List Char} : Unwrapped line inner ↔ unwrap line = inner := by
  constructor
  · intro h
    have hunwrap := unwrapped_unwrap line
    -- A line is wrapped in at most one way, and not both wrapped and bare.
    cases h with
    | wrapped inner => simp [unwrap]
    | bare h =>
      generalize hrest : unwrap line = rest at hunwrap
      cases hunwrap with
      | wrapped rest => exact absurd rfl (h rest)
      | bare => rfl
  · rintro rfl
    exact unwrapped_unwrap line

theorem isHex_iff {ds : List Char} : isHex ds = true ↔ IsFrameText ds := by
  rw [isHex, Bool.and_eq_true, Bool.and_eq_true, List.all_eq_true]
  simp only [Hex.isDigit_iff_mem]
  constructor
  · rintro ⟨⟨hne, heven⟩, hdigits⟩
    exact ⟨by simpa using hne, by simpa using heven, hdigits⟩
  · rintro ⟨hne, heven, hdigits⟩
    exact ⟨⟨by simpa using hne, by simpa using heven⟩, hdigits⟩

theorem spells_iff {line : List Char} {frame : Bytes} : Spells line frame ↔
    IsFrameText (digits line) ∧ (digits line).map Char.toUpper = Hex.encode frame := by
  rw [Spells, digits]
  simp only [unwrapped_iff, exists_eq_left']

/-- The digits of whole bytes spell a frame. -/
theorem IsFrameText.exists_frame {ds : List Char} (h : IsFrameText ds) :
    ∃ frame, ds.map Char.toUpper = Hex.encode frame := by
  obtain ⟨frame, hframe⟩ := Hex.exists_ofPairs?_iff.2
    ⟨h.even, fun c hc => Hex.isDigit_iff_mem.2 (h.digits c hc)⟩
  exact ⟨frame, Hex.ofPairs?_eq_some_iff.1 hframe⟩

namespace Spells

variable {line : List Char} {frame : Bytes}

theorem frame_ne_nil (h : Spells line frame) : frame ≠ [] := by
  rintro rfl
  obtain ⟨htext, hspelled⟩ := spells_iff.1 h
  exact htext.nonempty (List.map_eq_nil_iff.1 hspelled)

/-- Which characters there are in a line that spells a frame. -/
theorem mem_cases (h : Spells line frame) {c : Char} (hc : c ∈ line) :
    Text.isAsciiBlank c = true ∨ c ∈ Hex.digits ∨ c = '*' ∨ c = ';' := by
  obtain ⟨inner, hinner, htext, -⟩ := h
  have hmem (d : Char) (hd : d ∈ inner) : Text.isAsciiBlank d = true ∨ d ∈ Hex.digits := by
    by_cases hblank : Text.isAsciiBlank d = true
    · exact .inl hblank
    · exact .inr (htext.digits d (List.mem_filter.2 ⟨hd, by simpa using hblank⟩))
  cases hinner with
  | wrapped =>
    rw [List.mem_cons, List.mem_append, List.mem_singleton] at hc
    obtain hc | hc | hc := hc
    · exact .inr (.inr (.inl hc))
    · exact (hmem c hc).imp_right .inl
    · exact .inr (.inr (.inr hc))
  | bare => exact (hmem c hc).imp_right .inl

/-- A line that spells a frame is neither passed over nor an object. -/
theorem isSkipped_eq_false (h : Spells line frame) :
    isSkipped line = false ∧ line.head? ≠ some '{' := by
  cases line with
  | nil =>
    obtain ⟨htext, -⟩ := spells_iff.1 h
    exact absurd rfl htext.nonempty
  | cons c rest =>
    have hcomment : c ≠ '#' := by
      rintro rfl
      exact absurd (h.mem_cases List.mem_cons_self) (by decide)
    have hobject : c ≠ '{' := by
      rintro rfl
      exact absurd (h.mem_cases List.mem_cons_self) (by decide)
    simpa [isSkipped] using And.intro hcomment hobject

end Spells

/-! ## Reading a line -/

theorem hexOfTrimmed?_eq_some_iff {line hex : List Char} :
    hexOfTrimmed? line = some hex ↔ ∃ frame, Spells line frame ∧ hex = Hex.encode frame := by
  rw [hexOfTrimmed?]
  constructor
  · intro h
    split at h
    · cases h
    · split at h
      · next htext =>
        obtain ⟨frame, hframe⟩ := (isHex_iff.1 htext).exists_frame
        exact ⟨frame, spells_iff.2 ⟨isHex_iff.1 htext, hframe⟩, by rw [← hframe, Option.some.inj h]⟩
      · cases h
  · rintro ⟨frame, h, rfl⟩
    obtain ⟨htext, hspelled⟩ := spells_iff.1 h
    rw [if_neg (Bool.eq_false_iff.1 h.isSkipped_eq_false.1), if_pos (isHex_iff.2 htext), hspelled]

/-- What is cleaned of a line is read as the frame that the line spells. -/
theorem hexOfTrimmed?_bind_eq_some_iff {line : List Char} {frame : Bytes} :
    (hexOfTrimmed? line).bind Hex.ofPairs? = some frame ↔ Spells line frame := by
  rw [Option.bind_eq_some_iff]
  constructor
  · rintro ⟨hex, hhex, hframe⟩
    obtain ⟨frame', h, rfl⟩ := hexOfTrimmed?_eq_some_iff.1 hhex
    obtain rfl := Option.some.inj ((Hex.ofPairs?_encode frame').symm.trans hframe)
    exact h
  · intro h
    exact ⟨_, hexOfTrimmed?_eq_some_iff.2 ⟨frame, h, rfl⟩, Hex.ofPairs?_encode frame⟩

/-- A line is read as a frame if and only if it spells the frame without the blanks around it. -/
theorem ofText_eq_frame_iff {line : String} {frame : Bytes} :
    Line.ofText line = .item (.frame frame) ↔ Spells (Text.trim line.toList) frame := by
  rw [← hexOfTrimmed?_bind_eq_some_iff]
  constructor
  · intro h
    rw [Line.ofText] at h
    split at h
    · cases h
    · split at h
      · next i hitem =>
        cases h
        rw [itemOfTrimmed?] at hitem
        split at hitem
        · obtain ⟨msg, -, hmsg⟩ := Option.map_eq_some_iff.1 hitem
          cases hmsg
        · obtain ⟨frame', hframe, hitem⟩ := Option.map_eq_some_iff.1 hitem
          cases hitem
          exact hframe
      · cases h
  · intro h
    obtain ⟨hskipped, hobject⟩ := (hexOfTrimmed?_bind_eq_some_iff.1 h).isSkipped_eq_false
    have hitem : itemOfTrimmed? (Text.trim line.toList) = some (.frame frame) := by
      rw [itemOfTrimmed?, if_neg hobject, h, Option.map_some]
    rw [Line.ofText, if_neg (Bool.eq_false_iff.1 hskipped), hitem]

/-- A line that is neither passed over nor an object is bad unless it is a frame. -/
theorem ofText_eq_bad {line : String} (hskipped : isSkipped (Text.trim line.toList) = false)
    (hobject : (Text.trim line.toList).head? ≠ some '{')
    (h : ∀ frame, ¬Spells (Text.trim line.toList) frame) :
    Line.ofText line = .bad (String.ofList (Text.trim line.toList)) := by
  have hnone : (hexOfTrimmed? (Text.trim line.toList)).bind Hex.ofPairs? = none := by
    rw [Option.eq_none_iff_forall_ne_some]
    exact fun frame hframe => h frame (hexOfTrimmed?_bind_eq_some_iff.1 hframe)
  have hitem : itemOfTrimmed? (Text.trim line.toList) = none := by
    rw [itemOfTrimmed?, if_neg hobject, hnone, Option.map_none]
  rw [Line.ofText, if_neg (Bool.eq_false_iff.1 hskipped), hitem]

theorem cleanHex?_eq_some_iff {line hex : String} : cleanHex? line = some hex ↔
    ∃ frame, Spells (Text.trim line.toList) frame ∧ hex = Hex.text frame := by
  rw [cleanHex?, Option.map_eq_some_iff]
  simp only [hexOfTrimmed?_eq_some_iff]
  constructor
  · rintro ⟨cs, ⟨frame, h, rfl⟩, rfl⟩
    exact ⟨frame, h, rfl⟩
  · rintro ⟨frame, h, rfl⟩
    exact ⟨_, ⟨frame, h, rfl⟩, rfl⟩

/-! ## Writing a frame in a line -/

namespace Spaced

variable {inner ds : List Char}

/-- A digit in either letter case is a digit, which is not blank. -/
theorem digit_cases {n : Nat} {c : Char} (hn : n < 16)
    (hc : c = Hex.digit n ∨ c = (Hex.digit n).toLower) :
    Text.isBlank c = false ∧ c.toUpper = Hex.digit n ∧ c ∈ Hex.digits := by
  obtain rfl | rfl := hc
  · revert n
    decide +kernel
  · revert n
    decide +kernel

/-- Without the blanks among them, and in upper case, digits are themselves. -/
theorem map_filter (h : Spaced inner ds) :
    (inner.filter (!Text.isAsciiBlank ·)).map Char.toUpper = ds := by
  induction h with
  | nil => rfl
  | blank hc _ ih =>
    rw [List.filter_cons_of_neg (by simpa using hc), ih]
  | digit hn hc _ ih =>
    obtain ⟨hblank, hupper, -⟩ := digit_cases hn hc
    have hascii := mt Text.isBlank_of_isAsciiBlank (Bool.eq_false_iff.1 hblank)
    rw [List.filter_cons_of_pos (by simpa using hascii), List.map_cons, hupper, ih]

/-- Digits among ASCII blanks are what is left without the blanks. -/
theorem of_map_filter (hds : ∀ d ∈ ds, ∃ n < 16, d = Hex.digit n)
    (h : (inner.filter (!Text.isAsciiBlank ·)).map Char.toUpper = ds) : Spaced inner ds := by
  induction inner generalizing ds with
  | nil =>
    obtain rfl : ds = [] := h.symm
    exact .nil
  | cons c inner ih =>
    by_cases hblank : Text.isAsciiBlank c = true
    · rw [List.filter_cons_of_neg (by simpa using hblank)] at h
      exact .blank hblank (ih hds h)
    · rw [List.filter_cons_of_pos (by simpa using hblank), List.map_cons] at h
      subst h
      rw [List.forall_mem_cons] at hds
      obtain ⟨⟨n, hn, hc⟩, hds⟩ := hds
      rw [hc]
      exact .digit hn (Hex.eq_or_eq_toLower hn hc) (ih hds rfl)

/-- Digits as they are written have no blanks among them. -/
theorem of_digits (h : ∀ d ∈ ds, ∃ n < 16, d = Hex.digit n) : Spaced ds ds := by
  induction ds with
  | nil => exact .nil
  | cons d ds ih =>
    rw [List.forall_mem_cons] at h
    obtain ⟨⟨n, hn, rfl⟩, hrest⟩ := h
    exact .digit hn (.inl rfl) (ih hrest)

/-- The characters among digits are digits and ASCII blanks. -/
theorem mem_cases (h : Spaced inner ds) {c : Char} (hc : c ∈ inner) :
    Text.isAsciiBlank c = true ∨ Text.isBlank c = false ∧ c ∈ Hex.digits := by
  induction h with
  | nil => cases hc
  | blank hblank _ ih =>
    obtain rfl | hc := List.mem_cons.1 hc
    · exact .inl hblank
    · exact ih hc
  | digit hn hdigit _ ih =>
    obtain rfl | hc := List.mem_cons.1 hc
    · exact .inr ⟨(digit_cases hn hdigit).1, (digit_cases hn hdigit).2.2⟩
    · exact ih hc

end Spaced

theorem isFrameText_of_map_toUpper {ds : List Char} {frame : Bytes} (hne : frame ≠ [])
    (h : ds.map Char.toUpper = Hex.encode frame) : IsFrameText ds := by
  obtain ⟨heven, hdigits⟩ := Hex.exists_ofPairs?_iff.1 ⟨frame, Hex.ofPairs?_eq_some_iff.2 h⟩
  refine ⟨?_, heven, fun c hc => Hex.isDigit_iff_mem.1 (hdigits c hc)⟩
  rintro rfl
  exact hne (Hex.encode_injective h.symm)

/-- The lines that spell a frame without the blanks around them are those that write it. -/
theorem spells_trim_iff {line : List Char} {frame : Bytes} :
    Spells (Text.trim line) frame ↔ frame ≠ [] ∧ IsRendering frame line := by
  constructor
  · intro h
    refine ⟨h.frame_ne_nil, ?_⟩
    obtain ⟨before, after, hbefore, hafter, hline⟩ := Text.exists_trim line
    obtain ⟨inner, hinner, -, hspelled⟩ := h
    have hspaced : Spaced inner (Hex.encode frame) :=
      .of_map_filter (fun d hd => Hex.exists_digit_of_mem_encode hd) hspelled
    rw [hline]
    generalize Text.trim line = trimmed at hinner
    cases hinner with
    | wrapped => exact .wrapped hbefore hafter hspaced
    | bare => exact .plain hbefore hafter hspaced
  · rintro ⟨hne, h⟩
    cases h with
    | @plain before inner after hbefore hafter h =>
      -- The blanks around the digits are among those that may stand anywhere between them.
      have hfilter : (Text.trim inner).filter (!Text.isAsciiBlank ·) =
          inner.filter (!Text.isAsciiBlank ·) := by
        refine Text.filter_trim fun c hc hblank => ?_
        obtain hascii | ⟨hdigit, -⟩ := h.mem_cases hc
        · rw [hascii, Bool.not_true]
        · exact absurd hblank (Bool.eq_false_iff.1 hdigit)
      have hspelled := h.map_filter
      rw [← hfilter] at hspelled
      rw [Text.trim_append hbefore hafter]
      refine ⟨_, .bare fun rest hrest => ?_, isFrameText_of_map_toUpper hne hspelled, hspelled⟩
      have hmem : '*' ∈ Text.trim inner := by
        rw [hrest]
        exact List.mem_cons_self
      have hstar : ¬(Text.isAsciiBlank '*' = true ∨
          Text.isBlank '*' = false ∧ '*' ∈ Hex.digits) := by
        decide
      exact hstar (h.mem_cases (Text.mem_trim hmem))
    | wrapped hbefore hafter h =>
      rw [Text.trim_append hbefore hafter, Text.trim_of_ends (by decide) (by decide)]
      exact ⟨_, .wrapped _, isFrameText_of_map_toUpper hne h.map_filter, h.map_filter⟩

/-- What is written for a frame spells it. -/
theorem spells_text {frame : Bytes} (hne : frame ≠ []) :
    Spells (Text.trim (Hex.text frame).toList) frame := by
  have hnone : Text.AllBlank [] := fun c hc => absurd hc List.not_mem_nil
  have hplain : IsRendering frame ([] ++ Hex.encode frame ++ []) :=
    .plain hnone hnone (.of_digits fun d hd => Hex.exists_digit_of_mem_encode hd)
  rw [List.nil_append, List.append_nil] at hplain
  rw [Hex.text, String.toList_ofList]
  exact spells_trim_iff.2 ⟨hne, hplain⟩

/-- A line with a frame is a capture with the frame. -/
theorem ofBytes?_eq_frame {line : String} {frame : Bytes} (hline : '\n' ∉ line.toList)
    (h : Line.ofText line = .item (.frame frame)) :
    ofBytes? (Utf8.encode line.toList) = some [.item (.frame frame)] := by
  refine ofBytes?_eq_some_iff.2 ⟨[line], .last ?_ hline, ?_⟩
  · rintro rfl
    cases h
  · rw [List.map_singleton, h]

/-- A line is read as a frame if and only if it spells one without the blanks around it, which is a
    matter of its digits alone; a line that does not is bad, unless it is passed over or an object. A
    frame is never empty. What is cleaned of a line is read as the frame of the line, and not changed
    by being cleaned again. However a frame is written in a line, it is read from there, by itself or
    in a capture. -/
theorem frame_lines :
    (∀ line frame, Line.ofText line = .item (.frame frame) ↔
      Spells (Text.trim line.toList) frame) ∧
    (∀ line, (∃ frame, Spells line frame) ↔
      ∃ inner, Unwrapped line inner ∧ IsFrameText (inner.filter (!Text.isAsciiBlank ·))) ∧
    (∀ line, Text.trim line.toList ≠ [] → (Text.trim line.toList).head? ≠ some '#' →
      (Text.trim line.toList).head? ≠ some '{' →
      (∀ frame, Line.ofText line ≠ .item (.frame frame)) →
      Line.ofText line = .bad (String.ofList (Text.trim line.toList))) ∧
    (∀ line frame, Line.ofText line = .item (.frame frame) → frame ≠ []) ∧
    (∀ line hex, cleanHex? line = some hex → cleanHex? hex = some hex ∧
      ∃ frame, Hex.decode? hex = some frame ∧ Line.ofText line = .item (.frame frame)) ∧
    ∀ frame, frame ≠ [] → ∀ line, IsRendering frame line.toList →
      Line.ofText line = .item (.frame frame) ∧
      ('\n' ∉ line.toList → ofBytes? (Utf8.encode line.toList) = some [.item (.frame frame)]) := by
  refine ⟨fun line frame => ofText_eq_frame_iff, fun line => ⟨?_, ?_⟩, ?_, ?_, ?_, ?_⟩
  · rintro ⟨frame, inner, hinner, htext, -⟩
    exact ⟨inner, hinner, htext⟩
  · rintro ⟨inner, hinner, htext⟩
    obtain ⟨frame, hframe⟩ := htext.exists_frame
    exact ⟨frame, inner, hinner, htext, hframe⟩
  · intro line hne hcomment hobject hframe
    have hskipped : isSkipped (Text.trim line.toList) = false := by
      rw [Bool.eq_false_iff, ne_eq, isSkipped_iff, IsPassedOver, not_or]
      exact ⟨hne, hcomment⟩
    exact ofText_eq_bad hskipped hobject fun frame h => hframe frame (ofText_eq_frame_iff.2 h)
  · exact fun line frame h => (ofText_eq_frame_iff.1 h).frame_ne_nil
  · intro line hex hhex
    obtain ⟨frame, h, rfl⟩ := cleanHex?_eq_some_iff.1 hhex
    exact ⟨cleanHex?_eq_some_iff.2 ⟨frame, spells_text h.frame_ne_nil, rfl⟩,
      frame, Hex.decode?_text frame, ofText_eq_frame_iff.2 h⟩
  · intro frame hne line hline
    have hread := ofText_eq_frame_iff.2 (spells_trim_iff.2 ⟨hne, hline⟩)
    exact ⟨hread, fun hfeed => ofBytes?_eq_frame hfeed hread⟩

/-- A wrapped frame in both letter cases, with blanks around it of which one is not ASCII; and a line
    that lacks the end of the wrapping. -/
theorem frame_lines_wrapped :
    let line := "\u00a0* e0 A\ta;\r"
    Line.ofText line = .item (.frame [0xE0, 0xAA]) ∧
    ofBytes? (Utf8.encode line.toList) = some [.item (.frame [0xE0, 0xAA])] ∧
    cleanHex? "E0AA" = some "E0AA" ∧ Line.ofText "*E0AA " = .bad "*E0AA" := by
  intro line
  have hline : IsRendering [0xE0, 0xAA] line.toList := by
    have hblank : Text.AllBlank ['\u00a0'] ∧ Text.AllBlank ['\r'] := by decide
    have hdigits : Spaced " e0 A\ta".toList (Hex.encode [0xE0, 0xAA]) :=
      .of_map_filter (fun d hd => Hex.exists_digit_of_mem_encode hd) (by decide)
    have hwritten : line.toList = ['\u00a0'] ++ '*' :: (" e0 A\ta".toList ++ [';']) ++ ['\r'] := by
      decide
    rw [hwritten]
    exact .wrapped hblank.1 hblank.2 hdigits
  have hbad (frame : Bytes) : Line.ofText "*E0AA " ≠ .item (.frame frame) := by
    intro h
    have htext := (spells_iff.1 (ofText_eq_frame_iff.1 h)).1
    exact absurd (htext.digits '*' (by decide)) (by decide)
  obtain ⟨-, -, hother, -, hclean, hwritten⟩ := frame_lines
  obtain ⟨hread, hcapture⟩ := hwritten [0xE0, 0xAA] (by decide) line hline
  exact ⟨hread, hcapture (by decide), (hclean line "E0AA" (by decide)).1,
    hother "*E0AA " (by decide) (by decide) (by decide) hbad⟩

end LoraGateway.Capture
