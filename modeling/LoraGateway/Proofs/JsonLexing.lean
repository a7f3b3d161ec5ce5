import LoraGateway.Json.Token

/-!
# Reading the tokens of a text

A token is read whatever comes behind it, as long as that goes on neither a number nor a word
(`Lexer.Boundary`). Parts of a text that read as tokens (`Lexer.Lexes`) can then be put together.

* `Lexer.Lexes.append`, `Lexer.Lexes.cons`, `Lexer.Lexes.space`: how parts are put together;
* `Lexer.lexes_numeral`, `Lexer.lexes_word`, `Lexer.lexes_string`: numbers, words and strings are
  read as one token each;
* `Lexer.run_short_escape`, `Lexer.run_unit_escape`: what escapes inside a string are read as.
-/

namespace LoraGateway.Json.Lexer

/-- What may come behind a token: a character that goes on neither a number nor a word, or
    nothing. -/
def Boundary (cs : List Char) : Prop :=
  ∀ c ∈ cs.head?, isNumberChar c = false ∧ c.isAlpha = false

/-- Between tokens, the characters are read as the given tokens, whatever comes behind. -/
def Lexes (cs : List Char) (ts : List Token) : Prop :=
  ∀ rest, Boundary rest → run .idle (cs ++ rest) = (run .idle rest).map (ts ++ ·)

theorem run_cons {s s' : State} {c : Char} {ts : List Token} (h : step s c = some (ts, s'))
    (rest : List Char) : run s (c :: rest) = (run s' rest).map (ts ++ ·) := by
  rw [run, h, Option.bind_eq_bind, Option.bind_some]
  exact Option.map_eq_bind.symm

/-- A character that ends no token. -/
theorem run_cons_of_inside {s s' : State} {c : Char} (h : step s c = some ([], s'))
    (rest : List Char) : run s (c :: rest) = run s' rest := by
  rw [run_cons h]
  simp only [List.nil_append, Option.map_id_fun', id_eq]

theorem Boundary.append {cs ds : List Char} (h : Boundary cs) (h' : Boundary ds) :
    Boundary (cs ++ ds) := by
  cases cs with
  | nil => exact h'
  | cons c cs => exact h

theorem boundary_nil : Boundary [] :=
  nofun

theorem boundary_cons {c : Char} (hnumber : isNumberChar c = false) (halpha : c.isAlpha = false)
    (cs : List Char) : Boundary (c :: cs) := by
  rintro _ ⟨⟩
  exact ⟨hnumber, halpha⟩

theorem Lexes.nil : Lexes [] [] := by
  intro rest _
  simp

theorem Lexes.append {cs ds : List Char} {ts us : List Token} (h : Lexes cs ts) (h' : Lexes ds us)
    (hds : Boundary ds) : Lexes (cs ++ ds) (ts ++ us) := by
  intro rest hrest
  rw [List.append_assoc, h _ (hds.append hrest), h' _ hrest, Option.map_map]
  simp only [Function.comp_def, List.append_assoc]

/-- A character that is a token of its own. -/
theorem Lexes.cons {c : Char} {t : Token} {cs : List Char} {ts : List Token}
    (hc : start c = some ([t], .idle)) (h : Lexes cs ts) : Lexes (c :: cs) (t :: ts) := by
  intro rest hrest
  rw [List.cons_append, run_cons (s := .idle) hc, h _ hrest, Option.map_map]
  rfl

/-- A character between tokens is passed over. -/
theorem Lexes.space {c : Char} {cs : List Char} {ts : List Token}
    (hc : isSpace c = true) (h : Lexes cs ts) : Lexes (c :: cs) ts := by
  intro rest hrest
  rw [List.cons_append, run_cons_of_inside (s := .idle) (if_pos hc), h rest hrest]

/-- A token that only the character after it ends is read when that character comes, or at the end
    of the text. -/
theorem run_boundary {s : State} {t : Token} {rest : List Char} (hfinish : finish s = some [t])
    (hstep : ∀ c, isNumberChar c = false → c.isAlpha = false → step s c = startAfter t c)
    (hrest : Boundary rest) : run s rest = (run .idle rest).map (t :: ·) := by
  cases rest with
  | nil => rw [run, run, hfinish]; rfl
  | cons c rest =>
    obtain ⟨hnumber, halpha⟩ := hrest c rfl
    rw [run, run, hstep c hnumber halpha, startAfter, step]
    cases start c with
    | none => rfl
    | some p =>
      simp only [Option.map_some, Option.bind_eq_bind, Option.bind_some]
      cases run p.2 rest <;> rfl

theorem run_number_append {read cs : List Char} (h : ∀ c ∈ cs, isNumberChar c = true)
    (rest : List Char) :
    run (.number read) (cs ++ rest) = run (.number (cs.reverse ++ read)) rest := by
  induction cs generalizing read with
  | nil => rfl
  | cons c cs ih =>
    have hc : isNumberChar c = true := h c List.mem_cons_self
    rw [List.cons_append, run_cons_of_inside (s := .number read) (if_pos hc),
      ih fun d hd => h d (List.mem_cons_of_mem _ hd), List.reverse_cons, List.append_assoc]
    rfl

theorem run_word_append {read cs : List Char} (h : ∀ c ∈ cs, c.isAlpha = true)
    (rest : List Char) : run (.word read) (cs ++ rest) = run (.word (cs.reverse ++ read)) rest := by
  induction cs generalizing read with
  | nil => rfl
  | cons c cs ih =>
    have hc : c.isAlpha = true := h c List.mem_cons_self
    rw [List.cons_append, run_cons_of_inside (s := .word read) (if_pos hc),
      ih fun d hd => h d (List.mem_cons_of_mem _ hd), List.reverse_cons, List.append_assoc]
    rfl

theorem isNumberChar_of_isDigit {c : Char} (h : c.isDigit = true) : isNumberChar c = true := by
  simp only [isNumberChar, h, Bool.true_or]

theorem isSpace_of_isDigit {c : Char} (h : c.isDigit = true) : isSpace c = false := by
  rw [Char.isDigit_iff_toNat] at h
  simp only [isSpace, Bool.or_eq_false_iff, beq_eq_false_iff_ne]
  refine ⟨⟨⟨?_, ?_⟩, ?_⟩, ?_⟩ <;> rintro rfl <;> simp at h

theorem start_of_isDigit {c : Char} (h : c.isDigit = true) :
    start c = some ([], .number [c]) := by
  simp [start, isSpace_of_isDigit h, h]

/-- A number runs up to the first character that cannot belong to it. -/
theorem lexes_numeral {c : Char} {cs : List Char} {n : Numeral}
    (hread : Numeral.ofChars? (c :: cs) = some n) (hstart : start c = some ([], .number [c]))
    (hall : ∀ d ∈ cs, isNumberChar d = true) : Lexes (c :: cs) [.number n] := by
  intro rest hrest
  -- The lexer collects the characters in reverse, and puts them right when the number ends.
  have hcollected : Numeral.ofChars? (cs.reverse ++ [c]).reverse = some n := by
    rw [List.reverse_append, List.reverse_reverse, List.reverse_singleton, List.singleton_append,
      hread]
  rw [List.cons_append, run_cons_of_inside (s := .idle) hstart, run_number_append hall]
  refine run_boundary ?_ ?_ hrest
  · rw [finish, hcollected]
    rfl
  · intro d hd _
    rw [step, hd, hcollected]
    rfl

theorem lexes_word {c : Char} {cs : List Char} {t : Token} (hword : word? (c :: cs) = some t)
    (hstart : start c = some ([], .word [c])) (halpha : cs.all Char.isAlpha = true) :
    Lexes (c :: cs) [t] := by
  intro rest hrest
  have hread : word? (cs.reverse ++ [c]).reverse = some t := by
    rw [List.reverse_append, List.reverse_reverse, List.reverse_singleton, List.singleton_append,
      hword]
  rw [List.cons_append, run_cons_of_inside (s := .idle) hstart,
    run_word_append (List.all_eq_true.1 halpha)]
  refine run_boundary ?_ ?_ hrest
  · rw [finish, hread]
    rfl
  · intro d _ hd
    rw [step, hd, hread]
    rfl

/-- A short escape is a backslash and one letter. -/
theorem run_short_escape (read : List Piece) {c d : Char} (hd : d ≠ 'u') (h : escaped? d = some c)
    (rest : List Char) :
    run (.string read) ('\\' :: d :: rest) = run (.string (.char c :: read)) rest := by
  have hstep : step (.escape read) d = some ([], .string (.char c :: read)) := by
    rw [step, if_neg (by simpa using hd), h, Option.map_some]
  rw [run_cons_of_inside (s := .string read) rfl, run_cons_of_inside hstep]

/-- An escaped code unit is written in four digits. -/
theorem run_unit_escape (read : List Piece) {a b c d : Char} {i j k l : Nat}
    (ha : hexDigit? a = some i) (hb : hexDigit? b = some j) (hc : hexDigit? c = some k)
    (hd : hexDigit? d = some l) (rest : List Char) :
    run (.string read) ('\\' :: 'u' :: a :: b :: c :: d :: rest) =
      run (.string (.unit (16 * (16 * (16 * i + j) + k) + l) :: read)) rest := by
  have hfirst : step (.unit read 0 0) a = some ([], .unit read 1 i) := by simp [step, ha]
  have hsecond : step (.unit read 1 i) b = some ([], .unit read 2 (16 * i + j)) := by
    simp [step, hb]
  have hthird : step (.unit read 2 (16 * i + j)) c =
      some ([], .unit read 3 (16 * (16 * i + j) + k)) := by
    simp [step, hc]
  have hlast : step (.unit read 3 (16 * (16 * i + j) + k)) d =
      some ([], .string (.unit (16 * (16 * (16 * i + j) + k) + l) :: read)) := by
    simp [step, hd]
  rw [run_cons_of_inside (s := .string read) rfl, run_cons_of_inside (s := .escape read) rfl,
    run_cons_of_inside hfirst, run_cons_of_inside hsecond, run_cons_of_inside hthird,
    run_cons_of_inside hlast]

/-- A string is what its characters are read as, up to the quote behind them. -/
theorem lexes_string {cs : List Char} {ps : List Piece}
    (h : ∀ rest, run (.string []) (cs ++ rest) = run (.string ps.reverse) rest) :
    Lexes ('"' :: (cs ++ ['"'])) [.string ((Piece.text? ps).map String.ofList)] := by
  intro rest _
  have hend : step (.string ps.reverse) '"' =
      some ([.string ((Piece.text? ps).map String.ofList)], .idle) := by
    rw [step, List.reverse_reverse]
    rfl
  rw [List.cons_append, run_cons_of_inside (s := .idle) rfl, List.append_assoc, h,
    List.singleton_append, run_cons hend]

end LoraGateway.Json.Lexer
