import Mathlib.Data.List.DropRight
import LoraGateway.Text.Blank

/-!
# What trimming leaves

Trimming takes off blanks at both ends (`Text.exists_trim`) and leaves none there, so that blanks
put around a text have no influence on it (`Text.trim_append`). A text without blanks is left as it
is (`Text.trim_eq_self`).
-/

namespace LoraGateway.Text

/-- True for a string of nothing but blanks. -/
def AllBlank (s : List Char) : Prop :=
  ∀ c ∈ s, isBlank c = true

instance (s : List Char) : Decidable (AllBlank s) :=
  List.decidableBAll _ s

variable {s : List Char}

theorem exists_trimEnd (s : List Char) : ∃ after, AllBlank after ∧ s = trimEnd s ++ after := by
  refine ⟨s.rtakeWhile isBlank, fun c hc => List.mem_rtakeWhile_imp hc, ?_⟩
  exact List.rdropWhile_append_rtakeWhile.symm

/-- Trimming takes off blanks in front and at the end. -/
theorem exists_trim (s : List Char) :
    ∃ before after, AllBlank before ∧ AllBlank after ∧ s = before ++ trim s ++ after := by
  obtain ⟨after, hafter, hs⟩ := exists_trimEnd (s.dropWhile isBlank)
  refine ⟨s.takeWhile isBlank, after, fun c hc => List.mem_takeWhile_imp hc, hafter, ?_⟩
  rw [trim, List.append_assoc, ← hs, List.takeWhile_append_dropWhile]

theorem trimEnd_append {after : List Char} (h : AllBlank after) :
    trimEnd (s ++ after) = trimEnd s := by
  rw [trimEnd, List.reverse_append, List.dropWhile_append_of_pos, trimEnd]
  exact fun c hc => h c (List.mem_reverse.1 hc)

/-- Blanks around a text have no influence on what is left of it. -/
theorem trim_append {before after : List Char} (hbefore : AllBlank before)
    (hafter : AllBlank after) : trim (before ++ s ++ after) = trim s := by
  rw [trim, List.append_assoc, List.dropWhile_append_of_pos hbefore, List.dropWhile_append, trim]
  split
  · next hs =>
    rw [List.isEmpty_iff.1 hs, List.dropWhile_eq_nil_iff.2 hafter]
  · exact trimEnd_append hafter

/-- Nothing is taken off between characters that are not blank. -/
theorem trim_of_ends {c d : Char} (hc : isBlank c = false) (hd : isBlank d = false) :
    trim (c :: (s ++ [d])) = c :: (s ++ [d]) := by
  rw [trim, List.dropWhile_cons_of_neg (Bool.eq_false_iff.1 hc), trimEnd, ← List.cons_append,
    List.reverse_append, List.reverse_singleton, List.singleton_append,
    List.dropWhile_cons_of_neg (Bool.eq_false_iff.1 hd), List.reverse_cons, List.reverse_reverse]

/-- Trimming leaves alone whatever is not blank. -/
theorem filter_trim {p : Char → Bool} (h : ∀ c ∈ s, isBlank c = true → p c = false) :
    (trim s).filter p = s.filter p := by
  obtain ⟨before, after, hbefore, hafter, hs⟩ := exists_trim s
  have hnone (blanks : List Char) (hblanks : AllBlank blanks) (hmem : blanks ⊆ s) :
      blanks.filter p = [] := by
    rw [List.filter_eq_nil_iff]
    intro c hc
    rw [h c (hmem hc) (hblanks c hc)]
    exact Bool.false_ne_true
  have hmemBefore : before ⊆ s := by
    rw [hs, List.append_assoc]
    exact List.subset_append_left ..
  have hmemAfter : after ⊆ s := by
    rw [hs]
    exact List.subset_append_right ..
  conv_rhs => rw [hs]
  rw [List.filter_append, List.filter_append, hnone before hbefore hmemBefore,
    hnone after hafter hmemAfter, List.nil_append, List.append_nil]

theorem trim_eq_self (h : ∀ c ∈ s, isBlank c = false) : trim s = s := by
  have hfilter : (trim s).filter (fun _ => true) = s.filter fun _ => true :=
    filter_trim fun c hc hblank => absurd hblank (by rw [h c hc]; exact Bool.false_ne_true)
  rwa [List.filter_true, List.filter_true] at hfilter

end LoraGateway.Text
