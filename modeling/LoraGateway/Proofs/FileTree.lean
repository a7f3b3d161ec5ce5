import Mathlib
import LoraGateway.Files.Tree
import LoraGateway.Proofs.Result
import LoraGateway.Proofs.Utf8

/-!
# Files that were written

A file that was written is read as what was written (`FileTree.read_write`): the file takes the
place of no directory, so that its path leads where it led before (`walk_put`), and there the file
stands (`node?_put_self`). A text survives the way through its bytes (`FileTree.readText_write`).
-/

namespace LoraGateway.FileTree

/-- The tree with a file at a place, whatever file was there before. -/
def put (t : FileTree) (place : Place) (content : Bytes) : FileTree :=
  { t with files := (place, content) :: t.files.filter (·.1 != place) }

variable {t : FileTree} {place q r : Place} {content : Bytes}

theorem node?_put_self : (t.put place content).node? place = some (.file content) := by
  rw [put, node?, List.lookup_cons_self]

theorem lookup_filter_of_ne (files : List (Place × Bytes)) (h : q ≠ place) :
    (files.filter (·.1 != place)).lookup q = files.lookup q := by
  induction files with
  | nil => rfl
  | cons f files ih =>
    obtain ⟨other, bytes⟩ := f
    by_cases hother : other = place
    · have hq : (q == other) = false := by rw [hother]; exact beq_false_of_ne h
      simp [List.lookup_cons, hother ▸ hq, hother, ih]
    · simp [List.lookup_cons, hother, ih]

/-- A directory is there for the sake of the files below it, of which a new one is not the last. -/
theorem isDirectory_put (h : t.isDirectory q = true) :
    (t.put place content).isDirectory q = true := by
  simp only [isDirectory, put, Bool.or_eq_true, List.any_eq_true] at h ⊢
  refine h.imp_left (Or.imp_right ?_)
  rintro ⟨f, hf, hbelow⟩
  by_cases hplace : f.1 = place
  · exact ⟨(place, content), List.mem_cons_self, hplace ▸ hbelow⟩
  · exact ⟨f, List.mem_cons_of_mem _ (List.mem_filter.2 ⟨hf, bne_iff_ne.2 hplace⟩), hbelow⟩

theorem node?_eq_file_iff : t.node? q = some (.file content) ↔ t.files.lookup q = some content := by
  rw [node?]
  cases t.files.lookup q with
  | some bytes => simp
  | none => cases t.isDirectory q <;> simp

theorem node?_eq_directory_iff :
    t.node? q = some .directory ↔ t.files.lookup q = none ∧ t.isDirectory q = true := by
  rw [node?]
  cases t.files.lookup q <;> simp

/-- A file that takes the place of no directory leaves all directories where they are. -/
theorem node?_put_of_directory (hplace : t.node? place ≠ some .directory)
    (hq : t.node? q = some .directory) : (t.put place content).node? q = some .directory := by
  have hne : q ≠ place := fun h => hplace (h ▸ hq)
  obtain ⟨hlookup, hdirectory⟩ := node?_eq_directory_iff.1 hq
  refine node?_eq_directory_iff.2 ⟨?_, isDirectory_put hdirectory⟩
  rw [put, List.lookup_cons, beq_false_of_ne hne]
  exact (lookup_filter_of_ne t.files hne).trans hlookup

theorem step_put {name : String} (hplace : t.node? place ≠ some .directory)
    (h : t.step q name = .ok r) : (t.put place content).step q name = .ok r := by
  cases hq : t.node? q with
  | none =>
    rw [step, hq] at h
    exact absurd h Result.throw_ne_ok
  | some node =>
    cases node with
    | file bytes =>
      rw [step, hq] at h
      exact absurd h Result.throw_ne_ok
    | directory =>
      rw [step, hq] at h
      rw [step, node?_put_of_directory hplace hq]
      exact h

theorem foldlM_step_put {names : List String} (hplace : t.node? place ≠ some .directory)
    (h : names.foldlM t.step q = .ok r) : names.foldlM (t.put place content).step q = .ok r := by
  induction names generalizing q with
  | nil => exact h
  | cons name rest ih =>
    obtain ⟨next, hstep, hrest⟩ := Result.bind_eq_ok_iff.1 h
    exact Result.bind_eq_ok_iff.2 ⟨next, step_put hplace hstep, ih hrest⟩

theorem walk_put {p : Path} (hplace : t.node? place ≠ some .directory) (h : t.walk p = .ok r) :
    (t.put place content).walk p = .ok r := by
  rw [walk, Result.ite_throw_else_eq_ok_iff] at h ⊢
  exact h.imp_right (foldlM_step_put hplace)

theorem store_eq_ok {t' : FileTree} {p : Path} (h : t.store p content = .ok t') :
    ∃ place, t.walk p = .ok place ∧ p.slashed = false ∧ t.node? place ≠ some .directory ∧
      t' = t.put place content := by
  obtain ⟨place, hwalk, h⟩ := Result.bind_eq_ok_iff.1 h
  obtain ⟨hname, h⟩ := Result.ite_throw_eq_ok_iff.1 h
  have hslashed : p.slashed = false := Bool.eq_false_iff.2 fun hs => hname (.inl hs)
  rw [hslashed, if_neg Bool.false_ne_true] at hwalk
  refine ⟨place, hwalk, hslashed, ?_⟩
  cases hnode : t.node? place with
  | none =>
    rw [hnode] at h
    exact ⟨nofun, (Except.ok.inj h).symm⟩
  | some node =>
    cases node with
    | file bytes =>
      rw [hnode] at h
      exact ⟨nofun, (Except.ok.inj h).symm⟩
    | directory =>
      rw [hnode] at h
      exact absurd h Result.throw_ne_ok

/-- What was stored is found along the same path. -/
theorem find_of_store {t' : FileTree} {p : Path} (h : t.store p content = .ok t') :
    t'.find p = .ok (.file content) := by
  obtain ⟨place, hwalk, hslashed, hplace, rfl⟩ := store_eq_ok h
  refine Result.bind_eq_ok_iff.2 ⟨place, walk_put hplace hwalk, ?_⟩
  rw [node?_put_self, hslashed]
  rfl

/-- A file that was written is read as what was written. -/
theorem read_write {path : String} (h : (t.write path content).fault = none) :
    (t.write path content).after.read path = .ok content := by
  let p := Path.ofText path
  cases hbefore : t.makeDirectories p.start p.parentSteps.reverse with
  | mk before fault =>
    cases fault with
    | some e =>
      have hwrite : t.write path content = ⟨before, some e⟩ := by simp only [write, p, hbefore]
      rw [hwrite] at h
      cases h
    | none =>
      cases hstore : before.store p content with
      | error e =>
        have hwrite : t.write path content = ⟨before, some e⟩ := by
          simp only [write, p, hbefore, hstore]
        rw [hwrite] at h
        cases h
      | ok stored =>
        have hwrite : t.write path content = ⟨stored, none⟩ := by
          simp only [write, p, hbefore, hstore]
        rw [hwrite]
        exact Result.bind_eq_ok_iff.2 ⟨_, find_of_store hstore, rfl⟩

/-- What is read is the content of a file of the tree. -/
theorem exists_mem_of_read {path : String} (h : t.read path = .ok content) :
    ∃ place, (place, content) ∈ t.files := by
  obtain ⟨node, hnode, h⟩ := Result.bind_eq_ok_iff.1 h
  obtain ⟨place, -, hfind⟩ := Result.bind_eq_ok_iff.1 hnode
  cases node with
  | directory => cases h
  | file bytes =>
    obtain rfl := Result.pure_eq_ok_iff.1 h
    have hplace : t.node? place = some (.file bytes) := by
      split at hfind
      · cases hfind
      · cases hfind
      · next hfile =>
        obtain ⟨-, hbytes⟩ := Result.ite_throw_else_eq_ok_iff.1 hfind
        cases hbytes
        exact hfile
    obtain ⟨before, after, hfiles, -⟩ := List.lookup_eq_some_iff.1 (node?_eq_file_iff.1 hplace)
    exact ⟨place, hfiles ▸ List.mem_append_right before List.mem_cons_self⟩

/-! ## Texts -/

theorem fromUTF8?_toUTF8 (s : String) : String.fromUTF8? ⟨s.toUTF8.toList.toArray⟩ = some s :=
  Utf8.fromUTF8?_eq_some_iff.2 (Utf8.toList_toUTF8 s)

/-- A text that was written is read as the text. -/
theorem readText_write {path s : String} (h : (t.write path s.toUTF8.toList).fault = none) :
    (t.write path s.toUTF8.toList).after.readText path = .ok s := by
  refine Result.bind_eq_ok_iff.2 ⟨_, read_write h, ?_⟩
  rw [fromUTF8?_toUTF8]
  rfl

/-- A text that is read is that of a file of the tree. -/
theorem exists_mem_of_readText {path s : String} (h : t.readText path = .ok s) :
    ∃ f ∈ t.files, String.fromUTF8? ⟨f.2.toArray⟩ = some s := by
  obtain ⟨bytes, hbytes, h⟩ := Result.bind_eq_ok_iff.1 h
  obtain ⟨place, hmem⟩ := exists_mem_of_read hbytes
  split at h
  · next hs => exact ⟨_, hmem, hs.trans (congrArg some (Result.pure_eq_ok_iff.1 h))⟩
  · cases h

end LoraGateway.FileTree
