import LoraGateway.Json.Syntax

/-!
# Texts that stand for a value

Many texts stand for one value (`StandsFor`), but not with any freedom in their structure: what
stands for an object has its members in their order, each with its name and with a text that stands
for its value (`value?_eq_object_iff`, `memberValues?_eq_cons_iff`), and a string or a truth value
is written in one way.
-/

namespace LoraGateway.Json

/-- True of the texts that stand for a value, however deeply they are nested. -/
def StandsFor (text : String) (v : Json) : Prop :=
  (Syntax.ofText? text).bind Syntax.value? = some v

namespace Syntax

variable {s : Syntax} {ss : List (Option String × Syntax)}

theorem memberValues?_eq_nil_iff : memberValues? ss = some [] ↔ ss = [] := by
  cases ss with
  | nil => simp [memberValues?]
  | cons m rest => simp [memberValues?, Option.bind_eq_some_iff]

theorem memberValues?_eq_cons_iff {name : String} {v : Json} {members : List (String × Json)} :
    memberValues? ss = some ((name, v) :: members) ↔
      ∃ s rest, ss = (some name, s) :: rest ∧ s.value? = some v ∧
        memberValues? rest = some members := by
  constructor
  · intro h
    cases ss with
    | nil => simp [memberValues?] at h
    | cons m rest =>
      obtain ⟨key, s⟩ := m
      simp only [memberValues?, memberValue?, Option.bind_eq_bind, Option.bind_eq_some_iff,
        Option.pure_def, Option.some.injEq, List.cons.injEq] at h
      obtain ⟨_, ⟨_, rfl, _, hs, rfl⟩, _, hrest, ⟨rfl, rfl⟩, rfl⟩ := h
      exact ⟨s, rest, rfl, hs, hrest⟩
  · rintro ⟨s, rest, rfl, hs, hrest⟩
    rw [memberValues?, memberValue?, hs, hrest]
    rfl

theorem value?_eq_object_iff {members : List (String × Json)} :
    s.value? = some (.object members) ↔ ∃ ss, s = .object ss ∧ memberValues? ss = some members := by
  cases s <;> simp [value?]

theorem value?_eq_string_iff {t : String} : s.value? = some (.string t) ↔ s = .string (some t) := by
  cases s <;> simp [value?]

theorem value?_eq_bool_iff {b : Bool} : s.value? = some (.bool b) ↔ s = .bool b := by
  cases s <;> simp [value?]

end Syntax

end LoraGateway.Json
