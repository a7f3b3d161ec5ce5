import LoraGateway.Message
import LoraGateway.Proofs.JsonRoundTrip

/-!
# The text of a message

A message holds strings and 64-bit integers only, however it was built, so its text reads back as
its members, repeated names included.

* `Message.isPlain_apply`, `Message.isPlain_applyAll`: what one call and what a run of calls keeps;
* `Message.ofText?_text`, `Message.allMembers_eq_of_text_eq`: the text determines the members.
-/

namespace LoraGateway

open Json (Plain)

theorem FieldValue.plain_json (v : FieldValue) (depth : Nat) : Plain depth v.json := by
  cases v with
  | text s => exact .string s
  | int n => exact .int n.minValue_le_toInt (Int.lt_trans n.toInt_lt (by decide))
  | eui e => exact .string e.text
  | bytes bs => exact .string (Hex.text bs)

namespace Message

/-- The members hold neither floating-point numbers nor containers but for arrays of such values;
    the same for the array that is still open. -/
structure IsPlain (m : Message) : Prop where
  members : ∀ p ∈ m.members, Plain 1 p.2
  openArray : ∀ p ∈ m.openArray, ∀ v ∈ p.2, Plain 0 v

variable {m : Message}

theorem isPlain_empty : IsPlain {} where
  members := nofun
  openArray := nofun

theorem IsPlain.allMembers (h : m.IsPlain) : ∀ p ∈ m.allMembers, Plain 1 p.2 := by
  intro p hp
  rw [Message.allMembers, List.mem_append, Option.mem_toList, Option.map_eq_some_iff] at hp
  rcases hp with hp | ⟨⟨name, items⟩, hopen, rfl⟩
  · exact h.members p hp
  · exact .array (h.openArray _ hopen)

theorem isPlain_apply (h : m.IsPlain) (c : Call) : (m.apply c).IsPlain := by
  cases c with
  | field name v =>
    -- A field ends the array that is still open, and stands behind it.
    refine ⟨fun p hp => ?_, nofun⟩
    rcases List.mem_append.1 hp with hp | hp
    · exact h.allMembers p hp
    · rw [List.mem_singleton.1 hp]
      exact v.plain_json 1
  | beginArray name =>
    refine ⟨h.allMembers, ?_⟩
    rintro _ ⟨⟩ _ ⟨⟩
  | item v =>
    refine ⟨h.members, ?_⟩
    rintro p hp w hw
    obtain ⟨⟨name, items⟩, hopen, rfl⟩ := Option.map_eq_some_iff.1 hp
    rcases List.mem_append.1 hw with hw | hw
    · exact h.openArray _ hopen w hw
    · rw [List.mem_singleton.1 hw]
      exact v.plain_json 0
  | endArray => exact ⟨h.allMembers, nofun⟩

theorem isPlain_applyAll (h : m.IsPlain) (calls : List Call) : (m.applyAll calls).IsPlain := by
  induction calls generalizing m with
  | nil => exact h
  | cons c calls ih => exact ih (isPlain_apply h c)

/-- The text of a message reads back as the object of its members, in their order. -/
theorem ofText?_text (h : m.IsPlain) : Json.ofText? m.text = some (.object m.allMembers) :=
  ((Plain.object h.allMembers).mono (by decide)).ofText?_text

theorem allMembers_eq_of_text_eq {n : Message} (hm : m.IsPlain) (hn : n.IsPlain)
    (h : m.text = n.text) : m.allMembers = n.allMembers := by
  have hobject : some (Json.object m.allMembers) = some (.object n.allMembers) := by
    rw [← ofText?_text hm, ← ofText?_text hn, h]
  rwa [Option.some_inj, Json.object.injEq] at hobject

end Message

end LoraGateway
