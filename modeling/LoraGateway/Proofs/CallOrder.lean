import Mathlib.Data.List.Induction
import LoraGateway.Message

/-!
# What calls write

A message under construction is a state machine: an array that was opened stays open until a call
comes that is no item, and an item without an open array is dropped. The members of the message can
be read off the calls themselves, without any state (`written`): one for each field and for each
array, in their order, an array with the items of the calls that come directly behind it.

* `allMembers_applyAll`: what further calls add to a message, by induction on the calls. The items
  that they start with go to the array that is still open;
* `isSome_openArray_applyAll`, `members_applyAll`: when an array is still open, and what is complete
  then;
* `applyAll_written`: what a run of calls makes of a new message.
-/

namespace LoraGateway.Message

namespace Call

/-- True of the calls that write an item. -/
def isItem : Call → Bool
  | .item _ => true
  | _ => false

/-- True of the calls that start a member. -/
def startsMember : Call → Bool
  | .field .. | .beginArray _ => true
  | _ => false

end Call

/-- The values of the items that calls start with. -/
def leadingItems : List Call → List Json
  | .item v :: rest => v.json :: leadingItems rest
  | _ => []

/-- The members that calls write: one for each field and for each array, in their order. The items
    of an array are those of the calls behind it, up to the next call that is no item. -/
def written : List Call → List (String × Json)
  | [] => []
  | .field name v :: rest => (name, v.json) :: written rest
  | .beginArray name :: rest => (name, .array (leadingItems rest)) :: written rest
  | .item _ :: rest => written rest
  | .endArray :: rest => written rest

/-- True if an array is still open after calls: the last of them that is no item opened it. -/
def leavesOpen (calls : List Call) : Bool :=
  (calls.filter (!·.isItem)).getLast?.any (· matches .beginArray _)

/-- The members that calls complete: all of them but for an array that is still open. -/
def completed (calls : List Call) : List (String × Json) :=
  if leavesOpen calls then (written calls).dropLast else written calls

variable {m : Message}

/-- Calls add what they write, behind the array that is still open and goes on with the items that
    they start with. -/
theorem allMembers_applyAll (m : Message) (calls : List Call) :
    (m.applyAll calls).allMembers =
      m.members ++ (m.openArray.map fun (name, items) =>
        (name, Json.array (items ++ leadingItems calls))).toList ++ written calls := by
  induction calls generalizing m with
  | nil => simp [applyAll, allMembers, leadingItems, written]
  | cons c calls ih =>
    have hstep : m.applyAll (c :: calls) = (m.apply c).applyAll calls := rfl
    rw [hstep, ih]
    cases c with
    | field name v => simp [apply, field, endArray, allMembers, leadingItems, written]
    | beginArray name => simp [apply, beginArray, endArray, allMembers, leadingItems, written]
    | item v =>
      simp [apply, item, leadingItems, written, Function.comp_def]
    | endArray => simp [apply, endArray, allMembers, leadingItems, written]

theorem allMembers_applyAll_empty (calls : List Call) :
    (applyAll {} calls).allMembers = written calls := by
  rw [allMembers_applyAll, Option.map_none, Option.toList_none, List.append_nil, List.nil_append]

theorem applyAll_append (m : Message) (calls calls' : List Call) :
    m.applyAll (calls ++ calls') = (m.applyAll calls).applyAll calls' :=
  List.foldl_append

theorem isSome_openArray_applyAll (calls : List Call) :
    (applyAll {} calls).openArray.isSome = leavesOpen calls := by
  -- By induction from the last call: an item leaves an array as it is, and every other call
  -- decides on its own.
  induction calls using List.reverseRecOn with
  | nil => rfl
  | append_singleton calls c ih =>
    have hstep (m : Message) : m.applyAll [c] = m.apply c := rfl
    rw [applyAll_append, hstep, leavesOpen, List.filter_append]
    cases c with
    | item v =>
      rw [apply, item, Option.isSome_map, ih, leavesOpen]
      simp [Call.isItem]
    | field name v => simp [apply, field, Call.isItem]
    | beginArray name => simp [apply, beginArray, Call.isItem]
    | endArray => simp [apply, endArray, Call.isItem]

/-- The complete members are all members but the last one, if that is an array that is still
    open. -/
theorem members_eq (m : Message) :
    m.members = if m.openArray.isSome then m.allMembers.dropLast else m.allMembers := by
  rw [allMembers]
  cases m.openArray with
  | none => simp
  | some a => simp

theorem members_applyAll (calls : List Call) : (applyAll {} calls).members = completed calls := by
  rw [members_eq, isSome_openArray_applyAll, allMembers_applyAll_empty, completed]

theorem allMembers_endArray (m : Message) : m.endArray.allMembers = m.allMembers :=
  List.append_nil _

/-- Without an open array, the calls that need one change nothing. -/
theorem apply_of_isSome_eq_false (h : m.openArray.isSome = false) :
    m.apply .endArray = m ∧ ∀ v, m.apply (.item v) = m := by
  obtain ⟨members, openArray⟩ := m
  cases openArray with
  | none => exact ⟨congrArg (Message.mk · none) (List.append_nil members), fun _ => rfl⟩
  | some a => cases h

theorem isEmpty_iff : m.isEmpty = true ↔ m.allMembers = [] := by
  rw [isEmpty, allMembers]
  cases m.openArray with
  | none => simp
  | some a => simp

theorem written_eq_nil_iff {calls : List Call} :
    written calls = [] ↔ ∀ c ∈ calls, c.startsMember = false := by
  induction calls with
  | nil => simp [written]
  | cons c calls ih =>
    rw [List.forall_mem_cons, ← ih]
    cases c <;> simp [written, Call.startsMember]

/-- What a run of calls makes of a new message can be read off the calls. Its members are those that
    the calls write, of which the names and the values by name leave out an array that is still
    open. It is empty as long as no call started a member. To end an array changes nothing of what is
    written, at any time, and without an open array the calls that need one change nothing at
    all. -/
theorem applyAll_written (calls : List Call) :
    let m := applyAll {} calls
    m.allMembers = written calls ∧
    m.text = (Json.object (written calls)).text ∧
    m.names = (completed calls).map (·.1) ∧
    (∀ name, m.all name = ((completed calls).filter (·.1 == name)).map (·.2)) ∧
    (m.isEmpty = true ↔ ∀ c ∈ calls, c.startsMember = false) ∧
    (m.apply .endArray).text = m.text ∧
    (leavesOpen calls = false → m.apply .endArray = m ∧ ∀ v, m.apply (.item v) = m) := by
  intro m
  have hmembers : m.allMembers = written calls := allMembers_applyAll_empty calls
  refine ⟨hmembers, ?_, ?_, fun name => ?_, ?_, ?_, fun hclosed => ?_⟩
  · rw [text, json, hmembers]
  · rw [names, members_applyAll]
  · rw [all, members_applyAll]
  · rw [isEmpty_iff, hmembers, written_eq_nil_iff]
  · rw [apply, text, json, allMembers_endArray, text, json]
  · exact apply_of_isSome_eq_false ((isSome_openArray_applyAll calls).trans hclosed)

/-- Items before the first array, in an array that a second one of its name ends, and behind the end
    of that one, which a further end and a further item leave as it is. -/
theorem applyAll_written_stray :
    let calls : List Call := [.item (.int 9), .field "a" (.int 1), .item (.int 8), .beginArray "l",
      .item (.int 7), .beginArray "l", .item (.int 6), .item (.int 5), .endArray, .item (.int 4)]
    let m := applyAll {} calls
    m.allMembers = [("a", .number (.int 1)), ("l", .array [.number (.int 7)]),
      ("l", .array [.number (.int 6), .number (.int 5)])] ∧
    m.names = ["a", "l", "l"] ∧
    leavesOpen calls = false ∧ m.apply .endArray = m ∧ m.apply (.item (.int 3)) = m := by
  intro calls m
  have hclosed : leavesOpen calls = false := by decide
  obtain ⟨hmembers, -, hnames, -, -, -, hend⟩ := applyAll_written calls
  exact ⟨hmembers, hnames, hclosed, (hend hclosed).1, (hend hclosed).2 _⟩

end LoraGateway.Message
