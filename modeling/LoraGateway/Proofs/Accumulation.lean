import LoraGateway.Proofs.Emission

/-!
# Frames that share their sinks

Frames may be forwarded one after the other into the same message and the same diagnostics
(`forwardAll`). They accumulate there without touching each other: what each of them adds is what
it yields alone, and a discarded frame adds nothing to the message.

* `Message.behind`: a message whose members come behind others. No call reaches back to these
  (`apply_behind`, `applyAll_behind`), and the first call of a frame closes whatever array it finds
  open (`Uplink.applyAll_calls`);
* `Reception.forward_eq`: what one frame does to its sinks, whatever they hold;
* `forwardAll_accumulates`: what a run of frames does to them.
-/

namespace LoraGateway

namespace Message

/-- A message behind other members. -/
def behind (earlier : List (String × Json)) (m : Message) : Message :=
  { m with members := earlier ++ m.members }

theorem allMembers_behind (earlier : List (String × Json)) (m : Message) :
    (m.behind earlier).allMembers = earlier ++ m.allMembers :=
  List.append_assoc ..

/-- A call does not reach back to earlier members. -/
theorem apply_behind (earlier : List (String × Json)) (m : Message) (c : Call) :
    (m.behind earlier).apply c = (m.apply c).behind earlier := by
  cases c with
  | field name v =>
    simp only [apply, field, endArray, allMembers_behind, List.append_assoc]
    rfl
  | beginArray name =>
    simp only [apply, beginArray, endArray, allMembers_behind]
    rfl
  | item v => rfl
  | endArray =>
    simp only [apply, endArray, allMembers_behind]
    rfl

theorem applyAll_behind (earlier : List (String × Json)) (m : Message) (calls : List Call) :
    (m.behind earlier).applyAll calls = (m.applyAll calls).behind earlier := by
  induction calls generalizing m with
  | nil => rfl
  | cons c calls ih =>
    have hstep : applyAll ((m.behind earlier).apply c) calls =
        (applyAll (m.apply c) calls).behind earlier := by
      rw [apply_behind, ih]
    exact hstep

/-- Calls that start with a field do behind any message what they do alone: the field closes an
    array that was left open. -/
theorem applyAll_field (m : Message) (name : String) (v : FieldValue) (calls : List Call) :
    m.applyAll (.field name v :: calls) =
      (applyAll {} (.field name v :: calls)).behind m.allMembers := by
  have hfirst : m.apply (.field name v) = (apply {} (.field name v)).behind m.allMembers := rfl
  have hrest := applyAll_behind m.allMembers (apply {} (.field name v)) calls
  rw [← hfirst] at hrest
  exact hrest

theorem all_behind (earlier : List (String × Json)) (m : Message) (name : String) :
    (m.behind earlier).all name = ({ members := earlier } : Message).all name ++ m.all name := by
  simp only [all, behind, List.filter_append, List.map_append]

end Message

namespace Uplink

/-- Every message of a frame starts with its kind, so that it can be written behind any other. -/
theorem applyAll_calls (m : Message) (o : MessageOptions) (u : Uplink) :
    m.applyAll (u.calls o) = (u.message o).behind m.allMembers :=
  Message.applyAll_field ..

variable {frame : Bytes} {filters : Filters} {u : Uplink}

/-- A decoded frame is forwarded behind whatever the message holds. -/
theorem message_forward (h : decode frame filters = .ok u) (o : MessageOptions) (s : Sinks) :
    (forward frame filters o s).2.message = (u.message o).behind s.message.allMembers := by
  rw [← applyAll_calls, forward, h]
  rfl

theorem all_forward (h : decode frame filters = .ok u) (o : MessageOptions) (s : Sinks)
    (name : String) : (forward frame filters o s).2.message.all name =
      s.message.endArray.all name ++ (u.message o).all name := by
  rw [message_forward h, Message.all_behind]
  rfl

end Uplink

/-- A frame, with the filters and the options that it is forwarded under. -/
structure Reception where
  frame : Bytes
  filters : Filters
  options : MessageOptions
  deriving DecidableEq, Repr

namespace Reception

/-- Forwards the frame into sinks. -/
def forward (r : Reception) (s : Sinks) : Except Discard Kind × Sinks :=
  LoraGateway.forward r.frame r.filters r.options s

/-- The result of the frame and what it yields when it is forwarded alone. -/
def alone (r : Reception) : Except Discard Kind × Sinks :=
  r.forward {}

/-- Whatever the sinks hold, a frame has the result that it has alone and adds what it yields
    alone. -/
theorem forward_eq (r : Reception) (s : Sinks) :
    (r.forward s).1 = r.alone.1 ∧
    (r.forward s).2.message.allMembers = s.message.allMembers ++ r.alone.2.message.allMembers ∧
    (r.forward s).2.diagnostics = s.diagnostics ++ r.alone.2.diagnostics := by
  rw [forward, alone, forward, LoraGateway.forward, LoraGateway.forward]
  cases Uplink.decode r.frame r.filters with
  | ok u =>
    have hmessage := Uplink.applyAll_calls s.message r.options u
    refine ⟨rfl, ?_, ?_⟩
    · exact (congrArg Message.allMembers hmessage).trans (Message.allMembers_behind ..)
    · simp [Sinks.emit, Sinks.addLines]
  | error d =>
    refine ⟨rfl, ?_, ?_⟩
    · exact (List.append_nil _).symm
    · simp [Sinks.addLines]

/-- A discarded frame leaves the message as it is, with an array that it finds open. -/
theorem message_forward_of_discard {r : Reception} {s : Sinks} {d : Discard}
    (h : (r.forward s).1 = .error d) : (r.forward s).2.message = s.message := by
  rw [forward, LoraGateway.forward] at h ⊢
  cases hdecode : Uplink.decode r.frame r.filters with
  | ok u =>
    rw [hdecode] at h
    cases h
  | error d => rfl

/-- A discarded frame yields no member. -/
theorem allMembers_alone_of_discard {r : Reception} (h : r.alone.1.isOk = false) :
    r.alone.2.message.allMembers = [] := by
  cases hresult : r.alone.1 with
  | ok k =>
    rw [hresult] at h
    cases h
  | error d =>
    have hmessage : r.alone.2.message = {} := message_forward_of_discard hresult
    rw [hmessage]
    rfl

end Reception

/-- Forwards frames one after the other into the same sinks. -/
def forwardAll : List Reception → Sinks → List (Except Discard Kind) × Sinks
  | [], s => ([], s)
  | r :: rest, s =>
    let (result, s) := r.forward s
    let (results, s) := forwardAll rest s
    (result :: results, s)

theorem forwardAll_cons (r : Reception) (rs : List Reception) (s : Sinks) :
    forwardAll (r :: rs) s = ((r.forward s).1 :: (forwardAll rs (r.forward s).2).1,
      (forwardAll rs (r.forward s).2).2) :=
  rfl

/-- After some frames, the next one is forwarded into the sinks that they leave. -/
theorem forwardAll_concat (rs : List Reception) (r : Reception) (s : Sinks) :
    (forwardAll (rs ++ [r]) s).2 = (r.forward (forwardAll rs s).2).2 := by
  induction rs generalizing s with
  | nil => rfl
  | cons r' rs ih =>
    rw [List.cons_append, forwardAll_cons, forwardAll_cons]
    exact ih _

theorem results_forwardAll (rs : List Reception) (s : Sinks) :
    (forwardAll rs s).1 = rs.map (·.alone.1) := by
  induction rs generalizing s with
  | nil => rfl
  | cons r rs ih => rw [forwardAll_cons, List.map_cons, ih, (r.forward_eq s).1]

theorem allMembers_forwardAll (rs : List Reception) (s : Sinks) :
    (forwardAll rs s).2.message.allMembers =
      s.message.allMembers ++ rs.flatMap (·.alone.2.message.allMembers) := by
  induction rs generalizing s with
  | nil => exact (List.append_nil _).symm
  | cons r rs ih =>
    rw [forwardAll_cons, List.flatMap_cons, ih, (r.forward_eq s).2.1, List.append_assoc]

theorem diagnostics_forwardAll (rs : List Reception) (s : Sinks) :
    (forwardAll rs s).2.diagnostics =
      s.diagnostics ++ String.join (rs.map (·.alone.2.diagnostics)) := by
  induction rs generalizing s with
  | nil => exact String.append_empty.symm
  | cons r rs ih =>
    rw [forwardAll_cons, List.map_cons, ih, (r.forward_eq s).2.2, String.join_cons,
      String.append_assoc]

/-- Only the frames that are not discarded yield members. -/
theorem flatMap_filter_isOk (rs : List Reception) :
    (rs.filter (·.alone.1.isOk)).flatMap (·.alone.2.message.allMembers) =
      rs.flatMap (·.alone.2.message.allMembers) := by
  induction rs with
  | nil => rfl
  | cons r rs ih =>
    rw [List.filter_cons, List.flatMap_cons]
    split
    · rw [List.flatMap_cons, ih]
    · next h =>
      rw [Bool.not_eq_true] at h
      rw [ih, Reception.allMembers_alone_of_discard h, List.nil_append]

/-- A frame of a run that is discarded leaves the message as the frames before it left it. -/
theorem message_forwardAll_of_discard {rs : List Reception} {s : Sinks} {k : Nat} {d : Discard}
    (h : (forwardAll rs s).1[k]? = some (.error d)) :
    (forwardAll (rs.take (k + 1)) s).2.message = (forwardAll (rs.take k) s).2.message := by
  rw [results_forwardAll, List.getElem?_map, Option.map_eq_some_iff] at h
  obtain ⟨r, hr, hresult⟩ := h
  rw [List.take_add_one, hr, Option.toList_some, forwardAll_concat]
  refine Reception.message_forward_of_discard (d := d) ?_
  rw [(r.forward_eq _).1, hresult]

/-- Frames that are forwarded one after the other accumulate in their sinks, whatever these hold at
    first: each has the result that it has alone, the members of the message are those that were
    there and then what each frame that is not discarded yields alone, and so are the diagnostics
    of all frames. A frame that is discarded leaves the message untouched. -/
theorem forwardAll_accumulates (rs : List Reception) (s : Sinks) :
    (forwardAll rs s).1 = rs.map (·.alone.1) ∧
    (forwardAll rs s).2.message.allMembers = s.message.allMembers ++
      (rs.filter (·.alone.1.isOk)).flatMap (·.alone.2.message.allMembers) ∧
    (forwardAll rs s).2.diagnostics =
      s.diagnostics ++ String.join (rs.map (·.alone.2.diagnostics)) ∧
    ∀ k d, (forwardAll rs s).1[k]? = some (.error d) →
      (forwardAll (rs.take (k + 1)) s).2.message = (forwardAll (rs.take k) s).2.message := by
  refine ⟨results_forwardAll rs s, ?_, diagnostics_forwardAll rs s, fun k d h =>
    message_forwardAll_of_discard h⟩
  rw [allMembers_forwardAll, flatMap_filter_isOk]

/-- A telemetry frame that ends within its second item, between two foreign frames: it leaves the
    message as it is, behind an array that was open before. -/
theorem forwardAll_accumulates_truncated :
    let truncated : Bytes :=
      [0x01, 0, 0, 0, 0, 0, 0, 0, 7, 0x41, 0, 0, 0, 1, 0x10, 0x0C, 0xE4, 0x61, 0x20]
    let rs : List Reception := [⟨[0x40], {}, {}⟩, ⟨truncated, {}, {}⟩, ⟨[0x40, 0x01], {}, {}⟩]
    let s : Sinks :=
      { message := { openArray := some ("open", [.null]) }, diagnostics := "before\n" }
    (forwardAll rs s).1[1]? = some (.error (.malformed (.truncated 0x61 17 32 19))) ∧
      (forwardAll (rs.take 2) s).2.message = (forwardAll (rs.take 1) s).2.message ∧
      (forwardAll (rs.take 1) s).2.message.allMembers =
        [("open", .array [.null]), ("msgtype", .string "lora"), ("payload", .string "40")] := by
  intro truncated rs s
  have hdecode : Uplink.decode truncated {} =
      .error (.malformed (.truncated 0x61 17 32 19)) := by
    cbv
  have hresult : (forwardAll rs s).1[1]? =
      some (.error (.malformed (.truncated 0x61 17 32 19))) := by
    rw [results_forwardAll]
    have halone : (Reception.alone ⟨truncated, {}, {}⟩).1 =
        .error (.malformed (.truncated 0x61 17 32 19)) := by
      rw [Reception.alone, Reception.forward, forward, hdecode]
    exact congrArg some halone
  have hmembers := (forwardAll_accumulates (rs.take 1) s).2.1
  refine ⟨hresult, (forwardAll_accumulates rs s).2.2.2 1 _ hresult, hmembers.trans ?_⟩
  rfl

end LoraGateway
