import Mathlib.Tactic.SplitIfs
import LoraGateway.CommandLine.Command
import LoraGateway.Proofs.LayoutText
import LoraGateway.Proofs.Result

/-!
# What a command line can ask for

A layout that is given on the command line is usable: the layouts of the regions are, and a layout
in text is refused if it is not. A request comes out of its arguments by a chain of steps, each of
which may end it early (`Parse`); what holds of whatever comes out of a chain (`Parse.Ensures`) is
derived from what holds after each of its steps.

* `Parse.Ensures.bind`, `Parse.Ensures.foldlM`: chains of steps, and steps for each occurrence;
* `BeaconOptions.usable_add`: the options of a beacon hold usable layouts, after every occurrence;
* `Request.hasUsableLayout_of_ofArguments`: so does every request.
-/

namespace LoraGateway

/-! ## Layouts -/

namespace CommandLine

/-- The layout of a region is usable. -/
theorem check_of_regionLayout? {text : String} {l : Beacon.Layout}
    (h : regionLayout? text = some l) : l.check = .ok () := by
  rw [regionLayout?] at h
  split_ifs at h
  · exact Option.some.inj h ▸ rfl
  · exact Option.some.inj h ▸ rfl

/-! ## Chains of steps -/

/-- If a request gives a layout, this is a usable one. -/
def Request.HasUsableLayout : Request → Prop
  | .run (.beacon _ (.given l)) _ => l.check = .ok ()
  | _ => True

namespace Parse

variable {α β : Type}

/-- What comes out of the step has a property; or the step ends the chain, with an error or with a
    request whose layout is usable. -/
def Ensures (P : α → Prop) : Parse α → Prop
  | .ok a => P a
  | .error (.inr r) => r.HasUsableLayout
  | .error (.inl _) => True

namespace Ensures

variable {P : α → Prop} {Q : β → Prop} {x : Parse α}

theorem pure {a : α} (h : P a) : Ensures P (pure a) :=
  h

theorem fail (e : UsageError) : Ensures P (fail e) :=
  trivial

theorem fail_bind (e : UsageError) (f : α → Parse β) : Ensures Q (Parse.fail e >>= f) :=
  trivial

theorem bind {f : α → Parse β} (hx : x.Ensures P) (hf : ∀ a, P a → (f a).Ensures Q) :
    (x >>= f).Ensures Q := by
  match x with
  | .ok a => exact hf a hx
  | .error (.inr _) => exact hx
  | .error (.inl _) => exact trivial

/-- What every step keeps holds after all of them. -/
theorem foldlM {f : α → β → Parse α} {a : α} (bs : List β) (ha : P a)
    (hf : ∀ a b, P a → (f a b).Ensures P) : (bs.foldlM f a).Ensures P := by
  induction bs generalizing a with
  | nil => exact pure ha
  | cons b bs ih =>
    rw [List.foldlM_cons]
    exact (hf a b ha).bind fun _ => ih

end Ensures

/-! ## Options -/

variable {P : α → Prop} {option text : String} {old : Option α}

/-- An option has the value that was read for it. -/
theorem ensures_once {value : Parse α} (h : value.Ensures P) :
    (once option old value).Ensures fun new => ∀ a ∈ new, P a := by
  rw [once]
  split
  · exact .fail_bind _ _
  · exact h.bind fun a ha => .pure fun _ hmem => Option.mem_some.1 hmem ▸ ha

theorem ensures_valueOnce {read : Option α} (h : ∀ a ∈ read, P a) :
    (valueOnce option text old read).Ensures fun new => ∀ a ∈ new, P a := by
  refine ensures_once ?_
  cases read with
  | none => exact .fail _
  | some a => exact .pure (h a rfl)

theorem ensures_flagOnce (old : Bool) : (flagOnce option old).Ensures fun _ => True := by
  rw [flagOnce]
  split
  · exact .fail_bind _ _
  · exact .pure trivial

theorem ensures_required (value : Option α) : (required option value).Ensures fun _ => True := by
  cases value with
  | none => exact .fail _
  | some a => exact .pure trivial

end Parse

open Parse (Ensures ensures_once ensures_valueOnce ensures_flagOnce ensures_required)

theorem ensures_commonFlag (verbose : Bool) (o : Occurrence) :
    (commonFlag verbose o).Ensures fun _ => True := by
  rw [commonFlag.eq_def]
  split
  · exact ensures_flagOnce verbose
  · exact trivial
  · exact trivial
  · exact .fail _
  · exact .fail _
  · exact .fail _
  · exact .fail _

/-- What every occurrence keeps of the options holds of all of them. -/
theorem ensures_options {α : Type} {P : α → Prop} {g : Grammar} {add : α → Occurrence → Parse α}
    {start : α} (hstart : P start) (hadd : ∀ o occurrence, P o → (add o occurrence).Ensures P)
    (arguments : List String) : (options g add start arguments).Ensures P := by
  rw [options]
  refine (Ensures.foldlM _ hstart hadd).bind fun o ho => ?_
  split
  · exact .pure ho
  · exact .fail _
  · exact .fail _

/-! ## Commands -/

namespace DecodeOptions

theorem ensures_add (o : DecodeOptions) (occurrence : Occurrence) :
    (o.add occurrence).Ensures fun _ => True := by
  rw [add.eq_def]
  split
  · exact (ensures_valueOnce fun _ _ => trivial).bind fun _ _ => .pure trivial
  · exact (ensures_valueOnce fun _ _ => trivial).bind fun _ _ => .pure trivial
  · exact (ensures_valueOnce fun _ _ => trivial).bind fun _ _ => .pure trivial
  · exact (ensures_flagOnce _).bind fun _ _ => .pure trivial
  · exact (ensures_flagOnce _).bind fun _ _ => .pure trivial
  · exact (ensures_commonFlag _ _).bind fun _ _ => .pure trivial

theorem ensures_options (arguments : List String) :
    (options grammar add {} arguments).Ensures fun _ => True :=
  CommandLine.ensures_options trivial (fun o occurrence _ => o.ensures_add occurrence) arguments

theorem ensures_command (o : DecodeOptions) :
    o.command.Ensures fun c => ∀ verbose, (Request.run c verbose).HasUsableLayout :=
  (ensures_required o.file).bind fun _ _ => .pure fun _ => trivial

end DecodeOptions

namespace ConfigOptions

theorem ensures_add (o : ConfigOptions) (occurrence : Occurrence) :
    (o.add occurrence).Ensures fun _ => True := by
  rw [add.eq_def]
  split
  · exact (ensures_valueOnce fun _ _ => trivial).bind fun _ _ => .pure trivial
  · exact (ensures_flagOnce _).bind fun _ _ => .pure trivial
  · exact (ensures_commonFlag _ _).bind fun _ _ => .pure trivial

theorem ensures_options (g : Grammar) (arguments : List String) :
    (options g add {} arguments).Ensures fun _ => True :=
  CommandLine.ensures_options trivial (fun o occurrence _ => o.ensures_add occurrence) arguments

end ConfigOptions

namespace BeaconOptions

/-- The layouts that were given are usable. -/
structure Usable (o : BeaconOptions) : Prop where
  region : ∀ l ∈ o.region, l.check = .ok ()
  layout : ∀ l ∈ o.layout, l.check = .ok ()

/-- No occurrence brings a layout that is not usable. -/
theorem usable_add {o : BeaconOptions} (h : o.Usable) (occurrence : Occurrence) :
    (o.add occurrence).Ensures Usable := by
  -- Only two of the options bring a layout; the others leave those that are there.
  rw [add.eq_def]
  split
  · exact (ensures_valueOnce fun _ _ => trivial).bind fun _ _ => .pure ⟨h.region, h.layout⟩
  · exact (ensures_valueOnce fun _ _ => trivial).bind fun _ _ => .pure ⟨h.region, h.layout⟩
  · exact (ensures_valueOnce fun _ _ => trivial).bind fun _ _ => .pure ⟨h.region, h.layout⟩
  · exact (ensures_valueOnce fun _ _ => trivial).bind fun _ _ => .pure ⟨h.region, h.layout⟩
  · exact (ensures_valueOnce fun _ hl => check_of_regionLayout? hl).bind
      fun _ hregion => .pure ⟨hregion, h.layout⟩
  · next text =>
    refine (ensures_once ?_).bind fun _ hlayout => .pure ⟨h.region, hlayout⟩
    split
    · next hl => exact .pure ((Beacon.Layout.ofText_eq_ok_iff.1 hl).2)
    · exact .fail _
  · exact (ensures_valueOnce fun _ _ => trivial).bind fun _ _ => .pure ⟨h.region, h.layout⟩
  · exact (ensures_commonFlag _ _).bind fun _ _ => .pure ⟨h.region, h.layout⟩

theorem ensures_options (arguments : List String) :
    (options grammar add {} arguments).Ensures Usable :=
  have hstart : Usable {} := { region := nofun, layout := nofun }
  CommandLine.ensures_options hstart (fun _ occurrence ho => usable_add ho occurrence) arguments

/-- The command of a beacon has one of the layouts that were given, or none. -/
theorem Usable.ensures_command {o : BeaconOptions} (h : o.Usable) :
    o.command.Ensures fun c => ∀ verbose, (Request.run c verbose).HasUsableLayout := by
  rw [command]
  split
  · exact .fail_bind _ _
  · refine (ensures_required _).bind fun epoch _ => (ensures_required _).bind fun latitude _ =>
      (ensures_required _).bind fun longitude _ => .pure fun verbose => ?_
    -- A layout in text goes before that of a region.
    split
    · next l hl =>
      obtain hlayout | ⟨-, hregion⟩ := Option.or_eq_some_iff.1 hl
      · exact h.layout l hlayout
      · exact h.region l hregion
    · trivial

end BeaconOptions

/-! ## Requests -/

theorem ensures_commandName (g : Grammar) (verbose : Bool) (arguments : List String) :
    (commandName g verbose arguments).Ensures fun _ => True := by
  rw [commandName]
  refine (Ensures.foldlM _ trivial fun flags o _ => ensures_commonFlag flags o).bind
    fun flags _ => ?_
  split
  · exact .fail _
  · exact .pure trivial
  · exact .fail _

theorem ensures_helpRequest (parent names : List String) :
    (helpRequest parent names).Ensures Request.HasUsableLayout := by
  induction names generalizing parent with
  | nil => exact .pure trivial
  | cons name rest ih =>
    rw [helpRequest]
    split
    · exact ih _
    · exact .fail _

theorem ensures_configRequest (verbose : Bool) (arguments : List String) :
    (configRequest verbose arguments).Ensures Request.HasUsableLayout := by
  rw [configRequest]
  refine (ensures_commandName _ _ _).bind fun ⟨verbose, name, rest⟩ _ => ?_
  dsimp only
  split
  · exact (ConfigOptions.ensures_options _ _).bind fun _ _ => .pure trivial
  · exact (ConfigOptions.ensures_options _ _).bind fun _ _ => .pure trivial
  · exact ensures_helpRequest _ _

theorem ensures_mainRequest (arguments : List String) :
    (mainRequest arguments).Ensures Request.HasUsableLayout := by
  rw [mainRequest]
  refine (ensures_commandName _ _ _).bind fun ⟨verbose, name, rest⟩ _ => ?_
  dsimp only
  split
  · exact (DecodeOptions.ensures_options _).bind
      fun o _ => o.ensures_command.bind fun c hc => .pure (hc _)
  · exact (BeaconOptions.ensures_options _).bind
      fun o ho => ho.ensures_command.bind fun c hc => .pure (hc _)
  · exact ensures_configRequest _ _
  · exact ensures_helpRequest _ _

/-- If a command line gives a layout, this is a usable one. -/
theorem Request.hasUsableLayout_of_ofArguments {arguments : List String} {r : Request}
    (h : ofArguments arguments = .ok r) : r.HasUsableLayout := by
  -- A request is the result of the chain, or what ended it early.
  have hensures := ensures_mainRequest arguments
  rw [ofArguments] at h
  split at h
  · next hmain => rw [hmain, Result.pure_eq_ok_iff.1 h] at hensures; exact hensures
  · next hmain => rw [hmain, Result.pure_eq_ok_iff.1 h] at hensures; exact hensures
  · cases h

end CommandLine

end LoraGateway
