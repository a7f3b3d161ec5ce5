import Mathlib.Data.Nat.Bitwise
import LoraGateway.Proofs.Field

/-!
# Checked access

The decoder indexes its frame, cuts slices out of it and adds offsets. Here every such operation
says whether it may be carried out: outside its bounds it traps, that is, it gives nothing. A
computation that does not trap has a result, or a reason why it has none (`Run`). That it does not
trap and what it gives are one statement (`Agrees`), which is shown step by step: `Agrees.bind`
goes past a computation, `Agrees.behind` past an access that stays inside its bounds.

* `add?`, `mul?`: offsets are words of 64 bits, and a sum or product beyond them traps;
* `slice?`, `copy?`: the bounds of a slice must be in order and inside, and what is copied into a
  field must be as long as the field;
* `bytesAt_eq_slice`: the reading of a slice refuses what is outside of the frame, and never traps;
* `agrees_word`: a reader of a fixed width agrees with the reading of the number in its slice.
-/

namespace LoraGateway.Checked

/-! ## Traps -/

/-- A computation that may trap. -/
abbrev Run (ε α : Type) := ExceptT ε Option α

/-- The computation does not trap, and gives the result. -/
def Agrees {ε α : Type} (x : Run ε α) (y : Except ε α) : Prop :=
  x.run = some y

/-- The computation neither traps nor is refused. -/
def Succeeds {ε α : Type} (x : Run ε α) : Prop :=
  ∃ a, Agrees x (.ok a)

/-- A result as a computation. -/
def ofExcept {ε α : Type} (y : Except ε α) : Run ε α :=
  ExceptT.mk (some y)

/-- An access as a step of a computation. -/
def access {ε α : Type} (x : Option α) : Run ε α :=
  ExceptT.lift x

section

variable {ε ε' α β : Type}

theorem Agrees.succeeds {x : Run ε α} {y : Except ε α} (h : Agrees x y) (hy : ∃ a, y = .ok a) :
    Succeeds x := by
  obtain ⟨a, rfl⟩ := hy
  exact ⟨a, h⟩

theorem agrees_pure (a : α) : Agrees (pure a : Run ε α) (.ok a) :=
  rfl

theorem agrees_throw (e : ε) : Agrees (throw e : Run ε α) (.error e) :=
  rfl

theorem agrees_ofExcept (y : Except ε α) : Agrees (ofExcept y) y :=
  rfl

theorem Agrees.bind {x : Run ε α} {y : Except ε α} {f : α → Run ε β} {g : α → Except ε β}
    (hx : Agrees x y) (hf : ∀ a, y = .ok a → Agrees (f a) (g a)) : Agrees (x >>= f) (y >>= g) := by
  obtain rfl : x = ofExcept y := hx
  cases y with
  | error e => rfl
  | ok a => exact hf a rfl

/-- What comes behind a computation that succeeds is reached. -/
theorem Agrees.next {x : Run ε α} {a : α} {f : α → Run ε β} {y : Except ε β}
    (hx : Agrees x (.ok a)) (h : Agrees (f a) y) : Agrees (x >>= f) y := by
  obtain rfl : x = ofExcept (.ok a) := hx
  exact h

/-- Behind a computation that is refused, nothing is reached. -/
theorem Agrees.stop {x : Run ε α} {e : ε} {f : α → Run ε β} (hx : Agrees x (.error e)) :
    Agrees (x >>= f) (.error e) := by
  obtain rfl : x = ofExcept (.error e) := hx
  rfl

theorem agrees_access {x : Option α} {a : α} (h : x = some a) :
    Agrees (access x : Run ε α) (.ok a) := by
  subst h
  rfl

/-- What comes behind an access is reached if the access does not trap. -/
theorem Agrees.behind {x : Option α} {a : α} {f : α → Run ε β} {y : Except ε β} (hx : x = some a)
    (h : Agrees (f a) y) : Agrees (access x >>= f) y := by
  subst hx
  exact h

theorem Agrees.map {x : Run ε α} {y : Except ε α} (h : Agrees x y) (f : α → β) :
    Agrees (f <$> x) (y.map f) := by
  obtain rfl : x = ofExcept y := h
  cases y <;> rfl

theorem Agrees.mapError {x : Run ε α} {y : Except ε α} (h : Agrees x y) (f : ε → ε') :
    Agrees (x.adapt f) (y.mapError f) := by
  obtain rfl : x = ofExcept y := h
  cases y <;> rfl

end

/-! ## Accesses -/

/-- The sum of two words. -/
def add? (m n : Nat) : Option Nat :=
  if m + n < 2 ^ 64 then some (m + n) else none

/-- The product of two words. -/
def mul? (m n : Nat) : Option Nat :=
  if m * n < 2 ^ 64 then some (m * n) else none

/-- The difference of two words. -/
def sub? (m n : Nat) : Option Nat :=
  if n ≤ m then some (m - n) else none

/-- The item at an index. -/
def index? {α : Type} (xs : List α) (i : Nat) : Option α :=
  xs[i]?

/-- The bytes from `start` up to `stop`. -/
def slice? (bs : Bytes) (start stop : Nat) : Option Bytes :=
  if start ≤ stop ∧ stop ≤ bs.length then some (bs.range start stop) else none

/-- Bytes as the contents of a field. -/
def copy? (width : Nat) (bs : Bytes) : Option Bytes :=
  if bs.length = width then some bs else none

theorem add?_eq_some {m n : Nat} (h : m + n < 2 ^ 64) : add? m n = some (m + n) :=
  if_pos h

theorem mul?_eq_some {m n : Nat} (h : m * n < 2 ^ 64) : mul? m n = some (m * n) :=
  if_pos h

theorem sub?_eq_some {m n : Nat} (h : n ≤ m) : sub? m n = some (m - n) :=
  if_pos h

theorem slice?_eq_some {bs : Bytes} {start stop : Nat} (hstart : start ≤ stop)
    (hstop : stop ≤ bs.length) : slice? bs start stop = some (bs.range start stop) :=
  if_pos ⟨hstart, hstop⟩

theorem copy?_eq_some {width : Nat} {bs : Bytes} (h : bs.length = width) :
    copy? width bs = some bs :=
  if_pos h

/-- Nothing traps in a list in which no item does. -/
theorem mapM_eq_some {α β : Type} {f : α → Option β} {g : α → β} {xs : List α}
    (h : ∀ x ∈ xs, f x = some (g x)) : xs.mapM f = some (xs.map g) := by
  induction xs with
  | nil => rfl
  | cons x xs ih =>
    rw [List.forall_mem_cons] at h
    rw [List.mapM_cons, h.1, ih h.2]
    rfl

/-! ## Fields -/

/-- The `width` bytes at `offset`. -/
def bytesAt (frame : Bytes) (offset width : Nat) : Except Malformed Bytes :=
  match (add? offset width).bind (slice? frame offset) with
  | some bs => .ok bs
  | none => .error (.outOfBounds offset width frame.length)

/-- The `width` bytes at `offset`, as the contents of a field. -/
def fieldAt (frame : Bytes) (offset width : Nat) : Run Malformed Bytes := do
  let bs ← ofExcept (bytesAt frame offset width)
  access (copy? width bs)

/-- The word that is made of the number in `width` bytes at `offset`. -/
def word {α : Type} (number : Bytes → Nat) (make : Nat → α) (width : Nat) (frame : Bytes)
    (offset : Nat) : Run Malformed α := do
  let bs ← fieldAt frame offset width
  pure (make (number bs))

/-- One byte. -/
def byte (frame : Bytes) (offset : Nat) : Run Malformed UInt8 := do
  let bs ← fieldAt frame offset 1
  access (index? bs 0)

/-- One byte in two's complement. -/
def signedByte (frame : Bytes) (offset : Nat) : Run Malformed Int8 :=
  UInt8.toInt8 <$> word Bytes.beValue UInt8.ofNat 1 frame offset

/-- A 16-bit word, least significant byte first. -/
def le16 : Bytes → Nat → Run Malformed UInt16 :=
  word Bytes.leValue UInt16.ofNat 2

/-- A 32-bit word, least significant byte first. -/
def le32 : Bytes → Nat → Run Malformed UInt32 :=
  word Bytes.leValue UInt32.ofNat 4

/-- A 32-bit word in two's complement, least significant byte first. -/
def leSigned32 (frame : Bytes) (offset : Nat) : Run Malformed Int32 :=
  UInt32.toInt32 <$> le32 frame offset

/-- A 64-bit word, least significant byte first. -/
def le64 : Bytes → Nat → Run Malformed UInt64 :=
  word Bytes.leValue UInt64.ofNat 8

/-- A 16-bit word, most significant byte first. -/
def be16 : Bytes → Nat → Run Malformed UInt16 :=
  word Bytes.beValue UInt16.ofNat 2

/-- A 24-bit word, most significant byte first. -/
def be24 : Bytes → Nat → Run Malformed UInt32 :=
  word Bytes.beValue UInt32.ofNat 3

/-- A 32-bit word, most significant byte first. -/
def be32 : Bytes → Nat → Run Malformed UInt32 :=
  word Bytes.beValue UInt32.ofNat 4

/-- A 64-bit word, most significant byte first. -/
def be64 : Bytes → Nat → Run Malformed UInt64 :=
  word Bytes.beValue UInt64.ofNat 8

section

variable {frame : Bytes} (hframe : frame.length < 2 ^ 64) (offset width : Nat)

include hframe

/-- An end beyond all words is beyond the frame as well. -/
theorem bytesAt_eq_slice : bytesAt frame offset width = Wire.slice frame offset width := by
  rw [bytesAt]
  by_cases h : offset + width ≤ frame.length
  · have hrange : frame.range offset (offset + width) = (frame.drop offset).take width := by
      rw [Bytes.range, List.drop_take, Nat.add_sub_cancel_left]
    rw [Wire.slice_eq_ok h, add?_eq_some (by omega), Option.bind_some,
      slice?_eq_some (by omega) h, hrange]
  · -- Either the end is no word, or it is one beyond the frame; the answer is the same.
    have hnone : (add? offset width).bind (slice? frame offset) = none := by
      by_cases hword : offset + width < 2 ^ 64
      · rw [add?_eq_some hword, Option.bind_some, slice?, if_neg fun hbounds => h hbounds.2]
      · rw [add?, if_neg hword, Option.bind_none]
    rw [Wire.slice_eq_error (by omega), hnone]

theorem agrees_fieldAt : Agrees (fieldAt frame offset width) (Wire.slice frame offset width) := by
  rw [fieldAt, bytesAt_eq_slice hframe]
  refine ((agrees_ofExcept _).bind fun bs hbs => ?_).trans (congrArg some (bind_pure _))
  exact agrees_access (copy?_eq_some (Wire.slice_eq_ok_iff.1 hbs).1)

theorem agrees_word {α : Type} (number : Bytes → Nat) (make : Nat → α) :
    Agrees (word number make width frame offset)
      (((Wire.slice frame offset width).map number).map make) := by
  have hmap : ((Wire.slice frame offset width).map number).map make =
      (Wire.slice frame offset width).map (make ∘ number) :=
    Functor.map_map number make (Wire.slice frame offset width)
  rw [hmap]
  exact (agrees_fieldAt hframe offset width).map (make ∘ number)

theorem agrees_byte : Agrees (byte frame offset) (Wire.byte frame offset) := by
  have hbyte : Wire.byte frame offset =
      Wire.slice frame offset 1 >>= fun bs => .ok (UInt8.ofNat bs.beValue) :=
    (Functor.map_map Bytes.beValue UInt8.ofNat (Wire.slice frame offset 1)).trans
      (map_eq_pure_bind ..)
  rw [byte, hbyte]
  refine (agrees_fieldAt hframe offset 1).bind fun bs hbs => agrees_access ?_
  obtain ⟨b, rfl⟩ := List.length_eq_one_iff.1 (Wire.slice_eq_ok_iff.1 hbs).1
  have hb : Bytes.beValue [b] = b.toNat := by simp [Bytes.beValue, Bytes.leValue]
  rw [hb, UInt8.ofNat_toNat]
  rfl

theorem agrees_signedByte : Agrees (signedByte frame offset) (Wire.signedByte frame offset) :=
  (agrees_word hframe offset 1 Bytes.beValue UInt8.ofNat).map UInt8.toInt8

theorem agrees_le16 : Agrees (le16 frame offset) (Wire.le16 frame offset) :=
  agrees_word hframe offset 2 Bytes.leValue UInt16.ofNat

theorem agrees_le32 : Agrees (le32 frame offset) (Wire.le32 frame offset) :=
  agrees_word hframe offset 4 Bytes.leValue UInt32.ofNat

theorem agrees_leSigned32 : Agrees (leSigned32 frame offset) (Wire.leSigned32 frame offset) :=
  (agrees_le32 hframe offset).map UInt32.toInt32

theorem agrees_le64 : Agrees (le64 frame offset) (Wire.le64 frame offset) :=
  agrees_word hframe offset 8 Bytes.leValue UInt64.ofNat

theorem agrees_be16 : Agrees (be16 frame offset) (Wire.be16 frame offset) :=
  agrees_word hframe offset 2 Bytes.beValue UInt16.ofNat

theorem agrees_be24 : Agrees (be24 frame offset) (Wire.be24 frame offset) :=
  agrees_word hframe offset 3 Bytes.beValue UInt32.ofNat

theorem agrees_be32 : Agrees (be32 frame offset) (Wire.be32 frame offset) :=
  agrees_word hframe offset 4 Bytes.beValue UInt32.ofNat

theorem agrees_be64 : Agrees (be64 frame offset) (Wire.be64 frame offset) :=
  agrees_word hframe offset 8 Bytes.beValue UInt64.ofNat

end

end LoraGateway.Checked
