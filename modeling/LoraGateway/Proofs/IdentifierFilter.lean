import LoraGateway.Filter
import LoraGateway.Proofs.Bits

/-!
# What a filter admits

The verdicts of the identifier filters without their representation: a join server is admitted if
no range is given or it lies in some range (`JoinEuiFilter.admits_iff`), a device address if the bit
of its network, the top seven bits of the address, is set (`NetIdFilter.admits_eq_bit`).

* `NetIdFilter.bit_set`: a change sets or clears one bit, and leaves the other ones as they are;
* `NetIdFilter.admits_allowOnly`: hence a filter that is made of a list admits what is listed.
-/

namespace LoraGateway

/-- No range at all admits every join server, and a range admits those that lie in it. -/
theorem JoinEuiFilter.admits_iff {f : JoinEuiFilter} {e : Eui} : f.admits e = true ↔
    f.ranges = [] ∨ ∃ r ∈ f.ranges, r.1.value ≤ e.value ∧ e.value ≤ r.2.value := by
  simp only [admits, isDisabled, Bool.or_eq_true, List.isEmpty_iff, List.any_eq_true,
    Bool.and_eq_true, decide_eq_true_eq]

/-- The network of an address is what is left of it without its low 25 bits. -/
theorem DevAddr.toNat_netId (a : DevAddr) : a.netId.toNat = a.value.toNat / 2 ^ 25 := by
  have hlt := a.value.toNat_lt
  have hmask : a.value.toNat / 2 ^ 25 &&& 0x7F = a.value.toNat / 2 ^ 25 := by
    rw [show (0x7F : Nat) = 2 ^ 7 - 1 from rfl, Nat.and_two_pow_sub_one_eq_mod]
    omega
  have hshift : (a.value >>> 25 &&& 0x7F).toNat = a.value.toNat / 2 ^ 25 := by
    rw [UInt32.toNat_and, UInt32.toNat_shiftRight, Nat.shiftRight_eq_div_pow]
    exact hmask
  rw [netId, UInt32.toNat_toUInt8, hshift]
  omega

namespace NetIdFilter

/-- True if bit `n % 32` of word `n / 32` is set. -/
def bit (f : NetIdFilter) (n : Nat) : Bool :=
  f.words[n / 32]?.any (·.toNat.testBit (n % 32))

/-- The bit of an identifier within its word is the power of two of its place. -/
theorem toNat_bitOf (id : UInt8) : (bitOf id).toNat = 2 ^ (id.toNat % 32) := by
  have hplace : id.toNat % 32 < 32 := Nat.mod_lt _ (by decide)
  have hpow : 2 ^ (id.toNat % 32) < 2 ^ 32 := Nat.pow_lt_pow_right (by decide) hplace
  rw [bitOf, UInt32.toNat_shiftLeft, UInt32.toNat_ofNat', Nat.mod_eq_of_lt (a := id.toNat % 32)
    (by omega), Nat.mod_eq_of_lt hplace, UInt32.toNat_one, Nat.one_shiftLeft, Nat.mod_eq_of_lt hpow]

/-- An identifier is in the set if and only if its bit is set; it is taken modulo 128. -/
theorem allows_eq_bit (f : NetIdFilter) (id : UInt8) : f.allows id = f.bit (id.toNat % 128) := by
  have hplace : id.toNat % 128 % 32 = id.toNat % 32 := by omega
  have hword : f.words[id.toNat % 128 / 32]? = some f.words[wordOf id] :=
    Vector.getElem?_eq_getElem (wordOf id).isLt
  rw [Bool.eq_iff_iff, allows, bne_iff_ne, and_ne_zero_iff_testBit (toNat_bitOf id), bit, hplace,
    hword, Option.any_some]

theorem admits_eq_bit (f : NetIdFilter) (a : DevAddr) :
    f.admits a = f.bit (a.value.toNat / 2 ^ 25) := by
  have hlt := a.value.toNat_lt
  rw [admits, allows_eq_bit, DevAddr.toNat_netId, Nat.mod_eq_of_lt (by omega)]

/-! ### Changing a set -/

/-- A change concerns the bit of its identifier, and no other one. -/
theorem bit_set (f : NetIdFilter) (id : UInt8) (allowed : Bool) (n : Nat) :
    (f.set id allowed).bit n = if id.toNat % 128 = n then allowed else f.bit n := by
  have hword : (wordOf id : Nat) = id.toNat % 128 / 32 := rfl
  simp only [bit, set, Vector.getElem?_set, hword]
  by_cases hsame : id.toNat % 128 / 32 = n / 32
  · have hplace : id.toNat % 32 = n % 32 ↔ id.toNat % 128 = n := by omega
    have hold : f.words[n / 32]? = some f.words[wordOf id] := by
      rw [← hsame]
      exact Vector.getElem?_eq_getElem (wordOf id).isLt
    rw [if_pos hsame, hold, Option.any_some, Option.any_some,
      testBit_or_and_not (toNat_bitOf id) allowed (Nat.mod_lt _ (by decide))]
    simp only [hplace]
  · rw [if_neg hsame, if_neg (by omega)]

theorem bit_nothing (n : Nat) : nothing.bit n = false := by
  rw [bit, nothing, Vector.getElem?_replicate]
  split <;> simp

/-- What is admitted after a list was admitted is what was admitted before, and what is listed. -/
theorem bit_foldl_set (f : NetIdFilter) (ids : List UInt8) (n : Nat) :
    (ids.foldl (fun f id => f.set id true) f).bit n = true ↔
      f.bit n = true ∨ ∃ id ∈ ids, id.toNat % 128 = n := by
  induction ids generalizing f with
  | nil => simp
  | cons id ids ih =>
    simp only [List.foldl_cons, ih, bit_set, List.mem_cons, exists_eq_or_imp]
    by_cases hid : id.toNat % 128 = n <;> simp [hid]

/-- A list of networks admits the addresses of these networks. -/
theorem admits_allowOnly (ids : List UInt8) (a : DevAddr) :
    (allowOnly ids).admits a = true ↔ ∃ id ∈ ids, id.toNat % 128 = a.value.toNat / 2 ^ 25 := by
  rw [admits_eq_bit, allowOnly, bit_foldl_set, bit_nothing]
  simp

theorem bit_all {n : Nat} (h : n < count) : all.bit n = true := by
  revert n
  decide

/-- The filter of all networks bars no address. -/
theorem admits_all (a : DevAddr) : all.admits a = true := by
  have hlt := a.value.toNat_lt
  rw [admits_eq_bit]
  exact bit_all (by rw [count]; omega)

end NetIdFilter

end LoraGateway
