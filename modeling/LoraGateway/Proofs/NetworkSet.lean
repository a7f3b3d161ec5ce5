import Mathlib.Data.List.Induction
import LoraGateway.Proofs.IdentifierFilter

/-!
# The set of networks after any changes

A filter of networks is a set of 128 identifiers: it is determined by its bits
(`NetIdFilter.eq_of_bit_eq`), and after any number of changes a bit is what its last change made of
it (`NetIdFilter.bit_setAll`). An identifier from 128 on is another name for the one below 128 with
the same remainder.

* `NetIdFilter.allows_setAll`: which networks are in the set after any changes, and what that means
  for addresses, for the question whether all networks are in it, and for a list of networks.
-/

namespace LoraGateway

namespace NetIdFilter

/-- Changes one identifier after the other. -/
def setAll (f : NetIdFilter) (changes : List (UInt8 × Bool)) : NetIdFilter :=
  changes.foldl (fun f c => f.set c.1 c.2) f

/-- What the last change of bit `n` made of it; `none` if there is none. -/
def lastChange? (changes : List (UInt8 × Bool)) (n : Nat) : Option Bool :=
  (changes.filter (·.1.toNat % 128 = n)).getLast?.map (·.2)

/-! ### Filters as sets -/

/-- A filter is determined by its bits. -/
theorem eq_of_bit_eq {f g : NetIdFilter} (h : ∀ n < count, f.bit n = g.bit n) : f = g := by
  have hwords : f.words = g.words := by
    refine Vector.ext fun i hi => UInt32.toNat_inj.1 (Nat.eq_of_testBit_eq fun j => ?_)
    by_cases hj : j < 32
    · have hbit := h (32 * i + j) (by rw [count]; omega)
      have hword : (32 * i + j) / 32 = i := by omega
      have hplace : (32 * i + j) % 32 = j := by omega
      rw [bit, bit, hword, hplace, Vector.getElem?_eq_getElem hi, Vector.getElem?_eq_getElem hi,
        Option.any_some, Option.any_some] at hbit
      exact hbit
    · have hlarge (w : UInt32) : w.toNat.testBit j = false :=
        Nat.testBit_lt_two_pow (w.toNat_lt.trans_le (Nat.pow_le_pow_right (by decide) (by omega)))
      rw [hlarge, hlarge]
  cases f
  cases g
  exact congrArg mk hwords

theorem allowsAll_iff (f : NetIdFilter) :
    f.allowsAll = true ↔ ∀ id : UInt8, id.toNat < 128 → f.allows id = true := by
  rw [allowsAll, beq_iff_eq]
  constructor
  · rintro rfl id hid
    rw [allows_eq_bit]
    exact bit_all (Nat.mod_lt _ (by decide))
  · intro h
    refine eq_of_bit_eq fun n hn => ?_
    have hn' : n < 128 := hn
    have hid : (UInt8.ofNat n).toNat = n := by
      rw [UInt8.toNat_ofNat', Nat.mod_eq_of_lt (by omega)]
    have hallows := h (UInt8.ofNat n) (by rwa [hid])
    rw [allows_eq_bit, hid, Nat.mod_eq_of_lt hn'] at hallows
    rw [hallows, bit_all hn]

/-! ### Changes -/

theorem setAll_concat (f : NetIdFilter) (changes : List (UInt8 × Bool)) (c : UInt8 × Bool) :
    f.setAll (changes ++ [c]) = (f.setAll changes).set c.1 c.2 := by
  rw [setAll, List.foldl_append]
  rfl

theorem lastChange?_concat (changes : List (UInt8 × Bool)) (c : UInt8 × Bool) (n : Nat) :
    lastChange? (changes ++ [c]) n =
      if c.1.toNat % 128 = n then some c.2 else lastChange? changes n := by
  rw [lastChange?, List.filter_append]
  by_cases hc : c.1.toNat % 128 = n
  · simp [hc]
  · simp [hc, lastChange?]

/-- A bit is what its last change made of it, or else what it was. -/
theorem bit_setAll (f : NetIdFilter) (changes : List (UInt8 × Bool)) (n : Nat) :
    (f.setAll changes).bit n = (lastChange? changes n).getD (f.bit n) := by
  induction changes using List.reverseRecOn with
  | nil => rfl
  | append_singleton changes c ih =>
    rw [setAll_concat, bit_set, lastChange?_concat, ih]
    by_cases hc : c.1.toNat % 128 = n
    · rw [if_pos hc, if_pos hc, Option.getD_some]
    · rw [if_neg hc, if_neg hc]

/-- The network of an address is the number of its upper seven bits. -/
theorem admits_eq_allows (f : NetIdFilter) (a : DevAddr) :
    f.admits a = f.allows (UInt8.ofNat (a.value.toNat / 2 ^ 25)) := by
  have hnetId : a.netId = UInt8.ofNat (a.value.toNat / 2 ^ 25) := by
    rw [← DevAddr.toNat_netId, UInt8.ofNat_toNat]
  rw [admits, hnetId]

theorem allows_allowOnly_iff (ids : List UInt8) (id : UInt8) : (allowOnly ids).allows id = true ↔
    ∃ listed ∈ ids, listed.toNat % 128 = id.toNat % 128 := by
  rw [allows_eq_bit, allowOnly, bit_foldl_set, bit_nothing]
  simp

/-- After any changes of any set, a network is in the set as the last change of an identifier with
    the same remainder has it, or without one as it was at the start. An address is admitted if the
    network of its upper seven bits is in the set, all networks are admitted if each of the 128 is
    in the set, and the set made of a list holds the networks with the remainders that are listed. -/
theorem allows_setAll (start : NetIdFilter) (changes : List (UInt8 × Bool)) :
    let f := start.setAll changes
    (∀ id : UInt8, f.allows id =
      ((changes.filter (·.1.toNat % 128 = id.toNat % 128)).getLast?.map (·.2)).getD
        (start.bit (id.toNat % 128))) ∧
    (∀ a : DevAddr, f.admits a = f.allows (UInt8.ofNat (a.value.toNat / 2 ^ 25))) ∧
    (f.allowsAll = true ↔ ∀ id : UInt8, id.toNat < 128 → f.allows id = true) ∧
    ∀ (ids : List UInt8) (id : UInt8), (allowOnly ids).allows id = true ↔
      ∃ listed ∈ ids, listed.toNat % 128 = id.toNat % 128 := by
  intro f
  refine ⟨fun id => ?_, admits_eq_allows f, allowsAll_iff f, allows_allowOnly_iff⟩
  rw [allows_eq_bit, bit_setAll, lastChange?]

/-- Identifier 5 is barred, admitted as 133 and barred again, in a set whose last word is empty. -/
theorem allows_setAll_alias :
    let f := setAll ⟨#v[0, 0xFFFFFFFF, 0xFFFFFFFF, 0]⟩ [(5, true), (133, true), (7, true), (5, false)]
    f.allows 5 = false ∧ f.allows 133 = false ∧ f.allows 135 = true ∧ f.allows 33 = true ∧
      f.admits ⟨0x0FFFFFFF⟩ = true ∧ f.allowsAll = false ∧
      (allowOnly [161, 0]).allows 33 = true := by
  intro f
  obtain ⟨hallows, hadmits, hall, hlist⟩ := allows_setAll ⟨#v[0, 0xFFFFFFFF, 0xFFFFFFFF, 0]⟩
    [(5, true), (133, true), (7, true), (5, false)]
  refine ⟨(hallows 5).trans (by decide), (hallows 133).trans (by decide),
    (hallows 135).trans (by decide), (hallows 33).trans (by decide),
    (hadmits ⟨0x0FFFFFFF⟩).trans ((hallows 7).trans (by decide)), ?_, ?_⟩
  · refine Bool.eq_false_iff.2 fun h => ?_
    exact absurd ((hallows 5).symm.trans (hall.1 h 5 (by decide))) (by decide)
  · exact (hlist [161, 0] 33).2 ⟨161, by decide, by decide⟩

end NetIdFilter

end LoraGateway
