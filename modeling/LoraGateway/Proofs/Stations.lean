import LoraGateway.Emission
import LoraGateway.Proofs.Field

/-!
# The stations of a Wi-Fi record

The stations are the groups of eight bytes that a record holds, one behind the other
(`Beacons.length_split`, `Beacons.getElem?_split_of_holds`). Bytes behind the last whole group make
no difference (`Beacons.split_append`), so that no station is lost where they are cut off.
-/

namespace LoraGateway.Beacons

open Telemetry (beaconWidth)

variable {bs rest : Bytes}

/-- Bytes are too few for a station, or a station and further bytes. -/
theorem length_lt_or_eq_cons (bs : Bytes) : bs.length < beaconWidth ∨
    ∃ a b c d e f g h rest, bs = a :: b :: c :: d :: e :: f :: g :: h :: rest := by
  rcases Nat.lt_or_ge bs.length beaconWidth with hshort | hlong
  · exact .inl hshort
  · match bs with
    | a :: b :: c :: d :: e :: f :: g :: h :: rest =>
      exact .inr ⟨a, b, c, d, e, f, g, h, rest, rfl⟩

theorem length_lt_of_ne_cons
    (hbs : ∀ a b c d e f g h rest, bs = a :: b :: c :: d :: e :: f :: g :: h :: rest → False) :
    bs.length < beaconWidth :=
  (length_lt_or_eq_cons bs).resolve_right fun ⟨a, b, c, d, e, f, g, h, rest, heq⟩ =>
    hbs a b c d e f g h rest heq

theorem length_of_mem_split {station : Bytes} (hstation : station ∈ split bs) :
    station.length = beaconWidth := by
  fun_induction split bs with
  | case1 a b c d e f g h rest ih =>
    rcases List.mem_cons.1 hstation with rfl | hrest
    · rfl
    · exact ih hrest
  | case2 bs hshort => cases hstation

theorem length_split (bs : Bytes) : (split bs).length = bs.length / beaconWidth := by
  fun_induction split bs with
  | case1 a b c d e f g h rest ih =>
    simp only [List.length_cons, ih, beaconWidth]
    omega
  | case2 bs hshort => exact (Nat.div_eq_of_lt (length_lt_of_ne_cons hshort)).symm

theorem split_of_length_lt (h : bs.length < beaconWidth) : split bs = [] := by
  rw [← List.length_eq_zero_iff, length_split, Nat.div_eq_of_lt h]

/-- Bytes behind whole stations that are too few for another one are left out. -/
theorem split_append (hwhole : beaconWidth ∣ bs.length) (hrest : rest.length < beaconWidth) :
    split (bs ++ rest) = split bs := by
  fun_induction split bs with
  | case1 a b c d e f g h bs ih =>
    simp only [List.length_cons, beaconWidth] at hwhole
    rw [← ih (by rw [beaconWidth]; omega)]
    rfl
  | case2 bs hshort =>
    have hnil : bs = [] :=
      List.length_eq_zero_iff.1 (Nat.eq_zero_of_dvd_of_lt hwhole (length_lt_of_ne_cons hshort))
    rw [hnil, List.nil_append, split_of_length_lt hrest]

/-- The `i`-th station is the `i`-th group of eight bytes. -/
theorem getElem?_split_of_holds {i : Nat} {a b c d e f g h : UInt8}
    (hholds : Bytes.Holds bs (beaconWidth * i) [a, b, c, d, e, f, g, h]) :
    (split bs)[i]? = some [a, b, c, d, e, f, g, h] := by
  induction i generalizing bs with
  | zero =>
    obtain ⟨-, after, hafter⟩ := Bytes.holds_iff_drop.1 hholds
    rw [Nat.mul_zero, List.drop_zero] at hafter
    rw [hafter]
    rfl
  | succ i ih =>
    rcases length_lt_or_eq_cons bs with hlt | ⟨a', b', c', d', e', f', g', h', rest, rfl⟩
    · have hlen := hholds.length_le
      rw [Nat.mul_succ] at hlen
      omega
    · rw [Bytes.holds_iff_drop, Nat.mul_succ, Nat.add_comm, ← List.drop_drop] at hholds
      have hlen : beaconWidth * i ≤ rest.length := by
        have := hholds.1
        simp only [List.length_cons, beaconWidth] at this ⊢
        omega
      exact ih (Bytes.holds_iff_drop.2 ⟨hlen, hholds.2⟩)

end LoraGateway.Beacons
