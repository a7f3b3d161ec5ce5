import LoraGateway.Beacon.Pdu
import LoraGateway.Proofs.Buffer
import LoraGateway.Proofs.ErrorDetection
import LoraGateway.Proofs.Result

/-!
# Beacons are built to be verified

A usable layout cuts a beacon into two regions. A region is intact if and only if it is a message
with its check word (`isIntact_iff`), which the two regions of a built beacon are, because no write
meets what another check word was computed from (`exists_build_eq_ok`).

* `verify_detects_damage`: the verdict on a region depends on nothing else, and damage of the kinds
  that a check word detects is found out;
* `build_agrees_with_verify`: a beacon is built for exactly the usable layouts, and is the only one
  with its fields that is verified.
-/

namespace LoraGateway.Beacon

open Bytes

namespace Layout

/-- The regions of a layout: the time lies in front of the first check word, the description and the
    position between that and the second one. -/
structure Usable (l : Layout) : Prop where
  time : l.timeOffset.toNat + timeWidth + crcWidth ≤ l.infoOffset.toNat
  info : l.infoOffset.toNat + infoWidth + crcWidth ≤ l.length.toNat

theorem check_eq_ok_iff {l : Layout} : l.check = .ok () ↔ l.Usable := by
  simp only [check, Result.ite_throw_eq_ok_iff, Result.ite_throw_else_eq_ok_iff, Nat.not_lt]
  constructor
  · rintro ⟨-, hinfo, htime, -⟩
    exact ⟨htime, hinfo⟩
  · rintro ⟨htime, hinfo⟩
    exact ⟨Nat.le_trans (Nat.le_add_left ..) htime, hinfo, htime, rfl⟩

variable {l : Layout}

/-- The first region has room for its check word. -/
theorem Usable.crcWidth_le_infoOffset (h : l.Usable) : 2 ≤ l.infoOffset.toNat :=
  Nat.le_trans (Nat.le_add_left ..) h.time

/-- The second region has room for its check word. -/
theorem Usable.infoOffset_add_crcWidth_le (h : l.Usable) :
    l.infoOffset.toNat + 2 ≤ l.length.toNat :=
  Nat.le_trans (Nat.add_le_add_right (Nat.le_add_right ..) _) h.info

/-- How much room a usable layout leaves up to the end of each region. -/
theorem Usable.room (h : l.Usable) : l.timeOffset.toNat + 6 ≤ l.infoOffset.toNat ∧
    l.infoOffset.toNat + 9 ≤ l.length.toNat :=
  ⟨h.time, h.info⟩

/-! ### The writes of the fields

Every field stands inside the beacon, so that no write changes its length. -/

/-- A beacon without fields. -/
def zeros (l : Layout) : Bytes :=
  List.replicate l.length.toNat 0

/-- A beacon with the time only. -/
def timed (l : Layout) (c : Content) : Bytes :=
  l.zeros.overwrite l.timeOffset.toNat (leBytes 4 c.epoch.toUInt64.toNat)

/-- A beacon with the time and the description. -/
def described (l : Layout) (c : Content) : Bytes :=
  (l.timed c).overwrite l.infoOffset.toNat [c.infoDesc]

/-- A beacon with all fields but the latitude. -/
def located (l : Layout) (c : Content) : Bytes :=
  (l.described c).overwrite (l.infoOffset.toNat + 1)
    (leBytes 3 (fixedPoint c.longitude 180.0).toNat)

theorem fields_eq (l : Layout) (c : Content) : l.fields c =
    (l.located c).overwrite (l.infoOffset.toNat + 4)
      (leBytes 3 (fixedPoint c.latitude 90.0).toNat) :=
  rfl

theorem length_zeros (l : Layout) : l.zeros.length = l.length.toNat :=
  List.length_replicate

theorem length_timed (h : l.Usable) (c : Content) : (l.timed c).length = l.length.toNat := by
  have hroom := h.room
  refine length_overwrite l.length_zeros ?_
  rw [length_leBytes]
  omega

theorem length_described (h : l.Usable) (c : Content) :
    (l.described c).length = l.length.toNat := by
  have hroom := h.room
  refine length_overwrite (length_timed h c) ?_
  rw [List.length_singleton]
  omega

theorem length_located (h : l.Usable) (c : Content) : (l.located c).length = l.length.toNat := by
  have hroom := h.room
  refine length_overwrite (length_described h c) ?_
  rw [length_leBytes]
  omega

theorem length_fields (h : l.Usable) (c : Content) : (l.fields c).length = l.length.toNat := by
  have hroom := h.room
  refine length_overwrite (length_located h c) ?_
  rw [length_leBytes]
  omega

end Layout

/-! ## Intact regions -/

section Region

variable {pdu p q : Bytes} {start stop : Nat}

/-- A region is what stands in front of its last two bytes, and these. -/
theorem range_append_last_two (hstart : start + 2 ≤ stop) (hstop : stop ≤ pdu.length) :
    pdu.range start (stop - 2) ++ pdu.range (stop - 2) stop = pdu.range start stop :=
  range_append_range _ (by omega) (by omega) (by omega)

/-- The message of a region is what stands in front of its last two bytes. -/
theorem range_eq_of_range_eq_withCrc {message : Bytes} (hstart : start + 2 ≤ stop)
    (hstop : stop ≤ pdu.length) (h : pdu.range start stop = withCrc message) :
    pdu.range start (stop - 2) = message := by
  have hsplit := range_append_last_two hstart hstop
  rw [h, withCrc] at hsplit
  refine (List.append_inj' hsplit ?_).1
  rw [length_range, length_leBytes]
  omega

/-- A region that is a message with its check word ends with the check word of what stands in front
    of it. -/
theorem range_last_two_of_range_eq_withCrc {message : Bytes} (hstart : start + 2 ≤ stop)
    (hstop : stop ≤ pdu.length) (h : pdu.range start stop = withCrc message) :
    pdu.range (stop - 2) stop = leBytes 2 (crc16 (pdu.range start (stop - 2))).toNat := by
  have hmessage := range_eq_of_range_eq_withCrc hstart hstop h
  have hsplit := range_append_last_two hstart hstop
  rw [h, hmessage, withCrc, List.append_cancel_left_eq] at hsplit
  rw [hsplit, hmessage]

/-- A region is intact if and only if it is a message with its check word. -/
theorem isIntact_iff (hstart : start + 2 ≤ stop) (hstop : stop ≤ pdu.length) :
    isIntact pdu start stop = true ↔ ∃ message, pdu.range start stop = withCrc message := by
  have hword : (pdu.range (stop - 2) stop).length = 2 := by
    rw [length_range]
    omega
  have hsplit := range_append_last_two hstart hstop
  rw [isIntact, Layout.crcWidth, beq_iff_eq]
  constructor
  · intro h
    have hbytes := leBytes_leValue (pdu.range (stop - 2) stop)
    rw [hword, ← h] at hbytes
    exact ⟨pdu.range start (stop - 2), by rw [← hsplit, ← hbytes, withCrc]⟩
  · rintro ⟨message, h⟩
    rw [range_last_two_of_range_eq_withCrc hstart hstop h, leValue_leBytes (crc16 _).toNat_lt]

/-- Whether a region is intact depends on no byte outside of it. -/
theorem isIntact_congr (hstart : start + 2 ≤ stop) (hp : stop ≤ p.length) (hq : stop ≤ q.length)
    (h : p.range start stop = q.range start stop) :
    isIntact p start stop = isIntact q start stop := by
  rw [Bool.eq_iff_iff, isIntact_iff hstart hp, isIntact_iff hstart hq, h]

/-- An intact region is not intact after damage. -/
theorem isIntact_eq_false_of_damage (hstart : start + 2 ≤ stop) (hp : stop ≤ p.length)
    (hq : stop ≤ q.length) (hmax : stop - start ≤ 255) (h : isIntact p start stop = true)
    (hdamage : Damage (p.range start stop) (q.range start stop)) :
    isIntact q start stop = false := by
  rw [← Bool.not_eq_true, isIntact_iff hstart hq]
  rintro ⟨b, hb⟩
  obtain ⟨a, ha⟩ := (isIntact_iff hstart hp).1 h
  have halen := congrArg List.length ha
  have hblen := congrArg List.length hb
  rw [length_range, length_withCrc] at halen hblen
  rw [ha, hb] at hdamage
  exact not_damage_withCrc (by omega) (by omega) hdamage

end Region

/-! ## Building and verifying -/

variable {l : Layout}

/-- A beacon is built for every usable layout. It has the length that the layout says, and each of
    its regions is what the fields leave there, with the check word. -/
theorem exists_build_eq_ok (h : l.Usable) (c : Content) :
    ∃ pdu, build l c = .ok pdu ∧ pdu.length = l.length.toNat ∧
      pdu.range 0 l.infoOffset.toNat = withCrc ((l.fields c).range 0 (l.infoOffset.toNat - 2)) ∧
      pdu.range l.infoOffset.toNat l.length.toNat =
        withCrc ((l.fields c).range l.infoOffset.toNat (l.length.toNat - 2)) := by
  have hlen := Layout.length_fields h c
  have htime := h.crcWidth_le_infoOffset
  have hinfo := h.infoOffset_add_crcWidth_le
  let info := l.infoOffset.toNat
  let length := l.length.toNat
  let timeCrc := leBytes 2 (crc16 ((l.fields c).range 0 (info - 2))).toNat
  let infoCrc := leBytes 2 (crc16 ((l.fields c).range info (length - 2))).toNat
  let first := (l.fields c).overwrite (info - 2) timeCrc
  have htimeCrc : timeCrc.length = 2 := length_leBytes ..
  have hinfoCrc : infoCrc.length = 2 := length_leBytes ..
  have hfirst : first.length = length := length_overwrite hlen (by omega)
  have hpdu : (first.overwrite (length - 2) infoCrc).length = length :=
    length_overwrite hfirst (by omega)
  refine ⟨first.overwrite (length - 2) infoCrc, ?_, hpdu, ?_, ?_⟩
  · rw [build, Layout.check_eq_ok_iff.2 h]
    rfl
  -- No write meets a message that a check word was computed from, and the second check word does
  -- not meet the first one.
  · rw [range_overwrite_of_disjoint (by omega) (by omega),
      ← range_append_last_two (by omega) (by omega),
      range_overwrite_of_disjoint (by omega) (by omega), range_overwrite (by omega) (by omega)]
    rfl
  · rw [← range_append_last_two (by omega) (by omega),
      range_overwrite_of_disjoint (by omega) (by omega), range_overwrite (by omega) (by omega),
      range_overwrite_of_disjoint (by omega) (by omega)]
    rfl

/-- A beacon of the length of a usable layout is told which of its regions are intact. -/
theorem verify_eq_ok (h : l.Usable) {pdu : Bytes} (hlen : pdu.length = l.length.toNat) :
    verify l pdu = .ok { timeOk := isIntact pdu 0 l.infoOffset.toNat,
                         infoOk := isIntact pdu l.infoOffset.toNat l.length.toNat } := by
  rw [verify, Layout.check_eq_ok_iff.2 h]
  exact if_neg (not_not.2 hlen)

/-- Both regions of a beacon are intact if and only if each is a message with its check word. -/
theorem verify_eq_intact_iff (h : l.Usable) {pdu : Bytes} (hlen : pdu.length = l.length.toNat) :
    verify l pdu = .ok { timeOk := true, infoOk := true } ↔
      (∃ time, pdu.range 0 l.infoOffset.toNat = withCrc time) ∧
      ∃ info, pdu.range l.infoOffset.toNat l.length.toNat = withCrc info := by
  have htime := h.crcWidth_le_infoOffset
  have hinfo := h.infoOffset_add_crcWidth_le
  rw [verify_eq_ok h hlen, Except.ok.injEq, Verdict.mk.injEq, isIntact_iff (by omega) (by omega),
    isIntact_iff (by omega) (by omega)]

/-- Two intact beacons that differ in their check words at most are the same: what stands in front
    of a check word determines it. -/
theorem eq_of_verify_of_agree (h : l.Usable) {p q : Bytes} (hp : p.length = l.length.toNat)
    (hq : q.length = l.length.toNat) (hpok : verify l p = .ok { timeOk := true, infoOk := true })
    (hqok : verify l q = .ok { timeOk := true, infoOk := true })
    (hagree : ∀ i, ¬(l.infoOffset.toNat - 2 ≤ i ∧ i < l.infoOffset.toNat) →
      ¬(l.length.toNat - 2 ≤ i ∧ i < l.length.toNat) → p[i]? = q[i]?) : p = q := by
  have htime := h.crcWidth_le_infoOffset
  have hinfo := h.infoOffset_add_crcWidth_le
  obtain ⟨⟨timeP, htimeP⟩, infoP, hinfoP⟩ := (verify_eq_intact_iff h hp).1 hpok
  obtain ⟨⟨timeQ, htimeQ⟩, infoQ, hinfoQ⟩ := (verify_eq_intact_iff h hq).1 hqok
  have htimeEq : timeP = timeQ := by
    rw [← range_eq_of_range_eq_withCrc (by omega) (by omega) htimeP,
      ← range_eq_of_range_eq_withCrc (by omega) (by omega) htimeQ]
    exact range_congr fun i _ hi => hagree i (by omega) (by omega)
  have hinfoEq : infoP = infoQ := by
    rw [← range_eq_of_range_eq_withCrc (by omega) (by omega) hinfoP,
      ← range_eq_of_range_eq_withCrc (by omega) (by omega) hinfoQ]
    exact range_congr fun i hi hi' => hagree i (by omega) (by omega)
  have hsplit (r : Bytes) (hr : r.length = l.length.toNat) :
      r.range 0 l.infoOffset.toNat ++ r.range l.infoOffset.toNat l.length.toNat = r := by
    rw [range_append_range _ (by omega) (by omega) (by omega), ← hr, range_zero_length]
  rw [← hsplit p hp, ← hsplit q hq, htimeP, htimeQ, hinfoP, hinfoQ, htimeEq, hinfoEq]

/-- Verification finds damage out. The verdict on each region depends on that region alone, and
    where a region of `p` is intact and that of `q` differs from it in an odd number of bits, in two
    bits, or in some bits within sixteen consecutive ones in front of the check word, that of `q` is
    not intact. -/
theorem verify_detects_damage (l : Layout) (p q : Bytes) (hl : l.check = .ok ())
    (hp : p.length = l.length.toNat) (hq : q.length = l.length.toNat) :
    let info := l.infoOffset.toNat
    let length := l.length.toNat
    ∃ v w, verify l p = .ok v ∧ verify l q = .ok w ∧
      (p.range 0 info = q.range 0 info → v.timeOk = w.timeOk) ∧
      (p.range info length = q.range info length → v.infoOk = w.infoOk) ∧
      (v.timeOk = true → Damage (p.range 0 info) (q.range 0 info) → w.timeOk = false) ∧
      (v.infoOk = true → Damage (p.range info length) (q.range info length) →
        w.infoOk = false) := by
  intro info length
  have husable := Layout.check_eq_ok_iff.1 hl
  have htime := husable.crcWidth_le_infoOffset
  have hinfo := husable.infoOffset_add_crcWidth_le
  have hmax := l.length.toNat_lt
  have hle : info ≤ length := by omega
  refine ⟨_, _, verify_eq_ok husable hp, verify_eq_ok husable hq, ?_, ?_, ?_, ?_⟩
  · exact isIntact_congr (by omega) (by omega) (by omega)
  · exact isIntact_congr (by omega) (by omega) (by omega)
  · exact isIntact_eq_false_of_damage (by omega) (by omega) (by omega) (by omega)
  · exact isIntact_eq_false_of_damage (by omega) (by omega) (by omega) (by omega)

/-- A beacon damaged in six bits of its time, all within sixteen, and in one bit of its description
    and one of the check word after it. -/
theorem verify_detects_damage_eu868 :
    let p : Bytes := [0, 0, 0x78, 0x56, 0x34, 0x12, 0xFA, 0xD0] ++
      [0x01, 0x10, 0x20, 0x30, 0x40, 0x50, 0x60, 0x0C, 0xF9]
    let q : Bytes := [0, 0, 0x78, 0x5F, 0xB5, 0x22, 0xFA, 0xD0] ++
      [0x01, 0x11, 0x20, 0x30, 0x40, 0x50, 0x60, 0x0D, 0xF9]
    Layout.eu868.check = .ok () ∧ p.length = 17 ∧ q.length = 17 ∧
      verify .eu868 p = .ok ⟨true, true⟩ ∧ Damage (p.range 0 8) (q.range 0 8) ∧
      Damage (p.range 8 17) (q.range 8 17) ∧ verify .eu868 q = .ok ⟨false, false⟩ := by
  intro p q
  have hp : verify .eu868 p = .ok ⟨true, true⟩ := by decide +kernel
  have hburst : Damage (p.range 0 8) (q.range 0 8) := by
    have hset : ∀ i < 64, (difference (p.range 0 8) (q.range 0 8)).bits[i]? = some true →
        28 ≤ i ∧ i < 28 + 16 ∧ i < 8 * ((p.range 0 8).length - 2) := by
      decide +kernel
    refine .burst 28 (by decide +kernel) fun i hi => ?_
    have hlt : i < (difference (p.range 0 8) (q.range 0 8)).bits.length :=
      (List.getElem?_eq_some_iff.1 hi).1
    exact hset i hlt hi
  have hpair : Damage (p.range 8 17) (q.range 8 17) := .pair (by decide +kernel)
  obtain ⟨v, ⟨timeOk, infoOk⟩, hv, hw, -, -, htime, hinfo⟩ :=
    verify_detects_damage .eu868 p q rfl rfl rfl
  obtain rfl : ⟨true, true⟩ = v := Except.ok.inj (hp.symm.trans hv)
  obtain rfl : timeOk = false := htime rfl hburst
  obtain rfl : infoOk = false := hinfo rfl hpair
  exact ⟨rfl, rfl, rfl, hp, hburst, hpair, hw⟩

/-- A beacon is built for exactly the usable layouts, and what is wrong with another layout is said
    in the same way by building and by verifying, whatever is verified. What was built is verified,
    and it is the only beacon with its fields that is: where another one differs in the check words
    alone, a region is not intact. A beacon of another length is refused for its length. -/
theorem build_agrees_with_verify (l : Layout) (c : Content) :
    match l.check with
    | .error fault =>
      build l c = .error (.layout fault) ∧ ∀ q, verify l q = .error (.layout fault)
    | .ok () =>
      let info := l.infoOffset.toNat
      let length := l.length.toNat
      ∃ pdu, build l c = .ok pdu ∧ verify l pdu = .ok { timeOk := true, infoOk := true } ∧
        (∀ q : Bytes, q.length = length →
          (∀ i, ¬(info - 2 ≤ i ∧ i < info) → ¬(length - 2 ≤ i ∧ i < length) → q[i]? = pdu[i]?) →
          (verify l q = .ok { timeOk := true, infoOk := true } ↔ q = pdu)) ∧
        ∀ q : Bytes, q.length ≠ length → verify l q = .error (.length length q.length) := by
  cases hcheck : l.check with
  | error fault =>
    refine ⟨?_, fun q => ?_⟩
    · rw [build, hcheck]
      rfl
    · rw [verify, hcheck]
      rfl
  | ok =>
    have husable := Layout.check_eq_ok_iff.1 hcheck
    obtain ⟨pdu, hbuild, hlen, htime, hinfo⟩ := exists_build_eq_ok husable c
    have hpdu := (verify_eq_intact_iff husable hlen).2 ⟨⟨_, htime⟩, _, hinfo⟩
    refine ⟨pdu, hbuild, hpdu, fun q hq hagree => ⟨fun h => ?_, fun h => h ▸ hpdu⟩, fun q hq => ?_⟩
    · exact eq_of_verify_of_agree husable hq hlen h hpdu hagree
    · rw [verify, hcheck]
      exact if_pos hq

/-- A European beacon, the same with other bytes in place of its first check word, and a buffer that
    is too short. -/
theorem build_agrees_with_verify_eu868 :
    ∃ pdu, build .eu868 ⟨1000, 1, 45.5, -73.6⟩ = .ok pdu ∧
      verify .eu868 pdu = .ok { timeOk := true, infoOk := true } ∧
      (verify .eu868 (pdu.overwrite 6 [0xAA, 0x55]) = .ok { timeOk := true, infoOk := true } ↔
        pdu.overwrite 6 [0xAA, 0x55] = pdu) ∧
      verify .eu868 [] = .error (.length 17 0) := by
  obtain ⟨pdu, hbuild, hpdu, hsame, hother⟩ :=
    build_agrees_with_verify .eu868 ⟨1000, 1, 45.5, -73.6⟩
  have hlen : pdu.length = 17 := by
    by_contra hne
    rw [hother pdu hne] at hpdu
    cases hpdu
  have hroom : 6 + ([0xAA, 0x55] : Bytes).length ≤ pdu.length := by
    rw [hlen]
    decide
  have hagree (i : Nat) (hi : ¬(6 ≤ i ∧ i < 8)) :
      (pdu.overwrite 6 [0xAA, 0x55])[i]? = pdu[i]? :=
    (getElem?_overwrite hroom i).trans (if_neg hi)
  exact ⟨pdu, hbuild, hpdu, hsame _ (length_overwrite hlen (by decide)) fun i hi _ => hagree i hi,
    hother [] (by decide)⟩

end LoraGateway.Beacon
