import LoraGateway.Proofs.Beacon

/-!
# Where the fields of a beacon stand

A layout is usable if and only if the places of its fields lie inside the beacon and follow each
other (`Layout.separated_iff_usable`). A beacon that is built for it has every field in its place
and is zero elsewhere, and its check words are those of its own bytes (`Layout.Announces`,
`exists_build_announces`). No more than this has to be known of how a beacon is built:

* `Layout.Announces.timeRegion_congr`, `Layout.Announces.infoRegion_congr`: each region is determined
  by the part of the content that it holds;
* `build_regions_independent`: hence what is changed in the one region leaves the other one alone.
-/

namespace LoraGateway.Beacon

open Bytes

/-! ## Places -/

namespace Layout

variable {l : Layout}

/-- The places of the fields, in their order: of the time, the first check word, the description
    with the position, and the second check word. Each starts at its first number and ends in front
    of its second one. -/
def places (l : Layout) : List (Int × Int) :=
  let time : Int := l.timeOffset.toNat
  let info : Int := l.infoOffset.toNat
  let length : Int := l.length.toNat
  [(time, time + 4), (info - 2, info), (info, info + 7), (length - 2, length)]

/-- The fields lie inside the beacon, and each ends before the next one starts. -/
structure Separated (l : Layout) : Prop where
  inside : ∀ p ∈ l.places, 0 ≤ p.1 ∧ p.2 ≤ l.length.toNat
  ordered : l.places.Pairwise fun p q => p.2 ≤ q.1

theorem separated_iff_usable : l.Separated ↔ l.Usable := by
  constructor
  · rintro ⟨hinside, hordered⟩
    simp only [places, List.forall_mem_cons] at hinside
    simp only [places, List.pairwise_cons, List.forall_mem_cons] at hordered
    constructor
    · simp only [timeWidth, crcWidth]
      omega
    · simp only [infoWidth, crcWidth]
      omega
  · intro h
    obtain ⟨htime, hinfo⟩ := h.room
    constructor
    · simp only [places, List.forall_mem_cons, List.not_mem_nil, false_implies, implies_true,
        and_true]
      omega
    · simp only [places, List.pairwise_cons, List.forall_mem_cons, List.not_mem_nil, false_implies,
        implies_true, List.Pairwise.nil, and_true]
      omega

/-- The fields are written next to each other, and what is in none of them is zero. -/
theorem fields_spec (h : l.Usable) (c : Content) :
    let time := l.timeOffset.toNat
    let info := l.infoOffset.toNat
    (l.fields c).range time (time + 4) = leBytes 4 c.epoch.toUInt64.toNat ∧
    (l.fields c).range info (info + 1) = [c.infoDesc] ∧
    (l.fields c).range (info + 1) (info + 4) =
      leBytes 3 (fixedPoint c.longitude 180.0).toNat ∧
    (l.fields c).range (info + 4) (info + 7) =
      leBytes 3 (fixedPoint c.latitude 90.0).toNat ∧
    ∀ i < l.length.toNat, ¬(time ≤ i ∧ i < time + 4) → ¬(info ≤ i ∧ i < info + 7) →
      (l.fields c)[i]? = some 0 := by
  intro time info
  obtain ⟨htime, hinfo⟩ := h.room
  have hepoch := length_leBytes 4 c.epoch.toUInt64.toNat
  have hdescription : [c.infoDesc].length = 1 := rfl
  have hlongitude := length_leBytes 3 (fixedPoint c.longitude 180.0).toNat
  have hlatitude := length_leBytes 3 (fixedPoint c.latitude 90.0).toNat
  have hzeros := l.length_zeros
  have htimed := length_timed h c
  have hdescribed := length_described h c
  have hlocated := length_located h c
  -- A field is read back behind the writes after it, none of which meets it.
  refine ⟨?_, ?_, ?_, ?_, fun i hi hnotTime hnotInfo => ?_⟩
  · rw [fields_eq, range_overwrite_of_disjoint (by omega) (by omega), located,
      range_overwrite_of_disjoint (by omega) (by omega), described,
      range_overwrite_of_disjoint (by omega) (by omega), timed,
      range_overwrite (by omega) (by omega)]
  · rw [fields_eq, range_overwrite_of_disjoint (by omega) (by omega), located,
      range_overwrite_of_disjoint (by omega) (by omega), described,
      range_overwrite (by omega) (by omega)]
  · rw [fields_eq, range_overwrite_of_disjoint (by omega) (by omega), located,
      range_overwrite (by omega) (by omega)]
  · rw [fields_eq, range_overwrite (by omega) (by omega)]
  · rw [fields_eq, getElem?_overwrite (by omega), if_neg (by omega), located,
      getElem?_overwrite (by omega), if_neg (by omega), described, getElem?_overwrite (by omega),
      if_neg (by omega), timed, getElem?_overwrite (by omega), if_neg (by omega), zeros,
      List.getElem?_replicate, if_pos hi]

/-- A beacon of the layout that announces the content: each field stands in its place, the check
    words are those of the bytes in front of them, and all other bytes are zero. -/
structure Announces (l : Layout) (c : Content) (pdu : Bytes) : Prop where
  length : pdu.length = l.length.toNat
  time : pdu.range l.timeOffset.toNat (l.timeOffset.toNat + 4) =
    leBytes 4 (c.epoch.toInt % 2 ^ 32).toNat
  infoDesc : pdu.range l.infoOffset.toNat (l.infoOffset.toNat + 1) = [c.infoDesc]
  longitude : pdu.range (l.infoOffset.toNat + 1) (l.infoOffset.toNat + 4) =
    leBytes 3 (fixedPoint c.longitude 180.0).toNat
  latitude : pdu.range (l.infoOffset.toNat + 4) (l.infoOffset.toNat + 7) =
    leBytes 3 (fixedPoint c.latitude 90.0).toNat
  timeCrc : pdu.range (l.infoOffset.toNat - 2) l.infoOffset.toNat =
    leBytes 2 (crc16 (pdu.range 0 (l.infoOffset.toNat - 2))).toNat
  infoCrc : pdu.range (l.length.toNat - 2) l.length.toNat =
    leBytes 2 (crc16 (pdu.range l.infoOffset.toNat (l.length.toNat - 2))).toNat
  rest : ∀ i < pdu.length, (∀ p ∈ l.places, ¬(p.1 ≤ (i : Int) ∧ (i : Int) < p.2)) →
    pdu[i]? = some 0

end Layout

/-! ## Built beacons -/

variable {l : Layout} {c c' : Content} {p q : Bytes}

/-- The low four bytes of a time are those of the time modulo `2 ^ 32`. -/
theorem leBytes_epoch (epoch : Int64) :
    leBytes 4 epoch.toUInt64.toNat = leBytes 4 (epoch.toInt % 2 ^ 32).toNat := by
  have hcond : epoch.toInt = if 2 * epoch.toUInt64.toNat < 2 ^ 64 then
      (epoch.toUInt64.toNat : Int) else epoch.toUInt64.toNat - (2 ^ 64 : Nat) :=
    BitVec.toInt_eq_toNat_cond _
  have hlow : (epoch.toInt % 2 ^ 32).toNat = epoch.toUInt64.toNat % size 4 := by
    have hsize : size 4 = 2 ^ 32 := rfl
    rw [hcond, hsize]
    split <;> omega
  rw [hlow, leBytes_mod]

/-- What is built for a usable layout announces the content. -/
theorem exists_build_announces (h : l.Usable) (c : Content) :
    ∃ pdu, build l c = .ok pdu ∧ l.Announces c pdu := by
  obtain ⟨pdu, hbuild, hlength, htimeRegion, hinfoRegion⟩ := exists_build_eq_ok h c
  obtain ⟨htime, hinfoDesc, hlongitude, hlatitude, hzero⟩ := Layout.fields_spec h c
  obtain ⟨htimeRoom, hinfoRoom⟩ := h.room
  have hfront : pdu.range 0 (l.infoOffset.toNat - 2) =
      (l.fields c).range 0 (l.infoOffset.toNat - 2) :=
    range_eq_of_range_eq_withCrc (by omega) (by omega) htimeRegion
  have hback : pdu.range l.infoOffset.toNat (l.length.toNat - 2) =
      (l.fields c).range l.infoOffset.toNat (l.length.toNat - 2) :=
    range_eq_of_range_eq_withCrc (by omega) (by omega) hinfoRegion
  -- Outside the check words, the beacon is what the fields leave.
  have hfields : ∀ i, i < l.infoOffset.toNat - 2 ∨
      l.infoOffset.toNat ≤ i ∧ i < l.length.toNat - 2 → pdu[i]? = (l.fields c)[i]? := by
    rintro i (hi | ⟨hi, hi'⟩)
    · exact getElem?_eq_of_range_eq hfront (Nat.zero_le i) hi
    · exact getElem?_eq_of_range_eq hback hi hi'
  refine ⟨pdu, hbuild, hlength, ?_, ?_, ?_, ?_, ?_, ?_, fun i hi hplaces => ?_⟩
  · rw [← leBytes_epoch, ← htime]
    exact range_congr fun i _ hi => hfields i (by omega)
  · rw [← hinfoDesc]
    exact range_congr fun i _ hi => hfields i (by omega)
  · rw [← hlongitude]
    exact range_congr fun i _ hi => hfields i (by omega)
  · rw [← hlatitude]
    exact range_congr fun i _ hi => hfields i (by omega)
  · exact range_last_two_of_range_eq_withCrc (by omega) (by omega) htimeRegion
  · exact range_last_two_of_range_eq_withCrc (by omega) (by omega) hinfoRegion
  · simp only [Layout.places, List.forall_mem_cons] at hplaces
    rw [hfields i (by omega), hzero i (by omega) (by omega) (by omega)]

namespace Layout.Announces

theorem getElem?_eq_zero (h : l.Usable) (hp : l.Announces c p) {i : Nat}
    (hi : i < l.length.toNat - 2)
    (htime : ¬(l.timeOffset.toNat ≤ i ∧ i < l.timeOffset.toNat + 4))
    (hcrc : ¬(l.infoOffset.toNat - 2 ≤ i ∧ i < l.infoOffset.toNat))
    (hinfo : ¬(l.infoOffset.toNat ≤ i ∧ i < l.infoOffset.toNat + 7)) : p[i]? = some 0 := by
  have hroom := h.room
  have hlength := hp.length
  refine hp.rest i (by omega) ?_
  simp only [places, List.forall_mem_cons, List.not_mem_nil, false_implies, implies_true, and_true]
  omega

/-- The region of the time is determined by the time that it announces. -/
theorem timeRegion_congr (h : l.Usable) (hp : l.Announces c p) (hq : l.Announces c' q)
    (hepoch : c.epoch.toInt % 2 ^ 32 = c'.epoch.toInt % 2 ^ 32) :
    p.range 0 l.infoOffset.toNat = q.range 0 l.infoOffset.toNat := by
  obtain ⟨htimeRoom, hinfoRoom⟩ := h.room
  have hplen := hp.length
  have hqlen := hq.length
  have htime : p.range l.timeOffset.toNat (l.timeOffset.toNat + 4) =
      q.range l.timeOffset.toNat (l.timeOffset.toNat + 4) := by
    rw [hp.time, hq.time, hepoch]
  have hmessage : p.range 0 (l.infoOffset.toNat - 2) = q.range 0 (l.infoOffset.toNat - 2) := by
    refine range_congr fun i _ hi => ?_
    by_cases hfield : l.timeOffset.toNat ≤ i ∧ i < l.timeOffset.toNat + 4
    · exact getElem?_eq_of_range_eq htime hfield.1 hfield.2
    · rw [hp.getElem?_eq_zero h (by omega) hfield (by omega) (by omega),
        hq.getElem?_eq_zero h (by omega) hfield (by omega) (by omega)]
  rw [← range_append_last_two (by omega) (by omega), hp.timeCrc, hmessage, ← hq.timeCrc,
    range_append_last_two (by omega) (by omega)]

/-- What the second check word is computed from starts with the description. -/
theorem infoMessage_eq_cons (h : l.Usable) (hp : l.Announces c p) :
    p.range l.infoOffset.toNat (l.length.toNat - 2) =
      c.infoDesc :: p.range (l.infoOffset.toNat + 1) (l.length.toNat - 2) := by
  obtain ⟨-, hinfoRoom⟩ := h.room
  have hplen := hp.length
  rw [← range_append_range (l.infoOffset.toNat + 1) (by omega) (by omega) (by omega), hp.infoDesc]
  rfl

/-- Behind the description, what the second check word is computed from is determined by the
    position. -/
theorem positionMessage_congr (h : l.Usable) (hp : l.Announces c p) (hq : l.Announces c' q)
    (hlatitude : c.latitude = c'.latitude) (hlongitude : c.longitude = c'.longitude) :
    p.range (l.infoOffset.toNat + 1) (l.length.toNat - 2) =
      q.range (l.infoOffset.toNat + 1) (l.length.toNat - 2) := by
  obtain ⟨htimeRoom, hinfoRoom⟩ := h.room
  have hplen := hp.length
  have hqlen := hq.length
  have hposition : p.range (l.infoOffset.toNat + 1) (l.infoOffset.toNat + 7) =
      q.range (l.infoOffset.toNat + 1) (l.infoOffset.toNat + 7) := by
    rw [← range_append_range (l.infoOffset.toNat + 4) (by omega) (by omega) (by omega),
      hp.longitude, hp.latitude, hlatitude, hlongitude, ← hq.longitude, ← hq.latitude,
      range_append_range (l.infoOffset.toNat + 4) (by omega) (by omega) (by omega)]
  refine range_congr fun i hi hi' => ?_
  by_cases hfield : i < l.infoOffset.toNat + 7
  · exact getElem?_eq_of_range_eq hposition hi hfield
  · rw [hp.getElem?_eq_zero h hi' (by omega) (by omega) (by omega),
      hq.getElem?_eq_zero h hi' (by omega) (by omega) (by omega)]

/-- The region of the description is determined by what it announces. -/
theorem infoRegion_congr (h : l.Usable) (hp : l.Announces c p) (hq : l.Announces c' q)
    (hinfoDesc : c.infoDesc = c'.infoDesc) (hlatitude : c.latitude = c'.latitude)
    (hlongitude : c.longitude = c'.longitude) :
    p.range l.infoOffset.toNat l.length.toNat = q.range l.infoOffset.toNat l.length.toNat := by
  obtain ⟨-, hinfoRoom⟩ := h.room
  have hplen := hp.length
  have hqlen := hq.length
  have hmessage : p.range l.infoOffset.toNat (l.length.toNat - 2) =
      q.range l.infoOffset.toNat (l.length.toNat - 2) := by
    rw [hp.infoMessage_eq_cons h, hq.infoMessage_eq_cons h, hinfoDesc,
      hp.positionMessage_congr h hq hlatitude hlongitude]
  rw [← range_append_last_two (by omega) (by omega), hp.infoCrc, hmessage, ← hq.infoCrc,
    range_append_last_two (by omega) (by omega)]

/-- Two descriptions of one position have different check words. -/
theorem infoCrc_ne (h : l.Usable) (hp : l.Announces c p) (hq : l.Announces c' q)
    (hinfoDesc : c.infoDesc ≠ c'.infoDesc) (hlatitude : c.latitude = c'.latitude)
    (hlongitude : c.longitude = c'.longitude) :
    p.range (l.length.toNat - 2) l.length.toNat ≠ q.range (l.length.toNat - 2) l.length.toNat := by
  rw [hp.infoCrc, hq.infoCrc, hp.infoMessage_eq_cons h, hq.infoMessage_eq_cons h,
    hp.positionMessage_congr h hq hlatitude hlongitude]
  intro hwords
  have hvalues := congrArg leValue hwords
  rw [leValue_leBytes (crc16 _).toNat_lt, leValue_leBytes (crc16 _).toNat_lt, UInt16.toNat_inj,
    Crc16.crc16_cons_inj] at hvalues
  exact hinfoDesc hvalues

end Layout.Announces

/-- The two regions of a beacon are independent. Another time changes nothing but the time and the
    check word behind it, and it changes nothing at all if it is the same modulo `2 ^ 32`; another
    description or position changes nothing in front of it; and another description alone always
    changes the second check word. -/
theorem build_regions_independent (l : Layout) (hl : l.check = .ok ()) (c c' : Content) :
    let time := l.timeOffset.toNat
    let info := l.infoOffset.toNat
    let length := l.length.toNat
    ∃ p q, build l c = .ok p ∧ build l c' = .ok q ∧
      (c.infoDesc = c'.infoDesc → c.latitude = c'.latitude → c.longitude = c'.longitude →
        (∀ i, ¬(time ≤ i ∧ i < time + 4) → ¬(info - 2 ≤ i ∧ i < info) → p[i]? = q[i]?) ∧
        (c.epoch.toInt % 2 ^ 32 = c'.epoch.toInt % 2 ^ 32 → p = q)) ∧
      (c.epoch.toInt % 2 ^ 32 = c'.epoch.toInt % 2 ^ 32 → ∀ i < info, p[i]? = q[i]?) ∧
      (c.infoDesc ≠ c'.infoDesc → c.latitude = c'.latitude → c.longitude = c'.longitude →
        p.range (length - 2) length ≠ q.range (length - 2) length) := by
  intro time info length
  have h := Layout.check_eq_ok_iff.1 hl
  obtain ⟨htimeRoom, hinfoRoom⟩ := h.room
  obtain ⟨p, hbuildP, hp⟩ := exists_build_announces h c
  obtain ⟨q, hbuildQ, hq⟩ := exists_build_announces h c'
  have hplen := hp.length
  have hqlen := hq.length
  refine ⟨p, q, hbuildP, hbuildQ, fun hinfoDesc hlatitude hlongitude => ?sameInfo,
    fun hepoch i hi => ?sameTime, hp.infoCrc_ne h hq⟩
  case sameInfo =>
    have hregion := hp.infoRegion_congr h hq hinfoDesc hlatitude hlongitude
    refine ⟨fun i hnotTime hnotCrc => ?_, fun hepoch => ?_⟩
    · rcases Nat.lt_or_ge i info with hfront | hback
      · rw [hp.getElem?_eq_zero h (by omega) hnotTime hnotCrc (by omega),
          hq.getElem?_eq_zero h (by omega) hnotTime hnotCrc (by omega)]
      · rcases Nat.lt_or_ge i length with hinside | houtside
        · exact getElem?_eq_of_range_eq hregion hback hinside
        · rw [List.getElem?_eq_none (by omega), List.getElem?_eq_none (by omega)]
    · rw [← range_zero_length p, ← range_zero_length q, hplen, hqlen,
        ← range_append_range info (by omega) (by omega) (by omega),
        hp.timeRegion_congr h hq hepoch, hregion,
        range_append_range info (by omega) (by omega) (by omega)]
  case sameTime =>
    exact getElem?_eq_of_range_eq (hp.timeRegion_congr h hq hepoch) (Nat.zero_le i) hi

/-- An American beacon, the same a whole number of turns of the sent time later, and the same with
    another description. -/
theorem build_regions_independent_us915 :
    Layout.us915.check = .ok () ∧
    ∃ p q r, build .us915 ⟨1000, 1, 45.5, -73.6⟩ = .ok p ∧
      build .us915 ⟨4294968296, 1, 45.5, -73.6⟩ = .ok q ∧
      build .us915 ⟨1000, 2, 45.5, -73.6⟩ = .ok r ∧
      p = q ∧ (∀ i < 11, p[i]? = r[i]?) ∧ p.range 21 23 ≠ r.range 21 23 := by
  obtain ⟨p, q, hp, hq, hsame, -, -⟩ :=
    build_regions_independent .us915 rfl ⟨1000, 1, 45.5, -73.6⟩ ⟨4294968296, 1, 45.5, -73.6⟩
  obtain ⟨p', r, hp', hr, -, hfront, hword⟩ :=
    build_regions_independent .us915 rfl ⟨1000, 1, 45.5, -73.6⟩ ⟨1000, 2, 45.5, -73.6⟩
  obtain rfl : p = p' := Except.ok.inj (hp.symm.trans hp')
  exact ⟨rfl, p, q, r, hp, hq, hr, (hsame rfl rfl rfl).2 (by decide), hfront rfl,
    hword (by decide) rfl rfl⟩

end LoraGateway.Beacon
