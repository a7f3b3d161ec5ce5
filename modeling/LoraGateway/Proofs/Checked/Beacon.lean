import LoraGateway.Proofs.BeaconFields
import LoraGateway.Proofs.Checked.Access

/-!
# Beacons with checked access

The check of a layout and the building of a beacon with every index, slice, sum and difference
checked. A guard of the check takes a difference that the guards before it have left room for, so
that no layout traps (`agrees_checkLayout`). Behind the check, every field lies inside the beacon,
and what is written into it is as long as its place (`agrees_build`).

* `Beacon.build_places_fields`: no access of a build is outside of its bounds, what is built has its
  fields in their places and nothing else, and a layout that has no such places is refused.
-/

namespace LoraGateway.Checked

open Beacon Bytes

/-! ## The check of a layout -/

/-- True if a field of a width at an offset does not end in front of the check word whose end is
    given. -/
def meetsCrc? (offset width stop : Nat) : Option Bool := do
  let fieldEnd ← add? offset width
  let crc ← sub? stop Layout.crcWidth
  some (decide (crc < fieldEnd))

/-- Asks whether a layout is usable. -/
def checkLayout (l : Layout) : Run LayoutFault Unit := do
  let time := l.timeOffset.toNat
  let info := l.infoOffset.toNat
  let length := l.length.toNat
  if info < Layout.crcWidth then
    throw (.noRoomForFirstCrc info)
  let tooShort ← access (if length < Layout.crcWidth then some true
    else meetsCrc? info Layout.infoWidth length)
  if tooShort then
    throw (.infoDoesNotFit info length)
  let overlaps ← access (meetsCrc? time Layout.timeWidth info)
  if overlaps then
    -- The wording of this fault names the place of the first check word.
    let _ ← access (sub? info Layout.crcWidth)
    throw (.timeOverlapsCrc time info)

theorem meetsCrc?_eq_some {offset width stop : Nat} (hword : offset + width < 2 ^ 64)
    (hstop : Layout.crcWidth ≤ stop) : meetsCrc? offset width stop =
      some (decide (stop < offset + width + Layout.crcWidth)) := by
  have hiff : stop - Layout.crcWidth < offset + width ↔
      stop < offset + width + Layout.crcWidth := by
    omega
  simp only [meetsCrc?, add?_eq_some hword, sub?_eq_some hstop, Option.bind_eq_bind,
    Option.bind_some, hiff]

theorem agrees_checkLayout (l : Layout) : Agrees (checkLayout l) l.check := by
  have htime := l.timeOffset.toNat_lt
  have hinfo := l.infoOffset.toNat_lt
  rw [checkLayout, Layout.check]
  by_cases hfirst : l.infoOffset.toNat < Layout.crcWidth
  · rw [if_pos hfirst, if_pos hfirst]
    rfl
  · rw [if_neg hfirst, if_neg hfirst]
    have hshort : (if l.length.toNat < Layout.crcWidth then some true
        else meetsCrc? l.infoOffset.toNat Layout.infoWidth l.length.toNat) =
        some (decide (l.length.toNat < l.infoOffset.toNat + Layout.infoWidth + Layout.crcWidth)) := by
      split
      case isTrue hlength => simp; omega
      case isFalse hlength =>
        exact meetsCrc?_eq_some (by simp only [Layout.infoWidth]; omega) (Nat.le_of_not_lt hlength)
    refine Agrees.behind hshort ?_
    by_cases hroom : l.length.toNat < l.infoOffset.toNat + Layout.infoWidth + Layout.crcWidth
    · rw [decide_eq_true hroom, if_pos rfl, if_pos hroom]
      rfl
    · rw [decide_eq_false hroom, if_neg Bool.false_ne_true, if_neg hroom]
      refine Agrees.behind (meetsCrc?_eq_some (by simp only [Layout.timeWidth]; omega)
        (Nat.le_of_not_lt hfirst)) ?_
      by_cases hoverlap : l.infoOffset.toNat <
          l.timeOffset.toNat + Layout.timeWidth + Layout.crcWidth
      · rw [decide_eq_true hoverlap, if_pos rfl, if_pos hoverlap]
        exact Agrees.behind (sub?_eq_some (Nat.le_of_not_lt hfirst)) rfl
      · rw [decide_eq_false hoverlap, if_neg Bool.false_ne_true, if_neg hoverlap]
        rfl

/-! ## Building -/

/-- Writes a field into the bytes from `start` up to `stop`, which must be as many. -/
def write? (bs : Bytes) (start stop : Nat) (field : Bytes) : Option Bytes := do
  let place ← slice? bs start stop
  let field ← copy? place.length field
  some (bs.overwrite start field)

/-- Writes a field into the bytes between two offsets from a base. -/
def writeFrom? (bs : Bytes) (base first last : Nat) (field : Bytes) : Option Bytes := do
  let start ← add? base first
  let stop ← add? base last
  write? bs start stop field

/-- Writes a byte at an index. -/
def set? (bs : Bytes) (i : Nat) (b : UInt8) : Option Bytes := do
  let _ ← index? bs i
  some (bs.overwrite i [b])

/-- A beacon whose check words are still zero. Of a fixed-point angle, the three lowest of its four
    bytes are written. -/
def fields? (l : Layout) (c : Content) : Option Bytes := do
  let time := l.timeOffset.toNat
  let info := l.infoOffset.toNat
  let pdu : Bytes := List.replicate l.length.toNat 0
  let pdu ← writeFrom? pdu time 0 4 (leBytes 4 c.epoch.toUInt64.toNat)
  let pdu ← set? pdu info c.infoDesc
  let longitude ← slice? (leBytes 4 (fixedPoint c.longitude 180.0).toNat) 0 3
  let latitude ← slice? (leBytes 4 (fixedPoint c.latitude 90.0).toNat) 0 3
  let pdu ← writeFrom? pdu info 1 4 longitude
  writeFrom? pdu info 4 7 latitude

/-- Writes both check words. -/
def closed? (l : Layout) (pdu : Bytes) : Option Bytes := do
  let info := l.infoOffset.toNat
  let timeWord ← sub? info Layout.crcWidth
  let timeMessage ← slice? pdu 0 timeWord
  let infoWord ← sub? l.length.toNat Layout.crcWidth
  let infoMessage ← slice? pdu info infoWord
  let pdu' ← write? pdu timeWord info (leBytes 2 (crc16 timeMessage).toNat)
  write? pdu' infoWord pdu'.length (leBytes 2 (crc16 infoMessage).toNat)

/-- Builds a beacon. -/
def build? (l : Layout) (c : Content) : Run Beacon.Error Bytes := do
  (checkLayout l).adapt .layout
  let pdu ← access (fields? l c)
  access (closed? l pdu)

section

variable {bs field : Bytes} {start stop : Nat}

theorem write?_eq_some (hstop : stop ≤ bs.length) (hwidth : start + field.length = stop) :
    write? bs start stop field = some (bs.overwrite start field) := by
  have hplace : field.length = (bs.range start stop).length := by
    rw [length_range]
    omega
  rw [write?, slice?_eq_some (by omega) hstop, Option.bind_eq_bind, Option.bind_some,
    copy?_eq_some hplace]
  rfl

theorem writeFrom?_eq_some {base first last : Nat} (hword : bs.length < 2 ^ 64)
    (hstop : base + last ≤ bs.length) (hwidth : first + field.length = last) :
    writeFrom? bs base first last field = some (bs.overwrite (base + first) field) := by
  rw [writeFrom?, add?_eq_some (by omega), add?_eq_some (by omega)]
  exact write?_eq_some hstop (by omega)

theorem set?_eq_some {i : Nat} (h : i < bs.length) (b : UInt8) :
    set? bs i b = some (bs.overwrite i [b]) := by
  rw [set?, index?, List.getElem?_eq_getElem h]
  rfl

end

/-- The three lowest bytes of four are what is written in a width of three. -/
theorem slice?_leBytes_low (n : Nat) : slice? (leBytes 4 n) 0 3 = some (leBytes 3 n) :=
  rfl

variable {l : Layout}

theorem fields?_eq_some (h : l.Usable) (c : Content) : fields? l c = some (l.fields c) := by
  obtain ⟨htime, hinfo⟩ := h.room
  have hmax := l.length.toNat_lt
  have hzeros := l.length_zeros
  have htimed := Layout.length_timed h c
  have hdescribed := Layout.length_described h c
  have hlocated := Layout.length_located h c
  have hwriteTime : writeFrom? l.zeros l.timeOffset.toNat 0 4
      (leBytes 4 c.epoch.toUInt64.toNat) = some (l.timed c) :=
    writeFrom?_eq_some (by omega) (by omega) (by rw [length_leBytes])
  have hwriteInfoDesc : set? (l.timed c) l.infoOffset.toNat c.infoDesc = some (l.described c) :=
    set?_eq_some (by omega) c.infoDesc
  have hwriteLongitude : writeFrom? (l.described c) l.infoOffset.toNat 1 4
      (leBytes 3 (fixedPoint c.longitude 180.0).toNat) = some (l.located c) :=
    writeFrom?_eq_some (by omega) (by omega) (by rw [length_leBytes])
  have hwriteLatitude : writeFrom? (l.located c) l.infoOffset.toNat 4 7
      (leBytes 3 (fixedPoint c.latitude 90.0).toNat) = some (l.fields c) :=
    writeFrom?_eq_some (by omega) (by omega) (by rw [length_leBytes])
  simp only [fields?, slice?_leBytes_low, Option.bind_eq_bind, Option.bind_some]
  rw [← Layout.zeros, hwriteTime, Option.bind_some, hwriteInfoDesc, Option.bind_some,
    hwriteLongitude, Option.bind_some, hwriteLatitude]

theorem closed?_eq_some (h : l.Usable) {pdu : Bytes} (hlength : pdu.length = l.length.toNat) :
    let timeWord := l.infoOffset.toNat - Layout.crcWidth
    let infoWord := l.length.toNat - Layout.crcWidth
    let timeCrc := crc16 (pdu.range 0 timeWord)
    let infoCrc := crc16 (pdu.range l.infoOffset.toNat infoWord)
    closed? l pdu = some ((pdu.overwrite timeWord (leBytes Layout.crcWidth timeCrc.toNat)).overwrite
      infoWord (leBytes Layout.crcWidth infoCrc.toNat)) := by
  intro timeWord infoWord timeCrc infoCrc
  obtain ⟨htime, hinfo⟩ := h.room
  have hcrcWidth : Layout.crcWidth = 2 := rfl
  have htimeCrc := length_leBytes 2 timeCrc.toNat
  have hinfoCrc := length_leBytes 2 infoCrc.toNat
  let first := pdu.overwrite timeWord (leBytes 2 timeCrc.toNat)
  have hfirst : first.length = l.length.toNat := length_overwrite hlength (by omega)
  have htimeWord : sub? l.infoOffset.toNat Layout.crcWidth = some timeWord :=
    sub?_eq_some (by omega)
  have htimeMessage : slice? pdu 0 timeWord = some (pdu.range 0 timeWord) :=
    slice?_eq_some (Nat.zero_le _) (by omega)
  have hinfoWord : sub? l.length.toNat Layout.crcWidth = some infoWord :=
    sub?_eq_some (by omega)
  have hinfoMessage : slice? pdu l.infoOffset.toNat infoWord =
      some (pdu.range l.infoOffset.toNat infoWord) :=
    slice?_eq_some (by omega) (by omega)
  have hwriteTime : write? pdu timeWord l.infoOffset.toNat (leBytes 2 timeCrc.toNat) = some first :=
    write?_eq_some (by omega) (by omega)
  have hwriteInfo : write? first infoWord first.length (leBytes 2 infoCrc.toNat) =
      some (first.overwrite infoWord (leBytes 2 infoCrc.toNat)) :=
    write?_eq_some (Nat.le_refl _) (by omega)
  simp only [closed?, Option.bind_eq_bind, htimeWord, htimeMessage, hinfoWord, hinfoMessage,
    Option.bind_some]
  rw [hwriteTime, Option.bind_some, hwriteInfo]
  rfl

theorem agrees_build (l : Layout) (c : Content) : Agrees (build? l c) (build l c) := by
  rw [build?, build]
  refine ((agrees_checkLayout l).mapError Beacon.Error.layout).bind fun _ hcheck => ?_
  have husable := Layout.check_eq_ok_iff.1 (Result.mapError_eq_ok_iff.1 hcheck)
  exact Agrees.behind (fields?_eq_some husable c)
    (agrees_access (closed?_eq_some husable (Layout.length_fields husable c)))

end LoraGateway.Checked

namespace LoraGateway.Beacon

/-- No access of a build is outside of its bounds, and what is built for a usable layout has each
    field in its place, the check words of its own bytes behind them, and zeros elsewhere. A layout
    is refused if and only if its places are not inside the beacon, apart, and in order. -/
theorem build_places_fields (l : Layout) :
    (∀ c, Checked.Agrees (Checked.build? l c) (build l c)) ∧
    (l.check = .ok () → ∀ c, ∃ pdu, build l c = .ok pdu ∧ l.Announces c pdu) ∧
    ((∃ fault, l.check = .error fault) ↔ ¬l.Separated) := by
  refine ⟨Checked.agrees_build l, fun hl c => ?_, ?_⟩
  · exact exists_build_announces (Layout.check_eq_ok_iff.1 hl) c
  · rw [Layout.separated_iff_usable, ← Layout.check_eq_ok_iff]
    cases l.check with
    | ok => simp
    | error fault => simp

/-- The tightest layout that is usable, a time before 1970, and a layout that leaves one byte too
    few in front of the second check word. -/
theorem build_places_fields_tight :
    let c : Content := ⟨-1, 0x7F, 45.0, -1.0⟩
    (⟨0, 6, 15⟩ : Layout).check = .ok () ∧
    (∃ pdu, Checked.Agrees (Checked.build? ⟨0, 6, 15⟩ c) (.ok pdu) ∧ pdu.length = 15 ∧
      pdu.range 0 4 = [0xFF, 0xFF, 0xFF, 0xFF] ∧ pdu.range 6 7 = [0x7F] ∧
      pdu.range 4 6 = Bytes.leBytes 2 (crc16 [0xFF, 0xFF, 0xFF, 0xFF]).toNat) ∧
    ∃ fault, (⟨0, 6, 14⟩ : Layout).check = .error fault := by
  intro c
  obtain ⟨hagrees, hbuild, -⟩ := build_places_fields ⟨0, 6, 15⟩
  obtain ⟨pdu, hpdu, hannounces⟩ := hbuild rfl c
  have hepoch : Bytes.leBytes 4 (c.epoch.toInt % 2 ^ 32).toNat = [0xFF, 0xFF, 0xFF, 0xFF] := by
    decide +kernel
  have htime : pdu.range 0 4 = [0xFF, 0xFF, 0xFF, 0xFF] := hannounces.time.trans hepoch
  have hcrc : pdu.range 4 6 = Bytes.leBytes 2 (crc16 (pdu.range 0 4)).toNat := hannounces.timeCrc
  refine ⟨rfl, ⟨pdu, hpdu ▸ hagrees c, hannounces.length, htime, hannounces.infoDesc, ?_⟩,
    (build_places_fields ⟨0, 6, 14⟩).2.2.2 fun h => ?_⟩
  · rw [hcrc, htime]
  · have hordered := h.ordered
    simp [Layout.places] at hordered

end LoraGateway.Beacon
