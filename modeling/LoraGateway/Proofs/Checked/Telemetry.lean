import LoraGateway.Frame.Telemetry
import LoraGateway.Proofs.Checked.Access

/-!
# Telemetry with checked access

The decoder of telemetry with every access checked, as a scan that goes from item to item and
collects records and status on its way (`Scan.run`). One step of it agrees with the reading of one
item (`agrees_step`), and so does the scan with the reading of all items (`agrees_run`): as long as
it goes on, its offset is inside the frame, and what it adds to the offset is the width of an item.
-/

namespace LoraGateway.Checked

/-- True if a frame is long enough for the header and carries both markers. -/
def isMarked? (frame : Bytes) : Option Bool :=
  if Telemetry.itemsOffset ≤ frame.length then do
    let first ← index? frame 0
    if first == 0x01 then do
      let second ← index? frame 9
      some (second == 0x41)
    else some false
  else some false

/-- The bytes of a record after its size byte. -/
def recordBody (frame : Bytes) (offset : Nat) (tag : Telemetry.Tag) : Run Malformed Bytes := do
  let sizeOffset ← access (add? offset 1)
  let size ← byte frame sizeOffset
  let bodyOffset ← access (add? offset 2)
  ofExcept ((bytesAt frame bodyOffset size.toNat).mapError fun _ =>
    .truncated tag.byte offset size.toNat frame.length)

/-- Reads the GNSS record with the given bytes. -/
def gnssRecord (body : Bytes) : Run Malformed Record := do
  if body.length < Telemetry.gnssHeader then
    throw (.recordSize Telemetry.Tag.gnss.byte body.length)
  let timestamp ← le32 body 0
  let status ← be32 body 4
  let fix ← access (slice? body Telemetry.gnssHeader body.length)
  pure (.gnss timestamp status fix)

/-- Reads the Wi-Fi record with the given bytes, as far as its stations are whole. -/
def wifiRecord (body : Bytes) : Run Malformed Record := do
  if body.length < Telemetry.wifiHeader then
    throw (.recordSize Telemetry.Tag.wifi.byte body.length)
  let beacons ← access (slice? body Telemetry.wifiHeader body.length)
  let whole ← access (mul? (beacons.length / Telemetry.beaconWidth) Telemetry.beaconWidth)
  let timestamp ← le32 body 0
  let beacons ← access (slice? beacons 0 whole)
  pure (.wifi timestamp beacons)

/-- How far the scan of a telemetry frame has come, and what it found. -/
structure Scan where
  offset : Nat := Telemetry.itemsOffset
  records : List Record := []
  status : DeviceStatus := {}

/-- The scan behind an item. -/
def Scan.after (s : Scan) (item : Telemetry.Item) : Scan where
  offset := s.offset + item.width
  records := s.records ++ item.record?.toList
  status := item.report s.status

/-- The scan behind a record that is read from its body. -/
def Scan.record (s : Scan) (frame : Bytes) (tag : Telemetry.Tag)
    (read : Bytes → Run Malformed Record) : Run Malformed Scan := do
  let body ← recordBody frame s.offset tag
  let record ← read body
  let width ← access (add? 2 body.length)
  let offset ← access (add? s.offset width)
  pure { s with offset, records := s.records ++ [record] }

/-- The scan behind a status value, of the given width with its tag. -/
def Scan.value {α : Type} (s : Scan) (frame : Bytes) (read : Bytes → Nat → Run Malformed α)
    (report : α → DeviceStatus) (width : Nat) : Run Malformed Scan := do
  let valueOffset ← access (add? s.offset 1)
  let v ← read frame valueOffset
  let offset ← access (add? s.offset width)
  pure { s with offset, status := report v }

/-- The scan behind the item whose tag stands at its offset. -/
def Scan.step (s : Scan) (frame : Bytes) : Telemetry.Tag → Run Malformed Scan
  | .gnss => s.record frame .gnss gnssRecord
  | .wifi => s.record frame .wifi wifiRecord
  | .battery => s.value frame be16 (fun v => { s.status with battery := some v }) 3
  | .energy => s.value frame be32 (fun v => { s.status with energy := some v }) 5
  | .chargeTime => s.value frame be32 (fun v => { s.status with chargeTime := some v }) 5
  | .flags => s.value frame byte (fun v => { s.status with flags := some v }) 2
  | .resets => s.value frame be24 (fun v => { s.status with resets := some v }) 4
  | .temperature => s.value frame signedByte (fun v => { s.status with temperature := some v }) 2

/-- The scan at the end of the frame or at a byte that is no tag. A step that does not go forward
    traps, so that the scan ends. -/
def Scan.run (s : Scan) (frame : Bytes) : Run Malformed Scan :=
  if _hinside : s.offset < frame.length then do
    let b ← access (index? frame s.offset)
    match Telemetry.Tag.ofByte? b with
    | none => pure s
    | some tag =>
      let next ← s.step frame tag
      if _hforward : s.offset < next.offset then
        next.run frame
      else
        access none
  else
    pure s
termination_by frame.length - s.offset
decreasing_by omega

/-- Reads a telemetry frame. The markers are not looked at. -/
def telemetry (frame : Bytes) : Run Malformed Telemetry := do
  let devEui ← Eui.mk <$> be64 frame 1
  let fcnt ← be32 frame 10
  let s ← ({} : Scan).run frame
  pure { devEui, fcnt, records := s.records, status := s.status, raw := frame }

theorem isMarked?_eq_some (frame : Bytes) : isMarked? frame = some (Telemetry.isMarked frame) := by
  rw [isMarked?, Telemetry.isMarked]
  by_cases hlength : Telemetry.itemsOffset ≤ frame.length
  · have hroom : 14 ≤ frame.length := hlength
    rw [if_pos hlength, decide_eq_true hlength, Bool.true_and, index?, index?,
      List.getElem?_eq_getElem (show 0 < frame.length by omega),
      List.getElem?_eq_getElem (show 9 < frame.length by omega)]
    simp only [Option.bind_eq_bind, Option.bind_some, Option.some_beq_some]
    cases frame[0] == 0x01 with
    | true => rfl
    | false => rfl
  · rw [if_neg hlength, decide_eq_false hlength, Bool.false_and, Bool.false_and]

section

variable {frame : Bytes} (hframe : frame.length < 2 ^ 63)

include hframe

theorem agrees_recordBody {offset : Nat} (hoffset : offset < frame.length) (tag : Telemetry.Tag) :
    Agrees (recordBody frame offset tag) (Telemetry.recordBody frame offset tag) := by
  have hword : frame.length < 2 ^ 64 := by omega
  rw [recordBody, Telemetry.recordBody]
  refine Agrees.behind (add?_eq_some (by omega)) ?_
  refine (agrees_byte hword (offset + 1)).bind fun size _ => ?_
  refine Agrees.behind (add?_eq_some (by omega)) ?_
  rw [bytesAt_eq_slice hword]
  exact agrees_ofExcept _

end

/-- The records that are read from bodies are those of the items. -/
def ReadsAs (read : Bytes → Run Malformed Record)
    (item : Bytes → Except Malformed Telemetry.Item) : Prop :=
  ∀ body : Bytes, body.length < 2 ^ 64 →
    (∃ e, Agrees (read body) (.error e) ∧ item body = .error e) ∨
    ∃ r i, Agrees (read body) (.ok r) ∧ item body = .ok i ∧ i.record? = some r ∧
      i.width = 2 + body.length ∧ ∀ s, i.report s = s

theorem readsAs_gnssRecord : ReadsAs gnssRecord Telemetry.gnssOfBody := by
  intro body hbody
  rw [gnssRecord, Telemetry.gnssOfBody]
  by_cases hlength : body.length < Telemetry.gnssHeader
  · left
    rw [if_pos hlength, if_pos hlength]
    exact ⟨_, agrees_throw _, rfl⟩
  · right
    have hroom : 8 ≤ body.length := Nat.le_of_not_lt hlength
    obtain ⟨timestamp, htimestamp⟩ := Wire.exists_le32_eq_ok body 0 (by omega)
    obtain ⟨status, hstatus⟩ := Wire.exists_be32_eq_ok body 4 (by omega)
    rw [if_neg hlength, if_neg hlength, htimestamp, hstatus]
    refine ⟨.gnss timestamp status (body.drop 8), .gnss timestamp status (body.drop 8), ?_, rfl,
      rfl, ?_, fun s => rfl⟩
    · refine (htimestamp ▸ agrees_le32 hbody 0).next ?_
      refine (hstatus ▸ agrees_be32 hbody 4).next ?_
      refine Agrees.behind (slice?_eq_some hroom (Nat.le_refl _)) ?_
      rw [Bytes.range, List.take_length]
      exact agrees_pure _
    · simp only [Telemetry.Item.width, Telemetry.gnssHeader, List.length_drop]
      omega

theorem readsAs_wifiRecord : ReadsAs wifiRecord Telemetry.wifiOfBody := by
  intro body hbody
  rw [wifiRecord, Telemetry.wifiOfBody]
  by_cases hlength : body.length < Telemetry.wifiHeader
  · left
    rw [if_pos hlength, if_pos hlength]
    exact ⟨_, agrees_throw _, rfl⟩
  · right
    have hroom : 4 ≤ body.length := Nat.le_of_not_lt hlength
    obtain ⟨timestamp, htimestamp⟩ := Wire.exists_le32_eq_ok body 0 (by omega)
    rw [if_neg hlength, if_neg hlength, htimestamp]
    have hbeacons : (body.drop 4).length / 8 * 8 ≤ (body.drop 4).length := Nat.div_mul_le_self ..
    refine ⟨.wifi timestamp ((body.drop 4).take ((body.drop 4).length / 8 * 8)),
      .wifi timestamp (body.drop 4), ?_, rfl, rfl, ?_, fun s => rfl⟩
    · refine Agrees.behind (slice?_eq_some hroom (Nat.le_refl _)) ?_
      rw [Bytes.range, List.take_length]
      have hwhole : (body.drop 4).length / 8 * 8 < 2 ^ 64 := by
        rw [List.length_drop] at hbeacons ⊢
        omega
      refine Agrees.behind (mul?_eq_some hwhole) ?_
      refine (htimestamp ▸ agrees_le32 hbody 0).next ?_
      refine Agrees.behind (slice?_eq_some (Nat.zero_le _) hbeacons) ?_
      exact agrees_pure _
    · simp only [Telemetry.Item.width, Telemetry.wifiHeader, List.length_drop]
      omega

section

variable {frame : Bytes} (hframe : frame.length < 2 ^ 63) {s : Scan}
  (hinside : s.offset < frame.length)

include hframe hinside

theorem agrees_record {tag : Telemetry.Tag} {read : Bytes → Run Malformed Record}
    {item : Bytes → Except Malformed Telemetry.Item} (h : ReadsAs read item) :
    Agrees (s.record frame tag read)
      ((Telemetry.recordBody frame s.offset tag >>= item).map s.after) := by
  have hchain : (Telemetry.recordBody frame s.offset tag >>= item).map s.after =
      Telemetry.recordBody frame s.offset tag >>= fun body => (item body).map s.after :=
    map_bind s.after (Telemetry.recordBody frame s.offset tag) item
  rw [hchain, Scan.record]
  refine (agrees_recordBody hframe hinside tag).bind fun body hbody => ?_
  -- The body stands in the frame, so that the offset behind it is still a word.
  have hlength : body.length ≤ frame.length := by
    obtain ⟨size, -, hslice⟩ := Result.bind_eq_ok_iff.1 hbody
    have hholds := (Wire.slice_eq_ok_iff.1 (Result.mapError_eq_ok_iff.1 hslice)).2
    exact Nat.le_trans (Nat.le_add_left ..) hholds.length_le
  rcases h body (by omega) with ⟨e, hread, hitem⟩ | ⟨r, i, hread, hitem, hrecord, hwidth, hstatus⟩
  · rw [hitem]
    exact hread.stop
  · rw [hitem]
    refine hread.next ?_
    refine Agrees.behind (add?_eq_some (by omega)) ?_
    refine Agrees.behind (add?_eq_some (by omega)) ?_
    have hafter : s.after i =
        { s with offset := s.offset + (2 + body.length), records := s.records ++ [r] } := by
      rw [Scan.after, hwidth, hrecord, hstatus]
      rfl
    rw [Except.map, hafter]
    exact agrees_pure _

theorem agrees_value {α : Type} {read : Bytes → Nat → Run Malformed α} {y : Except Malformed α}
    (hread : Agrees (read frame (s.offset + 1)) y) {item : α → Telemetry.Item}
    {report : α → DeviceStatus} {width : Nat} (hwidth : width ≤ 5)
    (hafter : ∀ v, s.after (item v) =
      { s with offset := s.offset + width, status := report v }) :
    Agrees (s.value frame read report width) ((y.map item).map s.after) := by
  have hchain : (y.map item).map s.after = y >>= fun v => .ok (s.after (item v)) :=
    (Functor.map_map item s.after y).trans (map_eq_pure_bind ..)
  rw [hchain, Scan.value]
  refine Agrees.behind (add?_eq_some (by omega)) (hread.bind fun v _ => ?_)
  refine Agrees.behind (add?_eq_some (by omega)) ?_
  rw [hafter]
  exact agrees_pure _

/-- What stands behind a tag is read without a trap, and the scan goes on behind it. -/
theorem agrees_step (tag : Telemetry.Tag) :
    Agrees (s.step frame tag) ((Telemetry.readItem frame s.offset tag).map s.after) := by
  have hword : frame.length < 2 ^ 64 := by omega
  have hafter {α : Type} {item : α → Telemetry.Item} {report : α → DeviceStatus} {width : Nat}
      (hwidth : ∀ v, (item v).width = width) (hrecord : ∀ v, (item v).record? = none)
      (hreport : ∀ v, (item v).report s.status = report v) (v : α) :
      s.after (item v) = { s with offset := s.offset + width, status := report v } := by
    rw [Scan.after, hwidth, hrecord, hreport, Option.toList_none, List.append_nil]
  cases tag with
  | gnss => exact agrees_record hframe hinside readsAs_gnssRecord
  | wifi => exact agrees_record hframe hinside readsAs_wifiRecord
  | battery =>
    exact agrees_value hframe hinside (agrees_be16 hword _) (by decide)
      (hafter (fun _ => rfl) (fun _ => rfl) fun _ => rfl)
  | energy =>
    exact agrees_value hframe hinside (agrees_be32 hword _) (by decide)
      (hafter (fun _ => rfl) (fun _ => rfl) fun _ => rfl)
  | chargeTime =>
    exact agrees_value hframe hinside (agrees_be32 hword _) (by decide)
      (hafter (fun _ => rfl) (fun _ => rfl) fun _ => rfl)
  | flags =>
    exact agrees_value hframe hinside (agrees_byte hword _) (by decide)
      (hafter (fun _ => rfl) (fun _ => rfl) fun _ => rfl)
  | resets =>
    exact agrees_value hframe hinside (agrees_be24 hword _) (by decide)
      (hafter (fun _ => rfl) (fun _ => rfl) fun _ => rfl)
  | temperature =>
    exact agrees_value hframe hinside (agrees_signedByte hword _) (by decide)
      (hafter (fun _ => rfl) (fun _ => rfl) fun _ => rfl)

end

/-- The scan of a frame does not trap, and ends behind the items of the frame. -/
theorem agrees_run {frame : Bytes} (hframe : frame.length < 2 ^ 63) (s : Scan) :
    Agrees (s.run frame)
      ((Telemetry.scan frame s.offset).map fun items => items.foldl Scan.after s) := by
  -- On what is left of the frame: an item is at least as wide as its tag and one byte more.
  induction hrest : frame.length - s.offset using Nat.strongRecOn generalizing s with
  | ind rest ih =>
    rw [Scan.run, Telemetry.scan]
    by_cases hinside : s.offset < frame.length
    · have hindex : index? frame s.offset = some frame[s.offset] :=
        List.getElem?_eq_getElem hinside
      rw [dif_pos hinside, dif_pos hinside]
      refine Agrees.behind hindex ?_
      cases Telemetry.Tag.ofByte? frame[s.offset] with
      | none => exact agrees_pure s
      | some tag =>
        have hchain : (do
              let item ← Telemetry.readItem frame s.offset tag
              let items ← Telemetry.scan frame (s.offset + item.width)
              pure (item :: items) : Except Malformed _).map
                (fun items => items.foldl Scan.after s) =
            (Telemetry.readItem frame s.offset tag).map s.after >>= fun next =>
              (Telemetry.scan frame next.offset).map fun items => items.foldl Scan.after next := by
          cases Telemetry.readItem frame s.offset tag with
          | error e => rfl
          | ok item =>
            have hnext : Telemetry.scan frame (s.after item).offset =
                Telemetry.scan frame (s.offset + item.width) := rfl
            simp only [Except.map, bind, Except.bind, hnext]
            cases Telemetry.scan frame (s.offset + item.width) <;> rfl
        refine Eq.trans ?_ (congrArg some hchain.symm)
        refine (agrees_step hframe hinside tag).bind fun next hnext => ?_
        obtain ⟨item, -, rfl⟩ := Result.map_eq_ok_iff.1 hnext
        have hforward : s.offset < (s.after item).offset :=
          Nat.lt_add_of_pos_right (Nat.lt_of_lt_of_le (by decide) item.two_le_width)
        rw [dif_pos hforward]
        exact ih _ (by omega) _ rfl
    · rw [dif_neg hinside, dif_neg hinside]
      exact agrees_pure s

theorem foldl_after (s : Scan) (items : List Telemetry.Item) :
    (items.foldl Scan.after s).records = s.records ++ items.filterMap Telemetry.Item.record? ∧
    (items.foldl Scan.after s).status = items.foldl Telemetry.Item.report s.status := by
  induction items generalizing s with
  | nil => exact ⟨(List.append_nil _).symm, rfl⟩
  | cons item items ih =>
    obtain ⟨hrecords, hstatus⟩ := ih (s.after item)
    rw [List.foldl_cons, List.foldl_cons, hrecords, hstatus]
    refine ⟨?_, rfl⟩
    rw [Scan.after, List.append_assoc, List.filterMap_cons]
    cases item.record? <;> rfl

theorem ofItems_eq (frame : Bytes) (devEui : Eui) (fcnt : UInt32) (items : List Telemetry.Item) :
    Telemetry.ofItems frame devEui fcnt items =
      ⟨devEui, fcnt, (items.foldl Scan.after {}).records, (items.foldl Scan.after {}).status,
        frame⟩ := by
  rw [(foldl_after {} items).1, (foldl_after {} items).2]
  rfl

theorem agrees_telemetry {frame : Bytes} (hframe : frame.length < 2 ^ 63) :
    Agrees (telemetry frame) (Telemetry.decode frame) := by
  have hword : frame.length < 2 ^ 64 := by omega
  rw [telemetry, Telemetry.decode]
  refine ((agrees_be64 hword 1).map Eui.mk).bind fun devEui _ => ?_
  refine (agrees_be32 hword 10).bind fun fcnt _ => ?_
  have hchain : (Telemetry.scan frame Telemetry.itemsOffset >>= fun items =>
        pure (Telemetry.ofItems frame devEui fcnt items)) =
      (Telemetry.scan frame ({} : Scan).offset).map (fun items => items.foldl Scan.after {}) >>=
        fun s => .ok ⟨devEui, fcnt, s.records, s.status, frame⟩ := by
    cases Telemetry.scan frame Telemetry.itemsOffset with
    | error e => rfl
    | ok items => exact congrArg Except.ok (ofItems_eq frame devEui fcnt items)
  refine Eq.trans ?_ (congrArg some hchain.symm)
  exact (agrees_run hframe {}).bind fun s _ => agrees_pure _

end LoraGateway.Checked
