import Loxbudget.Calibration.Limits
import Loxbudget.Invariant.Tables
import Loxbudget.Model.Report
import Loxbudget.Storage.Layout

/-!
# The export and its decoder

The export fills the caller's buffer from field to field, so it writes the concatenation
of a header and the packed records; the decoder of the host unpacks them in the order in
which they stand. The two describe the records apart from each other, by the offsets of
the writes and by a format string; `recordFields` is what they agree on.
-/

namespace Loxbudget

/-! ## Writing -/

/-- The fields of the record of an op. -/
def recordFields (op : OpId) (s : CalibState) : Bytes.Fields :=
  let sugg := s.computeSuggested
  [(1, op.toNat), (1, if s.active then 1 else 0), (2, 0), (2, sugg.ramP50.toNat),
    (2, sugg.ramP95.toNat), (2, sugg.ramP99.toNat), (2, sugg.ramMax.toNat),
    (4, sugg.durationP95Us.toNat), (4, sugg.durationP99Us.toNat), (4, sugg.durationMaxUs.toNat),
    (2, sugg.suggestedRamLimit.toNat), (2, sugg.outlierCount.toNat), (4, sugg.sampleCount.toNat),
    (4, sugg.suggestedTimeLimitUs.toNat), (4, s.targetSamples.toNat)]

/-- The format string of the decoder has the fields of the encoder. -/
theorem recordFields_format (op : OpId) (s : CalibState) :
    (recordFields op s).map Prod.fst = recordFormatV2.map FormatChar.size := rfl

theorem length_pack_recordFields (op : OpId) (s : CalibState) :
    (Bytes.pack (recordFields op s)).length = 40 := by
  rw [Bytes.length_pack, recordFields_format]
  decide

section Writes

variable {p bytes : List UInt8} {off next : Nat}

theorem byte_of_u16 (v : UInt16) (shift : UInt16) (small : shift.toNat < 16) :
    ((v >>> shift) &&& 0xFF).toUInt8 = UInt8.ofNat (v.toNat / 2 ^ shift.toNat) := by
  apply UInt8.toNat_inj.mp
  have masked : ∀ n, n &&& 255 = n % 256 := fun n => Nat.and_two_pow_sub_one_eq_mod n 8
  rw [UInt16.toNat_toUInt8, UInt16.toNat_and, UInt16.toNat_shiftRight, Nat.mod_eq_of_lt small,
    Nat.shiftRight_eq_div_pow, UInt8.toNat_ofNat']
  simp only [UInt16.reduceToNat, masked]
  omega

theorem byte_of_u32 (v : UInt32) (shift : UInt32) (small : shift.toNat < 32) :
    ((v >>> shift) &&& 0xFF).toUInt8 = UInt8.ofNat (v.toNat / 2 ^ shift.toNat) := by
  apply UInt8.toNat_inj.mp
  have masked : ∀ n, n &&& 255 = n % 256 := fun n => Nat.and_two_pow_sub_one_eq_mod n 8
  rw [UInt32.toNat_toUInt8, UInt32.toNat_and, UInt32.toNat_shiftRight, Nat.mod_eq_of_lt small,
    Nat.shiftRight_eq_div_pow, UInt8.toNat_ofNat']
  simp only [UInt32.reduceToNat, masked]
  omega

theorem littleEndian_u16 (v : UInt16) :
    [(v &&& 0xFF).toUInt8, ((v >>> 8) &&& 0xFF).toUInt8] = Bytes.littleEndian 2 v.toNat := by
  have low := byte_of_u16 v 0 (by decide)
  rw [UInt16.shiftRight_zero] at low
  rw [low, byte_of_u16 v 8 (by decide)]
  simp [Bytes.littleEndian]

theorem littleEndian_u32 (v : UInt32) :
    [(v &&& 0xFF).toUInt8, ((v >>> 8) &&& 0xFF).toUInt8, ((v >>> 16) &&& 0xFF).toUInt8,
      ((v >>> 24) &&& 0xFF).toUInt8] = Bytes.littleEndian 4 v.toNat := by
  have low := byte_of_u32 v 0 (by decide)
  rw [UInt32.shiftRight_zero] at low
  rw [low, byte_of_u32 v 8 (by decide), byte_of_u32 v 16 (by decide), byte_of_u32 v 24 (by decide)]
  simp [Bytes.littleEndian, Nat.div_div_eq_div_mul]

theorem writeU16Le_overwrite (v : UInt16) (meet : off + bytes.length = next)
    (fits : next + 2 ≤ p.length) :
    writeU16Le (Bytes.overwrite p off bytes) next v =
      Bytes.overwrite p off (bytes ++ Bytes.littleEndian 2 v.toNat) := by
  rw [writeU16Le, Bytes.set_overwrite meet (by omega),
    Bytes.set_overwrite (by simp; omega) (by omega), ← littleEndian_u16, List.append_assoc]
  rfl

theorem writeU32Le_overwrite (v : UInt32) (meet : off + bytes.length = next)
    (fits : next + 4 ≤ p.length) :
    writeU32Le (Bytes.overwrite p off bytes) next v =
      Bytes.overwrite p off (bytes ++ Bytes.littleEndian 4 v.toNat) := by
  rw [writeU32Le, Bytes.set_overwrite meet (by omega),
    Bytes.set_overwrite (by simp; omega) (by omega),
    Bytes.set_overwrite (by simp; omega) (by omega),
    Bytes.set_overwrite (by simp; omega) (by omega), ← littleEndian_u32]
  simp only [List.append_assoc, List.cons_append, List.nil_append]

/-- The record of an op is written as its packed fields. -/
theorem writeRecord_eq (op : OpId) (s : CalibState) (fits : off + 40 ≤ p.length) :
    writeRecord p off op s = Bytes.overwrite p off (Bytes.pack (recordFields op s)) := by
  have first : p.set off op = Bytes.overwrite p off [op] := Bytes.set_eq_overwrite (by omega)
  simp only [writeRecord, first]
  rw [Bytes.set_overwrite (by rfl) (by omega), writeU16Le_overwrite _ (by simp) (by omega),
    writeU16Le_overwrite _ (by simp) (by omega), writeU16Le_overwrite _ (by simp) (by omega),
    writeU16Le_overwrite _ (by simp) (by omega), writeU16Le_overwrite _ (by simp) (by omega),
    writeU32Le_overwrite _ (by simp) (by omega), writeU32Le_overwrite _ (by simp) (by omega),
    writeU32Le_overwrite _ (by simp) (by omega), writeU16Le_overwrite _ (by simp) (by omega),
    writeU16Le_overwrite _ (by simp) (by omega), writeU32Le_overwrite _ (by simp) (by omega),
    writeU32Le_overwrite _ (by simp) (by omega), writeU32Le_overwrite _ (by simp) (by omega)]
  have opByte : Bytes.littleEndian 1 op.toNat = [op] := by
    simp [Bytes.littleEndian]
  have flags : Bytes.littleEndian 1 (if s.active then 1 else 0) =
      [if s.active then 1 else 0] := by
    cases s.active with
    | false => rfl
    | true => rfl
  have reserved : Bytes.littleEndian 2 (0 : UInt16).toNat = Bytes.littleEndian 2 0 := rfl
  simp only [recordFields, Bytes.pack_cons, Bytes.pack_nil, opByte, flags, reserved,
    List.append_assoc, List.append_nil]

end Writes

namespace Device

variable (device : Device)

/-- The ops that have a record. -/
def recordedOps : List OpId :=
  device.opIds.filter fun op => (device.slots op).recorded

/-- The records of the export. -/
def records : Bytes.Fields :=
  device.recordedOps.flatMap fun op => recordFields op (device.slots op)

/-- The fields of the header. -/
def header : Bytes.Fields :=
  [(1, 2), (1, device.recordedOps.length), (2, 0)]

/-- What the export writes. -/
def exported : List UInt8 :=
  Bytes.pack (device.header ++ device.records)

theorem recordedOps_few : device.recordedOps.length < 256 := by
  have few := List.length_filter_le (fun op => (device.slots op).recorded) device.opIds
  have bound := device.budget.maxOps.toNat_lt
  have all : device.opIds.length = device.budget.maxOps.toNat := by
    rw [opIds, List.length_map, List.length_range]
  rw [recordedOps]
  omega

theorem opIds_sorted : device.opIds.Pairwise (· < ·) := by
  rw [opIds, List.pairwise_map]
  refine List.Pairwise.imp_of_mem ?_ List.pairwise_lt_range
  intro a b _ listed lt
  have bound := device.budget.maxOps.toNat_lt
  have inside := List.mem_range.mp listed
  rw [UInt8.lt_iff_toNat_lt, UInt8.toNat_ofNat', UInt8.toNat_ofNat']
  omega

theorem mem_opIds (op : OpId) : op ∈ device.opIds ↔ op < device.budget.maxOps := by
  rw [opIds, List.mem_map, UInt8.lt_iff_toNat_lt]
  constructor
  · rintro ⟨k, listed, rfl⟩
    have bound := device.budget.maxOps.toNat_lt
    have inside := List.mem_range.mp listed
    rw [UInt8.toNat_ofNat']
    omega
  · intro inside
    exact ⟨op.toNat, List.mem_range.mpr inside, UInt8.ofNat_toNat⟩

theorem recordedOps_sorted : device.recordedOps.Pairwise (· < ·) :=
  device.opIds_sorted.filter _

theorem mem_recordedOps (op : OpId) :
    op ∈ device.recordedOps ↔ op < device.budget.maxOps ∧
      ((device.slots op).sampleCount ≠ 0 ∨ (device.slots op).active = true) := by
  rw [recordedOps, List.mem_filter, mem_opIds, CalibState.recorded, decide_eq_true_iff]

theorem length_pack_records : (Bytes.pack device.records).length =
    device.recordedOps.length * 40 := by
  rw [records]
  induction device.recordedOps with
  | nil => rfl
  | cons op ops ih =>
      rw [List.flatMap_cons, Bytes.pack_append, List.length_append, ih,
        length_pack_recordFields, List.length_cons]
      omega

theorem length_exported : device.exported.length = 4 + device.recordedOps.length * 40 := by
  rw [exported, Bytes.pack_append, List.length_append, length_pack_records, Bytes.length_pack]
  rfl

/-- The counting loop counts the ops with a record. -/
theorem recCount_toNat : device.recCount.toNat = device.recordedOps.length := by
  have counts : ∀ (ops : List OpId) (n : UInt32), n.toNat + ops.length < 4294967296 →
      (ops.foldl (fun n op => if (device.slots op).recorded then n + 1 else n) n).toNat =
        n.toNat + (ops.filter fun op => (device.slots op).recorded).length := by
    intro ops
    induction ops with
    | nil => exact fun _ _ => rfl
    | cons op ops ih =>
        intro n few
        rw [List.length_cons] at few
        cases marked : (device.slots op).recorded with
        | false =>
            rw [List.foldl_cons, List.filter_cons_of_neg (by simp [marked]), marked]
            exact ih n (by omega)
        | true =>
            have next : (n + 1).toNat = n.toNat + 1 := by
              rw [UInt32.toNat_add]
              simp only [UInt32.reduceToNat]
              omega
            rw [List.foldl_cons, List.filter_cons_of_pos (by simp [marked]), marked, if_pos rfl,
              ih (n + 1) (by omega), next, List.length_cons]
            omega
  have bound := device.budget.maxOps.toNat_lt
  have all : device.opIds.length = device.budget.maxOps.toNat := by
    rw [opIds, List.length_map, List.length_range]
  have counted := counts device.opIds 0 (by simp only [UInt32.reduceToNat]; omega)
  rw [UInt32.toNat_zero, Nat.zero_add] at counted
  exact counted

/-- The writing loop appends the records. -/
theorem writeRecords_eq {p : List UInt8} (bytes : List UInt8)
    (fits : bytes.length + device.recordedOps.length * 40 ≤ p.length) :
    device.writeRecords (Bytes.overwrite p 0 bytes) bytes.length =
      (Bytes.overwrite p 0 (bytes ++ Bytes.pack device.records),
        bytes.length + device.recordedOps.length * 40) := by
  rw [writeRecords, records, recordedOps] at *
  generalize device.opIds = ops at fits ⊢
  induction ops generalizing bytes with
  | nil => simp
  | cons op ops ih =>
      cases marked : (device.slots op).recorded with
      | false =>
          rw [List.filter_cons_of_neg (by simp [marked])] at fits ⊢
          rw [List.foldl_cons, writeOp, if_pos marked]
          exact ih bytes fits
      | true =>
          rw [List.filter_cons_of_pos (by simp [marked]), List.length_cons] at fits ⊢
          have length : (bytes ++ Bytes.pack (recordFields op (device.slots op))).length =
              bytes.length + 40 := by
            rw [List.length_append, length_pack_recordFields]
          have long : bytes.length + 40 ≤ (Bytes.overwrite p 0 bytes).length := by
            rw [Bytes.length_overwrite (by omega)]
            omega
          have written := ih (bytes ++ Bytes.pack (recordFields op (device.slots op))) (by omega)
          rw [length, ← Bytes.overwrite_overwrite (Nat.zero_add _) (by omega),
            ← writeRecord_eq op _ long] at written
          rw [List.foldl_cons, writeOp, if_neg (by simp [marked]), written, List.flatMap_cons,
            Bytes.pack_append, List.append_assoc, Nat.add_mul, Nat.one_mul, Nat.add_assoc,
            Nat.add_comm 40]

variable {device}

theorem exportSize_eq (valid : device.budget.calibValidate = .ok) (placed : device.calibOff ≠ 0) :
    device.exportSize true = (.ok, some device.exported.length) := by
  rw [exportSize, if_neg (by decide), if_neg (not_not.mpr valid), if_neg placed, length_exported,
    recCount_toNat]

/-- The header and the records go to the beginning of the buffer. -/
theorem calibrationExport_eq (valid : device.budget.calibValidate = .ok)
    (placed : device.calibOff ≠ 0) {buffer : List UInt8}
    (long : device.exported.length ≤ buffer.length) :
    device.calibrationExport (some buffer) true =
      (.ok, some (device.exported ++ buffer.drop device.exported.length),
        some device.exported.length) := by
  have total := device.length_exported
  have few := device.recordedOps_few
  have head : (Bytes.pack device.header).length = 4 := rfl
  have start : (((buffer.set 0 2).set 1 device.recCount.toUInt8).set 2 0).set 3 0 =
      Bytes.overwrite buffer 0 (Bytes.pack device.header) := by
    have count : device.recCount.toUInt8 = UInt8.ofNat device.recordedOps.length := by
      rw [← recCount_toNat]
      apply UInt8.toNat_inj.mp
      rw [UInt32.toNat_toUInt8, UInt8.toNat_ofNat']
    have first : buffer.set 0 2 = Bytes.overwrite buffer 0 [2] :=
      Bytes.set_eq_overwrite (by omega)
    rw [first, Bytes.set_overwrite (by rfl) (by omega), Bytes.set_overwrite (by rfl) (by omega),
      Bytes.set_overwrite (by rfl) (by omega), count]
    rfl
  have all : Bytes.pack (device.header ++ device.records) = device.exported := rfl
  have written := device.writeRecords_eq (p := buffer) (Bytes.pack device.header) (by omega)
  rw [head, ← Bytes.pack_append, all, Bytes.overwrite_zero buffer device.exported,
    ← total] at written
  simp only [calibrationExport, if_neg (show ¬(true = false) by decide),
    if_neg (not_not.mpr valid), if_neg placed, exportSize_eq valid placed,
    if_neg (Nat.not_lt.mpr long), start, written]

/-- A buffer that is too small is left alone. -/
theorem calibrationExport_noSpace (valid : device.budget.calibValidate = .ok)
    (placed : device.calibOff ≠ 0) {buffer : List UInt8}
    (short : buffer.length < device.exported.length) :
    device.calibrationExport (some buffer) true = (.noSpace, some buffer, none) := by
  simp only [calibrationExport, if_neg (show ¬(true = false) by decide),
    if_neg (not_not.mpr valid), if_neg placed, exportSize_eq valid placed, if_pos short]

end Device

/-! ## Reading -/

/-- The record of an op as the host should see it. -/
def reportRecord (op : OpId) (s : CalibState) : RecordV2 :=
  let sugg := s.computeSuggested
  { opId := op.toNat
    active := s.active
    ramP50 := sugg.ramP50.toNat
    ramP95 := sugg.ramP95.toNat
    ramP99 := sugg.ramP99.toNat
    ramMax := sugg.ramMax.toNat
    durP95Us := sugg.durationP95Us.toNat
    durP99Us := sugg.durationP99Us.toNat
    durMaxUs := sugg.durationMaxUs.toNat
    suggestedRamLimit := sugg.suggestedRamLimit.toNat
    suggestedTimeLimitUs := sugg.suggestedTimeLimitUs.toNat
    outlierCount := sugg.outlierCount.toNat
    sampleCount := sugg.sampleCount.toNat
    targetSamples := s.targetSamples.toNat }

theorem u16_fits (v : UInt16) : v.toNat < 256 ^ 2 := v.toNat_lt

theorem u32_fits (v : UInt32) : v.toNat < 256 ^ 4 := v.toNat_lt

theorem recordFields_fits (op : OpId) (s : CalibState) : Bytes.Fits (recordFields op s) := by
  have opByte : op.toNat < 256 ^ 1 := op.toNat_lt
  have flags : (if s.active then 1 else 0) < 256 ^ 1 := by
    cases s.active with
    | false => decide
    | true => decide
  simp only [recordFields, Bytes.fits_cons, Bytes.fits_nil, u16_fits, u32_fits, opByte, flags,
    and_self, and_true]
  decide

theorem recordV2_recordFields (op : OpId) (s : CalibState) :
    recordV2 ((recordFields op s).map Prod.snd) = some (.v2 (reportRecord op s)) := by
  simp only [recordFields, List.map_cons, List.map_nil, recordV2, reportRecord]
  cases s.active with
  | false => rfl
  | true => rfl

/-- The loop of the decoder reads the records that stand one after the other. -/
theorem parseRecords_pack (slots : OpId → CalibState) (ops : List OpId) (before : List UInt8) :
    parseRecords 40 recordFormatV2 recordV2
        (before ++ Bytes.pack (ops.flatMap fun op => recordFields op (slots op)))
        ops.length before.length =
      .ok (ops.map fun op => .v2 (reportRecord op (slots op))) := by
  induction ops generalizing before with
  | nil => rfl
  | cons op ops ih =>
      have length := length_pack_recordFields op (slots op)
      have length' : (before ++ Bytes.pack (recordFields op (slots op))).length =
          before.length + 40 := by
        rw [List.length_append, length]
      have rest := ih (before ++ Bytes.pack (recordFields op (slots op)))
      rw [length', List.append_assoc] at rest
      rw [List.flatMap_cons, Bytes.pack_append, List.length_cons, parseRecords, if_neg,
        unpackFrom, List.drop_left' rfl, ← recordFields_format op (slots op),
        Bytes.unpack_pack (recordFields_fits op (slots op)), Option.bind_some,
        recordV2_recordFields]
      · simp only [rest]
        rfl
      · rw [List.length_append, List.length_append, length]
        omega

/-- The decoder makes of what the export writes the records of the device. -/
theorem parse_exported (device : Device) :
    parse device.exported =
      .ok (2, device.recordedOps.map fun op => .v2 (reportRecord op (device.slots op))) := by
  have few := device.recordedOps_few
  have long : ¬device.exported.length < 4 := by
    rw [device.length_exported]
    omega
  have fits : Bytes.Fits device.header := by
    have count : device.recordedOps.length < 256 ^ 1 := few
    simp only [Device.header, Bytes.fits_cons, Bytes.fits_nil, count, and_true, true_and]
    decide
  have header : unpackFrom headerFormat device.exported 0 =
      some [2, device.recordedOps.length, 0] := by
    have unpacked := Bytes.unpack_pack fits (Bytes.pack device.records)
    rw [← Bytes.pack_append] at unpacked
    exact unpacked
  have records := parseRecords_pack device.slots device.recordedOps (Bytes.pack device.header)
  have all : Bytes.pack device.header ++ Bytes.pack
      (device.recordedOps.flatMap fun op => recordFields op (device.slots op)) =
      device.exported := (Bytes.pack_append _ _).symm
  have off : (Bytes.pack device.header).length = 4 := rfl
  rw [all, off] at records
  rw [parse, if_neg long, header]
  simp only [if_neg (show ¬(2 = 1) by decide), if_true, records]
  rfl

/-! ## The layout -/

/-- An offset behind the header that is not above a limit. -/
def Placed (off : UInt32) (limit : Nat) : Prop :=
  0 < off.toNat ∧ off.toNat ≤ limit

/-- A table moves the next offset on by its size, and at most three bytes more. -/
theorem Placed.table {off bytes : UInt32} {limit size : Nat} (placed : Placed off limit)
    (small : bytes.toNat ≤ size) (fits : limit + size + 3 < 4294967296) :
    Placed (alignUp (off + bytes)) (limit + size + 3) := by
  rcases placed with ⟨behind, below⟩
  have sum : (off + bytes).toNat = off.toNat + bytes.toNat := by
    rw [UInt32.toNat_add]
    omega
  rw [Placed, alignUp_toNat (by omega), sum]
  omega

theorem table_le (count : UInt8) (entry : UInt32) :
    (count.toUInt32 * entry).toNat ≤ 255 * entry.toNat := by
  have few := count.toNat_lt
  rw [UInt32.toNat_mul, UInt8.toNat_toUInt32]
  exact (Nat.mod_le _ _).trans (Nat.mul_le_mul_right _ (by omega))

/-- The slots of a build with calibration do not lie at offset 0. -/
theorem Build.calibOff_ne_zero {B : Build} (enabled : B.enableCalibration = true) (cfg : Config) :
    B.calibOff cfg ≠ 0 := by
  have needs : (cfg.maxOps.toUInt32 * UInt32.ofNat B.maxNeedsPerOp * 4).toNat ≤
      255 * 255 * 4 := by
    have few := B.maxNeedsPerOp_lt
    have entry : (UInt32.ofNat B.maxNeedsPerOp).toNat ≤ 255 := by
      rw [UInt32.toNat_ofNat']
      omega
    have table := table_le cfg.maxOps (UInt32.ofNat B.maxNeedsPerOp)
    rw [UInt32.toNat_mul]
    simp only [UInt32.reduceToNat]
    omega
  have header : Placed (alignUp (0 + 32)) 32 := ⟨by decide, by decide⟩
  have audit := ((((header.table (table_le cfg.maxResources 12) (by decide)).table
    (table_le cfg.maxOps 8) (by decide)).table needs (by decide)).table
    (table_le cfg.maxConcurrentLeases 4) (by decide)).table (table_le cfg.auditSize 16) (by decide)
  have rates := audit.table (table_le cfg.maxResources 72) (by decide)
  have nonzero : ∀ {off : UInt32} {limit : Nat}, Placed off limit → off ≠ 0 := by
    rintro off limit ⟨behind, -⟩ rfl
    exact absurd behind (by decide)
  simp only [Build.calibOff, if_pos enabled]
  split
  · exact nonzero rates
  · exact nonzero audit

/-! ## Runs -/

namespace Device

variable {B : Build} {device : Device}

/-- The instance of a device is one of those that the core reaches. -/
theorem Reachable.budget (reachable : Device.Reachable B device) :
    Loxbudget.Reachable B device.budget := by
  rcases reachable with ⟨start, started, events, rfl⟩
  rcases started.cases with ⟨hal, previous, args, _, initialised, -, -⟩
  exact run_budget (.of_started ⟨hal, previous, args, initialised⟩) events

theorem Reachable.calibOff (reachable : Device.Reachable B device)
    (enabled : B.enableCalibration = true) : device.calibOff ≠ 0 := by
  rcases reachable with ⟨start, started, events, rfl⟩
  rcases started.cases with ⟨_, _, _, cfg, -, laid, -⟩
  rw [run_calibOff, laid]
  exact Build.calibOff_ne_zero enabled cfg

end Device

/-- In every reachable state of a build with calibration: a buffer of at least the size that
`loxbudget_calibration_export_size` reports gets exactly so many bytes, which the host decodes to
one record for each op with samples or an active session, in increasing order and with the values
of the device; a smaller buffer is left alone. -/
theorem export_decodes {B : Build} {device : Device} (reachable : Device.Reachable B device)
    (enabled : B.enableCalibration = true) (buffer : List UInt8) :
    ∃ need, device.exportSize true = (.ok, some need) ∧
      (need ≤ buffer.length → ∃ (written : List UInt8) (ops : List OpId),
        device.calibrationExport (some buffer) true = (.ok, some written, some need) ∧
          written.length = buffer.length ∧ written.drop need = buffer.drop need ∧
          parse (written.take need) =
            .ok (2, ops.map fun op => .v2 (reportRecord op (device.slots op))) ∧
          ops.Pairwise (· < ·) ∧
          ∀ op, op ∈ ops ↔ op < device.budget.maxOps ∧
            ((device.slots op).sampleCount ≠ 0 ∨ (device.slots op).active = true)) ∧
      (buffer.length < need →
        device.calibrationExport (some buffer) true = (.noSpace, some buffer, none)) := by
  have placed := reachable.calibOff enabled
  have valid : device.budget.calibValidate = .ok := by
    rw [Budget.calibValidate, reachable.budget.wellFormed.initialized]
    rfl
  refine ⟨device.exported.length, Device.exportSize_eq valid placed, ?_,
    Device.calibrationExport_noSpace valid placed⟩
  intro long
  refine ⟨_, device.recordedOps, Device.calibrationExport_eq valid placed long, ?_, ?_, ?_,
    device.recordedOps_sorted, fun op => device.mem_recordedOps op⟩
  · rw [List.length_append, List.length_drop]
    omega
  · exact List.drop_left' rfl
  · rw [List.take_left' rfl]
    exact parse_exported device

/-- A device with a session that has no samples yet. -/
def Device.sampling : Device :=
  (deviceMachine Build.full).run .sample
    [.core (.permissive (.registerOp (some (.permissive 0)))), .calibrateBegin 0 1]

theorem export_decodes_sampling :
    ∃ (written : List UInt8) (ops : List OpId),
      Device.sampling.calibrationExport (some (List.replicate 64 0)) true =
          (.ok, some written, some 44) ∧
        parse (written.take 44) =
          .ok (2, ops.map fun op => .v2 (reportRecord op (Device.sampling.slots op))) := by
  have size : Device.sampling.exportSize true = (.ok, some 44) := by decide +kernel
  have reachable : Device.Reachable Build.full .sampling :=
    ⟨.sample, Device.started_sample, _, rfl⟩
  rcases export_decodes reachable rfl (List.replicate 64 0) with ⟨need, size', enough, -⟩
  rw [size] at size'
  cases size'
  rcases enough (by decide) with ⟨written, ops, exported, -, -, parsed, -⟩
  exact ⟨written, ops, exported, parsed⟩

end Loxbudget
