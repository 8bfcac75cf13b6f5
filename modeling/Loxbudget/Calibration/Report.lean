import Loxbudget.Calibration.Export

/-!
# Reports

What the host tool makes of any list of bytes, and what it says about a device. The decoder is
compared with a table of offsets: it refuses what is too short or of another version, and otherwise
reads the numbers that the table names. A report of a device tells for each op its last session,
how far this has come, and which rule the device has taken its limits from.
-/

namespace Loxbudget

/-! ## Layouts -/

/-- The number in a field, by its offset and width. -/
def number (bytes : List UInt8) (off width : Nat) : Nat :=
  Bytes.ofLittleEndian ((bytes.drop off).take width)

/-- A record of version 1; its last two bytes are not used. -/
def readV1 (bytes : List UInt8) : ReportRecord :=
  .v1
    { opId := number bytes 0 1
      ramP50 := number bytes 2 2
      ramP95 := number bytes 4 2
      ramP99 := number bytes 6 2
      ramMax := number bytes 8 2
      durP95Us := number bytes 10 4
      durP99Us := number bytes 14 4
      durMaxUs := number bytes 18 4
      suggestedRamLimit := number bytes 22 2
      outlierCount := number bytes 24 2
      sampleCount := number bytes 26 4 }

/-- A record of version 2; bytes 2 and 3 are reserved. -/
def readV2 (bytes : List UInt8) : ReportRecord :=
  .v2
    { opId := number bytes 0 1
      active := number bytes 1 1 &&& 1 != 0
      ramP50 := number bytes 4 2
      ramP95 := number bytes 6 2
      ramP99 := number bytes 8 2
      ramMax := number bytes 10 2
      durP95Us := number bytes 12 4
      durP99Us := number bytes 16 4
      durMaxUs := number bytes 20 4
      suggestedRamLimit := number bytes 24 2
      outlierCount := number bytes 26 2
      sampleCount := number bytes 28 4
      suggestedTimeLimitUs := number bytes 32 4
      targetSamples := number bytes 36 4 }

/-- The size and the table of the records of a version. -/
def layoutOf : Nat → Option (Nat × (List UInt8 → ReportRecord))
  | 1 => some (32, readV1)
  | 2 => some (40, readV2)
  | _ => none

/-- A format reads what the table of its version says, from bytes within the record. -/
structure Reads (size : Nat) (format : List FormatChar) (record : List Nat → Option ReportRecord)
    (table : List UInt8 → ReportRecord) : Prop where
  within : (format.map FormatChar.size).sum ≤ size
  record : ∀ bytes, record (Bytes.fields (format.map FormatChar.size) bytes) = some (table bytes)

theorem reads_v1 : Reads 32 recordFormatV1 recordV1 readV1 where
  within := by decide
  record bytes := by
    simp only [recordFormatV1, List.map_cons, List.map_nil, FormatChar.size, Bytes.fields,
      List.drop_drop, recordV1, readV1, number, List.drop_zero, Nat.reduceAdd]

theorem reads_v2 : Reads 40 recordFormatV2 recordV2 readV2 where
  within := by decide
  record bytes := by
    simp only [recordFormatV2, List.map_cons, List.map_nil, FormatChar.size, Bytes.fields,
      List.drop_drop, recordV2, readV2, number, List.drop_zero, Nat.reduceAdd]

/-! ## The decoder -/

/-- The loop over the records: all of them are there, or it dies. -/
theorem parseRecords_eq {size : Nat} {format : List FormatChar}
    {record : List Nat → Option ReportRecord} {table : List UInt8 → ReportRecord}
    (reads : Reads size format record table) {data : List UInt8} (count : Nat) {off : Nat}
    (inside : off ≤ data.length) :
    parseRecords size format record data count off =
      if data.length < off + count * size then .error (.died "truncated record")
      else .ok ((List.range count).map fun i => table (data.drop (off + i * size))) := by
  induction count generalizing off with
  | zero => rw [parseRecords, if_neg (by omega), List.range_zero, List.map_nil]
  | succ count ih =>
      rw [parseRecords, Nat.succ_mul]
      by_cases short : off + size > data.length
      · rw [if_pos short, if_pos (by omega)]
      · have here : (unpackFrom format data off).bind record = some (table (data.drop off)) := by
          have within := reads.within
          rw [unpackFrom, Bytes.unpack_eq, if_pos (by rw [List.length_drop]; omega),
            Option.bind_some, reads.record]
        rw [if_neg short, here]
        simp only
        rw [ih (by omega)]
        by_cases truncated : data.length < off + size + count * size
        · rw [if_pos truncated, if_pos (by omega)]
          rfl
        · rw [if_neg truncated, if_neg (by omega), List.range_succ_eq_map, List.map_cons,
            List.map_map, Nat.zero_mul]
          have later : (fun i => table (data.drop (off + size + i * size))) =
              (fun i => table (data.drop (off + i * size))) ∘ Nat.succ := by
            funext i
            rw [Function.comp_apply, Nat.succ_mul]
            congr 2
            omega
          rw [later]
          rfl

theorem parse_of_short {data : List UInt8} (short : data.length < 4) :
    parse data = .error (.died "invalid file") := by
  rw [parse, if_pos short]

theorem parse_of_header (ver count low high : UInt8) (rows : List UInt8) :
    parse (ver :: count :: low :: high :: rows) =
      match layoutOf ver.toNat with
      | none => .error (.died s!"unsupported version {ver.toNat}")
      | some (size, table) =>
          if rows.length < count.toNat * size then .error (.died "truncated record")
          else
            .ok (ver.toNat,
              (List.range count.toNat).map fun i => table (rows.drop (i * size))) := by
  have header : unpackFrom headerFormat (ver :: count :: low :: high :: rows) 0 =
      some [ver.toNat, count.toNat, low.toNat + 256 * high.toNat] := by
    simp [unpackFrom, headerFormat, FormatChar.size, Bytes.unpack, Bytes.ofLittleEndian]
  have length : (ver :: count :: low :: high :: rows).length = 4 + rows.length := by
    simp only [List.length_cons]
    omega
  have behind (i size : Nat) : (ver :: count :: low :: high :: rows).drop (4 + i * size) =
      rows.drop (i * size) := by
    rw [← List.drop_drop]
    rfl
  have records {size : Nat} {format : List FormatChar} {record : List Nat → Option ReportRecord}
      {table : List UInt8 → ReportRecord} (reads : Reads size format record table) :
      (parseRecords size format record (ver :: count :: low :: high :: rows) count.toNat 4).map
          (ver.toNat, ·) =
        if rows.length < count.toNat * size then .error (.died "truncated record")
        else
          .ok (ver.toNat, (List.range count.toNat).map fun i => table (rows.drop (i * size))) := by
    rw [parseRecords_eq reads _ (by rw [length]; omega), length]
    simp only [Nat.add_lt_add_iff_left, behind]
    split
    · rfl
    · rfl
  rw [parse, if_neg (by rw [length]; omega), header]
  simp only
  by_cases first : ver.toNat = 1
  · rw [if_pos first, records reads_v1, first]
    rfl
  by_cases second : ver.toNat = 2
  · rw [if_neg first, if_pos second, records reads_v2, second]
    rfl
  rw [if_neg first, if_neg second]
  have unknown : layoutOf ver.toNat = none := by
    unfold layoutOf
    split
    · exact absurd ‹_› first
    · exact absurd ‹_› second
    · rfl
  rw [unknown]

/-- For every list of bytes: a file without a full header is invalid, another version is not
supported, a file that ends before its last record is truncated, and any other gives the records
as the table of the version has them. The decoder fails in no other way, and bytes behind the last
record do not matter. -/
theorem parse_outcome (data : List UInt8) :
    parse data =
      match data with
      | ver :: count :: _ :: _ :: rows =>
          match layoutOf ver.toNat with
          | none => .error (.died s!"unsupported version {ver.toNat}")
          | some (size, table) =>
              if rows.length < count.toNat * size then .error (.died "truncated record")
              else
                .ok (ver.toNat, (List.range count.toNat).map fun i => table (rows.drop (i * size)))
      | _ => .error (.died "invalid file") := by
  rcases data with _ | ⟨ver, _ | ⟨count, _ | ⟨low, _ | ⟨high, rows⟩⟩⟩⟩
  case cons.cons.cons.cons => exact parse_of_header ver count low high rows
  all_goals exact parse_of_short (by simp)

/-! ## Files of a device -/

section Files

variable {device : Device} {buffer written : List UInt8} {need : Nat}

/-- What an accepted export has written. -/
theorem exported_of_ok
    (exports : device.calibrationExport (some buffer) true = (.ok, some written, some need)) :
    device.calibOff ≠ 0 ∧ need = device.exported.length ∧ written.take need = device.exported := by
  by_cases valid : device.budget.calibValidate = .ok
  swap
  · simp [Device.calibrationExport, valid] at exports
  by_cases placed : device.calibOff = 0
  · simp [Device.calibrationExport, valid, placed] at exports
  rcases Nat.lt_or_ge buffer.length device.exported.length with short | long
  · rw [Device.calibrationExport_noSpace valid placed short] at exports
    cases exports
  · rw [Device.calibrationExport_eq valid placed long] at exports
    cases exports
    exact ⟨placed, rfl, List.take_left' rfl⟩

theorem number_append {bytes : List UInt8} {off width : Nat} (inside : off + width ≤ bytes.length)
    (later : List UInt8) : number (bytes ++ later) off width = number bytes off width := by
  rw [number, number, List.drop_append_of_le_length (by omega),
    List.take_append_of_le_length (by rw [List.length_drop]; omega)]

theorem readV2_append {bytes : List UInt8} (long : 40 ≤ bytes.length) (later : List UInt8) :
    readV2 (bytes ++ later) = readV2 bytes := by
  have same {off width : Nat} (inside : off + width ≤ 40) :
      number (bytes ++ later) off width = number bytes off width :=
    number_append (inside.trans long) later
  simp only [readV2, same, Nat.reduceAdd, Nat.reduceLeDiff]

/-- A file of a device that has been cut off anywhere is refused, and what follows a whole file
does not matter. -/
theorem cut_exports_refused
    (exports : device.calibrationExport (some buffer) true = (.ok, some written, some need)) :
    (∀ n, n < need → parse (written.take n) =
      .error (.died (if n < 4 then "invalid file" else "truncated record"))) ∧
    ∀ later, parse (written.take need ++ later) = parse (written.take need) := by
  rcases exported_of_ok exports with ⟨-, rfl, whole⟩
  have few := device.recordedOps_few
  have total := device.length_exported
  have header : device.exported = 2 :: UInt8.ofNat device.recordedOps.length :: 0 :: 0 ::
      Bytes.pack device.records := by
    rw [Device.exported, Bytes.pack_append]
    rfl
  have count : (UInt8.ofNat device.recordedOps.length).toNat = device.recordedOps.length := by
    rw [UInt8.toNat_ofNat', Nat.mod_eq_of_lt few]
  have rows := device.length_pack_records
  constructor
  · intro n short
    rw [total] at short
    have front : written.take n = device.exported.take n := by
      rw [← whole, List.take_take, Nat.min_eq_left (by omega)]
    rw [front]
    by_cases tiny : n < 4
    · rw [if_pos tiny]
      apply parse_of_short
      rw [List.length_take]
      omega
    · obtain ⟨m, rfl⟩ : ∃ m, n = m + 4 := ⟨n - 4, by omega⟩
      rw [if_neg tiny, header]
      simp only [List.take_succ_cons]
      rw [parse_of_header]
      simp only [layoutOf, UInt8.reduceToNat, count]
      rw [if_pos]
      rw [List.length_take, rows]
      omega
  · intro later
    rw [whole, header]
    simp only [List.cons_append, parse_of_header, layoutOf, UInt8.reduceToNat, count]
    rw [if_neg (by rw [List.length_append, rows]; omega), if_neg (by rw [rows]; omega)]
    congr 2
    apply List.map_congr_left
    intro i listed
    have inside : i < device.recordedOps.length := List.mem_range.mp listed
    have long : i * 40 + 40 ≤ (Bytes.pack device.records).length := by
      rw [rows]
      omega
    rw [List.drop_append_of_le_length (by omega), readV2_append]
    rw [List.length_drop]
    omega

end Files

/-- A device whose only session has had one sample. -/
def Device.sampledOnce : Device :=
  (sampledRun Build.full .sample (oneSample ⟨512, 2000⟩)).1

/-- The file of the device. -/
def sampledFile : List UInt8 :=
  [2, 1, 0, 0, 0, 1, 0, 0, 0, 0, 0, 0, 0, 0, 0, 2, 0, 0, 0, 0, 0, 0, 0, 0, 208, 7, 0, 0, 25, 2,
    1, 0, 1, 0, 0, 0, 152, 8, 0, 0, 1, 0, 0, 0]

theorem sampledOnce_exports :
    Device.sampledOnce.calibrationExport (some (List.replicate 44 0)) true =
      (.ok, some sampledFile, some 44) := by
  decide +kernel

theorem cut_exports_refused_sampledOnce :
    parse (sampledFile.take 3) = .error (.died "invalid file") ∧
      parse (sampledFile.take 43) = .error (.died "truncated record") ∧
      parse (sampledFile ++ [1, 2]) = parse sampledFile := by
  have refused := cut_exports_refused sampledOnce_exports
  exact ⟨refused.1 3 (by decide), refused.1 43 (by decide), refused.2 [1, 2]⟩

/-! ## Sessions in a report -/

/-- A record tells the last session of an op: its samples are counted modulo 2^32. -/
structure RecordV2.Tells (r : RecordV2) (op : OpId) (samples : List Sample) : Prop where
  opId : r.opId = op.toNat
  target : r.targetSamples ≠ 0
  sampleCount : r.sampleCount = samples.length % 4294967296
  ramMax : r.ramMax = (peak 0 (samples.map Sample.ramUsed)).toNat
  durMaxUs : r.durMaxUs = (peak 0 (samples.map Sample.durationUs)).toNat

theorem CalibState.From.tells {s : CalibState} {op : OpId} {samples : List Sample}
    (origin : s.From op samples) (recorded : s.recorded = true) :
    (reportRecord op s).Tells op samples := by
  have of_session {targetSamples : UInt32} (nonzero : targetSamples ≠ 0) (active : Bool)
      (slot : s = { CalibState.session op targetSamples samples with active := active }) :
      (reportRecord op s).Tells op samples := by
    have reflects := CalibState.session_reflects op targetSamples samples
    refine ⟨rfl, ?_, ?_, ?_, ?_⟩
    · simp only [reportRecord, slot, reflects.target]
      exact fun zero => nonzero (UInt32.toNat_inj.mp zero)
    · simp only [reportRecord, slot, CalibState.computeSuggested, reflects.sampleCount,
        UInt32.toNat_ofNat']
    · simp only [reportRecord, slot, CalibState.computeSuggested, reflects.ramMax]
    · simp only [reportRecord, slot, CalibState.computeSuggested, reflects.durMaxUs]
  cases origin with
  | untouched slot _ =>
      rw [slot] at recorded
      exact absurd recorded (by decide)
  | running targetSamples nonzero slot =>
      have active := (CalibState.session_reflects op targetSamples samples).active
      apply of_session nonzero true
      rw [slot, ← active]
  | ended targetSamples nonzero slot => exact of_session nonzero false slot

/-- A slot that has counted samples has a record. -/
theorem CalibState.From.recorded {s : CalibState} {op : OpId} {samples : List Sample}
    (origin : s.From op samples) (counted : samples.length % 4294967296 ≠ 0) :
    s.recorded = true := by
  have of_count (count : s.sampleCount = UInt32.ofNat samples.length) : s.recorded = true := by
    have nonzero : s.sampleCount ≠ 0 := by
      intro zero
      apply counted
      rw [← UInt32.toNat_ofNat', ← count, zero]
      rfl
    simp [CalibState.recorded, nonzero]
  cases origin with
  | untouched _ none =>
      rw [none] at counted
      exact absurd rfl counted
  | running targetSamples _ slot =>
      apply of_count
      rw [slot]
      exact (CalibState.session_reflects op targetSamples samples).sampleCount
  | ended targetSamples _ slot =>
      apply of_count
      rw [slot]
      exact (CalibState.session_reflects op targetSamples samples).sampleCount

/-- Samples have only been accepted for ops of the instance. -/
def SamplesPlaced (observed : Device × (OpId → List Sample)) : Prop :=
  ∀ op, observed.2 op ≠ [] → op < observed.1.budget.maxOps

theorem Device.exec_maxOps (B : Build) (device : Device) (event : DeviceEvent) :
    (Device.exec B device event).2.budget.maxOps = device.budget.maxOps := by
  rcases (Device.exec_frame B device event).2 with same | ⟨core, next⟩
  · rw [same]
  · rw [next]
    exact (SameInstance.next B device.budget core).maxOps

/-- A history that is not empty was so before, or a sample has been accepted. -/
theorem sampled_nonempty (device after : Device) {history : OpId → List Sample}
    {event : DeviceEvent} {reply : DeviceReply} {op : OpId}
    (nonempty : sampled history device event reply after op ≠ []) :
    history op ≠ [] ∨
      ∃ sample, event = .calibrateSample op (some sample) ∧ reply = .status .ok := by
  unfold sampled at nonempty
  split at nonempty
  · rename_i begun _
    by_cases here : op = begun
    · subst here
      rw [Function.update_self] at nonempty
      exact absurd rfl nonempty
    · rw [Function.update_of_ne here] at nonempty
      exact Or.inl nonempty
  · rename_i fed sample
    by_cases here : op = fed
    · subst here
      exact Or.inr ⟨sample, rfl, rfl⟩
    · rw [Function.update_of_ne here] at nonempty
      exact Or.inl nonempty
  · exact Or.inl nonempty

theorem SamplesPlaced.next {B : Build} {observed : Device × (OpId → List Sample)}
    (placed : SamplesPlaced observed) (event : DeviceEvent) :
    SamplesPlaced ((sampledMachine B).next observed event) := by
  rcases observed with ⟨device, history⟩
  intro op nonempty
  change op < (Device.exec B device event).2.budget.maxOps
  rw [Device.exec_maxOps]
  rcases sampled_nonempty device device nonempty with before | ⟨sample, rfl, accepted⟩
  · exact placed op before
  · have status : (device.calibrateSample op (some sample)).1 = .ok := by
      change (Device.exec B device (.calibrateSample op (some sample))).1 = _ at accepted
      simp only [Device.exec] at accepted
      split at accepted
      · exact DeviceReply.status.inj accepted
      · cases accepted
    have session : device.sessionStatus op true = .ok := by
      by_contra refused
      simp only [Device.calibrateSample, Option.isSome_some, ne_eq, refused, not_false_iff,
        if_true] at status
    exact (Device.sessionStatus_ok session).2.2.2.1

theorem SamplesPlaced.run {B : Build} (start : Device) (events : List DeviceEvent) :
    SamplesPlaced (sampledRun B start events) := by
  apply Machine.run_invariant' fun observed event placed => placed.next event
  intro op nonempty
  exact absurd rfl nonempty

/-- What the tool says about the progress of a session. -/
structure Judges (confidence recommendation : String) (count target : Nat) : Prop where
  known : confidence ≠ "unknown"
  high : confidence = "high" ↔ target ≤ count
  more : recommendation = "collect more samples" ↔ count < target

theorem judges_of_target {target : Nat} (some_target : target ≠ 0) (count outliers : Nat) :
    Judges (confidence count target) (recommendation count target outliers) count target := by
  constructor
  · simp only [confidence, if_neg some_target]
    repeat' split
    all_goals decide
  · simp only [confidence, if_neg some_target]
    by_cases reached : target ≤ count
    · rw [if_pos reached]
      exact iff_of_true rfl reached
    · rw [if_neg reached]
      apply iff_of_false _ reached
      repeat' split
      all_goals decide
  · rw [recommendation]
    by_cases short : count < target
    · rw [if_pos ⟨Nat.pos_of_ne_zero some_target, short⟩]
      exact iff_of_true rfl short
    · rw [if_neg fun both => short both.2]
      apply iff_of_false _ short
      split
      all_goals decide

/-- After every run since `init`, the report on an accepted export has one record for each op with
samples. It tells the samples that were accepted since the last `calibrate_begin`, with full
confidence exactly if they reach the target, and more samples are asked for exactly if they do
not. They are counted modulo `2 ^ 32`; where that gives none, only a session that is still active
has a record. -/
theorem report_tells_sessions {B : Build} {start : Device} (started : Device.Started B start)
    {events : List DeviceEvent} {buffer written : List UInt8} {need : Nat}
    (exports : (sampledRun B start events).1.calibrationExport (some buffer) true =
      (.ok, some written, some need)) :
    ∃ (ops : List OpId) (record : OpId → RecordV2),
      parse (written.take need) = .ok (2, ops.map fun op => .v2 (record op)) ∧
        ops.Pairwise (· < ·) ∧
        (∀ op, ((sampledRun B start events).2 op).length % 4294967296 ≠ 0 → op ∈ ops) ∧
        ∀ op ∈ ops, (record op).Tells op ((sampledRun B start events).2 op) ∧
          Judges (confidence (record op).sampleCount (record op).targetSamples)
            (recommendation (record op).sampleCount (record op).targetSamples
              (record op).outlierCount)
            (((sampledRun B start events).2 op).length % 4294967296)
            (record op).targetSamples ∧
          (((sampledRun B start events).2 op).length % 4294967296 = 0 →
            ((sampledRun B start events).1.slots op).active = true) := by
  rcases exported_of_ok exports with ⟨calibOff, -, whole⟩
  have kept : (sampledRun B start events).1.calibOff = start.calibOff := by
    rw [sampledRun, sampledMachine, Machine.observe_run_fst]
    exact Device.run_calibOff B start events
  rw [kept] at calibOff
  have sessions : Sessions (sampledRun B start events) :=
    Sessions.run (started.slots calibOff) events
  have placed : SamplesPlaced (sampledRun B start events) := .run start events
  generalize sampledRun B start events = observed at *
  refine ⟨observed.1.recordedOps, fun op => reportRecord op (observed.1.slots op), ?_,
    observed.1.recordedOps_sorted, ?_, ?_⟩
  · rw [whole, parse_exported]
  · intro op counted
    apply List.mem_filter.mpr
    refine ⟨(observed.1.mem_opIds op).mpr (placed op ?_), (sessions op).recorded counted⟩
    intro empty
    rw [empty] at counted
    exact counted rfl
  · intro op recorded
    have tells := (sessions op).tells (List.mem_filter.mp recorded).2
    rw [← tells.sampleCount]
    refine ⟨tells, judges_of_target tells.target _ _, ?_⟩
    intro none
    rcases ((observed.1.mem_recordedOps op).mp recorded).2 with counted | active
    · have uncounted : (observed.1.slots op).sampleCount = 0 := UInt32.toNat_inj.mp none
      exact absurd uncounted counted
    · exact active

theorem report_tells_sessions_sampledOnce :
    ∃ record : RecordV2, parse sampledFile = .ok (2, [.v2 record]) ∧
      record.Tells 0 [⟨512, 2000⟩] := by
  rcases report_tells_sessions Device.started_sample sampledOnce_exports with
    ⟨ops, record, parsed, -, listed, tells⟩
  have history : (sampledRun Build.full .sample (oneSample ⟨512, 2000⟩)).2 0 = [⟨512, 2000⟩] := by
    decide +kernel
  have first : 0 ∈ ops := listed 0 (by rw [history]; decide)
  have told := (tells 0 first).1
  rw [history] at told
  have count : (parse sampledFile).map (fun report => report.2.length) = .ok 1 := by
    decide +kernel
  rw [List.take_of_length_le (by decide)] at parsed
  rw [parsed] at count
  have single : (ops.map fun op => ReportRecord.v2 (record op)).length = 1 :=
    Except.ok.inj count
  rw [List.length_map] at single
  rcases List.length_eq_one_iff.mp single with ⟨op, rfl⟩
  cases List.mem_singleton.mp first
  exact ⟨record 0, parsed, told⟩

/-! ## Rules in a report -/

/-- The answer names the term that the limit was taken from; the maximum times the percentage is
only approximate if it has been rounded down. -/
structure NamesRule (label : RuleLabel) (p99Term maxTerm : Nat) (exactly : Prop) : Prop where
  p99 : label = .p99 ∨ label = .both ↔ maxTerm ≤ p99Term
  max : label = .max ↔ p99Term < maxTerm ∧ exactly
  approx : label = .bothApprox ∨ label = .maxApprox ↔ p99Term < maxTerm ∧ ¬exactly

/-- The tool rounds the maximum up where the device rounds it down, so it finds the exact limit only
where nothing is rounded. -/
theorem whichRule_eq {margin percent p99 greatest suggested : Nat}
    (limit : suggested = max (p99 + margin) (greatest * percent / 100)) :
    whichRule margin percent p99 greatest suggested =
      if greatest * percent / 100 ≤ p99 + margin then
        if (greatest * percent + 99) / 100 = p99 + margin then .both else .p99
      else if 100 ∣ greatest * percent then .max
      else if greatest * percent / 100 = p99 + margin + 1 then .bothApprox
      else .maxApprox := by
  simp only [whichRule, within1, Bool.and_eq_true, decide_eq_true_eq]
  generalize greatest * percent = product at limit ⊢
  have rounded : (product + 99) / 100 = product / 100 ∧ 100 ∣ product ∨
      (product + 99) / 100 = product / 100 + 1 ∧ ¬100 ∣ product := by omega
  by_cases le : product / 100 ≤ p99 + margin
  · obtain rfl : suggested = p99 + margin := by omega
    rw [if_pos le]
    by_cases both : (product + 99) / 100 = p99 + margin
    · rw [if_pos ⟨rfl, both.symm⟩, if_pos both]
    · rw [if_neg fun same => both same.2.symm, if_pos rfl, if_neg both]
  · obtain rfl : suggested = product / 100 := by omega
    rw [if_neg le, if_neg (by omega), if_neg (by omega)]
    rcases rounded with ⟨same, divides⟩ | ⟨above, remains⟩
    · rw [if_pos same.symm, if_pos divides]
    · rw [if_neg (by omega), if_neg remains]
      by_cases near : product / 100 = p99 + margin + 1
      · rw [if_pos (by omega), if_pos near]
      · rw [if_neg (by omega), if_neg (by omega), if_pos (by omega), if_neg near]

theorem whichRule_names {margin percent p99 greatest suggested : Nat}
    (limit : suggested = max (p99 + margin) (greatest * percent / 100)) :
    NamesRule (whichRule margin percent p99 greatest suggested) (p99 + margin)
      (greatest * percent / 100) (100 ∣ greatest * percent) := by
  rw [whichRule_eq limit]
  by_cases le : greatest * percent / 100 ≤ p99 + margin
  · rw [if_pos le]
    have not_lt := Nat.not_lt.mpr le
    split
    · exact ⟨by simp [le], by simp [not_lt], by simp [not_lt]⟩
    · exact ⟨by simp [le], by simp [not_lt], by simp [not_lt]⟩
  · rw [if_neg le]
    have lt := Nat.not_le.mp le
    split
    · rename_i divides
      exact ⟨by simp [le], by simp [lt, divides], by simp [divides]⟩
    rename_i remains
    split
    · exact ⟨by simp [le], by simp [remains], by simp [lt, remains]⟩
    · exact ⟨by simp [le], by simp [remains], by simp [lt, remains]⟩

/-- For each record of a device whose limits have not wrapped around, the tool names the rule that
the device has followed: it never says that the rule is unknown, and it calls it approximate
exactly where the device has rounded the greatest value. -/
theorem report_names_rules {device : Device} {buffer written : List UInt8} {need : Nat}
    (exports : device.calibrationExport (some buffer) true = (.ok, some written, some need)) :
    ∃ records : List RecordV2, parse (written.take need) = .ok (2, records.map .v2) ∧
      ∀ r ∈ records,
        (r.ramP99 ≤ 65503 → r.ramMax ≤ 62415 → ∃ label,
          whichRamRule r.ramP99 r.ramMax r.suggestedRamLimit =
              label.text "p99+32B" "max*1.05" ∧
            NamesRule label (r.ramP99 + 32) (r.ramMax * 105 / 100) (20 ∣ r.ramMax)) ∧
        (r.durMaxUs ≤ 39045157 → ∃ label,
          whichTimeRule r.durP99Us r.durMaxUs r.suggestedTimeLimitUs =
              label.text "p99+500us" "max*1.10" ∧
            NamesRule label (r.durP99Us + 500) (r.durMaxUs * 110 / 100) (10 ∣ r.durMaxUs)) := by
  rcases exported_of_ok exports with ⟨-, -, whole⟩
  refine ⟨device.recordedOps.map fun op => reportRecord op (device.slots op), ?_, ?_⟩
  · rw [whole, parse_exported, List.map_map]
    rfl
  · intro r listed
    rcases List.mem_map.mp listed with ⟨op, -, rfl⟩
    generalize device.slots op = s
    constructor
    · intro p99Fits maxFits
      refine ⟨_, rfl, ?_⟩
      have exactly : 20 ∣ (reportRecord op s).ramMax ↔ 100 ∣ (reportRecord op s).ramMax * 105 := by
        omega
      have limit : (reportRecord op s).suggestedRamLimit =
          max (((reportRecord op s).ramP99 + 32) % 65536)
            ((reportRecord op s).ramMax * 105 / 100 % 65536) := s.suggestedRamLimit_toNat
      rw [exactly]
      apply whichRule_names
      rw [limit, Nat.mod_eq_of_lt (by omega), Nat.mod_eq_of_lt (by omega)]
    · intro maxFits
      refine ⟨_, rfl, ?_⟩
      have exactly : 10 ∣ (reportRecord op s).durMaxUs ↔
          100 ∣ (reportRecord op s).durMaxUs * 110 := by
        omega
      have p99 : s.computeSuggested.durationP99Us.toNat = (reportRecord op s).durP99Us := rfl
      have greatest : s.durMaxUs.toNat = (reportRecord op s).durMaxUs := rfl
      have suggested : s.computeSuggested.suggestedTimeLimitUs.toNat =
          (reportRecord op s).suggestedTimeLimitUs := by
        rw [reportRecord]
      have fits : (reportRecord op s).durMaxUs * 110 < 4294967296 :=
        Nat.lt_of_le_of_lt (Nat.mul_le_mul_right 110 maxFits) (by decide)
      have limit := s.suggestedTimeLimitUs_toNat
      rw [p99, greatest, suggested, Nat.mod_eq_of_lt fits] at limit
      rw [exactly]
      exact whichRule_names limit

/-- Its limit for RAM is rounded, the one for time is not. -/
theorem report_names_rules_sampledOnce :
    ∃ ram time : RuleLabel,
      whichRamRule 0 512 537 = ram.text "p99+32B" "max*1.05" ∧
        NamesRule ram 32 537 (20 ∣ 512) ∧
      whichTimeRule 0 2000 2200 = time.text "p99+500us" "max*1.10" ∧
        NamesRule time 500 2200 (10 ∣ 2000) := by
  rcases report_names_rules sampledOnce_exports with ⟨records, parsed, rules⟩
  have once : parse sampledFile =
      .ok (2, [.v2 ⟨0, true, 0, 0, 0, 512, 0, 0, 2000, 537, 2200, 1, 1, 1⟩]) := by decide +kernel
  rw [List.take_of_length_le (by decide), once] at parsed
  have same := (Prod.mk.inj (Except.ok.inj parsed)).2.symm
  rcases List.map_eq_singleton_iff.mp same with ⟨record, rfl, read⟩
  cases read
  rcases rules _ (List.mem_singleton_self _) with ⟨ramRule, timeRule⟩
  rcases ramRule (by decide) (by decide) with ⟨ram, ramText, ramNames⟩
  rcases timeRule (by decide) with ⟨time, timeText, timeNames⟩
  exact ⟨ram, time, ramText, ramNames, timeText, timeNames⟩

end Loxbudget
