import RetinaServer.Parquet.Writer
import RetinaServer.Parquet.LegacyJson

/-! What is read back of an archived batch: its frames, where their timestamps differ,
their arrays are of one length and every aircraft has a hex. -/
namespace Retina.Parquet
open OrderedDict Tcp

/-- The archive's files by key. -/
abbrev Files := Dict String Table

section Archiving
variable (env : Setting)

/-- `archive_detections`, where `key` is the partition and the unique name drawn for the file. -/
def Setting.archiveDetections (files : Files) (key : String) (frames : List Fields) : Option (Files × Option String) :=
  (env.writeDetections frames).map fun file =>
    file.elim (files, none) fun rows => (files.insert key rows, some key)

def readArchivedFile (files : Files) (key : String) : Option Legacy := (files.get? key).map readParquet

/-- An array as the float column takes it. -/
def Setting.floats (frame : Fields) (key : String) : Option (List (Option PyFloat)) :=
  (arrayOf frame key).bind fun items => items.mapM (asFloat env.text)

/-- The aircraft at an index of the frame, as its columns take it. -/
def Setting.aircraft (frame : Fields) (i : Nat) : Option (Option (AdsbColumns (Option String))) :=
  (arrayOf frame "adsb").bind fun adsb =>
    match adsb[i]? with
    | some (.dict ae) => ((env.adsbColumns ae).bind AdsbColumns.fit).map some
    | _ => some none

/-- A frame read back is the one that went in, up to the columns' types and the
receiver's published position. -/
structure Faithful (frame : Fields) (fr : LegacyFrame) : Prop where
  timestamp : env.timestampOf frame = some fr.timestamp
  delay : env.floats frame "delay" = some fr.delay
  doppler : env.floats frame "doppler" = some fr.doppler
  snr : env.floats frame "snr" = some fr.snr
  adsb : ∀ i, env.aircraft frame i = some (fr.adsb[i]?).join
  signingMode : fitText (signingMode frame) = some fr.signingMode
  signatureValid : fr.signatureValid = signatureValid frame
  epoch : getInt env.parseInt frame "epoch" = some fr.epoch
  geometry : (env.cfgGeometry.bind fun cfg => env.frameGeometry cfg frame) = some fr.geometry

def measured (frame : Fields) (key : String) : List Json := (arrayOf frame key).getD []

def count (frame : Fields) : Nat :=
  detections (measured frame "delay") (measured frame "doppler") (measured frame "snr")

/-- The frame's arrays hold a detection. -/
def sized (frame : Fields) : Bool := decide (count frame ≠ 0)

def Setting.stamp (frame : Fields) : ℤ := (env.timestampOf frame).getD 0

def Setting.chronological (frames : List Fields) : List Fields :=
  (frames.filter sized).insertionSort fun a b => env.stamp a ≤ env.stamp b

/-- The key that comes of archiving a batch reads back as its nonempty frames, in the
order of their timestamps. -/
def RoundTrips (files : Files) (key : String) (frames : List Fields) : Prop :=
  ∀ files', env.archiveDetections files key frames = some (files', some key) →
    ∃ file, readArchivedFile files' key = some file ∧
      List.Forall₂ (Faithful env) (env.chronological frames) file.detections

/-- One length to the three arrays, and a hex to each aircraft, all of them at a detection. -/
def Regular (frame : Fields) : Prop :=
  (measured frame "doppler").length = (measured frame "delay").length ∧
  (measured frame "snr").length = (measured frame "delay").length ∧
  ∀ i ae, (measured frame "adsb")[i]? = some (.dict ae) →
    i < (measured frame "delay").length ∧ (get ae "hex" .null).truthy = true

/-- Every value of every frame fits its column. -/
def Archivable (frames : List Fields) : Prop :=
  ∃ cfg, env.cfgGeometry = some cfg ∧ ∀ frame ∈ frames, (env.typedRows cfg frame).isSome

end Archiving

variable {env : Setting} {cfg : Geometry} {frames : List Fields}

theorem frameValues_spec (parsed : env.frameValues cfg frame = some values) :
    arrayOf frame "delay" = some (measured frame "delay") ∧ arrayOf frame "doppler" = some (measured frame "doppler") ∧
    arrayOf frame "snr" = some (measured frame "snr") ∧
    values.elim (sized frame = false) fun v => sized frame = true ∧
      v.delay = measured frame "delay" ∧ v.doppler = measured frame "doppler" ∧ v.snr = measured frame "snr" ∧
      arrayOf frame "adsb" = some v.adsb ∧ env.timestampOf frame = some v.frameTs ∧
      getInt env.parseInt frame "epoch" = some v.epoch ∧ env.frameGeometry cfg frame = some v.geometry := by
  simp only [Setting.frameValues, Option.bind_eq_bind, Option.bind_eq_some_iff, Option.pure_def] at parsed
  obtain ⟨delay, at_delay, doppler, at_doppler, snr, at_snr, rest⟩ := parsed
  simp only [measured, sized, count, at_delay, at_doppler, at_snr, Option.getD_some, true_and]
  split at rest
  · rename_i empty
    obtain rfl := Option.some.inj rest
    simpa using empty
  · rename_i full
    simp only [Option.bind_eq_some_iff, Option.some.injEq] at rest
    obtain ⟨ts, at_ts, epoch, at_epoch, geometry, at_geometry, adsb, at_adsb, rfl⟩ := rest
    exact ⟨by simpa using full, rfl, rfl, rfl, at_adsb, at_ts, at_epoch, at_geometry⟩

/-- What stands in the row of a detection. -/
structure RowOf (env : Setting) (cfg : Geometry) (frame : Fields) (i : Nat) (r : Row (Option String)) : Prop where
  timestamp : env.timestampOf frame = some r.frameTsMs
  delay : safeFloat env.text (measured frame "delay") i = some r.delayUs
  doppler : safeFloat env.text (measured frame "doppler") i = some r.dopplerHz
  snr : safeFloat env.text (measured frame "snr") i = some r.snrDb
  measurable : arrayOf frame "adsb" = some (measured frame "adsb")
  adsb : (env.adsbColumns (entryAt (measured frame "adsb") i)).bind AdsbColumns.fit = some r.adsb
  signingMode : fitText (Parquet.signingMode frame) = some r.signingMode
  signatureValid : r.signatureValid = Parquet.signatureValid frame
  epoch : getInt env.parseInt frame "epoch" = some r.epoch
  geometry : env.frameGeometry cfg frame = some r.geometry

/-- A frame has a row for each detection, and none without. -/
theorem typedRows_spec (typed : env.typedRows cfg frame = some rows) :
    arrayOf frame "delay" = some (measured frame "delay") ∧ arrayOf frame "doppler" = some (measured frame "doppler") ∧
    arrayOf frame "snr" = some (measured frame "snr") ∧ rows.length = count frame ∧
    ∀ i r, rows[i]? = some r → RowOf env cfg frame i r := by
  obtain ⟨raw, flat, fits⟩ := Option.bind_eq_some_iff.mp typed
  obtain ⟨values, parsed, made⟩ := Option.bind_eq_some_iff.mp flat
  obtain ⟨at_delay, at_doppler, at_snr, rest⟩ := frameValues_spec parsed
  refine ⟨at_delay, at_doppler, at_snr, ?_⟩
  cases values with
  | none =>
    obtain rfl := Option.some.inj made
    obtain rfl := Option.some.inj fits
    have empty : count frame = 0 := by simpa [sized] using rest
    exact ⟨empty.symm, fun i r there => nomatch there⟩
  | some v =>
    obtain ⟨-, delay, doppler, snr, at_adsb, at_ts, at_epoch, at_geometry⟩ := rest
    have size : v.size = count frame := by rw [FrameValues.size, delay, doppler, snr, count]
    constructor
    · rw [Partial.length_mapM fits, Partial.length_mapM made, List.length_range, size]
    · intro i r there
      rw [Partial.getElem?_mapM fits, Partial.getElem?_mapM made] at there
      obtain ⟨raw_row, from_frame, fitted⟩ := Option.bind_eq_some_iff.mp there
      obtain ⟨i', listed, row⟩ := Option.bind_eq_some_iff.mp from_frame
      obtain rfl : i = i' := by
        obtain ⟨bound, same⟩ := List.getElem?_eq_some_iff.mp listed
        simpa using same
      simp only [Setting.row, Option.bind_eq_bind, Option.bind_eq_some_iff, Option.pure_def, Option.some.injEq] at row
      obtain ⟨delayUs, at_i, dopplerHz, at_i', snrDb, at_i'', adsb, columns, rfl⟩ := row
      obtain ⟨ts, -, d, dp, s, a, mode, valid, geo, epoch⟩ := Row.fit_spec fitted
      have entries : measured frame "adsb" = v.adsb := by rw [measured, at_adsb, Option.getD_some]
      exact {
        timestamp := ts ▸ at_ts
        delay := by rw [d, ← delay, at_i]
        doppler := by rw [dp, ← doppler, at_i']
        snr := by rw [s, ← snr, at_i'']
        measurable := entries ▸ at_adsb
        adsb := by rw [entries, columns]; exact a
        signingMode := mode
        signatureValid := valid
        epoch := epoch ▸ at_epoch
        geometry := geo ▸ at_geometry }

theorem floats_iff {rows : Table} (key : String) (column : Row (Option String) → Option PyFloat)
    (at_key : arrayOf frame key = some (measured frame key))
    (cells : ∀ i r, rows[i]? = some r → safeFloat env.text (measured frame key) i = some (column r)) :
    env.floats frame key = some (rows.map column) ↔ (measured frame key).length = rows.length := by
  rw [Setting.floats, at_key, Option.bind_some, Partial.mapM_eq_some_iff]
  constructor
  · exact fun related => related.length_eq.trans (List.length_map _)
  · intro same
    refine List.forall₂_iff_get.mpr ⟨same.trans (List.length_map _).symm, fun i within there => ?_⟩
    have bound : i < rows.length := same ▸ within
    have cell := cells i rows[i] (List.getElem?_eq_getElem bound)
    rw [safeFloat, List.getElem?_eq_getElem within] at cell
    simpa using cell

/-- An aircraft is read back where it has a hex. -/
theorem entryOf_eq {r : Row (Option String)} (columns : (env.adsbColumns ae).bind AdsbColumns.fit = some r.adsb) :
    entryOf r = if (get ae "hex" .null).truthy = true then some r.adsb else none := by
  obtain ⟨a, made, fits⟩ := Option.bind_eq_some_iff.mp columns
  have hex := AdsbColumns.fit_hex fits
  simp only [Setting.adsbColumns, Option.bind_eq_bind, Option.bind_eq_some_iff, Option.pure_def, Option.some.injEq] at made
  obtain ⟨_, _, _, _, _, _, _, _, _, _, rfl⟩ := made
  simp only at hex
  rw [entryOf]
  cases at_hex : get ae "hex" .null with
  | null =>
    rw [at_hex] at hex
    rw [← Option.some.inj hex]
    rfl
  | str s =>
    rw [at_hex] at hex
    rw [← Option.some.inj hex]
    rfl
  | bool b | int n | float x | list items | dict fields =>
    rw [at_hex] at hex
    exact nomatch hex

theorem aircraft_eq (at_adsb : arrayOf frame "adsb" = some (measured frame "adsb")) (i : Nat) :
    (∃ ae, (measured frame "adsb")[i]? = some (.dict ae) ∧ entryAt (measured frame "adsb") i = ae ∧
      env.aircraft frame i = ((env.adsbColumns ae).bind AdsbColumns.fit).map some) ∨
    (∀ ae, (measured frame "adsb")[i]? ≠ some (.dict ae)) ∧ entryAt (measured frame "adsb") i = [] ∧
      env.aircraft frame i = some none := by
  rw [Setting.aircraft, at_adsb, Option.bind_some, entryAt]
  cases found : (measured frame "adsb")[i]? with
  | none => exact .inr ⟨nofun, rfl, rfl⟩
  | some entry =>
    cases entry with
    | dict ae => exact .inl ⟨ae, rfl, rfl, rfl⟩
    | null | bool b | int n | float x | str s | list items => exact .inr ⟨by simp, rfl, rfl⟩

/-- The aircraft are read back where each of them has a detection and a hex. -/
theorem adsb_iff {rows : Table} (at_adsb : arrayOf frame "adsb" = some (measured frame "adsb"))
    (cells : ∀ i r, rows[i]? = some r →
      (env.adsbColumns (entryAt (measured frame "adsb") i)).bind AdsbColumns.fit = some r.adsb) :
    (∀ i, env.aircraft frame i = some ((rows.map entryOf)[i]?).join) ↔
      ∀ i ae, (measured frame "adsb")[i]? = some (.dict ae) →
        i < rows.length ∧ (get ae "hex" .null).truthy = true := by
  simp only [List.getElem?_map]
  constructor
  · intro back i ae found
    have entry := back i
    rcases aircraft_eq at_adsb i with ⟨ae', found', at_i, aircraft⟩ | ⟨other, -, -⟩
    · obtain rfl := Json.dict.inj (Option.some.inj (found.symm.trans found'))
      rw [aircraft] at entry
      obtain ⟨columns, fits, same⟩ := Option.map_eq_some_iff.mp entry
      have present := Option.join_eq_some_iff.mp same.symm
      obtain ⟨row, there, read⟩ := Option.map_eq_some_iff.mp present
      have own := cells i row there
      rw [at_i] at own
      rw [entryOf_eq own] at read
      split at read
      · rename_i hex
        exact ⟨(List.getElem?_eq_some_iff.mp there).1, hex⟩
      · exact nomatch read
    · exact absurd found (other ae)
  · intro hexes i
    rcases aircraft_eq at_adsb i with ⟨ae, found, at_i, aircraft⟩ | ⟨-, at_i, aircraft⟩
    · obtain ⟨within, hex⟩ := hexes i ae found
      have there : rows[i]? = some rows[i] := List.getElem?_eq_getElem within
      have own := cells i rows[i] there
      rw [at_i] at own
      rw [aircraft, own, there, Option.map_some, Option.map_some, entryOf_eq own, if_pos hex]
      rfl
    · rw [aircraft]
      cases there : rows[i]? with
      | none => rfl
      | some row =>
        -- No aircraft fills its columns with nulls, and a null hex is no aircraft.
        have own := cells i row there
        rw [at_i] at own
        rw [Option.map_some, entryOf_eq own]
        rfl

/-- The frame that a frame's rows make is the one that went in exactly when that is regular. -/
theorem faithful_iff (config : env.cfgGeometry = some cfg) (typed : env.typedRows cfg frame = some rows)
    (full : frameOf rows = some fr) : Faithful env frame fr ↔ Regular frame := by
  obtain ⟨at_delay, at_doppler, at_snr, size, cells⟩ := typedRows_spec typed
  obtain ⟨r, first, rfl⟩ := Option.map_eq_some_iff.mp full
  have head := cells 0 r (List.head?_eq_getElem? ▸ first)
  have delay := floats_iff "delay" Row.delayUs at_delay fun i r there => (cells i r there).delay
  have doppler := floats_iff "doppler" Row.dopplerHz at_doppler fun i r there => (cells i r there).doppler
  have snr := floats_iff "snr" Row.snrDb at_snr fun i r there => (cells i r there).snr
  have adsb := adsb_iff head.measurable fun i r there => (cells i r there).adsb
  constructor
  · intro faithful
    have long := delay.mp faithful.delay
    refine ⟨(doppler.mp faithful.doppler).trans long.symm, (snr.mp faithful.snr).trans long.symm, ?_⟩
    rw [long]
    exact adsb.mp faithful.adsb
  · rintro ⟨same_doppler, same_snr, hexes⟩
    have long : (measured frame "delay").length = rows.length := by
      rw [size, count, detections, same_doppler, same_snr]
      simp
    exact {
      timestamp := head.timestamp
      delay := delay.mpr long
      doppler := doppler.mpr (same_doppler.trans long)
      snr := snr.mpr (same_snr.trans long)
      adsb := adsb.mpr (long ▸ hexes)
      signingMode := head.signingMode
      signatureValid := head.signatureValid
      epoch := head.epoch
      geometry := by rw [config]; exact head.geometry }

def Setting.rowsOf (env : Setting) (cfg : Geometry) (frame : Fields) : Table := (env.typedRows cfg frame).getD []

theorem stamped_rowsOf (fits : ∀ frame ∈ frames, (env.typedRows cfg frame).isSome) :
    ∀ frame ∈ frames.filter sized, env.rowsOf cfg frame ≠ [] ∧ ∀ r ∈ env.rowsOf cfg frame, r.frameTsMs = env.stamp frame := by
  intro frame member
  obtain ⟨listed, full⟩ := List.mem_filter.mp member
  obtain ⟨rows, typed⟩ := Option.isSome_iff_exists.mp (fits frame listed)
  obtain ⟨-, -, -, size, cells⟩ := typedRows_spec typed
  rw [Setting.rowsOf, typed, Option.getD_some]
  constructor
  · rintro rfl
    exact of_decide_eq_true full size.symm
  · intro r there
    obtain ⟨i, at_i⟩ := List.mem_iff_getElem?.mp there
    rw [Setting.stamp, (cells i r at_i).timestamp, Option.getD_some]

theorem flatten_eq {lists : List Table} (typed : frames.mapM (env.typedRows cfg) = some lists) :
    lists.flatten = (frames.filter sized).flatMap (env.rowsOf cfg) := by
  have each : ∀ frame ∈ frames, (env.typedRows cfg frame).isSome :=
    (Partial.mapM_isSome_iff _ frames).mp (by rw [typed]; rfl)
  rw [Partial.eq_map_of_mapM typed [], ← List.flatMap_def]
  change frames.flatMap (env.rowsOf cfg) = _
  clear typed
  induction frames with
  | nil => rfl
  | cons frame rest ih =>
    obtain ⟨fits, others⟩ := List.forall_mem_cons.mp each
    rw [List.flatMap_cons, ih others]
    by_cases full : sized frame = true
    · rw [List.filter_cons_of_pos full, List.flatMap_cons]
    · obtain ⟨rows, typed⟩ := Option.isSome_iff_exists.mp fits
      have size := (typedRows_spec typed).2.2.2.1
      have empty : env.rowsOf cfg frame = [] := by
        rw [Setting.rowsOf, typed, Option.getD_some]
        exact List.length_eq_zero_iff.mp (size.trans (by simpa [sized] using full))
      rw [List.filter_cons_of_neg full, empty, List.nil_append]

/-- A batch that is archived at all, its frames that hold a detection read back. -/
theorem forall₂_faithful_iff (config : env.cfgGeometry = some cfg)
    (fits : ∀ frame ∈ frames, (env.typedRows cfg frame).isSome) :
    List.Forall₂ (Faithful env) (env.chronological frames)
        (readParquet ((frames.filter sized).flatMap (env.rowsOf cfg))).detections ↔
      ((frames.filter sized).map env.stamp).Nodup ∧ ∀ frame ∈ frames, sized frame = true → Regular frame := by
  have stamped := stamped_rowsOf fits
  have every (distinct : ((frames.filter sized).map env.stamp).Nodup) :
      List.Forall₂ (Faithful env) (env.chronological frames)
          (readParquet ((frames.filter sized).flatMap (env.rowsOf cfg))).detections ↔
        ∀ frame ∈ frames, sized frame = true → Regular frame := by
    refine (Partial.forall₂_iff_of_map_some (detections_eq _ env.stamp _ stamped distinct)).trans ?_
    have regular (frame : Fields) (member : frame ∈ frames) (full : sized frame = true) :
        (∀ fr, frameOf (env.rowsOf cfg frame) = some fr → Faithful env frame fr) ↔ Regular frame := by
      obtain ⟨rows, typed⟩ := Option.isSome_iff_exists.mp (fits frame member)
      have made := (stamped frame (List.mem_filter.mpr ⟨member, full⟩)).1
      rw [Setting.rowsOf, typed, Option.getD_some] at made ⊢
      obtain ⟨r, rest, rfl⟩ := List.exists_cons_of_ne_nil made
      constructor
      · exact fun faithful => (faithful_iff config typed rfl).mp (faithful _ rfl)
      · exact fun sound fr here => (faithful_iff config typed here).mpr sound
    constructor
    · intro faithful frame member full
      refine (regular frame member full).mp (faithful frame ?_)
      exact (List.mem_insertionSort _).mpr (List.mem_filter.mpr ⟨member, full⟩)
    · intro sound frame listed
      obtain ⟨member, full⟩ := List.mem_filter.mp ((List.mem_insertionSort _).mp listed)
      exact (regular frame member full).mpr (sound frame member full)
  constructor
  · intro faithful
    have count := faithful.length_eq.symm
    rw [Setting.chronological, List.length_insertionSort] at count
    have distinct := nodup_of_count _ env.stamp _ stamped count
    exact ⟨distinct, (every distinct).mp faithful⟩
  · exact fun ⟨distinct, sound⟩ => (every distinct).mpr sound

theorem readArchivedFile_insert (files : Files) (key : String) (rows : Table) :
    readArchivedFile (files.insert key rows) key = some (readParquet rows) := by
  rw [readArchivedFile, Dict.get?_insert_self]
  rfl

/-- What is archived reads back as it was exactly when no two frames with detections
have one timestamp, the arrays of each are of one length, and every aircraft of it is
at a detection and has a hex. -/
theorem round_trips_iff (env : Setting) (files : Files) (key : String) (frames : List Fields) :
    RoundTrips env files key frames ↔ (Archivable env frames →
      ((frames.filter sized).map env.stamp).Nodup ∧ ∀ frame ∈ frames, sized frame = true → Regular frame) := by
  constructor
  · rintro trips ⟨cfg, config, fits⟩
    obtain ⟨lists, typed⟩ := Option.isSome_iff_exists.mp ((Partial.mapM_isSome_iff (env.typedRows cfg) frames).mpr fits)
    have rows := flatten_eq typed
    by_cases empty : lists.flatten = []
    · have none_sized : frames.filter sized = [] := by
        by_contra some_sized
        obtain ⟨frame, rest, here⟩ := List.exists_cons_of_ne_nil some_sized
        have member : frame ∈ frames.filter sized := by
          rw [here]
          exact List.mem_cons_self
        rw [rows, List.flatMap_eq_nil_iff] at empty
        exact (stamped_rowsOf fits frame member).1 (empty frame member)
      refine ⟨by rw [none_sized]; exact List.nodup_nil, fun frame member full => ?_⟩
      have listed : frame ∈ frames.filter sized := List.mem_filter.mpr ⟨member, full⟩
      rw [none_sized] at listed
      exact nomatch listed
    · have written : env.archiveDetections files key frames = some (files.insert key lists.flatten, some key) := by
        rw [Setting.archiveDetections, writeDetections_eq config, typed, Option.map_some, if_neg empty]
        rfl
      obtain ⟨file, read, faithful⟩ := trips _ written
      obtain rfl := Option.some.inj ((readArchivedFile_insert files key _).symm.trans read)
      rw [rows] at faithful
      exact (forall₂_faithful_iff config fits).mp faithful
  · intro sound files' done
    obtain ⟨file, written, made⟩ := Option.map_eq_some_iff.mp done
    cases file with
    | none => exact nomatch congrArg Prod.snd made
    | some rows =>
      obtain rfl : files.insert key rows = files' := congrArg Prod.fst made
      cases config : env.cfgGeometry with
      | none =>
        rw [writeDetections_unconfigured config] at written
        split at written <;> exact nomatch written
      | some cfg =>
        rw [writeDetections_eq config] at written
        obtain ⟨lists, typed, same⟩ := Option.map_eq_some_iff.mp written
        have fits := (Partial.mapM_isSome_iff (env.typedRows cfg) frames).mp (by rw [typed]; rfl)
        split at same
        · exact nomatch same
        · obtain rfl := Option.some.inj same
          refine ⟨_, readArchivedFile_insert files key _, ?_⟩
          rw [flatten_eq typed]
          exact (forall₂_faithful_iff config fits).mpr (sound ⟨cfg, config, fits⟩)

/-- A node without a config, where nothing is fuzzed and no text is a number. -/
def bareSetting : Setting where
  text := { parse := fun _ => none, repr := fun _ => "", str := fun _ => "" }
  parseInt := fun _ => none
  geo := { kmPerDegLat := 111, haversineKm := fun _ _ _ _ => 0, offsetLatlon := fun lat lon _ _ => (lat, lon) }
  fuzz := { enabled := false, minKm := 1, maxKm := 3, displacement := fun _ => (0, 0) }
  clustering := { identities := Dict.empty, joined := Dict.empty, anchors := [] }
  nodeId := "node-A"
  nodeCfg := []
  ingestTsMs := 1700000000500

def oneDetection (timestamp : ℤ) (delay : ℚ) : Fields :=
  [("timestamp", .int timestamp), ("delay", .list [.float (.fin delay)]), ("doppler", .list [.float (.fin (-50))]),
    ("snr", .list [.float (.fin 12)])]

/-- Two frames of one timestamp come back as one. -/
theorem one_timestamp_one_frame : ¬ RoundTrips bareSetting Dict.empty "part-143022-0.parquet"
    [oneDetection 1700000000000 10, oneDetection 1700000000000 11] := by
  intro trips
  have read : (bareSetting.archiveDetections Dict.empty "part-143022-0.parquet"
      [oneDetection 1700000000000 10, oneDetection 1700000000000 11]).map (fun archived =>
        (archived.2, (readArchivedFile archived.1 "part-143022-0.parquet").map Legacy.count)) =
      some (some "part-143022-0.parquet", some 1) := by decide +kernel
  obtain ⟨⟨files, key⟩, archived, same⟩ := Option.map_eq_some_iff.mp read
  obtain ⟨rfl, one⟩ := Prod.mk.injEq .. ▸ same
  obtain ⟨file, found, faithful⟩ := trips files archived
  rw [found] at one
  have both : (bareSetting.chronological
      [oneDetection 1700000000000 10, oneDetection 1700000000000 11]).length = 2 := by decide +kernel
  exact absurd (both.symm.trans (faithful.length_eq.trans (Option.some.inj one))) (by decide)

end Retina.Parquet
