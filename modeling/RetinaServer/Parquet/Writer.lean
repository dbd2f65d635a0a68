import RetinaServer.Parquet.Columns
import RetinaServer.Library.Partial

/-! A batch of frames as one table, a row for each detection. An exception at any
value of any frame leaves no table. -/
namespace Retina.Parquet
open OrderedDict Tcp Frames

/-- What the writer is handed beside the frames: the runtime's conversions of text,
where positions are published, the node and its CONFIG, and the time. -/
structure Setting where
  text : PyText
  parseInt : String → Option ℤ
  geo : Sites.Geodesy
  fuzz : Sites.Fuzz
  clustering : Sites.Clustering
  nodeId : String
  nodeCfg : Fields
  ingestTsMs : ℤ

variable (env : Setting)

def published : RawNumber → Option PyFloat
  | .num x => some (.fin x)
  | .other _ => none

/-- The published position. What is no usable number passes through. -/
def Setting.publicLatlon (lat lon : Option PyFloat) : Option PyFloat × Option PyFloat :=
  match lat, lon with
  | some (.fin x), some (.fin y) =>
    let point := Sites.publicLatlon env.geo env.fuzz env.clustering (.num x) (.num y) env.nodeId
    (published point.1, published point.2)
  | _, _ => (lat, lon)

/-- Some legacy configs spell the two frequencies `FC` and `Fs`. -/
def Setting.cfgGeometry : Option Geometry := do
  let rxLat ← getFloat env.text env.nodeCfg "rx_lat"
  let rxLon ← getFloat env.text env.nodeCfg "rx_lon"
  let rxAltFt ← getFloat env.text env.nodeCfg "rx_alt_ft"
  let txLat ← getFloat env.text env.nodeCfg "tx_lat"
  let txLon ← getFloat env.text env.nodeCfg "tx_lon"
  let txAltFt ← getFloat env.text env.nodeCfg "tx_alt_ft"
  let fcHz ← getFloat env.text env.nodeCfg "fc_hz"
  let fcHz ← if fcHz = none then getFloat env.text env.nodeCfg "FC" else some fcHz
  let fsHz ← getFloat env.text env.nodeCfg "fs_hz"
  let fsHz ← if fsHz = none then getFloat env.text env.nodeCfg "Fs" else some fsHz
  return { rxLat, rxLon, rxAltFt, txLat, txLon, txAltFt, fcHz, fsHz }

/-- A value of the frame's own goes before the config's, and the receiver's position is published. -/
def Setting.frameGeometry (cfg : Geometry) (frame : Fields) : Option Geometry := do
  let rxLat ← getFloat env.text frame "rx_lat"
  let rxLon ← getFloat env.text frame "rx_lon"
  let rxAltFt ← getFloat env.text frame "rx_alt_ft"
  let txLat ← getFloat env.text frame "tx_lat"
  let txLon ← getFloat env.text frame "tx_lon"
  let txAltFt ← getFloat env.text frame "tx_alt_ft"
  let fcHz ← getFloat env.text frame "fc_hz"
  let fsHz ← getFloat env.text frame "fs_hz"
  let rx := env.publicLatlon (rxLat.or cfg.rxLat) (rxLon.or cfg.rxLon)
  return {
    rxLat := rx.1, rxLon := rx.2, rxAltFt := rxAltFt.or cfg.rxAltFt
    txLat := txLat.or cfg.txLat, txLon := txLon.or cfg.txLon, txAltFt := txAltFt.or cfg.txAltFt
    fcHz := fcHz.or cfg.fcHz, fsHz := fsHz.or cfg.fsHz }

/-- A value that can be measured and indexed: a list, or a text by its characters. -/
def sequence : Json → Option (List Json)
  | .list items => some items
  | .str s => some (s.toList.map fun c => .str (String.singleton c))
  | _ => none

/-- `frame.get(key) or []`, measured and indexed. -/
def arrayOf (frame : Fields) (key : String) : Option (List Json) :=
  let v := get frame key .null
  if v.truthy then sequence v else some []

/-- `int(frame.get("timestamp", 0) or 0)`. -/
def Setting.timestampOf (frame : Fields) : Option ℤ :=
  let v := get frame "timestamp" (.int 0)
  match (if v.truthy then v else .int 0).toInt env.parseInt with
  | .converted n => some n
  | _ => none

def signingMode (frame : Fields) : Json :=
  let v := get frame "_signing_mode" .null
  if v.truthy then v else get frame "signing_mode" .null

def signatureValid (frame : Fields) : Option Bool :=
  let v := get frame "_signature_valid" .null
  let v := if v.isNull then get frame "signature_valid" .null else v
  if v.isNull then none else some v.truthy

/-- `frame.get(key) or None`. -/
def orNone (frame : Fields) (key : String) : Json :=
  let v := get frame key .null
  if v.truthy then v else .null

/-- A frame as its rows share it. -/
structure FrameValues where
  frameTs : ℤ
  epoch : Option ℤ
  geometry : Geometry
  delay : List Json
  doppler : List Json
  snr : List Json
  adsb : List Json

def detections (delay doppler snr : List Json) : Nat := max delay.length (max doppler.length snr.length)

def FrameValues.size (v : FrameValues) : Nat := detections v.delay v.doppler v.snr

/-- `adsb[i]` where it is a dictionary, and an empty one elsewhere. -/
def entryAt (adsb : List Json) (i : Nat) : Fields :=
  match adsb[i]? with
  | some (.dict fields) => fields
  | _ => []

/-- A frame without detections has no rows, whatever else is in it. -/
def Setting.frameValues (cfg : Geometry) (frame : Fields) : Option (Option FrameValues) := do
  let delay ← arrayOf frame "delay"
  let doppler ← arrayOf frame "doppler"
  let snr ← arrayOf frame "snr"
  if detections delay doppler snr = 0 then return none
  let frameTs ← env.timestampOf frame
  let epoch ← getInt env.parseInt frame "epoch"
  let geometry ← env.frameGeometry cfg frame
  let adsb ← arrayOf frame "adsb"
  return some { frameTs, epoch, geometry, delay, doppler, snr, adsb }

def Setting.adsbColumns (ae : Fields) : Option (AdsbColumns Json) := do
  let lat ← getFloat env.text ae "lat"
  let lon ← getFloat env.text ae "lon"
  let altBaro ← getInt env.parseInt ae "alt_baro"
  let gs ← getFloat env.text ae "gs"
  let track ← getFloat env.text ae "track"
  return {
    hex := get ae "hex" .null, lat, lon, altBaro, gs, track
    flight := get ae "flight" .null, squawk := get ae "squawk" .null, category := get ae "category" .null }

def Setting.row (frame : Fields) (v : FrameValues) (i : Nat) : Option (Row Json) := do
  let delayUs ← safeFloat env.text v.delay i
  let dopplerHz ← safeFloat env.text v.doppler i
  let snrDb ← safeFloat env.text v.snr i
  let adsb ← env.adsbColumns (entryAt v.adsb i)
  return {
    frameTsMs := v.frameTs, ingestTsMs := env.ingestTsMs, nodeId := env.nodeId, detectionIndex := i
    delayUs, dopplerHz, snrDb, adsb
    signingMode := signingMode frame, signatureValid := signatureValid frame
    payloadHash := orNone frame "payload_hash", signature := orNone frame "signature"
    geometry := v.geometry, epoch := v.epoch }

def Setting.flattenFrame (cfg : Geometry) (frame : Fields) : Option (List (Row Json)) :=
  (env.frameValues cfg frame).bind fun values =>
    values.elim (some []) fun v => (List.range v.size).mapM (env.row frame v)

/-- `_flatten`. -/
def Setting.flatten (frames : List Fields) : Option (List (Row Json)) :=
  env.cfgGeometry.bind fun cfg => (frames.mapM (env.flattenFrame cfg)).map List.flatten

abbrev Table := List (Row (Option String))

/-- `pa.table`: every value of every column has to fit. -/
def table (rows : List (Row Json)) : Option Table := rows.mapM Row.fit

/-- `write_detections_parquet`, up to the file: the outer `none` is an exception, the
inner one that there is nothing to write. -/
def Setting.writeDetections (frames : List Fields) : Option (Option Table) :=
  if frames = [] then some none
  else (env.flatten frames).bind fun rows => if rows = [] then some none else (table rows).map some

/-- The rows of one frame, where its values fit. -/
def Setting.typedRows (cfg : Geometry) (frame : Fields) : Option Table := (env.flattenFrame cfg frame).bind table

variable {env}

/-- The table of a batch is the rows of its frames, one after another. -/
theorem flatten_table {cfg : Geometry} (config : env.cfgGeometry = some cfg) (frames : List Fields) :
    (env.flatten frames).bind table = (frames.mapM (env.typedRows cfg)).map List.flatten := by
  have each : frames.mapM (env.typedRows cfg) =
      (frames.mapM (env.flattenFrame cfg)).bind fun lists => lists.mapM table :=
    (Partial.mapM_bind (env.flattenFrame cfg) table frames).symm
  rw [each, Setting.flatten, config, Option.bind_some]
  cases frames.mapM (env.flattenFrame cfg) with
  | none => rfl
  | some lists => exact Partial.mapM_flatten Row.fit lists

/-- Without a usable config nothing is written. -/
theorem writeDetections_unconfigured (config : env.cfgGeometry = none) (frames : List Fields) :
    env.writeDetections frames = if frames = [] then some none else none := by
  rw [Setting.writeDetections, Setting.flatten, config]
  rfl

theorem writeDetections_eq {cfg : Geometry} (config : env.cfgGeometry = some cfg) (frames : List Fields) :
    env.writeDetections frames = (frames.mapM (env.typedRows cfg)).map fun lists =>
      if lists.flatten = [] then none else some lists.flatten := by
  have whole := flatten_table config frames
  rw [Setting.writeDetections]
  split
  · rename_i empty
    subst empty
    rfl
  · cases rows : env.flatten frames with
    | none =>
      rw [rows, Option.bind_none] at whole
      rw [Option.map_eq_none_iff.mp whole.symm]
      rfl
    | some raw =>
      rw [rows, Option.bind_some] at whole
      rw [Option.bind_some]
      cases typed : frames.mapM (env.typedRows cfg) with
      | none =>
        rw [typed, Option.map_none] at whole
        have some_row : raw ≠ [] := by
          rintro rfl
          exact nomatch whole
        rw [if_neg some_row, whole]
        rfl
      | some lists =>
        rw [typed, Option.map_some] at whole
        have length := Partial.length_mapM whole
        by_cases none_ : raw = []
        · have none_typed : lists.flatten = [] := List.length_eq_zero_iff.mp (by rw [length, none_]; rfl)
          rw [if_pos none_, Option.map_some, if_pos none_typed]
        · have some_typed : lists.flatten ≠ [] := fun empty =>
            none_ (List.length_eq_zero_iff.mp (by rw [← length, empty]; rfl))
          rw [if_neg none_, whole, Option.map_some, Option.map_some, if_neg some_typed]

end Retina.Parquet
