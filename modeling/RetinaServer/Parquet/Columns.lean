import RetinaServer.Tcp.Json
import RetinaServer.Sites.PublicLocation

/-! The archive's columns: what a value is coerced to on its way to one, and what of
that its type can hold. The `none` of an outer option is an exception. -/
namespace Retina.Parquet
open OrderedDict Tcp

section Coercions
variable (text : PyText) (parseInt : String → Option ℤ)

/-- `float(v) if v is not None else None`, where only a `TypeError` or `ValueError` is caught. -/
def asFloat : Json → Option (Option PyFloat)
  | .null => some none
  | v => match text.float v with
    | .converted x => some (some x)
    | .invalid => some none
    | .overflow => none

def asInt : Json → Option (Option ℤ)
  | .null => some none
  | v => match v.toInt parseInt with
    | .converted n => some (some n)
    | .invalid => some none
    | .overflow => none

def safeFloat (arr : List Json) (i : Nat) : Option (Option PyFloat) := (arr[i]?).elim (some none) (asFloat text)

/-- An absent dictionary is an empty one. -/
def getFloat (d : Fields) (key : String) : Option (Option PyFloat) := asFloat text (get d key .null)

def getInt (d : Fields) (key : String) : Option (Option ℤ) := asInt parseInt (get d key .null)

end Coercions

structure Geometry where
  rxLat : Option PyFloat
  rxLon : Option PyFloat
  rxAltFt : Option PyFloat
  txLat : Option PyFloat
  txLon : Option PyFloat
  txAltFt : Option PyFloat
  fcHz : Option PyFloat
  fsHz : Option PyFloat
deriving DecidableEq

/-- `τ` is what stands in a text column: any value before it is checked, a text or null after. -/
structure AdsbColumns (τ : Type) where
  hex : τ
  lat : Option PyFloat
  lon : Option PyFloat
  altBaro : Option ℤ
  gs : Option PyFloat
  track : Option PyFloat
  flight : τ
  squawk : τ
  category : τ
deriving DecidableEq

structure Row (τ : Type) where
  frameTsMs : ℤ
  ingestTsMs : ℤ
  nodeId : String
  detectionIndex : ℤ
  delayUs : Option PyFloat
  dopplerHz : Option PyFloat
  snrDb : Option PyFloat
  adsb : AdsbColumns τ
  signingMode : τ
  signatureValid : Option Bool
  payloadHash : τ
  signature : τ
  geometry : Geometry
  epoch : Option ℤ
deriving DecidableEq

def fitInt (bits : Nat) (n : ℤ) : Option ℤ := if -2 ^ (bits - 1) ≤ n ∧ n < 2 ^ (bits - 1) then some n else none

def fitIntOrNull (bits : Nat) : Option ℤ → Option (Option ℤ)
  | none => some none
  | some n => (fitInt bits n).map some

def fitText : Json → Option (Option String)
  | .null => some none
  | .str s => some (some s)
  | _ => none

def AdsbColumns.fit (a : AdsbColumns Json) : Option (AdsbColumns (Option String)) := do
  let hex ← fitText a.hex
  let altBaro ← fitIntOrNull 32 a.altBaro
  let flight ← fitText a.flight
  let squawk ← fitText a.squawk
  let category ← fitText a.category
  return { hex, lat := a.lat, lon := a.lon, altBaro, gs := a.gs, track := a.track, flight, squawk, category }

def Row.fit (r : Row Json) : Option (Row (Option String)) := do
  let frameTsMs ← fitInt 64 r.frameTsMs
  let ingestTsMs ← fitInt 64 r.ingestTsMs
  let detectionIndex ← fitInt 32 r.detectionIndex
  let adsb ← r.adsb.fit
  let signingMode ← fitText r.signingMode
  let payloadHash ← fitText r.payloadHash
  let signature ← fitText r.signature
  let epoch ← fitIntOrNull 32 r.epoch
  return {
    frameTsMs, ingestTsMs, nodeId := r.nodeId, detectionIndex
    delayUs := r.delayUs, dopplerHz := r.dopplerHz, snrDb := r.snrDb
    adsb, signingMode, signatureValid := r.signatureValid, payloadHash, signature
    geometry := r.geometry, epoch }

theorem fitInt_eq (fits : fitInt bits n = some m) : m = n := by
  rw [fitInt] at fits
  split at fits
  · exact (Option.some.inj fits).symm
  · exact nomatch fits

theorem fitIntOrNull_eq {n m : Option ℤ} (fits : fitIntOrNull bits n = some m) : m = n := by
  cases n with
  | none => exact (Option.some.inj fits).symm
  | some n =>
    obtain ⟨n', same, rfl⟩ := Option.map_eq_some_iff.mp fits
    rw [fitInt_eq same]

/-- The columns that a row keeps as they are. -/
theorem Row.fit_spec {r : Row Json} {r' : Row (Option String)} (fits : r.fit = some r') :
    r'.frameTsMs = r.frameTsMs ∧ r'.nodeId = r.nodeId ∧ r'.delayUs = r.delayUs ∧ r'.dopplerHz = r.dopplerHz ∧
      r'.snrDb = r.snrDb ∧ r.adsb.fit = some r'.adsb ∧ fitText r.signingMode = some r'.signingMode ∧
      r'.signatureValid = r.signatureValid ∧ r'.geometry = r.geometry ∧ r'.epoch = r.epoch := by
  simp only [Row.fit, Option.bind_eq_bind, Option.bind_eq_some_iff, Option.pure_def, Option.some.injEq] at fits
  obtain ⟨ts, fits_ts, _, _, _, _, adsb, fits_adsb, mode, fits_mode, _, _, _, _, epoch, fits_epoch, rfl⟩ := fits
  exact ⟨fitInt_eq fits_ts, rfl, rfl, rfl, rfl, fits_adsb, fits_mode, rfl, rfl, fitIntOrNull_eq fits_epoch⟩

theorem AdsbColumns.fit_hex {a : AdsbColumns Json} {a' : AdsbColumns (Option String)} (fits : a.fit = some a') :
    fitText a.hex = some a'.hex := by
  simp only [AdsbColumns.fit, Option.bind_eq_bind, Option.bind_eq_some_iff, Option.pure_def, Option.some.injEq] at fits
  obtain ⟨hex, fits_hex, _, _, _, _, _, _, _, _, rfl⟩ := fits
  exact fits_hex

end Retina.Parquet
