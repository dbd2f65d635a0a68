import RetinaServer.Tcp.ConfigGate

/-! The canonical configuration as a projection of what was declared: read again it is itself, and it
holds no coordinate that the object did not declare for that end. -/
namespace Retina.Tcp
open OrderedDict

variable (text : PyText)

/-! ### What the parser lets out

The exceptions of `float` beside the handlers around it; `none` is one that nothing catches. -/

/-- `isinstance(value, (int, float))` and no boolean. -/
def isPlainNumber : Json → Bool
  | .int _ | .float _ => true
  | _ => false

/-- `_as_finite_float(value)[0]`, which catches the overflow. -/
def runAsFiniteFloat (value : Json) : Option (Option PyFloat) :=
  if !isPlainNumber value then some none
  else match text.float value with
    | .overflow => some none
    | .invalid => none
    | .converted x => some (if x.isFinite then some x else none)

/-- `_finite_float(value)`, which catches what `float` says of text. -/
def runFiniteFloat : Json → Option (Option PyFloat)
  | .str s => match text.float (.str s) with
      | .invalid => some none
      | .overflow => none
      | .converted x => runAsFiniteFloat text (.float x)
  | value => runAsFiniteFloat text value

def runPair (config : Fields) (latField lonField : String) : Option Fields := do
  let lat ← runFiniteFloat text (get config latField .null)
  let lon ← runFiniteFloat text (get config lonField .null)
  let pair := placedPair lat lon
  some (put lonField (floatOrNull (pair.map Prod.snd)) (put latField (floatOrNull (pair.map Prod.fst)) config))

def runAltitude (config : Fields) (field : String) : Option Fields := do
  let altitude ← runFiniteFloat text (get config field .null)
  some (put field (floatOrNull altitude) config)

/-- `canonical_config(raw)`. -/
def runCanonicalConfig : Json → Option Fields
  | .dict raw => do
      let config := foldLegacy (foldLegacy raw "rx_lat" "lat") "rx_lon" "lon"
      let config ← runPair text (popKey "lon" (popKey "lat" config)) "rx_lat" "rx_lon"
      let config ← runPair text config "tx_lat" "tx_lon"
      let config ← runAltitude text config "rx_alt_ft"
      runAltitude text config "tx_alt_ft"
  | _ => some []

theorem runAsFiniteFloat_returns (value : Json) : runAsFiniteFloat text value = some (asFiniteFloat value) := by
  cases value with
  | int n =>
    simp only [runAsFiniteFloat, isPlainNumber, PyText.float, asFiniteFloat]
    by_cases large : floatCeiling ≤ |n|
    · simp [large]
    · simp [large, PyFloat.isFinite]
  | float x => rfl
  | null | bool _ | str _ | list _ | dict _ => rfl

/-- Whatever the value, nothing gets out of the parse. -/
theorem runFiniteFloat_returns (value : Json) : runFiniteFloat text value = some (finiteFloat text value) := by
  cases value with
  | str s =>
    simp only [runFiniteFloat, PyText.float, finiteFloat]
    cases text.parse s with
    | none => rfl
    | some x => exact runAsFiniteFloat_returns text (.float x)
  | null | bool _ | int _ | float _ | list _ | dict _ => exact runAsFiniteFloat_returns text _

theorem runCanonicalConfig_returns (value : Json) : runCanonicalConfig text value = some (canonicalConfig text value) := by
  have pair (config : Fields) (latField lonField : String) :
      runPair text config latField lonField = some (canonicalPair text config latField lonField) := by
    rw [runPair, runFiniteFloat_returns, runFiniteFloat_returns]
    rfl
  have altitude (config : Fields) (field : String) :
      runAltitude text config field = some (canonicalAltitude text config field) := by
    rw [runAltitude, runFiniteFloat_returns]
    rfl
  cases value with
  | dict raw =>
    simp only [runCanonicalConfig, pair, altitude, Option.bind_eq_bind, Option.bind_some]
    rfl
  | null | bool _ | int _ | float _ | str _ | list _ => rfl

/-! ### What it holds -/

/-- Both axes are there, as two finite numbers other than the pair of zeros or as two nulls. -/
def EndPlaced (config : Fields) (latField lonField : String) : Prop :=
  ∃ lat lon, lookup latField config = some lat ∧ lookup lonField config = some lon ∧ PairPlaced lat lon

/-- The fields that are rewritten or dropped. -/
def rewrittenFields : List String := ["lat", "lon", "rx_lat", "rx_lon", "tx_lat", "tx_lon", "rx_alt_ft", "tx_alt_ft"]

/-- The configuration keeps to what the object `raw` declared. -/
structure Projection (raw config : Fields) : Prop where
  idempotent : canonicalConfig text (.dict config) = config
  receiver : EndPlaced config "rx_lat" "rx_lon"
  transmitter : EndPlaced config "tx_lat" "tx_lon"
  /-- A receiver stands at the coordinates declared for it, in the new spelling or, for an axis without
  it, the legacy one. -/
  receiver_declared : ∀ x y, lookup "rx_lat" config = some (.float x) → lookup "rx_lon" config = some (.float y) →
    finiteFloat text (latitudeOf raw) = some x ∧ finiteFloat text (longitudeOf raw) = some y
  transmitter_declared : ∀ x y, lookup "tx_lat" config = some (.float x) → lookup "tx_lon" config = some (.float y) →
    finiteFloat text (get raw "tx_lat" .null) = some x ∧ finiteFloat text (get raw "tx_lon" .null) = some y
  explicit_null : lookup "rx_lat" raw = some .null ∨ lookup "rx_lon" raw = some .null →
    lookup "rx_lat" config = some .null ∧ lookup "rx_lon" config = some .null
  altitudes : ∀ field ∈ ["rx_alt_ft", "tx_alt_ft"],
    lookup field config = some (floatOrNull (finiteFloat text (get raw field .null)))
  legacy : ∀ field ∈ ["lat", "lon"], lookup field config = none
  others : ∀ key ∉ rewrittenFields, lookup key config = lookup key raw

theorem lookup_eq_of_get {config config' : Fields} (same : ∀ default, get config key default = get config' key default) :
    lookup key config = lookup key config' := by
  have null := same .null
  have bool := same (.bool true)
  rw [get, get] at null bool
  cases held : lookup key config with
  | none =>
    cases held' : lookup key config' with
    | none => rfl
    | some value =>
      rw [held, held'] at null bool
      cases null.trans bool.symm
  | some value =>
    cases held' : lookup key config' with
    | none =>
      rw [held, held'] at null bool
      cases null.symm.trans bool
    | some value' =>
      rw [held, held'] at null
      exact congrArg some null

/-- The passes after the legacy spelling is folded write the fields they name and no other. -/
theorem get_canonicalConfig (raw : Fields) (default : Json) (unwritten : key ∉ rewrittenFields) :
    get (canonicalConfig text (.dict raw)) key default = get raw key default := by
  simp only [rewrittenFields, List.mem_cons, List.not_mem_nil, or_false, not_or] at unwritten
  obtain ⟨lat, lon, rxLat, rxLon, txLat, txLon, rxAlt, txAlt⟩ := unwritten
  simp only [canonicalConfig, canonicalAltitude, canonicalPair, get_put, if_neg rxLat, if_neg rxLon, if_neg txLat,
    if_neg txLon, if_neg rxAlt, if_neg txAlt]
  rw [get_popKey _ _ lon, get_popKey _ _ lat, get_foldLegacy_ne _ _ _ rxLon, get_foldLegacy_ne _ _ _ rxLat]

/-- The fields without a legacy spelling reach their pass as they were declared. -/
theorem get_folded (raw : Fields) (key : String) (lat : key ≠ "lat") (lon : key ≠ "lon") (rxLat : key ≠ "rx_lat") (rxLon : key ≠ "rx_lon") :
    get (popKey "lon" (popKey "lat" (foldLegacy (foldLegacy raw "rx_lat" "lat") "rx_lon" "lon"))) key .null =
      get raw key .null := by
  rw [get_popKey _ _ lon, get_popKey _ _ lat, get_foldLegacy_ne _ _ _ rxLon, get_foldLegacy_ne _ _ _ rxLat]

theorem canonicalConfig_transmitter (raw : Fields) :
    get (canonicalConfig text (.dict raw)) "tx_lat" .null = floatOrNull
        ((placedPair (finiteFloat text (get raw "tx_lat" .null)) (finiteFloat text (get raw "tx_lon" .null))).map Prod.fst) ∧
      get (canonicalConfig text (.dict raw)) "tx_lon" .null = floatOrNull
        ((placedPair (finiteFloat text (get raw "tx_lat" .null)) (finiteFloat text (get raw "tx_lon" .null))).map Prod.snd) := by
  have lat := get_folded raw "tx_lat" (by decide) (by decide) (by decide) (by decide)
  have lon := get_folded raw "tx_lon" (by decide) (by decide) (by decide) (by decide)
  simp only [canonicalConfig, canonicalAltitude, canonicalPair, get_put]
  simp [lat, lon]

theorem lookup_altitude (raw : Fields) (listed : field ∈ ["rx_alt_ft", "tx_alt_ft"]) :
    lookup field (canonicalConfig text (.dict raw)) = some (floatOrNull (finiteFloat text (get raw field .null))) := by
  simp only [List.mem_cons, List.not_mem_nil, or_false] at listed
  rcases listed with rfl | rfl
  · have declared := get_folded raw "rx_alt_ft" (by decide) (by decide) (by decide) (by decide)
    simp [canonicalConfig, canonicalAltitude, canonicalPair, lookup_put, get_put, declared]
  · have declared := get_folded raw "tx_alt_ft" (by decide) (by decide) (by decide) (by decide)
    simp [canonicalConfig, canonicalAltitude, canonicalPair, lookup_put, get_put, declared]

/-- A coordinate of the pair is one of its two numbers. -/
theorem placedPair_declared (lat : floatOrNull ((placedPair a b).map Prod.fst) = .float x)
    (lon : floatOrNull ((placedPair a b).map Prod.snd) = .float y) : a = some x ∧ b = some y := by
  cases a with
  | none => cases lat
  | some a =>
    cases b with
    | none => cases lat
    | some b =>
      simp only [placedPair] at lat lon
      split at lat
      · cases lat
      · rename_i nonzero
        rw [if_neg nonzero] at lon
        exact ⟨congrArg some (Json.float.inj lat), congrArg some (Json.float.inj lon)⟩

theorem latitudeOf_of_named (named : lookup "rx_lat" raw = some value) : latitudeOf raw = value := by
  rw [latitudeOf, getWithLegacy, get, named, Option.getD_some]

theorem longitudeOf_of_named (named : lookup "rx_lon" raw = some value) : longitudeOf raw = value := by
  rw [longitudeOf, getWithLegacy, get, named, Option.getD_some]

/-- Nothing is placed from a null. -/
theorem placedPair_null (null : a = none ∨ b = none) : placedPair a b = none := by
  rcases null with rfl | rfl
  · rfl
  · cases a <;> rfl

theorem get_of_lookup {config : Fields} (held : lookup key config = some value) : get config key .null = value := by
  rw [get, held, Option.getD_some]

theorem canonicalConfig_projects (raw : Fields) : Projection text raw (canonicalConfig text (.dict raw)) := by
  have held : ∀ field ∈ ["rx_lat", "rx_lon", "tx_lat", "tx_lon"],
      lookup field (canonicalConfig text (.dict raw)) = some (get (canonicalConfig text (.dict raw)) field .null) := by
    simp [canonicalConfig, canonicalAltitude, canonicalPair, get, lookup_put]
  obtain ⟨receiver, transmitter⟩ := canonicalConfig_placed text raw
  obtain ⟨rxLat, rxLon⟩ := canonicalConfig_receiver text raw
  obtain ⟨txLat, txLon⟩ := canonicalConfig_transmitter text raw
  constructor
  · exact canonicalConfig_idempotent text raw
  · exact ⟨_, _, held "rx_lat" (by simp), held "rx_lon" (by simp), receiver⟩
  · exact ⟨_, _, held "tx_lat" (by simp), held "tx_lon" (by simp), transmitter⟩
  · intro x y lat lon
    exact placedPair_declared (rxLat.symm.trans (get_of_lookup lat)) (rxLon.symm.trans (get_of_lookup lon))
  · intro x y lat lon
    exact placedPair_declared (txLat.symm.trans (get_of_lookup lat)) (txLon.symm.trans (get_of_lookup lon))
  · intro null
    have unplaced : placedPair (finiteFloat text (latitudeOf raw)) (finiteFloat text (longitudeOf raw)) = none := by
      refine placedPair_null (null.imp ?_ ?_)
      · intro named
        rw [latitudeOf_of_named named]
        rfl
      · intro named
        rw [longitudeOf_of_named named]
        rfl
    rw [unplaced] at rxLat rxLon
    rw [held "rx_lat" (by simp), held "rx_lon" (by simp), rxLat, rxLon]
    exact ⟨rfl, rfl⟩
  · intro field listed
    exact lookup_altitude text raw listed
  · intro field listed
    have dropped : ∀ legacy ∈ ["lat", "lon"],
        lookup legacy (popKey "lon" (popKey "lat" (foldLegacy (foldLegacy raw "rx_lat" "lat") "rx_lon" "lon"))) = none := by
      intro legacy either
      simp only [List.mem_cons, List.not_mem_nil, or_false] at either
      rcases either with rfl | rfl
      · exact lookup_popKey_of_none _ (lookup_popKey_self "lat" _)
      · exact lookup_popKey_self "lon" _
    have gone := dropped field listed
    simp only [List.mem_cons, List.not_mem_nil, or_false] at listed
    rcases listed with rfl | rfl <;>
      simp [canonicalConfig, canonicalAltitude, canonicalPair, lookup_put, gone]
  · intro key unwritten
    exact lookup_eq_of_get fun default => get_canonicalConfig text raw default unwritten

/-- Whatever comes in, the canonicaliser returns: nothing for what is no object, and for an object
what it declared. -/
theorem canonicalConfig_returns_projection (value : Json) :
    runCanonicalConfig text value = some (canonicalConfig text value) ∧
      ((∀ raw, value ≠ .dict raw) → canonicalConfig text value = []) ∧
      ∀ raw, value = .dict raw → Projection text raw (canonicalConfig text value) := by
  refine ⟨runCanonicalConfig_returns text value, ?_, ?_⟩
  · intro other
    cases value with
    | dict raw => exact absurd rfl (other raw)
    | null | bool _ | int _ | float _ | str _ | list _ => rfl
  · rintro raw rfl
    exact canonicalConfig_projects text raw

/-- What is no object comes out without the ends, and so is not canonical itself; and an altitude is
parsed like a coordinate. -/
theorem bare_value_is_not_canonical :
    canonicalConfig mute (.int 7) = [] ∧
      ¬ EndPlaced (canonicalConfig mute (.int 7)) "rx_lat" "rx_lon" ∧
      canonicalConfig mute (.dict (canonicalConfig mute (.int 7))) ≠ canonicalConfig mute (.int 7) ∧
      lookup "rx_alt_ft" (canonicalConfig mute (.dict [("rx_alt_ft", .bool true)])) ≠
        lookup "rx_alt_ft" [("rx_alt_ft", Json.bool true)] := by
  refine ⟨rfl, ?_, ?_, ?_⟩
  · rintro ⟨lat, lon, held, -⟩
    cases held
  · intro same
    cases same
  · intro same
    cases same

end Retina.Tcp
