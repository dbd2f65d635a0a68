import RetinaServer.Tcp.NodeConfig

/-! The handshake's gate beside the canonicaliser: two readers of one configuration, the gate by
`float`, which takes a boolean for a number and raises for an integer that has no float, the
canonicaliser by the strict parse, which does neither. -/
namespace Retina.Tcp
open OrderedDict

def latitudeOf (config : Fields) : Json := getWithLegacy config "rx_lat" "lat"

def longitudeOf (config : Fields) : Json := getWithLegacy config "rx_lon" "lon"

variable (text : PyText)

/-- Whatever comes in, the gate returns; and where it accepts a receiver that stands somewhere
other than the pair of zeros, the canonical configuration holds the coordinates it checked. -/
def GateAgrees (payload : Json) : Prop :=
  validateNodeConfig text payload ≠ .raised ∧
    ∀ config, payload = .dict config → validateNodeConfig text payload = .accepted →
      explicitPositionless config = false →
      ∀ x y, text.float (latitudeOf config) = .converted x → text.float (longitudeOf config) = .converted y →
        ¬ (x = .fin 0 ∧ y = .fin 0) →
        get (canonicalConfig text payload) "rx_lat" .null = .float x ∧
          get (canonicalConfig text payload) "rx_lon" .null = .float y

/-- `float(value)` is a number the test holds of. -/
def Converts (value : Json) (ok : PyFloat → Bool) : Prop := ∃ x, text.float value = .converted x ∧ ok x = true

/-- An integer too large for a float is not among the values. -/
def HasFloat (value : Json) : Prop := ∀ n, value = .int n → |n| < floatCeiling

def Boolean (value : Json) : Prop := ∃ b, value = .bool b

/-- A receiver without a position, said outright, or one whose coordinates are in range. -/
def PositionStands (config : Fields) : Prop :=
  explicitPositionless config = true ∨
    ((latitudeOf config).isNull = false ∧ (longitudeOf config).isNull = false) ∧
    Converts text (latitudeOf config) (within (.fin (-90)) · (.fin 90)) ∧
    Converts text (longitudeOf config) (within (.fin (-180)) · (.fin 180))

def LimitStands (config : Fields) (field : String) (ok : PyFloat → Bool) : Prop :=
  (get config field .null).isNull = true ∨ Converts text (get config field .null) ok

def BeamWidthStands (config : Fields) : Prop :=
  LimitStands text config "beam_width_deg" fun x => PyFloat.lt (.fin 0) x && x.le (.fin 360)

def MaxRangeStands (config : Fields) : Prop := LimitStands text config "max_range_km" fun x => !x.le (.fin 0)

/-- Every integer the gate comes to has a float, and no boolean stands for a coordinate it accepts. -/
structure PlainlyTyped (config : Fields) : Prop where
  latitude : explicitPositionless config = false → (longitudeOf config).isNull = false → HasFloat (latitudeOf config)
  longitude : explicitPositionless config = false → (latitudeOf config).isNull = false →
    Converts text (latitudeOf config) (fun _ => true) → HasFloat (longitudeOf config)
  beamWidth : PositionStands text config → HasFloat (get config "beam_width_deg" .null)
  maxRange : PositionStands text config → BeamWidthStands text config → HasFloat (get config "max_range_km" .null)
  coordinates : PositionStands text config → BeamWidthStands text config → MaxRangeStands text config →
    explicitPositionless config = false →
    Converts text (latitudeOf config) (fun x => decide (x = .fin 0)) ∧
      Converts text (longitudeOf config) (fun y => decide (y = .fin 0)) ∨
    ¬ Boolean (latitudeOf config) ∧ ¬ Boolean (longitudeOf config)

/-! ### What the gate comes to -/

theorem float_ne_overflow_iff (value : Json) : text.float value ≠ .overflow ↔ HasFloat value := by
  cases value with
  | int n =>
    rw [PyText.float]
    by_cases large : floatCeiling ≤ |n|
    · simp [large, HasFloat]
    · simp [large, HasFloat, not_le.mp large]
  | str s =>
    rw [PyText.float]
    cases text.parse s <;> simp [HasFloat]
  | _ => simp [PyText.float, HasFloat]

theorem isNull_iff (value : Json) : value.isNull = true ↔ value = .null := by
  cases value <;> simp [Json.isNull]

theorem float_null : text.float .null = .invalid := rfl

theorem andThen_accepted (first second : Verdict) :
    first.andThen second = .accepted ↔ first = .accepted ∧ second = .accepted := by
  cases first <;> simp [Verdict.andThen]

theorem andThen_raised (first second : Verdict) :
    first.andThen second = .raised ↔ first = .raised ∨ first = .accepted ∧ second = .raised := by
  cases first <;> simp [Verdict.andThen]

theorem validatePosition_accepted (config : Fields) :
    validatePosition text config = .accepted ↔ PositionStands text config := by
  rw [validatePosition, PositionStands, latitudeOf, longitudeOf]
  by_cases positionless : explicitPositionless config = true
  · simp [positionless]
  rw [if_neg positionless]
  rw [or_iff_right positionless]
  by_cases absent : ((getWithLegacy config "rx_lat" "lat").isNull || (getWithLegacy config "rx_lon" "lon").isNull) = true
  · rw [if_pos absent]
    rw [Bool.or_eq_true] at absent
    rcases absent with lat | lon
    · simp [lat]
    · simp [lon]
  rw [if_neg absent]
  rw [Bool.or_eq_true, not_or, Bool.not_eq_true, Bool.not_eq_true] at absent
  cases lat : text.float (getWithLegacy config "rx_lat" "lat") with
  | invalid | overflow => simp [Converts, lat]
  | converted x =>
    cases lon : text.float (getWithLegacy config "rx_lon" "lon") with
    | invalid | overflow => simp [Converts, lon]
    | converted y =>
      simp only [Converts, lat, lon, absent, Conversion.converted.injEq, exists_eq_left', and_self, true_and]
      cases within (.fin (-90)) x (.fin 90) <;> cases within (.fin (-180)) y (.fin 180) <;> simp

theorem validatePosition_raised (config : Fields) :
    validatePosition text config = .raised ↔
      explicitPositionless config = false ∧ (latitudeOf config).isNull = false ∧ (longitudeOf config).isNull = false ∧
        (¬ HasFloat (latitudeOf config) ∨
          Converts text (latitudeOf config) (fun _ => true) ∧ ¬ HasFloat (longitudeOf config)) := by
  rw [← float_ne_overflow_iff text, ← float_ne_overflow_iff text, validatePosition, latitudeOf, longitudeOf]
  by_cases positionless : explicitPositionless config = true
  · simp [positionless]
  rw [if_neg positionless]
  by_cases absent : ((getWithLegacy config "rx_lat" "lat").isNull || (getWithLegacy config "rx_lon" "lon").isNull) = true
  · rw [if_pos absent]
    rw [Bool.or_eq_true] at absent
    rcases absent with lat | lon
    · simp [lat]
    · simp [lon]
  rw [if_neg absent]
  rw [Bool.or_eq_true, not_or, Bool.not_eq_true, Bool.not_eq_true] at absent
  cases lat : text.float (getWithLegacy config "rx_lat" "lat") with
  | invalid => simp [Converts, lat]
  | overflow => simp [positionless, absent]
  | converted x =>
    cases lon : text.float (getWithLegacy config "rx_lon" "lon") with
    | invalid => simp
    | overflow => simp [Converts, lat, positionless, absent]
    | converted y =>
      simp only [not_true_eq_false, false_or, ne_eq, reduceCtorEq, not_false_eq_true, and_false, iff_false]
      split <;> simp

theorem validateLimit_accepted (config : Fields) (field complaint : String) (ok : PyFloat → Bool) :
    validateLimit text config field complaint ok = .accepted ↔ LimitStands text config field ok := by
  rw [validateLimit, LimitStands]
  by_cases absent : (get config field .null).isNull = true
  · simp [absent]
  rw [if_neg absent]
  cases value : text.float (get config field .null) with
  | invalid | overflow => simp [Converts, value, absent]
  | converted x => cases holds : ok x <;> simp [Converts, value, absent, holds]

theorem validateLimit_raised (config : Fields) (field complaint : String) (ok : PyFloat → Bool) :
    validateLimit text config field complaint ok = .raised ↔ ¬ HasFloat (get config field .null) := by
  rw [← float_ne_overflow_iff text, validateLimit]
  by_cases absent : (get config field .null).isNull = true
  · rw [if_pos absent, (isNull_iff _).mp absent, float_null]
    simp
  rw [if_neg absent]
  cases value : text.float (get config field .null) with
  | invalid | overflow => simp
  | converted x => cases holds : ok x <;> simp [holds]

theorem validateNodeConfig_accepted (config : Fields) :
    validateNodeConfig text (.dict config) = .accepted ↔
      PositionStands text config ∧ BeamWidthStands text config ∧ MaxRangeStands text config := by
  rw [validateNodeConfig, andThen_accepted, andThen_accepted, validatePosition_accepted, validateBeamWidth,
    validateMaxRange, validateLimit_accepted, validateLimit_accepted, and_assoc]
  rfl

theorem validateNodeConfig_raised (config : Fields) :
    validateNodeConfig text (.dict config) = .raised ↔
      validatePosition text config = .raised ∨
        PositionStands text config ∧ ¬ HasFloat (get config "beam_width_deg" .null) ∨
        PositionStands text config ∧ BeamWidthStands text config ∧ ¬ HasFloat (get config "max_range_km" .null) := by
  rw [validateNodeConfig, andThen_raised, andThen_raised, andThen_accepted, validatePosition_accepted, validateBeamWidth,
    validateMaxRange, validateLimit_raised, validateLimit_accepted, validateLimit_raised, or_assoc, and_assoc]
  rfl

/-! ### What the canonicaliser holds -/

theorem get_popKey (config : Fields) (default : Json) (other : field ≠ key) :
    get (popKey key config) field default = get config field default := by
  have kept : lookup field (popKey key config) = lookup field config := by
    induction config with
    | nil => rfl
    | cons entry rest ih =>
      obtain ⟨name, value⟩ := entry
      by_cases dropped : name = key
      · rw [lookup, if_neg (fun same => other (same.symm.trans dropped)), ← ih]
        simp [popKey, dropped]
      · rw [lookup, ← ih]
        simp [popKey, dropped, lookup]
  rw [get, kept, get]

theorem get_foldLegacy_self (config : Fields) (field legacy : String) :
    get (foldLegacy config field legacy) field .null = getWithLegacy config field legacy := by
  rw [foldLegacy]
  cases named : lookup field config with
  | some value => simp [has, named, get, getWithLegacy]
  | none =>
    cases old : lookup legacy config with
    | some value => simp [has, named, old, get, getWithLegacy, lookup_put]
    | none => simp [has, named, old, get, getWithLegacy]

theorem get_foldLegacy_ne (config : Fields) (legacy : String) (default : Json) (other : field' ≠ field) :
    get (foldLegacy config field legacy) field' default = get config field' default := by
  rw [foldLegacy]
  split
  · rw [get_put, if_neg other]
  · rfl

/-- The receiver the canonical configuration holds is the pair the gate reads, parsed strictly. -/
theorem canonicalConfig_receiver (config : Fields) :
    get (canonicalConfig text (.dict config)) "rx_lat" .null =
        floatOrNull ((placedPair (finiteFloat text (latitudeOf config)) (finiteFloat text (longitudeOf config))).map Prod.fst) ∧
      get (canonicalConfig text (.dict config)) "rx_lon" .null =
        floatOrNull ((placedPair (finiteFloat text (latitudeOf config)) (finiteFloat text (longitudeOf config))).map Prod.snd) := by
  generalize folded : foldLegacy (foldLegacy config "rx_lat" "lat") "rx_lon" "lon" = base
  have lat : get base "rx_lat" .null = latitudeOf config := by
    rw [← folded, get_foldLegacy_ne _ _ _ (by decide), get_foldLegacy_self, latitudeOf]
  have lon : get base "rx_lon" .null = longitudeOf config := by
    rw [← folded, get_foldLegacy_self, getWithLegacy, get_foldLegacy_ne _ _ _ (by decide),
      get_foldLegacy_ne _ _ _ (by decide), longitudeOf, getWithLegacy]
  have popped (field : String) (lat : field ≠ "lat") (lon : field ≠ "lon") :
      get (popKey "lon" (popKey "lat" base)) field .null = get base field .null := by
    rw [get_popKey _ _ lon, get_popKey _ _ lat]
  simp only [canonicalConfig, folded, canonicalAltitude, canonicalPair, get_put, popped "rx_lat" (by decide) (by decide),
    popped "rx_lon" (by decide) (by decide), lat, lon]
  exact ⟨rfl, rfl⟩

/-! ### Where the readers agree -/

theorem within_isFinite (low high : ℚ) (between : within (.fin low) x (.fin high) = true) : x.isFinite = true := by
  cases x with
  | fin x => rfl
  | posInf | negInf | nan => cases between

/-- Anything but a boolean that `float` takes to a finite number is that number to the strict parse. -/
theorem finiteFloat_of_converted {value : Json} (converts : text.float value = .converted x) (finite : x.isFinite = true)
    (plain : ¬ Boolean value) : finiteFloat text value = some x := by
  cases value with
  | str s =>
    rw [PyText.float] at converts
    cases parsed : text.parse s with
    | none => rw [parsed] at converts; cases converts
    | some y =>
      rw [parsed] at converts
      have same : y = x := Conversion.converted.inj converts
      subst same
      simp [finiteFloat, parsed, asFiniteFloat, finite]
  | int n =>
    rw [PyText.float] at converts
    split at converts
    · cases converts
    · rename_i small
      have same : PyFloat.fin n = x := Conversion.converted.inj converts
      subst same
      simp [finiteFloat, asFiniteFloat, small]
  | float y =>
    have same : y = x := Conversion.converted.inj converts
    subst same
    simp [finiteFloat, asFiniteFloat, finite]
  | bool b => exact absurd ⟨b, rfl⟩ plain
  | null | list _ | dict _ => cases converts

theorem finiteFloat_boolean (boolean : Boolean value) : finiteFloat text value = none := by
  obtain ⟨b, rfl⟩ := boolean
  rfl

theorem eq_zero_iff (x : PyFloat) : x.eq (.fin 0) = true ↔ x = .fin 0 := by
  cases x <;> simp [PyFloat.eq]

/-- A receiver in range, other than the pair of zeros, is held as it was checked exactly when
neither coordinate is a boolean. -/
theorem receiver_held_iff (config : Fields) (lat : text.float (latitudeOf config) = .converted x)
    (lon : text.float (longitudeOf config) = .converted y) (finite : x.isFinite = true) (finite' : y.isFinite = true)
    (nonzero : ¬ (x = .fin 0 ∧ y = .fin 0)) :
    (get (canonicalConfig text (.dict config)) "rx_lat" .null = .float x ∧
      get (canonicalConfig text (.dict config)) "rx_lon" .null = .float y) ↔
    ¬ Boolean (latitudeOf config) ∧ ¬ Boolean (longitudeOf config) := by
  obtain ⟨held, held'⟩ := canonicalConfig_receiver text config
  rw [held, held']
  constructor
  · intro same
    constructor
    · intro boolean
      rw [finiteFloat_boolean text boolean] at same
      cases same.1
    · intro boolean
      have unplaced : placedPair (finiteFloat text (latitudeOf config)) none = none := by
        cases finiteFloat text (latitudeOf config) <;> rfl
      rw [finiteFloat_boolean text boolean, unplaced] at same
      cases same.1
  · rintro ⟨plain, plain'⟩
    have placed : placedPair (some x) (some y) = some (x, y) := by
      rw [placedPair, if_neg]
      rw [Bool.and_eq_true, eq_zero_iff, eq_zero_iff]
      exact nonzero
    rw [finiteFloat_of_converted text lat finite plain, finiteFloat_of_converted text lon finite' plain', placed]
    exact ⟨rfl, rfl⟩

/-- The gate returns exactly when every integer it comes to has a float. -/
theorem validateNodeConfig_returns_iff (config : Fields) :
    validateNodeConfig text (.dict config) ≠ .raised ↔
      (explicitPositionless config = false → (longitudeOf config).isNull = false → HasFloat (latitudeOf config)) ∧
      (explicitPositionless config = false → (latitudeOf config).isNull = false →
        Converts text (latitudeOf config) (fun _ => true) → HasFloat (longitudeOf config)) ∧
      (PositionStands text config → HasFloat (get config "beam_width_deg" .null)) ∧
      (PositionStands text config → BeamWidthStands text config → HasFloat (get config "max_range_km" .null)) := by
  have absent_has_float {value : Json} (absent : value.isNull = true) : HasFloat value := by
    rw [(isNull_iff _).mp absent]
    intro n same
    cases same
  rw [Ne, validateNodeConfig_raised, validatePosition_raised]
  constructor
  · intro returns
    refine ⟨?_, ?_, ?_, ?_⟩
    · intro placed present
      by_contra lacks
      cases null : (latitudeOf config).isNull with
      | true => exact lacks (absent_has_float null)
      | false => exact returns (.inl ⟨placed, null, present, .inl lacks⟩)
    · intro placed present converts
      by_contra lacks
      cases null : (longitudeOf config).isNull with
      | true => exact lacks (absent_has_float null)
      | false => exact returns (.inl ⟨placed, present, null, .inr ⟨converts, lacks⟩⟩)
    · intro stands
      by_contra lacks
      exact returns (.inr (.inl ⟨stands, lacks⟩))
    · intro stands beam
      by_contra lacks
      exact returns (.inr (.inr ⟨stands, beam, lacks⟩))
  · rintro ⟨latitude, longitude, beamWidth, maxRange⟩
      (⟨placed, lat, lon, lacks | ⟨converts, lacks⟩⟩ | ⟨stands, lacks⟩ | ⟨stands, beam, lacks⟩)
    · exact lacks (latitude placed lon)
    · exact lacks (longitude placed lat converts)
    · exact lacks (beamWidth stands)
    · exact lacks (maxRange stands beam)

/-- The gate and the canonicaliser agree exactly on an object of plain types. -/
theorem gate_agrees_iff (payload : Json) :
    GateAgrees text payload ↔ ∃ config, payload = .dict config ∧ PlainlyTyped text config := by
  have positioned {config : Fields} (stands : PositionStands text config) (placed : explicitPositionless config = false) :
      ∃ x y, text.float (latitudeOf config) = .converted x ∧ text.float (longitudeOf config) = .converted y ∧
        x.isFinite = true ∧ y.isFinite = true := by
    rcases stands with positionless | ⟨-, ⟨x, lat, inside⟩, y, lon, inside'⟩
    · rw [placed] at positionless
      cases positionless
    · exact ⟨x, y, lat, lon, within_isFinite _ _ inside, within_isFinite _ _ inside'⟩
  constructor
  · rintro ⟨returns, agrees⟩
    cases payload with
    | dict config =>
      obtain ⟨latitude, longitude, beamWidth, maxRange⟩ := (validateNodeConfig_returns_iff text config).mp returns
      refine ⟨config, rfl, latitude, longitude, beamWidth, maxRange, ?_⟩
      intro stands beam range placed
      obtain ⟨x, y, lat, lon, finite, finite'⟩ := positioned stands placed
      by_cases zeros : x = .fin 0 ∧ y = .fin 0
      · exact .inl ⟨⟨x, lat, decide_eq_true zeros.1⟩, y, lon, decide_eq_true zeros.2⟩
      · have accepted := (validateNodeConfig_accepted text config).mpr ⟨stands, beam, range⟩
        have held := agrees config rfl accepted placed x y lat lon zeros
        exact .inr ((receiver_held_iff text config lat lon finite finite' zeros).mp held)
    | null | bool _ | int _ | float _ | str _ | list _ => exact absurd rfl returns
  · rintro ⟨config, rfl, plain⟩
    constructor
    · exact (validateNodeConfig_returns_iff text config).mpr
        ⟨plain.latitude, plain.longitude, plain.beamWidth, plain.maxRange⟩
    · intro config' same accepted placed x y lat lon nonzero
      have same : config = config' := Json.dict.inj same
      subst same
      obtain ⟨stands, beam, range⟩ := (validateNodeConfig_accepted text config).mp accepted
      obtain ⟨x', y', lat', lon', finite, finite'⟩ := positioned stands placed
      have sameLat : x = x' := Conversion.converted.inj (lat.symm.trans lat')
      have sameLon : y = y' := Conversion.converted.inj (lon.symm.trans lon')
      subst sameLat sameLon
      refine (receiver_held_iff text config lat lon finite finite' nonzero).mpr ?_
      refine (plain.coordinates stands beam range placed).resolve_left ?_
      rintro ⟨⟨x₀, read, zero⟩, y₀, read', zero'⟩
      refine nonzero ⟨?_, ?_⟩
      · exact (Conversion.converted.inj (lat.symm.trans read)).trans (of_decide_eq_true zero)
      · exact (Conversion.converted.inj (lon.symm.trans read')).trans (of_decide_eq_true zero')

/-! ### A boolean for a latitude -/

/-- A runtime that parses no text and renders none. -/
def mute : PyText := ⟨fun _ => none, fun _ => "", fun _ => ""⟩

def booleanLatitude : Fields := [("rx_lat", .bool true), ("rx_lon", .float (.fin 5))]

/-- The gate takes `true` for one degree; the canonical configuration has no receiver. -/
theorem boolean_latitude_parts_the_readers :
    validateNodeConfig mute (.dict booleanLatitude) = .accepted ∧ ¬ GateAgrees mute (.dict booleanLatitude) := by
  have accepted : validateNodeConfig mute (.dict booleanLatitude) = .accepted := by
    refine (validateNodeConfig_accepted mute _).mpr ⟨.inr ⟨⟨rfl, rfl⟩, ⟨.fin 1, rfl, ?_⟩, .fin 5, rfl, ?_⟩, .inl rfl, .inl rfl⟩
    · decide +kernel
    · decide +kernel
  refine ⟨accepted, fun ⟨_, agrees⟩ => ?_⟩
  have held := agrees _ rfl accepted rfl (.fin 1) (.fin 5) rfl rfl (by decide)
  cases held.1

end Retina.Tcp
