import RetinaServer.Tcp.Json

/-! The handshake's check of a node's configuration, and the one shape it is kept in. -/
namespace Retina.Tcp
open OrderedDict

/-- What `_validate_node_config` comes to. -/
inductive Verdict where
  | accepted
  | refused (error : String)
  /-- An exception nobody catches. -/
  | raised

/-- `config.get(key, config.get(legacy))`. -/
def getWithLegacy (config : Fields) (key legacy : String) : Json := get config key (get config legacy .null)

def explicitPositionless (config : Fields) : Bool :=
  has config "rx_lat" && has config "rx_lon" && (get config "rx_lat" .null).isNull && (get config "rx_lon" .null).isNull

def within (low x high : PyFloat) : Bool := low.le x && x.le high

section
variable (text : PyText)

def validatePosition (config : Fields) : Verdict :=
  if explicitPositionless config then .accepted
  else
    let lat := getWithLegacy config "rx_lat" "lat"
    let lon := getWithLegacy config "rx_lon" "lon"
    if lat.isNull || lon.isNull then .refused "missing lat/lon (expected rx_lat/rx_lon or lat/lon)"
    else
      let nonNumeric := Verdict.refused ("non-numeric lat/lon: " ++ text.repr lat ++ ", " ++ text.repr lon)
      match text.float lat with
      | .overflow => .raised
      | .invalid => nonNumeric
      | .converted x => match text.float lon with
        | .overflow => .raised
        | .invalid => nonNumeric
        | .converted y =>
            if !within (.fin (-90)) x (.fin 90) || !within (.fin (-180)) y (.fin 180) then
              .refused ("lat/lon out of range: " ++ text.str (.float x) ++ ", " ++ text.str (.float y))
            else .accepted

/-- A limit that is absent or null stands; any other is a number the test `ok` holds of. -/
def validateLimit (config : Fields) (field complaint : String) (ok : PyFloat → Bool) : Verdict :=
  let value := get config field .null
  if value.isNull then .accepted
  else match text.float value with
    | .overflow => .raised
    | .invalid => .refused ("non-numeric " ++ field ++ ": " ++ text.repr value)
    | .converted x => if ok x then .accepted else .refused (field ++ complaint ++ text.str (.float x))

def validateBeamWidth (config : Fields) : Verdict :=
  validateLimit text config "beam_width_deg" " out of range: " fun x => PyFloat.lt (.fin 0) x && x.le (.fin 360)

def validateMaxRange (config : Fields) : Verdict :=
  validateLimit text config "max_range_km" " must be positive: " fun x => !x.le (.fin 0)

def Verdict.andThen (first second : Verdict) : Verdict :=
  match first with
  | .accepted => second
  | _ => first

/-- A payload that is no dictionary has no `get`. -/
def validateNodeConfig : Json → Verdict
  | .dict config => ((validatePosition text config).andThen (validateBeamWidth text config)).andThen
      (validateMaxRange text config)
  | _ => .raised

/-- `_as_finite_float`, without the reason. -/
def asFiniteFloat : Json → Option PyFloat
  | .int n => if floatCeiling ≤ |n| then none else some (.fin n)
  | .float x => if x.isFinite then some x else none
  | _ => none

def finiteFloat : Json → Option PyFloat
  | .str s => (text.parse s).bind fun x => asFiniteFloat (.float x)
  | value => asFiniteFloat value

def foldLegacy (config : Fields) (field legacy : String) : Fields :=
  if !has config field && has config legacy then put field (get config legacy .null) config else config

def popKey (key : String) (config : Fields) : Fields := config.filter fun entry => decide (entry.1 ≠ key)

def floatOrNull (value : Option PyFloat) : Json := value.elim .null .float

/-- Half a pair places nothing, and neither does the pair of zeros. -/
def placedPair (lat lon : Option PyFloat) : Option (PyFloat × PyFloat) :=
  match lat, lon with
  | some lat, some lon => if lat.eq (.fin 0) && lon.eq (.fin 0) then none else some (lat, lon)
  | _, _ => none

def canonicalPair (config : Fields) (latField lonField : String) : Fields :=
  let pair := placedPair (finiteFloat text (get config latField .null)) (finiteFloat text (get config lonField .null))
  put lonField (floatOrNull (pair.map Prod.snd)) (put latField (floatOrNull (pair.map Prod.fst)) config)

def canonicalAltitude (config : Fields) (field : String) : Fields :=
  put field (floatOrNull (finiteFloat text (get config field .null))) config

def canonicalConfig : Json → Fields
  | .dict raw =>
      let config := foldLegacy (foldLegacy raw "rx_lat" "lat") "rx_lon" "lon"
      let config := popKey "lon" (popKey "lat" config)
      let config := canonicalPair text (canonicalPair text config "rx_lat" "rx_lon") "tx_lat" "tx_lon"
      canonicalAltitude text (canonicalAltitude text config "rx_alt_ft") "tx_alt_ft"
  | _ => []

/-- Both axes are null, or both are finite and not the pair of zeros. -/
def PairPlaced (lat lon : Json) : Prop :=
  (lat = .null ∧ lon = .null) ∨
    ∃ x y, lat = .float x ∧ lon = .float y ∧ x.isFinite = true ∧ y.isFinite = true ∧
      ¬ (x.eq (.fin 0) = true ∧ y.eq (.fin 0) = true)

theorem get_put (config : Fields) (key key' : String) (value default : Json) :
    get (put key value config) key' default = if key' = key then value else get config key' default := by
  rw [get, lookup_put]
  split
  · rename_i same
    rw [if_pos same.symm, Option.getD_some]
  · rename_i other
    rw [if_neg (Ne.symm other), get]

theorem finiteFloat_isFinite {value : Json} (converts : finiteFloat text value = some x) : x.isFinite = true := by
  have ofFloat {y : PyFloat} (kept : asFiniteFloat (.float y) = some x) : x.isFinite = true := by
    simp only [asFiniteFloat] at kept
    split at kept
    · rename_i finite
      exact Option.some.inj kept ▸ finite
    · cases kept
  cases value with
  | str s =>
    obtain ⟨y, -, kept⟩ := Option.bind_eq_some_iff.mp converts
    exact ofFloat kept
  | int n =>
    simp only [finiteFloat, asFiniteFloat] at converts
    split at converts
    · cases converts
    · exact Option.some.inj converts ▸ rfl
  | float y => exact ofFloat converts
  | null | bool _ | list _ | dict _ => cases converts

theorem canonicalPair_placed (config : Fields) (latField lonField : String) (distinct : latField ≠ lonField) :
    PairPlaced (get (canonicalPair text config latField lonField) latField .null)
      (get (canonicalPair text config latField lonField) lonField .null) := by
  simp only [canonicalPair, get_put, if_neg distinct, if_true]
  cases lat : finiteFloat text (get config latField .null) with
  | none => exact .inl ⟨rfl, rfl⟩
  | some x =>
    cases lon : finiteFloat text (get config lonField .null) with
    | none => exact .inl ⟨rfl, rfl⟩
    | some y =>
      simp only [placedPair]
      split
      · exact .inl ⟨rfl, rfl⟩
      · rename_i nonzero
        refine .inr ⟨x, y, rfl, rfl, finiteFloat_isFinite text lat, finiteFloat_isFinite text lon, ?_⟩
        simpa only [Bool.and_eq_true] using nonzero

/-- Whatever comes in as an object, each end of the pair is placed as a whole or not at all. -/
theorem canonicalConfig_placed (raw : Fields) :
    PairPlaced (get (canonicalConfig text (.dict raw)) "rx_lat" .null)
      (get (canonicalConfig text (.dict raw)) "rx_lon" .null) ∧
    PairPlaced (get (canonicalConfig text (.dict raw)) "tx_lat" .null)
      (get (canonicalConfig text (.dict raw)) "tx_lon" .null) := by
  -- The later passes write other fields.
  constructor
  · have placed := canonicalPair_placed text
      (popKey "lon" (popKey "lat" (foldLegacy (foldLegacy raw "rx_lat" "lat") "rx_lon" "lon"))) "rx_lat" "rx_lon"
      (by decide)
    have unwritten (key : String) (lat : key ≠ "tx_lat") (lon : key ≠ "tx_lon") (rx : key ≠ "rx_alt_ft")
        (tx : key ≠ "tx_alt_ft") (config : Fields) :
        get (canonicalAltitude text (canonicalAltitude text (canonicalPair text config "tx_lat" "tx_lon") "rx_alt_ft")
          "tx_alt_ft") key .null = get config key .null := by
      simp only [canonicalAltitude, canonicalPair, get_put, if_neg lat, if_neg lon, if_neg rx, if_neg tx]
    simp only [canonicalConfig]
    rwa [unwritten "rx_lat" (by decide) (by decide) (by decide) (by decide),
      unwritten "rx_lon" (by decide) (by decide) (by decide) (by decide)]
  · have placed := canonicalPair_placed text
      (canonicalPair text (popKey "lon" (popKey "lat" (foldLegacy (foldLegacy raw "rx_lat" "lat") "rx_lon" "lon")))
        "rx_lat" "rx_lon") "tx_lat" "tx_lon" (by decide)
    have unwritten (key : String) (rx : key ≠ "rx_alt_ft") (tx : key ≠ "tx_alt_ft") (config : Fields) :
        get (canonicalAltitude text (canonicalAltitude text config "rx_alt_ft") "tx_alt_ft") key .null =
          get config key .null := by
      simp only [canonicalAltitude, get_put, if_neg rx, if_neg tx]
    simp only [canonicalConfig]
    rwa [unwritten "tx_lat" (by decide) (by decide), unwritten "tx_lon" (by decide) (by decide)]

theorem canonicalPair_self {config : Fields} (lat : lookup latField config = some x) (lon : lookup lonField config = some y)
    (placed : PairPlaced x y) : canonicalPair text config latField lonField = config := by
  simp only [canonicalPair, get, lat, lon, Option.getD_some]
  rcases placed with ⟨rfl, rfl⟩ | ⟨x, y, rfl, rfl, finite, finite', nonzero⟩
  · simp only [finiteFloat, asFiniteFloat, placedPair, Option.map_none, floatOrNull, Option.elim_none]
    rw [put_of_lookup lat, put_of_lookup lon]
  · have pair : placedPair (some x) (some y) = some (x, y) := by
      simp only [placedPair, Bool.and_eq_true, if_neg nonzero]
    simp only [finiteFloat, asFiniteFloat, finite, finite', if_true, pair, Option.map_some, floatOrNull, Option.elim_some]
    rw [put_of_lookup lat, put_of_lookup lon]

theorem canonicalAltitude_self {config : Fields} (held : lookup field config = some (floatOrNull (finiteFloat text value))) :
    canonicalAltitude text config field = config := by
  have again : floatOrNull (finiteFloat text (floatOrNull (finiteFloat text value))) = floatOrNull (finiteFloat text value) := by
    cases converts : finiteFloat text value with
    | none => rfl
    | some x =>
      have finite := finiteFloat_isFinite text converts
      simp only [floatOrNull, Option.elim_some, finiteFloat, asFiniteFloat, finite, if_true]
  rw [canonicalAltitude, get, held, Option.getD_some, again]
  exact put_of_lookup held

theorem lookup_popKey_of_none (key : String) {config : Fields} (absent : lookup key' config = none) :
    lookup key' (popKey key config) = none := by
  rw [lookup_eq_none_iff] at absent ⊢
  exact fun listed => absent (List.map_subset _ (List.filter_subset_self _) listed)

theorem lookup_popKey_self (key : String) (config : Fields) : lookup key (popKey key config) = none := by
  rw [lookup_eq_none_iff, List.mem_map]
  rintro ⟨entry, listed, same⟩
  exact of_decide_eq_true (List.mem_filter.mp listed).2 same

theorem popKey_of_absent {config : Fields} (absent : lookup key config = none) : popKey key config = config := by
  refine List.filter_eq_self.mpr fun entry listed => decide_eq_true ?_
  rintro rfl
  exact (lookup_eq_none_iff _ _).mp absent (List.mem_map_of_mem listed)

/-- What is canonical already stays as it is. -/
theorem canonicalConfig_idempotent (raw : Fields) :
    canonicalConfig text (.dict (canonicalConfig text (.dict raw))) = canonicalConfig text (.dict raw) := by
  obtain ⟨rx, tx⟩ := canonicalConfig_placed text raw
  generalize folded : popKey "lon" (popKey "lat" (foldLegacy (foldLegacy raw "rx_lat" "lat") "rx_lon" "lon")) = base
  have lat : lookup "lat" base = none := folded ▸ lookup_popKey_of_none _ (lookup_popKey_self "lat" _)
  have lon : lookup "lon" base = none := folded ▸ lookup_popKey_self "lon" _
  have held : ∀ field ∈ ["rx_lat", "rx_lon", "tx_lat", "tx_lon"],
      lookup field (canonicalConfig text (.dict raw)) = some (get (canonicalConfig text (.dict raw)) field .null) := by
    simp [canonicalConfig, canonicalAltitude, canonicalPair, get, lookup_put]
  have altitudes : ∀ field ∈ ["rx_alt_ft", "tx_alt_ft"], ∃ value,
      lookup field (canonicalConfig text (.dict raw)) = some (floatOrNull (finiteFloat text value)) := by
    simp only [List.mem_cons, List.not_mem_nil, or_false, forall_eq_or_imp, forall_eq]
    simp only [canonicalConfig, canonicalAltitude, lookup_put]
    exact ⟨⟨_, rfl⟩, ⟨_, rfl⟩⟩
  have legacy : ∀ field ∈ ["lat", "lon"], lookup field (canonicalConfig text (.dict raw)) = none := by
    simp [canonicalConfig, canonicalAltitude, canonicalPair, lookup_put, folded, lat, lon]
  generalize canonicalConfig text (.dict raw) = config at rx tx held altitudes legacy ⊢
  obtain ⟨rxAlt, rxHeld⟩ := altitudes "rx_alt_ft" (by simp)
  obtain ⟨txAlt, txHeld⟩ := altitudes "tx_alt_ft" (by simp)
  have unfolded : foldLegacy (foldLegacy config "rx_lat" "lat") "rx_lon" "lon" = config := by
    have named (field : String) : foldLegacy config "rx_lat" field = config := by
      simp [foldLegacy, has, held "rx_lat" (by simp)]
    rw [named, foldLegacy, has, held "rx_lon" (by simp)]
    simp
  rw [canonicalConfig, unfolded, popKey_of_absent (legacy "lat" (by simp)), popKey_of_absent (legacy "lon" (by simp)),
    canonicalPair_self text (held "rx_lat" (by simp)) (held "rx_lon" (by simp)) rx,
    canonicalPair_self text (held "tx_lat" (by simp)) (held "tx_lon" (by simp)) tx,
    canonicalAltitude_self text rxHeld, canonicalAltitude_self text txHeld]

end
end Retina.Tcp
