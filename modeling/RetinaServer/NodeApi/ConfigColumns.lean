import RetinaServer.NodeApi.ConfigContract

/-! The columns of a configuration version, and the configuration on the wire that they hold: whatever
the validator returns fits them, and comes back out of them as it went in. -/
namespace Retina.NodeApi
open Tcp OrderedDict

/-- The columns of a configuration version. -/
structure ConfigColumns where
  rxLat : Option ℚ
  rxLon : Option ℚ
  rxAltFt : Option ℚ
  txLat : Option ℚ
  txLon : Option ℚ
  txAltFt : Option ℚ
  txCallsign : Option String
  fcHz : ℚ
  fsHz : ℚ
  beamWidthDeg : Option ℚ
  beamAzimuthDeg : Option ℚ
  maxRangeKm : ℚ
  cpiS : ℚ
  delayToleranceUs : ℚ
  dopplerToleranceHz : ℚ
deriving DecidableEq

/-! ### The columns and the wire -/

def numberJson (x : ℚ) : Json := .float (.fin x)

def nullableJson (x : Option ℚ) : Json := x.elim .null numberJson

def configFields (c : ConfigColumns) : Fields := [
  ("rx_lat", nullableJson c.rxLat),
  ("rx_lon", nullableJson c.rxLon),
  ("rx_alt_ft", nullableJson c.rxAltFt),
  ("tx_lat", nullableJson c.txLat),
  ("tx_lon", nullableJson c.txLon),
  ("tx_alt_ft", nullableJson c.txAltFt),
  ("tx_callsign", c.txCallsign.elim .null .str),
  ("fc_hz", numberJson c.fcHz),
  ("fs_hz", numberJson c.fsHz),
  ("beam_width_deg", nullableJson c.beamWidthDeg),
  ("beam_azimuth_deg", nullableJson c.beamAzimuthDeg),
  ("max_range_km", numberJson c.maxRangeKm),
  ("cpi_s", numberJson c.cpiS),
  ("delay_tolerance_us", numberJson c.delayToleranceUs),
  ("doppler_tolerance_hz", numberJson c.dopplerToleranceHz)]

def numberColumn (config : Fields) (field : String) : Option ℚ :=
  match lookup field config with
  | some (.float (.fin x)) => some x
  | _ => none

def nullableColumn (config : Fields) (field : String) : Option (Option ℚ) :=
  match lookup field config with
  | some .null => some none
  | some (.float (.fin x)) => some (some x)
  | _ => none

def textColumn (config : Fields) (field : String) : Option (Option String) :=
  match lookup field config with
  | some .null => some none
  | some (.str s) => some (some s)
  | _ => none

/-- `NodeConfig(**config)`; `none` is a configuration the columns do not hold. -/
def columnsOf (config : Fields) : Option ConfigColumns := do
  let rxLat ← nullableColumn config "rx_lat"
  let rxLon ← nullableColumn config "rx_lon"
  let rxAltFt ← nullableColumn config "rx_alt_ft"
  let txLat ← nullableColumn config "tx_lat"
  let txLon ← nullableColumn config "tx_lon"
  let txAltFt ← nullableColumn config "tx_alt_ft"
  let txCallsign ← textColumn config "tx_callsign"
  let fcHz ← numberColumn config "fc_hz"
  let fsHz ← numberColumn config "fs_hz"
  let beamWidthDeg ← nullableColumn config "beam_width_deg"
  let beamAzimuthDeg ← nullableColumn config "beam_azimuth_deg"
  let maxRangeKm ← numberColumn config "max_range_km"
  let cpiS ← numberColumn config "cpi_s"
  let delayToleranceUs ← numberColumn config "delay_tolerance_us"
  let dopplerToleranceHz ← numberColumn config "doppler_tolerance_hz"
  return { rxLat, rxLon, rxAltFt, txLat, txLon, txAltFt, txCallsign, fcHz, fsHz, beamWidthDeg, beamAzimuthDeg
           maxRangeKm, cpiS, delayToleranceUs, dopplerToleranceHz }

theorem numberColumn_eq (held : numberColumn config field = some x) : lookup field config = some (numberJson x) := by
  rw [numberColumn] at held
  split at held
  · rename_i found
    rw [found, Option.some.inj held, numberJson]
  · cases held

theorem nullableColumn_eq (held : nullableColumn config field = some x) : lookup field config = some (nullableJson x) := by
  rw [nullableColumn] at held
  split at held
  · rename_i found
    rw [found, ← Option.some.inj held, nullableJson, Option.elim_none]
  · rename_i found
    rw [found, ← Option.some.inj held, nullableJson, Option.elim_some, numberJson]
  · cases held

theorem textColumn_eq (held : textColumn config field = some x) :
    lookup field config = some (x.elim .null .str) := by
  rw [textColumn] at held
  split at held
  · rename_i found
    rw [found, ← Option.some.inj held, Option.elim_none]
  · rename_i found
    rw [found, ← Option.some.inj held, Option.elim_some]
  · cases held

theorem configFields_names (c : ConfigColumns) : ((configFields c).map Prod.fst).Perm REQUIRED := by
  have names : (configFields c).map Prod.fst = ["rx_lat", "rx_lon", "rx_alt_ft", "tx_lat", "tx_lon", "tx_alt_ft",
      "tx_callsign", "fc_hz", "fs_hz", "beam_width_deg", "beam_azimuth_deg", "max_range_km", "cpi_s",
      "delay_tolerance_us", "doppler_tolerance_hz"] := rfl
  rw [names]
  decide +kernel

/-- The columns hold the configuration they were taken from. -/
theorem columnsOf_spec (held : columnsOf config = some c) (named : field ∈ REQUIRED) :
    lookup field (configFields c) = lookup field config := by
  obtain ⟨_, rxLat, held⟩ := Option.bind_eq_some_iff.mp held
  obtain ⟨_, rxLon, held⟩ := Option.bind_eq_some_iff.mp held
  obtain ⟨_, rxAltFt, held⟩ := Option.bind_eq_some_iff.mp held
  obtain ⟨_, txLat, held⟩ := Option.bind_eq_some_iff.mp held
  obtain ⟨_, txLon, held⟩ := Option.bind_eq_some_iff.mp held
  obtain ⟨_, txAltFt, held⟩ := Option.bind_eq_some_iff.mp held
  obtain ⟨_, txCallsign, held⟩ := Option.bind_eq_some_iff.mp held
  obtain ⟨_, fcHz, held⟩ := Option.bind_eq_some_iff.mp held
  obtain ⟨_, fsHz, held⟩ := Option.bind_eq_some_iff.mp held
  obtain ⟨_, beamWidthDeg, held⟩ := Option.bind_eq_some_iff.mp held
  obtain ⟨_, beamAzimuthDeg, held⟩ := Option.bind_eq_some_iff.mp held
  obtain ⟨_, maxRangeKm, held⟩ := Option.bind_eq_some_iff.mp held
  obtain ⟨_, cpiS, held⟩ := Option.bind_eq_some_iff.mp held
  obtain ⟨_, delayToleranceUs, held⟩ := Option.bind_eq_some_iff.mp held
  obtain ⟨_, dopplerToleranceHz, held⟩ := Option.bind_eq_some_iff.mp held
  have entries : ∀ entry ∈ configFields c, lookup entry.1 config = some entry.2 := by
    cases Option.some.inj held
    simp only [configFields, List.forall_mem_cons, nullableColumn_eq rxLat, nullableColumn_eq rxLon,
      nullableColumn_eq rxAltFt, nullableColumn_eq txLat, nullableColumn_eq txLon, nullableColumn_eq txAltFt,
      textColumn_eq txCallsign, numberColumn_eq fcHz, numberColumn_eq fsHz, nullableColumn_eq beamWidthDeg,
      nullableColumn_eq beamAzimuthDeg, numberColumn_eq maxRangeKm, numberColumn_eq cpiS,
      numberColumn_eq delayToleranceUs, numberColumn_eq dopplerToleranceHz, true_and]
    exact fun entry listed => absurd listed List.not_mem_nil
  have names := configFields_names c
  obtain ⟨entry, listed, rfl⟩ := List.mem_map.mp (names.mem_iff.mpr named)
  rw [entries entry listed]
  exact (lookup_eq_some_iff _ _ _ (names.nodup_iff.mpr required_nodup)).mpr listed

theorem nullableColumn_of_lookup (held : lookup field config = some (nullableJson x)) :
    nullableColumn config field = some x := by
  rw [nullableColumn, held]
  cases x <;> rfl

theorem numberColumn_of_lookup (held : lookup field config = some (numberJson x)) :
    numberColumn config field = some x := by
  rw [numberColumn, held]
  rfl

theorem textColumn_of_lookup (held : lookup field config = some (x.elim .null .str)) :
    textColumn config field = some x := by
  rw [textColumn, held]
  cases x <;> rfl

/-- What reads as the columns' own configuration has those columns. -/
theorem columnsOf_of_lookup (held : ∀ entry ∈ configFields c, lookup entry.1 config = some entry.2) :
    columnsOf config = some c := by
  simp only [configFields, List.forall_mem_cons] at held
  obtain ⟨rxLat, rxLon, rxAltFt, txLat, txLon, txAltFt, txCallsign, fcHz, fsHz, beamWidthDeg, beamAzimuthDeg, maxRangeKm,
    cpiS, delayToleranceUs, dopplerToleranceHz, -⟩ := held
  rw [columnsOf, nullableColumn_of_lookup rxLat, nullableColumn_of_lookup rxLon, nullableColumn_of_lookup rxAltFt,
    nullableColumn_of_lookup txLat, nullableColumn_of_lookup txLon, nullableColumn_of_lookup txAltFt,
    textColumn_of_lookup txCallsign, numberColumn_of_lookup fcHz, numberColumn_of_lookup fsHz,
    nullableColumn_of_lookup beamWidthDeg, nullableColumn_of_lookup beamAzimuthDeg, numberColumn_of_lookup maxRangeKm,
    numberColumn_of_lookup cpiS, numberColumn_of_lookup delayToleranceUs, numberColumn_of_lookup dopplerToleranceHz]
  rfl

theorem lookup_configFields_of_unknown (c : ConfigColumns) (unknown : field ∉ REQUIRED) : lookup field (configFields c) = none :=
  (lookup_eq_none_iff _ _).mpr fun listed => unknown ((configFields_names c).mem_iff.mp listed)

/-! ### What the validator returns fits the columns -/

theorem checkNumber_ok (checked : checkNumber field nullable refused value = .ok out) :
    (nullable = true ∧ out = .null) ∨ ∃ x, out = numberJson x := by
  rw [checkNumber] at checked
  split at checked
  · rename_i null
    exact .inl ⟨(Bool.and_eq_true _ _ ▸ null).2, (Except.ok.inj checked).symm⟩
  · split at checked
    · rename_i x _
      split at checked
      · cases checked
      · exact .inr ⟨x, (Except.ok.inj checked).symm⟩
    · cases checked

theorem checkCallsign_ok (checked : checkCallsign value = .ok out) : out = .null ∨ ∃ s, out = .str s := by
  rw [checkCallsign.eq_def] at checked
  split at checked
  · exact .inl (Except.ok.inj checked).symm
  · split at checked
    · exact .inr ⟨_, (Except.ok.inj checked).symm⟩
    · cases checked
  · cases checked

theorem checked_result (all : List.Forall₂ (Checked payload) checks out) (listed : check ∈ checks) :
    ∃ value result, (check.1, result) ∈ out ∧ check.2 value = .ok result := by
  induction all with
  | nil => cases listed
  | cons first _ ih =>
    rcases List.mem_cons.mp listed with rfl | later
    · obtain ⟨same, value, -, passed⟩ := first
      exact ⟨value, _, List.mem_cons.mpr (.inl (Prod.ext same.symm rfl)), passed⟩
    · obtain ⟨value, result, held, passed⟩ := ih later
      exact ⟨value, result, List.mem_cons_of_mem _ held, passed⟩

/-- A field of the result is something that the field's check let through. -/
theorem validated_field (validated : validateConfig (.dict payload) = .ok out) (listed : (field, check) ∈ fieldChecks) :
    ∃ value result, lookup field out = some result ∧ check value = .ok result := by
  rcases validateConfig_spec payload with ⟨accepts, contract⟩ | ⟨⟨_, _, refuses⟩, -⟩
  · obtain rfl : asFloats payload = out := Except.ok.inj (accepts.symm.trans validated)
    obtain ⟨-, missing, accepted, -⟩ := (contract_iff payload).mp contract
    have present := (missingKeys_eq_nil_iff payload).mp missing
    have all := (checkFields_ok_iff payload fieldChecks (asFloats payload)).mp
      ((checkFields_iff present (asFloats payload)).mpr ⟨accepted, rfl⟩)
    obtain ⟨value, result, held, passed⟩ := checked_result all listed
    have distinct : ((asFloats payload).map Prod.fst).Nodup := asFloats_fields payload ▸ required_nodup
    exact ⟨value, result, (lookup_eq_some_iff _ _ _ distinct).mpr held, passed⟩
  · rw [refuses] at validated
    cases validated

theorem nullableColumn_of_validated (validated : validateConfig (.dict payload) = .ok out)
    (listed : (field, checkNumber field nullable refused) ∈ fieldChecks) : ∃ x, nullableColumn out field = some x := by
  obtain ⟨value, result, held, passed⟩ := validated_field validated listed
  rw [nullableColumn, held]
  rcases checkNumber_ok passed with ⟨-, rfl⟩ | ⟨x, rfl⟩
  · exact ⟨none, rfl⟩
  · exact ⟨some x, rfl⟩

theorem numberColumn_of_validated (validated : validateConfig (.dict payload) = .ok out)
    (listed : (field, checkNumber field nullable refused) ∈ fieldChecks) (required : nullable = false) :
    ∃ x, numberColumn out field = some x := by
  obtain ⟨value, result, held, passed⟩ := validated_field validated listed
  rw [numberColumn, held]
  rcases checkNumber_ok passed with ⟨null, -⟩ | ⟨x, rfl⟩
  · cases required.symm.trans null
  · exact ⟨x, rfl⟩

theorem textColumn_of_validated (validated : validateConfig (.dict payload) = .ok out)
    (listed : (field, checkCallsign) ∈ fieldChecks) : ∃ x, textColumn out field = some x := by
  obtain ⟨value, result, held, passed⟩ := validated_field validated listed
  rw [textColumn, held]
  rcases checkCallsign_ok passed with rfl | ⟨s, rfl⟩
  · exact ⟨none, rfl⟩
  · exact ⟨some s, rfl⟩

/-- Whatever the validator returns fits the columns. -/
theorem columnsOf_of_validated (validated : validateConfig (.dict payload) = .ok out) : ∃ c, columnsOf out = some c := by
  have tabled (field : String) (bounds : Bounds) (listed : (field, bounds) ∈ NUMERIC_BOUNDS) :
      (field, checkNumeric field bounds) ∈ fieldChecks :=
    List.mem_append_left _ (List.mem_map_of_mem (f := fun entry => (entry.1, checkNumeric entry.1 entry.2)) listed)
  have nullable (field : String) (bounds : Bounds) (listed : (field, bounds) ∈ NUMERIC_BOUNDS) :=
    nullableColumn_of_validated validated (tabled field bounds listed)
  have number (field : String) (required : field ∉ NULLABLE) (listed : field ∈ NUMERIC_BOUNDS.map Prod.fst) :
      ∃ x, numberColumn out field = some x := by
    obtain ⟨⟨_, bounds⟩, entry, rfl⟩ := List.mem_map.mp listed
    exact numberColumn_of_validated validated (tabled _ bounds entry) (decide_eq_false required)
  obtain ⟨rxLat, h₁⟩ := nullable "rx_lat" latitudeBounds (by simp [NUMERIC_BOUNDS])
  obtain ⟨rxLon, h₂⟩ := nullable "rx_lon" longitudeBounds (by simp [NUMERIC_BOUNDS])
  obtain ⟨rxAltFt, h₃⟩ := nullable "rx_alt_ft" altitudeBounds (by simp [NUMERIC_BOUNDS])
  obtain ⟨txLat, h₄⟩ := nullable "tx_lat" latitudeBounds (by simp [NUMERIC_BOUNDS])
  obtain ⟨txLon, h₅⟩ := nullable "tx_lon" longitudeBounds (by simp [NUMERIC_BOUNDS])
  obtain ⟨txAltFt, h₆⟩ := nullable "tx_alt_ft" altitudeBounds (by simp [NUMERIC_BOUNDS])
  obtain ⟨fcHz, h₇⟩ := number "fc_hz" (by decide) (by simp [NUMERIC_BOUNDS])
  obtain ⟨fsHz, h₈⟩ := number "fs_hz" (by decide) (by simp [NUMERIC_BOUNDS])
  obtain ⟨maxRangeKm, h₉⟩ := number "max_range_km" (by decide) (by simp [NUMERIC_BOUNDS])
  obtain ⟨cpiS, h₁₀⟩ := number "cpi_s" (by decide) (by simp [NUMERIC_BOUNDS])
  obtain ⟨delayToleranceUs, h₁₁⟩ := number "delay_tolerance_us" (by decide) (by simp [NUMERIC_BOUNDS])
  obtain ⟨dopplerToleranceHz, h₁₂⟩ := number "doppler_tolerance_hz" (by decide) (by simp [NUMERIC_BOUNDS])
  have callsign : ("tx_callsign", checkCallsign) ∈ fieldChecks := by simp [fieldChecks]
  obtain ⟨txCallsign, h₁₃⟩ := textColumn_of_validated validated callsign
  have width : ("beam_width_deg", checkBeamWidth) ∈ fieldChecks := by simp [fieldChecks]
  have azimuth : ("beam_azimuth_deg", checkBeamAzimuth) ∈ fieldChecks := by simp [fieldChecks]
  obtain ⟨beamWidthDeg, h₁₄⟩ := nullableColumn_of_validated validated width
  obtain ⟨beamAzimuthDeg, h₁₅⟩ := nullableColumn_of_validated validated azimuth
  refine ⟨⟨rxLat, rxLon, rxAltFt, txLat, txLon, txAltFt, txCallsign, fcHz, fsHz, beamWidthDeg, beamAzimuthDeg, maxRangeKm,
    cpiS, delayToleranceUs, dopplerToleranceHz⟩, ?_⟩
  rw [columnsOf, h₁, h₂, h₃, h₄, h₅, h₆, h₇, h₈, h₉, h₁₀, h₁₁, h₁₂, h₁₃, h₁₄, h₁₅]
  rfl

end Retina.NodeApi
