import RetinaServer.NodeApi.ConfigColumns
import RetinaServer.NodeApi.ConfigHistory

/-! What a polled radar declares, laid over the configuration held for it: a declared value within
float noise of the one held keeps it, so that reading an unchanged radar again mints no version. -/
namespace Retina.NodeApi
open Tcp OrderedDict

def FEET_PER_METRE : ℚ := 1 / (3048 / 10000)

structure Site where
  latitude : ℚ
  longitude : ℚ
  altitudeM : ℚ
deriving DecidableEq

structure Blah2Config where
  rx : Site
  tx : Site
  fcHz : ℚ
  fsHz : Option ℚ
  cpiS : Option ℚ
deriving DecidableEq

def feet (metres : ℚ) : ℚ := metres * FEET_PER_METRE

/-- `math.isclose` of two finite floats. -/
def isclose (a b relTol : ℚ) : Bool := decide (|a - b| ≤ relTol * max |a| |b|)

/-- `_same`; an infinity and NaN are close to no finite number. -/
def same (held : Json) (declared : ℚ) : Bool :=
  match held.number? with
  | some (.fin x) => isclose x declared (1 / 1000000000)
  | _ => false

def declaredFields (config : Blah2Config) : List (String × Option ℚ) := [
  ("rx_lat", some config.rx.latitude),
  ("rx_lon", some config.rx.longitude),
  ("rx_alt_ft", some (feet config.rx.altitudeM)),
  ("tx_lat", some config.tx.latitude),
  ("tx_lon", some config.tx.longitude),
  ("tx_alt_ft", some (feet config.tx.altitudeM)),
  ("fc_hz", some config.fcHz),
  ("fs_hz", config.fsHz),
  ("cpi_s", config.cpiS)]

/-- One turn of the loop of `probed_config`. -/
def layOver (base merged : Fields) (declared : String × Option ℚ) : Fields :=
  match declared.2 with
  | none => merged
  | some value => if same (get base declared.1 .null) value then merged else put declared.1 (numberJson value) merged

def merge (config : Blah2Config) (base : Fields) : Fields := (declaredFields config).foldl (layOver base) base

def probedConfig (config : Blah2Config) (base : Fields) : Except Raised Fields := validateConfig (.dict (merge config base))

/-- A reading of the radar's configuration, and whether its epoch is still the target's when the
reading is recorded. -/
structure ConfigReading where
  declared : Blah2Config
  now : ℚ
  current : Bool

/-- The version that `_same_epoch` goes by and the tables it would commit; `none` where the node is
unconfigured or the declaration cannot be held. -/
def readConfig (db : Tables ConfigColumns) (nodeId : String) (declared : Blah2Config) (now : ℚ) :
    Option (Nat × Tables ConfigColumns) := do
  let active ← db.activeConfig nodeId
  let config ← (probedConfig declared (configFields active.fields)).toOption
  let adopted ← columnsOf config
  db.upsertHere nodeId adopted now

/-- `_same_epoch` on the versions: a session that is superseded rolls back. -/
def sameEpoch (nodeId : String) (db : Tables ConfigColumns) (reading : ConfigReading) : Tables ConfigColumns :=
  (readConfig db nodeId reading.declared reading.now).elim db fun (_, written) => if reading.current then written else db

/-! ### A declaration that is unchanged -/

/-- Equal up to a relative 1e-9. -/
def CloseTo (held : Option ℚ) (declared : ℚ) : Prop := ∃ x ∈ held, |x - declared| ≤ 1 / 1000000000 * max |x| |declared|

/-- Every declared value is close to the one held; the sampling rate and the CPI may be left out. -/
structure Unchanged (declared : Blah2Config) (held : ConfigColumns) : Prop where
  rxLat : CloseTo held.rxLat declared.rx.latitude
  rxLon : CloseTo held.rxLon declared.rx.longitude
  rxAltFt : CloseTo held.rxAltFt (feet declared.rx.altitudeM)
  txLat : CloseTo held.txLat declared.tx.latitude
  txLon : CloseTo held.txLon declared.tx.longitude
  txAltFt : CloseTo held.txAltFt (feet declared.tx.altitudeM)
  fcHz : CloseTo (some held.fcHz) declared.fcHz
  fsHz : ∀ x ∈ declared.fsHz, CloseTo (some held.fsHz) x
  cpiS : ∀ x ∈ declared.cpiS, CloseTo (some held.cpiS) x

theorem isclose_self (x : ℚ) : isclose x x (1 / 1000000000) = true := by
  refine decide_eq_true ?_
  rw [sub_self, abs_zero]
  exact mul_nonneg (by norm_num) (le_max_of_le_left (abs_nonneg x))

theorem same_asFloat (held : Json) (declared : ℚ) : same (asFloat held) declared = same held declared := by
  cases held <;> rfl

theorem same_nullableJson_iff (held : Option ℚ) (declared : ℚ) : same (nullableJson held) declared = true ↔ CloseTo held declared := by
  cases held with
  | none => simp [same, nullableJson, Json.number?, CloseTo]
  | some x => simp [same, nullableJson, numberJson, Json.number?, CloseTo, isclose]

/-- The loop of `probed_config` finds each value it reads to be the one held. -/
theorem unchanged_iff (declared : Blah2Config) (held : ConfigColumns) :
    Unchanged declared held ↔ ∀ field ∈ declaredFields declared, ∀ value ∈ field.2, same (get (configFields held) field.1 .null) value = true := by
  have numbered (x y : ℚ) : same (numberJson x) y = true ↔ CloseTo (some x) y := same_nullableJson_iff (some x) y
  have read (entry : String × Json) (listed : entry ∈ configFields held) : get (configFields held) entry.1 .null = entry.2 := by
    rw [Tcp.get, (lookup_eq_some_iff _ _ _ ((configFields_names held).nodup_iff.mpr required_nodup)).mpr listed, Option.getD_some]
  have one (p : ℚ → Prop) (x : ℚ) : (∀ value ∈ some x, p value) ↔ p x := by simp
  simp only [configFields, List.forall_mem_cons] at read
  obtain ⟨h₁, h₂, h₃, h₄, h₅, h₆, -, h₇, h₈, -, -, -, h₉, -⟩ := read
  simp only [← configFields.eq_def] at h₁ h₂ h₃ h₄ h₅ h₆ h₇ h₈ h₉
  simp only [declaredFields, List.forall_mem_cons, one, h₁, h₂, h₃, h₄, h₅, h₆, h₇, h₈, h₉, same_nullableJson_iff, numbered]
  constructor
  · rintro ⟨rxLat, rxLon, rxAltFt, txLat, txLon, txAltFt, fcHz, fsHz, cpiS⟩
    exact ⟨rxLat, rxLon, rxAltFt, txLat, txLon, txAltFt, fcHz, fsHz, cpiS, fun _ listed => absurd listed List.not_mem_nil⟩
  · rintro ⟨rxLat, rxLon, rxAltFt, txLat, txLon, txAltFt, fcHz, fsHz, cpiS, -⟩
    exact ⟨rxLat, rxLon, rxAltFt, txLat, txLon, txAltFt, fcHz, fsHz, cpiS⟩

/-! ### The merge -/

theorem lookup_layOver (base merged : Fields) (declared : String × Option ℚ) (field : String) :
    lookup field (layOver base merged declared) =
      if declared.1 = field then
        match declared.2.filter fun value => !same (get base declared.1 .null) value with
        | some value => some (numberJson value)
        | none => lookup field merged
      else lookup field merged := by
  obtain ⟨name, none | value⟩ := declared
  · simp [layOver]
  · by_cases kept : same (get base name .null) value = true
    · simp [layOver, Option.filter_some, kept]
    · simp [layOver, Option.filter_some, kept, lookup_put]

/-- What the loop leaves in a field: the value declared, unless it is the base's. -/
theorem lookup_foldl_layOver (base merged : Fields) (declared : List (String × Option ℚ)) (distinct : (declared.map Prod.fst).Nodup)
    (listed : (field, value) ∈ declared) :
    lookup field (declared.foldl (layOver base) merged) =
      match value.filter fun value => !same (get base field .null) value with
      | some value => some (numberJson value)
      | none => lookup field merged := by
  induction declared generalizing merged with
  | nil => cases listed
  | cons first rest ih =>
    obtain ⟨apart, distinct⟩ := List.nodup_cons.mp distinct
    rw [List.foldl_cons]
    rcases List.mem_cons.mp listed with rfl | later
    · have untouched (rest : List (String × Option ℚ)) (apart : field ∉ rest.map Prod.fst) (merged : Fields) :
          lookup field (rest.foldl (layOver base) merged) = lookup field merged := by
        induction rest generalizing merged with
        | nil => rfl
        | cons next others ih =>
          rw [List.map_cons, List.mem_cons, not_or] at apart
          rw [List.foldl_cons, ih apart.2, lookup_layOver, if_neg (Ne.symm apart.1)]
      rw [untouched rest apart, lookup_layOver, if_pos rfl]
    · have other : first.1 ≠ field := fun same => apart (same ▸ List.mem_map_of_mem (f := Prod.fst) later)
      rw [ih _ distinct later, lookup_layOver, if_neg other]

theorem declaredFields_distinct (config : Blah2Config) : ((declaredFields config).map Prod.fst).Nodup := by
  have names : (declaredFields config).map Prod.fst =
      ["rx_lat", "rx_lon", "rx_alt_ft", "tx_lat", "tx_lon", "tx_alt_ft", "fc_hz", "fs_hz", "cpi_s"] := rfl
  rw [names]
  decide

/-- A declaration of what the base holds leaves the base. -/
theorem merge_of_same (all : ∀ field ∈ declaredFields config, ∀ value ∈ field.2, same (get base field.1 .null) value = true) :
    merge config base = base := by
  have quiet : ∀ declared : List (String × Option ℚ), (∀ field ∈ declared, ∀ value ∈ field.2, same (get base field.1 .null) value = true) →
      declared.foldl (layOver base) base = base := by
    intro declared all
    induction declared with
    | nil => rfl
    | cons first rest ih =>
      obtain ⟨here, later⟩ := List.forall_mem_cons.mp all
      have kept : layOver base base first = base := by
        obtain ⟨name, none | value⟩ := first
        · rfl
        · simp only [layOver, here value rfl, if_true]
      rw [List.foldl_cons, kept, ih later]
  exact quiet _ all

/-- What was merged is what the declaration says, up to float noise. -/
theorem same_merge (config : Blah2Config) (base : Fields) :
    ∀ field ∈ declaredFields config, ∀ value ∈ field.2, same (get (merge config base) field.1 .null) value = true := by
  rintro ⟨name, _⟩ listed value ⟨⟩
  rw [Tcp.get, merge, lookup_foldl_layOver base base _ (declaredFields_distinct config) listed]
  cases kept : same (get base name .null) value with
  | true =>
    rw [Option.filter_some, kept]
    exact kept
  | false =>
    rw [Option.filter_some, kept]
    exact (same_nullableJson_iff (some value) value).mpr ⟨value, rfl, of_decide_eq_true (isclose_self value)⟩

/-! ### Reading the radar again -/

/-- The contract is a matter of what each field reads. -/
theorem contract_congr (alike : ∀ field, lookup field payload = lookup field payload') (contract : Contract (.dict payload)) :
    Contract (.dict payload') := by
  have member : document.member (.dict payload) = document.member (.dict payload') := funext alike
  have named (field : String) : field ∈ payload.map Prod.fst ↔ field ∈ payload'.map Prod.fst := by
    rw [← not_iff_not, ← lookup_eq_none_iff, ← lookup_eq_none_iff, alike]
  obtain ⟨schema, finite, paired, apart⟩ := contract
  obtain ⟨accepted, present, known⟩ := (configJsonSchema_accepts_iff payload).mp schema
  refine ⟨(configJsonSchema_accepts_iff payload').mpr ⟨?_, ?_, ?_⟩, ?_, ?_, ?_⟩
  · exact fun property listed value found => accepted property listed value ((alike _).trans found)
  · exact fun name required => (named name).mp (present name required)
  · exact fun name listed => known name ((named name).mpr listed)
  · rwa [member] at finite
  · simpa only [Paired, fieldOf, member] using paired
  · simpa only [Apart, numberAt, fieldOf, member] using apart

theorem contract_of_validated (validated : validateConfig (.dict payload) = .ok out) :
    Contract (.dict payload) ∧ out = asFloats payload := by
  rcases validateConfig_spec payload with ⟨accepts, contract⟩ | ⟨⟨_, _, refuses⟩, -⟩
  · exact ⟨contract, Except.ok.inj (validated.symm.trans accepts)⟩
  · rw [refuses] at validated
    cases validated

/-- The columns read as the configuration that was put into them, and as nothing else. -/
theorem lookup_configFields (adopted : columnsOf (asFloats payload) = some c) (field : String) :
    lookup field (configFields c) = lookup field (asFloats payload) := by
  by_cases named : field ∈ REQUIRED
  · exact columnsOf_spec adopted named
  · rw [lookup_configFields_of_unknown c named, eq_comm, lookup_eq_none_iff, asFloats_fields]
    exact named

/-- The columns that were adopted hold what was declared, and pass the validator as they stand. -/
theorem probedConfig_adopted (probed : probedConfig declared base = .ok config) (adopted : columnsOf config = some c) :
    Contract (.dict (configFields c)) ∧ Unchanged declared c := by
  obtain ⟨contract, rfl⟩ := contract_of_validated probed
  have present := (missingKeys_eq_nil_iff _).mp ((contract_iff _).mp contract).2.1
  have alike (field : String) : lookup field (asFloats (merge declared base)) = lookup field (configFields c) :=
    (lookup_configFields adopted field).symm
  refine ⟨contract_congr alike (contract_asFloats contract), (unchanged_iff declared c).mpr ?_⟩
  intro field listed value is_declared
  have named : field.1 ∈ REQUIRED := by
    have known : ∀ name ∈ ["rx_lat", "rx_lon", "rx_alt_ft", "tx_lat", "tx_lon", "tx_alt_ft", "fc_hz", "fs_hz", "cpi_s"], name ∈ REQUIRED := by
      decide +kernel
    exact known _ (List.mem_map_of_mem (f := Prod.fst) listed)
  rw [Tcp.get, ← alike, ← Tcp.get, get_asFloats _ named, same_asFloat]
  exact same_merge declared base field listed value is_declared

theorem columnsOf_asFloats_configFields (c : ConfigColumns) : columnsOf (asFloats (configFields c)) = some c := by
  apply columnsOf_of_lookup
  intro entry listed
  have named : entry.1 ∈ REQUIRED := (configFields_names c).mem_iff.mp (List.mem_map_of_mem listed)
  have float : asFloat entry.2 = entry.2 := by
    have nullable (x : Option ℚ) : asFloat (nullableJson x) = nullableJson x := by cases x <;> rfl
    have text (x : Option String) : asFloat (x.elim .null .str) = x.elim .null .str := by cases x <;> rfl
    have number (x : ℚ) : asFloat (numberJson x) = numberJson x := rfl
    have all : ∀ entry ∈ configFields c, asFloat entry.2 = entry.2 := by
      simp only [configFields, List.forall_mem_cons, nullable, text, number, true_and]
      exact fun _ listed => absurd listed List.not_mem_nil
    exact all entry listed
  rw [lookup_asFloats _ named, Tcp.get, (lookup_eq_some_iff _ _ _ ((configFields_names c).nodup_iff.mpr required_nodup)).mpr listed,
    Option.getD_some, float]

/-- Reading an unchanged radar goes by the version that is active, and writes nothing. -/
theorem readConfig_of_unchanged {db : Tables ConfigColumns} (active : db.activeConfig nodeId = some row)
    (contract : Contract (.dict (configFields row.fields))) (unchanged : Unchanged declared row.fields) (now : ℚ) :
    readConfig db nodeId declared now = some (row.version, db) := by
  have probed : probedConfig declared (configFields row.fields) = .ok (asFloats (configFields row.fields)) := by
    rw [probedConfig, merge_of_same ((unchanged_iff _ _).mp unchanged)]
    rcases validateConfig_spec (configFields row.fields) with ⟨accepts, -⟩ | ⟨-, broken⟩
    · exact accepts
    · exact absurd contract broken
  have quiet : db.upsertHere nodeId row.fields now = some (row.version, db) := by
    rcases Tables.upsertHere_cases db nodeId row.fields now with ⟨found, is_active, -, done⟩ | ⟨apart, -⟩
    · rw [done, Option.some.inj (is_active.symm.trans active)]
    · exact absurd rfl (apart row active)
  simp only [readConfig, active, Option.bind_eq_bind, Option.bind_some, probed, Except.toOption, columnsOf_asFloats_configFields, quiet]

/-- What a radar was read to declare is held unchanged by the version adopted of it. -/
theorem readConfig_adopts {db db' : Tables ConfigColumns} (history : History (db.versionsOf nodeId) last)
    (done : readConfig db nodeId declared now = some (version, db')) :
    ∃ held, db'.activeConfig nodeId = some held ∧ held.version = version ∧ Contract (.dict (configFields held.fields)) ∧
      Unchanged declared held.fields := by
  obtain ⟨active, -, done⟩ := Option.bind_eq_some_iff.mp done
  obtain ⟨config, probed, done⟩ := Option.bind_eq_some_iff.mp done
  obtain ⟨adopted, columns, done⟩ := Option.bind_eq_some_iff.mp done
  obtain ⟨held, is_active, numbered, rfl⟩ := Tables.activeConfig_upsertHere history done
  cases outcome : probedConfig declared (configFields active.fields) with
  | error raised =>
    rw [outcome] at probed
    cases probed
  | ok validated =>
    rw [outcome] at probed
    obtain rfl := Option.some.inj probed
    exact ⟨held, is_active, numbered, probedConfig_adopted outcome columns⟩

/-- Any number of readings that find the radar unchanged leave the tables as they are. -/
theorem readings_of_unchanged {db : Tables ConfigColumns} (active : db.activeConfig nodeId = some row)
    (contract : Contract (.dict (configFields row.fields))) (readings : List ConfigReading)
    (unchanged : ∀ reading ∈ readings, Unchanged reading.declared row.fields) : Runs.run (sameEpoch nodeId) db readings = db := by
  induction readings with
  | nil => rfl
  | cons reading rest ih =>
    obtain ⟨here, later⟩ := List.forall_mem_cons.mp unchanged
    have quiet : sameEpoch nodeId db reading = db := by
      rw [sameEpoch, readConfig_of_unchanged active contract here, Option.elim_some]
      exact ite_self db
    rw [Runs.run_cons, quiet, ih later]

/-- After any calls of `upsert_config` a node's versions are numbered from 1, only the active one is not
superseded, it holds what the node was last given, and giving it again writes nothing; no later calls
change what a version says. A radar's declaration, once adopted, mints no further version
however often it is read again as close to what the adopted version holds. -/
theorem configHistory_append_only (calls : List (ConfigCall ConfigColumns)) (nodeId : String) :
    let db := Runs.run Tables.upsert Tables.empty calls
    (db.versionsOf nodeId).map NodeConfig.version = List.range' 1 (db.versionsOf nodeId).length ∧
    (db.activeConfig nodeId).map NodeConfig.fields = lastGiven nodeId calls ∧
    (∀ row ∈ db.versionsOf nodeId, row.supersededAt = none → db.activeConfig nodeId = some row) ∧
    (∀ config now, ∃ version db', db.upsertHere nodeId config now = some (version, db')) ∧
    (∀ row now, db.activeConfig nodeId = some row → db.upsertHere nodeId row.fields now = some (row.version, db)) ∧
    (∀ later, (db.versionsOf nodeId).map NodeConfig.stamp <+:
      ((Runs.run Tables.upsert db later).versionsOf nodeId).map NodeConfig.stamp) ∧
    ∀ declared now version adopted, readConfig db nodeId declared now = some (version, adopted) →
      ∃ held, adopted.activeConfig nodeId = some held ∧ held.version = version ∧ Unchanged declared held.fields ∧
        ∀ readings : List ConfigReading, (∀ reading ∈ readings, Unchanged reading.declared held.fields) →
          Runs.run (sameEpoch nodeId) adopted readings = adopted ∧
          ∀ reading ∈ readings, readConfig adopted nodeId reading.declared reading.now = some (version, adopted) := by
  intro db
  have history : History (db.versionsOf nodeId) (lastGiven nodeId calls) := by
    have run := (Tables.run_history calls Tables.empty nodeId (Tables.history_empty nodeId)).1
    rwa [Option.or_none] at run
  obtain ⟨given, older, split, superseded, -⟩ := Tables.activeConfig_of_history history
  refine ⟨history.numbered, given, ?_, ?_, ?_, ?_, ?_⟩
  · intro row listed unsuperseded
    rw [split, List.mem_append] at listed
    rcases listed with old | current
    · exact absurd unsuperseded (superseded row old)
    · exact Option.mem_toList.mp current
  · intro config now
    rcases Tables.upsertHere_cases db nodeId config now with ⟨row, -, -, quiet⟩ | ⟨-, minted⟩
    · exact ⟨_, _, quiet⟩
    · exact ⟨_, _, minted⟩
  · intro row now active
    rcases Tables.upsertHere_cases db nodeId row.fields now with ⟨found, is_active, -, quiet⟩ | ⟨apart, -⟩
    · rw [quiet, Option.some.inj (is_active.symm.trans active)]
    · exact absurd rfl (apart row active)
  · exact fun later => (Tables.run_history later db nodeId history).2
  · intro declared now version adopted done
    obtain ⟨held, active, rfl, contract, unchanged⟩ := readConfig_adopts history done
    refine ⟨held, active, rfl, unchanged, fun readings all => ⟨?_, ?_⟩⟩
    · exact readings_of_unchanged active contract readings all
    · exact fun reading listed => readConfig_of_unchanged active contract (all reading listed) reading.now

section
def heldConfig : ConfigColumns where
  rxLat := some 51
  rxLon := some 0
  rxAltFt := some 0
  txLat := some 52
  txLon := some 0
  txAltFt := some 0
  txCallsign := none
  fcHz := 1000000000
  fsHz := 2000000
  beamWidthDeg := none
  beamAzimuthDeg := none
  maxRangeKm := 50
  cpiS := 1
  delayToleranceUs := 1
  dopplerToleranceHz := 1

/-- A configuration that the validator returned fits the columns whatever was stored before. From then on, until the
node is given another, its active version reads back as that configuration, field by field, and the validator gives it
back as it is. -/
theorem stored_config_round_trip (calls later : List (ConfigCall ConfigColumns)) (nodeId : String) (now : ℚ)
    (validated : validateConfig (.dict payload) = .ok out) (others : ∀ call ∈ later, call.nodeId ≠ nodeId) :
    ∃ c row, columnsOf out = some c ∧
      (Runs.run Tables.upsert Tables.empty (calls ++ ⟨nodeId, c, now⟩ :: later)).activeConfig nodeId = some row ∧
      (∀ field, lookup field (configFields row.fields) = lookup field out) ∧
      validateConfig (.dict (configFields row.fields)) = .ok out := by
  obtain ⟨c, columns⟩ := columnsOf_of_validated validated
  obtain ⟨contract, rfl⟩ := contract_of_validated validated
  have given : lastGiven nodeId (calls ++ ⟨nodeId, c, now⟩ :: later) = some c := by
    have quiet : later.filter (fun call => decide (call.nodeId = nodeId)) = [] :=
      List.filter_eq_nil_iff.mpr fun call listed own => others call listed (of_decide_eq_true own)
    rw [lastGiven, List.filter_append, List.filter_cons_of_pos (by simp), quiet, List.getLast?_concat]
    rfl
  have history := (Tables.run_history (calls ++ ⟨nodeId, c, now⟩ :: later) Tables.empty nodeId (Tables.history_empty nodeId)).1
  have held := (Tables.activeConfig_of_history history).1
  rw [given, Option.some_or, Option.map_eq_some_iff] at held
  obtain ⟨row, active, rfl⟩ := held
  have alike := lookup_configFields columns
  refine ⟨row.fields, row, columns, active, alike, ?_⟩
  rcases validateConfig_spec (configFields row.fields) with ⟨accepts, -⟩ | ⟨-, broken⟩
  · rw [accepts, ← asFloats_asFloats payload]
    exact congrArg Except.ok (List.map_congr_left fun field _ => by rw [Tcp.get, alike, ← Tcp.get])
  · exact absurd (contract_congr (fun field => (alike field).symm) (contract_asFloats contract)) broken

theorem stored_config_round_trip_held :
    ∃ out c row, columnsOf out = some c ∧
      (Runs.run Tables.upsert Tables.empty ([] ++ ⟨"radar", c, 0⟩ :: [⟨"other", heldConfig, 1⟩])).activeConfig "radar" = some row ∧
      (∀ field, lookup field (configFields row.fields) = lookup field out) ∧
      validateConfig (.dict (configFields row.fields)) = .ok out := by
  have accepted : (validateConfig (.dict (configFields heldConfig))).isOk = true := by decide +kernel
  cases validated : validateConfig (.dict (configFields heldConfig)) with
  | error raised =>
    rw [validated] at accepted
    cases accepted
  | ok out => exact ⟨out, stored_config_round_trip [] [⟨"other", heldConfig, 1⟩] "radar" 0 validated (by decide)⟩

def declaring (fcHz : ℚ) : Blah2Config := ⟨⟨51, 0, 0⟩, ⟨52, 0, 0⟩, fcHz, none, none⟩

def heldTables : Tables ConfigColumns := Runs.run Tables.upsert Tables.empty [⟨"radar", heldConfig, 0⟩]

/-- The tolerance does not carry over: what is close to the declaration that was adopted need not be
close to the value that was kept when it was. -/
theorem drifting_declaration_mints :
    readConfig heldTables "radar" (declaring (1000000000 + 9 / 10)) 1 = some (1, heldTables) ∧
    isclose (1000000000 + 9 / 10) (1000000000 + 18 / 10) (1 / 1000000000) = true ∧
    (readConfig heldTables "radar" (declaring (1000000000 + 18 / 10)) 2).map Prod.fst = some 2 := by
  decide +kernel

end

end Retina.NodeApi
