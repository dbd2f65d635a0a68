import RetinaServer.Library.Transaction
import RetinaServer.Snapshot.Disk

/-! The restore of a payload into the live stores. Each section converts its own entries, and writes them as it
converts them. -/
namespace Retina.Snapshot
open Runs OrderedDict
open Tcp (Json Fields NodeKey PyFloat get)
open Staged (Write)

/-- The constructors of the libraries. `none` is an exception. -/
structure Codecs where
  Sample : Type
  Trust : Type
  Reputation : Type
  Metrics : Type
  Minutes : Type
  Identity : Type
  adsReportEntry : Fields → Option Sample
  trustScoreState : (nodeId : Json) → List Sample → (maxSamples delayThresholdUs dopplerThresholdHz : Json) → Option Trust
  nodeReputation : Fields → Option Reputation
  metricsFromState : Json → Option Metrics
  minutesFromState : Json → Option Minutes
  identityFromDict : Json → Option Identity

/-- The stores that a snapshot is of. -/
structure Live (c : Codecs) where
  trustScores : Dict String c.Trust
  reputations : Dict String c.Reputation
  metrics : Dict String c.Metrics
  serverMinutes : c.Minutes
  accuracySamples : List Json
  chainEntries : Dict NodeKey Json
  nodeIdentities : Dict String c.Identity
  iqCommitments : Dict NodeKey Json
  anomalyLog : List Json
  simulationConfig : Dict String Json

/-- `iter(value)`; `none` is a value that is not iterable. -/
def iterate : Json → Option (List Json)
  | .list items => some items
  | .dict fields => some (fields.map fun field => .str field.1)
  | .str s => some (s.toList.map fun ch => .str (String.singleton ch))
  | _ => none

def asDict : Json → Option Fields
  | .dict fields => some fields
  | _ => none

def accuracyMaxSamples : Nat := 5000

/-- `deque(items, maxlen)`. -/
def newestSamples (items : List Json) : List Json := items.drop (items.length - accuracyMaxSamples)

def simConfigRestoreKeys : List String :=
  ["frac_anomalous", "frac_drone", "frac_dark", "frac_adsb_outage", "frac_live_dark", "live_adsb_enabled",
    "min_aircraft", "max_aircraft", "max_range_km", "n_nodes", "dual_fraction", "_updated_at"]

def simFracFallbacks : Fields :=
  [("frac_anomalous", .float (.fin 0)), ("frac_drone", .float (.fin 0)), ("frac_dark", .float (.fin (15 / 100)))]

section
variable (c : Codecs)

/-! ### The sections -/

/-- `for nid, data in snap.get(key, {}).items()`. -/
def entries (snap : Fields) (key : String) (one : String → Json → Write (Live c)) : List (Write (Live c)) :=
  match get snap key (.dict []) with
  | .dict fields => fields.map fun field => one field.1 field.2
  | _ => [none]

def trustWrite (nid : String) (data : Json) : Option (Live c → Live c) := do
  let fields ← asDict data
  let items ← iterate (get fields "samples" (.list []))
  let samples ← items.mapM fun item => (asDict item).bind c.adsReportEntry
  let nodeId ← lookup "node_id" fields
  let trust ← c.trustScoreState nodeId samples (get fields "max_samples" (.int 500))
    (get fields "delay_threshold_us" (.float (.fin 5))) (get fields "doppler_threshold_hz" (.float (.fin 20)))
  some fun live => { live with trustScores := live.trustScores.insert nid trust }

def reputationWrite (nid : String) (data : Json) : Option (Live c → Live c) := do
  let reputation ← (asDict data).bind c.nodeReputation
  some fun live => { live with reputations := live.reputations.insert nid reputation }

def metricsWrite (nid : String) (data : Json) : Option (Live c → Live c) := do
  let metrics ← c.metricsFromState data
  some fun live => { live with metrics := live.metrics.insert nid metrics }

/-- Only a snapshot that has the server's minutes writes them. -/
def minutesWrites (snap : Fields) : List (Write (Live c)) :=
  match lookup "server_minutes" snap with
  | none => []
  | some data => [(c.minutesFromState data).map fun minutes live => { live with serverMinutes := minutes }]

def accuracyWrite (snap : Fields) : Option (Live c → Live c) := do
  let items ← iterate (get snap "accuracy_samples" (.list []))
  some fun live => { live with accuracySamples := newestSamples items }

/-- `store.update(value)`, of a dictionary or of pairs. -/
def updateWrites (value : Json) (assign : NodeKey → Json → Live c → Live c) : List (Write (Live c)) :=
  match value with
  | .dict fields => fields.map fun field => some (assign (.text field.1) field.2)
  | value => match iterate value with
      | none => [none]
      | some items => items.map fun item => match iterate item with
          | some [key, value] => key.hashKey.map fun key => assign key value
          | _ => none

def identityWrite (nid : String) (data : Json) : Option (Live c → Live c) := do
  let identity ← c.identityFromDict data
  some fun live => { live with nodeIdentities := live.nodeIdentities.insert nid identity }

/-- Entries with a reason that is retired are left out. -/
def anomalyWrite (snap : Fields) : Option (Live c → Live c) := do
  let items ← iterate (get snap "anomaly_log" (.list []))
  let logged ← items.mapM asDict
  some fun live =>
    { live with anomalyLog := (logged.filter fun entry =>
        !(get entry "reason" .null).eqv (.str "untrusted_transponder")).map Json.dict }

/-- `_restore_simulation_config`. The deployed values stay where the deployment's baseline is not the saved one. -/
def simulationWrites (runningBaseline snap : Fields) : List (Write (Live c)) :=
  match get snap "simulation_config" .null with
  | .dict simCfg =>
      let savedBaseline := match get snap "simulation_env_baseline" .null with
        | .dict saved => saved
        | _ => simFracFallbacks
      let restored := simCfg.filter fun field => decide (field.1 ∈ simConfigRestoreKeys)
      if !(Json.dict savedBaseline).eqv (.dict runningBaseline) ∨ restored = [] then []
      else [some fun live => { live with
        simulationConfig := restored.foldl (fun config field => config.insert field.1 field.2) live.simulationConfig }]
  | _ => []

/-- The sections, in the order in which they are restored. -/
def sections (runningBaseline snap : Fields) : List (Write (Live c)) :=
  entries c snap "trust_scores" (trustWrite c) ++
    entries c snap "reputations" (reputationWrite c) ++
    entries c snap "node_metrics" (metricsWrite c) ++
    minutesWrites c snap ++
    [accuracyWrite c snap] ++
    updateWrites c (get snap "chain_entries" (.dict [])) (fun key value live =>
      { live with chainEntries := live.chainEntries.insert key value }) ++
    entries c snap "node_identities" (identityWrite c) ++
    updateWrites c (get snap "iq_commitments" (.dict [])) (fun key value live =>
      { live with iqCommitments := live.iqCommitments.insert key value }) ++
    [anomalyWrite c snap] ++
    simulationWrites c runningBaseline snap

/-- `time.time() - saved_at` does not raise. -/
def datable : Json → Bool
  | .int n => decide (|n| < Tcp.floatCeiling)
  | .bool _ | .float _ => true
  | _ => false

inductive Verdict where
  | notFound
  | restored
  | raised
deriving DecidableEq

/-- The verdict, the live stores, and how many writes have been made to them. -/
structure Restored where
  verdict : Verdict
  live : Live c
  applied : Nat

def restorePayload (runningBaseline : Fields) (snap : Json) (live : Live c) : Restored c :=
  match snap with
  | .dict fields =>
      if datable (get fields "saved_at" (.int 0)) then
        let r := Staged.apply (sections c runningBaseline fields) live
        ⟨if r.raised then .raised else .restored, r.state, r.applied⟩
      else ⟨.raised, live, 0⟩
  | _ => ⟨.raised, live, 0⟩

def restoreSnapshot (sha256 : Json → String) (runningBaseline : Fields) (disk : Disk) (r2Enabled : Bool)
    (live : Live c) : Restored c :=
  match disk.load sha256 r2Enabled with
  | none => ⟨.notFound, live, 0⟩
  | some snap => restorePayload c runningBaseline snap live

end

variable {c : Codecs}

/-- A restore that raises has written nothing to the live stores. -/
def AllOrNothing (r : Restored c) (live : Live c) : Prop := r.verdict = .raised → r.applied = 0 ∧ r.live = live

/-- Each of the payload's entries converts, or the first that the restore comes to does not. -/
def ConvertsWhole (c : Codecs) (runningBaseline : Fields) : Json → Prop
  | .dict fields => datable (get fields "saved_at" (.int 0)) = true →
      none ∉ sections c runningBaseline fields ∨ (sections c runningBaseline fields).head? = some none
  | _ => True

theorem restorePayload_whole_iff (runningBaseline : Fields) (snap : Json) (live : Live c) :
    AllOrNothing (restorePayload c runningBaseline snap live) live ↔ ConvertsWhole c runningBaseline snap := by
  cases snap with
  | dict fields =>
    simp only [AllOrNothing, restorePayload, ConvertsWhole]
    split
    · rename_i dated
      rw [forall_prop_of_true dated, ← Staged.whole_iff _ live]
      constructor
      · intro whole raised
        exact (whole (if_pos raised)).1
      · intro whole verdict
        have raised : (Staged.apply (sections c runningBaseline fields) live).raised = true := by
          by_contra fine
          rw [if_neg fine] at verdict
          cases verdict
        exact ⟨whole raised, Staged.state_of_unapplied (whole raised)⟩
    · rename_i undated
      exact iff_of_true (fun _ => ⟨rfl, rfl⟩) (fun dated => absurd dated undated)
  | _ => exact iff_of_true (fun _ => ⟨rfl, rfl⟩) trivial

/-- After any saves, each cut off anywhere, a restore loads one whole payload and applies all of it or nothing,
exactly when each entry of what it loads converts or already the first does not. -/
theorem restore_whole_iff (sha256 : Json → String) (c : Codecs) (runningBaseline : Fields) (events : List Event)
    (r2Enabled : Bool) (live : Live c) :
    (LoadsWhole sha256 events (run (Disk.step sha256) .fresh events) r2Enabled ∧
        AllOrNothing (restoreSnapshot c sha256 runningBaseline (run (Disk.step sha256) .fresh events) r2Enabled live) live) ↔
      ∀ snap, (run (Disk.step sha256) .fresh events).load sha256 r2Enabled = some snap →
        ConvertsWhole c runningBaseline snap := by
  rw [and_iff_right (loads_whole sha256 events r2Enabled), restoreSnapshot]
  split
  · rename_i nothing
    exact iff_of_true (fun raised => by cases raised) fun snap loaded => (by cases nothing.symm.trans loaded)
  · rename_i snap loaded
    rw [restorePayload_whole_iff]
    exact ⟨fun converts snap' same => Option.some.inj (loaded.symm.trans same) ▸ converts, fun all => all snap loaded⟩

/-- The constructors as far as the two sections below go: a dataclass takes its own fields and no other. -/
def strictCodecs : Codecs where
  Sample := Unit
  Trust := String
  Reputation := String
  Metrics := Unit
  Minutes := Unit
  Identity := Unit
  adsReportEntry _ := some ()
  trustScoreState nodeId _ _ _ _ := match nodeId with
    | .str s => some s
    | _ => none
  nodeReputation fields := match fields with
    | [("node_id", .str s)] => some s
    | _ => none
  metricsFromState _ := some ()
  minutesFromState _ := some ()
  identityFromDict _ := some ()

/-- A snapshot whose one reputation has a field that the constructor does not know. -/
def renamedField : Fields :=
  [("saved_at", .int 1000), ("trust_scores", .dict [("n1", .dict [("node_id", .str "n1")])]),
    ("reputations", .dict [("n1", .dict [("node_id", .str "n1"), ("score_v2", .int 1)])])]

def emptyLive : Live strictCodecs := ⟨.empty, .empty, .empty, (), [], .empty, .empty, .empty, [], .empty⟩

/-- The trust scores are in the live store when the reputations raise. -/
theorem half_restored :
    ¬ ∀ (sha256 : Json → String) (events : List Event) (r2Enabled : Bool) (live : Live strictCodecs),
      AllOrNothing (restoreSnapshot strictCodecs sha256 simFracFallbacks (run (Disk.step sha256) .fresh events)
        r2Enabled live) live := by
  intro whole
  have restored := whole (fun _ => "sum") [.save renamedField false 6] false emptyLive
  exact absurd (restored (by decide +kernel)).1 (by decide +kernel)

end Retina.Snapshot
