import RetinaServer.Frames.ProcessFrame
import RetinaServer.Library.Runs
import RetinaServer.Tcp.NodeConfig
import Mathlib.Logic.Function.Basic

/-! A node's own pipeline, built from its configuration and cached from then on, while
other threads replace the configuration and evict what was built from the one before. -/
namespace Retina.Pipelines
open OrderedDict Tcp Runs

/-- `ALTITUDE_DEFAULT_FT`. -/
def altitudeDefaultFt : Fields := [("rx_alt_ft", .float (.fin 900)), ("tx_alt_ft", .float (.fin 1200))]

/-- `if resolved.get(field) is None: resolved[field] = default`. -/
def resolveField (resolved : Fields) (entry : String × Json) : Fields :=
  if (get resolved entry.1 .null).isNull then put entry.1 entry.2 resolved else resolved

def resolveAltitudes (cfg : Fields) : Fields := altitudeDefaultFt.foldl resolveField cfg

def present (config : Fields) (field : String) : Bool := !(get config field .null).isNull

def positionStatus (config : Fields) : Frames.PositionStatus :=
  let hasRx := present config "rx_lat" && present config "rx_lon"
  let hasTx := present config "tx_lat" && present config "tx_lon"
  if hasRx && hasTx then .positioned else if hasRx then .missingTx else if hasTx then .missingRx else .missingBoth

/-- The dictionary the pipeline is built from. The coordinates and altitudes are subscripted. -/
def pipelineCfg (nodeId : String) (cfg : Fields) : Fields :=
  [("node_id", .str nodeId),
   ("Fs", get cfg "fs_hz" (get cfg "Fs" (.int 2000000))),
   ("FC", get cfg "fc_hz" (get cfg "FC" (.int 195000000))),
   ("rx_lat", get cfg "rx_lat" .null),
   ("rx_lon", get cfg "rx_lon" .null),
   ("rx_alt_ft", get cfg "rx_alt_ft" .null),
   ("tx_lat", get cfg "tx_lat" .null),
   ("tx_lon", get cfg "tx_lon" .null),
   ("tx_alt_ft", get cfg "tx_alt_ft" .null),
   ("doppler_min", get cfg "doppler_min" (.int (-300))),
   ("doppler_max", get cfg "doppler_max" (.int 300)),
   ("min_doppler", get cfg "min_doppler" (.int 15)),
   ("beam_azimuth_deg", get cfg "beam_azimuth_deg" .null),
   ("beam_width_deg", get cfg "beam_width_deg" .null),
   ("max_range_km", get cfg "max_range_km" .null),
   ("max_bistatic_range_km", get cfg "max_bistatic_range_km" .null)]

structure Pipeline where
  config : Fields

/-- What the factory builds from a configuration; `none` is a node that cannot be placed. -/
def pipelineOf (nodeId : String) (cfg : Fields) : Option Pipeline :=
  if positionStatus cfg = .positioned then some ⟨pipelineCfg nodeId (resolveAltitudes cfg)⟩ else none

theorem resolveField_present (resolved : Fields) (entry : String × Json) (held : present resolved field = true)
    (default : entry.2.isNull = false) : present (resolveField resolved entry) field = true := by
  simp only [resolveField]
  split
  · rw [present, get_put]
    split
    · rw [default, Bool.not_false]
    · exact held
  · exact held

theorem resolveField_resolves (resolved : Fields) (entry : String × Json) (default : entry.2.isNull = false) :
    present (resolveField resolved entry) entry.1 = true := by
  simp only [resolveField]
  split
  · rw [present, get_put, if_pos rfl, default, Bool.not_false]
  · rename_i held
    simpa [present] using held

/-- The fields that a placed node's pipeline subscripts are there, and none is null. -/
theorem resolveAltitudes_present {cfg : Fields} (placed : positionStatus cfg = .positioned) :
    ∀ field ∈ ["rx_lat", "rx_lon", "rx_alt_ft", "tx_lat", "tx_lon", "tx_alt_ft"],
      present (resolveAltitudes cfg) field = true := by
  have coordinates : ∀ field ∈ ["rx_lat", "rx_lon", "tx_lat", "tx_lon"], present cfg field = true := by
    simp only [positionStatus] at placed
    split at placed
    · rename_i both
      simpa [and_assoc] using both
    · split at placed
      · cases placed
      · split at placed <;> cases placed
  have kept (field : String) (held : present cfg field = true) : present (resolveAltitudes cfg) field = true :=
    resolveField_present _ _ (resolveField_present _ _ held rfl) rfl
  intro field listed
  simp only [List.mem_cons, List.not_mem_nil, or_false] at listed
  rcases listed with rfl | rfl | rfl | rfl | rfl | rfl
  · exact kept _ (coordinates _ (by simp))
  · exact kept _ (coordinates _ (by simp))
  · exact resolveField_present _ _ (resolveField_resolves cfg _ rfl) rfl
  · exact kept _ (coordinates _ (by simp))
  · exact kept _ (coordinates _ (by simp))
  · exact resolveField_resolves _ _ rfl

/-- How far a frame worker has come in `get_or_create_node_pipeline`, with its local variables. -/
inductive Worker where
  | idle
  /-- The cache had no pipeline. -/
  | missed (nodeId : String)
  | read (nodeId : String) (cfg : Fields)
  | built (nodeId : String) (cfg : Fields) (pipeline : Pipeline)

def Worker.nodeId : Worker → Option String
  | .idle => none
  | .missed nodeId | .read nodeId _ | .built nodeId _ _ => some nodeId

/-- What the threads share: the configurations under `connected_nodes`, and the cache. -/
structure State (ω : Type) where
  connectedNodes : Dict String Fields
  nodePipelines : Dict String Pipeline
  workers : ω → Worker

inductive Event (ω : Type) where
  /-- A frame of the node begins, with the read of the cache. -/
  | begin (w : ω) (nodeId : String)
  | readConfig (w : ω)
  | build (w : ω)
  | store (w : ω)
  /-- The first half of a replacement. -/
  | write (nodeId : String) (config : Fields)
  /-- `evict_pipeline`. -/
  | evict (nodeId : String)

namespace State

variable {ω : Type}

/-- `connected_nodes.get(node_id, {}).get("config", {})`. -/
def config (s : State ω) (nodeId : String) : Fields := (s.connectedNodes.get? nodeId).getD []

variable [DecidableEq ω]

def setWorker (s : State ω) (w : ω) (worker : Worker) : State ω :=
  { s with workers := Function.update s.workers w worker }

/-- One read, build or write of a thread. A worker takes the step it has come to. -/
def step (s : State ω) : Event ω → State ω
  | .begin w nodeId => match s.workers w with
      | .idle => if (s.nodePipelines.get? nodeId).isSome then s else s.setWorker w (.missed nodeId)
      | _ => s
  | .readConfig w => match s.workers w with
      | .missed nodeId =>
          let cfg := s.config nodeId
          s.setWorker w (if positionStatus cfg = .positioned then .read nodeId cfg else .idle)
      | _ => s
  | .build w => match s.workers w with
      | .read nodeId cfg => s.setWorker w (.built nodeId cfg ⟨pipelineCfg nodeId (resolveAltitudes cfg)⟩)
      | _ => s
  | .store w => match s.workers w with
      | .built nodeId _ pipeline =>
          { s.setWorker w .idle with nodePipelines := s.nodePipelines.insert nodeId pipeline }
      | _ => s
  | .write nodeId config => { s with connectedNodes := s.connectedNodes.insert nodeId config }
  | .evict nodeId => { s with nodePipelines := s.nodePipelines.erase nodeId }

/-- The pipeline that the factory returns at the step, with the frame's node. -/
def returned (s : State ω) : Event ω → Option (String × Pipeline)
  | .begin w nodeId => match s.workers w with
      | .idle => (s.nodePipelines.get? nodeId).map (nodeId, ·)
      | _ => none
  | .store w => match s.workers w with
      | .built nodeId _ pipeline => some (nodeId, pipeline)
      | _ => none
  | _ => none

end State

/-- A frame that a pipeline handles. `since` are the configurations its node has had from the last
replacement that had completed when the frame began. -/
structure Handling where
  nodeId : String
  pipeline : Pipeline
  since : List Fields

/-- The threads' state, and beside it what the replacements promise: the configurations each node has had
since its last eviction, the same for the frame each worker is at, and the frames handled so far. -/
structure Watched (ω : Type) where
  state : State ω
  since : String → List Fields
  frame : ω → List Fields
  handled : List Handling

namespace Watched

variable {ω : Type}

def start : Watched ω where
  state := { connectedNodes := .empty, nodePipelines := .empty, workers := fun _ => .idle }
  since := fun _ => [[]]
  frame := fun _ => []
  handled := []

variable [DecidableEq ω]

def sinceAfter (s : Watched ω) : Event ω → String → List Fields
  | .write nodeId config => Function.update s.since nodeId (config :: s.since nodeId)
  | .evict nodeId => Function.update s.since nodeId [s.state.config nodeId]
  | _ => s.since

def frameAfter (s : Watched ω) : Event ω → ω → List Fields
  | .begin w nodeId => match s.state.workers w with
      | .idle => Function.update s.frame w (s.since nodeId)
      | _ => s.frame
  | .write nodeId config => fun w =>
      if (s.state.workers w).nodeId = some nodeId then config :: s.frame w else s.frame w
  | _ => s.frame

/-- The configurations that the frame at this step may be handled by. -/
def promised (s : Watched ω) : Event ω → List Fields
  | .begin _ nodeId => s.since nodeId
  | .store w => s.frame w
  | _ => []

def step (s : Watched ω) (e : Event ω) : Watched ω where
  state := s.state.step e
  since := s.sinceAfter e
  frame := s.frameAfter e
  handled := s.handled ++
    ((s.state.returned e).map fun (nodeId, pipeline) => Handling.mk nodeId pipeline (s.promised e)).toList

/-- Every frame was handled by a pipeline that is built from a configuration of its node since the replacement
before it, and so is every frame that begins now and finds a pipeline. -/
structure Reaches (s : Watched ω) : Prop where
  handled : ∀ frame ∈ s.handled, ∃ config ∈ frame.since, pipelineOf frame.nodeId config = some frame.pipeline
  cached : ∀ nodeId pipeline, s.state.nodePipelines.get? nodeId = some pipeline →
    ∃ config ∈ s.since nodeId, pipelineOf nodeId config = some pipeline

/-- A worker that stores its build read a configuration the node has had since its last eviction, or one that
builds the same pipeline. -/
def StoresCurrent (s : Watched ω) : Event ω → Prop
  | .store w => match s.state.workers w with
      | .built nodeId cfg _ => ∃ config ∈ s.since nodeId, pipelineOf nodeId config = pipelineOf nodeId cfg
      | _ => True
  | _ => True

/-- What a worker holds comes from a configuration that its frame may be handled by. -/
def Holds (s : Watched ω) (w : ω) : Worker → Prop
  | .idle => True
  | .missed nodeId => s.state.config nodeId ∈ s.frame w
  | .read _ cfg => cfg ∈ s.frame w ∧ positionStatus cfg = .positioned
  | .built nodeId cfg pipeline => cfg ∈ s.frame w ∧ pipelineOf nodeId cfg = some pipeline

structure Sound (s : Watched ω) : Prop where
  current : ∀ nodeId, s.state.config nodeId ∈ s.since nodeId
  workers : ∀ w, s.Holds w (s.state.workers w)

theorem config_write (s : State ω) (nodeId nodeId' : String) (config : Fields) :
    (s.step (.write nodeId config)).config nodeId' = if nodeId = nodeId' then config else s.config nodeId' := by
  simp only [State.step, State.config, Dict.get?_insert]
  split <;> rfl

/-- Only a replacement writes the registry. -/
theorem connectedNodes_step (s : State ω) {e : Event ω} (unwritten : ∀ nodeId config, e ≠ .write nodeId config) :
    (s.step e).connectedNodes = s.connectedNodes := by
  cases e with
  | begin w nodeId =>
    simp only [State.step]
    split
    · split <;> rfl
    · rfl
  | readConfig w | build w | store w =>
    simp only [State.step]
    split <;> rfl
  | write nodeId config => exact absurd rfl (unwritten nodeId config)
  | evict nodeId => rfl

/-- The worker whose step an event is. -/
def worker : Event ω → Option ω
  | .begin w _ | .readConfig w | .build w | .store w => some w
  | .write _ _ | .evict _ => none

theorem workers_elsewhere (s : State ω) {e : Event ω} (other : worker e ≠ some w) : (s.step e).workers w = s.workers w := by
  cases e with
  | begin w' nodeId =>
    have apart : w ≠ w' := fun same => other (congrArg some same.symm)
    simp only [State.step]
    split
    · split
      · rfl
      · exact Function.update_of_ne apart ..
    · rfl
  | readConfig w' | build w' | store w' =>
    have apart : w ≠ w' := fun same => other (congrArg some same.symm)
    simp only [State.step]
    split
    · exact Function.update_of_ne apart ..
    · rfl
  | write nodeId config | evict nodeId => rfl

theorem frame_elsewhere (s : Watched ω) {e : Event ω} (other : worker e ≠ some w)
    (unwritten : ∀ nodeId config, e ≠ .write nodeId config) : s.frameAfter e w = s.frame w := by
  cases e with
  | begin w' nodeId =>
    have apart : w ≠ w' := fun same => other (congrArg some same.symm)
    cases phase : s.state.workers w' with
    | idle => simp only [frameAfter, phase, Function.update_of_ne apart]
    | missed _ | read _ _ | built _ _ _ => simp only [frameAfter, phase]
  | write nodeId config => exact absurd rfl (unwritten nodeId config)
  | readConfig w' | build w' | store w' | evict nodeId => rfl

/-- Only a replacement moves a configuration, and the set of those a node may be handled by follows it. -/
theorem current_step {s : Watched ω} (sound : s.Sound) (e : Event ω) (nodeId : String) :
    (s.step e).state.config nodeId ∈ (s.step e).since nodeId := by
  have unmoved (unwritten : ∀ nodeId config, e ≠ .write nodeId config) (since : s.sinceAfter e = s.since) :
      (s.step e).state.config nodeId ∈ (s.step e).since nodeId := by
    simp only [step, State.config, connectedNodes_step s.state unwritten, since]
    exact sound.current nodeId
  cases e with
  | begin w nodeId' | readConfig w | build w | store w => exact unmoved (by rintro _ _ ⟨⟩) rfl
  | write nodeId' config =>
    simp only [step, config_write, sinceAfter]
    split
    · rename_i same
      rw [same, Function.update_self]
      exact List.mem_cons_self
    · rename_i other
      rw [Function.update_of_ne (Ne.symm other)]
      exact sound.current nodeId
  | evict nodeId' =>
    by_cases same : nodeId = nodeId'
    · simp only [step, sinceAfter, same, Function.update_self, List.mem_singleton]
      rfl
    · simp only [step, sinceAfter, Function.update_of_ne same]
      exact sound.current nodeId

/-- A worker that a step leaves where it was, with the registry and its frame's configurations as they were. -/
theorem holds_unmoved {s : Watched ω} (sound : s.Sound) (nodes : (s.state.step e).connectedNodes = s.state.connectedNodes)
    (frame : s.frameAfter e w = s.frame w) (same : (s.state.step e).workers w = s.state.workers w) :
    (s.step e).Holds w ((s.step e).state.workers w) := by
  have held := sound.workers w
  simp only [step, same]
  cases phase : s.state.workers w with
  | idle => trivial
  | missed nodeId | read nodeId cfg | built nodeId cfg pipeline =>
    simpa only [phase, Holds, State.config, step, nodes, frame] using held

/-- What a worker holds after a step of its own. -/
theorem holds_own {s : Watched ω} (sound : s.Sound) (e : Event ω) (own : worker e = some w) :
    (s.step e).Holds w ((s.step e).state.workers w) := by
  have held := sound.workers w
  cases e with
  | begin w' nodeId =>
    obtain rfl := Option.some.inj own
    cases phase : s.state.workers w' with
    | idle =>
      -- The frame's configurations start from those of the node, which has the one in force.
      simp only [step, State.step, phase]
      split
      · rw [phase]
        trivial
      · simp only [State.setWorker, Function.update_self, Holds, State.config, frameAfter, phase]
        exact sound.current nodeId
    | missed _ | read _ _ | built _ _ _ =>
      refine holds_unmoved sound ?_ ?_ ?_
      · simp only [State.step, phase]
      · simp only [frameAfter, phase]
      · simp only [State.step, phase]
  | readConfig w' =>
    obtain rfl := Option.some.inj own
    cases phase : s.state.workers w' with
    | missed nodeId =>
      simp only [step, State.step, phase, State.setWorker, Function.update_self]
      rw [phase] at held
      split
      · rename_i placed
        exact ⟨held, placed⟩
      · trivial
    | idle | read _ _ | built _ _ _ =>
      refine holds_unmoved sound ?_ rfl ?_
      · simp only [State.step, phase]
      · simp only [State.step, phase]
  | build w' =>
    obtain rfl := Option.some.inj own
    cases phase : s.state.workers w' with
    | read nodeId cfg =>
      simp only [step, State.step, phase, State.setWorker, Function.update_self]
      rw [phase] at held
      exact ⟨held.1, if_pos held.2⟩
    | idle | missed _ | built _ _ _ =>
      refine holds_unmoved sound ?_ rfl ?_
      · simp only [State.step, phase]
      · simp only [State.step, phase]
  | store w' =>
    obtain rfl := Option.some.inj own
    cases phase : s.state.workers w' with
    | built nodeId cfg pipeline =>
      simp only [step, State.step, phase, State.setWorker, Function.update_self]
      trivial
    | idle | missed _ | read _ _ =>
      refine holds_unmoved sound ?_ rfl ?_
      · simp only [State.step, phase]
      · simp only [State.step, phase]
  | write nodeId config | evict nodeId => cases own

theorem workers_step {s : Watched ω} (sound : s.Sound) (e : Event ω) (w : ω) :
    (s.step e).Holds w ((s.step e).state.workers w) := by
  by_cases own : worker e = some w
  · exact holds_own sound e own
  · have held := sound.workers w
    cases e with
    | begin _ _ | readConfig _ | build _ | store _ | evict _ =>
      exact holds_unmoved sound (connectedNodes_step s.state (by rintro _ _ ⟨⟩)) (frame_elsewhere s own (by rintro _ _ ⟨⟩))
        (workers_elsewhere s.state own)
    | write nodeId config =>
      have frame (cfg : Fields) (member : cfg ∈ s.frame w) : cfg ∈ s.frameAfter (.write nodeId config) w := by
        simp only [frameAfter]
        split
        · exact List.mem_cons_of_mem _ member
        · exact member
      have unmoved : (s.step (.write nodeId config)).state.workers w = s.state.workers w := rfl
      rw [unmoved]
      cases phase : s.state.workers w with
      | idle => trivial
      | read nodeId' cfg | built nodeId' cfg pipeline =>
        rw [phase] at held
        exact ⟨frame _ held.1, held.2⟩
      | missed nodeId' =>
        rw [phase] at held
        change (s.state.step (.write nodeId config)).config nodeId' ∈ s.frameAfter (.write nodeId config) w
        rw [config_write]
        split
        · rename_i same
          simp only [frameAfter, phase, Worker.nodeId, same, if_true]
          exact List.mem_cons_self
        · exact frame _ held

theorem sound_step {s : Watched ω} (e : Event ω) (sound : s.Sound) : (s.step e).Sound where
  current := current_step sound e
  workers := workers_step sound e

omit [DecidableEq ω] in
theorem sound_start : (start : Watched ω).Sound where
  current _ := List.mem_singleton.mpr rfl
  workers _ := trivial

omit [DecidableEq ω] in
/-- A pipeline that a worker returns from the cache is as good as the cache, and one it has built comes from
a configuration that the frame may be handled by. -/
theorem returned_promised {s : Watched ω} (sound : s.Sound)
    (cached : ∀ nodeId pipeline, s.state.nodePipelines.get? nodeId = some pipeline →
      ∃ config ∈ s.since nodeId, pipelineOf nodeId config = some pipeline)
    (returned : s.state.returned e = some (nodeId, pipeline)) :
    ∃ config ∈ s.promised e, pipelineOf nodeId config = some pipeline := by
  cases e with
  | begin w nodeId' =>
    cases phase : s.state.workers w with
    | idle =>
      simp only [State.returned, phase, Option.map_eq_some_iff, Prod.mk.injEq] at returned
      obtain ⟨found, hit, rfl, rfl⟩ := returned
      exact cached _ _ hit
    | missed _ | read _ _ | built _ _ _ => simp [State.returned, phase] at returned
  | store w =>
    have held := sound.workers w
    cases phase : s.state.workers w with
    | built nodeId' cfg built =>
      simp only [State.returned, phase, Option.some.injEq, Prod.mk.injEq] at returned
      obtain ⟨rfl, rfl⟩ := returned
      rw [phase] at held
      exact ⟨cfg, held⟩
    | idle | missed _ | read _ _ => simp [State.returned, phase] at returned
  | readConfig w | build w | write nodeId' config | evict nodeId' => cases returned

/-- Every step but the store keeps what is cached in step with the configurations. -/
theorem cached_step {s : Watched ω} (sound : s.Sound) (reaches : s.Reaches) {e : Event ω} (current : s.StoresCurrent e) :
    ∀ nodeId pipeline, (s.step e).state.nodePipelines.get? nodeId = some pipeline →
      ∃ config ∈ (s.step e).since nodeId, pipelineOf nodeId config = some pipeline := by
  intro nodeId pipeline found
  have unmoved (same : (s.state.step e).nodePipelines = s.state.nodePipelines) (since : s.sinceAfter e = s.since) :
      ∃ config ∈ (s.step e).since nodeId, pipelineOf nodeId config = some pipeline := by
    simp only [step, same, since] at found ⊢
    exact reaches.cached nodeId pipeline found
  cases e with
  | begin w nodeId' =>
    refine unmoved ?_ rfl
    simp only [State.step]
    split
    · split <;> rfl
    · rfl
  | readConfig w | build w =>
    refine unmoved ?_ rfl
    simp only [State.step]
    split <;> rfl
  | store w =>
    have held := sound.workers w
    cases phase : s.state.workers w with
    | idle | missed _ | read _ _ =>
      refine unmoved ?_ rfl
      simp only [State.step, phase]
    | built nodeId' cfg built =>
      simp only [StoresCurrent, phase] at current
      simp only [step, State.step, phase, Dict.get?_insert] at found
      rw [phase] at held
      split at found
      · rename_i same
        subst same
        obtain ⟨config, member, alike⟩ := current
        exact ⟨config, member, alike.trans (held.2.trans found)⟩
      · exact reaches.cached nodeId pipeline found
  | write nodeId' config =>
    obtain ⟨config', member, builds⟩ := reaches.cached nodeId pipeline found
    refine ⟨config', ?_, builds⟩
    by_cases same : nodeId = nodeId'
    · simp only [step, sinceAfter, same, Function.update_self]
      exact List.mem_cons_of_mem _ (same ▸ member)
    · simpa only [step, sinceAfter, Function.update_of_ne same] using member
  | evict nodeId' =>
    by_cases same : nodeId = nodeId'
    · simp only [step, State.step, same, Dict.get?_erase_self] at found
      cases found
    · simp only [step, State.step, Dict.get?_erase_ne _ (Ne.symm same)] at found
      simpa only [step, sinceAfter, Function.update_of_ne same] using reaches.cached nodeId pipeline found

theorem storesCurrent_iff {s : Watched ω} (sound : s.Sound) (reaches : s.Reaches) (e : Event ω) :
    s.StoresCurrent e ↔ (s.step e).Reaches := by
  constructor
  · intro current
    refine ⟨?_, cached_step sound reaches current⟩
    intro frame listed
    rcases List.mem_append.mp listed with before | now
    · exact reaches.handled frame before
    · simp only [Option.mem_toList, Option.map_eq_some_iff] at now
      obtain ⟨⟨nodeId, pipeline⟩, returned, rfl⟩ := now
      exact returned_promised sound reaches.cached returned
  · intro after
    cases e with
    | begin w nodeId | readConfig w | build w | write nodeId config | evict nodeId => trivial
    | store w =>
      have held := sound.workers w
      simp only [StoresCurrent]
      cases phase : s.state.workers w with
      | idle | missed _ | read _ _ => trivial
      | built nodeId cfg pipeline =>
        have cached := after.cached nodeId pipeline
        simp only [step, State.step, phase, Dict.get?_insert_self, sinceAfter, true_implies] at cached
        rw [phase] at held
        obtain ⟨config, member, builds⟩ := cached
        exact ⟨config, member, builds.trans held.2.symm⟩

omit [DecidableEq ω] in
theorem reaches_start : (start : Watched ω).Reaches where
  handled _ listed := absurd listed List.not_mem_nil
  cached _ _ found := by cases found

end Watched

variable {ω : Type} [DecidableEq ω]

/-- Once a replacement has completed, every frame of the node that starts later is handled by a pipeline built
from a configuration the node has had since, exactly when no worker stores a build of one from before. -/
theorem replacement_reaches_frames_iff (events : List (Event ω)) :
    (∀ before after, events = before ++ after → (run Watched.step (.start : Watched ω) before).Reaches) ↔
      Along Watched.step Watched.StoresCurrent .start events := by
  have exact_ (s : Watched ω) (e : Event ω) (held : s.Sound ∧ s.Reaches) :
      s.StoresCurrent e ↔ (s.step e).Sound ∧ (s.step e).Reaches := by
    rw [Watched.storesCurrent_iff held.1 held.2, iff_and_self]
    exact fun _ => Watched.sound_step e held.1
  have sound (before : List (Event ω)) : (run Watched.step (.start : Watched ω) before).Sound :=
    invariant_always (fun _ e => Watched.sound_step e) Watched.sound_start before
  rw [along_iff_invariant exact_ ⟨Watched.sound_start, Watched.reaches_start⟩ events]
  exact forall₃_congr fun before _ _ => (and_iff_right (sound before)).symm

/-- A placed configuration, by its receiver's latitude. -/
def placedAt (lat : ℚ) : Fields :=
  [("rx_lat", .float (.fin lat)), ("rx_lon", .float (.fin 0)), ("tx_lat", .float (.fin 1)), ("tx_lon", .float (.fin 1)),
   ("rx_alt_ft", .null), ("tx_alt_ft", .null)]

/-- The worker reads the configuration and builds while the registry's is replaced and the cache evicted, and
then stores what it built. -/
def overtaken : List (Event Unit) :=
  [.write "net7" (placedAt 10), .evict "net7", .begin () "net7", .readConfig (), .build (),
    .write "net7" (placedAt 20), .evict "net7", .store (), .begin () "net7"]

/-- The next frame, with the replacement complete, is handled by the pipeline of the configuration before it. -/
theorem replaced_geometry_reinstalled :
    ¬ ∀ (events before after : List (Event Unit)), events = before ++ after →
      (run Watched.step (.start : Watched Unit) before).Reaches := by
  intro reaches
  have handled : (run Watched.step (.start : Watched Unit) overtaken).handled =
      [⟨"net7", ⟨pipelineCfg "net7" (resolveAltitudes (placedAt 10))⟩, [placedAt 20, placedAt 10]⟩,
        ⟨"net7", ⟨pipelineCfg "net7" (resolveAltitudes (placedAt 10))⟩, [placedAt 20]⟩] := rfl
  have reached := reaches overtaken overtaken [] (List.append_nil _).symm
  obtain ⟨config, member, builds⟩ := reached.handled _ (handled ▸ List.mem_cons_of_mem _ List.mem_cons_self)
  obtain rfl := List.mem_singleton.mp member
  have latitudes : some (Option.some (PyFloat.fin 20)) = some (some (PyFloat.fin 10)) :=
    congrArg (Option.map fun pipeline : Pipeline => (get pipeline.config "rx_lat" .null).number?) builds
  exact absurd latitudes (by decide +kernel)

end Retina.Pipelines
