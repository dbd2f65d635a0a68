import RetinaServer.Library.Runs
import RetinaServer.Mirror.WireFrame
import RetinaServer.NodeApi.Rows
import RetinaServer.Pipelines.Factory

/-! The doors of the node API to the pipeline. Registration, heartbeat, PUT
config, detection and the priming at startup each decide whether a node is put
into `connected_nodes`, the libraries' registries or the frame queue. -/
namespace Retina.NodeApi
open Runs
open Tcp (Fields Json PyText canonicalConfig)
open Mirror (DetectionFrame number textOrNull pipelineFrame)
open Pipelines (resolveAltitudes)

/-- What `validate_config` returns. -/
structure WireConfig where
  rxLat : Option ℚ
  rxLon : Option ℚ
  rxAltFt : Option ℚ
  txLat : Option ℚ
  txLon : Option ℚ
  txAltFt : Option ℚ
  txCallsign : Option String
  fcHz : ℚ
  fsHz : ℚ
  beamWidthDeg : Option ℚ
  beamAzimuthDeg : Option ℚ
  maxRangeKm : ℚ
  cpiS : ℚ
  delayToleranceUs : ℚ
  dopplerToleranceHz : ℚ
deriving DecidableEq, Repr

/-- A node's record under `connected_nodes`. -/
structure NodeEntry where
  configHash : String
  config : Fields
  status : String
  lastHeartbeat : Option ℚ

/-- One write that puts a node somewhere. -/
inductive Put where
  | connectedNodes (nodeId : String) (entry : NodeEntry)
  | nodeAnalytics (nodeId : String) (config : Fields)
  | nodeAssociator (nodeId : String) (config : Fields)
  | frameQueue (nodeId : String) (frame : Fields)

def Put.nodeId : Put → String
  | .connectedNodes nodeId _ | .nodeAnalytics nodeId _ | .nodeAssociator nodeId _ | .frameQueue nodeId _ => nodeId

structure Pipeline where
  connectedNodes : Dict String NodeEntry
  nodeAnalytics : Dict String Fields
  nodeAssociator : Dict String Fields
  frameQueue : List (String × Fields)
  /-- The cached pipelines' names, which a new registration evicts. -/
  nodePipelines : List String

def Pipeline.put (p : Pipeline) : Put → Pipeline
  | .connectedNodes nodeId entry =>
      { p with
        connectedNodes := p.connectedNodes.insert nodeId entry
        nodePipelines := p.nodePipelines.filter fun n => decide (n ≠ nodeId) }
  | .nodeAnalytics nodeId config => { p with nodeAnalytics := p.nodeAnalytics.insert nodeId config }
  | .nodeAssociator nodeId config => { p with nodeAssociator := p.nodeAssociator.insert nodeId config }
  | .frameQueue nodeId frame => { p with frameQueue := p.frameQueue ++ [(nodeId, frame)] }

/-- A call of `register_node_blocking` that raises. -/
inductive Library where
  | analytics
  | associator
deriving DecidableEq

structure Setting where
  text : PyText
  configHash : Fields → String
  queueSize : Nat
  nodeOfflineThresholdS : ℚ

structure Server where
  db : Tables WireConfig
  pipeline : Pipeline

inductive Answer where
  | registered (nodeRef : String) (configVersion : Nat)
  | refused
  | rateLimited
  | unauthorized
  | invalidConfig
  | unknownConfigVersion
  | config (configVersion : Nat)
  | beat (configStale streamingAllowed : Bool) (nodeRef : String)
  | ack (accepted : Nat) (configStale streamingAllowed : Bool)
  | primed (count : Nat)
  | serverError
deriving DecidableEq, Repr

/-- What an operation commits, puts, stamps as heard, and answers. -/
structure Outcome where
  db : Tables WireConfig
  puts : List Put := []
  heard : Option (String × ℚ) := none
  answer : Answer

/-- An attempt to register: the limiter's, Mender's and the validation's answers among it. -/
structure RegisterRequest where
  nodeId : String
  boardModel : String
  agreements : Agreements
  admitted : Bool
  accepted : Bool
  config : Option WireConfig

inductive Operation where
  | registerNode (request : RegisterRequest) (draws : Draws) (raises : Option Library)
  | putConfig (tokenHash : String) (config : Option WireConfig) (now : ℚ) (raises : Option Library)
  | postDetection (tokenHash : String) (admitted : Bool) (frame : DetectionFrame)
  | postHeartbeat (tokenHash : String) (admitted : Bool) (configVersion : Option Nat) (now : ℚ) (raises : Option Library)
  | primePipeline (now : ℚ) (raises : String → Option Library)

inductive Event where
  | operation (op : Operation)
  | setStatus (nodeId : String) (status : Status)
  /-- Whatever the rest of the server does to the pipeline, a restart among it. -/
  | elsewhere (pipeline : Pipeline)

/-! ### Into the pipeline -/

def pipelineConfig (row : NodeConfig WireConfig) : Fields :=
  let optional := fun x : Option ℚ => x.elim Json.null number
  [("rx_lat", optional row.fields.rxLat), ("rx_lon", optional row.fields.rxLon),
   ("rx_alt_ft", optional row.fields.rxAltFt), ("tx_lat", optional row.fields.txLat),
   ("tx_lon", optional row.fields.txLon), ("tx_alt_ft", optional row.fields.txAltFt),
   ("fc_hz", number row.fields.fcHz), ("fs_hz", number row.fields.fsHz),
   ("beam_width_deg", optional row.fields.beamWidthDeg), ("beam_azimuth_deg", optional row.fields.beamAzimuthDeg),
   ("max_range_km", number row.fields.maxRangeKm),
   ("doppler_min", .int (-300)), ("doppler_max", .int 300), ("min_doppler", .int 15)]

/-- How `register_with_pipeline` ends. -/
inductive Handoff where
  | registered
  /-- `ValueError`: the node has no active configuration. -/
  | noConfig
  | raised
deriving DecidableEq

section
variable (W : Setting)

def registerWithPipeline (nodeId : String) (node : Node) (now : ℚ) (raises : Option Library) (db : Tables WireConfig) :
    List Put × Handoff :=
  match (db.versionsOf nodeId).find? fun row => row.supersededAt.isNone with
  | none => ([], .noConfig)
  | some row =>
      let declared := pipelineConfig row
      let config := canonicalConfig W.text (.dict declared)
      let online := node.lastSeenAt.any fun heard => decide (now - heard ≤ W.nodeOfflineThresholdS)
      let connected := Put.connectedNodes nodeId
        { configHash := W.configHash declared, config
          status := if online then "active" else "disconnected", lastHeartbeat := node.lastSeenAt }
      let registered := resolveAltitudes (canonicalConfig W.text (.dict config))
      match raises with
      | some .analytics => ([connected], .raised)
      | some .associator => ([connected, .nodeAnalytics nodeId registered], .raised)
      | none => ([connected, .nodeAnalytics nodeId registered, .nodeAssociator nodeId registered], .registered)

/-- What a registration that nothing interrupts holds. -/
def begunAtOnce (request : RegisterRequest) (db : Tables WireConfig) : Begun :=
  match db.nodes.get? request.nodeId with
  | none => .absent
  | some loaded =>
      if request.boardModel = loaded.boardModel then .reissue loaded (db.liveTokens request.nodeId) else .moved loaded

/-- Registers the node only where its row says that it is active. -/
def registerNode (request : RegisterRequest) (draws : Draws) (raises : Option Library) (s : Server) : Outcome :=
  if !request.admitted || !request.accepted then { db := s.db, answer := .refused }
  else match request.config with
    | none => { db := s.db, answer := .invalidConfig }
    | some config =>
        let r : Registration WireConfig := ⟨request.nodeId, request.boardModel, request.agreements, config⟩
        match writeRegistration r draws (begunAtOnce request s.db) s.db with
        | none => { db := s.db, answer := .refused }
        | some ((node, version), db) =>
            if node.status = .active then
              let (puts, handoff) := registerWithPipeline W request.nodeId node draws.now raises db
              { db, puts, answer := if handoff = .registered then .registered node.nodeRef version else .serverError }
            else { db, answer := .registered node.nodeRef version }

/-- Hands the node over wherever its version moved. A hand-over that fails raises an alert and nothing more. -/
def putConfig (tokenHash : String) (config : Option WireConfig) (now : ℚ) (raises : Option Library) (s : Server) :
    Outcome :=
  match s.db.bearerNode tokenHash with
  | none => { db := s.db, answer := .unauthorized }
  | some nodeId =>
      match config with
      | none => { db := s.db, answer := .invalidConfig }
      | some config =>
          match writeConfig nodeId config (s.db.activeConfig nodeId) (s.db.highestVersion nodeId) now s.db with
          | none => { db := s.db, answer := .serverError }
          | some ((node, version, changed), db) =>
              { db, answer := .config version
                puts := if changed then (registerWithPipeline W nodeId node now raises db).1 else [] }

def fileFrame (nodeId : String) (frame : DetectionFrame) (p : Pipeline) : List Put × Nat :=
  if (p.connectedNodes.get? nodeId).isNone then ([], 0)
  else if 0 < W.queueSize ∧ W.queueSize ≤ p.frameQueue.length then ([], 0)
  else ([.frameQueue nodeId (pipelineFrame frame ++ [("_node_id", .str nodeId)])], frame.delay.length)

def postDetection (tokenHash : String) (admitted : Bool) (frame : DetectionFrame) (s : Server) : Outcome :=
  match s.db.bearerNode tokenHash with
  | none => { db := s.db, answer := .unauthorized }
  | some nodeId =>
      if !admitted then { db := s.db, answer := .rateLimited }
      else match s.db.nodes.get? nodeId with
        | none => { db := s.db, answer := .unauthorized }
        | some node =>
            let configStale := decide (frame.configVersion ≠ node.activeConfigVersion)
            if configStale && !(s.db.versionsOf nodeId).any fun row => decide ((row.version : ℤ) = frame.configVersion) then
              { db := s.db, answer := .unknownConfigVersion }
            else
              let streamingAllowed := decide (node.status = .active)
              let (puts, accepted) := if streamingAllowed then fileFrame W nodeId frame s.pipeline else ([], 0)
              { db := s.db, puts, answer := .ack accepted configStale streamingAllowed }

def postHeartbeat (tokenHash : String) (admitted : Bool) (configVersion : Option Nat) (now : ℚ)
    (raises : Option Library) (s : Server) : Outcome :=
  match s.db.bearerNode tokenHash with
  | none => { db := s.db, answer := .unauthorized }
  | some nodeId =>
      if !admitted then { db := s.db, answer := .rateLimited }
      else match s.db.nodes.get? nodeId with
        | none => { db := s.db, answer := .unauthorized }
        | some loaded =>
            let node := { loaded with lastSeenAt := some now }
            let known := (s.pipeline.connectedNodes.get? nodeId).isSome
            let (puts, handoff) := if !known ∧ node.status = .active
              then registerWithPipeline W nodeId node now raises s.db else ([], .registered)
            -- A beat is answered whether or not the node has a configuration.
            if handoff = .raised then { db := s.db, puts, answer := .serverError }
            else
              { db := s.db.updateNode nodeId loaded node, puts, heard := some (nodeId, now)
                answer := .beat (decide (configVersion ≠ some node.activeConfigVersion)) (decide (node.status = .active))
                  node.nodeRef }

/-- The nodes still to be primed, and how many have been. -/
def primeLoop (now : ℚ) (raises : String → Option Library) (db : Tables WireConfig) (primed : Nat) :
    List (String × Node) → List Put × Answer
  | [] => ([], .primed primed)
  | (nodeId, node) :: rest =>
      match registerWithPipeline W nodeId node now (raises nodeId) db with
      | (puts, .raised) => (puts, .primed 0)
      | (puts, .noConfig) =>
          let (later, answer) := primeLoop now raises db primed rest
          (puts ++ later, answer)
      | (puts, .registered) =>
          let (later, answer) := primeLoop now raises db (primed + 1) rest
          (puts ++ later, answer)

def primePipeline (now : ℚ) (raises : String → Option Library) (s : Server) : Outcome :=
  let (puts, answer) := primeLoop W now raises s.db 0 (s.db.nodes.items.filter fun item => decide (item.2.status = .active))
  { db := s.db, puts, answer }

def Operation.outcome (s : Server) : Operation → Outcome
  | .registerNode request draws raises => NodeApi.registerNode W request draws raises s
  | .putConfig tokenHash config now raises => NodeApi.putConfig W tokenHash config now raises s
  | .postDetection tokenHash admitted frame => NodeApi.postDetection W tokenHash admitted frame s
  | .postHeartbeat tokenHash admitted configVersion now raises =>
      NodeApi.postHeartbeat W tokenHash admitted configVersion now raises s
  | .primePipeline now raises => NodeApi.primePipeline W now raises s

/-- A registered node that is heard from is online again. -/
def Pipeline.markHeard (p : Pipeline) (nodeId : String) (now : ℚ) : Pipeline :=
  match p.connectedNodes.get? nodeId with
  | none => p
  | some entry =>
      { p with connectedNodes := p.connectedNodes.insert nodeId { entry with lastHeartbeat := some now, status := "active" } }

def step (s : Server) : Event → Server
  | .operation op =>
      let outcome := op.outcome W s
      let pipeline := outcome.puts.foldl Pipeline.put s.pipeline
      { db := outcome.db, pipeline := outcome.heard.elim pipeline fun (nodeId, now) => pipeline.markHeard nodeId now }
  | .setStatus nodeId status =>
      match s.db.nodes.get? nodeId with
      | none => s
      | some node => { s with db := { s.db with nodes := s.db.nodes.insert nodeId { node with status } } }
  | .elsewhere pipeline => { s with pipeline }

def puts (s : Server) : Event → List Put
  | .operation op => (op.outcome W s).puts
  | _ => []

end

def Pipeline.empty : Pipeline := ⟨Dict.empty, Dict.empty, Dict.empty, [], []⟩

inductive Place where
  | connectedNodes
  | nodeAnalytics
  | nodeAssociator
  | frameQueue
deriving DecidableEq

def Put.place : Put → Place
  | .connectedNodes _ _ => .connectedNodes
  | .nodeAnalytics _ _ => .nodeAnalytics
  | .nodeAssociator _ _ => .nodeAssociator
  | .frameQueue _ _ => .frameQueue

/-- The nodes that a place holds something of. -/
def Pipeline.names (p : Pipeline) : Place → List String
  | .connectedNodes => p.connectedNodes.keys
  | .nodeAnalytics => p.nodeAnalytics.keys
  | .nodeAssociator => p.nodeAssociator.keys
  | .frameQueue => p.frameQueue.map Prod.fst

def Server.start : Server := ⟨Tables.empty, Pipeline.empty⟩

/-- The status in the node's row. -/
def Tables.isActive (nodeId : String) (db : Tables γ) : Prop := ∃ node, db.nodes.get? nodeId = some node ∧ node.status = .active

/-- The row's version is that of the active configuration. -/
def Tables.Consistent (db : Tables γ) : Prop :=
  ∀ nodeId node, db.nodes.get? nodeId = some node →
    ∃ row, db.activeConfig nodeId = some row ∧ row.version = node.activeConfigVersion

def Server.Consistent (s : Server) : Prop := s.db.Consistent

/-- What blocking a node asks of an event: a configuration that differs from
the active one is sent by an active node. -/
def SentByActive (s : Server) : Event → Prop
  | .operation (.putConfig tokenHash (some config) _ _) =>
      ∀ nodeId node row, s.db.bearerNode tokenHash = some nodeId → s.db.nodes.get? nodeId = some node →
        s.db.activeConfig nodeId = some row → row.fields ≠ config → node.status = .active
  | _ => True

/-! ### Who is put where -/

section
variable (W : Setting)

theorem registerWithPipeline_nodeId {nodeId : String} {node : Node} {now : ℚ} {raises : Option Library}
    {db : Tables WireConfig} (member : put ∈ (registerWithPipeline W nodeId node now raises db).1) :
    put.nodeId = nodeId := by
  unfold registerWithPipeline at member
  split at member
  · cases member
  · rcases raises with _ | _ | _
    · simp only [List.mem_cons, List.not_mem_nil, or_false] at member
      rcases member with rfl | rfl | rfl <;> rfl
    · simp only [List.mem_cons, List.not_mem_nil, or_false] at member
      rw [member]
      rfl
    · simp only [List.mem_cons, List.not_mem_nil, or_false] at member
      rcases member with rfl | rfl <;> rfl

/-- The record under `connected_nodes` comes first, and whatever raises after it. -/
theorem registerWithPipeline_puts {db : Tables WireConfig} (active : db.activeConfig nodeId = some row) (node : Node)
    (now : ℚ) (raises : Option Library) :
    ∃ put ∈ (registerWithPipeline W nodeId node now raises db).1, put.nodeId = nodeId := by
  have member := Selection.firstMin_mem active
  have found : ((db.versionsOf nodeId).find? fun row => row.supersededAt.isNone).isSome := by
    obtain ⟨listed, live⟩ := List.mem_filter.mp member
    exact List.find?_isSome.mpr ⟨row, listed, live⟩
  obtain ⟨first, found⟩ := Option.isSome_iff_exists.mp found
  simp only [registerWithPipeline, found]
  rcases raises with _ | _ | _ <;> exact ⟨_, List.mem_cons_self, rfl⟩

theorem fileFrame_nodeId {nodeId : String} {frame : DetectionFrame} {p : Pipeline}
    (member : put ∈ (fileFrame W nodeId frame p).1) : put.nodeId = nodeId := by
  unfold fileFrame at member
  split at member
  · cases member
  · split at member
    · cases member
    · rw [List.mem_singleton.mp member]
      rfl

theorem primeLoop_nodeId {now : ℚ} {raises : String → Option Library} {db : Tables WireConfig} {primed : Nat}
    {nodes : List (String × Node)} (member : put ∈ (primeLoop W now raises db primed nodes).1) :
    ∃ node, (put.nodeId, node) ∈ nodes := by
  induction nodes generalizing primed with
  | nil => cases member
  | cons first rest ih =>
    obtain ⟨nodeId, node⟩ := first
    have own : ∀ handoff, registerWithPipeline W nodeId node now (raises nodeId) db = handoff →
        put ∈ handoff.1 → ∃ node', (put.nodeId, node') ∈ (nodeId, node) :: rest := by
      rintro handoff rfl here
      exact ⟨node, by rw [registerWithPipeline_nodeId W here]; exact List.mem_cons_self⟩
    have later : ∀ primed, put ∈ (primeLoop W now raises db primed rest).1 →
        ∃ node', (put.nodeId, node') ∈ (nodeId, node) :: rest := fun primed there =>
      (ih there).imp fun _ listed => List.mem_cons_of_mem _ listed
    simp only [primeLoop] at member
    split at member
    · rename_i puts handed
      exact own _ handed member
    · rename_i puts handed
      rcases List.mem_append.mp member with here | there
      · exact own _ handed here
      · exact later primed there
    · rename_i puts handed
      rcases List.mem_append.mp member with here | there
      · exact own _ handed here
      · exact later (primed + 1) there

end

/-! ### What is committed -/

theorem open_atOnce {r : Registration WireConfig} {request : RegisterRequest} (named : r.nodeId = request.nodeId)
    {db : Tables WireConfig} (opens : (begunAtOnce request db).open r draws db = some (loaded, opened)) :
    opened.configs = db.configs ∧ opened.nodes.get? r.nodeId = some loaded ∧
      ∀ nodeId ≠ r.nodeId, opened.nodes.get? nodeId = db.nodes.get? nodeId := by
  unfold begunAtOnce at opens
  rw [← named] at opens
  cases held : db.nodes.get? r.nodeId with
  | none =>
    simp only [held, Begun.open, Tables.insertNode, Option.map_eq_some_iff] at opens
    obtain ⟨inserted, fresh, same⟩ := opens
    obtain ⟨rfl, rfl⟩ := Prod.mk.inj same
    split at fresh
    · cases fresh
    · obtain rfl := Option.some.inj fresh
      exact ⟨rfl, Dict.get?_insert_self _ _ _, fun nodeId other => Dict.get?_insert_ne _ _ other.symm⟩
  | some row =>
    simp only [held] at opens
    split at opens
    · obtain ⟨rfl, rfl⟩ := Prod.mk.inj (Option.some.inj opens)
      exact ⟨rfl, held, fun _ _ => rfl⟩
    · obtain ⟨rfl, rfl⟩ := Prod.mk.inj (Option.some.inj opens)
      exact ⟨rfl, held, fun _ _ => rfl⟩

/-- A write transaction of one node, with the status it leaves and the version it makes active. -/
structure Committed (db db' : Tables WireConfig) (nodeId : String) (status : Status) (version : Nat) : Prop where
  row : ∃ node, db'.nodes.get? nodeId = some node ∧ node.status = status ∧ node.activeConfigVersion = version
  active : ∃ row, db'.activeConfig nodeId = some row ∧ row.version = version
  nodes : ∀ nodeId' ≠ nodeId, db'.nodes.get? nodeId' = db.nodes.get? nodeId'
  configs : ∀ nodeId' ≠ nodeId, db'.activeConfig nodeId' = db.activeConfig nodeId'

theorem Committed.consistent (committed : Committed db db' nodeId status version) (consistent : db.Consistent) :
    db'.Consistent := by
  intro nodeId' node found
  by_cases same : nodeId' = nodeId
  · subst same
    obtain ⟨row, held, -, current⟩ := committed.row
    obtain ⟨active, chosen, version⟩ := committed.active
    obtain rfl := Option.some.inj (held.symm.trans found)
    exact ⟨active, chosen, version.trans current.symm⟩
  · rw [committed.configs nodeId' same]
    exact consistent nodeId' node (committed.nodes nodeId' same ▸ found)

/-- An upsert and the node's row brought to its version. -/
theorem Tables.Upserted.committed {db upserted db' : Tables WireConfig}
    (upsert : Tables.Upserted db nodeId config version upserted) (loaded node : Node) (held : db.nodes.get? nodeId = some loaded)
    (version' : node.activeConfigVersion = version)
    (nodes : db'.nodes = (upserted.updateNode nodeId loaded node).nodes)
    (configs : db'.configs = upserted.configs) : Committed db db' nodeId loaded.status version where
  row := by
    refine ⟨loaded.assign node loaded, ?_, rfl, ?_⟩
    · rw [nodes, Tables.updateNode_get? (upsert.nodes ▸ held), if_pos rfl]
    · exact (column_self _ _).trans version'
  active := by
    obtain ⟨row, found, current, -⟩ := upsert.active
    exact ⟨row, (Tables.activeConfig_congr configs nodeId).trans found, current⟩
  nodes := fun nodeId' other => by
    rw [nodes, Tables.updateNode_get? (upsert.nodes ▸ held), if_neg other.symm, upsert.nodes]
  configs := fun nodeId' other => (Tables.activeConfig_congr configs nodeId').trans (upsert.others nodeId' other)

theorem registration_committed {r : Registration WireConfig} {request : RegisterRequest}
    (named : r.nodeId = request.nodeId)
    (written : writeRegistration r draws (begunAtOnce request db) db = some ((node, version), db')) :
    Committed db db' r.nodeId node.status version := by
  obtain ⟨loaded, opened, upserted, began, upsert, shape, mint⟩ := writeRegistration_eq_some written
  obtain ⟨configs, held, others⟩ := open_atOnce named began
  unfold Tables.mintToken at mint
  split at mint
  · cases mint
  · obtain rfl := Option.some.inj mint
    have committed := upsert.committed loaded node held (by rw [shape]) rfl (Tables.updateNode_configs _ _ _ _)
    have status : node.status = loaded.status := by rw [shape]
    rw [status]
    exact { committed with
      nodes := fun nodeId' other => (committed.nodes nodeId' other).trans (others nodeId' other)
      configs := fun nodeId' other =>
        (committed.configs nodeId' other).trans (Tables.activeConfig_congr configs nodeId') }

/-- PUT config moves the node exactly where what was sent differs from the active configuration. -/
theorem writeConfig_committed {db : Tables WireConfig} (consistent : db.Consistent)
    (held : db.nodes.get? nodeId = some loaded) (config : WireConfig) (now : ℚ) :
    ∃ node version changed db',
      writeConfig nodeId config (db.activeConfig nodeId) (db.highestVersion nodeId) now db =
        some ((node, version, changed), db') ∧
      Committed db db' nodeId loaded.status version ∧
      ∃ row, db.activeConfig nodeId = some row ∧ (changed = true ↔ row.fields ≠ config) := by
  obtain ⟨version, upserted, spec, upsert⟩ := Tables.upsertHere_spec db nodeId config now
  obtain ⟨row, active, current⟩ := consistent nodeId loaded held
  have kept : upserted.nodes.get? nodeId = some loaded := upsert.nodes ▸ held
  let node := { loaded with activeConfigVersion := version }
  refine ⟨node, version, decide (loaded.activeConfigVersion ≠ version), upserted.updateNode nodeId loaded node, ?_,
    upsert.committed loaded node held rfl rfl (Tables.updateNode_configs _ _ _ _), row, active, ?_⟩
  · rw [Tables.upsertHere] at spec
    simp only [writeConfig, spec, Option.bind_eq_bind, Option.bind_some, kept]
    rfl
  · rw [decide_eq_true_iff, ← current]
    exact upsert.moved row active

theorem writeConfig_absent {db : Tables WireConfig} (absent : db.nodes.get? nodeId = none) (config : WireConfig)
    (now : ℚ) : writeConfig nodeId config (db.activeConfig nodeId) (db.highestVersion nodeId) now db = none := by
  obtain ⟨version, upserted, spec, upsert⟩ := Tables.upsertHere_spec db nodeId config now
  rw [Tables.upsertHere] at spec
  simp only [writeConfig, spec, Option.bind_eq_bind, Option.bind_some, upsert.nodes, absent, Option.bind_none]

theorem consistent_updateNode {db : Tables WireConfig} (consistent : db.Consistent)
    (held : db.nodes.get? nodeId = some loaded) (now : ℚ) :
    (db.updateNode nodeId loaded { loaded with lastSeenAt := some now }).Consistent := by
  intro nodeId' node found
  rw [Tables.updateNode_get? held] at found
  rw [Tables.activeConfig_congr (Tables.updateNode_configs _ _ _ _)]
  split at found
  · rename_i same
    subst same
    obtain ⟨row, active, current⟩ := consistent nodeId loaded held
    refine ⟨row, active, current.trans ?_⟩
    rw [← Option.some.inj found]
    exact (column_self loaded.activeConfigVersion loaded.activeConfigVersion).symm
  · exact consistent nodeId' node found

/-! ### Every operation -/

section
variable (W : Setting)

/-- The node of everything an event puts somewhere has an active row when the event is over. -/
def PutsActive (s : Server) (e : Event) : Prop := ∀ put ∈ puts W s e, (step W s e).db.isActive put.nodeId

theorem registerNode_puts {s : Server} (request : RegisterRequest) (draws : Draws) (raises : Option Library) :
    ∀ put ∈ (registerNode W request draws raises s).puts,
      (registerNode W request draws raises s).db.isActive put.nodeId := by
  unfold registerNode
  split
  · simp
  · split
    · simp
    · rename_i config _
      simp only
      split
      · simp
      · rename_i node version db written
        split
        · rename_i active
          intro put member
          obtain ⟨row, found, status, -⟩ := (registration_committed rfl written).row
          rw [registerWithPipeline_nodeId W member]
          exact ⟨row, found, status.trans active⟩
        · simp

theorem postDetection_puts {s : Server} (tokenHash : String) (admitted : Bool) (frame : DetectionFrame) :
    ∀ put ∈ (postDetection W tokenHash admitted frame s).puts, s.db.isActive put.nodeId := by
  unfold postDetection
  cases s.db.bearerNode tokenHash with
  | none => simp
  | some nodeId =>
    simp only
    split
    · simp
    · cases held : s.db.nodes.get? nodeId with
      | none => simp
      | some node =>
        simp only
        split
        · simp
        · intro put member
          by_cases active : node.status = .active
          · rw [if_pos (by simp [active])] at member
            rw [fileFrame_nodeId W member]
            exact ⟨node, held, active⟩
          · rw [if_neg (by simp [active])] at member
            cases member

theorem postHeartbeat_puts {s : Server} (tokenHash : String) (admitted : Bool) (configVersion : Option Nat) (now : ℚ)
    (raises : Option Library) :
    ∀ put ∈ (postHeartbeat W tokenHash admitted configVersion now raises s).puts, s.db.isActive put.nodeId := by
  unfold postHeartbeat
  cases s.db.bearerNode tokenHash with
  | none => simp
  | some nodeId =>
    simp only
    split
    · simp
    · cases held : s.db.nodes.get? nodeId with
      | none => simp
      | some loaded =>
        simp only
        intro put member
        by_cases recovered : (!(s.pipeline.connectedNodes.get? nodeId).isSome) = true ∧ loaded.status = .active
        · rw [if_pos recovered] at member
          have own : put.nodeId = nodeId := by
            split at member <;> exact registerWithPipeline_nodeId W member
          rw [own]
          exact ⟨loaded, held, recovered.2⟩
        · rw [if_neg recovered] at member
          split at member <;> cases member

theorem primePipeline_puts {s : Server} (now : ℚ) (raises : String → Option Library) :
    ∀ put ∈ (primePipeline W now raises s).puts, s.db.isActive put.nodeId := by
  intro put member
  obtain ⟨node, listed⟩ := primeLoop_nodeId W member
  obtain ⟨stored, active⟩ := List.mem_filter.mp listed
  exact ⟨node, (Dict.get?_eq_some_iff _ _ _).mpr stored, of_decide_eq_true active⟩

/-- PUT config alone does not look at the status. -/
theorem putConfig_puts_iff {s : Server} (consistent : s.db.Consistent) (tokenHash : String) (config : WireConfig)
    (now : ℚ) (raises : Option Library) :
    (∀ put ∈ (putConfig W tokenHash (some config) now raises s).puts,
        (putConfig W tokenHash (some config) now raises s).db.isActive put.nodeId) ↔
      SentByActive s (.operation (.putConfig tokenHash (some config) now raises)) := by
  unfold putConfig SentByActive
  cases bearer : s.db.bearerNode tokenHash with
  | none => simp [bearer]
  | some nodeId =>
    simp only [bearer, Option.some.injEq]
    cases held : s.db.nodes.get? nodeId with
    | none =>
      simp only [writeConfig_absent held]
      exact iff_of_true (by simp) (by rintro _ _ _ rfl found; simp [held] at found)
    | some loaded =>
      obtain ⟨node, version, changed, db, written, committed, row, active, differs⟩ :=
        writeConfig_committed consistent held config now
      obtain ⟨stored, found, status, -⟩ := committed.row
      simp only [written]
      constructor
      · rintro all _ loaded' row' rfl held' active' different
        obtain rfl := Option.some.inj (held.symm.trans held')
        obtain rfl := Option.some.inj (active.symm.trans active')
        obtain ⟨row, chosen, -⟩ := committed.active
        obtain ⟨put, member, own⟩ := registerWithPipeline_puts W chosen node now raises
        rw [if_pos (differs.mpr different)] at all
        obtain ⟨holder, holds, isActive⟩ := all put member
        rw [own] at holds
        obtain rfl := Option.some.inj (found.symm.trans holds)
        exact status.symm.trans isActive
      · intro sent put member
        split at member
        · rename_i moved
          rw [registerWithPipeline_nodeId W member]
          exact ⟨stored, found, status.trans (sent nodeId loaded row rfl held active (differs.mp moved))⟩
        · cases member

theorem postDetection_db (tokenHash : String) (admitted : Bool) (frame : DetectionFrame) (s : Server) :
    (postDetection W tokenHash admitted frame s).db = s.db := by
  unfold postDetection
  cases s.db.bearerNode tokenHash with
  | none => rfl
  | some nodeId =>
    simp only
    split
    · rfl
    · cases s.db.nodes.get? nodeId with
      | none => rfl
      | some node =>
        simp only
        split <;> rfl

/-- A beat stamps the node's row, or leaves the tables alone. -/
theorem postHeartbeat_db (tokenHash : String) (admitted : Bool) (configVersion : Option Nat) (now : ℚ)
    (raises : Option Library) (s : Server) :
    (postHeartbeat W tokenHash admitted configVersion now raises s).db = s.db ∨
      ∃ nodeId loaded, s.db.nodes.get? nodeId = some loaded ∧
        (postHeartbeat W tokenHash admitted configVersion now raises s).db =
          s.db.updateNode nodeId loaded { loaded with lastSeenAt := some now } := by
  unfold postHeartbeat
  cases s.db.bearerNode tokenHash with
  | none => exact .inl rfl
  | some nodeId =>
    simp only
    split
    · exact .inl rfl
    · cases held : s.db.nodes.get? nodeId with
      | none => exact .inl rfl
      | some loaded =>
        simp only
        generalize (if (!(s.pipeline.connectedNodes.get? nodeId).isSome) = true ∧ loaded.status = .active
          then registerWithPipeline W nodeId { loaded with lastSeenAt := some now } now raises s.db
          else ([], Handoff.registered)) = handed
        split
        · exact .inl rfl
        · exact .inr ⟨nodeId, loaded, held, rfl⟩

theorem isActive_updateNode {db : Tables WireConfig} (held : db.nodes.get? nodeId = some loaded) (now : ℚ)
    (active : db.isActive nodeId') : (db.updateNode nodeId loaded { loaded with lastSeenAt := some now }).isActive nodeId' := by
  obtain ⟨node, found, status⟩ := active
  by_cases same : nodeId = nodeId'
  · subst same
    obtain rfl := Option.some.inj (held.symm.trans found)
    exact ⟨loaded.assign { loaded with lastSeenAt := some now } loaded,
      by rw [Tables.updateNode_get? held, if_pos rfl], status⟩
  · exact ⟨node, by rw [Tables.updateNode_get? held, if_neg same, found], status⟩

/-- Every operation but PUT config meets the block by itself. -/
theorem putsActive_iff {s : Server} (consistent : s.db.Consistent) (e : Event) :
    PutsActive W s e ↔ SentByActive s e := by
  cases e with
  | setStatus _ _ => simp [PutsActive, SentByActive, puts]
  | elsewhere _ => simp [PutsActive, SentByActive, puts]
  | operation op =>
    cases op with
    | registerNode request draws raises => exact iff_of_true (registerNode_puts W request draws raises) trivial
    | primePipeline now raises => exact iff_of_true (primePipeline_puts W now raises) trivial
    | putConfig tokenHash config now raises =>
      cases config with
      | none =>
        refine iff_of_true ?_ trivial
        unfold PutsActive puts
        simp only [Operation.outcome, putConfig]
        cases s.db.bearerNode tokenHash <;> simp
      | some config => exact putConfig_puts_iff W consistent tokenHash config now raises
    | postDetection tokenHash admitted frame =>
      refine iff_of_true (fun put member => ?_) trivial
      have active := postDetection_puts W tokenHash admitted frame put member
      simp only [step, Operation.outcome, postDetection_db]
      exact active
    | postHeartbeat tokenHash admitted configVersion now raises =>
      refine iff_of_true (fun put member => ?_) trivial
      have active := postHeartbeat_puts W tokenHash admitted configVersion now raises put member
      simp only [step, Operation.outcome]
      rcases postHeartbeat_db W tokenHash admitted configVersion now raises s with same | ⟨nodeId, loaded, held, stamped⟩
      · exact same.symm ▸ active
      · exact stamped.symm ▸ isActive_updateNode held now active

theorem consistent_step {s : Server} (consistent : s.db.Consistent) (e : Event) : (step W s e).db.Consistent := by
  cases e with
  | setStatus nodeId status =>
    simp only [step]
    split
    · exact consistent
    · rename_i node held
      intro nodeId' node' found
      rw [Dict.get?_insert] at found
      split at found
      · rename_i same
        subst same
        rw [← Option.some.inj found]
        exact consistent nodeId node held
      · exact consistent nodeId' node' found
  | elsewhere _ => exact consistent
  | operation op =>
    cases op with
    | registerNode request draws raises =>
      simp only [step, Operation.outcome, registerNode]
      split
      · exact consistent
      · split
        · exact consistent
        · split
          · exact consistent
          · rename_i written
            have committed := registration_committed rfl written
            split <;> exact committed.consistent consistent
    | putConfig tokenHash config now raises =>
      simp only [step, Operation.outcome, putConfig]
      split
      · exact consistent
      · rename_i nodeId _
        split
        · exact consistent
        · split
          · exact consistent
          · rename_i config _ node version changed db written
            cases held : s.db.nodes.get? nodeId with
            | none => cases written.symm.trans (writeConfig_absent held config now)
            | some loaded =>
              obtain ⟨_, _, _, _, spec, committed, -⟩ := writeConfig_committed consistent held config now
              obtain ⟨_, rfl⟩ := Prod.mk.inj (Option.some.inj (written.symm.trans spec))
              exact committed.consistent consistent
    | postDetection tokenHash admitted frame =>
      simp only [step, Operation.outcome, postDetection_db]
      exact consistent
    | postHeartbeat tokenHash admitted configVersion now raises =>
      simp only [step, Operation.outcome]
      rcases postHeartbeat_db W tokenHash admitted configVersion now raises s with same | ⟨nodeId, loaded, held, stamped⟩
      · rw [same]
        exact consistent
      · rw [stamped]
        exact consistent_updateNode consistent held now
    | primePipeline now raises => exact consistent

/-! ### What the places hold -/

theorem names_put {p : Pipeline} {put : Put} {place : Place} (member : nodeId ∈ (p.put put).names place) :
    nodeId ∈ p.names place ∨ put.place = place ∧ put.nodeId = nodeId := by
  cases put with
  | frameQueue n frame =>
    cases place with
    | frameQueue =>
      simp only [Pipeline.put, Pipeline.names, List.map_append, List.mem_append] at member
      exact member.imp id fun now => ⟨rfl, (List.mem_singleton.mp now).symm⟩
    | connectedNodes | nodeAnalytics | nodeAssociator => exact .inl member
  | connectedNodes n entry =>
    cases place with
    | connectedNodes => exact ((Dict.mem_keys_insert _ _).mp member).symm.imp id fun same => ⟨rfl, same.symm⟩
    | frameQueue | nodeAnalytics | nodeAssociator => exact .inl member
  | nodeAnalytics n config =>
    cases place with
    | nodeAnalytics => exact ((Dict.mem_keys_insert _ _).mp member).symm.imp id fun same => ⟨rfl, same.symm⟩
    | frameQueue | connectedNodes | nodeAssociator => exact .inl member
  | nodeAssociator n config =>
    cases place with
    | nodeAssociator => exact ((Dict.mem_keys_insert _ _).mp member).symm.imp id fun same => ⟨rfl, same.symm⟩
    | frameQueue | connectedNodes | nodeAnalytics => exact .inl member

theorem names_puts {place : Place} (puts : List Put) {p : Pipeline}
    (member : nodeId ∈ (puts.foldl Pipeline.put p).names place) :
    nodeId ∈ p.names place ∨ ∃ put ∈ puts, put.place = place ∧ put.nodeId = nodeId := by
  induction puts generalizing p with
  | nil => exact .inl member
  | cons put rest ih =>
    rcases ih member with first | ⟨later, listed, placed⟩
    · rcases names_put first with before | placed
      · exact .inl before
      · exact .inr ⟨put, List.mem_cons_self, placed⟩
    · exact .inr ⟨later, List.mem_cons_of_mem _ listed, placed⟩

/-- Stamping a node as heard adds nobody. -/
theorem names_markHeard {p : Pipeline} {place : Place} (member : nodeId ∈ (p.markHeard n now).names place) :
    nodeId ∈ p.names place := by
  unfold Pipeline.markHeard at member
  split at member
  · exact member
  · rename_i entry held
    cases place with
    | connectedNodes =>
      rcases (Dict.mem_keys_insert _ _).mp member with rfl | before
      · by_contra absent
        rw [(Dict.get?_eq_none_iff _ _).mpr absent] at held
        cases held
      · exact before
    | frameQueue | nodeAnalytics | nodeAssociator => exact member

/-- Whoever an operation brings into a place, it put there. -/
theorem names_step {s : Server} {op : Operation} {place : Place}
    (member : nodeId ∈ (step W s (.operation op)).pipeline.names place) :
    nodeId ∈ s.pipeline.names place ∨ ∃ put ∈ puts W s (.operation op), put.place = place ∧ put.nodeId = nodeId := by
  simp only [step] at member
  cases heard : (op.outcome W s).heard with
  | none =>
    rw [heard] at member
    exact names_puts _ member
  | some stamp =>
    rw [heard] at member
    exact names_puts _ (names_markHeard member)

/-- Along every run no operation puts a node anywhere whose row is not active,
exactly where every configuration that moves its node is sent by an active one. -/
theorem block_holds_iff (events : List Event) :
    Along (step W) (PutsActive W) Server.start events ↔ Along (step W) SentByActive Server.start events := by
  have start : Server.start.Consistent := by
    intro nodeId node found
    simp [Server.start, Tables.empty] at found
  have preserved : ∀ (s : Server) e, s.Consistent → (step W s e).Consistent := fun s e held => consistent_step W held e
  exact along_congr preserved (fun s e consistent => putsActive_iff W consistent e) start events

end

/-! A board is registered, blocked, and removed from the pipeline; then it sends another configuration. -/

def plainSetting : Setting where
  text := ⟨fun _ => none, fun _ => "", fun _ => ""⟩
  configHash _ := "hash"
  queueSize := 500
  nodeOfflineThresholdS := 120

def surveyed : WireConfig where
  rxLat := some 45
  rxLon := some 7
  rxAltFt := some 900
  txLat := some 46
  txLon := some 7
  txAltFt := some 1200
  txCallsign := some "TX"
  fcHz := 100000000
  fsHz := 2000000
  beamWidthDeg := none
  beamAzimuthDeg := none
  maxRangeKm := 50
  cpiS := 1
  delayToleranceUs := 1
  dopplerToleranceHz := 1

def blockedBefore : List Event :=
  [.operation (.registerNode ⟨"ret1a2b3c4d", "pi5", {}, true, true, some surveyed⟩ ⟨"ndeaaaaaaaaaaaa", "h1", 10⟩ none),
   .setStatus "ret1a2b3c4d" .blocked,
   .elsewhere Pipeline.empty]

def blockedPut : Event := .operation (.putConfig "h1" (some { surveyed with maxRangeKm := 60 }) 20 none)

theorem blocked_node_put_back :
    ¬ Along (step plainSetting) (PutsActive plainSetting) Server.start (blockedBefore ++ [blockedPut]) ∧
      "ret1a2b3c4d" ∉ (run (step plainSetting) Server.start blockedBefore).pipeline.connectedNodes.keys ∧
      "ret1a2b3c4d" ∈ (run (step plainSetting) Server.start (blockedBefore ++ [blockedPut])).pipeline.connectedNodes.keys := by
  refine ⟨fun along => ?_, by decide +kernel, by decide +kernel⟩
  have last := (along_iff_split _ _ _ _).mp along blockedBefore blockedPut [] rfl
  have blocked : ((step plainSetting (run (step plainSetting) Server.start blockedBefore) blockedPut).db.nodes.get?
      "ret1a2b3c4d").map Node.status = some .blocked := by decide +kernel
  have handed : ((puts plainSetting (run (step plainSetting) Server.start blockedBefore) blockedPut).map Put.nodeId).head? =
      some "ret1a2b3c4d" := by decide +kernel
  obtain ⟨put, member, named⟩ := List.mem_map.mp (List.mem_of_head? handed)
  obtain ⟨node, found, active⟩ := last put member
  rw [named] at found
  simp [found, active] at blocked

end Retina.NodeApi
