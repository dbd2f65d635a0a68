import RetinaServer.Tcp.NodeConfig
import RetinaServer.Frames.Frame
import RetinaServer.Frames.FrameQueue
import RetinaServer.Registry.Identity

/-! What the node protocol writes: one handler for each kind of message, over the
state that all connections share. -/
namespace Retina.Tcp
open OrderedDict
open Frames (Ingress QueueShape Trig ingressStep)

def CHAIN_ENTRIES_MAX_PER_NODE : Nat := 500
def IQ_COMMITMENTS_MAX_PER_NODE : Nat := 200
def RETINA_PROTOCOL_VERSION : String := "1.0"

/-- The readings of the clocks while one message is handled. -/
structure Clock where
  iso : String
  time : ℚ
  monotonic : ℚ

structure NodeIdentity where
  nodeId : Json
  publicKeyPem : Json
  publicKeyFingerprint : Json
  serialNumber : Json
  signingMode : Json
  registeredAt : String

/-- How the server is set up, and the libraries the handlers call. -/
structure Listener where
  /-- `RADAR_NODE_TOKEN`. -/
  token : Option String
  /-- `NODE_FRAME_MIN_INTERVAL_S`. -/
  minIntervalS : ℚ
  text : PyText
  trig : Trig
  /-- `SignatureVerifier.register_key` returns. -/
  registers : NodeKey → Json → Bool
  /-- `HashChainVerifier.verify_entry` accepts the entry under the keys it looks up; an exception is a refusal. -/
  verifies : (NodeKey → Option Json) → Fields → Bool

/-- The state that outlives a connection. A pipeline is kept with the configuration it was built from, and a
queued frame with the node id it was queued under. -/
structure Server (q : QueueShape) where
  connectedNodes : Dict String Fields
  peakConnectedNodes : Nat
  nodeIdentities : Dict NodeKey NodeIdentity
  verifierKeys : Dict NodeKey Json
  chainEntries : Dict NodeKey (List Fields)
  iqCommitments : Dict NodeKey (List Fields)
  /-- `record_heartbeat`, call by call. -/
  heartbeats : List String
  /-- `register_node`, call by call. -/
  registrations : List (String × Fields)
  nodePipelines : Dict String Fields
  perNodeLastEnqueue : Dict NodeKey ℚ
  adsbAircraft : Dict String Fields
  frameQueue : Ingress q (Json × Json)

/-- What a handler leaves: the state, what it sent, and whether the read loop is left, by a `return` or an exception. -/
structure Handled (q : QueueShape) where
  server : Server q
  replies : List Json := []
  ended : Bool := false

section
variable {q : QueueShape}

def raised (s : Server q) : Handled q := { server := s, ended := true }

/-- `sent` is whether the peer still takes what is written to it. -/
def reply (s : Server q) (message : Fields) (sent : Bool) : Handled q :=
  { server := s, replies := [.dict message], ended := !sent }

/-- `entries[-n:]` where there are more than `n`. -/
def newest {α : Type u} (n : Nat) (entries : List α) : List α := entries.drop (entries.length - n)

def statusOf (record : Fields) : Json := get record "status" .null

def isDisconnected (record : Fields) : Bool := Json.eqv (.str "disconnected") (statusOf record)

/-! ### HELLO and CONFIG -/

/-- `hmac.compare_digest`; `none` is an argument it raises for. -/
def compareDigest (given : Json) (token : String) : Option Bool :=
  match given with
  | .str s => if s.toList.all (fun c => decide (c.toNat < 128)) && token.toList.all (fun c => decide (c.toNat < 128)) then
      some (decide (s = token)) else none
  | _ => none

inductive HelloOutcome where
  | accepted
  | badToken
  | raised

/-- The token is compared only where one is set. -/
def helloOutcome (token : Option String) (msg : Fields) (nodeId : Json) : HelloOutcome :=
  match nodeId with
  | .str _ =>
      let greeted := match get msg "capabilities" (.dict []) with
        | .dict _ => HelloOutcome.accepted
        | _ => .raised
      match token.filter fun t => decide (t ≠ "") with
      | none => greeted
      | some token => match compareDigest (get msg "token" (.str "")) token with
        | none => .raised
        | some false => .badToken
        | some true => greeted
  -- `is_synthetic_node` calls `startswith`.
  | _ => .raised

/-- A record without the key reads as an empty one. -/
def knownRecord (s : Server q) (nodeId : String) : Fields := (s.connectedNodes.get? nodeId).getD []

def configRecord (w : Listener) (known msg : Fields) (nodeId peer : String) (now : Clock) : Fields :=
  [("config_hash", get msg "config_hash" (.str "")),
   ("config", .dict (canonicalConfig w.text (get msg "config" (.dict [])))),
   ("status", .str "active"),
   ("last_heartbeat", .str now.iso),
   ("peer", .str peer),
   ("is_synthetic", get msg "is_synthetic" (.bool (Registry.isSyntheticNode nodeId))),
   ("capabilities", get msg "capabilities" (.dict [])),
   ("first_seen_ts", get known "first_seen_ts" (.float (.fin now.time)))]

def activeCount (nodes : Dict String Fields) : Nat := (nodes.values.filter fun record => !isDisconnected record).length

/-- The record is written anew, and a pipeline of another configuration is dropped. -/
def storeConfig (w : Listener) (s : Server q) (msg : Fields) (nodeId peer : String) (now : Clock) : Server q :=
  let canonical := canonicalConfig w.text (get msg "config" (.dict []))
  let configChanged := !(get (knownRecord s nodeId) "config" .null).eqv (.dict canonical)
  let nodes := s.connectedNodes.insert nodeId (configRecord w (knownRecord s nodeId) msg nodeId peer now)
  { s with
    connectedNodes := nodes
    peakConnectedNodes := max s.peakConnectedNodes (activeCount nodes)
    nodePipelines := if configChanged then s.nodePipelines.erase nodeId else s.nodePipelines }

def SERVER_CAPABILITIES : Fields :=
  [("config_request", .bool true), ("adsb_report", .bool true), ("association", .bool true),
   ("analytics", .bool true), ("coverage_map", .bool true)]

def configAck (configHash : Json) : Json :=
  .dict [("type", .str "CONFIG_ACK"), ("config_hash", configHash),
    ("server_version", .str RETINA_PROTOCOL_VERSION), ("server_capabilities", .dict SERVER_CAPABILITIES)]

def handleConfig (w : Listener) (s : Server q) (msg : Fields) (nodeId : Json) (peer : String) (now : Clock)
    (sent : Bool) : Handled q :=
  match validateNodeConfig w.text (get msg "config" (.dict [])), nodeId with
  | .refused error, _ => reply s [("type", .str "CONFIG_NACK"), ("error", .str error)] sent
  | .accepted, .str nodeId =>
      let configHash := get msg "config_hash" (.str "")
      let s := storeConfig w s msg nodeId peer now
      -- The event log takes the hash's first eight characters.
      if !configHash.sliceable then raised s
      else if !sent then { server := s, replies := [configAck configHash], ended := true }
      else
        { server := { s with registrations :=
            s.registrations ++ [(nodeId, canonicalConfig w.text (get msg "config" (.dict [])))] }
          replies := [configAck configHash] }
  | _, _ => raised s

/-! ### Custody and heartbeats -/

/-- The node a key is registered for, if the message carries one. -/
def keyNode (msg : Fields) (nodeId : Json) : Option NodeKey :=
  if (get msg "public_key_pem" (.str "")).truthy && (get msg "node_id" nodeId).truthy then
    (get msg "node_id" nodeId).hashKey
  else none

def identityOf (msg : Fields) (nodeId : Json) (now : Clock) : NodeIdentity :=
  { nodeId := get msg "node_id" nodeId
    publicKeyPem := get msg "public_key_pem" (.str "")
    publicKeyFingerprint := get msg "fingerprint" (.str "")
    serialNumber := get msg "serial_number" (.str "")
    signingMode := get msg "signing_mode" (.str "software")
    registeredAt := now.iso }

def handleRegisterKey (w : Listener) (s : Server q) (msg : Fields) (nodeId : Json) (now : Clock) (sent : Bool) :
    Handled q :=
  let pubKeyPem := get msg "public_key_pem" (.str "")
  let fingerprint := get msg "fingerprint" (.str "")
  match keyNode msg nodeId with
  | none =>
      -- A list or an object is no dictionary key.
      if pubKeyPem.truthy && (get msg "node_id" nodeId).truthy then raised s else { server := s }
  | some key =>
      let s := { s with nodeIdentities := s.nodeIdentities.insert key (identityOf msg nodeId now) }
      if !w.registers key pubKeyPem then raised s
      else
        let s := { s with verifierKeys := s.verifierKeys.insert key pubKeyPem }
        if !fingerprint.sliceable then raised s
        else reply s [("type", .str "KEY_ACK"), ("node_id", get msg "node_id" nodeId), ("fingerprint", fingerprint),
          ("status", .str "registered")] sent

/-- The node a nested record goes to, and whether naming it raises. -/
def recordNode (record : Fields) (nodeId : Json) : Option NodeKey :=
  if (get record "node_id" nodeId).truthy then (get record "node_id" nodeId).hashKey else none

def entryNode (msg : Fields) (nodeId : Json) : Option NodeKey :=
  match get msg "entry" (.dict []) with
  | .dict entry => recordNode entry nodeId
  | _ => none

def handleChainEntry (w : Listener) (s : Server q) (msg : Fields) (nodeId : Json) (now : Clock) (sent : Bool) :
    Handled q :=
  match get msg "entry" (.dict []) with
  | .dict entry => match recordNode entry nodeId with
    | none => if (get entry "node_id" nodeId).truthy then raised s else { server := s }
    | some key =>
        let verified := (s.nodeIdentities.get? key).isSome && w.verifies s.verifierKeys.get? entry
        let stored := put "_received_at" (.str now.iso) (put "_verified" (.bool verified) entry)
        let entries := newest CHAIN_ENTRIES_MAX_PER_NODE ((s.chainEntries.get? key).getD [] ++ [stored])
        reply { s with chainEntries := s.chainEntries.insert key entries }
          [("type", .str "CHAIN_ENTRY_ACK"), ("node_id", get entry "node_id" nodeId),
           ("entry_hash", get entry "entry_hash" (.str "")), ("verified", .bool verified)] sent
  | _ => raised s

def captureNode (msg : Fields) (nodeId : Json) : Option NodeKey :=
  match get msg "capture" (.dict []) with
  | .dict capture => recordNode capture nodeId
  | _ => none

def handleIqCommitment (s : Server q) (msg : Fields) (nodeId : Json) (now : Clock) (sent : Bool) : Handled q :=
  match get msg "capture" (.dict []) with
  | .dict capture => match recordNode capture nodeId with
    | none => if (get capture "node_id" nodeId).truthy then raised s else { server := s }
    | some key =>
        let stored := put "_received_at" (.str now.iso) capture
        let captures := newest IQ_COMMITMENTS_MAX_PER_NODE ((s.iqCommitments.get? key).getD [] ++ [stored])
        let s := { s with iqCommitments := s.iqCommitments.insert key captures }
        if !(get capture "iq_hash" (.str "")).sliceable then raised s
        else reply s
          [("type", .str "IQ_COMMITMENT_ACK"), ("node_id", get capture "node_id" nodeId),
           ("capture_id", get capture "capture_id" (.str "")), ("status", .str "committed")] sent
  | _ => raised s

/-- The connected node a heartbeat is about. -/
def heartbeatNode (s : Server q) (msg : Fields) (nodeId : Json) : Option (String × Fields) :=
  match get msg "node_id" nodeId with
  | .str id => if id = "" then none else (s.connectedNodes.get? id).map fun record => (id, record)
  | _ => none

/-- `msg.get("timestamp") or datetime.now(...)`. -/
def heartbeatStamp (msg : Fields) (now : Clock) : Json :=
  if (get msg "timestamp" .null).truthy then get msg "timestamp" .null else .str now.iso

def heartbeatRecord (record msg : Fields) (now : Clock) : Fields :=
  put "status" (get msg "status" (.str "active")) (put "last_heartbeat" (heartbeatStamp msg now) record)

/-- The configuration the node reports is not the stored one. -/
def configDrift (record msg : Fields) : Bool :=
  (get record "config_hash" (.str "")).truthy &&
    !(get msg "config_hash" (.str "")).eqv (get record "config_hash" (.str ""))

def handleHeartbeat (s : Server q) (msg : Fields) (nodeId : Json) (now : Clock) (sent : Bool) : Handled q :=
  match heartbeatNode s msg nodeId with
  | none =>
      if (get msg "node_id" nodeId).truthy && ((get msg "node_id" nodeId).hashKey).isNone then raised s
      else { server := s }
  | some (id, record) =>
      let s := { s with
        connectedNodes := s.connectedNodes.insert id (heartbeatRecord record msg now)
        heartbeats := s.heartbeats ++ [id] }
      if configDrift record msg then
        if !(get record "config_hash" (.str "")).sliceable || !(get msg "config_hash" (.str "")).sliceable then raised s
        else reply s [("type", .str "CONFIG_REQUEST"), ("node_id", .str id)] sent
      else { server := s }

/-- The heartbeat reports another configuration, and the request for it does not go out. -/
def heartbeatEnds (record msg : Fields) (sent : Bool) : Bool :=
  configDrift record msg &&
    (!(get record "config_hash" (.str "")).sliceable || !(get msg "config_hash" (.str "")).sliceable || !sent)

/-! ### What each message writes -/

theorem handleConfig_writes (w : Listener) (s : Server q) (msg : Fields) (nodeId : Json) (peer : String) (now : Clock)
    (sent : Bool) : ∃ connectedNodes peakConnectedNodes registrations nodePipelines,
      (handleConfig w s msg nodeId peer now sent).server =
        { s with connectedNodes, peakConnectedNodes, registrations, nodePipelines } := by
  rw [handleConfig.eq_def]
  split
  · exact ⟨_, _, _, _, rfl⟩
  · simp only
    split
    · exact ⟨_, _, _, _, rfl⟩
    · split
      · exact ⟨_, _, _, _, rfl⟩
      · exact ⟨_, _, _, _, rfl⟩
  · exact ⟨_, _, _, _, rfl⟩

theorem handleRegisterKey_writes (w : Listener) (s : Server q) (msg : Fields) (nodeId : Json) (now : Clock)
    (sent : Bool) : ∃ nodeIdentities verifierKeys,
      (handleRegisterKey w s msg nodeId now sent).server = { s with nodeIdentities, verifierKeys } := by
  rw [handleRegisterKey]
  cases keyNode msg nodeId with
  | none =>
    simp only
    split
    · exact ⟨_, _, rfl⟩
    · exact ⟨_, _, rfl⟩
  | some key =>
    simp only
    split
    · exact ⟨_, _, rfl⟩
    · split
      · exact ⟨_, _, rfl⟩
      · exact ⟨_, _, rfl⟩

theorem handleChainEntry_writes (w : Listener) (s : Server q) (msg : Fields) (nodeId : Json) (now : Clock)
    (sent : Bool) : ∃ chainEntries,
      (handleChainEntry w s msg nodeId now sent).server = { s with chainEntries } := by
  rw [handleChainEntry]
  split
  · split
    · split
      · exact ⟨_, rfl⟩
      · exact ⟨_, rfl⟩
    · exact ⟨_, rfl⟩
  · exact ⟨_, rfl⟩

theorem handleIqCommitment_writes (s : Server q) (msg : Fields) (nodeId : Json) (now : Clock) (sent : Bool) :
    ∃ iqCommitments, (handleIqCommitment s msg nodeId now sent).server = { s with iqCommitments } := by
  rw [handleIqCommitment]
  split
  · split
    · split
      · exact ⟨_, rfl⟩
      · exact ⟨_, rfl⟩
    · simp only
      split
      · exact ⟨_, rfl⟩
      · exact ⟨_, rfl⟩
  · exact ⟨_, rfl⟩

theorem handleHeartbeat_writes (s : Server q) (msg : Fields) (nodeId : Json) (now : Clock) (sent : Bool) :
    ∃ connectedNodes heartbeats,
      (handleHeartbeat s msg nodeId now sent).server = { s with connectedNodes, heartbeats } := by
  rw [handleHeartbeat]
  split
  · split
    · exact ⟨_, _, rfl⟩
    · exact ⟨_, _, rfl⟩
  · simp only
    split
    · split
      · exact ⟨_, _, rfl⟩
      · exact ⟨_, _, rfl⟩
    · exact ⟨_, _, rfl⟩

theorem handleRegisterKey_connectedNodes (w : Listener) (s : Server q) (msg : Fields) (nodeId : Json) (now : Clock)
    (sent : Bool) : (handleRegisterKey w s msg nodeId now sent).server.connectedNodes = s.connectedNodes := by
  obtain ⟨_, _, written⟩ := handleRegisterKey_writes w s msg nodeId now sent
  rw [written]

theorem handleChainEntry_connectedNodes (w : Listener) (s : Server q) (msg : Fields) (nodeId : Json) (now : Clock)
    (sent : Bool) : (handleChainEntry w s msg nodeId now sent).server.connectedNodes = s.connectedNodes := by
  obtain ⟨_, written⟩ := handleChainEntry_writes w s msg nodeId now sent
  rw [written]

theorem handleIqCommitment_connectedNodes (s : Server q) (msg : Fields) (nodeId : Json) (now : Clock) (sent : Bool) :
    (handleIqCommitment s msg nodeId now sent).server.connectedNodes = s.connectedNodes := by
  obtain ⟨_, written⟩ := handleIqCommitment_writes s msg nodeId now sent
  rw [written]

theorem handleConfig_server_of_refused (w : Listener) (s : Server q) (msg : Fields) (nodeId : Json) (peer : String)
    (now : Clock) (sent : Bool)
    (refused : ∀ id, validateNodeConfig w.text (get msg "config" (.dict [])) = .accepted → nodeId ≠ .str id) :
    (handleConfig w s msg nodeId peer now sent).server = s := by
  simp only [handleConfig]
  cases verdict : validateNodeConfig w.text (get msg "config" (.dict [])) with
  | refused error => rfl
  | raised => rfl
  | accepted =>
    cases nodeId with
    | str id => exact absurd rfl (refused id verdict)
    | null | bool _ | int _ | float _ | list _ | dict _ => rfl

theorem handleConfig_of_accepted (w : Listener) (s : Server q) (msg : Fields) (id peer : String) (now : Clock)
    (sent : Bool) (accepted : validateNodeConfig w.text (get msg "config" (.dict [])) = .accepted) :
    (handleConfig w s msg (.str id) peer now sent).server.connectedNodes =
      s.connectedNodes.insert id (configRecord w (knownRecord s id) msg id peer now) := by
  simp only [handleConfig, accepted]
  split
  · rfl
  · split <;> rfl

theorem heartbeatNode_record {s : Server q} (about : heartbeatNode s msg nodeId = some (id', record)) :
    get msg "node_id" nodeId = .str id' ∧ s.connectedNodes.get? id' = some record := by
  rw [heartbeatNode] at about
  split at about
  · rename_i id named
    split at about
    · cases about
    · obtain ⟨record', found, same⟩ := Option.map_eq_some_iff.mp about
      obtain ⟨rfl, rfl⟩ := Prod.mk.inj same
      exact ⟨named, found⟩
  · cases about

theorem handleHeartbeat_server_of_none (s : Server q) (msg : Fields) (nodeId : Json) (now : Clock) (sent : Bool)
    (unnamed : heartbeatNode s msg nodeId = none) : (handleHeartbeat s msg nodeId now sent).server = s := by
  simp only [handleHeartbeat, unnamed]
  split <;> rfl

theorem handleHeartbeat_of_some (s : Server q) (msg : Fields) (nodeId : Json) (now : Clock) (sent : Bool)
    (about : heartbeatNode s msg nodeId = some (n, record)) :
    (handleHeartbeat s msg nodeId now sent).server.connectedNodes =
        s.connectedNodes.insert n (heartbeatRecord record msg now) ∧
      (handleHeartbeat s msg nodeId now sent).ended = heartbeatEnds record msg sent := by
  simp only [handleHeartbeat, about, heartbeatEnds]
  split
  · rename_i drift
    simp only [drift, Bool.true_and]
    split
    · rename_i unsliceable
      rw [unsliceable, Bool.true_or]
      exact ⟨rfl, rfl⟩
    · rename_i sliceable
      rw [Bool.not_eq_true] at sliceable
      rw [sliceable, Bool.false_or]
      exact ⟨rfl, rfl⟩
  · rename_i same
    rw [Bool.not_eq_true] at same
    rw [same, Bool.false_and]
    exact ⟨rfl, rfl⟩

end
end Retina.Tcp
