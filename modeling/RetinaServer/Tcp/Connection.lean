import RetinaServer.Tcp.Detection
import RetinaServer.Library.Runs

/-! Connections over the shared state: each handles its own messages in order,
and the messages, the closings and the frame queue's other users interleave. -/
namespace Retina.Tcp
open OrderedDict
open Frames (IngressStep QueueShape ingressStep)

inductive MessageKind where
  | hello
  | config
  | registerKey
  | chainEntry
  | iqCommitment
  | heartbeat
  | detection
  /-- A frame without a type. -/
  | bare
  | other
deriving DecidableEq, Repr

def isType (msg : Fields) (name : String) : Bool := (get msg "type" .null).eqv (.str name)

def kindOf (msg : Fields) : MessageKind :=
  if isType msg "HELLO" then .hello
  else if isType msg "CONFIG" then .config
  else if isType msg "REGISTER_KEY" then .registerKey
  else if isType msg "CHAIN_ENTRY" then .chainEntry
  else if isType msg "IQ_COMMITMENT" then .iqCommitment
  else if isType msg "HEARTBEAT" then .heartbeat
  else if isType msg "DETECTION" then .detection
  else if has msg "timestamp" && (get msg "type" .null).isNull then .bare
  else .other

/-- A connection: the name it goes by, and whether its loop is left and only the `finally` is to come. -/
structure Conn where
  peer : String
  nodeId : Json := .null
  ended : Bool := false

structure Received (q : QueueShape) where
  server : Server q
  conn : Conn
  replies : List Json := []

section
variable {q : QueueShape}

def Handled.onConn (handled : Handled q) (conn : Conn) : Received q :=
  { server := handled.server, conn := { conn with ended := handled.ended }, replies := handled.replies }

def unknownName (conn : Conn) : Json := .str ("unknown-" ++ conn.peer)

/-- The name a HELLO gives. -/
def helloName (conn : Conn) (msg : Fields) : Json := get msg "node_id" (unknownName conn)

/-- A configuration names its connection only where nothing else has. -/
def configName (conn : Conn) (msg : Fields) : Json :=
  if conn.nodeId.isNull then get msg "node_id" (unknownName conn) else conn.nodeId

/-- The name is given before the token is compared. -/
def handleHello (w : Listener) (s : Server q) (conn : Conn) (msg : Fields) : Received q :=
  let named := { conn with nodeId := helloName conn msg }
  match helloOutcome w.token msg (helloName conn msg) with
  | .accepted => { server := s, conn := named }
  | .badToken =>
      { server := s, conn := { named with ended := true },
        replies := [.dict [("type", .str "AUTH_FAIL"), ("error", .str "invalid token")]] }
  | .raised => { server := s, conn := { named with ended := true } }

/-- One message of the read loop. -/
def handleMessage (w : Listener) (s : Server q) (conn : Conn) (msg : Json) (now : Clock) (sent : Bool) : Received q :=
  match msg with
  | .dict msg => match kindOf msg with
    | .hello => handleHello w s conn msg
    | .config =>
        (handleConfig w s msg (configName conn msg) conn.peer now sent).onConn { conn with nodeId := configName conn msg }
    | .registerKey => (handleRegisterKey w s msg conn.nodeId now sent).onConn conn
    | .chainEntry => (handleChainEntry w s msg conn.nodeId now sent).onConn conn
    | .iqCommitment => (handleIqCommitment s msg conn.nodeId now sent).onConn conn
    | .heartbeat => (handleHeartbeat s msg conn.nodeId now sent).onConn conn
    | .detection => (enqueueDetection w s msg conn.nodeId now).onConn conn
    | .bare => { server := putFrame w s conn.nodeId (bareFrame msg conn.nodeId), conn }
    | .other => { server := s, conn }
  -- Only an object has a `get`.
  | _ => (raised s).onConn conn

def finishedRecord (record : Fields) (now : Clock) : Fields :=
  put "disconnected_ts" (.float (.fin now.time)) (put "status" (.str "disconnected") record)

/-- The `finally`: the node the connection goes by is marked, whichever connection configured it. -/
def finish (s : Server q) (conn : Conn) (now : Clock) : Server q :=
  match conn.nodeId with
  | .str id => if id = "" then s else match s.connectedNodes.get? id with
    | none => s
    | some record => { s with connectedNodes := s.connectedNodes.insert id (finishedRecord record now) }
  | _ => s

/-- The shared state and the connections that are open. -/
structure Net (q : QueueShape) where
  server : Server q
  conns : Dict Nat Conn

inductive Event (q : QueueShape) where
  | opened (c : Nat) (peer : String)
  | received (c : Nat) (msg : Json) (now : Clock) (sent : Bool)
  | closed (c : Nat) (now : Clock)
  /-- A worker, or the ingest of frames over HTTP. -/
  | queue (step : IngressStep q (Json × Json))

def Event.conn : Event q → Option Nat
  | .opened c _ | .received c _ _ _ | .closed c _ => some c
  | .queue _ => none

def step (w : Listener) (net : Net q) : Event q → Net q
  | .opened c peer => if (net.conns.get? c).isSome then net
      else { net with conns := net.conns.insert c { peer } }
  | .received c msg now sent => match net.conns.get? c with
    | none => net
    | some conn => if conn.ended then net
        else
          let got := handleMessage w net.server conn msg now sent
          { server := got.server, conns := net.conns.insert c got.conn }
  | .closed c now => match net.conns.get? c with
    | none => net
    | some conn => { server := finish net.server conn now, conns := net.conns.erase c }
  | .queue step => { net with server :=
      { net.server with frameQueue := ingressStep q net.server.frameQueue step } }

/-- The connection's HELLO is accepted. -/
def greets (w : Listener) (net : Net q) : Event q → Option Nat
  | .received c (.dict msg) _ _ => match net.conns.get? c with
    | none => none
    | some conn => match conn.ended, kindOf msg, helloOutcome w.token msg (helloName conn msg) with
      | false, .hello, .accepted => some c
      | _, _, _ => none
  | _ => none

/-- The connection's CONFIG is accepted, and the node it is for. -/
def configures (w : Listener) (net : Net q) : Event q → Option (Nat × String)
  | .received c (.dict msg) _ _ => match net.conns.get? c with
    | none => none
    | some conn => match conn.ended, kindOf msg, validateNodeConfig w.text (get msg "config" (.dict [])),
          configName conn msg with
      | false, .config, .accepted, .str id => some (c, id)
      | _, _, _, _ => none
  | _ => none

/-- The connections with what was accepted on each of them so far. -/
structure Traced (q : QueueShape) where
  net : Net q
  greeted : List Nat
  configured : List (Nat × String)

def traceStep (w : Listener) (t : Traced q) (e : Event q) : Traced q :=
  { net := step w t.net e
    greeted := match e with
      | .closed c _ => t.greeted.filter fun d => decide (d ≠ c)
      | _ => (greets w t.net e).toList ++ t.greeted
    configured := match e with
      | .closed c _ => t.configured.filter fun entry => decide (entry.1 ≠ c)
      | _ => (configures w t.net e).toList ++ t.configured }

/-- No connection is open yet. -/
def Traced.start (server : Server q) : Traced q := { net := { server, conns := Dict.empty }, greeted := [], configured := [] }

/-! ### Names -/

/-- Only a HELLO and a CONFIG name a connection. -/
theorem handleMessage_nodeId (w : Listener) (s : Server q) (conn : Conn) (msg : Json) (now : Clock) (sent : Bool) :
    (handleMessage w s conn msg now sent).conn.nodeId = conn.nodeId ∨
    ∃ fields, msg = .dict fields ∧
      (kindOf fields = .hello ∧ handleMessage w s conn msg now sent = handleHello w s conn fields ∨
       kindOf fields = .config ∧ (handleMessage w s conn msg now sent).conn.nodeId = configName conn fields) := by
  cases msg with
  | dict fields =>
    simp only [handleMessage]
    cases kind : kindOf fields with
    | hello => exact .inr ⟨fields, rfl, .inl ⟨kind, rfl⟩⟩
    | config => exact .inr ⟨fields, rfl, .inr ⟨kind, rfl⟩⟩
    | registerKey | chainEntry | iqCommitment | heartbeat | detection | bare | other => exact .inl rfl
  | null | bool _ | int _ | float _ | str _ | list _ => exact .inl rfl

theorem handleHello_server (w : Listener) (s : Server q) (conn : Conn) (msg : Fields) :
    (handleHello w s conn msg).server = s := by
  simp only [handleHello]
  cases helloOutcome w.token msg (helloName conn msg) <;> rfl

theorem handleHello_nodeId (w : Listener) (s : Server q) (conn : Conn) (msg : Fields) :
    (handleHello w s conn msg).conn.nodeId = helloName conn msg := by
  simp only [handleHello]
  cases helloOutcome w.token msg (helloName conn msg) <;> rfl

/-- A HELLO that leaves its connection open gave it a text for a name. -/
theorem handleHello_ended (w : Listener) (s : Server q) (conn : Conn) (msg : Fields) (open_ : conn.ended = false) :
    (handleHello w s conn msg).conn.ended = false ↔ helloOutcome w.token msg (helloName conn msg) = .accepted := by
  simp only [handleHello]
  cases helloOutcome w.token msg (helloName conn msg) <;> simp [open_]

theorem helloOutcome_accepted_str {nodeId : Json} (accepted : helloOutcome token msg nodeId = .accepted) :
    ∃ id, nodeId = .str id := by
  cases nodeId with
  | str id => exact ⟨id, rfl⟩
  | null | bool _ | int _ | float _ | list _ | dict _ => cases accepted

theorem configName_of_named (conn : Conn) (msg : Fields) (named : conn.nodeId ≠ .null) :
    configName conn msg = conn.nodeId := by
  cases name : conn.nodeId with
  | null => exact absurd name named
  | bool _ | int _ | float _ | str _ | list _ | dict _ => simp only [configName, name, Json.isNull]; rfl

/-- What a CONFIG that is accepted is accepted for. -/
theorem configures_eq_some (w : Listener) (net : Net q) (e : Event q) (accepted : configures w net e = some (c, n)) :
    ∃ msg now sent conn, e = .received c (.dict msg) now sent ∧ net.conns.get? c = some conn ∧ conn.ended = false ∧
      kindOf msg = .config ∧ validateNodeConfig w.text (get msg "config" (.dict [])) = .accepted ∧
      configName conn msg = .str n := by
  rw [configures.eq_def] at accepted
  split at accepted
  · rename_i d msg now sent
    split at accepted
    · cases accepted
    · rename_i conn found
      split at accepted
      · rename_i id open_ kind valid name
        obtain ⟨rfl, rfl⟩ := Prod.mk.inj (Option.some.inj accepted)
        exact ⟨msg, now, sent, conn, rfl, found, open_, kind, valid, name⟩
      · cases accepted
  · cases accepted

end

/-! ### A small server -/

def Server.empty {q : QueueShape} : Server q :=
  { connectedNodes := Dict.empty, peakConnectedNodes := 0, nodeIdentities := Dict.empty, verifierKeys := Dict.empty
    chainEntries := Dict.empty, iqCommitments := Dict.empty, heartbeats := [], registrations := []
    nodePipelines := Dict.empty, perNodeLastEnqueue := Dict.empty, adsbAircraft := Dict.empty
    frameQueue := Frames.Ingress.empty q }

def twoShards : QueueShape := { maxsize := 100, shards := 2 }

/-- A listener with a token, and no text to convert. -/
def guardedListener : Listener :=
  { token := some "s3cret", minIntervalS := 1
    text := { parse := fun _ => none, repr := fun _ => "", str := fun _ => "" }
    trig := { sinDeg := fun _ => 0, cosDeg := fun _ => 1 }
    registers := fun _ _ => true, verifies := fun _ _ => false }

def noon : Clock := { iso := "2026-01-01T12:00:00+00:00", time := 1767268800, monotonic := 50 }

def helloMsg (nodeId token : String) : Json :=
  .dict [("type", .str "HELLO"), ("node_id", .str nodeId), ("token", .str token)]

/-- A configuration without a position. -/
def configMsg : Json :=
  .dict [("type", .str "CONFIG"), ("config_hash", .str "a1"), ("config", .dict [("rx_lat", .null), ("rx_lon", .null)])]

def registerKeyMsg (nodeId : String) : Json :=
  .dict [("type", .str "REGISTER_KEY"), ("node_id", .str nodeId), ("public_key_pem", .str "pem"),
    ("fingerprint", .str "f0")]

end Retina.Tcp
