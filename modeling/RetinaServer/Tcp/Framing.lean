import RetinaServer.Library.Delimited
import RetinaServer.Tcp.Connection

/-! The read loop under the messages: chunks of bytes, lines, and what becomes of a
line that is no message of a known shape. -/
namespace Retina.Tcp
open OrderedDict Runs Delimited
open Frames (QueueShape)

abbrev Bytes := List UInt8

def newline : UInt8 := 10

def MAX_BUF_SIZE : Nat := 1048576

/-- `bytes.strip()` takes these off both ends. -/
def isSpace (b : UInt8) : Bool := b = 32 || (9 ≤ b && b ≤ 13)

def strip (line : Bytes) : Bytes := ((line.dropWhile isSpace).reverse.dropWhile isSpace).reverse

/-- What `json.loads` makes of a line. -/
inductive Loaded where
  /-- `JSONDecodeError`. -/
  | malformed
  /-- Any other exception, such as `UnicodeDecodeError`. -/
  | undecodable
  | value (msg : Json)

section
variable {q : QueueShape}

/-- What happens around one line: the other connections' doings since the last one, the clocks, and whether the peer
still takes an answer. -/
structure Surroundings (q : QueueShape) where
  others : Server q → Server q
  now : Clock
  sent : Bool

/-- One connection in its read loop. -/
structure Session (q : QueueShape) where
  server : Server q
  conn : Conn
  lines : Nat := 0
  dispatched : List Json := []
  replies : List Json := []
  /-- An exception that nobody catches, or the guard on the buffer, has ended the connection. -/
  broken : Bool := false

def Session.left (s : Session q) : Bool := s.broken || s.conn.ended

/-- A message with a branch of its own. -/
def dispatches : Json → Bool
  | .dict msg => decide (kindOf msg ≠ .other)
  | _ => false

/-- A connection that ends without an answer is ended by an exception. -/
def handleValue (w : Listener) (s : Session q) (here : Surroundings q) (msg : Json) : Session q :=
  let got := handleMessage w s.server s.conn msg here.now here.sent
  { s with
    server := got.server
    conn := got.conn
    dispatched := s.dispatched ++ if dispatches msg then [msg] else []
    replies := s.replies ++ got.replies
    broken := got.conn.ended && got.replies.isEmpty }

def nextLine (s : Session q) (here : Surroundings q) : Session q :=
  { s with server := here.others s.server, lines := s.lines + 1 }

section
variable (w : Listener) (loads : Bytes → Loaded) (around : Nat → Surroundings q)

/-- One line of the buffer. -/
def handleLine (s : Session q) (line : Bytes) : Session q :=
  if s.left then s
  else
    let here := around s.lines
    let s := nextLine s here
    if (strip line).isEmpty then s
    else match loads (strip line) with
      | .malformed => s
      | .undecodable => { s with broken := true }
      | .value msg => handleValue w s here msg

/-- One read of the loop: the guard looks at the buffer before the lines are taken out of it. -/
def readChunk (r : Session q × Bytes) (chunk : Bytes) : Session q × Bytes :=
  if r.1.left then r
  else if MAX_BUF_SIZE < (r.2 ++ chunk).length then ({ r.1 with broken := true }, r.2 ++ chunk)
  else feed newline (handleLine w loads around) r chunk

end

/-! ### Messages of a known shape -/

def hashable (value : Json) : Bool := (value.hashKey).isSome

/-- The node a record names is no list and no object, or it names none. -/
def namesKey (record : Fields) (nodeId : Json) : Bool :=
  !(get record "node_id" nodeId).truthy || hashable (get record "node_id" nodeId)

def Json.isStr : Json → Bool
  | .str _ => true
  | _ => false

def Json.isObject : Json → Bool
  | .dict _ => true
  | _ => false

/-- The token the listener asks for. -/
def requiredToken (w : Listener) : Option String := w.token.filter fun t => decide (t ≠ "")

/-- A text for a name, a token that can be compared, and capabilities in an object. -/
def helloShape (w : Listener) (conn : Conn) (msg : Fields) : Bool :=
  let greets := (get msg "capabilities" (.dict [])).isObject
  (helloName conn msg).isStr &&
    (requiredToken w).elim greets fun token =>
      (compareDigest (get msg "token" (.str "")) token).elim false fun right => !right || greets

/-- A configuration in an object whose numbers have floats; an accepted one under a text for a name, with a hash. -/
def configShape (w : Listener) (conn : Conn) (msg : Fields) : Bool :=
  match validateNodeConfig w.text (get msg "config" (.dict [])) with
  | .refused _ => true
  | .raised => false
  | .accepted => (configName conn msg).isStr && (get msg "config_hash" (.str "")).sliceable

/-- A key that the verifier takes, with a fingerprint, for a node that can be a dictionary key. -/
def registerKeyShape (w : Listener) (conn : Conn) (msg : Fields) : Bool :=
  let pem := get msg "public_key_pem" (.str "")
  !pem.truthy || !(get msg "node_id" conn.nodeId).truthy ||
    ((get msg "node_id" conn.nodeId).hashKey).any fun key =>
      w.registers key pem && (get msg "fingerprint" (.str "")).sliceable

def chainEntryShape (conn : Conn) (msg : Fields) : Bool :=
  match get msg "entry" (.dict []) with
  | .dict entry => namesKey entry conn.nodeId
  | _ => false

def iqCommitmentShape (conn : Conn) (msg : Fields) : Bool :=
  match get msg "capture" (.dict []) with
  | .dict capture => namesKey capture conn.nodeId &&
      (!(get capture "node_id" conn.nodeId).truthy || (get capture "iq_hash" (.str "")).sliceable)
  | _ => false

/-- The hashes are looked into where they differ. -/
def heartbeatShape (s : Server q) (conn : Conn) (msg : Fields) : Bool :=
  namesKey msg conn.nodeId &&
    (heartbeatNode s msg conn.nodeId).all fun node =>
      !configDrift node.2 msg ||
        ((get node.2 "config_hash" (.str "")).sliceable && (get msg "config_hash" (.str "")).sliceable)

/-- A frame that can be looked into and stamped, and positions whose numbers have floats. -/
def detectionShape (w : Listener) (s : Server q) (conn : Conn) (msg : Fields) (now : Clock) : Bool :=
  match prepareFrame msg conn.nodeId with
  | .raised => false
  | .skipped => true
  | .ready frame => (extractPositions w s frame conn.nodeId now).2 && (!conn.nodeId.truthy || hashable conn.nodeId)

/-- An object of a known type whose fields have the types that its handler works with. -/
def knownShape (w : Listener) (s : Server q) (conn : Conn) (msg : Json) (now : Clock) : Bool :=
  match msg with
  | .dict msg => match kindOf msg with
    | .hello => helloShape w conn msg
    | .config => configShape w conn msg
    | .registerKey => registerKeyShape w conn msg
    | .chainEntry => chainEntryShape conn msg
    | .iqCommitment => iqCommitmentShape conn msg
    | .heartbeat => heartbeatShape s conn msg
    | .detection => detectionShape w s conn msg now
    | .bare => true
    | .other => false
  | _ => false

/-- An object of no known type. -/
def isUnknown : Json → Bool
  | .dict msg => decide (kindOf msg = .other)
  | _ => false

/-- The reader the protocol asks for: a line that is no message of a known shape is skipped. -/
def tolerantLine (w : Listener) (loads : Bytes → Loaded) (around : Nat → Surroundings q) (s : Session q)
    (line : Bytes) : Session q :=
  if s.left then s
  else
    let here := around s.lines
    let s := nextLine s here
    if (strip line).isEmpty then s
    else match loads (strip line) with
      | .value msg => if knownShape w s.server s.conn msg here.now then handleValue w s here msg else s
      | _ => s

/-! ### What raises -/

/-- The handler's exception leaves the read loop. -/
def Handled.faulted (handled : Handled q) : Bool := handled.ended && handled.replies.isEmpty

def Received.faulted (received : Received q) : Bool := received.conn.ended && received.replies.isEmpty

theorem faulted_reply (s : Server q) (message : Fields) (sent : Bool) : (reply s message sent).faulted = false := by
  simp [reply, Handled.faulted]

theorem faulted_handleHello (w : Listener) (s : Server q) (conn : Conn) (msg : Fields) (open_ : conn.ended = false) :
    (handleHello w s conn msg).faulted = !helloShape w conn msg := by
  simp only [handleHello, helloShape, requiredToken]
  cases name : helloName conn msg with
  | str id =>
    simp only [helloOutcome, Json.isStr, Bool.true_and]
    cases w.token.filter fun t => decide (t ≠ "") with
    | none => cases get msg "capabilities" (.dict []) <;> simp [Received.faulted, Json.isObject, open_]
    | some token =>
      simp only [Option.elim_some]
      cases compareDigest (get msg "token" (.str "")) token with
      | none => rfl
      | some right =>
        cases right with
        | false => rfl
        | true => cases get msg "capabilities" (.dict []) <;> simp [Received.faulted, Json.isObject, open_]
  | null | bool _ | int _ | float _ | list _ | dict _ => rfl

theorem faulted_handleConfig (w : Listener) (s : Server q) (conn : Conn) (msg : Fields) (now : Clock) (sent : Bool) :
    (handleConfig w s msg (configName conn msg) conn.peer now sent).faulted = !configShape w conn msg := by
  simp only [handleConfig, configShape]
  cases validateNodeConfig w.text (get msg "config" (.dict [])) with
  | refused error => exact faulted_reply s _ sent
  | raised => rfl
  | accepted =>
    cases configName conn msg with
    | str id =>
      simp only [Json.isStr, Bool.true_and]
      cases (get msg "config_hash" (.str "")).sliceable with
      | false => rfl
      | true => cases sent <;> rfl
    | null | bool _ | int _ | float _ | list _ | dict _ => rfl

theorem faulted_handleRegisterKey (w : Listener) (s : Server q) (conn : Conn) (msg : Fields) (now : Clock)
    (sent : Bool) : (handleRegisterKey w s msg conn.nodeId now sent).faulted = !registerKeyShape w conn msg := by
  simp only [handleRegisterKey, registerKeyShape, keyNode]
  cases (get msg "public_key_pem" (.str "")).truthy with
  | false => rfl
  | true =>
    cases (get msg "node_id" conn.nodeId).truthy with
    | false => rfl
    | true =>
      simp only [Bool.and_self, if_true, Bool.not_true, Bool.false_or]
      cases (get msg "node_id" conn.nodeId).hashKey with
      | none => rfl
      | some key =>
        simp only [Option.any_some]
        cases w.registers key (get msg "public_key_pem" (.str "")) with
        | false => rfl
        | true =>
          cases (get msg "fingerprint" (.str "")).sliceable with
          | false => rfl
          | true => exact faulted_reply _ _ sent

theorem recordNode_cases (record : Fields) (nodeId : Json) :
    (recordNode record nodeId = none ∧ namesKey record nodeId = !(get record "node_id" nodeId).truthy) ∨
      ∃ key, recordNode record nodeId = some key ∧ namesKey record nodeId = true ∧
        (get record "node_id" nodeId).truthy = true := by
  simp only [recordNode, namesKey, hashable]
  cases (get record "node_id" nodeId).truthy with
  | false => exact .inl ⟨rfl, rfl⟩
  | true =>
    cases (get record "node_id" nodeId).hashKey with
    | none => exact .inl ⟨rfl, rfl⟩
    | some key => exact .inr ⟨key, rfl, rfl, rfl⟩

theorem faulted_handleChainEntry (w : Listener) (s : Server q) (conn : Conn) (msg : Fields) (now : Clock)
    (sent : Bool) : (handleChainEntry w s msg conn.nodeId now sent).faulted = !chainEntryShape conn msg := by
  rw [handleChainEntry, chainEntryShape]
  cases get msg "entry" (.dict []) with
  | dict entry =>
    rcases recordNode_cases entry conn.nodeId with ⟨unnamed, shape⟩ | ⟨key, named, shape, -⟩
    · simp only [unnamed, shape]
      cases (get entry "node_id" conn.nodeId).truthy <;> rfl
    · simp only [named, shape]
      exact faulted_reply _ _ sent
  | null | bool _ | int _ | float _ | str _ | list _ => rfl

theorem faulted_handleIqCommitment (s : Server q) (conn : Conn) (msg : Fields) (now : Clock) (sent : Bool) :
    (handleIqCommitment s msg conn.nodeId now sent).faulted = !iqCommitmentShape conn msg := by
  rw [handleIqCommitment, iqCommitmentShape]
  cases get msg "capture" (.dict []) with
  | dict capture =>
    rcases recordNode_cases capture conn.nodeId with ⟨unnamed, shape⟩ | ⟨key, named, shape, truthy⟩
    · simp only [unnamed, shape]
      cases (get capture "node_id" conn.nodeId).truthy <;> rfl
    · simp only [named, shape, truthy]
      cases (get capture "iq_hash" (.str "")).sliceable with
      | false => rfl
      | true => exact faulted_reply _ _ sent
  | null | bool _ | int _ | float _ | str _ | list _ => rfl

theorem faulted_handleHeartbeat (s : Server q) (conn : Conn) (msg : Fields) (now : Clock) (sent : Bool) :
    (handleHeartbeat s msg conn.nodeId now sent).faulted = !heartbeatShape s conn msg := by
  simp only [handleHeartbeat, heartbeatShape]
  cases about : heartbeatNode s msg conn.nodeId with
  | none =>
    simp only [Option.all_none, Bool.and_true, namesKey, hashable]
    cases (get msg "node_id" conn.nodeId).truthy <;> cases (get msg "node_id" conn.nodeId).hashKey <;> rfl
  | some node =>
    have named : namesKey msg conn.nodeId = true := by
      simp [namesKey, hashable, (heartbeatNode_record about).1, Json.hashKey]
    simp only [Option.all_some, named, Bool.true_and]
    cases configDrift node.2 msg with
    | false => rfl
    | true =>
      cases (get node.2 "config_hash" (.str "")).sliceable with
      | false => rfl
      | true =>
        cases (get msg "config_hash" (.str "")).sliceable with
        | false => rfl
        | true => exact faulted_reply _ _ sent

theorem faulted_enqueueLimited (w : Listener) (s : Server q) (nodeId frame : Json) (now : Clock) :
    (enqueueLimited w s nodeId frame now).faulted = !(!nodeId.truthy || hashable nodeId) := by
  simp only [enqueueLimited, hashable]
  cases nodeId.truthy with
  | false => rfl
  | true =>
    cases nodeId.hashKey with
    | none => rfl
    | some key =>
      simp only [if_true]
      split <;> rfl

theorem faulted_enqueueDetection (w : Listener) (s : Server q) (conn : Conn) (msg : Fields) (now : Clock) :
    (enqueueDetection w s msg conn.nodeId now).faulted = !detectionShape w s conn msg now := by
  simp only [enqueueDetection, detectionShape]
  cases prepareFrame msg conn.nodeId with
  | raised | skipped => rfl
  | ready frame =>
    simp only
    cases (extractPositions w s frame conn.nodeId now).2 with
    | false => rfl
    | true => simpa using faulted_enqueueLimited w _ conn.nodeId frame now

theorem faulted_onConn (handled : Handled q) (conn : Conn) : (handled.onConn conn).faulted = handled.faulted := rfl

/-- A value that is no object of a known shape raises, except for an object of an unknown type. -/
theorem faulted_handleMessage (w : Listener) (s : Server q) (conn : Conn) (msg : Json) (now : Clock) (sent : Bool)
    (open_ : conn.ended = false) :
    (handleMessage w s conn msg now sent).faulted = !(knownShape w s conn msg now || isUnknown msg) := by
  cases msg with
  | dict fields =>
    simp only [handleMessage, knownShape, isUnknown]
    cases kindOf fields with
    | hello => simpa using faulted_handleHello w s conn fields open_
    | config => simpa [faulted_onConn] using faulted_handleConfig w s conn fields now sent
    | registerKey => simpa [faulted_onConn] using faulted_handleRegisterKey w s conn fields now sent
    | chainEntry => simpa [faulted_onConn] using faulted_handleChainEntry w s conn fields now sent
    | iqCommitment => simpa [faulted_onConn] using faulted_handleIqCommitment s conn fields now sent
    | heartbeat => simpa [faulted_onConn] using faulted_handleHeartbeat s conn fields now sent
    | detection => simpa [faulted_onConn] using faulted_enqueueDetection w s conn fields now
    | bare | other => simp [Received.faulted, open_]
  | null | bool _ | int _ | float _ | str _ | list _ => rfl

end
end Retina.Tcp
