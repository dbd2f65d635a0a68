import RetinaServer.Tcp.Connection

/-! Two stores for one fact: the identity a node registered, and the key its
signatures are checked against. The handler writes both; a snapshot keeps the
identities alone, and a retirement drops the identity alone. -/
namespace Retina.Tcp
open OrderedDict Runs
open Frames (QueueShape)

section
variable {q : QueueShape}

/-- What `save_snapshot` writes of the custody state. A key of the file is a text. -/
structure Snapshot where
  nodeIdentities : List (String × NodeIdentity)
  chainEntries : List (String × List Fields)
  iqCommitments : List (String × List Fields)

/-- The server with its connections, and the snapshot on its disk. -/
structure Deployment (q : QueueShape) where
  net : Net q
  disk : Option Snapshot := none

/-- The identity's own reading and writing, and the text a dictionary key becomes in a file. -/
structure SnapshotFormat where
  keyText : NodeKey → String
  reload : NodeIdentity → NodeIdentity

inductive DeploymentEvent (q : QueueShape) where
  | handled (e : Event q)
  | saved
  /-- The process starts anew: the nodes that startup registers, and whether a sound snapshot is found. -/
  | restarted (primed : Dict String Fields) (found : Bool)
  /-- `retire_node`, and whether the analytics and the associator let go of the node. -/
  | retired (nodeId : String) (force : Bool) (clears : Bool)
  /-- `forget_node`. -/
  | forgotten (nodeId : String) (clears : Bool)

def asText (format : SnapshotFormat) {α : Type} (store : Dict NodeKey α) : List (String × α) :=
  store.items.map fun item => (format.keyText item.1, item.2)

def saveSnapshot (format : SnapshotFormat) (s : Server q) : Snapshot :=
  { nodeIdentities := asText format s.nodeIdentities
    chainEntries := asText format s.chainEntries
    iqCommitments := asText format s.iqCommitments }

/-- `store.update(saved)`. -/
def updated {α : Type} (store : Dict NodeKey α) (saved : List (String × α)) : Dict NodeKey α :=
  saved.foldl (fun store item => store.insert (.text item.1) item.2) store

def restoreSnapshot (format : SnapshotFormat) (s : Server q) (snap : Snapshot) : Server q :=
  { s with
    chainEntries := updated s.chainEntries snap.chainEntries
    nodeIdentities := updated s.nodeIdentities (snap.nodeIdentities.map fun item => (item.1, format.reload item.2))
    iqCommitments := updated s.iqCommitments snap.iqCommitments }

/-- `_clear`: a fault of the analytics leaves the custody stores as they are. -/
def clearNode (s : Server q) (nodeId : String) (clears : Bool) : Server q :=
  let s := { s with nodePipelines := s.nodePipelines.erase nodeId }
  if clears then
    { s with
      nodeIdentities := s.nodeIdentities.erase (.text nodeId)
      chainEntries := s.chainEntries.erase (.text nodeId)
      iqCommitments := s.iqCommitments.erase (.text nodeId) }
  else s

/-- A node in the registry goes by force alone, and then only under an allowed prefix. -/
def mayRetire (prefixes : List String) (s : Server q) (nodeId : String) (force : Bool) : Bool :=
  !(s.connectedNodes.get? nodeId).isSome ||
    (force && (prefixes.isEmpty || prefixes.any fun allowed => nodeId.startsWith allowed))

def forgetNode (s : Server q) (nodeId : String) (clears : Bool) : Server q :=
  clearNode { s with connectedNodes := s.connectedNodes.erase nodeId } nodeId clears

def retireNode (prefixes : List String) (s : Server q) (nodeId : String) (force clears : Bool) : Server q :=
  if mayRetire prefixes s nodeId force then forgetNode s nodeId clears else s

/-- A process before anything is restored. -/
def Server.primed (nodes : Dict String Fields) : Server q := { Server.empty with connectedNodes := nodes }

def deploymentStep (w : Listener) (format : SnapshotFormat) (prefixes : List String) (d : Deployment q) :
    DeploymentEvent q → Deployment q
  | .handled e => { d with net := step w d.net e }
  | .saved => { d with disk := some (saveSnapshot format d.net.server) }
  | .restarted nodes found =>
      let started := Server.primed nodes
      let server := match found, d.disk with
        | true, some snap => restoreSnapshot format started snap
        | _, _ => started
      { d with net := { server, conns := Dict.empty } }
  | .retired nodeId force clears =>
      { d with net := { d.net with server := retireNode prefixes d.net.server nodeId force clears } }
  | .forgotten nodeId clears => { d with net := { d.net with server := forgetNode d.net.server nodeId clears } }

/-- The verifier holds, for each node, the key of the node's identity and no other. -/
def KeysAgree (s : Server q) : Prop :=
  ∀ key, s.verifierKeys.get? key = (s.nodeIdentities.get? key).map NodeIdentity.publicKeyPem

/-! ### What a message does to the two stores -/

/-- The key a message registers, and for which node. -/
def registration (net : Net q) : Event q → Option (NodeKey × Json)
  | .received c (.dict msg) _ _ => match net.conns.get? c with
    | none => none
    | some conn => if conn.ended = false ∧ kindOf msg = .registerKey then
        (keyNode msg conn.nodeId).map fun key => (key, get msg "public_key_pem" (.str ""))
      else none
  | _ => none

/-- The two custody stores stand as they were. -/
def SameCustody (s s' : Server q) : Prop :=
  s'.nodeIdentities = s.nodeIdentities ∧ s'.verifierKeys = s.verifierKeys

theorem KeysAgree.of_same {s s' : Server q} (same : SameCustody s s') : KeysAgree s' ↔ KeysAgree s := by
  rw [KeysAgree, KeysAgree, same.1, same.2]

theorem handleHello_custody (w : Listener) (s : Server q) (conn : Conn) (msg : Fields) :
    SameCustody s (handleHello w s conn msg).server := by
  rw [handleHello_server]
  exact ⟨rfl, rfl⟩

theorem handleConfig_custody (w : Listener) (s : Server q) (msg : Fields) (nodeId : Json) (peer : String) (now : Clock)
    (sent : Bool) : SameCustody s (handleConfig w s msg nodeId peer now sent).server := by
  obtain ⟨_, _, _, _, written⟩ := handleConfig_writes w s msg nodeId peer now sent
  rw [written]
  exact ⟨rfl, rfl⟩

theorem handleChainEntry_custody (w : Listener) (s : Server q) (msg : Fields) (nodeId : Json) (now : Clock)
    (sent : Bool) : SameCustody s (handleChainEntry w s msg nodeId now sent).server := by
  obtain ⟨_, written⟩ := handleChainEntry_writes w s msg nodeId now sent
  rw [written]
  exact ⟨rfl, rfl⟩

theorem handleIqCommitment_custody (s : Server q) (msg : Fields) (nodeId : Json) (now : Clock) (sent : Bool) :
    SameCustody s (handleIqCommitment s msg nodeId now sent).server := by
  obtain ⟨_, written⟩ := handleIqCommitment_writes s msg nodeId now sent
  rw [written]
  exact ⟨rfl, rfl⟩

theorem handleHeartbeat_custody (s : Server q) (msg : Fields) (nodeId : Json) (now : Clock) (sent : Bool) :
    SameCustody s (handleHeartbeat s msg nodeId now sent).server := by
  obtain ⟨_, _, written⟩ := handleHeartbeat_writes s msg nodeId now sent
  rw [written]
  exact ⟨rfl, rfl⟩

theorem enqueueDetection_custody (w : Listener) (s : Server q) (msg : Fields) (nodeId : Json) (now : Clock) :
    SameCustody s (enqueueDetection w s msg nodeId now).server := by
  constructor
  · exact enqueueDetection_kept Server.nodeIdentities w s msg nodeId now (fun _ => rfl) fun s' frame =>
      enqueueLimited_kept Server.nodeIdentities w s' nodeId frame now (fun _ => rfl) rfl
  · exact enqueueDetection_kept Server.verifierKeys w s msg nodeId now (fun _ => rfl) fun s' frame =>
      enqueueLimited_kept Server.verifierKeys w s' nodeId frame now (fun _ => rfl) rfl

theorem handleRegisterKey_of_none (w : Listener) (s : Server q) (msg : Fields) (nodeId : Json) (now : Clock)
    (sent : Bool) (unnamed : keyNode msg nodeId = none) :
    SameCustody s (handleRegisterKey w s msg nodeId now sent).server := by
  simp only [handleRegisterKey, unnamed]
  split <;> exact ⟨rfl, rfl⟩

/-- The identity is stored before the verifier is asked to take the key. -/
theorem handleRegisterKey_of_some (w : Listener) (s : Server q) (msg : Fields) (nodeId : Json) (now : Clock)
    (sent : Bool) (named : keyNode msg nodeId = some key) :
    (handleRegisterKey w s msg nodeId now sent).server.nodeIdentities =
        s.nodeIdentities.insert key (identityOf msg nodeId now) ∧
      (handleRegisterKey w s msg nodeId now sent).server.verifierKeys =
        if w.registers key (get msg "public_key_pem" (.str "")) then
          s.verifierKeys.insert key (get msg "public_key_pem" (.str ""))
        else s.verifierKeys := by
  simp only [handleRegisterKey, named]
  cases accepts : w.registers key (get msg "public_key_pem" (.str "")) with
  | false => exact ⟨rfl, rfl⟩
  | true =>
    simp only [Bool.not_true, Bool.false_eq_true, if_false, if_true]
    split <;> exact ⟨rfl, rfl⟩

theorem handleMessage_custody (w : Listener) (s : Server q) (conn : Conn) (msg : Json) (now : Clock) (sent : Bool)
    (other : ∀ fields, msg = .dict fields → kindOf fields ≠ .registerKey) :
    SameCustody s (handleMessage w s conn msg now sent).server := by
  cases msg with
  | dict msg =>
    simp only [handleMessage]
    cases kind : kindOf msg with
    | hello => exact handleHello_custody w s conn msg
    | config => exact handleConfig_custody w s msg _ conn.peer now sent
    | registerKey => exact absurd kind (other msg rfl)
    | chainEntry => exact handleChainEntry_custody w s msg _ now sent
    | iqCommitment => exact handleIqCommitment_custody s msg _ now sent
    | heartbeat => exact handleHeartbeat_custody s msg _ now sent
    | detection => exact enqueueDetection_custody w s msg _ now
    | bare | other => exact ⟨rfl, rfl⟩
  | null | bool _ | int _ | float _ | str _ | list _ => exact ⟨rfl, rfl⟩

theorem finish_custody (s : Server q) (conn : Conn) (now : Clock) : SameCustody s (finish s conn now) := by
  rw [finish.eq_def]
  split
  · split
    · exact ⟨rfl, rfl⟩
    · split <;> exact ⟨rfl, rfl⟩
  · exact ⟨rfl, rfl⟩

theorem step_custody_of_none (w : Listener) (net : Net q) (e : Event q) (none_ : registration net e = none) :
    SameCustody net.server (step w net e).server := by
  cases e with
  | opened c peer =>
    simp only [step]
    split <;> exact ⟨rfl, rfl⟩
  | queue e => exact ⟨rfl, rfl⟩
  | closed c now =>
    simp only [step]
    cases net.conns.get? c with
    | none => exact ⟨rfl, rfl⟩
    | some conn => exact finish_custody net.server conn now
  | received c msg now sent =>
    simp only [step]
    cases found : net.conns.get? c with
    | none => exact ⟨rfl, rfl⟩
    | some conn =>
      simp only
      split
      · exact ⟨rfl, rfl⟩
      · rename_i stays
        rw [Bool.not_eq_true] at stays
        by_cases registers : ∃ fields, msg = .dict fields ∧ kindOf fields = .registerKey
        · obtain ⟨fields, rfl, kind⟩ := registers
          simp only [registration, found, stays, kind, true_and, if_true, Option.map_eq_none_iff] at none_
          simp only [handleMessage, kind]
          exact handleRegisterKey_of_none w net.server fields conn.nodeId now sent none_
        · exact handleMessage_custody w net.server conn msg now sent fun fields same kind =>
            registers ⟨fields, same, kind⟩

theorem step_custody_of_some (w : Listener) (net : Net q) (e : Event q)
    (registers : registration net e = some (key, pem)) :
    ∃ identity : NodeIdentity, identity.publicKeyPem = pem ∧
      (step w net e).server.nodeIdentities = net.server.nodeIdentities.insert key identity ∧
      (step w net e).server.verifierKeys =
        if w.registers key pem then net.server.verifierKeys.insert key pem else net.server.verifierKeys := by
  rw [registration.eq_def] at registers
  split at registers
  · rename_i c msg now sent
    split at registers
    · cases registers
    · rename_i conn found
      split at registers
      · rename_i open_
        obtain ⟨node, named, same⟩ := Option.map_eq_some_iff.mp registers
        obtain ⟨rfl, rfl⟩ := Prod.mk.inj same
        refine ⟨identityOf msg conn.nodeId now, rfl, ?_⟩
        simp only [step, found, open_.1, Bool.false_eq_true, if_false, handleMessage, open_.2]
        exact handleRegisterKey_of_some w net.server msg conn.nodeId now sent named
      · cases registers
  · cases registers

/-! ### Agreement -/

theorem keysAgree_register_iff {s s' : Server q} {accepts : Bool} (agree : KeysAgree s) (identity : NodeIdentity)
    (identities : s'.nodeIdentities = s.nodeIdentities.insert key identity)
    (keys : s'.verifierKeys =
      if accepts then s.verifierKeys.insert key identity.publicKeyPem else s.verifierKeys) :
    KeysAgree s' ↔ accepts = true ∨ s.verifierKeys.get? key = some identity.publicKeyPem := by
  rw [KeysAgree, identities, keys]
  cases accepts with
  | true =>
    refine iff_of_true (fun other => ?_) (.inl rfl)
    simp only [if_true, Dict.get?_insert]
    split
    · rfl
    · exact agree other
  | false =>
    simp only [Bool.false_eq_true, if_false, false_or]
    constructor
    · intro agree'
      simpa using agree' key
    · intro held other
      rw [Dict.get?_insert]
      split
      · rename_i same
        rw [← same, held, Option.map_some]
      · exact agree other

theorem updated_get?_self {α : Type} (store : Dict NodeKey α) (saved : List (String × α)) (item : String × α) :
    ((updated store (saved ++ [item])).get? (.text item.1)) = some item.2 := by
  simp [updated]

/-- A fresh process that restores identities has no key for them. -/
theorem keysAgree_restore_iff (format : SnapshotFormat) (nodes : Dict String Fields) (snap : Snapshot) :
    KeysAgree (restoreSnapshot format (Server.primed nodes : Server q) snap) ↔ snap.nodeIdentities = [] := by
  constructor
  · intro agree
    rcases List.eq_nil_or_concat snap.nodeIdentities with empty | ⟨earlier, last, concat⟩
    · exact empty
    · have held := agree (.text last.1)
      have restored := updated_get?_self (Dict.empty : Dict NodeKey NodeIdentity)
        (earlier.map fun item => (item.1, format.reload item.2)) (last.1, format.reload last.2)
      simp only [restoreSnapshot, Server.primed, Server.empty, Dict.get?_empty, concat,
        List.concat_eq_append, List.map_append, List.map_cons, List.map_nil] at held
      rw [restored] at held
      cases held
  · intro empty key
    simp only [restoreSnapshot, Server.primed, Server.empty, empty, List.map_nil, updated, List.foldl_nil,
      Dict.get?_empty, Option.map_none]

theorem keysAgree_forget_iff {s : Server q} (agree : KeysAgree s) (nodeId : String) (clears : Bool) :
    KeysAgree (forgetNode s nodeId clears) ↔ (clears = true → s.nodeIdentities.get? (.text nodeId) = none) := by
  cases clears with
  | false => exact iff_of_true agree (fun impossible => absurd impossible (by decide))
  | true =>
    simp only [KeysAgree, forgetNode, clearNode, if_true, forall_const, Dict.get?_erase]
    constructor
    · intro agree'
      have gone := agree' (.text nodeId)
      rw [if_pos rfl, Option.map_none, agree] at gone
      exact Option.map_eq_none_iff.mp gone
    · intro absent key
      split
      · rename_i same
        rw [← same, agree, absent]
      · exact agree key

/-- The condition on one event: a key that is registered is taken, and no identity comes back without its key or
goes without it. -/
def KeepsCustody (w : Listener) (prefixes : List String) (d : Deployment q) : DeploymentEvent q → Prop
  | .handled e => ∀ key pem, registration d.net e = some (key, pem) →
      w.registers key pem = true ∨ d.net.server.verifierKeys.get? key = some pem
  | .saved => True
  | .restarted _ found => found = true → ∀ snap, d.disk = some snap → snap.nodeIdentities = []
  | .retired nodeId force clears => mayRetire prefixes d.net.server nodeId force = true → clears = true →
      d.net.server.nodeIdentities.get? (.text nodeId) = none
  | .forgotten nodeId clears => clears = true → d.net.server.nodeIdentities.get? (.text nodeId) = none

variable {w : Listener} {format : SnapshotFormat} {prefixes : List String}

theorem keepsCustody_iff (d : Deployment q) (e : DeploymentEvent q) (agree : KeysAgree d.net.server) :
    KeepsCustody w prefixes d e ↔ KeysAgree (deploymentStep w format prefixes d e).net.server := by
  cases e with
  | handled e =>
    simp only [KeepsCustody, deploymentStep]
    cases registers : registration d.net e with
    | none =>
      refine iff_of_true (fun key pem some_key => ?_) ((KeysAgree.of_same (step_custody_of_none w d.net e registers)).mpr agree)
      cases some_key
    | some item =>
      obtain ⟨key, pem⟩ := item
      obtain ⟨identity, rfl, identities, keys⟩ := step_custody_of_some w d.net e registers
      rw [keysAgree_register_iff agree identity identities keys]
      constructor
      · intro kept
        exact kept key _ rfl
      · rintro taken key' pem' same
        obtain ⟨rfl, rfl⟩ := Prod.mk.inj (Option.some.inj same)
        exact taken
  | saved => exact iff_of_true trivial agree
  | restarted nodes found =>
    have fresh : KeysAgree (Server.primed nodes : Server q) := fun key => rfl
    simp only [KeepsCustody, deploymentStep]
    cases found with
    | false => exact iff_of_true (fun impossible => absurd impossible (by decide)) fresh
    | true =>
      cases disk : d.disk with
      | none =>
        refine iff_of_true (fun _ snap impossible => ?_) fresh
        cases impossible
      | some snap =>
        rw [keysAgree_restore_iff]
        simp
  | retired nodeId force clears =>
    simp only [KeepsCustody, deploymentStep, retireNode]
    split
    · rename_i allowed
      rw [keysAgree_forget_iff agree]
      simp [allowed]
    · rename_i refused
      exact iff_of_true (fun allowed => absurd allowed refused) agree
  | forgotten nodeId clears => exact (keysAgree_forget_iff agree nodeId clears).symm

/-- A deployment before its first event: nothing is registered, whatever nodes the process knows. -/
def Deployment.fresh (nodes : Dict String Fields) : Deployment q :=
  { net := { server := Server.primed nodes, conns := Dict.empty } }

/-- Over every run of messages, snapshots, restarts and retirements the two stores agree in every state exactly when
each event meets its condition. -/
theorem custody_agrees_iff (w : Listener) (format : SnapshotFormat) (prefixes : List String)
    (nodes : Dict String Fields) (events : List (DeploymentEvent q)) :
    Along (deploymentStep w format prefixes) (KeepsCustody w prefixes) (.fresh nodes) events ↔
      ∀ before after, events = before ++ after →
        KeysAgree (run (deploymentStep w format prefixes) (.fresh nodes) before).net.server :=
  along_iff_invariant (I := fun d : Deployment q => KeysAgree d.net.server)
    (fun d e agree => keepsCustody_iff d e agree) (fun _ => rfl) events

end

/-! ### A node that registers its key, and is retired or lives through a restart -/

/-- The verifier takes every key. -/
def mapListener : Listener := { guardedListener with token := none }

def plainFormat : SnapshotFormat :=
  { keyText := fun key => match key with
      | .text s => s
      | _ => ""
    reload := fun identity => identity }

def registeredEvents : List (DeploymentEvent twoShards) :=
  [.handled (.opened 1 "peer"), .handled (.received 1 (registerKeyMsg "ret1a2b3c4d") noon true)]

/-- The identity is back after the restart without its key; after the retirement the key is left without it. -/
theorem custody_stores_part :
    ¬ KeysAgree (run (deploymentStep mapListener plainFormat []) (.fresh Dict.empty)
        (registeredEvents ++ [.saved, .restarted Dict.empty true])).net.server ∧
      ¬ KeysAgree (run (deploymentStep mapListener plainFormat []) (.fresh Dict.empty)
        (registeredEvents ++ [.retired "ret1a2b3c4d" false true])).net.server := by
  constructor
  · intro agree
    exact absurd (congrArg Option.isSome (agree (.text "ret1a2b3c4d"))) (by decide +kernel)
  · intro agree
    exact absurd (congrArg Option.isSome (agree (.text "ret1a2b3c4d"))) (by decide +kernel)

end Retina.Tcp
