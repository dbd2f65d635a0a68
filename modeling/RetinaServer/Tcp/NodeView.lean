import RetinaServer.Tcp.Connection

/-! The state of one node, taken out of the shared state: which messages leave it
alone, and that what a message does to it depends on it alone. -/
namespace Retina.Tcp
open OrderedDict
open Frames (QueueShape ingressStep)

def Json.isText (m : String) : Json → Bool
  | .str id => decide (id = m)
  | _ => false

/-- What the server holds for one node. -/
structure NodeView where
  /-- Configuration, status and last heartbeat. -/
  record : Option Fields
  identity : Option NodeIdentity
  key : Option Json
  chain : Option (List Fields)
  captures : Option (List Fields)
  heartbeats : List String
  registrations : List (String × Fields)
  pipeline : Option Fields
  lastEnqueue : Option ℚ
  queued : List (String × (Json × Json))

section
variable {q : QueueShape}

def viewOf (s : Server q) (m : String) : NodeView :=
  { record := s.connectedNodes.get? m
    identity := s.nodeIdentities.get? (.text m)
    key := s.verifierKeys.get? (.text m)
    chain := s.chainEntries.get? (.text m)
    captures := s.iqCommitments.get? (.text m)
    heartbeats := s.heartbeats.filter fun id => decide (id = m)
    registrations := s.registrations.filter fun entry => decide (entry.1 = m)
    pipeline := s.nodePipelines.get? m
    lastEnqueue := s.perNodeLastEnqueue.get? (.text m)
    queued := s.frameQueue.accepted.filter fun item => item.2.1.isText m }

/-- The verifier looks up no key but that of the node the entry names. -/
def ReadsOwnKey (w : Listener) : Prop :=
  ∀ keys keys' entry, (∀ key, (lookup "node_id" entry).bind Json.hashKey = some key → keys key = keys' key) →
    w.verifies keys entry = w.verifies keys' entry

theorem hashKey_eq_text {value : Json} (named : value.hashKey = some (.text m)) : value = .str m := by
  cases value with
  | str id => rw [NodeKey.text.inj (Option.some.inj named)]
  | null | bool _ | int _ | float _ => simp [Json.hashKey] at named
  | list _ | dict _ => cases named

theorem isText_iff (value : Json) : value.isText m = true ↔ value = .str m := by
  cases value with
  | str id => simp [Json.isText]
  | null | bool _ | int _ | float _ | list _ | dict _ => simp [Json.isText]

/-! ### Keys and custody -/

theorem handleRegisterKey_other (w : Listener) (s : Server q) (msg : Fields) (nodeId : Json) (now : Clock)
    (sent : Bool) (other : ∀ key, keyNode msg nodeId = some key → key ≠ .text m) :
    viewOf (handleRegisterKey w s msg nodeId now sent).server m = viewOf s m := by
  rw [handleRegisterKey]
  cases named : keyNode msg nodeId with
  | none =>
    simp only
    split <;> rfl
  | some key =>
    have elsewhere := other key named
    simp only
    split
    · simp only [raised, viewOf, Dict.get?_insert, if_neg elsewhere]
    · split <;> simp only [raised, reply, viewOf, Dict.get?_insert, if_neg elsewhere]

theorem handleRegisterKey_same (w : Listener) {s s' : Server q} (msg : Fields) (nodeId : Json) (now : Clock)
    (sent : Bool) (same : viewOf s m = viewOf s' m) :
    viewOf (handleRegisterKey w s msg nodeId now sent).server m =
      viewOf (handleRegisterKey w s' msg nodeId now sent).server m := by
  simp only [viewOf, NodeView.mk.injEq] at same
  rw [handleRegisterKey, handleRegisterKey]
  cases keyNode msg nodeId with
  | none =>
    simp only
    split <;> simp only [raised, viewOf, same]
  | some key =>
    simp only
    split
    · simp only [raised, viewOf, Dict.get?_insert, same]
    · split <;> simp only [raised, reply, viewOf, Dict.get?_insert, same]

theorem handleRegisterKey_ended (w : Listener) (s s' : Server q) (msg : Fields) (nodeId : Json) (now : Clock)
    (sent : Bool) :
    (handleRegisterKey w s msg nodeId now sent).ended = (handleRegisterKey w s' msg nodeId now sent).ended := by
  rw [handleRegisterKey, handleRegisterKey]
  cases keyNode msg nodeId with
  | none =>
    simp only
    split <;> rfl
  | some key =>
    simp only
    split
    · rfl
    · split <;> rfl

theorem handleChainEntry_other (w : Listener) (s : Server q) (msg : Fields) (nodeId : Json) (now : Clock)
    (sent : Bool) (other : ∀ key, entryNode msg nodeId = some key → key ≠ .text m) :
    viewOf (handleChainEntry w s msg nodeId now sent).server m = viewOf s m := by
  rw [entryNode] at other
  rw [handleChainEntry]
  split
  · rename_i entry nested
    rw [nested] at other
    cases named : recordNode entry nodeId with
    | none =>
      simp only
      split <;> rfl
    | some key =>
      have elsewhere := other key named
      simp only [reply, viewOf, Dict.get?_insert, if_neg elsewhere]
  · rfl

theorem handleChainEntry_ended (w : Listener) (s s' : Server q) (msg : Fields) (nodeId : Json) (now : Clock)
    (sent : Bool) :
    (handleChainEntry w s msg nodeId now sent).ended = (handleChainEntry w s' msg nodeId now sent).ended := by
  rw [handleChainEntry, handleChainEntry]
  split
  · cases recordNode _ nodeId with
    | none =>
      simp only
      split <;> rfl
    | some key => rfl
  · rfl

/-- The entry an id is read from names no other node. -/
theorem own_key_of_recordNode {entry : Fields} (named : recordNode entry nodeId = some (.text m)) :
    ∀ key, (lookup "node_id" entry).bind Json.hashKey = some key → key = .text m := by
  intro key own
  obtain ⟨value, found, hashed⟩ := Option.bind_eq_some_iff.mp own
  rw [recordNode] at named
  split at named
  · rw [get, found, Option.getD_some, hashed] at named
    exact Option.some.inj named
  · cases named

/-- The verdict on an entry comes from the view of the node it is stored under. -/
theorem handleChainEntry_same {w : Listener} (reads : ReadsOwnKey w) {s s' : Server q} (msg : Fields) (nodeId : Json)
    (now : Clock) (sent : Bool) (same : viewOf s m = viewOf s' m) :
    viewOf (handleChainEntry w s msg nodeId now sent).server m =
      viewOf (handleChainEntry w s' msg nodeId now sent).server m := by
  by_cases own : entryNode msg nodeId = some (.text m)
  · have parts := same
    simp only [viewOf, NodeView.mk.injEq] at parts
    obtain ⟨-, identity, verifier, chain, -⟩ := parts
    rw [entryNode] at own
    rw [handleChainEntry, handleChainEntry]
    split at own
    · rename_i entry _
      have verdict : w.verifies s.verifierKeys.get? entry = w.verifies s'.verifierKeys.get? entry := by
        refine reads _ _ entry fun key looked_up => ?_
        rw [own_key_of_recordNode own key looked_up, verifier]
      simp only [own, identity, chain, verdict, reply, viewOf, Dict.get?_insert, if_true]
      simp only [viewOf, NodeView.mk.injEq] at same
      simp only [same]
    · cases own
  · have other (key : NodeKey) (named : entryNode msg nodeId = some key) : key ≠ .text m := fun mine =>
      own (named.trans (congrArg some mine))
    rw [handleChainEntry_other w s msg nodeId now sent other, handleChainEntry_other w s' msg nodeId now sent other,
      same]

theorem handleIqCommitment_other (s : Server q) (msg : Fields) (nodeId : Json) (now : Clock) (sent : Bool)
    (other : ∀ key, captureNode msg nodeId = some key → key ≠ .text m) :
    viewOf (handleIqCommitment s msg nodeId now sent).server m = viewOf s m := by
  rw [captureNode] at other
  rw [handleIqCommitment]
  split
  · rename_i capture nested
    rw [nested] at other
    cases named : recordNode capture nodeId with
    | none =>
      simp only
      split <;> rfl
    | some key =>
      have elsewhere := other key named
      simp only
      split <;> simp only [raised, reply, viewOf, Dict.get?_insert, if_neg elsewhere]
  · rfl

theorem handleIqCommitment_ended (s s' : Server q) (msg : Fields) (nodeId : Json) (now : Clock) (sent : Bool) :
    (handleIqCommitment s msg nodeId now sent).ended = (handleIqCommitment s' msg nodeId now sent).ended := by
  rw [handleIqCommitment, handleIqCommitment]
  split
  · cases recordNode _ nodeId with
    | none =>
      simp only
      split <;> rfl
    | some key =>
      simp only
      split <;> rfl
  · rfl

theorem handleIqCommitment_same {s s' : Server q} (msg : Fields) (nodeId : Json) (now : Clock) (sent : Bool)
    (same : viewOf s m = viewOf s' m) :
    viewOf (handleIqCommitment s msg nodeId now sent).server m =
      viewOf (handleIqCommitment s' msg nodeId now sent).server m := by
  by_cases own : captureNode msg nodeId = some (.text m)
  · simp only [viewOf, NodeView.mk.injEq] at same
    rw [captureNode] at own
    rw [handleIqCommitment, handleIqCommitment]
    split at own
    · simp only [own]
      split <;> simp only [raised, reply, viewOf, Dict.get?_insert, same]
    · cases own
  · have other (key : NodeKey) (named : captureNode msg nodeId = some key) : key ≠ .text m := fun mine =>
      own (named.trans (congrArg some mine))
    rw [handleIqCommitment_other s msg nodeId now sent other, handleIqCommitment_other s' msg nodeId now sent other,
      same]

/-! ### Heartbeats and configurations -/

theorem handleHeartbeat_other (s : Server q) (msg : Fields) (nodeId : Json) (now : Clock) (sent : Bool)
    (other : ∀ id record, heartbeatNode s msg nodeId = some (id, record) → id ≠ m) :
    viewOf (handleHeartbeat s msg nodeId now sent).server m = viewOf s m := by
  cases about : heartbeatNode s msg nodeId with
  | none => rw [handleHeartbeat_server_of_none s msg nodeId now sent about]
  | some node =>
    have elsewhere := other node.1 node.2 about
    have skipped : (s.heartbeats ++ [node.1]).filter (fun id => decide (id = m)) =
        s.heartbeats.filter fun id => decide (id = m) := by
      rw [List.filter_append, List.filter_cons_of_neg (by simpa using elsewhere), List.filter_nil, List.append_nil]
    rw [handleHeartbeat, about]
    simp only
    split
    · split <;> simp only [raised, reply, viewOf, Dict.get?_insert, if_neg elsewhere, skipped]
    · simp only [viewOf, Dict.get?_insert, if_neg elsewhere, skipped]

theorem heartbeatNode_same {s s' : Server q} (named : get msg "node_id" nodeId = .str m)
    (same : viewOf s m = viewOf s' m) : heartbeatNode s msg nodeId = heartbeatNode s' msg nodeId := by
  have records : s.connectedNodes.get? m = s'.connectedNodes.get? m := congrArg NodeView.record same
  simp only [heartbeatNode, named, records]

theorem handleHeartbeat_same {s s' : Server q} (msg : Fields) (nodeId : Json) (now : Clock) (sent : Bool)
    (same : viewOf s m = viewOf s' m) :
    viewOf (handleHeartbeat s msg nodeId now sent).server m =
      viewOf (handleHeartbeat s' msg nodeId now sent).server m := by
  by_cases named : get msg "node_id" nodeId = .str m
  · have node := heartbeatNode_same named same
    simp only [viewOf, NodeView.mk.injEq] at same
    rw [handleHeartbeat, handleHeartbeat, node]
    cases heartbeatNode s' msg nodeId with
    | none =>
      simp only
      split <;> simp only [raised, viewOf, same]
    | some node =>
      simp only
      split
      · split <;> simp only [raised, reply, viewOf, Dict.get?_insert, List.filter_append, same]
      · simp only [viewOf, Dict.get?_insert, List.filter_append, same]
  · have other (s : Server q) (id : String) (record : Fields) (about : heartbeatNode s msg nodeId = some (id, record)) :
        id ≠ m := by
      rintro rfl
      exact named (heartbeatNode_record about).1
    rw [handleHeartbeat_other s msg nodeId now sent (other s), handleHeartbeat_other s' msg nodeId now sent (other s'),
      same]

/-- A heartbeat of a node that is not connected ends its connection by its name alone. -/
theorem handleHeartbeat_ended_of_none (s : Server q) (msg : Fields) (nodeId : Json) (now : Clock) (sent : Bool)
    (unknown : heartbeatNode s msg nodeId = none) :
    (handleHeartbeat s msg nodeId now sent).ended =
      ((get msg "node_id" nodeId).truthy && ((get msg "node_id" nodeId).hashKey).isNone) := by
  rw [handleHeartbeat, unknown]
  simp only
  split
  · rename_i unhashable
    rw [unhashable, raised]
  · rename_i hashable
    rw [Bool.not_eq_true] at hashable
    rw [hashable]

/-- Where the heartbeat of node `n` ends no connection, whether one ends does not depend on `n`. -/
theorem handleHeartbeat_ended {s s' : Server q} (msg : Fields) (nodeId : Json) (now : Clock) (sent : Bool) (n : String)
    (same : ∀ m, m ≠ n → viewOf s m = viewOf s' m)
    (stays : ∀ record, heartbeatNode s msg nodeId = some (n, record) → heartbeatEnds record msg sent = false)
    (stays' : ∀ record, heartbeatNode s' msg nodeId = some (n, record) → heartbeatEnds record msg sent = false) :
    (handleHeartbeat s msg nodeId now sent).ended = (handleHeartbeat s' msg nodeId now sent).ended := by
  have ended_n (s : Server q) (named : get msg "node_id" nodeId = .str n)
      (stays : ∀ record, heartbeatNode s msg nodeId = some (n, record) → heartbeatEnds record msg sent = false) :
      (handleHeartbeat s msg nodeId now sent).ended = false := by
    cases about : heartbeatNode s msg nodeId with
    | none => rw [handleHeartbeat_ended_of_none s msg nodeId now sent about, named]; simp [Json.hashKey]
    | some node =>
      obtain ⟨id, record⟩ := node
      obtain rfl := Json.str.inj ((heartbeatNode_record about).1.symm.trans named)
      rw [(handleHeartbeat_of_some s msg nodeId now sent about).2, stays record about]
  by_cases named : get msg "node_id" nodeId = .str n
  · rw [ended_n s named stays, ended_n s' named stays']
  · have node : heartbeatNode s msg nodeId = heartbeatNode s' msg nodeId := by
      cases name : get msg "node_id" nodeId with
      | str m => exact heartbeatNode_same name (same m fun mine => named (mine ▸ name))
      | null | bool _ | int _ | float _ | list _ | dict _ => simp only [heartbeatNode, name]
    cases about : heartbeatNode s' msg nodeId with
    | none =>
      rw [handleHeartbeat_ended_of_none s msg nodeId now sent (node.trans about),
        handleHeartbeat_ended_of_none s' msg nodeId now sent about]
    | some found =>
      rw [(handleHeartbeat_of_some s msg nodeId now sent (node.trans about)).2,
        (handleHeartbeat_of_some s' msg nodeId now sent about).2]

theorem handleConfig_other (w : Listener) (s : Server q) (msg : Fields) (nodeId : Json) (peer : String) (now : Clock)
    (sent : Bool) (other : nodeId ≠ .str m) :
    viewOf (handleConfig w s msg nodeId peer now sent).server m = viewOf s m := by
  rw [handleConfig.eq_def]
  split
  · rfl
  · rename_i id _
    have elsewhere : id ≠ m := fun mine => other (congrArg Json.str mine)
    have stored : viewOf (storeConfig w s msg id peer now) m = viewOf s m := by
      simp only [storeConfig, viewOf, Dict.get?_insert, if_neg elsewhere, NodeView.mk.injEq, true_and, and_true]
      split
      · rw [Dict.get?_erase, if_neg elsewhere]
      · rfl
    simp only
    split
    · exact stored
    · split
      · exact stored
      · rw [← stored]
        simp only [viewOf, List.filter_append, List.filter_cons, elsewhere, decide_false, Bool.false_eq_true, if_false,
          List.filter_nil, List.append_nil, storeConfig]
  · rfl

theorem handleConfig_same (w : Listener) {s s' : Server q} (msg : Fields) (nodeId : Json) (peer : String) (now : Clock)
    (sent : Bool) (same : viewOf s m = viewOf s' m) :
    viewOf (handleConfig w s msg nodeId peer now sent).server m =
      viewOf (handleConfig w s' msg nodeId peer now sent).server m := by
  by_cases own : nodeId = .str m
  · subst own
    have stored : viewOf (storeConfig w s msg m peer now) m = viewOf (storeConfig w s' msg m peer now) m := by
      have known : knownRecord s m = knownRecord s' m := by
        rw [knownRecord, knownRecord, show s.connectedNodes.get? m = s'.connectedNodes.get? m from
          congrArg NodeView.record same]
      simp only [viewOf, NodeView.mk.injEq] at same
      simp only [storeConfig, viewOf, Dict.get?_insert, if_true, known, same, NodeView.mk.injEq, true_and, and_true]
      split
      · rw [Dict.get?_erase, Dict.get?_erase, if_pos rfl, if_pos rfl]
      · exact same.2.2.2.2.2.2.2.1
    rw [handleConfig.eq_def, handleConfig.eq_def]
    split
    · exact same
    · rename_i id _ named
      obtain rfl := Json.str.inj named
      simp only
      split
      · exact stored
      · split
        · exact stored
        · have parts := stored
          simp only [viewOf, NodeView.mk.injEq] at parts
          simp only [viewOf, List.filter_append, parts]
    · exact same
  · rw [handleConfig_other w s msg nodeId peer now sent own, handleConfig_other w s' msg nodeId peer now sent own, same]

theorem handleConfig_ended (w : Listener) (s s' : Server q) (msg : Fields) (nodeId : Json) (peer : String)
    (now : Clock) (sent : Bool) :
    (handleConfig w s msg nodeId peer now sent).ended = (handleConfig w s' msg nodeId peer now sent).ended := by
  rw [handleConfig.eq_def, handleConfig.eq_def]
  split
  · rfl
  · simp only
    split
    · rfl
    · split <;> rfl
  · rfl

/-! ### Detections -/

/-- Whether an entry raises depends on the entries alone. -/
theorem storePositions_returned (w : Listener) (tsMs recvMs : ℤ) (world world' : String) (entries : List Json)
    (store store' : Dict String Fields) :
    (storePositions w tsMs recvMs world entries store).2 = (storePositions w tsMs recvMs world' entries store').2 := by
  induction entries generalizing store store' with
  | nil => rfl
  | cons entry rest ih =>
    simp only [storePositions]
    cases readPosition w.text entry with
    | none => rfl
    | some found =>
      cases found with
      | none => exact ih store store'
      | some p => exact ih _ _

theorem extractPositions_returned (w : Listener) (s s' : Server q) (frame nodeId : Json) (now : Clock) :
    (extractPositions w s frame nodeId now).2 = (extractPositions w s' frame nodeId now).2 := by
  cases frame with
  | dict fields =>
    simp only [extractPositions]
    split
    · simp only [applySyntheticAdsb]
      split
      · rfl
      · cases adsbCaptureTsMs fields now.time with
        | none => rfl
        | some tsMs =>
          cases nodeId with
          | str id =>
            simp only [worldOf]
            cases (get fields "adsb" .null).elements with
            | none => rfl
            | some entries => exact storePositions_returned w _ _ _ _ entries _ _
          | null | bool _ | int _ | float _ | list _ | dict _ => rfl
    · rfl
  | null | bool _ | int _ | float _ | str _ | list _ => rfl

theorem viewOf_extractPositions (w : Listener) (s : Server q) (frame nodeId : Json) (now : Clock) (m : String) :
    viewOf (extractPositions w s frame nodeId now).1 m = viewOf s m := by
  obtain ⟨store, taken⟩ := extractPositions_server w s frame nodeId now
  rw [taken]
  rfl

theorem accepted_put (ingress : Frames.Ingress q (Json × Json)) (item : String × (Json × Json)) :
    (ingressStep q ingress (.put item)).accepted =
      if Frames.full q ingress.shards then ingress.accepted else ingress.accepted ++ [item] := by
  simp only [ingressStep, Frames.putNowait]
  by_cases refused : Frames.full q ingress.shards = true
  · simp only [if_pos refused]
  · simp only [if_neg refused]

theorem accepted_get (ingress : Frames.Ingress q (Json × Json)) (worker : Fin q.shardCount) :
    (ingressStep q ingress (.get worker)).accepted = ingress.accepted := by
  simp only [ingressStep]
  split <;> rfl

theorem accepted_drain (ingress : Frames.Ingress q (Json × Json)) :
    (ingressStep q ingress .drain).accepted = ingress.accepted := by
  simp only [ingressStep]
  split
  · rfl
  · split <;> rfl

theorem putFrame_other (w : Listener) (s : Server q) (nodeId frame : Json) (other : queueName nodeId ≠ .str m) :
    viewOf (putFrame w s nodeId frame) m = viewOf s m := by
  have elsewhere : (queueName nodeId).isText m = false :=
    Bool.eq_false_iff.mpr fun mine => other ((isText_iff _).mp mine)
  simp only [putFrame, viewOf, accepted_put, NodeView.mk.injEq, true_and]
  split
  · rfl
  · simp only [List.filter_append, List.filter_cons, elsewhere, Bool.false_eq_true, if_false, List.filter_nil,
      List.append_nil]

/-- A queue with room takes the frame whatever it holds. -/
theorem putFrame_same (w : Listener) {s s' : Server q} (nodeId frame : Json) (same : viewOf s m = viewOf s' m)
    (room : Frames.full q s.frameQueue.shards = false) (room' : Frames.full q s'.frameQueue.shards = false) :
    viewOf (putFrame w s nodeId frame) m = viewOf (putFrame w s' nodeId frame) m := by
  simp only [viewOf, NodeView.mk.injEq] at same
  simp only [putFrame, viewOf, accepted_put, room, room', Bool.false_eq_true, if_false, List.filter_append, same]

theorem enqueueLimited_other (w : Listener) (s : Server q) (nodeId frame : Json) (now : Clock)
    (other : queueName nodeId ≠ .str m) : viewOf (enqueueLimited w s nodeId frame now).server m = viewOf s m := by
  rw [enqueueLimited]
  split
  · rename_i named
    cases hashed : nodeId.hashKey with
    | none => rfl
    | some key =>
      have elsewhere : key ≠ .text m := by
        rintro rfl
        rw [queueName, if_pos named] at other
        exact other (hashKey_eq_text hashed)
      simp only
      split
      · rfl
      · rw [putFrame_other w _ nodeId frame other]
        simp only [viewOf, Dict.get?_insert, if_neg elsewhere]
  · exact putFrame_other w s nodeId frame other

theorem enqueueLimited_same (w : Listener) {s s' : Server q} (nodeId frame : Json) (now : Clock)
    (same : viewOf s m = viewOf s' m) (room : Frames.full q s.frameQueue.shards = false)
    (room' : Frames.full q s'.frameQueue.shards = false) :
    viewOf (enqueueLimited w s nodeId frame now).server m =
      viewOf (enqueueLimited w s' nodeId frame now).server m := by
  by_cases own : queueName nodeId = .str m
  · rw [enqueueLimited, enqueueLimited]
    split
    · rename_i named
      rw [queueName, if_pos named] at own
      subst own
      have last : s.perNodeLastEnqueue.get? (.text m) = s'.perNodeLastEnqueue.get? (.text m) :=
        congrArg NodeView.lastEnqueue same
      simp only [Json.hashKey, last]
      split
      · exact same
      · refine putFrame_same w _ frame ?_ room room'
        simp only [viewOf, NodeView.mk.injEq] at same
        simp only [viewOf, Dict.get?_insert, same]
    · exact putFrame_same w nodeId frame same room room'
  · rw [enqueueLimited_other w s nodeId frame now own, enqueueLimited_other w s' nodeId frame now own, same]

theorem enqueueLimited_ended (w : Listener) (s s' : Server q) (nodeId frame : Json) (now : Clock) :
    (enqueueLimited w s nodeId frame now).ended = (enqueueLimited w s' nodeId frame now).ended := by
  rw [enqueueLimited, enqueueLimited]
  split
  · cases nodeId.hashKey with
    | none => rfl
    | some key =>
      simp only
      split <;> split <;> rfl
  · rfl

theorem enqueueDetection_other (w : Listener) (s : Server q) (msg : Fields) (nodeId : Json) (now : Clock)
    (other : queueName nodeId ≠ .str m) : viewOf (enqueueDetection w s msg nodeId now).server m = viewOf s m :=
  enqueueDetection_kept (viewOf · m) w s msg nodeId now (fun _ => rfl) fun s' frame =>
    enqueueLimited_other w s' nodeId frame now other

theorem frameQueue_extractPositions (w : Listener) (s : Server q) (frame nodeId : Json) (now : Clock) :
    (extractPositions w s frame nodeId now).1.frameQueue = s.frameQueue := by
  obtain ⟨store, taken⟩ := extractPositions_server w s frame nodeId now
  rw [taken]

theorem enqueueDetection_same (w : Listener) {s s' : Server q} (msg : Fields) (nodeId : Json) (now : Clock)
    (same : viewOf s m = viewOf s' m) (room : Frames.full q s.frameQueue.shards = false)
    (room' : Frames.full q s'.frameQueue.shards = false) :
    viewOf (enqueueDetection w s msg nodeId now).server m = viewOf (enqueueDetection w s' msg nodeId now).server m := by
  rw [enqueueDetection, enqueueDetection]
  cases prepareFrame msg nodeId with
  | raised | skipped => exact same
  | ready frame =>
    have taken : viewOf (extractPositions w s frame nodeId now).1 m =
        viewOf (extractPositions w s' frame nodeId now).1 m := by
      rw [viewOf_extractPositions, viewOf_extractPositions, same]
    simp only [extractPositions_returned w s s' frame nodeId now]
    split
    · exact enqueueLimited_same w nodeId frame now taken (by rw [frameQueue_extractPositions, room])
        (by rw [frameQueue_extractPositions, room'])
    · exact taken

theorem enqueueDetection_ended (w : Listener) (s s' : Server q) (msg : Fields) (nodeId : Json) (now : Clock) :
    (enqueueDetection w s msg nodeId now).ended = (enqueueDetection w s' msg nodeId now).ended := by
  rw [enqueueDetection, enqueueDetection]
  cases prepareFrame msg nodeId with
  | raised | skipped => rfl
  | ready frame =>
    simp only [extractPositions_returned w s s' frame nodeId now]
    split
    · exact enqueueLimited_ended w _ _ nodeId frame now
    · rfl

/-! ### Closing -/

theorem finish_other (s : Server q) (conn : Conn) (now : Clock) (other : conn.nodeId ≠ .str m) :
    viewOf (finish s conn now) m = viewOf s m := by
  rw [finish]
  split
  · rename_i id named
    have elsewhere : id ≠ m := fun mine => other (named.trans (congrArg Json.str mine))
    split
    · rfl
    · split
      · rfl
      · simp only [viewOf, Dict.get?_insert, if_neg elsewhere]
  · rfl

theorem finish_same {s s' : Server q} (conn : Conn) (now : Clock) (same : viewOf s m = viewOf s' m) :
    viewOf (finish s conn now) m = viewOf (finish s' conn now) m := by
  by_cases own : conn.nodeId = .str m
  · have records : s.connectedNodes.get? m = s'.connectedNodes.get? m := congrArg NodeView.record same
    simp only [finish, own, records]
    split
    · exact same
    · cases s'.connectedNodes.get? m with
      | none => exact same
      | some record =>
        simp only [viewOf, NodeView.mk.injEq] at same
        simp only [viewOf, Dict.get?_insert, same]
  · rw [finish_other s conn now own, finish_other s' conn now own, same]

end
end Retina.Tcp
