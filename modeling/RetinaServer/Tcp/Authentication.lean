import RetinaServer.Tcp.Connection

/-! The token is compared on a HELLO and nowhere else: what a connection can write
before its HELLO is accepted, and what it must leave out to write nothing. -/
namespace Retina.Tcp
open OrderedDict Runs
open Frames (QueueShape)

section
variable {q : QueueShape}

/-- The message is a HELLO, of no known type, or refused by its own handler, or its frame finds the queue full. -/
def writesNothing (w : Listener) (s : Server q) (conn : Conn) : Json → Bool
  | .dict msg => match kindOf msg with
    | .hello | .other => true
    | .config => match validateNodeConfig w.text (get msg "config" (.dict [])), configName conn msg with
      | .accepted, .str _ => false
      | _, _ => true
    | .registerKey => (keyNode msg conn.nodeId).isNone
    | .chainEntry => (entryNode msg conn.nodeId).isNone
    | .iqCommitment => (captureNode msg conn.nodeId).isNone
    | .heartbeat => (heartbeatNode s msg conn.nodeId).isNone
    | .detection => match prepareFrame msg conn.nodeId with
      | .ready _ => !conn.nodeId.truthy && Frames.full q s.frameQueue.shards
      | _ => true
    | .bare => Frames.full q s.frameQueue.shards
  | _ => true

/-- The connection goes by the name of a connected node. -/
def namesConnected (s : Server q) (conn : Conn) : Bool :=
  match conn.nodeId with
  | .str id => decide (id ≠ "") && (s.connectedNodes.get? id).isSome
  | _ => false

def quiet (w : Listener) (net : Net q) : Event q → Bool
  | .received c msg _ _ => (net.conns.get? c).all fun conn => conn.ended || writesNothing w net.server conn msg
  | .closed c _ => (net.conns.get? c).all fun conn => !namesConnected net.server conn
  | _ => true

/-- An event of a connection on which no HELLO was accepted yet. -/
def Unauthenticated (t : Traced q) (e : Event q) : Prop := ∃ c, e.conn = some c ∧ c ∉ t.greeted

instance (t : Traced q) (e : Event q) : Decidable (Unauthenticated t e) :=
  decidable_of_iff ((e.conn).any fun c => decide (c ∉ t.greeted)) <| by
    simp only [Option.any_eq_true, decide_eq_true_eq, Unauthenticated]

/-- No step of a connection changes the shared state before its HELLO is accepted. -/
def WritesAuthenticated (w : Listener) (t : Traced q) (events : List (Event q)) : Prop :=
  Along (traceStep w) (fun t e => Unauthenticated t e → (step w t.net e).server = t.net.server) t events

/-! ### One message -/

theorem handleRegisterKey_server_of_none (w : Listener) (s : Server q) (msg : Fields) (nodeId : Json) (now : Clock)
    (sent : Bool) (unnamed : keyNode msg nodeId = none) : (handleRegisterKey w s msg nodeId now sent).server = s := by
  simp only [handleRegisterKey, unnamed]
  split <;> rfl

theorem handleChainEntry_server_of_none (w : Listener) (s : Server q) (msg : Fields) (nodeId : Json) (now : Clock)
    (sent : Bool) (unnamed : entryNode msg nodeId = none) : (handleChainEntry w s msg nodeId now sent).server = s := by
  rw [entryNode] at unnamed
  rw [handleChainEntry]
  split
  · rename_i entry nested
    rw [nested] at unnamed
    simp only [unnamed]
    split <;> rfl
  · rfl

theorem handleIqCommitment_server_of_none (s : Server q) (msg : Fields) (nodeId : Json) (now : Clock) (sent : Bool)
    (unnamed : captureNode msg nodeId = none) : (handleIqCommitment s msg nodeId now sent).server = s := by
  rw [captureNode] at unnamed
  rw [handleIqCommitment]
  split
  · rename_i capture nested
    rw [nested] at unnamed
    simp only [unnamed]
    split <;> rfl
  · rfl

theorem putFrame_of_full (w : Listener) (s : Server q) (nodeId frame : Json)
    (full : Frames.full q s.frameQueue.shards = true) : putFrame w s nodeId frame = s := by
  simp only [putFrame, Frames.ingressStep, Frames.putNowait, full, if_true]

/-- A connection without a name stores no positions and has no limit of its own. -/
theorem enqueueDetection_of_unnamed (w : Listener) (s : Server q) (msg : Fields) (nodeId : Json) (now : Clock)
    (unnamed : nodeId.truthy = false) (prepared : prepareFrame msg nodeId = .ready frame) :
    enqueueDetection w s msg nodeId now = { server := putFrame w s nodeId frame } := by
  have unlimited : enqueueLimited w s nodeId frame now = { server := putFrame w s nodeId frame } := by
    simp only [enqueueLimited, unnamed, Bool.false_eq_true, if_false]
  have untouched : extractPositions w s frame nodeId now = (s, true) := by
    cases frame with
    | dict fields => simp only [extractPositions, unnamed, Bool.false_eq_true, if_false]
    | null | bool _ | int _ | float _ | str _ | list _ => rfl
  simp only [enqueueDetection, prepared, untouched, if_true]
  exact unlimited

theorem handleMessage_server_of_writesNothing (w : Listener) (s : Server q) (conn : Conn) (msg : Json) (now : Clock)
    (sent : Bool) (nothing : writesNothing w s conn msg = true) :
    (handleMessage w s conn msg now sent).server = s := by
  cases msg with
  | dict msg =>
    simp only [writesNothing] at nothing
    simp only [handleMessage]
    cases kind : kindOf msg with
    | hello => exact handleHello_server w s conn msg
    | config =>
      refine handleConfig_server_of_refused w s msg _ conn.peer now sent fun id accepted named => ?_
      simp [kind, accepted, named] at nothing
    | registerKey =>
      rw [kind, Option.isNone_iff_eq_none] at nothing
      exact handleRegisterKey_server_of_none w s msg _ now sent nothing
    | chainEntry =>
      rw [kind, Option.isNone_iff_eq_none] at nothing
      exact handleChainEntry_server_of_none w s msg _ now sent nothing
    | iqCommitment =>
      rw [kind, Option.isNone_iff_eq_none] at nothing
      exact handleIqCommitment_server_of_none s msg _ now sent nothing
    | heartbeat =>
      rw [kind, Option.isNone_iff_eq_none] at nothing
      exact handleHeartbeat_server_of_none s msg _ now sent nothing
    | detection =>
      rw [kind] at nothing
      simp only [Handled.onConn]
      cases prepared : prepareFrame msg conn.nodeId with
      | ready frame =>
        simp only [prepared, Bool.and_eq_true, Bool.not_eq_true'] at nothing
        rw [enqueueDetection_of_unnamed w s msg _ now nothing.1 prepared]
        exact putFrame_of_full w s _ _ nothing.2
      | raised | skipped => simp only [enqueueDetection, prepared, raised]
    | bare =>
      rw [kind] at nothing
      exact putFrame_of_full w s _ _ nothing
    | other => rfl
  | null | bool _ | int _ | float _ | str _ | list _ => rfl

theorem finish_of_unnamed (s : Server q) (conn : Conn) (now : Clock) (unnamed : namesConnected s conn = false) :
    finish s conn now = s := by
  rw [namesConnected] at unnamed
  rw [finish]
  split
  · rename_i id named
    simp only [named, Bool.and_eq_false_iff, decide_eq_false_iff_not, not_not, Option.isSome_eq_false_iff,
      Option.isNone_iff_eq_none] at unnamed
    split
    · rfl
    · rename_i nonempty
      rw [unnamed.resolve_left nonempty]
  · rfl

/-! ### Runs -/

theorem step_server_of_quiet (w : Listener) (net : Net q) (e : Event q) (of_conn : e.conn = some c)
    (held : quiet w net e = true) : (step w net e).server = net.server := by
  cases e with
  | opened d peer =>
    simp only [step]
    split <;> rfl
  | received d msg now sent =>
    simp only [step]
    cases found : net.conns.get? d with
    | none => rfl
    | some conn =>
      simp only [quiet, found, Option.all_some, Bool.or_eq_true] at held
      by_cases ended : conn.ended = true
      · simp only [ended, if_true]
      · simp only [if_neg ended]
        exact handleMessage_server_of_writesNothing w _ conn msg now sent (held.resolve_left ended)
  | closed d now =>
    simp only [step]
    cases found : net.conns.get? d with
    | none => rfl
    | some conn =>
      simp only [quiet, found, Option.all_some, Bool.not_eq_true'] at held
      exact finish_of_unnamed _ conn now held
  | queue step => cases of_conn

/-- An accepted HELLO carries the token where one is set. -/
theorem greets_carries_token (w : Listener) (net : Net q) (set : w.token = some token) (nonempty : token ≠ "")
    (greeted : greets w net e = some c) :
    ∃ msg now sent, e = .received c (.dict msg) now sent ∧ get msg "token" (.str "") = .str token := by
  rw [greets.eq_def] at greeted
  split at greeted
  · rename_i d msg now sent
    split at greeted
    · cases greeted
    · rename_i conn found
      split at greeted
      · rename_i open_ kind accepted
        obtain rfl := Option.some.inj greeted
        refine ⟨msg, now, sent, rfl, ?_⟩
        have given : (w.token.filter fun t => decide (t ≠ "")) = some token := by simp [set, nonempty]
        cases name : helloName conn msg with
        | str id =>
          simp only [name, helloOutcome, given] at accepted
          cases compared : compareDigest (get msg "token" (.str "")) token with
          | none => simp [compared] at accepted
          | some same =>
            cases same with
            | false => simp [compared] at accepted
            | true =>
              rw [compareDigest.eq_def] at compared
              split at compared
              · rename_i s given_text
                split at compared
                · rw [given_text, of_decide_eq_true (Option.some.inj compared)]
                · cases compared
              · cases compared
        | null | bool _ | int _ | float _ | list _ | dict _ => simp [name, helloOutcome] at accepted
      · cases greeted
  · cases greeted

theorem mem_greeted (w : Listener) (t : Traced q) (e : Event q) (known : c ∈ (traceStep w t e).greeted) :
    c ∈ t.greeted ∨ greets w t.net e = some c := by
  simp only [traceStep] at known
  split at known
  · exact .inl (List.mem_filter.mp known).1
  · rcases List.mem_append.mp known with here | before
    · exact .inr (Option.mem_toList.mp here)
    · exact .inl before

/-- While connections send nothing but refused messages before their HELLO, and are not closed under a connected
node's name before it, only connections that gave the token write. -/
theorem writes_authenticated (w : Listener) (set : w.token = some token) (nonempty : token ≠ "") (server : Server q)
    (events : List (Event q))
    (held : Along (traceStep w) (fun t e => Unauthenticated t e → quiet w t.net e = true)
      (Traced.start server) events) :
    WritesAuthenticated w (Traced.start server) events ∧
    Along (traceStep w) (fun t e => ∀ c ∈ (traceStep w t e).greeted, c ∈ t.greeted ∨
      ∃ msg now sent, e = .received c (.dict msg) now sent ∧ get msg "token" (.str "") = .str token)
      (Traced.start server) events := by
  constructor
  · rw [WritesAuthenticated]
    rw [along_iff_split] at held ⊢
    intro before e after split unauthenticated
    obtain ⟨c, of_conn, -⟩ := id unauthenticated
    exact step_server_of_quiet w _ e of_conn (held before e after split unauthenticated)
  · rw [along_iff_split]
    intro before e after _ c known
    exact (mem_greeted w _ e known).imp_right (greets_carries_token w _ set nonempty)

end

/-- A heartbeat of a node that is not connected, then the handshake. -/
def orderlyEvents : List (Event twoShards) :=
  [.opened 1 "peer", .received 1 (.dict [("type", .str "HEARTBEAT"), ("node_id", .str "ret0badcafe")]) noon true,
   .received 1 (helloMsg "ret1a2b3c4d" "s3cret") noon true, .received 1 configMsg noon true, .closed 1 noon]

theorem writes_authenticated_handshake :
    WritesAuthenticated guardedListener (Traced.start Server.empty) orderlyEvents ∧
    Along (traceStep guardedListener) (fun t e => ∀ c ∈ (traceStep guardedListener t e).greeted, c ∈ t.greeted ∨
      ∃ msg now sent, e = .received c (.dict msg) now sent ∧ get msg "token" (.str "") = .str "s3cret")
      (Traced.start Server.empty) orderlyEvents :=
  writes_authenticated guardedListener rfl (by decide) Server.empty orderlyEvents (by decide +kernel)

/-- A key is registered on a connection that never said HELLO. -/
theorem key_registered_without_hello :
    ¬ WritesAuthenticated guardedListener (Traced.start (Server.empty : Server twoShards))
      [.opened 1 "peer", .received 1 (registerKeyMsg "ret1a2b3c4d") noon true] := by
  intro authenticated
  have unchanged := authenticated.2.1 ⟨1, rfl, by decide⟩
  have keys := congrArg (fun s => s.nodeIdentities.size) unchanged
  exact absurd keys (by decide +kernel)

end Retina.Tcp
