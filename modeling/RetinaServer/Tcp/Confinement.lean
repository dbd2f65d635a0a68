import RetinaServer.Library.Runs
import RetinaServer.Tcp.NodeView

/-! What a connection can do to nodes other than its own: two servers that hear the
same from everybody else agree on those nodes, as long as the connection's messages
name its own node wherever the handler lets them name one. -/
namespace Retina.Tcp
open OrderedDict Runs Noninterference
open Frames (QueueShape ingressStep)

section
variable {q : QueueShape}

/-- The message names no node but `n` where a handler would write under the name. -/
def NamesOwnNode (n : String) (s : Server q) (conn : Conn) : Json → Prop
  | .dict msg => match kindOf msg with
    | .hello => ∀ id, helloName conn msg = .str id → id = n
    | .registerKey => ∀ key, keyNode msg conn.nodeId = some key → key = .text n
    | .chainEntry => ∀ key, entryNode msg conn.nodeId = some key → key = .text n
    | .iqCommitment => ∀ key, captureNode msg conn.nodeId = some key → key = .text n
    | .heartbeat => ∀ id record, heartbeatNode s msg conn.nodeId = some (id, record) → id = n
    | _ => True
  | _ => True

/-- Somebody else's frame finds room, and a heartbeat of node `n` ends nobody else's connection. -/
def HeardAlike (n : String) (s : Server q) (conn : Conn) (sent : Bool) : Json → Prop
  | .dict msg => match kindOf msg with
    | .heartbeat => ∀ record, heartbeatNode s msg conn.nodeId = some (n, record) → heartbeatEnds record msg sent = false
    | .detection | .bare => Frames.full q s.frameQueue.shards = false
    | _ => True
  | _ => True

/-- The condition on one event, for connection `c` of node `n`. -/
def Confined (c : Nat) (n : String) (net : Net q) : Event q → Prop
  | .opened d _ => d ≠ c
  | .received d msg _ sent => ∀ conn, net.conns.get? d = some conn → conn.ended = false →
      if d = c then NamesOwnNode n net.server conn msg else HeardAlike n net.server conn sent msg
  | .queue (.put _) => Frames.full q net.server.frameQueue.shards = false
  | _ => True

/-- An event of connection `c`. -/
def ofConn (c : Nat) (e : Event q) : Bool := decide (e.conn = some c)

/-- The connection goes by `n`, or has ended under no name. -/
def GoesBy (n : String) (conn : Conn) : Prop :=
  conn.nodeId = .str n ∨ (conn.ended = true ∧ ∀ m, conn.nodeId ≠ .str m)

/-- The two servers agree on every node but `n` and on every connection but `c`, which goes by `n`. -/
structure AgreeOff (c : Nat) (n : String) (net net' : Net q) : Prop where
  views : ∀ m, m ≠ n → viewOf net.server m = viewOf net'.server m
  conns : ∀ d, d ≠ c → net.conns.get? d = net'.conns.get? d
  own : ∀ conn, net.conns.get? c = some conn → GoesBy n conn
  own' : ∀ conn, net'.conns.get? c = some conn → GoesBy n conn

theorem AgreeOff.symm {net net' : Net q} (agree : AgreeOff c n net net') : AgreeOff c n net' net :=
  ⟨fun m other => (agree.views m other).symm, fun d other => (agree.conns d other).symm, agree.own', agree.own⟩

/-! ### Its own messages -/

theorem queueName_own (nonempty : n ≠ "") : queueName (.str n) = .str n := by
  simp [queueName, Json.truthy, nonempty]

/-- A message under the connection's own name leaves the other nodes alone. -/
theorem handleMessage_other (w : Listener) (s : Server q) (conn : Conn) (msg : Json) (now : Clock) (sent : Bool)
    (nonempty : n ≠ "") (named : conn.nodeId = .str n) (own : NamesOwnNode n s conn msg) (other : m ≠ n) :
    viewOf (handleMessage w s conn msg now sent).server m = viewOf s m := by
  have elsewhere : conn.nodeId ≠ .str m := by
    rw [named]
    exact fun same => other (Json.str.inj same).symm
  have queue_elsewhere : queueName conn.nodeId ≠ .str m := by
    rw [named, queueName_own nonempty, ← named]
    exact elsewhere
  have text_elsewhere : NodeKey.text n ≠ .text m := fun same => other (NodeKey.text.inj same).symm
  cases msg with
  | dict msg =>
    simp only [NamesOwnNode] at own
    simp only [handleMessage]
    cases kind : kindOf msg with
    | hello => exact congrArg (fun s => viewOf s m) (handleHello_server w s conn msg)
    | config =>
      have keeps : configName conn msg = conn.nodeId :=
        configName_of_named conn msg (by rw [named]; exact Json.noConfusion)
      exact handleConfig_other w s msg _ conn.peer now sent (keeps ▸ elsewhere)
    | registerKey =>
      rw [kind] at own
      exact handleRegisterKey_other w s msg _ now sent fun key found => own key found ▸ text_elsewhere
    | chainEntry =>
      rw [kind] at own
      exact handleChainEntry_other w s msg _ now sent fun key found => own key found ▸ text_elsewhere
    | iqCommitment =>
      rw [kind] at own
      exact handleIqCommitment_other s msg _ now sent fun key found => own key found ▸ text_elsewhere
    | heartbeat =>
      rw [kind] at own
      exact handleHeartbeat_other s msg _ now sent fun id record about => own id record about ▸ other.symm
    | detection => exact enqueueDetection_other w s msg _ now queue_elsewhere
    | bare => exact putFrame_other w s _ _ queue_elsewhere
    | other => rfl
  | null | bool _ | int _ | float _ | str _ | list _ => rfl

theorem goesBy_after (w : Listener) (s : Server q) (conn : Conn) (msg : Json) (now : Clock) (sent : Bool)
    (open_ : conn.ended = false) (named : conn.nodeId = .str n) (own : NamesOwnNode n s conn msg) :
    GoesBy n (handleMessage w s conn msg now sent).conn := by
  rcases handleMessage_nodeId w s conn msg now sent with kept | ⟨fields, rfl, ⟨kind, handled⟩ | ⟨kind, name⟩⟩
  · exact .inl (kept.trans named)
  · simp only [NamesOwnNode, kind] at own
    rw [handled]
    cases given : helloName conn fields with
    | str id => exact .inl (by rw [handleHello_nodeId, given, own id given])
    | null | bool _ | int _ | float _ | list _ | dict _ =>
      refine .inr ⟨?_, by simp [handleHello_nodeId, given]⟩
      rw [← Bool.not_eq_false]
      intro stays
      obtain ⟨id, text⟩ := helloOutcome_accepted_str ((handleHello_ended w s conn fields open_).mp stays)
      rw [given] at text
      cases text
  · refine .inl ?_
    rw [name, configName_of_named conn fields (by rw [named]; exact Json.noConfusion), named]

/-- An event of the connection changes nothing the other server could differ in. -/
theorem AgreeOff.own_event {w : Listener} {net net' : Net q} (agree : AgreeOff c n net net') (nonempty : n ≠ "")
    (e : Event q) (mine : ofConn c e = true) (held : Confined c n net' e) : AgreeOff c n net (step w net' e) := by
  cases e with
  | opened d peer => exact absurd (Option.some.inj (of_decide_eq_true mine)) held
  | queue step => exact absurd (of_decide_eq_true mine) (by simp [Event.conn])
  | closed d now =>
    obtain rfl : d = c := Option.some.inj (of_decide_eq_true mine)
    simp only [step]
    cases found : net'.conns.get? d with
    | none => exact agree
    | some conn =>
      refine ⟨fun m other => ?_, fun e other => ?_, agree.own, fun conn' found' => ?_⟩
      · have elsewhere : conn.nodeId ≠ .str m := by
          rcases agree.own' conn found with named | ⟨-, unnamed⟩
          · rw [named]
            exact fun same => other (Json.str.inj same).symm
          · exact unnamed m
        rw [agree.views m other, finish_other net'.server conn now elsewhere]
      · simp only [agree.conns e other, Dict.get?_erase_ne _ (Ne.symm other)]
      · simp only [Dict.get?_erase, if_true] at found'
        cases found'
  | received d msg now sent =>
    obtain rfl : d = c := Option.some.inj (of_decide_eq_true mine)
    simp only [step]
    cases found : net'.conns.get? d with
    | none => exact agree
    | some conn =>
      simp only
      split
      · exact agree
      · rename_i stays
        rw [Bool.not_eq_true] at stays
        have own := held conn found stays
        rw [if_pos rfl] at own
        have named : conn.nodeId = .str n := by
          rcases agree.own' conn found with named | ⟨ended, -⟩
          · exact named
          · rw [stays] at ended
            cases ended
        refine ⟨fun m other => ?_, fun e other => ?_, agree.own, fun conn' found' => ?_⟩
        · rw [agree.views m other, handleMessage_other w net'.server conn msg now sent nonempty named own other]
        · rw [agree.conns e other, Dict.get?_insert_ne _ _ (Ne.symm other)]
        · rw [Dict.get?_insert, if_pos rfl] at found'
          obtain rfl := Option.some.inj found'
          exact goesBy_after w net'.server conn msg now sent stays named own

/-! ### Everybody else's messages -/

theorem handleMessage_same {w : Listener} (reads : ReadsOwnKey w) {s s' : Server q} (conn : Conn) (msg : Json)
    (now : Clock) (sent : Bool) (alike : HeardAlike n s conn sent msg) (alike' : HeardAlike n s' conn sent msg)
    (same : viewOf s m = viewOf s' m) :
    viewOf (handleMessage w s conn msg now sent).server m = viewOf (handleMessage w s' conn msg now sent).server m := by
  cases msg with
  | dict msg =>
    simp only [HeardAlike] at alike alike'
    simp only [handleMessage]
    cases kind : kindOf msg with
    | hello => simpa only [handleHello_server] using same
    | config => exact handleConfig_same w msg _ conn.peer now sent same
    | registerKey => exact handleRegisterKey_same w msg _ now sent same
    | chainEntry => exact handleChainEntry_same reads msg _ now sent same
    | iqCommitment => exact handleIqCommitment_same msg _ now sent same
    | heartbeat => exact handleHeartbeat_same msg _ now sent same
    | detection =>
      rw [kind] at alike alike'
      exact enqueueDetection_same w msg _ now same alike alike'
    | bare =>
      rw [kind] at alike alike'
      exact putFrame_same w _ _ same alike alike'
    | other => exact same
  | null | bool _ | int _ | float _ | str _ | list _ => exact same

theorem handleMessage_conn (w : Listener) {s s' : Server q} (conn : Conn) (msg : Json) (now : Clock) (sent : Bool)
    (alike : HeardAlike n s conn sent msg) (alike' : HeardAlike n s' conn sent msg)
    (same : ∀ m, m ≠ n → viewOf s m = viewOf s' m) :
    (handleMessage w s conn msg now sent).conn = (handleMessage w s' conn msg now sent).conn := by
  cases msg with
  | dict msg =>
    simp only [HeardAlike] at alike alike'
    simp only [handleMessage]
    cases kind : kindOf msg with
    | hello =>
      simp only [handleHello]
      cases helloOutcome w.token msg (helloName conn msg) <;> rfl
    | config => simp only [Handled.onConn, handleConfig_ended w s s']
    | registerKey => simp only [Handled.onConn, handleRegisterKey_ended w s s']
    | chainEntry => simp only [Handled.onConn, handleChainEntry_ended w s s']
    | iqCommitment => simp only [Handled.onConn, handleIqCommitment_ended s s']
    | heartbeat =>
      rw [kind] at alike alike'
      simp only [Handled.onConn, handleHeartbeat_ended msg conn.nodeId now sent n same alike alike']
    | detection => simp only [Handled.onConn, enqueueDetection_ended w s s']
    | bare | other => rfl
  | null | bool _ | int _ | float _ | str _ | list _ => rfl

/-- What happens to the entry of another connection leaves the entry of `c` on each server as it was. -/
theorem AgreeOff.elsewhere {net net' : Net q} {s s' : Server q} {conns conns' : Dict Nat Conn}
    (agree : AgreeOff c n net net') (views : ∀ m, m ≠ n → viewOf s m = viewOf s' m)
    (others : ∀ e, e ≠ c → conns.get? e = conns'.get? e) (kept : conns.get? c = net.conns.get? c)
    (kept' : conns'.get? c = net'.conns.get? c) :
    AgreeOff c n { server := s, conns := conns } { server := s', conns := conns' } :=
  ⟨views, others, fun conn found => agree.own conn (kept.symm.trans found),
    fun conn found => agree.own' conn (kept'.symm.trans found)⟩

theorem AgreeOff.other_event {w : Listener} (reads : ReadsOwnKey w) {net net' : Net q} (agree : AgreeOff c n net net')
    (e : Event q) (others : ofConn c e = false) (held : Confined c n net e) (held' : Confined c n net' e) :
    AgreeOff c n (step w net e) (step w net' e) := by
  cases e with
  | queue step =>
    refine ⟨fun m other => ?_, agree.conns, agree.own, agree.own'⟩
    have same := agree.views m other
    simp only [viewOf, NodeView.mk.injEq] at same
    cases step with
    | put item =>
      have room : Frames.full q net.server.frameQueue.shards = false := held
      have room' : Frames.full q net'.server.frameQueue.shards = false := held'
      simp only [Tcp.step, viewOf, accepted_put, room, room', Bool.false_eq_true, if_false, List.filter_append, same]
    | get worker => simp only [Tcp.step, viewOf, accepted_get, same]
    | complete worker => simp only [Tcp.step, viewOf, ingressStep, same]
    | drain => simp only [Tcp.step, viewOf, accepted_drain, same]
  | opened d peer =>
    have theirs : d ≠ c := held
    have conns := agree.conns d theirs
    simp only [step, conns]
    split
    · exact agree
    · refine agree.elsewhere agree.views (fun e other => ?_) (Dict.get?_insert_ne _ _ theirs)
        (Dict.get?_insert_ne _ _ theirs)
      simp only [Dict.get?_insert, agree.conns e other]
  | closed d now =>
    have theirs : d ≠ c := fun mine => of_decide_eq_false others (congrArg some mine)
    have conns := agree.conns d theirs
    simp only [step, conns]
    cases net'.conns.get? d with
    | none => exact agree
    | some conn =>
      refine agree.elsewhere (fun m other => finish_same conn now (agree.views m other)) (fun e other => ?_)
        (Dict.get?_erase_ne _ theirs) (Dict.get?_erase_ne _ theirs)
      simp only [Dict.get?_erase, agree.conns e other]
  | received d msg now sent =>
    have theirs : d ≠ c := fun mine => of_decide_eq_false others (congrArg some mine)
    have conns := agree.conns d theirs
    simp only [step, conns]
    cases found : net'.conns.get? d with
    | none => exact agree
    | some conn =>
      simp only
      split
      · exact agree
      · rename_i stays
        rw [Bool.not_eq_true] at stays
        have alike := held conn (conns.trans found) stays
        have alike' := held' conn found stays
        rw [if_neg theirs] at alike alike'
        have answered := handleMessage_conn w conn msg now sent alike alike' agree.views
        refine agree.elsewhere
          (fun m other => handleMessage_same reads conn msg now sent alike alike' (agree.views m other))
          (fun e other => ?_) (Dict.get?_insert_ne _ _ theirs) (Dict.get?_insert_ne _ _ theirs)
        simp only [Dict.get?_insert, answered, agree.conns e other]

/-! ### Runs -/

/-- Two servers that hear the same from everybody but connection `c` agree on every node but its own, whatever it
sends under that node's name; with nobody else heard, nothing of the other nodes changes. -/
theorem connection_confined {w : Listener} (reads : ReadsOwnKey w) (nonempty : n ≠ "") (net : Net q)
    (own : ∀ conn, net.conns.get? c = some conn → conn.nodeId = .str n) (events events' : List (Event q))
    (held : Along (step w) (Confined c n) net events) (held' : Along (step w) (Confined c n) net events') :
    (rest (ofConn c) events = rest (ofConn c) events' →
      ∀ m, m ≠ n → viewOf (run (step w) net events).server m = viewOf (run (step w) net events').server m) ∧
    ((∀ e ∈ events, ofConn c e = true) →
      ∀ m, m ≠ n → viewOf (run (step w) net events).server m = viewOf net.server m) := by
  have start : AgreeOff c n net net :=
    ⟨fun _ _ => rfl, fun _ _ => rfl, fun conn found => .inl (own conn found), fun conn found => .inl (own conn found)⟩
  constructor
  · intro same
    exact (related_of_same_rest (fun _ _ agree => agree.symm)
      (fun _ _ e agree mine allowed => agree.own_event nonempty e mine allowed)
      (fun _ _ e agree theirs allowed allowed' => agree.other_event reads e theirs allowed allowed')
      start held held' same).views
  · intro alone m other
    exact ((absorb (fun _ _ e agree mine allowed => agree.own_event nonempty e mine allowed)
      start held alone).views m other).symm

end

/-- Two connections, each with its HELLO. -/
def greetedEvents : List (Event twoShards) :=
  [.opened 1 "first", .received 1 (helloMsg "ret1a2b3c4d" "s3cret") noon true,
   .opened 2 "second", .received 2 (helloMsg "ret0badcafe" "s3cret") noon true]

def greetedNet : Net twoShards := run (step guardedListener) { server := Server.empty, conns := Dict.empty } greetedEvents

theorem registerKey_names (conn : Conn) (s : Server twoShards) :
    NamesOwnNode "ret1a2b3c4d" s conn (registerKeyMsg "ret1a2b3c4d") := by
  have keyed : keyNode [("type", .str "REGISTER_KEY"), ("node_id", .str "ret1a2b3c4d"),
      ("public_key_pem", .str "pem"), ("fingerprint", .str "f0")] conn.nodeId = some (.text "ret1a2b3c4d") := by rfl
  intro key found
  exact (Option.some.inj (keyed.symm.trans found)).symm

theorem connection_confined_keys :
    viewOf (run (step guardedListener) greetedNet [.received 1 (registerKeyMsg "ret1a2b3c4d") noon true]).server
      "ret0badcafe" = viewOf greetedNet.server "ret0badcafe" :=
  (connection_confined (w := guardedListener) (n := "ret1a2b3c4d") (c := 1) (fun _ _ _ _ => rfl) (by decide) greetedNet
    (fun conn found => by obtain rfl := Option.some.inj found; rfl)
    [.received 1 (registerKeyMsg "ret1a2b3c4d") noon true] []
    ⟨fun conn _ _ => by rw [if_pos rfl]; exact registerKey_names conn _, trivial⟩ trivial).2
    (by decide) "ret0badcafe" (by decide)

/-- The connection of one node registers a key for another. -/
theorem key_registered_for_other :
    ¬ ∀ events : List (Event twoShards), (∀ e ∈ events, ofConn 1 e = true) → ∀ m, m ≠ "ret1a2b3c4d" →
      viewOf (run (step guardedListener) greetedNet events).server m = viewOf greetedNet.server m := by
  intro confined
  have unchanged := confined [.received 1 (registerKeyMsg "ret0badcafe") noon true] (by decide) "ret0badcafe" (by decide)
  have keys := congrArg (fun v => v.identity.isSome) unchanged
  exact absurd keys (by decide +kernel)

end Retina.Tcp
