import RetinaServer.Tcp.Connection

/-! A node's status under several connections of its name: when it says that the
node is disconnected although one of them is open and configured. -/
namespace Retina.Tcp
open OrderedDict Runs
open Frames (QueueShape)

section
variable {q : QueueShape}

/-- The connection is open, goes by the node's name and has an accepted CONFIG for it. -/
def Attends (t : Traced q) (c : Nat) (n : String) : Prop :=
  ∃ conn, t.net.conns.get? c = some conn ∧ conn.ended = false ∧ conn.nodeId = .str n ∧ (c, n) ∈ t.configured

/-- The record neither reads disconnected nor carries the time of a disconnection. -/
def Standing (record : Fields) : Prop := isDisconnected record = false ∧ lookup "disconnected_ts" record = none

/-- No node that a connection attends is marked. -/
def Lifecycle (t : Traced q) : Prop :=
  ∀ n record, t.net.server.connectedNodes.get? n = some record → (∃ c, Attends t c n) → Standing record

/-- A close leaves no other connection that attends the node, a heartbeat says "disconnected" of no attended
node, and no HELLO goes back to the name of a node that was marked meanwhile. -/
def KeepsAttended (w : Listener) (t : Traced q) : Event q → Prop
  | .closed c _ => ∀ conn n, t.net.conns.get? c = some conn → conn.nodeId = .str n → n ≠ "" →
      (t.net.server.connectedNodes.get? n).isSome = true → ∀ d, d ≠ c → ¬ Attends t d n
  | .received c (.dict msg) _ sent => ∀ conn, t.net.conns.get? c = some conn → conn.ended = false →
      (kindOf msg = .heartbeat → ∀ n record, heartbeatNode t.net.server msg conn.nodeId = some (n, record) →
        Json.eqv (.str "disconnected") (get msg "status" (.str "active")) = true →
        ∀ d, Attends t d n → d = c ∧ heartbeatEnds record msg sent = true) ∧
      (kindOf msg = .hello → ∀ n, helloName conn msg = .str n →
        helloOutcome w.token msg (helloName conn msg) = .accepted → (c, n) ∈ t.configured →
        ∀ record, t.net.server.connectedNodes.get? n = some record → Standing record)
  | _ => True

/-! ### Records -/

theorem not_standing_finished (record : Fields) (now : Clock) : ¬ Standing (finishedRecord record now) := by
  rintro ⟨-, unstamped⟩
  rw [finishedRecord, lookup_put, if_pos rfl] at unstamped
  cases unstamped

theorem standing_configRecord (w : Listener) (known msg : Fields) (nodeId peer : String) (now : Clock) :
    Standing (configRecord w known msg nodeId peer now) := by
  constructor
  · simp [isDisconnected, statusOf, get, configRecord, lookup, Json.eqv]
  · simp [configRecord, lookup]

theorem statusOf_heartbeatRecord (record msg : Fields) (now : Clock) :
    statusOf (heartbeatRecord record msg now) = get msg "status" (.str "active") := by
  rw [statusOf, heartbeatRecord, get_put, if_pos rfl]

/-- A heartbeat neither stamps a record nor takes a stamp away. -/
theorem standing_heartbeatRecord (record msg : Fields) (now : Clock) :
    Standing (heartbeatRecord record msg now) ↔
      Json.eqv (.str "disconnected") (get msg "status" (.str "active")) = false ∧
        lookup "disconnected_ts" record = none := by
  rw [Standing, isDisconnected, statusOf_heartbeatRecord, heartbeatRecord, lookup_put, lookup_put,
    if_neg (by decide), if_neg (by decide)]

/-! ### One step -/

/-- A connection something was configured on is known, and has a name while it is open. -/
def Named (t : Traced q) : Prop :=
  ∀ c n, (c, n) ∈ t.configured → ∃ conn, t.net.conns.get? c = some conn ∧ (conn.ended = false → conn.nodeId ≠ .null)

/-- Connections may leave and records stay as they are. -/
theorem Lifecycle.of_fewer {t t' : Traced q} (held : Lifecycle t)
    (records : t'.net.server.connectedNodes = t.net.server.connectedNodes)
    (fewer : ∀ c n, Attends t' c n → Attends t c n) : Lifecycle t' := by
  rintro n record found ⟨c, attends⟩
  rw [records] at found
  exact held n record found ⟨c, fewer c n attends⟩

section
variable {w : Listener} {t : Traced q}

theorem attends_opened (c : Nat) (peer : String) (d : Nat) (n : String)
    (attends : Attends (traceStep w t (.opened c peer)) d n) : Attends t d n := by
  obtain ⟨conn, found, open_, named, configured⟩ := attends
  simp only [traceStep, step, configures, Option.toList_none, List.nil_append] at found configured
  split at found
  · exact ⟨conn, found, open_, named, configured⟩
  · rw [Dict.get?_insert] at found
    split at found
    · obtain rfl := Option.some.inj found
      cases named
    · exact ⟨conn, found, open_, named, configured⟩

theorem attends_closed (c : Nat) (now : Clock) (d : Nat) (n : String) :
    Attends (traceStep w t (.closed c now)) d n ↔ d ≠ c ∧ Attends t d n := by
  have conns : (traceStep w t (.closed c now)).net.conns.get? d =
      if d = c then none else t.net.conns.get? d := by
    simp only [traceStep, step]
    cases found : t.net.conns.get? c with
    | none =>
      by_cases same : d = c
      · rw [if_pos same, same, found]
      · rw [if_neg same]
    | some conn =>
      simp only [Dict.get?_erase]
      by_cases same : d = c
      · rw [if_pos same, if_pos same.symm]
      · rw [if_neg same, if_neg (Ne.symm same)]
  simp only [Attends, conns]
  by_cases same : d = c
  · simp [same]
  · simp [traceStep, same]

/-- After a message, its own connection attends by what the handler left, the others as before. -/
theorem attends_received (found : t.net.conns.get? c = some conn) (open_ : conn.ended = false) (msg : Json)
    (now : Clock) (sent : Bool) (d : Nat) (n : String) :
    Attends (traceStep w t (.received c msg now sent)) d n ↔
      (d ≠ c ∧ Attends t d n) ∨
      (d = c ∧ (handleMessage w t.net.server conn msg now sent).conn.ended = false ∧
        (handleMessage w t.net.server conn msg now sent).conn.nodeId = .str n ∧
        ((c, n) ∈ t.configured ∨ configures w t.net (.received c msg now sent) = some (c, n))) := by
  have own (b : Nat) (m : String) (here : configures w t.net (.received c msg now sent) = some (b, m)) : b = c := by
    obtain ⟨fields, now', sent', conn', same, -⟩ := configures_eq_some w t.net _ here
    exact (Event.received.inj same).1.symm
  by_cases same : d = c
  · subst same
    simp only [Attends, traceStep, step, found, open_, Bool.false_eq_true, if_false, Dict.get?_insert, if_true,
      Option.some.injEq, exists_eq_left', List.mem_append, Option.mem_toList, ne_eq, not_true_eq_false, false_and,
      true_and, false_or]
    tauto
  · have other : configures w t.net (.received c msg now sent) ≠ some (d, n) := fun here => same (own d n here)
    simp only [Attends, traceStep, step, found, open_, Bool.false_eq_true, if_false, Dict.get?_insert,
      if_neg (Ne.symm same), List.mem_append, Option.mem_toList, other, false_or, ne_eq, same, not_false_eq_true,
      true_and, false_and, or_false]

theorem configures_eq_none (other : kindOf msg ≠ .config) (now : Clock) (sent : Bool) :
    configures w t.net (.received c (.dict msg) now sent) = none := by
  simp only [configures]
  split
  · rfl
  · split
    · rename_i kind _ _
      exact absurd kind other
    · rfl

/-- A message that renames nobody and writes no record leaves every attended node as it was. -/
theorem Lifecycle.of_kept (held : Lifecycle t) (found : t.net.conns.get? c = some conn) (open_ : conn.ended = false)
    (records : (handleMessage w t.net.server conn msg now sent).server.connectedNodes = t.net.server.connectedNodes)
    (name : (handleMessage w t.net.server conn msg now sent).conn.nodeId = conn.nodeId)
    (unconfigured : configures w t.net (.received c msg now sent) = none) :
    Lifecycle (traceStep w t (.received c msg now sent)) := by
  refine held.of_fewer ?_ fun d n attends => ?_
  · simpa only [traceStep, step, found, open_, Bool.false_eq_true, if_false] using records
  · rcases (attends_received found open_ msg now sent d n).mp attends with ⟨-, before⟩ | ⟨rfl, -, named, configured⟩
    · exact before
    · rw [name] at named
      rw [unconfigured] at configured
      exact ⟨conn, found, open_, named, configured.resolve_right (Option.some_ne_none _).symm⟩

theorem records_received (found : t.net.conns.get? c = some conn) (open_ : conn.ended = false) (msg : Json)
    (now : Clock) (sent : Bool) :
    (traceStep w t (.received c msg now sent)).net.server = (handleMessage w t.net.server conn msg now sent).server := by
  simp only [traceStep, step, found, open_, Bool.false_eq_true, if_false]

theorem hello_iff (held : Lifecycle t) (found : t.net.conns.get? c = some conn) (open_ : conn.ended = false)
    (kind : kindOf msg = .hello) (now : Clock) (sent : Bool) :
    KeepsAttended w t (.received c (.dict msg) now sent) ↔
      Lifecycle (traceStep w t (.received c (.dict msg) now sent)) := by
  have handled : handleMessage w t.net.server conn (.dict msg) now sent = handleHello w t.net.server conn msg := by
    simp only [handleMessage, kind]
  have server : (traceStep w t (.received c (.dict msg) now sent)).net.server = t.net.server := by
    rw [records_received found open_, handled, handleHello_server]
  have unconfigured := configures_eq_none (w := w) (t := t) (c := c) (by rw [kind]; decide) now sent
  have attends := attends_received (w := w) found open_ (.dict msg) now sent
  simp only [handled, handleHello_nodeId, handleHello_ended w _ conn msg open_, unconfigured, reduceCtorEq,
    or_false] at attends
  constructor
  · rintro keeps n record present ⟨d, attended⟩
    rw [server] at present
    rcases (attends d n).mp attended with ⟨-, before⟩ | ⟨-, accepted, named, configured⟩
    · exact held n record present ⟨d, before⟩
    · exact (keeps conn found open_).2 kind n named accepted configured record present
  · intro after conn' found' open_'
    obtain rfl := Option.some.inj (found'.symm.trans found)
    refine ⟨fun heartbeat => absurd (kind.symm.trans heartbeat) (by decide), ?_⟩
    intro _ n named accepted configured record present
    exact after n record (server ▸ present) ⟨c, (attends c n).mpr (.inr ⟨rfl, accepted, named, configured⟩)⟩

/-- A heartbeat renames nobody: its connection attends as before, unless it ends. -/
theorem attends_heartbeat (found : t.net.conns.get? c = some conn) (open_ : conn.ended = false)
    (kind : kindOf msg = .heartbeat) (about : heartbeatNode t.net.server msg conn.nodeId = some (n, record))
    (now : Clock) (sent : Bool) (d : Nat) (m : String) :
    Attends (traceStep w t (.received c (.dict msg) now sent)) d m ↔
      Attends t d m ∧ (d = c → heartbeatEnds record msg sent = false) := by
  have handled : handleMessage w t.net.server conn (.dict msg) now sent =
      (handleHeartbeat t.net.server msg conn.nodeId now sent).onConn conn := by
    simp only [handleMessage, kind]
  have unconfigured := configures_eq_none (w := w) (t := t) (c := c) (by rw [kind]; decide) now sent
  rw [attends_received found open_, handled]
  simp only [Handled.onConn, (handleHeartbeat_of_some t.net.server msg conn.nodeId now sent about).2, unconfigured,
    reduceCtorEq, or_false]
  by_cases same : d = c
  · subst same
    simp only [ne_eq, not_true_eq_false, false_and, true_and, false_or, forall_const]
    constructor
    · rintro ⟨stays, named, configured⟩
      exact ⟨⟨conn, found, open_, named, configured⟩, stays⟩
    · rintro ⟨⟨own, found_own, -, named, configured⟩, stays⟩
      obtain rfl := Option.some.inj (found_own.symm.trans found)
      exact ⟨stays, named, configured⟩
  · simp only [ne_eq, same, not_false_eq_true, true_and, false_and, or_false, false_implies, and_true]

theorem records_heartbeat (found : t.net.conns.get? c = some conn) (open_ : conn.ended = false)
    (kind : kindOf msg = .heartbeat) (about : heartbeatNode t.net.server msg conn.nodeId = some (n, record))
    (now : Clock) (sent : Bool) (m : String) :
    (traceStep w t (.received c (.dict msg) now sent)).net.server.connectedNodes.get? m =
      if n = m then some (heartbeatRecord record msg now) else t.net.server.connectedNodes.get? m := by
  have handled : handleMessage w t.net.server conn (.dict msg) now sent =
      (handleHeartbeat t.net.server msg conn.nodeId now sent).onConn conn := by
    simp only [handleMessage, kind]
  rw [records_received found open_, handled]
  simp only [Handled.onConn, (handleHeartbeat_of_some t.net.server msg conn.nodeId now sent about).1,
    Dict.get?_insert]

theorem heartbeat_iff (held : Lifecycle t) (found : t.net.conns.get? c = some conn) (open_ : conn.ended = false)
    (kind : kindOf msg = .heartbeat) (now : Clock) (sent : Bool) :
    KeepsAttended w t (.received c (.dict msg) now sent) ↔
      Lifecycle (traceStep w t (.received c (.dict msg) now sent)) := by
  cases about : heartbeatNode t.net.server msg conn.nodeId with
  | none =>
    have handled : handleMessage w t.net.server conn (.dict msg) now sent =
        (handleHeartbeat t.net.server msg conn.nodeId now sent).onConn conn := by
      simp only [handleMessage, kind]
    have records := handleHeartbeat_server_of_none t.net.server msg conn.nodeId now sent about
    have unconfigured := configures_eq_none (w := w) (t := t) (c := c) (by rw [kind]; decide) now sent
    refine iff_of_true ?_ (held.of_kept found open_ (by rw [handled]; exact congrArg _ records)
      (by rw [handled]; rfl) unconfigured)
    intro conn' found' _
    obtain rfl := Option.some.inj (found'.symm.trans found)
    refine ⟨fun _ n record some_node => ?_, fun hello => absurd (kind.symm.trans hello) (by decide)⟩
    rw [about] at some_node
    cases some_node
  | some node =>
    obtain ⟨n, record⟩ := node
    have present := (heartbeatNode_record about).2
    have attends := attends_heartbeat (w := w) found open_ kind about now sent
    have records := records_heartbeat (w := w) found open_ kind about now sent
    constructor
    · rintro keeps m record' found' ⟨d, attended⟩
      -- Whoever attends afterwards did so before.
      obtain ⟨before, stays⟩ := (attends d m).mp attended
      rw [records] at found'
      split at found'
      · rename_i same
        subst same
        obtain rfl := Option.some.inj found'
        rw [standing_heartbeatRecord]
        refine ⟨?_, (held n record present ⟨d, before⟩).2⟩
        rw [Bool.eq_false_iff]
        intro marked
        obtain ⟨same, gone⟩ := (keeps conn found open_).1 kind n record about marked d before
        rw [stays same] at gone
        cases gone
      · exact held m record' found' ⟨d, before⟩
    · intro after conn' found' open_'
      obtain rfl := Option.some.inj (found'.symm.trans found)
      refine ⟨?_, fun hello => absurd (kind.symm.trans hello) (by decide)⟩
      intro _ m record' about' marked d attended
      rw [about] at about'
      obtain ⟨rfl, rfl⟩ := Prod.mk.inj (Option.some.inj about')
      by_contra remains
      have still : Attends (traceStep w t (.received c (.dict msg) now sent)) d n :=
        (attends d n).mpr ⟨attended, fun same => Bool.eq_false_iff.mpr fun gone => remains ⟨same, gone⟩⟩
      have standing := after n (heartbeatRecord record msg now) (by rw [records, if_pos rfl]) ⟨d, still⟩
      rw [standing_heartbeatRecord, marked] at standing
      cases standing.1

/-- A configuration that is taken writes a record without a mark. -/
theorem Lifecycle.config (held : Lifecycle t) (known : Named t) (found : t.net.conns.get? c = some conn)
    (open_ : conn.ended = false) (kind : kindOf msg = .config) (now : Clock) (sent : Bool) :
    Lifecycle (traceStep w t (.received c (.dict msg) now sent)) := by
  have handled : handleMessage w t.net.server conn (.dict msg) now sent =
      (handleConfig w t.net.server msg (configName conn msg) conn.peer now sent).onConn
        { conn with nodeId := configName conn msg } := by
    simp only [handleMessage, kind]
  have attends := attends_received (w := w) found open_ (.dict msg) now sent
  -- A connection something was configured on keeps its name.
  have keeps_name (n : String) (configured : (c, n) ∈ t.configured) : configName conn msg = conn.nodeId := by
    obtain ⟨conn', found', named⟩ := known c n configured
    obtain rfl := Option.some.inj (found'.symm.trans found)
    exact configName_of_named conn' msg (named open_)
  by_cases taken : ∃ id, validateNodeConfig w.text (get msg "config" (.dict [])) = .accepted ∧
      configName conn msg = .str id
  · obtain ⟨id, accepted, name⟩ := taken
    have configured_now : configures w t.net (.received c (.dict msg) now sent) = some (c, id) := by
      simp only [configures, found, open_, kind, accepted, name]
    rintro m record present ⟨d, attended⟩
    rw [records_received found open_, handled, name] at present
    simp only [Handled.onConn, handleConfig_of_accepted w t.net.server msg id conn.peer now sent accepted,
      Dict.get?_insert] at present
    split at present
    · obtain rfl := Option.some.inj present
      exact standing_configRecord w _ msg id conn.peer now
    · rename_i other
      rcases (attends d m).mp attended with ⟨-, before⟩ | ⟨-, -, named, -⟩
      · exact held m record present ⟨d, before⟩
      · rw [handled] at named
        exact absurd (Json.str.inj (name.symm.trans named)) other
  · have refused : ∀ id, validateNodeConfig w.text (get msg "config" (.dict [])) = .accepted →
        configName conn msg ≠ .str id := fun id accepted name => taken ⟨id, accepted, name⟩
    have unconfigured : configures w t.net (.received c (.dict msg) now sent) = none := by
      simp only [configures, found]
      split
      · rename_i id _ _ accepted name
        exact absurd name (refused id accepted)
      · rfl
    refine held.of_fewer ?_ fun d n attended => ?_
    · rw [records_received found open_, handled]
      simp only [Handled.onConn, handleConfig_server_of_refused w t.net.server msg _ conn.peer now sent refused]
    · rcases (attends d n).mp attended with ⟨-, before⟩ | ⟨rfl, -, named, configured⟩
      · exact before
      · rw [unconfigured] at configured
        have own := configured.resolve_right (Option.some_ne_none _).symm
        rw [handled] at named
        exact ⟨conn, found, open_, (keeps_name n own).symm.trans named, own⟩

theorem closed_iff (held : Lifecycle t) (c : Nat) (now : Clock) :
    KeepsAttended w t (.closed c now) ↔ Lifecycle (traceStep w t (.closed c now)) := by
  have records (n : String) : (traceStep w t (.closed c now)).net.server.connectedNodes.get? n =
      ((t.net.conns.get? c).elim t.net.server fun conn => finish t.net.server conn now).connectedNodes.get? n := by
    simp only [traceStep, step]
    cases t.net.conns.get? c <;> rfl
  constructor
  · rintro keeps n record present ⟨d, attended⟩
    obtain ⟨other, before⟩ := (attends_closed c now d n).mp attended
    rw [records] at present
    cases found : t.net.conns.get? c with
    | none =>
      rw [found] at present
      exact held n record present ⟨d, before⟩
    | some conn =>
      simp only [found, Option.elim_some, finish] at present
      split at present
      · rename_i id name
        split at present
        · exact held n record present ⟨d, before⟩
        · rename_i nonempty
          split at present
          · exact held n record present ⟨d, before⟩
          · rename_i record' known
            rw [Dict.get?_insert] at present
            split at present
            · rename_i same
              subst same
              exact absurd before (keeps conn id found name nonempty (by rw [known]; rfl) d other)
            · exact held n record present ⟨d, before⟩
      · exact held n record present ⟨d, before⟩
  · intro after conn n found name nonempty known d other attended
    obtain ⟨record, present⟩ := Option.isSome_iff_exists.mp known
    have marked : (traceStep w t (.closed c now)).net.server.connectedNodes.get? n =
        some (finishedRecord record now) := by
      rw [records, found]
      simp only [Option.elim_some, finish, name, if_neg nonempty, present, Dict.get?_insert, if_true]
    exact not_standing_finished record now
      (after n _ marked ⟨d, (attends_closed c now d n).mpr ⟨other, attended⟩⟩)

/-- Nothing comes of a message on a connection that is not open. -/
theorem received_unhandled (unhandled : ¬ ∃ conn, t.net.conns.get? c = some conn ∧ conn.ended = false) (msg : Json)
    (now : Clock) (sent : Bool) :
    step w t.net (.received c msg now sent) = t.net ∧ configures w t.net (.received c msg now sent) = none := by
  constructor
  · simp only [step]
    cases found : t.net.conns.get? c with
    | none => rfl
    | some conn =>
      have ended : conn.ended = true := by
        rw [← Bool.not_eq_false]
        exact fun open_ => unhandled ⟨conn, found, open_⟩
      simp only [ended, if_true]
  · rw [Option.eq_none_iff_forall_ne_some]
    rintro ⟨d, n⟩ accepted
    obtain ⟨fields, now', sent', conn, same, found, open_, -⟩ := configures_eq_some w t.net _ accepted
    obtain ⟨rfl, -⟩ := Event.received.inj same
    exact unhandled ⟨conn, found, open_⟩

theorem named_after (known : Named t) (found : t.net.conns.get? c = some conn) (open_ : conn.ended = false)
    (listed : configures w t.net (.received c msg now sent) = some (c, n) ∨ (c, n) ∈ t.configured)
    (stays : (handleMessage w t.net.server conn msg now sent).conn.ended = false) :
    (handleMessage w t.net.server conn msg now sent).conn.nodeId ≠ .null := by
  rcases handleMessage_nodeId w t.net.server conn msg now sent with
    kept | ⟨fields, rfl, ⟨-, handled⟩ | ⟨-, name⟩⟩
  · rw [kept]
    rcases listed with now_listed | before
    · obtain ⟨fields, now', sent', conn', same, found', -, kind, -, name⟩ := configures_eq_some w t.net _ now_listed
      obtain ⟨-, rfl, -, -⟩ := Event.received.inj same
      obtain rfl := Option.some.inj (found'.symm.trans found)
      have renamed : (handleMessage w t.net.server conn' (.dict fields) now sent).conn.nodeId = .str n := by
        simp only [handleMessage, kind, Handled.onConn, name]
      rw [← kept, renamed]
      exact Json.noConfusion
    · obtain ⟨conn', found', named⟩ := known c n before
      obtain rfl := Option.some.inj (found'.symm.trans found)
      exact named open_
  · rw [handled] at stays ⊢
    obtain ⟨id, text⟩ := helloOutcome_accepted_str ((handleHello_ended w _ conn fields open_).mp stays)
    rw [handleHello_nodeId, text]
    exact Json.noConfusion
  · rw [name]
    rcases listed with now_listed | before
    · obtain ⟨fields', now', sent', conn', same, found', -, -, -, named⟩ := configures_eq_some w t.net _ now_listed
      obtain ⟨-, same, -, -⟩ := Event.received.inj same
      obtain rfl := Json.dict.inj same
      obtain rfl := Option.some.inj (found'.symm.trans found)
      rw [named]
      exact Json.noConfusion
    · obtain ⟨conn', found', named⟩ := known c n before
      obtain rfl := Option.some.inj (found'.symm.trans found)
      rw [configName_of_named conn' fields (named open_)]
      exact named open_

/-- Whatever the event, what was configured belongs to a connection that is known. -/
theorem Named.step (known : Named t) (e : Event q) : Named (traceStep w t e) := by
  intro c n listed
  cases e with
  | opened d peer =>
    simp only [traceStep, configures, Option.toList_none, List.nil_append] at listed
    obtain ⟨conn, found, named⟩ := known c n listed
    simp only [traceStep, Tcp.step]
    split
    · exact ⟨conn, found, named⟩
    · rename_i fresh
      have other : d ≠ c := by
        rintro rfl
        exact fresh (by rw [found]; rfl)
      exact ⟨conn, by rw [Dict.get?_insert, if_neg other, found], named⟩
  | queue step =>
    simp only [traceStep, configures, Option.toList_none, List.nil_append] at listed
    exact known c n listed
  | closed d now =>
    simp only [traceStep, List.mem_filter, decide_eq_true_eq] at listed
    obtain ⟨conn, found, named⟩ := known c n listed.1
    simp only [traceStep, Tcp.step]
    cases t.net.conns.get? d with
    | none => exact ⟨conn, found, named⟩
    | some _ => exact ⟨conn, by simp only [Dict.get?_erase, if_neg (Ne.symm listed.2), found], named⟩
  | received d msg now sent =>
    simp only [traceStep, List.mem_append, Option.mem_toList] at listed
    by_cases handled : ∃ conn, t.net.conns.get? d = some conn ∧ conn.ended = false
    · obtain ⟨conn, found, open_⟩ := handled
      simp only [traceStep, Tcp.step, found, open_, Bool.false_eq_true, if_false, Dict.get?_insert]
      by_cases own : d = c
      · subst own
        rw [if_pos rfl]
        exact ⟨_, rfl, named_after known found open_ listed⟩
      · rw [if_neg own]
        rcases listed with now_listed | before
        · obtain ⟨fields, now', sent', conn', same, -⟩ := configures_eq_some w t.net _ now_listed
          exact absurd (Event.received.inj same).1 own
        · exact known c n before
    · obtain ⟨unchanged, unconfigured⟩ := received_unhandled (w := w) handled msg now sent
      simp only [traceStep, unchanged]
      rw [unconfigured] at listed
      exact known c n (listed.resolve_left (Option.some_ne_none _).symm)

/-- The step lemma: what an event may not do to an attended node, no more and no less. -/
theorem keepsAttended_iff (held : Lifecycle t) (known : Named t) (e : Event q) :
    KeepsAttended w t e ↔ Lifecycle (traceStep w t e) := by
  cases e with
  | opened c peer =>
    refine iff_of_true trivial (held.of_fewer ?_ fun d n => attends_opened c peer d n)
    simp only [traceStep, step]
    split <;> rfl
  | queue step => exact iff_of_true trivial held
  | closed c now => exact closed_iff held c now
  | received c msg now sent =>
    by_cases handled : ∃ conn, t.net.conns.get? c = some conn ∧ conn.ended = false
    · obtain ⟨conn, found, open_⟩ := handled
      cases msg with
      | dict msg =>
        have others (other : kindOf msg ≠ .hello) (other' : kindOf msg ≠ .heartbeat) :
            KeepsAttended w t (.received c (.dict msg) now sent) :=
          fun _ _ _ => ⟨fun heartbeat => absurd heartbeat other', fun hello => absurd hello other⟩
        cases kind : kindOf msg with
        | hello => exact hello_iff held found open_ kind now sent
        | heartbeat => exact heartbeat_iff held found open_ kind now sent
        | config =>
          exact iff_of_true (others (by rw [kind]; decide) (by rw [kind]; decide))
            (held.config known found open_ kind now sent)
        | registerKey | chainEntry | iqCommitment | detection | bare | other =>
          refine iff_of_true (others (by rw [kind]; decide) (by rw [kind]; decide)) (held.of_kept found open_ ?_ ?_
            (configures_eq_none (by rw [kind]; decide) now sent))
          · simp only [handleMessage, kind, Handled.onConn, handleRegisterKey_connectedNodes,
              handleChainEntry_connectedNodes, handleIqCommitment_connectedNodes, enqueueDetection_connectedNodes,
              putFrame]
          · simp only [handleMessage, kind, Handled.onConn]
      | null | bool _ | int _ | float _ | str _ | list _ =>
        exact iff_of_true trivial (held.of_kept found open_ rfl rfl rfl)
    · obtain ⟨unchanged, unconfigured⟩ := received_unhandled (w := w) handled msg now sent
      refine iff_of_true ?_ (held.of_fewer ?_ fun d n attended => ?_)
      · cases msg with
        | dict msg => exact fun conn found open_ => absurd ⟨conn, found, open_⟩ handled
        | null | bool _ | int _ | float _ | str _ | list _ => trivial
      · simp only [traceStep, unchanged]
      · simpa only [Attends, traceStep, unchanged, unconfigured, Option.toList_none, List.nil_append] using attended

end

/-- A node that an open, configured connection goes by is never marked disconnected, and never stamped, exactly
in the runs whose closes, heartbeats and HELLOs leave every attended node alone. -/
theorem attended_never_marked_iff (w : Listener) (server : Server q) (events : List (Event q)) :
    (∀ before after, events = before ++ after → Lifecycle (run (traceStep w) (Traced.start server) before)) ↔
      Along (traceStep w) (KeepsAttended w) (Traced.start server) events := by
  have exact_ (t : Traced q) (e : Event q) (held : Lifecycle t ∧ Named t) :
      KeepsAttended w t e ↔ Lifecycle (traceStep w t e) ∧ Named (traceStep w t e) := by
    rw [keepsAttended_iff held.1 held.2 e]
    exact (and_iff_left (held.2.step e)).symm
  have start : Lifecycle (Traced.start server) ∧ Named (Traced.start server) := by
    constructor
    · rintro n record - ⟨c, conn, found, -⟩
      cases found
    · intro c n listed
      cases listed
  rw [along_iff_invariant exact_ start events]
  constructor
  · intro held before after split
    exact ⟨held before after split, invariant_always (fun t e known => known.step e) start.2 before⟩
  · exact fun held before after split => (held before after split).1

end

/-- The node comes back on a second connection before the first is closed. -/
def reconnectEvents : List (Event twoShards) :=
  [.opened 1 "first", .received 1 (helloMsg "ret1a2b3c4d" "s3cret") noon true, .received 1 configMsg noon true,
   .opened 2 "second", .received 2 (helloMsg "ret1a2b3c4d" "s3cret") noon true, .received 2 configMsg noon true,
   .closed 1 noon]

/-- The close of the first marks the node, and the second is still open and configured. -/
theorem reconnected_node_marked :
    ¬ ∀ before after, reconnectEvents = before ++ after →
      Lifecycle (run (traceStep guardedListener) (Traced.start Server.empty) before) := by
  intro lifecycle
  have last := lifecycle reconnectEvents [] (List.append_nil _).symm
  have attended : Attends (run (traceStep guardedListener) (Traced.start Server.empty) reconnectEvents) 2
      "ret1a2b3c4d" := ⟨{ peer := "second", nodeId := .str "ret1a2b3c4d" }, by rfl, rfl, rfl, by decide +kernel⟩
  have marked : ∃ record, (run (traceStep guardedListener) (Traced.start Server.empty)
      reconnectEvents).net.server.connectedNodes.get? "ret1a2b3c4d" = some record ∧ isDisconnected record = true :=
    ⟨_, by rfl, by decide +kernel⟩
  obtain ⟨record, found, disconnected⟩ := marked
  have standing := (last _ record found ⟨2, attended⟩).1
  rw [disconnected] at standing
  cases standing

end Retina.Tcp
