import RetinaServer.Tcp.Custody
import RetinaServer.Library.Machines

/-! The node protocol's stores under a retirement. The identity, the chain and the
commitments of the node go; the key its signatures are checked against and the stamp
of its last frame stay, and act on whatever comes under its id afterwards. -/
namespace Retina.Retirement
open OrderedDict Machines Tcp
open Frames (QueueShape)

/-- A message on a connection, or the end of the connection. -/
inductive Arrival where
  | message (conn : Conn) (msg : Json) (now : Clock) (sent : Bool)
  | closed (conn : Conn) (now : Clock)

def Arrival.now : Arrival → Clock
  | .message _ _ now _ | .closed _ now => now

/-- What the peer and the counters see of a message. -/
structure Answer where
  replies : List Json
  conn : Conn
  rateLimited : Bool

section
variable {q : QueueShape} (w : Listener)

/-- The key's last frame came less than the interval ago. -/
def heldBack (stamps : Dict NodeKey ℚ) (key : NodeKey) (monotonic : ℚ) : Bool :=
  decide (monotonic - (stamps.get? key).getD 0 < w.minIntervalS)

/-- The message is a frame that counts as `node_frames_rate_limited`. -/
def rateLimited (s : Server q) (conn : Conn) (msg : Json) (now : Clock) : Bool :=
  match msg with
  | .dict msg => match kindOf msg, prepareFrame msg conn.nodeId with
    | .detection, .ready frame =>
        (extractPositions w s frame conn.nodeId now).2 && conn.nodeId.truthy &&
          conn.nodeId.hashKey.any fun key => heldBack w s.perNodeLastEnqueue key now.monotonic
    | _, _ => false
  | _ => false

def messages : Machine (Server q) Arrival Answer where
  step s
    | .message conn msg now sent => (handleMessage w s conn msg now sent).server
    | .closed conn now => finish s conn now
  shown s
    | .message conn msg now sent =>
        let got := handleMessage w s conn msg now sent
        ⟨got.replies, got.conn, rateLimited w s conn msg now⟩
    | .closed conn _ => ⟨[], { conn with ended := true }, false⟩

def forgetMessages (n : String) (s : Server q) : Server q := forgetNode s n true

/-- The server with nothing under the id, the key and the stamp included. -/
def unseenMessages (n : String) (s : Server q) : Server q :=
  { forgetNode s n true with
    verifierKeys := s.verifierKeys.erase (.text n)
    perNodeLastEnqueue := s.perNodeLastEnqueue.erase (.text n) }

/-- A stamp that holds no frame back from `now` on that a missing one would let through, nor the other way round. -/
def Lapsed (now last : ℚ) : Prop := last = 0 ∨ (last + w.minIntervalS ≤ now ∧ w.minIntervalS ≤ now)

instance (now last : ℚ) : Decidable (Lapsed w now last) := inferInstanceAs (Decidable (_ ∨ _))

/-- No key of the node's is left, and no stamp of its that still counts. -/
structure SpotlessMessages (now : ℚ) (n : String) (s : Server q) : Prop where
  key : s.verifierKeys.get? (.text n) = none
  stamp : ∀ last, s.perNodeLastEnqueue.get? (.text n) = some last → Lapsed w now last

/-- What the custody library does with keys: a text that is no key is refused for any node, and the holder of a key that
was taken can sign an entry, which is checked against the holder's key and passes under it alone. -/
structure Custodial : Prop where
  refuses : ∀ key, ∃ pem : Json, pem.truthy = true ∧ w.registers key pem = false
  signs : ∀ n pem, w.registers (.text n) pem = true → ∃ entry : Fields,
    (∀ keys, keys (.text n) = some pem → w.verifies keys entry = true) ∧
    (∀ keys, keys (.text n) = none → w.verifies keys entry = false) ∧ get entry "node_id" .null = .str n

/-- Every key in the store was taken by the verifier, and nothing is stored under an empty id. -/
structure SoundMessages (s : Server q) : Prop where
  accepted : ∀ key pem, s.verifierKeys.get? key = some pem → w.registers key pem = true
  keyNamed : s.verifierKeys.get? (.text "") = none
  stampNamed : s.perNodeLastEnqueue.get? (.text "") = none

/-! ### The stamps are read and written by the limit alone -/

def withStamps (s : Server q) (stamps : Dict NodeKey ℚ) : Server q := { s with perNodeLastEnqueue := stamps }

@[simp] theorem withStamps_perNodeLastEnqueue (s : Server q) (stamps : Dict NodeKey ℚ) :
    (withStamps s stamps).perNodeLastEnqueue = stamps := rfl

variable {w}

theorem handleHello_withStamps (s : Server q) (stamps : Dict NodeKey ℚ) (conn : Conn) (msg : Fields) :
    handleHello w (withStamps s stamps) conn msg =
      { handleHello w s conn msg with server := withStamps (handleHello w s conn msg).server stamps } := by
  simp only [handleHello]
  split <;> rfl

theorem handleConfig_withStamps (s : Server q) (stamps : Dict NodeKey ℚ) (msg : Fields) (nodeId : Json) (peer : String)
    (now : Clock) (sent : Bool) :
    handleConfig w (withStamps s stamps) msg nodeId peer now sent =
      { handleConfig w s msg nodeId peer now sent with
        server := withStamps (handleConfig w s msg nodeId peer now sent).server stamps } := by
  rw [handleConfig.eq_def, handleConfig.eq_def]
  split
  · rfl
  · simp only
    split
    · rfl
    · split <;> rfl
  · rfl

theorem handleRegisterKey_withStamps (s : Server q) (stamps : Dict NodeKey ℚ) (msg : Fields) (nodeId : Json)
    (now : Clock) (sent : Bool) :
    handleRegisterKey w (withStamps s stamps) msg nodeId now sent =
      { handleRegisterKey w s msg nodeId now sent with
        server := withStamps (handleRegisterKey w s msg nodeId now sent).server stamps } := by
  simp only [handleRegisterKey]
  cases keyNode msg nodeId with
  | none =>
    simp only
    split <;> rfl
  | some key =>
    simp only
    split
    · rfl
    · split <;> rfl

theorem handleChainEntry_withStamps (s : Server q) (stamps : Dict NodeKey ℚ) (msg : Fields) (nodeId : Json)
    (now : Clock) (sent : Bool) :
    handleChainEntry w (withStamps s stamps) msg nodeId now sent =
      { handleChainEntry w s msg nodeId now sent with
        server := withStamps (handleChainEntry w s msg nodeId now sent).server stamps } := by
  simp only [handleChainEntry]
  split
  · split
    · split <;> rfl
    · rfl
  · rfl

theorem handleIqCommitment_withStamps (s : Server q) (stamps : Dict NodeKey ℚ) (msg : Fields) (nodeId : Json)
    (now : Clock) (sent : Bool) :
    handleIqCommitment (withStamps s stamps) msg nodeId now sent =
      { handleIqCommitment s msg nodeId now sent with
        server := withStamps (handleIqCommitment s msg nodeId now sent).server stamps } := by
  simp only [handleIqCommitment]
  split
  · split
    · split <;> rfl
    · split <;> rfl
  · rfl

theorem handleHeartbeat_withStamps (s : Server q) (stamps : Dict NodeKey ℚ) (msg : Fields) (nodeId : Json)
    (now : Clock) (sent : Bool) :
    handleHeartbeat (withStamps s stamps) msg nodeId now sent =
      { handleHeartbeat s msg nodeId now sent with
        server := withStamps (handleHeartbeat s msg nodeId now sent).server stamps } := by
  have about : heartbeatNode (withStamps s stamps) msg nodeId = heartbeatNode s msg nodeId := rfl
  simp only [handleHeartbeat, about]
  split
  · split <;> rfl
  · split
    · split <;> rfl
    · rfl

theorem extractPositions_withStamps (s : Server q) (stamps : Dict NodeKey ℚ) (frame nodeId : Json) (now : Clock) :
    extractPositions w (withStamps s stamps) frame nodeId now =
      (withStamps (extractPositions w s frame nodeId now).1 stamps, (extractPositions w s frame nodeId now).2) := by
  cases frame with
  | dict fields =>
    have world : worldOf (withStamps s stamps) nodeId = worldOf s nodeId := by
      cases nodeId <;> rfl
    simp only [extractPositions]
    split
    · simp only [applySyntheticAdsb, world]
      split
      · rfl
      · split <;> rfl
    · rfl
  | null | bool _ | int _ | float _ | str _ | list _ => rfl

theorem finish_withStamps (s : Server q) (stamps : Dict NodeKey ℚ) (conn : Conn) (now : Clock) :
    finish (withStamps s stamps) conn now = withStamps (finish s conn now) stamps := by
  rw [finish.eq_def, finish.eq_def]
  split
  · split
    · rfl
    · simp only [withStamps]
      split <;> rfl
  · rfl

theorem finish_stamps (s : Server q) (conn : Conn) (now : Clock) :
    (finish s conn now).perNodeLastEnqueue = s.perNodeLastEnqueue := by
  have kept : finish s conn now = withStamps (finish s conn now) s.perNodeLastEnqueue :=
    finish_withStamps s s.perNodeLastEnqueue conn now
  rw [kept, withStamps_perNodeLastEnqueue]

/-- A message that is no frame does not look at the stamps. -/
theorem handleMessage_withStamps (s : Server q) (stamps : Dict NodeKey ℚ) (conn : Conn) (msg : Json) (now : Clock)
    (sent : Bool) (other : ∀ fields, msg = .dict fields → kindOf fields ≠ .detection) :
    handleMessage w (withStamps s stamps) conn msg now sent =
      { handleMessage w s conn msg now sent with
        server := withStamps (handleMessage w s conn msg now sent).server stamps } := by
  cases msg with
  | dict msg =>
    simp only [handleMessage]
    cases kind : kindOf msg with
    | hello => exact handleHello_withStamps s stamps conn msg
    | config =>
      simp only [handleConfig_withStamps]
      rfl
    | registerKey =>
      simp only [handleRegisterKey_withStamps]
      rfl
    | chainEntry =>
      simp only [handleChainEntry_withStamps]
      rfl
    | iqCommitment =>
      simp only [handleIqCommitment_withStamps]
      rfl
    | heartbeat =>
      simp only [handleHeartbeat_withStamps]
      rfl
    | detection => exact absurd kind (other msg rfl)
    | bare | other => rfl
  | null | bool _ | int _ | float _ | str _ | list _ => rfl

theorem handleMessage_stamps (s : Server q) (conn : Conn) (msg : Json) (now : Clock) (sent : Bool)
    (other : ∀ fields, msg = .dict fields → kindOf fields ≠ .detection) :
    (handleMessage w s conn msg now sent).server.perNodeLastEnqueue = s.perNodeLastEnqueue := by
  have kept := handleMessage_withStamps (w := w) s s.perNodeLastEnqueue conn msg now sent other
  exact congrArg (fun got => got.server.perNodeLastEnqueue) kept

/-! ### Stamps that decide alike -/

variable (w) in
/-- From `start` on the two stores hold the same frames back. -/
def SameDecisions (start : ℚ) (stamps stamps' : Dict NodeKey ℚ) : Prop :=
  ∀ key t, start ≤ t → heldBack w stamps key t = heldBack w stamps' key t

variable {start : ℚ}

theorem SameDecisions.insert (same : SameDecisions w start stamps stamps') (key : NodeKey) (t : ℚ) :
    SameDecisions w start (stamps.insert key t) (stamps'.insert key t) := by
  intro key' t' later
  have before := same key' t' later
  simp only [heldBack, Dict.get?_insert] at before ⊢
  split
  · rfl
  · exact before

/-- Each of them holds the frame back, or puts it on the queue and stamps the key. -/
theorem enqueueLimited_related (s : Server q) (same : SameDecisions w start s.perNodeLastEnqueue stamps)
    (nodeId frame : Json) (now : Clock) (later : start ≤ now.monotonic) :
    ∃ stamps', enqueueLimited w (withStamps s stamps) nodeId frame now =
        { enqueueLimited w s nodeId frame now with
          server := withStamps (enqueueLimited w s nodeId frame now).server stamps' } ∧
      SameDecisions w start (enqueueLimited w s nodeId frame now).server.perNodeLastEnqueue stamps' := by
  simp only [enqueueLimited]
  split
  · cases nodeId.hashKey with
    | none => exact ⟨stamps, rfl, same⟩
    | some key =>
      have agree := same key now.monotonic later
      simp only [heldBack, decide_eq_decide] at agree
      simp only [withStamps]
      by_cases held : now.monotonic - (s.perNodeLastEnqueue.get? key).getD 0 < w.minIntervalS
      · have held' := agree.mp held
        simp only [held, held', if_true]
        exact ⟨stamps, rfl, same⟩
      · have held' := mt agree.mpr held
        simp only [held, held', if_false]
        exact ⟨stamps.insert key now.monotonic, rfl, same.insert key now.monotonic⟩
  · exact ⟨stamps, rfl, same⟩

theorem enqueueDetection_related (s : Server q) (same : SameDecisions w start s.perNodeLastEnqueue stamps) (msg : Fields)
    (nodeId : Json) (now : Clock) (later : start ≤ now.monotonic) :
    ∃ stamps', enqueueDetection w (withStamps s stamps) msg nodeId now =
        { enqueueDetection w s msg nodeId now with
          server := withStamps (enqueueDetection w s msg nodeId now).server stamps' } ∧
      SameDecisions w start (enqueueDetection w s msg nodeId now).server.perNodeLastEnqueue stamps' := by
  simp only [enqueueDetection]
  cases prepareFrame msg nodeId with
  | raised | skipped => exact ⟨stamps, rfl, same⟩
  | ready frame =>
    obtain ⟨store, taken⟩ := extractPositions_server w s frame nodeId now
    simp only [extractPositions_withStamps, taken]
    split
    · exact enqueueLimited_related { s with adsbAircraft := store } same nodeId frame now later
    · exact ⟨stamps, rfl, same⟩

theorem rateLimited_related (s : Server q) (same : SameDecisions w start s.perNodeLastEnqueue stamps) (conn : Conn)
    (msg : Json) (now : Clock) (later : start ≤ now.monotonic) :
    rateLimited w s conn msg now = rateLimited w (withStamps s stamps) conn msg now := by
  cases msg with
  | dict msg =>
    have agree (key : NodeKey) : heldBack w s.perNodeLastEnqueue key now.monotonic =
        heldBack w stamps key now.monotonic := same key now.monotonic later
    simp only [rateLimited]
    cases kindOf msg with
    | detection =>
      cases prepareFrame msg conn.nodeId with
      | raised | skipped => rfl
      | ready frame => simp only [extractPositions_withStamps, agree, withStamps_perNodeLastEnqueue]
    | hello | config | registerKey | chainEntry | iqCommitment | heartbeat | bare | other => rfl
  | null | bool _ | int _ | float _ | str _ | list _ => rfl

theorem messages_related (s : Server q) (same : SameDecisions w start s.perNodeLastEnqueue stamps) (e : Arrival)
    (later : start ≤ e.now.monotonic) :
    (messages w).shown s e = (messages w).shown (withStamps s stamps) e ∧
      ∃ stamps', (messages w).step (withStamps s stamps) e = withStamps ((messages w).step s e) stamps' ∧
        SameDecisions w start ((messages w).step s e).perNodeLastEnqueue stamps' := by
  cases e with
  | closed conn now =>
    refine ⟨rfl, stamps, finish_withStamps s stamps conn now, ?_⟩
    simpa only [messages, finish_stamps] using same
  | message conn msg now sent =>
    have limited := rateLimited_related s same conn msg now later
    by_cases frame : ∃ fields, msg = .dict fields ∧ kindOf fields = .detection
    · obtain ⟨fields, rfl, kind⟩ := frame
      obtain ⟨stamps', equal, same'⟩ := enqueueDetection_related s same fields conn.nodeId now later
      refine ⟨?_, stamps', ?_, ?_⟩
      · simp only [messages, handleMessage, kind, equal, limited, Handled.onConn]
      · simp only [messages, handleMessage, kind, equal, Handled.onConn]
      · simpa only [messages, handleMessage, kind, Handled.onConn] using same'
    · have other (fields : Fields) (is : msg = .dict fields) : kindOf fields ≠ .detection := fun kind =>
        frame ⟨fields, is, kind⟩
      have equal := handleMessage_withStamps (w := w) s stamps conn msg now sent other
      refine ⟨?_, stamps, ?_, ?_⟩
      · simp only [messages, equal, limited]
      · simp only [messages, equal]
      · simpa only [messages, handleMessage_stamps s conn msg now sent other] using same

/-- Servers that differ in stamps which decide alike cannot be told apart. -/
theorem alike_withStamps (s : Server q) (same : SameDecisions w start s.perNodeLastEnqueue stamps) :
    Alike (messages w) (fun e => start ≤ e.now.monotonic) s (withStamps s stamps) := by
  refine alike_of_related (fun s s' => ∃ stamps, s' = withStamps s stamps ∧
    SameDecisions w start s.perNodeLastEnqueue stamps) ?_ ?_ ⟨stamps, rfl, same⟩
  · rintro s _ e ⟨stamps, rfl, same⟩ later
    exact (messages_related s same e later).1
  · rintro s _ e ⟨stamps, rfl, same⟩ later
    exact (messages_related s same e later).2

/-! ### What the store of keys and the stamps hold -/

theorem truthy_of_key {nodeId : Json} (truthy : nodeId.truthy = true) (key : nodeId.hashKey = some (.text n)) : n ≠ "" := by
  cases nodeId with
  | str s =>
    obtain rfl : s = n := by simpa [Json.hashKey] using key
    simpa [Json.truthy] using truthy
  | null | bool _ | int _ | float _ | list _ | dict _ => simp [Json.hashKey] at key

theorem keyNode_ne (named : keyNode msg nodeId = some key) : key ≠ .text "" := by
  rw [keyNode] at named
  split at named
  · rename_i given
    rw [Bool.and_eq_true] at given
    rintro rfl
    exact truthy_of_key given.2 named rfl
  · cases named

theorem enqueueDetection_unnamed (s : Server q) (msg : Fields) (nodeId : Json) (now : Clock) :
    (enqueueDetection w s msg nodeId now).server.perNodeLastEnqueue.get? (.text "") =
      s.perNodeLastEnqueue.get? (.text "") := by
  refine enqueueDetection_kept (fun s => s.perNodeLastEnqueue.get? (.text "")) w s msg nodeId now (fun _ => rfl) ?_
  intro s' frame
  simp only [enqueueLimited]
  split
  · rename_i truthy
    cases keyed : nodeId.hashKey with
    | none => rfl
    | some key =>
      simp only
      split
      · rfl
      · refine Dict.get?_insert_ne _ _ ?_
        rintro rfl
        exact truthy_of_key truthy keyed rfl
  · rfl

theorem SoundMessages.of_same {s s' : Server q} (sound : SoundMessages w s) (keys : s'.verifierKeys = s.verifierKeys)
    (stamps : s'.perNodeLastEnqueue.get? (.text "") = s.perNodeLastEnqueue.get? (.text "")) : SoundMessages w s' where
  accepted := by
    rw [keys]
    exact sound.accepted
  keyNamed := by
    rw [keys]
    exact sound.keyNamed
  stampNamed := stamps.trans sound.stampNamed

theorem sound_registerKey {s : Server q} (sound : SoundMessages w s) (msg : Fields) (nodeId : Json) (now : Clock)
    (sent : Bool) (stamps : (handleRegisterKey w s msg nodeId now sent).server.perNodeLastEnqueue = s.perNodeLastEnqueue) :
    SoundMessages w (handleRegisterKey w s msg nodeId now sent).server := by
  cases named : keyNode msg nodeId with
  | none =>
    exact sound.of_same (handleRegisterKey_of_none w s msg nodeId now sent named).2 (by rw [stamps])
  | some key =>
    have keys := (handleRegisterKey_of_some w s msg nodeId now sent named).2
    refine ⟨?_, ?_, by rw [stamps, sound.stampNamed]⟩
    · intro key' pem found
      rw [keys] at found
      split at found
      · rename_i taken
        rw [Dict.get?_insert] at found
        split at found
        · rename_i same
          rw [← same, ← Option.some.inj found]
          exact taken
        · exact sound.accepted key' pem found
      · exact sound.accepted key' pem found
    · rw [keys]
      split
      · rw [Dict.get?_insert_ne _ _ (keyNode_ne named)]
        exact sound.keyNamed
      · exact sound.keyNamed

theorem sound_messages {s : Server q} (sound : SoundMessages w s) (e : Arrival) : SoundMessages w ((messages w).step s e) := by
  cases e with
  | closed conn now =>
    exact sound.of_same (finish_custody s conn now).2 (by rw [messages, finish_stamps])
  | message conn msg now sent =>
    by_cases frame : ∃ fields, msg = .dict fields ∧ kindOf fields = .detection
    · obtain ⟨fields, rfl, kind⟩ := frame
      simp only [messages, handleMessage, kind, Handled.onConn]
      exact sound.of_same (enqueueDetection_custody w s fields conn.nodeId now).2
        (enqueueDetection_unnamed s fields conn.nodeId now)
    · have other (fields : Fields) (is : msg = .dict fields) : kindOf fields ≠ .detection := fun kind =>
        frame ⟨fields, is, kind⟩
      have stamps := handleMessage_stamps (w := w) s conn msg now sent other
      by_cases registers : ∃ fields, msg = .dict fields ∧ kindOf fields = .registerKey
      · obtain ⟨fields, rfl, kind⟩ := registers
        simp only [messages, handleMessage, kind, Handled.onConn] at stamps ⊢
        exact sound_registerKey sound fields conn.nodeId now sent stamps
      · exact sound.of_same (handleMessage_custody w s conn msg now sent fun fields is kind =>
          registers ⟨fields, is, kind⟩).2 (by rw [messages, stamps])

theorem sound_forgetMessages {s : Server q} (sound : SoundMessages w s) (n : String) : SoundMessages w (forgetMessages n s) :=
  sound.of_same rfl rfl

/-! ### What shows -/

theorem sameDecisions_of_lapsed {stamps : Dict NodeKey ℚ}
    (lapsed : ∀ last, stamps.get? (.text n) = some last → Lapsed w start last) :
    SameDecisions w start stamps (stamps.erase (.text n)) := by
  intro key t later
  by_cases own : key = .text n
  · subst own
    simp only [heldBack, Dict.get?_erase_self, Option.getD_none, sub_zero, decide_eq_decide]
    cases found : stamps.get? (.text n) with
    | none => simp only [Option.getD_none, sub_zero]
    | some last =>
      simp only [Option.getD_some]
      rcases lapsed last found with rfl | ⟨past, never⟩
      · rw [sub_zero]
      · constructor
        · intro held
          linarith
        · intro held
          linarith
  · simp only [heldBack, Dict.get?_erase_ne _ (Ne.symm own)]

/-- A stamp that has not lapsed decides differently from none at some later time. -/
theorem exists_decides {last : ℚ} (counts : ¬ Lapsed w start last) :
    ∃ t, start ≤ t ∧ ¬ (t - last < w.minIntervalS ↔ t < w.minIntervalS) := by
  rw [Lapsed, not_or, not_and_or, not_le, not_le] at counts
  obtain ⟨set_, early⟩ := counts
  rcases lt_or_gt_of_ne set_ with negative | positive
  · have before : start < w.minIntervalS := by
      rcases early with early | early
      · linarith
      · exact early
    refine ⟨max start (last + w.minIntervalS), le_max_left _ _, fun same => ?_⟩
    have held := same.mpr (max_lt before (by linarith))
    have atLeast := le_max_right start (last + w.minIntervalS)
    linarith
  · refine ⟨max start w.minIntervalS, le_max_left _ _, fun same => ?_⟩
    have within : max start w.minIntervalS < last + w.minIntervalS := by
      refine max_lt ?_ (by linarith)
      rcases early with early | early
      · exact early
      · linarith
    have held := same.mp (by linarith)
    exact absurd (le_max_right start w.minIntervalS) (not_le.mpr held)

def clockAt (t : ℚ) : Clock := { iso := "", time := 0, monotonic := t }

/-- A bare frame of a node. -/
def frameOf (n : String) (t : ℚ) : Arrival :=
  .message { peer := "", nodeId := .str n } (.dict [("type", .str "DETECTION"), ("timestamp", .int 0)]) (clockAt t) true

/-- A key for a node. -/
def keyOf (n : String) (pem : Json) (t : ℚ) : Arrival :=
  .message { peer := "" } (.dict [("type", .str "REGISTER_KEY"), ("node_id", .str n), ("public_key_pem", pem)]) (clockAt t)
    true

/-- A chain entry. -/
def entryOf (entry : Fields) (t : ℚ) : Arrival :=
  .message { peer := "" } (.dict [("type", .str "CHAIN_ENTRY"), ("entry", .dict entry)]) (clockAt t) true

theorem prepareFrame_frameOf (named : n ≠ "") :
    prepareFrame [("type", .str "DETECTION"), ("timestamp", .int 0)] (.str n) =
      .ready (.dict [("type", .str "DETECTION"), ("timestamp", .int 0), ("_node_id", .str n)]) := by
  have truthy : (Json.str n).truthy = true := by simpa [Json.truthy] using named
  have stamped : (flagSigned (get [("type", .str "DETECTION"), ("timestamp", .int 0)] "data"
      (.dict [("type", .str "DETECTION"), ("timestamp", .int 0)]))).bind stampFrame =
        some (.dict [("type", .str "DETECTION"), ("timestamp", .int 0)]) := rfl
  have has_stamp : Json.contains "timestamp" (.dict [("type", .str "DETECTION"), ("timestamp", .int 0)]) = some true := rfl
  simp only [prepareFrame, stamped, has_stamp, truthy, if_true]
  rfl

theorem rateLimited_frameOf (s : Server q) (named : n ≠ "") (t : ℚ) :
    ((messages w).shown s (frameOf n t)).rateLimited = heldBack w s.perNodeLastEnqueue (.text n) t := by
  have kind : kindOf [("type", .str "DETECTION"), ("timestamp", .int 0)] = .detection := rfl
  have truthy : (Json.str n).truthy = true := by simpa [Json.truthy] using named
  have positions : (extractPositions w s (.dict [("type", .str "DETECTION"), ("timestamp", .int 0), ("_node_id", .str n)])
      (.str n) (clockAt t)).2 = true := by
    simp only [extractPositions, truthy, if_true]
    rfl
  simp only [messages, frameOf, rateLimited, kind, prepareFrame_frameOf named, positions, truthy, Bool.true_and,
    Json.hashKey, Option.any_some]
  rfl

/-- The answer to a chain entry of a node with an identity is whether the verifier passes it. -/
theorem replies_entryOf (s : Server q) (named : n ≠ "") (about : get entry "node_id" .null = .str n)
    (identified : (s.nodeIdentities.get? (.text n)).isSome = true) (t : ℚ) :
    ((messages w).shown s (entryOf entry t)).replies =
      [.dict [("type", .str "CHAIN_ENTRY_ACK"), ("node_id", .str n), ("entry_hash", get entry "entry_hash" (.str "")),
        ("verified", .bool (w.verifies s.verifierKeys.get? entry))]] := by
  have kind : kindOf [("type", .str "CHAIN_ENTRY"), ("entry", .dict entry)] = .chainEntry := rfl
  have truthy : (Json.str n).truthy = true := by simpa [Json.truthy] using named
  have given : get [("type", .str "CHAIN_ENTRY"), ("entry", .dict entry)] "entry" (.dict []) = .dict entry := rfl
  have record : recordNode entry .null = some (.text n) := by
    rw [recordNode, about, if_pos truthy, Json.hashKey]
  simp only [messages, entryOf, handleMessage, kind, handleChainEntry, given, record, identified, Bool.true_and, reply,
    Handled.onConn, about]

/-- A key that the verifier refuses leaves the identity, and the key that was there before it. -/
theorem step_keyOf (s : Server q) (named : n ≠ "") (pemGiven : pem.truthy = true)
    (refused : w.registers (.text n) pem = false) (t : ℚ) :
    (((messages w).step s (keyOf n pem t)).nodeIdentities.get? (.text n)).isSome = true ∧
      ((messages w).step s (keyOf n pem t)).verifierKeys = s.verifierKeys := by
  have kind : kindOf [("type", .str "REGISTER_KEY"), ("node_id", .str n), ("public_key_pem", pem)] = .registerKey := rfl
  have truthy : (Json.str n).truthy = true := by simpa [Json.truthy] using named
  have node : get [("type", .str "REGISTER_KEY"), ("node_id", .str n), ("public_key_pem", pem)] "node_id" .null = .str n := rfl
  have key : get [("type", .str "REGISTER_KEY"), ("node_id", .str n), ("public_key_pem", pem)] "public_key_pem" (.str "") =
    pem := rfl
  have keyed : keyNode [("type", .str "REGISTER_KEY"), ("node_id", .str n), ("public_key_pem", pem)] .null =
      some (.text n) := by
    simp only [keyNode, node, key, pemGiven, truthy, Bool.and_self, if_true, Json.hashKey]
  have stored := handleRegisterKey_of_some w s _ .null (clockAt t) true keyed
  simp only [messages, keyOf, handleMessage, kind, Handled.onConn, stored.1, stored.2, key, refused, Bool.false_eq_true,
    if_false, Dict.get?_insert_self, Option.isSome_some, and_self]

/-- A retired node's later messages are answered as an unseen node's exactly when it left neither a key nor a stamp that
still counts. -/
theorem messages_alike_iff (custodial : Custodial w) {s : Server q} (sound : SoundMessages w s) (n : String) :
    Alike (messages w) (fun e => start ≤ e.now.monotonic) (forgetMessages n s) (unseenMessages n s) ↔
      SpotlessMessages w start n s := by
  constructor
  · intro alike
    refine ⟨?_, ?_⟩
    · by_contra left
      obtain ⟨pem, held⟩ := Option.ne_none_iff_exists'.mp left
      have named : n ≠ "" := by
        rintro rfl
        exact left sound.keyNamed
      obtain ⟨bad, badGiven, refused⟩ := custodial.refuses (.text n)
      obtain ⟨entry, passes, fails, about⟩ := custodial.signs n pem (sound.accepted _ _ held)
      have after := alike.step (e := keyOf n bad start) le_rfl
      obtain ⟨identified, keys⟩ := step_keyOf (w := w) (forgetMessages n s) named badGiven refused start
      obtain ⟨identified', keys'⟩ := step_keyOf (w := w) (unseenMessages n s) named badGiven refused start
      have same := congrArg Answer.replies (after.shown (e := entryOf entry start) le_rfl)
      rw [replies_entryOf _ named about identified, replies_entryOf _ named about identified', keys, keys',
        passes _ (show (forgetMessages n s).verifierKeys.get? (.text n) = some pem from held),
        fails _ (show (unseenMessages n s).verifierKeys.get? (.text n) = none from Dict.get?_erase_self _ _)] at same
      simp at same
    · intro last found
      by_contra counts
      have named : n ≠ "" := by
        rintro rfl
        rw [sound.stampNamed] at found
        cases found
      obtain ⟨t, later, differs⟩ := exists_decides counts
      have same := congrArg Answer.rateLimited (alike.shown (e := frameOf n t) later)
      rw [rateLimited_frameOf _ named, rateLimited_frameOf _ named] at same
      have forgotten : (forgetMessages n s).perNodeLastEnqueue.get? (.text n) = some last := found
      have unseen : (unseenMessages n s).perNodeLastEnqueue.get? (.text n) = none := Dict.get?_erase_self _ _
      simp only [heldBack, forgotten, unseen, Option.getD_some, Option.getD_none, sub_zero, decide_eq_decide] at same
      exact differs same
  · rintro ⟨key, stamp⟩
    have erased : s.verifierKeys.erase (.text n) = s.verifierKeys := Dict.erase_of_absent key
    have equal : unseenMessages n s = withStamps (forgetMessages n s) (s.perNodeLastEnqueue.erase (.text n)) := by
      simp only [unseenMessages, erased]
      rfl
    rw [equal]
    exact alike_withStamps (forgetMessages n s) (sameDecisions_of_lapsed stamp)

end
end Retina.Retirement
