import RetinaServer.Tcp.Custody

/-! The second writer of the custody chains: a periodic pass that gives every connected
node an identity and an entry for the hour, and marks the entry verified. Beside it the
record of what the nodes sent themselves, and with which verdict. -/
namespace Retina.Tcp
open OrderedDict Runs
open Frames (QueueShape)

section
variable {q : QueueShape}

/-- The stamp of a pass, and the hour it is in. -/
structure PassTime where
  nowIso : String
  hourUtc : String

/-- The hash of the runtime. -/
abbrev Sha256 := String → String

/-- `text[-n:]`. -/
def lastChars (n : Nat) (text : String) : String := String.ofList (newest n text.toList)

def simIdentity (sha256 : Sha256) (nid : String) (now : PassTime) : NodeIdentity :=
  { nodeId := .str nid
    publicKeyPem := .str ("-----SIM-KEY-" ++ lastChars 8 nid ++ "-----")
    publicKeyFingerprint := .str (String.ofList ((sha256 nid).toList.take 16))
    serialNumber := .str ("SIM-" ++ lastChars 6 nid)
    signingMode := .str "software"
    registeredAt := now.nowIso }

def zeroHash : String := String.ofList (List.replicate 64 '0')

/-- The hash of the last entry, as it is written into a text. -/
def prevHash (entries : List Fields) : Json :=
  (entries.getLast?).elim (.str zeroHash) fun entry => get entry "entry_hash" (.str zeroHash)

def formatted (text : PyText) : Json → String
  | .str s => s
  | other => text.str other

/-- The entry the server writes for a node. -/
def hourEntry (text : PyText) (sha256 : Sha256) (nid : String) (now : PassTime) (entries : List Fields) : Fields :=
  let contentHash := sha256 (nid ++ ":" ++ now.hourUtc)
  [("node_id", .str nid), ("hour_utc", .str now.hourUtc), ("prev_hash", prevHash entries),
   ("content_hash", .str contentHash),
   ("entry_hash", .str (sha256 (formatted text (prevHash entries) ++ ":" ++ contentHash))),
   ("_verified", .bool true), ("_received_at", .str now.nowIso)]

/-- The chain's last entry is of the hour. -/
def upToDate (now : PassTime) (entries : List Fields) : Bool :=
  (entries.getLast?).any fun entry => (get entry "hour_utc" .null).eqv (.str now.hourUtc)

def CHAIN_ENTRIES_KEPT : Nat := 168

def ensuredChain (text : PyText) (sha256 : Sha256) (nid : String) (now : PassTime) (entries : List Fields) : List Fields :=
  let kept := newest CHAIN_ENTRIES_KEPT entries
  if upToDate now kept then kept else kept ++ [hourEntry text sha256 nid now kept]

def firstCapture (sha256 : Sha256) (nid : String) (now : PassTime) : Fields :=
  [("node_id", .str nid), ("capture_id", .str ("iq-" ++ lastChars 8 nid ++ "-001")),
   ("sha256", .str (sha256 ("iq:" ++ nid))), ("_received_at", .str now.nowIso)]

def ensureNode (text : PyText) (sha256 : Sha256) (now : PassTime) (s : Server q) (node : String × Fields) : Server q :=
  if isDisconnected node.2 then s
  else
    let key : NodeKey := .text node.1
    { s with
      nodeIdentities := if (s.nodeIdentities.get? key).isSome then s.nodeIdentities
        else s.nodeIdentities.insert key (simIdentity sha256 node.1 now)
      chainEntries := s.chainEntries.insert key
        (ensuredChain text sha256 node.1 now ((s.chainEntries.get? key).getD []))
      iqCommitments := if (s.iqCommitments.get? key).getD [] = [] then
          s.iqCommitments.insert key [firstCapture sha256 node.1 now]
        else s.iqCommitments }

/-- `_ensure_custody_data`. -/
def ensureCustodyData (text : PyText) (sha256 : Sha256) (now : PassTime) (s : Server q) : Server q :=
  s.connectedNodes.items.foldl (ensureNode text sha256 now) s

/-! ### Runs, with a record of what was sent -/

inductive CustodyEvent (q : QueueShape) where
  | deployed (e : DeploymentEvent q)
  | ensured (now : PassTime)

/-- An entry as it was filed for the node of that name, and whether the verifier accepted it under a key registered for it. -/
structure SentEntry where
  node : String
  entry : Fields
  accepted : Bool

/-- A deployment, and the entries that CHAIN_ENTRY messages have brought so far. -/
structure Audit (q : QueueShape) where
  deployment : Deployment q
  sent : List SentEntry

/-- What a CHAIN_ENTRY files, and where. -/
def filing (w : Listener) (s : Server q) (entry : Fields) (nodeId : Json) (now : Clock) : Option (NodeKey × Fields × Bool) :=
  (recordNode entry nodeId).map fun key =>
    let verified := (s.nodeIdentities.get? key).isSome && w.verifies s.verifierKeys.get? entry
    (key, put "_received_at" (.str now.iso) (put "_verified" (.bool verified) entry), verified)

def filed (w : Listener) (net : Net q) : Event q → Option (NodeKey × Fields × Bool)
  | .received c (.dict msg) now _ => match net.conns.get? c with
    | none => none
    | some conn => if conn.ended = false ∧ kindOf msg = .chainEntry then
        match get msg "entry" (.dict []) with
        | .dict entry => filing w net.server entry conn.nodeId now
        | _ => none
      else none
  | _ => none

def sentBy (format : SnapshotFormat) (w : Listener) (d : Deployment q) : CustodyEvent q → Option SentEntry
  | .deployed (.handled e) => (filed w d.net e).map fun item =>
      { node := format.keyText item.1, entry := item.2.1
        accepted := item.2.2 && (d.net.server.verifierKeys.get? item.1).isSome }
  | _ => none

def custodyStep (w : Listener) (sha256 : Sha256) (format : SnapshotFormat) (prefixes : List String) (d : Deployment q) :
    CustodyEvent q → Deployment q
  | .deployed e => deploymentStep w format prefixes d e
  | .ensured now => { d with net := { d.net with server := ensureCustodyData w.text sha256 now d.net.server } }

def auditStep (w : Listener) (sha256 : Sha256) (format : SnapshotFormat) (prefixes : List String) (a : Audit q)
    (e : CustodyEvent q) : Audit q where
  deployment := custodyStep w sha256 format prefixes a.deployment e
  sent := a.sent ++ (sentBy format w a.deployment e).toList

/-- The entries a node has sent, in order. -/
def Audit.sentOf (a : Audit q) (n : String) : List Fields :=
  (a.sent.filter fun item => decide (item.node = n)).map SentEntry.entry

def Audit.chain (a : Audit q) (n : String) : List Fields := (a.deployment.net.server.chainEntries.get? (.text n)).getD []

/-- Each entry names the hash of the one before it. -/
def Linked (entries : List Fields) : Prop :=
  entries.IsChain fun before entry => (get entry "prev_hash" .null).eqv (get before "entry_hash" .null) = true

/-- The entry is the first of the list, or names the hash of the one before it there. -/
def RefersBack (entries : List Fields) (entry : Fields) : Prop :=
  ∃ before after, entries = before ++ entry :: after ∧
    ∀ last, before.getLast? = some last → (get entry "prev_hash" .null).eqv (get last "entry_hash" .null) = true

section
variable (w : Listener) (sha256 : Sha256) (format : SnapshotFormat) (prefixes : List String)
variable (synthetic : String → Bool)

/-- What a node's chain of custody promises of it. -/
structure Custody (a : Audit q) (n : String) : Prop where
  verified : ∀ entry ∈ a.chain n, get entry "_verified" .null = .bool true →
    ∃ item ∈ a.sent, item.node = n ∧ item.entry = entry ∧ item.accepted = true
  /-- All of its entries were sent, in this order. -/
  own : (a.chain n).Sublist (a.sentOf n)
  linked : Linked (a.sentOf n) → ∀ entry ∈ a.chain n, RefersBack (a.sentOf n) entry

/-- After the event each real node's chain is its own, and a pass has added nothing to it. -/
structure CustodyKept (a : Audit q) (e : CustodyEvent q) : Prop where
  chains : ∀ n, synthetic n = false → Custody (auditStep w sha256 format prefixes a e) n
  untouched : ∀ now, e = .ensured now → ∀ n, synthetic n = false →
    (auditStep w sha256 format prefixes a e).chain n <:+ a.chain n

/-- A pass finds the last entry of each real node that is connected to be of the hour. -/
def EntriesCurrent (a : Audit q) : CustodyEvent q → Prop
  | .ensured now => ∀ n, synthetic n = false → ∀ info, a.deployment.net.server.connectedNodes.get? n = some info →
      isDisconnected info = false → upToDate now (a.chain n) = true
  | .deployed _ => True

end

/-- The verifier accepts an entry only under a key it finds for the node the entry names. One that names none is
looked up under no name or an empty one. -/
def NeedsKey (w : Listener) : Prop :=
  ∀ keys entry, w.verifies keys entry = true → ∃ name, (keys name).isSome ∧
    ((lookup "node_id" entry).bind Json.hashKey = some name ∨
      lookup "node_id" entry = none ∧ (name = .none ∨ name = .text ""))

/-! ### One pass -/

theorem newest_suffix {α : Type} (n : Nat) (entries : List α) : newest n entries <:+ entries := List.drop_suffix _ _

theorem newest_getLast? {α : Type} {n : Nat} (some_kept : 0 < n) (entries : List α) :
    (newest n entries).getLast? = entries.getLast? := by
  rw [newest, List.getLast?_drop]
  split
  · rename_i short
    have empty : entries = [] := List.length_eq_zero_iff.mp (by omega)
    rw [empty]
    rfl
  · rfl

theorem upToDate_newest (now : PassTime) (entries : List Fields) :
    upToDate now (newest CHAIN_ENTRIES_KEPT entries) = upToDate now entries := by
  rw [upToDate, newest_getLast? (by decide), upToDate]

theorem upToDate_hourEntry (text : PyText) (sha256 : Sha256) (nid : String) (now : PassTime) (before entries : List Fields) :
    upToDate now (before ++ [hourEntry text sha256 nid now entries]) = true := by
  simp [upToDate, hourEntry, get, lookup, Json.eqv]

/-- The pass adds to a chain unless it is up to date. -/
theorem ensuredChain_suffix_iff (text : PyText) (sha256 : Sha256) (nid : String) (now : PassTime) (entries : List Fields) :
    ensuredChain text sha256 nid now entries <:+ entries ↔ upToDate now entries = true := by
  rw [ensuredChain, upToDate_newest]
  split
  · rename_i current
    exact iff_of_true (newest_suffix _ entries) current
  · rename_i stale
    refine iff_of_false (fun inside => ?_) stale
    obtain ⟨before, whole⟩ := inside
    -- The last entry would be the one the pass writes, which is of the hour.
    have current := upToDate_hourEntry text sha256 nid now (before ++ newest CHAIN_ENTRIES_KEPT entries)
      (newest CHAIN_ENTRIES_KEPT entries)
    rw [List.append_assoc, whole] at current
    exact stale current

theorem ensureNode_keys (text : PyText) (sha256 : Sha256) (now : PassTime) (s : Server q) (node : String × Fields) :
    (ensureNode text sha256 now s node).verifierKeys = s.verifierKeys := by
  rw [ensureNode]
  split <;> rfl

theorem ensureNode_chain (text : PyText) (sha256 : Sha256) (now : PassTime) (s : Server q) (node : String × Fields)
    (n : String) : (ensureNode text sha256 now s node).chainEntries.get? (.text n) =
      if node.1 = n ∧ isDisconnected node.2 = false then
        some (ensuredChain text sha256 n now ((s.chainEntries.get? (.text n)).getD []))
      else s.chainEntries.get? (.text n) := by
  rw [ensureNode]
  split
  · rename_i gone
    rw [if_neg (by simp [gone])]
  · rename_i live
    rw [Bool.not_eq_true] at live
    by_cases same : node.1 = n
    · subst same
      simp [live]
    · rw [if_neg (fun both => same both.1)]
      exact Dict.get?_insert_ne _ _ fun eq => same (NodeKey.text.inj eq)

/-- The passes over one node do not meet. -/
theorem ensureNodes_chain (text : PyText) (sha256 : Sha256) (now : PassTime) (n : String) (nodes : List (String × Fields))
    (distinct : (nodes.map Prod.fst).Nodup) (s : Server q) :
    (nodes.foldl (ensureNode text sha256 now) s).chainEntries.get? (.text n) =
      if (lookup n nodes).any (fun info => !isDisconnected info) then
        some (ensuredChain text sha256 n now ((s.chainEntries.get? (.text n)).getD []))
      else s.chainEntries.get? (.text n) := by
  induction nodes generalizing s with
  | nil => rfl
  | cons node rest ih =>
    obtain ⟨name, info⟩ := node
    rw [List.map_cons, List.nodup_cons] at distinct
    rw [List.foldl_cons, ih distinct.2, ensureNode_chain]
    by_cases same : name = n
    · subst same
      have absent : lookup name rest = none := (lookup_eq_none_iff name rest).mpr distinct.1
      rw [absent]
      simp only [lookup, Option.any_none, Bool.false_eq_true, if_true, if_false, Option.any_some, Bool.not_eq_true',
        true_and]
    · simp only [lookup, same, false_and, if_false]

theorem ensureCustodyData_chain (text : PyText) (sha256 : Sha256) (now : PassTime) (s : Server q) (n : String) :
    (ensureCustodyData text sha256 now s).chainEntries.get? (.text n) =
      if (s.connectedNodes.get? n).any (fun info => !isDisconnected info) then
        some (ensuredChain text sha256 n now ((s.chainEntries.get? (.text n)).getD []))
      else s.chainEntries.get? (.text n) :=
  ensureNodes_chain text sha256 now n s.connectedNodes.items s.connectedNodes.nodup s

theorem ensureCustodyData_keys (text : PyText) (sha256 : Sha256) (now : PassTime) (s : Server q) :
    (ensureCustodyData text sha256 now s).verifierKeys = s.verifierKeys := by
  rw [ensureCustodyData]
  generalize s.connectedNodes.items = nodes
  induction nodes generalizing s with
  | nil => rfl
  | cons node rest ih => rw [List.foldl_cons, ih, ensureNode_keys]

/-- A pass files under texts alone. -/
theorem ensureCustodyData_other (text : PyText) (sha256 : Sha256) (now : PassTime) (s : Server q) {key : NodeKey}
    (other : ∀ n, key ≠ .text n) :
    (ensureCustodyData text sha256 now s).chainEntries.get? key = s.chainEntries.get? key := by
  rw [ensureCustodyData]
  generalize s.connectedNodes.items = nodes
  induction nodes generalizing s with
  | nil => rfl
  | cons node rest ih =>
    rw [List.foldl_cons, ih, ensureNode]
    split
    · rfl
    · exact Dict.get?_insert_ne _ _ (other node.1).symm

/-! ### What a message does to the chains -/

theorem handleConfig_chains (w : Listener) (s : Server q) (msg : Fields) (nodeId : Json) (peer : String) (now : Clock)
    (sent : Bool) : (handleConfig w s msg nodeId peer now sent).server.chainEntries = s.chainEntries := by
  obtain ⟨_, _, _, _, written⟩ := handleConfig_writes w s msg nodeId peer now sent
  rw [written]

theorem handleRegisterKey_chains (w : Listener) (s : Server q) (msg : Fields) (nodeId : Json) (now : Clock)
    (sent : Bool) : (handleRegisterKey w s msg nodeId now sent).server.chainEntries = s.chainEntries := by
  obtain ⟨_, _, written⟩ := handleRegisterKey_writes w s msg nodeId now sent
  rw [written]

theorem handleIqCommitment_chains (s : Server q) (msg : Fields) (nodeId : Json) (now : Clock) (sent : Bool) :
    (handleIqCommitment s msg nodeId now sent).server.chainEntries = s.chainEntries := by
  obtain ⟨_, written⟩ := handleIqCommitment_writes s msg nodeId now sent
  rw [written]

theorem handleHeartbeat_chains (s : Server q) (msg : Fields) (nodeId : Json) (now : Clock) (sent : Bool) :
    (handleHeartbeat s msg nodeId now sent).server.chainEntries = s.chainEntries := by
  obtain ⟨_, _, written⟩ := handleHeartbeat_writes s msg nodeId now sent
  rw [written]

theorem enqueueDetection_chains (w : Listener) (s : Server q) (msg : Fields) (nodeId : Json) (now : Clock) :
    (enqueueDetection w s msg nodeId now).server.chainEntries = s.chainEntries :=
  enqueueDetection_kept Server.chainEntries w s msg nodeId now (fun _ => rfl) fun s' frame =>
    enqueueLimited_kept Server.chainEntries w s' nodeId frame now (fun _ => rfl) rfl

/-- What is filed goes to the end of its node's chain. -/
def withEntry (s : Server q) : Option (NodeKey × Fields × Bool) → Dict NodeKey (List Fields)
  | none => s.chainEntries
  | some item => s.chainEntries.insert item.1
      (newest CHAIN_ENTRIES_MAX_PER_NODE ((s.chainEntries.get? item.1).getD [] ++ [item.2.1]))

theorem handleChainEntry_chains (w : Listener) (s : Server q) (msg : Fields) (nodeId : Json) (now : Clock) (sent : Bool) :
    (handleChainEntry w s msg nodeId now sent).server.chainEntries =
      withEntry s (match get msg "entry" (.dict []) with
        | .dict entry => filing w s entry nodeId now
        | _ => none) := by
  rw [handleChainEntry]
  cases get msg "entry" (.dict []) with
  | dict entry =>
    simp only [filing]
    cases recordNode entry nodeId with
    | none =>
      simp only [Option.map_none]
      split <;> rfl
    | some key => rfl
  | null | bool _ | int _ | float _ | str _ | list _ => rfl

theorem step_chains (w : Listener) (net : Net q) (e : Event q) :
    (step w net e).server.chainEntries = withEntry net.server (filed w net e) := by
  cases e with
  | opened c peer =>
    simp only [step]
    split <;> rfl
  | queue e => rfl
  | closed c now =>
    simp only [step]
    cases net.conns.get? c with
    | none => rfl
    | some conn =>
      simp only [finish.eq_def]
      split
      · split
        · rfl
        · split <;> rfl
      · rfl
  | received c msg now sent =>
    cases msg with
    | dict msg =>
      simp only [step, filed]
      cases net.conns.get? c with
      | none => rfl
      | some conn =>
        simp only
        cases conn.ended with
        | true => rfl
        | false =>
          simp only [Bool.false_eq_true, if_false, true_and, handleMessage]
          cases kind : kindOf msg with
          | chainEntry =>
            rw [if_pos rfl]
            exact handleChainEntry_chains w net.server msg conn.nodeId now sent
          | hello =>
            rw [if_neg (by decide), handleHello_server]
            rfl
          | config =>
            rw [if_neg (by decide)]
            exact handleConfig_chains w net.server msg _ conn.peer now sent
          | registerKey =>
            rw [if_neg (by decide)]
            exact handleRegisterKey_chains w net.server msg _ now sent
          | iqCommitment =>
            rw [if_neg (by decide)]
            exact handleIqCommitment_chains net.server msg _ now sent
          | heartbeat =>
            rw [if_neg (by decide)]
            exact handleHeartbeat_chains net.server msg _ now sent
          | detection =>
            rw [if_neg (by decide)]
            exact enqueueDetection_chains w net.server msg _ now
          | bare | other => rfl
    | null | bool _ | int _ | float _ | str _ | list _ =>
      simp only [step, filed]
      cases net.conns.get? c with
      | none => rfl
      | some conn =>
        simp only
        split <;> rfl

/-! ### Along a run -/

/-- Chains hold what was sent and nothing else, here and on the disk, and what is marked verified was accepted. -/
structure SentOnly (format : SnapshotFormat) (synthetic : String → Bool) (a : Audit q) : Prop where
  keyed : ∀ name, name = .none ∨ name = .text "" → a.deployment.net.server.verifierKeys.get? name = none
  chains : ∀ key entries, a.deployment.net.server.chainEntries.get? key = some entries →
    synthetic (format.keyText key) = false → entries.Sublist (a.sentOf (format.keyText key))
  disk : ∀ snap, a.deployment.disk = some snap → ∀ item ∈ snap.chainEntries, synthetic item.1 = false →
    item.2.Sublist (a.sentOf item.1)
  marked : ∀ item ∈ a.sent, get item.entry "_verified" .null = .bool true → item.accepted = true

section
variable {w : Listener} {sha256 : Sha256} {format : SnapshotFormat} {prefixes : List String} {synthetic : String → Bool}

theorem sentOf_next (a : Audit q) (e : CustodyEvent q) (n : String) :
    (auditStep w sha256 format prefixes a e).sentOf n = a.sentOf n ++
      (((sentBy format w a.deployment e).toList.filter fun item => decide (item.node = n)).map SentEntry.entry) := by
  rw [Audit.sentOf, auditStep, List.filter_append, List.map_append]
  rfl

theorem sentOf_grows (a : Audit q) (e : CustodyEvent q) (n : String) :
    (a.sentOf n).Sublist ((auditStep w sha256 format prefixes a e).sentOf n) := by
  rw [sentOf_next]
  exact List.sublist_append_left _ _

theorem recordNode_truthy {entry : Fields} (named : recordNode entry nodeId = some key) :
    key ≠ .none ∧ key ≠ .text "" := by
  rw [recordNode] at named
  split at named
  · rename_i truthy
    cases value : get entry "node_id" nodeId <;> rw [value] at named truthy <;>
      simp [Json.hashKey, Json.truthy] at named truthy <;> simp [← named, truthy]
  · cases named

theorem keyNode_truthy {msg : Fields} (named : keyNode msg nodeId = some key) : key ≠ .none ∧ key ≠ .text "" := by
  rw [keyNode] at named
  split at named
  · rename_i truthy
    rw [Bool.and_eq_true] at truthy
    have recorded : recordNode msg nodeId = some key := by rw [recordNode, if_pos truthy.2, named]
    exact recordNode_truthy recorded
  · cases named

/-- What a message files is a verdict of the verifier under a key registered for the node. -/
theorem filed_spec {net : Net q} (needs : NeedsKey w)
    (keyed : ∀ name, name = .none ∨ name = .text "" → net.server.verifierKeys.get? name = none)
    (some_entry : filed w net e = some item) :
    (get item.2.1 "_verified" .null = .bool true → item.2.2 = true) ∧
      (item.2.2 = true → (net.server.verifierKeys.get? item.1).isSome) := by
  rw [filed.eq_def] at some_entry
  split at some_entry
  · split at some_entry
    · cases some_entry
    · rename_i conn found
      split at some_entry
      · split at some_entry
        · rename_i entry nested
          obtain ⟨key, named, rfl⟩ := Option.map_eq_some_iff.mp some_entry
          constructor
          · intro marked
            simpa [get, lookup_put] using marked
          · intro verified
            rw [Bool.and_eq_true] at verified
            obtain ⟨name, held, own | ⟨unnamed, empty⟩⟩ := needs _ _ verified.2
            · have same : key = name := by
                obtain ⟨value, present, hashed⟩ := Option.bind_eq_some_iff.mp own
                rw [recordNode] at named
                split at named
                · rw [get, present, Option.getD_some, hashed] at named
                  exact (Option.some.inj named).symm
                · cases named
              exact same ▸ held
            · rw [keyed name empty] at held
              cases held
        · cases some_entry
      · cases some_entry
  · cases some_entry

theorem step_keyed {net : Net q} (keyed : ∀ name, name = .none ∨ name = .text "" → net.server.verifierKeys.get? name = none)
    (e : Event q) : ∀ name, name = .none ∨ name = .text "" → (step w net e).server.verifierKeys.get? name = none := by
  intro name falsy
  cases registers : registration net e with
  | none =>
    rw [(step_custody_of_none w net e registers).2]
    exact keyed name falsy
  | some item =>
    obtain ⟨key, pem⟩ := item
    obtain ⟨identity, -, -, keys⟩ := step_custody_of_some w net e registers
    have truthy : key ≠ .none ∧ key ≠ .text "" := by
      rw [registration.eq_def] at registers
      split at registers
      · split at registers
        · cases registers
        · split at registers
          · obtain ⟨node, named, same⟩ := Option.map_eq_some_iff.mp registers
            obtain ⟨rfl, -⟩ := Prod.mk.inj same
            exact keyNode_truthy named
          · cases registers
      · cases registers
    rw [keys]
    split
    · rw [Dict.get?_insert_ne]
      · exact keyed name falsy
      · rintro rfl
        rcases falsy with absent | empty
        · exact truthy.1 absent
        · exact truthy.2 empty
    · exact keyed name falsy

theorem updated_get? {α : Type} (saved : List (String × α)) (key : NodeKey) (a : α)
    (found : (updated (Dict.empty : Dict NodeKey α) saved).get? key = some a) :
    ∃ item ∈ saved, key = .text item.1 ∧ a = item.2 := by
  induction saved using List.reverseRecOn with
  | nil => cases found
  | append_singleton earlier last ih =>
    rw [updated, List.foldl_append, List.foldl_cons, List.foldl_nil, Dict.get?_insert] at found
    split at found
    · rename_i same
      exact ⟨last, by simp, same.symm, (Option.some.inj found).symm⟩
    · obtain ⟨item, member, rest⟩ := ih found
      exact ⟨item, List.mem_append_left _ member, rest⟩

theorem SentOnly.handled {a : Audit q} (sound : SentOnly format synthetic a) (needs : NeedsKey w) (e : Event q) :
    SentOnly format synthetic (auditStep w sha256 format prefixes a (.deployed (.handled e))) := by
  have server : (auditStep w sha256 format prefixes a (.deployed (.handled e))).deployment =
      { a.deployment with net := step w a.deployment.net e } := rfl
  refine ⟨?_, ?_, ?_, ?_⟩
  · exact step_keyed sound.keyed e
  · intro key entries found real
    rw [server, step_chains] at found
    cases some_entry : filed w a.deployment.net e with
    | none =>
      rw [some_entry] at found
      exact (sound.chains key entries found real).trans (sentOf_grows a _ _)
    | some item =>
      rw [some_entry, withEntry, Dict.get?_insert] at found
      split at found
      · rename_i same
        subst same
        obtain rfl := Option.some.inj found
        have before : ((a.deployment.net.server.chainEntries.get? item.1).getD []).Sublist
            (a.sentOf (format.keyText item.1)) := by
          cases held : a.deployment.net.server.chainEntries.get? item.1 with
          | none => exact List.nil_sublist _
          | some entries => exact sound.chains item.1 entries held real
        rw [sentOf_next]
        simp only [sentBy, some_entry, Option.map_some, Option.toList_some, List.filter_cons, decide_true, if_true,
          List.filter_nil, List.map_cons, List.map_nil]
        exact (newest_suffix _ _).sublist.trans (before.append_right _)
      · exact (sound.chains key entries found real).trans (sentOf_grows a _ _)
  · intro snap disk item member real
    exact (sound.disk snap disk item member real).trans (sentOf_grows a _ _)
  · intro item member marked
    rw [auditStep, List.mem_append] at member
    rcases member with before | new
    · exact sound.marked item before marked
    · simp only [sentBy, Option.mem_toList, Option.map_eq_some_iff] at new
      obtain ⟨fresh, some_entry, rfl⟩ := new
      obtain ⟨verdict, key⟩ := filed_spec needs sound.keyed some_entry
      rw [Bool.and_eq_true]
      exact ⟨verdict marked, key (verdict marked)⟩

/-- An event that files nothing: the record stays, and so must the chains be those that were there or on the disk. -/
theorem SentOnly.of_unsent {a : Audit q} (sound : SentOnly format synthetic a) (e : CustodyEvent q)
    (unsent : sentBy format w a.deployment e = none)
    (keyed : ∀ name, name = .none ∨ name = .text "" →
      (custodyStep w sha256 format prefixes a.deployment e).net.server.verifierKeys.get? name = none)
    (chains : ∀ key entries, (custodyStep w sha256 format prefixes a.deployment e).net.server.chainEntries.get? key = some entries →
      synthetic (format.keyText key) = false → entries.Sublist (a.sentOf (format.keyText key)))
    (disk : ∀ snap, (custodyStep w sha256 format prefixes a.deployment e).disk = some snap → ∀ item ∈ snap.chainEntries,
      synthetic item.1 = false → item.2.Sublist (a.sentOf item.1)) :
    SentOnly format synthetic (auditStep w sha256 format prefixes a e) := by
  have sent : (auditStep w sha256 format prefixes a e).sent = a.sent := by
    rw [auditStep, unsent]
    exact List.append_nil _
  have sentOf (n : String) : (auditStep w sha256 format prefixes a e).sentOf n = a.sentOf n := by
    rw [Audit.sentOf, sent, Audit.sentOf]
  refine ⟨keyed, ?_, ?_, ?_⟩
  · intro key entries found real
    rw [sentOf]
    exact chains key entries found real
  · intro snap there item member real
    rw [sentOf]
    exact disk snap there item member real
  · rw [sent]
    exact sound.marked

/-- A pass that finds every entry current adds to no chain. -/
theorem ensured_suffix {a : Audit q} (current : EntriesCurrent synthetic a (.ensured now)) (real : synthetic n = false)
    (found : (ensureCustodyData w.text sha256 now a.deployment.net.server).chainEntries.get? (.text n) = some entries) :
    entries <:+ a.chain n := by
  rw [ensureCustodyData_chain] at found
  split at found
  · rename_i live
    obtain ⟨info, connected, status⟩ := (Option.any_eq_true _ _).mp live
    obtain rfl := Option.some.inj found
    refine (ensuredChain_suffix_iff w.text sha256 n now (a.chain n)).mpr (current n real info connected ?_)
    simpa using status
  · rw [Audit.chain, found]
    exact List.suffix_rfl

theorem forgetNode_keys (s : Server q) (nodeId : String) (clears : Bool) :
    (forgetNode s nodeId clears).verifierKeys = s.verifierKeys := by
  cases clears <;> rfl

/-- A node that is let go takes its own chain with it. -/
theorem forgetNode_chains {s : Server q} (found : (forgetNode s nodeId clears).chainEntries.get? key = some entries) :
    s.chainEntries.get? key = some entries := by
  cases clears with
  | false => exact found
  | true =>
    simp only [forgetNode, clearNode, if_true, Dict.get?_erase] at found
    split at found
    · cases found
    · exact found

theorem SentOnly.step {a : Audit q} (sound : SentOnly format synthetic a) (needs : NeedsKey w)
    (plain : ∀ text, format.keyText (.text text) = text) (e : CustodyEvent q) (current : EntriesCurrent synthetic a e) :
    SentOnly format synthetic (auditStep w sha256 format prefixes a e) := by
  cases e with
  | ensured now =>
    refine sound.of_unsent _ rfl ?_ ?_ sound.disk
    · intro name falsy
      rw [← sound.keyed name falsy]
      exact congrArg (Dict.get? · name) (ensureCustodyData_keys w.text sha256 now a.deployment.net.server)
    · intro key entries found real
      cases key with
      | text n =>
        rw [plain] at real ⊢
        refine (ensured_suffix current real found).sublist.trans ?_
        rw [Audit.chain]
        cases held : a.deployment.net.server.chainEntries.get? (.text n) with
        | none => exact List.nil_sublist _
        | some before =>
          have kept := sound.chains (.text n) before held (by rw [plain]; exact real)
          rwa [plain] at kept
      | number _ | none =>
        refine sound.chains _ entries ?_ real
        rw [← found]
        exact (ensureCustodyData_other w.text sha256 now a.deployment.net.server fun n => NodeKey.noConfusion).symm
  | deployed e =>
    cases e with
    | handled e => exact sound.handled needs e
    | saved =>
      refine sound.of_unsent _ rfl sound.keyed sound.chains fun snap there item member real => ?_
      obtain rfl := Option.some.inj there
      obtain ⟨held, listed, rfl⟩ := List.mem_map.mp member
      exact sound.chains held.1 held.2 ((Dict.get?_eq_some_iff _ _ _).mpr listed) real
    | restarted nodes found =>
      refine sound.of_unsent _ rfl ?_ ?_ sound.disk
      · intro name falsy
        simp only [custodyStep, deploymentStep]
        cases found with
        | false => rfl
        | true => cases a.deployment.disk <;> rfl
      · intro key entries held real
        simp only [custodyStep, deploymentStep] at held
        cases found with
        | false => cases held
        | true =>
          cases disk : a.deployment.disk with
          | none =>
            rw [disk] at held
            cases held
          | some snap =>
            rw [disk] at held
            obtain ⟨item, member, rfl, rfl⟩ := updated_get? snap.chainEntries key entries held
            rw [plain] at real ⊢
            exact sound.disk snap disk item member real
    | retired nodeId force clears =>
      by_cases allowed : mayRetire prefixes a.deployment.net.server nodeId force = true
      · refine sound.of_unsent _ rfl ?_ ?_ sound.disk <;>
          simp only [custodyStep, deploymentStep, retireNode, allowed, if_true]
        · rw [forgetNode_keys]
          exact sound.keyed
        · exact fun key entries found => sound.chains key entries (forgetNode_chains found)
      · refine sound.of_unsent _ rfl ?_ ?_ sound.disk <;>
          simp only [custodyStep, deploymentStep, retireNode, allowed]
        · exact sound.keyed
        · exact sound.chains
    | forgotten nodeId clears =>
      refine sound.of_unsent _ rfl ?_ ?_ sound.disk <;> simp only [custodyStep, deploymentStep]
      · rw [forgetNode_keys]
        exact sound.keyed
      · exact fun key entries found => sound.chains key entries (forgetNode_chains found)

/-- A chain of nothing but what was sent. -/
theorem SentOnly.custody {a : Audit q} (sound : SentOnly format synthetic a)
    (plain : ∀ text, format.keyText (.text text) = text) (real : synthetic n = false) : Custody a n := by
  have own : (a.chain n).Sublist (a.sentOf n) := by
    rw [Audit.chain]
    cases held : a.deployment.net.server.chainEntries.get? (.text n) with
    | none => exact List.nil_sublist _
    | some entries =>
      have kept := sound.chains (.text n) entries held (by rw [plain]; exact real)
      rwa [plain] at kept
  refine ⟨fun entry listed marked => ?_, own, fun linked entry listed => ?_⟩
  · obtain ⟨item, sent, rfl⟩ := List.mem_map.mp (own.subset listed)
    obtain ⟨member, named⟩ := List.mem_filter.mp sent
    exact ⟨item, member, of_decide_eq_true named, rfl, sound.marked item member marked⟩
  · obtain ⟨before, after, split⟩ := List.append_of_mem (own.subset listed)
    refine ⟨before, after, split, fun last end_ => ?_⟩
    rw [Linked, split, List.isChain_append] at linked
    exact linked.2.2 last end_ entry rfl

/-- The step lemma: what a pass finds current decides what it leaves. -/
theorem entriesCurrent_of_kept {a : Audit q} (e : CustodyEvent q)
    (kept : CustodyKept w sha256 format prefixes synthetic a e) : EntriesCurrent synthetic a e := by
  cases e with
  | deployed e => trivial
  | ensured now =>
    intro n real info connected live
    refine (ensuredChain_suffix_iff w.text sha256 n now (a.chain n)).mp ?_
    have chain : (auditStep w sha256 format prefixes a (.ensured now)).chain n =
        ensuredChain w.text sha256 n now (a.chain n) := by
      have next := ensureCustodyData_chain w.text sha256 now a.deployment.net.server n
      rw [connected, Option.any_some, live, if_pos (by decide)] at next
      change ((ensureCustodyData w.text sha256 now a.deployment.net.server).chainEntries.get? (.text n)).getD [] = _
      rw [next, Option.getD_some, Audit.chain]
    exact chain ▸ kept.untouched now rfl n real

theorem SentOnly.kept {a : Audit q} (sound : SentOnly format synthetic a) (needs : NeedsKey w)
    (plain : ∀ text, format.keyText (.text text) = text) (e : CustodyEvent q) (current : EntriesCurrent synthetic a e) :
    CustodyKept w sha256 format prefixes synthetic a e := by
  refine ⟨fun n real => (sound.step needs plain e current).custody plain real, ?_⟩
  rintro now rfl n real
  rw [Audit.chain]
  cases found : (auditStep w sha256 format prefixes a (.ensured now)).deployment.net.server.chainEntries.get? (.text n) with
  | none => exact List.nil_suffix
  | some entries => exact ensured_suffix current real found

end

/-- Over every run of messages, snapshots, restarts, retirements and passes, the chains of the nodes that are not
synthetic stay theirs, and verified where they say so, exactly when every pass finds the last entry of each of them
that is connected to be of the hour. -/
theorem custody_kept_iff (w : Listener) (sha256 : Sha256) (format : SnapshotFormat) (prefixes : List String)
    (synthetic : String → Bool) (nodes : Dict String Fields) (events : List (CustodyEvent q)) (needs : NeedsKey w)
    (plain : ∀ text, format.keyText (.text text) = text) :
    Along (auditStep w sha256 format prefixes) (CustodyKept w sha256 format prefixes synthetic) ⟨.fresh nodes, []⟩ events ↔
      Along (auditStep w sha256 format prefixes) (EntriesCurrent synthetic) ⟨.fresh nodes, []⟩ events := by
  constructor
  · intro kept
    rw [along_iff_split] at kept ⊢
    exact fun before e after split => entriesCurrent_of_kept e (kept before e after split)
  · intro current
    have fresh : SentOnly format synthetic (⟨.fresh nodes, []⟩ : Audit q) := by
      refine ⟨fun _ _ => rfl, ?_, ?_, ?_⟩
      · intro key entries found
        cases found
      · intro snap disk
        cases disk
      · intro item member
        cases member
    exact along_of_invariant (I := SentOnly format synthetic) (fun a e sound admitted => sound.step needs plain e admitted)
      (fun a e sound admitted => sound.kept needs plain e admitted) fresh current

end

/-! ### A real node, with and without an entry for the hour -/

def oneReal : Dict String Fields := Dict.empty.insert "ret1a2b3c4d" [("status", .str "active")]

def atNoon : PassTime := { nowIso := "2026-01-01T12:00:00+00:00", hourUtc := "2026-01-01T12:00:00Z" }

/-- A listener that accepts whatever names a node with a key. -/
def keyedListener : Listener :=
  { mapListener with
    verifies := fun keys entry => ((lookup "node_id" entry).bind Json.hashKey).any fun name => (keys name).isSome }

def chainEntryMsg (nodeId hourUtc : String) : Json :=
  .dict [("type", .str "CHAIN_ENTRY"), ("entry", .dict [("node_id", .str nodeId), ("hour_utc", .str hourUtc),
    ("prev_hash", .str "genesis"), ("entry_hash", .str "e1")])]

/-- The node registers its key and sends the hour's entry before the pass. -/
def sentAtNoon : List (CustodyEvent twoShards) :=
  registeredEvents.map .deployed ++
    [.deployed (.handled (.received 1 (chainEntryMsg "ret1a2b3c4d" "2026-01-01T12:00:00Z") noon true)), .ensured atNoon]

theorem custody_kept_iff_sent_at_noon :
    Along (auditStep keyedListener id plainFormat [])
      (CustodyKept keyedListener id plainFormat [] Registry.isSyntheticNode) ⟨.fresh oneReal, []⟩ sentAtNoon := by
  refine (custody_kept_iff keyedListener id plainFormat [] Registry.isSyntheticNode oneReal sentAtNoon ?_
    fun _ => rfl).mpr ⟨trivial, trivial, trivial, ?_, trivial⟩
  · intro keys entry accepted
    obtain ⟨name, named, held⟩ := (Option.any_eq_true _ _).mp accepted
    exact ⟨name, held, .inl named⟩
  · intro n real info connected live
    have only : n = "ret1a2b3c4d" := by
      by_contra other
      change (Dict.empty.insert "ret1a2b3c4d" [("status", Json.str "active")]).get? n = some info at connected
      rw [Dict.get?_insert_ne _ _ (Ne.symm other)] at connected
      cases connected
    subst only
    decide +kernel

/-- Nothing was sent, no key is registered, and the chain has an entry that says it is verified. -/
theorem verified_entry_fabricated :
    ¬ Along (auditStep keyedListener id plainFormat [])
      (CustodyKept keyedListener id plainFormat [] Registry.isSyntheticNode) ⟨.fresh oneReal, []⟩
      [(.ensured atNoon : CustodyEvent twoShards)] := by
  rintro ⟨kept, -⟩
  have own := (kept.chains "ret1a2b3c4d" (by decide)).own.length_le
  exact absurd own (by decide +kernel)

end Retina.Tcp
