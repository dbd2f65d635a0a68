import RetinaServer.Pipelines.Factory

/-! The three places that hold a node's geometry: the record under `connected_nodes`, and the registries of the two
libraries. Every door writes the record on the event loop and submits a registration to one thread, which
runs what it is given in order; the handshake sends CONFIG_ACK in between. -/
namespace Retina.Pipelines
open OrderedDict Tcp Runs

/-- The registry of a library, which holds for a node what the node was registered with last. -/
structure GeometryRegistry (ρ : Type) where
  empty : ρ
  registerNode : ρ → String → Fields → ρ
  config : ρ → String → Option Fields
  config_empty : ∀ nodeId, config empty nodeId = none
  config_registerNode : ∀ r nodeId cfg, config (registerNode r nodeId cfg) nodeId = some cfg

/-- The node, the libraries, and `config_hash`. -/
structure Registration (α β : Type) where
  nodeId : String
  text : PyText
  configHash : Fields → String
  analytics : GeometryRegistry α
  associator : GeometryRegistry β

inductive Peer where
  | tcp
  | v1
  | http
  | httpBulk
deriving DecidableEq

/-- What the doors read of the node's record. -/
structure NodeRecord where
  configHash : Json
  config : Fields
  peer : Peer

/-- A task of the event loop, by what it awaits. -/
inductive Task where
  | idle
  | sendingAck (canonical : Fields)
  | readingActive
  /-- The database has answered. -/
  | answered (config : Fields)
  | registering

structure Registries (τ α β : Type) where
  /-- The node's active configuration in the database. -/
  active : Option Fields
  connected : Option NodeRecord
  tasks : τ → Task
  /-- What was submitted to the registration thread and has not ended. -/
  executor : List (τ × Fields)
  /-- The first of these has registered with the analytics. -/
  halfDone : Bool
  analytics : α
  associator : β
  /-- Every configuration written to `connected_nodes`, in order. -/
  written : List Fields
  /-- Every configuration submitted for registration, in order. -/
  submitted : List Fields

inductive Door (τ : Type) where
  /-- A CONFIG message, up to the sending of CONFIG_ACK. -/
  | handshake (t : τ) (payload configHash : Json)
  /-- The send ends, or fails. -/
  | acknowledged (t : τ) (sent : Bool)
  | registerWithPipeline (t : τ)
  | answer (t : τ)
  | resume (t : τ)
  /-- The first detections of a node, over HTTP. -/
  | firstContact (t : τ)
  | bulk (t : τ) (config : Option Fields)
  /-- The database takes another active configuration. -/
  | activate (config : Fields)
  /-- The registration thread's two calls. -/
  | registerAnalytics
  | registerAssociator

namespace Registries

variable {τ α β : Type} [DecidableEq τ]

def write (s : Registries τ α β) (record : NodeRecord) : Registries τ α β :=
  { s with connected := some record, written := s.written ++ [record.config] }

def await (s : Registries τ α β) (t : τ) (task : Task) : Registries τ α β :=
  { s with tasks := Function.update s.tasks t task }

/-- `await register_node(node_id, config)`. -/
def submit (s : Registries τ α β) (t : τ) (config : Fields) : Registries τ α β :=
  { s.await t .registering with executor := s.executor ++ [(t, config)], submitted := s.submitted ++ [config] }

variable (w : Registration α β)

/-- The configuration of a node that has sent none. -/
def bareConfig : Fields := [("node_id", .str w.nodeId)]

/-- `register_node_blocking` resolves the altitudes of the canonical form. -/
def registered (config : Fields) : Fields := resolveAltitudes (canonicalConfig w.text (.dict config))

def handshake (s : Registries τ α β) (t : τ) (payload configHash : Json) : Registries τ α β :=
  match validateNodeConfig w.text payload with
  | .accepted =>
      let canonical := canonicalConfig w.text payload
      let s := s.write { configHash, config := canonical, peer := .tcp }
      -- The event log takes the hash's first eight characters.
      if configHash.sliceable then s.await t (.sendingAck canonical) else s
  | _ => s

/-- The connection ends where the send fails. -/
def acknowledged (s : Registries τ α β) (t : τ) (sent : Bool) : Registries τ α β :=
  match s.tasks t with
  | .sendingAck canonical => if sent then s.submit t canonical else s.await t .idle
  | _ => s

/-- A node without an active configuration is not registered. -/
def answer (s : Registries τ α β) (t : τ) : Registries τ α β :=
  match s.tasks t with
  | .readingActive => s.await t (s.active.elim .idle .answered)
  | _ => s

def resume (s : Registries τ α β) (t : τ) : Registries τ α β :=
  match s.tasks t with
  | .answered declared =>
      let config := canonicalConfig w.text (.dict declared)
      (s.write { configHash := .str (w.configHash declared), config, peer := .v1 }).submit t config
  | _ => s

def firstContact (s : Registries τ α β) (t : τ) : Registries τ α β :=
  match s.connected with
  | none =>
      let legacyConfig := canonicalConfig w.text (.dict (bareConfig w))
      (s.write { configHash := .str "", config := legacyConfig, peer := .http }).submit t legacyConfig
  | some _ => s

/-- `entry.config or {"node_id": node_id}`. -/
def entryConfig (config : Option Fields) : Fields :=
  match config with
  | some (field :: rest) => field :: rest
  | _ => bareConfig w

/-- A hash mismatch counts only against a record that this door wrote. -/
def bulkChanged (known : NodeRecord) (config : Option Fields) : Bool :=
  match config with
  | none => false
  | some _ => decide (known.peer = .httpBulk) && !known.configHash.eqv (.str (w.configHash (entryConfig w config)))

def bulk (s : Registries τ α β) (t : τ) (config : Option Fields) : Registries τ α β :=
  if s.connected.all fun known => bulkChanged w known config then
    let canonical := canonicalConfig w.text (.dict (entryConfig w config))
    (s.write { configHash := .str (w.configHash (entryConfig w config)), config := canonical, peer := .httpBulk }).submit
      t canonical
  else s

/-- The first call of `register_node_blocking`. -/
def registerAnalytics (s : Registries τ α β) : Registries τ α β :=
  match s.executor, s.halfDone with
  | (_, config) :: _, false =>
      { s with analytics := w.analytics.registerNode s.analytics w.nodeId (registered w config), halfDone := true }
  | _, _ => s

/-- The second call. The task that awaited it goes on. -/
def registerAssociator (s : Registries τ α β) : Registries τ α β :=
  match s.executor, s.halfDone with
  | (t, config) :: rest, true =>
      { s.await t .idle with
        associator := w.associator.registerNode s.associator w.nodeId (registered w config)
        executor := rest
        halfDone := false }
  | _, _ => s

/-- A task begins only where it is idle. -/
def step (s : Registries τ α β) : Door τ → Registries τ α β
  | .handshake t payload configHash => match s.tasks t with
      | .idle => s.handshake w t payload configHash
      | _ => s
  | .acknowledged t sent => s.acknowledged t sent
  | .registerWithPipeline t => match s.tasks t with
      | .idle => s.await t .readingActive
      | _ => s
  | .answer t => s.answer t
  | .resume t => s.resume w t
  | .firstContact t => match s.tasks t with
      | .idle => s.firstContact w t
      | _ => s
  | .bulk t config => match s.tasks t with
      | .idle => s.bulk w t config
      | _ => s
  | .activate config => { s with active := some config }
  | .registerAnalytics => s.registerAnalytics w
  | .registerAssociator => s.registerAssociator w

/-- A server that has not heard of the node. -/
def start : Registries τ α β where
  active := none
  connected := none
  tasks _ := .idle
  executor := []
  halfDone := false
  analytics := w.analytics.empty
  associator := w.associator.empty
  written := []
  submitted := []

def Ended (s : Registries τ α β) : Prop := ∀ t, s.tasks t = .idle

/-- The record holds what was written last, and both libraries that with its altitudes resolved. -/
structure Agree (s : Registries τ α β) : Prop where
  connected : s.connected.map NodeRecord.config = s.written.getLast?
  analytics : w.analytics.config s.analytics w.nodeId = s.written.getLast?.map resolveAltitudes
  associator : w.associator.config s.associator w.nodeId = s.written.getLast?.map resolveAltitudes

/-- The registration submitted last is of the configuration written last, or of one that resolves to the same. -/
def LastSubmitted (s : Registries τ α β) : Prop :=
  s.submitted.getLast?.map resolveAltitudes = s.written.getLast?.map resolveAltitudes

def Canonical (config : Fields) : Prop := canonicalConfig w.text (.dict config) = config

/-- The libraries hold what has left the thread's queue. -/
structure Sound (s : Registries τ α β) : Prop where
  connected : s.connected.map NodeRecord.config = s.written.getLast?
  submitted : ∀ config ∈ s.submitted, Canonical w config
  acks : ∀ t config, s.tasks t = .sendingAck config → Canonical w config
  distinct : (s.executor.map Prod.fst).Nodup
  registering : ∀ t ∈ s.executor.map Prod.fst, s.tasks t = .registering
  halfDone : s.halfDone = true → s.executor ≠ []
  stores : ∃ done, s.submitted = done ++ s.executor.map Prod.snd ∧
    w.associator.config s.associator w.nodeId = done.getLast?.map resolveAltitudes ∧
    w.analytics.config s.analytics w.nodeId =
      (if s.halfDone then s.executor.head?.map Prod.snd else done.getLast?).map resolveAltitudes

variable {w : Registration α β} {s : Registries τ α β}

omit [DecidableEq τ] in
theorem canonical_of_dict (raw : Fields) : Canonical w (canonicalConfig w.text (.dict raw)) :=
  canonicalConfig_idempotent w.text raw

omit [DecidableEq τ] in
theorem registered_of_canonical (canonical : Canonical w config) : registered w config = resolveAltitudes config := by
  rw [registered, canonical]

omit [DecidableEq τ] in
theorem sound_write (sound : Sound w s) (record : NodeRecord) : Sound w (s.write record) :=
  { sound with connected := by simp [write] }

theorem sound_await (sound : Sound w s) (free : s.tasks t ≠ .registering)
    (canonical : ∀ config, task = .sendingAck config → Canonical w config) : Sound w (s.await t task) := by
  refine { sound with acks := ?_, registering := ?_ }
  · intro t' config
    by_cases same : t' = t
    · subst same
      simp only [await, Function.update_self]
      exact canonical config
    · simp only [await, Function.update_of_ne same]
      exact sound.acks t' config
  · intro t' listed
    have registering := sound.registering t' listed
    have other : t' ≠ t := fun same => free (same ▸ registering)
    simp only [await, Function.update_of_ne other, registering]

theorem sound_submit (sound : Sound w s) (free : s.tasks t ≠ .registering) (canonical : Canonical w config) :
    Sound w (s.submit t config) := by
  have unlisted : t ∉ s.executor.map Prod.fst := fun listed => free (sound.registering t listed)
  refine { sound with submitted := ?_, acks := ?_, distinct := ?_, registering := ?_, halfDone := ?_, stores := ?_ }
  · intro config' listed
    rcases List.mem_append.mp listed with before | now
    · exact sound.submitted config' before
    · exact List.mem_singleton.mp now ▸ canonical
  · intro t' config'
    by_cases same : t' = t
    · simp only [submit, await, same, Function.update_self]
      rintro ⟨⟩
    · simp only [submit, await, Function.update_of_ne same]
      exact sound.acks t' config'
  · simp only [submit, List.map_append, List.map_cons, List.map_nil]
    exact List.nodup_append.mpr ⟨sound.distinct, List.nodup_singleton t, by
      rintro t' listed _ (⟨⟩ | ⟨_, ⟨⟩⟩) rfl
      exact unlisted listed⟩
  · intro t' listed
    by_cases same : t' = t
    · simp only [submit, await, same, Function.update_self]
    · simp only [submit, List.map_append, List.map_cons, List.map_nil, List.mem_append, List.mem_singleton, same,
        or_false] at listed
      simp only [submit, await, Function.update_of_ne same]
      exact sound.registering t' listed
  · exact fun _ => List.append_ne_nil_of_right_ne_nil _ (List.cons_ne_nil _ _)
  · obtain ⟨done, submitted, associator, analytics⟩ := sound.stores
    refine ⟨done, ?_, associator, ?_⟩
    · simp only [submit, submitted, List.map_append, List.map_cons, List.map_nil, List.append_assoc]
    · change _ = (if s.halfDone = true then (s.executor ++ [(t, config)]).head?.map Prod.snd else _).map _
      by_cases half : s.halfDone = true
      · obtain ⟨first, rest, queued⟩ := List.exists_cons_of_ne_nil (sound.halfDone half)
        rw [if_pos half, queued] at analytics ⊢
        exact analytics
      · rw [if_neg half] at analytics ⊢
        exact analytics

omit [DecidableEq τ] in
theorem sound_registerAnalytics (sound : Sound w s) : Sound w (s.registerAnalytics w) := by
  cases queued : s.executor with
  | nil =>
    have unmoved : s.registerAnalytics w = s := by simp only [registerAnalytics, queued]
    rwa [unmoved]
  | cons job rest =>
    obtain ⟨t, config⟩ := job
    cases waiting : s.halfDone with
    | true =>
      have unmoved : s.registerAnalytics w = s := by simp only [registerAnalytics, queued, waiting]
      rwa [unmoved]
    | false =>
      have moved : s.registerAnalytics w = { s with
          analytics := w.analytics.registerNode s.analytics w.nodeId (registered w config), halfDone := true } := by
        simp only [registerAnalytics, queued, waiting]
      rw [moved]
      obtain ⟨done, submitted, associator, -⟩ := sound.stores
      have canonical : Canonical w config := sound.submitted config (by rw [submitted, queued]; simp)
      refine { sound with halfDone := ?_, stores := ⟨done, submitted, associator, ?_⟩ }
      · exact fun _ => queued ▸ List.cons_ne_nil _ _
      · simp [w.analytics.config_registerNode, queued, registered_of_canonical canonical]

theorem sound_registerAssociator (sound : Sound w s) : Sound w (s.registerAssociator w) := by
  cases queued : s.executor with
  | nil =>
    have unmoved : s.registerAssociator w = s := by simp only [registerAssociator, queued]
    rwa [unmoved]
  | cons job rest =>
    obtain ⟨t, config⟩ := job
    cases waiting : s.halfDone with
    | false =>
      have unmoved : s.registerAssociator w = s := by simp only [registerAssociator, queued, waiting]
      rwa [unmoved]
    | true =>
      have moved : s.registerAssociator w = { s.await t .idle with
          associator := w.associator.registerNode s.associator w.nodeId (registered w config)
          executor := rest
          halfDone := false } := by simp only [registerAssociator, queued, waiting]
      rw [moved]
      obtain ⟨done, submitted, -, analytics⟩ := sound.stores
      have canonical : Canonical w config := sound.submitted config (by rw [submitted, queued]; simp)
      have distinct := sound.distinct
      rw [queued, List.map_cons, List.nodup_cons] at distinct
      refine { sound with acks := ?_, distinct := distinct.2, registering := ?_, halfDone := by rintro ⟨⟩, stores := ?_ }
      · intro t' config'
        by_cases same : t' = t
        · simp only [await, same, Function.update_self]
          rintro ⟨⟩
        · simp only [await, Function.update_of_ne same]
          exact sound.acks t' config'
      · intro t' listed
        have other : t' ≠ t := fun same => distinct.1 (same ▸ listed)
        simp only [await, Function.update_of_ne other]
        exact sound.registering t' (by rw [queued]; exact List.mem_cons_of_mem _ listed)
      · refine ⟨done ++ [config], ?_, ?_, ?_⟩
        · simp [await, submitted, queued]
        · simp [w.associator.config_registerNode, registered_of_canonical canonical]
        · simp [await, analytics, waiting, queued]

theorem sound_handshake (sound : Sound w s) (free : s.tasks t ≠ .registering) (payload configHash : Json) :
    Sound w (s.handshake w t payload configHash) := by
  simp only [handshake]
  cases payload with
  | dict raw =>
    split
    · split
      · exact sound_await (sound_write sound _) free
          (fun config same => Task.sendingAck.inj same ▸ canonical_of_dict raw)
      · exact sound_write sound _
    · exact sound
  | null | bool _ | int _ | float _ | str _ | list _ => exact sound

theorem sound_firstContact (sound : Sound w s) (free : s.tasks t ≠ .registering) : Sound w (s.firstContact w t) := by
  simp only [firstContact]
  split
  · exact sound_submit (sound_write sound _) free (canonical_of_dict _)
  · exact sound

theorem sound_bulk (sound : Sound w s) (free : s.tasks t ≠ .registering) (config : Option Fields) :
    Sound w (s.bulk w t config) := by
  simp only [bulk]
  split
  · exact sound_submit (sound_write sound _) free (canonical_of_dict _)
  · exact sound

theorem sound_step (sound : Sound w s) (e : Door τ) : Sound w (s.step w e) := by
  have free {t : τ} {task : Task} (phase : s.tasks t = task) (other : task ≠ .registering) : s.tasks t ≠ .registering :=
    phase ▸ other
  cases e with
  | handshake t payload configHash =>
    simp only [step]
    split
    · rename_i phase
      exact sound_handshake sound (free phase (by rintro ⟨⟩)) payload configHash
    · exact sound
  | acknowledged t sent =>
    simp only [step, acknowledged]
    split
    · rename_i canonical phase
      split
      · exact sound_submit sound (free phase (by rintro ⟨⟩)) (sound.acks t canonical phase)
      · exact sound_await sound (free phase (by rintro ⟨⟩)) (by rintro _ ⟨⟩)
    · exact sound
  | registerWithPipeline t =>
    simp only [step]
    split
    · rename_i phase
      exact sound_await sound (free phase (by rintro ⟨⟩)) (by rintro _ ⟨⟩)
    · exact sound
  | answer t =>
    simp only [step, answer]
    split
    · rename_i phase
      refine sound_await sound (free phase (by rintro ⟨⟩)) ?_
      cases s.active <;> rintro _ ⟨⟩
    · exact sound
  | resume t =>
    simp only [step, resume]
    split
    · rename_i declared phase
      exact sound_submit (sound_write sound _) (free phase (by rintro ⟨⟩)) (canonical_of_dict declared)
    · exact sound
  | firstContact t =>
    simp only [step]
    split
    · rename_i phase
      exact sound_firstContact sound (free phase (by rintro ⟨⟩))
    · exact sound
  | bulk t config =>
    simp only [step]
    split
    · rename_i phase
      exact sound_bulk sound (free phase (by rintro ⟨⟩)) config
    · exact sound
  | activate config => exact { sound with }
  | registerAnalytics => exact sound_registerAnalytics sound
  | registerAssociator => exact sound_registerAssociator sound

omit [DecidableEq τ] in
theorem sound_start : Sound w (start w : Registries τ α β) where
  connected := rfl
  submitted _ listed := absurd listed List.not_mem_nil
  acks _ _ awaited := by cases awaited
  distinct := List.nodup_nil
  registering _ listed := absurd listed List.not_mem_nil
  halfDone half := by cases half
  stores := ⟨[], rfl, w.associator.config_empty _, w.analytics.config_empty _⟩

omit [DecidableEq τ] in
/-- Where all have ended nothing is queued, and the libraries hold what was submitted last. -/
theorem agree_iff_lastSubmitted (sound : Sound w s) (ended : Ended s) : Agree w s ↔ LastSubmitted s := by
  have queued : s.executor = [] := by
    refine List.eq_nil_iff_forall_not_mem.mpr fun job listed => ?_
    have registering := sound.registering job.1 (List.mem_map_of_mem listed)
    rw [ended] at registering
    cases registering
  have whole : s.halfDone = false := Bool.eq_false_iff.mpr fun half => sound.halfDone half queued
  obtain ⟨done, submitted, associator, analytics⟩ := sound.stores
  rw [queued, List.map_nil, List.append_nil] at submitted
  rw [whole, if_neg Bool.false_ne_true] at analytics
  constructor
  · intro agree
    rw [LastSubmitted, submitted, ← associator]
    exact agree.associator
  · intro last
    rw [LastSubmitted, submitted] at last
    exact { connected := sound.connected, analytics := analytics.trans last, associator := associator.trans last }

/-! ### Where the send neither fails nor is overtaken -/

/-- No CONFIG ends its connection once its configuration is written, and CONFIG_ACK is sent before another is. -/
def Orderly (s : Registries τ α β) : Door τ → Prop
  | .handshake _ _ configHash => configHash.sliceable = true
  | .acknowledged t sent =>
      ∀ canonical, s.tasks t = .sendingAck canonical → sent = true ∧ s.written.getLast? = some canonical
  | _ => True

/-- What was written last has been submitted, or the task that wrote it is sending its CONFIG_ACK. -/
def Covered (s : Registries τ α β) : Prop :=
  LastSubmitted s ∨ ∃ t canonical, s.tasks t = .sendingAck canonical ∧ s.written.getLast? = some canonical

theorem covered_submit (s : Registries τ α β) (t : τ) (record : NodeRecord) :
    Covered ((s.write record).submit t record.config) := by
  refine .inl ?_
  simp [LastSubmitted, submit, write, await]

theorem covered_await (covered : Covered s) (elsewhere : ∀ canonical, s.tasks t ≠ .sendingAck canonical) (task : Task) :
    Covered (s.await t task) := by
  refine covered.imp id ?_
  rintro ⟨t', canonical, sending, last⟩
  have other : t' ≠ t := fun same => elsewhere canonical (same ▸ sending)
  exact ⟨t', canonical, (Function.update_of_ne other ..).trans sending, last⟩

theorem covered_handshake (covered : Covered s) (t : τ) (payload : Json) (sliceable : configHash.sliceable = true) :
    Covered (s.handshake w t payload configHash) := by
  simp only [handshake, sliceable, if_true]
  split
  · exact .inr ⟨t, canonicalConfig w.text payload, Function.update_self .., List.getLast?_concat ..⟩
  · exact covered

theorem covered_registerAssociator (sound : Sound w s) (covered : Covered s) : Covered (s.registerAssociator w) := by
  simp only [registerAssociator]
  split
  · rename_i queued _
    refine covered_await covered (fun canonical sending => ?_) .idle
    have registering := sound.registering _ (List.mem_map_of_mem (queued ▸ List.mem_cons_self))
    rw [sending] at registering
    cases registering
  · exact covered

theorem covered_step (sound : Sound w s) (covered : Covered s) {e : Door τ} (orderly : Orderly s e) :
    Covered (s.step w e) := by
  have elsewhere {t : τ} {task : Task} (phase : s.tasks t = task) (other : ∀ canonical, task ≠ .sendingAck canonical) :
      ∀ canonical, s.tasks t ≠ .sendingAck canonical := phase ▸ other
  cases e with
  | handshake t payload configHash =>
    simp only [step]
    split
    · exact covered_handshake covered t payload orderly
    · exact covered
  | acknowledged t sent =>
    simp only [step, acknowledged]
    split
    · rename_i canonical phase
      obtain ⟨rfl, last⟩ := orderly canonical phase
      refine .inl ?_
      simp [LastSubmitted, submit, await, last]
    · exact covered
  | registerWithPipeline t =>
    simp only [step]
    split
    · rename_i phase
      exact covered_await covered (elsewhere phase (by rintro _ ⟨⟩)) _
    · exact covered
  | answer t =>
    simp only [step, answer]
    split
    · rename_i phase
      exact covered_await covered (elsewhere phase (by rintro _ ⟨⟩)) _
    · exact covered
  | resume t =>
    simp only [step, resume]
    split
    · exact covered_submit ..
    · exact covered
  | firstContact t =>
    simp only [step, firstContact]
    split
    · split
      · exact covered_submit ..
      · exact covered
    · exact covered
  | bulk t config =>
    simp only [step, bulk]
    split
    · split
      · exact covered_submit ..
      · exact covered
    · exact covered
  | activate config => exact covered
  | registerAnalytics =>
    simp only [step, registerAnalytics]
    split <;> exact covered
  | registerAssociator => exact covered_registerAssociator sound covered

/-- The handshake is what can part the three: without its failed sends, and without a write that its send
lets past, they agree once all have ended. -/
theorem agree_of_orderly (w : Registration α β) {events : List (Door τ)}
    (orderly : Along (step w) Orderly (start w : Registries τ α β) events)
    (ended : Ended (run (step w) (start w : Registries τ α β) events)) :
    Agree w (run (step w) (start w : Registries τ α β) events) := by
  have reached : Sound w (run (step w) (start w : Registries τ α β) events) ∧
      Covered (run (step w) (start w : Registries τ α β) events) := by
    refine invariant (I := fun s => Sound w s ∧ Covered s) ?_ ⟨sound_start, .inl rfl⟩ orderly
    exact fun s e held allowed => ⟨sound_step held.1 e, covered_step held.1 held.2 allowed⟩
  refine (agree_iff_lastSubmitted reached.1 ended).mpr (reached.2.resolve_right ?_)
  rintro ⟨t, canonical, sending, -⟩
  rw [ended] at sending
  cases sending

end Registries

open Registries

variable {τ α β : Type} [DecidableEq τ]

/-- A registry that is a dictionary of its nodes' configurations. -/
def dictRegistry : GeometryRegistry (Dict String Fields) where
  empty := .empty
  registerNode r nodeId cfg := r.insert nodeId cfg
  config r nodeId := r.get? nodeId
  config_empty _ := rfl
  config_registerNode _ _ _ := Dict.get?_insert_self ..

def net7 : Registration (Dict String Fields) (Dict String Fields) where
  nodeId := "net7"
  text := { parse := fun _ => none, repr := fun _ => "", str := fun _ => "" }
  configHash := fun _ => "c0"
  analytics := dictRegistry
  associator := dictRegistry

/-- A configuration is replaced while the handshake of the one before it sends its CONFIG_ACK. -/
def overtakenAck : List (Door Bool) :=
  [.activate (placedAt 20), .handshake false (.dict (placedAt 10)) (.str "a1"),
    .registerWithPipeline true, .answer true, .resume true, .acknowledged false true,
    .registerAnalytics, .registerAssociator, .registerAnalytics, .registerAssociator]

end Retina.Pipelines
