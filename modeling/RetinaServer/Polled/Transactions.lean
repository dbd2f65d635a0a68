import RetinaServer.Library.Dict
import RetinaServer.Library.Transaction
import Mathlib.Data.Rat.Defs

/-! The trust of polled radars. The administrators, the owners and the poller write a radar's row from transactions of
their own, each under the epoch that it read. -/
namespace Retina.Polled.Trust

inductive TrustState where
  | probation
  | graduated
deriving DecidableEq

/-- `_KINDS`. -/
def TrustState.kind : TrustState → String
  | .graduated => "graduated"
  | .probation => "returned_to_probation"

/-- A row of `polled_radars`, under its node id. -/
structure PolledRadar where
  epoch : ℤ
  endpointRaw : String
  scheme : String
  host : String
  port : Nat
  endpointKey : String
  authUser : Option String
  authSecretEnc : Option String
  lastResolvedIp : Option String
  resolvedAt : Option ℚ
  networkMoves : Nat := 0
  lastNetworkMoveAt : Option ℚ := none
  configFingerprint : String
  probePassedAt : ℚ
  endpointChangedAt : ℚ
  trustState : TrustState
  unprotected : Bool
  liveness : String
  lastFrameAt : Option ℚ := none
  lastConfigAt : Option ℚ := none
  consecutiveFailures : Nat
  createdAt : ℚ
deriving DecidableEq

structure Node where
  status : String
  activeConfigVersion : Option ℤ
deriving DecidableEq

structure NodeConfig (γ : Type) where
  nodeId : String
  version : ℤ
  fields : γ
  /-- `superseded_at` is set. -/
  superseded : Bool := false
deriving DecidableEq

structure NodeEvent where
  nodeId : String
  kind : String
  epoch : Option ℤ
  actor : String
deriving DecidableEq

structure PolledRadarEndpointHistory where
  nodeId : String
  oldKey : Option String
  newKey : String
  resolvedIp : Option String
  changedBy : String
  changedAt : ℚ
deriving DecidableEq

structure Tables (γ : Type) where
  nodes : Dict String Node
  radars : Dict String PolledRadar
  configs : List (NodeConfig γ)
  nodeEvents : List NodeEvent
  history : List PolledRadarEndpointHistory
  /-- The owners. -/
  claims : Dict String String
deriving DecidableEq

inductive Raised where
  | notPolled
  | epochMoved (epoch : ℤ) (trustState : TrustState)
  | epochChanged
  | endpointAlreadyRegistered
  | configInvalid
  | attributeError
  | integrityError
deriving DecidableEq

inductive Verdict where
  | current
  | held
  | superseded
deriving DecidableEq

/-- What a probe found, the address as it was typed and the stored form of the password among it. -/
structure Probe (δ : Type) where
  endpointRaw : String
  scheme : String
  host : String
  port : Nat
  endpointKey : String
  authUser : Option String
  authSecretEnc : Option String
  address : Option String
  configFingerprint : String
  config : δ

/-- What a task of the poller runs under. -/
structure Target where
  nodeId : String
  epoch : ℤ

/-- What a session selects before its first write, in three selects. The database may have moved on between them. -/
structure Reads (γ : Type) where
  active : Option (NodeConfig γ)
  held : Option (NodeConfig γ)
  highest : Option ℤ

/-! ### The tables -/

section
variable {γ : Type}

def Tables.empty : Tables γ where
  nodes := Dict.empty
  radars := Dict.empty
  configs := []
  nodeEvents := []
  history := []
  claims := Dict.empty

/-- `active_config`. -/
def Tables.activeConfig (nodeId : String) (db : Tables γ) : Option (NodeConfig γ) :=
  (db.configs.filter fun row => decide (row.nodeId = nodeId) && !row.superseded).foldl
    (fun best row => if best.any fun b => decide (row.version ≤ b.version) then best else some row) none

def Tables.highestVersion (nodeId : String) (db : Tables γ) : Option ℤ :=
  ((db.configs.filter fun row => decide (row.nodeId = nodeId)).map NodeConfig.version).max?

/-- The unique index on `endpoint_key`. -/
def Tables.endpointTaken (nodeId endpointKey : String) (db : Tables γ) : Bool :=
  db.radars.items.any fun item => decide (item.1 ≠ nodeId ∧ item.2.endpointKey = endpointKey)

/-- The unique constraint of `node_configs`. -/
def Tables.versionTaken (nodeId : String) (version : ℤ) (db : Tables γ) : Bool :=
  db.configs.any fun row => decide (row.nodeId = nodeId ∧ row.version = version)

/-- `UPDATE polled_radars … WHERE node_id = … AND …`: how many rows it changed. -/
def updateRadar (nodeId : String) (applies : PolledRadar → Bool) (values : PolledRadar → PolledRadar) :
    Transaction (Tables γ) Raised Nat := do
  match (← .query fun db => db.radars.get? nodeId).filter applies with
  | none => pure 0
  | some radar =>
      if ← .query fun db => decide ((values radar).endpointKey ≠ radar.endpointKey) &&
          db.endpointTaken nodeId (values radar).endpointKey then
        .raise .endpointAlreadyRegistered
      else
        .write fun db => { db with radars := db.radars.insert nodeId (values radar) }
        pure 1

def updateNode (nodeId : String) (values : Node → Node) : Transaction (Tables γ) Raised Unit :=
  .write fun db => match db.nodes.get? nodeId with
    | none => db
    | some node => { db with nodes := db.nodes.insert nodeId (values node) }

def supersede (row : NodeConfig γ) : Transaction (Tables γ) Raised Unit :=
  .write fun db =>
    { db with
      configs := db.configs.map fun other =>
        if other.nodeId = row.nodeId ∧ other.version = row.version then { other with superseded := true } else other }

def insertConfig (row : NodeConfig γ) : Transaction (Tables γ) Raised Unit := do
  if ← .query fun db => db.versionTaken row.nodeId row.version then .raise .integrityError
  else .write fun db => { db with configs := db.configs ++ [row] }

end

/-! ### The transactions -/

section
variable {γ δ : Type} [DecidableEq γ] (probedConfig : δ → γ → Option γ)

/-- `active` and `highest` are what it selects. -/
def upsertConfig (nodeId : String) (config : γ) (active : Option (NodeConfig γ)) (highest : Option ℤ) :
    Transaction (Tables γ) Raised ℤ :=
  match active.filter fun row => decide (row.fields = config) with
  | some row => pure row.version
  | none => do
      let version := highest.elim 1 (· + 1)
      match active with
      | some row => supersede row
      | none => pure ()
      insertConfig { nodeId, version, fields := config }
      pure version

structure Registration (γ δ : Type) where
  probe : Probe δ
  config : γ
  owner : String
  unprotected : Bool
  now : ℚ

/-- A minted id that is in use is minted again, so only a fresh one gets here. -/
def createPolledRadar (nodeId : String) (r : Registration γ δ) : Transaction (Tables γ) Raised Unit :=
  .nested do
    if ← .query fun db => (db.nodes.get? nodeId).isSome || (db.radars.get? nodeId).isSome then .raise .integrityError
    else
      .write fun db => { db with nodes := db.nodes.insert nodeId { status := "active", activeConfigVersion := some 1 } }
      insertConfig { nodeId, version := 1, fields := r.config }
      .write fun db => { db with claims := db.claims.insert nodeId r.owner }
      if ← .query fun db => db.endpointTaken nodeId r.probe.endpointKey then .raise .endpointAlreadyRegistered
      else
        .write fun db =>
          { db with
            radars := db.radars.insert nodeId
              { epoch := 1, endpointRaw := r.probe.endpointRaw, scheme := r.probe.scheme, host := r.probe.host
                port := r.probe.port, endpointKey := r.probe.endpointKey, authUser := r.probe.authUser
                authSecretEnc := r.probe.authSecretEnc, lastResolvedIp := r.probe.address
                resolvedAt := r.probe.address.map fun _ => r.now, configFingerprint := r.probe.configFingerprint
                probePassedAt := r.now, endpointChangedAt := r.now, trustState := .probation
                unprotected := r.unprotected, liveness := "pending", consecutiveFailures := 0, createdAt := r.now }
            history := db.history ++
              [{ nodeId, oldKey := none, newKey := r.probe.endpointKey, resolvedIp := r.probe.address
                 changedBy := r.owner, changedAt := r.now }] }

def setTrust (nodeId : String) (trustState : TrustState) (epoch : ℤ) (actor : String) :
    Transaction (Tables γ) Raised Unit := do
  let rowcount ← updateRadar nodeId (fun radar => decide (radar.epoch = epoch ∧ radar.trustState ≠ trustState))
    fun radar => { radar with trustState }
  if rowcount = 1 then
    .write fun db => { db with nodeEvents := db.nodeEvents ++ [{ nodeId, kind := trustState.kind, epoch, actor }] }
  else
    match ← .query fun db => db.radars.get? nodeId with
    | none => .raise .notPolled
    | some radar => if radar.epoch ≠ epoch then .raise (.epochMoved radar.epoch radar.trustState) else pure ()

/-- How far `_check_config` comes with what the radar declares: a verdict, or whether that is something new. -/
def checkConfig (target : Target) (fingerprint : String) : Transaction (Tables γ) Raised (Verdict ⊕ Bool) := do
  match ← .query fun db => db.radars.get? target.nodeId with
  | none => pure (.inl .superseded)
  | some radar =>
      if radar.epoch ≠ target.epoch then pure (.inl .superseded)
      else if (← .query (Tables.activeConfig target.nodeId)).isNone then pure (.inl .held)
      else pure (.inr (decide (fingerprint ≠ radar.configFingerprint)))

/-- A write that does not ask whether it found the epoch. -/
def recordAtEpoch (target : Target) (values : PolledRadar → PolledRadar) : Transaction (Tables γ) Raised Unit := do
  let _ ← updateRadar target.nodeId (fun radar => decide (radar.epoch = target.epoch)) values
  .commit

def addressMoved (target : Target) (address : Option String) (passed : Bool) (now : ℚ) :
    Transaction (Tables γ) Raised Unit :=
  recordAtEpoch target fun radar =>
    { radar with
      lastResolvedIp := address, resolvedAt := some now, networkMoves := radar.networkMoves + 1
      lastNetworkMoveAt := some now, probePassedAt := if passed then now else radar.probePassedAt }

def sameEpoch (target : Target) (config : δ) (reads : Reads γ) (now : ℚ) : Transaction (Tables γ) Raised Verdict :=
  match reads.active with
  | none => pure .held
  | some active => match probedConfig config active.fields with
    | none => pure .held
    | some adopted => do
        let version ← upsertConfig target.nodeId adopted reads.held reads.highest
        let rowcount ← updateRadar target.nodeId (fun radar => decide (radar.epoch = target.epoch)) fun radar =>
          { radar with lastConfigAt := some now }
        if rowcount ≠ 1 then
          -- Another writer moved the epoch on since this session read it.
          .rollback
          pure .superseded
        else if version = active.version then
          .commit
          pure .current
        else
          updateNode target.nodeId fun node => { node with activeConfigVersion := some version }
          .commit
          pure .superseded

def nextEpoch (target : Target) (probe : Probe δ) (reads : Reads γ) (now : ℚ) : Transaction (Tables γ) Raised Verdict :=
  match reads.active with
  | none => pure .held
  | some active => match probedConfig probe.config active.fields with
    | none => pure .held
    | some adopted => do
        let version ← upsertConfig target.nodeId adopted reads.held reads.highest
        let rowcount ← updateRadar target.nodeId (fun radar => decide (radar.epoch = target.epoch)) fun radar =>
          { radar with
            epoch := target.epoch + 1, trustState := .probation, configFingerprint := probe.configFingerprint
            probePassedAt := now, lastResolvedIp := probe.address, resolvedAt := some now, lastConfigAt := some now }
        if rowcount ≠ 1 then
          .rollback
          pure .superseded
        else
          updateNode target.nodeId fun node => { node with activeConfigVersion := some version }
          .commit
          pure .superseded

/-- The columns that another address changes where it is the same host and port, and where it is not. -/
def PolledRadar.readdressed (radar : PolledRadar) (epoch : ℤ) (probe : Probe δ) (unprotected moved : Bool) (now : ℚ) :
    PolledRadar :=
  let reached :=
    { radar with
      endpointRaw := probe.endpointRaw, scheme := probe.scheme, host := probe.host, port := probe.port
      authUser := probe.authUser, authSecretEnc := probe.authSecretEnc, unprotected }
  if moved then
    { reached with
      epoch := epoch + 1, endpointKey := probe.endpointKey, trustState := .probation
      configFingerprint := probe.configFingerprint, probePassedAt := now, endpointChangedAt := now
      lastResolvedIp := probe.address, resolvedAt := some now, lastConfigAt := some now, liveness := "pending"
      consecutiveFailures := 0 }
  else reached

/-- `epoch` and `oldKey` are the radar's as it was read. -/
def setPolledRadarAddress (nodeId : String) (epoch : ℤ) (oldKey : String) (probe : Probe δ) (unprotected : Bool)
    (changedBy : String) (now : ℚ) : Transaction (Tables γ) Raised Bool :=
  let moved := decide (probe.endpointKey ≠ oldKey)
  .nested do
    let rowcount ← updateRadar nodeId (fun radar => decide (radar.epoch = epoch)) fun radar =>
      radar.readdressed epoch probe unprotected moved now
    if rowcount ≠ 1 then .raise .epochChanged
    else if moved then
      match ← .query (Tables.activeConfig nodeId) with
      | none => .raise .attributeError
      | some active => match probedConfig probe.config active.fields with
        | none => .raise .configInvalid
        | some config =>
            let version ← upsertConfig nodeId config (some active) (← .query (Tables.highestVersion nodeId))
            updateNode nodeId fun node => { node with activeConfigVersion := some version }
            .write fun db =>
              { db with
                history := db.history ++
                  [{ nodeId, oldKey := some oldKey, newKey := probe.endpointKey, resolvedIp := probe.address
                     changedBy, changedAt := now }] }
            pure true
    else pure false

/-- `radar` is the row as it was read. -/
def retirePolledRadar (nodeId : String) (radar : Option PolledRadar) (actor : String) :
    Transaction (Tables γ) Raised Unit := do
  .write fun db => { db with claims := db.claims.erase nodeId }
  if radar.isSome then
    -- The history goes by the database's cascade.
    .write fun db =>
      { db with
        radars := db.radars.erase nodeId
        history := db.history.filter fun entry => decide (entry.nodeId ≠ nodeId) }
  updateNode nodeId fun node => { node with status := "retired" }
  .write fun db =>
    { db with
      nodeEvents := db.nodeEvents ++ [{ nodeId, kind := "removed", epoch := radar.map PolledRadar.epoch, actor }] }

/-- What the task hears of the radar. -/
def persist (target : Target) (liveness : String) (failures : Nat) (frameAt : Option ℚ) :
    Transaction (Tables γ) Raised Unit :=
  recordAtEpoch target fun radar =>
    { radar with liveness, consecutiveFailures := failures, lastFrameAt := frameAt.or radar.lastFrameAt }

inductive Event (γ δ : Type) where
  | registered (nodeId : String) (registration : Registration γ δ)
  | setTrust (nodeId : String) (trustState : TrustState) (epoch : ℤ) (actor : String)
  | checkConfig (target : Target) (fingerprint : String)
  | addressMoved (target : Target) (address : Option String) (passed : Bool) (now : ℚ)
  | sameEpoch (target : Target) (config : δ) (reads : Reads γ) (now : ℚ)
  | nextEpoch (target : Target) (probe : Probe δ) (reads : Reads γ) (now : ℚ)
  | setAddress (nodeId : String) (epoch : ℤ) (oldKey : String) (probe : Probe δ) (unprotected : Bool)
      (changedBy : String) (now : ℚ)
  | retired (nodeId : String) (radar : Option PolledRadar) (actor : String)
  | persisted (target : Target) (liveness : String) (failures : Nat) (frameAt : Option ℚ)

/-- What a transaction comes to. -/
inductive Answer where
  | done
  | verdict (v : Verdict)
  | declared (changed : Bool)
  | moved (began : Bool)
deriving DecidableEq

/-- One transaction, in a session of its own. -/
def transact (db : Tables γ) : Event γ δ → Except Raised Answer × Tables γ
  | .registered nodeId r => answered (fun _ => .done) (.committing (createPolledRadar nodeId r))
  | .setTrust nodeId trustState epoch actor =>
      answered (fun _ => .done) (.committing (setTrust nodeId trustState epoch actor))
  | .checkConfig target fingerprint => answered (Sum.elim .verdict .declared) (checkConfig target fingerprint)
  | .addressMoved target address passed now => answered (fun _ => .done) (addressMoved target address passed now)
  | .sameEpoch target config reads now => answered .verdict (sameEpoch probedConfig target config reads now)
  | .nextEpoch target probe reads now => answered .verdict (nextEpoch probedConfig target probe reads now)
  | .setAddress nodeId epoch oldKey probe unprotected changedBy now =>
      answered .moved
        (.committing (setPolledRadarAddress probedConfig nodeId epoch oldKey probe unprotected changedBy now))
  | .retired nodeId radar actor => answered (fun _ => .done) (.committing (retirePolledRadar nodeId radar actor))
  | .persisted target liveness failures frameAt =>
      answered (fun _ => .done) (persist target liveness failures frameAt)
where
  answered {α : Type} (f : α → Answer) (t : Transaction (Tables γ) Raised α) : Except Raised Answer × Tables γ :=
    ((t.perform db).1.map f, (t.perform db).2)

def step (db : Tables γ) (e : Event γ δ) : Tables γ := (transact probedConfig db e).2

end

/-! ### What the statements make of the tables -/

section
variable {γ : Type} {s : Session (Tables γ)}

theorem run_updateRadar_missed (values : PolledRadar → PolledRadar)
    (missed : (s.working.radars.get? nodeId).filter applies = none) :
    (updateRadar nodeId applies values).run s = (.ok 0, s) := by
  simp only [updateRadar, Transaction.run_bind_query, missed, Transaction.run_pure]

theorem run_updateRadar_met {values : PolledRadar → PolledRadar}
    (met : (s.working.radars.get? nodeId).filter applies = some radar)
    (keyed : (values radar).endpointKey = radar.endpointKey) :
    (updateRadar nodeId applies values).run s =
      (.ok 1, { s with working := { s.working with radars := s.working.radars.insert nodeId (values radar) } }) := by
  simp only [updateRadar, Transaction.run_bind_query, met, keyed, ne_eq, not_true_eq_false, decide_false, Bool.false_and,
    Bool.false_eq_true, if_false, Transaction.run_bind_write, Transaction.run_pure]

theorem updateRadar_cases (nodeId : String) (applies : PolledRadar → Bool) (values : PolledRadar → PolledRadar) :
    ((s.working.radars.get? nodeId).filter applies = none ∧ (updateRadar nodeId applies values).run s = (.ok 0, s)) ∨
    (updateRadar nodeId applies values).run s = (.error .endpointAlreadyRegistered, s) ∨
    ∃ radar, (s.working.radars.get? nodeId).filter applies = some radar ∧
      (updateRadar nodeId applies values).run s =
        (.ok 1, { s with working := { s.working with radars := s.working.radars.insert nodeId (values radar) } }) := by
  cases met : (s.working.radars.get? nodeId).filter applies with
  | none => exact .inl ⟨rfl, run_updateRadar_missed values met⟩
  | some radar =>
    refine .inr ?_
    simp only [updateRadar, Transaction.run_bind_query, met]
    split
    · exact .inl rfl
    · exact .inr ⟨radar, rfl, rfl⟩

theorem run_updateNode (nodeId : String) (values : Node → Node) (s : Session (Tables γ)) :
    ∃ nodes, (updateNode nodeId values).run s = (.ok (), { s with working := { s.working with nodes } }) ∧
      ∀ n, nodes.get? n = none ↔ s.working.nodes.get? n = none := by
  cases found : s.working.nodes.get? nodeId with
  | none => exact ⟨s.working.nodes, by simp only [updateNode, Transaction.run_write, found], fun n => Iff.rfl⟩
  | some node =>
    refine ⟨s.working.nodes.insert nodeId (values node), by simp only [updateNode, Transaction.run_write, found], ?_⟩
    intro n
    rw [Dict.get?_insert]
    split
    · rename_i same
      simp [← same, found]
    · exact Iff.rfl

theorem insertConfig_cases (row : NodeConfig γ) (s : Session (Tables γ)) :
    (insertConfig row).run s = (.error .integrityError, s) ∨
    (insertConfig row).run s =
      (.ok (), { s with working := { s.working with configs := s.working.configs ++ [row] } }) := by
  simp only [insertConfig, Transaction.run_bind_query]
  split
  · exact .inl rfl
  · exact .inr rfl

theorem run_insertConfig_ok (inserted : (insertConfig row).run s = (.ok u, s')) :
    s' = { s with working := { s.working with configs := s.working.configs ++ [row] } } := by
  rcases insertConfig_cases row s with raised | wrote
  · cases raised.symm.trans inserted
  · cases wrote.symm.trans inserted
    rfl

/-- Nothing but the configurations is touched. -/
theorem upsertConfig_cases [DecidableEq γ] (nodeId : String) (config : γ) (active : Option (NodeConfig γ))
    (highest : Option ℤ) (s : Session (Tables γ)) :
    (∃ s', (upsertConfig nodeId config active highest).run s = (.error .integrityError, s') ∧
      s'.committed = s.committed) ∨
    ∃ version configs, (upsertConfig nodeId config active highest).run s =
      (.ok version, { s with working := { s.working with configs } }) := by
  rw [upsertConfig]
  split
  · exact .inr ⟨_, s.working.configs, rfl⟩
  · cases active with
    | none =>
      dsimp only
      rcases insertConfig_cases { nodeId, version := highest.elim 1 (· + 1), fields := config } s with raised | wrote
      · exact .inl ⟨s, Transaction.run_bind_error _ raised, rfl⟩
      · exact .inr ⟨_, _, Transaction.run_bind_ok _ wrote⟩
    | some row =>
      obtain ⟨configs, marked⟩ : ∃ configs, (supersede row).run s =
          ((.ok (), { s with working := { s.working with configs } }) : Except Raised Unit × _) := ⟨_, rfl⟩
      rw [Transaction.run_bind, marked]
      rcases insertConfig_cases { nodeId, version := highest.elim 1 (· + 1), fields := config }
        { s with working := { s.working with configs } } with raised | wrote
      · exact .inl ⟨_, Transaction.run_bind_error _ raised, rfl⟩
      · exact .inr ⟨_, _, Transaction.run_bind_ok _ wrote⟩

theorem run_upsertConfig_ok [DecidableEq γ] {config : γ}
    (upserted : (upsertConfig nodeId config active highest).run s = (.ok version, s')) :
    ∃ configs, s' = { s with working := { s.working with configs } } := by
  rcases upsertConfig_cases nodeId config active highest s with ⟨_, raised, -⟩ | ⟨version', configs, wrote⟩
  · cases raised.symm.trans upserted
  · cases wrote.symm.trans upserted
    exact ⟨configs, rfl⟩

end

/-! ### What commits nothing -/

section
variable {γ δ : Type} {probedConfig : δ → γ → Option γ}
open Transaction

theorem uncommitting_updateRadar (nodeId : String) (applies : PolledRadar → Bool) (values : PolledRadar → PolledRadar) :
    (updateRadar (γ := γ) nodeId applies values).Uncommitting := by
  intro s
  rcases updateRadar_cases (s := s) nodeId applies values with ⟨-, ran⟩ | ran | ⟨radar, -, ran⟩
  · rw [ran]
  · rw [ran]
  · rw [ran]

theorem uncommitting_insertConfig (row : NodeConfig γ) : (insertConfig row).Uncommitting := by
  intro s
  rcases insertConfig_cases row s with ran | ran <;> rw [ran]

theorem uncommitting_upsertConfig [DecidableEq γ] (nodeId : String) (config : γ) (active : Option (NodeConfig γ))
    (highest : Option ℤ) : (upsertConfig nodeId config active highest).Uncommitting := by
  intro s
  rcases upsertConfig_cases nodeId config active highest s with ⟨s', ran, kept⟩ | ⟨version, configs, ran⟩
  · rw [ran]
    exact kept
  · rw [ran]

theorem uncommitting_setTrust (nodeId : String) (trustState : TrustState) (epoch : ℤ) (actor : String) :
    (setTrust (γ := γ) nodeId trustState epoch actor).Uncommitting := by
  refine uncommitting_bind (uncommitting_updateRadar _ _ _) fun rowcount => ?_
  split
  · exact uncommitting_write _
  · refine uncommitting_bind (uncommitting_query _) fun found => ?_
    cases found with
    | none => exact uncommitting_raise _
    | some radar =>
      dsimp only
      split
      · exact uncommitting_raise _
      · exact uncommitting_pure _

theorem uncommitting_checkConfig (target : Target) (fingerprint : String) :
    (checkConfig (γ := γ) target fingerprint).Uncommitting := by
  refine uncommitting_bind (uncommitting_query _) fun found => ?_
  cases found with
  | none => exact uncommitting_pure _
  | some radar =>
    dsimp only
    split
    · exact uncommitting_pure _
    · refine uncommitting_bind (uncommitting_query _) fun active => ?_
      split
      · exact uncommitting_pure _
      · exact uncommitting_pure _

theorem uncommitting_createPolledRadar (nodeId : String) (r : Registration γ δ) :
    (createPolledRadar nodeId r).Uncommitting := by
  refine uncommitting_nested (uncommitting_bind (uncommitting_query _) fun used => ?_)
  split
  · exact uncommitting_raise _
  · refine uncommitting_bind (uncommitting_write _) fun _ => ?_
    refine uncommitting_bind (uncommitting_insertConfig _) fun _ => ?_
    refine uncommitting_bind (uncommitting_write _) fun _ => ?_
    refine uncommitting_bind (uncommitting_query _) fun taken => ?_
    split
    · exact uncommitting_raise _
    · exact uncommitting_write _

variable (probedConfig) in
theorem uncommitting_setPolledRadarAddress [DecidableEq γ] (nodeId : String) (epoch : ℤ) (oldKey : String)
    (probe : Probe δ) (unprotected : Bool) (changedBy : String) (now : ℚ) :
    (setPolledRadarAddress probedConfig nodeId epoch oldKey probe unprotected changedBy now).Uncommitting := by
  refine uncommitting_nested (uncommitting_bind (uncommitting_updateRadar _ _ _) fun rowcount => ?_)
  split
  · exact uncommitting_raise _
  · split
    · refine uncommitting_bind (uncommitting_query _) fun active => ?_
      cases active with
      | none => exact uncommitting_raise _
      | some active =>
        dsimp only
        split
        · exact uncommitting_raise _
        · refine uncommitting_bind (uncommitting_query _) fun highest => ?_
          refine uncommitting_bind (uncommitting_upsertConfig _ _ _ _) fun version => ?_
          refine uncommitting_bind (uncommitting_write _) fun _ => ?_
          exact uncommitting_bind (uncommitting_write _) fun _ => uncommitting_pure _
    · exact uncommitting_pure _

theorem uncommitting_retirePolledRadar (nodeId : String) (radar : Option PolledRadar) (actor : String) :
    (retirePolledRadar (γ := γ) nodeId radar actor).Uncommitting := by
  refine uncommitting_bind (uncommitting_write _) fun _ => ?_
  split
  · refine uncommitting_bind (uncommitting_write _) fun _ => ?_
    exact uncommitting_bind (uncommitting_write _) fun _ => uncommitting_write _
  · exact uncommitting_bind (uncommitting_write _) fun _ => uncommitting_write _

end

end Retina.Polled.Trust
