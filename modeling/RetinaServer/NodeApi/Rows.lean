import RetinaServer.Library.Dict
import RetinaServer.Library.Selection
import Mathlib.Data.Rat.Defs
import Mathlib.Order.OrderDual

/-! The rows of the node API: nodes, their append-only configuration versions
and their bearer tokens, and the write transactions of registration and of
PUT config. A transaction that meets a taken key has no result. -/
namespace Retina.NodeApi
open OrderDual

inductive Status where
  | active
  | retired
  | blocked
deriving DecidableEq, Repr

/-- What the owner accepted, column by column. -/
structure Agreements where
  licenceVersion : Option String := none
  licenceAcceptedAt : Option ℚ := none
  remoteManagementVersion : Option String := none
  remoteManagementAcceptedAt : Option ℚ := none
  publication : String := "public"
  publicationVersion : Option String := none
  publicationChosenAt : Option ℚ := none
deriving DecidableEq, Repr

structure Node where
  nodeRef : String
  boardModel : String
  status : Status := .active
  activeConfigVersion : Nat := 0
  agreements : Agreements := {}
  lastSeenAt : Option ℚ := none
deriving DecidableEq, Repr

structure NodeConfig (γ : Type) where
  nodeId : String
  version : Nat
  fields : γ
  supersededAt : Option ℚ := none
deriving DecidableEq, Repr

structure NodeToken where
  nodeId : String
  tokenHash : String
  revokedAt : Option ℚ := none
  revokedReason : Option String := none
deriving DecidableEq, Repr

structure Tables (γ : Type) where
  nodes : Dict String Node
  configs : List (NodeConfig γ)
  tokens : List NodeToken
  /-- The nodes with a row of `node_contacts`. -/
  contacts : List String
deriving DecidableEq

/-- What a registration asks for, its configuration validated. -/
structure Registration (γ : Type) where
  nodeId : String
  boardModel : String
  agreements : Agreements
  config : γ

/-- What is drawn, and read off the clock, while a registration is written. -/
structure Draws where
  nodeRef : String
  tokenHash : String
  now : ℚ

/-- An UPDATE writes the columns that differ from the row the session loaded. -/
def column [DecidableEq α] (loaded assigned current : α) : α := if assigned = loaded then current else assigned

def Agreements.assign (loaded assigned current : Agreements) : Agreements where
  licenceVersion := column loaded.licenceVersion assigned.licenceVersion current.licenceVersion
  licenceAcceptedAt := column loaded.licenceAcceptedAt assigned.licenceAcceptedAt current.licenceAcceptedAt
  remoteManagementVersion :=
    column loaded.remoteManagementVersion assigned.remoteManagementVersion current.remoteManagementVersion
  remoteManagementAcceptedAt :=
    column loaded.remoteManagementAcceptedAt assigned.remoteManagementAcceptedAt current.remoteManagementAcceptedAt
  publication := column loaded.publication assigned.publication current.publication
  publicationVersion := column loaded.publicationVersion assigned.publicationVersion current.publicationVersion
  publicationChosenAt := column loaded.publicationChosenAt assigned.publicationChosenAt current.publicationChosenAt

/-- The status and the public handle are nobody's to assign here. -/
def Node.assign (loaded assigned current : Node) : Node :=
  { current with
    boardModel := column loaded.boardModel assigned.boardModel current.boardModel
    activeConfigVersion := column loaded.activeConfigVersion assigned.activeConfigVersion current.activeConfigVersion
    agreements := loaded.agreements.assign assigned.agreements current.agreements
    lastSeenAt := column loaded.lastSeenAt assigned.lastSeenAt current.lastSeenAt }

def NodeToken.Live (nodeId : String) (token : NodeToken) : Prop := token.nodeId = nodeId ∧ token.revokedAt = none

instance (nodeId : String) (token : NodeToken) : Decidable (token.Live nodeId) :=
  inferInstanceAs (Decidable (_ ∧ _))

namespace Tables

section
variable {γ : Type}

def empty : Tables γ := ⟨Dict.empty, [], [], []⟩

/-- The SELECT of `revoke_tokens`. -/
def liveTokens (nodeId : String) (db : Tables γ) : List NodeToken :=
  db.tokens.filter fun token => decide (token.Live nodeId)

/-- `bearer_node`, for the hash of what was presented. -/
def bearerNode (tokenHash : String) (db : Tables γ) : Option String :=
  (db.tokens.find? fun token => decide (token.tokenHash = tokenHash ∧ token.revokedAt = none)).map NodeToken.nodeId

def versionsOf (nodeId : String) (db : Tables γ) : List (NodeConfig γ) :=
  db.configs.filter fun row => decide (row.nodeId = nodeId)

/-- `active_config`: of the versions not superseded, the highest. -/
def activeConfig (nodeId : String) (db : Tables γ) : Option (NodeConfig γ) :=
  Selection.firstMin (fun row => toDual row.version) ((db.versionsOf nodeId).filter fun row => row.supersededAt.isNone)

def highestVersion (nodeId : String) (db : Tables γ) : Option Nat :=
  ((db.versionsOf nodeId).map NodeConfig.version).max?

/-- The unique constraint of `node_configs`. -/
def versionTaken (nodeId : String) (version : Nat) (db : Tables γ) : Bool :=
  db.configs.any fun row => decide (row.nodeId = nodeId ∧ row.version = version)

def supersede (row : NodeConfig γ) (now : ℚ) (db : Tables γ) : Tables γ :=
  { db with
    configs := db.configs.map fun other =>
      if other.nodeId = row.nodeId ∧ other.version = row.version then { other with supersededAt := some now } else other }

/-- `revoke_tokens`, for the rows that its SELECT returned. -/
def revokeTokens (rows : List NodeToken) (now : ℚ) (db : Tables γ) : Tables γ :=
  { db with
    tokens := db.tokens.map fun token =>
      if (token.nodeId, token.tokenHash) ∈ rows.map fun row => (row.nodeId, row.tokenHash)
      then { token with revokedAt := some now, revokedReason := some "reflash" } else token }

/-- The hash has a unique index. -/
def mintToken (nodeId tokenHash : String) (db : Tables γ) : Option (Tables γ) :=
  if tokenHash ∈ db.tokens.map NodeToken.tokenHash then none
  else some { db with tokens := db.tokens ++ [{ nodeId, tokenHash }] }

def deleteContact (nodeId : String) (db : Tables γ) : Tables γ :=
  { db with contacts := db.contacts.filter fun n => decide (n ≠ nodeId) }

def updateNode (nodeId : String) (loaded assigned : Node) (db : Tables γ) : Tables γ :=
  match db.nodes.get? nodeId with
  | none => db
  | some current => { db with nodes := db.nodes.insert nodeId (loaded.assign assigned current) }

def insertNode (nodeId : String) (node : Node) (db : Tables γ) : Option (Tables γ) :=
  if (db.nodes.get? nodeId).isSome ∨ node.nodeRef ∈ db.nodes.values.map Node.nodeRef then none
  else some { db with nodes := db.nodes.insert nodeId node }

end

section
variable {γ : Type} [DecidableEq γ]

/-- `upsert_config`, for what its two SELECTs returned. -/
def upsertConfig (nodeId : String) (config : γ) (active : Option (NodeConfig γ)) (highest : Option Nat) (now : ℚ)
    (db : Tables γ) : Option (Nat × Tables γ) :=
  match active.filter fun row => decide (row.fields = config) with
  | some row => some (row.version, db)
  | none =>
      let version := highest.elim 1 (· + 1)
      if db.versionTaken nodeId version then none
      else
        let db := active.elim db fun row => db.supersede row now
        some (version, { db with configs := db.configs ++ [{ nodeId, version, fields := config }] })

/-- `upsert_config` inside a write transaction. -/
def upsertHere (nodeId : String) (config : γ) (now : ℚ) (db : Tables γ) : Option (Nat × Tables γ) :=
  db.upsertConfig nodeId config (db.activeConfig nodeId) (db.highestVersion nodeId) now

end
end Tables

/-- What a registration holds when its write transaction begins: no row of the
node; the row and its live tokens; or the row alone, where the new board model
is flushed ahead of the tokens' SELECT and so begins the transaction before it. -/
inductive Begun where
  | absent
  | reissue (loaded : Node) (live : List NodeToken)
  | moved (loaded : Node)

section
variable {γ : Type} [DecidableEq γ] (r : Registration γ) (draws : Draws)

/-- The node row that the rest of the transaction assigns to, and the tables by then. -/
def Begun.open (db : Tables γ) : Begun → Option (Node × Tables γ)
  | .absent =>
      let node : Node := { nodeRef := draws.nodeRef, boardModel := r.boardModel }
      (db.insertNode r.nodeId node).map fun db => (node, db)
  | .reissue loaded live => some (loaded, (db.revokeTokens live draws.now).deleteContact r.nodeId)
  | .moved loaded =>
      some (loaded, (db.revokeTokens (db.liveTokens r.nodeId) draws.now).deleteContact r.nodeId)

/-- The write transaction of `_write_registration`: the node as the session
holds it, the version and the tables, once. -/
def writeRegistration (begun : Begun) (db : Tables γ) : Option ((Node × Nat) × Tables γ) := do
  let (loaded, db) ← begun.open r draws db
  let (version, db) ← db.upsertHere r.nodeId r.config draws.now
  let node : Node :=
    { loaded with
      boardModel := r.boardModel, agreements := r.agreements, lastSeenAt := some draws.now
      activeConfigVersion := version }
  let db ← (db.updateNode r.nodeId loaded node).mintToken r.nodeId draws.tokenHash
  some ((node, version), db)

/-- The write transaction of PUT config, for what `upsert_config` selected; with
the node row, which is loaded after that, and whether it moved to another version. -/
def writeConfig (nodeId : String) (config : γ) (active : Option (NodeConfig γ)) (highest : Option Nat) (now : ℚ)
    (db : Tables γ) : Option ((Node × Nat × Bool) × Tables γ) := do
  let (version, db) ← db.upsertConfig nodeId config active highest now
  let loaded ← db.nodes.get? nodeId
  let node := { loaded with activeConfigVersion := version }
  some ((node, version, decide (loaded.activeConfigVersion ≠ version)), db.updateNode nodeId loaded node)

end
/-! ### The version that is active -/

namespace Tables
variable {γ : Type}

theorem mem_versionsOf {db : Tables γ} {row : NodeConfig γ} : row ∈ db.versionsOf nodeId ↔ row ∈ db.configs ∧ row.nodeId = nodeId := by
  simp [versionsOf]

theorem activeConfig_mem {db : Tables γ} (found : db.activeConfig nodeId = some row) :
    row ∈ db.configs ∧ row.nodeId = nodeId :=
  mem_versionsOf.mp (List.mem_filter.mp (Selection.firstMin_mem found)).1

theorem lt_nextVersion {db : Tables γ} {row : NodeConfig γ} (member : row ∈ db.configs) (own : row.nodeId = nodeId) :
    row.version < (db.highestVersion nodeId).elim 1 (· + 1) := by
  have listed : row.version ∈ (db.versionsOf nodeId).map NodeConfig.version :=
    List.mem_map_of_mem (mem_versionsOf.mpr ⟨member, own⟩)
  obtain ⟨highest, found⟩ := Option.isSome_iff_exists.mp (List.isSome_max?_of_mem listed)
  have bound : row.version ≤ highest := (List.max?_eq_some_iff.mp found).2 row.version listed
  simpa [highestVersion, found] using Nat.lt_succ_of_le bound

theorem versionTaken_nextVersion (db : Tables γ) (nodeId : String) :
    db.versionTaken nodeId ((db.highestVersion nodeId).elim 1 (· + 1)) = false := by
  rw [versionTaken, List.any_eq_false]
  intro row member taken
  obtain ⟨own, same⟩ := of_decide_eq_true taken
  exact (lt_nextVersion member own).ne same

theorem versionsOf_supersede_ne {db : Tables γ} {row : NodeConfig γ} (own : row.nodeId = nodeId)
    (other : nodeId' ≠ nodeId) (now : ℚ) : (db.supersede row now).versionsOf nodeId' = db.versionsOf nodeId' := by
  simp only [versionsOf, supersede, List.filter_map]
  have blind : (fun r : NodeConfig γ => decide (r.nodeId = nodeId')) ∘
      (fun r : NodeConfig γ => if r.nodeId = row.nodeId ∧ r.version = row.version then { r with supersededAt := some now } else r) =
      fun r => decide (r.nodeId = nodeId') := by
    funext r
    simp only [Function.comp]
    split <;> rfl
  rw [blind]
  refine (List.map_congr_left fun r member => if_neg ?_).trans (List.map_id _)
  rintro ⟨same, -⟩
  exact other ((of_decide_eq_true (List.mem_filter.mp member).2).symm.trans (same.trans own))

theorem mem_configs_supersede {db : Tables γ} {row : NodeConfig γ} (member : row ∈ (db.supersede old now).configs) :
    ∃ row' ∈ db.configs, row'.nodeId = row.nodeId ∧ row'.version = row.version := by
  obtain ⟨row', listed, rfl⟩ := List.mem_map.mp member
  refine ⟨row', listed, ?_⟩
  split <;> exact ⟨rfl, rfl⟩

/-- A version above all the others of its node, and not superseded, is the active one. -/
theorem activeConfig_append (db : Tables γ) (row : NodeConfig γ) (live : row.supersededAt = none)
    (above : ∀ old ∈ db.configs, old.nodeId = row.nodeId → old.version < row.version) :
    { db with configs := db.configs ++ [row] : Tables γ }.activeConfig row.nodeId = some row := by
  refine (Selection.firstMin_eq_some_iff _ _ _).mpr
    ⟨(db.versionsOf row.nodeId).filter fun row => row.supersededAt.isNone, [], ?_, ?_, by simp⟩
  · simp [versionsOf, live]
  · intro old listed
    obtain ⟨member, own⟩ := mem_versionsOf.mp (List.mem_filter.mp listed).1
    exact above old member own

/-- What the upsert leaves behind: the configuration as the node's active
version, another version exactly where the active one differed, and nothing
else touched. -/
structure Upserted [DecidableEq γ] (db : Tables γ) (nodeId : String) (config : γ) (version : Nat) (db' : Tables γ) :
    Prop where
  nodes : db'.nodes = db.nodes
  tokens : db'.tokens = db.tokens
  contacts : db'.contacts = db.contacts
  active : ∃ row, db'.activeConfig nodeId = some row ∧ row.version = version ∧ row.fields = config
  others : ∀ nodeId' ≠ nodeId, db'.activeConfig nodeId' = db.activeConfig nodeId'
  moved : ∀ row, db.activeConfig nodeId = some row → (row.version ≠ version ↔ row.fields ≠ config)

theorem upsertHere_spec [DecidableEq γ] (db : Tables γ) (nodeId : String) (config : γ) (now : ℚ) :
    ∃ version db', db.upsertHere nodeId config now = some (version, db') ∧ Upserted db nodeId config version db' := by
  unfold upsertHere upsertConfig
  cases same : (db.activeConfig nodeId).filter fun row => decide (row.fields = config) with
  | some row =>
    obtain ⟨active, equal⟩ := Option.filter_eq_some_iff.mp same
    refine ⟨row.version, db, rfl, rfl, rfl, rfl, ⟨row, active, rfl, of_decide_eq_true equal⟩, fun _ _ => rfl, ?_⟩
    intro row' active'
    obtain rfl := Option.some.inj (active.symm.trans active')
    simp [of_decide_eq_true equal]
  | none =>
    simp only [versionTaken_nextVersion, Bool.false_eq_true, if_false]
    have fresh : ∀ row ∈ db.configs, row.nodeId = nodeId → row.version < (db.highestVersion nodeId).elim 1 (· + 1) :=
      fun row member own => lt_nextVersion member own
    let minted : NodeConfig γ := ⟨nodeId, (db.highestVersion nodeId).elim 1 (· + 1), config, none⟩
    refine ⟨_, _, rfl, ?_⟩
    cases active : db.activeConfig nodeId with
    | none =>
      refine ⟨rfl, rfl, rfl, ⟨minted, activeConfig_append db minted rfl fresh, rfl, rfl⟩, ?_, by simp [active]⟩
      intro nodeId' other
      simp [activeConfig, versionsOf, other.symm]
    | some row =>
      have own := (activeConfig_mem active).2
      refine ⟨rfl, rfl, rfl, ⟨minted, activeConfig_append (db.supersede row now) minted rfl ?_, rfl, rfl⟩, ?_, ?_⟩
      · intro old member owned
        obtain ⟨old', listed, node, version⟩ := mem_configs_supersede member
        exact version ▸ fresh old' listed (node.trans owned)
      · intro nodeId' other
        have kept : (db.supersede row now).versionsOf nodeId' = db.versionsOf nodeId' := versionsOf_supersede_ne own other now
        simp only [versionsOf] at kept
        simp [activeConfig, versionsOf, other.symm, kept]
      · intro row' active'
        obtain rfl := Option.some.inj (active.symm.trans active')
        have differs : row.fields ≠ config := by
          intro equal
          rw [active, Option.filter_some, if_pos (decide_eq_true equal)] at same
          cases same
        exact iff_of_true (fresh row (activeConfig_mem active).1 own).ne differs

theorem activeConfig_congr {db db' : Tables γ} (same : db'.configs = db.configs) (nodeId : String) :
    db'.activeConfig nodeId = db.activeConfig nodeId := by
  rw [activeConfig, activeConfig, versionsOf, versionsOf, same]

@[simp] theorem updateNode_configs (nodeId : String) (loaded assigned : Node) (db : Tables γ) :
    (db.updateNode nodeId loaded assigned).configs = db.configs := by
  unfold updateNode
  split <;> rfl

@[simp] theorem updateNode_tokens (nodeId : String) (loaded assigned : Node) (db : Tables γ) :
    (db.updateNode nodeId loaded assigned).tokens = db.tokens := by
  unfold updateNode
  split <;> rfl

theorem updateNode_get? {db : Tables γ} (found : db.nodes.get? nodeId = some current) (loaded assigned : Node)
    (nodeId' : String) : (db.updateNode nodeId loaded assigned).nodes.get? nodeId' =
      if nodeId = nodeId' then some (loaded.assign assigned current) else db.nodes.get? nodeId' := by
  simp only [updateNode, found, Dict.get?_insert]

end Tables

theorem column_self [DecidableEq α] (loaded assigned : α) : column loaded assigned loaded = assigned := by
  unfold column
  split
  · rename_i same
    exact same.symm
  · rfl

/-- The steps of a registration's write transaction. -/
theorem writeRegistration_eq_some [DecidableEq γ] {r : Registration γ} {draws : Draws} {begun : Begun} {db : Tables γ}
    (written : writeRegistration r draws begun db = some ((node, version), db')) :
    ∃ loaded opened upserted, begun.open r draws db = some (loaded, opened) ∧
      Tables.Upserted opened r.nodeId r.config version upserted ∧
      node = { loaded with
        boardModel := r.boardModel, agreements := r.agreements, lastSeenAt := some draws.now
        activeConfigVersion := version } ∧
      (upserted.updateNode r.nodeId loaded node).mintToken r.nodeId draws.tokenHash = some db' := by
  simp only [writeRegistration, Option.bind_eq_bind, Option.bind_eq_some_iff, Option.some.injEq, Prod.mk.injEq] at written
  obtain ⟨⟨loaded, opened⟩, began, ⟨version', upserted⟩, upsert, minted, mint, ⟨rfl, rfl⟩, rfl⟩ := written
  obtain ⟨_, _, spec, kept⟩ := Tables.upsertHere_spec opened r.nodeId r.config draws.now
  obtain ⟨rfl, rfl⟩ := Prod.mk.inj (Option.some.inj (upsert.symm.trans spec))
  exact ⟨loaded, opened, upserted, began, kept, rfl, mint⟩

end Retina.NodeApi
