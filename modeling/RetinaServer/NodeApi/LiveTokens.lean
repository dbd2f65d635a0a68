import RetinaServer.Library.Runs
import RetinaServer.NodeApi.Rows

/-! Registrations and configuration PUTs of any nodes, interleaved. Each SELECT
before a request's first write reads what is committed at that moment; from its
first write to its commit a request is alone, so its write transaction is one
step. -/
namespace Retina.NodeApi
open Runs

/-- What a request holds of what it has read. -/
inductive Phase (γ : Type) where
  | idle
  /-- A registration that found its node's row, with the board model it sends. -/
  | loaded (r : Registration γ) (node : Node)
  | ready (r : Registration γ) (begun : Begun)
  /-- A PUT whose bearer resolved to this node. -/
  | putting (nodeId : String) (config : γ)
  | differing (nodeId : String) (config : γ) (active : Option (NodeConfig γ))
  | upserting (nodeId : String) (config : γ) (active : Option (NodeConfig γ)) (highest : Option Nat)
  /-- A PUT that changes no configuration. -/
  | matching (nodeId : String) (version : Nat)
  | assigning (nodeId : String) (version : Nat) (node : Node)

def Phase.Registering : Phase γ → Prop
  | .loaded _ _ | .ready _ _ => True
  | _ => False

instance : ∀ phase : Phase γ, Decidable phase.Registering
  | .loaded _ _ | .ready _ _ => .isTrue trivial
  | .idle | .putting _ _ | .differing _ _ _ | .upserting _ _ _ _ | .matching _ _ | .assigning _ _ _ => .isFalse id

structure Requests (τ γ : Type) where
  db : Tables γ
  phases : τ → Phase γ
  /-- The tokens returned so far, by node, in the order of the commits. -/
  issued : List (String × String)

inductive Statement (τ γ : Type) where
  /-- `session.get(Node)` of a registration. -/
  | selectNode (t : τ) (r : Registration γ)
  /-- The SELECT of `revoke_tokens`, where it comes ahead of the first write. -/
  | selectTokens (t : τ)
  | writeRegistration (t : τ) (draws : Draws)
  /-- `bearer_node` of a PUT. -/
  | selectBearer (t : τ) (tokenHash : String) (config : γ)
  | selectActive (t : τ)
  | selectHighest (t : τ)
  | writeConfig (t : τ) (now : ℚ)
  | selectRow (t : τ)
  | writeVersion (t : τ)
  /-- The request ends without a commit: its client is gone, or the database stays locked. -/
  | abandon (t : τ)

/-- How a registration is answered. -/
inductive Reply where
  | token (nodeId tokenHash : String)
  | refused
deriving DecidableEq, Repr

section
variable {τ γ : Type} [DecidableEq τ] [DecidableEq γ]

def Requests.start : Requests τ γ := ⟨Tables.empty, fun _ => .idle, []⟩

def Requests.goto (s : Requests τ γ) (t : τ) (phase : Phase γ) : Requests τ γ :=
  { s with phases := Function.update s.phases t phase }

/-- Where a statement does not belong to what its request is doing, nothing happens. -/
def Requests.step (s : Requests τ γ) : Statement τ γ → Requests τ γ
  | .selectNode t r => match s.phases t with
      | .idle => s.goto t <| match s.db.nodes.get? r.nodeId with
          | none => .ready r .absent
          | some node => if r.boardModel = node.boardModel then .loaded r node else .ready r (.moved node)
      | _ => s
  | .selectTokens t => match s.phases t with
      | .loaded r node => s.goto t (.ready r (.reissue node (s.db.liveTokens r.nodeId)))
      | _ => s
  | .writeRegistration t draws => match s.phases t with
      | .ready r begun => match NodeApi.writeRegistration r draws begun s.db with
          | none => s.goto t .idle
          | some (_, db) =>
              { s.goto t .idle with db := db, issued := s.issued ++ [(r.nodeId, draws.tokenHash)] }
      | _ => s
  | .selectBearer t tokenHash config => match s.phases t with
      | .idle => s.goto t <| (s.db.bearerNode tokenHash).elim .idle fun nodeId => .putting nodeId config
      | _ => s
  | .selectActive t => match s.phases t with
      | .putting nodeId config => s.goto t <|
          match (s.db.activeConfig nodeId).filter fun row => decide (row.fields = config) with
          | some row => .matching nodeId row.version
          | none => .differing nodeId config (s.db.activeConfig nodeId)
      | _ => s
  | .selectHighest t => match s.phases t with
      | .differing nodeId config active => s.goto t (.upserting nodeId config active (s.db.highestVersion nodeId))
      | _ => s
  | .writeConfig t now => match s.phases t with
      | .upserting nodeId config active highest =>
          { s.goto t .idle with
            db := ((NodeApi.writeConfig nodeId config active highest now s.db).map Prod.snd).getD s.db }
      | _ => s
  | .selectRow t => match s.phases t with
      | .matching nodeId version => s.goto t <|
          (s.db.nodes.get? nodeId).elim .idle fun node => .assigning nodeId version node
      | _ => s
  | .writeVersion t => match s.phases t with
      | .assigning nodeId version node =>
          { s.goto t .idle with db := s.db.updateNode nodeId node { node with activeConfigVersion := version } }
      | _ => s
  | .abandon t => s.goto t .idle

/-- What a statement answers its registration, if it ends it. -/
def Requests.reply (s : Requests τ γ) : Statement τ γ → Option Reply
  | .writeRegistration t draws => match s.phases t with
      | .ready r begun => some <| match NodeApi.writeRegistration r draws begun s.db with
          | none => .refused
          | some _ => .token r.nodeId draws.tokenHash
      | _ => none
  | _ => none

/-- The token that the last registration of the node to commit returned. -/
def Requests.lastIssued (s : Requests τ γ) (nodeId : String) : Option String :=
  ((s.issued.filter fun item => decide (item.1 = nodeId)).map Prod.snd).getLast?

/-- The node's live tokens are the one that the last registration to commit returned. -/
def Requests.Sole (s : Requests τ γ) (nodeId : String) : Prop :=
  (s.db.liveTokens nodeId).map NodeToken.tokenHash = (s.lastIssued nodeId).toList

/-- A re-registration that commits has read every token of its node that is live
by then: none was issued since its SELECT. One whose SELECT comes after its
first write has. -/
def Requests.Covered (s : Requests τ γ) : Statement τ γ → Prop
  | .writeRegistration t draws => match s.phases t with
      | .ready r (.reissue _ live) => draws.tokenHash ∉ s.db.tokens.map NodeToken.tokenHash →
          ∀ token ∈ s.db.liveTokens r.nodeId, token.tokenHash ∈ live.map NodeToken.tokenHash
      | _ => True
  | _ => True

end

/-! ### The tokens of a transaction -/

namespace Tables
variable {γ : Type}

/-- The keys of rows, as an UPDATE names them. -/
def keysOf (rows : List NodeToken) : List (String × String) := rows.map fun row => (row.nodeId, row.tokenHash)

theorem liveTokens_revokeTokens (db : Tables γ) (rows : List NodeToken) (now : ℚ) (nodeId : String) :
    (db.revokeTokens rows now).liveTokens nodeId =
      (db.liveTokens nodeId).filter fun token => decide ((token.nodeId, token.tokenHash) ∉ keysOf rows) := by
  simp only [liveTokens, revokeTokens, keysOf]
  induction db.tokens with
  | nil => rfl
  | cons token rest ih =>
    rw [List.map_cons, List.filter_cons, ih]
    by_cases revoked : (token.nodeId, token.tokenHash) ∈ rows.map fun row => (row.nodeId, row.tokenHash)
    · rw [if_pos revoked, if_neg (by simp [NodeToken.Live]), List.filter_cons]
      split
      · rw [List.filter_cons, if_neg (by simpa using revoked)]
      · rfl
    · rw [if_neg revoked, List.filter_cons]
      split
      · rw [List.filter_cons, if_pos (by simpa using revoked)]
      · rfl

@[simp] theorem revokeTokens_hashes (db : Tables γ) (rows : List NodeToken) (now : ℚ) :
    (db.revokeTokens rows now).tokens.map NodeToken.tokenHash = db.tokens.map NodeToken.tokenHash := by
  rw [revokeTokens, List.map_map]
  refine List.map_congr_left fun token _ => ?_
  simp only [Function.comp]
  split <;> rfl

@[simp] theorem revokeTokens_nodeIds (db : Tables γ) (rows : List NodeToken) (now : ℚ) :
    (db.revokeTokens rows now).tokens.map NodeToken.nodeId = db.tokens.map NodeToken.nodeId := by
  rw [revokeTokens, List.map_map]
  refine List.map_congr_left fun token _ => ?_
  simp only [Function.comp]
  split <;> rfl

theorem mem_liveTokens {db : Tables γ} {token : NodeToken} :
    token ∈ db.liveTokens nodeId ↔ token ∈ db.tokens ∧ token.Live nodeId := by
  simp [liveTokens]

/-- What a transaction that has only revoked tokens of one node has made of the tables. -/
structure Opened (db : Tables γ) (nodeId : String) (db' : Tables γ) : Prop where
  hashes : db'.tokens.map NodeToken.tokenHash = db.tokens.map NodeToken.tokenHash
  nodeIds : db'.tokens.map NodeToken.nodeId = db.tokens.map NodeToken.nodeId
  others : ∀ nodeId' ≠ nodeId, db'.liveTokens nodeId' = db.liveTokens nodeId'
  nodes : ∀ nodeId', (db.nodes.get? nodeId').isSome → (db'.nodes.get? nodeId').isSome
  housed : (db'.nodes.get? nodeId).isSome

theorem opened_revokeTokens {db : Tables γ} {rows : List NodeToken} (own : ∀ row ∈ rows, row.nodeId = nodeId)
    (housed : (db.nodes.get? nodeId).isSome) (now : ℚ) :
    Opened db nodeId ((db.revokeTokens rows now).deleteContact nodeId) where
  hashes := revokeTokens_hashes db rows now
  nodeIds := revokeTokens_nodeIds db rows now
  others := by
    intro nodeId' other
    refine (liveTokens_revokeTokens db rows now nodeId').trans (List.filter_eq_self.mpr fun token live => ?_)
    refine decide_eq_true fun listed => ?_
    obtain ⟨row, member, same⟩ := List.mem_map.mp listed
    have names := (Prod.mk.inj same).1
    exact other ((mem_liveTokens.mp live).2.1.symm.trans (names.symm.trans (own row member)))
  nodes := fun _ held => held
  housed := housed

end Tables

/-- A registration's own row and tokens, in the tables as they stand. -/
def Begun.Own (nodeId : String) (db : Tables γ) : Begun → Prop
  | .absent => True
  | .reissue _ live => (db.nodes.get? nodeId).isSome ∧ ∀ row ∈ live, row.nodeId = nodeId
  | .moved _ => (db.nodes.get? nodeId).isSome

/-- A node that registers first is inserted where no row holds its id. -/
theorem opened_of_absent {γ : Type} {r : Registration γ} {db opened : Tables γ}
    (opens : Begun.absent.open r draws db = some (loaded, opened)) :
    ∃ row, ¬ (db.nodes.get? r.nodeId).isSome ∧ opened = { db with nodes := db.nodes.insert r.nodeId row } := by
  simp only [Begun.open, Tables.insertNode, Option.map_eq_some_iff] at opens
  obtain ⟨inserted, fresh, same⟩ := opens
  obtain ⟨rfl, rfl⟩ := Prod.mk.inj same
  split at fresh
  · cases fresh
  · rename_i unheld
    exact ⟨_, fun held => unheld (.inl held), (Option.some.inj fresh).symm⟩

theorem opened_of_open {γ : Type} {r : Registration γ} {begun : Begun} {db opened : Tables γ}
    (own : begun.Own r.nodeId db) (opens : begun.open r draws db = some (loaded, opened)) :
    Tables.Opened db r.nodeId opened := by
  cases begun with
  | absent =>
    obtain ⟨row, -, rfl⟩ := opened_of_absent opens
    refine ⟨rfl, rfl, fun _ _ => rfl, fun nodeId' held => ?_, by simp⟩
    rw [Dict.get?_insert]
    split
    · rfl
    · exact held
  | reissue node live =>
    obtain ⟨-, rfl⟩ := Prod.mk.inj (Option.some.inj opens)
    exact Tables.opened_revokeTokens own.2 own.1 draws.now
  | moved node =>
    obtain ⟨-, rfl⟩ := Prod.mk.inj (Option.some.inj opens)
    exact Tables.opened_revokeTokens (fun row listed => (Tables.mem_liveTokens.mp listed).2.1) own draws.now

/-- What is left live of the node once its tokens have been revoked. -/
theorem open_liveTokens {γ : Type} {r : Registration γ} {begun : Begun} {db opened : Tables γ}
    (housed : ∀ token ∈ db.tokens, (db.nodes.get? token.nodeId).isSome)
    (own : begun.Own r.nodeId db) (opens : begun.open r draws db = some (loaded, opened)) :
    opened.liveTokens r.nodeId = [] ↔
      ∀ node live, begun = .reissue node live →
        ∀ token ∈ db.liveTokens r.nodeId, token.tokenHash ∈ live.map NodeToken.tokenHash := by
  cases begun with
  | absent =>
    obtain ⟨row, unheld, rfl⟩ := opened_of_absent opens
    refine iff_of_true (List.filter_eq_nil_iff.mpr fun token member live => unheld ?_) (by rintro _ _ ⟨⟩)
    obtain ⟨named, -⟩ := of_decide_eq_true live
    exact named ▸ housed token member
  | reissue node live =>
    obtain ⟨-, rfl⟩ := Prod.mk.inj (Option.some.inj opens)
    have left : ((db.revokeTokens live draws.now).deleteContact r.nodeId).liveTokens r.nodeId = _ :=
      Tables.liveTokens_revokeTokens db live draws.now r.nodeId
    rw [left, List.filter_eq_nil_iff]
    constructor
    · rintro revoked _ _ ⟨⟩ token isLive
      have listed := revoked token isLive
      simp only [decide_eq_true_eq, not_not] at listed
      obtain ⟨row, member, same⟩ := List.mem_map.mp listed
      exact List.mem_map.mpr ⟨row, member, (Prod.mk.inj same).2⟩
    · intro covered token isLive
      obtain ⟨row, member, same⟩ := List.mem_map.mp (covered node live rfl token isLive)
      have named : row.nodeId = token.nodeId := (own.2 row member).trans (Tables.mem_liveTokens.mp isLive).2.1.symm
      have listed : (token.nodeId, token.tokenHash) ∈ Tables.keysOf live :=
        List.mem_map.mpr ⟨row, member, by rw [named, same]⟩
      simpa using listed
  | moved node =>
    obtain ⟨-, rfl⟩ := Prod.mk.inj (Option.some.inj opens)
    have left : ((db.revokeTokens (db.liveTokens r.nodeId) draws.now).deleteContact r.nodeId).liveTokens r.nodeId = _ :=
      Tables.liveTokens_revokeTokens db (db.liveTokens r.nodeId) draws.now r.nodeId
    refine iff_of_true ?_ (by rintro _ _ ⟨⟩)
    rw [left, List.filter_eq_nil_iff]
    intro token isLive
    have listed : (token.nodeId, token.tokenHash) ∈ Tables.keysOf (db.liveTokens r.nodeId) :=
      List.mem_map.mpr ⟨token, isLive, rfl⟩
    simpa using listed

/-- The tables after a registration's commit. -/
structure Issued {γ : Type} (db opened : Tables γ) (nodeId tokenHash : String) (db' : Tables γ) : Prop where
  fresh : tokenHash ∉ db.tokens.map NodeToken.tokenHash
  tokens : db'.tokens = opened.tokens ++ [⟨nodeId, tokenHash, none, none⟩]
  nodes : ∀ nodeId', (opened.nodes.get? nodeId').isSome → (db'.nodes.get? nodeId').isSome

section
variable {γ : Type} [DecidableEq γ]

omit [DecidableEq γ] in
theorem Tables.updateNode_isSome (db : Tables γ) (nodeId nodeId' : String) (loaded assigned : Node)
    (held : (db.nodes.get? nodeId').isSome) : ((db.updateNode nodeId loaded assigned).nodes.get? nodeId').isSome := by
  cases found : db.nodes.get? nodeId with
  | none => rwa [Tables.updateNode, found]
  | some current =>
    rw [Tables.updateNode_get? found]
    split
    · rfl
    · exact held

theorem issued_of_written {r : Registration γ} {begun : Begun} {db db' : Tables γ} (own : begun.Own r.nodeId db)
    (written : writeRegistration r draws begun db = some (answer, db')) :
    ∃ loaded opened, begun.open r draws db = some (loaded, opened) ∧ Issued db opened r.nodeId draws.tokenHash db' := by
  obtain ⟨loaded, opened, upserted, began, upsert, -, mint⟩ := writeRegistration_eq_some written
  refine ⟨loaded, opened, began, ?_⟩
  unfold Tables.mintToken at mint
  split at mint
  · cases mint
  · rename_i fresh
    obtain rfl := Option.some.inj mint
    rw [Tables.updateNode_tokens, upsert.tokens, (opened_of_open own began).hashes] at fresh
    exact
      { fresh
        tokens := by rw [Tables.updateNode_tokens, upsert.tokens]
        nodes := fun nodeId' held => Tables.updateNode_isSome _ _ _ _ _ (upsert.nodes ▸ held) }

/-- A re-registration is refused only for a token that is taken. -/
theorem written_of_fresh {r : Registration γ} {db : Tables γ} (node : Node) (live : List NodeToken)
    (fresh : draws.tokenHash ∉ db.tokens.map NodeToken.tokenHash) :
    (writeRegistration r draws (.reissue node live) db).isSome := by
  obtain ⟨version, upserted, upsert, kept⟩ := Tables.upsertHere_spec
    ((db.revokeTokens live draws.now).deleteContact r.nodeId) r.nodeId r.config draws.now
  have unminted : draws.tokenHash ∉ upserted.tokens.map NodeToken.tokenHash := by
    rw [kept.tokens]
    exact (Tables.revokeTokens_hashes db live draws.now).symm ▸ fresh
  simp only [writeRegistration, Begun.open, Option.bind_eq_bind, Option.bind_some, upsert, Tables.mintToken,
    Tables.updateNode_tokens, unminted, if_false, Option.isSome_some]

omit [DecidableEq γ] in
theorem Issued.liveTokens {db opened db' : Tables γ} (issued : Issued db opened nodeId tokenHash db')
    (nodeId' : String) : db'.liveTokens nodeId' =
      opened.liveTokens nodeId' ++ if nodeId = nodeId' then [⟨nodeId, tokenHash, none, none⟩] else [] := by
  rw [Tables.liveTokens, issued.tokens, List.filter_append]
  congr 1
  by_cases same : nodeId = nodeId' <;> simp [NodeToken.Live, same]

end

/-! ### Every interleaving -/

namespace Requests
variable {τ γ : Type}

structure Sound (s : Requests τ γ) : Prop where
  distinct : (s.db.tokens.map NodeToken.tokenHash).Nodup
  housed : ∀ token ∈ s.db.tokens, (s.db.nodes.get? token.nodeId).isSome
  loaded : ∀ t r node, s.phases t = .loaded r node → (s.db.nodes.get? r.nodeId).isSome
  begun : ∀ t r begun, s.phases t = .ready r begun → begun.Own r.nodeId s.db

theorem own_mono {db db' : Tables γ} (nodes : ∀ nodeId, (db.nodes.get? nodeId).isSome → (db'.nodes.get? nodeId).isSome)
    {begun : Begun} (own : begun.Own nodeId db) : begun.Own nodeId db' := by
  cases begun with
  | absent => trivial
  | reissue _ _ => exact ⟨nodes _ own.1, own.2⟩
  | moved _ => exact nodes _ own

/-- Tables that keep the tokens and the nodes keep the invariant. -/
theorem sound_db {s : Requests τ γ} (sound : Sound s) {db : Tables γ} (tokens : db.tokens = s.db.tokens)
    (nodes : ∀ nodeId, (s.db.nodes.get? nodeId).isSome → (db.nodes.get? nodeId).isSome) : Sound { s with db } where
  distinct := by rw [tokens]; exact sound.distinct
  housed := fun token member => nodes _ (sound.housed token (tokens ▸ member))
  loaded := fun t r node held => nodes _ (sound.loaded t r node held)
  begun := fun t r begun held => own_mono nodes (sound.begun t r begun held)

/-- A registration's commit keeps the hashes apart and every token with a node. -/
theorem sound_issued {s : Requests τ γ} (sound : Sound s) {opened db : Tables γ}
    (revoked : Tables.Opened s.db nodeId opened) (issued : Issued s.db opened nodeId tokenHash db) :
    Sound { s with db } where
  distinct := by
    rw [issued.tokens, List.map_append, revoked.hashes]
    exact List.nodup_append.mpr ⟨sound.distinct, List.nodup_singleton _, by
      intro hash listed hash' minted same
      have equal : hash = tokenHash := same.trans (List.mem_singleton.mp minted)
      exact issued.fresh (equal ▸ listed)⟩
  housed := by
    intro token member
    rw [issued.tokens, List.mem_append, List.mem_singleton] at member
    rcases member with before | rfl
    · have named : token.nodeId ∈ s.db.tokens.map NodeToken.nodeId :=
        revoked.nodeIds ▸ List.mem_map_of_mem before
      obtain ⟨token', held, same⟩ := List.mem_map.mp named
      exact issued.nodes _ (revoked.nodes _ (same ▸ sound.housed token' held))
    · exact issued.nodes _ revoked.housed
  loaded := fun t r node held => issued.nodes _ (revoked.nodes _ (sound.loaded t r node held))
  begun := fun t r begun held => own_mono (fun n there => issued.nodes n (revoked.nodes n there)) (sound.begun t r begun held)

variable [DecidableEq τ]

theorem sound_goto {s : Requests τ γ} (sound : Sound s) (t : τ) {phase : Phase γ}
    (loaded : ∀ r node, phase = .loaded r node → (s.db.nodes.get? r.nodeId).isSome)
    (begun : ∀ r begun, phase = .ready r begun → begun.Own r.nodeId s.db) : Sound (s.goto t phase) := by
  refine { sound with loaded := ?_, begun := ?_ }
  · intro t' r node held
    by_cases same : t' = t
    · subst same
      exact loaded r node (by simpa [goto] using held)
    · exact sound.loaded t' r node (by simpa [goto, same] using held)
  · intro t' r begun' held
    by_cases same : t' = t
    · subst same
      exact begun r begun' (by simpa [goto] using held)
    · exact sound.begun t' r begun' (by simpa [goto, same] using held)

variable [DecidableEq γ]

theorem tokens_writeConfig {db db' : Tables γ} {active : Option (NodeConfig γ)} {highest : Option Nat}
    (written : NodeApi.writeConfig nodeId config active highest now db = some (answer, db')) :
    db'.tokens = db.tokens ∧ ∀ n, (db.nodes.get? n).isSome → (db'.nodes.get? n).isSome := by
  simp only [NodeApi.writeConfig, Option.bind_eq_bind, Option.bind_eq_some_iff] at written
  obtain ⟨⟨version, upserted⟩, upsert, loaded, held, same⟩ := written
  obtain ⟨-, rfl⟩ := Prod.mk.inj (Option.some.inj same)
  have kept : upserted.tokens = db.tokens ∧ upserted.nodes = db.nodes := by
    unfold Tables.upsertConfig at upsert
    split at upsert
    · obtain ⟨-, rfl⟩ := Prod.mk.inj (Option.some.inj upsert)
      exact ⟨rfl, rfl⟩
    · simp only at upsert
      split at upsert
      · cases upsert
      · obtain ⟨-, rfl⟩ := Prod.mk.inj (Option.some.inj upsert)
        cases active <;> exact ⟨rfl, rfl⟩
  refine ⟨by rw [Tables.updateNode_tokens, kept.1], fun n there => Tables.updateNode_isSome _ _ _ _ _ ?_⟩
  rwa [kept.2]

/-- What a statement does: its request moves on, with the tokens and the list of
those issued as they were; or a registration commits. -/
inductive Effect (s : Requests τ γ) (e : Statement τ γ) : Requests τ γ → Prop where
  | stays : Effect s e s
  | moves (t : τ) (phase : Phase γ) (db : Tables γ)
      (tokens : db.tokens = s.db.tokens) (nodes : ∀ n, (s.db.nodes.get? n).isSome → (db.nodes.get? n).isSome)
      (loaded : ∀ r node, phase = .loaded r node → (s.db.nodes.get? r.nodeId).isSome)
      (begun : ∀ r begun, phase = .ready r begun → begun.Own r.nodeId s.db) :
      Effect s e { s.goto t phase with db }
  | commits (t : τ) (draws : Draws) (r : Registration γ) (begun : Begun) (answer : Node × Nat) (db : Tables γ)
      (statement : e = .writeRegistration t draws) (held : s.phases t = .ready r begun)
      (written : NodeApi.writeRegistration r draws begun s.db = some (answer, db)) :
      Effect s e { s.goto t .idle with db := db, issued := s.issued ++ [(r.nodeId, draws.tokenHash)] }

theorem step_effect {s : Requests τ γ} (sound : Sound s) (e : Statement τ γ) : Effect s e (s.step e) := by
  have goes : ∀ t (phase : Phase γ), ¬ phase.Registering → Effect s e (s.goto t phase) := fun t phase outside =>
    .moves t phase s.db rfl (fun _ held => held) (by rintro _ _ rfl; exact absurd trivial outside)
      (by rintro _ _ rfl; exact absurd trivial outside)
  cases e with
  | selectNode t r =>
    simp only [step]
    split
    · cases held : s.db.nodes.get? r.nodeId with
      | none =>
        exact .moves t (.ready r .absent) s.db rfl (fun _ held => held) (by rintro _ _ ⟨⟩) (by rintro _ _ ⟨⟩; trivial)
      | some node =>
        simp only
        split
        · exact .moves t (.loaded r node) s.db rfl (fun _ held => held) (by rintro _ _ ⟨⟩; rw [held]; rfl) (by rintro _ _ ⟨⟩)
        · exact .moves t (.ready r (.moved node)) s.db rfl (fun _ held => held) (by rintro _ _ ⟨⟩)
            (by rintro _ _ ⟨⟩; rw [Begun.Own, held]; rfl)
    · exact .stays
  | selectTokens t =>
    simp only [step]
    split
    · rename_i r node held
      refine .moves t (.ready r (.reissue node (s.db.liveTokens r.nodeId))) s.db rfl (fun _ held => held) (by rintro _ _ ⟨⟩) ?_
      rintro _ _ ⟨⟩
      exact ⟨sound.loaded t r node held, fun row member => (Tables.mem_liveTokens.mp member).2.1⟩
    · exact .stays
  | writeRegistration t draws =>
    simp only [step]
    split
    · rename_i r begun held
      cases written : NodeApi.writeRegistration r draws begun s.db with
      | none => exact goes t .idle id
      | some answer => exact .commits t draws r begun answer.1 answer.2 rfl held written
    · exact .stays
  | selectBearer t tokenHash config =>
    simp only [step]
    split
    · refine goes t _ ?_
      cases s.db.bearerNode tokenHash <;> exact id
    · exact .stays
  | selectActive t =>
    simp only [step]
    split
    · refine goes t _ ?_
      split <;> exact id
    · exact .stays
  | selectHighest t =>
    simp only [step]
    split
    · exact goes t _ id
    · exact .stays
  | writeConfig t now =>
    simp only [step]
    split
    · rename_i nodeId config active highest held
      refine .moves t .idle _ ?_ ?_ (by rintro _ _ ⟨⟩) (by rintro _ _ ⟨⟩)
      · cases written : NodeApi.writeConfig nodeId config active highest now s.db with
        | none => rfl
        | some answer => exact (tokens_writeConfig written).1
      · cases written : NodeApi.writeConfig nodeId config active highest now s.db with
        | none => exact fun _ held => held
        | some answer => exact (tokens_writeConfig written).2
    · exact .stays
  | selectRow t =>
    simp only [step]
    split
    · rename_i nodeId version held
      refine goes t _ ?_
      cases s.db.nodes.get? nodeId <;> exact id
    · exact .stays
  | writeVersion t =>
    simp only [step]
    split
    · exact .moves t .idle _ (Tables.updateNode_tokens _ _ _ _) (fun n there => Tables.updateNode_isSome _ _ _ _ _ there)
        (by rintro _ _ ⟨⟩) (by rintro _ _ ⟨⟩)
    · exact .stays
  | abandon t => exact goes t .idle id

theorem sound_step {s : Requests τ γ} (sound : Sound s) (e : Statement τ γ) : Sound (s.step e) := by
  have effect := step_effect sound e
  generalize s.step e = s' at effect
  cases effect with
  | stays => exact sound
  | moves t phase db tokens nodes loaded begun => exact sound_db (sound_goto sound t loaded begun) tokens nodes
  | commits t draws r begun answer db _ held written =>
    obtain ⟨_, opened, began, issued⟩ := issued_of_written (sound.begun t r begun held) written
    have own := opened_of_open (sound.begun t r begun held) began
    have idle : Sound (s.goto t .idle) := sound_goto sound t (by rintro _ _ ⟨⟩) (by rintro _ _ ⟨⟩)
    have kept := sound_issued idle own issued
    exact { kept with }

omit [DecidableEq τ] [DecidableEq γ] in
/-- After a commit the node's tokens are the new one alone exactly where the
registration has left none of the old ones live. -/
theorem sole_commit {s : Requests τ γ} (sole : ∀ n, s.Sole n) {opened db : Tables γ}
    (revoked : Tables.Opened s.db nodeId opened) (issued : Issued s.db opened nodeId tokenHash db)
    (phases : τ → Phase γ) :
    (∀ n, (⟨db, phases, s.issued ++ [(nodeId, tokenHash)]⟩ : Requests τ γ).Sole n) ↔ opened.liveTokens nodeId = [] := by
  have own : ∀ n, (⟨db, phases, s.issued ++ [(nodeId, tokenHash)]⟩ : Requests τ γ).Sole n ↔
      n ≠ nodeId ∨ opened.liveTokens nodeId = [] := by
    intro n
    simp only [Sole, lastIssued, issued.liveTokens n]
    by_cases same : nodeId = n
    · subst same
      simp
    · have before := sole n
      simp only [Sole, lastIssued] at before
      simp [same, Ne.symm same, revoked.others n (Ne.symm same), before]
  constructor
  · intro all
    exact ((own nodeId).mp (all nodeId)).resolve_left (fun other => other rfl)
  · intro none n
    exact (own n).mpr (.inr none)

/-- Nothing but a registration's write touches the tokens. -/
theorem sole_step {s : Requests τ γ} (sound : Sound s) (sole : ∀ n, s.Sole n) {e : Statement τ γ}
    (other : ∀ t draws, e ≠ .writeRegistration t draws) (n : String) : (s.step e).Sole n := by
  have effect := step_effect sound e
  generalize s.step e = s' at effect
  cases effect with
  | stays => exact sole n
  | moves t phase db tokens nodes loaded begun =>
    have kept := sole n
    simp only [Sole, lastIssued, Tables.liveTokens] at kept ⊢
    rw [tokens]
    exact kept
  | commits t draws _ _ _ _ statement _ _ => exact absurd statement (other t draws)

theorem covered_iff {s : Requests τ γ} (sound : Sound s) (sole : ∀ n, s.Sole n) (e : Statement τ γ) :
    s.Covered e ↔ ∀ n, (s.step e).Sole n := by
  cases e with
  | writeRegistration t draws =>
    cases held : s.phases t with
    | ready r begun =>
      simp only [Covered, step, held]
      cases written : NodeApi.writeRegistration r draws begun s.db with
      | none =>
        refine iff_of_true ?_ sole
        cases begun with
        | absent | moved _ => trivial
        | reissue node live =>
          intro fresh
          have answered := written_of_fresh (r := r) node live fresh
          rw [written] at answered
          cases answered
      | some answer =>
        have own := sound.begun t r begun held
        obtain ⟨loaded, opened, began, issued⟩ := issued_of_written own written
        have left := open_liveTokens sound.housed own began
        refine Iff.trans ?_ (sole_commit sole (opened_of_open own began) issued _).symm
        rw [left]
        cases begun with
        | absent | moved _ => exact iff_of_true trivial (by rintro _ _ ⟨⟩)
        | reissue node live =>
          constructor
          · rintro covered _ _ ⟨⟩
            exact covered issued.fresh
          · intro covered _
            exact covered node live rfl
    | idle | loaded _ _ | putting _ _ | differing _ _ _ | upserting _ _ _ _ | matching _ _ | assigning _ _ _ =>
      simp only [Covered, step, held, true_iff]
      exact sole
  | selectNode _ _ | selectTokens _ | selectBearer _ _ _ | selectActive _ | selectHighest _ | writeConfig _ _ | selectRow _
  | writeVersion _ | abandon _ => exact iff_of_true trivial (sole_step sound sole (by rintro _ _ ⟨⟩))

/-- A registration that is refused has changed no row. -/
theorem db_of_refused {s : Requests τ γ} {e : Statement τ γ} (refused : s.reply e = some .refused) : (s.step e).db = s.db := by
  cases e with
  | writeRegistration t draws =>
    cases held : s.phases t with
    | ready r begun =>
      simp only [reply, held, Option.some.injEq] at refused
      simp only [step, held]
      cases written : NodeApi.writeRegistration r draws begun s.db with
      | none => rfl
      | some answer => rw [written] at refused; cases refused
    | idle | loaded _ _ | putting _ _ | differing _ _ _ | upserting _ _ _ _ | matching _ _ | assigning _ _ _ =>
      simp [reply, held] at refused
  | selectNode _ _ | selectTokens _ | selectBearer _ _ _ | selectActive _ | selectHighest _ | writeConfig _ _ | selectRow _
  | writeVersion _ | abandon _ => cases refused

omit [DecidableEq τ] [DecidableEq γ] in
theorem sound_start : Sound (start : Requests τ γ) where
  distinct := List.nodup_nil
  housed := by simp [start, Tables.empty]
  loaded := by rintro _ _ _ ⟨⟩
  begun := by rintro _ _ _ ⟨⟩

/-- A registration's reads. -/
def Reads : Statement τ γ → Prop
  | .selectNode _ _ | .selectTokens _ => True
  | _ => False

/-- Along every interleaving the live tokens of a node are the one returned by
the last registration to commit, in every state reached, exactly where each
re-registration that commits has read every token that is live by then. What a
registration does short of a commit changes no row. -/
theorem sole_live_token_iff (events : List (Statement τ γ)) :
    (Along step Covered (start : Requests τ γ) events ↔
      ∀ before after, events = before ++ after → ∀ nodeId, (run step (start : Requests τ γ) before).Sole nodeId) ∧
    Along step (fun s e => Reads e ∨ s.reply e = some .refused → (s.step e).db = s.db)
      (start : Requests τ γ) events := by
  have preserved : ∀ (s : Requests τ γ) e, Sound s → Sound (s.step e) := fun s e held => sound_step held e
  constructor
  · let I : Requests τ γ → Prop := fun s => Sound s ∧ ∀ n, s.Sole n
    have exact_ : ∀ (s : Requests τ γ) e, I s → (s.Covered e ↔ I (s.step e)) := fun s e held =>
      (covered_iff held.1 held.2 e).trans (and_iff_right (sound_step held.1 e)).symm
    have initial : I start := ⟨sound_start, fun _ => rfl⟩
    rw [along_iff_invariant exact_ initial]
    have sound : ∀ before, Sound (run step (start : Requests τ γ) before) := fun before =>
      invariant_always preserved sound_start before
    exact forall_congr' fun before => forall_congr' fun _ => forall_congr' fun _ => and_iff_right (sound before)
  · refine along_of_always preserved ?_ sound_start events
    rintro s e - (reads | refused)
    · cases e with
      | selectNode t r =>
        simp only [step]
        split <;> rfl
      | selectTokens t =>
        simp only [step]
        split <;> rfl
      | writeRegistration _ _ | selectBearer _ _ _ | selectActive _ | selectHighest _ | writeConfig _ _ | selectRow _
      | writeVersion _ | abandon _ => cases reads
    · exact db_of_refused refused

end Requests

/-- A board that registers, and then registers twice more at once: both requests
read the first token before either commits. -/
def crossed : List (Statement (Fin 3) Nat) :=
  [.selectNode 0 ⟨"ret1a2b3c4d", "pi5", {}, 7⟩, .writeRegistration 0 ⟨"nde000000000000", "first", 1⟩,
   .selectNode 1 ⟨"ret1a2b3c4d", "pi5", {}, 7⟩, .selectNode 2 ⟨"ret1a2b3c4d", "pi5", {}, 7⟩,
   .selectTokens 1, .selectTokens 2,
   .writeRegistration 1 ⟨"nde111111111111", "second", 2⟩, .writeRegistration 2 ⟨"nde222222222222", "third", 3⟩]

theorem two_live_tokens :
    (∀ t, ¬ ((run Requests.step Requests.start crossed).phases t).Registering) ∧
      ((run Requests.step Requests.start crossed).db.liveTokens "ret1a2b3c4d").map NodeToken.tokenHash =
        ["second", "third"] := by
  decide +kernel

end Retina.NodeApi
