import RetinaServer.NodeApi.Rows
import RetinaServer.Library.Runs

/-! The versions of one node's configuration over any sequence of upserts: numbered from 1, each
superseded by the next, none ever rewritten. -/
namespace Retina.NodeApi

variable {γ : Type}

/-- A call of `upsert_config`, at the instant its clock reads. -/
structure ConfigCall (γ : Type) where
  nodeId : String
  config : γ
  now : ℚ

/-- What a version says for good. -/
def NodeConfig.stamp (row : NodeConfig γ) : Nat × γ := (row.version, row.fields)

/-- The versions of a node, whose last configuration was `last`. -/
structure History (rows : List (NodeConfig γ)) (last : Option γ) : Prop where
  numbered : rows.map NodeConfig.version = List.range' 1 rows.length
  current : ∃ older current, rows = older ++ current.toList ∧ (∀ row ∈ older, row.supersededAt ≠ none) ∧
    (∀ row ∈ current, row.supersededAt = none) ∧ current.map NodeConfig.fields = last ∧ (current = none → older = [])

/-- The last configuration the calls give the node. -/
def lastGiven (nodeId : String) (calls : List (ConfigCall γ)) : Option γ :=
  ((calls.filter fun call => decide (call.nodeId = nodeId)).getLast?).map ConfigCall.config

namespace Tables

/-- The tables with the active version superseded and another appended. -/
def mint (db : Tables γ) (nodeId : String) (config : γ) (now : ℚ) : Tables γ :=
  let superseded := (db.activeConfig nodeId).elim db fun row => db.supersede row now
  { superseded with
    configs := superseded.configs ++
      [{ nodeId, version := (db.highestVersion nodeId).elim 1 (· + 1), fields := config }] }

theorem versionsOf_append (db : Tables γ) (row : NodeConfig γ) :
    { db with configs := db.configs ++ [row] : Tables γ }.versionsOf nodeId =
      db.versionsOf nodeId ++ if row.nodeId = nodeId then [row] else [] := by
  by_cases own : row.nodeId = nodeId <;> simp [versionsOf, own]

/-- The rows of its own node are superseded where they carry the row's version. -/
theorem versionsOf_supersede_self (db : Tables γ) (row : NodeConfig γ) (own : row.nodeId = nodeId) (now : ℚ) :
    (db.supersede row now).versionsOf nodeId =
      (db.versionsOf nodeId).map fun other =>
        if other.version = row.version then { other with supersededAt := some now } else other := by
  subst own
  simp only [versionsOf, supersede, List.filter_map]
  have blind : (fun r : NodeConfig γ => decide (r.nodeId = row.nodeId)) ∘
      (fun r : NodeConfig γ => if r.nodeId = row.nodeId ∧ r.version = row.version then { r with supersededAt := some now } else r) =
      fun r => decide (r.nodeId = row.nodeId) := by
    funext r
    simp only [Function.comp]
    split <;> rfl
  rw [blind]
  refine List.map_congr_left fun other member => ?_
  have same : other.nodeId = row.nodeId := of_decide_eq_true (List.mem_filter.mp member).2
  simp only [same, true_and]

theorem versionsOf_mint_ne (db : Tables γ) (other : nodeId' ≠ nodeId) (config : γ) (now : ℚ) :
    (db.mint nodeId config now).versionsOf nodeId' = db.versionsOf nodeId' := by
  rw [mint, versionsOf_append, if_neg (Ne.symm other), List.append_nil]
  cases active : db.activeConfig nodeId with
  | none => rfl
  | some row => exact versionsOf_supersede_ne (activeConfig_mem active).2 other now

/-- A node's versions as another is minted. -/
theorem versionsOf_mint (db : Tables γ) (nodeId : String) (config : γ) (now : ℚ) :
    (db.mint nodeId config now).versionsOf nodeId =
      ((db.versionsOf nodeId).map fun other =>
        if (db.activeConfig nodeId).map NodeConfig.version = some other.version
        then { other with supersededAt := some now } else other) ++
      [{ nodeId, version := (db.highestVersion nodeId).elim 1 (· + 1), fields := config }] := by
  rw [mint, versionsOf_append, if_pos rfl]
  congr 1
  cases active : db.activeConfig nodeId with
  | none => simp
  | some row =>
    rw [Option.elim_some, versionsOf_supersede_self db row (activeConfig_mem active).2]
    refine List.map_congr_left fun other _ => ?_
    simp only [Option.map_some, Option.some.injEq, eq_comm]

theorem stamps_mint (db : Tables γ) (nodeId : String) (config : γ) (now : ℚ) :
    ((db.mint nodeId config now).versionsOf nodeId).map NodeConfig.stamp =
      (db.versionsOf nodeId).map NodeConfig.stamp ++ [((db.highestVersion nodeId).elim 1 (· + 1), config)] := by
  rw [versionsOf_mint, List.map_append, List.map_map]
  congr 1
  refine List.map_congr_left fun other _ => ?_
  simp only [Function.comp]
  split <;> rfl

/-! ### The history of a node -/

/-- The active version of a history is its last, if it has any. -/
theorem activeConfig_of_history {db : Tables γ} (history : History (db.versionsOf nodeId) last) :
    (db.activeConfig nodeId).map NodeConfig.fields = last ∧
      ∃ older, db.versionsOf nodeId = older ++ (db.activeConfig nodeId).toList ∧ (∀ row ∈ older, row.supersededAt ≠ none) ∧
        ((db.activeConfig nodeId) = none → older = []) := by
  obtain ⟨older, current, split, superseded, live, last_fields, none_older⟩ := history.current
  have unsuperseded : (db.versionsOf nodeId).filter (fun row => row.supersededAt.isNone) = current.toList := by
    have dropped : older.filter (fun row => row.supersededAt.isNone) = [] :=
      List.filter_eq_nil_iff.mpr fun row member blank => superseded row member (Option.isNone_iff_eq_none.mp blank)
    have kept : current.toList.filter (fun row => row.supersededAt.isNone) = current.toList :=
      List.filter_eq_self.mpr fun row member => Option.isNone_iff_eq_none.mpr (live row (Option.mem_toList.mp member))
    rw [split, List.filter_append, dropped, kept, List.nil_append]
  have active : db.activeConfig nodeId = current := by
    rw [activeConfig, unsuperseded]
    cases current <;> rfl
  rw [active]
  exact ⟨last_fields, older, split, superseded, none_older⟩

theorem nextVersion_of_numbered {db : Tables γ}
    (numbered : (db.versionsOf nodeId).map NodeConfig.version = List.range' 1 (db.versionsOf nodeId).length) :
    (db.highestVersion nodeId).elim 1 (· + 1) = (db.versionsOf nodeId).length + 1 := by
  rw [highestVersion, numbered]
  cases held : (db.versionsOf nodeId).length with
  | zero => rfl
  | succ n =>
    have highest : (List.range' 1 (n + 1)).max? = some (n + 1) := by
      refine List.max?_eq_some_iff.mpr ⟨List.mem_range'_1.mpr (by omega), fun version listed => ?_⟩
      have bound := List.mem_range'_1.mp listed
      omega
    rw [highest]
    rfl

/-- A version minted is the next one, and the only one that is not superseded. -/
theorem history_mint {db : Tables γ} (history : History (db.versionsOf nodeId) last) (config : γ) (now : ℚ) :
    History ((db.mint nodeId config now).versionsOf nodeId) (some config) := by
  obtain ⟨-, older, split, superseded, -⟩ := activeConfig_of_history history
  constructor
  · rw [versionsOf_mint]
    simp only [List.map_append, List.map_map, List.length_append, List.length_map, List.map_cons, List.map_nil,
      List.length_cons, List.length_nil]
    have versions : (db.versionsOf nodeId).map (NodeConfig.version ∘ fun other =>
        if (db.activeConfig nodeId).map NodeConfig.version = some other.version
        then { other with supersededAt := some now } else other) = (db.versionsOf nodeId).map NodeConfig.version := by
      refine List.map_congr_left fun other _ => ?_
      simp only [Function.comp]
      split <;> rfl
    rw [versions, history.numbered, nextVersion_of_numbered history.numbered, List.range'_append_1.symm]
    simp [Nat.add_comm]
  · refine ⟨_, some _, versionsOf_mint db nodeId config now, ?_, ?_, rfl, by simp⟩
    · intro row member
      obtain ⟨other, listed, rfl⟩ := List.mem_map.mp member
      split
      · simp
      · rename_i apart
        rw [split, List.mem_append] at listed
        rcases listed with old | current
        · exact superseded other old
        · have active := Option.mem_toList.mp current
          rw [active, Option.map_some] at apart
          exact absurd rfl apart
    · rintro row ⟨⟩
      rfl

theorem history_empty (nodeId : String) : History ((empty : Tables γ).versionsOf nodeId) none :=
  ⟨rfl, [], none, rfl, by simp, by simp, rfl, fun _ => rfl⟩

variable [DecidableEq γ]

/-- What a call leaves behind; one that raises leaves what was there. -/
def upsert (db : Tables γ) (call : ConfigCall γ) : Tables γ :=
  (db.upsertHere call.nodeId call.config call.now).elim db Prod.snd

/-- A call finds the active configuration to be its own and writes nothing, or it mints a version. -/
theorem upsertHere_cases (db : Tables γ) (nodeId : String) (config : γ) (now : ℚ) :
    (∃ row, db.activeConfig nodeId = some row ∧ row.fields = config ∧
        db.upsertHere nodeId config now = some (row.version, db)) ∨
      (∀ row, db.activeConfig nodeId = some row → row.fields ≠ config) ∧
        db.upsertHere nodeId config now = some ((db.highestVersion nodeId).elim 1 (· + 1), db.mint nodeId config now) := by
  unfold upsertHere upsertConfig
  cases same : (db.activeConfig nodeId).filter fun row => decide (row.fields = config) with
  | some row =>
    obtain ⟨active, equal⟩ := Option.filter_eq_some_iff.mp same
    exact .inl ⟨row, active, of_decide_eq_true equal, rfl⟩
  | none =>
    refine .inr ⟨?_, ?_⟩
    · intro row active equal
      rw [active, Option.filter_some, if_pos (decide_eq_true equal)] at same
      cases same
    · simp only [versionTaken_nextVersion, Bool.false_eq_true, if_false]
      rfl

/-- What a call does to the history of any node. -/
theorem upsert_history (db : Tables γ) (call : ConfigCall γ) (nodeId : String)
    (history : History (db.versionsOf nodeId) last) :
    History ((db.upsert call).versionsOf nodeId) (if call.nodeId = nodeId then some call.config else last) ∧
      (db.versionsOf nodeId).map NodeConfig.stamp <+: ((db.upsert call).versionsOf nodeId).map NodeConfig.stamp := by
  rw [upsert]
  rcases upsertHere_cases db call.nodeId call.config call.now with ⟨row, active, same, quiet⟩ | ⟨-, minted⟩
  · rw [quiet, Option.elim_some]
    refine ⟨?_, List.prefix_refl _⟩
    by_cases own : call.nodeId = nodeId
    · have last_given := (activeConfig_of_history history).1
      rw [← own, active, Option.map_some, same] at last_given
      rw [if_pos own, last_given]
      exact history
    · rw [if_neg own]
      exact history
  · rw [minted, Option.elim_some]
    by_cases own : call.nodeId = nodeId
    · subst own
      rw [if_pos rfl, stamps_mint]
      exact ⟨history_mint history _ _, List.prefix_append _ _⟩
    · rw [if_neg own, versionsOf_mint_ne db (Ne.symm own)]
      exact ⟨history, List.prefix_refl _⟩

/-- A call's configuration is the active one after it, under the version it returns. -/
theorem activeConfig_upsertHere {db : Tables γ} (history : History (db.versionsOf nodeId) last)
    (done : db.upsertHere nodeId config now = some (version, db')) :
    ∃ row, db'.activeConfig nodeId = some row ∧ row.version = version ∧ row.fields = config := by
  rcases upsertHere_cases db nodeId config now with ⟨row, active, same, quiet⟩ | ⟨-, minted⟩
  · obtain ⟨rfl, rfl⟩ := Prod.mk.inj (Option.some.inj (quiet.symm.trans done))
    exact ⟨row, active, rfl, same⟩
  · obtain ⟨rfl, rfl⟩ := Prod.mk.inj (Option.some.inj (minted.symm.trans done))
    obtain ⟨given, older, split, -, -⟩ := activeConfig_of_history (history_mint history config now)
    cases active : (db.mint nodeId config now).activeConfig nodeId with
    | none =>
      rw [active] at given
      cases given
    | some row =>
      rw [active, versionsOf_mint] at split
      obtain ⟨-, last⟩ := List.append_inj' split rfl
      obtain rfl := List.singleton_inj.mp last
      exact ⟨_, rfl, rfl, rfl⟩

theorem run_history (calls : List (ConfigCall γ)) (db : Tables γ) (nodeId : String)
    (history : History (db.versionsOf nodeId) last) :
    History ((Runs.run upsert db calls).versionsOf nodeId) ((lastGiven nodeId calls).or last) ∧
      (db.versionsOf nodeId).map NodeConfig.stamp <+: ((Runs.run upsert db calls).versionsOf nodeId).map NodeConfig.stamp := by
  induction calls generalizing db last with
  | nil => exact ⟨history, List.prefix_refl _⟩
  | cons call rest ih =>
    obtain ⟨step, kept⟩ := upsert_history db call nodeId history
    obtain ⟨run, kept'⟩ := ih (db.upsert call) step
    refine ⟨?_, kept.trans kept'⟩
    have given : (lastGiven nodeId (call :: rest)).or last =
        (lastGiven nodeId rest).or (if call.nodeId = nodeId then some call.config else last) := by
      by_cases own : call.nodeId = nodeId
      · cases later : rest.filter (fun call => decide (call.nodeId = nodeId)) with
        | nil => simp [lastGiven, own, later]
        | cons next others =>
          have last := List.getLast?_eq_some_getLast (List.cons_ne_nil next others)
          simp only [lastGiven, List.filter_cons, own, decide_true, if_true, later, List.getLast?_cons_cons, last,
            Option.map_some, Option.some_or]
      · simp [lastGiven, own]
    rw [given]
    exact run

end Tables
end Retina.NodeApi
