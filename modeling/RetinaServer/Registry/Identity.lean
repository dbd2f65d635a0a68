import RetinaServer.Library.Dict
import RetinaServer.Library.Runs
import Mathlib.Data.Rat.Defs

/-! What a node is published as: its registry handle, or the one another
environment sent along with it, and the way back from either. -/
namespace Retina.Registry
open Runs

def SYNTHETIC_NODE_PREFIXES : List String := ["synth-", "e2e-", "realnode-", "test-"]

def isSyntheticNode (nodeId : String) : Bool :=
  SYNTHETIC_NODE_PREFIXES.any fun p => p.toList.isPrefixOf nodeId.toList

/-- The pattern `^(nde|sim)[0-9a-z]{12}$`. -/
def isNodeRef (text : String) : Bool :=
  text.toList.length == 15 &&
    ("nde".toList.isPrefixOf text.toList || "sim".toList.isPrefixOf text.toList) &&
    (text.toList.drop 3).all fun c => c.isDigit || c.isLower

/-- A handle a registration mints, or one that passed the bulk endpoint's validation. -/
abbrev NodeRef := { text : String // isNodeRef text = true }

/-- The rows of the `nodes` table: the id is its primary key and the handle is unique. -/
structure NodeTable where
  rows : Dict String NodeRef
  unique : ∀ n n' ref, rows.get? n = some ref → rows.get? n' = some ref → n = n'

/-- A row that breaks a constraint does not land. -/
def NodeTable.insertRow (table : NodeTable) (nodeId : String) (ref : NodeRef) : NodeTable :=
  if free : nodeId ∉ table.rows.keys ∧ ref ∉ table.rows.values then
    { rows := table.rows.insert nodeId ref
      unique := by
        have new : ∀ n, table.rows.get? n ≠ some ref := fun n found =>
          free.2 (List.mem_map.mpr ⟨_, (Dict.get?_eq_some_iff _ _ _).mp found, rfl⟩)
        intro n n' ref' found found'
        rw [Dict.get?_insert] at found found'
        split at found <;> split at found'
        · rename_i same same'
          exact same.symm.trans same'
        · exact absurd (Option.some.inj found ▸ found') (new n')
        · exact absurd (Option.some.inj found' ▸ found) (new n)
        · exact table.unique n n' ref' found found' }
  else table

/-- The cached maps, when they are next loaded, and the handle on each connected node's record. -/
structure Handles where
  table : NodeTable
  forward : Dict String String
  reverse : Dict String String
  expiresAt : ℚ
  connected : Dict String (Option NodeRef)

def TTL_S : ℚ := 30

def ERROR_RETRY_S : ℚ := 5

def loadPairs (table : NodeTable) : List (String × String) :=
  (table.rows.items.filter fun row => decide (row.1 ≠ "")).map fun row => (row.1, row.2.1)

/-- `loads` is whether the query succeeds. -/
def refresh (s : Handles) (now : ℚ) (loads : Bool) : Handles :=
  if now < s.expiresAt then s
  else if loads then
    { s with
      forward := Dict.ofList (loadPairs s.table)
      reverse := Dict.ofList ((loadPairs s.table).map fun pair => (pair.2, pair.1))
      expiresAt := now + TTL_S }
  else { s with expiresAt := now + ERROR_RETRY_S }

def refFor (s : Handles) (nodeId : String) : Option String := if nodeId = "" then none else s.forward.get? nodeId

def idForRef (s : Handles) (ref : String) : Option String := if ref = "" then none else s.reverse.get? ref

def mirroredRef (s : Handles) (nodeId : String) : Option String := ((s.connected.get? nodeId).join).map Subtype.val

def ownerIdentity (s : Handles) (nodeId : String) : Option String :=
  if nodeId = "" then none
  else if isSyntheticNode nodeId then some nodeId
  else (refFor s nodeId).or (mirroredRef s nodeId)

/-- `owner_identity`, with a log line for a node without a handle. -/
def publicIdentity (s : Handles) (nodeId : String) : Option String := ownerIdentity s nodeId

def mirroredId (s : Handles) (ref : String) : Option String :=
  (s.connected.items.find? fun item =>
    decide (item.2.map Subtype.val = some ref) && decide (ownerIdentity s item.1 = some ref)).map Prod.fst

def idForIdentity (s : Handles) (identity : String) : Option String :=
  if identity = "" then none
  else if isSyntheticNode identity then some identity
  else (idForRef s identity).or (mirroredId s identity)

/-- Refused when the registry, as last loaded, names another node under the handle. -/
def recordMirroredRef (s : Handles) (nodeId : String) (nodeRef : Option NodeRef) (now : ℚ) (loads : Bool) : Handles :=
  match nodeRef with
  | none => s
  | some ref =>
    let s := refresh s now loads
    if (idForRef s ref.1).all fun holder => decide (holder = nodeId) then
      match s.connected.get? nodeId with
      | none => s
      | some _ => { s with connected := s.connected.insert nodeId (some ref) }
    else s

inductive HandleEvent where
  | insertRow (nodeId : String) (ref : NodeRef)
  | refresh (now : ℚ) (loads : Bool)
  | record (nodeId : String) (nodeRef : Option NodeRef) (now : ℚ) (loads : Bool)
  /-- A handshake or a registration writes the node's record anew. -/
  | connect (nodeId : String)
  | forget (nodeId : String)

def handleStep (s : Handles) : HandleEvent → Handles
  | .insertRow nodeId ref => { s with table := s.table.insertRow nodeId ref }
  | .refresh now loads => refresh s now loads
  | .record nodeId nodeRef now loads => recordMirroredRef s nodeId nodeRef now loads
  | .connect nodeId => { s with connected := s.connected.insert nodeId none }
  | .forget nodeId => { s with connected := s.connected.erase nodeId }

def Handles.boot : Handles :=
  ⟨⟨Dict.empty, fun _ _ _ found => by cases found⟩, Dict.empty, Dict.empty, 0, Dict.empty⟩

/-- No two nodes are published under one identity, and each identity leads back to its node. -/
def IdentitiesSound (s : Handles) : Prop :=
  (∀ n n' identity, publicIdentity s n = some identity → publicIdentity s n' = some identity → n = n') ∧
  ∀ n identity, publicIdentity s n = some identity → idForIdentity s identity = some n

/-- What the sending environments' registries keep: no two nodes arrive under one handle. -/
def MirroredDistinct (s : Handles) : Prop :=
  ∀ n n' ref, s.connected.get? n = some (some ref) → s.connected.get? n' = some (some ref) → n = n'

/-- A load brings in no row under a handle that another node, published by it and without a row, was sent with. -/
def LoadApart (s : Handles) : Prop :=
  ∀ n ref, n ≠ "" → s.table.rows.get? n = some ref → ∀ m, m ≠ n → s.connected.get? m = some (some ref) →
    m = "" ∨ isSyntheticNode m = true ∨ (s.table.rows.get? m).isSome

instance (s : Handles) : Decidable (MirroredDistinct s) :=
  decidable_of_iff (∀ item ∈ s.connected.items, ∀ item' ∈ s.connected.items,
      item.2 ≠ none → item.2 = item'.2 → item.1 = item'.1) <| by
    constructor
    · intro apart n n' ref found found'
      exact apart _ ((Dict.get?_eq_some_iff _ _ _).mp found) _ ((Dict.get?_eq_some_iff _ _ _).mp found')
        (Option.some_ne_none ref) rfl
    · intro distinct item listed item' listed' some_ref same
      obtain ⟨ref, held⟩ := Option.ne_none_iff_exists'.mp some_ref
      have found := (Dict.get?_eq_some_iff s.connected item.1 item.2).mpr listed
      have found' := (Dict.get?_eq_some_iff s.connected item'.1 item'.2).mpr listed'
      rw [← same, held] at found'
      rw [held] at found
      exact distinct _ _ ref found found'

instance (s : Handles) : Decidable (LoadApart s) :=
  decidable_of_iff (∀ row ∈ s.table.rows.items, row.1 ≠ "" → ∀ item ∈ s.connected.items, item.1 ≠ row.1 →
      item.2 = some row.2 → item.1 = "" ∨ isSyntheticNode item.1 = true ∨ (s.table.rows.get? item.1).isSome) <| by
    constructor
    · intro apart n ref named row m other mirrored
      exact apart _ ((Dict.get?_eq_some_iff _ _ _).mp row) named _ ((Dict.get?_eq_some_iff _ _ _).mp mirrored) other rfl
    · intro apart row listed named item listed' other mirrored
      have found := (Dict.get?_eq_some_iff s.connected item.1 item.2).mpr listed'
      rw [mirrored] at found
      exact apart row.1 row.2 named ((Dict.get?_eq_some_iff _ _ _).mpr listed) item.1 other found

def refreshes (s : Handles) : HandleEvent → Bool
  | .refresh now loads => loads && decide (s.expiresAt ≤ now)
  | .record _ (some _) now loads => loads && decide (s.expiresAt ≤ now)
  | _ => false

/-! ### Loads -/

theorem isNodeRef_ne_empty {text : String} (shaped : isNodeRef text = true) : text ≠ "" := by
  rintro rfl
  exact absurd shaped (by decide)

/-- A handle is never the id of a synthetic node. -/
theorem isNodeRef_not_synthetic {text : String} (shaped : isNodeRef text = true) : isSyntheticNode text = false := by
  simp only [isNodeRef, Bool.and_eq_true, Bool.or_eq_true, List.isPrefixOf_iff_prefix] at shaped
  rcases shaped.1.2 with ⟨rest, minted⟩ | ⟨rest, simulated⟩
  · simp [isSyntheticNode, SYNTHETIC_NODE_PREFIXES, ← minted, List.isPrefixOf]
  · simp [isSyntheticNode, SYNTHETIC_NODE_PREFIXES, ← simulated, List.isPrefixOf]

theorem mem_loadPairs (table : NodeTable) : (n, r) ∈ loadPairs table ↔
    n ≠ "" ∧ ∃ ref, table.rows.get? n = some ref ∧ ref.1 = r := by
  simp only [loadPairs, List.mem_map, List.mem_filter, decide_eq_true_eq, Prod.mk.injEq]
  constructor
  · rintro ⟨row, ⟨listed, named⟩, rfl, rfl⟩
    exact ⟨named, row.2, (Dict.get?_eq_some_iff _ _ _).mpr listed, rfl⟩
  · rintro ⟨named, ref, found, rfl⟩
    exact ⟨(n, ref), ⟨(Dict.get?_eq_some_iff _ _ _).mp found, named⟩, rfl, rfl⟩

theorem loaded_forward (table : NodeTable) : (Dict.ofList (loadPairs table)).get? n = some r ↔
    n ≠ "" ∧ ∃ ref, table.rows.get? n = some ref ∧ ref.1 = r := by
  rw [Dict.get?_ofList_eq_some_iff, mem_loadPairs]
  have ids : ((loadPairs table).map Prod.fst).Sublist (table.rows.items.map Prod.fst) := by
    rw [loadPairs, List.map_map]
    exact List.filter_sublist.map Prod.fst
  exact table.rows.nodup.sublist ids

theorem loaded_reverse (table : NodeTable) :
    (Dict.ofList ((loadPairs table).map fun pair => (pair.2, pair.1))).get? r = some n ↔
      n ≠ "" ∧ ∃ ref, table.rows.get? n = some ref ∧ ref.1 = r := by
  rw [Dict.get?_ofList_eq_some_iff, ← mem_loadPairs]
  · simp
  · -- The handles are distinct because the column is unique.
    rw [loadPairs, List.map_map, List.map_map]
    refine (List.Nodup.map_on ?_ (List.Nodup.of_map Prod.fst table.rows.nodup)).sublist (List.filter_sublist.map _)
    intro row listed row' listed' same
    have found := (Dict.get?_eq_some_iff table.rows row.1 row.2).mpr listed
    have found' := (Dict.get?_eq_some_iff table.rows row'.1 row'.2).mpr listed'
    have refs : row.2 = row'.2 := Subtype.ext same
    exact Prod.ext (table.unique _ _ _ found (refs ▸ found')) refs

/-! ### Sound states -/

/-- The maps are inverse, their handles are well formed, and no node outside the registry is published
under a handle the reverse map gives to another. -/
structure Consistent (s : Handles) : Prop where
  inverse : ∀ r n, s.reverse.get? r = some n ↔ s.forward.get? n = some r
  shaped : ∀ n r, s.forward.get? n = some r → isNodeRef r = true
  named : s.forward.get? "" = none
  distinct : MirroredDistinct s
  apart : ∀ m ref, m ≠ "" → isSyntheticNode m = false → s.forward.get? m = none →
    s.connected.get? m = some (some ref) → s.reverse.get? ref.1 = none

theorem mirroredRef_eq_some {s : Handles} : mirroredRef s n = some r ↔
    ∃ ref, s.connected.get? n = some (some ref) ∧ ref.1 = r := by
  simp only [mirroredRef]
  cases s.connected.get? n with
  | none => simp
  | some known => cases known <;> simp

/-- The three ways a node is published. -/
theorem publicIdentity_cases {s : Handles} (published : publicIdentity s n = some identity) :
    n ≠ "" ∧ (isSyntheticNode n = true ∧ identity = n ∨
      isSyntheticNode n = false ∧ (s.forward.get? n = some identity ∨
        s.forward.get? n = none ∧ ∃ ref, s.connected.get? n = some (some ref) ∧ ref.1 = identity)) := by
  rw [publicIdentity, ownerIdentity] at published
  split at published
  · cases published
  · rename_i named
    refine ⟨named, ?_⟩
    split at published
    · rename_i synthetic
      exact .inl ⟨synthetic, (Option.some.inj published).symm⟩
    · rename_i real
      refine .inr ⟨Bool.not_eq_true _ ▸ real, ?_⟩
      rw [refFor, if_neg named] at published
      cases row : s.forward.get? n with
      | some r =>
        rw [row, Option.some_or] at published
        exact .inl published
      | none =>
        rw [row, Option.none_or] at published
        exact .inr ⟨rfl, mirroredRef_eq_some.mp published⟩

/-- A published identity leads back to its node. -/
theorem Consistent.resolves {s : Handles} (consistent : Consistent s) (published : publicIdentity s n = some identity) :
    idForIdentity s identity = some n := by
  obtain ⟨named, ⟨synthetic, rfl⟩ | ⟨real, row | ⟨rowless, ref, mirrored, rfl⟩⟩⟩ := publicIdentity_cases published
  · rw [idForIdentity, if_neg named, if_pos synthetic]
  · have shaped := consistent.shaped n identity row
    have back := (consistent.inverse identity n).mpr row
    rw [idForIdentity, if_neg (isNodeRef_ne_empty shaped), if_neg (by simp [isNodeRef_not_synthetic shaped]),
      idForRef, if_neg (isNodeRef_ne_empty shaped), back, Option.some_or]
  · have unheld := consistent.apart n ref named real rowless mirrored
    rw [idForIdentity, if_neg (isNodeRef_ne_empty ref.2), if_neg (by simp [isNodeRef_not_synthetic ref.2]),
      idForRef, if_neg (isNodeRef_ne_empty ref.2), unheld, Option.none_or, mirroredId]
    have own : (n, some ref) ∈ s.connected.items := (Dict.get?_eq_some_iff _ _ _).mp mirrored
    rw [publicIdentity] at published
    have candidate : (s.connected.items.find? fun item => decide (item.2.map Subtype.val = some ref.1) &&
        decide (ownerIdentity s item.1 = some ref.1)).isSome = true :=
      List.find?_isSome.mpr ⟨_, own, by simp [published]⟩
    obtain ⟨item, found⟩ := Option.isSome_iff_exists.mp candidate
    have holds := List.find?_some found
    rw [Bool.and_eq_true, decide_eq_true_eq, decide_eq_true_eq, Option.map_eq_some_iff] at holds
    obtain ⟨⟨other, named_other, same⟩, -⟩ := holds
    have listed := (Dict.get?_eq_some_iff _ _ _).mpr (List.mem_of_find?_eq_some found)
    rw [named_other, Subtype.ext same] at listed
    rw [found, Option.map_some, consistent.distinct _ _ _ listed mirrored]

theorem Consistent.sound {s : Handles} (consistent : Consistent s) : IdentitiesSound s := by
  constructor
  · intro n n' identity published published'
    have back := consistent.resolves published
    rw [consistent.resolves published'] at back
    exact (Option.some.inj back).symm
  · exact fun n identity published => consistent.resolves published

/-! ### Runs -/

theorem Consistent.refresh {s : Handles} (consistent : Consistent s) (now : ℚ) (loads : Bool)
    (apart : loads = true → s.expiresAt ≤ now → LoadApart s) : Consistent (refresh s now loads) := by
  rw [Registry.refresh]
  split
  · exact consistent
  · rename_i due
    split
    · rename_i loaded
      have load_apart := apart loaded (Rat.not_lt.mp due)
      constructor
      · intro r n
        rw [loaded_forward, loaded_reverse]
      · intro n r found
        obtain ⟨-, ref, -, rfl⟩ := (loaded_forward s.table).mp found
        exact ref.2
      · rw [Option.eq_none_iff_forall_ne_some]
        intro r found
        exact ((loaded_forward s.table).mp found).1 rfl
      · exact consistent.distinct
      · intro m ref named real rowless mirrored
        rw [Option.eq_none_iff_forall_ne_some]
        intro n found
        obtain ⟨holder_named, ref', row, same⟩ := (loaded_reverse s.table).mp found
        obtain rfl := Subtype.ext same
        have no_row : s.table.rows.get? m = none := by
          rw [Option.eq_none_iff_forall_ne_some]
          intro ref' found'
          have loaded := (loaded_forward s.table).mpr ⟨named, ref', found', rfl⟩
          rw [rowless] at loaded
          cases loaded
        have other : m ≠ n := by
          rintro rfl
          rw [no_row] at row
          cases row
        rcases load_apart n ref' holder_named row m other mirrored with unnamed | synthetic | registered
        · exact named unnamed
        · rw [real] at synthetic
          cases synthetic
        · rw [no_row] at registered
          cases registered
    · exact ⟨consistent.inverse, consistent.shaped, consistent.named, consistent.distinct, consistent.apart⟩

/-- The step lemma: a load is the only step that can bring two nodes under one handle. -/
theorem Consistent.step {s : Handles} (consistent : Consistent s) (e : HandleEvent)
    (apart : refreshes s e = true → LoadApart s) (distinct : MirroredDistinct (handleStep s e)) :
    Consistent (handleStep s e) := by
  cases e with
  | insertRow nodeId ref =>
    exact ⟨consistent.inverse, consistent.shaped, consistent.named, consistent.distinct, consistent.apart⟩
  | refresh now loads =>
    exact consistent.refresh now loads fun loaded due => apart (by simp [refreshes, loaded, due])
  | record nodeId nodeRef now loads =>
    cases nodeRef with
    | none => exact consistent
    | some ref =>
      have fresh := consistent.refresh now loads fun loaded due => apart (by simp [refreshes, loaded, due])
      simp only [handleStep, recordMirroredRef] at distinct ⊢
      split
      · rename_i free
        rw [if_pos free] at distinct
        split
        · exact fresh
        · rename_i known present
          rw [present] at distinct
          refine ⟨fresh.inverse, fresh.shaped, fresh.named, distinct, ?_⟩
          intro m ref' named real rowless mirrored
          rw [Dict.get?_insert] at mirrored
          split at mirrored
          · rename_i same
            subst same
            obtain rfl := Option.some.inj (Option.some.inj mirrored)
            rw [Option.eq_none_iff_forall_ne_some]
            intro holder held
            rw [idForRef, if_neg (isNodeRef_ne_empty ref.2), held] at free
            obtain rfl := of_decide_eq_true free
            have row := (fresh.inverse _ _).mp held
            rw [rowless] at row
            cases row
          · exact fresh.apart m ref' named real rowless mirrored
      · exact fresh
  | connect nodeId =>
    refine ⟨consistent.inverse, consistent.shaped, consistent.named, distinct, ?_⟩
    intro m ref named real rowless mirrored
    simp only [handleStep, Dict.get?_insert] at mirrored
    split at mirrored
    · cases mirrored
    · exact consistent.apart m ref named real rowless mirrored
  | forget nodeId =>
    refine ⟨consistent.inverse, consistent.shaped, consistent.named, distinct, ?_⟩
    intro m ref named real rowless mirrored
    simp only [handleStep, Dict.get?_erase] at mirrored
    split at mirrored
    · cases mirrored
    · exact consistent.apart m ref named real rowless mirrored

theorem boot_consistent : Consistent Handles.boot := by
  constructor
  · intro r n
    constructor
    · intro found
      cases found
    · intro found
      cases found
  · intro n r found
    cases found
  · rfl
  · intro n n' ref found
    cases found
  · intro m ref _ _ _ mirrored
    cases mirrored

/-- Whatever the order of registrations, loads, mirrored handles and handshakes, identities are
injective and lead back, while no load brings in a handle another node was sent with. -/
theorem identities_sound (events : List HandleEvent)
    (distinct : Along handleStep (fun s e => MirroredDistinct (handleStep s e)) Handles.boot events)
    (apart : Along handleStep (fun s e => refreshes s e = true → LoadApart s) Handles.boot events) :
    IdentitiesSound (run handleStep Handles.boot events) := by
  have both : Along handleStep (fun s e => (refreshes s e = true → LoadApart s) ∧ MirroredDistinct (handleStep s e))
      Handles.boot events := by
    rw [along_iff_split] at distinct apart ⊢
    exact fun before e after split => ⟨apart before e after split, distinct before e after split⟩
  exact (invariant (I := Consistent) (fun s e held admitted => held.step e admitted.1 admitted.2) boot_consistent both).sound

def porchRef : NodeRef := ⟨"nde4k2m9x7qp1zt", by decide⟩

def atticRef : NodeRef := ⟨"nde8w3c5v0rj6ha", by decide⟩

/-- A registered node and a mirrored one, each under its own handle. -/
def ownHandles : List HandleEvent :=
  [.insertRow "ret1a2b3c4d" porchRef, .refresh 0 true, .connect "ret0badcafe",
   .record "ret0badcafe" (some atticRef) 10 true, .refresh 31 true]

theorem identities_sound_own_handles : IdentitiesSound (run handleStep Handles.boot ownHandles) :=
  identities_sound ownHandles (by decide +kernel) (by decide +kernel)

/-- The row lands after the load, and the mirrored node's handle arrives before the next one. -/
def rowUnderMirroredHandle : List HandleEvent :=
  [.refresh 0 true, .insertRow "ret1a2b3c4d" porchRef, .connect "ret0badcafe",
   .record "ret0badcafe" (some porchRef) 10 true, .refresh 31 true]

/-- Only one node was sent with a handle, and after the load two are published under it. -/
theorem handle_shared_after_load :
    Along handleStep (fun s e => MirroredDistinct (handleStep s e)) Handles.boot rowUnderMirroredHandle ∧
    ¬ IdentitiesSound (run handleStep Handles.boot rowUnderMirroredHandle) := by
  refine ⟨by decide +kernel, fun sound => ?_⟩
  have registered : publicIdentity (run handleStep Handles.boot rowUnderMirroredHandle) "ret1a2b3c4d" =
      some "nde4k2m9x7qp1zt" := by decide +kernel
  have mirrored : publicIdentity (run handleStep Handles.boot rowUnderMirroredHandle) "ret0badcafe" =
      some "nde4k2m9x7qp1zt" := by decide +kernel
  exact absurd (sound.1 _ _ _ registered mirrored) (by decide)

end Retina.Registry
