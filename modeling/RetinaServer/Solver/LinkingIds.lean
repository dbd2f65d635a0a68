import RetinaServer.Solver.Provenance

/-! The track ids a solve is keyed by and remembered by, and those its entry names
as sources. All three are read off the input as consensus, the widening and the trim
have left it. -/
namespace Retina.Solver
open Multinode

/-- The tracks of a node once consensus has selected and the widening adopted. -/
def Names (raw : SolverInput) (selected : Option (List String)) (adopted : List Candidate) (nid tid : String) : Prop :=
  tid ∈ (keptInput selected raw).tracksOf nid ∨ ∃ c ∈ adopted, c.brings nid tid

/-- Consensus filtered the input, or the trim re-solved it with fewer nodes. -/
def Narrowed (selected : Option (List String)) (trim : Trim) : Prop :=
  selected.isSome = true ∨ trim.trimMeta.isSome = true

/-- The decision and the memory are given the ids of the dequeued input, and the
entry's sources are the tracks of the nodes left. -/
structure KeyedAsDequeued (raw : SolverInput) (names : String → String → Prop) (nodes : List String)
    (p : PublishInput) (entry : TrackEntry) : Prop where
  handed : ∀ tid, tid ∈ p.trackIds ↔ tid ∈ raw.trackIds
  sources : ∀ tid, tid ∈ entry.sourceTrackIds ↔ ∃ nid ∈ nodes, names nid tid

/-! ### What becomes of the ids -/

/-- An input's ids are the tracks of its nodes, alone or beside the ids `dequeued`. -/
structure Traced (dequeued : List String) (sIn : SolverInput) : Prop where
  listed : sIn.Listed
  ids : (∀ tid, tid ∈ sIn.trackIds ↔ tid ∈ sIn.ownIds) ∨ (∀ tid, tid ∈ sIn.trackIds ↔ tid ∈ dequeued ∨ tid ∈ sIn.ownIds)

theorem SameSources.ownIds (same : SameSources sIn sIn') : sIn'.ownIds = sIn.ownIds := by
  rw [SolverInput.ownIds, SolverInput.ownIds, same.nodes, same.tracksOf]

theorem SameSources.listed (same : SameSources sIn sIn') (listed : sIn.Listed) : sIn'.Listed := by
  intro nid member
  rw [same.nodes]
  exact listed nid (same.trackIdsByNode ▸ member)

theorem Traced.of_sameSources (traced : Traced dequeued sIn) (same : SameSources sIn sIn') : Traced dequeued sIn' where
  listed := same.listed traced.listed
  ids := by simpa only [same.trackIds, same.ownIds] using traced.ids

theorem ownIds_unrecorded {sIn : SolverInput} (empty : sIn.trackIdsByNode.items = []) (tid : String) :
    tid ∉ sIn.ownIds := by
  simp [SolverInput.ownIds, tracksOf_unrecorded empty]

/-- A first narrowing leaves the tracks of the nodes kept, or the ids as they were. -/
theorem SolverInput.Listed.traced_narrow (listed : sIn.Listed) (survivors : List String) :
    Traced sIn.trackIds (filterSInToNodes sIn survivors) := by
  refine ⟨listed.narrow survivors, ?_⟩
  rcases trackIds_filterSInToNodes listed survivors with owned | ⟨-, passed, unrecorded⟩
  · exact .inl fun tid => by rw [owned, mem_sortedSet]
  · exact .inr fun tid => by simp [passed, ownIds_unrecorded unrecorded]

theorem Traced.narrow (traced : Traced dequeued sIn) (survivors : List String) :
    Traced dequeued (filterSInToNodes sIn survivors) := by
  refine ⟨traced.listed.narrow survivors, ?_⟩
  rcases trackIds_filterSInToNodes traced.listed survivors with owned | ⟨empty, passed, unrecorded⟩
  · exact .inl fun tid => by rw [owned, mem_sortedSet]
  · have before := traced.ids
    simp only [ownIds_unrecorded empty, or_false] at before
    simpa only [passed, ownIds_unrecorded unrecorded, or_false] using before

theorem mem_trackIds_sInWithAdopted (listed : sIn.Listed) (adopted : List Candidate) (first : SolveResult) (tid : String) :
    tid ∈ (sInWithAdopted sIn adopted first).trackIds ↔
      tid ∈ sIn.trackIds ∨ tid ∈ (sInWithAdopted sIn adopted first).ownIds := by
  rw [trackIds_sInWithAdopted listed adopted first, mem_sortedSet, List.mem_append]

theorem SolverInput.Listed.traced_widen (listed : sIn.Listed) (adopted : List Candidate) (first : SolveResult) :
    Traced sIn.trackIds (sInWithAdopted sIn adopted first) :=
  ⟨listed.widen adopted first, .inr (mem_trackIds_sInWithAdopted listed adopted first)⟩

theorem Traced.widen (traced : Traced dequeued sIn) (adopted : List Candidate) (first : SolveResult) :
    Traced dequeued (sInWithAdopted sIn adopted first) := by
  have widened := mem_trackIds_sInWithAdopted traced.listed adopted first
  have grows (tid : String) := or_iff_right_of_imp (@ownIds_sInWithAdopted sIn adopted first tid)
  refine ⟨traced.listed.widen adopted first, ?_⟩
  rcases traced.ids with owned | both
  · exact .inl fun tid => by rw [widened, owned, grows]
  · exact .inr fun tid => by rw [widened, both, or_assoc, grows]

/-- What narrowing an input, once or more often, leaves of its tracks. -/
structure NarrowedFrom (sIn narrowed : SolverInput) : Prop where
  first : Traced sIn.trackIds narrowed
  again : ∀ dequeued, Traced dequeued sIn → Traced dequeued narrowed
  within : narrowed.nodes ⊆ sIn.nodes
  tracks : ∀ nid ∈ narrowed.nodes, narrowed.tracksOf nid = sIn.tracksOf nid

theorem SolverInput.Listed.narrowedFrom (listed : sIn.Listed) (survivors : List String) :
    NarrowedFrom sIn (filterSInToNodes sIn survivors) where
  first := listed.traced_narrow survivors
  again := fun _ traced => traced.narrow survivors
  within := fun nid member => ((mem_nodes_filterSInToNodes sIn survivors nid).mp member).1
  tracks := by
    intro nid member
    rw [tracksOf_filterSInToNodes, if_pos ((mem_nodes_filterSInToNodes sIn survivors nid).mp member).2]

theorem NarrowedFrom.trans (first : NarrowedFrom sIn sIn') (second : NarrowedFrom sIn' sIn'') : NarrowedFrom sIn sIn'' where
  first := second.again _ first.first
  again := fun _ traced => second.again _ (first.again _ traced)
  within := fun _ member => first.within (second.within member)
  tracks := fun nid member => (second.tracks nid member).trans (first.tracks nid (second.within member))

section
variable {S : Settings} {B : Backend γ}

/-- A round that is kept narrows the input, and one that is not ends the loop with what it was given. -/
theorem trimLoop_narrows (before : SolveResult) (rounds roundIdx : Nat) (trimmedIds : List String)
    (trimMeta : Option TrimMeta) (result : SolveResult) (listed : sIn.Listed) :
    let t := trimLoop S B before rounds roundIdx trimmedIds trimMeta sIn result
    t.sIn = sIn ∧ t.trimMeta = trimMeta ∨ NarrowedFrom sIn t.sIn := by
  induction rounds generalizing roundIdx trimmedIds trimMeta sIn result with
  | zero => exact .inl ⟨rfl, rfl⟩
  | succ rounds ih =>
    simp only [trimLoop]
    split
    · exact .inl ⟨rfl, rfl⟩
    · rename_i sNext drops round
      obtain ⟨survivors, rfl⟩ : ∃ survivors, sNext = filterSInToNodes sIn survivors := by
        simp only [trimRound] at round
        split at round
        · cases round
        · split at round
          · cases round
          · exact ⟨_, (Prod.mk.inj (Option.some.inj round)).1.symm⟩
      have narrowed := listed.narrowedFrom survivors
      split
      · rename_i next resolved
        split
        · refine .inr ?_
          rcases ih (roundIdx + 1) (trimmedIds ++ sortedSet drops)
            (some ⟨sortedSet (trimmedIds ++ sortedSet drops), roundIdx + 1, before.rmsDelay, before.nNodes⟩) next
            (listed.narrow survivors) with ⟨same, -⟩ | again
          · dsimp only
            rw [same]
            exact narrowed
          · exact narrowed.trans again
        · exact .inl ⟨rfl, rfl⟩
      · exact .inl ⟨rfl, rfl⟩

theorem trimOf_narrows (listed : adoption.sIn.Listed) :
    (trimOf S B adoption).sIn = adoption.sIn ∧ (trimOf S B adoption).trimMeta = none ∨
    NarrowedFrom adoption.sIn (trimOf S B adoption).sIn := by
  simp only [trimOf]
  split
  · exact trimLoop_narrows _ _ _ _ _ _ listed
  · exact .inl ⟨rfl, rfl⟩

/-- The input after consensus and the widening: its ids are traced to those of
the item and to its nodes, unless they still are the item's. -/
structure WidenedFrom (raw : SolverInput) (selected : Option (List String)) (adopted : List Candidate)
    (sIn : SolverInput) : Prop where
  listed : sIn.Listed
  filtered : selected.isSome = true → Traced raw.trackIds sIn
  ids : Traced raw.trackIds sIn ∨ sIn.trackIds = raw.trackIds
  tracks : ∀ nid tid, tid ∈ sIn.tracksOf nid ↔ Names raw selected adopted nid tid

theorem widenedFrom_keptInput (listed : raw.Listed) (selected : Option (List String))
    (same : SameSources (keptInput selected raw) ready) : WidenedFrom raw selected [] ready where
  listed := by
    apply same.listed
    cases selected with
    | none => exact listed
    | some nodeIds => exact listed.narrow nodeIds
  filtered := by
    intro chosen
    obtain ⟨nodeIds, rfl⟩ := Option.isSome_iff_exists.mp chosen
    exact (listed.traced_narrow nodeIds).of_sameSources same
  ids := by
    cases selected with
    | none => exact .inr same.trackIds
    | some nodeIds => exact .inl ((listed.traced_narrow nodeIds).of_sameSources same)
  tracks := fun nid tid => by simp [Names, same.tracksOf]

theorem WidenedFrom.traced_widen (widened : WidenedFrom raw selected [] ready) (adopted : List Candidate)
    (first : SolveResult) : Traced raw.trackIds (sInWithAdopted ready adopted first) := by
  rcases widened.ids with traced | same
  · exact traced.widen adopted first
  · exact same ▸ widened.listed.traced_widen adopted first

theorem Adopts.widenedFrom (adopts : Adopts S B nodeCfgs ready first adopted a) (listed : raw.Listed)
    (same : SameSources (keptInput selected raw) ready) : WidenedFrom raw selected adopted a.sIn := by
  have kept := widenedFrom_keptInput listed selected same
  cases adopts with
  | keeps failed result sIn => exact sIn ▸ kept
  | widens widened sIn solved named =>
    have realigned := sameSources_align S nodeCfgs (sInWithAdopted ready adopted first)
    have traced := (kept.traced_widen adopted first).of_sameSources realigned
    rw [sIn]
    refine ⟨traced.listed, fun _ => traced, .inl traced, fun nid tid => ?_⟩
    rw [widenedInput, realigned.tracksOf, mem_tracksOf_sInWithAdopted, same.tracksOf, Names]

/-- The ids at the gates once consensus or the trim has narrowed the input. -/
theorem WidenedFrom.traced_trimOf (widened : WidenedFrom raw selected adopted adoption.sIn)
    (narrowed : Narrowed selected (trimOf S B adoption)) : Traced raw.trackIds (trimOf S B adoption).sIn := by
  rcases trimOf_narrows widened.listed with ⟨same, untrimmed⟩ | trimmed
  · rw [same]
    exact widened.filtered (narrowed.resolve_right (by simp [untrimmed]))
  · rcases widened.ids with traced | untouched
    · exact trimmed.again _ traced
    · exact untouched ▸ trimmed.first

theorem WidenedFrom.mem_ownIds_trimOf (widened : WidenedFrom raw selected adopted adoption.sIn) (tid : String) :
    tid ∈ (trimOf S B adoption).sIn.ownIds ↔
      ∃ nid ∈ (trimOf S B adoption).sIn.nodes, Names raw selected adopted nid tid := by
  have tracks : ∀ nid ∈ (trimOf S B adoption).sIn.nodes,
      (trimOf S B adoption).sIn.tracksOf nid = adoption.sIn.tracksOf nid := by
    rcases trimOf_narrows widened.listed with ⟨same, -⟩ | trimmed
    · rw [same]
      exact fun _ _ => rfl
    · exact trimmed.tracks
  rw [SolverInput.ownIds, List.mem_flatMap]
  exact exists_congr fun nid => and_congr_right fun final => by rw [tracks nid final, widened.tracks]

end

theorem storedEntry_sourceTrackIds (cfg : Config) (p : PublishInput) (s : Stores) :
    (storedEntry cfg p s).sourceTrackIds = p.trackIds.insertionSort (· ≤ ·) := by
  have taken := (forgetAll_spec cfg (begun cfg p s) (supersededBy cfg p s)).2.1
  have named : (begun cfg p s).result.sourceTrackIds = p.trackIds.insertionSort (· ≤ ·) := rfl
  have absorbed : (absorb cfg p (publishDecision cfg p s) s).result.sourceTrackIds =
      p.trackIds.insertionSort (· ≤ ·) := by
    rw [absorb_eq]
    cases retiredFor cfg p s with
    | none => exact (congrArg _ taken).trans named
    | some coast => exact (congrArg _ taken).trans named
  exact absorbed

section
variable (W : World γ)

/-- The nodes consensus narrowed the item's input to, if it did. -/
def selectedFor (item : Item) (st : SolverState) : Option (List String) :=
  consensusNodes W.settings (backend W st.stores) item.sIn (alignIfEnabled W.settings W.nodeCfgs item.sIn)

/-- A narrowed solve is keyed and remembered by the ids of the input as it was dequeued,
with its own nodes' tracks as its sources, just where these are the same ids. -/
theorem keyed_as_dequeued_iff (item : Item) (st : SolverState) (listed : item.sIn.Listed)
    (reached : solveStage W item st = .ok stage) :
    ∃ adoption adopted,
      solveAndAdopt W.settings (backend W st.stores) W.nodeCfgs item.sIn = some adoption ∧
      sortedSet (adopted.map (·.nodeId)) =
        (if adoption.outcome = some .widened then adoption.adoptedNodeIds else []) ∧
      (Narrowed (selectedFor W item st) (trimOf W.settings (backend W st.stores) adoption) →
        ∀ result lat lon s,
          KeyedAsDequeued item.sIn (Names item.sIn (selectedFor W item st) adopted) stage.sIn.nodes
            (publishInput W item stage result lat lon)
            (storedEntry W.publishing (publishInput W item stage result lat lon) s) ↔
          ∀ tid, tid ∈ item.sIn.trackIds ↔
            ∃ nid ∈ stage.sIn.nodes, Names item.sIn (selectedFor W item st) adopted nid tid) := by
  obtain ⟨ready, first, adopted, adoption, staged⟩ := solveStage_staged W item st reached
  have widened := staged.adopts.widenedFrom listed staged.same
  refine ⟨adoption, adopted, staged.widened, staged.adopts.named, fun narrowed result lat lon s => ?_⟩
  have own := widened.mem_ownIds_trimOf (S := W.settings) (B := backend W st.stores)
  have traced := widened.traced_trimOf narrowed
  rw [← staged.trimmed.1] at own traced
  have handed : (publishInput W item stage result lat lon).trackIds = stage.sIn.trackIds := rfl
  have stored (tid : String) : tid ∈ (storedEntry W.publishing (publishInput W item stage result lat lon) s).sourceTrackIds ↔
      tid ∈ stage.sIn.trackIds := by
    rw [storedEntry_sourceTrackIds, List.mem_insertionSort, handed]
  constructor
  · intro keyed tid
    have kept := (stored tid).trans (keyed.handed tid)
    exact kept.symm.trans (keyed.sources tid)
  · intro same
    have ids : ∀ tid, tid ∈ stage.sIn.trackIds ↔ tid ∈ item.sIn.trackIds := by
      rcases traced.ids with owned | both
      · exact fun tid => by rw [owned, own]; exact (same tid).symm
      · exact fun tid => by rw [both, own]; exact or_iff_left_of_imp (same tid).mpr
    exact ⟨ids, fun tid => (stored tid).trans ((ids tid).trans (same tid))⟩

end

theorem keyed_as_dequeued_iff_spoiled :
    ∃ stage, solveStage spoiledWorld spoiledFour emptyState = .ok stage ∧
      ∃ adoption adopted,
        solveAndAdopt {} (backend spoiledWorld emptyState.stores) spoiledWorld.nodeCfgs spoiledFour.sIn = some adoption ∧
        sortedSet (adopted.map (·.nodeId)) =
          (if adoption.outcome = some .widened then adoption.adoptedNodeIds else []) ∧
        (Narrowed (selectedFor spoiledWorld spoiledFour emptyState)
            (trimOf {} (backend spoiledWorld emptyState.stores) adoption) → ∀ result lat lon s,
          KeyedAsDequeued spoiledFour.sIn (Names spoiledFour.sIn (selectedFor spoiledWorld spoiledFour emptyState) adopted)
            stage.sIn.nodes (publishInput spoiledWorld spoiledFour stage result lat lon)
            (storedEntry spoiledWorld.publishing (publishInput spoiledWorld spoiledFour stage result lat lon) s) ↔
          ∀ tid, tid ∈ spoiledFour.sIn.trackIds ↔ ∃ nid ∈ stage.sIn.nodes,
            Names spoiledFour.sIn (selectedFor spoiledWorld spoiledFour emptyState) adopted nid tid) := by
  have solved : (solveStage spoiledWorld spoiledFour emptyState).isOk = true := by decide +kernel
  rcases reached : solveStage spoiledWorld spoiledFour emptyState with _ | stage
  · simp [reached, Except.isOk, Except.toBool] at solved
  · have listed : spoiledFour.sIn.Listed := by unfold SolverInput.Listed; decide
    exact ⟨stage, rfl, keyed_as_dequeued_iff spoiledWorld spoiledFour emptyState listed reached⟩

/-- The aircraft's own entry, which remembers the track of node `d`, and a nearer one that remembers none. -/
def neighbouring : SolverState :=
  { emptyState with stores := { Stores.boot with
      tracks := ⟨[("mn-dark-own", { still (some (1 + 3 / 111)) (some 0) 1000 with
          recentTrackIds := some ⟨[("d1", 1)], by decide⟩ }),
        ("mn-dark-stranger", still (some (1 + 2 / 111)) (some 0) 1000)], by decide⟩ } }

/-- Node `d` is trimmed. Its track is not among the ids of the decision, which
keys the solve to the stranger; with the ids as dequeued it would be the aircraft's own. -/
theorem trimmed_id_not_keyed_by :
    (processSolverItem spoiledWorld spoiledFour neighbouring).ending = .published ∧
    ∃ stage, solveStage spoiledWorld spoiledFour neighbouring = .ok stage ∧
      (∃ adoption, solveAndAdopt {} (backend spoiledWorld neighbouring.stores) spoiledWorld.nodeCfgs spoiledFour.sIn =
          some adoption ∧
        (trimOf {} (backend spoiledWorld neighbouring.stores) adoption).trimmedNodeIds = ["d"]) ∧
      (∀ names, ¬ KeyedAsDequeued spoiledFour.sIn names stage.sIn.nodes
        (publishInput spoiledWorld spoiledFour stage stage.result 1 0)
        (storedEntry spoiledWorld.publishing (publishInput spoiledWorld spoiledFour stage stage.result 1 0)
          neighbouring.stores)) ∧
      (publishDecision spoiledWorld.publishing (publishInput spoiledWorld spoiledFour stage stage.result 1 0)
        neighbouring.stores).key = "mn-dark-stranger" ∧
      (publishDecision spoiledWorld.publishing
        { publishInput spoiledWorld spoiledFour stage stage.result 1 0 with trackIds := spoiledFour.sIn.trackIds }
        neighbouring.stores).key = "mn-dark-own" := by
  have keyed : (solveStage spoiledWorld spoiledFour neighbouring).toOption.map (fun stage =>
      let p := publishInput spoiledWorld spoiledFour stage stage.result 1 0
      (stage.sIn.trackIds, (publishDecision spoiledWorld.publishing p neighbouring.stores).key,
        (publishDecision spoiledWorld.publishing { p with trackIds := spoiledFour.sIn.trackIds }
          neighbouring.stores).key)) =
      some (["a1", "b1", "c1"], "mn-dark-stranger", "mn-dark-own") := by decide +kernel
  have trimmed : (solveAndAdopt {} (backend spoiledWorld neighbouring.stores) spoiledWorld.nodeCfgs spoiledFour.sIn).map
      (fun adoption => (trimOf {} (backend spoiledWorld neighbouring.stores) adoption).trimmedNodeIds) =
      some ["d"] := by decide +kernel
  refine ⟨by decide +kernel, ?_⟩
  rcases reached : solveStage spoiledWorld spoiledFour neighbouring with _ | stage
  · simp [reached, Except.toOption] at keyed
  · rw [reached] at keyed
    obtain ⟨ids, stranger, own⟩ : _ ∧ _ ∧ _ := by simpa [Except.toOption] using keyed
    refine ⟨stage, rfl, Option.map_eq_some_iff.mp trimmed, fun names kept => ?_, stranger, own⟩
    have lost := (kept.handed "d1").mpr (by decide)
    have handed : "d1" ∈ stage.sIn.trackIds := lost
    rw [ids] at handed
    exact absurd handed (by decide)

end Retina.Solver
