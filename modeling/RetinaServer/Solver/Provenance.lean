import RetinaServer.Solver.TwoNodes

/-! What a solver input says of its own sources, and that consensus, widening
and trimming leave it true of the input that reaches the gates. The trim is
given here as the source returns it, with its record of the nodes dropped. -/
namespace Retina.Solver
open Selection Multinode

/-- The nodes an input measures. -/
def SolverInput.nodes (sIn : SolverInput) : List String := sIn.measurements.map Measurement.nodeId

/-- The tracks an input names for a node. -/
def SolverInput.tracksOf (sIn : SolverInput) (nid : String) : List String := (sIn.trackIdsByNode.get? nid).getD []

/-- An input accounts for itself: it names tracks of the nodes it measures
alone, counts those nodes, and its track ids are theirs. -/
structure Provenanced (sIn : SolverInput) : Prop where
  listed : ∀ nid ∈ sIn.trackIdsByNode.keys, nid ∈ sIn.nodes
  count : sIn.nNodes = nodeCount sIn.measurements
  union : sIn.trackIds = sortedSet (sIn.nodes.flatMap sIn.tracksOf)

/-! ### The trim with its record -/

structure TrimMeta where
  trimmedNodeIds : List String
  trimRounds : Nat
  preTrimRmsDelay : Option ℚ
  preTrimNNodes : Option Nat
deriving DecidableEq, Repr

/-- `handed` lists the inputs the re-solves were given; the source returns the
other fields. -/
structure Trim where
  result : SolveResult
  sIn : SolverInput
  trimMeta : Option TrimMeta
  handed : List SolverInput

def Trim.trimmedNodeIds (t : Trim) : List String := (t.trimMeta.map TrimMeta.trimmedNodeIds).getD []

section
variable (S : Settings) (B : Backend γ)

/-- What a round re-solves and the nodes it drops; `none` where the loop stops before that. -/
def trimRound (sIn : SolverInput) (result : SolveResult) : Option (SolverInput × List String) :=
  let rmsDelay := result.rmsDelay.getD 0
  if rmsDelay ≤ S.rmsDelayMaxUs ∨ result.nNodes.getD 0 ≤ trimMinNodes ∨ result.perNodeDelayResUs = [] then none
  else
    let survivors := trimSurvivors rmsDelay result.perNodeDelayResUs
    let candidates := (result.perNodeDelayResUs.map Prod.fst).filter fun nid => decide (nid ∉ survivors)
    if candidates = [] then none else some (filterSInToNodes sIn survivors, candidates)

/-- The rounds left, the number of those done, and what they dropped. -/
def trimLoop (before : SolveResult) : Nat → Nat → List String → Option TrimMeta → SolverInput → SolveResult → Trim
  | 0, _, _, trimMeta, sIn, result => ⟨result, sIn, trimMeta, []⟩
  | rounds + 1, roundIdx, trimmedIds, trimMeta, sIn, result =>
      match trimRound S sIn result with
      | none => ⟨result, sIn, trimMeta, []⟩
      | some (sNext, candidates) =>
        match solveBestAltitude S.altitude B.solveFn B.multistartFn sNext with
        | .ok (some next) =>
            if next.success then
              let trimmedIds := trimmedIds ++ sortedSet candidates
              let rest := trimLoop before rounds (roundIdx + 1) trimmedIds
                (some ⟨sortedSet trimmedIds, roundIdx + 1, before.rmsDelay, before.nNodes⟩) sNext next
              { rest with handed := sNext :: rest.handed }
            else ⟨result, sIn, trimMeta, [sNext]⟩
        | _ => ⟨result, sIn, trimMeta, [sNext]⟩

def trimAndResolveWithMeta (sIn : SolverInput) (result : SolveResult) : Trim :=
  trimLoop S B result trimMaxRounds 0 [] none sIn result

/-- The trim of what the widening left, where it is asked for. -/
def trimOf (adoption : Adoption) : Trim :=
  if adoption.sIn.initialGuess.isSome ∧ 4 ≤ adoption.result.nNodes.getD 0 ∧
      S.rmsDelayMaxUs < adoption.result.rmsDelay.getD 0 ∧ adoption.result.perNodeDelayResUs ≠ [] then
    trimAndResolveWithMeta S B adoption.sIn adoption.result
  else ⟨adoption.result, adoption.sIn, none, []⟩

/-- The nodes that consensus narrowed an item to, if it was acted on. -/
def consensusNodes (sIn aligned : SolverInput) : Option (List String) :=
  if consensusSelected S B sIn aligned then
    match B.selectFn aligned with
    | .ok selection => selection
    | .error _ => none
  else none

end

/-! ### Sets of names -/

theorem mem_sortedSet : nid ∈ sortedSet names ↔ nid ∈ names := by
  rw [sortedSet, List.mem_insertionSort, List.mem_dedup]

theorem sortedSet_congr (same : ∀ nid, nid ∈ names ↔ nid ∈ names') : sortedSet names = sortedSet names' := by
  have perm : names.dedup.Perm names'.dedup :=
    (List.perm_ext_iff_of_nodup names.nodup_dedup names'.nodup_dedup).mpr fun nid => by simp [same nid]
  exact ((List.perm_insertionSort _ _).trans (perm.trans (List.perm_insertionSort _ _).symm)).eq_of_pairwise'
    (List.pairwise_insertionSort _ _) (List.pairwise_insertionSort _ _)

theorem length_le_nodeCount {names : List String} {ms : List Measurement} (nodup : names.Nodup)
    (measured : ∀ nid ∈ names, nid ∈ ms.map Measurement.nodeId) : names.length ≤ nodeCount ms :=
  (nodup.subperm fun nid member => List.mem_dedup.mpr (measured nid member)).length_le

/-- The values of a dictionary are those of any list of keys that covers it. -/
theorem mem_values_flatten (d : Dict String (List String)) (nodes : List String)
    (listed : ∀ nid ∈ d.keys, nid ∈ nodes) (tid : String) :
    tid ∈ d.values.flatten ↔ tid ∈ nodes.flatMap fun nid => (d.get? nid).getD [] := by
  simp only [List.mem_flatten, Dict.values, List.mem_map, List.mem_flatMap]
  constructor
  · rintro ⟨_, ⟨⟨nid, ids⟩, member, rfl⟩, named⟩
    have found := (Dict.get?_eq_some_iff d nid ids).mpr member
    exact ⟨nid, listed nid (List.mem_map_of_mem member), by simpa [found] using named⟩
  · rintro ⟨nid, -, named⟩
    cases found : d.get? nid with
    | none => simp [found] at named
    | some ids =>
      exact ⟨ids, ⟨(nid, ids), (Dict.get?_eq_some_iff d nid ids).mp found, rfl⟩, by simpa [found] using named⟩

/-! ### Inputs with the same sources -/

/-- A measurement but for its delay, which is all that the alignment changes. -/
def undelayed (m : Measurement) : Measurement := { m with delayUs := 0 }

structure SameSources (sIn sIn' : SolverInput) : Prop where
  measurements : sIn'.measurements.map undelayed = sIn.measurements.map undelayed
  nNodes : sIn'.nNodes = sIn.nNodes
  trackIds : sIn'.trackIds = sIn.trackIds
  trackIdsByNode : sIn'.trackIdsByNode = sIn.trackIdsByNode

theorem nodes_of_undelayed {ms ms' : List Measurement} (same : ms'.map undelayed = ms.map undelayed) :
    ms'.map Measurement.nodeId = ms.map Measurement.nodeId := by
  have blind : Measurement.nodeId = Measurement.nodeId ∘ undelayed := rfl
  rw [blind, ← List.map_map, ← List.map_map, same]

theorem SameSources.nodes (same : SameSources sIn sIn') : sIn'.nodes = sIn.nodes := nodes_of_undelayed same.measurements

theorem SameSources.tracksOf (same : SameSources sIn sIn') : sIn'.tracksOf = sIn.tracksOf := by
  funext nid
  rw [SolverInput.tracksOf, SolverInput.tracksOf, same.trackIdsByNode]

theorem SameSources.trans (first : SameSources sIn sIn') (second : SameSources sIn' sIn'') : SameSources sIn sIn'' :=
  ⟨second.measurements.trans first.measurements, second.nNodes.trans first.nNodes,
    second.trackIds.trans first.trackIds, second.trackIdsByNode.trans first.trackIdsByNode⟩

theorem Provenanced.of_sameSources (accounted : Provenanced sIn) (same : SameSources sIn sIn') : Provenanced sIn' where
  listed := by rw [same.trackIdsByNode, same.nodes]; exact accounted.listed
  count := by
    have counted := accounted.count
    simp only [nodeCount] at counted ⊢
    rw [same.nNodes, counted, nodes_of_undelayed same.measurements]
  union := by rw [same.trackIds, same.nodes, same.tracksOf]; exact accounted.union

theorem sameSources_guess (sIn : SolverInput) (guess : Option InitialGuess) :
    SameSources sIn { sIn with initialGuess := guess } := ⟨rfl, rfl, rfl, rfl⟩

theorem undelayed_carriedTo (nodeCfgs : String → Option NodeConfig) (t0 : ℚ) (m : Measurement) :
    undelayed (carriedTo nodeCfgs t0 m) = undelayed m := by
  simp only [carriedTo]
  split <;> rfl

theorem sameSources_align (S : Settings) (nodeCfgs : String → Option NodeConfig) (sIn : SolverInput) :
    SameSources sIn (alignIfEnabled S nodeCfgs sIn) := by
  simp only [alignIfEnabled]
  split
  · refine ⟨?_, ?_, ?_, ?_⟩
    · rw [alignMeasurementEpochs_measurements]
      split
      · rw [List.map_map]
        exact List.map_congr_left fun m _ => undelayed_carriedTo nodeCfgs _ m
      · rfl
    all_goals
      simp only [alignMeasurementEpochs]
      repeat' split
      all_goals rfl
  · exact ⟨rfl, rfl, rfl, rfl⟩

/-! ### Narrowing -/

theorem measurements_filterSInToNodes (sIn : SolverInput) (survivors : List String) :
    (filterSInToNodes sIn survivors).measurements =
      sIn.measurements.filter fun m => decide (m.nodeId ∈ survivors) := by
  simp only [filterSInToNodes]
  split <;> rfl

theorem mem_nodes_filterSInToNodes (sIn : SolverInput) (survivors : List String) (nid : String) :
    nid ∈ (filterSInToNodes sIn survivors).nodes ↔ nid ∈ sIn.nodes ∧ nid ∈ survivors := by
  simp only [SolverInput.nodes, measurements_filterSInToNodes, List.mem_map, List.mem_filter, decide_eq_true_eq]
  constructor
  · rintro ⟨m, ⟨member, survives⟩, rfl⟩
    exact ⟨⟨m, member, rfl⟩, survives⟩
  · rintro ⟨⟨m, member, rfl⟩, survives⟩
    exact ⟨m, ⟨member, survives⟩, rfl⟩

/-- Without a record no node has tracks. -/
theorem tracksOf_unrecorded {sIn : SolverInput} (empty : sIn.trackIdsByNode.items = []) (nid : String) :
    sIn.tracksOf nid = [] := by
  have absent : sIn.trackIdsByNode.get? nid = none := by
    rw [Dict.get?_eq_none_iff, Dict.keys, empty]
    exact List.not_mem_nil
  simp [SolverInput.tracksOf, absent]

theorem tracksOf_filterSInToNodes (sIn : SolverInput) (survivors : List String) (nid : String) :
    (filterSInToNodes sIn survivors).tracksOf nid = if nid ∈ survivors then sIn.tracksOf nid else [] := by
  by_cases empty : sIn.trackIdsByNode.items = []
  · have unrecorded : (filterSInToNodes sIn survivors).trackIdsByNode.items = [] := by
      simpa only [filterSInToNodes, if_pos empty] using empty
    rw [tracksOf_unrecorded unrecorded, tracksOf_unrecorded empty, ite_self]
  · simp only [SolverInput.tracksOf, filterSInToNodes, if_neg empty]
    rw [Dict.get?_filter]
    split
    · rename_i survives
      cases sIn.trackIdsByNode.get? nid <;> simp [survives, Option.filter]
    · rename_i dropped
      cases sIn.trackIdsByNode.get? nid <;> simp [dropped, Option.filter]

/-- The tracks of an input's nodes. -/
def SolverInput.ownIds (sIn : SolverInput) : List String := sIn.nodes.flatMap sIn.tracksOf

/-- The record of an input lists nodes that it measures. -/
def SolverInput.Listed (sIn : SolverInput) : Prop := ∀ nid ∈ sIn.trackIdsByNode.keys, nid ∈ sIn.nodes

theorem SolverInput.Listed.narrow (listed : sIn.Listed) (survivors : List String) :
    (filterSInToNodes sIn survivors).Listed := by
  intro nid member
  rw [mem_nodes_filterSInToNodes]
  simp only [filterSInToNodes] at member
  split at member
  · rename_i empty
    rw [Dict.keys, empty] at member
    cases member
  · refine ⟨listed nid (Dict.keys_filter_subset _ _ member), ?_⟩
    obtain ⟨⟨_, ids⟩, kept, rfl⟩ := List.mem_map.mp member
    exact of_decide_eq_true (List.mem_filter.mp kept).2

/-- Narrowing leaves the tracks of the nodes kept, and passes the ids on where
there is no record. -/
theorem trackIds_filterSInToNodes (listed : sIn.Listed) (survivors : List String) :
    let narrowed := filterSInToNodes sIn survivors
    narrowed.trackIds = sortedSet narrowed.ownIds ∨
    sIn.trackIdsByNode.items = [] ∧ narrowed.trackIds = sIn.trackIds ∧ narrowed.trackIdsByNode.items = [] := by
  by_cases empty : sIn.trackIdsByNode.items = []
  · refine .inr ⟨empty, ?_, ?_⟩
    · simp only [filterSInToNodes, if_pos empty]
    · simpa only [filterSInToNodes, if_pos empty] using empty
  · have named : (filterSInToNodes sIn survivors).trackIds =
        sortedSet (filterSInToNodes sIn survivors).trackIdsByNode.values.flatten := by
      simp only [filterSInToNodes, if_neg empty]
    exact .inl (named.trans (sortedSet_congr (mem_values_flatten _ _ (listed.narrow survivors))))

theorem Provenanced.narrow (accounted : Provenanced sIn) (survivors : List String) :
    Provenanced (filterSInToNodes sIn survivors) := by
  have listed : sIn.Listed := accounted.listed
  refine ⟨listed.narrow survivors, ?_, ?_⟩
  · simp only [filterSInToNodes]
    split <;> rfl
  · rcases trackIds_filterSInToNodes listed survivors with owned | ⟨empty, passed, unrecorded⟩
    · exact owned
    · rw [passed, accounted.union]
      exact sortedSet_congr fun tid => by simp [tracksOf_unrecorded empty, tracksOf_unrecorded unrecorded]

theorem SameSources.narrow (same : SameSources sIn sIn') (survivors : List String) :
    SameSources (filterSInToNodes sIn survivors) (filterSInToNodes sIn' survivors) := by
  have measured : (filterSInToNodes sIn' survivors).measurements.map undelayed =
      (filterSInToNodes sIn survivors).measurements.map undelayed := by
    have blind : (fun m : Measurement => decide (m.nodeId ∈ survivors)) =
        (fun m => decide (m.nodeId ∈ survivors)) ∘ undelayed := rfl
    rw [measurements_filterSInToNodes, measurements_filterSInToNodes, blind, ← List.filter_map, ← List.filter_map,
      same.measurements]
  have counted := congrArg (fun names => (List.dedup names).length) (nodes_of_undelayed measured)
  simp only [measurements_filterSInToNodes] at counted
  refine ⟨measured, ?_, ?_, ?_⟩
  all_goals simp only [filterSInToNodes, nodeCount, same.trackIdsByNode, same.trackIds]
  · split <;> exact counted
  · split <;> rfl
  · split <;> rfl

theorem SameSources.keptInput (same : SameSources sIn sIn') (selected : Option (List String)) :
    SameSources (keptInput selected sIn) (Solver.keptInput selected sIn') := by
  cases selected with
  | none => exact same
  | some nodeIds => exact same.narrow nodeIds

theorem Provenanced.keptInput (accounted : Provenanced sIn) (selected : Option (List String)) :
    Provenanced (keptInput selected sIn) := by
  cases selected with
  | none => exact accounted
  | some nodeIds => exact accounted.narrow nodeIds

/-! ### Widening -/

/-- The track a candidate brings along. -/
def Candidate.brings (c : Candidate) (nid tid : String) : Prop := c.nodeId = nid ∧ c.trackId = some tid ∧ tid ≠ ""

theorem mem_tracks_addTrack (byNode : Dict String (List String)) (c : Candidate) (nid tid : String) :
    tid ∈ ((addTrack byNode c).get? nid).getD [] ↔ tid ∈ (byNode.get? nid).getD [] ∨ c.brings nid tid := by
  simp only [addTrack, Candidate.brings]
  split
  · rename_i unnamed
    simp [unnamed]
  · rename_i track named
    split
    · rename_i blank
      subst blank
      simp only [named, Option.some.injEq]
      refine ⟨.inl, fun either => either.elim id ?_⟩
      rintro ⟨-, rfl, present⟩
      exact absurd rfl present
    · rename_i present
      rw [Dict.get?_insert]
      split
      · rename_i here
        subst here
        simp only [named, Option.some.injEq, true_and, Option.getD_some]
        split
        · rename_i already
          refine ⟨.inl, fun either => either.elim id ?_⟩
          rintro ⟨rfl, -⟩
          exact already
        · rw [List.mem_append, List.mem_singleton]
          refine or_congr_right ⟨?_, fun both => both.1.symm⟩
          rintro rfl
          exact ⟨rfl, present⟩
      · rename_i elsewhere
        simp [elsewhere]

theorem mem_keys_addTrack {byNode : Dict String (List String)} {c : Candidate}
    (listed : nid ∈ (addTrack byNode c).keys) : nid ∈ byNode.keys ∨ nid = c.nodeId := by
  simp only [addTrack] at listed
  split at listed
  · exact .inl listed
  · split at listed
    · exact .inl listed
    · exact ((Dict.mem_keys_insert _ _).mp listed).symm

theorem mem_tracks_foldl (adopted : List Candidate) (byNode : Dict String (List String)) (nid tid : String) :
    tid ∈ ((adopted.foldl addTrack byNode).get? nid).getD [] ↔
      tid ∈ (byNode.get? nid).getD [] ∨ ∃ c ∈ adopted, c.brings nid tid := by
  induction adopted generalizing byNode with
  | nil => simp
  | cons c rest ih => rw [List.foldl_cons, ih, mem_tracks_addTrack, or_assoc, List.exists_mem_cons_iff]

theorem mem_keys_foldl {adopted : List Candidate} {byNode : Dict String (List String)}
    (listed : nid ∈ (adopted.foldl addTrack byNode).keys) : nid ∈ byNode.keys ∨ nid ∈ adopted.map (·.nodeId) := by
  induction adopted generalizing byNode with
  | nil => exact .inl listed
  | cons c rest ih =>
    rcases ih listed with earlier | later
    · rcases mem_keys_addTrack earlier with before | rfl
      · exact .inl before
      · exact .inr (List.mem_cons_self ..)
    · exact .inr (List.mem_cons_of_mem _ later)

theorem mem_tracksOf_sInWithAdopted (sIn : SolverInput) (adopted : List Candidate) (first : SolveResult)
    (nid tid : String) : tid ∈ (sInWithAdopted sIn adopted first).tracksOf nid ↔
      tid ∈ sIn.tracksOf nid ∨ ∃ c ∈ adopted, c.brings nid tid := by
  rw [SolverInput.tracksOf, SolverInput.tracksOf, ← mem_tracks_foldl]
  simp only [sInWithAdopted, Dict.get?_mapValues]
  cases (adopted.foldl addTrack sIn.trackIdsByNode).get? nid <;> simp

theorem nodes_sInWithAdopted (sIn : SolverInput) (adopted : List Candidate) (first : SolveResult) :
    (sInWithAdopted sIn adopted first).nodes = sIn.nodes ++ adopted.map (·.nodeId) := by
  simp [SolverInput.nodes, sInWithAdopted]

theorem mem_keys_widened (listed : sIn.Listed) (adopted : List Candidate) (first : SolveResult) :
    ∀ nid ∈ (adopted.foldl addTrack sIn.trackIdsByNode).keys, nid ∈ (sInWithAdopted sIn adopted first).nodes := by
  intro nid member
  rw [nodes_sInWithAdopted, List.mem_append]
  exact (mem_keys_foldl member).imp_left (listed nid)

theorem SolverInput.Listed.widen (listed : sIn.Listed) (adopted : List Candidate) (first : SolveResult) :
    (sInWithAdopted sIn adopted first).Listed := by
  intro nid member
  apply mem_keys_widened listed adopted first
  simpa [sInWithAdopted, Dict.keys, Dict.mapValues, Function.comp_def] using member

/-- Widening adds the tracks of the widened input's nodes to the ids. -/
theorem trackIds_sInWithAdopted (listed : sIn.Listed) (adopted : List Candidate) (first : SolveResult) :
    let widened := sInWithAdopted sIn adopted first
    widened.trackIds = sortedSet (sIn.trackIds ++ widened.ownIds) := by
  apply sortedSet_congr
  intro tid
  rw [List.mem_append, List.mem_append, mem_values_flatten _ _ (mem_keys_widened listed adopted first)]
  simp only [SolverInput.ownIds, List.mem_flatMap, mem_tracksOf_sInWithAdopted, mem_tracks_foldl]
  rfl

theorem ownIds_sInWithAdopted (sIn : SolverInput) (adopted : List Candidate) (first : SolveResult) :
    sIn.ownIds ⊆ (sInWithAdopted sIn adopted first).ownIds := by
  intro tid own
  obtain ⟨nid, measured, named⟩ := List.mem_flatMap.mp own
  refine List.mem_flatMap.mpr ⟨nid, ?_, (mem_tracksOf_sInWithAdopted sIn adopted first nid tid).mpr (.inl named)⟩
  rw [nodes_sInWithAdopted]
  exact List.mem_append_left _ measured

theorem Provenanced.widen (accounted : Provenanced sIn) (adopted : List Candidate) (first : SolveResult) :
    Provenanced (sInWithAdopted sIn adopted first) := by
  have listed : sIn.Listed := accounted.listed
  refine ⟨listed.widen adopted first, rfl, ?_⟩
  rw [trackIds_sInWithAdopted listed adopted first]
  apply sortedSet_congr
  intro tid
  rw [List.mem_append, accounted.union, mem_sortedSet]
  exact or_iff_right_of_imp (@ownIds_sInWithAdopted sIn adopted first tid)

/-! ### Solving -/

/-- A result's residuals, where it has any, are one for each node its input measures. -/
def PerNode (sIn : SolverInput) (result : SolveResult) : Prop :=
  result.perNodeDelayResUs ≠ [] → (result.perNodeDelayResUs.map Prod.fst).Nodup ∧
    ∀ nid, nid ∈ result.perNodeDelayResUs.map Prod.fst ↔ nid ∈ sIn.nodes

/-- The solver pool's residuals are keyed by the measured nodes. -/
structure ResidualsPerNode (solveFn : SolveFn)
    (multistartFn : SolverInput → List ℚ → Except String (Option SolveResult)) : Prop where
  single : ∀ sIn result, solveFn sIn = .ok (some result) → PerNode sIn result
  multistart : ∀ sIn starts result, multistartFn sIn starts = .ok (some result) → PerNode sIn result

theorem foldl_sweepStep_solved {solveFn : SolveFn} (layersKm : List ℚ) (sweep : Sweep)
    (before : ∀ best ∈ sweep.best, ∃ guess, solveFn { sIn with initialGuess := guess } = .ok (some best.1)) :
    ∀ best ∈ (layersKm.foldl (sweepStep sIn solveFn) sweep).best,
      ∃ guess, solveFn { sIn with initialGuess := guess } = .ok (some best.1) := by
  induction layersKm generalizing sweep with
  | nil => exact before
  | cons altKm rest ih =>
    refine ih (sweepStep sIn solveFn sweep altKm) ?_
    unfold sweepStep
    split
    · exact before
    · exact before
    · rename_i found solved
      split
      · split
        · intro best same
          obtain rfl := Option.some.inj same
          exact ⟨_, solved⟩
        · exact before
      · exact before

theorem sweepAltitudes_solved {solveFn : SolveFn} {layersKm : List ℚ}
    (swept : sweepAltitudes sIn solveFn layersKm = .ok (some result)) :
    ∃ guess, solveFn { sIn with initialGuess := guess } = .ok (some result) := by
  simp only [sweepAltitudes] at swept
  split at swept
  · rename_i best rms found
    obtain rfl := Option.some.inj (Except.ok.inj swept)
    exact foldl_sweepStep_solved layersKm ⟨none, none⟩ (by simp) _ found
  · cases swept
  · cases swept

section
variable (S : Settings) (B : Backend γ)

/-- The result is what the solver made of this very input. -/
def Solved (sIn : SolverInput) (result : SolveResult) : Prop :=
  B.solveFn sIn = .ok (some result) ∨
    solveBestAltitude S.altitude B.solveFn B.multistartFn sIn = .ok (some result)

variable {S B}

theorem Solved.perNode (residuals : ResidualsPerNode B.solveFn B.multistartFn) (solved : Solved S B sIn result) :
    PerNode sIn result := by
  rcases solved with direct | best
  · exact residuals.single _ _ direct
  · simp only [solveBestAltitude] at best
    split at best
    · exact residuals.multistart _ _ _ best
    · obtain ⟨guess, solved⟩ := sweepAltitudes_solved best
      have measured : PerNode { sIn with initialGuess := guess } result := residuals.single _ _ solved
      exact measured

/-! ### Trimming -/

theorem trimSurvivors_cases (rmsDelay : ℚ) (residuals : List (String × ℚ)) :
    trimSurvivors rmsDelay residuals =
        ((residuals.insertionSort fun a b => a.2 ≤ b.2).take trimMinNodes).map Prod.fst ∨
      (trimSurvivors rmsDelay residuals).Sublist (residuals.map Prod.fst) ∧
        trimMinNodes ≤ (trimSurvivors rmsDelay residuals).length := by
  have either (unwanted lowest : List String) :
      let survivors := (residuals.filter fun r => decide (r.1 ∉ unwanted)).map Prod.fst
      let chosen := if survivors.length < trimMinNodes then lowest else survivors
      chosen = lowest ∨ chosen.Sublist (residuals.map Prod.fst) ∧ trimMinNodes ≤ chosen.length := by
    dsimp only
    split
    · exact .inl rfl
    · rename_i enough
      exact .inr ⟨List.filter_sublist.map _, not_lt.mp enough⟩
  exact either _ _

/-- A round that goes ahead keeps at least the floor of the nodes with a residual. -/
theorem trimSurvivors_spec {residuals : List (String × ℚ)} (nodup : (residuals.map Prod.fst).Nodup)
    (goes : ∃ nid ∈ residuals.map Prod.fst, nid ∉ trimSurvivors rmsDelay residuals) :
    (trimSurvivors rmsDelay residuals).Nodup ∧ (∀ nid ∈ trimSurvivors rmsDelay residuals, nid ∈ residuals.map Prod.fst) ∧
      trimMinNodes ≤ (trimSurvivors rmsDelay residuals).length := by
  rcases trimSurvivors_cases rmsDelay residuals with lowest | ⟨sub, enough⟩
  · rw [lowest] at goes ⊢
    have sorted := (List.perm_insertionSort (fun a b : String × ℚ => a.2 ≤ b.2) residuals).map Prod.fst
    have sub := (List.take_sublist trimMinNodes (residuals.insertionSort fun a b => a.2 ≤ b.2)).map Prod.fst
    refine ⟨(sorted.nodup_iff.mpr nodup).sublist sub, fun nid member => sorted.subset (sub.subset member), ?_⟩
    -- With fewer residuals than the floor every node survives, and no round goes ahead.
    by_contra below
    obtain ⟨nid, member, dropped⟩ := goes
    rw [List.take_of_length_le] at dropped
    · exact dropped (sorted.mem_iff.mpr member)
    · simp only [List.length_map, List.length_take] at below
      omega
  · exact ⟨nodup.sublist sub, fun nid member => sub.subset member, enough⟩

/-- A round drops exactly the nodes that its input has and the next one lacks. -/
theorem trimRound_spec {drops : List String} (round : trimRound S sIn result = some (sNext, drops))
    (measured : PerNode sIn result) :
    ∃ survivors, sNext = filterSInToNodes sIn survivors ∧
      (∀ nid, nid ∈ drops ↔ nid ∈ sIn.nodes ∧ nid ∉ sNext.nodes) ∧
      trimMinNodes ≤ nodeCount sNext.measurements := by
  simp only [trimRound] at round
  split at round
  · cases round
  · rename_i asked
    split at round
    · cases round
    · rename_i goes
      obtain ⟨rfl, rfl⟩ := Prod.mk.inj (Option.some.inj round)
      obtain ⟨nodup, keyed⟩ := measured fun none => asked (.inr (.inr none))
      obtain ⟨gone, listed⟩ := List.exists_mem_of_ne_nil _ goes
      obtain ⟨member, unsaved⟩ := List.mem_filter.mp listed
      obtain ⟨distinct, within, floor⟩ := trimSurvivors_spec nodup ⟨gone, member, of_decide_eq_true unsaved⟩
      refine ⟨_, rfl, ?_, ?_⟩
      · intro nid
        rw [mem_nodes_filterSInToNodes, List.mem_filter, keyed, decide_eq_true_eq]
        exact ⟨fun both => ⟨both.1, fun next => both.2 next.2⟩, fun both => ⟨both.1, fun kept => both.2 ⟨both.1, kept⟩⟩⟩
      · refine floor.trans (length_le_nodeCount distinct fun nid survives => ?_)
        exact (mem_nodes_filterSInToNodes sIn _ nid).mpr ⟨(keyed nid).mp (within nid survives), survives⟩

/-- What the trim leaves of an input it started from; `earlier` are the nodes
that were dropped before. -/
structure Trimmed (S : Settings) (B : Backend γ) (sIn : SolverInput) (earlier : List String) (t : Trim) : Prop where
  solved : Solved S B t.sIn t.result
  accounted : Provenanced t.sIn
  kept : t.sIn.measurements = sIn.measurements.filter fun m => decide (m.nodeId ∈ t.sIn.nodes)
  tracks : ∀ nid ∈ t.sIn.nodes, t.sIn.tracksOf nid = sIn.tracksOf nid
  floor : ∀ handed ∈ t.handed, trimMinNodes ≤ nodeCount handed.measurements
  last : t.sIn = sIn ∨ t.sIn ∈ t.handed
  dropped : ∀ nid, nid ∈ t.trimmedNodeIds ↔ nid ∈ earlier ∨ nid ∈ sIn.nodes ∧ nid ∉ t.sIn.nodes

theorem filter_mem_nodes (sIn : SolverInput) :
    sIn.measurements = sIn.measurements.filter fun m => decide (m.nodeId ∈ sIn.nodes) := by
  refine (List.filter_eq_self.mpr fun m member => ?_).symm
  exact decide_eq_true (List.mem_map_of_mem member)

/-- The loop stops with what it was given. -/
theorem Trimmed.stop (accounted : Provenanced sIn) (solved : Solved S B sIn result)
    (recorded : ∀ nid, nid ∈ (trimMeta.map TrimMeta.trimmedNodeIds).getD [] ↔ nid ∈ earlier)
    (floor : ∀ s ∈ handed, trimMinNodes ≤ nodeCount s.measurements) :
    Trimmed S B sIn earlier ⟨result, sIn, trimMeta, handed⟩ where
  solved := solved
  accounted := accounted
  kept := filter_mem_nodes sIn
  tracks := fun _ _ => rfl
  floor := floor
  last := .inl rfl
  dropped := fun nid => by
    refine (recorded nid).trans ⟨.inl, fun either => either.elim id ?_⟩
    exact fun both => absurd both.1 both.2

/-- A round whose re-solve is kept passes on what the rounds after it leave. -/
theorem Trimmed.next {drops : List String} {t : Trim}
    (rest : Trimmed S B (filterSInToNodes sIn survivors) (earlier ++ sortedSet drops) t)
    (dropped : ∀ nid, nid ∈ drops ↔ nid ∈ sIn.nodes ∧ nid ∉ (filterSInToNodes sIn survivors).nodes)
    (floor : trimMinNodes ≤ nodeCount (filterSInToNodes sIn survivors).measurements) :
    Trimmed S B sIn earlier { t with handed := filterSInToNodes sIn survivors :: t.handed } := by
  have within : ∀ nid ∈ t.sIn.nodes, nid ∈ (filterSInToNodes sIn survivors).nodes := by
    intro nid member
    rw [SolverInput.nodes, rest.kept] at member
    obtain ⟨m, kept, rfl⟩ := List.mem_map.mp member
    exact List.mem_map_of_mem (List.mem_filter.mp kept).1
  have surviving : ∀ nid ∈ t.sIn.nodes, nid ∈ survivors := fun nid final =>
    ((mem_nodes_filterSInToNodes sIn survivors nid).mp (within nid final)).2
  refine ⟨rest.solved, rest.accounted, ?_, ?_, ?_, ?_, ?_⟩
  · refine rest.kept.trans ?_
    rw [measurements_filterSInToNodes, List.filter_filter]
    refine List.filter_congr fun m _ => ?_
    by_cases final : m.nodeId ∈ t.sIn.nodes
    · simp [final, surviving m.nodeId final]
    · simp [final]
  · intro nid final
    rw [rest.tracks nid final, tracksOf_filterSInToNodes, if_pos (surviving nid final)]
  · intro s member
    rcases List.mem_cons.mp member with rfl | later
    · exact floor
    · exact rest.floor s later
  · rcases rest.last with same | later
    · exact .inr (List.mem_cons.mpr (.inl same))
    · exact .inr (List.mem_cons_of_mem _ later)
  · intro nid
    refine (rest.dropped nid).trans ?_
    rw [List.mem_append, mem_sortedSet, dropped, or_assoc]
    refine or_congr_right ⟨?_, ?_⟩
    · rintro (here | later)
      · exact ⟨here.1, fun final => here.2 (within nid final)⟩
      · exact ⟨((mem_nodes_filterSInToNodes sIn survivors nid).mp later.1).1, later.2⟩
    · rintro ⟨measured, gone⟩
      by_cases next : nid ∈ (filterSInToNodes sIn survivors).nodes
      · exact .inr ⟨next, gone⟩
      · exact .inl ⟨measured, next⟩

theorem trimLoop_trimmed (residuals : ResidualsPerNode B.solveFn B.multistartFn) (before : SolveResult)
    (rounds roundIdx : Nat) (trimmedIds : List String) (trimMeta : Option TrimMeta)
    (recorded : ∀ nid, nid ∈ (trimMeta.map TrimMeta.trimmedNodeIds).getD [] ↔ nid ∈ trimmedIds)
    (accounted : Provenanced sIn) (solved : Solved S B sIn result) :
    Trimmed S B sIn trimmedIds (trimLoop S B before rounds roundIdx trimmedIds trimMeta sIn result) := by
  induction rounds generalizing roundIdx trimmedIds trimMeta sIn result with
  | zero => exact .stop accounted solved recorded (by simp)
  | succ rounds ih =>
    simp only [trimLoop]
    split
    · exact .stop accounted solved recorded (by simp)
    · rename_i sNext drops round
      obtain ⟨survivors, rfl, dropped, floor⟩ := trimRound_spec round (solved.perNode residuals)
      -- A round abandoned at its re-solve leaves the pair of the round before.
      have abandoned : Trimmed S B sIn trimmedIds ⟨result, sIn, trimMeta, [filterSInToNodes sIn survivors]⟩ :=
        .stop accounted solved recorded (by simpa using floor)
      split
      · rename_i next resolved
        split
        · exact .next (ih _ _ _ (fun _ => mem_sortedSet) (accounted.narrow survivors) (.inr resolved)) dropped floor
        · exact abandoned
      · exact abandoned

/-- The record aside, the trim is the one the gates' model runs. -/
theorem trimLoop_eq (before : SolveResult) (rounds roundIdx : Nat) (trimmedIds : List String)
    (trimMeta : Option TrimMeta) (sIn : SolverInput) (result : SolveResult) :
    ((trimLoop S B before rounds roundIdx trimmedIds trimMeta sIn result).sIn,
      (trimLoop S B before rounds roundIdx trimmedIds trimMeta sIn result).result) =
      trimAndResolve S B rounds sIn result := by
  induction rounds generalizing roundIdx trimmedIds trimMeta sIn result with
  | zero => rfl
  | succ rounds ih =>
    simp only [trimLoop, trimAndResolve, trimRound]
    by_cases stops : result.rmsDelay.getD 0 ≤ S.rmsDelayMaxUs ∨ result.nNodes.getD 0 ≤ trimMinNodes ∨
        result.perNodeDelayResUs = []
    · simp only [stops, if_true]
    · have spared : (result.perNodeDelayResUs.all fun r =>
          decide (r.1 ∈ trimSurvivors (result.rmsDelay.getD 0) result.perNodeDelayResUs)) = true ↔
          (result.perNodeDelayResUs.map Prod.fst).filter (fun nid =>
            decide (nid ∉ trimSurvivors (result.rmsDelay.getD 0) result.perNodeDelayResUs)) = [] := by
        simp
      simp only [stops, if_false]
      by_cases none_dropped : (result.perNodeDelayResUs.all fun r =>
          decide (r.1 ∈ trimSurvivors (result.rmsDelay.getD 0) result.perNodeDelayResUs)) = true
      · rw [if_pos none_dropped, if_pos (spared.mp none_dropped)]
      · rw [if_neg none_dropped, if_neg (fun nil => none_dropped (spared.mpr nil))]
        dsimp only
        rcases solveBestAltitude S.altitude B.solveFn B.multistartFn
          (filterSInToNodes sIn (trimSurvivors (result.rmsDelay.getD 0) result.perNodeDelayResUs)) with _ | _ | next
        · rfl
        · rfl
        · cases converged : next.success
          · simp [converged]
          · simpa [converged] using ih _ _ _ _ _

/-! ### Adoption and consensus -/

/-- What the widening leaves: the input and the result it was given, or the
input widened by the candidates it adopted, with the re-solve of that one. -/
inductive Adopts (S : Settings) (B : Backend γ) (nodeCfgs : String → Option NodeConfig) (sIn : SolverInput)
    (first : SolveResult) : List Candidate → Adoption → Prop where
  | keeps : a.outcome ≠ some .widened → a.result = first → a.sIn = sIn → Adopts S B nodeCfgs sIn first [] a
  | widens : a.outcome = some .widened → a.sIn = widenedInput S nodeCfgs sIn adopted first →
      Solved S B a.sIn a.result → a.adoptedNodeIds = sortedSet (adopted.map (·.nodeId)) →
      Adopts S B nodeCfgs sIn first adopted a

theorem attemptWidening_adopts (nodeCfgs : String → Option NodeConfig) (sIn : SolverInput) (first : SolveResult)
    (lat lon : ℚ) (predResid : List (String × ℚ)) (retries : Nat) (tried : List Candidate) :
    ∃ adopted, Adopts S B nodeCfgs sIn first adopted
      (attemptWidening S B nodeCfgs sIn first lat lon predResid retries tried) := by
  induction retries generalizing tried with
  | zero =>
    unfold attemptWidening
    dsimp only
    repeat' split
    all_goals first
      | exact ⟨[], .keeps (by simp) rfl rfl⟩
      | exact ⟨tried, .widens rfl rfl (.inr (by assumption)) rfl⟩
  | succ again ih =>
    unfold attemptWidening
    dsimp only
    repeat' split
    all_goals first
      | exact ⟨[], .keeps (by simp) rfl rfl⟩
      | exact ⟨tried, .widens rfl rfl (.inr (by assumption)) rfl⟩
      | skip
    -- The one retry, without the worst of the adopted nodes.
    rename_i worst _
    obtain ⟨adopted, second⟩ := ih (tried.filter fun c => decide (c.nodeId ≠ worst.nodeId))
    refine ⟨adopted, ?_⟩
    cases second with
    | keeps failed result sIn => exact .keeps failed result sIn
    | widens widened sIn solved named => exact .widens widened sIn solved named

theorem adoptPoolNodes_adopts (nodeCfgs : String → Option NodeConfig) (sIn : SolverInput) (first : SolveResult) :
    ∃ adopted, Adopts S B nodeCfgs sIn first adopted (adoptPoolNodes S B nodeCfgs sIn first) := by
  unfold adoptPoolNodes
  dsimp only
  repeat' split
  all_goals first
    | exact ⟨[], .keeps (by simp) rfl rfl⟩
    | exact attemptWidening_adopts nodeCfgs sIn first _ _ _ _ _

theorem consensusSelect_eq (several : 3 ≤ sIn.nNodes) (guessed : aligned.initialGuess = some guess) :
    (if S.consensusMode = .off then aligned else consensusSelect S B aligned) =
      keptInput (consensusNodes S B sIn aligned) aligned := by
  simp only [consensusNodes, consensusSelected, guessed, several, Option.isSome_some, decide_true, Bool.true_and]
  cases mode : S.consensusMode with
  | off => simp [keptInput]
  | shadow =>
    simp only [consensusSelect, mode]
    rcases B.selectFn aligned with _ | _ | nodeIds <;> simp [keptInput]
  | active =>
    simp only [consensusSelect, mode]
    rcases B.selectFn aligned with _ | _ | nodeIds
    · simp [keptInput]
    · simp [keptInput]
    · by_cases few : nodeIds.length < S.consensusMinNodes
      · simp [few, keptInput, not_le.mpr few]
      · simp [few, keptInput, not_lt.mp few]

/-- The first solve is of the aligned input, narrowed to what consensus kept,
with perhaps another starting altitude. -/
theorem firstSolve_spec (nodeCfgs : String → Option NodeConfig) (sIn : SolverInput)
    (solved : firstSolve S B nodeCfgs sIn = (ready, .ok (some result))) :
    Solved S B ready result ∧ ∃ guess, ready = { keptInput (consensusNodes S B sIn (alignIfEnabled S nodeCfgs sIn))
      (alignIfEnabled S nodeCfgs sIn) with initialGuess := guess } := by
  generalize readied : alignIfEnabled S nodeCfgs sIn = aligned at solved ⊢
  simp only [firstSolve, readied] at solved
  cases guessed : aligned.initialGuess with
  | none =>
    simp only [guessed] at solved
    obtain ⟨rfl, found⟩ := Prod.mk.inj solved
    have unasked : consensusNodes S B sIn aligned = none := by simp [consensusNodes, consensusSelected, guessed]
    refine ⟨.inl found, aligned.initialGuess, ?_⟩
    rw [unasked]
    rfl
  | some guess =>
    simp only [guessed] at solved
    by_cases several : 3 ≤ sIn.nNodes
    · rw [if_pos several] at solved
      obtain ⟨rfl, found⟩ := Prod.mk.inj solved
      rw [consensusSelect_eq several guessed] at found ⊢
      exact ⟨.inr found, (keptInput (consensusNodes S B sIn aligned) aligned).initialGuess, rfl⟩
    · rw [if_neg several] at solved
      obtain ⟨rfl, found⟩ := Prod.mk.inj solved
      have unasked : consensusNodes S B sIn aligned = none := by simp [consensusNodes, consensusSelected, several]
      refine ⟨.inl found, ?_⟩
      rw [unasked]
      cases inherited : B.inheritedAltKm aligned with
      | none => exact ⟨aligned.initialGuess, rfl⟩
      | some altKm => exact ⟨_, rfl⟩

/-! ### The pair at the gates -/

/-- The pair of a result and an input, as the consensus selection `selected`, the
adoption of `adopted` and the trim leave it of an item's input `raw`. -/
structure PairCorresponds (S : Settings) (B : Backend γ) (raw : SolverInput) (selected : Option (List String))
    (adopted : List Candidate) (trim : Trim) (sIn : SolverInput) (result : SolveResult) : Prop where
  pair : sIn = trim.sIn ∧ result = trim.result
  solved : Solved S B sIn result
  accounted : Provenanced sIn
  surviving : ∀ nid, nid ∈ sIn.nodes ↔
    (nid ∈ (keptInput selected raw).nodes ∨ nid ∈ adopted.map (·.nodeId)) ∧ nid ∉ trim.trimmedNodeIds
  measurements : sIn.measurements.map undelayed =
    ((rawWidened raw selected adopted).filter fun m => decide (m.nodeId ∈ sIn.nodes)).map undelayed
  tracks : ∀ nid ∈ sIn.nodes, ∀ tid, tid ∈ sIn.tracksOf nid ↔
    tid ∈ (keptInput selected raw).tracksOf nid ∨ ∃ c ∈ adopted, c.brings nid tid
  floor : (∀ handed ∈ trim.handed, trimMinNodes ≤ nodeCount handed.measurements) ∧
    (trim.trimmedNodeIds ≠ [] → trimMinNodes ≤ sIn.nNodes)
  dropped : ∀ nid, nid ∈ trim.trimmedNodeIds ↔
    (nid ∈ (keptInput selected raw).nodes ∨ nid ∈ adopted.map (·.nodeId)) ∧ nid ∉ sIn.nodes

/-- An input made of an item's, as far as its sources go, by the selection and the adoption. -/
structure MadeOf (raw : SolverInput) (selected : Option (List String)) (adopted : List Candidate)
    (sIn : SolverInput) : Prop where
  accounted : Provenanced sIn
  measurements : sIn.measurements.map undelayed = (rawWidened raw selected adopted).map undelayed
  tracks : ∀ nid tid, tid ∈ sIn.tracksOf nid ↔
    tid ∈ (keptInput selected raw).tracksOf nid ∨ ∃ c ∈ adopted, c.brings nid tid

theorem MadeOf.nodes (made : MadeOf raw selected adopted sIn) (nid : String) :
    nid ∈ sIn.nodes ↔ nid ∈ (keptInput selected raw).nodes ∨ nid ∈ adopted.map (·.nodeId) := by
  rw [SolverInput.nodes, nodes_of_undelayed made.measurements, rawWidened, List.map_append, List.mem_append]
  simp [SolverInput.nodes]

theorem Adopts.madeOf (adopts : Adopts S B nodeCfgs ready first adopted a) (accounted : Provenanced raw)
    (same : SameSources (keptInput selected raw) ready) : MadeOf raw selected adopted a.sIn := by
  have kept := (accounted.keptInput selected).of_sameSources same
  cases adopts with
  | keeps failed result sIn =>
    rw [sIn]
    exact ⟨kept, by simpa [rawWidened] using same.measurements, fun nid tid => by simp [same.tracksOf]⟩
  | widens widened sIn solved named =>
    have realigned := sameSources_align S nodeCfgs (sInWithAdopted ready adopted first)
    rw [sIn]
    refine ⟨(kept.widen adopted first).of_sameSources realigned, realigned.measurements.trans ?_, fun nid tid => ?_⟩
    · simp only [sInWithAdopted, rawWidened, List.map_append, same.measurements]
    · rw [widenedInput, realigned.tracksOf, mem_tracksOf_sInWithAdopted, same.tracksOf]

theorem Adopts.solved (adopts : Adopts S B nodeCfgs ready first adopted a) (solved : Solved S B ready first) :
    Solved S B a.sIn a.result := by
  cases adopts with
  | keeps failed result sIn => rwa [result, sIn]
  | widens widened sIn solved named => exact solved

theorem Adopts.named (adopts : Adopts S B nodeCfgs sIn first adopted a) :
    sortedSet (adopted.map (·.nodeId)) = if a.outcome = some .widened then a.adoptedNodeIds else [] := by
  cases adopts with
  | keeps failed result sIn => simp [failed, sortedSet]
  | widens widened sIn solved named => rw [if_pos widened, named]

theorem trimOf_trimmed (residuals : ResidualsPerNode B.solveFn B.multistartFn) (accounted : Provenanced adoption.sIn)
    (solved : Solved S B adoption.sIn adoption.result) : Trimmed S B adoption.sIn [] (trimOf S B adoption) := by
  simp only [trimOf]
  split
  · exact trimLoop_trimmed residuals _ _ _ _ _ (by simp) accounted solved
  · exact .stop accounted solved (by simp) (by simp)

theorem Trimmed.pairCorresponds (trimmed : Trimmed S B sIn [] t) (made : MadeOf raw selected adopted sIn) :
    PairCorresponds S B raw selected adopted t t.sIn t.result := by
  have dropped : ∀ nid, nid ∈ t.trimmedNodeIds ↔ nid ∈ sIn.nodes ∧ nid ∉ t.sIn.nodes := by
    simpa using trimmed.dropped
  have within : ∀ nid ∈ t.sIn.nodes, nid ∈ sIn.nodes := by
    intro nid member
    rw [SolverInput.nodes, trimmed.kept] at member
    obtain ⟨m, kept, rfl⟩ := List.mem_map.mp member
    exact List.mem_map_of_mem (List.mem_filter.mp kept).1
  refine ⟨⟨rfl, rfl⟩, trimmed.solved, trimmed.accounted, ?_, ?_, ?_, ⟨trimmed.floor, ?_⟩, ?_⟩
  · intro nid
    rw [dropped, ← made.nodes]
    constructor
    · exact fun final => ⟨within nid final, fun both => both.2 final⟩
    · rintro ⟨measured, spared⟩
      by_contra gone
      exact spared ⟨measured, gone⟩
  · have blind : (fun m : Measurement => decide (m.nodeId ∈ t.sIn.nodes)) =
        (fun m => decide (m.nodeId ∈ t.sIn.nodes)) ∘ undelayed := rfl
    rw [trimmed.kept, blind, ← List.filter_map, ← List.filter_map, made.measurements]
  · intro nid final tid
    rw [trimmed.tracks nid final, made.tracks]
  · intro some_dropped
    obtain ⟨nid, listed⟩ := List.exists_mem_of_ne_nil _ some_dropped
    have gone := (dropped nid).mp listed
    rw [trimmed.accounted.count]
    rcases trimmed.last with same | handed
    · rw [same] at gone
      exact absurd gone.1 gone.2
    · exact trimmed.floor _ handed
  · intro nid
    rw [dropped, made.nodes]

end

section
variable (W : World γ)

theorem widenAndTrim_pair (reached : widenAndTrim W st ready result centroid = some stage) :
    let adoption := adoptPoolNodes W.settings (backend W st.stores) W.nodeCfgs ready result
    let trim := trimOf W.settings (backend W st.stores) adoption
    stage.sIn = trim.sIn ∧ stage.result = trim.result := by
  simp only [widenAndTrim] at reached
  split at reached
  · cases reached
  · simp only [trimOf]
    split at reached
    · rename_i asked
      obtain rfl := Option.some.inj reached
      rw [if_pos asked, ← trimLoop_eq]
      exact ⟨rfl, rfl⟩
    · rename_i unasked
      obtain rfl := Option.some.inj reached
      rw [if_neg unasked]
      exact ⟨rfl, rfl⟩

/-- What an item has been through when it reaches the gates: a solve of its input as
aligned and narrowed by consensus, the widening and the trim. -/
structure Staged (item : Item) (st : SolverState) (stage : Stage) (ready : SolverInput) (first : SolveResult)
    (adopted : List Candidate) (adoption : Adoption) : Prop where
  solved : Solved W.settings (backend W st.stores) ready first
  same : SameSources (keptInput (consensusNodes W.settings (backend W st.stores) item.sIn
    (alignIfEnabled W.settings W.nodeCfgs item.sIn)) item.sIn) ready
  adopts : Adopts W.settings (backend W st.stores) W.nodeCfgs ready first adopted adoption
  widened : solveAndAdopt W.settings (backend W st.stores) W.nodeCfgs item.sIn = some adoption
  trimmed : stage.sIn = (trimOf W.settings (backend W st.stores) adoption).sIn ∧
    stage.result = (trimOf W.settings (backend W st.stores) adoption).result

theorem solveStage_staged (item : Item) (st : SolverState) (reached : solveStage W item st = .ok stage) :
    ∃ ready first adopted adoption, Staged W item st stage ready first adopted adoption := by
  simp only [solveStage] at reached
  rcases first : firstSolve W.settings (backend W st.stores) W.nodeCfgs item.sIn with ⟨ready, _ | _ | result⟩
  · simp [first] at reached
  · simp [first] at reached
  · simp only [first] at reached
    cases converged : result.success with
    | false => simp [converged] at reached
    | true =>
    simp only [converged, Bool.true_eq_false, if_false] at reached
    obtain ⟨solved, guess, readied⟩ := firstSolve_spec W.nodeCfgs item.sIn first
    obtain ⟨adopted, adopts⟩ := adoptPoolNodes_adopts (S := W.settings) (B := backend W st.stores) W.nodeCfgs ready result
    have same := ((sameSources_align W.settings W.nodeCfgs item.sIn).keptInput
      (consensusNodes W.settings (backend W st.stores) item.sIn (alignIfEnabled W.settings W.nodeCfgs item.sIn))).trans
        (sameSources_guess _ guess)
    rw [← readied] at same
    refine ⟨ready, result, adopted, _, solved, same, adopts, ?_, ?_⟩
    · simp [solveAndAdopt, first, converged]
    · split at reached
      · cases reached
      · rename_i stage' widened
        obtain rfl := Except.ok.inj reached
        exact widenAndTrim_pair W widened

/-- The pair that an item brings to the gates corresponds to what consensus,
the widening and the trim did, whenever the item's own input accounts for itself. -/
theorem gated_pair_corresponds (item : Item) (st : SolverState) (accounted : Provenanced item.sIn)
    (residuals : ResidualsPerNode W.solveFn W.multistartFn) (reached : solveStage W item st = .ok stage) :
    ∃ adoption adopted,
      solveAndAdopt W.settings (backend W st.stores) W.nodeCfgs item.sIn = some adoption ∧
      sortedSet (adopted.map (·.nodeId)) =
        (if adoption.outcome = some .widened then adoption.adoptedNodeIds else []) ∧
      PairCorresponds W.settings (backend W st.stores) item.sIn
        (consensusNodes W.settings (backend W st.stores) item.sIn (alignIfEnabled W.settings W.nodeCfgs item.sIn))
        adopted (trimOf W.settings (backend W st.stores) adoption) stage.sIn stage.result := by
  obtain ⟨ready, first, adopted, adoption, staged⟩ := solveStage_staged W item st reached
  have made := staged.adopts.madeOf accounted staged.same
  have trimmed := trimOf_trimmed residuals made.accounted (staged.adopts.solved staged.solved)
  refine ⟨adoption, adopted, staged.widened, staged.adopts.named, ?_⟩
  rw [staged.trimmed.1, staged.trimmed.2]
  exact trimmed.pairCorresponds made

end

/-- A solver that fits all nodes but `d`, whose residual spoils the fit. -/
def spoiledSolve (sIn : SolverInput) : SolveResult :=
  { solveAt sIn.nNodes with
    rmsDelay := some (if "d" ∈ sIn.nodes then 5 else 1)
    perNodeDelayResUs := sIn.nodes.dedup.map fun nid => (nid, if nid = "d" then 10 else 1) }

def spoiledWorld : World Unit :=
  { countingWorld SolverInput.nNodes with solveFn := fun sIn => .ok (some (spoiledSolve sIn)) }

def spoiledFour : Item where
  sIn := { twoOfThree with
    measurements := ["a", "b", "c", "d"].map fun nid => ⟨nid, 10, some 100, none, some 0⟩
    nNodes := 4
    trackIds := ["a1", "b1", "c1", "d1"]
    trackIdsByNode := ⟨[("a", ["a1"]), ("b", ["b1"]), ("c", ["c1"]), ("d", ["d1"])], by decide⟩
    poolNNodes := none
    poolMeasurements := [] }

theorem spoiledWorld_residuals : ResidualsPerNode spoiledWorld.solveFn spoiledWorld.multistartFn where
  single := by
    intro sIn result solved _
    obtain rfl := Option.some.inj (Except.ok.inj solved)
    simp [spoiledSolve, Function.comp_def, List.nodup_dedup]
  multistart := by
    intro sIn starts result solved
    cases Except.ok.inj solved

/-- The spoiling node is trimmed, and its track with it. -/
theorem gated_pair_corresponds_trimmed :
    ∃ stage, solveStage spoiledWorld spoiledFour emptyState = .ok stage ∧ stage.sIn.trackIds = ["a1", "b1", "c1"] ∧
      ∃ adoption adopted,
        solveAndAdopt {} (backend spoiledWorld emptyState.stores) spoiledWorld.nodeCfgs spoiledFour.sIn = some adoption ∧
        sortedSet (adopted.map (·.nodeId)) =
          (if adoption.outcome = some .widened then adoption.adoptedNodeIds else []) ∧
        PairCorresponds {} (backend spoiledWorld emptyState.stores) spoiledFour.sIn
          (consensusNodes {} (backend spoiledWorld emptyState.stores) spoiledFour.sIn
            (alignIfEnabled {} spoiledWorld.nodeCfgs spoiledFour.sIn))
          adopted (trimOf {} (backend spoiledWorld emptyState.stores) adoption) stage.sIn stage.result := by
  have trimmed : (solveStage spoiledWorld spoiledFour emptyState).toOption.map (fun stage => stage.sIn.trackIds) =
      some ["a1", "b1", "c1"] := by decide +kernel
  rcases reached : solveStage spoiledWorld spoiledFour emptyState with _ | stage
  · simp [reached, Except.toOption] at trimmed
  · rw [reached] at trimmed
    have accounted : Provenanced spoiledFour.sIn := ⟨by decide, by decide, by decide +kernel⟩
    exact ⟨stage, rfl, Option.some.inj trimmed,
      gated_pair_corresponds spoiledWorld spoiledFour emptyState accounted spoiledWorld_residuals reached⟩

end Retina.Solver
