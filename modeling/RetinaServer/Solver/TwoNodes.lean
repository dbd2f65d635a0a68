import RetinaServer.Solver.ProcessItem

/-! When a published two-node solve was confirmed. The gate asks by the local node
count and the publish goes by the solver's own, which a stage brings together only
where it ran; a solve that reports fewer nodes than it was given gets by. -/
namespace Retina.Solver
open Multinode

section
variable (W : World γ)

/-- A published two-node solve that its anchor does not admit was fitted closely
enough, and won its track pair. -/
def ConfirmsTwoNodes (item : Item) (st : SolverState) : Prop :=
  ∀ stage result, solveStage W item st = .ok stage → (processSolverItem W item st).ending = .published →
    (processSolverItem W item st).returned = some result → result.nNodes = some 2 →
    n2AnchorAdmits W st.stores stage.sIn = false →
    ∃ chi2, resolveN2Chi2 W item stage.sIn = some chi2 ∧ chi2 ≤ W.gates.n2ConfirmChi2Max ∧
      (claimTrackPair W item st.pairClaims chi2).1 = true ∧
      (processSolverItem W item st).passage = .confirmed chi2 ∧
      (processSolverItem W item st).state.pairClaims = (claimTrackPair W item st.pairClaims chi2).2

/-- What the gates are given of a solve that nothing widens or trims. -/
def plainStage (item : Item) (st : SolverState) (ready : SolverInput) (result : SolveResult) : Stage :=
  let aligned := alignIfEnabled W.settings W.nodeCfgs item.sIn
  ⟨ready, result, ready.nNodes,
    if consensusSelected W.settings (backend W st.stores) item.sIn aligned then some (W.consensusCentroid aligned)
    else none⟩

/-- The solver reports two nodes for an input of another count, no pool node is
tried, and nothing but the confirmation would keep the solve from its publication. -/
structure ReportsTwo (item : Item) (st : SolverState) (ready : SolverInput) (result : SolveResult)
    (lat lon : ℚ) : Prop where
  admitted : turnedAway W item st = none
  solved : firstSolve W.settings (backend W st.stores) W.nodeCfgs item.sIn = (ready, .ok (some result))
  converged : result.success = true
  unwidened : (adoptPoolNodes W.settings (backend W st.stores) W.nodeCfgs ready result).outcome = none
  reported : result.nNodes = some 2
  counted : ready.nNodes ≠ 2
  unanchored : n2AnchorAdmits W st.stores ready = false
  gated : gateStack W (plainStage W item st ready result) = none
  atLat : result.lat = some lat
  atLon : result.lon = some lon
  unshadowed : (publishDecision W.publishing
    (publishInput W item (plainStage W item st ready result) result lat lon) st.stores).how ≠ .shadowed

/-! ### The gate -/

/-- What a solve that the gate asks about has to show. -/
structure Confirmed (item : Item) (stage : Stage) (st : SolverState) (passage : Passage) (pairClaims : PairClaims)
    (chi2 : ℚ) : Prop where
  fitted : resolveN2Chi2 W item stage.sIn = some chi2
  close : chi2 ≤ W.gates.n2ConfirmChi2Max
  won : (claimTrackPair W item st.pairClaims chi2).1 = true
  passage : passage = .confirmed chi2
  pairClaims : pairClaims = (claimTrackPair W item st.pairClaims chi2).2

theorem n2Gate_asked (asks : n2GateAsks W st.stores stage = true)
    (passed : n2Gate W item stage st = (.ok passage, { st with pairClaims })) :
    ∃ chi2, Confirmed W item stage st passage pairClaims chi2 := by
  simp only [n2Gate, asks, Bool.not_true, Bool.false_eq_true, if_false] at passed
  split at passed
  · cases (Prod.mk.inj passed).1
  · rename_i chi2 fitted
    split at passed
    · cases (Prod.mk.inj passed).1
    · rename_i close
      obtain ⟨verdict, state⟩ := Prod.mk.inj passed
      have claims := congrArg SolverState.pairClaims state
      split at verdict
      · rename_i won
        cases verdict
        exact ⟨chi2, fitted, not_lt.mp close, won, rfl, claims.symm⟩
      · cases verdict

theorem n2Gate_unasked (asks : n2GateAsks W st.stores stage = false) :
    n2Gate W item stage st = (.ok .notAsked, { st with pairClaims := st.pairClaims }) := by
  simp only [n2Gate, asks, Bool.not_false, if_true]

/-- The fit's position leaves the node count. -/
theorem locate_nNodes (located : locate W item stage = some result) : result.nNodes = stage.result.nNodes := by
  simp only [locate] at located
  split at located
  · simp only [applyN2FitPosition] at located
    repeat' split at located
    all_goals first
      | (obtain rfl := Option.some.inj located; rfl)
      | cases located
  · obtain rfl := Option.some.inj located
    rfl

/-! ### The two counts -/

theorem attemptWidening_outcome (S : Settings) (B : Backend γ) (nodeCfgs : String → Option NodeConfig)
    (sIn : SolverInput) (first : SolveResult) (lat lon : ℚ) (predResid : List (String × ℚ)) (retries : Nat)
    (adopted : List Candidate) :
    (attemptWidening S B nodeCfgs sIn first lat lon predResid retries adopted).outcome.isSome := by
  induction retries generalizing adopted with
  | zero =>
    rw [attemptWidening]
    dsimp only
    repeat' split
    all_goals rfl
  | succ again ih =>
    rw [attemptWidening]
    dsimp only
    repeat' split
    all_goals first
      | rfl
      | exact ih _

/-- A widening that does not apply hands on what it was given. -/
theorem adoptPoolNodes_none (S : Settings) (B : Backend γ) (nodeCfgs : String → Option NodeConfig)
    (sIn : SolverInput) (result : SolveResult)
    (unwidened : (adoptPoolNodes S B nodeCfgs sIn result).outcome = none) :
    (adoptPoolNodes S B nodeCfgs sIn result).result = result ∧ (adoptPoolNodes S B nodeCfgs sIn result).sIn = sIn := by
  revert unwidened
  simp only [adoptPoolNodes]
  split
  · exact fun _ => ⟨rfl, rfl⟩
  · split
    · split
      · exact fun _ => ⟨rfl, rfl⟩
      · split
        · exact fun _ => ⟨rfl, rfl⟩
        · split
          · exact fun _ => ⟨rfl, rfl⟩
          · intro unwidened
            exact absurd unwidened (Option.ne_none_iff_isSome.mpr (attemptWidening_outcome ..))
    · exact fun _ => ⟨rfl, rfl⟩

/-- A solve that reports two nodes without being widened is not trimmed either. -/
theorem widenAndTrim_plain (centroid : Option (Option ℚ × Option ℚ))
    (unwidened : (adoptPoolNodes W.settings (backend W st.stores) W.nodeCfgs ready result).outcome = none)
    (reported : result.nNodes = some 2) :
    widenAndTrim W st ready result centroid = some ⟨ready, result, ready.nNodes, centroid⟩ := by
  obtain ⟨same, sameInput⟩ := adoptPoolNodes_none W.settings (backend W st.stores) W.nodeCfgs ready result unwidened
  simp [widenAndTrim, unwidened, same, sameInput, reported]

/-- The two counts part only on a solve that was neither widened nor trimmed. -/
theorem widenAndTrim_parted (staged : widenAndTrim W st ready result centroid = some stage)
    (reported : stage.result.nNodes = some 2) (counted : stage.nNodes ≠ 2) :
    (adoptPoolNodes W.settings (backend W st.stores) W.nodeCfgs ready result).outcome = none ∧
      stage = ⟨ready, result, ready.nNodes, centroid⟩ := by
  simp only [widenAndTrim] at staged
  split at staged
  · cases staged
  · split at staged
    · obtain rfl := Option.some.inj staged
      dsimp only at reported counted
      rw [reported] at counted
      exact absurd rfl counted
    · obtain rfl := Option.some.inj staged
      cases outcome : (adoptPoolNodes W.settings (backend W st.stores) W.nodeCfgs ready result).outcome with
      | some o =>
        dsimp only at reported counted
        simp [outcome, reported] at counted
      | none =>
        obtain ⟨same, sameInput⟩ :=
          adoptPoolNodes_none W.settings (backend W st.stores) W.nodeCfgs ready result outcome
        exact ⟨rfl, by simp [same, sameInput]⟩

theorem solveStage_ok (staged : solveStage W item st = .ok stage) :
    ∃ ready result, firstSolve W.settings (backend W st.stores) W.nodeCfgs item.sIn = (ready, .ok (some result)) ∧
      result.success = true ∧
      widenAndTrim W st ready result (plainStage W item st ready result).centroid = some stage := by
  simp only [solveStage] at staged
  split at staged
  · cases staged
  · cases staged
  · rename_i ready result solved
    split at staged
    · cases staged
    · rename_i converged
      split at staged
      · cases staged
      · rename_i stage' trimmed
        cases staged
        exact ⟨ready, result, solved, by simpa using converged, trimmed⟩

theorem solveStage_plain (reports : ReportsTwo W item st ready result lat lon) :
    solveStage W item st = .ok (plainStage W item st ready result) := by
  have plain := widenAndTrim_plain W (plainStage W item st ready result).centroid reports.unwidened reports.reported
  simp only [plainStage] at plain
  simp only [solveStage, reports.solved, reports.converged, plain, plainStage]
  simp

/-- Nothing asks such a solve for its fit. -/
theorem ReportsTwo.passes (reports : ReportsTwo W item st ready result lat lon) :
    Passes W item st (plainStage W item st ready result) .notAsked st.pairClaims result lat lon where
  admitted := reports.admitted
  solved := solveStage_plain W reports
  gated := reports.gated
  asked := by
    apply n2Gate_unasked
    simp [n2GateAsks, plainStage, reports.counted]
  located := by
    simp [locate, plainStage, reports.counted]
  atLat := reports.atLat
  atLon := reports.atLon
  unshadowed := reports.unshadowed

/-- A published two-node solve was either asked for its fit and showed it, or
reported its two nodes past the gate. -/
theorem Passes.confirmed_or_reportsTwo (on : W.gates.n2RequireConfirmed = true)
    (passes : Passes W item st stage passage pairClaims result lat lon) (two : result.nNodes = some 2)
    (unanchored : n2AnchorAdmits W st.stores stage.sIn = false) :
    (∃ chi2, Confirmed W item stage st passage pairClaims chi2) ∨
      ∃ ready, ReportsTwo W item st ready result lat lon := by
  have reported : stage.result.nNodes = some 2 := by rw [← locate_nNodes W passes.located, two]
  by_cases counted : stage.nNodes = 2
  · have asks : n2GateAsks W st.stores stage = true := by simp [n2GateAsks, on, counted, unanchored]
    exact .inl (n2Gate_asked W asks passes.asked)
  · obtain ⟨ready, first, solved, converged, trimmed⟩ := solveStage_ok W passes.solved
    obtain ⟨unwidened, plain⟩ := widenAndTrim_parted W trimmed reported counted
    have plain : stage = plainStage W item st ready first := plain
    subst plain
    have same : first = result := by
      have located := passes.located
      simp only [locate, decide_eq_false counted, Bool.and_false, Bool.false_eq_true, if_false] at located
      exact Option.some.inj located
    subst same
    exact .inr ⟨ready, passes.admitted, solved, converged, unwidened, two, counted, unanchored, passes.gated,
      passes.atLat, passes.atLon, passes.unshadowed⟩

theorem ReportsTwo.unconfirmed (reports : ReportsTwo W item st ready result lat lon) :
    ¬ ConfirmsTwoNodes W item st := by
  intro confirms
  have processed := reports.passes.processed
  obtain ⟨chi2, -, -, -, passage, -⟩ := confirms _ result reports.passes.solved (by rw [processed])
    (by rw [processed]) reports.reported reports.unanchored
  rw [processed] at passage
  cases passage

/-- With the confirmation required, every published two-node solve was confirmed
or let in by its anchor exactly when no solve reports two nodes past the gate. -/
theorem confirms_two_nodes_iff (item : Item) (st : SolverState) (on : W.gates.n2RequireConfirmed = true) :
    ConfirmsTwoNodes W item st ↔ ¬ ∃ ready result lat lon, ReportsTwo W item st ready result lat lon := by
  constructor
  · rintro confirms ⟨ready, result, lat, lon, reports⟩
    exact reports.unconfirmed W confirms
  · intro none_ stage result staged published returned two unanchored
    rcases processSolverItem_cases W item st with ⟨withheld, -⟩ |
      ⟨stage', passage, pairClaims, result', lat, lon, passes⟩
    · exact absurd published withheld
    · obtain rfl : stage = stage' := Except.ok.inj (staged.symm.trans passes.solved)
      rw [passes.processed] at returned
      obtain rfl : result' = result := Option.some.inj returned
      rcases passes.confirmed_or_reportsTwo W on two unanchored with ⟨chi2, confirmed⟩ | ⟨ready, reports⟩
      · rw [passes.processed, publishedState_eq W _ st pairClaims passes.unshadowed]
        exact ⟨chi2, confirmed.fitted, confirmed.close, confirmed.won, confirmed.passage, confirmed.pairClaims⟩
      · exact absurd ⟨ready, result', lat, lon, reports⟩ none_

end

/-- A solve on the meridian that reports `nNodes`. -/
def solveAt (nNodes : Nat) : SolveResult :=
  ⟨true, some 1, some 0, some 7000, some 0, some 0, some nNodes, some 1, []⟩

/-- Every solve reports the node count that `counts` makes of its input. -/
def countingWorld (counts : SolverInput → Nat) : World Unit where
  publishing := meridianConfig
  nodeCfgs := fun _ => none
  nodeGeometries := fun _ => none
  predictObservation := fun _ _ _ _ _ _ => .error "no geometry"
  solveFn := fun sIn => .ok (some (solveAt (counts sIn)))
  multistartFn := fun _ _ => .ok none
  selectFn := fun _ => .ok none
  consensusCentroid := fun _ => (none, none)
  details := fun sIn _ => { timestampMs := sIn.timestampMs.getD 0 }
  fitConstantVelocity := fun _ _ => .ok none
  beamParams := fun _ => none
  bearingDeg := fun _ _ _ _ => 0
  bistaticDifferentialKm := fun _ _ _ _ _ _ => 0
  learnedFov := fun _ => none
  contributingTracks := []
  adsbFix := none
  lastFollowPublish := Dict.empty
  wasDropped := fun _ => false
  dequeuedS := 2
  admittedS := 2
  claimedS := 2
  archivedS := 2
  publishedS := 2

def emptyState : SolverState := ⟨Stores.boot, .initial, Dict.empty, [], []⟩

/-- A dark pair whose fit cleared the confirmation. -/
def confirmedPair : Item where
  sIn := { twoOfThree with poolNNodes := none, poolMeasurements := [] }
  chi2PerDof := some 1
  trackPairIds := [["a1", "b1"]]

theorem confirmed_pair_confirms :
    (processSolverItem (countingWorld SolverInput.nNodes) confirmedPair emptyState).ending = .published ∧
    ConfirmsTwoNodes (countingWorld SolverInput.nNodes) confirmedPair emptyState := by
  refine ⟨by decide +kernel, (confirms_two_nodes_iff _ confirmedPair emptyState rfl).mpr ?_⟩
  rintro ⟨ready, result, lat, lon, reports⟩
  have counted : (firstSolve {} (backend (countingWorld SolverInput.nNodes) emptyState.stores) (fun _ => none)
      confirmedPair.sIn).1.nNodes = 2 := by decide +kernel
  exact reports.counted ((congrArg (fun solved => solved.1.nNodes) reports.solved).symm.trans counted)

/-- Three nodes, none of them fitted over an observation window. -/
def unfittedThree : Item where
  sIn := { twoOfThree with
    measurements := twoOfThree.measurements ++ [⟨"c", 30, some 100, none, some 2⟩]
    nNodes := 3
    trackIds := ["a1", "b1", "c1"]
    poolNNodes := none
    poolMeasurements := [] }

/-- A solver that dropped one of the three nodes is published without a fit. -/
theorem dropped_node_published_unconfirmed :
    ¬ ConfirmsTwoNodes (countingWorld fun _ => 2) unfittedThree emptyState := by
  have reports : ReportsTwo (countingWorld fun _ => 2) unfittedThree emptyState unfittedThree.sIn (solveAt 2) 1 0 := {
    admitted := by decide +kernel
    solved := by decide +kernel
    converged := rfl
    unwidened := by decide +kernel
    reported := rfl
    counted := by decide
    unanchored := by decide +kernel
    gated := by decide +kernel
    atLat := rfl
    atLon := rfl
    unshadowed := by decide +kernel }
  exact reports.unconfirmed

end Retina.Solver
