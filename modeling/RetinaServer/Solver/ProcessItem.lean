import RetinaServer.Library.Window
import RetinaServer.Multinode.KeyDecision
import RetinaServer.Solver.Gates

/-! One queue entry, from the solver's queue to the store: every way it can end,
and what each leaves behind. -/
namespace Retina.Solver
open Multinode

/-- How the processing of an item ends. -/
inductive Ending where
  | stale
  | suppressed
  | failed
  | noSolve
  | unconverged
  | raised
  | rejectedRmsDelay
  | rejectedRmsDoppler
  | rejectedBeam
  | rejectedDisplacement
  | n2Unconfirmed
  | n2Outbid
  | shadowedByFollow
  | published
deriving DecidableEq, Repr

/-- A published entry as the track archive gets it. -/
structure ArchiveRecord where
  entry : TrackEntry
  solveTsMs : ℤ

/-- The archive buffer is a bounded deque: beyond this the oldest record goes. -/
def trackArchiveMaxlen : Nat := 10000

/-- What an item's processing writes. A trail transplant is asked for by the
hexes it is from and to. -/
structure SolverState where
  stores : Stores
  slots : ResolveSlots
  pairClaims : PairClaims
  archive : List ArchiveRecord
  transplants : List (String × String)

/-- What the solve, the widening and the trim leave for the gates: `nNodes` is
the local count, `result.nNodes` the solver's own. -/
structure Stage where
  sIn : SolverInput
  result : SolveResult
  nNodes : Nat
  centroid : Option (Option ℚ × Option ℚ)

/-- How a two-node solve got past its confirmation. -/
inductive Passage where
  | notAsked
  | confirmed (chi2 : ℚ)
deriving DecidableEq, Repr

structure Processed where
  ending : Ending
  returned : Option SolveResult
  passage : Passage := .notAsked
  state : SolverState

section
variable (W : World γ)

/-- The item is turned away before anything is solved. -/
def turnedAway (item : Item) (st : SolverState) : Option Ending :=
  if item.enqueuedAt.any fun at_ => decide (W.gates.maxQueueAgeS < W.dequeuedS - at_) then some .stale
  else if (resolveSlotState W.resolve st.slots item.sIn W.admittedS).covered then some .suppressed
  else none

/-- The widening and the trim of a converged solve. Each brings the local count
up to date when it ran. -/
def widenAndTrim (st : SolverState) (ready : SolverInput) (result : SolveResult)
    (centroid : Option (Option ℚ × Option ℚ)) : Option Stage :=
  let adoption := adoptPoolNodes W.settings (backend W st.stores) W.nodeCfgs ready result
  if adoption.outcome = some .raised then none
  else
    let nNodes := if adoption.outcome.isSome then adoption.result.nNodes.getD ready.nNodes else ready.nNodes
    if adoption.sIn.initialGuess.isSome ∧ 4 ≤ adoption.result.nNodes.getD 0 ∧
        W.settings.rmsDelayMaxUs < adoption.result.rmsDelay.getD 0 ∧ adoption.result.perNodeDelayResUs ≠ [] then
      let (sIn, trimmed) :=
        trimAndResolve W.settings (backend W st.stores) trimMaxRounds adoption.sIn adoption.result
      some ⟨sIn, trimmed, trimmed.nNodes.getD nNodes, centroid⟩
    else some ⟨adoption.sIn, adoption.result, nNodes, centroid⟩

/-- The solve, up to the gates. -/
def solveStage (item : Item) (st : SolverState) : Except (Ending × Option SolveResult) Stage :=
  let B := backend W st.stores
  match firstSolve W.settings B W.nodeCfgs item.sIn with
  | (_, .error _) => .error (.failed, none)
  | (_, .ok none) => .error (.noSolve, none)
  | (ready, .ok (some result)) =>
      if result.success = false then .error (.unconverged, some result)
      else
        let aligned := alignIfEnabled W.settings W.nodeCfgs item.sIn
        let centroid :=
          if consensusSelected W.settings B item.sIn aligned then some (W.consensusCentroid aligned) else none
        match widenAndTrim W st ready result centroid with
        | none => .error (.raised, none)
        | some stage => .ok stage

/-- The residual, beam and displacement gates, in order. -/
def gateStack (stage : Stage) : Option (Ending × Option SolveResult) :=
  let details := W.details stage.sIn stage.result
  if W.settings.rmsDelayMaxUs < stage.result.rmsDelay.getD 0 then some (.rejectedRmsDelay, some stage.result)
  else if rmsDopplerMaxHz W (stage.result.nNodes.getD 0) < details.rmsDoppler.getD 0 then
    some (.rejectedRmsDoppler, some stage.result)
  else match beamGate W stage.result details.contributingNodeIds with
    | .reject => some (.rejectedBeam, none)
    | .raise => some (.raised, none)
    | .pass => match displacementGate W stage.sIn stage.centroid stage.result with
        | .reject => some (.rejectedDisplacement, none)
        | .raise => some (.raised, none)
        | .pass => none

/-- The gate is asked of this stage. -/
def n2GateAsks (s : Stores) (stage : Stage) : Bool :=
  W.gates.n2RequireConfirmed && decide (stage.nNodes = 2) && !n2AnchorAdmits W s stage.sIn

def n2Gate (item : Item) (stage : Stage) (st : SolverState) : Except Ending Passage × SolverState :=
  if !n2GateAsks W st.stores stage then (.ok .notAsked, st)
  else match resolveN2Chi2 W item stage.sIn with
    | none => (.error .n2Unconfirmed, st)
    | some chi2 =>
        if W.gates.n2ConfirmChi2Max < chi2 then (.error .n2Unconfirmed, st)
        else
          let (won, pairClaims) := claimTrackPair W item st.pairClaims chi2
          (if won then .ok (.confirmed chi2) else .error .n2Outbid, { st with pairClaims })

/-- The solve to publish, at the fit's position where it has one. -/
def locate (item : Item) (stage : Stage) : Option SolveResult :=
  if W.gates.n2RequireConfirmed && decide (stage.nNodes = 2) then
    applyN2FitPosition W item stage.sIn (W.details stage.sIn stage.result).timestampMs stage.result
  else some stage.result

/-- The velocity to publish: the fit's, when it clears its own gate. -/
def publishedVelocity (item : Item) (sIn : SolverInput) (result : SolveResult) : Option ℚ × Option ℚ :=
  match resolveCvFit W item sIn false with
  | none => (result.velEast, result.velNorth)
  | some fit =>
      if 4 ≤ fit.nEpochs.getD 0 ∧ fit.chi2PerDof.any fun chi2 => decide (chi2 ≤ W.gates.cvVelAdoptChi2Max) then
        (fit.velEast, fit.velNorth)
      else (result.velEast, result.velNorth)

/-- What the publish block is given: named, flagged, and with its velocity. -/
def publishInput (item : Item) (stage : Stage) (result : SolveResult) (lat lon : ℚ) : PublishInput :=
  let details := W.details stage.sIn stage.result
  let velocity := publishedVelocity W item stage.sIn result
  let solve : Solve := {
    lat
    lon
    timestampMs := details.timestampMs
    altM := result.altM
    velEast := velocity.1
    velNorth := velocity.2
    nNodes := result.nNodes.getD 0
    covEnKm2 := details.covEnKm2
    adsbHex := details.adsbHex }
  let p : PublishInput := {
    result := solve
    adsbHex := stage.sIn.adsbHex
    anchorKey := stage.sIn.anchorKey
    followed := item.followKey
    trackIds := stage.sIn.trackIds
    fix := W.adsbFix
    lastFollowPublish := W.lastFollowPublish
    wasDropped := W.wasDropped }
  { p with result := collectTrackAnomalies W.contributingTracks p.trackIds (nameHex p) }

/-- The publish block, and the archive and the claim after it. -/
def publishItem (p : PublishInput) (st : SolverState) : Ending × SolverState :=
  let decision := publishDecision W.publishing p st.stores
  if decision.how = .shadowed then (.shadowedByFollow, st)
  else
    let entry := storedEntry W.publishing p st.stores
    (.published, { st with
      stores := publishSolve W.publishing p st.stores
      transplants := st.transplants ++ (retiredFor W.publishing p st.stores).toList.map fun coast =>
        (W.publishing.multinodeHexFromKey coast.1, W.publishing.multinodeHexFromKey decision.key)
      archive := Window.newest trackArchiveMaxlen (st.archive ++ [⟨entry, ⌊W.archivedS * 1000⌋⟩])
      slots := recordResolveSlot W.resolve entry.sourceTrackIds entry.nNodes W.publishedS st.slots })

def processSolverItem (item : Item) (st : SolverState) : Processed :=
  match turnedAway W item st with
  | some ending => { ending, returned := none, state := st }
  | none => match solveStage W item st with
    | .error (ending, returned) => { ending, returned, state := st }
    | .ok stage => match gateStack W stage with
      | some (ending, returned) => { ending, returned, state := st }
      | none => match n2Gate W item stage st with
        | (.error ending, st) => { ending, returned := some stage.result, state := st }
        | (.ok passage, st) => match locate W item stage with
          | none => { ending := .raised, returned := none, passage, state := st }
          | some result => match result.lat, result.lon with
            | some lat, some lon =>
                let (ending, st) := publishItem W (publishInput W item stage result lat lon) st
                { ending, returned := some result, passage, state := st }
            | _, _ => { ending := .raised, returned := none, passage, state := st }

/-! ### What each ending leaves -/

/-- The stores, the claims, the archive and the trails stand as they were. -/
structure Untouched (st st' : SolverState) : Prop where
  stores : st'.stores = st.stores
  slots : st'.slots = st.slots
  archive : st'.archive = st.archive
  transplants : st'.transplants = st.transplants

/-- Every stage lets the item through. -/
structure Passes (item : Item) (st : SolverState) (stage : Stage) (passage : Passage) (pairClaims : PairClaims)
    (result : SolveResult) (lat lon : ℚ) : Prop where
  admitted : turnedAway W item st = none
  solved : solveStage W item st = .ok stage
  gated : gateStack W stage = none
  asked : n2Gate W item stage st = (.ok passage, { st with pairClaims })
  located : locate W item stage = some result
  atLat : result.lat = some lat
  atLon : result.lon = some lon
  unshadowed : (publishDecision W.publishing (publishInput W item stage result lat lon) st.stores).how ≠ .shadowed

/-- The state after an item is published. -/
def publishedState (p : PublishInput) (st : SolverState) (pairClaims : PairClaims) : SolverState :=
  (publishItem W p { st with pairClaims }).2

theorem turnedAway_ending (turned : turnedAway W item st = some ending) : ending ≠ .published := by
  simp only [turnedAway] at turned
  split at turned
  · obtain rfl := Option.some.inj turned
    simp
  · split at turned
    · obtain rfl := Option.some.inj turned
      simp
    · cases turned

theorem solveStage_ending (stopped : solveStage W item st = .error (ending, returned)) : ending ≠ .published := by
  simp only [solveStage] at stopped
  split at stopped
  · obtain ⟨rfl, -⟩ := Prod.mk.inj (Except.error.inj stopped)
    simp
  · obtain ⟨rfl, -⟩ := Prod.mk.inj (Except.error.inj stopped)
    simp
  · split at stopped
    · obtain ⟨rfl, -⟩ := Prod.mk.inj (Except.error.inj stopped)
      simp
    · split at stopped
      · obtain ⟨rfl, -⟩ := Prod.mk.inj (Except.error.inj stopped)
        simp
      · cases stopped

theorem gateStack_ending (rejected : gateStack W stage = some (ending, returned)) : ending ≠ .published := by
  simp only [gateStack] at rejected
  repeat' split at rejected
  all_goals first
    | (obtain ⟨rfl, -⟩ := Prod.mk.inj (Option.some.inj rejected); simp)
    | cases rejected

/-- The gate writes nothing but the pair claims. -/
theorem n2Gate_state (item : Item) (stage : Stage) (st : SolverState) :
    ∃ pairClaims, (n2Gate W item stage st).2 = { st with pairClaims } := by
  simp only [n2Gate]
  split
  · exact ⟨st.pairClaims, rfl⟩
  · split
    · exact ⟨st.pairClaims, rfl⟩
    · split
      · exact ⟨st.pairClaims, rfl⟩
      · exact ⟨_, rfl⟩

theorem n2Gate_ending (withheld : (n2Gate W item stage st).1 = .error ending) : ending ≠ .published := by
  simp only [n2Gate] at withheld
  split at withheld
  · cases withheld
  · split at withheld
    · obtain rfl := Except.error.inj withheld
      simp
    · split at withheld
      · obtain rfl := Except.error.inj withheld
        simp
      · dsimp only at withheld
        split at withheld
        · cases withheld
        · obtain rfl := Except.error.inj withheld
          simp

theorem Passes.processed (passes : Passes W item st stage passage pairClaims result lat lon) :
    processSolverItem W item st = {
      ending := .published
      returned := some result
      passage
      state := publishedState W (publishInput W item stage result lat lon) st pairClaims } := by
  simp only [processSolverItem, passes.admitted, passes.solved, passes.gated, passes.asked, passes.located,
    passes.atLat, passes.atLon, publishedState, publishItem, if_neg passes.unshadowed]

/-- An item is published by passing every stage, and otherwise leaves all but
the pair claims as they were. -/
theorem processSolverItem_cases (item : Item) (st : SolverState) :
    (processSolverItem W item st).ending ≠ .published ∧ Untouched st (processSolverItem W item st).state ∨
    ∃ stage passage pairClaims result lat lon, Passes W item st stage passage pairClaims result lat lon := by
  have same : Untouched st st := ⟨rfl, rfl, rfl, rfl⟩
  cases admitted : turnedAway W item st with
  | some ending =>
    refine .inl ?_
    simp only [processSolverItem, admitted]
    exact ⟨turnedAway_ending W admitted, same⟩
  | none =>
  cases solved : solveStage W item st with
  | error stopped =>
    refine .inl ?_
    simp only [processSolverItem, admitted, solved]
    exact ⟨solveStage_ending W solved, same⟩
  | ok stage =>
  cases gated : gateStack W stage with
  | some rejected =>
    refine .inl ?_
    simp only [processSolverItem, admitted, solved, gated]
    exact ⟨gateStack_ending W gated, same⟩
  | none =>
  obtain ⟨pairClaims, claimed⟩ := n2Gate_state W item stage st
  have kept : Untouched st { st with pairClaims } := ⟨rfl, rfl, rfl, rfl⟩
  cases asked : (n2Gate W item stage st).1 with
  | error ending =>
    have gate : n2Gate W item stage st = (.error ending, { st with pairClaims }) := Prod.ext asked claimed
    refine .inl ?_
    simp only [processSolverItem, admitted, solved, gated, gate]
    exact ⟨n2Gate_ending W asked, kept⟩
  | ok passage =>
  have gate : n2Gate W item stage st = (.ok passage, { st with pairClaims }) := Prod.ext asked claimed
  cases located : locate W item stage with
  | none =>
    refine .inl ?_
    simp only [processSolverItem, admitted, solved, gated, gate, located]
    exact ⟨by simp, kept⟩
  | some result =>
  cases atLat : result.lat with
  | none =>
    refine .inl ?_
    simp only [processSolverItem, admitted, solved, gated, gate, located, atLat]
    exact ⟨by simp, kept⟩
  | some lat =>
  cases atLon : result.lon with
  | none =>
    refine .inl ?_
    simp only [processSolverItem, admitted, solved, gated, gate, located, atLat, atLon]
    exact ⟨by simp, kept⟩
  | some lon =>
  by_cases shadowed :
      (publishDecision W.publishing (publishInput W item stage result lat lon) st.stores).how = .shadowed
  · refine .inl ?_
    simp only [processSolverItem, admitted, solved, gated, gate, located, atLat, atLon, publishItem, if_pos shadowed]
    exact ⟨by simp, kept⟩
  · exact .inr ⟨stage, passage, pairClaims, result, lat, lon, admitted, solved, gated, gate, located, atLat, atLon,
      shadowed⟩

/-- A solve leaves one archive record, one claim of its tracks and one entry:
the one of the archive, under the key decided for it, which it keeps when it is
decided again with that key for an anchor. -/
structure StoredOnce (p : PublishInput) (st st' : SolverState) : Prop where
  archive : st'.archive = Window.newest trackArchiveMaxlen
    (st.archive ++ [⟨storedEntry W.publishing p st.stores, ⌊W.archivedS * 1000⌋⟩])
  own : st'.stores.tracks.get? (publishDecision W.publishing p st.stores).key =
    some (storedEntry W.publishing p st.stores)
  others : ∀ k, k ≠ (publishDecision W.publishing p st.stores).key →
    st'.stores.tracks.get? k = none ∨ st'.stores.tracks.get? k = st.stores.tracks.get? k
  slots : st'.slots = recordResolveSlot W.resolve (storedEntry W.publishing p st.stores).sourceTrackIds
    (storedEntry W.publishing p st.stores).nNodes W.publishedS st.slots
  fixed : ∃ solve : Solve, solve.stored = storedEntry W.publishing p st.stores ∧
    (W.geodesy.haversineKm solve.lat solve.lon solve.lat solve.lon = 0 → ∀ anchorDr trackIds,
      (multinodeKeyDecision (keyingContext W.publishing st'.stores p.lastFollowPublish) st'.stores.tracks solve
        p.adsbHex (some (publishDecision W.publishing p st.stores).key) anchorDr trackIds).key =
      (publishDecision W.publishing p st.stores).key)

theorem publishedState_eq (p : PublishInput) (st : SolverState) (pairClaims : PairClaims)
    (unshadowed : (publishDecision W.publishing p st.stores).how ≠ .shadowed) :
    publishedState W p st pairClaims = {
      stores := publishSolve W.publishing p st.stores
      slots := recordResolveSlot W.resolve (storedEntry W.publishing p st.stores).sourceTrackIds
        (storedEntry W.publishing p st.stores).nNodes W.publishedS st.slots
      pairClaims
      archive := Window.newest trackArchiveMaxlen
        (st.archive ++ [⟨storedEntry W.publishing p st.stores, ⌊W.archivedS * 1000⌋⟩])
      transplants := st.transplants ++ (retiredFor W.publishing p st.stores).toList.map fun coast =>
        (W.publishing.multinodeHexFromKey coast.1,
          W.publishing.multinodeHexFromKey (publishDecision W.publishing p st.stores).key) } := by
  simp only [publishedState, publishItem, if_neg unshadowed]

theorem publishedState_storedOnce (p : PublishInput) (st : SolverState) (pairClaims : PairClaims)
    (unshadowed : (publishDecision W.publishing p st.stores).how ≠ .shadowed) :
    StoredOnce W p st (publishedState W p st pairClaims) := by
  rw [publishedState_eq W p st pairClaims unshadowed]
  have tracks := published_tracks W.publishing p st.stores unshadowed
  have own := (tracks (publishDecision W.publishing p st.stores).key).trans (if_pos rfl)
  refine ⟨?_, own, ?_, rfl, ?_⟩
  · dsimp only
  · intro k other
    dsimp only
    rw [tracks k, if_neg (Ne.symm other)]
    split
    · exact .inl rfl
    · exact .inr rfl
  · obtain ⟨solve, stored⟩ : ∃ solve : Solve, solve.stored = storedEntry W.publishing p st.stores := ⟨_, rfl⟩
    rw [← stored] at own
    refine ⟨solve, stored, fun here anchorDr trackIds => ?_⟩
    exact decision_fixed _ st.stores.tracks p.result _ _ solve rfl own here anchorDr trackIds

/-- Only a published item leaves anything in the stores. -/
theorem only_published_item_writes (item : Item) (st : SolverState) :
    ((processSolverItem W item st).ending ≠ .published → Untouched st (processSolverItem W item st).state) ∧
    ((processSolverItem W item st).ending = .published → ∃ stage passage pairClaims result lat lon,
      Passes W item st stage passage pairClaims result lat lon ∧
      StoredOnce W (publishInput W item stage result lat lon) st (processSolverItem W item st).state) := by
  rcases processSolverItem_cases W item st with ⟨withheld, untouched⟩ |
    ⟨stage, passage, pairClaims, result, lat, lon, passes⟩
  · exact ⟨fun _ => untouched, fun published => absurd published withheld⟩
  · rw [passes.processed]
    have stored := publishedState_storedOnce W _ st pairClaims passes.unshadowed
    refine ⟨fun withheld => absurd rfl withheld, fun _ => ?_⟩
    exact ⟨stage, passage, pairClaims, result, lat, lon, passes, stored⟩

end

end Retina.Solver
