import RetinaServer.Multinode.Alarms
import RetinaServer.Solver.PoolAdoption
import RetinaServer.Solver.ResolveSlots
import RetinaServer.Library.Runs

/-! What an item goes through between its solve and the store: the trim, the
residual, beam and displacement gates, and the confirmation of a two-node solve. -/
namespace Retina.Solver
open Selection Multinode

def trimMaxRounds : Nat := 4
def trimResidFactor : ℚ := 3 / 2
def trimMinNodes : Nat := 3
def n2ConfirmMinEpochs : Nat := 4

inductive FovMode where
  | off
  | shadow
  | active
deriving DecidableEq, Repr

structure GateSettings where
  maxQueueAgeS : ℚ := 45
  rmsDopplerMaxHz : ℚ := 200
  n3RmsDopplerMaxHz : ℚ := 60
  maxDisplacementKm : ℚ := 2
  maxDisplacementKmDark : ℚ := 6
  darkFollowN2MaxDispKm : ℚ := 3 / 2
  fovMode : FovMode := .off
  n2RequireConfirmed : Bool := true
  n2ConfirmChi2Max : ℚ := 2
  n2PublishFitPosition : Bool := true
  n2FitFixAltitude : Bool := true
  darkFollowN2Admit : Bool := false
  darkFollowMinSolves : Nat := 3
  trackClaimTtlS : ℚ := 60
  cvVelAdoptChi2Max : ℚ := 5
  n2AltInheritKm : ℚ := 6
  n2AltInheritMinNodes : Nat := 3
  n2AltInheritMaxAgeS : ℚ := 60

/-- Of a placed node's beam parameters, what the gate reads. -/
structure BeamParams where
  rxLat : ℚ
  rxLon : ℚ
  tx : Option (ℚ × ℚ)
  maxBistaticRangeKm : Option ℚ
  maxRangeKm : ℚ
  beamAzimuthDeg : Option ℚ
  beamWidthDeg : ℚ

/-- A node's learned field of view, by bearing and distance. -/
structure Fov where
  contains : ℚ → ℚ → Bool

/-- The fields of a solver-pool result that the stages before the gates do not read. -/
structure SolveDetails where
  timestampMs : ℤ
  rmsDoppler : Option ℚ := none
  contributingNodeIds : List String := []
  covEnKm2 : Option Cov := none
  adsbHex : Option String := none

/-- A constant-velocity fit over the observation window. -/
structure CvFit where
  success : Bool
  chi2PerDof : Option ℚ
  nEpochs : Option Nat
  lat : Option ℚ
  lon : Option ℚ
  altM : Option ℚ
  velEast : Option ℚ
  velNorth : Option ℚ
  timestampMs : Option ℤ
  altitudeFixed : Bool

/-- A queue entry: the solver input, with what else rides on it. -/
structure Item where
  sIn : SolverInput
  enqueuedAt : Option ℚ := none
  followKey : Bool := false
  chi2PerDof : Option ℚ := none
  cvEpochs : Bool := false
  trackPairIds : List (List String) := []

/-- All that an item's processing reads besides the item and the stores it
writes: settings, the solver pool, the nodes, the other lanes, and the clock each
time it is read. `details` is the rest of the result the pool gave for an input. -/
structure World (γ : Type) where
  settings : Settings := {}
  gates : GateSettings := {}
  resolve : ResolveSettings := {}
  publishing : Config
  nodeCfgs : String → Option NodeConfig
  nodeGeometries : String → Option γ
  predictObservation : γ → ℚ → ℚ → ℚ → ℚ → ℚ → Except String (ℚ × ℚ)
  solveFn : SolveFn
  multistartFn : SolverInput → List ℚ → Except String (Option SolveResult)
  selectFn : SolverInput → Except String (Option (List String))
  consensusCentroid : SolverInput → Option ℚ × Option ℚ
  details : SolverInput → SolveResult → SolveDetails
  fitConstantVelocity : SolverInput → Bool → Except String (Option CvFit)
  beamParams : String → Option BeamParams
  bearingDeg : ℚ → ℚ → ℚ → ℚ → ℚ
  bistaticDifferentialKm : ℚ → ℚ → ℚ → ℚ → ℚ → ℚ → ℚ
  learnedFov : String → Option Fov
  contributingTracks : List ContributingTrack
  adsbFix : Option AdsbFix
  lastFollowPublish : Dict String ℚ
  wasDropped : String → Bool
  dequeuedS : ℚ
  admittedS : ℚ
  claimedS : ℚ
  archivedS : ℚ
  publishedS : ℚ

def World.geodesy (W : World γ) : Geodesy := W.publishing.smoother.geodesy

section
variable (W : World γ)

/-! ### Before the solve -/

/-- How far an established dark entry, moved to the input's epoch, is from its guess. -/
def donorDistance (ctx : KeyingContext) (lat lon tsS : ℚ) (key : String) (entry : TrackEntry) : Option (ℚ × ℚ) :=
  if !key.startsWith darkPrefix ∨ max entry.maxNNodes entry.nNodes < W.gates.n2AltInheritMinNodes then none
  else
    let dt := tsS - entry.tsS
    if dt < 0 ∨ W.gates.n2AltInheritMaxAgeS < dt then none
    else match entry.altM, entry.lat, entry.lon with
      | some altM, some eLat, some eLon =>
          let (dLat, dLon) := deadReckon ctx key entry eLat eLon dt
          let d := ctx.geodesy.haversineKm lat lon dLat dLon
          if d < W.gates.n2AltInheritKm then some (d, altM) else none
      | _, _, _ => none

/-- The altitude, in kilometres, that a two-node input takes over from the
nearest established dark entry. -/
def inheritKeyAltitude (s : Stores) (sIn : SolverInput) : Option ℚ :=
  match sIn.initialGuess with
  | none => none
  | some ig =>
      if sIn.anchorKey.any (· ≠ "") then none
      else match ig.lat, ig.lon, sIn.timestampMs with
        | some lat, some lon, some ts =>
            if ts = 0 then none
            else
              let donors := s.tracks.items.filterMap fun item =>
                donorDistance W (keyingContext W.publishing s W.lastFollowPublish) lat lon (ts / 1000) item.1 item.2
              (firstMin Prod.fst donors).map fun donor => Rounding.roundTo 3 (donor.2 / 1000)
        | _, _, _ => none

def backend (s : Stores) : Backend γ where
  geodesy := W.geodesy
  nodeGeometries := W.nodeGeometries
  predictObservation := W.predictObservation
  solveFn := W.solveFn
  multistartFn := W.multistartFn
  selectFn := W.selectFn
  inheritedAltKm := inheritKeyAltitude W s

/-- The consensus stage ran on this input and its selection was acted on. -/
def consensusSelected (S : Settings) (B : Backend γ) (sIn aligned : SolverInput) : Bool :=
  aligned.initialGuess.isSome && decide (3 ≤ sIn.nNodes) && decide (S.consensusMode = .active) &&
    match B.selectFn aligned with
    | .ok (some nodeIds) => decide (S.consensusMinNodes ≤ nodeIds.length)
    | _ => false

/-! ### The trim -/

/-- The nodes a trim round keeps: those not above the threshold, or not the worst
one, but never fewer than the floor. -/
def trimSurvivors (rmsDelay : ℚ) (residuals : List (String × ℚ)) : List String :=
  let beyond := (residuals.filter fun r => decide (trimResidFactor * rmsDelay < r.2)).map Prod.fst
  let candidates := if beyond = [] then ((firstMin (fun r => -r.2) residuals).map Prod.fst).toList else beyond
  let survivors := (residuals.filter fun r => decide (r.1 ∉ candidates)).map Prod.fst
  if survivors.length < trimMinNodes then
    ((residuals.insertionSort fun a b => a.2 ≤ b.2).take trimMinNodes).map Prod.fst
  else survivors

def trimAndResolve (S : Settings) (B : Backend γ) : Nat → SolverInput → SolveResult → SolverInput × SolveResult
  | 0, sIn, result => (sIn, result)
  | rounds + 1, sIn, result =>
      let rmsDelay := result.rmsDelay.getD 0
      if rmsDelay ≤ S.rmsDelayMaxUs ∨ result.nNodes.getD 0 ≤ trimMinNodes ∨ result.perNodeDelayResUs = [] then
        (sIn, result)
      else
        let survivors := trimSurvivors rmsDelay result.perNodeDelayResUs
        if result.perNodeDelayResUs.all fun r => decide (r.1 ∈ survivors) then (sIn, result)
        else
          let sNext := filterSInToNodes sIn survivors
          match solveBestAltitude S.altitude B.solveFn B.multistartFn sNext with
          | .ok (some next) => if next.success then trimAndResolve S B rounds sNext next else (sIn, result)
          | _ => (sIn, result)

/-! ### The gates -/

inductive Verdict where
  | pass
  | reject
  /-- A result without a position raises where it is asked for one. -/
  | raise
deriving DecidableEq, Repr

def rmsDopplerMaxHz (nNodes : Nat) : ℚ :=
  if nNodes = 3 then W.gates.n3RmsDopplerMaxHz else W.gates.rmsDopplerMaxHz

def fovGateVerdict (fov : Fov) (nNodes : Option Nat) (brg distKm : ℚ) (rangeRulePass : Bool) : Bool :=
  if nNodes = some 2 then fov.contains brg distKm else rangeRulePass || fov.contains brg distKm

/-- `abs((brg - azimuth + 180) % 360 - 180)`. -/
def bearingOffset (brg azimuth : ℚ) : ℚ :=
  let turned := brg - azimuth + 180
  |turned - 360 * ⌊turned / 360⌋ - 180|

def beamNodeFails (nNodes : Option Nat) (lat lon : ℚ) (nid : String) (p : BeamParams) : Bool :=
  let rangeKm := W.geodesy.haversineKm p.rxLat p.rxLon lat lon
  let rangeFail := match p.maxBistaticRangeKm.filter (· ≠ 0), p.tx with
    | some limit, some (txLat, txLon) =>
        decide (limit < W.bistaticDifferentialKm txLat txLon p.rxLat p.rxLon lat lon)
    | _, _ => decide (p.maxRangeKm < rangeKm)
  let brg := W.bearingDeg p.rxLat p.rxLon lat lon
  let bearingFail := p.beamAzimuthDeg.any fun azimuth =>
    decide (nNodes = some 2) && decide (p.beamWidthDeg / 2 < bearingOffset brg azimuth)
  match W.gates.fovMode, W.learnedFov nid with
  | .active, some fov => !fovGateVerdict fov nNodes brg rangeKm (!rangeFail)
  | _, _ => rangeFail || bearingFail

def beamGate (result : SolveResult) (contributingNodeIds : List String) : Verdict :=
  let placed := contributingNodeIds.filterMap fun nid => (W.beamParams nid).map fun p => (nid, p)
  if placed = [] then .pass
  else match result.lat, result.lon with
    | some lat, some lon =>
        if placed.any fun node => beamNodeFails W result.nNodes lat lon node.1 node.2 then .reject else .pass
    | _, _ => .raise

def isAnchoredN2 (sIn : SolverInput) (result : SolveResult) : Bool :=
  sIn.anchorKey.any (· ≠ "") && decide ((result.nNodes.filter (· ≠ 0)).getD sIn.nNodes = 2)

def displacementCapKm (sIn : SolverInput) (result : SolveResult) (dark : Bool) : ℚ :=
  if isAnchoredN2 sIn result then W.gates.darkFollowN2MaxDispKm
  else if dark then W.gates.maxDisplacementKmDark else W.gates.maxDisplacementKm

/-- `centroid` is the consensus stage's when its selection was acted on. -/
def displacementGate (sIn : SolverInput) (centroid : Option (Option ℚ × Option ℚ)) (result : SolveResult) : Verdict :=
  match sIn.initialGuess with
  | none => .pass
  | some ig =>
      let (anchorLat, anchorLon) := centroid.getD (ig.lat, ig.lon)
      match anchorLat.filter (· ≠ 0), anchorLon.filter (· ≠ 0) with
      | some aLat, some aLon => match result.lat, result.lon with
          | some lat, some lon =>
              if displacementCapKm W sIn result (isDarkSolverInput sIn) < W.geodesy.haversineKm aLat aLon lat lon
              then .reject else .pass
          | _, _ => .raise
      | _, _ => .pass

/-! ### The confirmation of a two-node solve -/

/-- A track pair's best-ever fit and when it was claimed, for each track. -/
abbrev PairClaims := Dict String (ℚ × ℚ)

/-- Expire, compare, record. -/
def claimDecision (claims : PairClaims) (trackIds : List String) (chi2 now ttlS : ℚ) : Bool × PairClaims :=
  let live := claims.filter fun _ held => decide (now - held.2 ≤ ttlS)
  if trackIds.any fun tid => (live.get? tid).any fun held => decide (held.1 < chi2) then (false, live)
  else (true, trackIds.foldl (fun held tid => held.insert tid (chi2, now)) live)

def claimTrackPair (item : Item) (claims : PairClaims) (chi2 : ℚ) : Bool × PairClaims :=
  if item.trackPairIds = [] then (true, claims)
  else claimDecision claims item.trackPairIds.flatten chi2 W.claimedS W.gates.trackClaimTtlS

/-- The fit over the item's epochs, if it has any and the fit converges. -/
def resolveCvFit (item : Item) (sIn : SolverInput) (fixAltitude : Bool) : Option CvFit :=
  if !item.cvEpochs then none
  else match W.fitConstantVelocity sIn fixAltitude with
    | .ok (some fit) => if fit.success then some fit else none
    | _ => none

def resolveN2Chi2 (item : Item) (sIn : SolverInput) : Option ℚ :=
  match item.chi2PerDof with
  | some chi2 => some chi2
  | none => (resolveCvFit W item sIn false).bind CvFit.chi2PerDof

/-- The input follows a live dark entry with enough solves behind it. -/
def n2AnchorAdmits (s : Stores) (sIn : SolverInput) : Bool :=
  W.gates.darkFollowN2Admit && sIn.anchorKey.any fun anchorKey =>
    anchorKey.startsWith darkPrefix && (s.tracks.get? anchorKey).any fun rec =>
      decide (W.gates.darkFollowMinSolves ≤ rec.solveCount)

/-- The fit's position in place of the single epoch's; `none` where a result
without a position raises. -/
def applyN2FitPosition (item : Item) (sIn : SolverInput) (timestampMs : ℤ) (result : SolveResult) : Option SolveResult :=
  if !W.gates.n2PublishFitPosition then some result
  else match resolveCvFit W item sIn W.gates.n2FitFixAltitude with
    | none => some result
    | some fit => match fit.lat, fit.lon, fit.altM with
        | some lat, some lon, some altM =>
            if fit.nEpochs.getD 0 < n2ConfirmMinEpochs then some result
            else
              let fitTs := fit.timestampMs.getD 0
              let (lat, lon) :=
                if 0 < fitTs ∧ 0 < timestampMs ∧ fitTs ≠ timestampMs then
                  let dtS : ℚ := (timestampMs - fitTs) / 1000
                  W.geodesy.offsetLatlonM lat lon (fit.velEast.getD 0 * dtS) (fit.velNorth.getD 0 * dtS)
                else (lat, lon)
              match result.lat, result.lon with
              | some _, some _ => some { result with
                  lat := some lat
                  lon := some lon
                  altM := if fit.altitudeFixed then some altM else result.altM }
              | _, _ => none
        | _, _, _ => some result

end

end Retina.Solver

/-! The arbitration between pairings of single-node tracks, over whole runs. The
store keeps one score for a track, the last one accepted on it; while it is live
it is no worse than any accepted before it, so a pairing that gets past it gets
past them all. -/
namespace Retina.Solver
open Runs

/-- A call of `claim_decision`. -/
structure PairCall where
  trackIds : List String
  chi2 : ℚ
  now : ℚ
deriving DecidableEq, Repr

/-- The store, beside the calls so far and what each was answered. -/
structure TracedClaims where
  claims : PairClaims
  log : List (PairCall × Bool)

def TracedClaims.start : TracedClaims := ⟨.empty, []⟩

/-- The claims that have not expired. -/
def liveClaims (ttlS now : ℚ) (claims : PairClaims) : PairClaims := claims.filter fun _ held => decide (now - held.2 ≤ ttlS)

variable {ttlS : ℚ}

def pairStep (ttlS : ℚ) (t : TracedClaims) (c : PairCall) : TracedClaims :=
  let answer := claimDecision t.claims c.trackIds c.chi2 c.now ttlS
  ⟨answer.2, t.log ++ [(c, answer.1)]⟩

/-- The clock does not run backwards. -/
def Onward (t : TracedClaims) (c : PairCall) : Prop := ∀ entry ∈ t.log, entry.1.now ≤ c.now

instance (t : TracedClaims) (c : PairCall) : Decidable (Onward t c) := inferInstanceAs (Decidable (∀ entry ∈ t.log, _))

/-- An accepted pairing fits no worse than any accepted within the lifetime on a track it names, and a refused one leaves
the claims that are live as they were. -/
structure BestFitFirst (ttlS : ℚ) (t : TracedClaims) (c : PairCall) : Prop where
  accepted : (claimDecision t.claims c.trackIds c.chi2 c.now ttlS).1 = true → ∀ entry ∈ t.log, entry.2 = true →
    c.now - entry.1.now ≤ ttlS → (∃ tid ∈ c.trackIds, tid ∈ entry.1.trackIds) → c.chi2 ≤ entry.1.chi2
  refused : (claimDecision t.claims c.trackIds c.chi2 c.now ttlS).1 = false →
    (claimDecision t.claims c.trackIds c.chi2 c.now ttlS).2 = liveClaims ttlS c.now t.claims

/-- The score held for a track stands for an accepted call: it is no worse, and no older. -/
def StandsFor (held : ℚ × ℚ) (c : PairCall) : Prop := held.1 ≤ c.chi2 ∧ c.now ≤ held.2

/-- Whatever was accepted and could still be live has a score that stands for it on each of its tracks. -/
def Remembers (ttlS : ℚ) (t : TracedClaims) : Prop :=
  ∀ entry ∈ t.log, entry.2 = true → ∀ tid ∈ entry.1.trackIds, (∀ later ∈ t.log, later.1.now - entry.1.now ≤ ttlS) →
    ∃ held, t.claims.get? tid = some held ∧ StandsFor held entry.1

/-! ### One decision -/

/-- A better score is held for one of the tracks. -/
def outbid (live : PairClaims) (trackIds : List String) (chi2 : ℚ) : Bool :=
  trackIds.any fun tid => (live.get? tid).any fun held => decide (held.1 < chi2)

theorem claimDecision_eq (claims : PairClaims) (trackIds : List String) (chi2 now : ℚ) :
    claimDecision claims trackIds chi2 now ttlS =
      if outbid (liveClaims ttlS now claims) trackIds chi2 then (false, liveClaims ttlS now claims)
      else (true, trackIds.foldl (fun held tid => held.insert tid (chi2, now)) (liveClaims ttlS now claims)) := rfl

theorem not_outbid_iff (live : PairClaims) (trackIds : List String) (chi2 : ℚ) :
    outbid live trackIds chi2 = false ↔ ∀ tid ∈ trackIds, ∀ held, live.get? tid = some held → chi2 ≤ held.1 := by
  rw [outbid, List.any_eq_false]
  refine forall₂_congr fun tid _ => ?_
  cases live.get? tid <;> simp

theorem claimDecision_accepted_iff (claims : PairClaims) (c : PairCall) :
    (claimDecision claims c.trackIds c.chi2 c.now ttlS).1 = true ↔
      ∀ tid ∈ c.trackIds, ∀ held, (liveClaims ttlS c.now claims).get? tid = some held → c.chi2 ≤ held.1 := by
  rw [← not_outbid_iff, claimDecision_eq]
  cases outbid (liveClaims ttlS c.now claims) c.trackIds c.chi2 <;> simp

theorem claimDecision_refused (refused : (claimDecision claims trackIds chi2 now ttlS).1 = false) :
    (claimDecision claims trackIds chi2 now ttlS).2 = liveClaims ttlS now claims := by
  rw [claimDecision_eq] at refused ⊢
  split
  · rfl
  · rw [if_neg ‹_›] at refused
    cases refused

/-- An accepted call holds its tracks, and the others are held as they were while they live. -/
theorem claimDecision_accepted (accepted : (claimDecision claims trackIds chi2 now ttlS).1 = true) (tid : String) :
    (claimDecision claims trackIds chi2 now ttlS).2.get? tid =
      if tid ∈ trackIds then some (chi2, now) else (liveClaims ttlS now claims).get? tid := by
  rw [claimDecision_eq] at accepted ⊢
  split
  · rw [if_pos ‹_›] at accepted
    cases accepted
  · exact Dict.get?_foldl_insert_const trackIds (chi2, now) _ tid

theorem get?_liveClaims (found : claims.get? tid = some held) (young : now - held.2 ≤ ttlS) :
    (liveClaims ttlS now claims).get? tid = some held := by
  rw [liveClaims, Dict.get?_filter, found]
  simp [Option.filter, young]

/-- What stands for a call that may still be live is live. -/
theorem StandsFor.live (stands : StandsFor held entry) (young : now - entry.now ≤ ttlS) : now - held.2 ≤ ttlS := by
  have noOlder := stands.2
  linarith

/-! ### Runs -/

theorem Remembers.held (remembers : Remembers ttlS t) (onward : Onward t c) (member : entry ∈ t.log)
    (accepted : entry.2 = true) (named : tid ∈ entry.1.trackIds) (young : c.now - entry.1.now ≤ ttlS) :
    ∃ held, (liveClaims ttlS c.now t.claims).get? tid = some held ∧ StandsFor held entry.1 := by
  have recent : ∀ later ∈ t.log, later.1.now - entry.1.now ≤ ttlS := by
    intro later listed
    have before := onward later listed
    linarith
  obtain ⟨held, found, stands⟩ := remembers entry member accepted tid named recent
  exact ⟨held, get?_liveClaims found (stands.live young), stands⟩

theorem remembers_pairStep (remembers : Remembers ttlS t) (onward : Onward t c) : Remembers ttlS (pairStep ttlS t c) := by
  intro entry member accepted tid named recent
  have young : c.now - entry.1.now ≤ ttlS := recent (c, (claimDecision t.claims c.trackIds c.chi2 c.now ttlS).1) (by simp [pairStep])
  rcases List.mem_append.mp member with old | new
  · obtain ⟨held, found, stands⟩ := remembers.held onward old accepted named young
    cases answer : (claimDecision t.claims c.trackIds c.chi2 c.now ttlS).1 with
    | false => exact ⟨held, by rw [pairStep, claimDecision_refused answer, found], stands⟩
    | true =>
      rw [pairStep, claimDecision_accepted answer]
      by_cases taken : tid ∈ c.trackIds
      · have bound := (claimDecision_accepted_iff t.claims c).mp answer tid taken held found
        exact ⟨(c.chi2, c.now), if_pos taken, bound.trans stands.1, onward entry old⟩
      · exact ⟨held, by rw [if_neg taken, found], stands⟩
  · obtain rfl := List.mem_singleton.mp new
    rw [pairStep, claimDecision_accepted accepted]
    exact ⟨(c.chi2, c.now), if_pos named, le_refl _, le_refl _⟩

theorem bestFitFirst_of_remembers (remembers : Remembers ttlS t) (onward : Onward t c) : BestFitFirst ttlS t c := by
  refine ⟨fun accepted entry member won young => ?_, claimDecision_refused⟩
  rintro ⟨tid, here, there⟩
  obtain ⟨held, found, stands⟩ := remembers.held onward member won there young
  exact ((claimDecision_accepted_iff t.claims c).mp accepted tid here held found).trans stands.1

/-- Over every sequence of calls whose clock does not run backwards. -/
theorem arbitration_best_fit_first (ttlS : ℚ) (calls : List PairCall) (onward : Along (pairStep ttlS) Onward .start calls) :
    Along (pairStep ttlS) (BestFitFirst ttlS) .start calls :=
  along_of_invariant (fun _ _ remembers here => remembers_pairStep remembers here)
    (fun _ _ remembers here => bestFitFirst_of_remembers remembers here) (fun _ none_ => nomatch none_) onward

/-- The middle call is outbid, and the last takes both tracks over. -/
theorem arbitration_of_three :
    Along (pairStep 60) (BestFitFirst 60) .start [⟨["a", "b"], 2, 0⟩, ⟨["b", "c"], 3, 10⟩, ⟨["b", "c"], 1, 20⟩] :=
  arbitration_best_fit_first 60 _ (by decide +kernel)

end Retina.Solver
