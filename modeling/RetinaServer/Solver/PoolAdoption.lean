import RetinaServer.Solver.EpochAlign

/-! Widening of a narrow dark solve with pool nodes that agree with it. The
input is aligned once before its first solve, and the widened input, which is
built from that aligned one, is aligned again before the re-solve. -/
namespace Retina.Solver
open Selection

inductive ConsensusMode where
  | off
  | shadow
  | active
deriving DecidableEq, Repr

structure Settings where
  solverEpochAlign : Bool := true
  consensusMode : ConsensusMode := .off
  consensusMinNodes : Nat := 3
  rmsDelayMaxUs : ℚ := 3
  adoptPoolEnabled : Bool := true
  adoptDelayGateUs : ℚ := 6
  adoptDopplerGateHz : ℚ := 60
  adoptMaxJumpKm : ℚ := 5
  altitude : AltitudeSettings := {}

/-- What the item's processing calls and does not contain: geodesy, the node
geometries with their forward model, the solver pool, and the altitude of an
established dark key under an input, in kilometres. -/
structure Backend (γ : Type) where
  geodesy : Geodesy
  nodeGeometries : String → Option γ
  predictObservation : γ → ℚ → ℚ → ℚ → ℚ → ℚ → Except String (ℚ × ℚ)
  solveFn : SolveFn
  multistartFn : SolverInput → List ℚ → Except String (Option SolveResult)
  selectFn : SolverInput → Except String (Option (List String))
  inheritedAltKm : SolverInput → Option ℚ

/-- A pool measurement with a delay. -/
structure Candidate extends Measurement where
  trackId : Option String
deriving DecidableEq, Repr

def nodeCount (ms : List Measurement) : Nat := (ms.map Measurement.nodeId).dedup.length

def sortedSet (names : List String) : List String := names.dedup.insertionSort (· ≤ ·)

def filterSInToNodes (sIn : SolverInput) (survivors : List String) : SolverInput :=
  let measurements := sIn.measurements.filter fun m => decide (m.nodeId ∈ survivors)
  let narrowed := { sIn with measurements, nNodes := nodeCount measurements }
  if sIn.trackIdsByNode.items = [] then narrowed
  else
    let survivingByNode := sIn.trackIdsByNode.filter fun nid _ => decide (nid ∈ survivors)
    { narrowed with
      trackIdsByNode := survivingByNode
      trackIds := sortedSet survivingByNode.values.flatten }

def addTrack (byNode : Dict String (List String)) (c : Candidate) : Dict String (List String) :=
  match c.trackId with
  | none => byNode
  | some tid =>
      if tid = "" then byNode
      else
        let ids := (byNode.get? c.nodeId).getD []
        byNode.insert c.nodeId (if tid ∈ ids then ids else ids ++ [tid])

def sInWithAdopted (sIn : SolverInput) (adopted : List Candidate) (first : SolveResult) : SolverInput :=
  let meas := sIn.measurements ++ adopted.map Candidate.toMeasurement
  let byNode := adopted.foldl addTrack sIn.trackIdsByNode
  { sIn with
    measurements := meas
    nNodes := nodeCount meas
    trackIdsByNode := byNode.mapValues fun ids => ids.insertionSort (· ≤ ·)
    trackIds := sortedSet (sIn.trackIds ++ byNode.values.flatten)
    initialGuess := some ⟨first.lat, first.lon, some (first.altM.getD 0 / 1000)⟩
    initialVelocity := match first.velEast with
      | some velEast => some (velEast, first.velNorth)
      | none => sIn.initialVelocity }

def alignIfEnabled (S : Settings) (nodeCfgs : String → Option NodeConfig) (sIn : SolverInput) : SolverInput :=
  if S.solverEpochAlign then (alignMeasurementEpochs sIn nodeCfgs).1 else sIn

/-- The input handed to the re-solve. -/
def widenedInput (S : Settings) (nodeCfgs : String → Option NodeConfig) (sIn : SolverInput)
    (adopted : List Candidate) (first : SolveResult) : SolverInput :=
  alignIfEnabled S nodeCfgs (sInWithAdopted sIn adopted first)

inductive Outcome where
  | nonePassed
  | rejectedSolve
  | rejectedRms
  | rejectedJump
  | widened
  /-- A converged re-solve without a position raises. -/
  | raised
deriving DecidableEq, Repr

/-- `handed` lists the inputs the re-solves were given, in order; the source
returns the other fields. The outcome is `none` when the stage did not apply. -/
structure Adoption where
  result : SolveResult
  sIn : SolverInput
  outcome : Option Outcome
  adoptedNodeIds : List String
  handed : List SolverInput

section
variable (S : Settings) (B : Backend γ) (nodeCfgs : String → Option NodeConfig)

/-- The delay residual of a pool measurement that the solve vouches for. -/
def vouchedResidual (first : SolveResult) (lat lon : ℚ) (c : Candidate) : Option ℚ :=
  match B.nodeGeometries c.nodeId with
  | none => none
  | some geo =>
      match B.predictObservation geo lat lon (first.altM.getD 0 / 1000)
          (first.velEast.getD 0) (first.velNorth.getD 0) with
      | .error _ => none
      | .ok (predDelay, predDoppler) =>
          let dDelay := |c.delayUs - predDelay|
          if S.adoptDelayGateUs < dDelay then none
          else if c.dopplerHz.any fun f => decide (S.adoptDopplerGateHz < |f - predDoppler|) then none
          else some dDelay

def candidates (sIn : SolverInput) : List Candidate :=
  sIn.poolMeasurements.filterMap fun m =>
    if m.nodeId ∈ sIn.measurements.map Measurement.nodeId then none
    else m.delayUs.map fun delayUs => ⟨⟨m.nodeId, delayUs, m.dopplerHz, m.snr, m.tS⟩, m.trackId⟩

/-- The adopted node of largest residual, the earliest of several. -/
def worstAdopted (wide : SolveResult) (predResid : List (String × ℚ)) (adopted : List Candidate) :
    Option Candidate :=
  firstMin (fun c => -((wide.perNodeDelayResUs.lookup c.nodeId).getD
    ((predResid.reverse.lookup c.nodeId).getD 0))) adopted

def attemptWidening (sIn : SolverInput) (first : SolveResult) (lat lon : ℚ)
    (predResid : List (String × ℚ)) : Nat → List Candidate → Adoption
  | retries, adopted =>
    let sWide := widenedInput S nodeCfgs sIn adopted first
    let keep (outcome : Outcome) : Adoption :=
      ⟨first, sIn, some outcome, sortedSet (adopted.map (·.nodeId)), [sWide]⟩
    match solveBestAltitude S.altitude B.solveFn B.multistartFn sWide with
    | .error _ => keep .rejectedSolve
    | .ok none => keep .rejectedSolve
    | .ok (some wide) =>
      if wide.success = false then keep .rejectedSolve
      else if S.rmsDelayMaxUs < wide.rmsDelay.getD 0 then
        match retries with
        | 0 => keep .rejectedRms
        | again + 1 =>
          if adopted.length < 2 then keep .rejectedRms
          else match worstAdopted wide predResid adopted with
            | none => keep .rejectedRms
            | some worst =>
              let rest := adopted.filter fun c => decide (c.nodeId ≠ worst.nodeId)
              let second := attemptWidening sIn first lat lon predResid again rest
              { second with handed := sWide :: second.handed }
      else match wide.lat, wide.lon with
        | some wideLat, some wideLon =>
          if S.adoptMaxJumpKm < B.geodesy.haversineKm lat lon wideLat wideLon then keep .rejectedJump
          else ⟨wide, sWide, some .widened, sortedSet (adopted.map (·.nodeId)), [sWide]⟩
        | _, _ => keep .raised

def adoptPoolNodes (sIn : SolverInput) (result : SolveResult) : Adoption :=
  let unchanged (outcome : Option Outcome) : Adoption := ⟨result, sIn, outcome, [], []⟩
  if !S.adoptPoolEnabled || !isDarkSolverInput sIn || sIn.anchorKey.any (· ≠ "") then unchanged none
  else match sIn.poolNNodes, result.lat, result.lon with
    | some poolN, some lat, some lon =>
      if sIn.poolMeasurements = [] ∨ poolN = 0 ∨ poolN ≤ result.nNodes.getD 0 then unchanged none
      else
        let cands := candidates sIn
        if cands = [] then unchanged none
        else
          let vouched := cands.filterMap fun c => (vouchedResidual S B result lat lon c).map fun d => (c, d)
          if vouched = [] then unchanged (some .nonePassed)
          else attemptWidening S B nodeCfgs sIn result lat lon
            (vouched.map fun v => (v.1.nodeId, v.2)) 1 (vouched.map Prod.fst)
    | _, _, _ => unchanged none

def consensusSelect (sIn : SolverInput) : SolverInput :=
  match B.selectFn sIn with
  | .ok (some nodeIds) =>
      if nodeIds.length < S.consensusMinNodes then sIn
      else if S.consensusMode = .shadow then sIn
      else filterSInToNodes sIn nodeIds
  | _ => sIn

/-- The first solve, with the input as it stands after it. -/
def firstSolve (sIn : SolverInput) : SolverInput × Except String (Option SolveResult) :=
  let aligned := alignIfEnabled S nodeCfgs sIn
  match aligned.initialGuess with
  | none => (aligned, B.solveFn aligned)
  | some guess =>
      if 3 ≤ sIn.nNodes then
        let selected := if S.consensusMode = .off then aligned else consensusSelect S B aligned
        (selected, solveBestAltitude S.altitude B.solveFn B.multistartFn selected)
      else
        let inherited := match B.inheritedAltKm aligned with
          | some altKm => { aligned with initialGuess := some { guess with altKm := some altKm } }
          | none => aligned
        (inherited, B.solveFn inherited)

/-- An item up to the trim: `none` when there is no solve to widen. -/
def solveAndAdopt (sIn : SolverInput) : Option Adoption :=
  match firstSolve S B nodeCfgs sIn with
  | (ready, .ok (some result)) =>
      if result.success then some (adoptPoolNodes S B nodeCfgs ready result) else none
  | _ => none

end

/-! ### What the re-solve is handed -/

/-- The input narrowed to the nodes the consensus stage kept, if it chose any. -/
def keptInput (survivors : Option (List String)) (sIn : SolverInput) : SolverInput :=
  match survivors with
  | none => sIn
  | some nodeIds => filterSInToNodes sIn nodeIds

/-- The measurements of the widened input as the nodes took them. -/
def rawWidened (sIn : SolverInput) (survivors : Option (List String)) (adopted : List Candidate) :
    List Measurement :=
  (keptInput survivors sIn).measurements ++ adopted.map Candidate.toMeasurement

/-- Each measurement is its raw one with the delay carried, at its own rate,
from its own time to the newest time of the set. -/
def AlignedOnce (nodeCfgs : String → Option NodeConfig) (raws ms : List Measurement) : Prop :=
  List.Forall₂ (fun raw m => ∃ tS rate, epochRate nodeCfgs raw = some (tS, rate) ∧
    m = { raw with delayUs := raw.delayUs + rate * (newest (epochTimes raws) - tS) }) raws ms

theorem keptInput_measurements (survivors : Option (List String)) (sIn : SolverInput) :
    (keptInput survivors sIn).measurements =
      sIn.measurements.filter fun m => survivors.all fun nodeIds => decide (m.nodeId ∈ nodeIds) := by
  cases survivors with
  | none => simp [keptInput]
  | some nodeIds =>
    simp only [keptInput, filterSInToNodes, Option.all_some]
    split <;> rfl

variable {nodeCfgs : String → Option NodeConfig}

theorem alignedOnce_iff (raws ms : List Measurement) :
    AlignedOnce nodeCfgs raws ms ↔
      Alignable nodeCfgs raws ∧ ms = raws.map (carriedTo nodeCfgs (newest (epochTimes raws))) := by
  simp only [AlignedOnce]
  generalize newest (epochTimes raws) = t0
  induction raws generalizing ms with
  | nil => simp [Alignable]
  | cons raw rest ih =>
    rw [List.forall₂_cons_left_iff]
    constructor
    · rintro ⟨m, others, ⟨tS, rate, found, rfl⟩, matched, rfl⟩
      obtain ⟨alignable, rfl⟩ := (ih others).mp matched
      refine ⟨List.forall_mem_cons.mpr ⟨by simp [found], alignable⟩, ?_⟩
      simp [carriedTo, found]
    · rintro ⟨alignable, rfl⟩
      obtain ⟨here, later⟩ := List.forall_mem_cons.mp alignable
      obtain ⟨⟨tS, rate⟩, found⟩ := Option.isSome_iff_exists.mp here
      exact ⟨_, _, ⟨tS, rate, found, by simp [carriedTo, found]⟩, (ih _).mpr ⟨later, rfl⟩, rfl⟩

/-- What the first alignment leaves of a measurement. -/
def onceAligned (nodeCfgs : String → Option NodeConfig) (ms : List Measurement) (m : Measurement) :
    Measurement :=
  if Aligns nodeCfgs ms then carriedTo nodeCfgs (newest (epochTimes ms)) m else m

@[simp] theorem onceAligned_nodeId (ms : List Measurement) (m : Measurement) :
    (onceAligned nodeCfgs ms m).nodeId = m.nodeId := by
  simp only [onceAligned]
  split <;> simp

@[simp] theorem onceAligned_tS (ms : List Measurement) (m : Measurement) :
    (onceAligned nodeCfgs ms m).tS = m.tS := by
  simp only [onceAligned]
  split <;> simp

@[simp] theorem epochRate_onceAligned (ms : List Measurement) (m : Measurement) :
    epochRate nodeCfgs (onceAligned nodeCfgs ms m) = epochRate nodeCfgs m := by
  simp only [onceAligned]
  split <;> simp

theorem align_eq_map_onceAligned (sIn : SolverInput) :
    (alignMeasurementEpochs sIn nodeCfgs).1.measurements =
      sIn.measurements.map (onceAligned nodeCfgs sIn.measurements) := by
  rw [alignMeasurementEpochs_measurements]
  by_cases aligns : Aligns nodeCfgs sIn.measurements
  · have same : onceAligned nodeCfgs sIn.measurements =
        carriedTo nodeCfgs (newest (epochTimes sIn.measurements)) := by
      funext m
      simp [onceAligned, aligns]
    rw [if_pos aligns, same]
  · have same : onceAligned nodeCfgs sIn.measurements = id := by
      funext m
      simp [onceAligned, aligns]
    rw [if_neg aligns, same, List.map_id]

/-- Consensus narrows by node alone, so it commutes with the alignment. -/
theorem keptInput_align (survivors : Option (List String)) (sIn : SolverInput) :
    (keptInput survivors (alignMeasurementEpochs sIn nodeCfgs).1).measurements =
      (keptInput survivors sIn).measurements.map (onceAligned nodeCfgs sIn.measurements) := by
  simp only [keptInput_measurements, align_eq_map_onceAligned, List.filter_map, Function.comp_def,
    onceAligned_nodeId]

/-- With fewer than two measurements there is no gap to close. -/
theorem map_carriedTo_of_few (alignable : Alignable nodeCfgs ms) (few : ms.length < 2) :
    ms.map (carriedTo nodeCfgs (newest (epochTimes ms))) = ms := by
  match ms, few with
  | [], _ => rfl
  | [m], _ =>
    obtain ⟨⟨tS, rate⟩, found⟩ := Option.isSome_iff_exists.mp (alignable m (by simp))
    have timed := epochRate_time found
    have still := (carriedTo_eq_self_iff found tS).mpr (.inr timed)
    simpa [epochTimes, timed, newest] using still

/-- Aligning a set of which some members were aligned before gives the raw set
aligned once exactly when the earlier alignment had left those members alone. -/
theorem realign_eq_iff {g : Measurement → Measurement} (kept adopted : List Measurement)
    (alignable : Alignable nodeCfgs (kept ++ adopted))
    (rates : ∀ m, epochRate nodeCfgs (g m) = epochRate nodeCfgs m) (times : ∀ m, (g m).tS = m.tS)
    (again : ∀ m ∈ kept, ∀ t1, carriedTo nodeCfgs t1 (g m) = carriedTo nodeCfgs t1 m ↔ g m = m)
    (sIn : SolverInput) (built : sIn.measurements = kept.map g ++ adopted) :
    (alignMeasurementEpochs sIn nodeCfgs).1.measurements =
        (kept ++ adopted).map (carriedTo nodeCfgs (newest (epochTimes (kept ++ adopted)))) ↔
      ∀ m ∈ kept, g m = m := by
  have sameTimes : epochTimes sIn.measurements = epochTimes (kept ++ adopted) := by
    simp [built, epochTimes, List.filterMap_map, times]
  have sameAlignable : Alignable nodeCfgs sIn.measurements := by
    intro m member
    rw [built, List.mem_append, List.mem_map] at member
    rcases member with ⟨raw, rawMember, rfl⟩ | member
    · rw [rates]
      exact alignable raw (List.mem_append_left _ rawMember)
    · exact alignable m (List.mem_append_right _ member)
  rw [alignMeasurementEpochs_measurements]
  split
  · rw [sameTimes, built, List.map_append, List.map_append, List.map_map]
    rw [List.append_left_inj, List.map_inj_left]
    exact ⟨fun same m member => (again m member _).mp (same m member),
      fun same m member => (again m member _).mpr (same m member)⟩
  · rename_i few
    have short : (kept ++ adopted).length < 2 := by
      have bound := fun long => few ⟨long, sameAlignable⟩
      simpa [built] using bound
    rw [map_carriedTo_of_few alignable short, built, List.append_left_inj]
    simpa using (List.map_inj_left : kept.map g = kept.map id ↔ _)

theorem onceAligned_eq_self_iff (found : epochRate nodeCfgs m = some (tS, rate)) (ms : List Measurement) :
    onceAligned nodeCfgs ms m = m ↔
      (Aligns nodeCfgs ms → m.dopplerHz = some 0 ∨ m.tS = some (newest (epochTimes ms))) := by
  simp only [onceAligned]
  split
  · rename_i aligns
    rw [carriedTo_eq_self_iff found]
    exact ⟨fun level _ => level, fun level => level aligns⟩
  · rename_i aligns
    simp [aligns]

theorem carriedTo_onceAligned_iff (found : epochRate nodeCfgs m = some (tS, rate))
    (ms : List Measurement) (t1 : ℚ) :
    carriedTo nodeCfgs t1 (onceAligned nodeCfgs ms m) = carriedTo nodeCfgs t1 m ↔
      onceAligned nodeCfgs ms m = m := by
  simp only [onceAligned]
  split
  · exact carriedTo_carriedTo_eq_iff found _ t1
  · simp

theorem alignable_iff_stamped (carriers : ∀ m ∈ ms, (carrier nodeCfgs m.nodeId).isSome) :
    Alignable nodeCfgs ms ↔ ∀ m ∈ ms, m.tS.isSome ∧ m.dopplerHz.isSome :=
  forall₂_congr fun m member => isSome_epochRate_iff (carriers m member)

theorem mem_keptInput {survivors : Option (List String)} {sIn : SolverInput}
    (kept : m ∈ (keptInput survivors sIn).measurements) : m ∈ sIn.measurements := by
  rw [keptInput_measurements] at kept
  exact (List.mem_filter.mp kept).1

/-- The widened input carries every delay from its raw value to the newest
epoch of the set exactly when all of its measurements are stamped and shifted,
and the alignment before the first solve had nothing to correct in those the
widened input takes over. -/
theorem widened_aligned_once_iff (S : Settings) (sIn : SolverInput) (survivors : Option (List String))
    (adopted : List Candidate) (first : SolveResult) (aligning : S.solverEpochAlign = true)
    (carriers : ∀ m ∈ sIn.measurements ++ adopted.map Candidate.toMeasurement,
      (carrier nodeCfgs m.nodeId).isSome) :
    AlignedOnce nodeCfgs (rawWidened sIn survivors adopted)
        (widenedInput S nodeCfgs (keptInput survivors (alignIfEnabled S nodeCfgs sIn)) adopted first).measurements ↔
      (∀ m ∈ rawWidened sIn survivors adopted, m.tS.isSome ∧ m.dopplerHz.isSome) ∧
      (2 ≤ sIn.measurements.length → (∀ m ∈ sIn.measurements, m.tS.isSome ∧ m.dopplerHz.isSome) →
        ∀ m ∈ (keptInput survivors sIn).measurements,
          m.dopplerHz = some 0 ∨ m.tS = some (newest (epochTimes sIn.measurements))) := by
  have wide_carriers : ∀ m ∈ rawWidened sIn survivors adopted, (carrier nodeCfgs m.nodeId).isSome := by
    intro m member
    apply carriers
    rcases List.mem_append.mp member with raw | pool
    · exact List.mem_append_left _ (mem_keptInput raw)
    · exact List.mem_append_right _ pool
  have input_carriers : ∀ m ∈ sIn.measurements, (carrier nodeCfgs m.nodeId).isSome :=
    fun m member => carriers m (List.mem_append_left _ member)
  rw [alignedOnce_iff, ← alignable_iff_stamped wide_carriers, ← alignable_iff_stamped input_carriers]
  refine and_congr_right fun alignable => ?_
  have rated (m : Measurement) (kept : m ∈ (keptInput survivors sIn).measurements) :
      ∃ tS rate, epochRate nodeCfgs m = some (tS, rate) := by
    obtain ⟨⟨tS, rate⟩, found⟩ := Option.isSome_iff_exists.mp (alignable m (List.mem_append_left _ kept))
    exact ⟨tS, rate, found⟩
  have wide : widenedInput S nodeCfgs (keptInput survivors (alignIfEnabled S nodeCfgs sIn)) adopted first =
      (alignMeasurementEpochs (sInWithAdopted
        (keptInput survivors (alignMeasurementEpochs sIn nodeCfgs).1) adopted first) nodeCfgs).1 := by
    simp only [widenedInput, alignIfEnabled, aligning, if_true]
  have untouched := realign_eq_iff (g := onceAligned nodeCfgs sIn.measurements)
    (keptInput survivors sIn).measurements (adopted.map Candidate.toMeasurement) alignable
    (epochRate_onceAligned _) (onceAligned_tS _)
    (fun m kept t1 => by
      obtain ⟨tS, rate, found⟩ := rated m kept
      exact carriedTo_onceAligned_iff found _ t1)
    (sInWithAdopted (keptInput survivors (alignMeasurementEpochs sIn nodeCfgs).1) adopted first)
    (by simp only [sInWithAdopted, keptInput_align])
  rw [wide]
  refine untouched.trans ⟨?_, ?_⟩
  · intro still several complete m kept
    obtain ⟨tS, rate, found⟩ := rated m kept
    exact (onceAligned_eq_self_iff found _).mp (still m kept) ⟨several, complete⟩
  · intro level m kept
    obtain ⟨tS, rate, found⟩ := rated m kept
    exact (onceAligned_eq_self_iff found _).mpr fun aligns => level aligns.1 aligns.2 m kept

/-- Every node receives on 100 MHz. -/
def oneCarrier : String → Option NodeConfig := fun _ => some ⟨some 100000000, none⟩

/-- Two closing measurements a second apart, and a third node's in the pool. -/
def twoOfThree : SolverInput where
  measurements := [⟨"a", 10, some 100, none, some 0⟩, ⟨"b", 20, some 100, none, some 1⟩]
  nNodes := 2
  timestampMs := some 1000
  trackIds := ["a1", "b1"]
  trackIdsByNode := ⟨[("a", ["a1"]), ("b", ["b1"])], by decide⟩
  initialGuess := some ⟨some 0, some 0, some 7⟩
  initialVelocity := none
  adsbHex := none
  anchorKey := none
  poolNNodes := some 3
  poolMeasurements := [⟨"c", some 30, some 100, none, some 2, some "c1"⟩]

def thirdNode : Candidate := ⟨⟨"c", 30, some 100, none, some 2⟩, some "c1"⟩

/-- A solve that converges where the pool node's measurement is predicted exactly. -/
def agreeingBackend : Backend Unit where
  geodesy := ⟨fun _ _ _ _ => 0, fun lat lon _ _ => (lat, lon), 1, fun _ => 1⟩
  nodeGeometries := fun _ => some ()
  predictObservation := fun _ _ _ _ _ _ => .ok (30, 100)
  solveFn := fun sIn => .ok (some ⟨true, some 0, some 0, some 7000, some 0, some 0, some sIn.nNodes, some 1, []⟩)
  multistartFn := fun _ _ => .ok none
  selectFn := fun _ => .ok none
  inheritedAltKm := fun _ => none

/-- The second alignment moves node a's delay over its whole gap again, though
the first had already moved it over half of it. -/
theorem older_node_corrected_twice :
    ¬ ∀ w ∈ ((solveAndAdopt {} agreeingBackend oneCarrier twoOfThree).map Adoption.handed).getD [],
      AlignedOnce oneCarrier (rawWidened twoOfThree none [thirdNode]) w.measurements := by
  simp only [alignedOnce_iff]
  decide +kernel

/-- Nothing is corrected twice when the input's measurements share one epoch. -/
theorem simultaneous_input_aligned_once :
    AlignedOnce oneCarrier
      (rawWidened { twoOfThree with measurements := [⟨"a", 10, some 100, none, some 1⟩, ⟨"b", 20, some 100, none, some 1⟩] }
        none [thirdNode])
      (widenedInput {} oneCarrier (keptInput none (alignIfEnabled {} oneCarrier
        { twoOfThree with measurements := [⟨"a", 10, some 100, none, some 1⟩, ⟨"b", 20, some 100, none, some 1⟩] }))
        [thirdNode] ⟨true, some 0, some 0, some 7000, some 0, some 0, some 2, some 1, []⟩).measurements :=
  (widened_aligned_once_iff {} _ none [thirdNode] _ rfl (by decide +kernel)).mpr (by decide +kernel)

section
variable (S : Settings) (B : Backend γ)

theorem attemptWidening_handed (sIn : SolverInput) (first : SolveResult) (lat lon : ℚ)
    (predResid : List (String × ℚ)) (retries : Nat) (adopted : List Candidate) :
    ∀ w ∈ (attemptWidening S B nodeCfgs sIn first lat lon predResid retries adopted).handed,
      ∃ taken, w = widenedInput S nodeCfgs sIn taken first := by
  have alone (taken : List Candidate) :
      ∀ w ∈ [widenedInput S nodeCfgs sIn taken first], ∃ taken, w = widenedInput S nodeCfgs sIn taken first := by
    intro w member
    exact ⟨taken, List.mem_singleton.mp member⟩
  induction retries generalizing adopted with
  | zero =>
    unfold attemptWidening
    dsimp only
    repeat' split
    all_goals exact alone adopted
  | succ again ih =>
    unfold attemptWidening
    dsimp only
    repeat' split
    all_goals try exact alone adopted
    intro w member
    rcases List.mem_cons.mp member with rfl | later
    · exact ⟨adopted, rfl⟩
    · exact ih _ w later

theorem adoptPoolNodes_handed (sIn : SolverInput) (first : SolveResult) :
    ∀ w ∈ (adoptPoolNodes S B nodeCfgs sIn first).handed, ∃ taken, w = widenedInput S nodeCfgs sIn taken first := by
  unfold adoptPoolNodes
  dsimp only
  repeat' split
  all_goals first
    | exact attemptWidening_handed S B sIn first _ _ _ _ _
    | exact fun w member => nomatch member

/-- Ahead of the adoption an input is aligned, perhaps narrowed, and perhaps
given another starting altitude. -/
theorem firstSolve_input (nodeCfgs : String → Option NodeConfig) (sIn : SolverInput) :
    ∃ survivors guess, (firstSolve S B nodeCfgs sIn).1 =
      { keptInput survivors (alignIfEnabled S nodeCfgs sIn) with initialGuess := guess } := by
  unfold firstSolve
  dsimp only
  split
  · exact ⟨none, _, rfl⟩
  · split
    · split
      · exact ⟨none, _, rfl⟩
      · simp only [consensusSelect]
        split
        · split
          · exact ⟨none, _, rfl⟩
          · split
            · exact ⟨none, _, rfl⟩
            · exact ⟨some _, _, rfl⟩
        · exact ⟨none, _, rfl⟩
    · split
      · exact ⟨none, _, rfl⟩
      · exact ⟨none, _, rfl⟩

/-- Every input a re-solve is handed is the widening of the aligned, perhaps
narrowed input by some adopted measurements. -/
theorem handed_is_widened (sIn : SolverInput) (ran : solveAndAdopt S B nodeCfgs sIn = some adoption)
    (handed : w ∈ adoption.handed) :
    ∃ survivors taken first,
      w = widenedInput S nodeCfgs (keptInput survivors (alignIfEnabled S nodeCfgs sIn)) taken first := by
  obtain ⟨survivors, guess, ready⟩ := firstSolve_input S B nodeCfgs sIn
  simp only [solveAndAdopt] at ran
  split at ran
  · rename_i input result solved
    split at ran
    · obtain rfl := Option.some.inj ran
      obtain ⟨taken, rfl⟩ := adoptPoolNodes_handed S B input result w handed
      have input_eq : input = { keptInput survivors (alignIfEnabled S nodeCfgs sIn) with initialGuess := guess } := by
        rw [← ready, solved]
      exact ⟨survivors, taken, result, by rw [input_eq]; rfl⟩
    · cases ran
  · cases ran

end

end Retina.Solver
