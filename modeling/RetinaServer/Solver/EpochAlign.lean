import RetinaServer.Solver.Input
import Mathlib.Data.List.MinMax
import Mathlib.Tactic.Ring
import Mathlib.Tactic.FieldSimp

/-! Dead reckoning of every delay of an input onto its newest measurement's
epoch. It is all or nothing, and it leaves each measurement's own time as it was. -/
namespace Retina.Solver
open Rounding

def delayRateHzToUsPerS : ℚ := 1000000

/-- `cfg.get("fc_hz", cfg.get("FC"))`, where zero is no carrier. -/
def carrier (nodeCfgs : String → Option NodeConfig) (nodeId : String) : Option ℚ :=
  ((nodeCfgs nodeId).bind fun cfg => cfg.fcHz.or cfg.FC).filter fun fcHz => decide (fcHz ≠ 0)

/-- A measurement's time and the rate of its delay, when both can be had. -/
def epochRate (nodeCfgs : String → Option NodeConfig) (m : Measurement) : Option (ℚ × ℚ) :=
  match m.tS, m.dopplerHz, carrier nodeCfgs m.nodeId with
  | some tS, some doppler, some fcHz => some (tS, -doppler * delayRateHzToUsPerS / fcHz)
  | _, _, _ => none

def newest (times : List ℚ) : ℚ := times.max?.getD 0

def oldest (times : List ℚ) : ℚ := times.min?.getD 0

structure EpochMeta where
  epochAligned : Bool
  epochSkewS : Option ℚ
deriving DecidableEq, Repr

def alignMeasurementEpochs (sIn : SolverInput) (nodeCfgs : String → Option NodeConfig) :
    SolverInput × EpochMeta :=
  if sIn.measurements.length < 2 then (sIn, ⟨false, none⟩)
  else match sIn.measurements.mapM (epochRate nodeCfgs) with
    | none => (sIn, ⟨false, none⟩)
    | some rates =>
        let t0 := newest (rates.map Prod.fst)
        let skewS := t0 - oldest (rates.map Prod.fst)
        let aligned := sIn.measurements.zipWith
          (fun m (tS, rate) => { m with delayUs := m.delayUs + rate * (t0 - tS) }) rates
        ({ sIn with
            measurements := aligned
            timestampMs := sIn.timestampMs.map fun _ => roundHalfEven (t0 * 1000) },
          ⟨true, some (roundTo 3 skewS)⟩)

def epochTimes (ms : List Measurement) : List ℚ := ms.filterMap Measurement.tS

/-- `m` with its delay carried to `t0` at its own rate. -/
def carriedTo (nodeCfgs : String → Option NodeConfig) (t0 : ℚ) (m : Measurement) : Measurement :=
  match epochRate nodeCfgs m with
  | some (tS, rate) => { m with delayUs := m.delayUs + rate * (t0 - tS) }
  | none => m

/-- Every measurement has a time, a Doppler shift and a carrier. -/
def Alignable (nodeCfgs : String → Option NodeConfig) (ms : List Measurement) : Prop :=
  ∀ m ∈ ms, (epochRate nodeCfgs m).isSome

instance (nodeCfgs : String → Option NodeConfig) (ms : List Measurement) :
    Decidable (Alignable nodeCfgs ms) :=
  inferInstanceAs (Decidable (∀ m ∈ ms, (epochRate nodeCfgs m).isSome))

/-- The alignment runs. -/
def Aligns (nodeCfgs : String → Option NodeConfig) (ms : List Measurement) : Prop :=
  2 ≤ ms.length ∧ Alignable nodeCfgs ms

instance (nodeCfgs : String → Option NodeConfig) (ms : List Measurement) :
    Decidable (Aligns nodeCfgs ms) :=
  inferInstanceAs (Decidable (_ ∧ _))

variable {nodeCfgs : String → Option NodeConfig}

theorem epochRate_eq_some_iff (m : Measurement) (tS rate : ℚ) :
    epochRate nodeCfgs m = some (tS, rate) ↔
      m.tS = some tS ∧ ∃ doppler fcHz, m.dopplerHz = some doppler ∧ carrier nodeCfgs m.nodeId = some fcHz ∧
        rate = -doppler * delayRateHzToUsPerS / fcHz := by
  simp only [epochRate]
  split
  · rename_i time doppler fcHz timed shifted carried
    constructor
    · intro same
      obtain ⟨rfl, rfl⟩ := Prod.mk.inj (Option.some.inj same)
      exact ⟨timed, doppler, fcHz, shifted, carried, rfl⟩
    · rintro ⟨timed', doppler', fcHz', shifted', carried', rfl⟩
      rw [Option.some.inj (timed.symm.trans timed'), Option.some.inj (shifted.symm.trans shifted'),
        Option.some.inj (carried.symm.trans carried')]
  · rename_i incomplete
    constructor
    · intro impossible
      cases impossible
    · rintro ⟨timed, doppler, fcHz, shifted, carried, -⟩
      exact (incomplete tS doppler fcHz timed shifted carried).elim

theorem carrier_ne_zero (carried : carrier nodeCfgs nodeId = some fcHz) : fcHz ≠ 0 := by
  simpa using (Option.filter_eq_some_iff.mp carried).2

/-- With a carrier for its node, a measurement lacks nothing but its own stamp or shift. -/
theorem isSome_epochRate_iff {m : Measurement} (carried : (carrier nodeCfgs m.nodeId).isSome) :
    (epochRate nodeCfgs m).isSome ↔ m.tS.isSome ∧ m.dopplerHz.isSome := by
  obtain ⟨fcHz, found⟩ := Option.isSome_iff_exists.mp carried
  simp only [epochRate]
  rw [found]
  cases m.tS <;> cases m.dopplerHz <;> simp

/-- A delay stands still exactly when the Doppler shift is zero. -/
theorem epochRate_zero_iff (found : epochRate nodeCfgs m = some (tS, rate)) :
    rate = 0 ↔ m.dopplerHz = some 0 := by
  obtain ⟨-, doppler, fcHz, shifted, carried, rfl⟩ := (epochRate_eq_some_iff m tS rate).mp found
  have nonzero := carrier_ne_zero carried
  rw [shifted, Option.some.injEq, div_eq_zero_iff]
  simp [nonzero, delayRateHzToUsPerS]

theorem epochRate_time (found : epochRate nodeCfgs m = some (tS, rate)) : m.tS = some tS :=
  ((epochRate_eq_some_iff m tS rate).mp found).1

@[simp] theorem carriedTo_nodeId (t0 : ℚ) (m : Measurement) :
    (carriedTo nodeCfgs t0 m).nodeId = m.nodeId := by
  simp only [carriedTo]
  split <;> rfl

@[simp] theorem carriedTo_tS (t0 : ℚ) (m : Measurement) : (carriedTo nodeCfgs t0 m).tS = m.tS := by
  simp only [carriedTo]
  split <;> rfl

@[simp] theorem epochRate_carriedTo (t0 : ℚ) (m : Measurement) :
    epochRate nodeCfgs (carriedTo nodeCfgs t0 m) = epochRate nodeCfgs m := by
  simp only [carriedTo]
  split <;> rfl

theorem carriedTo_delay (found : epochRate nodeCfgs m = some (tS, rate)) (t0 : ℚ) :
    (carriedTo nodeCfgs t0 m).delayUs = m.delayUs + rate * (t0 - tS) := by
  simp only [carriedTo, found]

/-- Carrying twice moves the delay over both gaps, each counted from the
measurement's own time. -/
theorem carriedTo_carriedTo_delay (found : epochRate nodeCfgs m = some (tS, rate)) (t0 t1 : ℚ) :
    (carriedTo nodeCfgs t1 (carriedTo nodeCfgs t0 m)).delayUs =
      (carriedTo nodeCfgs t1 m).delayUs + rate * (t0 - tS) := by
  have again : epochRate nodeCfgs (carriedTo nodeCfgs t0 m) = some (tS, rate) := by
    rw [epochRate_carriedTo, found]
  calc (carriedTo nodeCfgs t1 (carriedTo nodeCfgs t0 m)).delayUs
      = m.delayUs + rate * (t0 - tS) + rate * (t1 - tS) := by
        rw [carriedTo_delay again, carriedTo_delay found]
    _ = (carriedTo nodeCfgs t1 m).delayUs + rate * (t0 - tS) := by
        rw [carriedTo_delay found]
        ring

/-- The correction leaves a measurement alone exactly when its delay stands
still or it was taken at the target epoch. -/
theorem carriedTo_eq_self_iff (found : epochRate nodeCfgs m = some (tS, rate)) (t0 : ℚ) :
    carriedTo nodeCfgs t0 m = m ↔ m.dopplerHz = some 0 ∨ m.tS = some t0 := by
  have moved : carriedTo nodeCfgs t0 m = { m with delayUs := m.delayUs + rate * (t0 - tS) } := by
    simp only [carriedTo, found]
  have timed : m.tS = some t0 ↔ tS = t0 := by rw [epochRate_time found, Option.some.injEq]
  rw [← epochRate_zero_iff found, moved, timed]
  constructor
  · intro same
    have still : rate * (t0 - tS) = 0 := by simpa using congrArg Measurement.delayUs same
    rcases mul_eq_zero.mp still with zero | level
    · exact .inl zero
    · exact .inr (sub_eq_zero.mp level).symm
  · rintro (zero | level)
    · simp [zero]
    · simp [level]

/-- A second correction neither adds to nor makes up for a first one. -/
theorem carriedTo_carriedTo_eq_iff (found : epochRate nodeCfgs m = some (tS, rate)) (t0 t1 : ℚ) :
    carriedTo nodeCfgs t1 (carriedTo nodeCfgs t0 m) = carriedTo nodeCfgs t1 m ↔
      carriedTo nodeCfgs t0 m = m := by
  constructor
  · intro same
    have delays := congrArg Measurement.delayUs same
    rw [carriedTo_carriedTo_delay found] at delays
    have still : rate * (t0 - tS) = 0 := by linarith
    simp only [carriedTo, found, still, add_zero]
  · intro same
    rw [same]

theorem mapM_epochRate_eq_none (ms : List Measurement) :
    ms.mapM (epochRate nodeCfgs) = none ↔ ¬ Alignable nodeCfgs ms := by
  induction ms with
  | nil => simp [Alignable]
  | cons m rest ih =>
    have split_alignable : Alignable nodeCfgs (m :: rest) ↔
        (epochRate nodeCfgs m).isSome ∧ Alignable nodeCfgs rest := by
      simp [Alignable]
    rw [split_alignable, List.mapM_cons]
    cases here : epochRate nodeCfgs m with
    | none => simp
    | some rate =>
      cases later : rest.mapM (epochRate nodeCfgs) with
      | none => simpa [here] using ih.mp later
      | some rates => simpa [here, later] using ih

theorem mapM_epochRate_cons {m : Measurement} {rest : List Measurement}
    (found : (m :: rest).mapM (epochRate nodeCfgs) = some rates) :
    ∃ rate others, epochRate nodeCfgs m = some rate ∧ rest.mapM (epochRate nodeCfgs) = some others ∧
      rates = rate :: others := by
  rw [List.mapM_cons] at found
  obtain ⟨rate, here, found⟩ := Option.bind_eq_some_iff.mp found
  obtain ⟨others, later, same⟩ := Option.bind_eq_some_iff.mp found
  exact ⟨rate, others, here, later, (Option.some.inj same).symm⟩

theorem zipWith_rates {ms : List Measurement} (t0 : ℚ) (found : ms.mapM (epochRate nodeCfgs) = some rates) :
    ms.zipWith (fun m (rate : ℚ × ℚ) => { m with delayUs := m.delayUs + rate.2 * (t0 - rate.1) }) rates =
      ms.map (carriedTo nodeCfgs t0) := by
  induction ms generalizing rates with
  | nil => simp
  | cons m rest ih =>
    obtain ⟨rate, others, here, later, rfl⟩ := mapM_epochRate_cons found
    simp [ih later, carriedTo, here]

theorem rates_times {ms : List Measurement} (found : ms.mapM (epochRate nodeCfgs) = some rates) :
    rates.map Prod.fst = epochTimes ms := by
  induction ms generalizing rates with
  | nil =>
    obtain rfl : [] = rates := by simpa using found
    rfl
  | cons m rest ih =>
    obtain ⟨rate, others, here, later, rfl⟩ := mapM_epochRate_cons found
    have timed := epochRate_time (show epochRate nodeCfgs m = some (rate.1, rate.2) from here)
    simp [epochTimes, timed, ih later]

/-- What alignment does to the measurements, in both of its branches. -/
theorem alignMeasurementEpochs_measurements (sIn : SolverInput) :
    (alignMeasurementEpochs sIn nodeCfgs).1.measurements =
      if Aligns nodeCfgs sIn.measurements then
        sIn.measurements.map (carriedTo nodeCfgs (newest (epochTimes sIn.measurements)))
      else sIn.measurements := by
  simp only [alignMeasurementEpochs]
  split
  · rename_i few
    rw [if_neg (fun both => absurd both.1 (by omega))]
  · rename_i several
    split
    · rename_i incomplete
      rw [if_neg (fun both => (mapM_epochRate_eq_none _).mp incomplete both.2)]
    · rename_i rates found
      have alignable : Alignable nodeCfgs sIn.measurements := by
        by_contra incomplete
        rw [(mapM_epochRate_eq_none _).mpr incomplete] at found
        cases found
      rw [if_pos ⟨by omega, alignable⟩, ← rates_times found]
      exact zipWith_rates _ found

end Retina.Solver
