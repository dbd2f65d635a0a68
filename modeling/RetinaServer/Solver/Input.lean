import RetinaServer.Library.Dict
import RetinaServer.Library.Rounding
import RetinaServer.Library.Selection
import RetinaServer.Feed.Entry
import Mathlib.Data.List.Sort
import Mathlib.Data.List.Dedup
import Mathlib.Data.String.Basic

/-! Solver inputs and results, and the altitude search every solve goes through.
The least-squares solver itself is a parameter. -/
namespace Retina.Solver

structure Measurement where
  nodeId : String
  delayUs : ℚ
  dopplerHz : Option ℚ
  snr : Option ℚ
  tS : Option ℚ
deriving DecidableEq, Repr

/-- A measurement the association round paired but left out of the input. -/
structure PoolMeasurement where
  nodeId : String
  delayUs : Option ℚ
  dopplerHz : Option ℚ
  snr : Option ℚ
  tS : Option ℚ
  trackId : Option String
deriving DecidableEq, Repr

structure InitialGuess where
  lat : Option ℚ
  lon : Option ℚ
  altKm : Option ℚ
deriving DecidableEq, Repr

structure SolverInput where
  measurements : List Measurement
  nNodes : Nat
  timestampMs : Option ℤ
  trackIds : List String
  trackIdsByNode : Dict String (List String)
  initialGuess : Option InitialGuess
  initialVelocity : Option (ℚ × Option ℚ)
  adsbHex : Option String
  anchorKey : Option String
  poolNNodes : Option Nat
  poolMeasurements : List PoolMeasurement
deriving DecidableEq

structure SolveResult where
  success : Bool
  lat : Option ℚ
  lon : Option ℚ
  altM : Option ℚ
  velEast : Option ℚ
  velNorth : Option ℚ
  nNodes : Option Nat
  rmsDelay : Option ℚ
  perNodeDelayResUs : List (String × ℚ)
deriving DecidableEq, Repr

structure NodeConfig where
  fcHz : Option ℚ
  FC : Option ℚ

/-- Six hexadecimal digits, with a tilde allowed in front. -/
def isTransponderHex (hexCode : String) : Bool :=
  let digits := match hexCode.toList with
    | '~' :: rest => rest
    | chars => chars
  decide (digits.length = 6) && digits.all fun c => c.isDigit || ('a' ≤ c && c ≤ 'f')

def isDarkSolverInput (sIn : SolverInput) : Bool := !sIn.adsbHex.any isTransponderHex

/-- A call into the solver pool: an error for an exception, `none` for no solve. -/
abbrev SolveFn := SolverInput → Except String (Option SolveResult)

inductive AltMode where
  | sweep
  | free
deriving DecidableEq, Repr

structure AltitudeSettings where
  altMode : AltMode := .sweep
  freeAltStarts : Nat := 1

def solverAltLayersKm : List ℚ := [3 / 2, 3, 5, 7, 9, 11]

def freeAltMinNodes : Nat := 3

structure Sweep where
  best : Option (SolveResult × ℚ)
  lastExc : Option String

def sweepStep (sIn : SolverInput) (solveFn : SolveFn) (sweep : Sweep) (altKm : ℚ) : Sweep :=
  match solveFn { sIn with initialGuess := sIn.initialGuess.map fun g => { g with altKm := some altKm } } with
  | .error exc => { sweep with lastExc := some exc }
  | .ok none => sweep
  | .ok (some result) =>
      -- A result without a residual ranks as infinite and is never the best.
      match result.success, result.rmsDelay with
      | true, some rms => if sweep.best.all (fun held => decide (rms < held.2))
          then { sweep with best := some (result, rms) } else sweep
      | _, _ => sweep

def sweepAltitudes (sIn : SolverInput) (solveFn : SolveFn) (layersKm : List ℚ) :
    Except String (Option SolveResult) :=
  let sweep := layersKm.foldl (sweepStep sIn solveFn) ⟨none, none⟩
  match sweep.best, sweep.lastExc with
  | some (result, _), _ => .ok (some result)
  | none, some exc => .error exc
  | none, none => .ok none

def freeAltStarts (settings : AltitudeSettings) (igAltKm : Option ℚ) (layers : List ℚ) : List ℚ :=
  let n := max 1 (min settings.freeAltStarts layers.length)
  let alt := igAltKm.getD 7
  match Selection.firstMin (fun i => |layers.getD i 0 - alt|) (List.range layers.length) with
  | none => []
  | some nearest =>
      let lo := min (nearest - (n - 1) / 2) (layers.length - n)
      (layers.drop lo).take n

def solveBestAltitude (settings : AltitudeSettings) (solveFn : SolveFn)
    (multistartFn : SolverInput → List ℚ → Except String (Option SolveResult)) (sIn : SolverInput) :
    Except String (Option SolveResult) :=
  let igAlt := sIn.initialGuess.bind InitialGuess.altKm
  let layers := match igAlt with
    | some alt => if alt ∈ solverAltLayersKm then solverAltLayersKm
        else ((Rounding.roundTo 3 alt :: solverAltLayersKm).dedup.insertionSort (· ≤ ·))
    | none => solverAltLayersKm
  let nMeas := (sIn.measurements.map Measurement.nodeId).dedup.length
  if settings.altMode = .free ∧ freeAltMinNodes ≤ nMeas then
    multistartFn sIn (freeAltStarts settings igAlt layers)
  else sweepAltitudes sIn solveFn layers

end Retina.Solver
