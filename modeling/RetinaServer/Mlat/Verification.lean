import RetinaServer.Feed.Entry
import RetinaServer.Frames.Frame
import RetinaServer.Library.Dict
import Mathlib.Data.List.Sort

/-! The multinode solves beside the truth: which trail or transponder each fresh solve is matched with, and by how much it is
off. What is published of these in means and percentiles, and the angles at the nodes, is left out. -/
namespace Retina.Mlat
open Frames (normalizeHexKey validLatlon)

def solveMaxAgeS : ℚ := 120

def matchThresholdKm : ℚ := 12

def altGateM : ℚ := 3000

def truthMaxAgeS : ℚ := 60

structure TrailPoint where
  lat : ℚ
  lon : ℚ
  altM : ℚ
  ts : ℚ
deriving DecidableEq

/-- What `ground_truth_meta` says of an aircraft, with the defaults where it says nothing. -/
structure Meta where
  speedMs : ℚ := 0
  objectType : String := "aircraft"
  isAnomalous : Bool := false
deriving DecidableEq

/-- A trail in the snapshot, which is not empty. -/
structure GtTrail where
  hex : String
  first : TrailPoint
  later : List TrailPoint
  info : Meta
deriving DecidableEq

/-- A result in `multinode_tracks`. -/
structure Solve where
  lat : ℚ
  lon : ℚ
  timestampMs : ℚ
  altM : Option ℚ := none
  velEast : Option ℚ := none
  velNorth : Option ℚ := none
  nNodes : ℕ := 0
  adsbHex : Option String := none
deriving DecidableEq

structure Truth where
  hex : String
  lat : ℚ
  lon : ℚ
  altM : ℚ
  speedMs : ℚ
  objectType : String
  isAnomalous : Bool

/-- A record of a transponder, its speed and altitude as `as_num` reads them. -/
structure LiveRecord where
  lat : Option ℚ
  lon : Option ℚ
  lastSeenMs : ℚ
  gs : ℚ
  altBaro : ℚ

/-- A record of another provider, in SI units where it has them. -/
structure ExternalRecord where
  lat : Option ℚ
  lon : Option ℚ
  velocity : Option ℚ
  altM : Option ℚ
  gs : ℚ
  altBaro : ℚ

/-- What the task reads. `external` are the entries that are young enough to be truth. -/
structure World where
  trails : Dict String (List TrailPoint) := .empty
  info : Dict String Meta := .empty
  live : Dict String LiveRecord := .empty
  external : Dict String ExternalRecord := .empty
  tracks : Dict String Solve := .empty

structure Match where
  solveKey : String
  truth : Truth
  positionErrorKm : ℚ
  velocityErrorMs : ℚ
  altitudeErrorM : ℚ
  nNodes : ℕ
  timestampMs : ℚ

structure Unmatched where
  solveKey : String
  nNodes : ℕ
  nearestTruth : Option (String × ℚ)
  timestampMs : ℚ

structure Verification where
  skipped : Bool := false
  nSolverCycles : ℕ
  nUniqueAircraft : ℕ
  nTruthCandidates : ℕ
  found : List Match := []
  unmatched : List Unmatched := []

/-! ### Truths -/

def GtTrail.last (trail : GtTrail) : TrailPoint := trail.later.getLast?.getD trail.first

/-- `min(trail, key=lambda p: abs(p[3] - ts))`. -/
def GtTrail.closest (trail : GtTrail) (ts : ℚ) : TrailPoint :=
  trail.later.foldl (fun best p => if |p.ts - ts| < |best.ts - ts| then p else best) trail.first

/-- `gt_trails_snapshot`: the trails whose last point is fresh. -/
def gtTrailsSnapshot (now : ℚ) (w : World) : List GtTrail :=
  (w.trails.items.filterMap fun (hex, trail) =>
    match trail with
    | [] => none
    | first :: later => some { hex, first, later, info := (w.info.get? hex).getD {} }).filter
    fun trail => !decide (truthMaxAgeS < now - trail.last.ts)

def feetToM : ℚ := 3048 / 10000

/-- A truth without a trail. -/
def aircraftAt (hex : String) (lat lon altM speedMs : ℚ) : Truth where
  hex := hex
  lat := lat
  lon := lon
  altM := altM
  speedMs := speedMs
  objectType := "aircraft"
  isAnomalous := false

/-- `adsb_truth_pool`: the transponders that no trail covers, then those of other providers. -/
def adsbTruthPool (now : ℚ) (w : World) (seen : List String) : List Truth :=
  let live := w.live.items.filterMap fun (hex, entry) =>
    match entry.lat, entry.lon with
    | some lat, some lon =>
        if hex ∈ seen ∨ truthMaxAgeS < now - entry.lastSeenMs / 1000 then none
        else some (aircraftAt hex lat lon (entry.altBaro * feetToM) (entry.gs * Frames.knotsToMs))
    | _, _ => none
  let seen := seen ++ live.map Truth.hex
  let external := w.external.items.filterMap fun (hex, entry) =>
    match entry.lat, entry.lon with
    | some lat, some lon =>
        if !validLatlon lat lon ∨ hex ∈ seen then none
        else some (aircraftAt hex lat lon (entry.altM.getD (entry.altBaro * feetToM)) (entry.velocity.getD (entry.gs * Frames.knotsToMs)))
    | _, _ => none
  live ++ external

/-! ### Solves -/

def Solve.ts (r : Solve) : ℚ := r.timestampMs / 1000

def Solve.alt (r : Solve) : ℚ := r.altM.getD 0

def freshSolves (now : ℚ) (w : World) : List (String × Solve) :=
  w.tracks.items.filter fun (_, r) =>
    let age := now - r.ts
    !decide (solveMaxAgeS < age ∨ age < 0) && validLatlon r.lat r.lon

/-- What the task calls: the distances and the square root. -/
structure Lib where
  geo : Geodesy
  sqrt : ℚ → ℚ

section
variable (lib : Lib)

/-- The point closest in time is too far in time. -/
def GtTrail.sparse (trail : GtTrail) (ts : ℚ) : Bool := decide (solveMaxAgeS + 30 < |(trail.closest ts).ts - ts|)

/-- The truth's altitude is known and another one. -/
def altGated (solverAltM truthAltM : ℚ) : Bool := decide (100 < solverAltM ∧ 100 < truthAltM ∧ altGateM < |solverAltM - truthAltM|)

def Solve.distKm (r : Solve) (lat lon : ℚ) : ℚ := lib.geo.haversineKm r.lat r.lon lat lon

def Solve.trailDistKm (r : Solve) (trail : GtTrail) : ℚ := r.distKm lib (trail.closest r.ts).lat (trail.closest r.ts).lon

/-- `_min_truth_dist_km`, which asks neither for the altitude nor for what is matched. -/
def minTruthDistKm (snapshot : List GtTrail) (pool : List Truth) (r : Solve) : ℚ :=
  let best := snapshot.foldl (fun best trail => if trail.sparse r.ts then best else min best (r.trailDistKm lib trail)) matchThresholdKm
  pool.foldl (fun best truth => min best (r.distKm lib truth.lat truth.lon)) best

/-- The fresh solves in the order in which they are matched. -/
def solveOrder (now : ℚ) (w : World) (snapshot : List GtTrail) (pool : List Truth) : List (String × Solve) :=
  (freshSolves now w).insertionSort fun a b => minTruthDistKm lib snapshot pool a.2 ≤ minTruthDistKm lib snapshot pool b.2

def GtTrail.truth (trail : GtTrail) (ts : ℚ) : Truth where
  hex := trail.hex
  lat := (trail.closest ts).lat
  lon := (trail.closest ts).lon
  altM := (trail.closest ts).altM
  speedMs := trail.info.speedMs
  objectType := trail.info.objectType
  isAnomalous := trail.info.isAnomalous

/-- A nearer truth takes the place of the one that is held, and the first has to be within the threshold. -/
def nearer (held : Option (Truth × ℚ)) (truth : Truth) (distKm : ℚ) : Option (Truth × ℚ) :=
  if distKm < held.elim matchThresholdKm Prod.snd then some (truth, distKm) else held

/-- The trail's point at the solve's time, where it is one for the solve. -/
def considerTrail (r : Solve) (held : Option (Truth × ℚ)) (trail : GtTrail) : Option (Truth × ℚ) :=
  if trail.sparse r.ts then held
  else if altGated r.alt (trail.closest r.ts).altM then held
  else nearer held (trail.truth r.ts) (r.trailDistKm lib trail)

/-- The trail of the transponder that the solve names. -/
def identityMatch (snapshot : List GtTrail) (matched : List String) (r : Solve) : Option (Truth × ℚ) :=
  let solverHex := normalizeHexKey r.adsbHex
  if solverHex = "" ∨ solverHex ∈ matched then none
  else (snapshot.find? fun trail => decide (trail.hex = solverHex)).bind fun trail => considerTrail lib r none trail

def proximityMatch (snapshot : List GtTrail) (matched : List String) (r : Solve) : Option (Truth × ℚ) :=
  snapshot.foldl (fun held trail => if trail.hex ∈ matched then held else considerTrail lib r held trail) none

def adsbFallback (pool : List Truth) (matched : List String) (r : Solve) : Option (Truth × ℚ) :=
  pool.foldl (fun held truth =>
    if truth.hex ∈ matched then held
    else if altGated r.alt truth.altM then held
    else nearer held truth (r.distKm lib truth.lat truth.lon)) none

def bestTruth (snapshot : List GtTrail) (pool : List Truth) (matched : List String) (r : Solve) : Option (Truth × ℚ) :=
  match identityMatch lib snapshot matched r with
  | some best => some best
  | none =>
      match proximityMatch lib snapshot matched r with
      | some best => some best
      | none => adsbFallback lib pool matched r

/-- The nearest truth at any distance, matched or not. -/
def nearestTruth (snapshot : List GtTrail) (pool : List Truth) (r : Solve) : Option (String × ℚ) :=
  let take (held : Option (String × ℚ)) (hex : String) (d : ℚ) : Option (String × ℚ) :=
    if held.elim true fun nearest => decide (d < nearest.2) then some (hex, d) else held
  let held := snapshot.foldl (fun held trail => if trail.sparse r.ts then held else take held trail.hex (r.trailDistKm lib trail)) none
  pool.foldl (fun held truth => take held truth.hex (r.distKm lib truth.lat truth.lon)) held

def toMatch (key : String) (r : Solve) (truth : Truth) (distKm : ℚ) : Match where
  solveKey := key
  truth := truth
  positionErrorKm := distKm
  velocityErrorMs := |lib.sqrt (r.velEast.getD 0 ^ 2 + r.velNorth.getD 0 ^ 2) - truth.speedMs|
  altitudeErrorM := |r.alt - truth.altM|
  nNodes := r.nNodes
  timestampMs := r.timestampMs

def toUnmatched (snapshot : List GtTrail) (pool : List Truth) (key : String) (r : Solve) : Unmatched where
  solveKey := key
  nNodes := r.nNodes
  nearestTruth := nearestTruth lib snapshot pool r
  timestampMs := r.timestampMs

/-- The greedy assignment: each solve in its turn, with the truths that are not matched yet. -/
def assign (snapshot : List GtTrail) (pool : List Truth) : List String → List (String × Solve) → List Match × List Unmatched
  | _, [] => ([], [])
  | matched, (key, r) :: rest =>
      match bestTruth lib snapshot pool matched r with
      | none =>
          let later := assign snapshot pool matched rest
          (later.1, toUnmatched lib snapshot pool key r :: later.2)
      | some (truth, distKm) =>
          let later := assign snapshot pool (truth.hex :: matched) rest
          (toMatch lib key r truth distKm :: later.1, later.2)

/-- The matched aircraft, and those that an unmatched solve stands for by itself. -/
def nUniqueAircraft (found : List Match) (unmatched : List Unmatched) : ℕ :=
  let claimed := found.map fun m => m.truth.hex
  let unclaimed := ((unmatched.filterMap fun u => u.nearestTruth.map Prod.fst).filter fun hex => decide (hex ∉ claimed)).dedup
  found.length + unclaimed.length + unmatched.countP fun u => u.nearestTruth.isNone

/-- `_refresh_mlat_verification`. -/
def refreshMlatVerification (now : ℚ) (w : World) : Verification :=
  let snapshot := gtTrailsSnapshot now w
  let pool := adsbTruthPool now w (snapshot.map GtTrail.hex)
  let nSolverCycles := (freshSolves now w).length
  if snapshot.isEmpty && pool.isEmpty then
    { skipped := true, nSolverCycles, nUniqueAircraft := nSolverCycles, nTruthCandidates := 0 }
  else
    let (found, unmatched) := assign lib snapshot pool [] (solveOrder lib now w snapshot pool)
    { nSolverCycles, nUniqueAircraft := nUniqueAircraft found unmatched, nTruthCandidates := snapshot.length + pool.length, found, unmatched }

end
end Retina.Mlat
