import RetinaServer.Frames.ProcessFrame
import RetinaServer.Multinode.Entry
import RetinaServer.Library.Assignment
import RetinaServer.Library.Streak

/-! Claims of known targets: what a claim carries, the stores that claiming keeps
from frame to frame, and what one frame's claiming reads of the server. -/
namespace Retina.Known
open Frames

/-- The reported fix a claim carries. -/
structure Fix where
  lat : ℚ
  lon : ℚ
  altBaro : Option RawNumber
  gs : Option RawNumber
  track : Option RawNumber
  fixTsMs : ℤ
deriving DecidableEq, Repr

/-- What a claim carries beside its fix. A claim by hold has the gap it bridged;
the last two fields are for calibration and stay out of the registry. -/
structure ClaimExtra where
  holdGapS : Option ℚ := none
  fixRefreshed : Bool := false
  follow : Bool := false
  calPred : Option (ℚ × ℚ) := none
  calDr : Option (ℚ × ℚ) := none
deriving DecidableEq, Repr

def ClaimExtra.hold (extra : ClaimExtra) : Bool := extra.holdGapS.isSome

structure Claim where
  index : Nat
  hexn : String
  fix : Fix
  predD : ℚ
  predF : ℚ
  extra : ClaimExtra
deriving DecidableEq, Repr

/-- One detection of a frame, by its place in the frame's lists. -/
structure Detection where
  index : Nat
  delayUs : ℚ
  dopplerHz : ℚ
deriving DecidableEq, Repr

/-- The reading at an index. A frame whose lists differ in length has indices without one. -/
def detection (frame : Frame) (i : Nat) : Option Detection :=
  match (frame.delay.getD [])[i]?, (frame.doppler.getD [])[i]? with
  | some delayUs, some dopplerHz => some ⟨i, delayUs, dopplerHz⟩
  | _, _ => none

theorem detection_index (found : detection frame i = some det) : det.index = i := by
  simp only [detection] at found
  split at found
  · obtain rfl := Option.some.inj found
    rfl
  · cases found

/-! ### Stores -/

structure Sample where
  delayUs : ℚ
  dopplerHz : ℚ
  tsMs : ℤ
deriving DecidableEq, Repr

/-- The newest measurement of a held track, and the one before it. -/
structure HoldEntry extends Sample where
  prev : Option Sample
  fix : Option Fix
  world : Option World
  nClaims : Nat
  nHold : Nat
deriving DecidableEq, Repr

/-- The prediction a follow claim carries in place of a fix. -/
structure FollowFix where
  lat : ℚ
  lon : ℚ
  altKm : ℚ
  velEast : ℚ
  velNorth : ℚ
  fixTsMs : ℤ
deriving DecidableEq, Repr

inductive Carried where
  | adsb (fix : Fix)
  | follow (fix : FollowFix)
deriving DecidableEq, Repr

/-- A claim as the registry has it. -/
structure KnownClaim where
  nodeId : String
  delayUs : ℚ
  dopplerHz : ℚ
  predDelayUs : ℚ
  predDopplerHz : ℚ
  tsMs : ℤ
  carried : Carried
  contested : Bool
  holdGapS : Option ℚ := none
  fixRefreshed : Bool := false
  follow : Bool := false
deriving DecidableEq, Repr

/-- The claims in a row that each node has made of each hex. -/
abbrev Streaks := Dict (String × String) (Streak.Entry ℤ)

structure CalibrationPoint where
  nodeId : String
  lat : ℚ
  lon : ℚ
  ts : ℚ
deriving DecidableEq, Repr

abbrev Holds := Dict String HoldEntry

structure ClaimStores where
  knownClaims : Dict String (List KnownClaim)
  knownTrackHolds : Dict String Holds
  claimStreaks : Streaks
  calibrationPoints : List CalibrationPoint
deriving DecidableEq

def ClaimStores.empty : ClaimStores := ⟨.empty, .empty, .empty, []⟩

def knownClaimsPerHexMax : Nat := 64

/-- Appending to a full queue drops its oldest claim. -/
def appendClaim (registry : Dict String (List KnownClaim)) (key : String) (claim : KnownClaim) :
    Dict String (List KnownClaim) :=
  let queue := (registry.get? key).getD [] ++ [claim]
  registry.insert key (queue.drop (queue.length - knownClaimsPerHexMax))

/-! ### What a frame's claiming reads -/

/-- A node's geometry; `rest` is what the analytics library keeps of it besides. -/
structure NodeGeometry (γ : Type) where
  rxLat : ℚ
  rxLon : ℚ
  fcHz : ℚ
  effectiveRadiusKm : ℚ
  coverageLimit : Option (ℚ → Option ℚ)
  rest : γ

/-- A published multinode track, as the claiming reads it. -/
structure LaneTrack where
  lat : Option ℚ
  lon : Option ℚ
  altM : Option ℚ := none
  altKm : Option ℚ := none
  velEast : Option ℚ := none
  velNorth : Option ℚ := none
  velUp : Option ℚ := none
  timestampMs : Option ℤ := none
  nNodes : Nat := 0
  solveCount : Nat := 0
deriving DecidableEq, Repr

/-- A followed dark track. Its key is the key it is listed under. -/
structure FollowTarget where
  lat : ℚ
  lon : ℚ
  altM : ℚ
  velEast : ℚ
  velNorth : ℚ
  velSigmaMs : ℚ
  posSigmaM : ℚ
  timestampMs : ℤ
  world : Option World
deriving DecidableEq, Repr

/-- The functions and constants of the analytics library, the assignment solver
and the real functions. -/
structure Externals (γ : Type) where
  predictObservation : NodeGeometry γ → (lat lon altKm velEast velNorth velUp : ℚ) → ℚ × ℚ
  pointInBeam : ℚ → ℚ → NodeGeometry γ → Bool
  offsetLatlonM : (lat lon eastM northM : ℚ) → ℚ × ℚ
  kmPerDegLat : ℚ
  kmPerDegLon : ℚ → ℚ
  claimEligible : String → LaneTrack → Bool
  adsbSeedDelayGateUs : ℚ
  adsbSeedDopplerGateHz : ℚ
  adsbSeedMaxDrAgeS : ℚ
  claimDelayGateUs : ℚ
  claimDopplerGateHz : ℚ
  claimMaxDrAgeS : ℚ
  claimMaxGlobalTracks : Nat
  vMaxMs : ℚ
  linearSumAssignment : Assignment.Solver ℚ
  trig : Trig
  hypot : ℚ → ℚ → ℚ
  atan2Deg : ℚ → ℚ → ℚ

/-- The settings of the environment, with their defaults. -/
structure ClaimSettings where
  knownHoldMaxGapS : ℚ := 8
  knownHoldDelayGateUs : ℚ := 3 / 2
  knownHoldDelayRateUsPerS : ℚ := 1
  knownHoldDopplerGateHz : ℚ := 20
  knownHoldDopplerRateHzPerS : ℚ := 10
  knownHoldMaxDopplerRateHzS : ℚ := 15
  knownHoldRateMaxSpanS : ℚ := 5
  knownFollowMaxAgeS : ℚ := 20
  knownFollowMinSolves : Nat := 3
  darkFollowMaxAgeS : ℚ := 20
  darkFollowGateVelSigmaCapMs : ℚ := 115

def calMaxAdsbAgeS : ℚ := 10
def calClaimDelayUs : ℚ := 3
def calClaimDopplerHz : ℚ := 8
def calClaimMinClaims : Nat := 3
def calClaimStreakGapS : ℚ := 10
def claimStreakMaxKeys : Nat := 5000
def claimStreakPruneAgeS : ℚ := 120
def gateInfeasible : ℚ := 1000000
def screenMargin : ℚ := 102 / 100
def maxDelayGateUs : ℚ := 40
def maxDopplerGateHz : ℚ := 100
def cKmUs : ℚ := 299792458 / 1000000000
def cMPerUs : ℚ := cKmUs * 1000
def cMPerS : ℚ := cKmUs * 1000000000

/-- The server as one frame of a node finds it. -/
structure Scene (γ : Type) where
  geometry : Option (NodeGeometry γ)
  config : NodeConfig
  nodeWorld : World
  polled : AdsbStore
  adsbAircraft : AdsbStore
  multinodeTracks : Dict String LaneTrack
  learnedVelocity : String → Option (ℚ × ℚ)
  followTargets : Dict String FollowTarget
  darkFollowMode : LaneMode
  nowS : ℚ

end Retina.Known
