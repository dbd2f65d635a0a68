import RetinaServer.Known.Paths
import RetinaServer.Known.Calibration

/-! The claiming stage of one frame: the paths in their order, the registry, the
calibration and the holds. A stage that throws leaves what the stages before it
have written. -/
namespace Retina.Known
open Frames

/-- One claim as it went through calibration. -/
structure Calibrated where
  claim : Claim
  det : Detection
  contested : Bool
  verdict : CalibrationVerdict
deriving DecidableEq

/-- What the claiming of one frame comes to: what each path claimed, up to one that throws, and
what became of it. `cands` is the population that the claims are compared with. -/
structure Outcome where
  stores : ClaimStores
  tagged : List Claim := []
  held : List Claim := []
  fixed : List Claim := []
  followed : List FollowClaim := []
  cands : List Candidate := []
  projections : List (ℚ × ℚ) := []
  calibrated : List Calibrated := []
  verdict : ClaimVerdict

/-- The claims of the known lane, in the order they are made. -/
def Outcome.claims (o : Outcome) : List Claim := o.tagged ++ o.held ++ o.fixed

def frameTsMs (frame : Frame) : ℤ := (frame.timestamp.map truncate).getD 0

def frameTsS (frame : Frame) : ℚ := frameTsMs frame / 1000

/-- The indices no claim has taken. -/
def freeIndices (frame : Frame) (claims : List Claim) : List Nat :=
  (List.range (frame.delay.getD []).length).filter fun i => decide (i ∉ claims.map Claim.index)

section
variable (lib : Externals γ) (cfg : ClaimSettings)

def moment (scene : Scene γ) (geo : NodeGeometry γ) (frame : Frame) : Moment γ where
  geo := geo
  frameTsS := frameTsS frame
  nodeWorld := scene.nodeWorld
  cache := adsbForSeeding scene.polled scene.adsbAircraft

/-! ### Writing a claim down -/

def knownClaim (nodeId : String) (tsMs : ℤ) (claim : Claim) (det : Detection) (contested : Bool) : KnownClaim where
  nodeId := nodeId
  delayUs := det.delayUs
  dopplerHz := det.dopplerHz
  predDelayUs := claim.predD
  predDopplerHz := claim.predF
  tsMs := tsMs
  carried := .adsb claim.fix
  contested := contested
  holdGapS := claim.extra.holdGapS
  fixRefreshed := claim.extra.fixRefreshed
  follow := claim.extra.follow

/-- A follow claim is never contested: it is the dark projection itself. -/
def followRecord (nodeId : String) (tsMs : ℤ) (claim : FollowClaim) : KnownClaim where
  nodeId := nodeId
  delayUs := claim.det.delayUs
  dopplerHz := claim.det.dopplerHz
  predDelayUs := claim.cand.gate.predD
  predDopplerHz := claim.cand.gate.predF
  tsMs := tsMs
  carried := .follow ⟨claim.cand.drLat, claim.cand.drLon, claim.cand.target.altM / 1000, claim.cand.target.velEast,
    claim.cand.target.velNorth, tsMs⟩
  contested := false

/-- The newest measurement of a held track. The sample before it is kept when the time has moved on. -/
def touchEntry (entry : Option HoldEntry) (det : Detection) (tsMs : ℤ) (fix : Option Fix) (world : World) (isHold : Bool) :
    HoldEntry :=
  let sample : Sample := ⟨det.delayUs, det.dopplerHz, tsMs⟩
  match entry with
  | none => ⟨sample, none, fix, some world, 1, if isHold then 1 else 0⟩
  | some e =>
      { toSample := sample
        prev := if tsMs ≠ e.tsMs then some e.toSample else e.prev
        fix := fix.or e.fix
        world := some world
        nClaims := e.nClaims + 1
        nHold := if isHold then e.nHold + 1 else e.nHold }

/-- A claim by a hold that no live fix refreshed keeps the fix the hold had. -/
def touchHold (nodeId : String) (claim : Claim) (det : Detection) (tsMs : ℤ) (world : World)
    (holds : Dict String Holds) : Dict String Holds :=
  if cfg.knownHoldMaxGapS ≤ 0 then holds
  else
    let fix := if claim.extra.hold && !claim.extra.fixRefreshed then none else some claim.fix
    let own := (holds.get? nodeId).getD Dict.empty
    holds.insert nodeId
      (own.insert claim.hexn (touchEntry (own.get? claim.hexn) det tsMs fix world claim.extra.hold))

variable (scene : Scene γ) (m : Moment γ) (nodeId : String) (tsMs : ℤ) (projections : List (ℚ × ℚ))
  (cands : List Candidate)

def recordClaim (claim : Claim) (det : Detection) (stores : ClaimStores) : ClaimStores × CalibrationVerdict :=
  let contested := isContested lib det projections
  let calibration := calibrationFromClaim lib nodeId claim det m.frameTsS tsMs contested cands scene.nowS
    stores.claimStreaks
  ({ knownClaims := appendClaim stores.knownClaims claim.hexn (knownClaim nodeId tsMs claim det contested)
     knownTrackHolds := touchHold cfg nodeId claim det tsMs m.nodeWorld stores.knownTrackHolds
     claimStreaks := calibration.1
     calibrationPoints := match calibration.2 with
       | .recorded point => stores.calibrationPoints ++ [point]
       | _ => stores.calibrationPoints },
    calibration.2)

structure Recording where
  stores : ClaimStores
  calibrated : List Calibrated
  complete : Bool

/-- The claims are written down in their order, up to the first index without a reading. -/
def recordClaims (frame : Frame) : List Claim → ClaimStores → Recording
  | [], stores => ⟨stores, [], true⟩
  | claim :: rest, stores =>
      match detection frame claim.index with
      | none => ⟨stores, [], false⟩
      | some det =>
          let here := recordClaim lib cfg scene m nodeId tsMs projections cands claim det stores
          let later := recordClaims frame rest here.1
          ⟨later.stores, ⟨claim, det, isContested lib det projections, here.2⟩ :: later.calibrated, later.complete⟩

end

section
variable (lib : Externals γ) (cfg : ClaimSettings) (scene : Scene γ) (nodeId : String)

/-- Path H in the stores: a node without holds claims nothing by them. -/
def holdStage (m : Moment γ) (frame : Frame) (tagged : List Claim) (stores : ClaimStores) :
    ClaimStores × Option (List Claim) :=
  match stores.knownTrackHolds.get? nodeId with
  | none => (stores, some [])
  | some holds =>
      let r := claimHolds lib cfg m frame holds (freeIndices frame tagged) (tagged.map Claim.hexn)
      ({ stores with knownTrackHolds := stores.knownTrackHolds.insert nodeId r.1 }, r.2)

/-- The candidates of path 2. The hexes that are claimed already stay in: a claim is compared with all of them. -/
def population (m : Moment γ) (claimed : List Claim) (holds : Dict String Holds) : List Candidate :=
  candidates lib m.geo m.frameTsS m.nodeWorld (candStates m.cache
    (followStates lib cfg m.frameTsS (claimed.map Claim.hexn) m.cache holds scene.multinodeTracks scene.learnedVelocity))

def threw : ClaimVerdict := .error "claiming failed"

/-- Path 3, for a caller that gave a set to write its indices into. -/
def followStage (m : Moment γ) (frame : Frame) (tsMs : ℤ) (followClaimed : Option (Finset Nat)) (o : Outcome) : Outcome :=
  let claimedIdx := (o.claims.map Claim.index).toFinset
  match followClaimed with
  | none => { o with verdict := .ok (claimedIdx, ∅) }
  | some given =>
      match claimDarkFollow lib cfg m frame (freeIndices frame o.claims) scene.darkFollowMode scene.followTargets with
      | none => { o with verdict := threw }
      | some followed =>
          { o with
            followed
            stores := { o.stores with
              knownClaims := followed.foldl (fun registry claim =>
                appendClaim registry claim.key (followRecord nodeId tsMs claim)) o.stores.knownClaims }
            verdict := .ok (claimedIdx, given ∪ (followed.map FollowClaim.index).toFinset) }

/-- The claims of paths 1, H and 2 written down, and path 3 on what they left. -/
def recordStage (m : Moment γ) (frame : Frame) (followClaimed : Option (Finset Nat)) (o : Outcome) : Outcome :=
  match (if o.claims = [] then some [] else darkGlobalProjections lib m.geo m.frameTsS scene.multinodeTracks) with
  | none => { o with verdict := threw }
  | some projections =>
      let r := recordClaims lib cfg scene m nodeId (frameTsMs frame) projections o.cands frame o.claims o.stores
      let recorded := { o with stores := r.stores, projections, calibrated := r.calibrated }
      if r.complete then followStage lib cfg scene nodeId m frame (frameTsMs frame) followClaimed recorded
      else { recorded with verdict := threw }

def claimFrame (m : Moment γ) (frame : Frame) (followClaimed : Option (Finset Nat)) (stores : ClaimStores) : Outcome :=
  match tagClaims lib m.geo (frameTsMs frame) frame with
  | none => { stores, verdict := threw }
  | some tagged =>
      let h := holdStage lib cfg nodeId m frame tagged stores
      match h.2 with
      | none => { stores := h.1, tagged, verdict := threw }
      | some held =>
          let claimed := tagged ++ held
          let cands := population lib cfg scene m claimed h.1.knownTrackHolds
          match claimFixes lib frame (freeIndices frame claimed) (claimed.map Claim.hexn) cands with
          | none => { stores := h.1, tagged, held, cands, verdict := threw }
          | some fixed =>
              recordStage lib cfg scene nodeId m frame followClaimed
                { stores := h.1, tagged, held, fixed, cands, verdict := threw }

/-- A frame without detections claims nothing, and neither does a node the server cannot place. -/
def claimKnownTargets (frame : Frame) (followClaimed : Option (Finset Nat)) (stores : ClaimStores) : Outcome :=
  match scene.geometry with
  | some geo =>
      if frame.delay.getD [] ≠ [] ∧ positionStatus scene.config = .positioned then
        claimFrame lib cfg scene nodeId (moment scene geo frame) frame followClaimed stores
      else { stores, verdict := .ok (∅, followClaimed.getD ∅) }
  | none => { stores, verdict := .ok (∅, followClaimed.getD ∅) }

end

/-! ### The sweep of the stores -/

def knownClaimsStaleS : ℚ := 120

/-- Claims and holds that no frame has added to for long are dropped, a node's last one with the node. -/
def sweepClaims (nowS : ℚ) (stores : ClaimStores) : ClaimStores :=
  { stores with
    knownClaims := stores.knownClaims.filter fun _ queue =>
      queue.getLast?.any fun claim => !decide (knownClaimsStaleS < nowS - claim.tsMs / 1000)
    knownTrackHolds := (stores.knownTrackHolds.mapValues fun holds =>
      holds.filter fun _ entry => !decide (knownClaimsStaleS < nowS - entry.tsMs / 1000)).filter
        fun _ holds => !holds.items.isEmpty }

end Retina.Known
