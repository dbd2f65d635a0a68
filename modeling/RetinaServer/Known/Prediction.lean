import RetinaServer.Known.Claim
import Mathlib.Data.List.Sort

/-! Where a node should see a target: by a fix that is dead-reckoned to the frame,
by the lane's own published track, by the node's last measurement of a held track,
and by a followed dark track; each with the gates a detection is tried against. -/
namespace Retina.Known
open Frames

/-- The least allowance is that of a fresh fix, and twice as much is given at the age cap. -/
def gateScale (lib : Externals γ) (ageS : ℚ) : ℚ :=
  1 + min |ageS| lib.adsbSeedMaxDrAgeS / lib.adsbSeedMaxDrAgeS

/-- The candidate state of an aircraft: a cached fix, or one the lane makes of its own track. -/
structure CandState where
  lat : ℚ
  lon : ℚ
  altM : ℚ
  velEast : ℚ
  velNorth : ℚ
  timestampMs : ℤ
  world : Option World
  altBaro : Option RawNumber := none
  gs : Option RawNumber := none
  track : Option RawNumber := none
  followFix : Option Fix := none
deriving DecidableEq, Repr

def CandState.ofRecord (rec : AdsbRecord) : CandState where
  lat := rec.lat
  lon := rec.lon
  altM := rec.altM
  velEast := rec.velEast
  velNorth := rec.velNorth
  timestampMs := rec.lastSeenMs
  world := rec.world
  altBaro := some rec.altBaro
  gs := some rec.gs
  track := some rec.track

def CandState.ageS (st : CandState) (frameTsS : ℚ) : ℚ := frameTsS - st.timestampMs / 1000

def fixRecord (st : CandState) : Fix where
  lat := st.lat
  lon := st.lon
  altBaro := st.altBaro
  gs := st.gs
  track := st.track
  fixTsMs := st.timestampMs

/-- A candidate with its prediction at the node and the position that was predicted from. -/
structure Candidate where
  hexn : String
  state : CandState
  predD : ℚ
  predF : ℚ
  scale : ℚ
  drLat : ℚ
  drLon : ℚ
deriving DecidableEq, Repr

section
variable (lib : Externals γ)

/-- A state carried along its velocity to the frame, and what the node should see of it there. -/
def predicted (geo : NodeGeometry γ) (frameTsS : ℚ) (hexn : String) (st : CandState) : Candidate :=
  let ageS := st.ageS frameTsS
  let dr := lib.offsetLatlonM st.lat st.lon (st.velEast * ageS) (st.velNorth * ageS)
  let pred := lib.predictObservation geo dr.1 dr.2 (st.altM / 1000) st.velEast st.velNorth 0
  ⟨hexn, st, pred.1, pred.2, gateScale lib ageS, dr.1, dr.2⟩

/-- A candidate of the other world is none, and one of no world passes. -/
def ofWorld (nodeWorld : World) (world : Option World) : Bool := world.all fun own => decide (own = nodeWorld)

/-- The prediction of a hex by its own cached fix, if it has a usable one. -/
def freshFixPrediction (geo : NodeGeometry γ) (frameTsS : ℚ) (nodeWorld : World) (cache : AdsbStore) (hexn : String) :
    Option Candidate :=
  match cache.get? hexn with
  | none => none
  | some rec =>
      let st := CandState.ofRecord rec
      if !ofWorld nodeWorld st.world then none
      else if lib.adsbSeedMaxDrAgeS < |st.ageS frameTsS| then none
      else some (predicted lib geo frameTsS hexn st)

/-! ### Gates -/

/-- A predicted observation and how far from it a detection may be, on each axis. -/
structure Gate where
  predD : ℚ
  predF : ℚ
  dGate : ℚ
  fGate : ℚ
deriving DecidableEq, Repr

namespace Gate

def Admits (gate : Gate) (det : Detection) : Prop :=
  |gate.predD - det.delayUs| ≤ gate.dGate ∧ |gate.predF - det.dopplerHz| ≤ gate.fGate

instance (gate : Gate) (det : Detection) : Decidable (gate.Admits det) := inferInstanceAs (Decidable (_ ∧ _))

/-- The normalised score of a detection inside the gates. -/
def cost (gate : Gate) (det : Detection) : ℚ :=
  if gate.Admits det then
    |gate.predD - det.delayUs| / gate.dGate + |gate.predF - det.dopplerHz| / gate.fGate
  else gateInfeasible

/-- The score of a gate without width cannot be computed. -/
def Divides (gate : Gate) (det : Detection) : Prop := gate.Admits det → gate.dGate ≠ 0 ∧ gate.fGate ≠ 0

instance (gate : Gate) (det : Detection) : Decidable (gate.Divides det) := inferInstanceAs (Decidable (_ → _))

/-- What costs less than the bound lies inside both gates. -/
theorem admits_of_cost_lt {gate : Gate} {det : Detection} (cheap : gate.cost det < gateInfeasible) :
    gate.Admits det := by
  by_contra outside
  rw [cost, if_neg outside] at cheap
  exact lt_irrefl _ cheap

end Gate

/-- The gates of a transponder fix grow with its age. -/
def Candidate.gate (cand : Candidate) : Gate where
  predD := cand.predD
  predF := cand.predF
  dGate := lib.adsbSeedDelayGateUs * cand.scale
  fGate := lib.adsbSeedDopplerGateHz * cand.scale

/-! ### Held tracks -/

/-- The gap to the frame since a held track's last measurement. -/
def HoldEntry.gapS (entry : HoldEntry) (frameTsS : ℚ) : ℚ := frameTsS - entry.tsMs / 1000

variable (cfg : ClaimSettings)

/-- The Doppler rate of the last two samples, if they are recent enough to be one manoeuvre. -/
def dopplerRate (entry : HoldEntry) : ℚ :=
  match entry.prev with
  | none => 0
  | some prev =>
      let span : ℚ := ((entry.tsMs - prev.tsMs : ℤ) : ℚ) / 1000
      if 0 < span ∧ span ≤ cfg.knownHoldRateMaxSpanS then
        max (-cfg.knownHoldMaxDopplerRateHzS)
          (min cfg.knownHoldMaxDopplerRateHzS ((entry.dopplerHz - prev.dopplerHz) / span))
      else 0

/-- The delay is carried by the measured Doppler, and the Doppler by its rate. -/
def holdPredict (entry : HoldEntry) (fcHz frameTsS : ℚ) : ℚ × ℚ :=
  let dt := entry.gapS frameTsS
  (entry.delayUs + -entry.dopplerHz * 1000000 / fcHz * dt, entry.dopplerHz + dopplerRate cfg entry * dt)

def holdGate (entry : HoldEntry) (fcHz frameTsS : ℚ) : Gate where
  predD := (holdPredict cfg entry fcHz frameTsS).1
  predF := (holdPredict cfg entry fcHz frameTsS).2
  dGate := cfg.knownHoldDelayGateUs + cfg.knownHoldDelayRateUsPerS * entry.gapS frameTsS
  fGate := cfg.knownHoldDopplerGateHz + cfg.knownHoldDopplerRateHzPerS * entry.gapS frameTsS

/-! ### The lane's own published tracks -/

/-- The original fix of a hex from the first hold that has one, or else one made of the entry. -/
def followFixRecord (holds : Dict String Holds) (hexn : String) (lat lon altM ve vn : ℚ) (tsMs : ℤ) : Fix :=
  match holds.values.findSome? fun held => (held.get? hexn).bind HoldEntry.fix with
  | some fix => fix
  | none =>
      let bearing := lib.atan2Deg ve vn
      { lat, lon
        altBaro := some (.num (altM / ftToM))
        gs := some (.num (lib.hypot ve vn / knotsToMs))
        track := some (.num (bearing - 360 * ⌊bearing / 360⌋))
        fixTsMs := tsMs }

/-- The candidate a published entry of a transponder makes, for a hex without a fresh fix. -/
def followState (frameTsS : ℚ) (claimedHexes : List String) (cache : AdsbStore) (holds : Dict String Holds)
    (learnedVelocity : String → Option (ℚ × ℚ)) (key : String) (rec : LaneTrack) : Option (String × CandState) :=
  if !key.startsWith Multinode.adsbPrefix then none
  else
    let hexn := normalizeHexKey (some (String.ofList (key.toList.drop Multinode.adsbPrefix.length)))
    if hexn = "" ∨ hexn ∈ claimedHexes then none
    else
      let cached := (cache.get? hexn).map CandState.ofRecord
      if cached.any fun st => decide (|st.ageS frameTsS| ≤ lib.adsbSeedMaxDrAgeS) then none
      else match rec.lat, rec.lon with
        | some lat, some lon =>
            let tsMs := rec.timestampMs.getD 0
            let ageS := frameTsS - tsMs / 1000
            if ¬ (0 ≤ ageS ∧ ageS ≤ cfg.knownFollowMaxAgeS) then none
            else if rec.solveCount < cfg.knownFollowMinSolves then none
            else
              let vel := (learnedVelocity key).getD (rec.velEast.getD 0, rec.velNorth.getD 0)
              let altM := rec.altM.getD (rec.altKm.getD 0 * 1000)
              let world := (cached.bind CandState.world).or
                (holds.values.findSome? fun held => (held.get? hexn).bind HoldEntry.world)
              some (hexn, {
                lat, lon, altM, world
                velEast := vel.1
                velNorth := vel.2
                timestampMs := tsMs
                followFix := some (followFixRecord lib holds hexn lat lon altM vel.1 vel.2 tsMs) })
        | _, _ => none

def followStates (frameTsS : ℚ) (claimedHexes : List String) (cache : AdsbStore) (holds : Dict String Holds)
    (tracks : Dict String LaneTrack) (learnedVelocity : String → Option (ℚ × ℚ)) : List (String × CandState) :=
  if cfg.knownFollowMaxAgeS ≤ 0 then []
  else tracks.items.filterMap fun item =>
    followState lib cfg frameTsS claimedHexes cache holds learnedVelocity item.1 item.2

/-- The cached fixes, under what the lane offers for the hexes whose fix is stale or gone. -/
def candStates (cache : AdsbStore) (follow : List (String × CandState)) : Dict String CandState :=
  follow.foldl (fun out item => out.insert item.1 item.2) (cache.mapValues CandState.ofRecord)

/-- The node's geometry with the learned coverage prior lifted. -/
def claimVisibilityGeo (geo : NodeGeometry γ) : NodeGeometry γ := { geo with coverageLimit := none }

/-- The reported position is near enough for the dead-reckoned one to be in the detection area. -/
def inScreen (geo : NodeGeometry γ) (st : CandState) (ageS : ℚ) : Bool :=
  let r0 := geo.effectiveRadiusKm * screenMargin
  let rMax := r0 + lib.vMaxMs * lib.adsbSeedMaxDrAgeS / 1000
  let kmPerLon := lib.kmPerDegLon (|geo.rxLat| + rMax / lib.kmPerDegLat)
  let dy := (st.lat - geo.rxLat) * lib.kmPerDegLat
  let raw := st.lon - geo.rxLon
  let dlon := if 180 < raw then raw - 360 else if raw < -180 then raw + 360 else raw
  let dx := dlon * kmPerLon
  let r := r0 + lib.vMaxMs * |ageS| / 1000
  !decide (r * r < dx * dx + dy * dy)

/-- A candidate is of the node's world, of usable age, and where the node can see it. -/
def candidate (geo : NodeGeometry γ) (frameTsS : ℚ) (nodeWorld : World) (hexn : String) (st : CandState) :
    Option Candidate :=
  if !ofWorld nodeWorld st.world then none
  else if lib.adsbSeedMaxDrAgeS < |st.ageS frameTsS| then none
  else if !inScreen lib geo st (st.ageS frameTsS) then none
  else
    let cand := predicted lib geo frameTsS hexn st
    if !lib.pointInBeam cand.drLat cand.drLon (claimVisibilityGeo geo) then none else some cand

def candidates (geo : NodeGeometry γ) (frameTsS : ℚ) (nodeWorld : World) (states : Dict String CandState) :
    List Candidate :=
  states.items.filterMap fun item => candidate lib geo frameTsS nodeWorld item.1 item.2

omit lib in
/-- A candidate is the prediction of its state, and of an age at which the state may be used. -/
theorem candidate_eq {lib : Externals γ} {geo : NodeGeometry γ}
    (made : candidate lib geo frameTsS nodeWorld hexn st = some cand) :
    cand = predicted lib geo frameTsS hexn st ∧ |st.ageS frameTsS| ≤ lib.adsbSeedMaxDrAgeS := by
  simp only [candidate, Option.ite_none_left_eq_some] at made
  obtain ⟨-, usable, -, -, same⟩ := made
  exact ⟨(Option.some.inj same).symm, not_lt.mp usable⟩

omit lib in
theorem candidate_hexn {lib : Externals γ} {geo : NodeGeometry γ}
    (made : candidate lib geo frameTsS nodeWorld hexn st = some cand) : cand.hexn = hexn := by
  rw [(candidate_eq made).1]
  rfl

omit lib in
theorem candidate_state {lib : Externals γ} {geo : NodeGeometry γ}
    (made : candidate lib geo frameTsS nodeWorld hexn st = some cand) : cand.state = st := by
  rw [(candidate_eq made).1]
  rfl

omit lib in
/-- What the lane makes of a published entry carries a fix of its own. -/
theorem followFix_of_followStates {lib : Externals γ} {cfg : ClaimSettings} {tracks : Dict String LaneTrack}
    (listed : (hexn, st) ∈ followStates lib cfg frameTsS claimedHexes cache holds tracks learnedVelocity) :
    st.followFix.isSome = true := by
  simp only [followStates] at listed
  split at listed
  · cases listed
  · obtain ⟨item, -, made⟩ := List.mem_filterMap.mp listed
    simp only [followState, Option.ite_none_left_eq_some] at made
    obtain ⟨-, -, -, made⟩ := made
    split at made
    · simp only [Option.ite_none_left_eq_some] at made
      obtain ⟨-, -, same⟩ := made
      obtain ⟨-, rfl⟩ := Prod.mk.inj (Option.some.inj same)
      rfl
    · cases made

theorem get?_candStates {cache : AdsbStore} {follow : List (String × CandState)}
    (found : (candStates cache follow).get? hexn = some st) :
    (∃ rec, cache.get? hexn = some rec ∧ st = CandState.ofRecord rec) ∨ (hexn, st) ∈ follow := by
  have inserted (base : Dict String CandState)
      (found : (follow.foldl (fun out item => out.insert item.1 item.2) base).get? hexn = some st) :
      base.get? hexn = some st ∨ (hexn, st) ∈ follow := by
    clear * - found
    induction follow generalizing base with
    | nil => exact .inl found
    | cons item rest ih =>
      rcases ih _ found with here | later
      · rw [Dict.get?_insert] at here
        split at here
        · rename_i same
          exact .inr (List.mem_cons.mpr (.inl (Prod.ext same.symm (Option.some.inj here).symm)))
        · exact .inl here
      · exact .inr (List.mem_cons_of_mem item later)
  rcases inserted _ found with cached | listed
  · rw [Dict.get?_mapValues] at cached
    obtain ⟨rec, kept, rfl⟩ := Option.map_eq_some_iff.mp cached
    exact .inl ⟨rec, kept, rfl⟩
  · exact .inr listed

/-- A candidate is made of a cached fix of its hex, or else it is one of the lane's own. -/
theorem mem_candidates {geo : NodeGeometry γ} {cfg : ClaimSettings} {tracks : Dict String LaneTrack}
    (listed : cand ∈ candidates lib geo frameTsS nodeWorld (candStates cache
      (followStates lib cfg frameTsS claimedHexes cache holds tracks learnedVelocity))) :
    candidate lib geo frameTsS nodeWorld cand.hexn cand.state = some cand ∧
      ((∃ rec, cache.get? cand.hexn = some rec ∧ cand.state = CandState.ofRecord rec) ∨
        cand.state.followFix.isSome = true) := by
  obtain ⟨item, member, made⟩ := List.mem_filterMap.mp listed
  have hexn := candidate_hexn made
  have state := candidate_state made
  rw [hexn, state]
  refine ⟨made, ?_⟩
  rcases get?_candStates ((Dict.get?_eq_some_iff _ _ _).mpr member) with cached | follow
  · exact .inl cached
  · exact .inr (followFix_of_followStates follow)

/-- Each hex is a candidate once. -/
theorem nodup_candidates (geo : NodeGeometry γ) (frameTsS : ℚ) (nodeWorld : World) (states : Dict String CandState) :
    ((candidates lib geo frameTsS nodeWorld states).map Candidate.hexn).Nodup :=
  states.nodup_filterMap Candidate.hexn fun _ _ made => candidate_hexn made

/-! ### Followed dark tracks -/

/-- The gates of a followed track: the lane's own, widened by what the filter does not know of the track. -/
def followGates (target : FollowTarget) (dtS fcHz : ℚ) : ℚ × ℚ :=
  let scale := gateScale lib dtS
  let velSigmaMs := if cfg.darkFollowGateVelSigmaCapMs < target.velSigmaMs then cfg.darkFollowGateVelSigmaCapMs
    else target.velSigmaMs
  let posErrM := target.posSigmaM + velSigmaMs * max dtS 0
  (min (lib.adsbSeedDelayGateUs * scale + 2 * posErrM / cMPerUs) maxDelayGateUs,
    min (lib.adsbSeedDopplerGateHz * scale + 2 * velSigmaMs * fcHz / cMPerS) maxDopplerGateHz)

structure FollowCandidate where
  key : String
  target : FollowTarget
  gate : Gate
  drLat : ℚ
  drLon : ℚ
deriving DecidableEq, Repr

/-- A followed track is of the node's world, recent, and in the node's beam with the prior in force. -/
def followCandidate (geo : NodeGeometry γ) (frameTsS : ℚ) (nodeWorld : World) (key : String) (t : FollowTarget) :
    Option FollowCandidate :=
  let dt := frameTsS - t.timestampMs / 1000
  if !ofWorld nodeWorld t.world then none
  else if ¬ (0 ≤ dt ∧ dt ≤ cfg.darkFollowMaxAgeS) then none
  else
    let dr := lib.offsetLatlonM t.lat t.lon (t.velEast * dt) (t.velNorth * dt)
    if !lib.pointInBeam dr.1 dr.2 geo then none
    else
      let pred := lib.predictObservation geo dr.1 dr.2 (t.altM / 1000) t.velEast t.velNorth 0
      let gates := followGates lib cfg t dt geo.fcHz
      some ⟨key, t, ⟨pred.1, pred.2, gates.1, gates.2⟩, dr.1, dr.2⟩

def followCandidates (geo : NodeGeometry γ) (frameTsS : ℚ) (nodeWorld : World) (targets : Dict String FollowTarget) :
    List FollowCandidate :=
  targets.items.filterMap fun item => followCandidate lib cfg geo frameTsS nodeWorld item.1 item.2

omit lib cfg in
theorem followCandidate_key {lib : Externals γ} {cfg : ClaimSettings} {geo : NodeGeometry γ}
    (made : followCandidate lib cfg geo frameTsS nodeWorld key t = some cand) : cand.key = key := by
  simp only [followCandidate, Option.ite_none_left_eq_some] at made
  obtain ⟨-, -, -, same⟩ := made
  obtain rfl := Option.some.inj same
  rfl

/-! ### The dark tracks a claim may be contested by -/

def LaneTrack.timestampOr0 (rec : LaneTrack) : ℤ := rec.timestampMs.getD 0

/-- A track without a position cannot be dead-reckoned. -/
def project (geo : NodeGeometry γ) (frameTsS : ℚ) (g : LaneTrack) : Option (ℚ × ℚ) :=
  match g.lat, g.lon with
  | some lat, some lon =>
      let dt := frameTsS - g.timestampOr0 / 1000
      let ve := g.velEast.getD 0
      let vn := g.velNorth.getD 0
      let dr := lib.offsetLatlonM lat lon (ve * dt) (vn * dt)
      some (lib.predictObservation geo dr.1 dr.2 (g.altM.getD 0 / 1000) ve vn (g.velUp.getD 0))
  | _, _ => none

/-- The predictions of the eligible dark tracks, the newest first and no more than the cap. -/
def darkGlobalProjections (geo : NodeGeometry γ) (frameTsS : ℚ) (tracks : Dict String LaneTrack) :
    Option (List (ℚ × ℚ)) :=
  let eligible := (tracks.items.filter fun item =>
    item.1.startsWith Multinode.darkPrefix && lib.claimEligible item.1 item.2).map Prod.snd
  let newest := (eligible.insertionSort fun a b => b.timestampOr0 ≤ a.timestampOr0).take lib.claimMaxGlobalTracks
  (newest.filter fun g =>
    let dt := frameTsS - (g.timestampOr0 : ℚ) / 1000
    decide (0 ≤ dt ∧ dt ≤ lib.claimMaxDrAgeS)).mapM (project lib geo frameTsS)

/-- Some dark projection lies within the claim gates of a detection. -/
def isContested (det : Detection) (projections : List (ℚ × ℚ)) : Bool :=
  projections.any fun pred =>
    decide (|pred.1 - det.delayUs| ≤ lib.claimDelayGateUs ∧ |pred.2 - det.dopplerHz| ≤ lib.claimDopplerGateHz)

end

end Retina.Known
