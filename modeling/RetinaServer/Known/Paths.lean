import RetinaServer.Known.Prediction

/-! The claiming paths of a frame: the node's own tags, its held tracks, the cached
fixes, and the followed dark tracks. Each of the last three is one assignment over
the detections that are still free. A path that throws has no result. -/
namespace Retina.Known
open Frames Assignment

section
variable (lib : Externals γ) (cfg : ClaimSettings)

/-- One assignment of free detections to candidates. Nothing is read when either side is
empty; else an index without a reading throws, and so does a gate without width. -/
def assignGated (frame : Frame) (free : List Nat) (cands : List κ) (gate : κ → Gate) :
    Option (List (Detection × κ)) :=
  if free = [] ∨ cands = [] then some []
  else match free.mapM (detection frame) with
    | none => none
    | some dets =>
        if ∀ cand ∈ cands, ∀ det ∈ dets, (gate cand).Divides det then
          some (assigned lib.linearSumAssignment (fun det cand => (gate cand).cost det) gateInfeasible dets cands)
        else none

/-! ### Path 1: node-supplied tags -/

/-- A tag's speed and track are not coerced: an empty one is zero and another text throws. -/
def uncoerced : Option RawNumber → Option ℚ
  | none => some 0
  | some (.num x) => some x
  | some (.other text) => if text = "" then some 0 else none

def tagVelocity (trig : Trig) (tag : AdsbTag) : Option (ℚ × ℚ) :=
  match uncoerced tag.gs, uncoerced tag.track with
  | some gs, some track => some (gs * knotsToMs * trig.sinDeg track, gs * knotsToMs * trig.cosDeg track)
  | _, _ => none

/-- The claim of a tag that places an aircraft nobody has claimed yet. -/
def claimTag (geo : NodeGeometry γ) (tsMs : ℤ) (i : Nat) (tag : AdsbTag) (claims : List Claim) : Option (List Claim) :=
  let hexn := tagHex tag
  if hexn = "" ∨ hexn ∈ claims.map Claim.hexn then some claims
  else match tag.lat, tag.lon with
    | some lat, some lon =>
        (tagVelocity lib.trig tag).map fun vel =>
          let altKm := (tag.altBaro.map asNum).getD 0 * ftToM / 1000
          let pred := lib.predictObservation geo lat lon altKm vel.1 vel.2 0
          let fix : Fix := ⟨lat, lon, tag.altBaro, tag.gs, tag.track, tsMs⟩
          claims ++ [⟨i, hexn, fix, pred.1, pred.2, { calDr := some (lat, lon) }⟩]
    | _, _ => some claims

def claimTags (geo : NodeGeometry γ) (tsMs : ℤ) : List (Option AdsbTag × Nat) → List Claim → Option (List Claim)
  | [], claims => some claims
  | (none, _) :: rest, claims => claimTags geo tsMs rest claims
  | (some tag, i) :: rest, claims => (claimTag lib geo tsMs i tag claims).bind (claimTags geo tsMs rest)

/-- Tags past the end of the delays belong to no detection. -/
def tagClaims (geo : NodeGeometry γ) (tsMs : ℤ) (frame : Frame) : Option (List Claim) :=
  claimTags lib geo tsMs (((frame.adsb.getD []).take (frame.delay.getD []).length).zipIdx) []

/-! ### Path H: held tracks -/

/-- Where a frame of a node meets the server: the node's geometry, the frame's time and the cached fixes. -/
structure Moment (γ : Type) where
  geo : NodeGeometry γ
  frameTsS : ℚ
  nodeWorld : World
  cache : AdsbStore

structure HoldCandidate where
  hexn : String
  entry : HoldEntry
  gate : Gate
  dt : ℚ
deriving DecidableEq, Repr

def expireHolds (frameTsS : ℚ) (holds : Holds) : Holds :=
  holds.filter fun _ entry => decide (0 ≤ entry.gapS frameTsS ∧ entry.gapS frameTsS ≤ cfg.knownHoldMaxGapS)

def holdCandidate (geo : NodeGeometry γ) (frameTsS : ℚ) (hexn : String) (entry : HoldEntry) : HoldCandidate :=
  ⟨hexn, entry, holdGate cfg entry geo.fcHz frameTsS, entry.gapS frameTsS⟩

def holdCandidates (geo : NodeGeometry γ) (frameTsS : ℚ) (holds : Holds) (claimedHexes : List String) :
    List HoldCandidate :=
  (holds.items.filter fun item => decide (item.1 ∉ claimedHexes)).map fun item =>
    holdCandidate cfg geo frameTsS item.1 item.2

/-- What becomes of a hold that matched a detection: it is claimed, it is dropped because a live
fix of its hex disagrees, or it is passed over because it has no fix to carry. -/
inductive HoldVerdict where
  | claimed (claim : Claim)
  | dropped
  | baseless
deriving DecidableEq

def HoldVerdict.claim? : HoldVerdict → Option Claim
  | .claimed claim => some claim
  | _ => none

def resolveHold (m : Moment γ) (det : Detection) (cand : HoldCandidate) : HoldVerdict :=
  let gapS := Rounding.roundTo 3 cand.dt
  match freshFixPrediction lib m.geo m.frameTsS m.nodeWorld m.cache cand.hexn with
  | some ref =>
      if (ref.gate lib).Admits det then
        .claimed ⟨det.index, cand.hexn, fixRecord ref.state, cand.gate.predD, cand.gate.predF,
          { holdGapS := some gapS, fixRefreshed := true, calPred := some (ref.predD, ref.predF),
            calDr := some (ref.drLat, ref.drLon) }⟩
      else .dropped
  | none =>
      match cand.entry.fix with
      | some fix => .claimed ⟨det.index, cand.hexn, fix, cand.gate.predD, cand.gate.predF, { holdGapS := some gapS }⟩
      | none => .baseless

def dropHolds (verdicts : List (String × HoldVerdict)) (holds : Holds) : Holds :=
  verdicts.foldl (fun holds verdict => if verdict.2 = .dropped then holds.erase verdict.1 else holds) holds

/-- The holds that are left, and the claims. A node without a carrier frequency throws. -/
def claimHolds (m : Moment γ) (frame : Frame) (holds : Holds) (free : List Nat) (claimedHexes : List String) :
    Holds × Option (List Claim) :=
  if cfg.knownHoldMaxGapS ≤ 0 then (holds, some [])
  else
    let live := expireHolds cfg m.frameTsS holds
    let cands := holdCandidates cfg m.geo m.frameTsS live claimedHexes
    if free ≠ [] ∧ cands ≠ [] ∧ m.geo.fcHz = 0 then (live, none)
    else match assignGated lib frame free cands HoldCandidate.gate with
      | none => (live, none)
      | some pairs =>
          let verdicts := pairs.map fun pair => (pair.2.hexn, resolveHold lib m pair.1 pair.2)
          (dropHolds verdicts live, some (verdicts.filterMap fun verdict => verdict.2.claim?))

/-! ### Path 2: cached fixes -/

/-- A candidate the lane made itself carries the hex's original fix. -/
def fixClaim (det : Detection) (cand : Candidate) : Claim where
  index := det.index
  hexn := cand.hexn
  fix := cand.state.followFix.getD (fixRecord cand.state)
  predD := cand.predD
  predF := cand.predF
  extra := { follow := cand.state.followFix.isSome, calDr := some (cand.drLat, cand.drLon) }

def claimFixes (frame : Frame) (free : List Nat) (claimedHexes : List String) (cands : List Candidate) :
    Option (List Claim) :=
  (assignGated lib frame free (cands.filter fun cand => decide (cand.hexn ∉ claimedHexes)) (Candidate.gate lib)).map
    fun pairs => pairs.map fun pair => fixClaim pair.1 pair.2

/-! ### Path 3: followed dark tracks -/

structure FollowClaim where
  det : Detection
  cand : FollowCandidate
deriving DecidableEq, Repr

def FollowClaim.index (claim : FollowClaim) : Nat := claim.det.index

def FollowClaim.key (claim : FollowClaim) : String := claim.cand.key

def claimDarkFollow (m : Moment γ) (frame : Frame) (free : List Nat) (mode : LaneMode)
    (targets : Dict String FollowTarget) : Option (List FollowClaim) :=
  if mode = .off then some []
  else
    let cands := followCandidates lib cfg m.geo m.frameTsS m.nodeWorld targets
    (assignGated lib frame free cands FollowCandidate.gate).map fun pairs => pairs.map fun pair => ⟨pair.1, pair.2⟩

end

/-! ### What the paths claim -/

/-- The frame has a reading at the index and the gates admit it. -/
def Within (frame : Frame) (i : Nat) (gate : Gate) : Prop := ∃ det, detection frame i = some det ∧ gate.Admits det

section
variable {lib : Externals γ} {cfg : ClaimSettings}

theorem detection_of_mapM {frame : Frame} {free : List Nat} {dets : List Detection}
    (read : free.mapM (detection frame) = some dets) :
    dets.map Detection.index = free ∧ ∀ det ∈ dets, detection frame det.index = some det := by
  induction free generalizing dets with
  | nil =>
    obtain rfl : [] = dets := by simpa using read
    exact ⟨rfl, by simp⟩
  | cons i rest ih =>
    rw [List.mapM_cons] at read
    cases here : detection frame i with
    | none => simp [here] at read
    | some det =>
      cases later : rest.mapM (detection frame) with
      | none => simp [here, later] at read
      | some others =>
        obtain rfl : det :: others = dets := by simpa [here, later] using read
        obtain ⟨indices, readings⟩ := ih later
        have same : det.index = i := detection_index here
        refine ⟨by simp [same, indices], ?_⟩
        intro det' member
        rcases List.mem_cons.mp member with rfl | member
        · rw [same, here]
        · exact readings det' member

theorem mem_assignGated {frame : Frame} {free : List Nat} {cands : List κ} {gate : κ → Gate}
    (done : assignGated lib frame free cands gate = some pairs) (member : pair ∈ pairs) :
    pair.2 ∈ cands ∧ detection frame pair.1.index = some pair.1 ∧ (gate pair.2).Admits pair.1 := by
  simp only [assignGated] at done
  split at done
  · obtain rfl := Option.some.inj done
    cases member
  · split at done
    · cases done
    · rename_i dets read
      split at done
      · obtain rfl := Option.some.inj done
        obtain ⟨row, col, cheap⟩ := mem_assigned member
        exact ⟨col, (detection_of_mapM read).2 _ row, Gate.admits_of_cost_lt cheap⟩
      · cases done

/-- An assignment takes free detections and candidates, each once. -/
theorem allocates_assignGated {frame : Frame} {free : List Nat} {cands : List κ} {gate : κ → Gate} {name : κ → String}
    (done : assignGated lib frame free cands gate = some pairs) (distinct : free.Nodup)
    (names : (cands.map name).Nodup) :
    Allocates (fun pair : Detection × κ => pair.1.index) (fun pair => name pair.2) (· ∈ free) (· ∈ cands.map name)
      pairs := by
  simp only [assignGated] at done
  split at done
  · obtain rfl := Option.some.inj done
    exact .nil
  · split at done
    · cases done
    · rename_i dets read
      split at done
      · obtain rfl := Option.some.inj done
        have indices := (detection_of_mapM read).1
        have allocated : Allocates (fun pair : Detection × κ => pair.1.index) (fun pair => name pair.2)
            (· ∈ dets.map Detection.index) (· ∈ cands.map name) (assigned lib.linearSumAssignment
              (fun det cand => (gate cand).cost det) gateInfeasible dets cands) :=
          allocates_assigned (indices ▸ distinct) names
        exact allocated.mono (fun i listed => indices ▸ listed) fun n listed => listed
      · cases done

/-- A claim on a tag carries the tag's own position, as current at the frame. -/
def Tagged (tsMs : ℤ) (c : Claim) : Prop := c.fix.fixTsMs = tsMs ∧ c.extra = { calDr := some (c.fix.lat, c.fix.lon) }

/-- A tag adds a claim of its detection and its hex, or none. -/
theorem claimTag_cases {geo : NodeGeometry γ} (done : claimTag lib geo tsMs i tag claims = some result) :
    result = claims ∨ ∃ c : Claim, result = claims ++ [c] ∧ c.index = i ∧ c.hexn ≠ "" ∧
      c.hexn ∉ claims.map Claim.hexn ∧ Tagged tsMs c := by
  simp only [claimTag] at done
  split at done
  · exact .inl (Option.some.inj done).symm
  · rename_i unclaimed
    obtain ⟨named, unlisted⟩ := not_or.mp unclaimed
    split at done
    · obtain ⟨vel, -, rfl⟩ := Option.map_eq_some_iff.mp done
      exact .inr ⟨_, rfl, rfl, named, unlisted, rfl, rfl⟩
    · exact .inl (Option.some.inj done).symm

/-- Each tag claims its own detection, and no hex is tagged twice. -/
theorem claimTags_spec {geo : NodeGeometry γ} {tags : List (Option AdsbTag)} {claims : List Claim}
    (done : claimTags lib geo tsMs (tags.zipIdx start) claims = some result)
    (before : Allocates Claim.index Claim.hexn (· < start) (· ≠ "") claims) (reported : ∀ c ∈ claims, Tagged tsMs c) :
    Allocates Claim.index Claim.hexn (· < start + tags.length) (· ≠ "") result ∧ ∀ c ∈ result, Tagged tsMs c := by
  induction tags generalizing start claims with
  | nil =>
    obtain rfl : claims = result := by simpa [claimTags] using done
    exact ⟨before, reported⟩
  | cons item rest ih =>
    have shifted : start + (item :: rest).length = start + 1 + rest.length := by simp; omega
    rw [List.zipIdx_cons] at done
    rw [shifted]
    have passed : Allocates Claim.index Claim.hexn (· < start + 1) (· ≠ "") claims :=
      before.mono (fun i below => by omega) fun n named => named
    cases item with
    | none => exact ih done passed reported
    | some tag =>
      obtain ⟨next, here, later⟩ := Option.bind_eq_some_iff.mp done
      rcases claimTag_cases here with rfl | ⟨c, rfl, place, named, unlisted, tagged⟩
      · exact ih later passed reported
      · refine ih later (passed.append ⟨List.nodup_singleton _, List.nodup_singleton _, ?_, ?_⟩) ?_
        · intro claim member
          obtain rfl := List.mem_singleton.mp member
          refine ⟨by omega, fun taken => ?_⟩
          obtain ⟨other, listed, same⟩ := List.mem_map.mp taken
          have below := before.fromFree other listed
          omega
        · intro claim member
          obtain rfl := List.mem_singleton.mp member
          exact ⟨named, unlisted⟩
        · intro claim member
          rcases List.mem_append.mp member with old | new
          · exact reported claim old
          · obtain rfl := List.mem_singleton.mp new
            exact tagged

theorem tagClaims_spec {geo : NodeGeometry γ} {frame : Frame} (done : tagClaims lib geo tsMs frame = some tagged) :
    Allocates Claim.index Claim.hexn (· < (frame.delay.getD []).length) (fun _ => True) tagged ∧
      ∀ c ∈ tagged, Tagged tsMs c := by
  obtain ⟨allocated, reported⟩ := claimTags_spec done .nil (by simp)
  refine ⟨allocated.mono (fun i below => ?_) fun _ _ => trivial, reported⟩
  have taken : ((frame.adsb.getD []).take (frame.delay.getD []).length).length ≤ (frame.delay.getD []).length :=
    List.length_take_le _ _
  omega

/-- A claimed hold keeps the detection and the hex it matched. -/
theorem resolveHold_claimed {m : Moment γ} {det : Detection} {cand : HoldCandidate}
    (claimed : (resolveHold lib m det cand).claim? = some c) : c.index = det.index ∧ c.hexn = cand.hexn := by
  simp only [resolveHold] at claimed
  split at claimed
  · split at claimed
    · obtain rfl := Option.some.inj claimed
      exact ⟨rfl, rfl⟩
    · cases claimed
  · split at claimed
    · obtain rfl := Option.some.inj claimed
      exact ⟨rfl, rfl⟩
    · cases claimed

/-- A live fix of the hex agrees with a hold that is claimed. -/
theorem resolveHold_agrees {m : Moment γ} {det : Detection} {cand : HoldCandidate}
    (claimed : (resolveHold lib m det cand).claim? = some c)
    (fresh : freshFixPrediction lib m.geo m.frameTsS m.nodeWorld m.cache cand.hexn = some ref) :
    (ref.gate lib).Admits det := by
  simp only [resolveHold, fresh] at claimed
  split at claimed
  · assumption
  · cases claimed

/-- A held claim is the claim of a detection within the gates of a hold that the node had. -/
structure HeldBy (lib : Externals γ) (cfg : ClaimSettings) (m : Moment γ) (frame : Frame) (own : Holds) (c : Claim)
    (det : Detection) (entry : HoldEntry) : Prop where
  held : own.get? c.hexn = some entry
  read : detection frame c.index = some det
  admits : (holdGate cfg entry m.geo.fcHz m.frameTsS).Admits det
  claimed : (resolveHold lib m det (holdCandidate cfg m.geo m.frameTsS c.hexn entry)).claim? = some c

theorem claimHolds_spec {m : Moment γ} {frame : Frame} {holds : Holds} {free : List Nat} {claimedHexes : List String}
    (done : (claimHolds lib cfg m frame holds free claimedHexes).2 = some claims) (distinct : free.Nodup) :
    Allocates Claim.index Claim.hexn (· ∈ free) (· ∉ claimedHexes) claims ∧
      ∀ c ∈ claims, ∃ det entry, HeldBy lib cfg m frame holds c det entry := by
  simp only [claimHolds] at done
  split at done
  · obtain rfl := Option.some.inj done
    exact ⟨.nil, by simp⟩
  · split at done
    · cases done
    · split at done
      · cases done
      · rename_i pairs assigned_
        obtain rfl := Option.some.inj done
        rw [List.filterMap_map]
        have names : ((holdCandidates cfg m.geo m.frameTsS (expireHolds cfg m.frameTsS holds) claimedHexes).map
            HoldCandidate.hexn).Nodup := by
          rw [holdCandidates, List.map_map]
          exact (expireHolds cfg m.frameTsS holds).nodup.sublist (List.filter_sublist.map Prod.fst)
        constructor
        · refine ((allocates_assignGated assigned_ distinct names).filterMap
            (fun pair c made => (resolveHold_claimed made).1) fun pair c made => (resolveHold_claimed made).2).mono
            (fun i listed => listed) ?_
          intro hexn listed
          obtain ⟨cand, member, rfl⟩ := List.mem_map.mp listed
          obtain ⟨item, kept, rfl⟩ := List.mem_map.mp member
          exact of_decide_eq_true (List.mem_filter.mp kept).2
        · intro c member
          obtain ⟨pair, paired, made⟩ := List.mem_filterMap.mp member
          obtain ⟨place, name⟩ := resolveHold_claimed made
          obtain ⟨cand, reading, admits⟩ := mem_assignGated assigned_ paired
          obtain ⟨item, kept, built⟩ := List.mem_map.mp cand
          have held := (Dict.get?_eq_some_iff _ item.1 item.2).mpr (List.mem_filter.mp kept).1
          have claimed : (resolveHold lib m pair.1 pair.2).claim? = some c := made
          rw [← built] at name admits claimed
          have hexn : c.hexn = item.1 := name
          refine ⟨pair.1, item.2, ?_, place ▸ reading, admits, ?_⟩
          · rw [hexn]
            exact (Dict.get?_filter_some held).1
          · rw [hexn]
            exact claimed

theorem claimFixes_spec {frame : Frame} {free : List Nat} {claimedHexes : List String} {cands : List Candidate}
    (done : claimFixes lib frame free claimedHexes cands = some claims) (distinct : free.Nodup)
    (names : (cands.map Candidate.hexn).Nodup) :
    Allocates Claim.index Claim.hexn (· ∈ free) (· ∉ claimedHexes) claims ∧
      ∀ c ∈ claims, ∃ det, ∃ cand ∈ cands, c = fixClaim det cand ∧ detection frame c.index = some det ∧
        (cand.gate lib).Admits det := by
  obtain ⟨pairs, assigned_, rfl⟩ := Option.map_eq_some_iff.mp done
  have allocated := allocates_assignGated assigned_ distinct (names.sublist (List.filter_sublist.map Candidate.hexn))
  constructor
  · rw [← List.filterMap_eq_map]
    refine (allocated.filterMap (fun pair c made => ?_) fun pair c made => ?_).mono (fun i listed => listed) ?_
    · exact congrArg Claim.index (Option.some.inj made).symm
    · exact congrArg Claim.hexn (Option.some.inj made).symm
    · intro hexn listed
      obtain ⟨cand, member, rfl⟩ := List.mem_map.mp listed
      exact of_decide_eq_true (List.mem_filter.mp member).2
  · intro c member
    obtain ⟨pair, paired, rfl⟩ := List.mem_map.mp member
    obtain ⟨cand, reading, admits⟩ := mem_assignGated assigned_ paired
    exact ⟨pair.1, pair.2, (List.mem_filter.mp cand).1, rfl, reading, admits⟩

theorem claimDarkFollow_spec {m : Moment γ} {frame : Frame} {free : List Nat} {mode : LaneMode}
    {targets : Dict String FollowTarget} (done : claimDarkFollow lib cfg m frame free mode targets = some claims)
    (distinct : free.Nodup) :
    Allocates FollowClaim.index FollowClaim.key (· ∈ free) (fun _ => True) claims ∧
      ∀ c ∈ claims, c.cand ∈ followCandidates lib cfg m.geo m.frameTsS m.nodeWorld targets ∧
        Within frame c.index c.cand.gate := by
  simp only [claimDarkFollow] at done
  split at done
  · obtain rfl := Option.some.inj done
    exact ⟨.nil, by simp⟩
  · obtain ⟨pairs, assigned_, rfl⟩ := Option.map_eq_some_iff.mp done
    have names := targets.nodup_filterMap (f := fun item =>
      followCandidate lib cfg m.geo m.frameTsS m.nodeWorld item.1 item.2) FollowCandidate.key
      fun item cand made => followCandidate_key made
    have allocated := allocates_assignGated assigned_ distinct names
    constructor
    · rw [← List.filterMap_eq_map]
      refine (allocated.filterMap (fun pair c made => ?_) fun pair c made => ?_).mono (fun i listed => listed)
        fun _ _ => trivial
      · exact congrArg FollowClaim.index (Option.some.inj made).symm
      · exact congrArg FollowClaim.key (Option.some.inj made).symm
    · intro c member
      obtain ⟨pair, paired, rfl⟩ := List.mem_map.mp member
      obtain ⟨cand, reading, admits⟩ := mem_assignGated assigned_ paired
      exact ⟨cand, pair.1, reading, admits⟩

end

end Retina.Known
