import RetinaServer.Known.ClaimKnownTargets

/-! Arbitration in one frame: no detection and no hex is claimed twice over all the
paths, every claim by prediction lies inside its gates, and what a later path reads
does not change what an earlier one claims. -/
namespace Retina.Known
open Frames Assignment

section
variable {lib : Externals γ} {cfg : ClaimSettings} {scene : Scene γ} {nodeId : String} {m : Moment γ} {frame : Frame}
  {followClaimed : Option (Finset Nat)}

/-! ### Free indices -/

theorem mem_freeIndices (frame : Frame) (claims : List Claim) :
    i ∈ freeIndices frame claims ↔ i < (frame.delay.getD []).length ∧ i ∉ claims.map Claim.index := by
  simp [freeIndices]

theorem nodup_freeIndices (frame : Frame) (claims : List Claim) : (freeIndices frame claims).Nodup :=
  List.nodup_range.filter _

/-- A path on the free indices and the unclaimed hexes adds to the claims before it. -/
theorem Allocates.claims {before later : List Claim}
    (first : Allocates Claim.index Claim.hexn (· < (frame.delay.getD []).length) (fun _ => True) before)
    (second : Allocates Claim.index Claim.hexn (· ∈ freeIndices frame before) (· ∉ before.map Claim.hexn) later) :
    Allocates Claim.index Claim.hexn (· < (frame.delay.getD []).length) (fun _ => True) (before ++ later) :=
  first.append (second.mono (fun _ listed => (mem_freeIndices frame before).mp listed) fun _ fresh => ⟨trivial, fresh⟩)

/-! ### The stages -/

/-- A stage leaves what the paths before it claimed. -/
structure SameClaims (o o' : Outcome) : Prop where
  tagged : o'.tagged = o.tagged
  held : o'.held = o.held
  fixed : o'.fixed = o.fixed
  cands : o'.cands = o.cands

theorem SameClaims.claims (same : SameClaims o o') : o'.claims = o.claims := by
  rw [Outcome.claims, same.tagged, same.held, same.fixed, Outcome.claims]

theorem SameClaims.trans (first : SameClaims o o') (second : SameClaims o' o'') : SameClaims o o'' :=
  ⟨second.tagged.trans first.tagged, second.held.trans first.held, second.fixed.trans first.fixed,
    second.cands.trans first.cands⟩

theorem followStage_same (o : Outcome) :
    SameClaims o (followStage lib cfg scene nodeId m frame tsMs followClaimed o) := by
  simp only [followStage]
  split
  · exact ⟨rfl, rfl, rfl, rfl⟩
  · split <;> exact ⟨rfl, rfl, rfl, rfl⟩

theorem recordStage_same (o : Outcome) : SameClaims o (recordStage lib cfg scene nodeId m frame followClaimed o) := by
  simp only [recordStage]
  split
  · exact ⟨rfl, rfl, rfl, rfl⟩
  · split
    · refine SameClaims.trans ?_ (followStage_same _)
      exact ⟨rfl, rfl, rfl, rfl⟩
    · exact ⟨rfl, rfl, rfl, rfl⟩

/-- Path 3 takes what the others left, inside its gates, and its indices are returned apart from theirs. -/
structure Follows (lib : Externals γ) (cfg : ClaimSettings) (scene : Scene γ) (m : Moment γ) (frame : Frame)
    (followClaimed : Option (Finset Nat)) (o : Outcome) : Prop where
  allocated : Allocates FollowClaim.index FollowClaim.key (· ∈ freeIndices frame o.claims) (fun _ => True) o.followed
  within : ∀ c ∈ o.followed, c.cand ∈ followCandidates lib cfg m.geo m.frameTsS m.nodeWorld scene.followTargets ∧
    Within frame c.index c.cand.gate
  returned : ∀ claimed followed, o.verdict = .ok (claimed, followed) →
    claimed = (o.claims.map Claim.index).toFinset ∧
      followed = followClaimed.getD ∅ ∪ (o.followed.map FollowClaim.index).toFinset

theorem Follows.of_threw (unfollowed : o.followed = []) (thrown : o.verdict = threw) :
    Follows lib cfg scene m frame followClaimed o where
  allocated := unfollowed ▸ .nil
  within c member := by simp [unfollowed] at member
  returned claimed followed returned := by simp [thrown, threw] at returned

theorem followStage_follows (unfollowed : o.followed = []) :
    Follows lib cfg scene m frame followClaimed (followStage lib cfg scene nodeId m frame tsMs followClaimed o) := by
  simp only [followStage]
  split
  · refine ⟨?_, fun c member => by simp [unfollowed] at member, ?_⟩
    · simp only [unfollowed]
      exact .nil
    · intro claimed followed returned
      cases returned
      simp [Outcome.claims, unfollowed]
  · rename_i given
    split
    · exact .of_threw unfollowed rfl
    · rename_i claims done
      obtain ⟨allocated, within⟩ := claimDarkFollow_spec done (nodup_freeIndices frame o.claims)
      refine ⟨allocated, within, ?_⟩
      intro claimed followed returned
      cases returned
      exact ⟨rfl, rfl⟩

theorem recordStage_follows (unfollowed : o.followed = []) :
    Follows lib cfg scene m frame followClaimed (recordStage lib cfg scene nodeId m frame followClaimed o) := by
  simp only [recordStage]
  split
  · exact .of_threw unfollowed rfl
  · split
    · exact followStage_follows unfollowed
    · exact .of_threw unfollowed rfl

theorem holdStage_spec {tagged : List Claim} {stores : ClaimStores}
    (done : (holdStage lib cfg nodeId m frame tagged stores).2 = some held) :
    Allocates Claim.index Claim.hexn (· ∈ freeIndices frame tagged) (· ∉ tagged.map Claim.hexn) held ∧
      ∀ c ∈ held, ∃ own det entry, stores.knownTrackHolds.get? nodeId = some own ∧
        HeldBy lib cfg m frame own c det entry := by
  simp only [holdStage] at done
  split at done
  · obtain rfl := Option.some.inj done
    exact ⟨.nil, by simp⟩
  · rename_i own found
    obtain ⟨allocated, within⟩ := claimHolds_spec done (nodup_freeIndices frame tagged)
    refine ⟨allocated, fun c member => ?_⟩
    obtain ⟨det, entry, held⟩ := within c member
    exact ⟨own, det, entry, found, held⟩

/-- A claim by a fix is the claim of a detection within the gates of a candidate that the node can see, made of
the cached fix of its hex or else of the lane's own track. -/
structure FixedBy (lib : Externals γ) (m : Moment γ) (frame : Frame) (c : Claim) (det : Detection) (cand : Candidate) :
    Prop where
  claimed : c = fixClaim det cand
  read : detection frame c.index = some det
  admits : (cand.gate lib).Admits det
  visible : candidate lib m.geo m.frameTsS m.nodeWorld c.hexn cand.state = some cand
  source : (∃ rec, m.cache.get? c.hexn = some rec ∧ cand.state = CandState.ofRecord rec) ∨
    cand.state.followFix.isSome = true

structure ClaimFrameSpec (lib : Externals γ) (cfg : ClaimSettings) (scene : Scene γ) (nodeId : String) (m : Moment γ)
    (frame : Frame) (followClaimed : Option (Finset Nat)) (stores : ClaimStores) (o : Outcome) : Prop where
  claims : Allocates Claim.index Claim.hexn (· < (frame.delay.getD []).length) (fun _ => True) o.claims
  tagged : ∀ c ∈ o.tagged, Tagged (frameTsMs frame) c
  held : ∀ c ∈ o.held, ∃ own det entry, stores.knownTrackHolds.get? nodeId = some own ∧
    HeldBy lib cfg m frame own c det entry
  fixed : ∀ c ∈ o.fixed, ∃ det cand, FixedBy lib m frame c det cand
  follows : Follows lib cfg scene m frame followClaimed o

theorem claimFrame_spec (stores : ClaimStores) :
    ClaimFrameSpec lib cfg scene nodeId m frame followClaimed stores
      (claimFrame lib cfg scene nodeId m frame followClaimed stores) := by
  rw [claimFrame]
  split
  · exact ⟨.nil, by simp, by simp, by simp, .of_threw rfl rfl⟩
  · rename_i tagged tags
    obtain ⟨first, reported⟩ := tagClaims_spec tags
    simp only
    split
    · exact ⟨by simpa [Outcome.claims] using first, reported, by simp, by simp, .of_threw rfl rfl⟩
    · rename_i held holds
      obtain ⟨second, matched⟩ := holdStage_spec holds
      have both := Allocates.claims first second
      split
      · exact ⟨by simpa [Outcome.claims] using both, reported, matched, by simp, .of_threw rfl rfl⟩
      · rename_i fixed fixes
        obtain ⟨third, placed⟩ := claimFixes_spec fixes (nodup_freeIndices frame _)
          (nodup_candidates lib m.geo m.frameTsS m.nodeWorld _)
        refine ⟨?_, ?_, ?_, ?_, recordStage_follows rfl⟩
        · rw [(recordStage_same _).claims]
          exact Allocates.claims both third
        · rw [(recordStage_same _).tagged]
          exact reported
        · rw [(recordStage_same _).held]
          exact matched
        · rw [(recordStage_same _).fixed]
          intro c member
          obtain ⟨det, cand, listed, claimed, read, admits⟩ := placed c member
          obtain ⟨visible, source⟩ := mem_candidates lib listed
          have hexn : c.hexn = cand.hexn := congrArg Claim.hexn claimed
          rw [← hexn] at visible source
          exact ⟨det, cand, claimed, read, admits, visible, source⟩

/-! ### What is written down -/

theorem claims_recordClaims {stores : ClaimStores} {claims : List Claim}
    (complete : (recordClaims lib cfg scene m nodeId tsMs projections cands frame claims stores).complete = true) :
    (recordClaims lib cfg scene m nodeId tsMs projections cands frame claims stores).calibrated.map Calibrated.claim =
      claims := by
  induction claims generalizing stores with
  | nil => rfl
  | cons claim rest ih =>
    simp only [recordClaims] at complete ⊢
    split at complete
    · cases complete
    · rename_i det read
      simp only [List.map_cons, ih complete]

theorem followStage_calibrated (o : Outcome) :
    (followStage lib cfg scene nodeId m frame tsMs followClaimed o).calibrated = o.calibrated := by
  simp only [followStage]
  split
  · rfl
  · split <;> rfl

theorem recordStage_written {o : Outcome}
    (returned : (recordStage lib cfg scene nodeId m frame followClaimed o).verdict = .ok pair) :
    (recordStage lib cfg scene nodeId m frame followClaimed o).calibrated.map Calibrated.claim = o.claims := by
  rw [recordStage] at returned ⊢
  split at returned
  · cases returned
  · rename_i projections seen
    simp only at returned ⊢
    split at returned
    · rename_i complete
      simp only [complete, if_true, followStage_calibrated]
      exact claims_recordClaims complete
    · cases returned

/-- A frame that returns has written down every claim it made. -/
theorem claimFrame_written {stores : ClaimStores}
    (returned : (claimFrame lib cfg scene nodeId m frame followClaimed stores).verdict = .ok pair) :
    (claimFrame lib cfg scene nodeId m frame followClaimed stores).calibrated.map Calibrated.claim =
      (claimFrame lib cfg scene nodeId m frame followClaimed stores).claims := by
  rw [claimFrame] at returned ⊢
  split at returned
  · cases returned
  · rename_i tagged tags
    simp only at returned ⊢
    split at returned
    · cases returned
    · rename_i held holds
      split at returned
      · cases returned
      · rename_i fixed fixes
        rw [(recordStage_same _).claims]
        exact recordStage_written returned

/-! ### What each path depends on -/

theorem claimFrame_tagged (stores : ClaimStores) :
    (claimFrame lib cfg scene nodeId m frame followClaimed stores).tagged =
      (tagClaims lib m.geo (frameTsMs frame) frame).getD [] := by
  rw [claimFrame]
  cases tagClaims lib m.geo (frameTsMs frame) frame with
  | none => rfl
  | some tagged =>
    simp only
    split
    · rfl
    · split
      · rfl
      · exact (recordStage_same _).tagged

theorem claimFrame_held (stores : ClaimStores) :
    (claimFrame lib cfg scene nodeId m frame followClaimed stores).held =
      match tagClaims lib m.geo (frameTsMs frame) frame with
      | none => []
      | some tagged => (holdStage lib cfg nodeId m frame tagged stores).2.getD [] := by
  rw [claimFrame]
  cases tagClaims lib m.geo (frameTsMs frame) frame with
  | none => rfl
  | some tagged =>
    simp only
    cases (holdStage lib cfg nodeId m frame tagged stores).2 with
    | none => rfl
    | some held =>
      simp only
      split
      · rfl
      · exact (recordStage_same _).held

theorem claimFrame_fixed (stores : ClaimStores) :
    (claimFrame lib cfg scene nodeId m frame followClaimed stores).fixed =
      match tagClaims lib m.geo (frameTsMs frame) frame with
      | none => []
      | some tagged =>
          let h := holdStage lib cfg nodeId m frame tagged stores
          match h.2 with
          | none => []
          | some held =>
              let claimed := tagged ++ held
              (claimFixes lib frame (freeIndices frame claimed) (claimed.map Claim.hexn)
                (population lib cfg scene m claimed h.1.knownTrackHolds)).getD [] := by
  rw [claimFrame]
  cases tagClaims lib m.geo (frameTsMs frame) frame with
  | none => rfl
  | some tagged =>
    simp only
    cases (holdStage lib cfg nodeId m frame tagged stores).2 with
    | none => rfl
    | some held =>
      simp only
      cases claimFixes lib frame (freeIndices frame (tagged ++ held)) ((tagged ++ held).map Claim.hexn)
          (population lib cfg scene m (tagged ++ held) (holdStage lib cfg nodeId m frame tagged stores).1.knownTrackHolds) with
      | none => rfl
      | some fixed => exact (recordStage_same _).fixed

/-- The holds are resolved by the fixes of their own hexes alone. -/
theorem claimHolds_congr {holds : Holds} {cache' : AdsbStore} (free : List Nat) (claimedHexes : List String)
    (agree : ∀ hexn entry, holds.get? hexn = some entry → cache'.get? hexn = m.cache.get? hexn) :
    claimHolds lib cfg { m with cache := cache' } frame holds free claimedHexes =
      claimHolds lib cfg m frame holds free claimedHexes := by
  simp only [claimHolds]
  cases done : assignGated lib frame free
      (holdCandidates cfg m.geo m.frameTsS (expireHolds cfg m.frameTsS holds) claimedHexes) HoldCandidate.gate with
  | none => rfl
  | some pairs =>
    have resolved : (pairs.map fun pair => (pair.2.hexn, resolveHold lib { m with cache := cache' } pair.1 pair.2)) =
        pairs.map fun pair => (pair.2.hexn, resolveHold lib m pair.1 pair.2) := by
      refine List.map_congr_left fun pair member => ?_
      obtain ⟨item, kept, built⟩ := List.mem_map.mp (mem_assignGated done member).1
      have live := (Dict.get?_eq_some_iff _ item.1 item.2).mpr (List.mem_filter.mp kept).1
      have same := agree item.1 item.2 (Dict.get?_filter_some live).1
      simp only [resolveHold, freshFixPrediction, ← built, holdCandidate, same]
    simp only [resolved]

theorem holdStage_congr {cache' : AdsbStore} (tagged : List Claim) (stores : ClaimStores)
    (agree : ∀ own hexn entry, stores.knownTrackHolds.get? nodeId = some own → own.get? hexn = some entry →
      cache'.get? hexn = m.cache.get? hexn) :
    holdStage lib cfg nodeId { m with cache := cache' } frame tagged stores =
      holdStage lib cfg nodeId m frame tagged stores := by
  simp only [holdStage]
  split
  · rfl
  · rename_i own found
    rw [claimHolds_congr _ _ fun hexn entry listed => agree own hexn entry found listed]

end

section
variable (lib : Externals γ) (cfg : ClaimSettings) (scene : Scene γ) (nodeId : String) (frame : Frame)
  (followClaimed : Option (Finset Nat)) (stores : ClaimStores)

/-- A held claim matched a hold that the node had before the frame, and agrees with a live fix of its hex. -/
def HeldWithin (m : Moment γ) (c : Claim) : Prop :=
  ∃ own entry, stores.knownTrackHolds.get? nodeId = some own ∧ own.get? c.hexn = some entry ∧
    Within frame c.index (holdGate cfg entry m.geo.fcHz m.frameTsS) ∧
    ∀ ref, freshFixPrediction lib m.geo m.frameTsS m.nodeWorld m.cache c.hexn = some ref →
      Within frame c.index (ref.gate lib)

/-- A claim by a fix matched a candidate that the node can see: its cached fix, or else the lane's own track. -/
def FixedWithin (m : Moment γ) (c : Claim) : Prop :=
  ∃ cand, candidate lib m.geo m.frameTsS m.nodeWorld c.hexn cand.state = some cand ∧
    ((∃ rec, m.cache.get? c.hexn = some rec ∧ cand.state = CandState.ofRecord rec) ∨
      cand.state.followFix.isSome = true) ∧
    Within frame c.index (cand.gate lib)

/-- No detection and no hex is claimed twice, a claim by prediction lies inside its gates, and the indices
returned for the two lanes are apart. -/
structure Arbitrated (o : Outcome) : Prop where
  detections : (o.claims.map Claim.index ++ o.followed.map FollowClaim.index).Nodup
  hexes : (o.claims.map Claim.hexn).Nodup
  keys : (o.followed.map FollowClaim.key).Nodup
  held : ∀ c ∈ o.held, ∃ geo, scene.geometry = some geo ∧
    HeldWithin lib cfg nodeId frame stores (moment scene geo frame) c
  fixed : ∀ c ∈ o.fixed, ∃ geo, scene.geometry = some geo ∧ FixedWithin lib frame (moment scene geo frame) c
  followed : ∀ c ∈ o.followed, ∃ geo, scene.geometry = some geo ∧
    c.cand ∈ followCandidates lib cfg geo (frameTsS frame) scene.nodeWorld scene.followTargets ∧
    Within frame c.index c.cand.gate
  returned : ∀ claimed followed, o.verdict = .ok (claimed, followed) →
    claimed = (o.claims.map Claim.index).toFinset ∧
      followed = followClaimed.getD ∅ ∪ (o.followed.map FollowClaim.index).toFinset ∧
      Disjoint claimed (o.followed.map FollowClaim.index).toFinset

/-- What a path claims does not turn on what the paths after it read: not the tags on any store, not the holds on
the fixes of other hexes or the published tracks, and not the fixes on the follow targets. -/
structure Precedence : Prop where
  tags : ∀ scene' given stores', scene'.geometry = scene.geometry → scene'.config = scene.config →
    (claimKnownTargets lib cfg scene' nodeId frame given stores').tagged =
      (claimKnownTargets lib cfg scene nodeId frame followClaimed stores).tagged
  holds : ∀ scene' given, scene'.geometry = scene.geometry → scene'.config = scene.config →
    scene'.nodeWorld = scene.nodeWorld →
    (∀ own hexn entry, stores.knownTrackHolds.get? nodeId = some own → own.get? hexn = some entry →
      (adsbForSeeding scene'.polled scene'.adsbAircraft).get? hexn =
        (adsbForSeeding scene.polled scene.adsbAircraft).get? hexn) →
    (claimKnownTargets lib cfg scene' nodeId frame given stores).held =
      (claimKnownTargets lib cfg scene nodeId frame followClaimed stores).held
  fixes : ∀ targets mode given,
    (claimKnownTargets lib cfg { scene with followTargets := targets, darkFollowMode := mode } nodeId frame given
      stores).fixed = (claimKnownTargets lib cfg scene nodeId frame followClaimed stores).fixed

variable {lib cfg scene nodeId frame followClaimed stores}

theorem Arbitrated.of_unclaimed :
    Arbitrated lib cfg scene nodeId frame followClaimed stores { stores, verdict := .ok (∅, followClaimed.getD ∅) } where
  detections := List.nodup_nil
  hexes := List.nodup_nil
  keys := List.nodup_nil
  held := by simp
  fixed := by simp
  followed := by simp
  returned claimed followed returned := by
    cases returned
    simp [Outcome.claims]

theorem ClaimFrameSpec.arbitrated (placed : scene.geometry = some geo)
    (spec : ClaimFrameSpec lib cfg scene nodeId (moment scene geo frame) frame followClaimed stores o) :
    Arbitrated lib cfg scene nodeId frame followClaimed stores o where
  detections := by
    rw [List.nodup_append]
    refine ⟨spec.claims.places, spec.follows.allocated.places, ?_⟩
    intro i taken j follow same
    obtain ⟨c, member, rfl⟩ := List.mem_map.mp follow
    exact ((mem_freeIndices frame o.claims).mp (spec.follows.allocated.fromFree c member)).2 (same ▸ taken)
  hexes := spec.claims.names
  keys := spec.follows.allocated.names
  held c member := by
    obtain ⟨own, det, entry, found, held⟩ := spec.held c member
    exact ⟨geo, placed, own, entry, found, held.held, ⟨det, held.read, held.admits⟩,
      fun ref fresh => ⟨det, held.read, resolveHold_agrees held.claimed fresh⟩⟩
  fixed c member := by
    obtain ⟨det, cand, fixed⟩ := spec.fixed c member
    exact ⟨geo, placed, cand, fixed.visible, fixed.source, det, fixed.read, fixed.admits⟩
  followed c member := ⟨geo, placed, spec.follows.within c member⟩
  returned claimed followed returned := by
    obtain ⟨first, second⟩ := spec.follows.returned claimed followed returned
    refine ⟨first, second, ?_⟩
    rw [first, Finset.disjoint_left]
    intro i taken follow
    obtain ⟨c, member, rfl⟩ := List.mem_map.mp (List.mem_toFinset.mp follow)
    exact ((mem_freeIndices frame o.claims).mp (spec.follows.allocated.fromFree c member)).2 (List.mem_toFinset.mp taken)

theorem precedence : Precedence lib cfg scene nodeId frame followClaimed stores where
  tags scene' given stores' geometry config := by
    simp only [claimKnownTargets, geometry, config]
    split
    · split
      · rw [claimFrame_tagged, claimFrame_tagged]
        rfl
      · rfl
    · rfl
  holds scene' given geometry config nodeWorld agree := by
    simp only [claimKnownTargets, geometry, config]
    split
    · rename_i geo placed
      split
      · have same : moment scene' geo frame =
            { moment scene geo frame with cache := adsbForSeeding scene'.polled scene'.adsbAircraft } := by
          simp only [moment, nodeWorld]
        rw [claimFrame_held, claimFrame_held, same]
        cases tagClaims lib (moment scene geo frame).geo (frameTsMs frame) frame with
        | none => rfl
        | some tagged =>
          exact congrArg (fun h => h.2.getD []) (holdStage_congr (m := moment scene geo frame) tagged stores agree)
      · rfl
    · rfl
  fixes targets mode given := by
    simp only [claimKnownTargets]
    split
    · split
      · rw [claimFrame_fixed, claimFrame_fixed]
        rfl
      · rfl
    · rfl

/-- What leaves the dark pool is what a binding lane claimed, and no detection leaves it for both. -/
theorem mem_boundDetections (ctx : FrameContext Unit) (established : ctx.probation = false)
    (claiming : ctx.knownLaneMode ≠ .off) (filled : frame.delay.getD [] ≠ []) {o : Outcome}
    (arbitrated : Arbitrated lib cfg scene nodeId frame (some ∅) stores o) (returned : o.verdict = .ok pair) :
    i ∈ boundDetections ctx o.verdict frame ↔
      (ctx.knownLaneMode = .binding ∧ i ∈ o.claims.map Claim.index) ∨
        (ctx.darkFollowMode = .binding ∧ i ∈ o.followed.map FollowClaim.index) := by
  obtain ⟨first, second, -⟩ := arbitrated.returned pair.1 pair.2 returned
  simp only [boundDetections, returned, established, claiming, filled, Bool.false_eq_true, or_self, if_false, first,
    second, Option.getD_some, Finset.empty_union, Finset.mem_union]
  split <;> split <;> simp [*]

/-- Claim arbitration in one frame. -/
theorem claims_arbitrated (lib : Externals γ) (cfg : ClaimSettings) (scene : Scene γ) (nodeId : String) (frame : Frame)
    (followClaimed : Option (Finset Nat)) (stores : ClaimStores) :
    Arbitrated lib cfg scene nodeId frame followClaimed stores
        (claimKnownTargets lib cfg scene nodeId frame followClaimed stores) ∧
      Precedence lib cfg scene nodeId frame followClaimed stores := by
  refine ⟨?_, precedence⟩
  rw [claimKnownTargets]
  split
  · rename_i geo placed
    split
    · exact (claimFrame_spec stores).arbitrated placed
    · exact .of_unclaimed
  · exact .of_unclaimed

end

end Retina.Known
