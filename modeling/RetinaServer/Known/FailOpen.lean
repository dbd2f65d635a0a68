import RetinaServer.Known.Lifetimes

/-! What a frame whose claiming throws leaves behind. The claims are written down one
by one, so what throws between the first of them and the end leaves those before it
in the stores, while the caller goes on with the whole frame. -/
namespace Retina.Known
open Frames Lifetimes

/-- The claims a frame comes to write down, with what they are compared with. -/
structure Considered where
  claims : List Claim
  projections : List (ℚ × ℚ)
  cands : List Candidate

section
variable (lib : Externals γ) (cfg : ClaimSettings) (scene : Scene γ) (nodeId : String)

/-- None, where a path or the projections throw. -/
def considered (m : Moment γ) (frame : Frame) (stores : ClaimStores) : Option Considered :=
  (tagClaims lib m.geo (frameTsMs frame) frame).bind fun tagged =>
    let h := holdStage lib cfg nodeId m frame tagged stores
    h.2.bind fun held =>
      let claimed := tagged ++ held
      let cands := population lib cfg scene m claimed h.1.knownTrackHolds
      (claimFixes lib frame (freeIndices frame claimed) (claimed.map Claim.hexn) cands).bind fun fixed =>
        let claims := tagged ++ held ++ fixed
        (if claims = [] then some [] else darkGlobalProjections lib m.geo m.frameTsS scene.multinodeTracks).map
          fun projections => ⟨claims, projections, cands⟩

/-- Once the first claim is written down nothing throws: every claim has a reading, and path 3 goes through where it runs. -/
def GoesThrough (m : Moment γ) (frame : Frame) (followClaimed : Option (Finset Nat)) (c : Considered) : Prop :=
  ∀ first rest, c.claims = first :: rest → detection frame first.index ≠ none →
    (∀ claim ∈ rest, detection frame claim.index ≠ none) ∧
      (followClaimed ≠ none →
        claimDarkFollow lib cfg m frame (freeIndices frame c.claims) scene.darkFollowMode scene.followTargets ≠ none)

/-- Of the stores only holds may have gone. -/
structure NothingRecorded (before after : ClaimStores) : Prop where
  claims : after.knownClaims = before.knownClaims
  points : after.calibrationPoints = before.calibrationPoints
  holds : ∀ nodeId hexn e, heldEntry after nodeId hexn = some e → heldEntry before nodeId hexn = some e

/-- A frame whose claiming throws records nothing, and in binding mode what is recorded is kept from the dark lane. -/
structure FailsOpen (frame : Frame) (stores : ClaimStores) (o : Outcome) : Prop where
  unrecorded : ∀ exc, o.verdict = .error exc → o.calibrated = [] ∧ NothingRecorded stores o.stores
  apart : ∀ ctx : FrameContext Unit, ctx.probation = false → ctx.knownLaneMode = .binding → frame.delay.getD [] ≠ [] →
    ∀ entry ∈ o.calibrated, entry.det.index ∈ boundDetections ctx o.verdict frame

end

section
variable {lib : Externals γ} {cfg : ClaimSettings} {scene : Scene γ} {nodeId : String} {m : Moment γ} {frame : Frame}
  {followClaimed : Option (Finset Nat)} {tsMs : ℤ} {projections : List (ℚ × ℚ)} {cands : List Candidate}
  {stores : ClaimStores}

/-! ### The recording loop -/

/-- The loop goes through exactly when every claim has a reading. -/
theorem recordClaims_complete_iff (claims : List Claim) (stores : ClaimStores) :
    (recordClaims lib cfg scene m nodeId tsMs projections cands frame claims stores).complete = true ↔
      ∀ claim ∈ claims, detection frame claim.index ≠ none := by
  induction claims generalizing stores with
  | nil => simp [recordClaims]
  | cons claim rest ih =>
    simp only [recordClaims, List.forall_mem_cons]
    cases read : detection frame claim.index with
    | none => simp
    | some det => simp [ih]

/-- The loop leaves nothing exactly when there is no claim, or the first has no reading. -/
theorem recordClaims_calibrated_eq_nil_iff (claims : List Claim) (stores : ClaimStores) :
    (recordClaims lib cfg scene m nodeId tsMs projections cands frame claims stores).calibrated = [] ↔
      ∀ first rest, claims = first :: rest → detection frame first.index = none := by
  cases claims with
  | nil => simp [recordClaims]
  | cons claim rest =>
    simp only [recordClaims]
    cases read : detection frame claim.index with
    | none => simp [read]
    | some det => simp [read]

/-! ### The ways a frame's claiming goes -/

/-- What comes of a frame: no claim is written down, or those considered are, up to one without a
reading; if all have one, path 3 decides whether the claiming throws. -/
inductive Goes (lib : Externals γ) (cfg : ClaimSettings) (scene : Scene γ) (nodeId : String) (m : Moment γ) (frame : Frame)
    (followClaimed : Option (Finset Nat)) (stores : ClaimStores) (o : Outcome) : Prop where
  | thrown (unconsidered : considered lib cfg scene nodeId m frame stores = none) (calibrated : o.calibrated = [])
      (followed : o.followed = []) (verdict : o.verdict = threw)
  | written (c : Considered) (here : considered lib cfg scene nodeId m frame stores = some c) (before : ClaimStores)
      (claims : o.claims = c.claims) (projections : o.projections = c.projections) (cands : o.cands = c.cands)
      (calibrated : o.calibrated =
        (recordClaims lib cfg scene m nodeId (frameTsMs frame) c.projections c.cands frame c.claims before).calibrated)
      (followed : ∀ exc, o.verdict = .error exc → o.followed = [])
      (stopped : (∃ claim ∈ c.claims, detection frame claim.index = none) → o.verdict = threw)
      (finished : (∀ claim ∈ c.claims, detection frame claim.index ≠ none) →
        ((∃ exc, o.verdict = .error exc) ↔ followClaimed ≠ none ∧
          claimDarkFollow lib cfg m frame (freeIndices frame c.claims) scene.darkFollowMode scene.followTargets = none))

theorem followStage_thrown_iff (o : Outcome) :
    (∃ exc, (followStage lib cfg scene nodeId m frame tsMs followClaimed o).verdict = .error exc) ↔ followClaimed ≠ none ∧
      claimDarkFollow lib cfg m frame (freeIndices frame o.claims) scene.darkFollowMode scene.followTargets = none := by
  unfold followStage
  cases followClaimed with
  | none => simp
  | some given =>
    cases claimDarkFollow lib cfg m frame (freeIndices frame o.claims) scene.darkFollowMode scene.followTargets with
    | none => simp [threw]
    | some followed => simp

theorem followStage_followed {o : Outcome} (unfollowed : o.followed = [])
    (thrown : (followStage lib cfg scene nodeId m frame tsMs followClaimed o).verdict = .error exc) :
    (followStage lib cfg scene nodeId m frame tsMs followClaimed o).followed = [] := by
  unfold followStage at thrown ⊢
  split
  · exact unfollowed
  · split
    · exact unfollowed
    · rename_i followed done
      simp [done] at thrown

theorem followStage_projections (o : Outcome) :
    (followStage lib cfg scene nodeId m frame tsMs followClaimed o).projections = o.projections := by
  unfold followStage
  split
  · rfl
  · split <;> rfl

theorem claimFrame_goes (stores : ClaimStores) :
    Goes lib cfg scene nodeId m frame followClaimed stores
      (claimFrame lib cfg scene nodeId m frame followClaimed stores) := by
  rw [claimFrame]
  split
  · rename_i tags
    exact .thrown (by simp only [considered, tags, Option.bind_none]) rfl rfl rfl
  · rename_i tagged tags
    dsimp only
    split
    · rename_i holds
      exact .thrown (by simp only [considered, tags, holds, Option.bind_some, Option.bind_none]) rfl rfl rfl
    · rename_i held holds
      split
      · rename_i fixes
        exact .thrown (by simp only [considered, tags, holds, fixes, Option.bind_some, Option.bind_none]) rfl rfl rfl
      · rename_i fixed fixes
        rw [recordStage]
        split
        · rename_i unseen
          refine .thrown ?_ rfl rfl rfl
          simp only [considered, tags, holds, fixes, Option.bind_some, Option.map_eq_none_iff]
          exact unseen
        · rename_i projections seen
          have here : considered lib cfg scene nodeId m frame stores = some ⟨tagged ++ held ++ fixed, projections,
              population lib cfg scene m (tagged ++ held) (holdStage lib cfg nodeId m frame tagged stores).1.knownTrackHolds⟩ := by
            simp only [considered, tags, holds, fixes, Option.bind_some, Option.map_eq_some_iff]
            exact ⟨projections, seen, rfl⟩
          dsimp only
          split
          · rename_i complete
            have read := (recordClaims_complete_iff _ _).mp complete
            refine .written _ here (holdStage lib cfg nodeId m frame tagged stores).1 (followStage_same _).claims
              (followStage_projections _) (followStage_same _).cands (followStage_calibrated _)
              (fun exc thrown => followStage_followed rfl thrown) ?_ fun _ => followStage_thrown_iff _
            rintro ⟨claim, member, unread⟩
            exact absurd unread (read claim member)
          · rename_i incomplete
            refine .written _ here (holdStage lib cfg nodeId m frame tagged stores).1 rfl rfl rfl rfl (fun _ _ => rfl)
              (fun _ => rfl) fun read => ?_
            exact absurd ((recordClaims_complete_iff _ _).mpr read) incomplete

/-! ### When claiming fails open -/

theorem Goes.calibrated_of_error (goes : Goes lib cfg scene nodeId m frame followClaimed stores o)
    (through : ∀ c, considered lib cfg scene nodeId m frame stores = some c → GoesThrough lib cfg scene m frame followClaimed c)
    (thrown : o.verdict = .error exc) : o.calibrated = [] := by
  cases goes with
  | thrown unconsidered calibrated followed verdict => exact calibrated
  | written c here before claims projections cands calibrated followed stopped finished =>
    rw [calibrated, recordClaims_calibrated_eq_nil_iff]
    intro first rest shape
    by_contra read
    obtain ⟨others, path⟩ := through c here first rest shape read
    have all : ∀ claim ∈ c.claims, detection frame claim.index ≠ none := by
      rw [shape]
      exact List.forall_mem_cons.mpr ⟨read, others⟩
    obtain ⟨given, stopped⟩ := (finished all).mp ⟨exc, thrown⟩
    exact path given stopped

theorem Goes.through_of_unrecorded (goes : Goes lib cfg scene nodeId m frame followClaimed stores o)
    (unrecorded : ∀ exc, o.verdict = .error exc → o.calibrated = []) (c : Considered)
    (here : considered lib cfg scene nodeId m frame stores = some c) : GoesThrough lib cfg scene m frame followClaimed c := by
  intro first rest shape read
  cases goes with
  | thrown unconsidered =>
    rw [unconsidered] at here
    cases here
  | written c' here' before claims projections cands calibrated followed stopped finished =>
    obtain rfl : c' = c := Option.some.inj (here'.symm.trans here)
    have recorded : o.calibrated ≠ [] := by
      rw [calibrated, ne_eq, recordClaims_calibrated_eq_nil_iff]
      exact fun unread => read (unread first rest shape)
    have all : ∀ claim ∈ c'.claims, detection frame claim.index ≠ none := fun claim member unread =>
      recorded (unrecorded _ (stopped ⟨claim, member, unread⟩))
    refine ⟨fun claim member => all claim (shape ▸ List.mem_cons_of_mem first member), fun given throws => ?_⟩
    obtain ⟨exc, thrown⟩ := (finished all).mpr ⟨given, throws⟩
    exact recorded (unrecorded exc thrown)

theorem Goes.followed_of_error (goes : Goes lib cfg scene nodeId m frame followClaimed stores o)
    (thrown : o.verdict = .error exc) : o.followed = [] := by
  cases goes with
  | thrown unconsidered calibrated followed => exact followed
  | written c here before claims projections cands calibrated followed => exact followed exc thrown

/-- Where neither a claim nor a follow is written down, the stores are as they were but for holds that have gone. -/
theorem nothingRecorded {o : Outcome} (accounts : Accounts cfg nodeId tsMs stores o)
    (records : Records lib cfg scene m nodeId frame stores o) (uncalibrated : o.calibrated = []) (unfollowed : o.followed = []) :
    NothingRecorded stores o.stores where
  claims := by
    have written := accounts.claims
    rw [recorded, uncalibrated, unfollowed] at written
    exact written
  points := by
    obtain ⟨before, claims, -, points, -, calibrated, -, left⟩ := records.records
    rw [left, points_recordClaims, ← calibrated, uncalibrated, points]
    simp
  holds n hexn e held := by
    have written := accounts.holds n hexn e held
    rw [uncalibrated] at written
    simpa using written

/-- What a frame that returns has written down is bound by a binding lane. -/
theorem bound_of_returned {o : Outcome} (here : claimFrame lib cfg scene nodeId m frame followClaimed stores = o)
    (returned : o.verdict = .ok pair) (taken : pair.1 = (o.claims.map Claim.index).toFinset)
    (ctx : FrameContext Unit) (established : ctx.probation = false) (binding : ctx.knownLaneMode = .binding)
    (filled : frame.delay.getD [] ≠ []) (member : entry ∈ o.calibrated) :
    entry.det.index ∈ boundDetections ctx o.verdict frame := by
  obtain ⟨listed, judged⟩ := claimFrame_judged stores o here entry member
  have index : entry.det.index = entry.claim.index := detection_index judged.read
  have claimed : entry.det.index ∈ pair.1 := by
    rw [taken, index]
    exact List.mem_toFinset.mpr (List.mem_map_of_mem listed)
  simp only [boundDetections, returned, established, binding, filled, Bool.false_eq_true, reduceCtorEq, or_self, if_false,
    if_true, Finset.mem_union]
  exact .inl claimed

end

variable (lib : Externals γ) (cfg : ClaimSettings) (scene : Scene γ) (nodeId : String) (frame : Frame)
  (followClaimed : Option (Finset Nat)) (stores : ClaimStores)

/-- A frame whose node tags both of its detections and has lost the second Doppler reading. -/
def shortFrame : Frame where
  delay := some [20, 30]
  doppler := some [0]
  snr := none
  adsb := some [some { hex := some "abc123", lat := some 34, lon := some (-82) },
    some { hex := some "def456", lat := some 35, lon := some (-82) }]
  timestamp := some 1000000

end Retina.Known
