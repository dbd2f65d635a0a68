import RetinaServer.Known.Arbitration
import RetinaServer.Library.Runs

/-! The documented rules of calibration over whole runs of the claiming stage: when
every point that is recorded satisfies them all. The store of streaks is read
against the log of the claims made. -/
namespace Retina.Known
open Frames Runs Assignment Streak

section
variable {lib : Externals γ} {cfg : ClaimSettings} {scene : Scene γ} {nodeId : String} {m : Moment γ} {frame : Frame}
  {followClaimed : Option (Finset Nat)} {tsMs : ℤ} {projections : List (ℚ × ℚ)} {cands : List Candidate} {claim : Claim}

/-! ### A frame's claims in calibration -/

abbrev ClaimLog := List ((String × String) × ℤ)

def Calibrated.event (nodeId : String) (tsMs : ℤ) (entry : Calibrated) : (String × String) × ℤ :=
  ((nodeId, entry.claim.hexn), tsMs)

def CalibrationVerdict.point? : CalibrationVerdict → Option CalibrationPoint
  | .recorded point => some point
  | _ => none

/-- A claim is tallied whether or not it counts. -/
theorem tallied_calibration (tallied : Tallied Spaced streaks log) :
    Tallied Spaced (calibrationFromClaim lib nodeId claim det m.frameTsS tsMs contested cands nowS streaks).1
      (log ++ [((nodeId, claim.hexn), tsMs)]) := by
  rw [calibrationFromClaim]
  split
  · exact tallied.mono _
  · exact tallied.touch fun key' e found => get?_touchClaimStreak found

theorem tallied_recordClaims {stores : ClaimStores} (tallied : Tallied Spaced stores.claimStreaks log)
    (claims : List Claim) :
    let r := recordClaims lib cfg scene m nodeId tsMs projections cands frame claims stores
    Tallied Spaced r.stores.claimStreaks (log ++ r.calibrated.map (Calibrated.event nodeId tsMs)) := by
  induction claims generalizing stores log with
  | nil => simpa [recordClaims] using tallied
  | cons claim rest ih =>
    simp only [recordClaims]
    split
    · simpa using tallied
    · rename_i det read
      have here : Tallied Spaced (recordClaim lib cfg scene m nodeId tsMs projections cands claim det stores).1.claimStreaks
          (log ++ [((nodeId, claim.hexn), tsMs)]) := tallied_calibration tallied
      simpa [Calibrated.event] using ih here

/-- What calibration decides of a claim turns on the streak of its own node and hex. -/
theorem calibrationFromClaim_congr (same : streakCount streaks (nodeId, claim.hexn) tsMs =
      streakCount streaks' (nodeId, claim.hexn) tsMs) :
    (calibrationFromClaim lib nodeId claim det m.frameTsS tsMs contested cands nowS streaks).2 =
      (calibrationFromClaim lib nodeId claim det m.frameTsS tsMs contested cands nowS streaks').2 := by
  rw [calibrationFromClaim, calibrationFromClaim, same]
  split <;> rfl

theorem streakCount_calibration_ne (other : claim.hexn ≠ hexn) :
    streakCount (calibrationFromClaim lib nodeId claim det m.frameTsS tsMs contested cands nowS streaks).1 (nodeId, hexn)
      tsMs = streakCount streaks (nodeId, hexn) tsMs := by
  rw [calibrationFromClaim]
  split
  · rfl
  · exact streakCount_touch_ne streaks (fun same => other (Prod.mk.inj same).2) tsMs

/-- A claim as it was judged by the streaks the frame began with. -/
structure Judged (lib : Externals γ) (scene : Scene γ) (m : Moment γ) (nodeId : String) (frame : Frame)
    (projections : List (ℚ × ℚ)) (cands : List Candidate) (streaks : Streaks) (entry : Calibrated) : Prop where
  read : detection frame entry.claim.index = some entry.det
  contested : entry.contested = isContested lib entry.det projections
  verdict : entry.verdict = (calibrationFromClaim lib nodeId entry.claim entry.det m.frameTsS (frameTsMs frame)
    entry.contested cands scene.nowS streaks).2

/-- Hexes being claimed once, no claim of a frame moves the streak that another is judged by. -/
theorem judged_recordClaims {stores : ClaimStores} {claims : List Claim} (distinct : (claims.map Claim.hexn).Nodup)
    (same : ∀ claim ∈ claims, streakCount stores.claimStreaks (nodeId, claim.hexn) (frameTsMs frame) =
      streakCount streaks (nodeId, claim.hexn) (frameTsMs frame)) :
    ∀ entry ∈ (recordClaims lib cfg scene m nodeId (frameTsMs frame) projections cands frame claims stores).calibrated,
      entry.claim ∈ claims ∧ Judged lib scene m nodeId frame projections cands streaks entry := by
  induction claims generalizing stores with
  | nil => simp [recordClaims]
  | cons claim rest ih =>
    obtain ⟨unlisted, distinct⟩ := List.nodup_cons.mp distinct
    simp only [recordClaims]
    split
    · simp
    · rename_i det read
      intro entry member
      rcases List.mem_cons.mp member with rfl | later
      · exact ⟨List.mem_cons_self, read, rfl, calibrationFromClaim_congr (same claim List.mem_cons_self)⟩
      · have unmoved : ∀ c ∈ rest, streakCount
            (recordClaim lib cfg scene m nodeId (frameTsMs frame) projections cands claim det stores).1.claimStreaks
            (nodeId, c.hexn) (frameTsMs frame) = streakCount streaks (nodeId, c.hexn) (frameTsMs frame) := by
          intro c listed
          have other : claim.hexn ≠ c.hexn := fun equal => unlisted (equal ▸ List.mem_map_of_mem listed)
          exact (streakCount_calibration_ne other).trans (same c (List.mem_cons_of_mem claim listed))
        obtain ⟨listed, judged⟩ := ih distinct unmoved entry later
        exact ⟨List.mem_cons_of_mem claim listed, judged⟩

theorem points_recordClaims (claims : List Claim) (stores : ClaimStores) :
    let r := recordClaims lib cfg scene m nodeId tsMs projections cands frame claims stores
    r.stores.calibrationPoints = stores.calibrationPoints ++ r.calibrated.filterMap fun entry => entry.verdict.point? := by
  induction claims generalizing stores with
  | nil => simp [recordClaims]
  | cons claim rest ih =>
    simp only [recordClaims]
    split
    · simp
    · rename_i det read
      simp only [ih, List.filterMap_cons]
      simp only [recordClaim]
      split <;> rename_i verdict <;> simp [verdict, CalibrationVerdict.point?]

/-- The claims that come to calibration in a frame, and what they leave of the streaks and the points. -/
structure Records (lib : Externals γ) (cfg : ClaimSettings) (scene : Scene γ) (m : Moment γ) (nodeId : String)
    (frame : Frame) (stores : ClaimStores) (o : Outcome) : Prop where
  records : ∃ before claims, before.claimStreaks = stores.claimStreaks ∧
    before.calibrationPoints = stores.calibrationPoints ∧ (claims = [] ∨ claims = o.claims) ∧
    let r := recordClaims lib cfg scene m nodeId (frameTsMs frame) o.projections o.cands frame claims before
    o.calibrated = r.calibrated ∧ o.stores.claimStreaks = r.stores.claimStreaks ∧
      o.stores.calibrationPoints = r.stores.calibrationPoints

theorem Records.of_uncalibrated {o : Outcome} (uncalibrated : o.calibrated = [])
    (streaks : o.stores.claimStreaks = stores.claimStreaks)
    (points : o.stores.calibrationPoints = stores.calibrationPoints) : Records lib cfg scene m nodeId frame stores o where
  records := ⟨o.stores, [], streaks, points, .inl rfl, by simp [recordClaims, uncalibrated]⟩

/-- Path 3 neither calibrates nor touches a streak. -/
theorem followStage_records {o : Outcome} (records : Records lib cfg scene m nodeId frame stores o) :
    Records lib cfg scene m nodeId frame stores (followStage lib cfg scene nodeId m frame tsMs followClaimed o) := by
  obtain ⟨before, claims, streaks, points, reached, calibrated⟩ := records.records
  have claimed : (followStage lib cfg scene nodeId m frame tsMs followClaimed o).claims = o.claims :=
    (followStage_same o).claims
  refine ⟨before, claims, streaks, points, claimed ▸ reached, ?_⟩
  simp only [followStage]
  split
  · exact calibrated
  · split
    · exact calibrated
    · exact calibrated

theorem recordStage_records {o : Outcome} (uncalibrated : o.calibrated = [])
    (streaks : o.stores.claimStreaks = stores.claimStreaks)
    (points : o.stores.calibrationPoints = stores.calibrationPoints) :
    Records lib cfg scene m nodeId frame stores (recordStage lib cfg scene nodeId m frame followClaimed o) := by
  simp only [recordStage]
  split
  · exact .of_uncalibrated uncalibrated streaks points
  · split
    · exact followStage_records ⟨o.stores, o.claims, streaks, points, .inr rfl, rfl, rfl, rfl⟩
    · exact ⟨o.stores, o.claims, streaks, points, .inr rfl, rfl, rfl, rfl⟩

theorem holdStage_streaks (tagged : List Claim) (stores : ClaimStores) :
    (holdStage lib cfg nodeId m frame tagged stores).1.claimStreaks = stores.claimStreaks ∧
      (holdStage lib cfg nodeId m frame tagged stores).1.calibrationPoints = stores.calibrationPoints := by
  rw [holdStage]
  split <;> exact ⟨rfl, rfl⟩

theorem claimFrame_records (stores : ClaimStores) :
    Records lib cfg scene m nodeId frame stores (claimFrame lib cfg scene nodeId m frame followClaimed stores) := by
  rw [claimFrame]
  split
  · exact .of_uncalibrated rfl rfl rfl
  · rename_i tagged tags
    obtain ⟨streaks, points⟩ : (holdStage lib cfg nodeId m frame tagged stores).1.claimStreaks = stores.claimStreaks ∧
        (holdStage lib cfg nodeId m frame tagged stores).1.calibrationPoints = stores.calibrationPoints :=
      holdStage_streaks tagged stores
    simp only
    split
    · exact .of_uncalibrated rfl streaks points
    · split
      · exact .of_uncalibrated rfl streaks points
      · exact recordStage_records rfl streaks points

/-! ### What a claim rests on -/

/-- The claim rests on what its hex's transponder reported: a tag of the frame, or a cached fix that is carried to
the frame, with the prediction made there and the position it was made from. -/
def OnTransponder (lib : Externals γ) (m : Moment γ) (tsMs : ℤ) (c : Claim) : Prop :=
  (c.fix.fixTsMs = tsMs ∧ c.reference = (c.predD, c.predF) ∧ c.extra.calDr = some (c.fix.lat, c.fix.lon)) ∨
  ∃ rec, m.cache.get? c.hexn = some rec ∧
    let cand := predicted lib m.geo m.frameTsS c.hexn (CandState.ofRecord rec)
    c.fix = fixRecord (CandState.ofRecord rec) ∧ c.reference = (cand.predD, cand.predF) ∧
      c.extra.calDr = some (cand.drLat, cand.drLon)

theorem freshFixPrediction_eq {geo : NodeGeometry γ} {cache : AdsbStore}
    (fresh : freshFixPrediction lib geo frameTsS_ nodeWorld cache hexn = some ref) :
    ∃ rec, cache.get? hexn = some rec ∧ ref = predicted lib geo frameTsS_ hexn (CandState.ofRecord rec) := by
  simp only [freshFixPrediction] at fresh
  split at fresh
  · cases fresh
  · rename_i rec found
    split at fresh
    · cases fresh
    · split at fresh
      · cases fresh
      · exact ⟨rec, found, (Option.some.inj fresh).symm⟩

theorem HeldBy.onTransponder (held : HeldBy lib cfg m frame own c det entry) (withFix : c.withoutFix = false) :
    OnTransponder lib m tsMs c := by
  have claimed := held.claimed
  simp only [resolveHold, holdCandidate] at claimed
  split at claimed
  · rename_i ref fresh
    split at claimed
    · obtain ⟨rec, found, rfl⟩ := freshFixPrediction_eq fresh
      have made := Option.some.inj claimed
      exact .inr ⟨rec, found, by rw [← made]; rfl, by rw [← made]; rfl, by rw [← made]⟩
    · cases claimed
  · split at claimed
    · have made := Option.some.inj claimed
      rw [← made] at withFix
      cases withFix
    · cases claimed

theorem FixedBy.onTransponder (fixed : FixedBy lib m frame c det cand) (withFix : c.withoutFix = false) :
    OnTransponder lib m tsMs c := by
  have predicted_ := (candidate_eq fixed.visible).1
  rcases fixed.source with ⟨rec, found, state⟩ | follow
  · rw [state] at predicted_
    rw [fixed.claimed] at found predicted_ ⊢
    refine .inr ⟨rec, found, ?_, ?_, ?_⟩
    · rw [fixClaim, state]
      rfl
    · rw [← predicted_]
      rfl
    · rw [← predicted_]
      rfl
  · rw [fixed.claimed] at withFix
    simp [Claim.withoutFix, fixClaim, follow] at withFix

theorem ClaimFrameSpec.onTransponder
    (spec : ClaimFrameSpec lib cfg scene nodeId m frame followClaimed stores o) (member : c ∈ o.claims)
    (withFix : c.withoutFix = false) : OnTransponder lib m (frameTsMs frame) c := by
  rcases List.mem_append.mp member with member | fixed
  · rcases List.mem_append.mp member with tagged | held
    · obtain ⟨stamped, extra⟩ := spec.tagged c tagged
      exact .inl ⟨stamped, by rw [Claim.reference, extra]; rfl, by rw [extra]⟩
    · obtain ⟨own, det, entry, -, held⟩ := spec.held c held
      exact held.onTransponder withFix
  · obtain ⟨det, cand, fixed⟩ := spec.fixed c fixed
    exact fixed.onTransponder withFix

theorem claimFrame_judged (stores : ClaimStores) (o : Outcome)
    (here : claimFrame lib cfg scene nodeId m frame followClaimed stores = o) :
    ∀ entry ∈ o.calibrated, entry.claim ∈ o.claims ∧
      Judged lib scene m nodeId frame o.projections o.cands stores.claimStreaks entry := by
  have spec : ClaimFrameSpec lib cfg scene nodeId m frame followClaimed stores o := here ▸ claimFrame_spec stores
  have records : Records lib cfg scene m nodeId frame stores o := here ▸ claimFrame_records stores
  obtain ⟨before, claims, streaks, -, reached, calibrated, -⟩ := records.records
  intro entry member
  rw [calibrated] at member
  rcases reached with rfl | rfl
  · simp [recordClaims] at member
  · exact judged_recordClaims spec.claims.names (fun claim _ => by rw [streaks]) entry member

theorem claimFrame_tallied {stores : ClaimStores} (tallied : Tallied Spaced stores.claimStreaks log) (o : Outcome)
    (here : claimFrame lib cfg scene nodeId m frame followClaimed stores = o) :
    Tallied Spaced o.stores.claimStreaks (log ++ o.calibrated.map (Calibrated.event nodeId (frameTsMs frame))) := by
  have records : Records lib cfg scene m nodeId frame stores o := here ▸ claimFrame_records stores
  obtain ⟨before, claims, streaks, -, -, calibrated, after, -⟩ := records.records
  rw [calibrated, after]
  exact tallied_recordClaims (streaks ▸ tallied) claims

end

/-! ### Runs -/

/-- The documented rules for a recorded point: a live fix behind the claim, fresh at the frame, a tight residual
against it, no other explanation of the detection, and a link of several claims. -/
structure CalibrationRules (lib : Externals γ) (m : Moment γ) (tsMs : ℤ) (projections : List (ℚ × ℚ))
    (cands : List Candidate) (times : List ℤ) (entry : Calibrated) (point : CalibrationPoint) : Prop where
  transponder : OnTransponder lib m tsMs entry.claim
  fresh : |entry.claim.fix.ageS m.frameTsS| ≤ calMaxAdsbAgeS
  tight : |entry.det.delayUs - entry.claim.reference.1| ≤ calClaimDelayUs ∧
    |entry.det.dopplerHz - entry.claim.reference.2| ≤ calClaimDopplerHz
  uncontested : ∀ pred ∈ projections, ¬ (|pred.1 - entry.det.delayUs| ≤ lib.claimDelayGateUs ∧
    |pred.2 - entry.det.dopplerHz| ≤ lib.claimDopplerGateHz)
  unrivalled : ∀ cand ∈ cands, cand.hexn ≠ entry.claim.hexn → ¬ (cand.gate lib).Admits entry.det
  mature : ∃ n, calClaimMinClaims ≤ n ∧ Run Spaced times n tsMs
  position : entry.claim.extra.calDr = some (point.lat, point.lon)
  placed : validLatlon point.lat point.lon = true

/-- A frame of a node is claimed in the server as it is then, or the stores are swept. -/
inductive ClaimEvent (γ : Type) where
  | received (scene : Scene γ) (nodeId : String) (frame : Frame) (followClaimed : Option (Finset Nat))
  | swept (nowS : ℚ)

/-- The stores, beside the log of the claims that came to calibration. -/
structure TracedClaims where
  stores : ClaimStores
  log : ClaimLog

def TracedClaims.start : TracedClaims := ⟨.empty, []⟩

section
variable (lib : Externals γ) (cfg : ClaimSettings)

def claimStep (t : TracedClaims) : ClaimEvent γ → TracedClaims
  | .received scene nodeId frame followClaimed =>
      let o := claimKnownTargets lib cfg scene nodeId frame followClaimed t.stores
      ⟨o.stores, t.log ++ o.calibrated.map (Calibrated.event nodeId (frameTsMs frame))⟩
  | .swept nowS => ⟨sweepClaims nowS t.stores, t.log⟩

/-- Every point the frame records satisfies the documented rules. -/
def Sound (t : TracedClaims) : ClaimEvent γ → Prop
  | .received scene nodeId frame followClaimed =>
      let o := claimKnownTargets lib cfg scene nodeId frame followClaimed t.stores
      let log := t.log ++ o.calibrated.map (Calibrated.event nodeId (frameTsMs frame))
      ∀ entry ∈ o.calibrated, ∀ point, entry.verdict = .recorded point → ∃ geo, scene.geometry = some geo ∧
        CalibrationRules lib (moment scene geo frame) (frameTsMs frame) o.projections o.cands
          (timesOf log (nodeId, entry.claim.hexn)) entry point
  | .swept _ => True

/-- No claim that passes the other rules carries a fix stamped further ahead of the frame than a fix may be old. -/
def NoneAhead (t : TracedClaims) : ClaimEvent γ → Prop
  | .received scene nodeId frame followClaimed =>
      let o := claimKnownTargets lib cfg scene nodeId frame followClaimed t.stores
      ∀ entry ∈ o.calibrated,
        PassesOthers lib nodeId entry.claim entry.det entry.contested o.cands
          (streakCount t.stores.claimStreaks (nodeId, entry.claim.hexn) (frameTsMs frame)) →
        (entry.claim.fix.fixTsMs : ℚ) / 1000 - frameTsS frame ≤ calMaxAdsbAgeS
  | .swept _ => True

variable {lib cfg}

/-- A judged claim that passes the other rules is recorded, and by the rules, unless its fix is ahead of the frame. -/
theorem Judged.sound_iff {scene : Scene γ} {m : Moment γ} {frame : Frame} {streaks : Streaks} {log : ClaimLog}
    (judged : Judged lib scene m nodeId frame projections cands streaks entry)
    (onTransponder : entry.claim.withoutFix = false → OnTransponder lib m (frameTsMs frame) entry.claim)
    (tallied : Tallied Spaced streaks log) (logged : [((nodeId, entry.claim.hexn), frameTsMs frame)].Sublist later) :
    (∀ point, entry.verdict = .recorded point → CalibrationRules lib m (frameTsMs frame) projections cands
        (timesOf (log ++ later) (nodeId, entry.claim.hexn)) entry point) ↔
      (PassesOthers lib nodeId entry.claim entry.det entry.contested cands
          (streakCount streaks (nodeId, entry.claim.hexn) (frameTsMs frame)) →
        (entry.claim.fix.fixTsMs : ℚ) / 1000 - m.frameTsS ≤ calMaxAdsbAgeS) := by
  rw [judged.verdict]
  constructor
  · intro sound passes
    by_cases old : entry.claim.fix.ageS m.frameTsS ≤ calMaxAdsbAgeS
    · obtain ⟨point, recorded⟩ := (calibrationFromClaim_recorded_iff lib).mpr ⟨passes, old⟩
      have fresh := (abs_le.mp (sound point recorded).fresh).1
      rw [Fix.ageS] at fresh
      linarith
    · rw [Fix.ageS, not_le] at old
      have nonneg : (0 : ℚ) ≤ calMaxAdsbAgeS := by decide +kernel
      linarith
  · intro notAhead point recorded
    obtain ⟨passes, old⟩ := (calibrationFromClaim_recorded_iff lib).mp ⟨point, recorded⟩
    have ahead := notAhead passes
    obtain ⟨-, -, position⟩ := point_of_recorded lib recorded
    obtain ⟨pos, carried, valid⟩ := passes.placed
    have run : Run Spaced (timesOf (log ++ later) (nodeId, entry.claim.hexn)) _ (frameTsMs frame) :=
      (tallied.run_next (nodeId, entry.claim.hexn) (frameTsMs frame)).mono
        ((((List.Sublist.refl log).append logged).filter _).map Prod.snd)
    refine ⟨onTransponder passes.withFix, ?_, passes.tight, ?_, ?_, ⟨_, passes.mature, run⟩, position, ?_⟩
    · rw [Fix.ageS] at old ⊢
      exact abs_le.mpr ⟨by linarith, old⟩
    · intro pred listed within
      have contested : isContested lib entry.det projections = true :=
        List.any_eq_true.mpr ⟨pred, listed, decide_eq_true within⟩
      rw [← judged.contested, passes.uncontested] at contested
      cases contested
    · intro cand listed other admits
      have rivalled : hasRivalCandidate lib cands entry.claim.hexn entry.det = true :=
        List.any_eq_true.mpr ⟨cand, listed, decide_eq_true ⟨other, admits⟩⟩
      rw [passes.unrivalled] at rivalled
      cases rivalled
    · obtain rfl := Option.some.inj (position.symm.trans carried)
      exact valid

theorem sound_iff_noneAhead (t : TracedClaims) (e : ClaimEvent γ) (tallied : Tallied Spaced t.stores.claimStreaks t.log) :
    Sound lib cfg t e ↔ NoneAhead lib cfg t e := by
  cases e with
  | swept nowS => exact Iff.rfl
  | received scene nodeId frame followClaimed =>
    simp only [Sound, NoneAhead]
    cases placed : scene.geometry with
    | none => simp [claimKnownTargets, placed]
    | some geo =>
      simp only [Option.some.injEq, exists_eq_left']
      refine forall₂_congr fun entry member => ?_
      have here : claimKnownTargets lib cfg scene nodeId frame followClaimed t.stores =
          claimFrame lib cfg scene nodeId (moment scene geo frame) frame followClaimed t.stores := by
        simp only [claimKnownTargets, placed] at member ⊢
        split at member
        · rw [if_pos ‹_›]
        · cases member
      rw [here] at member ⊢
      obtain ⟨claimed, judged⟩ := claimFrame_judged t.stores _ rfl entry member
      exact judged.sound_iff (fun withFix => (claimFrame_spec t.stores).onTransponder claimed withFix) tallied
        (List.singleton_sublist.mpr (List.mem_map_of_mem (f := Calibrated.event nodeId (frameTsMs frame)) member))

/-- The store of streaks is tallied against the log. -/
theorem tallied_claimStep (t : TracedClaims) (e : ClaimEvent γ) (tallied : Tallied Spaced t.stores.claimStreaks t.log) :
    Tallied Spaced (claimStep lib cfg t e).stores.claimStreaks (claimStep lib cfg t e).log := by
  cases e with
  | swept nowS => exact tallied
  | received scene nodeId frame followClaimed =>
    simp only [claimStep, claimKnownTargets]
    split
    · split
      · exact claimFrame_tallied tallied _ rfl
      · simpa using tallied
    · simpa using tallied

/-- The points that a step adds are those its claims were recorded as. -/
theorem calibrationPoints_claimStep (t : TracedClaims) (scene : Scene γ) (nodeId : String) (frame : Frame)
    (followClaimed : Option (Finset Nat)) :
    (claimStep lib cfg t (.received scene nodeId frame followClaimed)).stores.calibrationPoints =
      t.stores.calibrationPoints ++
        (claimKnownTargets lib cfg scene nodeId frame followClaimed t.stores).calibrated.filterMap
          fun entry => entry.verdict.point? := by
  simp only [claimStep, claimKnownTargets]
  split
  · rename_i geo placed
    split
    · have frameRecords : Records lib cfg scene (moment scene geo frame) nodeId frame t.stores
          (claimFrame lib cfg scene nodeId (moment scene geo frame) frame followClaimed t.stores) :=
        claimFrame_records t.stores
      obtain ⟨before, claims, -, points, -, calibrated, -, after⟩ := frameRecords.records
      rw [after, calibrated, points_recordClaims, points]
    · simp
  · simp

/-- In every run of the claiming stage, the points recorded satisfy the documented rules exactly when no claim that
passes the other rules has its fix ahead of the frame. -/
theorem calibration_sound_iff (lib : Externals γ) (cfg : ClaimSettings) (events : List (ClaimEvent γ)) :
    Along (claimStep lib cfg) (Sound lib cfg) .start events ↔ Along (claimStep lib cfg) (NoneAhead lib cfg) .start events :=
  along_congr (I := fun t => Tallied Spaced t.stores.claimStreaks t.log) (fun t e tallied => tallied_claimStep t e tallied)
    (fun t e tallied => sound_iff_noneAhead t e tallied) (tallied_empty []) events

end

/-! ### A node whose clock is behind -/

/-- A hovering aircraft, whose fix needs no dead reckoning, as seen from one place. -/
def hoveringSky : Externals Unit where
  predictObservation _ _ _ _ _ _ _ := (20, 0)
  pointInBeam _ _ _ := true
  offsetLatlonM lat lon _ _ := (lat, lon)
  kmPerDegLat := 111
  kmPerDegLon _ := 92
  claimEligible _ _ := true
  adsbSeedDelayGateUs := 10
  adsbSeedDopplerGateHz := 25
  adsbSeedMaxDrAgeS := 45
  claimDelayGateUs := 10
  claimDopplerGateHz := 25
  claimMaxDrAgeS := 30
  claimMaxGlobalTracks := 200
  vMaxMs := 350
  linearSumAssignment m n _ := Matching.diagonal m n
  trig := ⟨fun _ => 0, fun _ => 1⟩
  hypot _ _ := 0
  atan2Deg _ _ := 0

def hoveringFix : AdsbRecord where
  hex := "abc123"
  flight := ""
  lat := 341 / 10
  lon := -82
  altBaro := .num 10000
  gs := .num 0
  track := .num 0
  lastSeenMs := 1020000
  recvMs := none
  world := some .real
  altM := 3048
  velEast := 0
  velNorth := 0

def hoveringScene : Scene Unit where
  geometry := some ⟨34, -82, 100000000, 50, none, ()⟩
  config := ⟨some 34, some (-82), some 34, some (-81)⟩
  nodeWorld := .real
  polled := .empty
  adsbAircraft := Dict.empty.insert "abc123" hoveringFix
  multinodeTracks := .empty
  learnedVelocity _ := none
  followTargets := .empty
  darkFollowMode := .off
  nowS := 1020

def echoAt (timestamp : ℚ) : Frame := ⟨some [20], some [0], none, none, some timestamp⟩

/-- Three frames a second apart, stamped twenty seconds before the fix they are claimed by. -/
def lateFrames : List (ClaimEvent Unit) :=
  [1000000, 1001000, 1002000].map fun timestamp => .received hoveringScene "node-1" (echoAt timestamp) (some ∅)

/-- The third claim of the link is recorded, by a fix from eighteen seconds after its frame. -/
theorem late_frame_calibrated : ¬ Along (claimStep hoveringSky {}) (Sound hoveringSky {}) .start lateFrames := by
  intro sound
  have third := sound.2.2.1
  have late : ∃ entry ∈ (claimKnownTargets hoveringSky {} hoveringScene "node-1" (echoAt 1002000) (some ∅)
        (run (claimStep hoveringSky {}) .start (lateFrames.take 2)).stores).calibrated,
      entry.verdict = .recorded ⟨"node-1", 341 / 10, -82, 1020⟩ ∧
        ¬ |entry.claim.fix.ageS (frameTsS (echoAt 1002000))| ≤ calMaxAdsbAgeS := by decide +kernel
  obtain ⟨entry, member, recorded, stale⟩ := late
  obtain ⟨geo, -, rules⟩ := third entry member _ recorded
  exact stale rules.fresh

end Retina.Known
