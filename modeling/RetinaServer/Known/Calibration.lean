import RetinaServer.Known.Prediction

/-! Calibration from claims: the streak a node's claims of a hex run in, the
rivals of a claim, and the rules a claim is put through before it is recorded. -/
namespace Retina.Known
open Frames

/-! ### Streaks -/

/-- Two claims are of one link when the second follows the first within the gap. -/
def Spaced (earlier later : ℤ) : Prop :=
  0 ≤ ((later - earlier : ℤ) : ℚ) / 1000 ∧ ((later - earlier : ℤ) : ℚ) / 1000 ≤ calClaimStreakGapS

instance (earlier later : ℤ) : Decidable (Spaced earlier later) := inferInstanceAs (Decidable (_ ∧ _))

/-- The length of the streak that a claim at this time continues or begins. -/
def streakCount (streaks : Streaks) (key : String × String) (tsMs : ℤ) : Nat :=
  Streak.next Spaced (streaks.get? key) tsMs

def pruneClaimStreaks (tsMs : ℤ) (streaks : Streaks) : Streaks :=
  streaks.filter fun _ e => !decide ((e.last : ℚ) < tsMs - claimStreakPruneAgeS * 1000)

/-- A streak that restarts may be the one too many that old streaks are dropped for. -/
def touchClaimStreak (streaks : Streaks) (key : String × String) (tsMs : ℤ) : Streaks :=
  let touched := streaks.insert key ⟨streakCount streaks key tsMs, tsMs⟩
  if (streaks.get? key).any fun e => decide (Spaced e.last tsMs) then touched
  else if claimStreakMaxKeys < touched.size then pruneClaimStreaks tsMs touched
  else touched

/-- A streak old enough to be dropped was broken already. -/
theorem streakCount_prune (streaks : Streaks) (key : String × String) (tsMs : ℤ) :
    streakCount (pruneClaimStreaks tsMs streaks) key tsMs = streakCount streaks key tsMs := by
  rw [streakCount, streakCount, pruneClaimStreaks, Dict.get?_filter]
  cases streaks.get? key with
  | none => rfl
  | some e =>
    by_cases old : (e.last : ℚ) < tsMs - claimStreakPruneAgeS * 1000
    · have broken : ¬ Spaced e.last tsMs := by
        rintro ⟨-, near⟩
        rw [claimStreakPruneAgeS] at old
        rw [calClaimStreakGapS] at near
        push_cast at near
        linarith
      simp [Option.filter, Streak.next, old, broken]
    · simp [Option.filter, old]

/-- A claim does not count towards the streak of another pair of node and hex. -/
theorem streakCount_touch_ne (streaks : Streaks) (other : key ≠ key') (tsMs : ℤ) :
    streakCount (touchClaimStreak streaks key tsMs) key' tsMs = streakCount streaks key' tsMs := by
  have inserted : streakCount (streaks.insert key ⟨streakCount streaks key tsMs, tsMs⟩) key' tsMs =
      streakCount streaks key' tsMs := by
    simp only [streakCount, Dict.get?_insert_ne _ _ other]
  rw [touchClaimStreak]
  split
  · exact inserted
  · split
    · rw [streakCount_prune, inserted]
    · exact inserted

/-- What the store holds after a claim is its new streak, or a streak it held before. -/
theorem get?_touchClaimStreak (found : (touchClaimStreak streaks key tsMs).get? key' = some e) :
    (key' = key ∧ e = ⟨streakCount streaks key tsMs, tsMs⟩) ∨ streaks.get? key' = some e := by
  have inserted : (streaks.insert key ⟨streakCount streaks key tsMs, tsMs⟩).get? key' = some e := by
    rw [touchClaimStreak] at found
    split at found
    · exact found
    · split at found
      · exact (Dict.get?_filter_some found).1
      · exact found
  rw [Dict.get?_insert] at inserted
  split at inserted
  · rename_i same
    exact .inl ⟨same.symm, (Option.some.inj inserted).symm⟩
  · exact .inr inserted

/-! ### The rules -/

section
variable (lib : Externals γ)

/-- Another known aircraft's prediction admits the detection too. -/
def hasRivalCandidate (cands : List Candidate) (hexn : String) (det : Detection) : Bool :=
  cands.any fun cand => decide (cand.hexn ≠ hexn ∧ (cand.gate lib).Admits det)

/-- Why a claim was not recorded, or the point that it was recorded as. -/
inductive CalibrationVerdict where
  | hold
  | staleFix
  | residual
  | contested
  | immature
  | unrecorded
  | recorded (point : CalibrationPoint)
deriving DecidableEq, Repr

def recordClaimCalibration (nodeId : String) (lat lon fixAgeS detectionTs : ℚ) : Option CalibrationPoint :=
  if nodeId = "" ∨ !validLatlon lat lon then none
  else if calMaxAdsbAgeS < fixAgeS then none
  else some ⟨nodeId, lat, lon, detectionTs⟩

/-- The prediction of the live fix that a refreshed hold was compared with. -/
def ClaimExtra.refPred (extra : ClaimExtra) : Option (ℚ × ℚ) := if extra.fixRefreshed then extra.calPred else none

/-- The prediction a claim's residual is taken against. -/
def Claim.reference (claim : Claim) : ℚ × ℚ := claim.extra.refPred.getD (claim.predD, claim.predF)

def Fix.ageS (fix : Fix) (frameTsS : ℚ) : ℚ := frameTsS - fix.fixTsMs / 1000

/-- A follow, or a hold with no live fix behind it, which does not count towards its streak. -/
def Claim.withoutFix (claim : Claim) : Bool :=
  claim.extra.follow || (claim.extra.hold && claim.extra.refPred.isNone)

/-- What the rules say of a claim that counts, with the streak it has run to. -/
def judgeClaim (nodeId : String) (claim : Claim) (det : Detection) (frameTsS : ℚ) (contested : Bool)
    (cands : List Candidate) (nClaims : Nat) (nowS : ℚ) : CalibrationVerdict :=
  let fixAgeS := claim.fix.ageS frameTsS
  if calMaxAdsbAgeS < fixAgeS then .staleFix
  else if calClaimDelayUs < |det.delayUs - claim.reference.1| ∨
      calClaimDopplerHz < |det.dopplerHz - claim.reference.2| then .residual
  else if contested || hasRivalCandidate lib cands claim.hexn det then .contested
  else if nClaims < calClaimMinClaims then .immature
  else match claim.extra.calDr with
    | none => .unrecorded
    | some pos =>
        match recordClaimCalibration nodeId pos.1 pos.2 fixAgeS nowS with
        | some point => .recorded point
        | none => .unrecorded

def calibrationFromClaim (nodeId : String) (claim : Claim) (det : Detection) (frameTsS : ℚ) (tsMs : ℤ)
    (contested : Bool) (cands : List Candidate) (nowS : ℚ) (streaks : Streaks) : Streaks × CalibrationVerdict :=
  if claim.withoutFix then (streaks, .hold)
  else
    (touchClaimStreak streaks (nodeId, claim.hexn) tsMs,
      judgeClaim lib nodeId claim det frameTsS contested cands (streakCount streaks (nodeId, claim.hexn) tsMs) nowS)

/-- The rules for calibration but for the one on the age of the fix, and the use of the position. -/
structure PassesOthers (nodeId : String) (claim : Claim) (det : Detection) (contested : Bool) (cands : List Candidate)
    (nClaims : Nat) : Prop where
  withFix : claim.withoutFix = false
  tight : |det.delayUs - claim.reference.1| ≤ calClaimDelayUs ∧ |det.dopplerHz - claim.reference.2| ≤ calClaimDopplerHz
  uncontested : contested = false
  unrivalled : hasRivalCandidate lib cands claim.hexn det = false
  mature : calClaimMinClaims ≤ nClaims
  named : nodeId ≠ ""
  placed : ∃ pos, claim.extra.calDr = some pos ∧ validLatlon pos.1 pos.2 = true

theorem recordClaimCalibration_eq_some_iff {nodeId : String} {lat lon fixAgeS detectionTs : ℚ}
    {point : CalibrationPoint} :
    recordClaimCalibration nodeId lat lon fixAgeS detectionTs = some point ↔
      nodeId ≠ "" ∧ validLatlon lat lon = true ∧ fixAgeS ≤ calMaxAdsbAgeS ∧ point = ⟨nodeId, lat, lon, detectionTs⟩ := by
  simp only [recordClaimCalibration, Option.ite_none_left_eq_some, not_or, not_lt, Option.some.injEq, ne_eq,
    Bool.not_eq_eq_eq_not, Bool.not_true, Bool.not_eq_false, and_assoc, eq_comm (b := point)]

theorem ite_eq_recorded_iff {verdict other : CalibrationVerdict} {point : CalibrationPoint} (p : Prop) [Decidable p]
    (without : verdict ≠ .recorded point) :
    (if p then verdict else other) = .recorded point ↔ ¬ p ∧ other = .recorded point := by
  by_cases holds : p
  · simp only [holds, if_true, without, not_true_eq_false, false_and]
  · simp only [holds, if_false, not_false_eq_true, true_and]

/-- The claims that the rules let through, and the point each becomes. -/
theorem judgeClaim_recorded_iff {nodeId : String} {claim : Claim} {det : Detection} {frameTsS : ℚ} {contested : Bool}
    {cands : List Candidate} {nClaims : Nat} {nowS : ℚ} {point : CalibrationPoint} :
    judgeClaim lib nodeId claim det frameTsS contested cands nClaims nowS = .recorded point ↔
      claim.fix.ageS frameTsS ≤ calMaxAdsbAgeS ∧
      (|det.delayUs - claim.reference.1| ≤ calClaimDelayUs ∧
        |det.dopplerHz - claim.reference.2| ≤ calClaimDopplerHz) ∧
      (contested = false ∧ hasRivalCandidate lib cands claim.hexn det = false) ∧
      calClaimMinClaims ≤ nClaims ∧ nodeId ≠ "" ∧
      ∃ pos, claim.extra.calDr = some pos ∧ validLatlon pos.1 pos.2 = true ∧ point = ⟨nodeId, pos.1, pos.2, nowS⟩ := by
  rw [judgeClaim]
  rw [ite_eq_recorded_iff _ (by simp), ite_eq_recorded_iff _ (by simp), ite_eq_recorded_iff _ (by simp),
    ite_eq_recorded_iff _ (by simp), not_or, not_lt, not_lt, not_lt, not_lt, Bool.not_eq_true, Bool.or_eq_false_iff]
  refine and_congr_right fun fresh => and_congr_right fun _ => and_congr_right fun _ => and_congr_right fun _ => ?_
  cases claim.extra.calDr with
  | none => simp
  | some pos =>
    simp only [Option.some.injEq, exists_eq_left']
    split
    · rename_i point' written
      obtain ⟨named, valid, -, rfl⟩ := recordClaimCalibration_eq_some_iff.mp written
      simp [named, valid, eq_comm]
    · rename_i refused
      refine iff_of_false (by simp) ?_
      rintro ⟨named, valid, rfl⟩
      rw [recordClaimCalibration_eq_some_iff.mpr ⟨named, valid, fresh, rfl⟩] at refused
      cases refused

theorem calibrationFromClaim_eq_recorded_iff {nodeId : String} {claim : Claim} {det : Detection} {frameTsS : ℚ}
    {tsMs : ℤ} {contested : Bool} {cands : List Candidate} {nowS : ℚ} {streaks : Streaks} {point : CalibrationPoint} :
    (calibrationFromClaim lib nodeId claim det frameTsS tsMs contested cands nowS streaks).2 = .recorded point ↔
      claim.withoutFix = false ∧ judgeClaim lib nodeId claim det frameTsS contested cands
        (streakCount streaks (nodeId, claim.hexn) tsMs) nowS = .recorded point := by
  rw [calibrationFromClaim, apply_ite Prod.snd, ite_eq_recorded_iff _ (by simp), Bool.not_eq_true]

/-- A claim is recorded exactly when it passes the other rules and its fix is not too old. -/
theorem calibrationFromClaim_recorded_iff {nodeId : String} {claim : Claim} {det : Detection} {frameTsS : ℚ} {tsMs : ℤ}
    {contested : Bool} {cands : List Candidate} {nowS : ℚ} {streaks : Streaks} :
    (∃ point, (calibrationFromClaim lib nodeId claim det frameTsS tsMs contested cands nowS streaks).2 =
        .recorded point) ↔
      PassesOthers lib nodeId claim det contested cands (streakCount streaks (nodeId, claim.hexn) tsMs) ∧
        claim.fix.ageS frameTsS ≤ calMaxAdsbAgeS := by
  simp only [calibrationFromClaim_eq_recorded_iff, judgeClaim_recorded_iff]
  constructor
  · rintro ⟨point, withFix, fresh, tight, ⟨uncontested, unrivalled⟩, mature, named, pos, placed, valid, -⟩
    exact ⟨⟨withFix, tight, uncontested, unrivalled, mature, named, pos, placed, valid⟩, fresh⟩
  · rintro ⟨passes, fresh⟩
    obtain ⟨pos, placed, valid⟩ := passes.placed
    exact ⟨_, passes.withFix, fresh, passes.tight, ⟨passes.uncontested, passes.unrivalled⟩, passes.mature,
      passes.named, pos, placed, valid, rfl⟩

/-- A recorded point is the node's, at the position the claim carries. -/
theorem point_of_recorded {nodeId : String} {claim : Claim} {det : Detection} {frameTsS : ℚ} {tsMs : ℤ}
    {contested : Bool} {cands : List Candidate} {nowS : ℚ} {streaks : Streaks} {point : CalibrationPoint}
    (recorded : (calibrationFromClaim lib nodeId claim det frameTsS tsMs contested cands nowS streaks).2 =
      .recorded point) :
    point.nodeId = nodeId ∧ point.ts = nowS ∧ claim.extra.calDr = some (point.lat, point.lon) := by
  obtain ⟨-, judged⟩ := (calibrationFromClaim_eq_recorded_iff lib).mp recorded
  obtain ⟨-, -, -, -, -, pos, placed, -, rfl⟩ := (judgeClaim_recorded_iff lib).mp judged
  exact ⟨rfl, rfl, placed⟩

end

end Retina.Known
