import RetinaServer.Known.FailOpen

/-! The counters of calibration. A frame keeps a tally of what became of its claims and
adds it to the counters when the loop over them has gone through. -/
namespace Retina.Known
open Frames

structure CalibrationTallies where
  recorded : Nat := 0
  hold : Nat := 0
  staleFix : Nat := 0
  residual : Nat := 0
  contested : Nat := 0
  immature : Nat := 0
deriving DecidableEq

/-- A claim that passes the rules and is then not recorded is in none of the tallies. -/
def CalibrationTallies.count (t : CalibrationTallies) : CalibrationVerdict → CalibrationTallies
  | .hold => { t with hold := t.hold + 1 }
  | .staleFix => { t with staleFix := t.staleFix + 1 }
  | .residual => { t with residual := t.residual + 1 }
  | .contested => { t with contested := t.contested + 1 }
  | .immature => { t with immature := t.immature + 1 }
  | .unrecorded => t
  | .recorded _ => { t with recorded := t.recorded + 1 }

def CalibrationTallies.total (t : CalibrationTallies) : Nat :=
  t.recorded + t.hold + t.staleFix + t.residual + t.contested + t.immature

def tallies (calibrated : List Calibrated) : CalibrationTallies := calibrated.foldl (fun t entry => t.count entry.verdict) {}

/-- What a frame adds to the counters. A loop that has stopped at a claim adds nothing. -/
def increments (o : Outcome) : CalibrationTallies := if o.calibrated.length = o.claims.length then tallies o.calibrated else {}

section
variable (lib : Externals γ) (scene : Scene γ) (nodeId : String)

/-- The claim passes the five rules. -/
structure FiveRules (claim : Claim) (det : Detection) (frameTsS : ℚ) (contested : Bool) (cands : List Candidate) (nClaims : Nat) :
    Prop where
  withFix : claim.withoutFix = false
  fresh : claim.fix.ageS frameTsS ≤ calMaxAdsbAgeS
  tight : |det.delayUs - claim.reference.1| ≤ calClaimDelayUs ∧ |det.dopplerHz - claim.reference.2| ≤ calClaimDopplerHz
  uncontested : contested = false
  unrivalled : hasRivalCandidate lib cands claim.hexn det = false
  mature : calClaimMinClaims ≤ nClaims

/-- The claim has a node and a position that a point can be recorded under. -/
def Placeable (claim : Claim) : Prop := nodeId ≠ "" ∧ ∃ pos, claim.extra.calDr = some pos ∧ validLatlon pos.1 pos.2 = true

/-- Where the loop begins it goes through, and a claim that passes the rules can be placed. -/
def Accountable (m : Moment γ) (frame : Frame) (streaks : Streaks) (c : Considered) : Prop :=
  ∀ first rest, c.claims = first :: rest → detection frame first.index ≠ none → ∀ claim ∈ c.claims,
    ∃ det, detection frame claim.index = some det ∧
      (FiveRules lib claim det m.frameTsS (isContested lib det c.projections) c.cands
        (streakCount streaks (nodeId, claim.hexn) (frameTsMs frame)) → Placeable nodeId claim)

end

section
variable {lib : Externals γ} {cfg : ClaimSettings} {scene : Scene γ} {nodeId : String} {m : Moment γ} {frame : Frame}
  {followClaimed : Option (Finset Nat)} {tsMs : ℤ} {projections : List (ℚ × ℚ)} {cands : List Candidate}
  {stores : ClaimStores}

/-! ### The tallies -/

theorem total_count (t : CalibrationTallies) (verdict : CalibrationVerdict) :
    (t.count verdict).total = t.total + if verdict = .unrecorded then 0 else 1 := by
  cases verdict <;> simp [CalibrationTallies.count, CalibrationTallies.total] <;> omega

theorem total_foldl_count (calibrated : List Calibrated) (t : CalibrationTallies) :
    (calibrated.foldl (fun t entry => t.count entry.verdict) t).total =
      t.total + calibrated.countP fun entry => decide (entry.verdict ≠ .unrecorded) := by
  induction calibrated generalizing t with
  | nil => rfl
  | cons entry rest ih =>
    rw [List.foldl_cons, ih, total_count, List.countP_cons]
    by_cases lost : entry.verdict = .unrecorded
    · simp [lost]
    · simp [lost]
      omega

/-- Every claim is in one tally, but for those that are lost. -/
theorem total_tallies_iff (calibrated : List Calibrated) :
    (tallies calibrated).total = calibrated.length ↔ ∀ entry ∈ calibrated, entry.verdict ≠ .unrecorded := by
  have zero : ({} : CalibrationTallies).total = 0 := rfl
  rw [tallies, total_foldl_count, zero, zero_add, List.countP_eq_length]
  simp only [decide_eq_true_eq]

theorem total_increments_iff (o : Outcome) :
    (increments o).total = o.calibrated.length ↔ o.calibrated = [] ∨
      (o.calibrated.length = o.claims.length ∧ ∀ entry ∈ o.calibrated, entry.verdict ≠ .unrecorded) := by
  unfold increments
  split
  · rename_i flushed
    rw [total_tallies_iff]
    constructor
    · exact fun counted => .inr ⟨flushed, counted⟩
    · rintro (none_made | ⟨-, counted⟩)
      · simp [none_made]
      · exact counted
  · rename_i stopped
    have zero : ({} : CalibrationTallies).total = 0 := rfl
    rw [zero]
    constructor
    · exact fun none_made => .inl (List.length_eq_zero_iff.mp none_made.symm)
    · rintro (none_made | ⟨flushed, -⟩)
      · simp [none_made]
      · exact absurd flushed stopped

/-- The loop has gone through when every claim has been calibrated. -/
theorem recordClaims_length_iff (claims : List Claim) (stores : ClaimStores) :
    let r := recordClaims lib cfg scene m nodeId tsMs projections cands frame claims stores
    r.calibrated.length = claims.length ↔ r.complete = true := by
  induction claims generalizing stores with
  | nil => simp [recordClaims]
  | cons claim rest ih =>
    simp only [recordClaims]
    split
    · simp
    · simpa using ih _

/-! ### Claims that are lost -/

theorem judgeClaim_unrecorded_iff {claim : Claim} {det : Detection} {frameTsS : ℚ} {contested : Bool} {nClaims : Nat} {nowS : ℚ}
    (withFix : claim.withoutFix = false) :
    judgeClaim lib nodeId claim det frameTsS contested cands nClaims nowS = .unrecorded ↔
      FiveRules lib claim det frameTsS contested cands nClaims ∧ ¬ Placeable nodeId claim := by
  unfold judgeClaim
  dsimp only
  by_cases stale : calMaxAdsbAgeS < claim.fix.ageS frameTsS
  · rw [if_pos stale]
    exact iff_of_false (by simp) fun both => absurd both.1.fresh (not_le.mpr stale)
  rw [if_neg stale]
  by_cases loose : calClaimDelayUs < |det.delayUs - claim.reference.1| ∨ calClaimDopplerHz < |det.dopplerHz - claim.reference.2|
  · rw [if_pos loose]
    refine iff_of_false (by simp) fun both => ?_
    rcases loose with wide | wide
    · exact absurd both.1.tight.1 (not_le.mpr wide)
    · exact absurd both.1.tight.2 (not_le.mpr wide)
  rw [if_neg loose]
  by_cases rivalled : (contested || hasRivalCandidate lib cands claim.hexn det) = true
  · rw [if_pos rivalled]
    refine iff_of_false (by simp) fun both => ?_
    rw [both.1.uncontested, both.1.unrivalled] at rivalled
    cases rivalled
  rw [if_neg rivalled]
  by_cases young : nClaims < calClaimMinClaims
  · rw [if_pos young]
    exact iff_of_false (by simp) fun both => absurd both.1.mature (not_le.mpr young)
  rw [if_neg young]
  simp only [Bool.or_eq_true, not_or, Bool.not_eq_true] at rivalled
  obtain ⟨narrow, narrow'⟩ := not_or.mp loose
  have rules : FiveRules lib claim det frameTsS contested cands nClaims :=
    ⟨withFix, not_lt.mp stale, ⟨not_lt.mp narrow, not_lt.mp narrow'⟩, rivalled.1, rivalled.2, not_lt.mp young⟩
  cases placed : claim.extra.calDr with
  | none => exact iff_of_true rfl ⟨rules, fun ⟨_, pos, found, _⟩ => by simp [placed] at found⟩
  | some pos =>
    dsimp only
    split
    · rename_i point written
      obtain ⟨named, valid, -⟩ := recordClaimCalibration_eq_some_iff.mp written
      exact iff_of_false (by simp) fun both => both.2 ⟨named, pos, placed, valid⟩
    · rename_i refused
      refine iff_of_true rfl ⟨rules, fun ⟨named, pos', found, valid⟩ => ?_⟩
      obtain rfl : pos = pos' := Option.some.inj (placed.symm.trans found)
      rw [recordClaimCalibration_eq_some_iff.mpr ⟨named, valid, not_lt.mp stale, rfl⟩] at refused
      cases refused

/-- A claim is in no tally exactly when it passes the five rules and cannot be placed. -/
theorem calibrationFromClaim_unrecorded_iff {claim : Claim} {det : Detection} {frameTsS : ℚ} {contested : Bool} {nowS : ℚ}
    {streaks : Streaks} :
    (calibrationFromClaim lib nodeId claim det frameTsS tsMs contested cands nowS streaks).2 = .unrecorded ↔
      FiveRules lib claim det frameTsS contested cands (streakCount streaks (nodeId, claim.hexn) tsMs) ∧
        ¬ Placeable nodeId claim := by
  unfold calibrationFromClaim
  cases withFix : claim.withoutFix with
  | true => exact iff_of_false (by simp) fun both => by simpa [withFix] using both.1.withFix
  | false => exact judgeClaim_unrecorded_iff withFix

theorem Judged.counted_iff (judged : Judged lib scene m nodeId frame projections cands streaks entry) :
    entry.verdict ≠ .unrecorded ↔
      (FiveRules lib entry.claim entry.det m.frameTsS (isContested lib entry.det projections) cands
        (streakCount streaks (nodeId, entry.claim.hexn) (frameTsMs frame)) → Placeable nodeId entry.claim) := by
  rw [judged.verdict, ne_eq, calibrationFromClaim_unrecorded_iff, judged.contested, not_and, not_not]

/-! ### When the counters account for every claim -/

theorem claimFrame_accounts_iff (o : Outcome) (here : claimFrame lib cfg scene nodeId m frame followClaimed stores = o) :
    (increments o).total = o.calibrated.length ↔
      ∀ c, considered lib cfg scene nodeId m frame stores = some c → Accountable lib nodeId m frame stores.claimStreaks c := by
  have goes : Goes lib cfg scene nodeId m frame followClaimed stores o := here ▸ claimFrame_goes stores
  have judged := claimFrame_judged stores o here
  rw [total_increments_iff]
  cases goes with
  | thrown unconsidered calibrated =>
    refine iff_of_true (.inl calibrated) fun c found => ?_
    rw [unconsidered] at found
    cases found
  | written c found before claims projections cands calibrated =>
    have empty_iff : o.calibrated = [] ↔
        ∀ first rest, c.claims = first :: rest → detection frame first.index = none := by
      rw [calibrated, recordClaims_calibrated_eq_nil_iff]
    have length_iff : o.calibrated.length = c.claims.length ↔ (recordClaims lib cfg scene m nodeId (frameTsMs frame)
        c.projections c.cands frame c.claims before).complete = true := by
      rw [calibrated]
      exact recordClaims_length_iff c.claims before
    rw [projections, cands] at judged
    constructor
    · rintro accounted c' found' first rest shape read claim member
      obtain rfl : c = c' := Option.some.inj (found.symm.trans found')
      rcases accounted with nothing | ⟨flushed, counted⟩
      · exact absurd (empty_iff.mp nothing first rest shape) read
      · rw [claims] at flushed
        have listed := claims_recordClaims (length_iff.mp flushed)
        rw [← calibrated] at listed
        rw [← listed] at member
        obtain ⟨entry, there, rfl⟩ := List.mem_map.mp member
        have verdict := (judged entry there).2
        exact ⟨entry.det, verdict.read, verdict.counted_iff.mp (counted entry there)⟩
    · intro accountable
      by_cases nothing : o.calibrated = []
      · exact .inl nothing
      · have begun : ∃ first rest, c.claims = first :: rest ∧ detection frame first.index ≠ none := by
          by_contra never
          refine nothing (empty_iff.mpr fun first rest shape => ?_)
          by_contra read
          exact never ⟨first, rest, shape, read⟩
        obtain ⟨first, rest, shape, read⟩ := begun
        have each := accountable c found first rest shape read
        refine .inr ⟨?_, fun entry there => ?_⟩
        · rw [claims]
          refine length_iff.mpr ((recordClaims_complete_iff _ _).mpr fun claim member unread => ?_)
          obtain ⟨det, found_det, -⟩ := each claim member
          rw [unread] at found_det
          cases found_det
        · obtain ⟨member, verdict⟩ := judged entry there
          rw [claims] at member
          obtain ⟨det, found_det, placeable⟩ := each entry.claim member
          obtain rfl : entry.det = det := Option.some.inj (verdict.read.symm.trans found_det)
          exact verdict.counted_iff.mpr placeable

end

/-- The counters of a frame add up to the claims considered exactly when, where the loop over them
begins, every claim has a reading, and every claim that passes the five rules has a node and a
position that a point can be recorded under. -/
theorem counters_account_iff (lib : Externals γ) (cfg : ClaimSettings) (scene : Scene γ) (nodeId : String) (frame : Frame)
    (followClaimed : Option (Finset Nat)) (stores : ClaimStores) :
    let o := claimKnownTargets lib cfg scene nodeId frame followClaimed stores
    (increments o).total = o.calibrated.length ↔
      ∀ geo, scene.geometry = some geo → frame.delay.getD [] ≠ [] → positionStatus scene.config = .positioned →
        ∀ c, considered lib cfg scene nodeId (moment scene geo frame) frame stores = some c →
          Accountable lib nodeId (moment scene geo frame) frame stores.claimStreaks c := by
  intro o
  by_cases claiming : ∃ geo, scene.geometry = some geo ∧ frame.delay.getD [] ≠ [] ∧ positionStatus scene.config = .positioned
  · obtain ⟨geo, placed, filled, positioned⟩ := claiming
    have run : claimFrame lib cfg scene nodeId (moment scene geo frame) frame followClaimed stores = o := by
      simp only [o, claimKnownTargets, placed, filled, positioned, ne_eq, not_false_eq_true, and_self, if_true]
    rw [claimFrame_accounts_iff o run]
    constructor
    · intro accountable geo' placed' _ _
      obtain rfl : geo = geo' := Option.some.inj (placed.symm.trans placed')
      exact accountable
    · exact fun accountable => accountable geo placed filled positioned
  · have idle : o = { stores, verdict := .ok (∅, followClaimed.getD ∅) } := by
      simp only [o, claimKnownTargets]
      split
      · rename_i geo placed
        exact if_neg fun both => claiming ⟨geo, placed, both⟩
      · rfl
    refine iff_of_true (by rw [idle]; rfl) fun geo placed filled positioned => ?_
    exact absurd ⟨geo, placed, filled, positioned⟩ claiming

/-- A node that tags an aircraft at the equator and the prime meridian. -/
def originFrame (timestamp : ℚ) : Frame where
  delay := some [20]
  doppler := some [0]
  snr := none
  adsb := some [some { hex := some "abc123", lat := some 0, lon := some 0 }]
  timestamp := some timestamp

/-- Its third claim in a row passes the five rules, is not recorded and is not counted. -/
theorem claim_at_origin_lost :
    ¬ (let before := (Runs.run (claimStep hoveringSky {}) .start
          ([1000000, 1001000].map fun timestamp => .received hoveringScene "node-1" (originFrame timestamp) (some ∅))).stores
        let o := claimKnownTargets hoveringSky {} hoveringScene "node-1" (originFrame 1002000) (some ∅) before
        (increments o).total = o.calibrated.length) := by
  decide +kernel

end Retina.Known
