import RetinaServer.Known.Claim
import RetinaServer.Library.Runs

/-! The dark tracks that are followed. A rebuild of the list tests every key of the map
again; a guard keeps in mind which keys were dropped, and since when a key that its
filter calls too noisy is kept because it manoeuvres. -/
namespace Retina.DarkFollow
open Frames Known

structure FollowSettings where
  maxAgeS : ℚ := 20
  minSolves : Nat := 3
  maxVelSigmaMs : ℚ := 115
  manoeuvreKeep : ℚ := 3 / 10
  manoeuvreMaxVelSigmaMs : ℚ := 600
  manoeuvreKeepMaxS : ℚ := 30
  cooldownS : ℚ := 30
  intervalS : ℚ := 2
  n2Admit : Bool := false

def minNodes : Nat := 3
def maxConsecutiveRejects : Nat := 2
def defaultPosSigmaM : ℚ := 1200
def targetsTtlS : ℚ := 1
def manoeuvreKeepTtlS : ℚ := 300

/-- An entry of the map with what else the rebuild reads of it. -/
structure DarkRecord extends Multinode.TrackRecord (Option ℚ) where
  posSigmaKm : Option ℚ := none
  contributingNodeIds : List String := []

structure FilterReading where
  velEast : ℚ
  velNorth : ℚ
  velSigmaMs : ℚ
  lastTsS : ℚ
  manoeuvre : ℚ
deriving DecidableEq

/-- What one rebuild reads of the server. -/
structure Sky where
  nowS : ℚ
  nowMono : ℚ
  tracks : Dict String DarkRecord
  filters : String → Option FilterReading
  nodeWorld : String → World

/-! ### The guard -/

structure Guard where
  cooldownUntil : Dict String ℚ
  rejectStreak : Dict String Nat
  manoeuvreKeepSince : Dict String ℚ

def Guard.empty : Guard := ⟨.empty, .empty, .empty⟩

inductive Ineligibility where
  | cooldown
  | noPos
  | age
  | minSolves
  | minNodes
  | noFilter
  | velSigma
deriving DecidableEq

/-- What a rebuild says of a key. -/
inductive Verdict where
  | notDark
  | ineligible (why : Ineligibility)
  | eligible (target : FollowTarget)
  | keptManoeuvre (target : FollowTarget)
deriving DecidableEq

def Verdict.target : Verdict → Option FollowTarget
  | .eligible target | .keptManoeuvre target => some target
  | _ => none

section
variable (S : FollowSettings)

def inCooldown (guard : Guard) (key : String) (nowMono : ℚ) : Bool :=
  decide (nowMono < (guard.cooldownUntil.get? key).getD 0)

/-- A key that is in cooldown already is not dropped again. -/
def dropTarget (guard : Guard) (key : String) (now : ℚ) : Guard :=
  if inCooldown guard key now then guard
  else { guard with
    cooldownUntil := guard.cooldownUntil.insert key (now + S.cooldownS)
    rejectStreak := guard.rejectStreak.erase key }

def recordOutcome (guard : Guard) (key : String) (ok : Bool) (now : ℚ) : Guard :=
  if ok then { guard with rejectStreak := guard.rejectStreak.erase key }
  else
    let streak := (guard.rejectStreak.get? key).getD 0 + 1
    let struck := { guard with rejectStreak := guard.rejectStreak.insert key streak }
    if maxConsecutiveRejects ≤ streak then dropTarget S struck key now else struck

def expired (guard : Guard) (nowMono : ℚ) (key : String) : Bool :=
  (guard.cooldownUntil.get? key).any fun until_ => decide (until_ ≤ nowMono)

def sweepGuard (guard : Guard) (nowMono : ℚ) : Guard where
  cooldownUntil := guard.cooldownUntil.filter fun _ until_ => !decide (until_ ≤ nowMono)
  rejectStreak := guard.rejectStreak.filter fun key _ => !expired guard nowMono key
  manoeuvreKeepSince := guard.manoeuvreKeepSince.filter fun _ since => !decide (since ≤ nowMono - manoeuvreKeepTtlS)

def clearManoeuvreKeep (guard : Guard) (key : String) : Guard :=
  { guard with manoeuvreKeepSince := guard.manoeuvreKeepSince.erase key }

def manoeuvreReprieve (guard : Guard) (key : String) (level velSigmaMs nowMono : ℚ) : Guard × Bool :=
  if level < S.manoeuvreKeep then (clearManoeuvreKeep guard key, false)
  else if S.manoeuvreMaxVelSigmaMs < velSigmaMs then (guard, false)
  else match guard.manoeuvreKeepSince.get? key with
    | none => ({ guard with manoeuvreKeepSince := guard.manoeuvreKeepSince.insert key nowMono }, true)
    | some since => (guard, decide (nowMono - since ≤ S.manoeuvreKeepMaxS))

/-! ### The rebuild -/

def posSigmaM (rec : DarkRecord) : ℚ :=
  match rec.kfPosSigmaM.filter fun kf => decide (0 < kf) with
  | some kf => kf
  | none => match rec.posSigmaKm.filter fun formal => decide (0 < formal) with
    | some formal => formal * 1000
    | none => defaultPosSigmaM

/-- The tests that come before the one of the velocity sigma. A map that was widened
once is judged by its widest solve. -/
def screened (sky : Sky) (guard : Guard) (key : String) (rec : DarkRecord) :
    Except Ineligibility (ℚ × ℚ × FilterReading) :=
  if inCooldown guard key sky.nowMono then .error .cooldown
  else match rec.lat, rec.lon with
    | some lat, some lon =>
      let ageS := sky.nowS - rec.timestampMs / 1000
      if ¬ (0 ≤ ageS ∧ ageS ≤ S.maxAgeS) then .error .age
      else if rec.solveCount < S.minSolves then .error .minSolves
      else if max rec.maxNNodes rec.nNodes < minNodes then .error .minNodes
      else match sky.filters key with
        | none => .error .noFilter
        | some reading => .ok (lat, lon, reading)
    | _, _ => .error .noPos

def targetOf (sky : Sky) (rec : DarkRecord) (lat lon : ℚ) (reading : FilterReading) : FollowTarget where
  lat := lat
  lon := lon
  altM := rec.altM.getD 0
  velEast := reading.velEast
  velNorth := reading.velNorth
  velSigmaMs := reading.velSigmaMs
  posSigmaM := posSigmaM rec
  timestampMs := rec.timestampMs
  world := rec.contributingNodeIds.head?.map sky.nodeWorld

def testKey (sky : Sky) (guard : Guard) (key : String) (rec : DarkRecord) : Guard × Verdict :=
  if !key.startsWith Multinode.darkPrefix then (guard, .notDark)
  else match screened S sky guard key rec with
    | .error why => (guard, .ineligible why)
    | .ok (lat, lon, reading) =>
      if S.maxVelSigmaMs < reading.velSigmaMs then
        let (left, kept) := manoeuvreReprieve S guard key reading.manoeuvre reading.velSigmaMs sky.nowMono
        if kept then (left, .keptManoeuvre (targetOf sky rec lat lon reading))
        else (dropTarget S left key sky.nowMono, .ineligible .velSigma)
      else (clearManoeuvreKeep guard key, .eligible (targetOf sky rec lat lon reading))

def buildTargets (sky : Sky) (guard : Guard) : Guard × List (String × Verdict) :=
  sky.tracks.items.foldl
    (fun (acc : Guard × List (String × Verdict)) item =>
      let (left, verdict) := testKey S sky acc.1 item.1 item.2
      (left, acc.2 ++ [(item.1, verdict)]))
    (guard, [])

/-! ### Runs -/

/-- The list with the guard; `builtMono` is zero before the first rebuild. -/
structure Follower where
  guard : Guard
  targets : List (String × FollowTarget)
  builtMono : ℚ

def Follower.start : Follower := ⟨.empty, [], 0⟩

def Follower.rebuilds (s : Follower) (mode : LaneMode) (nowMono : ℚ) : Bool :=
  mode != .off && !(s.builtMono != 0 && decide (nowMono - s.builtMono < targetsTtlS))

def followTargets (mode : LaneMode) (sky : Sky) (s : Follower) : Follower × List (String × FollowTarget) :=
  if mode = .off then (s, [])
  else if s.rebuilds mode sky.nowMono then
    let (guard, verdicts) := buildTargets S sky (sweepGuard s.guard sky.nowMono)
    let targets := verdicts.filterMap fun item => item.2.target.map (item.1, ·)
    (⟨guard, targets, sky.nowMono⟩, targets)
  else (s, s.targets)

/-- The list is asked for by a frame's claiming; outcomes come from the solver's workers. -/
inductive FollowEvent where
  | ask (mode : LaneMode) (sky : Sky)
  | outcome (key : String) (ok : Bool) (nowMono : ℚ)

def FollowEvent.nowMono : FollowEvent → ℚ
  | .ask _ sky => sky.nowMono
  | .outcome _ _ nowMono => nowMono

def Follower.step (s : Follower) : FollowEvent → Follower
  | .ask mode sky => (followTargets S mode sky s).1
  | .outcome key ok nowMono => { s with guard := recordOutcome S s.guard key ok nowMono }

end

/-! ### One key at a time -/

/-- What the guard has of one key. -/
structure KeyGuard where
  cooldownUntil : Option ℚ
  rejectStreak : Option Nat
  keepSince : Option ℚ

def Guard.at (guard : Guard) (key : String) : KeyGuard :=
  ⟨guard.cooldownUntil.get? key, guard.rejectStreak.get? key, guard.manoeuvreKeepSince.get? key⟩

variable {S : FollowSettings} {sky : Sky} {guard guard' : Guard} {key other : String}

theorem dropTarget_at_ne (apart : other ≠ key) (now : ℚ) : (dropTarget S guard other now).at key = guard.at key := by
  unfold dropTarget
  split
  · rfl
  · simp [Guard.at, Dict.get?_insert_ne _ _ apart, Dict.get?_erase_ne _ apart]

theorem dropTarget_keepSince (guard : Guard) (key : String) (now : ℚ) :
    (dropTarget S guard key now).manoeuvreKeepSince = guard.manoeuvreKeepSince := by
  unfold dropTarget
  split
  · rfl
  · rfl

theorem clearManoeuvreKeep_at_ne (apart : other ≠ key) : (clearManoeuvreKeep guard other).at key = guard.at key := by
  simp [clearManoeuvreKeep, Guard.at, Dict.get?_erase_ne _ apart]

theorem manoeuvreReprieve_at_ne (apart : other ≠ key) (level velSigmaMs nowMono : ℚ) :
    (manoeuvreReprieve S guard other level velSigmaMs nowMono).1.at key = guard.at key := by
  unfold manoeuvreReprieve
  split
  · exact clearManoeuvreKeep_at_ne apart
  · split
    · rfl
    · split
      · simp [Guard.at, Dict.get?_insert_ne _ _ apart]
      · rfl

/-- The test of a key leaves what the guard has of the others. -/
theorem testKey_at_ne (apart : other ≠ key) (rec : DarkRecord) : (testKey S sky guard other rec).1.at key = guard.at key := by
  unfold testKey
  split
  · rfl
  · split
    · rfl
    · split
      · dsimp only
        split
        · exact manoeuvreReprieve_at_ne apart _ _ _
        · rw [dropTarget_at_ne apart]
          exact manoeuvreReprieve_at_ne apart _ _ _
      · exact clearManoeuvreKeep_at_ne apart

/-- The screen looks at no other key. -/
theorem screened_congr (same : guard.at key = guard'.at key) (rec : DarkRecord) :
    screened S sky guard key rec = screened S sky guard' key rec := by
  have cooling : guard.cooldownUntil.get? key = guard'.cooldownUntil.get? key := congrArg KeyGuard.cooldownUntil same
  unfold screened inCooldown
  rw [cooling]

/-- A key that passes the screen is tested by what its filter has. -/
theorem screened_reading {rec : DarkRecord} (passed : screened S sky guard key rec = .ok (lat, lon, reading)) :
    sky.filters key = some reading := by
  unfold screened at passed
  split at passed
  · cases passed
  · split at passed
    · dsimp only at passed
      split at passed
      · cases passed
      · split at passed
        · cases passed
        · split at passed
          · cases passed
          · split at passed
            · cases passed
            · rename_i filtered
              cases passed
              exact filtered
    · cases passed

/-- The walk of the rebuild, from any point of it on. -/
def testFrom (S : FollowSettings) (sky : Sky) (items : List (String × DarkRecord)) (acc : Guard × List (String × Verdict)) :
    Guard × List (String × Verdict) :=
  items.foldl
    (fun (acc : Guard × List (String × Verdict)) item =>
      let (left, verdict) := testKey S sky acc.1 item.1 item.2
      (left, acc.2 ++ [(item.1, verdict)]))
    acc

open OrderedDict in
theorem testFrom_absent (S : FollowSettings) (sky : Sky) (items : List (String × DarkRecord)) (absent : lookup key items = none)
    (acc : Guard × List (String × Verdict)) :
    (testFrom S sky items acc).1.at key = acc.1.at key ∧ lookup key (testFrom S sky items acc).2 = lookup key acc.2 := by
  induction items generalizing acc with
  | nil => exact ⟨rfl, rfl⟩
  | cons item rest ih =>
    obtain ⟨other, rec⟩ := item
    have apart : other ≠ key := fun same => by simp [lookup, same] at absent
    rw [lookup, if_neg apart] at absent
    obtain ⟨left, listed⟩ := ih absent
      ((testKey S sky acc.1 other rec).1, acc.2 ++ [(other, (testKey S sky acc.1 other rec).2)])
    refine ⟨left.trans (testKey_at_ne apart rec), listed.trans ?_⟩
    simp [lookup_append, lookup, apart]

open OrderedDict in
theorem testFrom_held (items : List (String × DarkRecord)) (distinct : (items.map Prod.fst).Nodup)
    (held : lookup key items = some rec) (acc : Guard × List (String × Verdict)) (fresh : lookup key acc.2 = none) :
    ∃ before : Guard, before.at key = acc.1.at key ∧
      (testFrom S sky items acc).1.at key = (testKey S sky before key rec).1.at key ∧
      lookup key (testFrom S sky items acc).2 = some (testKey S sky before key rec).2 := by
  induction items generalizing acc with
  | nil => cases held
  | cons item rest ih =>
    obtain ⟨other, found⟩ := item
    obtain ⟨unlisted, distinct⟩ := List.nodup_cons.mp distinct
    by_cases here : other = key
    · subst here
      rw [lookup, if_pos rfl] at held
      obtain rfl := Option.some.inj held
      have absent : lookup other rest = none := (lookup_eq_none_iff other rest).mpr unlisted
      obtain ⟨left, listed⟩ := testFrom_absent S sky rest absent
        ((testKey S sky acc.1 other found).1, acc.2 ++ [(other, (testKey S sky acc.1 other found).2)])
      refine ⟨acc.1, rfl, left, listed.trans ?_⟩
      simp [lookup_append, fresh, lookup]
    · rw [lookup, if_neg here] at held
      obtain ⟨before, same, left, listed⟩ := ih distinct held
        ((testKey S sky acc.1 other found).1, acc.2 ++ [(other, (testKey S sky acc.1 other found).2)])
        (by simp [lookup_append, fresh, lookup, here])
      exact ⟨before, same.trans (testKey_at_ne here found), left, listed⟩

/-- What a rebuild says of a key. -/
def verdictOn (S : FollowSettings) (sky : Sky) (guard : Guard) (key : String) : Option Verdict :=
  OrderedDict.lookup key (buildTargets S sky guard).2

/-- A key that is not on the map keeps what the guard has of it. -/
theorem buildTargets_absent (S : FollowSettings) (guard : Guard) (absent : sky.tracks.get? key = none) :
    (buildTargets S sky guard).1.at key = guard.at key ∧ verdictOn S sky guard key = none :=
  testFrom_absent S sky sky.tracks.items absent (guard, [])

/-- A rebuild does with a key what the test of the key does by itself. -/
theorem buildTargets_held (S : FollowSettings) (guard : Guard) (held : sky.tracks.get? key = some rec) :
    ∃ before : Guard, before.at key = guard.at key ∧
      (buildTargets S sky guard).1.at key = (testKey S sky before key rec).1.at key ∧
      verdictOn S sky guard key = some (testKey S sky before key rec).2 :=
  testFrom_held sky.tracks.items sky.tracks.nodup held (guard, []) rfl

end Retina.DarkFollow
