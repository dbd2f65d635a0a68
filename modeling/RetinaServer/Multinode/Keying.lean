import RetinaServer.Library.Selection
import RetinaServer.Multinode.Smoothing
import Mathlib.Algebra.Order.Field.Basic

/-! Which key a solve is stored under. A transponder's hex decides at once, then
an anchor near enough, then one scan over the dark entries, and a solve that
nothing claims is given a new name. -/
namespace Retina.Multinode
open Selection Rounding

inductive KeyHow where
  | adsb
  | anchor
  | proximity
  | tracks
  | shadowed
  | minted
deriving DecidableEq, Repr

structure KeyDecision where
  key : String
  how : KeyHow
  distKm : Option ℚ
  dtS : Option ℚ
deriving DecidableEq, Repr

inductive FollowMode where
  | off
  | shadow
  | binding
deriving DecidableEq, Repr

structure KeyingSettings where
  trackLinkAgeS : ℚ := 40
  trackLinkMinSharedJoin : Nat := 2
  trackLinkMaxIds : Nat := 24
  darkFollowMode : FollowMode := .off
  darkFollowOwnS : ℚ := 6
  darkFollowShadowKm : ℚ := 2
  /-- `TRACK_DR_SOURCE` is anything but `solve`. -/
  drFromFilter : Bool := true

def mnAssocMaxDistKm : ℚ := 6
def mnAssocDriftKmPerS : ℚ := 13 / 100
def mnAssocMaxDistCapKm : ℚ := 12
def mnAssocMaxAgeS : ℚ := 60
def mnAssocMaxNegDtS : ℚ := 10

/-- What the keying rules read besides the store: the filter's velocities and
the follow lane's publications. -/
structure KeyingContext where
  geodesy : Geodesy
  settings : KeyingSettings
  learnedVel : String → Option (ℚ × ℚ)
  lastFollowPublish : Dict String ℚ

def mnAssocGateKm (dtS baseKm : ℚ) : ℚ :=
  min (baseKm + mnAssocDriftKmPerS * max dtS 0) (max mnAssocMaxDistCapKm baseKm)

theorem mnAssocGateKm_pos (dtS : ℚ) (base : 0 < baseKm) : 0 < mnAssocGateKm dtS baseKm := by
  have drift : 0 ≤ mnAssocDriftKmPerS * max dtS 0 :=
    mul_nonneg (by norm_num [mnAssocDriftKmPerS]) (le_max_right _ _)
  exact lt_min (lt_of_lt_of_le base (le_add_of_nonneg_right drift)) (lt_of_lt_of_le base (le_max_right _ _))

section
variable (ctx : KeyingContext)

def entryDrVelocity (key : String) (entry : TrackEntry) : ℚ × ℚ :=
  let solved := (entry.velEast.getD 0, entry.velNorth.getD 0)
  if ctx.settings.drFromFilter then (ctx.learnedVel key).getD solved else solved

/-- Where an entry's aircraft is `dt` seconds after its measurement. -/
def deadReckon (key : String) (entry : TrackEntry) (lat lon dt : ℚ) : ℚ × ℚ :=
  let vel := entryDrVelocity ctx key entry
  ctx.geodesy.offsetLatlonM lat lon (vel.1 * dt) (vel.2 * dt)

def recentlyFollowed (key : String) (nowS : ℚ) : Bool :=
  (ctx.lastFollowPublish.get? key).any fun last => decide (|nowS - last| ≤ ctx.settings.darkFollowOwnS)

def sharedRecentTracks (entry : TrackEntry) (solveIds : List String) (tsS : ℚ) : Nat :=
  match entry.recentTrackIds with
  | none => 0
  | some recent => solveIds.countP fun tid =>
      (recent.get? tid).any fun seen => decide (|tsS - seen| ≤ ctx.settings.trackLinkAgeS)

/-- The ids of this solve over the ones the entry still remembers. This solve's
own are never the ones the cap drops. -/
def mergeRecentTrackIds (prev : Option (Dict String ℚ)) (trackIds : List String) (tsS : ℚ) : Dict String ℚ :=
  let out := (prev.getD Dict.empty).filter fun _ seen => decide (|tsS - seen| ≤ ctx.settings.trackLinkAgeS)
  let fresh := trackIds.dedup
  let kept :=
    if ctx.settings.trackLinkMaxIds < out.items.length + fresh.length then
      let room := ctx.settings.trackLinkMaxIds - fresh.length
      let keep := ((out.filter fun tid _ => decide (tid ∉ fresh)).items.insertionSort
        fun a b => b.2 ≤ a.2).take room
      keep.foldl (fun d item => d.insert item.1 item.2) Dict.empty
    else out
  fresh.foldl (fun d tid => d.insert tid tsS) kept

/-- A dark entry inside the age window, as this solve sees it. -/
structure Scanned where
  key : String
  distKm : ℚ
  gateKm : ℚ
  dtS : ℚ
  shared : Nat
  followed : Bool
  gate_pos : 0 < gateKm
deriving DecidableEq

namespace Scanned

def linkScore (c : Scanned) : ℚ := c.distKm / c.gateKm

/-- Shared node tracks discount the distance. -/
def score (c : Scanned) : ℚ := c.distKm / c.gateKm / (1 + (min c.shared 3 : Nat))

theorem score_lt_one (c : Scanned) (inside : c.distKm < c.gateKm) : c.score < 1 := by
  have ratio : c.distKm / c.gateKm < 1 := (div_lt_one c.gate_pos).mpr inside
  have divisor : (1 : ℚ) ≤ 1 + (min c.shared 3 : Nat) := le_add_of_nonneg_right (Nat.cast_nonneg _)
  rw [score, div_lt_one (lt_of_lt_of_le one_pos divisor)]
  exact lt_of_lt_of_le ratio divisor

end Scanned

def scanEntry (result : Solve) (solveIds : List String) (key : String) (entry : TrackEntry) : Option Scanned :=
  if !key.startsWith darkPrefix then none
  else
    let dt := result.tsS - entry.tsS
    if dt < -mnAssocMaxNegDtS ∨ mnAssocMaxAgeS < dt then none
    else match entry.lat, entry.lon with
      | some lat, some lon =>
          let (pLat, pLon) := deadReckon ctx key entry lat lon dt
          some {
            key
            distKm := ctx.geodesy.haversineKm result.lat result.lon pLat pLon
            gateKm := mnAssocGateKm dt mnAssocMaxDistKm
            dtS := dt
            shared := sharedRecentTracks ctx entry solveIds result.tsS
            followed := recentlyFollowed ctx key result.tsS
            gate_pos := mnAssocGateKm_pos dt (by norm_num [mnAssocMaxDistKm]) }
      | _, _ => none

def scanCandidates (tracks : Tracks) (result : Solve) (solveIds : List String) : List Scanned :=
  tracks.items.filterMap fun item => scanEntry ctx result solveIds item.1 item.2

/-- The scan's accumulators: the best joinable entry, and of the followed ones
the best linked, the first weakly linked and the nearest. -/
structure Scan where
  best : Option Scanned := none
  link : Option Scanned := none
  weakLink : Option Scanned := none
  shadow : Option Scanned := none

def links (c : Scanned) : Bool :=
  decide (ctx.settings.trackLinkMinSharedJoin ≤ c.shared) && decide (c.distKm ≤ c.gateKm)

def weaklyLinks (c : Scanned) : Bool :=
  !links ctx c && decide (1 ≤ c.shared) && decide (c.distKm ≤ c.gateKm)

def scanStep (shadowScan : Bool) (scan : Scan) (c : Scanned) : Scan :=
  if shadowScan && c.followed then
    let linked :=
      if links ctx c then { scan with link := better Scanned.linkScore scan.link c }
      else if weaklyLinks ctx c && scan.weakLink.isNone then { scan with weakLink := some c }
      else scan
    { linked with shadow := better Scanned.distKm scan.shadow c }
  else if c.gateKm ≤ c.distKm then scan
  else if c.score < (scan.best.map Scanned.score).getD 1 then { scan with best := some c }
  else scan

/-- Where an anchor is looked for, and how far off a solve may land. Only the
follow lane's anchor is dead reckoned, and then against the gate of its age. -/
def anchorReach (key : String) (anchor : TrackEntry) (lat lon dt : ℚ) (anchorDr : Bool) : (ℚ × ℚ) × ℚ :=
  if anchorDr ∧ 0 < dt ∧ dt ≤ mnAssocMaxAgeS
  then (deadReckon ctx key anchor lat lon dt, mnAssocGateKm dt mnAssocMaxDistKm)
  else ((lat, lon), mnAssocMaxDistKm)

def honoredAnchor (tracks : Tracks) (result : Solve) (anchorKey : Option String) (anchorDr : Bool) :
    Option KeyDecision :=
  match anchorKey with
  | none => none
  | some key =>
      if !key.startsWith darkPrefix then none
      else match tracks.get? key with
        | none => none
        | some anchor => match anchor.lat, anchor.lon with
          | some lat, some lon =>
              let dt := result.tsS - anchor.tsS
              let reach := anchorReach ctx key anchor lat lon dt anchorDr
              let dist := ctx.geodesy.haversineKm result.lat result.lon reach.1.1 reach.1.2
              if dist ≤ reach.2 then some ⟨key, .anchor, some dist, some (roundTo 3 dt)⟩ else none
          | _, _ => none

def verdict (how : KeyHow) (c : Scanned) : KeyDecision := ⟨c.key, how, some c.distKm, some (roundTo 3 c.dtS)⟩

def namesAnchor (anchorKey : Option String) : Bool := anchorKey.any fun key => decide (key ≠ "")

/-- Ownership is asked about only for a solve that names no anchor. -/
def shadowScans (anchorKey : Option String) : Bool :=
  !namesAnchor anchorKey && decide (ctx.settings.darkFollowMode = .binding)

def scanDecision (scan : Scan) (result : Solve) : KeyDecision :=
  match scan.link, scan.weakLink with
  | some c, _ => verdict .tracks c
  | none, some c => verdict .shadowed c
  | none, none =>
    match scan.shadow.filter fun c => decide (c.distKm ≤ ctx.settings.darkFollowShadowKm), scan.best with
    | some c, _ => verdict .shadowed c
    | none, some c => verdict (if 1 ≤ c.shared then .tracks else .proximity) c
    | none, none => ⟨birthName result, .minted, none, none⟩

def multinodeKeyDecision (tracks : Tracks) (result : Solve) (adsbHex anchorKey : Option String)
    (anchorDr : Bool) (trackIds : List String) : KeyDecision :=
  match adsbHex.filter Solver.isTransponderHex with
  | some hex => ⟨adsbPrefix ++ hex, .adsb, none, none⟩
  | none =>
    match honoredAnchor ctx tracks result anchorKey anchorDr with
    | some decision => decision
    | none =>
      scanDecision ctx ((scanCandidates ctx tracks result trackIds.dedup).foldl
        (scanStep ctx (shadowScans ctx anchorKey)) {}) result

end

/-! ### What the scan finds -/

section
variable (ctx : KeyingContext) (shadowScan : Bool)

/-- The follow lane answers for the candidate. -/
def owned (c : Scanned) : Bool := shadowScan && c.followed

/-- The candidate may be joined on distance. -/
def joinable (c : Scanned) : Bool := !owned shadowScan c && decide (c.distKm < c.gateKm)

def linkable (c : Scanned) : Bool := owned shadowScan c && links ctx c

def weaklyLinkable (c : Scanned) : Bool := owned shadowScan c && weaklyLinks ctx c

variable (scan : Scan) (c : Scanned)

theorem scanStep_of_owned (own : owned shadowScan c = true) :
    scanStep ctx shadowScan scan c =
      { best := scan.best
        link := if links ctx c then better Scanned.linkScore scan.link c else scan.link
        weakLink := if weaklyLinks ctx c then keepFirst scan.weakLink c else scan.weakLink
        shadow := better Scanned.distKm scan.shadow c } := by
  simp only [owned] at own
  simp only [scanStep, own, if_true]
  cases linked : links ctx c with
  | true =>
    have strong : weaklyLinks ctx c = false := by simp [weaklyLinks, linked]
    simp [strong]
  | false =>
    cases weak : weaklyLinks ctx c with
    | true => cases held : scan.weakLink <;> simp [keepFirst, held]
    | false => simp

theorem scanStep_of_free (free : owned shadowScan c = false) :
    scanStep ctx shadowScan scan c =
      if joinable shadowScan c then { scan with best := better Scanned.score scan.best c } else scan := by
  have open_ : (shadowScan && c.followed) = false := free
  by_cases inside : c.distKm < c.gateKm
  · have kept : joinable shadowScan c = true := by simp [joinable, free, inside]
    simp only [scanStep, open_, kept, not_le.mpr inside, if_false, if_true, Bool.false_eq_true]
    cases held : scan.best with
    | none => simp [better, c.score_lt_one inside]
    | some b =>
      simp only [better, Option.map_some, Option.getD_some]
      split
      · rfl
      · rw [← held]
  · have skipped : joinable shadowScan c = false := by simp [joinable, inside]
    simp [scanStep, open_, skipped, not_lt.mp inside]

theorem scanStep_best : (scanStep ctx shadowScan scan c).best =
    if joinable shadowScan c then better Scanned.score scan.best c else scan.best := by
  cases own : owned shadowScan c with
  | true => simp [scanStep_of_owned ctx shadowScan scan c own, joinable, own]
  | false =>
    rw [scanStep_of_free ctx shadowScan scan c own]
    split <;> rfl

theorem scanStep_link : (scanStep ctx shadowScan scan c).link =
    if linkable ctx shadowScan c then better Scanned.linkScore scan.link c else scan.link := by
  cases own : owned shadowScan c with
  | true => simp [scanStep_of_owned ctx shadowScan scan c own, linkable, own]
  | false =>
    rw [scanStep_of_free ctx shadowScan scan c own]
    simp only [linkable, own, Bool.false_and, Bool.false_eq_true, if_false]
    split <;> rfl

theorem scanStep_weakLink : (scanStep ctx shadowScan scan c).weakLink =
    if weaklyLinkable ctx shadowScan c then keepFirst scan.weakLink c else scan.weakLink := by
  cases own : owned shadowScan c with
  | true => simp [scanStep_of_owned ctx shadowScan scan c own, weaklyLinkable, own]
  | false =>
    rw [scanStep_of_free ctx shadowScan scan c own]
    simp only [weaklyLinkable, own, Bool.false_and, Bool.false_eq_true, if_false]
    split <;> rfl

theorem scanStep_shadow : (scanStep ctx shadowScan scan c).shadow =
    if owned shadowScan c then better Scanned.distKm scan.shadow c else scan.shadow := by
  cases own : owned shadowScan c with
  | true => simp [scanStep_of_owned ctx shadowScan scan c own]
  | false =>
    rw [scanStep_of_free ctx shadowScan scan c own]
    simp only [Bool.false_eq_true, if_false]
    split <;> rfl

/-- One pass with four accumulators selects four candidates, each as if it had
the list to itself. -/
theorem scan_spec (cands : List Scanned) :
    cands.foldl (scanStep ctx shadowScan) {} =
      { best := firstMin Scanned.score (cands.filter (joinable shadowScan))
        link := firstMin Scanned.linkScore (cands.filter (linkable ctx shadowScan))
        weakLink := (cands.filter (weaklyLinkable ctx shadowScan)).head?
        shadow := firstMin Scanned.distKm (cands.filter (owned shadowScan)) } := by
  have best := accumulator_eq (scanStep_best ctx shadowScan) cands {}
  have link := accumulator_eq (scanStep_link ctx shadowScan) cands {}
  have weakLink := accumulator_eq (scanStep_weakLink ctx shadowScan) cands {}
  have shadow := accumulator_eq (scanStep_shadow ctx shadowScan) cands {}
  rw [foldl_keepFirst, Option.none_or] at weakLink
  simp only [firstMin]
  rw [← best, ← link, ← weakLink, ← shadow]

end

end Retina.Multinode
