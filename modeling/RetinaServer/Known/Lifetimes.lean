import RetinaServer.Known.CalibrationRules
import RetinaServer.Multinode.Stores
import RetinaServer.Library.Recollection

/-! How long claims, holds and multinode tracks outlive the frames that made them. Each carries the stamp of the
frame it came from, which is the node's, and the pruners and readers hold that against the server's clock. -/
namespace Retina.Lifetimes
open Runs Known
open Frames (Frame)
open Multinode (Publication expiryS pruneMultinodeTracks)

/-! ### Who counts a claim as fresh -/

def claimedDisplayFreshS : ℚ := 5

def freshCutoffMs (nowS : ℚ) : ℚ := (nowS - claimedDisplayFreshS) * 1000

/-- A claim that follows a dark track carries no transponder's fix. -/
def adsbClaims (queue : List KnownClaim) : List KnownClaim :=
  queue.filter fun claim => match claim.carried with
    | .adsb _ => decide (claim.nodeId ≠ "")
    | .follow _ => false

def freshStep (cutoffMs : ℚ) (fresh : Dict String KnownClaim) (claim : KnownClaim) : Dict String KnownClaim :=
  if claim.tsMs < cutoffMs then fresh
  else match fresh.get? claim.nodeId with
    | none => fresh.insert claim.nodeId claim
    | some cur => if cur.tsMs < claim.tsMs then fresh.insert claim.nodeId claim else fresh

/-- The newest fresh claim of each node, which the map draws the aircraft by. -/
def freshClaims (nowS : ℚ) (queue : List KnownClaim) : Dict String KnownClaim :=
  (adsbClaims queue).foldl (freshStep (freshCutoffMs nowS)) .empty

def creditNewest (cutoffMs : ℚ) (nodeId : String) : List KnownClaim → Option KnownClaim
  | [] => none
  | claim :: older =>
      if claim.tsMs < cutoffMs then none
      else if claim.nodeId = nodeId then some claim
      else creditNewest cutoffMs nodeId older

/-- The claim by which the miss rate takes the node to have detected the aircraft. The scan is from the newest on. -/
def creditedClaim (nowS : ℚ) (nodeId : String) (queue : List KnownClaim) : Option KnownClaim :=
  creditNewest (freshCutoffMs nowS) nodeId queue.reverse

theorem fresh_of_foldl {cutoffMs : ℚ} {fresh : Dict String KnownClaim}
    (before : ∀ n claim, fresh.get? n = some claim → cutoffMs ≤ claim.tsMs) (queue : List KnownClaim)
    (found : (queue.foldl (freshStep cutoffMs) fresh).get? nodeId = some claim) : cutoffMs ≤ claim.tsMs := by
  induction queue generalizing fresh with
  | nil => exact before nodeId claim found
  | cons first rest ih =>
    refine ih (fun n held there => ?_) found
    have inserted (late : ¬ (first.tsMs : ℚ) < cutoffMs) (there : (fresh.insert first.nodeId first).get? n = some held) :
        cutoffMs ≤ held.tsMs := by
      rw [Dict.get?_insert] at there
      split at there
      · exact Option.some.inj there ▸ not_lt.mp late
      · exact before n held there
    simp only [freshStep] at there
    split at there
    · exact before n held there
    · rename_i late
      split at there
      · exact inserted late there
      · split at there
        · exact inserted late there
        · exact before n held there

theorem fresh_of_freshClaims (found : (freshClaims nowS queue).get? nodeId = some claim) :
    freshCutoffMs nowS ≤ claim.tsMs :=
  fresh_of_foldl (fun _ _ there => by cases there) _ found

theorem fresh_of_creditNewest (found : creditNewest cutoffMs nodeId queue = some claim) : cutoffMs ≤ claim.tsMs := by
  induction queue with
  | nil => cases found
  | cons first older ih =>
    simp only [creditNewest] at found
    split at found
    · cases found
    · rename_i late
      split at found
      · exact Option.some.inj found ▸ not_lt.mp late
      · exact ih found

/-! ### The stores, and what arrives -/

/-- An entry of the three stores. -/
inductive Entry where
  | claims (hexn : String)
  | hold (nodeId hexn : String)
  | track (key : String)
deriving DecidableEq

/-- A frame that has arrived: when its node says it is from, and when the server got it. -/
structure FrameMark where
  stampMs : ℤ
  arrivedS : ℚ
deriving DecidableEq

def FrameMark.stampS (mark : FrameMark) : ℚ := mark.stampMs / 1000

/-- The stores, the frames so far, and when the last frame that touched each entry arrived. -/
structure Server where
  claimStores : ClaimStores
  laneStores : Multinode.Stores
  frames : List FrameMark
  touchedAt : Entry → ℚ

def Server.boot : Server := ⟨.empty, .boot, [], fun _ => 0⟩

structure Received (γ : Type) where
  arrivedS : ℚ
  scene : Scene γ
  nodeId : String
  frame : Frame
  followClaimed : Option (Finset Nat)

def Received.mark (r : Received γ) : FrameMark := ⟨frameTsMs r.frame, r.arrivedS⟩

/-- A solve that is published, with the frames it was solved from. Its epoch is the stamp of one of them. -/
structure Solved where
  publication : Publication
  basis : FrameMark
  others : List FrameMark
  asOf : publication.result.timestampMs = basis.stampMs

def Solved.sources (p : Solved) : List FrameMark := p.basis :: p.others

/-- When the last of the frames arrived. -/
def Solved.lastArrivedS (p : Solved) : ℚ := p.others.foldr (fun mark last => max mark.arrivedS last) p.basis.arrivedS

inductive Event (γ : Type) where
  | frame (r : Received γ)
  | publish (p : Solved)
  /-- A key is absorbed by another, or retired. -/
  | forget (key : String)
  /-- A node is retired, and its holds with it. -/
  | retire (nodeId : String)
  | sweep (nowS : ℚ)
  | prune (nowS : ℚ)

/-- The claims that a frame has written into the registry, under their keys. -/
def recorded (nodeId : String) (tsMs : ℤ) (o : Known.Outcome) : List (String × KnownClaim) :=
  (o.calibrated.map fun k => (k.claim.hexn, knownClaim nodeId tsMs k.claim k.det k.contested)) ++
    o.followed.map fun claim => (claim.key, followRecord nodeId tsMs claim)

/-- What a frame has touched. With the holds switched off no hold is written. -/
def touches (cfg : ClaimSettings) (nodeId : String) (tsMs : ℤ) (o : Known.Outcome) : List Entry :=
  (recorded nodeId tsMs o).map (fun item => .claims item.1) ++
    if cfg.knownHoldMaxGapS ≤ 0 then [] else o.calibrated.map fun k => .hold nodeId k.claim.hexn

def heldEntry (stores : ClaimStores) (nodeId hexn : String) : Option HoldEntry :=
  (stores.knownTrackHolds.get? nodeId).bind fun holds => holds.get? hexn

namespace Server

section
variable (lib : Externals γ) (cfg : ClaimSettings) (lane : Multinode.Config) (s : Server)

def outcome (r : Received γ) : Known.Outcome :=
  claimKnownTargets lib cfg r.scene r.nodeId r.frame r.followClaimed s.claimStores

def step (s : Server) : Event γ → Server
  | .frame r =>
      let o := s.outcome lib cfg r
      { s with
        claimStores := o.stores
        frames := s.frames ++ [r.mark]
        touchedAt := fun entry =>
          if entry ∈ touches cfg r.nodeId (frameTsMs r.frame) o then r.arrivedS else s.touchedAt entry }
  | .publish p =>
      if p.sources ⊆ s.frames then
        { s with
          laneStores := p.publication.apply lane s.laneStores
          touchedAt := match p.publication.target lane s.laneStores with
            | some key => Function.update s.touchedAt (.track key) p.lastArrivedS
            | none => s.touchedAt }
      else s
  | .forget key => { s with laneStores := Multinode.forgetMnKey lane s.laneStores key }
  | .retire nodeId =>
      { s with claimStores := { s.claimStores with knownTrackHolds := s.claimStores.knownTrackHolds.erase nodeId } }
  | .sweep nowS => { s with claimStores := sweepClaims nowS s.claimStores }
  | .prune nowS => { s with laneStores := pruneMultinodeTracks lane nowS s.laneStores }

end

def Has (s : Server) : Entry → Prop
  | .claims hexn => (s.claimStores.knownClaims.get? hexn).isSome
  | .hold nodeId hexn => (heldEntry s.claimStores nodeId hexn).isSome
  | .track key => (s.laneStores.tracks.get? key).isSome

instance (s : Server) : ∀ entry, Decidable (s.Has entry)
  | .claims _ | .hold _ _ | .track _ => inferInstanceAs (Decidable (_ = true))

/-- Both pruners at one time. -/
def pruned (lane : Multinode.Config) (nowS : ℚ) (s : Server) : Server :=
  { s with claimStores := sweepClaims nowS s.claimStores, laneStores := pruneMultinodeTracks lane nowS s.laneStores }

end Server

def retention (lane : Multinode.Config) : Entry → ℚ
  | .claims _ | .hold _ _ => knownClaimsStaleS
  | .track key => expiryS lane key

/-- Once the last frame that touched an entry is longer ago than its retention, the pruners leave nothing of it. -/
def NoneImmortal (lane : Multinode.Config) (s : Server) : Prop :=
  ∀ entry nowS, s.touchedAt entry + retention lane entry < nowS → ¬ (s.pruned lane nowS).Has entry

section
variable (lib : Externals γ) (cfg : ClaimSettings) (lane : Multinode.Config) (s : Server)

/-- A frame's claims count as fresh, on the map and for the miss rate, no longer than the freshness window from its
arrival, in whatever queue they stand. -/
def ClaimsFade : Event γ → Prop
  | .frame r => ∀ item ∈ recorded r.nodeId (frameTsMs r.frame) (s.outcome lib cfg r), ∀ nowS,
      r.arrivedS + claimedDisplayFreshS < nowS → ∀ queue nodeId,
        (freshClaims nowS queue).get? nodeId ≠ some item.2 ∧ creditedClaim nowS nodeId queue ≠ some item.2
  | _ => True

/-- A frame that claims something is not from after its arrival, and the epoch of a published solve is not from
after the last arrival of its frames. -/
def StampedByArrival : Event γ → Prop
  | .frame r => recorded r.nodeId (frameTsMs r.frame) (s.outcome lib cfg r) ≠ [] → r.mark.stampS ≤ r.arrivedS
  | .publish p => p.sources ⊆ s.frames → (p.publication.target lane s.laneStores).isSome →
      p.basis.stampS ≤ p.lastArrivedS
  | _ => True

end

/-! ### What a frame writes -/

/-- The claims go to the ends of their queues, and a hold is as it was or has the frame's stamp. -/
structure Written (cfg : ClaimSettings) (nodeId : String) (tsMs : ℤ) (items : List (String × KnownClaim))
    (hexes : List String) (stores stores' : ClaimStores) : Prop where
  claims : stores'.knownClaims = items.foldl (fun registry item => appendClaim registry item.1 item.2) stores.knownClaims
  holds : ∀ n hexn e, heldEntry stores' n hexn = some e →
    if 0 < cfg.knownHoldMaxGapS ∧ n = nodeId ∧ hexn ∈ hexes then e.tsMs = tsMs else heldEntry stores n hexn = some e

section
variable {lib : Externals γ} {cfg : ClaimSettings} {scene : Scene γ} {m : Moment γ} {nodeId : String} {tsMs : ℤ}
  {frame : Frame} {followClaimed : Option (Finset Nat)} {stores stores' stores'' : ClaimStores}

theorem Written.of_thinned (claims : stores'.knownClaims = stores.knownClaims)
    (holds : ∀ n hexn e, heldEntry stores' n hexn = some e → heldEntry stores n hexn = some e) :
    Written cfg nodeId tsMs [] [] stores stores' where
  claims := claims
  holds n hexn e held := by simpa using holds n hexn e held

theorem Written.append (first : Written cfg nodeId tsMs items hexes stores stores')
    (second : Written cfg nodeId tsMs items' hexes' stores' stores'') :
    Written cfg nodeId tsMs (items ++ items') (hexes ++ hexes') stores stores'' where
  claims := by rw [second.claims, first.claims, List.foldl_append]
  holds n hexn e held := by
    have late := second.holds n hexn e held
    by_cases again : 0 < cfg.knownHoldMaxGapS ∧ n = nodeId ∧ hexn ∈ hexes'
    · rw [if_pos again] at late
      rw [if_pos ⟨again.1, again.2.1, List.mem_append_right _ again.2.2⟩]
      exact late
    · rw [if_neg again] at late
      have early := first.holds n hexn e late
      by_cases before : 0 < cfg.knownHoldMaxGapS ∧ n = nodeId ∧ hexn ∈ hexes
      · rw [if_pos before] at early
        rw [if_pos ⟨before.1, before.2.1, List.mem_append_left _ before.2.2⟩]
        exact early
      · rw [if_neg before] at early
        rw [if_neg (fun both => both.2.2 |> List.mem_append.mp |>.elim (fun here => before ⟨both.1, both.2.1, here⟩)
          fun here => again ⟨both.1, both.2.1, here⟩)]
        exact early

theorem touchEntry_tsMs (entry : Option HoldEntry) (det : Detection) (fix : Option Fix) (world : Frames.World)
    (isHold : Bool) : (touchEntry entry det tsMs fix world isHold).tsMs = tsMs := by
  cases entry <;> rfl

theorem heldEntry_touchHold (claim : Claim) (det : Detection) (world : Frames.World) (holds : Dict String Holds)
    (held : ((touchHold cfg nodeId claim det tsMs world holds).get? n).bind (Dict.get? · hexn) = some e) :
    if 0 < cfg.knownHoldMaxGapS ∧ n = nodeId ∧ hexn ∈ [claim.hexn] then e.tsMs = tsMs
    else (holds.get? n).bind (Dict.get? · hexn) = some e := by
  simp only [touchHold] at held
  split at held
  · rename_i off
    rw [if_neg (fun on => absurd on.1 (not_lt.mpr off))]
    exact held
  · rename_i on
    rw [Dict.get?_insert] at held
    split at held
    · rename_i own
      subst own
      rw [Option.bind_some, Dict.get?_insert] at held
      split at held
      · rename_i same
        obtain rfl := Option.some.inj held
        rw [if_pos ⟨not_le.mp on, rfl, List.mem_singleton.mpr same.symm⟩]
        exact touchEntry_tsMs _ _ _ _ _
      · rename_i other
        rw [if_neg (fun both => other (List.mem_singleton.mp both.2.2).symm)]
        cases found : holds.get? nodeId with
        | none =>
          rw [found] at held
          cases held
        | some own => simpa [found] using held
    · rename_i other
      rw [if_neg (fun both => other both.2.1.symm)]
      exact held

theorem written_recordClaim (projections : List (ℚ × ℚ)) (cands : List Candidate) (claim : Claim) (det : Detection)
    (stores : ClaimStores) :
    Written cfg nodeId tsMs [(claim.hexn, knownClaim nodeId tsMs claim det (isContested lib det projections))] [claim.hexn]
      stores (recordClaim lib cfg scene m nodeId tsMs projections cands claim det stores).1 where
  claims := rfl
  holds _ _ _ held := heldEntry_touchHold claim det m.nodeWorld stores.knownTrackHolds held

theorem written_recordClaims (lib : Externals γ) (scene : Scene γ) (m : Moment γ) (frame : Frame)
    (projections : List (ℚ × ℚ)) (cands : List Candidate) (claims : List Claim) (stores : ClaimStores) :
    let r := recordClaims lib cfg scene m nodeId tsMs projections cands frame claims stores
    Written cfg nodeId tsMs (r.calibrated.map fun k => (k.claim.hexn, knownClaim nodeId tsMs k.claim k.det k.contested))
      (r.calibrated.map fun k => k.claim.hexn) stores r.stores := by
  induction claims generalizing stores with
  | nil => exact .of_thinned rfl fun _ _ _ held => held
  | cons claim rest ih =>
    simp only [recordClaims]
    split
    · exact .of_thinned rfl fun _ _ _ held => held
    · rename_i det read
      exact (written_recordClaim projections cands claim det stores).append (ih _)

theorem get?_dropHolds (verdicts : List (String × HoldVerdict)) (holds : Holds)
    (held : (dropHolds verdicts holds).get? hexn = some e) : holds.get? hexn = some e := by
  simp only [dropHolds] at held
  induction verdicts generalizing holds with
  | nil => exact held
  | cons verdict rest ih =>
    have kept := ih _ held
    dsimp only at kept
    split at kept
    · rw [Dict.get?_erase] at kept
      split at kept
      · cases kept
      · exact kept
    · exact kept

theorem get?_claimHolds {holds : Holds} (free : List Nat) (claimedHexes : List String)
    (held : (claimHolds lib cfg m frame holds free claimedHexes).1.get? hexn = some e) : holds.get? hexn = some e := by
  simp only [claimHolds] at held
  split at held
  · exact held
  · split at held
    · exact (Dict.get?_filter_some held).1
    · split at held
      · exact (Dict.get?_filter_some held).1
      · exact (Dict.get?_filter_some (get?_dropHolds _ _ held)).1

theorem written_holdStage (lib : Externals γ) (m : Moment γ) (frame : Frame) (tagged : List Claim) (stores : ClaimStores) :
    Written cfg nodeId tsMs [] [] stores (holdStage lib cfg nodeId m frame tagged stores).1 := by
  simp only [holdStage]
  split
  · exact .of_thinned rfl fun _ _ _ held => held
  · rename_i own found
    refine .of_thinned rfl fun n hexn e held => ?_
    simp only [heldEntry, Dict.get?_insert] at held ⊢
    split at held
    · rename_i same
      subst same
      rw [found]
      exact get?_claimHolds _ _ held
    · exact held

/-- What an outcome says is recorded is what has been written into the stores the frame found. -/
def Accounts (cfg : ClaimSettings) (nodeId : String) (tsMs : ℤ) (stores : ClaimStores) (o : Known.Outcome) : Prop :=
  Written cfg nodeId tsMs (recorded nodeId tsMs o) (o.calibrated.map fun k => k.claim.hexn) stores o.stores

theorem accounts_followStage {o : Known.Outcome} (accounts : Accounts cfg nodeId tsMs stores o) (unfollowed : o.followed = []) :
    Accounts cfg nodeId tsMs stores (followStage lib cfg scene nodeId m frame tsMs followClaimed o) := by
  simp only [followStage]
  split
  · exact accounts
  · split
    · exact accounts
    · rename_i followed _
      have before : recorded nodeId tsMs o =
          o.calibrated.map fun k => (k.claim.hexn, knownClaim nodeId tsMs k.claim k.det k.contested) := by
        rw [recorded, unfollowed, List.map_nil, List.append_nil]
      have claims := accounts.claims
      rw [before] at claims
      refine ⟨?_, accounts.holds⟩
      rw [recorded, List.foldl_append, ← claims, List.foldl_map]

theorem accounts_recordStage {o : Known.Outcome} (thinned : Written cfg nodeId (frameTsMs frame) [] [] stores o.stores)
    (uncalibrated : o.calibrated = []) (unfollowed : o.followed = []) :
    Accounts cfg nodeId (frameTsMs frame) stores (recordStage lib cfg scene nodeId m frame followClaimed o) := by
  simp only [recordStage]
  split
  · simp only [Accounts, recorded, uncalibrated, unfollowed, List.map_nil, List.append_nil]
    exact thinned
  · rename_i projections _
    have written := thinned.append (written_recordClaims lib scene m frame projections o.cands o.claims o.stores)
    split
    · refine accounts_followStage ?_ unfollowed
      simpa only [Accounts, recorded, unfollowed, List.map_nil, List.append_nil, List.nil_append] using written
    · simpa only [Accounts, recorded, unfollowed, List.map_nil, List.append_nil, List.nil_append] using written

theorem accounts_claimFrame (stores : ClaimStores) :
    Accounts cfg nodeId (frameTsMs frame) stores
      (claimFrame lib cfg scene nodeId m frame followClaimed stores) := by
  have untouched : Written cfg nodeId (frameTsMs frame) [] [] stores stores := .of_thinned rfl fun _ _ _ held => held
  rw [claimFrame]
  split
  · exact untouched
  · rename_i tagged _
    have thinned : Written cfg nodeId (frameTsMs frame) [] [] stores (holdStage lib cfg nodeId m frame tagged stores).1 :=
      written_holdStage lib m frame tagged stores
    simp only
    split
    · exact thinned
    · split
      · exact thinned
      · exact accounts_recordStage thinned rfl rfl

theorem accounts_claimKnownTargets (stores : ClaimStores) :
    Accounts cfg nodeId (frameTsMs frame) stores
      (claimKnownTargets lib cfg scene nodeId frame followClaimed stores) := by
  have untouched : Written cfg nodeId (frameTsMs frame) [] [] stores stores := .of_thinned rfl fun _ _ _ held => held
  rw [claimKnownTargets]
  split
  · split
    · exact accounts_claimFrame stores
    · exact untouched
  · exact untouched

end

/-! ### What the pruners see -/

/-- The stamp that the pruners go by: the newest claim's, the hold's, or the solve's. -/
def Server.stamp (s : Server) : Entry → Option ℚ
  | .claims hexn => ((s.claimStores.knownClaims.get? hexn).bind List.getLast?).map fun claim => claim.tsMs / 1000
  | .hold nodeId hexn => (heldEntry s.claimStores nodeId hexn).map fun e => e.tsMs / 1000
  | .track key => (s.laneStores.tracks.get? key).map Multinode.TrackRecord.tsS

def Server.view (s : Server) : Retention.View Entry ℚ := ⟨s.stamp, s.touchedAt⟩

theorem heldEntry_sweepClaims (nowS : ℚ) (stores : ClaimStores) (nodeId hexn : String) :
    heldEntry (sweepClaims nowS stores) nodeId hexn =
      (heldEntry stores nodeId hexn).filter fun e => !decide (knownClaimsStaleS < nowS - e.tsMs / 1000) := by
  simp only [heldEntry, sweepClaims, Dict.get?_filter, Dict.get?_mapValues]
  cases stores.knownTrackHolds.get? nodeId with
  | none => rfl
  | some holds =>
    simp only [Option.map_some, Option.filter_some, Option.bind_some]
    by_cases empty : (holds.filter fun _ e => !decide (knownClaimsStaleS < nowS - e.tsMs / 1000)).items.isEmpty
    · have nothing : (holds.filter fun _ e => !decide (knownClaimsStaleS < nowS - e.tsMs / 1000)).get? hexn = none := by
        rw [Dict.get?, List.isEmpty_iff.mp empty]
        rfl
      rw [Dict.get?_filter] at nothing
      simp only [empty, Bool.not_true, if_false, Bool.false_eq_true, Option.bind_none, nothing]
    · simp only [empty, Bool.not_false, if_true, Option.bind_some, Dict.get?_filter]

theorem tracks_pruned (lane : Multinode.Config) (nowS : ℚ) (stores : Multinode.Stores) (key : String) :
    (pruneMultinodeTracks lane nowS stores).tracks.get? key =
      (stores.tracks.get? key).filter fun r => !Multinode.expired lane nowS key r := by
  rw [pruneMultinodeTracks, (Multinode.evict_removes lane).foldl_tracks, Multinode.staleKeys]
  cases found : stores.tracks.get? key with
  | none => simp
  | some r =>
    rw [Option.filter_some]
    by_cases stale : Multinode.expired lane nowS key r = true
    · have member : key ∈ (stores.tracks.filter (Multinode.expired lane nowS)).keys := by
        by_contra absent
        have gone := (Dict.get?_eq_none_iff _ _).mpr absent
        rw [Dict.get?_filter, found, Option.filter_some, if_pos stale] at gone
        cases gone
      rw [if_pos member, stale]
      rfl
    · have absent : key ∉ (stores.tracks.filter (Multinode.expired lane nowS)).keys := by
        rw [← Dict.get?_eq_none_iff, Dict.get?_filter, found, Option.filter_some, if_neg stale]
      rw [if_neg absent, Bool.eq_false_of_not_eq_true stale]
      rfl

/-- An entry outlives a prune exactly when its stamp says that it is young enough. -/
theorem has_pruned_iff (lane : Multinode.Config) (s : Server) (nowS : ℚ) (entry : Entry) :
    (s.pruned lane nowS).Has entry ↔ s.view.Kept (retention lane) nowS entry := by
  cases entry with
  | claims hexn =>
    simp only [Server.Has, Server.pruned, sweepClaims, Dict.get?_filter, Retention.View.Kept, Server.view, Server.stamp,
      retention]
    cases s.claimStores.knownClaims.get? hexn with
    | none => simp
    | some queue => cases newest : queue.getLast? <;> simp [Option.filter_some, newest]
  | hold nodeId hexn =>
    simp only [Server.Has, Server.pruned, heldEntry_sweepClaims, Retention.View.Kept, Server.view, Server.stamp, retention]
    cases heldEntry s.claimStores nodeId hexn <;> simp [Option.filter_some]
  | track key =>
    simp only [Server.Has, Server.pruned, tracks_pruned, Retention.View.Kept, Server.view, Server.stamp, retention]
    cases s.laneStores.tracks.get? key <;> simp [Option.filter_some, Multinode.expired]

theorem noneImmortal_iff (lane : Multinode.Config) (s : Server) :
    NoneImmortal lane s ↔ s.view.Mortal (retention lane) :=
  forall₃_congr fun entry nowS _ => (has_pruned_iff lane s nowS entry).not

/-! ### What an event does to what the pruners see -/

theorem getLast?_appendClaim (registry : Dict String (List KnownClaim)) (key : String) (claim : KnownClaim) :
    ((appendClaim registry key claim).get? hexn).bind List.getLast? =
      if key = hexn then some claim else (registry.get? hexn).bind List.getLast? := by
  simp only [appendClaim, Dict.get?_insert]
  split
  · rw [Option.bind_some, List.getLast?_drop, if_neg, List.getLast?_concat]
    simp only [List.length_append, List.length_singleton, knownClaimsPerHexMax]
    omega
  · rfl

theorem newest_of_items (items : List (String × KnownClaim)) (stamped : ∀ item ∈ items, item.2.tsMs = tsMs)
    (registry : Dict String (List KnownClaim)) (hexn : String) :
    (((items.foldl (fun registry item => appendClaim registry item.1 item.2) registry).get? hexn).bind List.getLast?).map
        KnownClaim.tsMs =
      if hexn ∈ items.map Prod.fst then some tsMs else ((registry.get? hexn).bind List.getLast?).map KnownClaim.tsMs := by
  induction items generalizing registry with
  | nil => simp
  | cons item rest ih =>
    rw [List.foldl_cons, ih (fun later listed => stamped later (List.mem_cons_of_mem _ listed)), getLast?_appendClaim]
    by_cases later : hexn ∈ rest.map Prod.fst
    · rw [if_pos later, List.map_cons, if_pos (List.mem_cons_of_mem _ later)]
    · rw [if_neg later]
      by_cases here : item.1 = hexn
      · rw [if_pos here, List.map_cons, if_pos (List.mem_cons.mpr (.inl here.symm)), Option.map_some, stamped item List.mem_cons_self]
      · rw [if_neg here, List.map_cons, if_neg (fun member => (List.mem_cons.mp member).elim (fun same => here same.symm) later)]

theorem stamped_recorded (nodeId : String) (tsMs : ℤ) (o : Known.Outcome) :
    ∀ item ∈ recorded nodeId tsMs o, item.2.tsMs = tsMs := by
  intro item listed
  rcases List.mem_append.mp listed with known | followed
  · obtain ⟨k, -, rfl⟩ := List.mem_map.mp known
    rfl
  · obtain ⟨claim, -, rfl⟩ := List.mem_map.mp followed
    rfl

theorem claims_mem_touches {o : Known.Outcome} :
    Entry.claims hexn ∈ touches cfg nodeId tsMs o ↔ hexn ∈ (recorded nodeId tsMs o).map Prod.fst := by
  simp only [touches, List.mem_append, List.mem_map]
  constructor
  · rintro (⟨item, listed, same⟩ | held)
    · exact ⟨item, listed, Entry.claims.inj same⟩
    · split at held <;> simp at held
  · rintro ⟨item, listed, same⟩
    exact .inl ⟨item, listed, congrArg Entry.claims same⟩

theorem hold_mem_touches {o : Known.Outcome} : Entry.hold n hexn ∈ touches cfg nodeId tsMs o ↔
    0 < cfg.knownHoldMaxGapS ∧ n = nodeId ∧ hexn ∈ o.calibrated.map fun k => k.claim.hexn := by
  simp only [touches, List.mem_append, List.mem_map, reduceCtorEq, and_false, exists_false, false_or]
  split
  · rename_i off
    simp [not_lt.mpr off]
  · rename_i on
    simp [not_le.mp on, eq_comm, and_left_comm]

theorem track_not_mem_touches {o : Known.Outcome} : Entry.track key ∉ touches cfg nodeId tsMs o := by
  simp only [touches, List.mem_append, List.mem_map, reduceCtorEq, and_false, exists_false, false_or]
  split <;> simp

section
variable {lib : Externals γ} {cfg : ClaimSettings} {lane : Multinode.Config} {s : Server}

theorem stamp_frame (r : Received γ) (found : (s.step lib cfg lane (.frame r)).stamp entry = some stamp) :
    if entry ∈ touches cfg r.nodeId (frameTsMs r.frame) (s.outcome lib cfg r) then stamp = r.mark.stampS
    else s.stamp entry = some stamp := by
  have accounts : Accounts cfg r.nodeId (frameTsMs r.frame) s.claimStores (s.outcome lib cfg r) :=
    accounts_claimKnownTargets s.claimStores
  cases entry with
  | claims hexn =>
    obtain ⟨claim, newest, rfl⟩ := Option.map_eq_some_iff.mp found
    have stamped := newest_of_items _ (stamped_recorded r.nodeId (frameTsMs r.frame) (s.outcome lib cfg r))
      s.claimStores.knownClaims hexn
    rw [← accounts.claims] at stamped
    have here : some claim.tsMs = _ := (congrArg (Option.map KnownClaim.tsMs) newest).symm.trans stamped
    simp only [claims_mem_touches]
    split
    · rename_i touched
      rw [if_pos touched] at here
      rw [Option.some.inj here]
      rfl
    · rename_i untouched
      rw [if_neg untouched] at here
      obtain ⟨before, held, same⟩ := Option.map_eq_some_iff.mp here.symm
      rw [Server.stamp, held, Option.map_some, same]
  | hold n hexn =>
    obtain ⟨e, held, rfl⟩ := Option.map_eq_some_iff.mp found
    have before := accounts.holds n hexn e held
    simp only [hold_mem_touches]
    split
    · rename_i touched
      rw [if_pos touched] at before
      rw [before]
      rfl
    · rename_i untouched
      rw [if_neg untouched] at before
      rw [Server.stamp, before, Option.map_some]
  | track key =>
    rw [if_neg track_not_mem_touches]
    exact found

theorem touches_frame (r : Received γ) :
    Retention.Touches s.view (s.step lib cfg lane (.frame r)).view
      (· ∈ touches cfg r.nodeId (frameTsMs r.frame) (s.outcome lib cfg r)) r.mark.stampS r.arrivedS where
  arrived entry touched := if_pos touched
  stamped entry touched stamp found := by
    have stamped := stamp_frame r found
    rwa [if_pos touched] at stamped
  others entry untouched := by
    refine ⟨if_neg untouched, fun stamp found => ?_⟩
    have stamped := stamp_frame r found
    rwa [if_neg untouched] at stamped

/-- A frame that records a claim leaves it the newest of its queue. -/
theorem stamp_recorded (r : Received γ) (listed : item ∈ recorded r.nodeId (frameTsMs r.frame) (s.outcome lib cfg r)) :
    (s.step lib cfg lane (.frame r)).stamp (.claims item.1) = some r.mark.stampS := by
  have accounts : Accounts cfg r.nodeId (frameTsMs r.frame) s.claimStores (s.outcome lib cfg r) :=
    accounts_claimKnownTargets s.claimStores
  have stamped := newest_of_items _ (stamped_recorded r.nodeId (frameTsMs r.frame) (s.outcome lib cfg r))
    s.claimStores.knownClaims item.1
  rw [← accounts.claims, if_pos (List.mem_map_of_mem listed)] at stamped
  obtain ⟨claim, newest, same⟩ := Option.map_eq_some_iff.mp stamped
  have here : (s.step lib cfg lane (.frame r)).stamp (.claims item.1) = some ((claim.tsMs : ℚ) / 1000) :=
    congrArg (Option.map _) newest
  rw [here, same]
  rfl

theorem frame_mortal_iff (mortal : s.view.Mortal (retention lane)) (r : Received γ) :
    StampedByArrival lib cfg lane s (.frame r) ↔ (s.step lib cfg lane (.frame r)).view.Mortal (retention lane) := by
  cases claimed : recorded r.nodeId (frameTsMs r.frame) (s.outcome lib cfg r) with
  | nil =>
    have calibrated : (s.outcome lib cfg r).calibrated = [] :=
      List.map_eq_nil_iff.mp (List.append_eq_nil_iff.mp claimed).1
    have untouched (entry : Entry) : entry ∉ touches cfg r.nodeId (frameTsMs r.frame) (s.outcome lib cfg r) := by
      simp [touches, claimed, calibrated]
    refine iff_of_true (fun some_ => absurd claimed some_) ?_
    refine Retention.mortal_of_thinned mortal (fun entry => if_neg (untouched entry)) fun entry stamp found => ?_
    have stamped := stamp_frame r found
    rwa [if_neg (untouched entry)] at stamped
  | cons item rest =>
    have listed : item ∈ recorded r.nodeId (frameTsMs r.frame) (s.outcome lib cfg r) := claimed ▸ List.mem_cons_self
    have touched : Entry.claims item.1 ∈ touches cfg r.nodeId (frameTsMs r.frame) (s.outcome lib cfg r) :=
      claims_mem_touches.mpr (List.mem_map_of_mem listed)
    rw [(touches_frame r).mortal_iff mortal touched (stamp_recorded r listed)]
    exact ⟨fun stamped => stamped (by rw [claimed]; exact List.cons_ne_nil _ _), fun within _ => within⟩

theorem touches_publish (lib : Externals γ) (cfg : ClaimSettings) (p : Solved) (from_ : p.sources ⊆ s.frames)
    (targeted : p.publication.target lane s.laneStores = some key) :
    Retention.Touches s.view (s.step lib cfg lane (.publish p)).view (· = .track key) p.basis.stampS p.lastArrivedS ∧
      (s.step lib cfg lane (.publish p)).stamp (.track key) = some p.basis.stampS := by
  have stepped : s.step lib cfg lane (.publish p) =
      { s with
        laneStores := p.publication.apply lane s.laneStores
        touchedAt := Function.update s.touchedAt (.track key) p.lastArrivedS } := by
    rw [Server.step, if_pos from_, targeted]
  rcases Multinode.apply_cases lane p.publication s.laneStores with ⟨skipped, -⟩ | ⟨k, forgotten, entry, written, -, carries, same⟩
  · cases skipped.symm.trans targeted
  obtain rfl : k = key := Option.some.inj (written.symm.trans targeted)
  have asOf : entry.tsS = p.basis.stampS := by
    have stamped := carries.2.2.1.trans (Multinode.smoothSolve_timestampMs ..)
    rw [Multinode.TrackRecord.tsS, stamped, p.asOf, FrameMark.stampS]
  have tracks (other : String) : (p.publication.apply lane s.laneStores).tracks.get? other =
      if k = other then some entry else if other ∈ forgotten then none else s.laneStores.tracks.get? other := by
    rw [same, Multinode.commit_tracks]
  have here : (s.step lib cfg lane (.publish p)).stamp (.track k) = some p.basis.stampS := by
    rw [stepped, Server.stamp, tracks, if_pos rfl, Option.map_some, asOf]
  refine ⟨⟨?_, ?_, ?_⟩, here⟩
  · rintro _ rfl
    rw [stepped]
    exact Function.update_self ..
  · rintro _ rfl stamp found
    exact Option.some.inj (found.symm.trans here)
  · intro other apart
    rw [stepped]
    refine ⟨Function.update_of_ne apart _ _, fun stamp found => ?_⟩
    cases other with
    | claims _ | hold _ _ => exact found
    | track key =>
      have distinct : k ≠ key := fun same => apart (congrArg Entry.track same.symm)
      obtain ⟨r, held, rfl⟩ := Option.map_eq_some_iff.mp found
      rw [tracks, if_neg distinct] at held
      split at held
      · cases held
      · exact congrArg (Option.map _) held

theorem publish_mortal_iff (mortal : s.view.Mortal (retention lane)) (p : Solved) :
    StampedByArrival lib cfg lane s (.publish p) ↔ (s.step lib cfg lane (.publish p)).view.Mortal (retention lane) := by
  by_cases from_ : p.sources ⊆ s.frames
  · cases targeted : p.publication.target lane s.laneStores with
    | none =>
      have same : s.step lib cfg lane (.publish p) = s := by
        rw [Server.step, if_pos from_, targeted]
        rcases Multinode.apply_cases lane p.publication s.laneStores with ⟨-, same⟩ | ⟨_, _, _, written, -⟩
        · rw [same]
        · cases written.symm.trans targeted
      rw [same]
      exact iff_of_true (fun _ some_ => by rw [targeted] at some_; cases some_) mortal
    | some key =>
      obtain ⟨touches, stamped⟩ := touches_publish lib cfg p from_ targeted
      rw [touches.mortal_iff mortal rfl stamped]
      exact ⟨fun allowed => allowed from_ (by rw [targeted]; rfl), fun within _ _ => within⟩
  · rw [Server.step, if_neg from_]
    exact iff_of_true (fun all => absurd all from_) mortal

/-- What takes entries out of the stores leaves the rest as mortal as they were. -/
theorem removal_mortal (mortal : s.view.Mortal (retention lane)) {s' : Server} (touched : s'.touchedAt = s.touchedAt)
    (claims : ∀ hexn queue, s'.claimStores.knownClaims.get? hexn = some queue →
      s.claimStores.knownClaims.get? hexn = some queue)
    (holds : ∀ n hexn e, heldEntry s'.claimStores n hexn = some e → heldEntry s.claimStores n hexn = some e)
    (tracks : ∀ key r, s'.laneStores.tracks.get? key = some r → s.laneStores.tracks.get? key = some r) :
    s'.view.Mortal (retention lane) := by
  refine Retention.mortal_of_thinned mortal (fun entry => congrFun touched entry) fun entry stamp found => ?_
  cases entry with
  | claims hexn =>
    obtain ⟨claim, newest, rfl⟩ := Option.map_eq_some_iff.mp found
    obtain ⟨queue, held, last⟩ := Option.bind_eq_some_iff.mp newest
    exact congrArg (Option.map _) (Option.bind_eq_some_iff.mpr ⟨queue, claims hexn queue held, last⟩)
  | hold n hexn =>
    obtain ⟨e, held, rfl⟩ := Option.map_eq_some_iff.mp found
    exact congrArg (Option.map _) (holds n hexn e held)
  | track key =>
    obtain ⟨r, held, rfl⟩ := Option.map_eq_some_iff.mp found
    exact congrArg (Option.map _) (tracks key r held)

theorem step_mortal_iff (lib : Externals γ) (cfg : ClaimSettings) (mortal : s.view.Mortal (retention lane)) (e : Event γ) :
    StampedByArrival lib cfg lane s e ↔ (s.step lib cfg lane e).view.Mortal (retention lane) := by
  cases e with
  | frame r => exact frame_mortal_iff mortal r
  | publish p => exact publish_mortal_iff mortal p
  | forget key =>
    refine iff_of_true trivial (removal_mortal mortal rfl (fun _ _ held => held) (fun _ _ _ held => held) ?_)
    intro other r held
    rw [Server.step, (Multinode.forgetMnKey_removes lane).tracks] at held
    split at held
    · cases held
    · exact held
  | retire nodeId =>
    refine iff_of_true trivial (removal_mortal mortal rfl (fun _ _ held => held) ?_ fun _ _ held => held)
    intro n hexn e held
    simp only [heldEntry, Server.step, Dict.get?_erase] at held
    split at held
    · cases held
    · exact held
  | sweep nowS =>
    refine iff_of_true trivial (removal_mortal mortal rfl ?_ ?_ fun _ _ held => held)
    · exact fun _ _ held => (Dict.get?_filter_some held).1
    · intro n hexn e held
      rw [Server.step, heldEntry_sweepClaims] at held
      exact (Option.filter_eq_some_iff.mp held).1
  | prune nowS =>
    refine iff_of_true trivial (removal_mortal mortal rfl (fun _ _ held => held) (fun _ _ _ held => held) ?_)
    intro key r held
    rw [Server.step, tracks_pruned] at held
    exact (Option.filter_eq_some_iff.mp held).1

theorem claimsFade_of_stamped (e : Event γ) (stamped : StampedByArrival lib cfg lane s e) : ClaimsFade lib cfg s e := by
  cases e with
  | frame r =>
    intro item listed nowS late queue nodeId
    have within : (frameTsMs r.frame : ℚ) / 1000 ≤ r.arrivedS := stamped (List.ne_nil_of_mem listed)
    have own : item.2.tsMs = frameTsMs r.frame := stamped_recorded _ _ _ item listed
    have stale : (item.2.tsMs : ℚ) < freshCutoffMs nowS := by
      rw [own, freshCutoffMs]
      linarith
    exact ⟨fun drawn => absurd (fresh_of_freshClaims drawn) (not_le.mpr stale),
      fun credited => absurd (fresh_of_creditNewest credited) (not_le.mpr stale)⟩
  | publish _ | forget _ | retire _ | sweep _ | prune _ => trivial

end

/-- In every state reached each entry goes within its retention of the arrival of the last frame that touched it,
and every frame's claims fade within the freshness window of its arrival, exactly when nothing is stamped after
its arrival that claims or is solved. -/
theorem none_immortal_iff (lib : Externals γ) (cfg : ClaimSettings) (lane : Multinode.Config) (events : List (Event γ)) :
    ((∀ before after, events = before ++ after → NoneImmortal lane (run (Server.step lib cfg lane) .boot before)) ∧
        Along (Server.step lib cfg lane) (ClaimsFade lib cfg) .boot events) ↔
      Along (Server.step lib cfg lane) (StampedByArrival lib cfg lane) .boot events := by
  have boot : Server.boot.view.Mortal (retention lane) := by
    rintro entry nowS - ⟨stamp, found, -⟩
    cases entry <;> cases found
  have mortal := along_iff_invariant (I := fun s : Server => s.view.Mortal (retention lane))
    (fun s e held => step_mortal_iff lib cfg held e) boot events
  constructor
  · rintro ⟨all, -⟩
    exact mortal.mpr fun before after split => (noneImmortal_iff lane _).mp (all before after split)
  · intro stamped
    refine ⟨fun before after split => (noneImmortal_iff lane _).mpr (mortal.mp stamped before after split), ?_⟩
    exact along_of_invariant (I := fun _ => True) (fun _ _ _ _ => trivial)
      (fun s e _ allowed => claimsFade_of_stamped e allowed) trivial stamped

/-- A node whose clock says 2100 tags its one detection. -/
def fromTheFuture : Received Unit where
  arrivedS := 1000
  scene := hoveringScene
  nodeId := "node-1"
  frame := { echoAt 4102444800000 with adsb := some [some { hex := some "abc123", lat := some 34, lon := some (-82) }] }
  followClaimed := none

/-- More than two minutes after the only frame the pruners leave its claim. -/
theorem claims_kept_forever :
    ¬ ∀ events before after : List (Event Unit), events = before ++ after →
      NoneImmortal Multinode.meridianConfig (run (Server.step hoveringSky {} Multinode.meridianConfig) .boot before) := by
  intro mortal
  have reached := mortal [.frame fromTheFuture] _ [] (List.append_nil _).symm
  exact reached (.claims "abc123") 1121 (by decide +kernel) (by decide +kernel)

end Retina.Lifetimes
