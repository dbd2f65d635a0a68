import RetinaServer.Frames.Frame

/-! One frame through claiming, tagging, extraction and archive. The dark lane
works on a copy of the frame only when a claim bound some detection; without one
it works on the received frame itself, and so does the tagging. -/
namespace Retina.Frames

/-- The mode of a claiming lane. -/
inductive LaneMode where
  | off
  | shadow
  | binding
deriving DecidableEq, Repr

inductive SeedMode where
  | off
  | shadow
  | active
deriving DecidableEq, Repr

inductive PositionStatus where
  | positioned
  | missingTx
  | missingRx
  | missingBoth
deriving DecidableEq, Repr

structure NodeConfig where
  rxLat : Option ℚ := none
  rxLon : Option ℚ := none
  txLat : Option ℚ := none
  txLon : Option ℚ := none

def positionStatus (config : NodeConfig) : PositionStatus :=
  let hasRx := config.rxLat.isSome && config.rxLon.isSome
  let hasTx := config.txLat.isSome && config.txLon.isSome
  if hasRx ∧ hasTx then .positioned else if hasRx then .missingTx else if hasTx then .missingRx else .missingBoth

/-- What the processing of a node's frame reads of the server. `associate` is the
analytics library's assignment of live aircraft to detections. -/
structure FrameContext (Geo : Type) where
  probation : Bool
  knownLaneMode : LaneMode
  darkFollowMode : LaneMode
  adsbSeedMode : SeedMode
  geometry : Option Geo
  config : NodeConfig
  world : World
  polled : AdsbStore
  recvS : ℚ
  trig : Trig
  associate : Geo → List ℚ → List ℚ → AdsbStore → ℚ → Option (List (Option AdsbTag))

/-- The detections claimed by transponder and those claimed by the follow lane;
an error stands for a claim that throws. -/
abbrev ClaimVerdict := Except String (Finset Nat × Finset Nat)

/-- The archive buffer of the node, and the cache of ADS-B fixes. -/
structure ServerState where
  archiveBuffer : List Frame
  adsbAircraft : AdsbStore
deriving DecidableEq

/-- The received frame, and the copy the dark lane has of it, if it has its own. -/
structure WorkingFrame where
  received : Frame
  stripped : Option Frame

namespace WorkingFrame

def pframe (work : WorkingFrame) : Frame := work.stripped.getD work.received

/-- Assigning the tags to the dark lane's frame. -/
def setAdsb (work : WorkingFrame) (tags : List (Option AdsbTag)) : WorkingFrame :=
  match work.stripped with
  | some copy => { work with stripped := some { copy with adsb := some tags } }
  | none => { work with received := { work.received with adsb := some tags } }

end WorkingFrame

section
variable {Geo : Type} (ctx : FrameContext Geo)

/-- The union of what the binding lanes claimed. Claiming fails open. -/
def boundDetections (verdict : ClaimVerdict) (frame : Frame) : Finset Nat :=
  if ctx.probation ∨ ctx.knownLaneMode = .off ∨ frame.delay.getD [] = [] then ∅
  else match verdict with
    | .error _ => ∅
    | .ok (claimed, followed) =>
        (if ctx.knownLaneMode = .binding then claimed else ∅) ∪
          (if ctx.darkFollowMode = .binding then followed else ∅)

def claim (verdict : ClaimVerdict) (frame : Frame) : WorkingFrame where
  received := frame
  stripped :=
    let bound := boundDetections ctx verdict frame
    if bound = ∅ then none else some (stripClaimedDetections frame bound)

/-- The tags of the node's own world that the library assigns to a frame. -/
def autoTags (store : AdsbStore) (frame : Frame) : Option (List (Option AdsbTag)) :=
  match ctx.geometry with
  | none => none
  | some geo =>
      if positionStatus ctx.config = .positioned then
        let states := (adsbForSeeding ctx.polled store).filter fun _ rec =>
          decide (rec.world = none ∨ rec.world = some ctx.world)
        ctx.associate geo (frame.delay.getD []) (frame.doppler.getD []) states (frame.timestamp.getD 0)
      else none

/-- The tags a frame is given: only in active mode, and only when it carries none. -/
def seedTags (store : AdsbStore) (frame : Frame) : Option (List (Option AdsbTag)) :=
  if ctx.adsbSeedMode = .active ∧ frame.adsb.getD [] = [] then autoTags ctx store frame else none

def seed (store : AdsbStore) (work : WorkingFrame) : WorkingFrame :=
  match seedTags ctx store work.pframe with
  | some tags => work.setAdsb tags
  | none => work

/-- The ADS-B extraction and the archive append, from one frame. -/
def record (frame : Frame) (s : ServerState) : ServerState :=
  if ctx.probation then s
  else ⟨s.archiveBuffer ++ [frame], extractAdsb ctx.trig ctx.recvS ctx.world frame s.adsbAircraft⟩

/-- The frame the node's tracker is given, and the state the frame leaves. -/
def processOneFrame (verdict : ClaimVerdict) (frame : Frame) (s : ServerState) : Frame × ServerState :=
  let work := seed ctx s.adsbAircraft (claim ctx verdict frame)
  (work.pframe, record ctx work.received s)

/-- The archive and the ADS-B cache are left as the frame as received leaves them. -/
def RecordedAsSent (verdict : ClaimVerdict) (frame : Frame) (s : ServerState) : Prop :=
  (processOneFrame ctx verdict frame s).2 = record ctx frame s

instance (verdict : ClaimVerdict) (frame : Frame) (s : ServerState) :
    Decidable (RecordedAsSent ctx verdict frame s) := inferInstanceAs (Decidable (_ = _))

theorem record_inj (established : ctx.probation = false) (same : record ctx frame s = record ctx frame' s) :
    frame = frame' := by
  simp only [record, established, Bool.false_eq_true, if_false, ServerState.mk.injEq] at same
  simpa using same.1

/-- A frame the dark lane has its own copy of is left alone. -/
theorem seed_received_of_copy (copy : Frame) :
    (seed ctx store ⟨frame, some copy⟩).received = frame := by
  unfold seed
  split <;> rfl

theorem seed_received (store : AdsbStore) (frame : Frame) :
    (seed ctx store ⟨frame, none⟩).received =
      match seedTags ctx store frame with
      | some tags => { frame with adsb := some tags }
      | none => frame := by
  simp only [seed]
  cases given : seedTags ctx store (WorkingFrame.pframe ⟨frame, none⟩) with
  | some tags =>
    have same : seedTags ctx store frame = some tags := given
    rw [same]
    rfl
  | none =>
    have same : seedTags ctx store frame = none := given
    rw [same]

theorem received_eq_iff (verdict : ClaimVerdict) (frame : Frame) (store : AdsbStore) :
    (seed ctx store (claim ctx verdict frame)).received = frame ↔
      boundDetections ctx verdict frame ≠ ∅ ∨ ∀ tags, seedTags ctx store frame = some tags → frame.adsb = some tags := by
  simp only [claim]
  by_cases free : boundDetections ctx verdict frame = ∅
  · simp only [free, if_true, seed_received, ne_eq, not_true, false_or]
    cases given : seedTags ctx store frame with
    | none => simp
    | some tags =>
      simp only [Option.some.injEq]
      constructor
      · intro same other given
        exact given ▸ (congrArg Frame.adsb same).symm
      · intro kept
        rw [← kept tags rfl]
  · simp [free, seed_received_of_copy]

/-- A frame is recorded as it was sent exactly when the node is on probation, or
some detection of it was bound and so the dark lane has a copy, or no tags are
synthesised for it, or the ones that are are what it carried. -/
theorem recorded_as_sent_iff (verdict : ClaimVerdict) (frame : Frame) (s : ServerState) :
    RecordedAsSent ctx verdict frame s ↔
      ctx.probation = true ∨ boundDetections ctx verdict frame ≠ ∅ ∨
      ctx.adsbSeedMode ≠ .active ∨ frame.adsb.getD [] ≠ [] ∨
      ∀ tags, autoTags ctx s.adsbAircraft frame = some tags → frame.adsb = some tags := by
  have seeded : (∀ tags, seedTags ctx s.adsbAircraft frame = some tags → frame.adsb = some tags) ↔
      ctx.adsbSeedMode ≠ .active ∨ frame.adsb.getD [] ≠ [] ∨
        ∀ tags, autoTags ctx s.adsbAircraft frame = some tags → frame.adsb = some tags := by
    simp only [seedTags]
    by_cases open_ : ctx.adsbSeedMode = .active ∧ frame.adsb.getD [] = []
    · simp [open_]
    · have closed : ctx.adsbSeedMode ≠ .active ∨ frame.adsb.getD [] ≠ [] := not_and_or.mp open_
      simp only [if_neg open_, reduceCtorEq, false_implies, implies_true, true_iff]
      exact closed.elim .inl fun own => .inr (.inl own)
  unfold RecordedAsSent processOneFrame
  cases standing : ctx.probation with
  | true => simp [record, standing]
  | false =>
    rw [← seeded, ← received_eq_iff]
    simp only [Bool.false_eq_true, false_or]
    constructor
    · exact record_inj ctx standing
    · intro same
      rw [same]

end

/-- A fix captured at 90 s, and a receiverless node in active mode whose only
detection the library assigns it to. -/
def fixAt90 : AdsbRecord where
  hex := "abc123"
  flight := "TST1"
  lat := 35
  lon := -82
  altBaro := .num 23000
  gs := .num 0
  track := .num 0
  lastSeenMs := 90000
  recvMs := some 90000
  world := some .real
  altM := 70104 / 10
  velEast := 0
  velNorth := 0

def receiverless : FrameContext Unit where
  probation := false
  knownLaneMode := .off
  darkFollowMode := .off
  adsbSeedMode := .active
  geometry := some ()
  config := { rxLat := some 35, rxLon := some (-82), txLat := some 35, txLon := some (-83) }
  world := .real
  polled := Dict.empty
  recvS := 100
  trig := ⟨fun _ => 0, fun _ => 1⟩
  associate := fun _ delays _ states _ => some (delays.map fun _ => (states.get? "abc123").map fun rec =>
    { hex := some rec.hex, flight := some rec.flight, lat := some rec.lat, lon := some rec.lon,
      altBaro := some rec.altBaro, gs := some rec.gs, track := some rec.track })

def untagged : Frame := ⟨some [50], some [10], some [20], none, some 100000⟩

/-- The synthesised tag is archived, and refreshes the very fix it was made from. -/
theorem seed_tag_recorded :
    ¬ RecordedAsSent receiverless (.ok (∅, ∅)) untagged ⟨[], Dict.empty.insert "abc123" fixAt90⟩ ∧
    (((processOneFrame receiverless (.ok (∅, ∅)) untagged ⟨[], Dict.empty.insert "abc123" fixAt90⟩).2.adsbAircraft.get?
      "abc123").map AdsbRecord.lastSeenMs) = some 100000 := by
  decide +kernel

end Retina.Frames
