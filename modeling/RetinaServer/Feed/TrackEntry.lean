import RetinaServer.Feed.Entry
import RetinaServer.Library.Rounding
import RetinaServer.Tcp.Detection

/-! A geolocated track as an entry of the map. Its altitude, speed and heading are
those of the aircraft's transponder where there is a fresh record of it, as the
sender gave them. -/
namespace Retina.FeedBuild
open Tcp (Json Fields PyText PyFloat get)
open Feed (FeedEntry PositionSource)
open Rounding (roundTo roundHalfEven)

def displayStaleTrackS : ℚ := 15
def adsbFreshS : ℚ := 60
def externalAdsbMaxAgeS : ℚ := 120 + 300 + 180
def arcMinDifferentialKm : ℚ := 3
def cKmUs : ℚ := 299792458 / 1000000000

/-! ### Figures -/

/-- `round(value)`; there is no whole number for what is not finite. -/
def roundWhole : PyFloat → Option ℤ
  | .fin x => some (roundHalfEven x)
  | .posInf | .negInf | .nan => none

/-- `round(value, digits)`. -/
def roundDigits (digits : Nat) : PyFloat → PyFloat
  | .fin x => .fin (roundTo digits x)
  | other => other

def scaled (c : ℚ) : PyFloat → PyFloat
  | .fin x => .fin (x * c)
  | other => other

/-- `_num`: what is no number counts as 0, and an integer without a float raises. -/
def num (text : PyText) (value : Json) : Option PyFloat :=
  match text.float value with
  | .converted x => some x
  | .invalid => some (.fin 0)
  | .overflow => none

/-- `entry.get(key, 0)` of a stamp. -/
def stampMs (entry : Fields) (key : String) : ℚ :=
  match (get entry key (.int 0)).number? with
  | some (.fin x) => x
  | _ => 0

/-! ### The transponder's record -/

def orZero (value : Json) : Json := if value.truthy then value else .int 0

/-- Altitude in feet, speed in knots and heading of an external record: zeros where one of the three is no number. -/
def externalFigures (text : PyText) (ext : Fields) : Option (PyFloat × PyFloat × PyFloat) :=
  match text.float (orZero (get ext "alt_m" .null)) with
  | .overflow => none
  | .invalid => some (.fin 0, .fin 0, .fin 0)
  | .converted altM => match text.float (orZero (get ext "velocity" .null)) with
    | .overflow => none
    | .invalid => some (.fin 0, .fin 0, .fin 0)
    | .converted velocity => match text.float (orZero (get ext "heading" .null)) with
      | .overflow => none
      | .invalid => some (.fin 0, .fin 0, .fin 0)
      | .converted heading => some (scaled (10000 / 3048) altM, scaled (194384 / 100000) velocity, heading)

def externalRecord (acHex : String) (ext : Fields) (altFt : ℤ) (gs heading : PyFloat) : Fields :=
  [("hex", .str acHex), ("lat", get ext "lat" .null), ("lon", get ext "lon" .null), ("alt_baro", .int altFt),
    ("gs", .float (roundDigits 1 gs)), ("track", .float (roundDigits 1 heading)),
    ("last_seen_ms", .int (Frames.truncate (stampMs ext "last_seen_ms")))]

/-- The cache's record of the aircraft, while it is fresh. -/
def ownRecord (adsbAircraft : Dict String Fields) (acHex : String) (now : ℚ) : Option Fields :=
  (adsbAircraft.get? acHex).filter fun entry =>
    !entry.isEmpty && decide (now - stampMs entry "last_seen_ms" / 1000 ≤ adsbFreshS)

/-- The external record, if it is placed and can be aged. -/
def externalOf (externalAdsb : Dict String Fields) (acHex : String) (now : ℚ) : Option Fields :=
  (externalAdsb.get? acHex).filter fun ext =>
    !ext.isEmpty && Tcp.validLatlon (get ext "lat" .null) (get ext "lon" .null) &&
      decide (stampMs ext "last_seen_ms" ≠ 0 ∧ |now - stampMs ext "last_seen_ms" / 1000| ≤ externalAdsbMaxAgeS)

/-- `fresh_adsb`; the outer `none` is an exception. -/
def freshAdsb (text : PyText) (adsbAircraft externalAdsb : Dict String Fields) (acHex : String) (now : ℚ) :
    Option (Option Fields) :=
  match ownRecord adsbAircraft acHex now with
  | some entry => some (some entry)
  | none => match externalOf externalAdsb acHex now with
    | none => some none
    | some ext => match externalFigures text ext with
      | none => none
      | some (altFt, gs, heading) =>
          (roundWhole altFt).map fun altFt => some (externalRecord acHex ext altFt gs heading)

/-! ### The track -/

abbrev Arc := List (ℚ × ℚ)

/-- A geolocated track, as far as its entry is made of it; `estimate` is what only the gates look at. -/
structure Track (τ : Type) where
  hexId : String
  adsbHex : Option String := none
  wallClockTs : ℚ
  altFt : PyFloat
  speedKnots : PyFloat
  trackAngle : PyFloat
  lat : ℚ
  lon : ℚ
  nDetections : Nat
  latestDelayUs : Option ℚ := none
  latestDopplerHz : Option ℚ := none
  rmsDelay : ℚ := 0
  rmsDoppler : ℚ := 0
  maxVelocityMs : ℚ := 0
  targetClass : Option String := none
  estimate : τ

/-- What the gates make of a track: where it is drawn in the true and how far that is from the public frame, a velocity
for one that the transponder gives none, what is served of its arc and trail, its anomalies and its ground truth. -/
structure Placement where
  lat : ℚ
  lon : ℚ
  dlat : ℚ
  dlon : ℚ
  positionSource : PositionSource
  velocity : Option (ℚ × ℚ)
  publicArc : Option Arc
  recentPositions : List (List ℚ)
  isAnomalous : Bool
  anomalyTypes : List String
  positionJump : Bool
  groundTruthHex : Option Ident

/-- The geometry behind the map. What of it remembers, from the last emits to the trails, is a state. -/
structure Gates (τ σ : Type) where
  /-- `_cached_single_node_arc`. -/
  arc : Track τ → Fields → Option Arc
  /-- The speed and residual gates with their holds, dead reckoning, the public frame, the trail and the samples. -/
  place : σ → ℚ → String → Track τ → Fields → Option Fields → PyFloat → Placement × σ
  /-- `_build_single_node_arc` around the public receiver. -/
  publicArc : ℚ → Fields → Option Arc
  /-- `append_track_history` and `resolve_ground_truth_hex` for a solve, and its trail. -/
  trail : σ → ℚ → FeedEntry → (Option Ident × List (List ℚ)) × σ
  /-- What goes with a geolocated aircraft that has not been updated for long. -/
  drop : σ → String → σ

structure TrackEntry where
  hex : String
  groundTruthHex : Option Ident
  flight : String
  altBaro : Option ℤ
  altGeom : Option ℤ
  gs : PyFloat
  track : PyFloat
  lat : ℚ
  lon : ℚ
  seen : ℚ
  messages : Nat
  positionSource : PositionSource
  ambiguityArc : Option Arc
  solverLat : ℚ
  solverLon : ℚ
  rmsDelay : ℚ
  rmsDoppler : ℚ
  delayUs : ℚ
  dopplerHz : ℚ
  nodeId : Json
  targetClass : Option String
  recentPositions : List (List ℚ)
  isAnomalous : Bool
  anomalyTypes : List String
  maxVelocityMs : ℚ
  positionJump : Bool

/-- A name for a node, where the configuration has one. -/
def Json.ident? : Json → Option Ident
  | .str s => if named : s ≠ "" then some ⟨s, named⟩ else none
  | _ => none

def TrackEntry.feedEntry (e : TrackEntry) : FeedEntry where
  hex := e.hex
  lat := some e.lat
  lon := some e.lon
  altBaro := e.altBaro.map Int.cast
  positionSource := some e.positionSource
  nNodes := none
  seen := some e.seen
  multinode := false
  nodeId := Json.ident? e.nodeId
  contributingNodeIds := none
  groundTruthHex := e.groundTruthHex

section
variable {τ σ : Type} (text : PyText) (gates : Gates τ σ)

def trackAge (now : ℚ) (track : Track τ) : ℚ := if track.wallClockTs = 0 then 0 else now - track.wallClockTs

/-- The values whose floats are drawn: the record's, or the track's own where the record has none. -/
def altitudeOf (adsb : Option Fields) (track : Track τ) : Json := get (adsb.getD []) "alt_baro" (.float track.altFt)

def speedOf (adsb : Option Fields) (track : Track τ) : Json := get (adsb.getD []) "gs" (.float track.speedKnots)

def headingOf (adsb : Option Fields) (track : Track τ) : Json := get (adsb.getD []) "track" (.float track.trackAngle)

/-- A transponder vouches for the altitude. -/
def identified (adsb : Option Fields) (track : Track τ) : Bool := adsb.isSome || track.adsbHex.any fun hex => decide (hex ≠ "")

/-- A delay was measured, and no arc comes of it: the position is out of the beam. -/
def suppressed (track : Track τ) (cfg : Fields) : Bool :=
  !(gates.arc track cfg).any (fun arc => !arc.isEmpty) &&
    track.latestDelayUs.any fun delay => decide (0 < delay ∧ arcMinDifferentialKm ≤ delay * cKmUs)

def hasPosition (rec : Fields) : Bool := (get rec "lat" .null).truthy && (get rec "lon" .null).truthy

def drawnEntry (now : ℚ) (acHex : String) (track : Track τ) (cfg : Fields) (adsb : Option Fields) (alt : Option ℤ)
    (gs heading : PyFloat) (p : Placement) : TrackEntry :=
  let velocity := if gs.lt (.fin 10) && !adsb.any hasPosition then p.velocity else none
  { hex := acHex
    groundTruthHex := p.groundTruthHex
    flight := String.ofList (Frames.stripSpaces (track.adsbHex.getD "").toList)
    altBaro := alt
    altGeom := alt
    gs := velocity.elim gs fun v => .fin v.1
    track := velocity.elim heading fun v => .fin v.2
    lat := if p.dlat = 0 ∧ p.dlon = 0 then p.lat else roundTo 6 (p.lat + p.dlat)
    lon := if p.dlat = 0 ∧ p.dlon = 0 then p.lon else roundTo 6 (p.lon + p.dlon)
    seen := roundTo 1 (trackAge now track)
    messages := track.nDetections
    positionSource := p.positionSource
    ambiguityArc := p.publicArc
    solverLat := if p.dlat = 0 ∧ p.dlon = 0 then roundTo 6 track.lat else roundTo 6 (roundTo 6 track.lat + p.dlat)
    solverLon := if p.dlat = 0 ∧ p.dlon = 0 then roundTo 6 track.lon else roundTo 6 (roundTo 6 track.lon + p.dlon)
    rmsDelay := roundTo 3 track.rmsDelay
    rmsDoppler := roundTo 2 track.rmsDoppler
    delayUs := roundTo 3 (track.latestDelayUs.getD 0)
    dopplerHz := roundTo 2 (track.latestDopplerHz.getD 0)
    nodeId := get cfg "node_id" .null
    targetClass := track.targetClass
    recentPositions := p.recentPositions
    isAnomalous := p.isAnomalous
    anomalyTypes := p.anomalyTypes
    maxVelocityMs := roundTo 1 track.maxVelocityMs
    positionJump := p.positionJump }

/-- The rest of `track_entry`, with the record there is. -/
def entryOfFigures (now : ℚ) (memory : σ) (acHex : String) (track : Track τ) (cfg : Fields) (adsb : Option Fields) :
    σ × Option (Option TrackEntry) :=
  match num text (altitudeOf adsb track), num text (speedOf adsb track), num text (headingOf adsb track) with
  | some altFt, some gs, some heading =>
      if suppressed gates track cfg then (memory, some none)
      else
        let placed := gates.place memory now acHex track cfg adsb altFt
        let drawn (alt : Option ℤ) :=
          drawnEntry now acHex track cfg adsb alt (roundDigits 1 gs) (roundDigits 1 heading) placed.1
        -- The altitude is rounded as the entry is put together, when the gates have left their marks.
        (placed.2, if identified adsb track then (roundWhole altFt).map fun alt => some (drawn (some alt))
          else some (some (drawn none)))
  | _, _, _ => (memory, none)

/-- `track_entry`, and what it leaves in the memory. The outer `none` is an exception, the inner one no entry. -/
def trackEntry (adsbAircraft externalAdsb : Dict String Fields) (now : ℚ) (memory : σ) (acHex : String) (track : Track τ)
    (cfg : Fields) : σ × Option (Option TrackEntry) :=
  if displayStaleTrackS < trackAge now track then (memory, some none)
  else match freshAdsb text adsbAircraft externalAdsb acHex now with
    | none => (memory, none)
    | some adsb => entryOfFigures text gates now memory acHex track cfg adsb

/-! ### What fails -/

/-- `float` makes a number of the value. -/
def Countable (value : Json) : Prop := num text value ≠ none

/-- And one that can be rounded to a whole. -/
def Roundable (value : Json) : Prop := ∃ x, num text value = some (.fin x)

/-- An external record can be served: its figures are numbers or count as zeros, and its altitude can be rounded. -/
def Servable (ext : Fields) : Prop := ∃ altFt gs heading, externalFigures text ext = some (.fin altFt, gs, heading)

theorem roundable_iff (value : Json) : Roundable text value ↔ ∃ x, num text value = some x ∧ roundWhole x ≠ none := by
  constructor
  · rintro ⟨x, converted⟩
    exact ⟨.fin x, converted, by simp [roundWhole]⟩
  · rintro ⟨x, converted, whole⟩
    cases x with
    | fin x => exact ⟨x, converted⟩
    | posInf | negInf | nan => exact absurd rfl whole

/-- A figure of the track cannot be drawn: the altitude, the speed or the heading has no float, or the altitude is drawn,
as a transponder vouches for it, and cannot be rounded. -/
def SickFigures (adsb : Option Fields) (track : Track τ) (cfg : Fields) : Prop :=
  ¬ Countable text (altitudeOf adsb track) ∨ ¬ Countable text (speedOf adsb track) ∨
    ¬ Countable text (headingOf adsb track) ∨
    (suppressed gates track cfg = false ∧ identified adsb track = true ∧ ¬ Roundable text (altitudeOf adsb track))

/-- The track is up to date, and the external record that stands in for the cache's cannot be served, or a figure cannot be
drawn. -/
def SickTrack (adsbAircraft externalAdsb : Dict String Fields) (now : ℚ) (acHex : String) (track : Track τ) (cfg : Fields) :
    Prop :=
  trackAge now track ≤ displayStaleTrackS ∧
    ((ownRecord adsbAircraft acHex now = none ∧ ∃ ext, externalOf externalAdsb acHex now = some ext ∧ ¬ Servable text ext) ∨
      ∃ adsb, freshAdsb text adsbAircraft externalAdsb acHex now = some adsb ∧ SickFigures text gates adsb track cfg)

theorem freshAdsb_fails_iff (adsbAircraft externalAdsb : Dict String Fields) (acHex : String) (now : ℚ) :
    freshAdsb text adsbAircraft externalAdsb acHex now = none ↔
      ownRecord adsbAircraft acHex now = none ∧
        ∃ ext, externalOf externalAdsb acHex now = some ext ∧ ¬ Servable text ext := by
  rw [freshAdsb]
  cases ownRecord adsbAircraft acHex now with
  | some entry => simp
  | none =>
    cases externalOf externalAdsb acHex now with
    | none => simp
    | some ext =>
      simp only [Option.some.injEq, exists_eq_left', true_and, Servable]
      cases externalFigures text ext with
      | none => simp
      | some figures =>
        obtain ⟨altFt, gs, heading⟩ := figures
        cases altFt <;> simp [roundWhole]

theorem figures_fail_iff (now : ℚ) (memory : σ) (acHex : String) (track : Track τ) (cfg : Fields) (adsb : Option Fields) :
    (entryOfFigures text gates now memory acHex track cfg adsb).2 = none ↔ SickFigures text gates adsb track cfg := by
  rw [entryOfFigures, SickFigures, roundable_iff]
  simp only [Countable, not_not]
  cases alt : num text (altitudeOf adsb track) with
  | none => simp
  | some altFt =>
    cases num text (speedOf adsb track) with
    | none => simp
    | some gs =>
      cases num text (headingOf adsb track) with
      | none => simp
      | some heading =>
        cases suppressed gates track cfg <;> cases identified adsb track <;> simp

/-- The computation of an entry raises exactly for a sick track. -/
theorem trackEntry_fails_iff (adsbAircraft externalAdsb : Dict String Fields) (now : ℚ) (memory : σ) (acHex : String)
    (track : Track τ) (cfg : Fields) :
    (trackEntry text gates adsbAircraft externalAdsb now memory acHex track cfg).2 = none ↔
      SickTrack text gates adsbAircraft externalAdsb now acHex track cfg := by
  rw [SickTrack, trackEntry, ← freshAdsb_fails_iff]
  by_cases stale : displayStaleTrackS < trackAge now track
  · simp [stale]
  · rw [if_neg stale, and_iff_right (not_lt.mp stale)]
    cases freshAdsb text adsbAircraft externalAdsb acHex now with
    | none => simp
    | some adsb => simpa using figures_fail_iff text gates now memory acHex track cfg adsb

end
end Retina.FeedBuild
