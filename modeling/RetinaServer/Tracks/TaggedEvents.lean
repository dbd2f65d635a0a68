import RetinaServer.Feed.TrackEntry

/-! A track's event through the geolocation, with the ADS-B tags of its detections and the cached record of its
transponder as they were sent. Reading a value that does not fit raises, and ends the frame where it stands. -/
namespace Retina.TaggedEvents
open Tcp (Json Fields PyFloat get)
open Frames (Trig ftToM knotsToMs)
open FeedBuild (orZero)

def GEO_INTERVAL_S : ℚ := 10

/-! ### Numbers -/

def PyFloat.isInfinite : PyFloat → Bool
  | .posInf | .negInf => true
  | _ => false

/-- `x * c`. -/
def PyFloat.times : PyFloat → ℚ → PyFloat
  | .fin x, c => .fin (x * c)
  | .nan, _ => .nan
  | .posInf, c => if c = 0 then .nan else if 0 < c then .posInf else .negInf
  | .negInf, c => if c = 0 then .nan else if 0 < c then .negInf else .posInf

/-- The float of a number that is multiplied by one; nothing else can be. -/
def factor : Json → Option PyFloat
  | .bool b => some (.fin (if b then 1 else 0))
  | .int n => if Tcp.floatCeiling ≤ |n| then none else some (.fin n)
  | .float x => some x
  | _ => none

/-- `as_num`; an integer without a float raises. -/
def asNum (value : Json) : Option ℚ :=
  value.isNum.map fun finite =>
    match value.number? with
    | some (.fin x) => if finite then x else 0
    | _ => 0

/-! ### Records and detections -/

/-- A record in `adsb_aircraft`. Its writers check the position and set the stamp; the rest is as it was sent. -/
structure LiveRecord where
  lat : ℚ
  lon : ℚ
  lastSeenMs : ℚ
  altBaro : Json
  gs : Json
  track : Json

/-- `adsb.get("lat") and adsb.get("lon")`. -/
def LiveRecord.placed (live : LiveRecord) : Bool := decide (live.lat ≠ 0 ∧ live.lon ≠ 0)

/-- `(adsb.get("gs", 0) or 0) * 0.514444`. -/
def LiveRecord.gsMs (live : LiveRecord) : Option PyFloat := (factor (orZero live.gs)).map (PyFloat.times · knotsToMs)

/-- The course in degrees, of which the sine and the cosine are taken: an infinity has none. -/
def LiveRecord.course (live : LiveRecord) : Option PyFloat := (factor (orZero live.track)).filter fun x => !PyFloat.isInfinite x

structure Velocity where
  east : PyFloat
  north : PyFloat
deriving DecidableEq

def LiveRecord.velocity (trig : Trig) (live : LiveRecord) : Option Velocity :=
  live.gsMs.bind fun gs => live.course.map fun course =>
    match course with
    | .fin degrees => ⟨PyFloat.times gs (trig.sinDeg degrees), PyFloat.times gs (trig.cosDeg degrees)⟩
    | _ => ⟨.nan, .nan⟩

structure Detection where
  timestamp : ℚ
  delay : ℚ
  doppler : ℚ
  snr : ℚ
  adsb : Option Json := none

/-- A detection of the frame, as the tracker is given it. -/
structure FrameDetection where
  delay : ℚ
  doppler : ℚ
  snr : ℚ
  adsb : Option Json := none

structure Frame where
  timestamp : ℚ
  delay : List ℚ
  doppler : List ℚ
  snr : List ℚ
  adsb : List Json := []

/-- What an event of the tracker says of a track. `newest` and `window` are its recent detections, the one or as
many as the event is long, oldest first. -/
structure TrackEvent (τ : Type) where
  trackId : τ
  timestamp : ℚ
  length : ℕ
  adsbHex : Option Ident
  newest : Option Detection
  window : List Detection

/-- The clocks at an event and the cached records while it is processed, which other threads go on writing. -/
structure Meeting where
  mono : ℚ
  wall : ℚ
  before : Ident → Option LiveRecord
  during : Ident → Option LiveRecord
  after : Ident → Option LiveRecord

/-! ### What is published -/

structure Track (τ : Type) where
  trackId : τ
  adsbHex : Option Ident
  lat : ℚ
  lon : ℚ
  altM : ℚ
  velocity : Velocity
  velUp : ℚ
  nDetections : ℕ
  lastUpdateMs : ℚ
  wallClockTs : ℚ
  posFixTs : ℚ
  lastDetectionWallTs : ℚ
  lastDetectionAdsbHex : Json
  latestDelayUs : Option ℚ
  latestDopplerHz : Option ℚ

structure Solution where
  lat : ℚ
  lon : ℚ
  altM : ℚ
  velocity : Velocity
  velUp : ℚ

structure GeoTrack (τ : Type) where
  trackId : τ
  detections : List Detection
  adsbInitialized : Bool := false

/-- What the geolocator comes to: it raises before the solver, or the solver fails, or there is a state and its position. -/
inductive Located (σ : Type) where
  | raised
  | failed
  | solved (state : σ) (solution : Solution)

/-- The geolocator from the initial guess on, which starts from the previous solution where there is one, and what the
pipeline is made with. -/
structure Geolocator (τ σ : Type) where
  trig : Trig
  minDetections : ℕ
  passiveTrackHex : τ → String
  locate : Option σ → GeoTrack τ → Located σ

/-- The objects made so far, by reference, and the dictionaries of the pipeline and the server. -/
structure State (τ σ : Type) where
  objects : List (Track τ) := []
  geolocatedTracks : Dict τ ℕ := .empty
  geoLastSolve : Dict τ ℚ := .empty
  previousSolutions : Dict τ σ := .empty
  activeGeoAircraft : Dict String ℕ := .empty

/-- A step that raises leaves the state it has come to. -/
abbrev Raising (α : Type) := Except α α

section
variable {τ σ : Type} (lib : Geolocator τ σ)

/-! ### Tags -/

/-- `(tag or {}).get("hex")`; a tag that is no dictionary has no `get`. -/
def tagHex (tag : Option Json) : Option Json :=
  match tag with
  | none => some .null
  | some tag =>
      if !tag.truthy then some .null
      else match tag with
        | .dict fields => some (get fields "hex" .null)
        | _ => none

def numericKeys : List String := ["alt_baro", "gs", "track", "geom_rate"]

def coercedField (field : String × Json) : Option (String × Json) :=
  if field.1 ∈ numericKeys then (asNum field.2).map fun x => (field.1, .float (.fin x)) else some field

/-- `_coerced_adsb`. -/
def coercedAdsb : Json → Option Json
  | .dict fields => (fields.mapM coercedField).map .dict
  | tag => some tag

def coercedDetection (d : Detection) : Option Detection :=
  match d.adsb with
  | none => some d
  | some tag => (coercedAdsb tag).map fun tag => { d with adsb := some tag }

/-! ### `_geolocate_track_event` -/

/-- The record that takes the place of the first detection's tag. -/
def freshRecord (m : Meeting) (e : TrackEvent τ) : Option LiveRecord :=
  (e.adsbHex.bind m.during).filter fun live => live.placed && decide (m.wall - live.lastSeenMs / 1000 < 60)

def recordTag (live : LiveRecord) : Option Json := do
  let altBaro ← asNum live.altBaro
  let gs ← asNum live.gs
  let track ← asNum live.track
  return .dict [("lat", .float (.fin live.lat)), ("lon", .float (.fin live.lon)), ("alt_baro", .float (.fin altBaro)),
    ("gs", .float (.fin gs)), ("track", .float (.fin track))]

/-- What the geolocator is given. -/
def geoTrack (m : Meeting) (e : TrackEvent τ) : Option (GeoTrack τ) := do
  let detections ← e.window.mapM coercedDetection
  match freshRecord m e with
  | none => return { trackId := e.trackId, detections }
  | some live =>
      match detections with
      | [] => return { trackId := e.trackId, detections, adsbInitialized := true }
      | first :: rest =>
          let tag ← recordTag live
          return { trackId := e.trackId, detections := { first with adsb := some tag } :: rest, adsbInitialized := true }

def geolocateTrackEvent (m : Meeting) (previous : Option σ) (e : TrackEvent τ) : Located σ :=
  if e.window.length < lib.minDetections then .failed
  else match geoTrack m e with
    | none => .raised
    | some track => lib.locate previous track

/-! ### `_run_geolocation` -/

def Track.key (track : Track τ) : String := track.adsbHex.elim (lib.passiveTrackHex track.trackId) Subtype.val

def moved (lat lon lat' lon' : ℚ) : Bool := decide (1 / 1000000 < |lat - lat'| ∨ 1 / 1000000 < |lon - lon'|)

/-- A detection without a delay refreshes nothing. -/
def TrackEvent.measured (e : TrackEvent τ) : Option Detection := e.newest.filter fun d => decide (0 < d.delay)

def TrackEvent.tag (e : TrackEvent τ) : Option Json := e.newest.bind Detection.adsb

def refreshMeasurement (m : Meeting) (e : TrackEvent τ) (hex : Json) (existing : Track τ) : Track τ :=
  let stamped := { existing with lastDetectionWallTs := m.wall, lastDetectionAdsbHex := hex }
  match e.measured with
  | some d => { stamped with latestDelayUs := some d.delay, latestDopplerHz := some d.doppler }
  | none => stamped

def refreshKinematics (e : TrackEvent τ) (altM : ℚ) (velocity : Velocity) (existing : Track τ) : Track τ :=
  { existing with altM, velocity, lastUpdateMs := e.timestamp, nDetections := e.length }

def solvedTrack (m : Meeting) (e : TrackEvent τ) (hex : Json) (solution : Solution) (existing : Option (Track τ)) : Track τ where
  trackId := e.trackId
  adsbHex := e.adsbHex
  lat := solution.lat
  lon := solution.lon
  altM := solution.altM
  velocity := solution.velocity
  velUp := solution.velUp
  nDetections := e.window.length
  lastUpdateMs := e.timestamp
  wallClockTs := m.wall
  posFixTs := match existing with
    | some old => if moved old.lat old.lon solution.lat solution.lon then m.wall else old.posFixTs
    | none => m.wall
  lastDetectionWallTs := m.wall
  lastDetectionAdsbHex := hex
  latestDelayUs := e.window.getLast?.map Detection.delay
  latestDopplerHz := e.window.getLast?.map Detection.doppler

/-- A first encounter that is not solved is placed by its transponder. -/
def bootstrapTrack (m : Meeting) (e : TrackEvent τ) (live : LiveRecord) (altM : ℚ) (velocity : Velocity) (shared : Option (Track τ)) :
    Track τ where
  trackId := e.trackId
  adsbHex := e.adsbHex
  lat := live.lat
  lon := live.lon
  altM := altM
  velocity := velocity
  velUp := 0
  nDetections := e.length
  lastUpdateMs := e.timestamp
  wallClockTs := m.wall
  posFixTs := match shared with
    | some other => if moved other.lat other.lon live.lat live.lon then m.wall else other.posFixTs
    | none => m.wall
  lastDetectionWallTs := m.wall
  lastDetectionAdsbHex := .null
  latestDelayUs := e.measured.map Detection.delay
  latestDopplerHz := e.measured.map Detection.doppler

def fallbackPosition (m : Meeting) (live : LiveRecord) (existing : Track τ) : Track τ :=
  if moved existing.lat existing.lon live.lat live.lon then
    { existing with lat := live.lat, lon := live.lon, wallClockTs := m.wall, posFixTs := m.wall }
  else existing

variable [DecidableEq τ]

def State.existing (s : State τ σ) (e : TrackEvent τ) : Option ℕ := s.geolocatedTracks.get? e.trackId

def State.modify (s : State τ σ) (r : ℕ) (f : Track τ → Track τ) : State τ σ := { s with objects := s.objects.modify r f }

/-- A new object, in the place of the track's old one and under its own key. -/
def State.publish (s : State τ σ) (track : Track τ) : State τ σ :=
  { s with
    objects := s.objects ++ [track]
    geolocatedTracks := s.geolocatedTracks.insert track.trackId s.objects.length
    activeGeoAircraft := s.activeGeoAircraft.insert (track.key lib) s.objects.length }

/-- What every event does, with its track's object where there is one. -/
def State.refresh (s : State τ σ) (m : Meeting) (e : TrackEvent τ) (hex : Json) : Raising (State τ σ) :=
  match s.existing e with
  | none => .ok s
  | some r =>
      let s := s.modify r (refreshMeasurement m e hex)
      match e.adsbHex.bind m.before with
      | none => .ok s
      | some live =>
          match live.velocity lib.trig, asNum live.altBaro with
          | some velocity, some alt => .ok (s.modify r (refreshKinematics e (alt * ftToM) velocity))
          | _, _ => .error s

def State.limited (s : State τ σ) (m : Meeting) (e : TrackEvent τ) : Bool :=
  decide (m.mono - (s.geoLastSolve.get? e.trackId).getD 0 < GEO_INTERVAL_S)

/-- A failed solve falls back on the transponder's position, where it has one. -/
def State.fallback (s : State τ σ) (m : Meeting) (e : TrackEvent τ) : Raising (State τ σ) :=
  match (e.adsbHex.bind m.after).filter LiveRecord.placed with
  | none => .ok s
  | some live =>
      match live.velocity lib.trig with
      | none => .error s
      | some velocity =>
          match s.existing e with
          | some r =>
              let s := s.modify r (fallbackPosition m live)
              .ok (match s.objects[r]? with
                | some track => { s with activeGeoAircraft := s.activeGeoAircraft.insert (track.key lib) r }
                | none => s)
          | none =>
              match asNum live.altBaro with
              | none => .error s
              | some alt =>
                  let shared := (s.activeGeoAircraft.get? (e.adsbHex.elim "" Subtype.val)).bind fun r => s.objects[r]?
                  .ok (s.publish lib (bootstrapTrack m e live (alt * ftToM) velocity shared))

/-- The solver's turn, at most once in an interval. -/
def State.solve (s : State τ σ) (m : Meeting) (e : TrackEvent τ) (hex : Json) : Raising (State τ σ) :=
  if s.limited m e then .ok s
  else
    let s := { s with geoLastSolve := s.geoLastSolve.insert e.trackId m.mono }
    match geolocateTrackEvent lib m (s.previousSolutions.get? e.trackId) e with
    | .raised => .error s
    | .failed => s.fallback lib m e
    | .solved state solution =>
        let solved := solvedTrack m e hex solution ((s.existing e).bind fun r => s.objects[r]?)
        .ok ({ s with previousSolutions := s.previousSolutions.insert e.trackId state }.publish lib solved)

/-- One event of `_run_geolocation`. -/
def State.takeUp (s : State τ σ) (m : Meeting) (e : TrackEvent τ) : Raising (State τ σ) :=
  match tagHex e.tag with
  | none => .error s
  | some hex =>
      match s.refresh lib m e hex with
      | .error s => .error s
      | .ok s => s.solve lib m e hex

def runGeolocation (meet : τ → Meeting) : State τ σ → List (TrackEvent τ) → Raising (State τ σ)
  | s, [] => .ok s
  | s, e :: rest =>
      match s.takeUp lib (meet e.trackId) e with
      | .error s => .error s
      | .ok s => runGeolocation meet s rest

/-! ### `process_frame` -/

/-- `InMemoryEventWriter`: the latest event of every track, and the tracks with an event since they were last asked for. -/
structure Writer (τ : Type) [DecidableEq τ] where
  events : Dict τ (TrackEvent τ)
  dirty : List τ
  distinct : dirty.Nodup
  named : ∀ track e, events.get? track = some e → e.trackId = track

def Writer.newEvents (w : Writer τ) : List (TrackEvent τ) := w.dirty.filterMap w.events.get?

/-- `get_new_events` clears the set before an event is looked at. -/
def Writer.cleared (w : Writer τ) : Writer τ := { w with dirty := [], distinct := List.nodup_nil }

def frameDetections (frame : Frame) : List FrameDetection :=
  ((frame.delay.zip (frame.doppler.zip frame.snr)).zipIdx).map fun ((delay, doppler, snr), i) =>
    { delay, doppler, snr, adsb := frame.adsb[i]?.filter fun tag => !tag.isNull }

/-- `process_frame`, up to the pruning of dead tracks. `tracker` is what the tracker does with the detections: the events it
writes. -/
def processFrame (meet : τ → Meeting) (tracker : Writer τ → List FrameDetection → ℚ → Writer τ) (w : Writer τ) (s : State τ σ)
    (frame : Frame) : Writer τ × Raising (State τ σ) :=
  let w := tracker w (frameDetections frame) frame.timestamp
  (w.cleared, runGeolocation lib meet s w.newEvents)

end
end Retina.TaggedEvents
