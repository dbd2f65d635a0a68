import RetinaServer.Feed.Entry
import RetinaServer.Frames.Frame
import RetinaServer.Library.Dict
import RetinaServer.Library.Runs
import Mathlib.Algebra.Order.Ring.Abs

/-! The geolocation of a node's tracks, and the objects it publishes. A track's object is shared by the pipeline,
which goes on changing it, and by the published dictionary, which holds it under a hex. -/
namespace Retina.Geolocation
open Runs
open Frames (RawNumber asNum Trig ftToM knotsToMs)

def GEO_INTERVAL_S : ℚ := 10
def STALE_TRACK_S : ℚ := 120

/-- A transponder's record in `adsb_aircraft`, as far as the geolocation reads it. -/
structure AdsbFix where
  lat : Option ℚ := none
  lon : Option ℚ := none
  altBaro : RawNumber := .num 0
  gs : Option ℚ := none
  track : Option ℚ := none

namespace AdsbFix

/-- `adsb.get("lat") and adsb.get("lon")`: a zero is no position. -/
def position (fix : AdsbFix) : Option (ℚ × ℚ) :=
  match fix.lat, fix.lon with
  | some lat, some lon => if lat = 0 ∨ lon = 0 then none else some (lat, lon)
  | _, _ => none

def gsMs (fix : AdsbFix) : ℚ := fix.gs.getD 0 * knotsToMs
def altM (fix : AdsbFix) : ℚ := asNum fix.altBaro * ftToM
def velEast (fix : AdsbFix) (trig : Trig) : ℚ := fix.gsMs * trig.sinDeg (fix.track.getD 0)
def velNorth (fix : AdsbFix) (trig : Trig) : ℚ := fix.gsMs * trig.cosDeg (fix.track.getD 0)

end AdsbFix

/-- An object of the track `trackId`, under the hex it was made with. -/
structure GeolocatedTrack (τ : Type) where
  trackId : τ
  adsbHex : Option Ident
  lat : ℚ
  lon : ℚ
  altM : ℚ
  velEast : ℚ
  velNorth : ℚ
  velUp : ℚ
  nDetections : Nat
  lastUpdateMs : ℚ
  wallClockTs : ℚ
  posFixTs : ℚ
  lastDetectionWallTs : ℚ
  lastDetectionAdsbHex : Option String
  latestDelayUs : Option ℚ
  latestDopplerHz : Option ℚ

/-- The newest detection associated with a track. -/
structure Newest where
  delay : ℚ
  doppler : Option ℚ
  adsbHex : Option String

/-- What the tracker says of a track: the hex is whatever it holds at the time. -/
structure TrackEvent (τ : Type) where
  trackId : τ
  timestamp : ℚ
  length : Nat
  adsbHex : Option Ident
  newest : Option Newest

structure Solution where
  lat : ℚ
  lon : ℚ
  altM : ℚ
  velEast : ℚ
  velNorth : ℚ
  velUp : ℚ
  nDetections : Nat
  latestDelayUs : Option ℚ
  latestDopplerHz : Option ℚ

/-- What `_geolocate_track_event` comes to. -/
inductive Outcome where
  | raised
  | failed
  | solved (solution : Solution)

/-- An event with the clocks and what it meets: the transponders' records when it is taken up, the solver, and
the records after the solver, which other threads go on writing. -/
structure Update (τ : Type) where
  event : TrackEvent τ
  mono : ℚ
  wall : ℚ
  before : Ident → Option AdsbFix
  outcome : Outcome
  after : Ident → Option AdsbFix

inductive Event (τ : Type) where
  | update (u : Update τ)
  /-- The tracker has dropped the track. -/
  | prune (track : τ)
  /-- The feed takes out what has not been updated. -/
  | sweep (now : ℚ)

/-- The objects made so far, by reference, and the dictionaries that refer to them. -/
structure State (τ : Type) where
  objects : List (GeolocatedTrack τ)
  geolocatedTracks : Dict τ Nat
  geoLastSolve : Dict τ ℚ
  activeGeoAircraft : Dict String Nat
  /-- The hex of each track's latest event. -/
  latest : τ → Option Ident
  /-- What the latest event copied: from whose record, into which object. -/
  copied : List (Ident × Nat)

/-- The conversions, and `passive_track_hex`. -/
structure Pipeline (τ : Type) where
  trig : Trig
  passiveTrackHex : τ → String

section
variable {τ : Type} (w : Pipeline τ)

/-- `hex or hex_id`. -/
def hexKey (track : τ) (hex : Option Ident) : String := hex.elim (w.passiveTrackHex track) Subtype.val

def GeolocatedTrack.key (track : GeolocatedTrack τ) : String := hexKey w track.trackId track.adsbHex

/-- A position that is another to within 1e-6. -/
def moved (lat lon lat' lon' : ℚ) : Bool := decide (1 / 1000000 < |lat - lat'| ∨ 1 / 1000000 < |lon - lon'|)

def stamp (u : Update τ) (existing : GeolocatedTrack τ) : GeolocatedTrack τ :=
  { existing with lastDetectionWallTs := u.wall, lastDetectionAdsbHex := u.event.newest.bind Newest.adsbHex }

/-- A detection without a delay refreshes nothing. -/
def newestValid (u : Update τ) : Option Newest := u.event.newest.filter fun d => decide (0 < d.delay)

def refreshMeasurement (u : Update τ) (existing : GeolocatedTrack τ) : GeolocatedTrack τ :=
  match newestValid u with
  | some d => { existing with latestDelayUs := some d.delay, latestDopplerHz := d.doppler }
  | none => existing

def refreshKinematics (u : Update τ) (fix : AdsbFix) (existing : GeolocatedTrack τ) : GeolocatedTrack τ :=
  { existing with
    altM := fix.altM
    velEast := fix.velEast w.trig
    velNorth := fix.velNorth w.trig
    lastUpdateMs := u.event.timestamp
    nDetections := u.event.length }

/-- The object of a successful solve. -/
def solvedTrack (u : Update τ) (solution : Solution) (existing : Option (GeolocatedTrack τ)) : GeolocatedTrack τ where
  trackId := u.event.trackId
  adsbHex := u.event.adsbHex
  lat := solution.lat
  lon := solution.lon
  altM := solution.altM
  velEast := solution.velEast
  velNorth := solution.velNorth
  velUp := solution.velUp
  nDetections := solution.nDetections
  lastUpdateMs := u.event.timestamp
  wallClockTs := u.wall
  posFixTs := match existing with
    | some old => if moved old.lat old.lon solution.lat solution.lon then u.wall else old.posFixTs
    | none => u.wall
  lastDetectionWallTs := u.wall
  lastDetectionAdsbHex := u.event.newest.bind Newest.adsbHex
  latestDelayUs := solution.latestDelayUs
  latestDopplerHz := solution.latestDopplerHz

/-- A first encounter that is not solved is placed by its transponder. -/
def bootstrapTrack (u : Update τ) (h : Ident) (fix : AdsbFix) (lat lon : ℚ) (shared : Option (GeolocatedTrack τ)) :
    GeolocatedTrack τ where
  trackId := u.event.trackId
  adsbHex := some h
  lat := lat
  lon := lon
  altM := fix.altM
  velEast := fix.velEast w.trig
  velNorth := fix.velNorth w.trig
  velUp := 0
  nDetections := u.event.length
  lastUpdateMs := u.event.timestamp
  wallClockTs := u.wall
  posFixTs := match shared with
    | some other => if moved other.lat other.lon lat lon then u.wall else other.posFixTs
    | none => u.wall
  lastDetectionWallTs := u.wall
  lastDetectionAdsbHex := none
  latestDelayUs := (newestValid u).map Newest.delay
  latestDopplerHz := (newestValid u).bind Newest.doppler

/-- The position moves only where the transponder's has. -/
def fallbackPosition (u : Update τ) (lat lon : ℚ) (existing : GeolocatedTrack τ) : GeolocatedTrack τ :=
  if moved existing.lat existing.lon lat lon then
    { existing with lat, lon, wallClockTs := u.wall, posFixTs := u.wall }
  else existing

namespace State

variable [DecidableEq τ] (s : State τ)

def existing (u : Update τ) : Option Nat := s.geolocatedTracks.get? u.event.trackId

def modify (r : Nat) (f : GeolocatedTrack τ → GeolocatedTrack τ) : State τ := { s with objects := s.objects.modify r f }

/-- The object at the reference goes into `active_geo_aircraft` under its own key. -/
def hold (r : Nat) (track : GeolocatedTrack τ) : State τ :=
  { s with activeGeoAircraft := s.activeGeoAircraft.insert (track.key w) r }

/-- A new object, in the place of the track's old one and under its own key. -/
def publish (track : GeolocatedTrack τ) : State τ :=
  { s with
    objects := s.objects ++ [track]
    geolocatedTracks := s.geolocatedTracks.insert track.trackId s.objects.length
    activeGeoAircraft := s.activeGeoAircraft.insert (track.key w) s.objects.length }

/-- What every event does, with its track's object where there is one. -/
def refresh (u : Update τ) : State τ :=
  let s := { s with latest := Function.update s.latest u.event.trackId u.event.adsbHex, copied := [] }
  match s.existing u with
  | none => s
  | some r =>
      let s := s.modify r fun existing => refreshMeasurement u (stamp u existing)
      match u.event.adsbHex.bind fun h => (u.before h).map (h, ·) with
      | some (h, fix) => { s.modify r (refreshKinematics w u fix) with copied := [(h, r)] }
      | none => s

def limited (u : Update τ) : Bool :=
  decide (u.mono - (s.geoLastSolve.get? u.event.trackId).getD 0 < GEO_INTERVAL_S)

/-- A failed solve falls back on the transponder's position, where it has one. -/
def fallback (u : Update τ) (h : Ident) (fix : AdsbFix) (lat lon : ℚ) : State τ :=
  match s.existing u with
  | some r =>
      match s.objects[r]? with
      | some old =>
          { (s.modify r (fallbackPosition u lat lon)).hold w r old with
            copied := if moved old.lat old.lon lat lon then s.copied ++ [(h, r)] else s.copied }
      | none => s
  | none =>
      let shared := (s.activeGeoAircraft.get? h.val).bind fun r => s.objects[r]?
      { s.publish w (bootstrapTrack w u h fix lat lon shared) with copied := s.copied ++ [(h, s.objects.length)] }

/-- The transponder's record that a failed solve falls back on. -/
def fallbackFix (u : Update τ) : Option (Ident × AdsbFix × ℚ × ℚ) :=
  u.event.adsbHex.bind fun h => (u.after h).bind fun fix => fix.position.map fun (lat, lon) => (h, fix, lat, lon)

/-- The solver's turn, at most once in an interval. -/
def solve (u : Update τ) : State τ :=
  if s.limited u then s
  else
    let s := { s with geoLastSolve := s.geoLastSolve.insert u.event.trackId u.mono }
    match u.outcome with
    | .raised => s
    | .solved solution => s.publish w (solvedTrack u solution ((s.existing u).bind fun r => s.objects[r]?))
    | .failed => match fallbackFix u with
        | some (h, fix, lat, lon) => s.fallback w u h fix lat lon
        | none => s

/-- One event of `_run_geolocation`. -/
def runGeolocation (u : Update τ) : State τ := (s.refresh w u).solve w u

def step (s : State τ) : Event τ → State τ
  | .update u => s.runGeolocation w u
  | .prune track =>
      { s with geolocatedTracks := s.geolocatedTracks.erase track, geoLastSolve := s.geoLastSolve.erase track }
  | .sweep now =>
      { s with activeGeoAircraft := s.activeGeoAircraft.filter fun _ r =>
          s.objects[r]?.any fun track => decide (now - track.wallClockTs ≤ STALE_TRACK_S) }

/-! ### Whose the objects are -/

/-- The track of an object, and the hex it was made with. -/
def owner (r : Nat) : Option (τ × Option Ident) := s.objects[r]?.map fun track => (track.trackId, track.adsbHex)

/-- A failed solve with a transponder's position to fall back on. -/
def FallsBack (u : Update τ) : Prop := s.limited u = false ∧ u.outcome = .failed ∧ (fallbackFix u).isSome = true

/-- Whatever was copied from a transponder's record is held under its hex, and every entry under the hex of its
track's latest event. -/
structure Proper (s : State τ) : Prop where
  copied : ∀ h r, (h, r) ∈ s.copied → ∀ key, s.activeGeoAircraft.get? key = some r → key = h.val
  keyed : ∀ key r track hex, s.activeGeoAircraft.get? key = some r → s.owner r = some (track, hex) →
    key = hexKey w track (s.latest track)

/-- The event names the hex under which its track is held, where it is held, and under which the object was made
that it falls back on. -/
def KeepsKey (s : State τ) : Event τ → Prop
  | .update u =>
      (∀ key r hex, s.activeGeoAircraft.get? key = some r → s.owner r = some (u.event.trackId, hex) →
        key = hexKey w u.event.trackId u.event.adsbHex) ∧
      (s.FallsBack u → ∀ r hex, s.existing u = some r → s.owner r = some (u.event.trackId, hex) →
        hexKey w u.event.trackId hex = hexKey w u.event.trackId u.event.adsbHex)
  | _ => True

/-- The pipeline's references are to objects of their tracks, and the published ones stand under their own keys. -/
structure Sound (s : State τ) : Prop where
  tracks : ∀ track r, s.geolocatedTracks.get? track = some r → ∃ hex, s.owner r = some (track, hex)
  active : ∀ key r, s.activeGeoAircraft.get? key = some r →
    ∃ track hex, s.owner r = some (track, hex) ∧ key = hexKey w track hex

/-- What an event may do to the objects' names and to the references. -/
inductive Effect (s s' : State τ) (u : Update τ) : Prop where
  | quiet (alone : s.FallsBack u → s.existing u = none) (owners : ∀ r, s'.owner r = s.owner r)
      (tracks : s'.geolocatedTracks = s.geolocatedTracks) (active : s'.activeGeoAircraft = s.activeGeoAircraft)
  | published (alone : s.FallsBack u → s.existing u = none) (owners : ∀ r, s'.owner r =
        if r = s.objects.length then some (u.event.trackId, u.event.adsbHex) else s.owner r)
      (tracks : s'.geolocatedTracks = s.geolocatedTracks.insert u.event.trackId s.objects.length)
      (active : s'.activeGeoAircraft =
        s.activeGeoAircraft.insert (hexKey w u.event.trackId u.event.adsbHex) s.objects.length)
  | fellBack (r : Nat) (hex : Option Ident) (falls : s.FallsBack u) (existing : s.existing u = some r)
      (named : s.owner r = some (u.event.trackId, hex)) (owners : ∀ r, s'.owner r = s.owner r)
      (tracks : s'.geolocatedTracks = s.geolocatedTracks)
      (active : s'.activeGeoAircraft = s.activeGeoAircraft.insert (hexKey w u.event.trackId hex) r)

variable {w} {s : State τ}

omit [DecidableEq τ] in
theorem owner_modify {f : GeolocatedTrack τ → GeolocatedTrack τ}
    (keeps : ∀ track, (f track).trackId = track.trackId ∧ (f track).adsbHex = track.adsbHex) (r r' : Nat) :
    (s.modify r f).owner r' = s.owner r' := by
  simp only [owner, modify, List.getElem?_modify]
  by_cases same : r = r'
  · cases s.objects[r']? <;> simp [same, keeps]
  · simp [same]

omit [DecidableEq τ] in
theorem owner_append (track : GeolocatedTrack τ) (r : Nat) :
    ({ s with objects := s.objects ++ [track] } : State τ).owner r =
      if r = s.objects.length then some (track.trackId, track.adsbHex) else s.owner r := by
  simp only [owner]
  split
  · rename_i last
    rw [last, List.getElem?_concat_length]
    rfl
  · rename_i other
    rcases Nat.lt_or_gt_of_ne other with before | beyond
    · rw [List.getElem?_append_left before]
    · rw [List.getElem?_eq_none (by simp; omega), List.getElem?_eq_none (by omega)]

omit [DecidableEq τ] in
theorem owner_length (s : State τ) : s.owner s.objects.length = none := by
  rw [owner, List.getElem?_eq_none (Nat.le_refl _), Option.map_none]

omit [DecidableEq τ] in
theorem refreshMeasurement_keeps (u : Update τ) (track : GeolocatedTrack τ) :
    (refreshMeasurement u (stamp u track)).trackId = track.trackId ∧
      (refreshMeasurement u (stamp u track)).adsbHex = track.adsbHex := by
  simp only [refreshMeasurement]
  split <;> exact ⟨rfl, rfl⟩

omit [DecidableEq τ] in
theorem fallbackPosition_keeps (u : Update τ) (lat lon : ℚ) (track : GeolocatedTrack τ) :
    (fallbackPosition u lat lon track).trackId = track.trackId ∧
      (fallbackPosition u lat lon track).adsbHex = track.adsbHex := by
  simp only [fallbackPosition]
  split <;> exact ⟨rfl, rfl⟩

/-- The objects are those there were, under their names, and they are held where they were. -/
structure SameHoldings (s s' : State τ) : Prop where
  owners : ∀ r, s'.owner r = s.owner r
  tracks : s'.geolocatedTracks = s.geolocatedTracks
  active : s'.activeGeoAircraft = s.activeGeoAircraft
  length : s'.objects.length = s.objects.length

/-- The refresh changes only what the track's object says. -/
structure Refreshed (s s' : State τ) (u : Update τ) : Prop extends SameHoldings s s' where
  lastSolve : s'.geoLastSolve = s.geoLastSolve
  latest : s'.latest = Function.update s.latest u.event.trackId u.event.adsbHex
  copied : ∀ h r, (h, r) ∈ s'.copied → u.event.adsbHex = some h ∧ s.existing u = some r

theorem refresh_refreshed (s : State τ) (u : Update τ) : Refreshed s (s.refresh w u) u := by
  simp only [refresh]
  cases known : s.existing u with
  | none =>
    have unknown : s.geolocatedTracks.get? u.event.trackId = none := known
    simp only [existing, unknown]
    exact ⟨⟨fun _ => rfl, rfl, rfl, rfl⟩, rfl, rfl, fun _ _ listed => absurd listed List.not_mem_nil⟩
  | some r =>
    have here : s.geolocatedTracks.get? u.event.trackId = some r := known
    simp only [existing, here]
    have owners (latest : τ → Option Ident) (r' : Nat) :
        (({ s with latest, copied := [] } : State τ).modify r fun existing => refreshMeasurement u (stamp u existing)).owner
          r' = s.owner r' :=
      owner_modify (refreshMeasurement_keeps u) r r'
    split
    · rename_i h fix found
      refine ⟨⟨fun r' => ?_, rfl, rfl, ?_⟩, rfl, rfl, ?_⟩
      · exact (owner_modify (f := refreshKinematics w u fix) (fun _ => ⟨rfl, rfl⟩) r r').trans (owners _ r')
      · simp only [modify, List.length_modify]
      · intro h' r' listed
        obtain ⟨rfl, rfl⟩ := Prod.mk.inj (List.mem_singleton.mp listed)
        obtain ⟨h₀, named, fixed⟩ := Option.bind_eq_some_iff.mp found
        obtain ⟨_, -, same⟩ := Option.map_eq_some_iff.mp fixed
        exact ⟨(Prod.mk.inj same).1 ▸ named, known⟩
    · exact ⟨⟨owners _, rfl, rfl, by simp only [modify, List.length_modify]⟩, rfl, rfl,
        fun _ _ listed => absurd listed List.not_mem_nil⟩

omit [DecidableEq τ] in
theorem fallbackFix_hex {u : Update τ} (fix : fallbackFix u = some (h, found, lat, lon)) : u.event.adsbHex = some h := by
  obtain ⟨h', named, rest⟩ := Option.bind_eq_some_iff.mp fix
  obtain ⟨record, -, placed⟩ := Option.bind_eq_some_iff.mp rest
  obtain ⟨_, -, same⟩ := Option.map_eq_some_iff.mp placed
  exact (Prod.mk.inj same).1 ▸ named

/-- A new object of the event's track, made under the event's hex. -/
theorem effect_publish {s₀ : State τ} {u : Update τ} (same : SameHoldings s₀ s)
    (alone : s₀.FallsBack u → s₀.existing u = none) (track : GeolocatedTrack τ)
    (own : track.trackId = u.event.trackId) (hex : track.adsbHex = u.event.adsbHex) (copied : List (Ident × Nat)) :
    Effect w s₀ { s.publish w track with copied } u := by
  refine .published alone (fun r => ?_) ?_ ?_
  · rw [← same.length, ← own, ← hex, ← same.owners]
    exact owner_append track r
  · rw [← same.tracks, ← same.length, ← own]
    rfl
  · rw [← same.active, ← same.length, ← own, ← hex]
    rfl

theorem effect_fallback {s₀ : State τ} {u : Update τ} (sound : Sound w s₀) (same : SameHoldings s₀ s)
    (falls : s₀.FallsBack u) (hex : u.event.adsbHex = some h) (fix : AdsbFix) (lat lon : ℚ) :
    Effect w s₀ (s.fallback w u h fix lat lon) u := by
  have known : s.existing u = s₀.existing u := by rw [existing, same.tracks, existing]
  simp only [fallback]
  cases here : s.existing u with
  | none => exact effect_publish same (fun _ => known ▸ here) _ rfl hex.symm _
  | some r =>
    obtain ⟨made, named⟩ := sound.tracks _ r (known ▸ here)
    obtain ⟨old, stored, name⟩ := Option.map_eq_some_iff.mp ((same.owners r).trans named)
    obtain ⟨own, rfl⟩ := Prod.mk.inj name
    simp only [stored]
    refine .fellBack r old.adsbHex falls (known ▸ here) named (fun r' => ?_) same.tracks ?_
    · exact (owner_modify (s := s) (fallbackPosition_keeps u lat lon) r r').trans (same.owners r')
    · rw [← same.active, ← own]
      rfl

theorem effect_runGeolocation (sound : Sound w s) (u : Update τ) : Effect w s (s.runGeolocation w u) u := by
  have refreshed := refresh_refreshed (w := w) s u
  have limited : (s.refresh w u).limited u = s.limited u := by rw [State.limited, refreshed.lastSolve, State.limited]
  have same : SameHoldings s { s.refresh w u with geoLastSolve := (s.refresh w u).geoLastSolve.insert u.event.trackId u.mono } :=
    ⟨refreshed.owners, refreshed.tracks, refreshed.active, refreshed.length⟩
  simp only [runGeolocation, solve]
  split
  · rename_i held
    refine .quiet (fun falls => ?_) refreshed.owners refreshed.tracks refreshed.active
    rw [limited, falls.1] at held
    cases held
  · rename_i due
    rw [limited, Bool.not_eq_true] at due
    split
    · rename_i raised
      refine .quiet (fun falls => ?_) refreshed.owners refreshed.tracks refreshed.active
      cases raised.symm.trans falls.2.1
    · rename_i solution solved
      refine effect_publish same (fun falls => ?_) (solvedTrack u solution _) rfl rfl _
      cases solved.symm.trans falls.2.1
    · rename_i failed
      split
      · rename_i h fix lat lon placed
        exact effect_fallback sound same ⟨due, failed, by rw [placed]; rfl⟩ (fallbackFix_hex placed) fix lat lon
      · rename_i nowhere
        refine .quiet (fun falls => ?_) refreshed.owners refreshed.tracks refreshed.active
        obtain ⟨⟨h, fix, lat, lon⟩, placed⟩ := Option.isSome_iff_exists.mp falls.2.2
        rw [nowhere] at placed
        cases placed

/-! ### What is copied, and where -/

/-- Every copy of an event is from the record of the event's hex, into an object of the event's track. -/
def CopiesOwn (s : State τ) (u : Update τ) : Prop :=
  ∀ h r, (h, r) ∈ s.copied → u.event.adsbHex = some h ∧ ∃ hex, s.owner r = some (u.event.trackId, hex)

theorem copiesOwn_refresh (sound : Sound w s) (u : Update τ) : (s.refresh w u).CopiesOwn u := by
  have refreshed := refresh_refreshed (w := w) s u
  intro h r listed
  obtain ⟨named, here⟩ := refreshed.copied h r listed
  obtain ⟨hex, owned⟩ := sound.tracks _ r here
  exact ⟨named, hex, (refreshed.owners r).trans owned⟩

omit [DecidableEq τ] in
theorem owner_of_appended {s' : State τ} {new : τ × Option Ident}
    (owners : ∀ r, s'.owner r = if r = s.objects.length then some new else s.owner r) (owned : s.owner r = some x) :
    s'.owner r = some x := by
  have other : r ≠ s.objects.length := by
    rintro rfl
    rw [owner_length] at owned
    cases owned
  rw [owners, if_neg other, owned]

theorem copiesOwn_publish {u : Update τ} {track : GeolocatedTrack τ} (own : track.trackId = u.event.trackId)
    (copied : List (Ident × Nat)) (told : ∀ h r, (h, r) ∈ copied → u.event.adsbHex = some h ∧
      (r = s.objects.length ∨ ∃ hex, s.owner r = some (u.event.trackId, hex))) :
    State.CopiesOwn { s.publish w track with copied } u := by
  intro h r listed
  obtain ⟨named, rfl | ⟨hex, owned⟩⟩ := told h r listed
  · refine ⟨named, track.adsbHex, ?_⟩
    exact own ▸ (owner_append track s.objects.length).trans (if_pos rfl)
  · exact ⟨named, hex, owner_of_appended (owner_append track) owned⟩

theorem copiesOwn_fallback {u : Update τ} (copies : s.CopiesOwn u)
    (tracks : ∀ r, s.existing u = some r → ∃ hex, s.owner r = some (u.event.trackId, hex))
    (hex : u.event.adsbHex = some h) (fix : AdsbFix) (lat lon : ℚ) : (s.fallback w u h fix lat lon).CopiesOwn u := by
  simp only [fallback]
  cases here : s.existing u with
  | none =>
    refine copiesOwn_publish (by rfl) _ fun h' r listed => ?_
    rcases List.mem_append.mp listed with before | now
    · exact ⟨(copies h' r before).1, .inr (copies h' r before).2⟩
    · obtain ⟨rfl, rfl⟩ := Prod.mk.inj (List.mem_singleton.mp now)
      exact ⟨hex, .inl rfl⟩
  | some r =>
    obtain ⟨made, owned⟩ := tracks r here
    obtain ⟨old, stored, -⟩ := Option.map_eq_some_iff.mp owned
    simp only [stored]
    intro h' r' listed
    have owners : (s.modify r (fallbackPosition u lat lon)).owner r' = s.owner r' :=
      owner_modify (fallbackPosition_keeps u lat lon) r r'
    split at listed
    · rcases List.mem_append.mp listed with before | now
      · exact ⟨(copies h' r' before).1, (copies h' r' before).2.imp fun _ => owners.trans⟩
      · obtain ⟨rfl, rfl⟩ := Prod.mk.inj (List.mem_singleton.mp now)
        exact ⟨hex, made, owners.trans owned⟩
    · exact ⟨(copies h' r' listed).1, (copies h' r' listed).2.imp fun _ => owners.trans⟩

theorem copiesOwn_runGeolocation (sound : Sound w s) (u : Update τ) : (s.runGeolocation w u).CopiesOwn u := by
  have refreshed := refresh_refreshed (w := w) s u
  have copies := copiesOwn_refresh sound u
  simp only [runGeolocation, solve]
  split
  · exact copies
  · split
    · exact copies
    · exact copiesOwn_publish (by rfl) _ fun h r listed => ⟨(copies h r listed).1, .inr (copies h r listed).2⟩
    · split
      · rename_i h fix lat lon placed
        refine copiesOwn_fallback (s := { s.refresh w u with
          geoLastSolve := (s.refresh w u).geoLastSolve.insert u.event.trackId u.mono }) copies (fun r here => ?_)
          (fallbackFix_hex placed) fix lat lon
        have known : s.geolocatedTracks.get? u.event.trackId = some r := refreshed.tracks ▸ here
        obtain ⟨hex, owned⟩ := sound.tracks _ r known
        exact ⟨hex, (refreshed.owners r).trans owned⟩
      · exact copies

theorem latest_runGeolocation (s : State τ) (u : Update τ) :
    (s.runGeolocation w u).latest = Function.update s.latest u.event.trackId u.event.adsbHex := by
  rw [← (refresh_refreshed (w := w) s u).latest, runGeolocation, solve]
  split
  · rfl
  · split
    · rfl
    · rfl
    · split
      · simp only [fallback]
        split
        · split <;> rfl
        · rfl
      · rfl

theorem sound_runGeolocation (sound : Sound w s) (u : Update τ) : Sound w (s.runGeolocation w u) := by
  cases effect_runGeolocation sound u with
  | quiet _ owners tracks active =>
    refine ⟨fun track r here => ?_, fun key r held => ?_⟩
    · rw [owners]
      exact sound.tracks track r (tracks ▸ here)
    · rw [owners]
      exact sound.active key r (active ▸ held)
  | published _ owners tracks active =>
    refine ⟨fun track r here => ?_, fun key r held => ?_⟩
    · rw [tracks, Dict.get?_insert] at here
      split at here
      · rename_i same
        obtain rfl := Option.some.inj here
        exact ⟨u.event.adsbHex, same ▸ (owners _).trans (if_pos rfl)⟩
      · obtain ⟨hex, owned⟩ := sound.tracks track r here
        exact ⟨hex, owner_of_appended owners owned⟩
    · rw [active, Dict.get?_insert] at held
      split at held
      · rename_i same
        obtain rfl := Option.some.inj held
        exact ⟨u.event.trackId, u.event.adsbHex, (owners _).trans (if_pos rfl), same.symm⟩
      · obtain ⟨track, hex, owned, own⟩ := sound.active key r held
        exact ⟨track, hex, owner_of_appended owners owned, own⟩
  | fellBack r₀ hex falls existing named owners tracks active =>
    refine ⟨fun track r here => ?_, fun key r held => ?_⟩
    · rw [owners]
      exact sound.tracks track r (tracks ▸ here)
    · rw [owners]
      rw [active, Dict.get?_insert] at held
      split at held
      · rename_i same
        obtain rfl := Option.some.inj held
        exact ⟨u.event.trackId, hex, named, same.symm⟩
      · exact sound.active key r held

theorem sound_step (e : Event τ) (sound : Sound w s) : Sound w (s.step w e) := by
  cases e with
  | update u => exact sound_runGeolocation sound u
  | prune track =>
    refine ⟨fun other r here => ?_, sound.active⟩
    simp only [step, Dict.get?_erase] at here
    split at here
    · cases here
    · exact sound.tracks other r here
  | sweep now => exact ⟨sound.tracks, fun key r held => sound.active key r (Dict.get?_filter_some held).1⟩

/-- The entries after an event, of its own track and of the others. -/
theorem keyed_runGeolocation (sound : Sound w s) (proper : Proper w s) {u : Update τ} (keeps : s.KeepsKey w (.update u))
    (there : (s.runGeolocation w u).activeGeoAircraft.get? key = some r)
    (owned : (s.runGeolocation w u).owner r = some (track, hex)) :
    key = hexKey w track (Function.update s.latest u.event.trackId u.event.adsbHex track) := by
  obtain ⟨held, falls⟩ := keeps
  have old (there : s.activeGeoAircraft.get? key = some r) (owned : s.owner r = some (track, hex)) :
      key = hexKey w track (Function.update s.latest u.event.trackId u.event.adsbHex track) := by
    by_cases own : track = u.event.trackId
    · rw [own, Function.update_self]
      exact held key r hex there (own ▸ owned)
    · rw [Function.update_of_ne own]
      exact proper.keyed key r track hex there owned
  cases effect_runGeolocation sound u with
  | quiet _ owners tracks active => exact old (active ▸ there) (owners r ▸ owned)
  | published _ owners tracks active =>
    rw [active, Dict.get?_insert] at there
    split at there
    · rename_i same
      obtain rfl := Option.some.inj there
      rw [owners, if_pos rfl] at owned
      obtain ⟨rfl, -⟩ := Prod.mk.inj (Option.some.inj owned)
      rw [Function.update_self, same]
    · obtain ⟨track', hex', owned', -⟩ := sound.active key r there
      have name := (owner_of_appended owners owned').symm.trans owned
      exact old there (owned'.trans name)
  | fellBack r₀ hex₀ fellBack existing named owners tracks active =>
    rw [owners] at owned
    rw [active, Dict.get?_insert] at there
    split at there
    · rename_i same
      obtain rfl := Option.some.inj there
      obtain ⟨rfl, rfl⟩ := Prod.mk.inj (Option.some.inj (named.symm.trans owned))
      rw [Function.update_self, ← same]
      exact falls fellBack r₀ hex₀ existing named
    · exact old there owned

/-- An event leaves every entry under its track's hex exactly when it finds its own track's so. -/
theorem keepsKey_iff (sound : Sound w s) (proper : Proper w s) (u : Update τ) :
    s.KeepsKey w (.update u) ↔ Proper w (s.runGeolocation w u) := by
  have latest := latest_runGeolocation (w := w) s u
  constructor
  · intro keeps
    have keyed : ∀ key r track hex, (s.runGeolocation w u).activeGeoAircraft.get? key = some r →
        (s.runGeolocation w u).owner r = some (track, hex) →
        key = hexKey w track ((s.runGeolocation w u).latest track) := by
      intro key r track hex there owned
      rw [latest]
      exact keyed_runGeolocation sound proper keeps there owned
    refine ⟨fun h r listed key there => ?_, keyed⟩
    obtain ⟨named, hex, owned⟩ := copiesOwn_runGeolocation sound u h r listed
    have own := keyed key r _ hex there owned
    rwa [latest, Function.update_self, named] at own
  · intro after
    have own : ∀ key r hex, (s.runGeolocation w u).activeGeoAircraft.get? key = some r →
        (s.runGeolocation w u).owner r = some (u.event.trackId, hex) →
        key = hexKey w u.event.trackId u.event.adsbHex := by
      intro key r hex there owned
      have keyed := after.keyed key r _ hex there owned
      rwa [latest, Function.update_self] at keyed
    cases effect_runGeolocation sound u with
    | quiet alone owners tracks active =>
      refine ⟨fun key r hex there owned => own key r hex (active ▸ there) ((owners r).trans owned), ?_⟩
      intro falls r hex existing
      rw [alone falls] at existing
      cases existing
    | published alone owners tracks active =>
      constructor
      · intro key r hex there owned
        by_cases same : hexKey w u.event.trackId u.event.adsbHex = key
        · exact same.symm
        · exact own key r hex (active ▸ (Dict.get?_insert_ne _ _ same).trans there) (owner_of_appended owners owned)
      · intro falls r hex existing
        rw [alone falls] at existing
        cases existing
    | fellBack r₀ hex₀ fellBack existing named owners tracks active =>
      have stored : hexKey w u.event.trackId hex₀ = hexKey w u.event.trackId u.event.adsbHex :=
        own _ r₀ hex₀ (active ▸ Dict.get?_insert_self ..) ((owners r₀).trans named)
      constructor
      · intro key r hex there owned
        by_cases same : hexKey w u.event.trackId hex₀ = key
        · exact same.symm.trans stored
        · exact own key r hex (active ▸ (Dict.get?_insert_ne _ _ same).trans there) ((owners r).trans owned)
      · intro _ r hex existing' owned
        obtain rfl := Option.some.inj (existing.symm.trans existing')
        obtain ⟨-, rfl⟩ := Prod.mk.inj (Option.some.inj (named.symm.trans owned))
        exact stored

theorem keepsKey_step_iff (sound : Sound w s) (proper : Proper w s) (e : Event τ) :
    s.KeepsKey w e ↔ Proper w (s.step w e) := by
  cases e with
  | update u => exact keepsKey_iff sound proper u
  | prune track => exact iff_of_true trivial ⟨proper.copied, proper.keyed⟩
  | sweep now =>
    refine iff_of_true trivial ⟨fun h r listed key there => ?_, fun key r track hex there => ?_⟩
    · exact proper.copied h r listed key (Dict.get?_filter_some there).1
    · exact proper.keyed key r track hex (Dict.get?_filter_some there).1

end State

open State

variable [DecidableEq τ]

def start : State τ where
  objects := []
  geolocatedTracks := .empty
  geoLastSolve := .empty
  activeGeoAircraft := .empty
  latest _ := none
  copied := []

theorem sound_start : Sound w (start : State τ) := ⟨fun _ _ here => (by cases here), fun _ _ held => (by cases held)⟩

/-- Whatever is copied from a transponder's record is held under its hex and every entry under the hex of its track's
latest event, in every state, exactly when every event names the hex its track is held under. -/
theorem published_under_own_hex_iff (events : List (Event τ)) :
    (∀ before after, events = before ++ after → Proper w (run (step w) start before)) ↔
      Along (step w) (KeepsKey w) start events := by
  have exact_ (s : State τ) (e : Event τ) (held : Sound w s ∧ Proper w s) :
      s.KeepsKey w e ↔ Sound w (s.step w e) ∧ Proper w (s.step w e) := by
    rw [keepsKey_step_iff held.1 held.2, iff_and_self]
    exact fun _ => sound_step e held.1
  have properStart : Proper w (start : State τ) :=
    ⟨fun _ _ listed => absurd listed List.not_mem_nil, fun _ _ _ _ held => (by cases held)⟩
  have sound (before : List (Event τ)) : Sound w (run (step w) (start : State τ) before) :=
    invariant_always (I := Sound w) (fun _ e => sound_step e) (sound_start w) before
  rw [along_iff_invariant (I := fun s => Sound w s ∧ Proper w s) exact_ ⟨sound_start w, properStart⟩ events]
  exact forall₃_congr fun before _ _ => (and_iff_right (sound before)).symm

end

def firstHex : Ident := ⟨"a1b2c3", by decide⟩
def secondHex : Ident := ⟨"d4e5f6", by decide⟩

def oneTrack : Pipeline Unit where
  trig := { sinDeg := fun _ => 0, cosDeg := fun _ => 1 }
  passiveTrackHex := fun _ => "pr0001"

/-- An event of the track whose solve fails, with both transponders on the air. -/
def unsolved (mono : ℚ) (hex : Ident) : Event Unit :=
  let fixes := fun h => some { lat := some (if h = firstHex then 10 else 20), lon := some 5, altBaro := .num 30000 }
  .update
    { event := { trackId := (), timestamp := mono * 1000, length := 4, adsbHex := some hex, newest := none }
      mono, wall := mono, before := fixes, outcome := .failed, after := fixes }

/-- The tracker has come to take the track for the second aircraft, whose position and altitude go out under the
first one's hex. -/
theorem swapped_identity_published :
    ¬ ∀ events before after : List (Event Unit), events = before ++ after →
      State.Proper oneTrack (run (State.step oneTrack) start before) := by
  intro proper
  have reached := proper [unsolved 10 firstHex, unsolved 20 secondHex] _ [] (List.append_nil _).symm
  have key := reached.copied secondHex 0 (by decide +kernel) firstHex.val (by decide +kernel)
  exact absurd key (by decide)

end Retina.Geolocation
