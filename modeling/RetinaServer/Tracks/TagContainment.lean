import RetinaServer.Tracks.LegibleEvents
import RetinaServer.Library.Partial

/-! What a malformed tag costs. A tag is malformed when it is no object. -/
namespace Retina.TaggedEvents
open Tcp (Json Fields PyFloat get HasFloat)
open Frames (Trig ftToM knotsToMs)
open FeedBuild (orZero)

/-! ### Without the malformed tags -/

def Detection.untagged (d : Detection) : Detection := { d with adsb := d.adsb.filter Json.isObject }

def GeoTrack.untagged {τ : Type} (track : GeoTrack τ) : GeoTrack τ := { track with detections := track.detections.map Detection.untagged }

def TrackEvent.untagged {τ : Type} (e : TrackEvent τ) : TrackEvent τ :=
  { e with newest := e.newest.map Detection.untagged, window := e.window.map Detection.untagged }

/-- A tag that is an object, or none. -/
def TrackEvent.WellTagged {τ : Type} (e : TrackEvent τ) : Prop := ∀ tag, e.tag = some tag → tag.isNull = true ∨ tag.isObject = true

/-- The geolocator takes a tag that is no object for no tag. -/
def Geolocator.Tolerant {τ σ : Type} (lib : Geolocator τ σ) : Prop := ∀ previous track, lib.locate previous track.untagged = lib.locate previous track

theorem coercedDetection_untagged (d : Detection) : coercedDetection d.untagged = (coercedDetection d).map Detection.untagged := by
  obtain ⟨timestamp, delay, doppler, snr, adsb⟩ := d
  cases adsb with
  | none => rfl
  | some tag =>
    cases tag with
    | dict fields => simp [Detection.untagged, coercedDetection, coercedAdsb, Json.isObject, Option.filter, Function.comp_def]
    | _ => rfl

theorem mapM_coercedDetection_untagged (window : List Detection) :
    (window.map Detection.untagged).mapM coercedDetection = (window.mapM coercedDetection).map (List.map Detection.untagged) := by
  induction window with
  | nil => rfl
  | cons d rest ih =>
    rw [List.map_cons, List.mapM_cons, List.mapM_cons, ih, coercedDetection_untagged]
    cases coercedDetection d with
    | none => rfl
    | some d =>
      cases rest.mapM coercedDetection with
      | none => rfl
      | some rest => rfl

theorem recordTag_object {live : LiveRecord} {tag : Json} (made : recordTag live = some tag) : tag.isObject = true := by
  simp only [recordTag, Option.bind_eq_bind, Option.bind_eq_some_iff, pure, Option.some.injEq] at made
  obtain ⟨_, _, _, _, _, _, rfl⟩ := made
  rfl

variable {τ σ : Type} (lib : Geolocator τ σ)

theorem geoTrack_untagged (m : Meeting) (e : TrackEvent τ) : geoTrack m e.untagged = (geoTrack m e).map GeoTrack.untagged := by
  unfold geoTrack
  rw [show e.untagged.window = e.window.map Detection.untagged from rfl, mapM_coercedDetection_untagged,
    show freshRecord m e.untagged = freshRecord m e from rfl]
  cases e.window.mapM coercedDetection with
  | none => rfl
  | some detections =>
    cases freshRecord m e with
    | none => rfl
    | some live =>
      cases detections with
      | nil => rfl
      | cons first rest =>
        cases made : recordTag live with
        | none => simp [made]
        | some tag => simp [made, GeoTrack.untagged, Detection.untagged, Option.filter, recordTag_object made, TrackEvent.untagged]

theorem geolocateTrackEvent_untagged (tolerant : lib.Tolerant) (m : Meeting) (previous : Option σ) (e : TrackEvent τ) :
    geolocateTrackEvent lib m previous e.untagged = geolocateTrackEvent lib m previous e := by
  unfold geolocateTrackEvent
  rw [show e.untagged.window = e.window.map Detection.untagged from rfl, List.length_map, geoTrack_untagged]
  cases geoTrack m e with
  | none => rfl
  | some track => simp only [Option.map_some, tolerant previous track]

theorem measured_untagged (e : TrackEvent τ) : e.untagged.measured = e.measured.map Detection.untagged := by
  obtain ⟨_, _, _, _, newest, _⟩ := e
  cases newest with
  | none => rfl
  | some d =>
    by_cases positive : 0 < d.delay
    · simp [TrackEvent.measured, TrackEvent.untagged, Option.filter, Detection.untagged, positive]
    · simp [TrackEvent.measured, TrackEvent.untagged, Option.filter, Detection.untagged, positive]

theorem refreshMeasurement_untagged (m : Meeting) (e : TrackEvent τ) (hex : Json) :
    refreshMeasurement m e.untagged hex = refreshMeasurement (τ := τ) m e hex := by
  funext existing
  unfold refreshMeasurement
  rw [measured_untagged]
  cases e.measured <;> rfl

theorem solvedTrack_untagged (m : Meeting) (e : TrackEvent τ) (hex : Json) (solution : Solution) (existing : Option (Track τ)) :
    solvedTrack m e.untagged hex solution existing = solvedTrack m e hex solution existing := by
  simp [solvedTrack, TrackEvent.untagged, Function.comp_def, Detection.untagged]

theorem bootstrapTrack_untagged (m : Meeting) (e : TrackEvent τ) (live : LiveRecord) (altM : ℚ) (velocity : Velocity)
    (shared : Option (Track τ)) : bootstrapTrack m e.untagged live altM velocity shared = bootstrapTrack m e live altM velocity shared := by
  unfold bootstrapTrack
  rw [measured_untagged]
  cases e.measured <;> rfl

variable [DecidableEq τ]

theorem refresh_untagged (s : State τ σ) (m : Meeting) (e : TrackEvent τ) (hex : Json) :
    s.refresh lib m e.untagged hex = s.refresh lib m e hex := by
  unfold State.refresh
  rw [refreshMeasurement_untagged]
  rfl

theorem fallback_untagged (s : State τ σ) (m : Meeting) (e : TrackEvent τ) : s.fallback lib m e.untagged = s.fallback lib m e := by
  unfold State.fallback
  simp only [bootstrapTrack_untagged]
  rfl

theorem solve_untagged (tolerant : lib.Tolerant) (s : State τ σ) (m : Meeting) (e : TrackEvent τ) (hex : Json) :
    s.solve lib m e.untagged hex = s.solve lib m e hex := by
  unfold State.solve
  simp only [solvedTrack_untagged, geolocateTrackEvent_untagged lib tolerant, fallback_untagged]
  rfl

omit [DecidableEq τ] in
theorem tagHex_untagged {e : TrackEvent τ} {hex : Json} (read : tagHex e.tag = some hex) : tagHex e.untagged.tag = some hex := by
  have tag : e.untagged.tag = e.tag.filter Json.isObject := by
    unfold TrackEvent.tag TrackEvent.untagged
    cases e.newest <;> rfl
  rw [tag]
  cases found : e.tag with
  | none =>
    rw [found] at read
    exact read
  | some value =>
    cases object : value.isObject with
    | true =>
      rw [found] at read
      rw [Option.filter_some_pos object]
      exact read
    | false =>
      have falsy : value.truthy = false := by
        by_contra truthy
        have held := (tagHex_isSome_iff e.tag).mp (read ▸ rfl) value found (Bool.not_eq_false _ ▸ truthy)
        rw [object] at held
        cases held
      rw [found] at read
      simp only [tagHex, falsy, Bool.not_false, if_true] at read
      rw [Option.filter_some_neg (by simp [object])]
      exact read

theorem takeUp_untagged (tolerant : lib.Tolerant) {s s' : State τ σ} {m : Meeting} {e : TrackEvent τ}
    (taken : s.takeUp lib m e = .ok s') : s.takeUp lib m e.untagged = .ok s' := by
  unfold State.takeUp at taken ⊢
  cases read : tagHex e.tag with
  | none =>
    rw [read] at taken
    cases taken
  | some hex =>
    rw [read] at taken
    rw [tagHex_untagged read]
    simpa only [refresh_untagged, solve_untagged lib tolerant] using taken

/-! ### A frame -/

theorem runGeolocation_eq_foldlM (meet : τ → Meeting) (s : State τ σ) (events : List (TrackEvent τ)) :
    runGeolocation lib meet s events = events.foldlM (m := Except (State τ σ)) (fun s e => s.takeUp lib (meet e.trackId) e) s := by
  induction events generalizing s with
  | nil => rfl
  | cons e rest ih =>
    rw [runGeolocation, List.foldlM_cons]
    cases s.takeUp lib (meet e.trackId) e with
    | error s' => rfl
    | ok s' => exact ih s'

omit [DecidableEq τ] in
theorem trackId_filterMap_sublist {events : τ → Option (TrackEvent τ)} (named : ∀ track e, events track = some e → e.trackId = track)
    (dirty : List τ) : ((dirty.filterMap events).map TrackEvent.trackId).Sublist dirty := by
  induction dirty with
  | nil => exact .slnil
  | cons track rest ih =>
    cases found : events track with
    | none =>
      rw [List.filterMap_cons_none found]
      exact ih.cons track
    | some e =>
      rw [List.filterMap_cons_some found, List.map_cons, named track e found]
      exact ih.cons_cons track

theorem Writer.distinct_newEvents (w : Writer τ) : (w.newEvents.map TrackEvent.trackId).Nodup :=
  w.distinct.sublist (trackId_filterMap_sublist w.named w.dirty)

/-- The frame's events are gone through exactly when each of them is legible as the frame begins. -/
theorem runGeolocation_ok_iff (meet : τ → Meeting) (w : Writer τ) (s : State τ σ) :
    (∃ s', runGeolocation lib meet s w.newEvents = .ok s') ↔ ∀ e ∈ w.newEvents, Legible lib s (meet e.trackId) e := by
  rw [runGeolocation_eq_foldlM]
  apply Collecting.foldlM_ok_iff TrackEvent.trackId
  · intro s e
    exact takeUp_ok_iff lib s (meet e.trackId) e
  · intro s e s' other taken distinct
    exact legible_congr lib (takeUp_standing lib taken distinct)
  · exact w.distinct_newEvents

theorem runGeolocation_untagged (tolerant : lib.Tolerant) {meet : τ → Meeting} {s s' : State τ σ} {events : List (TrackEvent τ)}
    (through : runGeolocation lib meet s events = .ok s') : runGeolocation lib meet s (events.map TrackEvent.untagged) = .ok s' := by
  rw [runGeolocation_eq_foldlM] at through ⊢
  apply Collecting.foldlM_map_of_ok _ through
  intro s e s' taken
  exact takeUp_untagged lib tolerant taken

/-- What an event's track has come to: what the dictionaries hold for it, its object and the one under its key. -/
def State.outcome (s : State τ σ) (e : TrackEvent τ) : (Option ℕ × Option ℚ × Option σ) × Option (Track τ) × Option (Track τ) :=
  let key := e.adsbHex.elim (lib.passiveTrackHex e.trackId) Subtype.val
  (s.standing e.trackId, (s.existing e).bind fun r => s.objects[r]?, (s.activeGeoAircraft.get? key).bind fun r => s.objects[r]?)

variable (meet : τ → Meeting) (tracker : Writer τ → List FrameDetection → ℚ → Writer τ)

/-- The events that are new in the frame. -/
def written (w : Writer τ) (frame : Frame) : List (TrackEvent τ) := (tracker w (frameDetections frame) frame.timestamp).newEvents

/-- The frame does not raise, and an event whose newest tag is well formed comes to what it would without the malformed tags. -/
def Contained (w : Writer τ) (s : State τ σ) (frame : Frame) : Prop :=
  ∃ s₁ s₂, (processFrame lib meet tracker w s frame).2 = .ok s₁ ∧
    runGeolocation lib meet s ((written tracker w frame).map TrackEvent.untagged) = .ok s₂ ∧
    ∀ e ∈ written tracker w frame, e.WellTagged → s₁.outcome lib e = s₂.outcome lib e

/-- A malformed tag costs nothing but its own detection exactly when none of the frame's events comes to a value it cannot read. -/
theorem tags_contained (tolerant : lib.Tolerant) (w : Writer τ) (s : State τ σ) (frame : Frame) :
    Contained lib meet tracker w s frame ↔ ∀ e ∈ written tracker w frame, Legible lib s (meet e.trackId) e := by
  have through := runGeolocation_ok_iff lib meet (tracker w (frameDetections frame) frame.timestamp) s
  constructor
  · rintro ⟨s₁, _, run, _, _⟩
    exact through.mp ⟨s₁, run⟩
  · intro legible
    obtain ⟨s', run⟩ := through.mpr legible
    exact ⟨s', s', run, runGeolocation_untagged lib tolerant run, fun _ _ _ => rfl⟩

/-! ### Two tracks in a frame -/

/-- The frame's first detection is tagged, with the text or the object; the second is not. -/
def taggedFrame (tag : Json) : Frame where
  timestamp := 1000
  delay := [20, 30]
  doppler := [5, 6]
  snr := [15, 16]
  adsb := [tag, .null]

/-- The first recent detection of each of the two tracks. -/
def firstEvent (track : ℕ) (d : Detection) : TrackEvent ℕ where
  trackId := track
  timestamp := 1000
  length := 1
  adsbHex := none
  newest := some d
  window := [d]

def twoTracks (tag : Json) : Writer ℕ where
  events := Dict.ofList [(1, firstEvent 1 ⟨1000, 20, 5, 15, some tag⟩), (2, firstEvent 2 ⟨1000, 30, 6, 16, none⟩)]
  dirty := [1, 2]
  distinct := by decide
  named := by
    intro track e found
    have entry := (Dict.get?_ofList_eq_some_iff _ (by simp)).mp found
    simp only [List.mem_cons, Prod.mk.injEq, List.not_mem_nil, or_false] at entry
    obtain ⟨rfl, rfl⟩ | ⟨rfl, rfl⟩ := entry
    · rfl
    · rfl

theorem written_twoTracks (tag : Json) (frame : Frame) :
    written (fun _ _ _ => twoTracks tag) (twoTracks .null) frame =
      [firstEvent 1 ⟨1000, 20, 5, 15, some tag⟩, firstEvent 2 ⟨1000, 30, 6, 16, none⟩] := rfl

def unsolved : Geolocator ℕ Unit where
  trig := { sinDeg := fun _ => 0, cosDeg := fun _ => 1 }
  minDetections := 3
  passiveTrackHex := toString
  locate _ _ := .failed

def quiet : Meeting where
  mono := 100
  wall := 100
  before _ := none
  during _ := none
  after _ := none

theorem legible_firstEvent (track : ℕ) (d : Detection) (object : ∀ tag, d.adsb = some tag → tag.truthy = true → tag.isObject = true) :
    Legible unsolved {} quiet (firstEvent track d) where
  newest := object
  refreshed held := absurd rfl held
  window _ long := absurd long (show ¬ 3 ≤ 1 by omega)
  located _ long := absurd long (show ¬ 3 ≤ 1 by omega)
  fallback _ _ _ found := nomatch found

/-- A tag that is an object is read, and so is the other track's detection without one. -/
theorem tags_contained_object :
    Contained unsolved (fun _ => quiet) (fun _ _ _ => twoTracks (.dict [("hex", .str "a1b2c3")])) (twoTracks .null) {}
      (taggedFrame (.dict [("hex", .str "a1b2c3")])) := by
  apply (tags_contained unsolved _ _ (fun _ _ => rfl) _ _ _).mpr
  rw [written_twoTracks]
  simp only [List.forall_mem_cons, List.not_mem_nil, false_imp_iff, implies_true, and_true]
  exact ⟨legible_firstEvent 1 _ fun _ sent _ => Option.some.inj sent ▸ rfl, legible_firstEvent 2 _ fun _ sent => nomatch sent⟩

/-- The identifier alone, sent for a tag, ends the frame. The other track's event is out of the set and is not looked at. -/
theorem text_tag_ends_the_frame :
    unsolved.Tolerant ∧
      let tag : Json := .str "a1b2c3"
      let result := processFrame unsolved (fun _ => quiet) (fun _ _ _ => twoTracks tag) (twoTracks .null) {} (taggedFrame tag)
      result.1.dirty = [] ∧ (∃ s, result.2 = .error s ∧ s.geoLastSolve.get? 2 = none) ∧
        ¬ Contained unsolved (fun _ => quiet) (fun _ _ _ => twoTracks tag) (twoTracks .null) {} (taggedFrame tag) := by
  have ended : ∀ frame, processFrame unsolved (fun _ => quiet) (fun _ _ _ => twoTracks (.str "a1b2c3")) (twoTracks .null) {} frame =
      ((twoTracks (.str "a1b2c3")).cleared, .error {}) := fun _ => rfl
  refine ⟨fun _ _ => rfl, rfl, ⟨{}, congrArg Prod.snd (ended _), rfl⟩, ?_⟩
  rintro ⟨s₁, _, run, _⟩
  rw [ended] at run
  cases run

end Retina.TaggedEvents
