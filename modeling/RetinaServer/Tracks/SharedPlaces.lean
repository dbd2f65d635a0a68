import RetinaServer.Tracks.Geolocation

/-! The places of the untagged tracks in the dictionary that all pipelines publish into. A pipeline knows its tracks
by their ids, the dictionary by a folded hash of the id, in which the node has no part. -/
namespace Retina.Geolocation
open Runs
open Frames (Trig)

/-- The last digits of a number, as many as are asked for. -/
def paddedDigits (base : Nat) : Nat → Nat → List Char
  | 0, _ => []
  | width + 1, n => paddedDigits base width (n / base) ++ [(n % base).digitChar]

/-- `abs(hash(track_id)) % 0xFFFF`. -/
def foldedHash {τ : Type} (hash : τ → ℤ) (track : τ) : Nat := (hash track).natAbs % 0xFFFF

/-- Four digits hold every folded hash. -/
def passiveTrackHex {τ : Type} (hash : τ → ℤ) (track : τ) : String :=
  "pr" ++ String.ofList (paddedDigits 16 4 (foldedHash hash track))

theorem digitChar_inj : ∀ d < 16, ∀ d' < 16, Nat.digitChar d = Nat.digitChar d' → d = d' := by decide

theorem paddedDigits_inj (width : Nat) {n n' : Nat} (small : n < 16 ^ width) (small' : n' < 16 ^ width)
    (same : paddedDigits 16 width n = paddedDigits 16 width n') : n = n' := by
  induction width generalizing n n' with
  | zero => omega
  | succ width ih =>
    rw [pow_succ] at small small'
    obtain ⟨high, low⟩ := List.append_inj' same rfl
    have quotients : n / 16 = n' / 16 := ih (by omega) (by omega) high
    have remainders : n % 16 = n' % 16 :=
      digitChar_inj _ (Nat.mod_lt _ (by decide)) _ (Nat.mod_lt _ (by decide)) (List.singleton_inj.mp low)
    omega

theorem passiveTrackHex_eq_iff {τ : Type} {hash : τ → ℤ} {track track' : τ} :
    passiveTrackHex hash track = passiveTrackHex hash track' ↔ foldedHash hash track = foldedHash hash track' := by
  have small (track : τ) : foldedHash hash track < 16 ^ 4 := by
    have := Nat.mod_lt (hash track).natAbs (show 0 < 0xFFFF by decide)
    simp only [foldedHash]
    omega
  constructor
  · intro same
    have texts := (String.append_right_inj "pr").mp same
    exact paddedDigits_inj 4 (small track) (small track') (String.ofList_inj.mp texts)
  · intro same
    rw [passiveTrackHex, same, passiveTrackHex]

/-- All pipelines together: a track is one of a node, and its hex is made from its own id. -/
def fleet {ν τ : Type} (trig : Trig) (hash : τ → ℤ) : Pipeline (ν × τ) where
  trig := trig
  passiveTrackHex track := passiveTrackHex hash track.2

namespace State

/-! ### What one event writes into the registry -/

section
variable {τ : Type} [DecidableEq τ] {w : Pipeline τ} {s : State τ}

/-- The tag of the object that an event puts into the registry, where it puts one there: a new object has the
event's tag, and the one a failed solve falls back on keeps its own. -/
def written (s : State τ) (u : Update τ) : Option (Option Ident) :=
  if s.limited u then none
  else match u.outcome with
    | .raised => none
    | .solved _ => some u.event.adsbHex
    | .failed =>
        if (fallbackFix u).isNone then none
        else match s.existing u with
          | some r => (s.owner r).map Prod.snd
          | none => some u.event.adsbHex

/-- Where an object is, and when it was last placed. -/
def placed (s : State τ) (r : Nat) : Option (τ × Option Ident × ℚ) :=
  s.objects[r]?.map fun track => (track.trackId, track.adsbHex, track.wallClockTs)

/-- An event changes its own track's objects, and writes one of them under its own key if it writes at all. -/
structure Writes (w : Pipeline τ) (s s' : State τ) (u : Update τ) : Prop where
  others : ∀ r x, s.placed r = some x → x.1 ≠ u.event.trackId → s'.placed r = some x
  kept : ∀ track, track ≠ u.event.trackId → s'.geolocatedTracks.get? track = s.geolocatedTracks.get? track
  nothing : s.written u = none → s'.activeGeoAircraft = s.activeGeoAircraft ∧
    s'.geolocatedTracks = s.geolocatedTracks ∧ ∀ r, s'.placed r = s.placed r
  wrote : ∀ hex, s.written u = some hex → ∃ r at_, s'.placed r = some (u.event.trackId, hex, at_) ∧
    s'.geolocatedTracks.get? u.event.trackId = some r ∧
    s'.activeGeoAircraft = s.activeGeoAircraft.insert (hexKey w u.event.trackId hex) r

omit [DecidableEq τ] in
theorem placed_modify_ne (f : GeolocatedTrack τ → GeolocatedTrack τ) (other : r ≠ r') :
    (s.modify r f).placed r' = s.placed r' := by
  simp only [placed, modify, List.getElem?_modify, if_neg other, Option.map_eq_map, Option.map_id']

omit [DecidableEq τ] in
theorem placed_modify {f : GeolocatedTrack τ → GeolocatedTrack τ} (keeps : ∀ track, (f track).trackId = track.trackId ∧
    (f track).adsbHex = track.adsbHex ∧ (f track).wallClockTs = track.wallClockTs) (r r' : Nat) :
    (s.modify r f).placed r' = s.placed r' := by
  by_cases same : r = r'
  · subst same
    simp only [placed, modify, List.getElem?_modify]
    cases s.objects[r]? <;> simp [keeps]
  · exact placed_modify_ne f same

omit [DecidableEq τ] in
theorem placed_append (track : GeolocatedTrack τ) (held : s.placed r = some x) :
    ({ s with objects := s.objects ++ [track] } : State τ).placed r = some x := by
  obtain ⟨object, here, named⟩ := Option.map_eq_some_iff.mp held
  have before : r < s.objects.length := (List.getElem?_eq_some_iff.mp here).1
  simp only [placed, List.getElem?_append_left before, here, Option.map_some, named]

omit [DecidableEq τ] in
theorem owner_of_placed (held : s.placed r = some (track, hex, at_)) : s.owner r = some (track, hex) := by
  obtain ⟨object, here, named⟩ := Option.map_eq_some_iff.mp held
  simp only [Prod.mk.injEq] at named
  simp only [owner, here, Option.map_some, named]

/-- The refresh places no object anew. -/
theorem placed_refresh (s : State τ) (u : Update τ) (r : Nat) : (s.refresh w u).placed r = s.placed r := by
  have measured (track : GeolocatedTrack τ) : (refreshMeasurement u (stamp u track)).trackId = track.trackId ∧
      (refreshMeasurement u (stamp u track)).adsbHex = track.adsbHex ∧
      (refreshMeasurement u (stamp u track)).wallClockTs = track.wallClockTs := by
    simp only [refreshMeasurement]
    split <;> exact ⟨rfl, rfl, rfl⟩
  simp only [refresh]
  cases known : s.geolocatedTracks.get? u.event.trackId with
  | none =>
    simp only [existing, known]
    rfl
  | some r₀ =>
    simp only [existing, known]
    have same (latest : τ → Option Ident) :
        (({ s with latest, copied := [] } : State τ).modify r₀ fun old => refreshMeasurement u (stamp u old)).placed r =
          s.placed r :=
      placed_modify measured r₀ r
    split
    · rename_i h fix found
      exact (placed_modify (f := refreshKinematics w u fix) (fun _ => ⟨rfl, rfl, rfl⟩) r₀ r).trans (same _)
    · exact same _

/-- What the solver's turn finds is what the event found. -/
structure Untouched (s₀ s : State τ) : Prop where
  same : SameHoldings s₀ s
  placed : ∀ r, s.placed r = s₀.placed r

theorem writes_nothing {s₀ : State τ} {u : Update τ} (untouched : Untouched s₀ s) (none_ : s₀.written u = none) :
    Writes w s₀ s u where
  others r _ held _ := (untouched.placed r).trans held
  kept _ _ := by rw [untouched.same.tracks]
  nothing _ := ⟨untouched.same.active, untouched.same.tracks, untouched.placed⟩
  wrote hex some_ := by cases none_.symm.trans some_

theorem writes_publish {s₀ : State τ} {u : Update τ} (untouched : Untouched s₀ s) (track : GeolocatedTrack τ)
    (own : track.trackId = u.event.trackId) (writes : s₀.written u = some track.adsbHex) (copied : List (Ident × Nat)) :
    Writes w s₀ { s.publish w track with copied } u where
  others r x held _ := placed_append track ((untouched.placed r).trans held)
  kept other others := by
    have apart : track.trackId ≠ other := fun same => others (same.symm.trans own)
    simp only [publish, Dict.get?_insert_ne _ _ apart, untouched.same.tracks]
  nothing none_ := by cases none_.symm.trans writes
  wrote hex some_ := by
    obtain rfl := Option.some.inj (writes.symm.trans some_)
    refine ⟨s.objects.length, track.wallClockTs, ?_, ?_, ?_⟩
    · simp only [placed, publish, List.getElem?_concat_length, Option.map_some, own]
    · rw [← own]
      exact Dict.get?_insert_self ..
    · rw [← own, ← untouched.same.active]
      rfl

theorem writes_fallback {s₀ : State τ} {u : Update τ} (sound : Sound w s₀) (untouched : Untouched s₀ s)
    (due : s₀.limited u = false) (failed : u.outcome = .failed) (fix : fallbackFix u = some (h, record, lat, lon)) :
    Writes w s₀ (s.fallback w u h record lat lon) u := by
  have known : s.existing u = s₀.existing u := by rw [existing, untouched.same.tracks, existing]
  have fresh : s₀.existing u = none → s₀.written u = some u.event.adsbHex := fun new => by
    simp [written, due, failed, fix, new]
  have again : ∀ r, s₀.existing u = some r → s₀.written u = (s₀.owner r).map Prod.snd := fun r old => by
    simp [written, due, failed, fix, old]
  simp only [fallback]
  cases here : s.existing u with
  | none =>
    refine writes_publish untouched _ rfl ?_ _
    rw [fresh (known ▸ here), fallbackFix_hex fix]
    rfl
  | some r =>
    obtain ⟨made, named⟩ := sound.tracks _ r (known ▸ here)
    obtain ⟨old, stored, name⟩ := Option.map_eq_some_iff.mp ((untouched.same.owners r).trans named)
    obtain ⟨own, rfl⟩ := Prod.mk.inj name
    have writes : s₀.written u = some old.adsbHex := by
      rw [again r (known ▸ here), named, Option.map_some]
    simp only [stored]
    refine ⟨fun r' place held others => ?_, fun _ _ => ?_, fun none_ => ?_, fun hex some_ => ?_⟩
    · obtain ⟨track, hex, placedAt⟩ := place
      have apart : r ≠ r' := by
        rintro rfl
        have owned := named.symm.trans (owner_of_placed held)
        exact others (Prod.mk.inj (Option.some.inj owned)).1.symm
      exact (placed_modify_ne _ apart).trans ((untouched.placed r').trans held)
    · exact congrArg (Dict.get? · _) untouched.same.tracks
    · cases none_.symm.trans writes
    · obtain rfl := Option.some.inj (writes.symm.trans some_)
      refine ⟨r, (fallbackPosition u lat lon old).wallClockTs, ?_, ?_, ?_⟩
      · have keeps := fallbackPosition_keeps u lat lon old
        simp only [placed, hold, modify, List.getElem?_modify, stored, if_true, Option.map_eq_map, Option.map_some,
          keeps.1, keeps.2, own]
      · exact here
      · rw [← untouched.same.active, ← own]
        rfl

theorem writes_runGeolocation (sound : Sound w s) (u : Update τ) : Writes w s (s.runGeolocation w u) u := by
  have refreshed := refresh_refreshed (w := w) s u
  have untouched : Untouched s (s.refresh w u) := ⟨refreshed.toSameHoldings, placed_refresh s u⟩
  have limited : (s.refresh w u).limited u = s.limited u := by rw [State.limited, refreshed.lastSolve, State.limited]
  have taken : Untouched s
      { s.refresh w u with geoLastSolve := (s.refresh w u).geoLastSolve.insert u.event.trackId u.mono } :=
    ⟨⟨refreshed.owners, refreshed.tracks, refreshed.active, refreshed.length⟩, placed_refresh s u⟩
  simp only [runGeolocation, solve]
  split
  · rename_i held
    rw [limited] at held
    exact writes_nothing untouched (by simp [written, held])
  · rename_i due
    rw [limited, Bool.not_eq_true] at due
    split
    · rename_i raised
      exact writes_nothing taken (by simp [written, raised])
    · rename_i solution solved
      exact writes_publish taken (solvedTrack u solution _) rfl (by simp [written, due, solved, solvedTrack]) _
    · rename_i failed
      split
      · rename_i h record lat lon fix
        exact writes_fallback sound taken due failed fix
      · rename_i nowhere
        exact writes_nothing taken (by simp [written, failed, nowhere])

end

end State

variable {ν τ : Type} [DecidableEq ν] [DecidableEq τ]

/-- All pipelines with the dictionary they share, and when the feed has swept it. -/
structure Sky (ν τ : Type) where
  pipelines : State (ν × τ)
  swept : List ℚ

namespace Sky

def start : Sky ν τ where
  pipelines := Geolocation.start
  swept := []

variable (trig : Trig) (hash : τ → ℤ)

def step (sky : Sky ν τ) (e : Event (ν × τ)) : Sky ν τ where
  pipelines := sky.pipelines.step (fleet trig hash) e
  swept := match e with
    | .sweep now => now :: sky.swept
    | _ => sky.swept

/-- An untagged object that its pipeline has for the track, and that no sweep has found stale. -/
def Live (sky : Sky ν τ) (track : ν × τ) (r : Nat) : Prop :=
  sky.pipelines.geolocatedTracks.get? track = some r ∧
    ∃ placedAt, sky.pipelines.placed r = some (track, none, placedAt) ∧
      ∀ now ∈ sky.swept, now - placedAt ≤ STALE_TRACK_S

/-- Every live untagged track is on the map, with its own object under its hex. -/
def OwnPlaces (sky : Sky ν τ) : Prop :=
  ∀ track r, sky.Live track r → sky.pipelines.activeGeoAircraft.get? (passiveTrackHex hash track.2) = some r

/-- An event leaves the entries of the other live untagged tracks. -/
def Spares (sky : Sky ν τ) : Event (ν × τ) → Prop
  | .update u => ∀ track r, sky.Live track r → track ≠ u.event.trackId →
      (sky.step trig hash (.update u)).pipelines.activeGeoAircraft.get? (passiveTrackHex hash track.2) =
        sky.pipelines.activeGeoAircraft.get? (passiveTrackHex hash track.2)
  | _ => True

/-- What is written without a tag is of a track whose hash folds to another number than those of the live untagged
tracks do, and what is written under a tag is not under the hex of one. -/
def FoldsApart (sky : Sky ν τ) : Event (ν × τ) → Prop
  | .update u => ∀ hex, sky.pipelines.written u = some hex → ∀ track r, sky.Live track r → track ≠ u.event.trackId →
      match hex with
      | none => foldedHash hash u.event.trackId.2 ≠ foldedHash hash track.2
      | some tag => tag.val ≠ passiveTrackHex hash track.2
  | _ => True

variable {trig hash} {sky : Sky ν τ}

/-- Two numbers apart are two keys apart. -/
theorem foldsApart_iff (trig : Trig) (u : Update (ν × τ)) : sky.FoldsApart hash (.update u) ↔
    ∀ hex, sky.pipelines.written u = some hex → ∀ track r, sky.Live track r → track ≠ u.event.trackId →
      hexKey (fleet trig hash) u.event.trackId hex ≠ passiveTrackHex hash track.2 := by
  refine forall₂_congr fun hex _ => forall₂_congr fun track r => forall₂_congr fun _ _ => ?_
  cases hex with
  | none => exact passiveTrackHex_eq_iff.not.symm
  | some tag => exact Iff.rfl

/-- A live track of another pipeline, or another of the same, is what it was. -/
theorem live_of_other (sound : State.Sound (fleet trig hash) sky.pipelines) {u : Update (ν × τ)}
    (other : track ≠ u.event.trackId) : (sky.step trig hash (.update u)).Live track r ↔ sky.Live track r := by
  have writes := State.writes_runGeolocation sound u
  constructor
  · rintro ⟨there, placedAt, placed, fresh⟩
    have here : sky.pipelines.geolocatedTracks.get? track = some r := (writes.kept track other).symm.trans there
    obtain ⟨hex, owned⟩ := sound.tracks track r here
    obtain ⟨object, stored, named⟩ := Option.map_eq_some_iff.mp owned
    obtain ⟨rfl, rfl⟩ := Prod.mk.inj named
    have before : sky.pipelines.placed r = some (object.trackId, object.adsbHex, object.wallClockTs) := by
      rw [State.placed, stored, Option.map_some]
    have same := (writes.others r _ before other).symm.trans placed
    exact ⟨here, placedAt, before.trans same, fresh⟩
  · rintro ⟨here, placedAt, placed, fresh⟩
    exact ⟨(writes.kept track other).trans here, placedAt, writes.others r _ placed other, fresh⟩

/-- A track that an event writes has its own object under its own key. -/
theorem own_of_written (sound : State.Sound (fleet trig hash) sky.pipelines) {u : Update (ν × τ)}
    (writes : sky.pipelines.written u = some hex) (live : (sky.step trig hash (.update u)).Live u.event.trackId r) :
    (sky.step trig hash (.update u)).pipelines.activeGeoAircraft.get? (passiveTrackHex hash u.event.trackId.2) =
      some r := by
  obtain ⟨r', _, placed, there, active⟩ := (State.writes_runGeolocation sound u).wrote hex writes
  obtain ⟨here, _, untagged, -⟩ := live
  obtain rfl := Option.some.inj (there.symm.trans here)
  obtain rfl := (Prod.mk.inj (Prod.mk.inj (Option.some.inj (placed.symm.trans untagged))).2).1
  exact (congrArg (Dict.get? · _) active).trans (Dict.get?_insert_self ..)

theorem spares_of_foldsApart (sound : State.Sound (fleet trig hash) sky.pipelines) (u : Update (ν × τ))
    (apart : sky.FoldsApart hash (.update u)) : sky.Spares trig hash (.update u) := by
  have writes := State.writes_runGeolocation sound u
  intro track r live other
  cases written : sky.pipelines.written u with
  | none => exact congrArg (Dict.get? · _) (writes.nothing written).1
  | some hex =>
    obtain ⟨r', _, -, -, active⟩ := writes.wrote hex written
    have keys := (foldsApart_iff trig u).mp apart hex written track r live other
    exact (congrArg (Dict.get? · _) active).trans (Dict.get?_insert_ne _ _ keys)

/-- An event keeps the places exactly when its hash folds apart. -/
theorem foldsApart_update_iff (sound : State.Sound (fleet trig hash) sky.pipelines) (own : sky.OwnPlaces hash)
    (u : Update (ν × τ)) : sky.FoldsApart hash (.update u) ↔ (sky.step trig hash (.update u)).OwnPlaces hash := by
  have writes := State.writes_runGeolocation sound u
  constructor
  · intro apart track r live
    by_cases other : track = u.event.trackId
    · subst other
      cases written : sky.pipelines.written u with
      | none =>
        obtain ⟨active, tracks, placed⟩ := writes.nothing written
        obtain ⟨there, placedAt, untagged, fresh⟩ := live
        have before : sky.Live u.event.trackId r :=
          ⟨(congrArg (Dict.get? · _) tracks).symm.trans there, placedAt, (placed r).symm.trans untagged, fresh⟩
        exact (congrArg (Dict.get? · _) active).trans (own _ r before)
      | some hex => exact own_of_written sound written live
    · have before := (live_of_other sound other).mp live
      exact (spares_of_foldsApart sound u apart track r before other).trans (own track r before)
  · intro after
    rw [foldsApart_iff trig]
    intro hex written track r live other same
    obtain ⟨r', _, placed, -, active⟩ := writes.wrote hex written
    have held := after track r ((live_of_other sound other).mpr live)
    -- what is under the key is the object of the event's own track
    have taken : (sky.step trig hash (.update u)).pipelines.activeGeoAircraft.get? (passiveTrackHex hash track.2) =
        some r' := same ▸ (congrArg (Dict.get? · _) active).trans (Dict.get?_insert_self ..)
    obtain rfl := Option.some.inj (taken.symm.trans held)
    obtain ⟨-, _, untagged, -⟩ := (live_of_other sound other).mpr live
    exact other (Prod.mk.inj (Option.some.inj (untagged.symm.trans placed))).1

theorem foldsApart_step_iff (sound : State.Sound (fleet trig hash) sky.pipelines) (own : sky.OwnPlaces hash)
    (e : Event (ν × τ)) : sky.FoldsApart hash e ↔ (sky.step trig hash e).OwnPlaces hash := by
  cases e with
  | update u => exact foldsApart_update_iff sound own u
  | prune gone =>
    refine iff_of_true trivial ?_
    rintro track r ⟨there, placedAt, placed, fresh⟩
    simp only [step, State.step, Dict.get?_erase] at there
    split at there
    · cases there
    · exact own track r ⟨there, placedAt, placed, fresh⟩
  | sweep now =>
    refine iff_of_true trivial ?_
    rintro track r ⟨there, placedAt, placed, fresh⟩
    have held := own track r ⟨there, placedAt, placed, fun then_ swept => fresh then_ (List.mem_cons_of_mem _ swept)⟩
    obtain ⟨object, stored, named⟩ := Option.map_eq_some_iff.mp placed
    obtain ⟨-, -, rfl⟩ : object.trackId = track ∧ object.adsbHex = none ∧ object.wallClockTs = placedAt := by
      simpa only [Prod.mk.injEq] using named
    have kept : now - object.wallClockTs ≤ STALE_TRACK_S := fresh now (List.mem_cons_self ..)
    have here : sky.pipelines.objects[r]? = some object := stored
    refine (Dict.get?_filter _ _ _).trans ?_
    rw [held, Option.filter_some, here, Option.any_some, if_pos (decide_eq_true kept)]

/-- In every state reached each live untagged track has its own entry, and no event touches that of another,
exactly when no event writes under a hash that folds to that of another live untagged track. -/
theorem own_places_iff (trig : Trig) (hash : τ → ℤ) (events : List (Event (ν × τ))) :
    ((∀ before after, events = before ++ after → (run (step trig hash) start before).OwnPlaces hash) ∧
        Along (step trig hash) (Spares trig hash) start events) ↔
      Along (step trig hash) (FoldsApart hash) start events := by
  have exact_ (sky : Sky ν τ) (e : Event (ν × τ)) (held : State.Sound (fleet trig hash) sky.pipelines ∧ sky.OwnPlaces hash) :
      sky.FoldsApart hash e ↔
        State.Sound (fleet trig hash) (sky.step trig hash e).pipelines ∧ (sky.step trig hash e).OwnPlaces hash := by
    rw [foldsApart_step_iff held.1 held.2, iff_and_self]
    exact fun _ => State.sound_step e held.1
  have initial : State.Sound (fleet trig hash) (start : Sky ν τ).pipelines ∧ (start : Sky ν τ).OwnPlaces hash :=
    ⟨sound_start _, fun _ _ live => (by cases live.1)⟩
  have places := along_iff_invariant exact_ initial events
  constructor
  · rintro ⟨own, -⟩
    refine places.mpr fun before after split => ⟨?_, own before after split⟩
    exact invariant_always (I := fun sky : Sky ν τ => State.Sound (fleet trig hash) sky.pipelines)
      (fun _ e => State.sound_step e) (sound_start _) before
  · intro apart
    refine ⟨fun before after split => (places.mp apart before after split).2, ?_⟩
    refine along_of_invariant (fun sky e held admitted => (exact_ sky e held).mp admitted) ?_ initial apart
    intro sky e held admitted
    cases e with
    | update u => exact spares_of_foldsApart held.1 u admitted
    | prune _ | sweep _ => trivial

end Sky

/-- A solve of a node's untagged track that places it at the latitude. -/
def solvedAt (node : String) (track : Nat) (mono lat : ℚ) : Event (String × Nat) :=
  .update
    { event := { trackId := (node, track), timestamp := mono * 1000, length := 4, adsbHex := none, newest := none }
      mono, wall := mono, before := fun _ => none, after := fun _ => none
      outcome := .solved
        { lat, lon := 5, altM := 9000, velEast := 0, velNorth := 0, velUp := 0, nDetections := 4
          latestDelayUs := none, latestDopplerHz := none } }

/-- Two nodes have each given an aircraft of theirs the same id. -/
theorem place_taken_over :
    ¬ ∀ (trig : Trig) (hash : Nat → ℤ) (events before after : List (Event (String × Nat))), events = before ++ after →
      (run (Sky.step trig hash) Sky.start before).OwnPlaces hash := by
  intro own
  let flat : Trig := { sinDeg := fun _ => 0, cosDeg := fun _ => 1 }
  have places := own flat (fun track => track) [solvedAt "n1" 7 10 10, solvedAt "n2" 7 11 20] _ [] (List.append_nil _).symm
  have first := places ("n1", 7) 0 ⟨by decide +kernel, 10, by decide +kernel, fun _ swept => absurd swept List.not_mem_nil⟩
  exact absurd first (by decide +kernel)

end Retina.Geolocation
