import RetinaServer.Tracks.TaggedEvents
import RetinaServer.Library.Partial
import RetinaServer.Tcp.Framing
import RetinaServer.Tcp.ConfigGate

/-! When an event is gone through: what is read of its tags and of its transponder's record has to be what it is read as. -/
namespace Retina.TaggedEvents
open Tcp (Json Fields PyFloat get HasFloat)
open Frames (Trig ftToM knotsToMs)
open FeedBuild (orZero)

/-! ### What can be read -/

/-- A value that is multiplied: false, or a number. -/
def Multiplied (value : Json) : Prop := value.truthy = true → value.number?.isSome = true ∧ HasFloat value

def NumericTag (tag : Json) : Prop := ∀ fields, tag = .dict fields → ∀ field ∈ fields, field.1 ∈ numericKeys → HasFloat field.2

/-- A speed that is multiplied and a course that is no infinity. -/
@[mk_iff]
structure LiveRecord.Readable (live : LiveRecord) : Prop where
  gs : Multiplied live.gs
  track : Multiplied live.track
  course : live.track ≠ .float .posInf ∧ live.track ≠ .float .negInf

theorem asNum_isSome_iff (value : Json) : (asNum value).isSome = true ↔ HasFloat value := by
  unfold asNum
  rw [Option.isSome_map]
  cases value with
  | int n =>
    by_cases big : Tcp.floatCeiling ≤ |n|
    · simp [Json.isNum, Json.number?, Json.isFinite, HasFloat, big]
    · simp [Json.isNum, Json.number?, Json.isFinite, HasFloat, big]
      omega
  | _ => simp [Json.isNum, Json.number?, Json.isFinite, HasFloat]

theorem factor_isSome_iff (value : Json) : (factor value).isSome = true ↔ value.number?.isSome = true ∧ HasFloat value := by
  cases value with
  | int n =>
    by_cases big : Tcp.floatCeiling ≤ |n|
    · simp [factor, Json.number?, HasFloat, big]
    · simp [factor, Json.number?, HasFloat, big]
      omega
  | _ => simp [factor, Json.number?, HasFloat]

theorem hasFloat_zero : HasFloat (.int 0) := by
  intro n zero
  obtain rfl := Json.int.inj zero
  have smaller : (2 : ℤ) ^ 970 < 2 ^ 1024 := pow_lt_pow_right₀ (by omega) (by omega)
  rw [abs_zero, Tcp.floatCeiling]
  exact sub_pos.mpr smaller

theorem factor_orZero_isSome_iff (value : Json) : (factor (orZero value)).isSome = true ↔ Multiplied value := by
  unfold orZero Multiplied
  by_cases truthy : value.truthy = true
  · rw [if_pos truthy, factor_isSome_iff]
    exact ⟨fun number _ => number, fun number => number truthy⟩
  · rw [if_neg truthy]
    exact ⟨fun _ held => absurd held truthy, fun _ => (factor_isSome_iff _).mpr ⟨rfl, hasFloat_zero⟩⟩

/-- A factor is infinite only where it was sent so. -/
theorem eq_float_of_factor {value : Json} {x : PyFloat} (infinite : PyFloat.isInfinite x = true) (found : factor value = some x) :
    value = .float x := by
  cases value with
  | float y => exact congrArg Json.float (Option.some.inj found)
  | bool b =>
    obtain rfl := Option.some.inj found
    cases infinite
  | int n =>
    rw [factor] at found
    obtain ⟨-, equal⟩ := Option.ite_none_left_eq_some.mp found
    obtain rfl := Option.some.inj equal
    cases infinite
  | _ => cases found

theorem infinite_factor_iff (value : Json) {x : PyFloat} (infinite : PyFloat.isInfinite x = true) :
    factor (orZero value) = some x ↔ value = .float x := by
  unfold orZero
  constructor
  · intro found
    by_cases truthy : value.truthy = true
    · rw [if_pos truthy] at found
      exact eq_float_of_factor infinite found
    · rw [if_neg truthy] at found
      cases eq_float_of_factor infinite found
  · rintro rfl
    cases x with
    | posInf => rfl
    | negInf => rfl
    | _ => cases infinite

theorem course_isSome_iff (live : LiveRecord) :
    live.course.isSome = true ↔ Multiplied live.track ∧ live.track ≠ .float .posInf ∧ live.track ≠ .float .negInf := by
  rw [← factor_orZero_isSome_iff, ne_eq, ne_eq, ← infinite_factor_iff live.track (x := .posInf) rfl,
    ← infinite_factor_iff live.track (x := .negInf) rfl]
  unfold LiveRecord.course
  cases factor (orZero live.track) with
  | none => simp
  | some x => cases x <;> simp [Option.filter, PyFloat.isInfinite]

theorem velocity_isSome_iff (trig : Trig) (live : LiveRecord) : (live.velocity trig).isSome = true ↔ live.Readable := by
  have speed : live.gsMs.isSome = true ↔ Multiplied live.gs := by
    rw [LiveRecord.gsMs, Option.isSome_map, factor_orZero_isSome_iff]
  rw [LiveRecord.readable_iff, ← speed, ← course_isSome_iff]
  unfold LiveRecord.velocity
  cases live.gsMs with
  | none => simp
  | some gs => simp

theorem coercedField_isSome_iff (field : String × Json) :
    (coercedField field).isSome = true ↔ (field.1 ∈ numericKeys → HasFloat field.2) := by
  unfold coercedField
  by_cases numeric : field.1 ∈ numericKeys
  · rw [if_pos numeric, Option.isSome_map, asNum_isSome_iff]
    exact ⟨fun held _ => held, fun held => held numeric⟩
  · rw [if_neg numeric]
    exact ⟨fun _ held => absurd held numeric, fun _ => rfl⟩

theorem coercedAdsb_isSome_iff (tag : Json) : (coercedAdsb tag).isSome = true ↔ NumericTag tag := by
  cases tag with
  | dict fields =>
    rw [coercedAdsb, Option.isSome_map, Partial.mapM_isSome_iff]
    simp only [coercedField_isSome_iff, NumericTag, Json.dict.injEq, forall_eq']
  | _ => simp [coercedAdsb, NumericTag]

theorem coercedDetection_isSome_iff (d : Detection) :
    (coercedDetection d).isSome = true ↔ ∀ tag, d.adsb = some tag → NumericTag tag := by
  unfold coercedDetection
  cases d.adsb with
  | none => simp
  | some tag => simp [coercedAdsb_isSome_iff]

/-- What the tag made of a record is read from. -/
@[mk_iff]
structure LiveRecord.Numeric (live : LiveRecord) : Prop where
  altBaro : HasFloat live.altBaro
  gs : HasFloat live.gs
  track : HasFloat live.track

theorem recordTag_isSome_iff (live : LiveRecord) : (recordTag live).isSome = true ↔ live.Numeric := by
  rw [LiveRecord.numeric_iff, ← asNum_isSome_iff, ← asNum_isSome_iff, ← asNum_isSome_iff]
  unfold recordTag
  cases asNum live.altBaro with
  | none => simp
  | some altBaro =>
    cases asNum live.gs with
    | none => simp
    | some gs => cases asNum live.track <;> simp

variable {τ σ : Type} (lib : Geolocator τ σ)

/-- What is sent of a track's recent detections can be read, and so can the record where it takes the place of the first tag. -/
@[mk_iff]
structure TrackEvent.Readable (e : TrackEvent τ) (m : Meeting) : Prop where
  window : ∀ d ∈ e.window, ∀ tag, d.adsb = some tag → NumericTag tag
  record : e.window ≠ [] → ∀ live, freshRecord m e = some live → live.Numeric

theorem geoTrack_isSome_iff (m : Meeting) (e : TrackEvent τ) : (geoTrack m e).isSome = true ↔ e.Readable m := by
  have window : (e.window.mapM coercedDetection).isSome = true ↔ ∀ d ∈ e.window, ∀ tag, d.adsb = some tag → NumericTag tag := by
    simp only [Partial.mapM_isSome_iff, coercedDetection_isSome_iff]
  rw [TrackEvent.readable_iff, ← window]
  unfold geoTrack
  cases coerced : e.window.mapM coercedDetection with
  | none => simp
  | some detections =>
    have length := Partial.length_mapM coerced
    cases freshRecord m e with
    | none => simp
    | some live =>
      cases detections with
      | nil => simp [List.length_eq_zero_iff.mp length.symm]
      | cons first rest =>
        have nonempty : e.window ≠ [] := by
          intro empty
          rw [empty] at length
          cases length
        simp only [Option.bind_eq_bind, Option.bind_some, Option.isSome_some, true_and, Option.some.injEq, forall_eq', nonempty,
          ne_eq, not_false_eq_true, true_imp_iff, ← recordTag_isSome_iff]
        cases recordTag live <;> simp

variable [DecidableEq τ]

/-- What the pipeline's dictionaries hold for a track. -/
def State.standing (s : State τ σ) (track : τ) : Option ℕ × Option ℚ × Option σ :=
  (s.geolocatedTracks.get? track, s.geoLastSolve.get? track, s.previousSolutions.get? track)

/-- Nothing that is read while an event is processed raises. -/
structure Legible (s : State τ σ) (m : Meeting) (e : TrackEvent τ) : Prop where
  newest : ∀ tag, e.tag = some tag → tag.truthy = true → tag.isObject = true
  refreshed : s.existing e ≠ none → ∀ live, e.adsbHex.bind m.before = some live → live.Readable ∧ HasFloat live.altBaro
  window : s.limited m e = false → lib.minDetections ≤ e.window.length → e.Readable m
  located : s.limited m e = false → lib.minDetections ≤ e.window.length →
    ∀ track, geoTrack m e = some track → lib.locate (s.previousSolutions.get? e.trackId) track ≠ .raised
  fallback : s.limited m e = false →
    (lib.minDetections ≤ e.window.length → ∀ track, geoTrack m e = some track →
      lib.locate (s.previousSolutions.get? e.trackId) track = .failed) →
    ∀ live, e.adsbHex.bind m.after = some live → live.placed = true → live.Readable ∧ (s.existing e = none → HasFloat live.altBaro)

theorem tagHex_isSome_iff (tag : Option Json) :
    (tagHex tag).isSome = true ↔ ∀ value, tag = some value → value.truthy = true → value.isObject = true := by
  unfold tagHex
  cases tag with
  | none => simp
  | some value =>
    by_cases truthy : value.truthy = true
    · cases value <;> simp_all [Json.isObject]
    · simp [truthy]

theorem refresh_ok_iff (s : State τ σ) (m : Meeting) (e : TrackEvent τ) (hex : Json) :
    (∃ s', s.refresh lib m e hex = .ok s') ↔
      (s.existing e ≠ none → ∀ live, e.adsbHex.bind m.before = some live → live.Readable ∧ HasFloat live.altBaro) := by
  unfold State.refresh
  cases s.existing e with
  | none => simp
  | some r =>
    cases e.adsbHex.bind m.before with
    | none => simp
    | some live =>
      simp only [ne_eq, reduceCtorEq, not_false_eq_true, Option.some.injEq, forall_eq', true_imp_iff, ← asNum_isSome_iff,
        ← velocity_isSome_iff lib.trig]
      cases live.velocity lib.trig <;> cases asNum live.altBaro <;> simp

theorem fallback_ok_iff (s : State τ σ) (m : Meeting) (e : TrackEvent τ) :
    (∃ s', s.fallback lib m e = .ok s') ↔
      ∀ live, e.adsbHex.bind m.after = some live → live.placed = true → live.Readable ∧ (s.existing e = none → HasFloat live.altBaro) := by
  unfold State.fallback
  cases e.adsbHex.bind m.after with
  | none => simp
  | some live =>
    by_cases placed : live.placed = true
    · simp only [Option.filter, placed, if_true, Option.some.injEq, forall_eq', true_imp_iff, ← asNum_isSome_iff,
        ← velocity_isSome_iff lib.trig]
      cases live.velocity lib.trig with
      | none => simp
      | some velocity =>
        cases s.existing e with
        | some r => simp
        | none => cases asNum live.altBaro <;> simp
    · simp [Option.filter, placed]

/-! ### What an event leaves to the others -/

@[simp] theorem modify_standing (s : State τ σ) (r : ℕ) (f : Track τ → Track τ) (track : τ) :
    (s.modify r f).standing track = s.standing track := rfl

theorem publish_standing (s : State τ σ) (published : Track τ) {track : τ} (other : published.trackId ≠ track) :
    (s.publish lib published).standing track = s.standing track := by
  simp only [State.standing, State.publish, Dict.get?_insert_ne _ _ other]

theorem refresh_standing {s s' : State τ σ} {m : Meeting} {e : TrackEvent τ} {hex : Json}
    (refreshed : s.refresh lib m e hex = .ok s') (track : τ) : s'.standing track = s.standing track := by
  unfold State.refresh at refreshed
  split at refreshed
  · cases refreshed
    rfl
  · split at refreshed
    · cases refreshed
      rfl
    · split at refreshed
      · cases refreshed
        rfl
      · cases refreshed

theorem fallback_standing {s s' : State τ σ} {m : Meeting} {e : TrackEvent τ} (fell : s.fallback lib m e = .ok s') {track : τ}
    (other : e.trackId ≠ track) : s'.standing track = s.standing track := by
  unfold State.fallback at fell
  split at fell
  · cases fell
    rfl
  · split at fell
    · cases fell
    · split at fell
      · cases fell
        split <;> rfl
      · split at fell
        · cases fell
        · cases fell
          exact publish_standing lib s _ other

theorem solve_standing {s s' : State τ σ} {m : Meeting} {e : TrackEvent τ} {hex : Json} (solved : s.solve lib m e hex = .ok s')
    {track : τ} (other : e.trackId ≠ track) : s'.standing track = s.standing track := by
  have stamped : ({ s with geoLastSolve := s.geoLastSolve.insert e.trackId m.mono } : State τ σ).standing track = s.standing track := by
    simp only [State.standing, Dict.get?_insert_ne _ _ other]
  unfold State.solve at solved
  split at solved
  · cases solved
    rfl
  · dsimp only at solved
    split at solved
    · cases solved
    · rw [fallback_standing lib solved other, stamped]
    · cases solved
      rw [publish_standing lib _ _ (by exact other)]
      simp only [State.standing, Dict.get?_insert_ne _ _ other]

theorem takeUp_standing {s s' : State τ σ} {m : Meeting} {e : TrackEvent τ} (taken : s.takeUp lib m e = .ok s') {track : τ}
    (other : e.trackId ≠ track) : s'.standing track = s.standing track := by
  unfold State.takeUp at taken
  split at taken
  · cases taken
  · split at taken
    · cases taken
    · next refreshed =>
      rw [solve_standing lib taken other, refresh_standing lib refreshed]

theorem solve_ok_iff (s : State τ σ) (m : Meeting) (e : TrackEvent τ) (hex : Json) :
    (∃ s', s.solve lib m e hex = .ok s') ↔
      (s.limited m e = false → lib.minDetections ≤ e.window.length → e.Readable m) ∧
      (s.limited m e = false → lib.minDetections ≤ e.window.length →
        ∀ track, geoTrack m e = some track → lib.locate (s.previousSolutions.get? e.trackId) track ≠ .raised) ∧
      (s.limited m e = false →
        (lib.minDetections ≤ e.window.length → ∀ track, geoTrack m e = some track →
          lib.locate (s.previousSolutions.get? e.trackId) track = .failed) →
        ∀ live, e.adsbHex.bind m.after = some live → live.placed = true →
          live.Readable ∧ (s.existing e = none → HasFloat live.altBaro)) := by
  unfold State.solve
  cases s.limited m e with
  | true => simp
  | false =>
    have fallback := fallback_ok_iff lib { s with geoLastSolve := s.geoLastSolve.insert e.trackId m.mono } m e
    have existing : ({ s with geoLastSolve := s.geoLastSolve.insert e.trackId m.mono } : State τ σ).existing e = s.existing e := rfl
    rw [existing] at fallback
    simp only [Bool.false_eq_true, if_false, true_imp_iff, ← geoTrack_isSome_iff]
    unfold geolocateTrackEvent
    by_cases short : e.window.length < lib.minDetections
    · simp only [short, if_true, Nat.not_le.mpr short, false_imp_iff, true_and, true_imp_iff, fallback]
    · simp only [short, if_false, Nat.not_lt.mp short, true_imp_iff]
      cases geoTrack m e with
      | none => simp
      | some track =>
        simp only [Option.isSome_some, Option.some.injEq, forall_eq', true_and]
        cases lib.locate (s.previousSolutions.get? e.trackId) track with
        | raised => simp
        | failed => simp [fallback]
        | solved state solution => simp

theorem legible_congr {s s' : State τ σ} {m : Meeting} {e : TrackEvent τ} (same : s'.standing e.trackId = s.standing e.trackId) :
    Legible lib s' m e ↔ Legible lib s m e := by
  obtain ⟨existing, last, previous⟩ := Prod.mk.inj same |>.imp_right Prod.mk.inj
  have limited : s'.limited m e = s.limited m e := by
    unfold State.limited
    rw [last]
  have existing : s'.existing e = s.existing e := existing
  constructor
  · rintro ⟨newest, refreshed, window, located, fallback⟩
    rw [existing] at refreshed fallback
    rw [limited] at window located fallback
    rw [previous] at located fallback
    exact ⟨newest, refreshed, window, located, fallback⟩
  · rintro ⟨newest, refreshed, window, located, fallback⟩
    rw [← existing] at refreshed fallback
    rw [← limited] at window located fallback
    rw [← previous] at located fallback
    exact ⟨newest, refreshed, window, located, fallback⟩

theorem takeUp_ok_iff (s : State τ σ) (m : Meeting) (e : TrackEvent τ) : (∃ s', s.takeUp lib m e = .ok s') ↔ Legible lib s m e := by
  have newest := tagHex_isSome_iff e.tag
  unfold State.takeUp
  cases tag : tagHex e.tag with
  | none =>
    rw [tag] at newest
    constructor
    · rintro ⟨_, taken⟩
      cases taken
    · intro legible
      cases newest.mpr legible.newest
  | some hex =>
    have refresh := refresh_ok_iff lib s m e hex
    rw [tag] at newest
    dsimp only
    cases refreshed : s.refresh lib m e hex with
    | error s' =>
      rw [refreshed] at refresh
      constructor
      · rintro ⟨_, taken⟩
        cases taken
      · intro legible
        obtain ⟨_, through⟩ := refresh.mpr legible.refreshed
        cases through
    | ok s' =>
      have same := refresh_standing lib refreshed e.trackId
      have read := refresh.mp ⟨s', refreshed⟩
      rw [← show s'.existing e = s.existing e from congrArg Prod.fst same] at read
      rw [solve_ok_iff lib s' m e hex, ← legible_congr lib same]
      constructor
      · rintro ⟨window, located, fallback⟩
        exact ⟨newest.mp rfl, read, window, located, fallback⟩
      · rintro ⟨_, _, window, located, fallback⟩
        exact ⟨window, located, fallback⟩

end Retina.TaggedEvents
