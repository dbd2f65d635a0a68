import RetinaServer.Multinode.Stores

/-! Position against time in the stored entries under the display filter. An
entry always stands at its filter's position. A solve that is not newer than the
filter's last update is held there with its own timestamp, so the position may be
of a later epoch than the timestamp, never of an earlier one. -/
namespace Retina.Multinode
open Runs

section
variable (env : SmootherEnv)

/-- The entry stands where its filter does. -/
def StandsAt (entry : TrackEntry) (filter : TrackKF) : Prop :=
  ∃ lat lon, entry.lat = some lat ∧ entry.lon = some lon ∧ AtPosterior env lat lon filter

/-- The entry stands where the filter puts the entry's own epoch. -/
def StandsAtOwnEpoch (entry : TrackEntry) (filter : TrackKF) : Prop :=
  ∃ lat lon, entry.lat = some lat ∧ entry.lon = some lon ∧
    ((lat, lon) = posteriorAt env filter entry.tsS ∨
      (lat = Rounding.roundTo 6 (posteriorAt env filter entry.tsS).1 ∧
        lon = Rounding.roundTo 6 (posteriorAt env filter entry.tsS).2))

/-- At the filter's last update the two agree. -/
theorem standsAtOwnEpoch_of_updated (stands : StandsAt env entry filter) (updated : filter.lastTsS = entry.tsS) :
    StandsAtOwnEpoch env entry filter := by
  have same : posteriorAt env filter entry.tsS = posterior env filter := by
    simp [posteriorAt, posterior, updated]
  simp only [StandsAtOwnEpoch]
  rw [same]
  exact stands

theorem smoothSolve_other (memory : Memory) (result : Solve) (adsbHex : Option String) (fix : Option AdsbFix)
    (other : trackKey ≠ key)
    (found : (smoothSolve env memory result trackKey adsbHex fix).2.filters.tracks.get? key = some filter) :
    memory.filters.tracks.get? key = some filter := by
  simp only [smoothSolve] at found
  cases mode : env.trackSmoother with
  | kf =>
    simp only [mode, smoothKf, Dict.get?_insert_ne _ _ other] at found
    exact sweep_some found
  | ewma | off =>
    rw [mode] at found
    exact found

/-- A solve under the filter: its own timestamp, the filter's position, and the
filter either brought to that epoch or found at or past it and left alone. -/
theorem smoothSolve_posterior (anchored : env.geodesy.Anchored) (kf : env.trackSmoother = .kf) (memory : Memory)
    (result : Solve) (trackKey : String) (adsbHex : Option String) (fix : Option AdsbFix) :
    ∃ filter,
      (smoothSolve env memory result trackKey adsbHex fix).2.filters.tracks.get? trackKey = some filter ∧
      (smoothSolve env memory result trackKey adsbHex fix).1.timestampMs = result.timestampMs ∧
      AtPosterior env (smoothSolve env memory result trackKey adsbHex fix).1.lat
        (smoothSolve env memory result trackKey adsbHex fix).1.lon filter ∧
      ((∀ held ∈ memory.filters.tracks.get? trackKey, held.lastTsS < result.tsS) ∧ filter.lastTsS = result.tsS ∨
        memory.filters.tracks.get? trackKey = some filter ∧ result.tsS ≤ filter.lastTsS) := by
  let swept := (sweep result.tsS memory.filters).tracks.get? trackKey
  obtain ⟨timestamp, position, epoch⟩ := kfStep_spec env anchored result adsbHex fix swept
  refine ⟨(kfStep env result adsbHex fix swept).2, ?_⟩
  simp only [smoothSolve, kf, smoothKf, Dict.get?_insert_self]
  refine ⟨rfl, timestamp, position, ?_⟩
  rcases epoch with ⟨newer, updated⟩ | ⟨held, found, late, same⟩
  · refine .inl ⟨?_, updated⟩
    intro held found
    by_contra late
    exact late (newer held (sweep_keeps found (not_lt.mp late)))
  · rw [same]
    exact .inr ⟨sweep_some found, late⟩

end

section
variable (cfg : Config)

/-- Every live entry with a filter stands at its position, stamped no later than
its last update. -/
def PosteriorStored (s : Stores) : Prop :=
  ∀ key entry filter, s.tracks.get? key = some entry → s.memory.filters.tracks.get? key = some filter →
    StandsAt cfg.smoother entry filter ∧ entry.tsS ≤ filter.lastTsS

variable {cfg}

/-- What a publish leaves under its key. -/
theorem publish_posterior (anchored : cfg.smoother.geodesy.Anchored) (kf : cfg.smoother.trackSmoother = .kf)
    (pub : Publication) (targeted : pub.target cfg s = some key) :
    ∃ entry filter, (pub.apply cfg s).tracks.get? key = some entry ∧
      (pub.apply cfg s).memory.filters.tracks.get? key = some filter ∧
      entry.timestampMs = pub.result.timestampMs ∧ StandsAt cfg.smoother entry filter ∧
      ((∀ held ∈ s.memory.filters.tracks.get? key, held.lastTsS < entry.tsS) ∧ filter.lastTsS = entry.tsS ∨
        s.memory.filters.tracks.get? key = some filter ∧ entry.tsS ≤ filter.lastTsS) := by
  rcases apply_cases cfg pub s with ⟨skipped, -⟩ | ⟨k, forgotten, entry, written, kept, carries, same⟩
  · simp [skipped] at targeted
  · obtain rfl : k = key := Option.some.inj (written.symm.trans targeted)
    obtain ⟨lat, lon, timestamp, -⟩ := carries
    obtain ⟨filter, stored, own, position, epoch⟩ :=
      smoothSolve_posterior cfg.smoother anchored kf s.memory pub.result k pub.adsbHex pub.fix
    have stamped : entry.timestampMs = pub.result.timestampMs := timestamp.trans own
    have epochs : entry.tsS = pub.result.tsS := by simp only [TrackRecord.tsS, stamped]
    refine ⟨entry, filter, ?_, ?_, stamped, ⟨_, _, lat, lon, position⟩, epochs ▸ epoch⟩
    · rw [same, commit_tracks, if_pos rfl]
    · rw [same, commit_filter cfg s _ entry kept]
      exact stored

theorem publish_stored (anchored : cfg.smoother.geodesy.Anchored) (kf : cfg.smoother.trackSmoother = .kf)
    (stored : PosteriorStored cfg s) (pub : Publication) : PosteriorStored cfg (pub.apply cfg s) := by
  intro key entry filter live found
  rcases apply_cases cfg pub s with ⟨-, same⟩ | ⟨target, forgotten, written, targeted, kept, -, same⟩
  · rw [same] at live found
    exact stored key entry filter live found
  · by_cases own : target = key
    · subst own
      obtain ⟨entry', filter', live', found', -, stands, epoch⟩ := publish_posterior anchored kf pub targeted
      obtain rfl := Option.some.inj (live.symm.trans live')
      obtain rfl := Option.some.inj (found.symm.trans found')
      refine ⟨stands, ?_⟩
      rcases epoch with ⟨-, updated⟩ | ⟨-, late⟩
      · exact updated.ge
      · exact late
    · rw [same, commit_tracks, if_neg own] at live
      split at live
      · cases live
      · rename_i spared
        rw [same, commit_filter cfg s _ written spared] at found
        exact stored key entry filter live
          (smoothSolve_other cfg.smoother s.memory pub.result pub.adsbHex pub.fix own found)

/-- Taking entries and filters out leaves the rest as they stood. -/
theorem stored_of_sub (stored : PosteriorStored cfg s)
    (tracks : ∀ key entry, s'.tracks.get? key = some entry → s.tracks.get? key = some entry)
    (filters : ∀ key filter, s'.memory.filters.tracks.get? key = some filter →
      s.memory.filters.tracks.get? key = some filter) : PosteriorStored cfg s' :=
  fun key entry filter live found => stored key entry filter (tracks key entry live) (filters key filter found)

theorem storeStep_stored (anchored : cfg.smoother.geodesy.Anchored) (kf : cfg.smoother.trackSmoother = .kf)
    (s : Stores) (step : StoreStep) (stored : PosteriorStored cfg s) : PosteriorStored cfg (storeStep cfg s step) := by
  cases step with
  | publish pub => exact publish_stored anchored kf stored pub
  | forget key =>
    apply stored_of_sub stored
    · intro k entry live
      exact (Dict.get?_filter_some live).1
    · intro k filter found
      exact (Dict.get?_filter_some found).1
  | prune now =>
    apply stored_of_sub stored
    · intro k entry live
      simp only [storeStep, pruneMultinodeTracks, (evict_removes cfg).foldl_tracks] at live
      split at live
      · cases live
      · exact live
    · intro k filter found
      rwa [storeStep, pruneMultinodeTracks, evictKeys_memory] at found
  | flag key =>
    simp only [storeStep, flagAnomaly]
    split <;> exact stored

variable (cfg)

/-- In every run under the filter, each live entry stands at its filter's
position, stamped no later than the filter's last update. A publish keeps its
solve's timestamp; when the solve is newer than the filter the filter is brought
to it and the position is that epoch's, and otherwise the filter is left as it was. -/
theorem entries_at_posterior (anchored : cfg.smoother.geodesy.Anchored) (kf : cfg.smoother.trackSmoother = .kf)
    (steps : List StoreStep) :
    PosteriorStored cfg (run (storeStep cfg) Stores.boot steps) ∧
    ∀ pub key, pub.target cfg (run (storeStep cfg) Stores.boot steps) = some key →
      ∃ entry filter,
        (run (storeStep cfg) Stores.boot (steps ++ [.publish pub])).tracks.get? key = some entry ∧
        (run (storeStep cfg) Stores.boot (steps ++ [.publish pub])).memory.filters.tracks.get? key = some filter ∧
        entry.timestampMs = pub.result.timestampMs ∧ StandsAt cfg.smoother entry filter ∧
        ((∀ held ∈ (run (storeStep cfg) Stores.boot steps).memory.filters.tracks.get? key,
            held.lastTsS < entry.tsS) ∧ filter.lastTsS = entry.tsS ∧ StandsAtOwnEpoch cfg.smoother entry filter ∨
          (run (storeStep cfg) Stores.boot steps).memory.filters.tracks.get? key = some filter ∧
            entry.tsS ≤ filter.lastTsS) := by
  constructor
  · apply invariant_always (storeStep_stored anchored kf)
    intro key entry filter live
    cases live
  · intro pub key targeted
    rw [run_append]
    obtain ⟨entry, filter, live, found, stamped, stands, epoch⟩ := publish_posterior anchored kf pub targeted
    refine ⟨entry, filter, live, found, stamped, stands, ?_⟩
    rcases epoch with ⟨newer, updated⟩ | held
    · exact .inl ⟨newer, updated, standsAtOwnEpoch_of_updated cfg.smoother stands updated⟩
    · exact .inr held

end

theorem meridian_anchored : meridian.Anchored := by
  intro lat lon
  simp [meridian]

/-- The known lane solves an aircraft flying north at 200 m/s. -/
def northbound (lat : ℚ) (timestampMs : ℤ) : Publication :=
  .known "abc123" { still lat 0 timestampMs with velNorth := some 200 } none Dict.empty

/-- The solve of 5 s comes after the solve of 10 s. -/
def lateSolve : List StoreStep := [.publish (northbound (1 / 10) 10000), .publish (northbound (91 / 1000) 5000)]

theorem late_solve_at_posterior :
    ∃ entry filter,
      (run (storeStep meridianConfig) Stores.boot lateSolve).tracks.get? "mn-adsb-abc123" = some entry ∧
      (run (storeStep meridianConfig) Stores.boot lateSolve).memory.filters.tracks.get? "mn-adsb-abc123" =
        some filter ∧
      entry.timestampMs = 5000 ∧ StandsAt meridianConfig.smoother entry filter := by
  obtain ⟨entry, filter, live, found, stamped, stands, -⟩ :=
    (entries_at_posterior meridianConfig meridian_anchored rfl [.publish (northbound (1 / 10) 10000)]).2
      (northbound (91 / 1000) 5000) "mn-adsb-abc123" (by decide +kernel)
  exact ⟨entry, filter, live, found, stamped, stands⟩

/-- The late solve leaves the position of 10 s under the timestamp of 5 s. -/
theorem late_solve_not_at_own_epoch :
    ∃ entry filter,
      (run (storeStep meridianConfig) Stores.boot lateSolve).tracks.get? "mn-adsb-abc123" = some entry ∧
      (run (storeStep meridianConfig) Stores.boot lateSolve).memory.filters.tracks.get? "mn-adsb-abc123" =
        some filter ∧
      ¬ StandsAtOwnEpoch meridianConfig.smoother entry filter := by
  have stored : ((run (storeStep meridianConfig) Stores.boot lateSolve).tracks.get? "mn-adsb-abc123").map
      (fun entry => (entry.lat, entry.timestampMs)) = some (some (1 / 10), 5000) := by decide +kernel
  have held : ((run (storeStep meridianConfig) Stores.boot lateSolve).memory.filters.tracks.get?
      "mn-adsb-abc123").map (fun filter => (filter.refLat, filter.x 2, filter.x 3, filter.lastTsS)) =
        some (1 / 10, 0, 200, 10) := by decide +kernel
  obtain ⟨entry, live, fields⟩ := Option.map_eq_some_iff.mp stored
  obtain ⟨filter, found, state⟩ := Option.map_eq_some_iff.mp held
  simp only [Prod.mk.injEq] at fields state
  refine ⟨entry, filter, live, found, ?_⟩
  rintro ⟨lat, lon, north, -, position⟩
  have carried : (posteriorAt meridianConfig.smoother filter entry.tsS).1 = 1 / 10 - 1 / 111 := by
    simp [posteriorAt, meridianConfig, meridian, TrackRecord.tsS, fields, state]
    norm_num
  obtain rfl : 1 / 10 = lat := by simpa [fields] using north
  rcases position with exactly | rounded
  · have same := congrArg Prod.fst exactly
    rw [carried] at same
    norm_num at same
  · rw [carried] at rounded
    exact absurd rounded.1 (by decide +kernel)


end Retina.Multinode
