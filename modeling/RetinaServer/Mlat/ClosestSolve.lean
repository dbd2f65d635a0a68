import RetinaServer.Mlat.Verification
import RetinaServer.Multinode.Entry
import RetinaServer.Library.ClosestFirst

/-! Whether each truth goes to its closest solve. The solves take their turns by how far their nearest truth is, whoever may
have it, so a turn may come before that of a solve that is closer to what is left. -/
namespace Retina.Mlat
open Frames (normalizeHexKey validLatlon)

variable (lib : Lib)

/-- The trail has a point at the solve's time, at its altitude, within the threshold. -/
def eligible (solve : String × Solve) (trail : GtTrail) : Bool :=
  !trail.sparse solve.2.ts && !altGated solve.2.alt (trail.closest solve.2.ts).altM &&
    decide (solve.2.trailDistKm lib trail < matchThresholdKm)

def pairKm (solve : String × Solve) (trail : GtTrail) : ℚ := solve.2.trailDistKm lib trail

def pairMatch (pair : (String × Solve) × GtTrail) : Match :=
  toMatch lib pair.1.1 pair.1.2 (pair.2.truth pair.1.2.ts) (pairKm lib pair.1 pair.2)

/-- Each solve and each truth is matched at most once, and no pair is closer than the match of each of the two. -/
structure ClosestMatched (now : ℚ) (w : World) : Prop where
  solves : ((refreshMlatVerification lib now w).found.map Match.solveKey).Nodup
  truths : ((refreshMlatVerification lib now w).found.map fun m => m.truth.hex).Nodup
  unblocked : ∀ solve ∈ freshSolves now w, ∀ trail ∈ gtTrailsSnapshot now w, eligible lib solve trail = true →
    ¬ ((∀ m ∈ (refreshMlatVerification lib now w).found, m.solveKey = solve.1 → pairKm lib solve trail < m.positionErrorKm) ∧
      ∀ m ∈ (refreshMlatVerification lib now w).found, m.truth.hex = trail.hex → pairKm lib solve trail < m.positionErrorKm)

/-- No fresh solve names a transponder, and there is no truth but the trails. -/
structure OnlyTrails (now : ℚ) (w : World) : Prop where
  unnamed : ∀ solve ∈ freshSolves now w, normalizeHexKey solve.2.adsbHex = ""
  pool : adsbTruthPool now w ((gtTrailsSnapshot now w).map GtTrail.hex) = []

/-! ### A solve's turn -/

theorem considerTrail_eq (solve : String × Solve) (trail : GtTrail) {held : Option GtTrail}
    (close : ∀ best, held = some best → pairKm lib solve best < matchThresholdKm) :
    considerTrail lib solve.2 (held.map fun best => (best.truth solve.2.ts, pairKm lib solve best)) trail =
      (if eligible lib solve trail then Selection.better (pairKm lib solve) held trail else held).map
        fun best => (best.truth solve.2.ts, pairKm lib solve best) := by
  unfold considerTrail eligible
  by_cases sparse : trail.sparse solve.2.ts = true
  · simp [sparse]
  · by_cases gated : altGated solve.2.alt (trail.closest solve.2.ts).altM = true
    · simp [sparse, gated]
    · by_cases near : solve.2.trailDistKm lib trail < matchThresholdKm
      · cases held with
        | none => simp [sparse, gated, near, nearer, Selection.better, pairKm]
        | some best =>
          by_cases closer : solve.2.trailDistKm lib trail < solve.2.trailDistKm lib best
          · simp [sparse, gated, near, nearer, Selection.better, pairKm, closer]
          · simp [sparse, gated, near, nearer, Selection.better, pairKm, closer]
      · cases held with
        | none => simp [sparse, gated, near, nearer]
        | some best =>
          have beyond : ¬ solve.2.trailDistKm lib trail < solve.2.trailDistKm lib best := by
            intro closer
            exact near (closer.trans (close best rfl))
          simp [sparse, gated, near, nearer, pairKm, beyond]

theorem better_close {solve : String × Solve} {trail : GtTrail} {held : Option GtTrail}
    (close : ∀ best, held = some best → pairKm lib solve best < matchThresholdKm) (eligible_ : eligible lib solve trail = true) :
    ∀ best, Selection.better (pairKm lib solve) held trail = some best → pairKm lib solve best < matchThresholdKm := by
  have near : pairKm lib solve trail < matchThresholdKm := by
    unfold eligible at eligible_
    rw [Bool.and_eq_true, decide_eq_true_eq] at eligible_
    exact eligible_.2
  intro best found
  cases held with
  | none =>
    obtain rfl := Option.some.inj found
    exact near
  | some other =>
    unfold Selection.better at found
    dsimp only at found
    split at found
    · obtain rfl := Option.some.inj found
      exact near
    · obtain rfl := Option.some.inj found
      exact close other rfl

/-- The proximity loop holds the first of the closest trails that are eligible and not matched. -/
theorem proximityMatch_eq (snapshot : List GtTrail) (matched : List String) (solve : String × Solve) :
    proximityMatch lib snapshot matched solve.2 =
      (Selection.firstMin (pairKm lib solve) (snapshot.filter fun trail => eligible lib solve trail && decide (trail.hex ∉ matched))).map
        fun best => (best.truth solve.2.ts, pairKm lib solve best) := by
  suffices along : ∀ held : Option GtTrail, (∀ best, held = some best → pairKm lib solve best < matchThresholdKm) →
      snapshot.foldl (fun held trail => if trail.hex ∈ matched then held else considerTrail lib solve.2 held trail)
        (held.map fun best => (best.truth solve.2.ts, pairKm lib solve best)) =
      ((snapshot.filter fun trail => eligible lib solve trail && decide (trail.hex ∉ matched)).foldl
        (Selection.better (pairKm lib solve)) held).map fun best => (best.truth solve.2.ts, pairKm lib solve best) by
    exact along none fun _ absent => nomatch absent
  induction snapshot with
  | nil =>
    intro held _
    rfl
  | cons trail rest ih =>
    intro held close
    rw [List.foldl_cons]
    by_cases already : trail.hex ∈ matched
    · rw [if_pos already, List.filter_cons_of_neg (by simp [already])]
      exact ih held close
    · rw [if_neg already, considerTrail_eq lib solve trail close]
      by_cases fits : eligible lib solve trail = true
      · rw [if_pos fits, List.filter_cons_of_pos (by simp [fits, already]), List.foldl_cons]
        exact ih _ (better_close lib close fits)
      · rw [if_neg fits, List.filter_cons_of_neg (by simp [fits])]
        exact ih held close

theorem bestTruth_eq (snapshot : List GtTrail) (matched : List String) {solve : String × Solve}
    (unnamed : normalizeHexKey solve.2.adsbHex = "") :
    bestTruth lib snapshot [] matched solve.2 =
      (Selection.firstMin (pairKm lib solve) (snapshot.filter fun trail => eligible lib solve trail && decide (trail.hex ∉ matched))).map
        fun best => (best.truth solve.2.ts, pairKm lib solve best) := by
  have identity : identityMatch lib snapshot matched solve.2 = none := if_pos (Or.inl unnamed)
  rw [← proximityMatch_eq, bestTruth, identity]
  cases proximityMatch lib snapshot matched solve.2 <;> rfl

/-! ### The loop -/

theorem mem_map_hex_iff {snapshot taken : List GtTrail} (distinct : (snapshot.map GtTrail.hex).Nodup) (within : taken ⊆ snapshot)
    {trail : GtTrail} (listed : trail ∈ snapshot) : trail.hex ∈ taken.map GtTrail.hex ↔ trail ∈ taken := by
  constructor
  · intro named
    obtain ⟨other, held, same⟩ := List.mem_map.mp named
    exact List.inj_on_of_nodup_map distinct (within held) listed same ▸ held
  · exact List.mem_map_of_mem

/-- The loop serves the solves in turn. -/
theorem assign_eq_serve {snapshot taken : List GtTrail} (distinct : (snapshot.map GtTrail.hex).Nodup) (within : taken ⊆ snapshot)
    {solves : List (String × Solve)} (unnamed : ∀ solve ∈ solves, normalizeHexKey solve.2.adsbHex = "") :
    (assign lib snapshot [] (taken.map GtTrail.hex) solves).1 =
      (ClosestFirst.serve (eligible lib) (pairKm lib) snapshot taken solves).map (pairMatch lib) := by
  induction solves generalizing taken with
  | nil => rfl
  | cons solve rest ih =>
    obtain ⟨here, later⟩ := List.forall_mem_cons.mp unnamed
    have left : snapshot.filter (fun trail => eligible lib solve trail && decide (trail.hex ∉ taken.map GtTrail.hex)) =
        snapshot.filter fun trail => eligible lib solve trail && decide (trail ∉ taken) := by
      apply List.filter_congr
      intro trail listed
      rw [decide_eq_decide.mpr (not_congr (mem_map_hex_iff distinct within listed))]
    rw [assign, ClosestFirst.serve, bestTruth_eq lib snapshot _ here, left]
    cases found : Selection.firstMin (pairKm lib solve) (snapshot.filter fun trail => eligible lib solve trail && decide (trail ∉ taken)) with
    | none => exact ih within later
    | some own =>
      have listed := (List.mem_filter.mp (Selection.firstMin_mem found)).1
      have next := ih (List.cons_subset.mpr ⟨listed, within⟩) later
      simp only [Option.map_some, List.map_cons, List.cons.injEq] at next ⊢
      exact ⟨rfl, next⟩

theorem snapshot_distinct (now : ℚ) (w : World) : ((gtTrailsSnapshot now w).map GtTrail.hex).Nodup := by
  unfold gtTrailsSnapshot
  refine List.Nodup.sublist (List.filter_sublist.map _) (w.trails.nodup_filterMap GtTrail.hex ?_)
  rintro ⟨hex, trail⟩ kept made
  cases trail with
  | nil => cases made
  | cons first later =>
    obtain rfl := Option.some.inj made
    rfl

theorem freshSolves_distinct (now : ℚ) (w : World) : ((freshSolves now w).map Prod.fst).Nodup :=
  w.tracks.nodup.sublist (List.filter_sublist.map _)

theorem solveOrder_perm (now : ℚ) (w : World) (snapshot : List GtTrail) (pool : List Truth) :
    (solveOrder lib now w snapshot pool).Perm (freshSolves now w) :=
  List.perm_insertionSort _ _

/-- The solves in turn, each with the closest trail that is left. -/
def served (now : ℚ) (w : World) : List ((String × Solve) × GtTrail) :=
  ClosestFirst.serve (eligible lib) (pairKm lib) (gtTrailsSnapshot now w) [] (solveOrder lib now w (gtTrailsSnapshot now w) [])

theorem found_eq {now : ℚ} {w : World} (only : OnlyTrails now w) :
    (refreshMlatVerification lib now w).found = (served lib now w).map (pairMatch lib) := by
  have unnamed : ∀ solve ∈ solveOrder lib now w (gtTrailsSnapshot now w) [], normalizeHexKey solve.2.adsbHex = "" := by
    intro solve listed
    exact only.unnamed solve ((solveOrder_perm lib now w _ _).mem_iff.mp listed)
  have assigned := assign_eq_serve lib (snapshot_distinct now w) (List.nil_subset _) unnamed
  unfold refreshMlatVerification
  simp only [only.pool, List.isEmpty_nil, Bool.and_true]
  cases snapshot : (gtTrailsSnapshot now w).isEmpty with
  | false => exact assigned
  | true =>
    have empty : served lib now w = [] := by
      apply List.eq_nil_iff_forall_not_mem.mpr
      rintro ⟨solve, trail⟩ held
      have listed := (ClosestFirst.serve_mem held).2.1
      rw [List.isEmpty_iff.mp snapshot] at listed
      cases listed
    rw [empty]
    rfl

theorem served_oneToOne (now : ℚ) (w : World) : ClosestFirst.OneToOne (served lib now w) := by
  apply ClosestFirst.serve_oneToOne
  exact (solveOrder_perm lib now w _ _).nodup_iff.mpr (freshSolves_distinct now w).of_map

/-- The solves that a trail may be given to, as the loop has them. -/
def Pairable (now : ℚ) (w : World) (solve : String × Solve) (trail : GtTrail) : Prop :=
  solve ∈ solveOrder lib now w (gtTrailsSnapshot now w) [] ∧ trail ∈ gtTrailsSnapshot now w ∧ eligible lib solve trail = true

theorem served_solve {now : ℚ} {w : World} (held : pair ∈ served lib now w) (listed : solve ∈ freshSolves now w)
    (same : pair.1.1 = solve.1) : pair.1 = solve := by
  have fresh := (solveOrder_perm lib now w _ _).mem_iff.mp (ClosestFirst.serve_mem held).1
  exact List.inj_on_of_nodup_map (freshSolves_distinct now w) fresh listed same

theorem served_trail {now : ℚ} {w : World} (held : pair ∈ served lib now w) (listed : trail ∈ gtTrailsSnapshot now w)
    (same : pair.2.hex = trail.hex) : pair.2 = trail :=
  List.inj_on_of_nodup_map (snapshot_distinct now w) (ClosestFirst.serve_mem held).2.1 listed same

theorem solveKeys_distinct {now : ℚ} {w : World} (only : OnlyTrails now w) :
    ((refreshMlatVerification lib now w).found.map Match.solveKey).Nodup := by
  have keys := (served_oneToOne lib now w).rows.map_on (f := Prod.fst) fun solve listed solve' listed' same => ?_
  · rw [found_eq lib only, List.map_map]
    rwa [List.map_map] at keys
  · obtain ⟨pair, held, rfl⟩ := List.mem_map.mp listed
    obtain ⟨pair', held', rfl⟩ := List.mem_map.mp listed'
    have fresh := (solveOrder_perm lib now w _ _).mem_iff.mp (ClosestFirst.serve_mem held').1
    exact served_solve lib held fresh same

theorem truthHexes_distinct {now : ℚ} {w : World} (only : OnlyTrails now w) :
    ((refreshMlatVerification lib now w).found.map fun m => m.truth.hex).Nodup := by
  have hexes := (served_oneToOne lib now w).cols.map_on (f := GtTrail.hex) fun trail listed trail' listed' same => ?_
  · rw [found_eq lib only, List.map_map]
    rwa [List.map_map] at hexes
  · obtain ⟨pair, held, rfl⟩ := List.mem_map.mp listed
    obtain ⟨pair', held', rfl⟩ := List.mem_map.mp listed'
    exact served_trail lib held (ClosestFirst.serve_mem held').2.1 same

/-- What a pair is closer than may be read off the matches. -/
theorem closestMatched_iff_stable {now : ℚ} {w : World} (only : OnlyTrails now w) :
    ClosestMatched lib now w ↔ ClosestFirst.Stable (Pairable lib now w) (pairKm lib) (served lib now w) := by
  have found := found_eq lib only
  have order := solveOrder_perm lib now w (gtTrailsSnapshot now w) []
  constructor
  · rintro ⟨-, -, unblocked⟩ solve trail ⟨⟨listed, trailed, fits⟩, row, col⟩
    have fresh := order.mem_iff.mp listed
    apply unblocked solve fresh trail trailed fits
    rw [found]
    constructor
    · intro m member same
      obtain ⟨pair, held, rfl⟩ := List.mem_map.mp member
      obtain rfl := served_solve lib held fresh same
      exact row pair.2 held
    · intro m member same
      obtain ⟨pair, held, rfl⟩ := List.mem_map.mp member
      obtain rfl := served_trail lib held trailed same
      exact col pair.1 held
  · intro stable
    refine ⟨solveKeys_distinct lib only, truthHexes_distinct lib only, ?_⟩
    rintro solve fresh trail trailed fits ⟨row, col⟩
    rw [found] at row col
    apply stable solve trail
    refine ⟨⟨order.mem_iff.mpr fresh, trailed, fits⟩, ?_, ?_⟩
    · intro own held
      exact row _ (List.mem_map_of_mem held) rfl
    · intro other held
      exact col _ (List.mem_map_of_mem held) rfl

/-- Every truth goes to its closest solve exactly when some assignment that takes the closest pair first, again and again, goes by
the order of the turns: no solve is closer in it to a truth of a later solve, or of none, than to its own. -/
theorem closestMatched_iff {now : ℚ} {w : World} (only : OnlyTrails now w) :
    ClosestMatched lib now w ↔
      ∃ pairs, ClosestFirst.Made (pairKm lib) (Pairable lib now w) pairs ∧
        ClosestFirst.InTurn (eligible lib) (pairKm lib) (gtTrailsSnapshot now w) (solveOrder lib now w (gtTrailsSnapshot now w) []) pairs := by
  rw [closestMatched_iff_stable lib only]
  apply ClosestFirst.stable_serve_iff
  · exact (solveOrder_perm lib now w _ _).nodup_iff.mpr (freshSolves_distinct now w).of_map
  · exact (snapshot_distinct now w).of_map

/-! ### Two aircraft on one meridian -/

def alongMeridian : Lib where
  geo := Multinode.meridian
  sqrt := fun _ => 0

def seenAt (lat : ℚ) : List TrailPoint := [⟨lat, 8, 10000, 990⟩]

def solvedAt (lat : ℚ) : Solve := { lat, lon := 8, timestampMs := 990000, altM := some 10000 }

/-- Two cycles of one aircraft. -/
def twoCycles : World where
  trails := Dict.ofList [("a1", seenAt 50)]
  tracks := Dict.ofList [("mn-2", solvedAt (5002 / 100)), ("mn-1", solvedAt (5001 / 100))]

/-- Two cycles of one aircraft, and one of another 11 km north of it. -/
def threeCycles : World where
  trails := Dict.ofList [("a1", seenAt 50), ("b2", seenAt (501 / 10))]
  tracks := Dict.ofList [("mn-1", solvedAt (5001 / 100)), ("mn-2", solvedAt (5002 / 100)), ("mn-3", solvedAt (5015 / 100))]

theorem closestMatched_twoCycles : ClosestMatched alongMeridian 1000 twoCycles := by
  have order : solveOrder alongMeridian 1000 twoCycles (gtTrailsSnapshot 1000 twoCycles) [] =
      [("mn-1", solvedAt (5001 / 100)), ("mn-2", solvedAt (5002 / 100))] := by
    decide +kernel
  have trails : gtTrailsSnapshot 1000 twoCycles = [⟨"a1", ⟨50, 8, 10000, 990⟩, [], {}⟩] := by
    decide +kernel
  apply (closestMatched_iff alongMeridian ⟨by decide +kernel, rfl⟩).mpr
  refine ⟨[(("mn-1", solvedAt (5001 / 100)), ⟨"a1", ⟨50, 8, 10000, 990⟩, [], {}⟩)], .take ?_ ?_ (.done ?_), ?_⟩
  · exact ⟨by decide +kernel, by decide +kernel, by decide +kernel⟩
  · rintro solve trail ⟨listed, trailed, -⟩
    rw [order] at listed
    rw [trails] at trailed
    obtain rfl := List.mem_singleton.mp trailed
    revert solve
    decide +kernel
  · rintro solve trail ⟨⟨-, trailed, -⟩, -, other⟩
    rw [trails] at trailed
    exact other (List.mem_singleton.mp trailed)
  · intro solve listed trail trailed _ preferred
    rw [order] at listed ⊢
    rw [trails] at trailed
    obtain rfl := List.mem_singleton.mp trailed
    rcases List.mem_cons.mp listed with rfl | listed
    · rcases preferred _ (List.mem_singleton.mpr rfl) with closer | ⟨-, before⟩
      · exact absurd closer (lt_irrefl _)
      · rw [trails] at before
        exact absurd before.length_le (by decide)
    · obtain rfl := List.mem_singleton.mp listed
      exact ⟨("mn-1", solvedAt (5001 / 100)), List.mem_singleton.mpr rfl, List.Sublist.refl _⟩

/-- The second cycle of the first aircraft takes the other aircraft's truth, which is 8.88 km away, and the solve 5.55 km from it
is left without. -/
theorem later_cycle_is_closer : OnlyTrails 1000 threeCycles ∧ ¬ ClosestMatched alongMeridian 1000 threeCycles := by
  refine ⟨⟨by decide +kernel, rfl⟩, fun matched => ?_⟩
  apply matched.unblocked ("mn-3", solvedAt (5015 / 100)) (by decide +kernel) ⟨"b2", ⟨501 / 10, 8, 10000, 990⟩, [], {}⟩ (by decide +kernel)
    (by decide +kernel)
  decide +kernel

end Retina.Mlat
