import RetinaServer.Frames.NodeTracks

/-! What becomes of a closed track while frames go on naming it. -/
namespace Retina.Frames
open Runs

variable {node : Option TrackedNode} {key : TrackKey} {track : NodeTrack}

/-- The frame has a readable track of this run and id. -/
def Names (key : TrackKey) (frame : ClaimedFrame) : Prop := filedFor key frame.1 frame.2 ≠ []

instance (key : TrackKey) (frame : ClaimedFrame) : Decidable (Names key frame) :=
  inferInstanceAs (Decidable (filedFor key frame.1 frame.2 ≠ []))

/-- One of the frame's tracks under the key is deleted. -/
def Deletes (key : TrackKey) (frame : ClaimedFrame) : Prop :=
  ∃ filing ∈ filedFor key frame.1 frame.2, filing.update.state = .deleted

instance (key : TrackKey) (frame : ClaimedFrame) : Decidable (Deletes key frame) :=
  inferInstanceAs (Decidable (∃ filing ∈ filedFor key frame.1 frame.2, filing.update.state = .deleted))

/-- The time of the newest frame to name the key. -/
def lastNaming (key : TrackKey) (frames : List ClaimedFrame) : Option ℤ :=
  ((frames.filter fun frame => decide (Names key frame)).getLast?).map fun frame => frame.1.nowMs

/-- Each frame that names the key comes within STALE_TRACK_S of the one before it. -/
def KeepsNaming (key : TrackKey) (before frames : List ClaimedFrame) : Prop :=
  ∀ first frame rest, frames = first ++ frame :: rest → Names key frame →
    ∀ last ∈ lastNaming key (before ++ first), frame.1.nowMs - last ≤ forgetMs

theorem keepsNaming_cons (key : TrackKey) (before : List ClaimedFrame) (frame : ClaimedFrame)
    (rest : List ClaimedFrame) :
    KeepsNaming key before (frame :: rest) ↔
      (Names key frame → ∀ last ∈ lastNaming key before, frame.1.nowMs - last ≤ forgetMs) ∧
        KeepsNaming key (before ++ [frame]) rest := by
  constructor
  · intro keeps
    refine ⟨by simpa using keeps [] frame rest rfl, ?_⟩
    intro first next later split
    have shifted := keeps (frame :: first) next later (by rw [split, List.cons_append])
    simpa using shifted
  · rintro ⟨here, later⟩ first next after split
    cases first with
    | nil =>
      obtain ⟨rfl, -⟩ := List.cons.inj split
      simpa using here
    | cons first firsts =>
      obtain ⟨rfl, tail⟩ := List.cons.inj split
      have shifted := later firsts next after tail
      simpa using shifted

instance decidableKeepsNaming (key : TrackKey) : ∀ before frames, Decidable (KeepsNaming key before frames)
  | _, [] => isTrue fun first _ _ split => by cases first <;> simp at split
  | before, frame :: rest =>
      haveI := decidableKeepsNaming key (before ++ [frame]) rest
      decidable_of_iff' _ (keepsNaming_cons key before frame rest)

theorem KeepsNaming.prefix_of (keeps : KeepsNaming key before (first ++ second)) : KeepsNaming key before first := by
  intro start frame rest split
  exact keeps start frame (rest ++ second) (by simp [split])

theorem KeepsNaming.suffix_of (keeps : KeepsNaming key before (first ++ second)) :
    KeepsNaming key (before ++ first) second := by
  intro start frame rest split
  rw [List.append_assoc]
  exact keeps (first ++ start) frame rest (by simp [split])

/-! ### One frame -/

theorem fileAll_opened (keyRun : String) (track : NodeTrack) (opened : track.closed = none)
    (recent : track.lastNamedMs = nowMs) (filings : List Filing) :
    ∃ filed, fileAll keyRun nowMs (some track) filings = some filed ∧ filed.lastNamedMs = nowMs ∧
      (filed.closed.isSome ↔ ∃ filing ∈ filings, filing.update.state = .deleted) := by
  induction filings generalizing track with
  | nil => exact ⟨track, rfl, recent, by simp [opened]⟩
  | cons filing rest ih =>
    have filedOnce : fileTrack keyRun nowMs (some track) filing = track.apply nowMs filing := by
      simp [fileTrack, opened]
    obtain ⟨-, -, named, closed⟩ := apply_keeps nowMs track filing
    simp only [fileAll, List.foldl_cons, filedOnce]
    by_cases deleted : filing.update.state = .deleted
    · have isClosed : (track.apply nowMs filing).closed.isSome := by simp [closed, deleted]
      exact ⟨_, fileAll_closed isClosed rest, named, by simp [isClosed, deleted]⟩
    · have still : (track.apply nowMs filing).closed = none := by simp [closed, deleted, opened]
      obtain ⟨filed, result, last, closes⟩ := ih (track.apply nowMs filing) still named
      exact ⟨filed, result, last, by simp [closes, deleted]⟩

/-- The first frame to name an absent key makes its record anew. -/
theorem named_ingest (absent : trackOf node key = none) (named : Names key frame) :
    ∃ track, trackOf (ingest node frame.1 frame.2) key = some track ∧ (track.closed.isSome ↔ Deletes key frame) := by
  simp only [Names] at named
  obtain ⟨filing, rest, filed⟩ := List.exists_cons_of_ne_nil named
  obtain ⟨track, result, last, closes⟩ := fileAll_opened key.1
    { run := key.1, id := filing.update.id, lastNamedMs := frame.1.nowMs } rfl rfl (filing :: rest)
  have fresh : isFresh frame.1.nowMs track = true := by
    simp only [isFresh, last, sub_self, decide_eq_true_eq]
    decide
  refine ⟨track, ?_, by rw [closes, Deletes, filed]⟩
  rw [trackOf_ingest, absent, settledFor, Option.map_none, ite_self, filed, Option.filter_eq_some_iff]
  exact ⟨result, fresh⟩

theorem isFresh_eq_false (expired : forgetMs < nowMs - track.lastNamedMs) : isFresh nowMs track = false :=
  decide_eq_false (not_le.mpr expired)

/-- A closed record is not touched by what names it, only by the clock. -/
theorem closed_ingest_cases (found : trackOf node key = some track) (closed : track.closed.isSome)
    (frame : ClaimedFrame) :
    trackOf (ingest node frame.1 frame.2) key = some track ∨
      trackOf (ingest node frame.1 frame.2) key = none ∧ forgetMs < frame.1.nowMs - track.lastNamedMs := by
  rw [closed_ingest found closed]
  by_cases fresh : frame.1.nowMs - track.lastNamedMs ≤ forgetMs
  · exact Or.inl (by simp [isFresh, fresh])
  · have expired := lt_of_not_ge fresh
    exact Or.inr ⟨by simp [isFresh_eq_false expired], expired⟩

theorem absent_run (absent : trackOf (after before) key = none) (unnamed : ∀ frame ∈ gap, ¬ Names key frame) :
    trackOf (after (before ++ gap)) key = none := by
  induction gap using List.reverseRecOn with
  | nil => simpa using absent
  | append_singleton gap frame ih =>
    have earlier := ih fun other member => unnamed other (List.mem_append_left _ member)
    have quiet : filedFor key frame.1 frame.2 = [] := not_not.mp (unnamed frame (by simp))
    rw [← List.append_assoc, after_concat]
    exact absent_ingest earlier quiet

/-! ### Runs -/

/-- Once closed, the key is not open again while frames keep naming it. -/
def Terminal (key : TrackKey) (frames : List ClaimedFrame) : Prop :=
  ∀ before middle rest, frames = before ++ middle ++ rest → Closed (after before) key →
    KeepsNaming key before middle → ¬ Open (after (before ++ middle)) key

/-- The record of a closed track, last written to before it closed, is out of
date at one frame, and the next frame to name the track has it alive: all this
while the track is named at gaps of at most STALE_TRACK_S. -/
structure OutlivesRecord (key : TrackKey) (before : List ClaimedFrame) (late : ClaimedFrame)
    (gap : List ClaimedFrame) (opening : ClaimedFrame) : Prop where
  expired : ∃ track, trackOf (after before) key = some track ∧ track.closed.isSome ∧
    forgetMs < late.1.nowMs - track.lastNamedMs
  unnamed : ∀ frame ∈ gap, ¬ Names key frame
  named : Names key opening
  alive : ¬ Deletes key opening
  keeps : KeepsNaming key before (late :: gap ++ [opening])

theorem OutlivesRecord.reopens (outlives : OutlivesRecord key before late gap opening) :
    Open (after (before ++ (late :: gap ++ [opening]))) key := by
  obtain ⟨track, found, closed, expired⟩ := outlives.expired
  have forgotten : trackOf (after (before ++ [late])) key = none := by
    rw [after_concat, closed_ingest found closed]
    simp [isFresh_eq_false expired]
  have absent := absent_run forgotten outlives.unnamed
  obtain ⟨opened, result, closes⟩ := named_ingest absent outlives.named
  refine ⟨opened, ?_, ?_⟩
  · rw [show before ++ (late :: gap ++ [opening]) = (before ++ [late] ++ gap) ++ [opening] by simp, after_concat]
    exact result
  · have notClosed := mt closes.mp outlives.alive
    simpa using notClosed

theorem not_open_of_remembered (remembered : ∀ before late gap opening rest,
      frames = before ++ late :: gap ++ opening :: rest → ¬ OutlivesRecord key before late gap opening)
    (split : frames = before ++ middle ++ rest) (closed : Closed (after before) key)
    (keeps : KeepsNaming key before middle) : ¬ Open (after (before ++ middle)) key := by
  -- the record stands, or is forgotten and made anew later on: less is left of the run either way
  induction length : middle.length using Nat.strong_induction_on generalizing before middle with
  | _ n ih =>
    subst length
    cases middle with
    | nil => simpa using not_open_of_closed closed
    | cons late middle =>
      obtain ⟨track, found, isClosed⟩ := closed
      have shorter : before ++ late :: middle = (before ++ [late]) ++ middle := by simp
      rcases closed_ingest_cases found isClosed late with stands | ⟨forgotten, expired⟩
      · rw [shorter]
        refine ih middle.length (by simp) (by simpa using split) ⟨track, ?_, isClosed⟩ keeps.suffix_of rfl
        rwa [after_concat]
      · rw [← after_concat] at forgotten
        by_cases named : ∃ frame ∈ middle, Names key frame
        · obtain ⟨gap, opening, later, rfl, unnamed, names⟩ := exists_first named
          have reached : before ++ late :: (gap ++ opening :: later) =
              (before ++ (late :: gap ++ [opening])) ++ later := by simp
          have keepsAll : KeepsNaming key before ((late :: gap ++ [opening]) ++ later) := by simpa using keeps
          have absent := absent_run forgotten unnamed
          obtain ⟨opened, result, closes⟩ := named_ingest absent names
          have recorded : trackOf (after (before ++ (late :: gap ++ [opening]))) key = some opened := by
            rw [show before ++ (late :: gap ++ [opening]) = (before ++ [late] ++ gap) ++ [opening] by simp, after_concat]
            exact result
          by_cases dead : Deletes key opening
          · rw [reached]
            exact ih later.length (by simp; omega) (by simpa using split) ⟨opened, recorded, closes.mpr dead⟩
              keepsAll.suffix_of rfl
          · have outlives : OutlivesRecord key before late gap opening :=
              ⟨⟨track, found, isClosed, expired⟩, unnamed, names, dead, keepsAll.prefix_of⟩
            exact absurd outlives (remembered before late gap opening (later ++ rest) (by simpa using split))
        · have absent := absent_run forgotten fun frame member names => named ⟨frame, member, names⟩
          rw [shorter]
          rintro ⟨opened, present, -⟩
          rw [absent] at present
          simp at present

/-- A closed key is terminal along exactly the runs in which no record of a
closed track is outlived by its track. -/
theorem closed_terminal_iff (key : TrackKey) (frames : List ClaimedFrame) :
    Terminal key frames ↔ ∀ before late gap opening rest, frames = before ++ late :: gap ++ opening :: rest →
      ¬ OutlivesRecord key before late gap opening := by
  constructor
  · intro terminal before late gap opening rest split outlives
    obtain ⟨track, found, closed, -⟩ := outlives.expired
    exact terminal before (late :: gap ++ [opening]) rest (by simp [split]) ⟨track, found, closed⟩ outlives.keeps
      outlives.reopens
  · intro remembered before middle rest split closed keeps
    exact not_open_of_remembered remembered split closed keeps

/-- A frame of one run with a single track. -/
def reportAt (nowMs : ℤ) (state : TrackState) : ClaimedFrame :=
  ({ nowMs, run := some "run", detections := ⟨some [], some [], some [], none, none⟩,
     tracks := [{ id := some "7", state := some state, nAssociated := some 3, nMissed := some 0,
                  isAnomalous := some false, maxVelocityMs := some 0 }] }, ∅)

def closingReport : List ClaimedFrame := [reportAt 0 .deleted]
def laterReports : List ClaimedFrame := [reportAt 100000 .active, reportAt 200000 .active, reportAt 210000 .active]

/-- Deleted at once and reported on for three and a half minutes, at gaps of at
most 100 s: the closed record is forgotten at 200 s and the next report opens
the track again. -/
theorem reported_track_reopens : ¬ ∀ key frames, Terminal key frames := by
  intro terminal
  have closedAtFirst : ((trackOf (after closingReport) ("run", "7")).map NodeTrack.closed) = some (some .deleted) := by
    decide +kernel
  have openAtLast : ((trackOf (after (closingReport ++ laterReports)) ("run", "7")).map NodeTrack.closed) = some none := by
    decide +kernel
  have keeps : KeepsNaming ("run", "7") closingReport laterReports := by decide +kernel
  obtain ⟨record, recorded, isClosed⟩ := Option.map_eq_some_iff.mp closedAtFirst
  obtain ⟨track, found, isOpen⟩ := Option.map_eq_some_iff.mp openAtLast
  exact terminal ("run", "7") (closingReport ++ laterReports) closingReport laterReports [] (by simp)
    ⟨record, recorded, by simp [isClosed]⟩ keeps ⟨track, found, isOpen⟩

end Retina.Frames
