import RetinaServer.Frames.ArchiveBuffer
import RetinaServer.Frames.NodeTracks
import RetinaServer.Library.Machines
import Mathlib.Data.Fintype.EquivFin

/-! Stores of a record for each node that a retirement does not go through: the bias
of its measurements, the frames it has waiting for the archive, its own tracks, and
what it was last seen to detect. -/
namespace Retina.Retirement
open Machines Frames Runs

/-! ### Bias -/

structure BiasSample where
  tsMs : ℤ
  hex : String
  dResUs : ℚ
  fResHz : ℚ
deriving DecidableEq, Repr

structure NodeBiasState where
  window : List BiasSample := []
  ewmaDelay : ℚ := 0
  ewmaDoppler : ℚ := 0
deriving DecidableEq, Repr

def biasAlpha : ℚ := 1 / 10
def biasWindow : Nat := 128
def biasMinSamples : Nat := 12
def biasMinHexes : Nat := 3

/-- The trust score's gates on one sample, and the real square root. -/
structure BiasGates where
  fitDelayUs : ℚ
  fitDopplerHz : ℚ
  sqrt : ℚ → ℚ

/-- The block of a node in the analytics. -/
structure BiasSummary where
  biasDelayUs : ℚ
  biasDopplerHz : ℚ
  mature : Bool
  nSamples : Nat
  nHexes : Nat
  delayStdUs : ℚ
  dopplerStdHz : ℚ
deriving DecidableEq, Repr

inductive BiasEvent where
  | recordClaimResidual (n : String) (sample : BiasSample)
  | getNodeBias (n : String)
  | nodeSummary (n : String)

inductive BiasSight where
  | recorded
  | bias (delayUs dopplerHz : ℚ)
  | summary (block : Option BiasSummary)

def NodeBiasState.push (st : NodeBiasState) (sample : BiasSample) : NodeBiasState where
  window := (st.window ++ [sample]).drop (st.window.length + 1 - biasWindow)
  ewmaDelay := if st.window = [] then sample.dResUs else st.ewmaDelay + biasAlpha * (sample.dResUs - st.ewmaDelay)
  ewmaDoppler := if st.window = [] then sample.fResHz else st.ewmaDoppler + biasAlpha * (sample.fResHz - st.ewmaDoppler)

def recordClaimResidual (n : String) (sample : BiasSample) (store : Dict String NodeBiasState) : Dict String NodeBiasState :=
  if n = "" ∨ sample.hex = "" then store
  else store.insert n (((store.get? n).getD {}).push { sample with hex := normalizeHexKey (some sample.hex) })

def mean (xs : List ℚ) : ℚ := xs.sum / xs.length

section
variable (gates : BiasGates)

def std (xs : List ℚ) : ℚ := if xs = [] then 0 else gates.sqrt (mean (xs.map fun x => (x - mean xs) ^ 2))

def windowStd (st : NodeBiasState) : ℚ × ℚ :=
  (std gates (st.window.map BiasSample.dResUs), std gates (st.window.map BiasSample.fResHz))

def biasMature (st : NodeBiasState) : Bool :=
  decide (biasMinSamples ≤ st.window.length ∧ biasMinHexes ≤ (st.window.map BiasSample.hex).toFinset.card ∧
    (windowStd gates st).1 / gates.sqrt st.window.length ≤ gates.fitDelayUs / 4 ∧
    (windowStd gates st).2 / gates.sqrt st.window.length ≤ gates.fitDopplerHz / 4)

def getNodeBias (store : Dict String NodeBiasState) (n : String) : ℚ × ℚ :=
  match (store.get? n).filter (biasMature gates) with
  | none => (0, 0)
  | some st => (st.ewmaDelay, st.ewmaDoppler)

def nodeSummary (store : Dict String NodeBiasState) (n : String) : Option BiasSummary :=
  (store.get? n).map fun st =>
    { biasDelayUs := Rounding.roundTo 3 st.ewmaDelay
      biasDopplerHz := Rounding.roundTo 2 st.ewmaDoppler
      mature := biasMature gates st
      nSamples := st.window.length
      nHexes := (st.window.map BiasSample.hex).toFinset.card
      delayStdUs := Rounding.roundTo 3 (windowStd gates st).1
      dopplerStdHz := Rounding.roundTo 2 (windowStd gates st).2 }

def bias : Machine (Dict String NodeBiasState) BiasEvent BiasSight where
  step store
    | .recordClaimResidual n sample => recordClaimResidual n sample store
    | .getNodeBias _ | .nodeSummary _ => store
  shown store
    | .recordClaimResidual _ _ => .recorded
    | .getNodeBias n => .bias (getNodeBias gates store n).1 (getNodeBias gates store n).2
    | .nodeSummary n => .summary (nodeSummary gates store n)

theorem bias_alike_iff (store : Dict String NodeBiasState) (n : String) :
    Alike (bias gates) (fun _ => True) store (store.erase n) ↔ store.get? n = none := by
  constructor
  · intro alike
    have same := alike.shown (e := .nodeSummary n) trivial
    simp only [bias, nodeSummary, Dict.get?_erase_self, Option.map_none, BiasSight.summary.injEq] at same
    exact Option.map_eq_none_iff.mp same
  · intro absent
    rw [Dict.erase_of_absent absent]
    exact Alike.refl store

end

/-! ### The archive -/

/-- A flush or a reclaim runs to its end before the next event. -/
inductive ArchiveEvent (F : Type u) where
  | appended (n : String) (frame : F)
  | flushed (n : String) (ok : Bool) (now : ℚ)
  | reclaimed (now : ℚ) (connected : List String)

/-- The frames that are written, and the ones that a warning counts as dropped. -/
structure ArchiveSight (F : Type u) where
  written : List (String × F)
  warnings : List (String × Nat)

section
variable {F : Type u} (archiveBufferFailTtlS : ℚ)

def ArchiveEvent.steps : ArchiveEvent F → List (ArchiveStep Unit F)
  | .appended n frame => [.append n frame]
  | .flushed n ok now => [.beginFlush () n, .releaseEmpty (), .write () ok, .finishFlush () now]
  | .reclaimed now connected => [.findExpired () now, .readLive () connected, .abandon ()]

def archiveAfter (s : Archive Unit F) (e : ArchiveEvent F) : Archive Unit F :=
  run (archiveStep archiveBufferFailTtlS) s e.steps

def archive : Machine (Archive Unit F) (ArchiveEvent F) (ArchiveSight F) where
  step := archiveAfter archiveBufferFailTtlS
  shown s e :=
    let after := archiveAfter archiveBufferFailTtlS s e
    ⟨after.written.drop s.written.length, after.warnings.drop s.warnings.length⟩

def unseenArchive (n : String) (s : Archive Unit F) : Archive Unit F :=
  { s with buffer := s.buffer.erase n, failSince := s.failSince.erase n }

/-- A buffer that is there has frames, and only one that is there has failed. -/
structure SoundBuffers (s : Archive Unit F) : Prop where
  filled : ∀ n, s.buffer.get? n ≠ some []
  failing : ∀ n, (s.failSince.get? n).isSome = true → (s.buffer.get? n).isSome = true

/-- Between events nobody is at work. -/
structure SoundArchive (s : Archive Unit F) : Prop extends SoundBuffers s where
  idle : s.threads () = .idle
  free : s.inflight = ∅

theorem soundArchive_empty : SoundArchive (Archive.empty : Archive Unit F) := by
  refine ⟨⟨fun n found => ?_, fun n found => ?_⟩, rfl, rfl⟩
  · cases found
  · cases found

/-- A flush that finds no frames leaves the archive as it was. -/
theorem flushed_of_nil {s : Archive Unit F} (sound : SoundArchive s) (waiting : bufferOf s n = []) (ok : Bool) (now : ℚ) :
    ∃ threads : Unit → Activity F, threads () = .idle ∧
      archiveAfter archiveBufferFailTtlS s (.flushed n ok now) = { s with threads } := by
  refine ⟨Function.update s.threads () .idle, Function.update_self _ _ _, ?_⟩
  simp only [archiveAfter, ArchiveEvent.steps, run_cons, run_nil, archiveStep, sound.idle, sound.free, waiting]
  simp [setActivity, sound.free]

/-- A flush writes what waits and drops it, or keeps it and notes that it failed. -/
theorem flushed_of_cons {s : Archive Unit F} (sound : SoundArchive s) (waiting : bufferOf s n = frame :: frames)
    (ok : Bool) (now : ℚ) :
    ∃ threads : Unit → Activity F, threads () = .idle ∧
      archiveAfter archiveBufferFailTtlS s (.flushed n ok now) =
        if ok then truncateBuffer { s with
            threads
            written := s.written ++ (frame :: frames).map fun f => (n, f)
            failSince := s.failSince.erase n } n (frames.length + 1)
        else capBuffer archiveBufferHardCap { s with
            threads
            failSince := s.failSince.insert n ((s.failSince.get? n).getD now) } n := by
  refine ⟨Function.update s.threads () .idle, Function.update_self _ _ _, ?_⟩
  simp only [archiveAfter, ArchiveEvent.steps, run_cons, run_nil, archiveStep, sound.idle, sound.free, waiting]
  cases ok with
  | true => simp [setActivity, endFlush, sound.free]
  | false => simp [setActivity, endFlush, sound.free]

theorem sound_append {s : Archive Unit F} (sound : SoundArchive s) (n : String) (frame : F) :
    SoundArchive (archiveAfter archiveBufferFailTtlS s (.appended n frame)) := by
  refine ⟨⟨?_, ?_⟩, sound.idle, sound.free⟩
  · intro m
    simp only [archiveAfter, ArchiveEvent.steps, run_cons, run_nil, archiveStep, Dict.get?_insert]
    split
    · simp
    · exact sound.filled m
  · intro m failed
    simp only [archiveAfter, ArchiveEvent.steps, run_cons, run_nil, archiveStep, Dict.get?_insert] at failed ⊢
    split
    · rfl
    · exact sound.failing m failed

theorem sound_truncate {s : Archive Unit F} (sound : SoundBuffers s) (calm : s.failSince.get? n = none) (nWritten : Nat) :
    SoundBuffers (truncateBuffer s n nWritten) := by
  refine ⟨?_, ?_⟩
  · intro m
    simp only [truncateBuffer]
    split
    · rw [Dict.get?_erase]
      split
      · simp
      · exact sound.filled m
    · rename_i rest
      rw [Dict.get?_insert]
      split
      · intro empty
        rw [Option.some.inj empty] at rest
        exact rest rfl
      · exact sound.filled m
  · intro m failed
    have other : n ≠ m := by
      rintro rfl
      simp only [truncateBuffer, calm, Option.isSome_none, Bool.false_eq_true] at failed
    have still := sound.failing m failed
    simp only [truncateBuffer]
    split
    · rwa [Dict.get?_erase_ne _ other]
    · rwa [Dict.get?_insert_ne _ _ other]

theorem sound_cap {s : Archive Unit F} (sound : SoundBuffers s) (n : String) :
    SoundBuffers (capBuffer archiveBufferHardCap s n) := by
  simp only [capBuffer]
  split
  · refine ⟨?_, ?_⟩
    · intro m
      rw [Dict.get?_insert]
      split
      · intro empty
        have gone := List.drop_eq_nil_iff.mp (Option.some.inj empty)
        have positive : 0 < archiveBufferHardCap := by decide
        omega
      · exact sound.filled m
    · intro m failed
      rw [Dict.get?_insert]
      split
      · rfl
      · exact sound.failing m failed
  · exact sound

theorem sound_flush {s : Archive Unit F} (sound : SoundArchive s) (n : String) (ok : Bool) (now : ℚ) :
    SoundArchive (archiveAfter archiveBufferFailTtlS s (.flushed n ok now)) := by
  cases waiting : bufferOf s n with
  | nil =>
    obtain ⟨threads, idle, after⟩ := flushed_of_nil archiveBufferFailTtlS sound waiting ok now
    rw [after]
    exact ⟨⟨sound.filled, sound.failing⟩, idle, sound.free⟩
  | cons frame frames =>
    obtain ⟨threads, idle, after⟩ := flushed_of_cons archiveBufferFailTtlS sound waiting ok now
    have held : (s.buffer.get? n).isSome = true := by
      cases found : s.buffer.get? n with
      | none =>
        rw [bufferOf, found] at waiting
        cases waiting
      | some frames => rfl
    rw [after]
    split
    · have written : SoundBuffers { s with
          threads
          written := s.written ++ (frame :: frames).map fun f => (n, f)
          failSince := s.failSince.erase n } := by
        refine ⟨sound.filled, fun m failed => ?_⟩
        simp only [Dict.get?_erase] at failed
        split at failed
        · cases failed
        · exact sound.failing m failed
      have truncated := sound_truncate written (Dict.get?_erase_self s.failSince n) (frames.length + 1)
      refine ⟨truncated, ?_, ?_⟩
      · simp only [truncateBuffer]
        exact idle
      · simp only [truncateBuffer]
        exact sound.free
    · have noted : SoundBuffers { s with
          threads
          failSince := s.failSince.insert n ((s.failSince.get? n).getD now) } := by
        refine ⟨sound.filled, fun m failed => ?_⟩
        simp only [Dict.get?_insert] at failed
        split at failed
        · rename_i same
          exact same ▸ held
        · exact sound.failing m failed
      refine ⟨sound_cap noted n, ?_, ?_⟩
      · simp only [capBuffer]
        split <;> exact idle
      · simp only [capBuffer]
        split <;> exact sound.free

theorem sound_abandonNodes {s : Archive Unit F} (sound : SoundBuffers s) (live expired : List String) :
    SoundBuffers (expired.foldl (abandonNode live) s) ∧ (expired.foldl (abandonNode live) s).inflight = s.inflight := by
  induction expired generalizing s with
  | nil => exact ⟨sound, rfl⟩
  | cons n rest ih =>
    have abandoned : SoundBuffers (abandonNode live s n) := by
      simp only [abandonNode]
      split
      · exact sound
      · refine ⟨fun m => ?_, fun m failed => ?_⟩
        · rw [Dict.get?_erase]
          split
          · simp
          · exact sound.filled m
        · simp only [Dict.get?_erase] at failed ⊢
          split at failed
          · cases failed
          · rename_i other
            rw [if_neg other]
            exact sound.failing m failed
    obtain ⟨kept, free⟩ := ih abandoned
    exact ⟨kept, free.trans (abandonNode_threads live s n).2⟩

/-- A reclaim that finds no node whose writes have failed for too long changes nothing, and one that does gives them up. -/
theorem reclaimed_cases {s : Archive Unit F} (sound : SoundArchive s) (now : ℚ) (connected : List String) :
    archiveAfter archiveBufferFailTtlS s (.reclaimed now connected) = s ∨
      ∃ (threads : Unit → Activity F) (expired : List String),
        archiveAfter archiveBufferFailTtlS s (.reclaimed now connected) =
          setActivity (expired.foldl (abandonNode connected) { s with threads }) () .idle := by
  simp only [archiveAfter, ArchiveEvent.steps, run_cons, run_nil, archiveStep, sound.idle]
  generalize (s.failSince.filter fun _ since => decide (archiveBufferFailTtlS < now - since)).keys = expired
  by_cases none_ : expired = []
  · left
    simp [none_, sound.idle]
  · right
    refine ⟨Function.update (Function.update s.threads () (.reclaiming expired none)) ()
      (.reclaiming expired (some connected)), expired, ?_⟩
    simp [none_, setActivity]

theorem sound_reclaim {s : Archive Unit F} (sound : SoundArchive s) (now : ℚ) (connected : List String) :
    SoundArchive (archiveAfter archiveBufferFailTtlS s (.reclaimed now connected)) := by
  rcases reclaimed_cases archiveBufferFailTtlS sound now connected with after | ⟨threads, expired, after⟩
  · rw [after]
    exact sound
  · have started : SoundBuffers { s with threads } := ⟨sound.filled, sound.failing⟩
    obtain ⟨kept, inflight⟩ := sound_abandonNodes started connected expired
    rw [after]
    exact ⟨⟨kept.filled, kept.failing⟩, by simp [setActivity], inflight.trans sound.free⟩

theorem sound_archive {s : Archive Unit F} (sound : SoundArchive s) (e : ArchiveEvent F) :
    SoundArchive ((archive archiveBufferFailTtlS).step s e) := by
  cases e with
  | appended n frame => exact sound_append archiveBufferFailTtlS sound n frame
  | flushed n ok now => exact sound_flush archiveBufferFailTtlS sound n ok now
  | reclaimed now connected => exact sound_reclaim archiveBufferFailTtlS sound now connected

theorem shown_flushed_of_nil {s : Archive Unit F} (sound : SoundArchive s) (waiting : bufferOf s n = []) :
    ((archive archiveBufferFailTtlS).shown s (.flushed n true 0)).written = [] := by
  obtain ⟨threads, -, after⟩ := flushed_of_nil archiveBufferFailTtlS sound waiting true 0
  simp only [archive, after, List.drop_length]

theorem shown_flushed_of_cons {s : Archive Unit F} (sound : SoundArchive s) (waiting : bufferOf s n = frame :: frames) :
    ((archive archiveBufferFailTtlS).shown s (.flushed n true 0)).written = (frame :: frames).map fun f => (n, f) := by
  obtain ⟨threads, -, after⟩ := flushed_of_cons archiveBufferFailTtlS sound waiting true 0
  simp only [archive, after, if_true, truncateBuffer, List.drop_left]

theorem sound_unseenArchive {s : Archive Unit F} (sound : SoundArchive s) (n : String) : SoundArchive (unseenArchive n s) := by
  refine ⟨⟨fun m => ?_, fun m failed => ?_⟩, sound.idle, sound.free⟩
  · simp only [unseenArchive, Dict.get?_erase]
    split
    · simp
    · exact sound.filled m
  · simp only [unseenArchive, Dict.get?_erase] at failed ⊢
    split at failed
    · cases failed
    · rename_i other
      rw [if_neg other]
      exact sound.failing m failed

theorem archive_alike_iff {s : Archive Unit F} (sound : SoundArchive s) (n : String) :
    Alike (archive archiveBufferFailTtlS) (fun _ => True) s (unseenArchive n s) ↔ s.buffer.get? n = none := by
  constructor
  · intro alike
    have same := congrArg ArchiveSight.written (alike.shown (e := .flushed n true 0) trivial)
    have gone : bufferOf (unseenArchive n s) n = [] := by
      simp only [bufferOf, unseenArchive, Dict.get?_erase_self, Option.getD_none]
    rw [shown_flushed_of_nil archiveBufferFailTtlS (sound_unseenArchive sound n) gone] at same
    cases waiting : bufferOf s n with
    | nil =>
      cases found : s.buffer.get? n with
      | none => rfl
      | some frames =>
        rw [bufferOf, found, Option.getD_some] at waiting
        exact absurd (waiting ▸ found) (sound.filled n)
    | cons frame frames =>
      rw [shown_flushed_of_cons archiveBufferFailTtlS sound waiting] at same
      cases same
  · intro absent
    have calm : s.failSince.get? n = none := by
      by_contra failing
      have held := sound.failing n (Option.ne_none_iff_isSome.mp failing)
      rw [absent] at held
      cases held
    have equal : unseenArchive n s = s := by
      simp only [unseenArchive, Dict.erase_of_absent absent, Dict.erase_of_absent calm]
    rw [equal]
    exact Alike.refl s

end

/-! ### The nodes' own tracks -/

structure TrackSummary where
  nodesSending : Nat
  opened : Nat
  closed : Nat
  claimed : Nat
  points : Nat
deriving DecidableEq, Repr

def summary (store : Dict String TrackedNode) : TrackSummary :=
  let tracks := store.values.flatMap fun node => node.tracks.values
  { nodesSending := store.values.countP fun node => node.run.isSome
    opened := tracks.countP fun track => track.closed.isNone
    closed := tracks.countP fun track => track.closed.isSome
    claimed := tracks.countP fun track => track.closed.isNone && !track.window.isEmpty && decide (track.unclaimed = 0)
    points := (tracks.map fun track => track.window.length).sum }

inductive TrackEvent where
  | ingested (n : String) (frame : TrackedFrame) (claimed : Finset Nat)
  | viewed (n : String) (nowMs : ℤ)
  | summarised

inductive TrackSight where
  | refused (count : Nat)
  | views (open_ : List NodeTrackView)
  | summary (counts : TrackSummary)

def storeNode (n : String) (node : Option TrackedNode) (store : Dict String TrackedNode) : Dict String TrackedNode :=
  match node with
  | none => store.erase n
  | some node => store.insert n node

def tracks : Machine (Dict String TrackedNode) TrackEvent TrackSight where
  step store
    | .ingested n frame claimed => storeNode n (ingest (store.get? n) frame claimed) store
    | .viewed _ _ | .summarised => store
  shown store
    | .ingested _ frame claimed => .refused (refused frame claimed)
    | .viewed n nowMs => .views (views n (store.get? n) nowMs)
    | .summarised => .summary (summary store)

/-- A node gets its record from a frame that names a run. -/
def SoundTracks (store : Dict String TrackedNode) : Prop := ∀ n node, store.get? n = some node → node.run.isSome = true

theorem sound_storeNode {store : Dict String TrackedNode} (sound : SoundTracks store) (n : String)
    (node : Option TrackedNode) (running : ∀ node', node = some node' → node'.run.isSome = true) :
    SoundTracks (storeNode n node store) := by
  intro m node' found
  cases node with
  | none =>
    rw [storeNode, Dict.get?_erase] at found
    split at found
    · cases found
    · exact sound m node' found
  | some node =>
    rw [storeNode, Dict.get?_insert] at found
    split at found
    · exact running node' found
    · exact sound m node' found

theorem run_of_ingest {node : Option TrackedNode} (running : ∀ node', node = some node' → node'.run.isSome = true)
    (ingested : ingest node frame claimed = some node') : node'.run.isSome = true := by
  cases named : trackerRun frame with
  | none =>
    simp only [ingest, named] at ingested
    obtain ⟨before, held, kept⟩ := Option.bind_eq_some_iff.mp ingested
    split at kept
    · cases kept
    · rw [← Option.some.inj kept]
      exact running before held
  | some run =>
    simp only [ingest, named, Option.some.injEq] at ingested
    rw [← ingested]
    simp only [startRun]
    split
    · rename_i same
      rw [same]
      rfl
    · rfl

theorem sound_tracks {store : Dict String TrackedNode} (sound : SoundTracks store) (e : TrackEvent) :
    SoundTracks (tracks.step store e) := by
  cases e with
  | viewed n nowMs => exact sound
  | summarised => exact sound
  | ingested n frame claimed =>
    exact sound_storeNode sound n _ fun node' ingested => run_of_ingest (sound n) ingested

theorem tracks_alike_iff {store : Dict String TrackedNode} (sound : SoundTracks store) (n : String) :
    Alike tracks (fun _ => True) store (store.erase n) ↔ store.get? n = none := by
  constructor
  · intro alike
    have same := alike.shown (e := .summarised) trivial
    simp only [tracks, TrackSight.summary.injEq] at same
    have counts := congrArg TrackSummary.nodesSending same
    have erased := Dict.countP_erase store (fun node : TrackedNode => node.run.isSome) n
    simp only [summary] at counts
    cases found : store.get? n with
    | none => rfl
    | some node =>
      rw [found, Option.any_some, if_pos (sound n node found)] at erased
      omega
  · intro absent
    rw [Dict.erase_of_absent absent]
    exact Alike.refl store

/-! ### What a node was last seen to detect -/

def fovDisappearMemoryS : ℚ := 90
def fovEventMaxAdsbAgeS : ℚ := 30
def fovMaxEventsPerNodeCycle : Nat := 5

structure SkyFix where
  lat : Option ℚ
  lon : Option ℚ
  lastSeenMs : ℚ := 0
deriving DecidableEq, Repr

/-- What a pass of the detector reads elsewhere: whether the node is live, its learned field of view over a place, the
aircraft's fixes, and whether the analytics take a negative event at a place. -/
structure Surroundings where
  live : Bool
  fov : Option (ℚ → ℚ → Bool)
  adsbAircraft : String → Option SkyFix
  recordNegativeEvent : ℚ → ℚ → Bool

structure NegativeEvent where
  hex : String
  lat : ℚ
  lon : ℚ
deriving DecidableEq, Repr

/-- Where the node should be detecting the aircraft now. -/
def predictedAt (now : ℚ) (around : Surroundings) (hexCode : String) : Option (ℚ × ℚ) := do
  let fov ← around.fov
  let entry ← around.adsbAircraft hexCode
  let lat ← entry.lat
  let lon ← entry.lon
  if fovEventMaxAdsbAgeS < now - entry.lastSeenMs / 1000 then none
  else if fov lat lon then some (lat, lon) else none

abbrev Detected := Dict String ℚ

def scoreHex (detectedHexes : List String) (now : ℚ) (around : Surroundings) (passed : Detected × List NegativeEvent)
    (item : String × ℚ) : Detected × List NegativeEvent :=
  if item.1 ∈ detectedHexes then passed
  else if fovDisappearMemoryS < now - item.2 then (passed.1.erase item.1, passed.2)
  else if fovMaxEventsPerNodeCycle ≤ passed.2.length then passed
  else match predictedAt now around item.1 with
    | none => passed
    | some (lat, lon) =>
        if around.recordNegativeEvent lat lon then (passed.1.erase item.1, passed.2 ++ [⟨item.1, lat, lon⟩]) else passed

def remember (detectedHexes : List String) (now : ℚ) (memory : Detected) : Detected :=
  detectedHexes.foldl (fun memory hexCode => memory.insert hexCode now) memory

/-- `_refresh_disappearance_detector`, for one node's memory. -/
def refreshDetector (detectedHexes : List String) (now : ℚ) (around : Surroundings) (memory : Detected) :
    Detected × List NegativeEvent :=
  let memory := remember detectedHexes now memory
  if around.live && around.fov.isSome then memory.items.foldl (scoreHex detectedHexes now around) (memory, [])
  else (memory, [])

structure DetectorPass where
  n : String
  now : ℚ
  detectedHexes : List String
  around : Surroundings

def detector : Machine (Dict String Detected) DetectorPass (List NegativeEvent) where
  step store e :=
    store.insert e.n (refreshDetector e.detectedHexes e.now e.around ((store.get? e.n).getD .empty)).1
  shown store e := (refreshDetector e.detectedHexes e.now e.around ((store.get? e.n).getD .empty)).2

/-- Nothing is remembered of the node: an empty memory is as good as none. -/
def SpotlessDetector (n : String) (store : Dict String Detected) : Prop :=
  ((store.get? n).getD .empty).items = []

theorem scored_prefix (detectedHexes : List String) (now : ℚ) (around : Surroundings) (items : List (String × ℚ))
    (passed : Detected × List NegativeEvent) :
    passed.2 <+: (items.foldl (scoreHex detectedHexes now around) passed).2 := by
  induction items generalizing passed with
  | nil => exact List.prefix_rfl
  | cons item rest ih =>
    refine List.IsPrefix.trans ?_ (ih _)
    simp only [scoreHex]
    split
    · exact List.prefix_rfl
    · split
      · exact List.prefix_rfl
      · split
        · exact List.prefix_rfl
        · split
          · exact List.prefix_rfl
          · split
            · exact List.prefix_append _ _
            · exact List.prefix_rfl

/-- A live pass in which every aircraft is where the node should see it. -/
def disappeared (n : String) (t : ℚ) : DetectorPass where
  n := n
  now := t
  detectedHexes := []
  around := ⟨true, some fun _ _ => true, fun _ => some ⟨some 0, some 0, t * 1000⟩, fun _ _ => true⟩

/-- A pass over a node that is not heard from, which has one aircraft left in its tracks. -/
def detected (n hexCode : String) (t : ℚ) : DetectorPass := ⟨n, t, [hexCode], ⟨false, none, fun _ => none, fun _ _ => false⟩⟩

/-- The aircraft that comes first in the memory is scored first. -/
theorem head_disappeared {store : Dict String Detected} (first : ((store.get? n).getD .empty).items = (hexCode, t) :: rest) :
    (detector.shown store (disappeared n t)).head? = some ⟨hexCode, 0, 0⟩ := by
  have predicted : predictedAt t (disappeared n t).around hexCode = some (0, 0) := by
    have fresh : ¬ fovEventMaxAdsbAgeS < t - t * 1000 / 1000 := by
      rw [mul_div_cancel_right₀ t (by norm_num), sub_self]
      decide
    simp only [predictedAt, disappeared, Option.bind_eq_bind, Option.bind_some, fresh, if_false, if_true]
  have recalled : ¬ fovDisappearMemoryS < t - t := by
    rw [sub_self]
    decide
  have scored : scoreHex [] t (disappeared n t).around (((store.get? n).getD .empty), []) (hexCode, t) =
      (((store.get? n).getD .empty).erase hexCode, [⟨hexCode, 0, 0⟩]) := by
    simp only [scoreHex, List.not_mem_nil, if_false, recalled, predicted]
    rfl
  have passes : detector.shown store (disappeared n t) =
      (rest.foldl (scoreHex [] t (disappeared n t).around)
        (((store.get? n).getD .empty).erase hexCode, [⟨hexCode, 0, 0⟩])).2 := by
    rw [← scored, ← List.foldl_cons, ← first]
    rfl
  obtain ⟨more, all⟩ := scored_prefix [] t (disappeared n t).around rest
    (((store.get? n).getD .empty).erase hexCode, [⟨hexCode, 0, 0⟩])
  rw [passes, ← all]
  rfl

theorem step_detected (store : Dict String Detected) (n hexCode : String) (t : ℚ) :
    (((detector.step store (detected n hexCode t)).get? n).getD .empty) = ((store.get? n).getD .empty).insert hexCode t := by
  simp only [detector, detected, Dict.get?_insert_self, Option.getD_some, refreshDetector, remember, List.foldl_cons,
    List.foldl_nil]
  rfl

theorem detector_alike_iff (store : Dict String Detected) (n : String) :
    Alike detector (fun _ => True) store (store.erase n) ↔ SpotlessDetector n store := by
  constructor
  · intro alike
    rw [SpotlessDetector]
    cases left : ((store.get? n).getD .empty).items with
    | nil => rfl
    | cons item rest =>
      -- The aircraft that was remembered keeps its place before one that is detected later.
      obtain ⟨hexCode, last⟩ := item
      obtain ⟨fresh, absent⟩ := Infinite.exists_notMem_finset (((store.get? n).getD .empty).keys.toFinset)
      rw [List.mem_toFinset] at absent
      have other : hexCode ≠ fresh := by
        rintro rfl
        exact absent (by rw [Dict.keys, left]; exact List.mem_cons_self)
      have new := (Dict.get?_eq_none_iff _ fresh).mpr absent
      have after := (alike.step (e := detected n fresh 0) trivial).step (e := detected n hexCode 0) trivial
      have same := congrArg List.head? (after.shown (e := disappeared n 0) trivial)
      have kept : (((detector.step (detector.step store (detected n fresh 0)) (detected n hexCode 0)).get? n).getD
          .empty).items = (hexCode, 0) :: (rest ++ [(fresh, 0)]) := by
        have first := Dict.items_insert_new 0 new
        rw [left, List.cons_append] at first
        rw [step_detected, step_detected]
        show OrderedDict.put hexCode 0 (Dict.insert _ fresh 0).items = _
        rw [first]
        exact if_pos rfl
      have anew : (((detector.step (detector.step (store.erase n) (detected n fresh 0)) (detected n hexCode 0)).get?
          n).getD .empty).items = [(fresh, 0), (hexCode, 0)] := by
        rw [step_detected, step_detected, Dict.get?_erase_self, Option.getD_none]
        refine Dict.items_insert_new 0 ?_
        rw [Dict.get?_insert_ne _ _ (Ne.symm other), Dict.get?_empty]
      rw [head_disappeared kept, head_disappeared anew] at same
      simp only [Option.some.injEq, NegativeEvent.mk.injEq, and_true] at same
      exact absurd same other
  · intro spotless
    refine alike_of_related (fun store store' => ∀ m, (store.get? m).getD .empty = (store'.get? m).getD .empty) ?_ ?_ ?_
    · intro store store' e same _
      simp only [detector, same e.n]
    · intro store store' e same _ m
      simp only [detector, Dict.get?_insert, same e.n]
      split
      · rfl
      · exact same m
    · intro m
      rw [Dict.get?_erase]
      split
      · rename_i own
        subst own
        exact Dict.eq_of_items spotless
      · rfl

end Retina.Retirement
