import RetinaServer.Parquet.RoundTrip
import RetinaServer.Frames.ArchiveBuffer

/-! The buffered frames of a node flushed to one table: a frame whose values do not fit
fails the others of its batch, and goes back into the buffer with them. -/
namespace Retina.Parquet
open OrderedDict Tcp Frames

variable {T : Type} [DecidableEq T]

/-- The rows of a frame, where its values and the config's fit. -/
def Setting.frameRows (env : Setting) (frame : Fields) : Option Table :=
  env.cfgGeometry.bind fun cfg => env.typedRows cfg frame

/-- The frames that a thread is about to write, and whose they are. -/
def batchOf (s : Archive T Fields) (t : T) : Option (String × List Fields) :=
  match s.threads t with
  | .flushing nodeId (frame :: frames) .snapshot => some (nodeId, frame :: frames)
  | _ => none

/-- A step on the buffers, and the settings it happens under. A write's outcome is the disk's. -/
structure FlushEvent (T : Type) where
  step : ArchiveStep T Fields
  env : String → Setting

def FlushEvent.setting (e : FlushEvent T) (nodeId : String) : Setting := { e.env nodeId with nodeId }

/-- `archive_detections` raises where the disk fails, and where a value of the batch does. -/
def FlushEvent.resolve (s : Archive T Fields) (e : FlushEvent T) : ArchiveStep T Fields :=
  match e.step with
  | .write t disk => .write t (disk && (batchOf s t).elim true fun batch =>
      ((e.setting batch.1).writeDetections batch.2).isSome)
  | other => other

def flushStep (ttlS : ℚ) (s : Archive T Fields) (e : FlushEvent T) : Archive T Fields :=
  archiveStep ttlS s (e.resolve s)

/-- A write that the disk takes has the rows of every frame of its batch that fits, and
its flush ends with the batch off the buffer. -/
def Unpoisoned (ttlS : ℚ) (s : Archive T Fields) (e : FlushEvent T) : Prop :=
  ∀ t, e.step = .write t true → ∀ nodeId frames, batchOf s t = some (nodeId, frames) →
    (∃ file, (e.setting nodeId).writeDetections frames = some file ∧
      file.getD [] = (frames.filterMap (e.setting nodeId).frameRows).flatten) ∧
    ∀ now, bufferOf (archiveStep ttlS (flushStep ttlS s e) (.finishFlush t now)) nodeId =
      (bufferOf s nodeId).drop frames.length

/-- Every frame of the batch fits. -/
def AllFit (s : Archive T Fields) (e : FlushEvent T) : Prop :=
  ∀ t, e.step = .write t true → ∀ nodeId frames, batchOf s t = some (nodeId, frames) →
    ∀ frame ∈ frames, ((e.setting nodeId).frameRows frame).isSome

omit [DecidableEq T] in
theorem batchOf_spec {s : Archive T Fields} (batch : batchOf s t = some (nodeId, frames)) :
    s.threads t = .flushing nodeId frames .snapshot ∧ frames ≠ [] := by
  rw [batchOf] at batch
  split at batch
  · rename_i flying
    obtain ⟨rfl, rfl⟩ := Prod.mk.injEq .. ▸ Option.some.inj batch
    exact ⟨flying, List.cons_ne_nil _ _⟩
  · exact nomatch batch

/-- One frame that does not fit is enough to fail the batch. -/
theorem writeDetections_isSome_iff (env : Setting) {frames : List Fields} (some_frame : frames ≠ []) :
    (env.writeDetections frames).isSome ↔ ∀ frame ∈ frames, (env.frameRows frame).isSome := by
  cases config : env.cfgGeometry with
  | none =>
    rw [writeDetections_unconfigured config, if_neg some_frame]
    obtain ⟨frame, rest, rfl⟩ := List.exists_cons_of_ne_nil some_frame
    refine ⟨nofun, fun fits => ?_⟩
    have first := fits frame List.mem_cons_self
    rw [Setting.frameRows, config] at first
    exact nomatch first
  | some cfg =>
    rw [writeDetections_eq config, Option.isSome_map, Partial.mapM_isSome_iff]
    simp only [Setting.frameRows, config, Option.bind_some]

theorem writeDetections_rows (env : Setting) {frames : List Fields} {file : Option Table}
    (done : env.writeDetections frames = some file) :
    file.getD [] = (frames.filterMap env.frameRows).flatten := by
  cases config : env.cfgGeometry with
  | none =>
    rw [writeDetections_unconfigured config] at done
    split at done
    · rename_i empty
      obtain rfl := Option.some.inj done
      rw [empty]
      rfl
    · exact nomatch done
  | some cfg =>
    rw [writeDetections_eq config] at done
    obtain ⟨lists, typed, rfl⟩ := Option.map_eq_some_iff.mp done
    have rows : env.frameRows = env.typedRows cfg := funext fun frame => by rw [Setting.frameRows, config]; rfl
    rw [rows, Partial.filterMap_of_mapM typed]
    split
    · rename_i empty
      rw [empty]
      rfl
    · rfl

omit [DecidableEq T] in
theorem bufferOf_truncateBuffer (s : Archive T Fields) (nodeId : String) (n : Nat) :
    bufferOf (truncateBuffer s nodeId n) nodeId = (bufferOf s nodeId).drop n := by
  simp only [truncateBuffer]
  split
  · rename_i empty
    rw [List.isEmpty_iff.mp empty]
    simp [bufferOf]
  · simp [bufferOf]

/-- A write that goes through takes its batch off the buffer. -/
theorem bufferOf_finishFlush (ttlS : ℚ) {s : Archive T Fields} {e : FlushEvent T} {file : Option Table}
    (written : e.step = .write t true)
    (batch : batchOf s t = some (nodeId, frames)) (done : (e.setting nodeId).writeDetections frames = some file)
    (now : ℚ) : bufferOf (archiveStep ttlS (flushStep ttlS s e) (.finishFlush t now)) nodeId =
      (bufferOf s nodeId).drop frames.length := by
  obtain ⟨flying, some_frame⟩ := batchOf_spec batch
  obtain ⟨frame, rest, rfl⟩ := List.exists_cons_of_ne_nil some_frame
  have wrote : flushStep ttlS s e =
      { setActivity s t (.flushing nodeId (frame :: rest) .written) with
        written := s.written ++ (frame :: rest).map fun f => (nodeId, f) } := by
    simp [flushStep, FlushEvent.resolve, written, batch, done, archiveStep, flying]
  have stage : (flushStep ttlS s e).threads t = .flushing nodeId (frame :: rest) .written := by
    rw [wrote]
    exact Function.update_self ..
  simp only [archiveStep, stage, endFlush, Bool.false_eq_true, if_false]
  rw [bufferOf_truncateBuffer, wrote]
  rfl

theorem unpoisoned_iff (ttlS : ℚ) (s : Archive T Fields) (e : FlushEvent T) : Unpoisoned ttlS s e ↔ AllFit s e := by
  refine forall₂_congr fun t written => forall₃_congr fun nodeId frames batch => ?_
  rw [← writeDetections_isSome_iff (e.setting nodeId) (batchOf_spec batch).2]
  constructor
  · rintro ⟨⟨file, done, -⟩, -⟩
    rw [done]
    rfl
  · intro through
    obtain ⟨file, done⟩ := Option.isSome_iff_exists.mp through
    exact ⟨⟨file, done, writeDetections_rows _ done⟩, bufferOf_finishFlush ttlS written batch done⟩

/-- Over every run of the buffers, each write has all the frames of its batch that fit
exactly when all of them do. -/
theorem flushes_unpoisoned_iff (ttlS : ℚ) (s : Archive T Fields) (events : List (FlushEvent T)) :
    Runs.Along (flushStep ttlS) (Unpoisoned ttlS) s events ↔ Runs.Along (flushStep ttlS) AllFit s events :=
  Runs.along_congr (I := fun _ => True) (fun _ _ _ => trivial) (fun s e _ => unpoisoned_iff ttlS s e) trivial events

/-- The second frame's aircraft has a number for its hex. -/
def poisonedFrame : Fields :=
  [("timestamp", .int 1700000001000), ("delay", .list [.float (.fin 10)]),
    ("adsb", .list [.dict [("hex", .int 11259375)]])]

def poisonedRun : List (FlushEvent Unit) :=
  [.append "node-A" (oneDetection 1700000000000 10), .append "node-A" poisonedFrame, .beginFlush () "node-A"].map
    fun step => { step, env := fun _ => bareSetting }

/-- The frame beside it is not written. -/
theorem poisoned_frame_fails_batch :
    ¬ Runs.Along (flushStep 600) (Unpoisoned 600) (Archive.empty : Archive Unit Fields)
      (poisonedRun ++ [{ step := .write () true, env := fun _ => bareSetting }]) := by
  rw [Runs.along_append]
  rintro ⟨-, last, -⟩
  obtain ⟨⟨file, done, -⟩, -⟩ := last () rfl "node-A" [oneDetection 1700000000000 10, poisonedFrame] rfl
  have refused : (bareSetting.writeDetections [oneDetection 1700000000000 10, poisonedFrame]).isSome = false := by
    decide +kernel
  rw [show bareSetting.writeDetections _ = some file from done] at refused
  exact nomatch refused

end Retina.Parquet
