import RetinaServer.Polled.Poller

/-! When the frames that a pipeline is given come in time order: a task keeps its
own frames in order, and the next task knows nothing of them. -/
namespace Retina.Polled
open Runs

def Ascending (filed : List Filed) : Prop := filed.Pairwise fun f g => f.timestampMs < g.timestampMs

/-- The poll files its frame into the pipeline as it stands. -/
def filesInto (r : Radar) (p : RadarPoller) (poll : Poll) : Bool :=
  r.connected && taken p poll.frame poll.now &&
    (wireFrame poll.frame p.seq p.bootId p.target.configVersion).isSome && poll.room

/-- What a running task files is newer than what its predecessors filed into the same pipeline. -/
def Renewed (r : Radar) : Event → Prop
  | .polled poll => ∀ p, r.running = some p → p.done = false → filesInto r p poll = true →
      ∀ f ∈ r.filed, f.task ≠ p.task → f.timestampMs < poll.frame.timestampMs
  | _ => True

/-- The running task is the last one started, and its mark is past every frame that it filed. -/
structure Marked (r : Radar) : Prop where
  known : ∀ f ∈ r.filed, f.task < r.started
  last : ∀ p, r.running = some p → p.task < r.started
  mark : ∀ p, r.running = some p → ∀ f ∈ r.filed, f.task = p.task → f.timestampMs ≤ p.lastTimestampMs

theorem ascending_append (filed : List Filed) (f : Filed) :
    Ascending (filed ++ [f]) ↔ Ascending filed ∧ ∀ earlier ∈ filed, earlier.timestampMs < f.timestampMs := by
  simp [Ascending, List.pairwise_append]

/-! ### One poll -/

theorem answered_of_taken {p : RadarPoller} {frame : Blah2Frame} {now : ℚ} (new : taken p frame now = true) :
    answered p frame now = ({ p with lastTimestampMs := frame.timestampMs }, some frame) := by
  simp only [taken, Bool.and_eq_true, decide_eq_true_eq] at new
  rw [answered, if_neg (not_le.mpr new.1), if_neg (not_lt.mpr new.2)]

theorem answered_of_not_taken {p : RadarPoller} {frame : Blah2Frame} {now : ℚ} (old : taken p frame now = false) :
    ∃ reason, answered p frame now = ({ p with reason }, none) := by
  rw [answered]
  split
  · exact ⟨_, rfl⟩
  · rename_i newer
    split
    · exact ⟨_, rfl⟩
    · rename_i near
      simp [taken, not_le.mp newer, not_lt.mp near] at old

/-- The task goes on with a mark that is no lower, and nothing is filed. -/
structure Passed (r : Radar) (p : RadarPoller) (r' : Radar) (p' : RadarPoller) : Prop where
  running : r'.running = some p'
  started : r'.started = r.started
  task : p'.task = p.task
  mark : p.lastTimestampMs ≤ p'.lastTimestampMs
  stays : r'.filed = r.filed ∨ r'.filed = []

/-- The frame is filed after the frames of `before`, and the mark is moved to it. -/
structure Files (r : Radar) (p : RadarPoller) (poll : Poll) (before : List Filed) (r' : Radar) (p' : RadarPoller) :
    Prop where
  running : r'.running = some p'
  started : r'.started = r.started
  task : p'.task = p.task
  newer : p.lastTimestampMs < poll.frame.timestampMs
  mark : p'.lastTimestampMs = poll.frame.timestampMs
  filed : ∃ f, r'.filed = before ++ [f] ∧ f.task = p.task ∧ f.timestampMs = poll.frame.timestampMs

/-- A poll files its frame into the pipeline as it stands, into a fresh one, or nowhere. -/
theorem pollOnce_cases (r : Radar) (p : RadarPoller) (poll : Poll) :
    (filesInto r p poll = true ∧ ∃ p', Files r p poll r.filed (pollOnce r p poll) p') ∨
      (filesInto r p poll = false ∧ ∃ p', Files r p poll [] (pollOnce r p poll) p') ∨
      (filesInto r p poll = false ∧ ∃ p', Passed r p (pollOnce r p poll) p') := by
  cases new : taken p poll.frame poll.now with
  | false =>
    obtain ⟨reason, none⟩ := answered_of_not_taken new
    refine .inr (.inr ⟨by simp [filesInto, new], ?_⟩)
    rw [pollOnce, none]
    exact ⟨_, rfl, rfl, rfl, le_rfl, .inl rfl⟩
  | true =>
    have newer : p.lastTimestampMs < poll.frame.timestampMs := by simp [taken] at new; exact new.1
    simp only [pollOnce, answered_of_taken new, fileFrame]
    cases wire : wireFrame poll.frame p.seq p.bootId p.target.configVersion with
    | none =>
      refine .inr (.inr ⟨by simp [filesInto, wire], ?_⟩)
      exact ⟨_, rfl, rfl, rfl, newer.le, .inl rfl⟩
    | some frame =>
      simp only [inPipeline]
      cases here : r.connected with
      | true =>
        cases room : poll.room with
        | true =>
          refine .inl ⟨by simp [filesInto, here, new, wire, room], ?_⟩
          exact ⟨_, rfl, rfl, rfl, newer, rfl, _, rfl, rfl, rfl⟩
        | false =>
          refine .inr (.inr ⟨by simp [filesInto, room], ?_⟩)
          exact ⟨_, rfl, rfl, rfl, newer.le, .inl rfl⟩
      | false =>
        have away : filesInto r p poll = false := by simp [filesInto, here]
        simp only [Bool.false_eq_true, if_false]
        by_cases early : poll.monotonic < p.registerDue
        · simp only [early, if_true]
          exact .inr (.inr ⟨away, _, rfl, rfl, rfl, newer.le, .inl rfl⟩)
        · simp only [early, if_false]
          by_cases joins : (poll.reached && (r.rows.any fun rows => decide (rows.status = "active")) &&
              Rows.registrable r.rows) = true
          · simp only [joins, if_true]
            cases poll.room with
            | true => exact .inr (.inl ⟨away, _, rfl, rfl, rfl, newer, rfl, _, rfl, rfl, rfl⟩)
            | false => exact .inr (.inr ⟨away, _, rfl, rfl, rfl, newer.le, .inr rfl⟩)
          · simp only [joins, if_false, Bool.false_eq_true]
            exact .inr (.inr ⟨away, _, rfl, rfl, rfl, newer.le, .inl rfl⟩)

/-! ### Marks -/

theorem Passed.marked (turn : Passed r p r' p') (now : r.running = some p) (marked : Marked r) : Marked r' := by
  obtain ⟨running, started, task, mark, stays⟩ := turn
  have fewer : ∀ f ∈ r'.filed, f ∈ r.filed := by
    intro f member
    rcases stays with same | none
    · rwa [same] at member
    · simp [none] at member
  constructor
  · intro f member
    rw [started]
    exact marked.known f (fewer f member)
  · rintro p'' here
    obtain rfl := Option.some.inj (running.symm.trans here)
    rw [task, started]
    exact marked.last p now
  · rintro p'' here f member own
    obtain rfl := Option.some.inj (running.symm.trans here)
    exact (marked.mark p now f (fewer f member) (own.trans task)).trans mark

theorem Files.marked (turn : Files r p poll before r' p') (now : r.running = some p) (marked : Marked r)
    (part : ∀ f ∈ before, f ∈ r.filed) : Marked r' := by
  obtain ⟨running, started, task, newer, mark, f, filed, own, stamp⟩ := turn
  have member_filed (g : Filed) (member : g ∈ r'.filed) : g ∈ before ∨ g = f := by
    rw [filed] at member
    simpa using member
  constructor
  · intro g member
    rw [started]
    rcases member_filed g member with earlier | rfl
    · exact marked.known g (part g earlier)
    · rw [own]
      exact marked.last p now
  · rintro p'' here
    obtain rfl := Option.some.inj (running.symm.trans here)
    rw [task, started]
    exact marked.last p now
  · rintro p'' here g member same
    obtain rfl := Option.some.inj (running.symm.trans here)
    rw [mark]
    rcases member_filed g member with earlier | rfl
    · exact (marked.mark p now g (part g earlier) (same.trans task)).trans newer.le
    · exact stamp.le

theorem marked_of_filed_subset {r r' : Radar} (marked : Marked r) (running : r'.running = r.running)
    (started : r'.started = r.started) (fewer : ∀ f ∈ r'.filed, f ∈ r.filed) : Marked r' := by
  constructor
  · intro f member
    rw [started]
    exact marked.known f (fewer f member)
  · rw [running, started]
    exact marked.last
  · rw [running]
    exact fun p now f member own => marked.mark p now f (fewer f member) own

/-- A task that is replaced by one with the same number and mark. -/
theorem marked_of_task {r : Radar} (marked : Marked r) (now : r.running = some p) (task : p'.task = p.task)
    (mark : p'.lastTimestampMs = p.lastTimestampMs) : Marked { r with running := some p' } := by
  have turn : Passed r p { r with running := some p' } p' := ⟨rfl, rfl, task, mark.ge, .inl rfl⟩
  exact turn.marked now marked

/-- A new task has filed nothing yet. -/
theorem marked_startTask {r : Radar} (marked : Marked r) (target : PollTarget) (bootId : String) :
    Marked (startTask r target bootId) := by
  constructor
  · exact fun f member => Nat.lt_succ_of_lt (marked.known f member)
  · rintro p now
    obtain rfl := Option.some.inj now
    exact Nat.lt_succ_self _
  · rintro p now f member own
    obtain rfl := Option.some.inj now
    exact absurd own (marked.known f member).ne

theorem registerWithPipeline_filed_subset (r : Radar) : ∀ f ∈ (registerWithPipeline r).filed, f ∈ r.filed := by
  simp [registerWithPipeline]

theorem marked_registerWithPipeline {r : Radar} (marked : Marked r) : Marked (registerWithPipeline r) :=
  marked_of_filed_subset marked rfl rfl (registerWithPipeline_filed_subset r)

theorem marked_rejoin {r : Radar} (marked : Marked r) (reached : Bool) : Marked (rejoin r reached) := by
  rw [rejoin]
  split
  · exact marked_registerWithPipeline marked
  · exact marked

theorem marked_sync {r : Radar} (marked : Marked r) (bootId : String) (reached : Bool) :
    Marked (sync r bootId reached) := by
  rw [sync]
  split
  · exact marked
  · split
    · exact ⟨marked.known, fun p now => (nomatch now), fun p now => (nomatch now)⟩
    · refine marked_startTask ?_ _ bootId
      split
      · exact marked_rejoin marked reached
      · exact marked

theorem marked_step {r : Radar} (marked : Marked r) (e : Event) : Marked (step r e) := by
  cases e with
  | edited rows => exact marked_of_filed_subset marked rfl rfl fun f member => member
  | synced bootId reached => exact marked_sync marked bootId reached
  | polled poll =>
    simp only [step, withTask]
    split
    · rename_i p now
      split
      · exact marked
      · rcases pollOnce_cases r p poll with ⟨-, p', turn⟩ | ⟨-, p', turn⟩ | ⟨-, p', turn⟩
        · exact turn.marked now marked fun f member => member
        · exact turn.marked now marked fun f member => nomatch member
        · exact turn.marked now marked
    · exact marked
  | refused code | superseded =>
    simp only [step, withTask]
    split
    · rename_i p now
      split
      · exact marked
      · exact marked_of_task marked now rfl rfl
    · exact marked
  | registered => exact marked_registerWithPipeline marked
  | left => exact marked_of_filed_subset marked rfl rfl fun f member => member
  | evicted => exact marked_of_filed_subset marked rfl rfl fun f member => nomatch member

/-! ### Order -/

theorem ascending_of_stays {filed filed' : List Filed} (ascending : Ascending filed)
    (stays : filed' = filed ∨ filed' = []) : Ascending filed' := by
  rcases stays with rfl | rfl
  · exact ascending
  · exact List.Pairwise.nil

theorem sync_filed (r : Radar) (bootId : String) (reached : Bool) :
    (sync r bootId reached).filed = r.filed ∨ (sync r bootId reached).filed = [] := by
  rw [sync]
  split
  · exact .inl rfl
  · split
    · exact .inl rfl
    · simp only [startTask]
      split
      · rw [rejoin]
        split
        · exact .inr rfl
        · exact .inl rfl
      · exact .inl rfl

/-- A new epoch or version begins on a fresh pipeline, where it can be handed on. -/
theorem sync_filed_of_moved {r : Radar} (now : r.running = some p) (target : r.rows.bind loadTarget = some t)
    (moved : (t.epoch, t.configVersion) ≠ (p.target.epoch, p.target.configVersion))
    (registrable : Rows.registrable r.rows = true) (bootId : String) : (sync r bootId true).filed = [] := by
  have stale : kept r = false := by
    have other : t ≠ p.target := fun same => moved (by rw [same])
    simp [kept, now, target, other]
  rw [sync, stale]
  simp only [Bool.false_eq_true, if_false, target, now, Option.any_some, moved, ne_eq, not_false_eq_true, decide_true,
    if_true, rejoin, registrable, Bool.and_self]
  rfl

/-- A step keeps the frames in order exactly when it is a renewed one. -/
theorem step_ascending_iff {r : Radar} (marked : Marked r) (ascending : Ascending r.filed) (e : Event) :
    Renewed r e ↔ Ascending (step r e).filed := by
  cases e with
  | polled poll =>
    cases now : r.running with
    | none => exact iff_of_true (fun p here => nomatch now.symm.trans here) (by simpa [step, withTask, now] using ascending)
    | some p =>
      cases finished : p.done with
      | true =>
        refine iff_of_true ?_ (by simpa [step, withTask, now, finished] using ascending)
        rintro p' here open_
        obtain rfl := Option.some.inj (now.symm.trans here)
        exact nomatch finished.symm.trans open_
      | false =>
        have stepped : step r (.polled poll) = pollOnce r p poll := by simp [step, withTask, now, finished]
        rw [stepped]
        rcases pollOnce_cases r p poll with ⟨files, p', turn⟩ | ⟨files, p', turn⟩ | ⟨files, p', turn⟩
        · obtain ⟨f, filed, own, stamp⟩ := turn.filed
          rw [filed, ascending_append, stamp]
          simp only [ascending, true_and]
          constructor
          · intro renewed g member
            by_cases same : g.task = p.task
            · exact (marked.mark p now g member same).trans_lt turn.newer
            · exact renewed p now finished files g member same
          · rintro all p'' here - - g member -
            exact all g member
        · refine iff_of_true ?_ ?_
          · rintro p'' here - wrong
            obtain rfl := Option.some.inj (now.symm.trans here)
            exact nomatch files.symm.trans wrong
          · obtain ⟨f, filed, -, -⟩ := turn.filed
            rw [filed]
            exact List.pairwise_singleton _ _
        · refine iff_of_true ?_ (ascending_of_stays ascending turn.stays)
          rintro p'' here - wrong
          obtain rfl := Option.some.inj (now.symm.trans here)
          exact nomatch files.symm.trans wrong
  | synced bootId reached => exact iff_of_true trivial (ascending_of_stays ascending (sync_filed r bootId reached))
  | refused code | superseded =>
    refine iff_of_true trivial ?_
    simp only [step, withTask]
    split
    · split
      · exact ascending
      · exact ascending
    · exact ascending
  | edited rows | left => exact iff_of_true trivial ascending
  | registered | evicted => exact iff_of_true trivial List.Pairwise.nil

theorem marked_start (rows : Option Rows) (connected : Bool) : Marked { rows, connected } :=
  ⟨by simp, by simp, by simp⟩

/-- From a poller that has just been started, the frames of each pipeline are filed in time order as long as no task
files a frame that is no newer than its predecessors' into their pipeline. -/
theorem polled_in_order_iff (rows : Option Rows) (connected : Bool) (events : List Event) :
    Along step Renewed { rows, connected } events ↔
      ∀ before after, events = before ++ after → Ascending (run step { rows, connected } before).filed := by
  have marks (before : List Event) : Marked (run step { rows, connected } before) :=
    invariant_always (I := Marked) (fun r e marked => marked_step marked e) (marked_start rows connected) before
  have exact_ (r : Radar) (e : Event) (held : Marked r ∧ Ascending r.filed) :
      Renewed r e ↔ Marked (step r e) ∧ Ascending (step r e).filed := by
    rw [step_ascending_iff held.1 held.2 e]
    simp only [marked_step held.1 e, true_and]
  rw [along_iff_invariant (I := fun r => Marked r ∧ Ascending r.filed) exact_
    ⟨marked_start rows connected, List.Pairwise.nil⟩]
  simp only [marks, true_and]

/-! ### A new password -/

def radarRows (secret : String) : Rows :=
  { nodeId := "blh1", status := "active", activeConfigVersion := some 1, configured := true, epoch := 1
    scheme := "http", host := "radar.example", port := 80, endpointKey := "radar.example:80", authUser := some "owner"
    credentials := .held "owner" secret, endpointRaw := "http://radar.example", probePassedAt := 1
    endpointChangedAt := 1 }

/-- The last frame of an idle radar. -/
def idlePoll : Poll :=
  { frame := { timestampMs := 1767268800000, delayKm := [], dopplerHz := [], snrDb := [] }
    now := 1767268801, monotonic := 50, reached := true, room := true }

/-- The owner gives the poller a new password while the radar is idle. -/
def passwordEdit : List Event :=
  [.synced "0011223344556677" true, .polled idlePoll, .edited (some (radarRows "new")),
   .synced "8899aabbccddeeff" true, .polled idlePoll]

/-- The task that replaces the first files the same frame once more, into the same pipeline. -/
theorem new_password_refiles_frame :
    (run step { rows := some (radarRows "old"), connected := true } passwordEdit).filed.map Filed.timestampMs =
        [1767268800000, 1767268800000] ∧
      ¬ Ascending (run step { rows := some (radarRows "old"), connected := true } passwordEdit).filed := by
  have twice : (run step { rows := some (radarRows "old"), connected := true } passwordEdit).filed.map Filed.timestampMs =
      [1767268800000, 1767268800000] := by decide +kernel
  refine ⟨twice, fun ascending => ?_⟩
  have sorted : ([1767268800000, 1767268800000] : List ℤ).Pairwise (· < ·) := by
    rw [← twice, List.pairwise_map]
    exact ascending
  exact absurd sorted (by decide)

end Retina.Polled
