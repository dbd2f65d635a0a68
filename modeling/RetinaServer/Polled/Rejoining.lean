import RetinaServer.Library.Runs
import RetinaServer.Polled.Poller
import Mathlib.Logic.Function.Basic

/-! The configuration of a polled radar on its way to the frames: the target that a task files them under, the
registration that a pipeline is built from, and the frames that wait in between are moved at different steps. -/
namespace Retina.Polled.Rejoining
open Runs

/-- The rows, with the version of the configuration that is not superseded. -/
structure Registry extends Rows where
  unsuperseded : Option ℤ
  agrees : configured = unsuperseded.isSome

/-- What a queued frame says of the radar that served it. -/
@[ext] structure Frame where
  epoch : ℤ
  configVersion : ℤ
deriving DecidableEq

/-- An instance, with the version of the configuration that it was built from. -/
structure Pipeline where
  id : Nat
  version : ℤ
deriving DecidableEq

structure Handled where
  pipeline : Pipeline
  frame : Frame
deriving DecidableEq

/-- How far a frame worker has come in `get_or_create_node_pipeline`. -/
inductive Worker where
  | idle
  | missed (frame : Frame)
  | built (frame : Frame) (version : ℤ)

def Worker.frame : Worker → Option Frame
  | .idle => none
  | .missed frame | .built frame _ => some frame

/-- What the frame workers see of the node. -/
structure Pipes (ω : Type) where
  /-- The version that the configuration in `connected_nodes` is of. -/
  registered : Option ℤ
  cached : Option Pipeline
  created : Nat
  queue : List Frame
  workers : ω → Worker
  handled : List Handled

namespace Pipes

variable {ω : Type}

def submit (s : Pipes ω) (frame : Frame) : Pipes ω := { s with queue := s.queue ++ [frame] }

def register (s : Pipes ω) (version : ℤ) : Pipes ω := { s with registered := some version }

/-- The node leaves `connected_nodes`. -/
def leave (s : Pipes ω) : Pipes ω := { s with registered := none }

def evict (s : Pipes ω) : Pipes ω := { s with cached := none }

variable [DecidableEq ω] (placed : ℤ → Bool)

def setWorker (s : Pipes ω) (w : ω) (worker : Worker) : Pipes ω := { s with workers := Function.update s.workers w worker }

def take (s : Pipes ω) (w : ω) : Pipes ω :=
  match s.workers w, s.queue with
  | .idle, frame :: rest => match s.cached with
      | some pipeline => { s with queue := rest, handled := s.handled ++ [⟨pipeline, frame⟩] }
      | none => { s.setWorker w (.missed frame) with queue := rest }
  | _, _ => s

/-- A node that cannot be placed has no pipeline, and neither has one that is in no registry. -/
def build (s : Pipes ω) (w : ω) : Pipes ω :=
  match s.workers w with
  | .missed frame => match s.registered.filter placed with
      | some version => s.setWorker w (.built frame version)
      | none => s.setWorker w .idle
  | _ => s

def store (s : Pipes ω) (w : ω) : Pipes ω :=
  match s.workers w with
  | .built frame version =>
      let pipeline : Pipeline := { id := s.created, version }
      { s.setWorker w .idle with
        cached := some pipeline, created := s.created + 1, handled := s.handled ++ [⟨pipeline, frame⟩] }
  | _ => s

end Pipes

/-- How far a call of `register_with_pipeline` has come. -/
inductive Call where
  | asked
  | read (version : ℤ)
  /-- `connected_nodes` is written, and the pipeline still to be evicted. -/
  | written
  | finished
deriving DecidableEq

/-- `_rejoin`, `_in_pipeline`, and the other doors. -/
inductive Caller (κ : Type) where
  | poller
  | task
  | door (k : κ)
deriving DecidableEq

/-- How far `sync` has come. -/
inductive Sync where
  | idle
  | loaded (target : Option PollTarget)
  | starting (target : PollTarget)

structure Task where
  target : PollTarget
  done : Bool := false

structure State (κ ω : Type) where
  rows : Option Registry
  sync : Sync
  running : Option Task
  calls : Caller κ → Option Call
  pipes : Pipes ω

inductive Event (κ ω : Type) where
  /-- A transaction writes the rows. -/
  | edited (rows : Option Registry)
  | load
  | stop
  | start
  /-- The task files a frame. -/
  | file
  /-- The task finds its node in no registry, and asks for it to be registered. -/
  | join
  | joined
  | ended
  /-- Another door asks. -/
  | enter (k : κ)
  | read (c : Caller κ)
  | fail (c : Caller κ)
  | write (c : Caller κ)
  | evict (c : Caller κ)
  /-- The node is taken out of the registries, and its pipeline out of the cache. -/
  | left
  | swept
  | take (w : ω)
  | build (w : ω)
  | store (w : ω)

namespace State

variable {κ ω : Type}

def start : State κ ω where
  rows := none
  sync := .idle
  running := none
  calls := fun _ => none
  pipes := { registered := none, cached := none, created := 0, queue := [], workers := fun _ => .idle, handled := [] }

variable [DecidableEq κ] [DecidableEq ω] (placed : ℤ → Bool)

def setCall (s : State κ ω) (c : Caller κ) (call : Option Call) : State κ ω :=
  { s with calls := Function.update s.calls c call }

def submit (s : State κ ω) (target : PollTarget) : State κ ω :=
  { s with pipes := s.pipes.submit { epoch := target.epoch, configVersion := target.configVersion } }

/-- `sync`, from the registry it has read to the task it starts. A radar that was not running is not handed on. -/
def stop (s : State κ ω) (target : Option PollTarget) : State κ ω :=
  if s.running.any fun task => !task.done && decide (target = some task.target) then { s with sync := .idle }
  else match target with
    | none => { s.setCall .task none with running := none, sync := .idle }
    | some target =>
        let moved := s.running.any fun task =>
          decide ((target.epoch, target.configVersion) ≠ (task.target.epoch, task.target.configVersion))
        let s := if moved then s.setCall .poller (some .asked) else s
        { s.setCall .task none with running := none, sync := .starting target }

/-- The configuration that a caller finds in the registry. -/
def found (s : State κ ω) (c : Caller κ) : Option ℤ :=
  (s.rows.filter fun rows => decide (c = .task → rows.status = "active")).bind Registry.unsuperseded

def step (s : State κ ω) : Event κ ω → State κ ω
  | .edited rows => { s with rows }
  | .load => match s.sync with
      | .idle => { s with sync := .loaded (s.rows.bind fun rows => loadTarget rows.toRows) }
      | _ => s
  | .stop => match s.sync, s.calls .task with
      -- A task is not cancelled between its write and its eviction.
      | .loaded _, some .written => s
      | .loaded target, _ => s.stop target
      | _, _ => s
  | .start => match s.sync, s.calls .poller with
      | .starting target, none | .starting target, some .finished =>
          { s.setCall .poller none with running := some { target }, sync := .idle }
      | _, _ => s
  | .file => match s.running, s.calls .task with
      | some ⟨target, false⟩, none => if s.pipes.registered.isSome then s.submit target else s
      | _, _ => s
  | .join => match s.running, s.calls .task with
      | some ⟨_, false⟩, none => if s.pipes.registered.isSome then s else s.setCall .task (some .asked)
      | _, _ => s
  | .joined => match s.running, s.calls .task with
      | some ⟨target, false⟩, some .finished => (s.setCall .task none).submit target
      | _, _ => s
  | .ended => match s.calls .task with
      | none => { s with running := s.running.map fun task => { task with done := true } }
      | some _ => s
  | .enter k => match s.calls (.door k) with
      | none | some .finished => s.setCall (.door k) (some .asked)
      | _ => s
  | .read c => match s.calls c with
      | some .asked => s.setCall c ((s.found c).map .read)
      | _ => s
  | .fail c => match s.calls c with
      | some .asked | some .finished => s.setCall c none
      | _ => s
  | .write c => match s.calls c with
      | some (.read version) => { s.setCall c (some .written) with pipes := s.pipes.register version }
      | _ => s
  | .evict c => match s.calls c with
      | some .written => { s.setCall c (some .finished) with pipes := s.pipes.evict }
      | _ => s
  | .left => { s with pipes := s.pipes.leave }
  | .swept => { s with pipes := s.pipes.evict }
  | .take w => { s with pipes := s.pipes.take w }
  | .build w => { s with pipes := s.pipes.build placed w }
  | .store w => { s with pipes := s.pipes.store w }

end State

/-! ### A sync in its steps and in one -/

/-- A radar in one step at a time, and the same radar with a sync in one. -/
structure Refines {κ ω : Type} (s : State κ ω) (r : Radar) : Prop where
  rows : r.rows = s.rows.map Registry.toRows
  running : (r.running.map fun p => (p.target, p.done)) = s.running.map fun task => (task.target, task.done)
  connected : r.connected = s.pipes.registered.isSome

/-- A sync that nothing comes between. -/
def syncing {κ ω : Type} : List (Event κ ω) := [.load, .stop, .read .poller, .write .poller, .evict .poller, .start]

section
variable {κ ω : Type} {placed : ℤ → Bool} {s : State κ ω} {r : Radar}

theorem Refines.any_running (refines : Refines s r) (p : PollTarget → Bool → Bool) :
    (r.running.any fun poller => p poller.target poller.done) = s.running.any fun task => p task.target task.done := by
  have same := congrArg (Option.any fun pair => p pair.1 pair.2) refines.running
  simpa only [Option.any_map, Function.comp_def] using same

theorem Refines.loads (refines : Refines s r) : r.rows.bind loadTarget = s.rows.bind fun rows => loadTarget rows.toRows := by
  rw [refines.rows, Option.bind_map]
  rfl

theorem registrable_rows {rows : Option Registry} {rows' : Option Rows} (same : rows' = rows.map Registry.toRows) :
    Rows.registrable rows' = (rows.bind Registry.unsuperseded).isSome := by
  subst same
  cases rows with
  | none => rfl
  | some rows => exact rows.agrees

variable [DecidableEq κ] [DecidableEq ω]

/-- The end of a sync that hands nothing on. -/
theorem run_quiet (quiet : s.calls .poller = none) :
    run (State.step placed) s [.read .poller, .write .poller, .evict .poller, .start] = s.step placed .start := by
  have unread : s.step placed (.read .poller) = s := by simp only [State.step, quiet]
  have unwritten : s.step placed (.write .poller) = s := by simp only [State.step, quiet]
  have unevicted : s.step placed (.evict .poller) = s := by simp only [State.step, quiet]
  simp only [run_cons, run_nil, unread, unwritten, unevicted]

theorem step_start_idle (idle : s.sync = .idle) : s.step placed .start = s := by
  simp only [State.step, idle]

omit [DecidableEq ω] in
theorem found_poller : s.found .poller = s.rows.bind Registry.unsuperseded := by
  rw [State.found]
  cases s.rows with
  | none => rfl
  | some rows => simp [Option.filter]

/-- The end of a sync that hands the configuration on, where there is one. -/
theorem refines_handed (asked : s.calls .poller = some .asked) (starting : s.sync = .starting target)
    (rows : r.rows = s.rows.map Registry.toRows) (connected : r.connected = s.pipes.registered.isSome) (bootId : String) :
    Refines (run (State.step placed) s [.read .poller, .write .poller, .evict .poller, .start])
      (startTask (rejoin r true) target bootId) := by
  have registrable : Rows.registrable r.rows = (s.rows.bind Registry.unsuperseded).isSome := registrable_rows rows
  rw [rejoin, registrable, Bool.true_and]
  cases found : s.rows.bind Registry.unsuperseded with
  | none =>
    have read : s.found .poller = none := found_poller.trans found
    simp only [run, List.foldl, State.step, State.setCall, asked, starting, read, Option.map_none, Function.update_self,
      Option.isSome_none, Bool.false_eq_true, if_false]
    exact ⟨rows, rfl, connected⟩
  | some version =>
    have read : s.found .poller = some version := found_poller.trans found
    simp only [run, List.foldl, State.step, State.setCall, asked, starting, read, Option.map_some, Function.update_self,
      Option.isSome_some, if_true]
    exact ⟨rows, rfl, rfl⟩

theorem refines_started (quiet : s.calls .poller = none) (starting : s.sync = .starting target)
    (rows : r.rows = s.rows.map Registry.toRows) (connected : r.connected = s.pipes.registered.isSome) (bootId : String) :
    Refines (run (State.step placed) s [.read .poller, .write .poller, .evict .poller, .start])
      (startTask r target bootId) := by
  rw [run_quiet quiet]
  simp only [State.step, starting, quiet]
  exact ⟨rows, rfl, connected⟩

theorem run_loaded (idle : s.sync = .idle) (whole : s.calls .task ≠ some .written) (events : List (Event κ ω)) :
    run (State.step placed) s (.load :: .stop :: events) = run (State.step placed)
      ({ s with sync := .loaded (s.rows.bind fun rows => loadTarget rows.toRows) }.stop
        (s.rows.bind fun rows => loadTarget rows.toRows)) events := by
  simp only [run_cons, State.step, idle]

/-- A sync that nothing comes between does in its steps what it does in one. -/
theorem refines_sync (refines : Refines s r) (idle : s.sync = .idle) (quiet : s.calls .poller = none)
    (whole : s.calls .task ≠ some .written) (bootId : String) :
    Refines (run (State.step placed) s syncing) (sync r bootId true) := by
  rw [syncing, run_loaded idle whole, sync, kept, refines.loads]
  generalize (s.rows.bind fun rows => loadTarget rows.toRows) = target
  have keeps := refines.any_running fun target' done => !done && decide (target = some target')
  rw [keeps]
  unfold State.stop
  dsimp only
  by_cases keep : (s.running.any fun task => !task.done && decide (target = some task.target)) = true
  · rw [if_pos keep, if_pos keep, run_quiet (s := { s with sync := .idle }) quiet, step_start_idle rfl]
    exact ⟨refines.rows, refines.running, refines.connected⟩
  · rw [if_neg keep, if_neg keep]
    cases target with
    | none =>
      rw [run_quiet (by simpa [State.setCall] using quiet), step_start_idle rfl]
      exact ⟨refines.rows, rfl, refines.connected⟩
    | some target =>
      have moves := refines.any_running fun target' _ =>
        decide ((target.epoch, target.configVersion) ≠ (target'.epoch, target'.configVersion))
      dsimp only
      rw [moves]
      by_cases moved : (s.running.any fun task =>
        decide ((target.epoch, target.configVersion) ≠ (task.target.epoch, task.target.configVersion))) = true
      · rw [if_pos moved, if_pos moved]
        apply refines_handed
        · simp [State.setCall]
        · rfl
        · exact refines.rows
        · exact refines.connected
      · rw [if_neg moved, if_neg moved]
        apply refines_started
        · simpa [State.setCall] using quiet
        · rfl
        · exact refines.rows
        · exact refines.connected

end

/-! ### What the workers do with what they find -/

/-- No frame of another epoch has been through the pipeline. -/
def Serves (all : List Handled) (pipeline : Pipeline) (epoch : ℤ) : Prop :=
  ∀ handled ∈ all, handled.pipeline = pipeline → handled.frame.epoch = epoch

/-- Every frame met the configuration that it was filed under, and no pipeline had frames of two epochs. -/
structure MeetsOwn (all : List Handled) : Prop where
  version : ∀ handled ∈ all, handled.pipeline.version = handled.frame.configVersion
  epoch : ∀ handled ∈ all, Serves all handled.pipeline handled.frame.epoch

theorem serves_append (serves : Serves all pipeline epoch) (same : pipeline = pipeline' → frame.epoch = epoch) :
    Serves (all ++ [⟨pipeline', frame⟩]) pipeline epoch := by
  intro handled member here
  rcases List.mem_append.mp member with before | last
  · exact serves handled before here
  · obtain rfl := List.mem_singleton.mp last
    exact same here.symm

/-- One more frame, of the version that its pipeline was built from. -/
theorem meetsOwn_append (meets : MeetsOwn all) (version : pipeline.version = frame.configVersion)
    (serves : Serves all pipeline frame.epoch) : MeetsOwn (all ++ [⟨pipeline, frame⟩]) where
  version := by
    intro handled member
    rcases List.mem_append.mp member with before | last
    · exact meets.version handled before
    · obtain rfl := List.mem_singleton.mp last
      exact version
  epoch := by
    intro handled member
    rcases List.mem_append.mp member with before | last
    · exact serves_append (meets.epoch handled before) fun same => (serves handled before same).symm
    · obtain rfl := List.mem_singleton.mp last
      exact serves_append serves fun _ => rfl

namespace Pipes

variable {ω : Type} {s : Pipes ω}

/-- The frame is queued, or a worker has it and no pipeline yet. -/
def OnTheWay (s : Pipes ω) (frame : Frame) : Prop := frame ∈ s.queue ∨ ∃ w, (s.workers w).frame = some frame

/-- The frame's configuration is the one registered and the cached pipeline's, and nothing of another epoch is about. -/
structure Ready (s : Pipes ω) (frame : Frame) : Prop where
  registered : s.registered = some frame.configVersion
  onTheWay : ∀ other, s.OnTheWay other → other.epoch = frame.epoch
  cached : ∀ pipeline, s.cached = some pipeline → pipeline.version = frame.configVersion ∧ Serves s.handled pipeline frame.epoch

structure Sound (s : Pipes ω) : Prop where
  meets : MeetsOwn s.handled
  alike : ∀ frame other, s.OnTheWay frame → s.OnTheWay other → frame = other
  registered : ∀ frame, s.OnTheWay frame → ∀ version, s.registered = some version → version = frame.configVersion
  built : ∀ w frame version, s.workers w = .built frame version → version = frame.configVersion
  cached : ∀ frame, s.OnTheWay frame → ∀ pipeline, s.cached = some pipeline →
    pipeline.version = frame.configVersion ∧ Serves s.handled pipeline frame.epoch
  created : (∀ handled ∈ s.handled, handled.pipeline.id < s.created) ∧
    ∀ pipeline, s.cached = some pipeline → pipeline.id < s.created

theorem sound_submit (sound : s.Sound) (ready : s.Ready frame) : (s.submit frame).Sound := by
  have onTheWay (other : Frame) (after : (s.submit frame).OnTheWay other) : other = frame := by
    have same : s.OnTheWay other → other = frame := by
      intro before
      exact Frame.ext (ready.onTheWay other before) (sound.registered other before _ ready.registered).symm
    rcases after with queued | held
    · rcases List.mem_append.mp queued with before | last
      · exact same (.inl before)
      · exact List.mem_singleton.mp last
    · exact same (.inr held)
  refine ⟨sound.meets, ?_, ?_, sound.built, ?_, sound.created⟩
  · intro first second firstOn secondOn
    rw [onTheWay first firstOn, onTheWay second secondOn]
  · intro other after version registered
    rw [onTheWay other after]
    exact Option.some.inj (registered.symm.trans ready.registered)
  · intro other after pipeline cached
    rw [onTheWay other after]
    exact ready.cached pipeline cached

theorem sound_register (sound : s.Sound) (current : ∀ frame, s.OnTheWay frame → frame.configVersion = version) :
    (s.register version).Sound := by
  refine ⟨sound.meets, sound.alike, ?_, sound.built, sound.cached, sound.created⟩
  intro frame onTheWay version' registered
  exact (Option.some.inj registered).symm.trans (current frame onTheWay).symm

theorem sound_leave (sound : s.Sound) : s.leave.Sound :=
  ⟨sound.meets, sound.alike, by rintro _ _ _ ⟨⟩, sound.built, sound.cached, sound.created⟩

theorem sound_evict (sound : s.Sound) : s.evict.Sound :=
  ⟨sound.meets, sound.alike, sound.registered, sound.built, by rintro _ _ _ ⟨⟩,
    sound.created.1, by rintro _ ⟨⟩⟩

variable [DecidableEq ω]

/-- A worker that moves on to a frame that was on the way, or to none. -/
theorem onTheWay_setWorker {worker : Worker} (moved : ∀ frame, worker.frame = some frame → s.OnTheWay frame)
    (after : (s.setWorker w worker).OnTheWay frame) : s.OnTheWay frame := by
  rcases after with queued | ⟨w', held⟩
  · exact .inl queued
  · by_cases here : w' = w
    · subst here
      simp only [setWorker, Function.update_self] at held
      exact moved frame held
    · simp only [setWorker, Function.update_of_ne here] at held
      exact .inr ⟨w', held⟩

theorem built_setWorker {worker : Worker} (sound : s.Sound)
    (moved : ∀ frame version, worker = .built frame version → version = frame.configVersion)
    (built : (s.setWorker w worker).workers w' = .built frame version) : version = frame.configVersion := by
  by_cases here : w' = w
  · subst here
    simp only [setWorker, Function.update_self] at built
    exact moved frame version built
  · simp only [setWorker, Function.update_of_ne here] at built
    exact sound.built w' frame version built

/-- What becomes of a worker leaves a node sound where nothing else changes. -/
theorem sound_setWorker {worker : Worker} (sound : s.Sound) (moved : ∀ frame, worker.frame = some frame → s.OnTheWay frame)
    (built : ∀ frame version, worker = .built frame version → version = frame.configVersion) :
    (s.setWorker w worker).Sound where
  meets := sound.meets
  alike _ _ first second := sound.alike _ _ (onTheWay_setWorker moved first) (onTheWay_setWorker moved second)
  registered _ after := sound.registered _ (onTheWay_setWorker moved after)
  built _ _ _ := built_setWorker sound built
  cached _ after := sound.cached _ (onTheWay_setWorker moved after)
  created := sound.created

omit [DecidableEq ω] in
/-- A frame leaves the queue. -/
theorem sound_dequeue {rest : List Frame} (sound : s.Sound) (shorter : rest ⊆ s.queue) :
    ({ s with queue := rest } : Pipes ω).Sound := by
  have onTheWay {frame : Frame} (after : ({ s with queue := rest } : Pipes ω).OnTheWay frame) : s.OnTheWay frame :=
    after.imp_left (shorter ·)
  exact ⟨sound.meets, fun _ _ first second => sound.alike _ _ (onTheWay first) (onTheWay second),
    fun _ after => sound.registered _ (onTheWay after), sound.built, fun _ after => sound.cached _ (onTheWay after),
    sound.created⟩

omit [DecidableEq ω] in
/-- The cached pipeline has a frame that was on the way. -/
theorem sound_handle (sound : s.Sound) (cached : s.cached = some pipeline) (onTheWay : s.OnTheWay frame) :
    ({ s with handled := s.handled ++ [⟨pipeline, frame⟩] } : Pipes ω).Sound := by
  obtain ⟨version, serves⟩ := sound.cached frame onTheWay pipeline cached
  refine ⟨meetsOwn_append sound.meets version serves, sound.alike, sound.registered, sound.built, ?_, ?_, sound.created.2⟩
  · intro other after pipeline' cached'
    obtain ⟨version', serves'⟩ := sound.cached other after pipeline' cached'
    exact ⟨version', serves_append serves' fun _ => congrArg Frame.epoch (sound.alike frame other onTheWay after)⟩
  · intro handled member
    rcases List.mem_append.mp member with before | last
    · exact sound.created.1 handled before
    · obtain rfl := List.mem_singleton.mp last
      exact sound.created.2 pipeline cached

theorem sound_take (sound : s.Sound) (w : ω) : (s.take w).Sound := by
  simp only [take]
  split
  · rename_i frame rest idle queue
    have onTheWay : s.OnTheWay frame := .inl (queue ▸ List.mem_cons_self)
    have shorter : rest ⊆ s.queue := queue ▸ List.subset_cons_self frame rest
    split
    · rename_i pipeline cached
      exact sound_dequeue (sound_handle sound cached onTheWay) shorter
    · refine sound_dequeue (s := s.setWorker w (.missed frame)) (sound_setWorker sound ?_ (by rintro _ _ ⟨⟩)) shorter
      rintro _ ⟨⟩
      exact onTheWay
  · exact sound

theorem sound_build (sound : s.Sound) (placed : ℤ → Bool) (w : ω) : (s.build placed w).Sound := by
  simp only [build]
  split
  · rename_i frame missed
    have onTheWay : s.OnTheWay frame := .inr ⟨w, by rw [missed]; rfl⟩
    split
    · rename_i version registered
      rw [Option.filter_eq_some_iff] at registered
      refine sound_setWorker sound ?_ ?_
      · rintro _ ⟨⟩
        exact onTheWay
      · rintro _ _ ⟨⟩
        exact sound.registered frame onTheWay version registered.1
    · exact sound_setWorker sound (by rintro _ ⟨⟩) (by rintro _ _ ⟨⟩)
  · exact sound

theorem sound_store (sound : s.Sound) (w : ω) : (s.store w).Sound := by
  simp only [store]
  split
  · rename_i frame version built
    have onTheWay : s.OnTheWay frame := .inr ⟨w, by rw [built]; rfl⟩
    obtain rfl := sound.built w frame version built
    have fresh (epoch : ℤ) : Serves s.handled ⟨s.created, frame.configVersion⟩ epoch := by
      intro handled member same
      have older := sound.created.1 handled member
      rw [same] at older
      exact absurd older (Nat.lt_irrefl _)
    have idle : (s.setWorker w .idle).Sound := sound_setWorker sound (by rintro _ ⟨⟩) (by rintro _ _ ⟨⟩)
    have before {other : Frame} (after : (s.setWorker w .idle).OnTheWay other) : s.OnTheWay other :=
      onTheWay_setWorker (by rintro _ ⟨⟩) after
    refine ⟨meetsOwn_append sound.meets rfl (fresh _), idle.alike, idle.registered, idle.built,
      ?_, ?_, ?_⟩
    · rintro other after _ ⟨⟩
      obtain rfl := sound.alike other frame (before after) onTheWay
      exact ⟨rfl, serves_append (fresh _) fun _ => rfl⟩
    · intro handled member
      rcases List.mem_append.mp member with older | last
      · exact Nat.lt_succ_of_lt (sound.created.1 handled older)
      · obtain rfl := List.mem_singleton.mp last
        exact Nat.lt_succ_self _
    · rintro _ ⟨⟩
      exact Nat.lt_succ_self _
  · exact sound

end Pipes

/-! ### Runs -/

namespace State

variable {κ ω : Type} {s : State κ ω}

/-- A frame is filed where its own configuration waits for it, and no registration overtakes a frame of another. -/
def Guarded (s : State κ ω) : Event κ ω → Prop
  | .file | .joined => ∀ task, s.running = some task →
      s.pipes.Ready { epoch := task.target.epoch, configVersion := task.target.configVersion }
  | .write c => ∀ version, s.calls c = some (.read version) →
      ∀ frame, s.pipes.OnTheWay frame → frame.configVersion = version
  | _ => True

variable [DecidableEq κ] [DecidableEq ω] {placed : ℤ → Bool}

omit [DecidableEq ω] in
theorem pipes_stop (target : Option PollTarget) : (s.stop target).pipes = s.pipes := by
  simp only [stop]
  split
  · rfl
  · split
    · rfl
    · dsimp only
      split <;> rfl

theorem sound_step (sound : s.pipes.Sound) (e : Event κ ω) (guarded : s.Guarded e) : (s.step placed e).pipes.Sound := by
  cases e with
  | edited rows => exact sound
  | load =>
    simp only [step]
    split <;> exact sound
  | stop =>
    simp only [step]
    split
    · exact sound
    · rw [pipes_stop]
      exact sound
    · exact sound
  | start =>
    simp only [step]
    split <;> exact sound
  | file =>
    simp only [step]
    split
    · rename_i target running call
      split
      · exact Pipes.sound_submit sound (guarded _ running)
      · exact sound
    · exact sound
  | join =>
    simp only [step]
    split
    · split <;> exact sound
    · exact sound
  | joined =>
    simp only [step]
    split
    · rename_i target running call
      exact Pipes.sound_submit sound (guarded _ running)
    · exact sound
  | ended =>
    simp only [step]
    split <;> exact sound
  | enter k =>
    simp only [step]
    split <;> exact sound
  | read c | fail c =>
    simp only [step]
    split <;> exact sound
  | write c =>
    simp only [step]
    split
    · rename_i version read
      exact Pipes.sound_register sound (guarded version read)
    · exact sound
  | evict c =>
    simp only [step]
    split
    · exact Pipes.sound_evict sound
    · exact sound
  | left => exact Pipes.sound_leave sound
  | swept => exact Pipes.sound_evict sound
  | take w => exact Pipes.sound_take sound w
  | build w => exact Pipes.sound_build sound placed w
  | store w => exact Pipes.sound_store sound w

omit [DecidableEq κ] [DecidableEq ω] in
theorem sound_start : (start : State κ ω).pipes.Sound where
  meets := ⟨fun _ listed => absurd listed List.not_mem_nil, fun _ listed => absurd listed List.not_mem_nil⟩
  alike := by
    rintro _ _ (listed | ⟨w, ⟨⟩⟩)
    exact absurd listed List.not_mem_nil
  registered := by rintro _ _ _ ⟨⟩
  built := by rintro _ _ _ ⟨⟩
  cached := by rintro _ _ _ ⟨⟩
  created := ⟨fun _ listed => absurd listed List.not_mem_nil, by rintro _ ⟨⟩⟩

/-- Where frames are filed only under the configuration that waits for them, and no configuration is registered past
frames of another, every frame is handled by a pipeline of its own configuration and no pipeline has frames of two
epochs. -/
theorem frames_meet_own_configuration (events : List (Event κ ω)) (guarded : Along (step placed) Guarded start events) :
    ∀ before after, events = before ++ after → MeetsOwn (run (step placed) (start : State κ ω) before).pipes.handled := by
  rintro before after rfl
  exact (invariant (I := fun s : State κ ω => s.pipes.Sound) (fun s e => fun sound => sound_step sound e) sound_start
    ((along_append (step placed) Guarded start before after).mp guarded).1).meets

end State

/-- A polled radar's rows. -/
def rowsAt (status : String) (epoch version : ℤ) (host : String) : Registry where
  nodeId := "p1"
  status := status
  activeConfigVersion := some version
  configured := true
  epoch := epoch
  scheme := "http"
  host := host
  port := 80
  endpointKey := host ++ ":80"
  authUser := none
  credentials := .absent
  endpointRaw := host
  probePassedAt := 0
  endpointChangedAt := 0
  unsuperseded := some version
  agrees := rfl

/-- A radar is registered and polled, and one frame of it handled. -/
def polled : List (Event Unit Unit) :=
  [.edited (some (rowsAt "active" 1 1 "first.example")), .enter (), .read (.door ()), .write (.door ()),
    .evict (.door ()), .load, .stop, .start, .file, .take (), .build (), .store ()]

theorem frames_meet_own_configuration_polled :
    MeetsOwn (run (State.step fun _ => true) (.start : State Unit Unit) polled).pipes.handled ∧
      (run (State.step fun _ => true) (.start : State Unit Unit) polled).pipes.handled = [⟨⟨0, 1⟩, ⟨1, 1⟩⟩] := by
  have guarded : Along (State.step fun _ => true) State.Guarded (.start : State Unit Unit) polled := by
    refine ⟨trivial, trivial, trivial, ?_, trivial, trivial, trivial, trivial, ?_, trivial, trivial, trivial, trivial⟩
    · rintro version read frame (listed | ⟨w, ⟨⟩⟩)
      exact absurd listed List.not_mem_nil
    · rintro task ⟨⟩
      refine ⟨rfl, ?_, by rintro _ ⟨⟩⟩
      rintro frame (listed | ⟨w, ⟨⟩⟩)
      exact absurd listed List.not_mem_nil
  exact ⟨State.frames_meet_own_configuration polled guarded polled [] (List.append_nil _).symm, by decide +kernel⟩

/-- The radar is blocked, its owner moves it to another address, and it is unblocked. -/
def movedWhileBlocked : List (Event Unit Unit) :=
  polled ++ [.edited (some (rowsAt "blocked" 1 1 "first.example")), .load, .stop,
    .edited (some (rowsAt "blocked" 2 2 "second.example")), .edited (some (rowsAt "active" 2 2 "second.example")),
    .load, .stop, .start, .file, .take ()]

/-- The frame of the second epoch and version is handled by the pipeline of the first. -/
theorem moved_radar_meets_old_pipeline :
    ¬ ∀ (events before after : List (Event Unit Unit)), events = before ++ after →
      MeetsOwn (run (State.step fun _ => true) .start before).pipes.handled := by
  intro meets
  have handled : (run (State.step fun _ => true) .start movedWhileBlocked).pipes.handled =
      [⟨⟨0, 1⟩, ⟨1, 1⟩⟩, ⟨⟨0, 1⟩, ⟨2, 2⟩⟩] := by
    decide +kernel
  have last := (meets movedWhileBlocked movedWhileBlocked [] (List.append_nil _).symm).version
  rw [handled] at last
  exact absurd (last _ (List.mem_cons_of_mem _ List.mem_cons_self)) (by decide)

end Retina.Polled.Rejoining
