import RetinaServer.Library.Runs
import RetinaServer.Mirror.WireFrame

/-! One polled radar: its rows in the registry, the task that polls it, and the
frames that its node's pipeline has been given. -/
namespace Retina.Polled
open OrderedDict Runs
open Mirror (DetectionFrame pipelineFrame)
open Tcp (Fields Json)

def MAX_CLOCK_OFFSET_S : ℚ := 10
def REREGISTER_INTERVAL_S : ℚ := 60
def MAX_DETECTIONS : Nat := 512
/-- The speed of light, in km/µs. -/
def C_KM_US : ℚ := 299792458 / 1000000000
def CUSTODY_CLASS : String := "polled"

/-- A frame as the radar serves it; its arrays are of one length. -/
structure Blah2Frame where
  timestampMs : ℤ
  delayKm : List ℚ
  dopplerHz : List ℚ
  snrDb : List ℚ

structure PolledEndpoint where
  scheme : String
  host : String
  port : Nat
  endpointKey : String
  authUser : Option String
  authSecret : Option String
  raw : String
deriving DecidableEq

/-- A change to any field restarts the task. -/
structure PollTarget where
  nodeId : String
  epoch : ℤ
  configVersion : ℤ
  endpoint : PolledEndpoint
deriving DecidableEq

/-- What `poller_credentials` comes to. -/
inductive Credentials where
  | undecryptable
  | absent
  | held (user secret : String)
deriving DecidableEq

/-- The node's row and the radar's. -/
structure Rows where
  nodeId : String
  status : String
  activeConfigVersion : Option ℤ
  /-- One of the node's configurations is not superseded. -/
  configured : Bool
  epoch : ℤ
  scheme : String
  host : String
  port : Nat
  endpointKey : String
  authUser : Option String
  credentials : Credentials
  endpointRaw : String
  probePassedAt : ℚ
  endpointChangedAt : ℚ

/-- The radar's part of `load_targets`. -/
def loadTarget (rows : Rows) : Option PollTarget :=
  if rows.status = "active" ∧ rows.endpointChangedAt ≤ rows.probePassedAt then
    match rows.activeConfigVersion, rows.credentials with
    | none, _ | _, .undecryptable => none
    | some version, .absent => some (target version rows.authUser none)
    | some version, .held user secret => some (target version (some user) (some secret))
  else none
where
  target (version : ℤ) (authUser authSecret : Option String) : PollTarget :=
    { nodeId := rows.nodeId, epoch := rows.epoch, configVersion := version
      endpoint :=
        { scheme := rows.scheme, host := rows.host, port := rows.port, endpointKey := rows.endpointKey
          authUser, authSecret, raw := rows.endpointRaw } }

/-- `none` is a frame that the contract cannot carry. -/
def wireFrame (frame : Blah2Frame) (seq : Nat) (bootId : String) (configVersion : ℤ) : Option DetectionFrame :=
  if MAX_DETECTIONS < frame.delayKm.length then none
  else if 0 ≤ frame.timestampMs ∧ 1 ≤ configVersion ∧ frame.dopplerHz.length = frame.delayKm.length ∧
      frame.snrDb.length = frame.delayKm.length then
    some
      { t := frame.timestampMs / 1000, seq, bootId, configVersion
        delay := frame.delayKm.map fun d => d / C_KM_US
        doppler := frame.dopplerHz
        snr := frame.snrDb
        adsbHex := some (List.replicate frame.delayKm.length none) }
  else none

/-- A radar's task. -/
structure RadarPoller where
  target : PollTarget
  /-- The tasks of a radar are counted. -/
  task : Nat
  bootId : String
  seq : Nat := 0
  lastTimestampMs : ℤ := 0
  reason : Option String := none
  registerDue : ℚ := 0
  /-- `run` has returned. -/
  done : Bool := false

/-- A frame on the queue, with the task that filed it. -/
structure Filed where
  task : Nat
  timestampMs : ℤ
  frame : Fields

structure Radar where
  rows : Option Rows := none
  running : Option RadarPoller := none
  started : Nat := 0
  /-- The node is in `connected_nodes`. -/
  connected : Bool := false
  /-- What was filed under the node since its pipeline was last evicted. -/
  filed : List Filed := []

/-- An answer with a frame in it, and what the task meets while it files that. -/
structure Poll where
  frame : Blah2Frame
  now : ℚ
  monotonic : ℚ
  /-- The database can be read. -/
  reached : Bool
  /-- The frame queue takes a frame. -/
  room : Bool

inductive Event where
  /-- An edit, a probe or a session's check of the configuration writes the rows. -/
  | edited (rows : Option Rows)
  /-- The poller reads the registry; a task it starts draws its boot id. -/
  | synced (bootId : String) (reached : Bool)
  | polled (poll : Poll)
  /-- The answer holds no frame. -/
  | refused (code : String)
  /-- The task finds that its target has moved on. -/
  | superseded
  /-- Another door hands the node's configuration to the pipeline. -/
  | registered
  /-- The node leaves the registries. -/
  | left
  | evicted

/-- Re-registering evicts the node's pipeline. -/
def registerWithPipeline (r : Radar) : Radar := { r with connected := true, filed := [] }

/-- A configuration is there to be handed on. -/
def Rows.registrable (rows : Option Rows) : Bool := rows.any Rows.configured

def rejoin (r : Radar) (reached : Bool) : Radar :=
  if reached && Rows.registrable r.rows then registerWithPipeline r else r

def startTask (r : Radar) (target : PollTarget) (bootId : String) : Radar :=
  { r with running := some { target, task := r.started, bootId }, started := r.started + 1 }

/-- The frame in an answer is new to the task and on time. -/
def taken (p : RadarPoller) (frame : Blah2Frame) (now : ℚ) : Bool :=
  decide (p.lastTimestampMs < frame.timestampMs) &&
    decide (|(frame.timestampMs : ℚ) / 1000 - now| ≤ MAX_CLOCK_OFFSET_S)

/-- Only a frame that is taken moves the task's mark. -/
def answered (p : RadarPoller) (frame : Blah2Frame) (now : ℚ) : RadarPoller × Option Blah2Frame :=
  if frame.timestampMs ≤ p.lastTimestampMs then ({ p with reason := some "stalled" }, none)
  -- A stamp too large for a float raises, and is no more filed than one out of step.
  else if MAX_CLOCK_OFFSET_S < |(frame.timestampMs : ℚ) / 1000 - now| then ({ p with reason := some "clock_offset" }, none)
  else ({ p with lastTimestampMs := frame.timestampMs }, some frame)

/-- The node is in the registries, or rejoins them. -/
def inPipeline (r : Radar) (p : RadarPoller) (monotonic : ℚ) (reached : Bool) : Radar × RadarPoller × Bool :=
  if r.connected then (r, p, true)
  else if monotonic < p.registerDue then (r, p, false)
  else
    let p := { p with registerDue := monotonic + REREGISTER_INTERVAL_S }
    if reached && (r.rows.any fun rows => decide (rows.status = "active")) && Rows.registrable r.rows then
      (registerWithPipeline r, p, true)
    else (r, p, false)

def queued (p : RadarPoller) (wire : DetectionFrame) : Fields :=
  put "_node_id" (.str p.target.nodeId)
    (put "epoch" (.int p.target.epoch) (put "signing_mode" (.str CUSTODY_CLASS) (pipelineFrame wire)))

/-- A frame is counted whether or not it is queued. -/
def fileFrame (r : Radar) (p : RadarPoller) (poll : Poll) : Radar :=
  let wire := wireFrame poll.frame p.seq p.bootId p.target.configVersion
  let p := { p with seq := p.seq + 1 }
  match wire with
  | none => { r with running := some { p with reason := some "too_many_detections" } }
  | some wire => match inPipeline r p poll.monotonic poll.reached with
    | (r, p, false) => { r with running := some p }
    | (r, p, true) =>
        if poll.room then
          { r with
            running := some { p with reason := none }
            filed := r.filed ++ [{ task := p.task, timestampMs := poll.frame.timestampMs, frame := queued p wire }] }
        else { r with running := some p }

def pollOnce (r : Radar) (p : RadarPoller) (poll : Poll) : Radar :=
  match answered p poll.frame poll.now with
  | (p, none) => { r with running := some p }
  | (p, some _) => fileFrame r p poll

/-- The task is kept where it is running under the target of the registry. -/
def kept (r : Radar) : Bool := r.running.any fun p => !p.done && decide (r.rows.bind loadTarget = some p.target)

/-- A task that is stopped has its configuration handed on where the epoch or the version has moved. -/
def sync (r : Radar) (bootId : String) (reached : Bool) : Radar :=
  if kept r then r
  else match r.rows.bind loadTarget with
    | none => { r with running := none }
    | some target =>
        let moved := r.running.any fun p =>
          decide ((target.epoch, target.configVersion) ≠ (p.target.epoch, p.target.configVersion))
        startTask (if moved then rejoin r reached else r) target bootId

def withTask (r : Radar) (f : RadarPoller → Radar) : Radar :=
  match r.running with
  | some p => if p.done then r else f p
  | none => r

def step (r : Radar) : Event → Radar
  | .edited rows => { r with rows }
  | .synced bootId reached => sync r bootId reached
  | .polled poll => withTask r fun p => pollOnce r p poll
  | .refused code => withTask r fun p => { r with running := some { p with reason := some code } }
  | .superseded => withTask r fun p => { r with running := some { p with done := true } }
  | .registered => registerWithPipeline r
  | .left => { r with connected := false }
  | .evicted => { r with filed := [] }

end Retina.Polled
