import RetinaServer.Library.Grouping
import RetinaServer.Library.Runs
import RetinaServer.Mirror.WireFrame
import RetinaServer.Registry.Identity

/-! The detection mirror: one queue of accepted frames, drained into batches that
go to every target at once, and the counters an operator reads the losses from. -/
namespace Retina.Mirror
open OrderedDict Runs Grouping
open Tcp (Fields Json)

/-- One receiver, with the accounting that is its own. -/
structure Target where
  label : String
  sent : ℤ := 0
  rejected : ℤ := 0
  failed : ℤ := 0
  healthy : Bool := true
deriving DecidableEq, Repr

structure BulkEntry where
  nodeId : String
  config : Fields
  frames : List Fields
  nodeRef : Option String

/-- The batch under way, and the targets (by their place) whose answers are out. -/
structure Sending where
  entries : List BulkEntry
  waiting : List Nat

structure DetectionMirror where
  targets : List Target
  /-- The queue's capacity; zero and below is none. -/
  maxsize : ℤ
  queue : List (String × DetectionFrame) := []
  accepted : Nat := 0
  dropped : Nat := 0
  unregistered : Nat := 0
  sending : Option Sending := none

/-- What a target's receiver makes of a batch. -/
inductive Answer where
  /-- A transport fault, a timeout, an error status or no JSON. -/
  | lost
  | answered (body : Json)

/-- What the fleet registry and the handles hold when a batch is built. -/
structure Fleet where
  config : String → Option Fields
  ref : String → Option String

inductive MirrorStep where
  | offered (nodeId : String) (frame : DetectionFrame) (inProbation : Bool)
  /-- The loop drains the queue; `faulty` is an exception while the batch is built. -/
  | flushed (fleet : Fleet) (faulty : Bool)
  | answered (i : Nat) (answer : Answer)

/-- The queue is there where a target is configured. -/
def armed (m : DetectionMirror) : Bool := !m.targets.isEmpty

def isFull (m : DetectionMirror) : Bool := decide (0 < m.maxsize ∧ m.maxsize ≤ m.queue.length)

/-- A frame of a node on probation is not for a receiver to solve. -/
def offer (m : DetectionMirror) (nodeId : String) (frame : DetectionFrame) (inProbation : Bool) : DetectionMirror :=
  if !armed m || inProbation then m
  else if isFull m then { m with dropped := m.dropped + 1 }
  else { m with queue := m.queue ++ [(nodeId, frame)], accepted := m.accepted + 1 }

/-- One entry for each node that the registry still has. -/
def buildBatch (fleet : Fleet) (items : List (String × DetectionFrame)) : List BulkEntry :=
  (group (items.map fun item => (item.1, pipelineFrame item.2))).items.filterMap fun entry =>
    (fleet.config entry.1).map fun config =>
      { nodeId := entry.1, config, frames := entry.2, nodeRef := fleet.ref entry.1 }

def frameCount (entries : List BulkEntry) : Nat := (entries.map fun entry => entry.frames.length).sum

/-- `int(response.json()["frames_queued"])`. -/
def framesQueued (parseInt : String → Option ℤ) : Answer → Option ℤ
  | .lost => none
  | .answered body => match (body.item "frames_queued").map (Json.toInt parseInt) with
    | some (.converted landed) => some landed
    | _ => none

/-- A shortfall is rejected, an excess is not believed. -/
def sendToTarget (parseInt : String → Option ℤ) (count : Nat) (answer : Answer) (target : Target) : Target :=
  match framesQueued parseInt answer with
  | none => { target with failed := target.failed + count, healthy := false }
  | some landed =>
      if 0 < count - landed then
        { target with sent := target.sent + landed, rejected := target.rejected + (count - landed), healthy := false }
      else { target with sent := target.sent + count, healthy := true }

def chargeFailed (count : Nat) (target : Target) : Target :=
  { target with failed := target.failed + count, healthy := false }

/-- One turn of the loop, up to its wait for the answers. -/
def flush (m : DetectionMirror) (fleet : Fleet) (faulty : Bool) : DetectionMirror :=
  let items := m.queue
  let m := { m with queue := [] }
  if items.isEmpty then m
  else if faulty then { m with targets := m.targets.map (chargeFailed items.length) }
  else
    let entries := buildBatch fleet items
    let m := { m with unregistered := m.unregistered + (items.length - frameCount entries) }
    if entries.isEmpty then m else { m with sending := some ⟨entries, List.range m.targets.length⟩ }

/-- The batch is done with when the last answer is in. -/
def awaited (batch : Sending) (i : Nat) : Option Sending :=
  let waiting := batch.waiting.filter fun j => decide (j ≠ i)
  if waiting.isEmpty then none else some { batch with waiting }

def mirrorStep (parseInt : String → Option ℤ) (m : DetectionMirror) : MirrorStep → DetectionMirror
  | .offered nodeId frame inProbation => offer m nodeId frame inProbation
  | .flushed fleet faulty => match m.sending with
    | none => if armed m then flush m fleet faulty else m
    | some _ => m
  | .answered i answer => match m.sending with
    | none => m
    | some batch => if i ∈ batch.waiting then
        { m with
          targets := m.targets.modify i (sendToTarget parseInt (frameCount batch.entries) answer)
          sending := awaited batch i }
      else m

/-- Each target with its counters at zero. -/
def DetectionMirror.start (maxsize : ℤ) (labels : List String) : DetectionMirror :=
  { targets := labels.map fun label => { label }, maxsize }

/-! ### Counting a batch -/

theorem frameCount_buildBatch_le (fleet : Fleet) (items : List (String × DetectionFrame)) :
    frameCount (buildBatch fleet items) ≤ items.length := by
  have sum_le (groups : List (String × List Fields)) :
      frameCount (groups.filterMap fun entry => (fleet.config entry.1).map fun config =>
        { nodeId := entry.1, config, frames := entry.2, nodeRef := fleet.ref entry.1 }) ≤
        (groups.map fun entry => entry.2.length).sum := by
    induction groups with
    | nil => simp [frameCount]
    | cons entry rest ih =>
      rw [List.filterMap_cons]
      cases fleet.config entry.1 with
      | none =>
        simp only [Option.map_none, List.map_cons, List.sum_cons]
        omega
      | some config =>
        simp only [frameCount, Option.map_some, List.map_cons, List.sum_cons] at ih ⊢
        omega
  have all := total_group (items.map fun item => (item.1, pipelineFrame item.2))
  rw [List.length_map] at all
  exact (sum_le _).trans all.le

def Target.charged (target : Target) : ℤ := target.sent + target.rejected + target.failed

/-- Whatever the answer, every frame of the batch is charged to the target once. -/
theorem sendToTarget_charged (parseInt : String → Option ℤ) (count : Nat) (answer : Answer) (target : Target) :
    (sendToTarget parseInt count answer target).charged = target.charged + count := by
  rw [sendToTarget]
  split
  · simp only [Target.charged]
    omega
  · split
    · simp only [Target.charged]
      omega
    · simp only [Target.charged]
      omega

theorem chargeFailed_charged (count : Nat) (target : Target) :
    (chargeFailed count target).charged = target.charged + count := by
  simp only [chargeFailed, Target.charged]
  omega

/-- The target's frames of the batch that is still out with it. -/
def outWith (sending : Option Sending) (i : Nat) : Nat :=
  sending.elim 0 fun batch => if i ∈ batch.waiting then frameCount batch.entries else 0

/-- Each target's counters, with what is queued and what is out with it, come to what was accepted. -/
def Accounts (m : DetectionMirror) : Prop :=
  ∀ i target, m.targets[i]? = some target →
    (m.accepted : ℤ) = target.charged + outWith m.sending i + m.unregistered + m.queue.length

theorem outWith_awaited (batch : Sending) (i j : Nat) :
    outWith (awaited batch i) j = if j = i then 0 else outWith (some batch) j := by
  have kept : j ∈ batch.waiting.filter (fun k => decide (k ≠ i)) ↔ j ∈ batch.waiting ∧ j ≠ i := by simp
  simp only [awaited]
  split
  · rename_i last
    rw [List.isEmpty_iff.mp last] at kept
    by_cases same : j = i
    · rw [if_pos same]
      rfl
    · have none_left : j ∉ batch.waiting := fun member => by
        simp [member, same] at kept
      simp [outWith, same, none_left]
  · simp only [outWith, Option.elim_some, kept]
    by_cases same : j = i
    · simp [same]
    · simp [same]

theorem offer_accounts {m : DetectionMirror} (accounts : Accounts m) (nodeId : String) (frame : DetectionFrame)
    (inProbation : Bool) : Accounts (offer m nodeId frame inProbation) := by
  rw [offer]
  split
  · exact accounts
  · split
    · exact accounts
    · intro i target found
      have before := accounts i target found
      simp only [List.length_append, List.length_cons, List.length_nil]
      push_cast
      omega

theorem flush_accounts {m : DetectionMirror} (accounts : Accounts m) (idle : m.sending = none) (fleet : Fleet)
    (faulty : Bool) : Accounts (flush m fleet faulty) := by
  have before (i : Nat) (target : Target) (found : m.targets[i]? = some target) :
      (m.accepted : ℤ) = target.charged + m.unregistered + m.queue.length := by
    have held := accounts i target found
    rw [idle] at held
    simpa [outWith] using held
  simp only [flush]
  split
  · rename_i empty
    intro i target found
    have held := before i target found
    rw [List.isEmpty_iff.mp empty] at held
    simpa [outWith, idle] using held
  · split
    · intro i target found
      simp only [List.getElem?_map, Option.map_eq_some_iff] at found
      obtain ⟨target', found', rfl⟩ := found
      have held := before i target' found'
      simp only [chargeFailed_charged, idle, outWith, Option.elim_none, List.length_nil]
      push_cast
      omega
    · have built := frameCount_buildBatch_le fleet m.queue
      split
      · rename_i none_built
        intro i target found
        have held := before i target found
        rw [List.isEmpty_iff.mp none_built] at built ⊢
        simp only [idle, outWith, Option.elim_none, List.length_nil, frameCount, List.map_nil, List.sum_nil]
        push_cast
        omega
      · intro i target found
        have held := before i target found
        have placed : i < m.targets.length := (List.getElem?_eq_some_iff.mp found).1
        simp only [outWith, Option.elim_some, List.mem_range, placed, if_true, List.length_nil]
        push_cast
        omega

theorem answered_accounts {m : DetectionMirror} (accounts : Accounts m) {batch : Sending}
    (under_way : m.sending = some batch) (waits : i ∈ batch.waiting) (parseInt : String → Option ℤ) (answer : Answer) :
    Accounts { m with
      targets := m.targets.modify i (sendToTarget parseInt (frameCount batch.entries) answer)
      sending := awaited batch i } := by
  intro j target found
  simp only at found ⊢
  rw [List.getElem?_modify, Option.map_eq_map, Option.map_eq_some_iff] at found
  obtain ⟨target', found', rfl⟩ := found
  have held := accounts j target' found'
  rw [under_way] at held
  rw [outWith_awaited]
  by_cases same : i = j
  · subst same
    simp only [outWith, Option.elim_some, waits, if_true] at held
    simp only [if_true, sendToTarget_charged]
    push_cast
    omega
  · rw [if_neg same, if_neg (Ne.symm same)]
    exact held

theorem mirrorStep_accounts (parseInt : String → Option ℤ) {m : DetectionMirror} (accounts : Accounts m)
    (e : MirrorStep) : Accounts (mirrorStep parseInt m e) := by
  cases e with
  | offered nodeId frame inProbation => exact offer_accounts accounts nodeId frame inProbation
  | flushed fleet faulty =>
    simp only [mirrorStep]
    cases idle : m.sending with
    | none =>
      simp only
      split
      · exact flush_accounts accounts idle fleet faulty
      · exact accounts
    | some batch => exact accounts
  | answered i answer =>
    simp only [mirrorStep]
    cases under_way : m.sending with
    | none => exact accounts
    | some batch =>
      simp only
      split
      · rename_i waits
        exact answered_accounts accounts under_way waits parseInt answer
      · exact accounts

theorem start_accounts (maxsize : ℤ) (labels : List String) : Accounts (.start maxsize labels) := by
  intro i target found
  simp only [DetectionMirror.start, List.getElem?_map, Option.map_eq_some_iff] at found
  obtain ⟨label, -, rfl⟩ := found
  rfl

/-! ### What is offered -/

/-- A frame that a node off probation hands over. -/
def offersFrame : MirrorStep → Bool
  | .offered _ _ inProbation => !inProbation
  | _ => false

/-- A step leaves the targets, charges all of them with a batch that failed, or one of them with its answer. -/
theorem mirrorStep_targets (parseInt : String → Option ℤ) (m : DetectionMirror) (e : MirrorStep) :
    (mirrorStep parseInt m e).targets = m.targets ∨
      (∃ count, (mirrorStep parseInt m e).targets = m.targets.map (chargeFailed count)) ∨
      ∃ i answer count, e = .answered i answer ∧
        (mirrorStep parseInt m e).targets = m.targets.modify i (sendToTarget parseInt count answer) := by
  cases e with
  | offered nodeId frame inProbation =>
    refine .inl ?_
    simp only [mirrorStep, offer]
    split
    · rfl
    · split <;> rfl
  | flushed fleet faulty =>
    simp only [mirrorStep]
    split
    · split
      · simp only [flush]
        split
        · exact .inl rfl
        · split
          · exact .inr (.inl ⟨_, rfl⟩)
          · split
            · exact .inl rfl
            · exact .inl rfl
      · exact .inl rfl
    · exact .inl rfl
  | answered i answer =>
    simp only [mirrorStep]
    split
    · exact .inl rfl
    · split
      · exact .inr (.inr ⟨i, answer, _, rfl, rfl⟩)
      · exact .inl rfl

theorem mirrorStep_targets_length (parseInt : String → Option ℤ) (m : DetectionMirror) (e : MirrorStep) :
    (mirrorStep parseInt m e).targets.length = m.targets.length := by
  rcases mirrorStep_targets parseInt m e with kept | ⟨count, charged⟩ | ⟨i, answer, count, -, sent⟩
  · rw [kept]
  · rw [charged, List.length_map]
  · rw [sent, List.length_modify]

theorem armed_iff (m : DetectionMirror) : armed m = true ↔ m.targets.length ≠ 0 := by
  simp [armed]

/-- Only an offer counts a frame in, and it counts it once. -/
theorem mirrorStep_taken (parseInt : String → Option ℤ) {m : DetectionMirror} (isArmed : armed m = true)
    (e : MirrorStep) :
    (mirrorStep parseInt m e).accepted + (mirrorStep parseInt m e).dropped =
      m.accepted + m.dropped + if offersFrame e then 1 else 0 := by
  cases e with
  | offered nodeId frame inProbation =>
    cases inProbation with
    | true => simp [mirrorStep, offer, offersFrame]
    | false =>
      simp only [mirrorStep, offer, isArmed, offersFrame, Bool.not_true, Bool.or_self, Bool.false_eq_true, if_false,
        Bool.not_false, if_true]
      split
      · rfl
      · exact Nat.add_right_comm _ _ _
  | flushed fleet faulty =>
    simp only [mirrorStep, isArmed, if_true]
    split
    · simp only [flush]
      split
      · rfl
      · split
        · rfl
        · split <;> rfl
    · rfl
  | answered i answer =>
    simp only [mirrorStep]
    split
    · rfl
    · split <;> rfl

theorem run_taken (parseInt : String → Option ℤ) {m : DetectionMirror} (isArmed : armed m = true)
    (steps : List MirrorStep) :
    (run (mirrorStep parseInt) m steps).accepted + (run (mirrorStep parseInt) m steps).dropped =
      m.accepted + m.dropped + (steps.filter offersFrame).length := by
  induction steps generalizing m with
  | nil => rfl
  | cons e rest ih =>
    have stays : armed (mirrorStep parseInt m e) = true := by
      rw [armed_iff, mirrorStep_targets_length]
      exact (armed_iff m).mp isArmed
    rw [run_cons, ih stays, mirrorStep_taken parseInt isArmed, List.filter_cons]
    split
    · simp only [List.length_cons]
      omega
    · rfl

/-! ### Counters that never go down -/

/-- The receivers' answers count no fewer than zero frames. -/
def CountsUp (parseInt : String → Option ℤ) : MirrorStep → Prop
  | .answered _ answer => ∀ landed, framesQueued parseInt answer = some landed → 0 ≤ landed
  | _ => True

def Target.le (target target' : Target) : Prop :=
  target.sent ≤ target'.sent ∧ target.rejected ≤ target'.rejected ∧ target.failed ≤ target'.failed

theorem sendToTarget_le (parseInt : String → Option ℤ) (count : Nat) (answer : Answer)
    (up : ∀ landed, framesQueued parseInt answer = some landed → 0 ≤ landed) (target : Target) :
    target.le (sendToTarget parseInt count answer target) := by
  rw [sendToTarget]
  split
  · exact ⟨le_refl _, le_refl _, by simp⟩
  · rename_i landed taken
    have landed_up := up landed taken
    split
    · rename_i short
      exact ⟨by simpa using landed_up, by simpa using short.le, le_refl _⟩
    · exact ⟨by simp, le_refl _, le_refl _⟩

theorem mirrorStep_le (parseInt : String → Option ℤ) (m : DetectionMirror) (e : MirrorStep) {i : Nat} {target : Target}
    (up : CountsUp parseInt e) (found : m.targets[i]? = some target) :
    ∃ target', (mirrorStep parseInt m e).targets[i]? = some target' ∧ target.le target' := by
  rcases mirrorStep_targets parseInt m e with kept | ⟨count, charged⟩ | ⟨j, answer, count, rfl, sent⟩
  · rw [kept]
    exact ⟨target, found, le_refl _, le_refl _, le_refl _⟩
  · refine ⟨chargeFailed count target, by simp [charged, found], le_refl _, le_refl _, ?_⟩
    simp [chargeFailed]
  · by_cases here : j = i
    · subst here
      refine ⟨sendToTarget parseInt count answer target, by simp [sent, found], ?_⟩
      exact sendToTarget_le parseInt _ answer up target
    · exact ⟨target, by simp [sent, found, here], le_refl _, le_refl _, le_refl _⟩

theorem run_le (parseInt : String → Option ℤ) (m : DetectionMirror) (steps : List MirrorStep) {i : Nat}
    {target : Target} (up : ∀ e ∈ steps, CountsUp parseInt e) (found : m.targets[i]? = some target) :
    ∃ target', (run (mirrorStep parseInt) m steps).targets[i]? = some target' ∧ target.le target' := by
  induction steps generalizing m target with
  | nil => exact ⟨target, found, le_refl _, le_refl _, le_refl _⟩
  | cons e rest ih =>
    obtain ⟨target₁, found₁, first⟩ := mirrorStep_le parseInt m e (up e List.mem_cons_self) found
    obtain ⟨target₂, found₂, second⟩ := ih _ (fun e member => up e (List.mem_cons_of_mem _ member)) found₁
    exact ⟨target₂, found₂, first.1.trans second.1, first.2.1.trans second.2.1, first.2.2.trans second.2.2⟩

/-- At every turn of the loop each target's counters, with the unregistered and the queued frames, come to the frames
accepted; each frame that a node off probation offered was accepted or dropped; and where no receiver counts below
zero, no counter of a target ever goes down. -/
theorem mirror_accounted (parseInt : String → Option ℤ) (maxsize : ℤ) (label : String) (labels : List String)
    (steps later : List MirrorStep) :
    let m := run (mirrorStep parseInt) (.start maxsize (label :: labels)) steps
    (m.sending = none → ∀ target ∈ m.targets,
      target.sent + target.rejected + target.failed + m.unregistered + m.queue.length = m.accepted) ∧
    m.accepted + m.dropped = (steps.filter offersFrame).length ∧
    ((∀ e ∈ later, CountsUp parseInt e) → ∀ (i : Nat) (target : Target), m.targets[i]? = some target →
      ∃ target' : Target, (run (mirrorStep parseInt) m later).targets[i]? = some target' ∧ target.le target') := by
  intro m
  refine ⟨fun idle target member => ?_, ?_, fun up i target found => run_le parseInt m later up found⟩
  · have preserved (m : DetectionMirror) (e : MirrorStep) (held : Accounts m) : Accounts (mirrorStep parseInt m e) :=
      mirrorStep_accounts parseInt held e
    have accounts : Accounts m := invariant_always preserved (start_accounts maxsize (label :: labels)) steps
    obtain ⟨i, found⟩ := List.getElem?_of_mem member
    have held := accounts i target found
    rw [idle] at held
    simpa [outWith, Target.charged] using held.symm
  · have taken := run_taken parseInt (m := .start maxsize (label :: labels)) rfl steps
    exact taken.trans (Nat.zero_add _)

def emptyFrame : DetectionFrame :=
  { t := 0, seq := 0, bootId := "boot", configVersion := 1, delay := [], doppler := [], snr := [] }

/-- The frame of a node on probation is neither accepted nor dropped. -/
theorem probation_frame_uncounted :
    ¬ ∀ offers : List (String × DetectionFrame × Bool),
      let m := run (mirrorStep fun _ => none) (.start 240 ["receiver"])
        (offers.map fun given => .offered given.1 given.2.1 given.2.2)
      m.accepted + m.dropped = offers.length := by
  intro counted
  exact absurd (counted [("bla4k2m9x7qp1zt", emptyFrame, true)]) (by decide)

end Retina.Mirror
