import RetinaServer.Library.Dict
import RetinaServer.Library.Ledger
import RetinaServer.Library.Runs
import Mathlib.Algebra.GroupWithZero.Nat
import Mathlib.Algebra.Order.Ring.Rat
import Mathlib.Data.Finset.Basic
import Mathlib.Order.Lattice

/-! Batched archiving of frames. Frame workers append, any thread may flush a
node or give up on a departed one, and only the write itself happens outside the
lock, so a step here is one locked section or one write. -/
namespace Retina.Frames
open Runs

def archiveBatchMax : Nat := 10000
def archiveBufferHardCap : Nat := archiveBatchMax * 2

/-- How far a flush is once it has its snapshot. -/
inductive FlushStage where
  | snapshot
  | written
  | failed
deriving DecidableEq, Repr

/-- What a thread is at. The expired nodes and the connected ones are read at
different times. -/
inductive Activity (F : Type u) where
  | idle
  | flushing (nodeId : String) (frames : List F) (stage : FlushStage)
  | reclaiming (expired : List String) (live : Option (List String))

/-- The module's state, the threads, and what went in, out and overboard so far:
a warning gives a node and a number of frames. -/
structure Archive (T : Type v) (F : Type u) where
  buffer : Dict String (List F)
  inflight : Finset String
  failSince : Dict String ℚ
  threads : T → Activity F
  appended : List (String × F)
  written : List (String × F)
  warnings : List (String × Nat)

inductive ArchiveStep (T : Type v) (F : Type u) where
  | append (nodeId : String) (frame : F)
  | beginFlush (t : T) (nodeId : String)
  | releaseEmpty (t : T)
  /-- `archive_detections` returns or raises. -/
  | write (t : T) (ok : Bool)
  | finishFlush (t : T) (now : ℚ)
  | findExpired (t : T) (now : ℚ)
  | readLive (t : T) (connected : List String)
  | abandon (t : T)

section
variable {T : Type v} {F : Type u}

def Archive.empty : Archive T F := ⟨Dict.empty, ∅, Dict.empty, fun _ => .idle, [], [], []⟩

def bufferOf (s : Archive T F) (nodeId : String) : List F := (s.buffer.get? nodeId).getD []

/-- Of a sequence of frames, those of one node. -/
def filedUnder (nodeId : String) (items : List (String × F)) : List F :=
  items.filterMap fun item => if item.1 = nodeId then some item.2 else none

/-- The frames the warnings count as dropped for one node. -/
def droppedOf (nodeId : String) (warnings : List (String × Nat)) : Nat := (filedUnder nodeId warnings).sum

/-- Oldest frames beyond the cap go, and are counted. -/
def capBuffer (hardCap : Nat) (s : Archive T F) (nodeId : String) : Archive T F :=
  let buf := bufferOf s nodeId
  if hardCap < buf.length then
    let dropped := buf.length - hardCap
    { s with buffer := s.buffer.insert nodeId (buf.drop dropped), warnings := s.warnings ++ [(nodeId, dropped)] }
  else s

/-- The frames that were written leave the front of the buffer. -/
def truncateBuffer (s : Archive T F) (nodeId : String) (nWritten : Nat) : Archive T F :=
  let remaining := (bufferOf s nodeId).drop nWritten
  { s with buffer := if remaining.isEmpty then s.buffer.erase nodeId else s.buffer.insert nodeId remaining }

def abandonNode (live : List String) (s : Archive T F) (nodeId : String) : Archive T F :=
  if nodeId ∈ live ∨ nodeId ∈ s.inflight then s
  else { s with
    buffer := s.buffer.erase nodeId
    failSince := s.failSince.erase nodeId
    warnings := s.warnings ++ [(nodeId, (bufferOf s nodeId).length)] }

/-- One node's account, when the frames in `ahead` are written but still buffered. -/
def Account (s : Archive T F) (nodeId : String) (ahead : List F) : Prop :=
  Ledger.Balanced (filedUnder nodeId s.appended) (bufferOf s nodeId) ahead (filedUnder nodeId s.written)
    (droppedOf nodeId s.warnings)

/-- A flush has its node to itself, and what it took still heads the buffer. -/
structure Accounted (s : Archive T F) : Prop where
  held : ∀ t nodeId frames stage, s.threads t = .flushing nodeId frames stage →
    nodeId ∈ s.inflight ∧ frames <+: bufferOf s nodeId
  sole : ∀ t t' nodeId frames frames' stage stage', s.threads t = .flushing nodeId frames stage →
    s.threads t' = .flushing nodeId frames' stage' → t = t'
  running : ∀ t nodeId frames, s.threads t = .flushing nodeId frames .written → Account s nodeId frames
  resting : ∀ nodeId, (∀ t frames, s.threads t ≠ .flushing nodeId frames .written) → Account s nodeId []

theorem empty_accounted : Accounted (Archive.empty : Archive T F) := by
  refine ⟨by simp [Archive.empty], by simp [Archive.empty], by simp [Archive.empty], ?_⟩
  intro nodeId _
  exact Ledger.balanced_empty

theorem filedUnder_append (nodeId : String) (first second : List (String × α)) :
    filedUnder nodeId (first ++ second) = filedUnder nodeId first ++ filedUnder nodeId second :=
  List.filterMap_append

theorem filedUnder_map (nodeId other : String) (frames : List F) :
    filedUnder nodeId (frames.map fun f => (other, f)) = if other = nodeId then frames else [] := by
  induction frames with
  | nil => simp [filedUnder]
  | cons f rest ih =>
    by_cases same : other = nodeId
    · subst same
      simp [filedUnder]
    · simp [filedUnder, same]

theorem filedUnder_other (items : List (String × α)) (x : α) (other : nodeId' ≠ nodeId) :
    filedUnder nodeId (items ++ [(nodeId', x)]) = filedUnder nodeId items := by
  simp [filedUnder, other]

theorem filedUnder_own (nodeId : String) (items : List (String × α)) (x : α) :
    filedUnder nodeId (items ++ [(nodeId, x)]) = filedUnder nodeId items ++ [x] := by
  simp [filedUnder]

theorem droppedOf_own (nodeId : String) (warnings : List (String × Nat)) (n : Nat) :
    droppedOf nodeId (warnings ++ [(nodeId, n)]) = droppedOf nodeId warnings + n := by
  simp [droppedOf, filedUnder_own]

theorem droppedOf_other (warnings : List (String × Nat)) (n : Nat) (other : nodeId' ≠ nodeId) :
    droppedOf nodeId (warnings ++ [(nodeId', n)]) = droppedOf nodeId warnings := by
  rw [droppedOf, filedUnder_other warnings n other, droppedOf]

/-- A step on one node's buffer and warnings leaves the other nodes' as they are. -/
structure OnlyAt (s s' : Archive T F) (nodeId : String) : Prop where
  appended : s'.appended = s.appended
  written : s'.written = s.written
  buffer : ∀ n, n ≠ nodeId → bufferOf s' n = bufferOf s n
  dropped : ∀ n, n ≠ nodeId → droppedOf n s'.warnings = droppedOf n s.warnings

theorem OnlyAt.account {s s' : Archive T F} (only : OnlyAt s s' nodeId) (other : n ≠ nodeId)
    (account : Account s n ahead) : Account s' n ahead := by
  simp only [Account] at account ⊢
  rwa [only.appended, only.written, only.buffer n other, only.dropped n other]

theorem capBuffer_only (hardCap : Nat) (s : Archive T F) (nodeId : String) :
    OnlyAt s (capBuffer hardCap s nodeId) nodeId := by
  simp only [capBuffer]
  split
  · refine ⟨rfl, rfl, ?_, ?_⟩
    · intro n other
      simp [bufferOf, Dict.get?_insert_ne _ _ (Ne.symm other)]
    · intro n other
      exact droppedOf_other _ _ (Ne.symm other)
  · exact ⟨rfl, rfl, fun _ _ => rfl, fun _ _ => rfl⟩

theorem truncateBuffer_only (s : Archive T F) (nodeId : String) (nWritten : Nat) :
    OnlyAt s (truncateBuffer s nodeId nWritten) nodeId := by
  refine ⟨rfl, rfl, ?_, fun _ _ => rfl⟩
  intro n other
  cases gone : ((bufferOf s nodeId).drop nWritten).isEmpty
  · simp only [truncateBuffer, gone, Bool.false_eq_true, if_false]
    exact congrArg (Option.getD · []) (Dict.get?_insert_ne _ _ (Ne.symm other))
  · simp only [truncateBuffer, gone, if_true]
    exact congrArg (Option.getD · []) (Dict.get?_erase_ne _ (Ne.symm other))

theorem capBuffer_account (hardCap : Nat) {s : Archive T F} (account : Account s nodeId []) :
    Account (capBuffer hardCap s nodeId) nodeId [] := by
  simp only [capBuffer]
  split
  · simp only [Account, droppedOf_own]
    have kept : bufferOf s nodeId = (bufferOf s nodeId).take ((bufferOf s nodeId).length - hardCap) ++
        (bufferOf s nodeId).drop ((bufferOf s nodeId).length - hardCap) := (List.take_append_drop _ _).symm
    rw [Account, kept] at account
    have given := account.give_up
    rw [List.length_take, min_eq_left (Nat.sub_le _ _)] at given
    simpa [bufferOf] using given
  · exact account

theorem truncateBuffer_account {s : Archive T F} (front : frames <+: bufferOf s nodeId)
    (account : Account s nodeId frames) : Account (truncateBuffer s nodeId frames.length) nodeId [] := by
  obtain ⟨rest, split⟩ := front
  have remaining : bufferOf (truncateBuffer s nodeId frames.length) nodeId = rest := by
    simp only [truncateBuffer, ← split, List.drop_left]
    by_cases gone : rest = []
    · simp [bufferOf, gone]
    · simp [bufferOf, gone]
  rw [Account, ← split] at account
  rw [Account, remaining]
  exact account.settle

theorem abandonNode_only (live : List String) (s : Archive T F) (nodeId : String) :
    OnlyAt s (abandonNode live s nodeId) nodeId := by
  simp only [abandonNode]
  split
  · exact ⟨rfl, rfl, fun _ _ => rfl, fun _ _ => rfl⟩
  · refine ⟨rfl, rfl, ?_, ?_⟩
    · intro n other
      simp [bufferOf, Dict.get?_erase_ne _ (Ne.symm other)]
    · intro n other
      exact droppedOf_other _ _ (Ne.symm other)

theorem abandonNode_threads (live : List String) (s : Archive T F) (nodeId : String) :
    (abandonNode live s nodeId).threads = s.threads ∧ (abandonNode live s nodeId).inflight = s.inflight := by
  simp only [abandonNode]
  split <;> exact ⟨rfl, rfl⟩

/-- Only a node that no flush holds is given up on. -/
theorem abandonNode_accounted {s : Archive T F} (accounted : Accounted s) (live : List String) (nodeId : String) :
    Accounted (abandonNode live s nodeId) := by
  by_cases spared : nodeId ∈ live ∨ nodeId ∈ s.inflight
  · simpa only [abandonNode, if_pos spared] using accounted
  · have only := abandonNode_only live s nodeId
    obtain ⟨threads, inflight⟩ := abandonNode_threads live s nodeId
    have elsewhere (t : T) (n : String) (fs : List F) (st : FlushStage) (flying : s.threads t = .flushing n fs st) :
        n ≠ nodeId := by
      rintro rfl
      exact spared (.inr (accounted.held t n fs st flying).1)
    refine ⟨?_, ?_, ?_, ?_⟩
    · intro t n fs st flying
      rw [threads] at flying
      rw [inflight, only.buffer n (elsewhere t n fs st flying)]
      exact accounted.held t n fs st flying
    · rw [threads]
      exact accounted.sole
    · intro t n fs flying
      rw [threads] at flying
      exact only.account (elsewhere t n fs .written flying) (accounted.running t n fs flying)
    · intro n quiet
      rw [threads] at quiet
      have account := accounted.resting n quiet
      by_cases same : n = nodeId
      · subst same
        rw [Account, ← List.append_nil (bufferOf s n)] at account
        have given := account.give_up
        simpa [Account, abandonNode, if_neg spared, bufferOf, droppedOf_own] using given
      · exact only.account same account

theorem abandonNodes_threads (live expired : List String) (s : Archive T F) :
    (expired.foldl (abandonNode live) s).threads = s.threads := by
  induction expired generalizing s with
  | nil => rfl
  | cons first rest ih => rw [List.foldl_cons, ih, (abandonNode_threads live s first).1]

theorem abandonNodes_accounted {s : Archive T F} (accounted : Accounted s) (live expired : List String) :
    Accounted (expired.foldl (abandonNode live) s) := by
  induction expired generalizing s with
  | nil => exact accounted
  | cons first rest ih => exact ih (abandonNode_accounted accounted live first)

variable [DecidableEq T]

def setActivity (s : Archive T F) (t : T) (activity : Activity F) : Archive T F :=
  { s with threads := Function.update s.threads t activity }

/-- The flush's last locked section, after a write that raised or one that did not. -/
def endFlush (s : Archive T F) (t : T) (nodeId : String) (nWritten : Nat) (failed : Bool) (now : ℚ) : Archive T F :=
  let freed := { setActivity s t .idle with inflight := s.inflight.erase nodeId }
  if failed then
    capBuffer archiveBufferHardCap
      { freed with failSince := freed.failSince.insert nodeId ((freed.failSince.get? nodeId).getD now) } nodeId
  else truncateBuffer { freed with failSince := freed.failSince.erase nodeId } nodeId nWritten

variable (archiveBufferFailTtlS : ℚ)

def archiveStep (s : Archive T F) : ArchiveStep T F → Archive T F
  | .append nodeId frame => { s with
      buffer := s.buffer.insert nodeId (bufferOf s nodeId ++ [frame])
      appended := s.appended ++ [(nodeId, frame)] }
  | .beginFlush t nodeId => match s.threads t with
    | .idle =>
        if nodeId ∈ s.inflight then s
        else { setActivity s t (.flushing nodeId (bufferOf s nodeId) .snapshot) with
          inflight := insert nodeId s.inflight }
    | _ => s
  | .releaseEmpty t => match s.threads t with
    | .flushing nodeId [] .snapshot => { setActivity s t .idle with inflight := s.inflight.erase nodeId }
    | _ => s
  | .write t ok => match s.threads t with
    | .flushing nodeId (frame :: frames) .snapshot =>
        { setActivity s t (.flushing nodeId (frame :: frames) (if ok then .written else .failed)) with
          written := s.written ++ if ok then (frame :: frames).map fun f => (nodeId, f) else [] }
    | _ => s
  | .finishFlush t now => match s.threads t with
    | .flushing nodeId frames .written => endFlush s t nodeId frames.length false now
    | .flushing nodeId frames .failed => endFlush s t nodeId frames.length true now
    | _ => s
  | .findExpired t now => match s.threads t with
    | .idle =>
        let expired := (s.failSince.filter fun _ since => decide (archiveBufferFailTtlS < now - since)).keys
        if expired = [] then s else setActivity s t (.reclaiming expired none)
    | _ => s
  | .readLive t connected => match s.threads t with
    | .reclaiming expired none => setActivity s t (.reclaiming expired (some connected))
    | _ => s
  | .abandon t => match s.threads t with
    | .reclaiming expired (some live) => setActivity (expired.foldl (abandonNode live) s) t .idle
    | _ => s

/-- The end of a flush: its node is free again and its account is settled. -/
theorem freed_accounted {s s' : Archive T F} (accounted : Accounted s)
    (mine : s.threads t = .flushing nodeId frames stage) (threads : s'.threads = Function.update s.threads t .idle)
    (inflight : s'.inflight = s.inflight.erase nodeId) (only : OnlyAt s s' nodeId)
    (settled : Account s' nodeId []) : Accounted s' := by
  have others (t' : T) (n : String) (fs : List F) (st : FlushStage) (flying : s'.threads t' = .flushing n fs st) :
      s.threads t' = .flushing n fs st ∧ n ≠ nodeId := by
    rw [threads] at flying
    by_cases same : t' = t
    · simp [same] at flying
    · rw [Function.update_of_ne same] at flying
      refine ⟨flying, ?_⟩
      rintro rfl
      exact same (accounted.sole t' t n fs frames st stage flying mine)
  refine ⟨?_, ?_, ?_, ?_⟩
  · intro t' n fs st flying
    obtain ⟨before, other⟩ := others t' n fs st flying
    obtain ⟨member, front⟩ := accounted.held t' n fs st before
    rw [inflight, only.buffer n other]
    exact ⟨Finset.mem_erase_of_ne_of_mem other member, front⟩
  · intro t₁ t₂ n fs₁ fs₂ st₁ st₂ first second
    exact accounted.sole t₁ t₂ n fs₁ fs₂ st₁ st₂ (others t₁ n fs₁ st₁ first).1
      (others t₂ n fs₂ st₂ second).1
  · intro t' n fs flying
    obtain ⟨before, other⟩ := others t' n fs .written flying
    exact only.account other (accounted.running t' n fs before)
  · intro n quiet
    by_cases same : n = nodeId
    · exact same ▸ settled
    · apply only.account same
      apply accounted.resting
      intro t' fs flying
      refine quiet t' fs ?_
      rw [threads, Function.update_of_ne]
      · exact flying
      · rintro rfl
        rw [mine] at flying
        injection flying with node
        exact same node.symm

/-- A thread that takes up or leaves something other than a flush. -/
theorem setActivity_accounted {s : Archive T F} (accounted : Accounted s)
    (before : ∀ n fs st, s.threads t ≠ .flushing n fs st) (after : ∀ n fs st, activity ≠ .flushing n fs st) :
    Accounted (setActivity s t activity) := by
  have same (t' : T) (n : String) (fs : List F) (st : FlushStage) :
      (setActivity s t activity).threads t' = .flushing n fs st ↔ s.threads t' = .flushing n fs st := by
    simp only [setActivity]
    by_cases mine : t' = t
    · subst mine
      simp [before n fs st, after n fs st]
    · rw [Function.update_of_ne mine]
  refine ⟨?_, ?_, ?_, ?_⟩
  · intro t' n fs st flying
    exact accounted.held t' n fs st ((same t' n fs st).mp flying)
  · intro t₁ t₂ n fs₁ fs₂ st₁ st₂ first second
    exact accounted.sole t₁ t₂ n fs₁ fs₂ st₁ st₂ ((same _ _ _ _).mp first) ((same _ _ _ _).mp second)
  · intro t' n fs flying
    exact accounted.running t' n fs ((same t' n fs .written).mp flying)
  · intro n quiet
    exact accounted.resting n fun t' fs flying => quiet t' fs ((same t' n fs .written).mpr flying)

theorem append_accounted {s : Archive T F} (accounted : Accounted s) (nodeId : String) (frame : F) :
    Accounted (archiveStep ttl s (.append nodeId frame)) := by
  have grown (n : String) : bufferOf (archiveStep ttl s (.append nodeId frame)) n =
      if nodeId = n then bufferOf s nodeId ++ [frame] else bufferOf s n := by
    simp only [archiveStep, bufferOf, Dict.get?_insert]
    split <;> rfl
  have account (n : String) (ahead : List F) (account : Account s n ahead) :
      Account (archiveStep ttl s (.append nodeId frame)) n ahead := by
    rw [Account, grown]
    by_cases same : nodeId = n
    · subst same
      simpa [archiveStep, filedUnder_own] using account.take_in frame
    · simpa [Account, archiveStep, filedUnder_other _ _ same, same] using account
  refine ⟨?_, accounted.sole, ?_, ?_⟩
  · intro t n fs st flying
    obtain ⟨member, front⟩ := accounted.held t n fs st flying
    refine ⟨member, ?_⟩
    rw [grown]
    by_cases same : nodeId = n
    · subst same
      simpa using front.trans (List.prefix_append _ _)
    · simpa [same] using front
  · intro t n fs flying
    exact account n fs (accounted.running t n fs flying)
  · intro n quiet
    exact account n [] (accounted.resting n quiet)

/-- After a thread takes the one flush of a node, or moves it on, the flights are its own and the others'. -/
theorem flight_cases {s : Archive T F} (alone : ∀ t' fs st, t' ≠ t → s.threads t' ≠ .flushing nodeId fs st)
    (flying : (setActivity s t (.flushing nodeId frames stage)).threads t' = .flushing n fs st) :
    t' = t ∧ n = nodeId ∧ fs = frames ∧ st = stage ∨ t' ≠ t ∧ n ≠ nodeId ∧ s.threads t' = .flushing n fs st := by
  simp only [setActivity] at flying
  by_cases mine : t' = t
  · subst mine
    rw [Function.update_self] at flying
    injection flying with node held reached
    exact .inl ⟨rfl, node.symm, held.symm, reached.symm⟩
  · rw [Function.update_of_ne mine] at flying
    refine .inr ⟨mine, ?_, flying⟩
    rintro rfl
    exact alone t' fs st mine flying

theorem flight_sole {s : Archive T F} (accounted : Accounted s)
    (alone : ∀ t' fs st, t' ≠ t → s.threads t' ≠ .flushing nodeId fs st) :
    ∀ t₁ t₂ n fs₁ fs₂ st₁ st₂, (setActivity s t (.flushing nodeId frames stage)).threads t₁ = .flushing n fs₁ st₁ →
      (setActivity s t (.flushing nodeId frames stage)).threads t₂ = .flushing n fs₂ st₂ → t₁ = t₂ := by
  intro t₁ t₂ n fs₁ fs₂ st₁ st₂ first second
  rcases flight_cases alone first with ⟨rfl, rfl, -⟩ | ⟨-, other, before⟩
  · rcases flight_cases alone second with ⟨rfl, -⟩ | ⟨-, distinct, -⟩
    · rfl
    · exact absurd rfl distinct
  · rcases flight_cases alone second with ⟨-, same, -⟩ | ⟨-, -, later⟩
    · exact absurd same other
    · exact accounted.sole t₁ t₂ n fs₁ fs₂ st₁ st₂ before later

theorem begin_accounted {s : Archive T F} (accounted : Accounted s) (idle : s.threads t = .idle)
    (free : nodeId ∉ s.inflight) :
    Accounted { setActivity s t (.flushing nodeId (bufferOf s nodeId) .snapshot) with
      inflight := insert nodeId s.inflight } := by
  have alone (t' : T) (fs : List F) (st : FlushStage) (_ : t' ≠ t) : s.threads t' ≠ .flushing nodeId fs st :=
    fun flying => free (accounted.held t' nodeId fs st flying).1
  refine ⟨?_, flight_sole accounted alone, ?_, ?_⟩
  · intro t' n fs st flying
    rcases flight_cases alone flying with ⟨-, rfl, rfl, -⟩ | ⟨-, -, before⟩
    · exact ⟨Finset.mem_insert_self _ _, List.prefix_refl _⟩
    · obtain ⟨member, front⟩ := accounted.held t' n fs st before
      exact ⟨Finset.mem_insert_of_mem member, front⟩
  · intro t' n fs flying
    rcases flight_cases alone flying with ⟨-, -, -, stage⟩ | ⟨-, -, before⟩
    · cases stage
    · exact accounted.running t' n fs before
  · intro n quiet
    apply accounted.resting
    intro t' fs flying
    have other : t' ≠ t := by
      rintro rfl
      rw [idle] at flying
      cases flying
    refine quiet t' fs ?_
    simpa only [setActivity, Function.update_of_ne other] using flying

/-- The one flush of a node moves on a stage, and a good write is ahead of the buffer. -/
theorem write_accounted {s : Archive T F} (accounted : Accounted s)
    (mine : s.threads t = .flushing nodeId frames .snapshot) (ok : Bool) :
    Accounted { setActivity s t (.flushing nodeId frames (if ok then .written else .failed)) with
      written := s.written ++ if ok then frames.map fun f => (nodeId, f) else [] } := by
  have alone (t' : T) (fs : List F) (st : FlushStage) (other : t' ≠ t) : s.threads t' ≠ .flushing nodeId fs st :=
    fun flying => other (accounted.sole t' t nodeId fs frames st .snapshot flying mine)
  have before : Account s nodeId [] := by
    apply accounted.resting
    intro t' fs flying
    obtain rfl := accounted.sole t' t nodeId fs frames .written .snapshot flying mine
    rw [mine] at flying
    cases flying
  have elsewhere (n : String) (ahead : List F) (other : n ≠ nodeId) (account : Account s n ahead) :
      Account { s with written := s.written ++ if ok then frames.map fun f => (nodeId, f) else [] } n ahead := by
    have same : filedUnder n (s.written ++ if ok then frames.map fun f => (nodeId, f) else []) =
        filedUnder n s.written := by
      rw [filedUnder_append]
      split
      · rw [filedUnder_map, if_neg (Ne.symm other), List.append_nil]
      · exact List.append_nil _
    change Ledger.Balanced _ _ _ (filedUnder n _) _
    rw [same]
    exact account
  refine ⟨?_, flight_sole accounted alone, ?_, ?_⟩
  · intro t' n fs st flying
    rcases flight_cases alone flying with ⟨-, rfl, rfl, -⟩ | ⟨-, -, held⟩
    · exact accounted.held t n fs .snapshot mine
    · exact accounted.held t' n fs st held
  · intro t' n fs flying
    rcases flight_cases alone flying with ⟨-, rfl, rfl, reached⟩ | ⟨-, other, held⟩
    · cases ok with
      | false => cases reached
      | true =>
        have out : filedUnder n (s.written ++ fs.map fun f => (n, f)) = filedUnder n s.written ++ fs := by
          rw [filedUnder_append, filedUnder_map, if_pos rfl]
        change Ledger.Balanced _ _ _ (filedUnder n (s.written ++ fs.map fun f => (n, f))) _
        rw [out]
        exact before.write fs
    · exact elsewhere n fs other (accounted.running t' n fs held)
  · intro n quiet
    by_cases same : n = nodeId
    · subst same
      cases ok with
      | false =>
        change Ledger.Balanced _ _ _ (filedUnder n (s.written ++ [])) _
        rw [List.append_nil]
        exact before
      | true => exact absurd (by simp [setActivity]) (quiet t frames)
    · apply elsewhere n [] same
      apply accounted.resting
      intro t' fs flying
      have other : t' ≠ t := by
        rintro rfl
        rw [mine] at flying
        injection flying with node
        exact same node.symm
      refine quiet t' fs ?_
      simpa only [setActivity, Function.update_of_ne other] using flying

theorem endFlush_accounted {s : Archive T F} (accounted : Accounted s) (mine : s.threads t = .flushing nodeId frames stage)
    (failed : Bool) (now : ℚ) (ahead : Account s nodeId (if failed then [] else frames)) :
    Accounted (endFlush s t nodeId frames.length failed now) := by
  obtain ⟨-, front⟩ := accounted.held t nodeId frames stage mine
  cases failed with
  | false =>
    let freed : Archive T F := { setActivity s t .idle with
      inflight := s.inflight.erase nodeId, failSince := s.failSince.erase nodeId }
    have only := truncateBuffer_only freed nodeId frames.length
    have settled : Account (truncateBuffer freed nodeId frames.length) nodeId [] :=
      truncateBuffer_account (s := freed) front ahead
    exact freed_accounted accounted mine rfl rfl ⟨only.appended, only.written, only.buffer, only.dropped⟩ settled
  | true =>
    let freed : Archive T F := { setActivity s t .idle with
      inflight := s.inflight.erase nodeId
      failSince := s.failSince.insert nodeId ((s.failSince.get? nodeId).getD now) }
    have only := capBuffer_only archiveBufferHardCap freed nodeId
    have settled : Account (capBuffer archiveBufferHardCap freed nodeId) nodeId [] :=
      capBuffer_account archiveBufferHardCap (s := freed) ahead
    have kept : (capBuffer archiveBufferHardCap freed nodeId).threads = freed.threads ∧
        (capBuffer archiveBufferHardCap freed nodeId).inflight = freed.inflight := by
      simp only [capBuffer]
      split <;> exact ⟨rfl, rfl⟩
    exact freed_accounted accounted mine kept.1 kept.2
      ⟨only.appended, only.written, only.buffer, only.dropped⟩ settled

theorem archiveStep_accounted (s : Archive T F) (step : ArchiveStep T F) (accounted : Accounted s) :
    Accounted (archiveStep archiveBufferFailTtlS s step) := by
  cases step with
  | append nodeId frame => exact append_accounted accounted nodeId frame
  | beginFlush t nodeId =>
    simp only [archiveStep]
    split
    · rename_i idle
      split
      · exact accounted
      · rename_i free
        exact begin_accounted accounted idle free
    · exact accounted
  | releaseEmpty t =>
    simp only [archiveStep]
    split
    · rename_i nodeId mine
      refine freed_accounted accounted mine rfl rfl ⟨rfl, rfl, fun _ _ => rfl, fun _ _ => rfl⟩ ?_
      apply accounted.resting
      intro t' fs flying
      obtain rfl := accounted.sole t' t nodeId fs [] .written .snapshot flying mine
      rw [mine] at flying
      cases flying
    · exact accounted
  | write t ok =>
    simp only [archiveStep]
    split
    · rename_i nodeId frame frames mine
      exact write_accounted accounted mine ok
    · exact accounted
  | finishFlush t now =>
    simp only [archiveStep]
    split
    · rename_i nodeId frames mine
      exact endFlush_accounted accounted mine false now (accounted.running t nodeId frames mine)
    · rename_i nodeId frames mine
      refine endFlush_accounted accounted mine true now (accounted.resting nodeId ?_)
      intro t' fs flying
      obtain rfl := accounted.sole t' t nodeId fs frames .written .failed flying mine
      rw [mine] at flying
      cases flying
    · exact accounted
  | findExpired t now =>
    simp only [archiveStep]
    split
    · rename_i idle
      split
      · exact accounted
      · exact setActivity_accounted accounted (by simp [idle]) (by simp)
    · exact accounted
  | readLive t connected =>
    simp only [archiveStep]
    split
    · rename_i expired waiting
      exact setActivity_accounted accounted (by simp [waiting]) (by simp)
    · exact accounted
  | abandon t =>
    simp only [archiveStep]
    split
    · rename_i expired live waiting
      apply setActivity_accounted (abandonNodes_accounted accounted live expired)
      · rw [abandonNodes_threads]
        simp [waiting]
      · simp
    · exact accounted

end

end Retina.Frames
