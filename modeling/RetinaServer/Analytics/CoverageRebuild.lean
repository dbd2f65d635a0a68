import RetinaServer.Library.Dict
import RetinaServer.Library.Queueing
import RetinaServer.Library.Rounding

/-! The coverage rebuild queue: a scan queues the nodes whose coverage digest has moved, a drain rebuilds the grids
of a few of them. Registration builds a node's grids as well, under the constraint of that moment. -/
namespace Retina.Analytics
open Runs

/-- One bearing bin of a coverage digest: nothing known, the prior's limit, or the learned state with its limit. -/
inductive Bin (γ : Type) where
  | unknown
  | limit (km : ℚ)
  | state (code : γ) (limitKm : ℚ)
deriving DecidableEq

inductive QuantizedBin (γ : Type) where
  | unknown
  | limit (buckets : ℤ)
  | state (code : γ) (buckets : ℤ)
deriving DecidableEq

abbrev Digest (γ : Type) := List (Bin γ)
abbrev QuantizedDigest (γ : Type) := List (QuantizedBin γ)

def coverageDigestQuantKm : ℚ := 2
def coverageRecheckMinS : ℚ := 150
def coverageMaxNodesPerCycle : Nat := 3

def quantizeBin : Bin γ → QuantizedBin γ
  | .unknown => .unknown
  | .state code limitKm => .state code (Rounding.roundHalfEven (limitKm / coverageDigestQuantKm))
  | .limit km => .limit (Rounding.roundHalfEven (km / coverageDigestQuantKm))

def quantizeDigest (digest : Digest γ) : QuantizedDigest γ := digest.map quantizeBin

/-- The maps of the rebuild queue, and of the associator the nodes it has and what it last built their grids under:
the quantised digest of the constraint, if there was one. -/
structure CoverageState (γ : Type) where
  nodeGeometries : List String := []
  built : Dict String (Option (QuantizedDigest γ)) := .empty
  digests : Dict String (QuantizedDigest γ) := .empty
  nextCheck : Dict String ℚ := .empty
  pending : Dict String (QuantizedDigest γ) := .empty
  pendingSince : Dict String ℚ := .empty
  rebuildNodes : Nat := 0
  rebuilds : Nat := 0

/-- What comes of rebuilding a node's grids: an error that leaves them, or so many pairs under the constraint of
that moment. -/
inductive Rebuild (γ : Type) where
  | raised
  | built (pairs : Nat) (live : Option (Digest γ))

variable {γ : Type}

namespace CoverageState

/-- The digest is recorded before the rebuild, which may fail. -/
def dequeue (s : CoverageState γ) (nodeId : String) (digest : QuantizedDigest γ) : CoverageState γ :=
  { s with
    pending := s.pending.erase nodeId
    pendingSince := s.pendingSince.erase nodeId
    digests := s.digests.insert nodeId digest }

/-- A node that has left has no grids to build. -/
def rebuilt (s : CoverageState γ) (nodeId : String) (pairs : Nat) (live : Option (Digest γ)) : CoverageState γ :=
  { s with
    built := if nodeId ∈ s.nodeGeometries then s.built.insert nodeId (live.map quantizeDigest) else s.built
    rebuildNodes := if pairs = 0 then s.rebuildNodes else s.rebuildNodes + 1
    rebuilds := s.rebuilds + pairs }

/-- A drain of at most `maxNodes`, and how many were rebuilt, unless a rebuild raised. -/
def drainCoverageRebuilds (outcome : String → Rebuild γ) : (maxNodes : Nat) → CoverageState γ → CoverageState γ × Option Nat
  | 0, s => (s, some 0)
  | left + 1, s =>
      match s.pending.items with
      | [] => (s, some 0)
      | (nodeId, digest) :: _ =>
          match outcome nodeId with
          | .raised => (s.dequeue nodeId digest, none)
          | .built pairs live =>
              let rest := drainCoverageRebuilds outcome left ((s.dequeue nodeId digest).rebuilt nodeId pairs live)
              (rest.1, rest.2.map fun rebuilt => if pairs = 0 then rebuilt else rebuilt + 1)

/-- Registration builds the grids of the node, new or not. -/
def join (s : CoverageState γ) (nodeId : String) (live : Option (Digest γ)) : CoverageState γ :=
  { s with
    nodeGeometries := if nodeId ∈ s.nodeGeometries then s.nodeGeometries else s.nodeGeometries ++ [nodeId]
    built := s.built.insert nodeId (live.map quantizeDigest) }

/-- The maps of the rebuild queue are not told of it. -/
def leave (s : CoverageState γ) (nodeId : String) : CoverageState γ :=
  { s with nodeGeometries := s.nodeGeometries.erase nodeId, built := s.built.erase nodeId }

section
variable [DecidableEq γ]

/-- One node of the scan. `reads` is what each node's digest is when it is asked for. -/
def checkNode (nowS : ℚ) (reads : String → Option (Digest γ)) (s : CoverageState γ) (nodeId : String) : CoverageState γ :=
  if (s.digests.get? nodeId).isSome ∧ nowS < (s.nextCheck.get? nodeId).getD 0 then s
  else match (reads nodeId).map quantizeDigest with
    | none => s
    | some digest =>
        let checked := { s with nextCheck := s.nextCheck.insert nodeId (nowS + coverageRecheckMinS) }
        if s.digests.get? nodeId = some digest then
          { checked with pending := s.pending.erase nodeId, pendingSince := s.pendingSince.erase nodeId }
        else
          { checked with
            pending := s.pending.insert nodeId digest
            pendingSince := s.pendingSince.setDefault nodeId nowS }

/-- The scan, and the depth of the queue after it. -/
def scanCoverageConstraints (nowS : ℚ) (reads : String → Option (Digest γ)) (s : CoverageState γ) :
    CoverageState γ × Nat :=
  let scanned := s.nodeGeometries.foldl (checkNode nowS reads) s
  (scanned, scanned.pending.size)

inductive Event (γ : Type) where
  | join (nodeId : String) (live : Option (Digest γ))
  | leave (nodeId : String)
  | scan (nowS : ℚ) (reads : String → Option (Digest γ))
  | drain (maxNodes : Nat) (outcome : String → Rebuild γ)

def step (s : CoverageState γ) : Event γ → CoverageState γ
  | .join nodeId live => s.join nodeId live
  | .leave nodeId => s.leave nodeId
  | .scan nowS reads => (s.scanCoverageConstraints nowS reads).1
  | .drain maxNodes outcome => (s.drainCoverageRebuilds outcome maxNodes).1

/-- The gauges of a coverage cycle: what is still owed, and for how long the oldest of it has waited. -/
structure Gauges where
  backlog : Nat
  oldestWaitS : ℚ

def gauges (s : CoverageState γ) (nowS : ℚ) : Gauges where
  backlog := s.pending.size
  oldestWaitS := (s.pendingSince.values.min?.map fun oldest => nowS - oldest).getD 0

/-- A scan, and a drain. The gauges are published after it, unless a rebuild raised. -/
def refreshCoverageConstraints (s : CoverageState γ) (scannedS drainedS : ℚ) (reads : String → Option (Digest γ))
    (maxNodes : Nat) (outcome : String → Rebuild γ) : CoverageState γ × Option (Nat × Gauges) :=
  let drained := (s.scanCoverageConstraints scannedS reads).1.drainCoverageRebuilds outcome maxNodes
  (drained.1, drained.2.map fun rebuilt => (rebuilt, drained.1.gauges drainedS))

theorem refresh_run (s : CoverageState γ) (scannedS drainedS : ℚ) (reads : String → Option (Digest γ)) (maxNodes : Nat)
    (outcome : String → Rebuild γ) :
    (s.refreshCoverageConstraints scannedS drainedS reads maxNodes outcome).1 =
      run step s [.scan scannedS reads, .drain maxNodes outcome] := rfl

end

/-! ### A drain -/

theorem mem_pending_iff (s : CoverageState γ) (n : String) : n ∈ s.pending.keys ↔ s.pending.get? n ≠ none :=
  not_not.symm.trans (not_congr (Dict.get?_eq_none_iff s.pending n).symm)

/-- How many of the queue a drain takes: as many as it may, and none after a rebuild that raises. -/
def turnsTaken (outcome : String → Rebuild γ) : (maxNodes : Nat) → List String → Nat
  | 0, _ => 0
  | _, [] => 0
  | left + 1, n :: rest =>
      match outcome n with
      | .raised => 1
      | .built _ _ => turnsTaken outcome left rest + 1

/-- The nodes that a drain takes. -/
def taken (s : CoverageState γ) (maxNodes : Nat) (outcome : String → Rebuild γ) : List String :=
  s.pending.keys.take (turnsTaken outcome maxNodes s.pending.keys)

/-- One turn, as the induction over a drain meets it. -/
theorem keys_dequeue {s : CoverageState γ} (shape : s.pending.items = (nodeId, digest) :: items) :
    (s.dequeue nodeId digest).pending.keys = items.map Prod.fst ∧ s.pending.keys = nodeId :: items.map Prod.fst := by
  constructor
  · exact congrArg (List.map Prod.fst) (Dict.items_erase_first shape)
  · exact congrArg (List.map Prod.fst) shape

theorem drain_keys (outcome : String → Rebuild γ) (maxNodes : Nat) (s : CoverageState γ) :
    (s.drainCoverageRebuilds outcome maxNodes).1.pending.keys =
      s.pending.keys.drop (turnsTaken outcome maxNodes s.pending.keys) := by
  induction maxNodes generalizing s with
  | zero => simp [drainCoverageRebuilds, turnsTaken]
  | succ left ih =>
    rw [drainCoverageRebuilds]
    split
    · rename_i empty
      simp [Dict.keys, empty, turnsTaken]
    · rename_i nodeId digest items shape
      obtain ⟨after, before⟩ := keys_dequeue shape
      rw [before, turnsTaken]
      cases outcome nodeId with
      | raised => exact after
      | built pairs live =>
        have rest := ih ((s.dequeue nodeId digest).rebuilt nodeId pairs live)
        rw [show ((s.dequeue nodeId digest).rebuilt nodeId pairs live).pending.keys = items.map Prod.fst from after] at rest
        exact rest

theorem turnsTaken_pos (outcome : String → Rebuild γ) (positive : 0 < maxNodes) (queued : queue ≠ []) :
    0 < turnsTaken outcome maxNodes queue := by
  cases maxNodes with
  | zero => cases positive
  | succ left =>
    cases queue with
    | nil => exact absurd rfl queued
    | cons n rest =>
      rw [turnsTaken]
      split
      · exact Nat.one_pos
      · exact Nat.succ_pos _

/-- A drain in which no rebuild raises takes as many as it may. -/
theorem turnsTaken_eq (outcome : String → Rebuild γ) (maxNodes : Nat) (queue : List String)
    (none_raises : ∀ n ∈ queue.take (turnsTaken outcome maxNodes queue), ∃ pairs live, outcome n = .built pairs live) :
    turnsTaken outcome maxNodes queue = min maxNodes queue.length := by
  induction maxNodes generalizing queue with
  | zero => simp [turnsTaken]
  | succ left ih =>
    cases queue with
    | nil => simp [turnsTaken]
    | cons n rest =>
      rw [turnsTaken] at none_raises ⊢
      cases result : outcome n with
      | raised =>
        rw [result] at none_raises
        obtain ⟨pairs, live, completed⟩ := none_raises n (by simp)
        cases result.symm.trans completed
      | built pairs live =>
        rw [result] at none_raises
        simp only [List.take_succ_cons, List.mem_cons, forall_eq_or_imp] at none_raises
        have rest_taken := ih rest none_raises.2
        simp only [rest_taken, List.length_cons]
        omega

theorem drain_sameKeys (outcome : String → Rebuild γ) (maxNodes : Nat) (s : CoverageState γ)
    (same : s.pending.keys = s.pendingSince.keys) :
    (s.drainCoverageRebuilds outcome maxNodes).1.pending.keys =
      (s.drainCoverageRebuilds outcome maxNodes).1.pendingSince.keys := by
  induction maxNodes generalizing s with
  | zero => exact same
  | succ left ih =>
    rw [drainCoverageRebuilds]
    split
    · exact same
    · rename_i nodeId digest items shape
      have next : (s.dequeue nodeId digest).pending.keys = (s.dequeue nodeId digest).pendingSince.keys := by
        simp only [dequeue, Dict.keys_erase, same]
      cases outcome nodeId with
      | raised => exact next
      | built pairs live => exact ih _ next

section
variable [DecidableEq γ]

/-! ### One node of the scan -/

/-- What a check does to the queue: it leaves it, withdraws a node that has moved back, or queues the node. -/
inductive Checked (s : CoverageState γ) (nodeId : String) (nowS : ℚ) (reading : Option (Digest γ)) :
    CoverageState γ → Prop where
  | skipped : Checked s nodeId nowS reading s
  | withdrawn (digest : Digest γ) (read : reading = some digest)
      (back : s.digests.get? nodeId = some (quantizeDigest digest)) :
      Checked s nodeId nowS reading
        { s with
          nextCheck := s.nextCheck.insert nodeId (nowS + coverageRecheckMinS)
          pending := s.pending.erase nodeId
          pendingSince := s.pendingSince.erase nodeId }
  | queued (digest : Digest γ) (read : reading = some digest)
      (moved : s.digests.get? nodeId ≠ some (quantizeDigest digest)) :
      Checked s nodeId nowS reading
        { s with
          nextCheck := s.nextCheck.insert nodeId (nowS + coverageRecheckMinS)
          pending := s.pending.insert nodeId (quantizeDigest digest)
          pendingSince := s.pendingSince.setDefault nodeId nowS }

theorem checked (nowS : ℚ) (reads : String → Option (Digest γ)) (s : CoverageState γ) (nodeId : String) :
    Checked s nodeId nowS (reads nodeId) (checkNode nowS reads s nodeId) := by
  rw [checkNode]
  split
  · exact .skipped
  · cases read : reads nodeId with
    | none => exact .skipped
    | some digest =>
      simp only [Option.map_some]
      split
      · rename_i back
        exact .withdrawn digest rfl back
      · rename_i moved
        exact .queued digest rfl moved

theorem Checked.frame (h : Checked s nodeId nowS reading s') :
    s'.nodeGeometries = s.nodeGeometries ∧ s'.built = s.built ∧ s'.digests = s.digests := by
  cases h <;> exact ⟨rfl, rfl, rfl⟩

theorem Checked.sameKeys (h : Checked s nodeId nowS reading s') (same : s.pending.keys = s.pendingSince.keys) :
    s'.pending.keys = s'.pendingSince.keys := by
  cases h with
  | skipped => exact same
  | withdrawn => simp only [Dict.keys_erase, same]
  | queued => simp only [Dict.keys_insert, Dict.keys_setDefault, same]

/-- A check is about its own node only. -/
theorem Checked.others (h : Checked s nodeId nowS reading s') (other : nodeId ≠ n) :
    s'.pending.get? n = s.pending.get? n ∧ s'.pendingSince.get? n = s.pendingSince.get? n ∧
      s'.nextCheck.get? n = s.nextCheck.get? n := by
  cases h with
  | skipped => exact ⟨rfl, rfl, rfl⟩
  | withdrawn => exact ⟨Dict.get?_erase_ne _ other, Dict.get?_erase_ne _ other, Dict.get?_insert_ne _ _ other⟩
  | queued => exact ⟨Dict.get?_insert_ne _ _ other, Dict.get?_setDefault_ne _ _ other, Dict.get?_insert_ne _ _ other⟩

theorem Checked.mem_others (h : Checked s nodeId nowS reading s') (other : nodeId ≠ n) :
    n ∈ s'.pending.keys ↔ n ∈ s.pending.keys := by
  rw [mem_pending_iff, mem_pending_iff, (h.others other).1]

/-- A node that stays queued keeps its wait. -/
theorem Checked.waits (h : Checked s nodeId nowS reading s') (same : s.pending.keys = s.pendingSince.keys)
    (queued : n ∈ s.pending.keys) (still : n ∈ s'.pending.keys) : s'.pendingSince.get? n = s.pendingSince.get? n := by
  cases h with
  | skipped => rfl
  | withdrawn =>
    rw [Dict.keys_erase, List.mem_filter, decide_eq_true_eq] at still
    exact Dict.get?_erase_ne _ (Ne.symm still.2)
  | queued =>
    by_cases own : nodeId = n
    · exact Dict.get?_setDefault_of_mem _ (own ▸ same ▸ queued) n
    · exact Dict.get?_setDefault_ne _ _ own

/-! ### A scan -/

theorem scan_frame (nowS : ℚ) (reads : String → Option (Digest γ)) (nodes : List String) (s : CoverageState γ) :
    (nodes.foldl (checkNode nowS reads) s).nodeGeometries = s.nodeGeometries ∧
      (nodes.foldl (checkNode nowS reads) s).built = s.built ∧
      (nodes.foldl (checkNode nowS reads) s).digests = s.digests := by
  induction nodes generalizing s with
  | nil => exact ⟨rfl, rfl, rfl⟩
  | cons n rest ih =>
    obtain ⟨nodes, built, digests⟩ := ih (checkNode nowS reads s n)
    obtain ⟨nodes', built', digests'⟩ := (checked nowS reads s n).frame
    exact ⟨nodes.trans nodes', built.trans built', digests.trans digests'⟩

theorem scan_sameKeys (nowS : ℚ) (reads : String → Option (Digest γ)) (nodes : List String) (s : CoverageState γ)
    (same : s.pending.keys = s.pendingSince.keys) :
    (nodes.foldl (checkNode nowS reads) s).pending.keys = (nodes.foldl (checkNode nowS reads) s).pendingSince.keys := by
  induction nodes generalizing s with
  | nil => exact same
  | cons n rest ih => exact ih _ ((checked nowS reads s n).sameKeys same)

theorem scan_others (nowS : ℚ) (reads : String → Option (Digest γ)) (nodes : List String) (s : CoverageState γ)
    (others : n ∉ nodes) :
    (nodes.foldl (checkNode nowS reads) s).pending.get? n = s.pending.get? n ∧
      (nodes.foldl (checkNode nowS reads) s).nextCheck.get? n = s.nextCheck.get? n := by
  induction nodes generalizing s with
  | nil => exact ⟨rfl, rfl⟩
  | cons first rest ih =>
    obtain ⟨different, others⟩ := not_or.mp (List.mem_cons.not.mp others)
    have here := (checked nowS reads s first).others (Ne.symm different)
    exact ⟨(ih _ others).1.trans here.1, (ih _ others).2.trans here.2.2⟩

theorem Checked.keeps (h : Checked s nodeId nowS reading s') : Queueing.Keeps s.pending.keys s'.pending.keys := by
  cases h with
  | skipped => exact .refl _
  | withdrawn =>
    rw [Dict.keys_erase]
    exact .filter _ _
  | queued digest =>
    by_cases present : nodeId ∈ s.pending.keys
    · rw [Dict.keys_insert_of_mem _ present]
      exact .refl _
    · rw [Dict.keys_insert_of_notMem _ present]
      exact .append _ present

/-- What is queued before and after stands in the same order, ahead of what is new, and has waited for as long. -/
structure KeepsPlaces (s s' : CoverageState γ) : Prop where
  order : Queueing.Keeps s.pending.keys s'.pending.keys
  waits : ∀ n ∈ s.pending.keys, n ∈ s'.pending.keys → s'.pendingSince.get? n = s.pendingSince.get? n

theorem foldl_keepsPlaces (nowS : ℚ) (reads : String → Option (Digest γ)) {nodes : List String} (distinct : nodes.Nodup)
    (s : CoverageState γ) (same : s.pending.keys = s.pendingSince.keys) :
    KeepsPlaces s (nodes.foldl (checkNode nowS reads) s) := by
  induction nodes generalizing s with
  | nil => exact ⟨.refl _, fun _ _ _ => rfl⟩
  | cons first rest ih =>
    obtain ⟨once, distinct⟩ := List.nodup_cons.mp distinct
    have here := checked nowS reads s first
    have later := ih distinct (checkNode nowS reads s first) (here.sameKeys same)
    have settled := (scan_others nowS reads rest (checkNode nowS reads s first) once).1
    rw [List.foldl_cons]
    -- a node that is queued in the end was not withdrawn by its own check, since no other check queues it
    have between : ∀ n ∈ s.pending.keys, n ∈ (rest.foldl (checkNode nowS reads) (checkNode nowS reads s first)).pending.keys →
        n ∈ (checkNode nowS reads s first).pending.keys := by
      intro n queued still
      by_cases own : first = n
      · subst own
        rwa [mem_pending_iff, settled, ← mem_pending_iff] at still
      · exact (here.mem_others own).mpr queued
    exact ⟨here.keeps.trans later.order between, fun n queued still =>
      (later.waits n (between n queued still) still).trans (here.waits same queued (between n queued still))⟩

end

end CoverageState
end Retina.Analytics
