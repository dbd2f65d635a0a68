import RetinaServer.Library.Ledger
import RetinaServer.Library.Runs
import Mathlib.Algebra.BigOperators.Group.Finset.Basic
import Mathlib.Algebra.Order.BigOperators.Group.Finset
import Mathlib.Data.Fintype.BigOperators

/-! Frame ingress: shards keyed on the node, one worker to a shard, and one
capacity for all of them. -/
namespace Retina.Frames
open Runs

/-- One byte into the reflected CRC-32 register. -/
def crc32Byte (crc : UInt32) (b : UInt8) : UInt32 :=
  (List.range 8).foldl (fun c _ => if c &&& 1 = 1 then (c >>> 1) ^^^ 0xEDB88320 else c >>> 1) (crc ^^^ b.toUInt32)

def crc32 (data : List UInt8) : UInt32 := data.foldl crc32Byte 0xFFFFFFFF ^^^ 0xFFFFFFFF

example : crc32 [49, 50, 51, 52, 53, 54, 55, 56, 57] = 0xCBF43926 := by decide +kernel

/-- The constructor's arguments. A capacity of zero or less is none at all. -/
structure QueueShape where
  maxsize : ℤ := 0
  shards : Nat := 1

abbrev QueueShape.shardCount (q : QueueShape) : Nat := max 1 q.shards

section
variable (q : QueueShape) {F : Type u}

abbrev Shards (F : Type u) := Fin q.shardCount → List (String × F)

def shardFor (nodeId : String) : Fin q.shardCount :=
  ⟨(crc32 nodeId.toUTF8.data.toList).toNat % q.shardCount, Nat.mod_lt _ (Nat.le_max_left 1 q.shards)⟩

def qsize (shards : Shards q F) : Nat := ∑ i, (shards i).length

def full (shards : Shards q F) : Bool := decide (0 < q.maxsize ∧ q.maxsize ≤ qsize q shards)

/-- `none` is `QueueFull`. -/
def putNowait (shards : Shards q F) (item : String × F) : Option (Shards q F) :=
  if full q shards then none else some (RoutedFifo.enqueue (fun x => shardFor q x.1) shards item)

/-- The first shard that has a frame. -/
def drainShard (shards : Shards q F) : Option (Fin q.shardCount) :=
  (List.finRange q.shardCount).find? fun i => !(shards i).isEmpty

/-- The queue, the frame each worker is at, and what was accepted and handed out so far. -/
structure Ingress (F : Type u) where
  shards : Shards q F
  workers : Fin q.shardCount → Option (String × F)
  accepted : List (String × F)
  handedOut : List (String × F)

def Ingress.empty : Ingress q F := ⟨fun _ => [], fun _ => none, [], []⟩

inductive IngressStep (F : Type u) where
  | put (item : String × F)
  /-- The worker's `await queue.get()` returns. -/
  | get (worker : Fin q.shardCount)
  /-- The executor call of the worker's frame returns or raises. -/
  | complete (worker : Fin q.shardCount)
  /-- `get_nowait`, which only the drain paths call. -/
  | drain

def ingressStep (s : Ingress q F) : IngressStep q F → Ingress q F
  | .put item => match putNowait q s.shards item with
    | none => s
    | some shards => { s with shards, accepted := s.accepted ++ [item] }
  | .get worker => match s.workers worker, s.shards worker with
    | none, item :: rest => { s with
        shards := Function.update s.shards worker rest
        workers := Function.update s.workers worker (some item)
        handedOut := s.handedOut ++ [item] }
    | _, _ => s
  | .complete worker => { s with workers := Function.update s.workers worker none }
  | .drain => match drainShard q s.shards with
    | none => s
    | some i => match s.shards i with
      | [] => s
      | item :: rest => { s with shards := Function.update s.shards i rest, handedOut := s.handedOut ++ [item] }

def framesOf (nodeId : String) (items : List (String × F)) : List (String × F) :=
  items.filter fun item => decide (item.1 = nodeId)

/-- Every shard's account balances, a worker is at a frame of its own shard, and
a set capacity is kept. -/
structure Orderly (s : Ingress q F) : Prop where
  balanced : RoutedFifo.Balanced (fun x => shardFor q x.1) s.shards s.accepted s.handedOut
  own : ∀ i item, s.workers i = some item → shardFor q item.1 = i
  bounded : 0 < q.maxsize → (qsize q s.shards : ℤ) ≤ q.maxsize

theorem qsize_update (shards : Shards q F) (i : Fin q.shardCount) (lane : List (String × F)) :
    qsize q (Function.update shards i lane) + (shards i).length = qsize q shards + lane.length := by
  have others : ∑ j ∈ Finset.univ.erase i, (Function.update shards i lane j).length =
      ∑ j ∈ Finset.univ.erase i, (shards j).length := by
    apply Finset.sum_congr rfl
    intro j member
    rw [Function.update_of_ne (Finset.ne_of_mem_erase member)]
  have after := Finset.add_sum_erase Finset.univ (fun j => (Function.update shards i lane j).length) (Finset.mem_univ i)
  have before := Finset.add_sum_erase Finset.univ (fun j => (shards j).length) (Finset.mem_univ i)
  simp only [Function.update_self] at after
  simp only [qsize]
  omega

variable {q}

theorem put_orderly {s : Ingress q F} (orderly : Orderly q s) (item : String × F) :
    Orderly q (ingressStep q s (.put item)) := by
  simp only [ingressStep, putNowait]
  by_cases refused : full q s.shards = true
  · simpa only [if_pos refused] using orderly
  · simp only [if_neg refused]
    refine ⟨orderly.balanced.enqueue item, orderly.own, ?_⟩
    intro limited
    have room : (qsize q s.shards : ℤ) < q.maxsize := by
      simp only [full, decide_eq_true_eq, not_and, not_le] at refused
      exact refused limited
    have size := qsize_update q s.shards (shardFor q item.1) (s.shards (shardFor q item.1) ++ [item])
    simp only [List.length_append, List.length_singleton] at size
    simp only [RoutedFifo.enqueue]
    omega

/-- Taking the head of a shard, for a worker or for the drain. -/
theorem take_orderly {s : Ingress q F} (orderly : Orderly q s) (head : s.shards i = item :: rest)
    (workers : Fin q.shardCount → Option (String × F))
    (own : ∀ j held, workers j = some held → shardFor q held.1 = j) :
    Orderly q { s with
      shards := Function.update s.shards i rest, workers, handedOut := s.handedOut ++ [item] } := by
  refine ⟨orderly.balanced.dequeue head, own, ?_⟩
  intro limited
  have size := qsize_update q s.shards i rest
  have held := orderly.bounded limited
  rw [head, List.length_cons] at size
  dsimp only
  omega

theorem ingressStep_orderly (s : Ingress q F) (step : IngressStep q F) (orderly : Orderly q s) :
    Orderly q (ingressStep q s step) := by
  cases step with
  | put item => exact put_orderly orderly item
  | get worker =>
    simp only [ingressStep]
    split
    · rename_i item rest idle head
      apply take_orderly orderly head
      intro j held working
      by_cases same : j = worker
      · subst same
        rw [Function.update_self, Option.some.injEq] at working
        exact working ▸ orderly.balanced.mem_lane (head ▸ List.mem_cons_self)
      · rw [Function.update_of_ne same] at working
        exact orderly.own j held working
    · exact orderly
  | complete worker =>
    refine ⟨orderly.balanced, ?_, orderly.bounded⟩
    intro j held working
    by_cases same : j = worker
    · simp [ingressStep, same] at working
    · simp only [ingressStep, Function.update_of_ne same] at working
      exact orderly.own j held working
  | drain =>
    simp only [ingressStep]
    split
    · exact orderly
    · split
      · exact orderly
      · rename_i head
        exact take_orderly orderly head s.workers orderly.own

theorem empty_orderly : Orderly q (Ingress.empty q : Ingress q F) := by
  refine ⟨RoutedFifo.balanced_empty, by simp [Ingress.empty], ?_⟩
  intro limited
  simpa [qsize, Ingress.empty] using limited.le

variable (q)

/-- Over any interleaving: what a node was handed is the front of what was
accepted from it and the rest is queued, two workers are never at frames of one
node, and a positive capacity bounds the backlog by refusing, which changes
nothing. -/
theorem ingress_orderly (steps : List (IngressStep q F)) :
    let s := run (ingressStep q) (Ingress.empty q) steps
    (∀ nodeId, framesOf nodeId s.handedOut <+: framesOf nodeId s.accepted) ∧
    (∀ nodeId, framesOf nodeId s.accepted =
      framesOf nodeId s.handedOut ++ framesOf nodeId (s.shards (shardFor q nodeId))) ∧
    (∀ i j a b, s.workers i = some a → s.workers j = some b → a.1 = b.1 → i = j) ∧
    (0 < q.maxsize → (qsize q s.shards : ℤ) ≤ q.maxsize) ∧
    ∀ item, full q s.shards = true → ingressStep q s (.put item) = s := by
  intro s
  have orderly : Orderly q s := invariant_always ingressStep_orderly empty_orderly steps
  have within (nodeId : String) (x : String × F) (mine : decide (x.1 = nodeId) = true) :
      shardFor q x.1 = shardFor q nodeId := by
    rw [of_decide_eq_true mine]
  refine ⟨?_, ?_, ?_, orderly.bounded, ?_⟩
  · intro nodeId
    exact orderly.balanced.served_in_order _ (within nodeId)
  · intro nodeId
    exact orderly.balanced.finer _ (within nodeId)
  · intro i j a b at_a at_b same
    rw [← orderly.own i a at_a, ← orderly.own j b at_b, same]
  · intro item refused
    simp [ingressStep, putNowait, refused]

end

/-- The constructor's default has no capacity to keep to. -/
theorem unbounded_queue_exceeds_maxsize :
    ¬ ∀ steps : List (IngressStep {} Unit),
      (qsize {} (run (ingressStep {}) (Ingress.empty {}) steps).shards : ℤ) ≤ ({} : QueueShape).maxsize := by
  intro kept
  exact absurd (kept [.put ("node-a", ())]) (by decide +kernel)

end Retina.Frames
