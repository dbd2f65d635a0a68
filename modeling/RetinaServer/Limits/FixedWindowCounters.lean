import RetinaServer.Library.Dict
import RetinaServer.Library.Runs
import Mathlib.Data.Rat.Floor
import Mathlib.Tactic.Linarith

/-! Fixed-window counters: what one request, and one reclaim of a crowded map, does to them. -/
namespace Retina.Limits
open Runs

def RECLAIM_INTERVAL_S : ℚ := 1

def OVERFLOW_LOG_INTERVAL_S : ℚ := 60

/-- One of the limits a request is held to. Every limit and window in the module's tables is positive. -/
structure Spec (κ : Type u) where
  key : κ
  limit : Nat
  windowS : Nat
  limit_pos : 0 < limit := by decide
  window_pos : 0 < windowS := by decide

/-- A counter says for itself when its window ends. -/
structure Counter where
  windowEnd : ℚ
  count : Nat
deriving DecidableEq, Repr

structure FixedWindowCounters (κ : Type u) where
  maxTracked : Nat
  refuseWhenFull : Bool
  counters : Dict κ Counter
  nextOverflowLog : ℚ
  nextReclaim : ℚ

/-- What a key that is not in the map reads as. -/
def noCounter : Counter := ⟨0, 0⟩

def Counter.live (counter : Counter) (now : ℚ) : Prop := now < counter.windowEnd

instance (counter : Counter) (now : ℚ) : Decidable (counter.live now) :=
  inferInstanceAs (Decidable (now < counter.windowEnd))

/-- The end of the window of `windowS` seconds that `now` falls in. -/
def windowEndAfter (windowS : Nat) (now : ℚ) : ℚ := ((⌊now / windowS⌋ : ℚ) + 1) * windowS

namespace FixedWindowCounters
variable {κ : Type u} [DecidableEq κ]

def new (maxTracked : Nat) (refuseWhenFull : Bool) : FixedWindowCounters κ :=
  ⟨maxTracked, refuseWhenFull, Dict.empty, 0, 0⟩

def trackedCounters (c : FixedWindowCounters κ) : Nat := c.counters.size

def reclaimIfCrowded (c : FixedWindowCounters κ) (now : ℚ) : FixedWindowCounters κ :=
  if c.counters.size < c.maxTracked then c
  else if now < c.nextReclaim then c
  else
    let kept := c.counters.filter fun _ counter => decide (counter.live now)
    -- The warning itself is the log's; when it may next be given is state.
    { c with
      counters := kept
      nextReclaim := now + RECLAIM_INTERVAL_S
      nextOverflowLog :=
        if c.maxTracked ≤ kept.size ∧ c.nextOverflowLog ≤ now then now + OVERFLOW_LOG_INTERVAL_S
        else c.nextOverflowLog }

/-- `self._counters.get(key, (0.0, 0))`. -/
def counterOf (counters : Dict κ Counter) (key : κ) : Counter := (counters.get? key).getD noCounter

/-- The wait a spec without room asks for. -/
def exhausted (counters : Dict κ Counter) (now : ℚ) (spec : Spec κ) : Option ℚ :=
  let counter := counterOf counters spec.key
  if counter.live now ∧ spec.limit ≤ counter.count then some (counter.windowEnd - now) else none

def spend (now : ℚ) (counters : Dict κ Counter) (spec : Spec κ) : Dict κ Counter :=
  let counter := counterOf counters spec.key
  let counter := if counter.windowEnd ≤ now then ⟨windowEndAfter spec.windowS now, 0⟩ else counter
  counters.insert spec.key ⟨counter.windowEnd, counter.count + 1⟩

/-- A full map refuses a caller none of whose keys it tracks. -/
def refusesStranger (c : FixedWindowCounters κ) (specs : List (Spec κ)) : Bool :=
  c.refuseWhenFull && decide (c.maxTracked ≤ c.counters.size) &&
    specs.all fun spec => decide (spec.key ∉ c.counters.keys)

/-- The wait of a refused request, and the counters after it. -/
def admitRequest (c : FixedWindowCounters κ) (now : ℚ) (specs : List (Spec κ)) : Option ℚ × FixedWindowCounters κ :=
  let c := c.reclaimIfCrowded now
  if c.refusesStranger specs then (some RECLAIM_INTERVAL_S, c)
  else match specs.findSome? (exhausted c.counters now) with
    | some wait => (some wait, c)
    | none => (none, { c with counters := specs.foldl (spend now) c.counters })

/-! ### What a reclaim leaves -/

variable (c : FixedWindowCounters κ) (now : ℚ)

omit [DecidableEq κ] in
/-- A reclaim does nothing, or sweeps the counters whose window has passed. -/
theorem reclaim_cases : (c.reclaimIfCrowded now).counters = c.counters ∨
    (c.reclaimIfCrowded now).counters = c.counters.filter fun _ counter => decide (counter.live now) := by
  simp only [reclaimIfCrowded]
  split
  · exact .inl rfl
  · split
    · exact .inl rfl
    · exact .inr rfl

theorem reclaim_get?_live (found : c.counters.get? key = some counter) (live : counter.live now) :
    (c.reclaimIfCrowded now).counters.get? key = some counter := by
  rcases reclaim_cases c now with same | swept
  · rw [same, found]
  · rw [swept, Dict.get?_filter, found]
    simp [Option.filter, live]

theorem reclaim_get?_some (found : (c.reclaimIfCrowded now).counters.get? key = some counter) :
    c.counters.get? key = some counter := by
  rcases reclaim_cases c now with same | swept
  · rwa [same] at found
  · rw [swept] at found
    exact (Dict.get?_filter_some found).1

omit [DecidableEq κ] in
@[simp] theorem reclaim_maxTracked : (c.reclaimIfCrowded now).maxTracked = c.maxTracked := by
  simp only [reclaimIfCrowded]
  split
  · rfl
  · split <;> rfl

omit [DecidableEq κ] in
@[simp] theorem reclaim_refuseWhenFull : (c.reclaimIfCrowded now).refuseWhenFull = c.refuseWhenFull := by
  simp only [reclaimIfCrowded]
  split
  · rfl
  · split <;> rfl

omit [DecidableEq κ] in
theorem reclaim_keys_subset : (c.reclaimIfCrowded now).counters.keys ⊆ c.counters.keys := by
  rcases reclaim_cases c now with same | swept
  · rw [same]
    exact fun _ => id
  · rw [swept]
    exact Dict.keys_filter_subset _ _

omit [DecidableEq κ] in
theorem reclaim_size_le : (c.reclaimIfCrowded now).counters.size ≤ c.counters.size := by
  rcases reclaim_cases c now with same | swept
  · rw [same]
  · rw [swept]
    exact Dict.size_filter_le _ _

/-! ### What one request does -/

/-- All that a request can do: nothing beyond the reclaim, or spend every spec, each with room. -/
theorem admitRequest_cases (specs : List (Spec κ)) :
    (∃ wait, c.admitRequest now specs = (some wait, c.reclaimIfCrowded now)) ∨
    ((c.reclaimIfCrowded now).refusesStranger specs = false ∧
      (∀ spec ∈ specs, exhausted (c.reclaimIfCrowded now).counters now spec = none) ∧
      c.admitRequest now specs = (none, { c.reclaimIfCrowded now with
        counters := specs.foldl (spend now) (c.reclaimIfCrowded now).counters })) := by
  simp only [admitRequest]
  by_cases stranger : (c.reclaimIfCrowded now).refusesStranger specs = true
  · rw [if_pos stranger]
    exact .inl ⟨_, rfl⟩
  · rw [if_neg stranger]
    cases room : specs.findSome? (exhausted (c.reclaimIfCrowded now).counters now) with
    | some wait => exact .inl ⟨wait, rfl⟩
    | none => exact .inr ⟨Bool.not_eq_true _ ▸ stranger, List.findSome?_eq_none_iff.mp room, rfl⟩

@[simp] theorem admitRequest_maxTracked (specs : List (Spec κ)) :
    (c.admitRequest now specs).2.maxTracked = c.maxTracked := by
  obtain ⟨wait, refused⟩ | ⟨-, -, admitted⟩ := admitRequest_cases c now specs
  · simp [refused]
  · simp [admitted]

@[simp] theorem admitRequest_refuseWhenFull (specs : List (Spec κ)) :
    (c.admitRequest now specs).2.refuseWhenFull = c.refuseWhenFull := by
  obtain ⟨wait, refused⟩ | ⟨-, -, admitted⟩ := admitRequest_cases c now specs
  · simp [refused]
  · simp [admitted]

/-! ### What spending leaves under a key -/

variable (counters : Dict κ Counter)

theorem counterOf_some (found : counters.get? key = some counter) : counterOf counters key = counter := by
  simp [counterOf, found]

theorem get?_spend (spec : Spec κ) (key : κ) : (spend now counters spec).get? key =
    if spec.key = key then
      some (if (counterOf counters key).windowEnd ≤ now then ⟨windowEndAfter spec.windowS now, 1⟩
        else ⟨(counterOf counters key).windowEnd, (counterOf counters key).count + 1⟩)
    else counters.get? key := by
  rw [spend, Dict.get?_insert]
  by_cases named : spec.key = key
  · subst named
    simp only [if_true]
    split <;> simp
  · rw [if_neg named, if_neg named]

theorem get?_spendAll_unnamed (specs : List (Spec κ)) (unnamed : ∀ spec ∈ specs, spec.key ≠ key) :
    (specs.foldl (spend now) counters).get? key = counters.get? key := by
  induction specs generalizing counters with
  | nil => rfl
  | cons spec rest ih =>
    obtain ⟨other, later⟩ := List.forall_mem_cons.mp unnamed
    rw [List.foldl_cons, ih _ later, get?_spend, if_neg other]

/-- The specs of a request that name a key. -/
def naming (key : κ) (specs : List (Spec κ)) : List (Spec κ) := specs.filter fun spec => decide (spec.key = key)

/-- A counter whose window is running keeps its window and counts each spec that names it. -/
theorem get?_spendAll_live (specs : List (Spec κ)) (found : counters.get? key = some counter)
    (live : counter.live now) : (specs.foldl (spend now) counters).get? key =
      some ⟨counter.windowEnd, counter.count + (naming key specs).length⟩ := by
  induction specs generalizing counters counter with
  | nil => simpa [naming] using found
  | cons spec rest ih =>
    have running : ¬ counter.windowEnd ≤ now := not_le.mpr live
    rw [List.foldl_cons]
    by_cases named : spec.key = key
    · have spent : (spend now counters spec).get? key = some ⟨counter.windowEnd, counter.count + 1⟩ := by
        rw [get?_spend, if_pos named, counterOf_some counters found, if_neg running]
      rw [ih _ spent live]
      simp only [naming, List.filter_cons, named, decide_true, if_true, List.length_cons, Option.some.injEq,
        Counter.mk.injEq, true_and]
      omega
    · have kept : (spend now counters spec).get? key = some counter := by rw [get?_spend, if_neg named, found]
      rw [ih _ kept live]
      simp [naming, named]

theorem lt_windowEndAfter (windowS : Nat) (positive : 0 < windowS) :
    now < windowEndAfter windowS now := by
  have window : (0 : ℚ) < windowS := by exact_mod_cast positive
  have below : now / windowS < (⌊now / windowS⌋ : ℚ) + 1 := Int.lt_floor_add_one _
  rwa [div_lt_iff₀ window] at below

/-- Spending a request that names a key leaves a running counter under it, whose window ends where the
key's did or where a new one of a naming spec does. -/
theorem get?_spendAll_named (specs : List (Spec κ)) (named : ∃ spec ∈ specs, spec.key = key) {P : ℚ → Prop}
    (current : P (counterOf counters key).windowEnd)
    (renewed : ∀ spec ∈ specs, spec.key = key → P (windowEndAfter spec.windowS now)) :
    ∃ counter, (specs.foldl (spend now) counters).get? key = some counter ∧ counter.live now ∧
      P counter.windowEnd ∧ 1 ≤ counter.count := by
  induction specs generalizing counters with
  | nil => simp at named
  | cons spec rest ih =>
    obtain ⟨here, later⟩ := List.forall_mem_cons.mp renewed
    rw [List.foldl_cons]
    by_cases same : spec.key = key
    · have spent : ∃ counter, (spend now counters spec).get? key = some counter ∧ counter.live now ∧
          P counter.windowEnd ∧ 1 ≤ counter.count := by
        rw [get?_spend, if_pos same]
        by_cases ended : (counterOf counters key).windowEnd ≤ now
        · rw [if_pos ended]
          exact ⟨_, rfl, lt_windowEndAfter now _ spec.window_pos, here same, le_rfl⟩
        · rw [if_neg ended]
          exact ⟨_, rfl, not_le.mp ended, current, Nat.le_add_left 1 _⟩
      obtain ⟨counter, found, live, window, one⟩ := spent
      exact ⟨_, get?_spendAll_live now _ rest found live, live, window, Nat.le_add_right_of_le one⟩
    · refine ih _ ?_ ?_ later
      · obtain ⟨other, member, name⟩ := named
        exact ⟨other, (List.mem_cons.mp member).resolve_left fun head => same (head ▸ name), name⟩
      · rwa [counterOf, get?_spend, if_neg same]

theorem count_spend_le (spec : Spec κ) (key : κ) : (counterOf (spend now counters spec) key).count ≤
    (counterOf counters key).count + (naming key [spec]).length := by
  rw [counterOf, get?_spend]
  by_cases named : spec.key = key
  · rw [if_pos named, Option.getD_some, naming, List.filter_cons_of_pos (by simpa using named)]
    split <;> simp
  · rw [if_neg named]
    exact Nat.le_add_right _ _

/-- A request counts at most once for each spec that names the key. -/
theorem count_spendAll_le (specs : List (Spec κ)) (key : κ) :
    (counterOf (specs.foldl (spend now) counters) key).count ≤
      (counterOf counters key).count + (naming key specs).length := by
  induction specs generalizing counters with
  | nil => exact Nat.le_add_right _ _
  | cons spec rest ih =>
    have first := count_spend_le now counters spec key
    have others := ih (spend now counters spec)
    have split : (naming key (spec :: rest)).length = (naming key [spec]).length + (naming key rest).length := by
      rw [naming, ← List.singleton_append, List.filter_append, List.length_append]
      rfl
    rw [List.foldl_cons, split]
    omega

theorem count_reclaim_le (c : FixedWindowCounters κ) (key : κ) :
    (counterOf (c.reclaimIfCrowded now).counters key).count ≤ (counterOf c.counters key).count := by
  cases found : (c.reclaimIfCrowded now).counters.get? key with
  | none => simp [counterOf, found, noCounter]
  | some counter => simp [counterOf, found, reclaim_get?_some c now found]

end FixedWindowCounters
end Retina.Limits

/-! The four limiters over the counters: what each one counts under, and what it answers. -/
namespace Retina.Limits

/-- The second half of a counter's key: an endpoint, or an index into a limiter's table. -/
inductive Slot where
  | endpoint (name : String)
  | registration (i : Nat)
  | claim (i : Nat)
  | claimAddress (i : Nat)
  | polledProbe (i : Nat)
deriving DecidableEq, Repr

abbrev Key := String × Slot

def RATE_LIMITED_BODY : List (String × String) := [("error", "rate_limited")]

def REFUSAL_BODY : List (String × String) := [("error", "forbidden")]

structure Refusal where
  statusCode : Nat
  body : List (String × String)
  retryAfterS : ℤ
deriving DecidableEq, Repr

/-- What a limiter with a 429 makes of the counters' answer. -/
def tooFast (outcome : Option ℚ × FixedWindowCounters Key) : Option Refusal × FixedWindowCounters Key :=
  (outcome.1.map fun wait => ⟨429, RATE_LIMITED_BODY, max 1 ⌈wait⌉⟩, outcome.2)

def MAX_TRACKED_KEYS : Nat := 512

/-- The limit of an endpoint; `none` is an endpoint the limiter raises on. -/
def endpointSpec (nodeId : String) : String → Option (Spec Key)
  | "detection" => some { key := (nodeId, .endpoint "detection"), limit := 8, windowS := 1 }
  | "heartbeat" => some { key := (nodeId, .endpoint "heartbeat"), limit := 30, windowS := 60 }
  | "config" => some { key := (nodeId, .endpoint "config"), limit := 30, windowS := 60 }
  | _ => none

def TokenRateLimiter.new (maxTracked : Nat := MAX_TRACKED_KEYS) : FixedWindowCounters Key :=
  FixedWindowCounters.new maxTracked false

def TokenRateLimiter.admitCall (c : FixedWindowCounters Key) (now : ℚ) (nodeId endpoint : String) :
    Except String (Option Refusal × FixedWindowCounters Key) :=
  match endpointSpec nodeId endpoint with
  | none => .error s!"no rate limit configured for endpoint '\x7bendpoint\x7d'"
  | some spec => .ok (tooFast (c.admitRequest now [spec]))

def MAX_CLAIM_KEYS : Nat := 10000

def claimSpecs (nodeId email : String) : List (Spec Key) :=
  [{ key := (nodeId, .claim 0), limit := 5, windowS := 3600 },
   { key := (nodeId, .claim 1), limit := 20, windowS := 86400 },
   { key := (email, .claimAddress 0), limit := 5, windowS := 3600 },
   { key := (email, .claimAddress 1), limit := 20, windowS := 86400 }]

def ClaimRateLimiter.new (maxTracked : Nat := MAX_CLAIM_KEYS) : FixedWindowCounters Key :=
  FixedWindowCounters.new maxTracked true

def ClaimRateLimiter.admitCall (c : FixedWindowCounters Key) (now : ℚ) (nodeId email : String) :
    Option Refusal × FixedWindowCounters Key :=
  tooFast (c.admitRequest now (claimSpecs nodeId email))

def MAX_REGISTRATION_KEYS : Nat := 50000

def registrationSpecs (nodeId : String) : List (Spec Key) :=
  [{ key := (nodeId, .registration 0), limit := 5, windowS := 3600 },
   { key := (nodeId, .registration 1), limit := 20, windowS := 86400 }]

def RegistrationRateLimiter.new (maxTracked : Nat := MAX_REGISTRATION_KEYS) : FixedWindowCounters Key :=
  FixedWindowCounters.new maxTracked true

def RETRY_AFTER_BASE_S : ℤ := 300

def RETRY_AFTER_JITTER_S : ℤ := 60

/-- `jitter` is the draw below twice the jitter. -/
def refusalRetryAfter (jitter : Fin 120) : ℤ := RETRY_AFTER_BASE_S + (jitter : ℤ) - RETRY_AFTER_JITTER_S

/-- The refusal says nothing of the counters. -/
def RegistrationRateLimiter.admitCall (c : FixedWindowCounters Key) (now : ℚ) (nodeId : String) (jitter : Fin 120) :
    Option Refusal × FixedWindowCounters Key :=
  let outcome := c.admitRequest now (registrationSpecs nodeId)
  (outcome.1.map fun _ => ⟨403, REFUSAL_BODY, refusalRetryAfter jitter⟩, outcome.2)

def MAX_POLLED_PROBE_KEYS : Nat := 10000

def polledProbeSpecs (userId : String) : List (Spec Key) :=
  [{ key := (userId, .polledProbe 0), limit := 10, windowS := 3600 }]

def PolledProbeRateLimiter.new (maxTracked : Nat := MAX_POLLED_PROBE_KEYS) : FixedWindowCounters Key :=
  FixedWindowCounters.new maxTracked true

def PolledProbeRateLimiter.admitCall (c : FixedWindowCounters Key) (now : ℚ) (userId : String) :
    Option Refusal × FixedWindowCounters Key :=
  tooFast (c.admitRequest now (polledProbeSpecs userId))

end Retina.Limits
