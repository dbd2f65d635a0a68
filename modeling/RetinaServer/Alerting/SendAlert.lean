import RetinaServer.Tcp.Json
import RetinaServer.Library.Runs
import Mathlib.Data.Finset.Basic

/-! Alerts sent from any number of threads. A call that is let through reserves its alert type under the
lock and starts a thread; the thread posts the alert, a few times if it must, and gives the type back. -/
namespace Retina.Alerting
open Tcp (PyFloat)
open OrderedDict

def MAX_DELIVERY_ATTEMPTS : ℕ := 3

def FAILURE_REOPEN_S : ℚ := 90

def RETRIABLE_4XX : List ℤ := [408, 429]

/-! ### One delivery -/

/-- What a post comes back with; a fault is any exception but a transport error. -/
inductive Answer where
  | status (code : ℤ)
  | requestError
  | fault

inductive Outcome where
  | delivered
  | terminal
  | exhausted
  | fault
deriving DecidableEq

/-- What one answer settles; nothing, when the post may be made again. -/
def attempt : Answer → Option Outcome
  | .status code =>
      if 200 ≤ code ∧ code < 300 then some .delivered
      else if 500 ≤ code ∨ code ∈ RETRIABLE_4XX then none
      else some .terminal
  | .requestError => none
  | .fault => some .fault

/-- The loop of `_fire` from its `n`th attempt on, which `left` more may follow. -/
def attempts (answer : ℕ → Answer) : (left n : ℕ) → Outcome
  | 0, n => (attempt (answer n)).getD .exhausted
  | left + 1, n => (attempt (answer n)).getD (attempts answer left (n + 1))

def fire (answer : ℕ → Answer) : Outcome := attempts answer (MAX_DELIVERY_ATTEMPTS - 1) 1

theorem attempt_ne_exhausted (a : Answer) : attempt a ≠ some .exhausted := by
  cases a with
  | status code =>
    rw [attempt]
    split_ifs <;> simp
  | requestError | fault => simp [attempt]

theorem attempts_exhausted_iff (answer : ℕ → Answer) (left n : ℕ) :
    attempts answer left n = .exhausted ↔ ∀ k, n ≤ k → k ≤ n + left → attempt (answer k) = none := by
  induction left generalizing n with
  | zero =>
    rw [attempts]
    constructor
    · intro exhausted k low high
      obtain rfl : k = n := by omega
      cases settled : attempt (answer k) with
      | none => rfl
      | some outcome =>
        rw [settled, Option.getD_some] at exhausted
        exact absurd (exhausted ▸ settled) (attempt_ne_exhausted _)
    · intro all
      rw [all n le_rfl le_rfl, Option.getD_none]
  | succ left ih =>
    rw [attempts]
    cases settled : attempt (answer n) with
    | none =>
      rw [Option.getD_none, ih]
      constructor
      · intro all k low high
        rcases low.eq_or_lt with rfl | later
        · exact settled
        · exact all k later (by omega)
      · exact fun all k low high => all k (by omega) (by omega)
    | some outcome =>
      rw [Option.getD_some]
      constructor
      · exact fun exhausted => absurd (exhausted ▸ settled) (attempt_ne_exhausted _)
      · intro all
        rw [all n le_rfl (by omega)] at settled
        cases settled

/-- A delivery is exhausted when no attempt settles it. -/
theorem fire_exhausted_iff (answer : ℕ → Answer) :
    fire answer = .exhausted ↔ ∀ k, 1 ≤ k → k ≤ MAX_DELIVERY_ATTEMPTS → attempt (answer k) = none :=
  attempts_exhausted_iff answer _ 1

/-! ### The lock's three maps -/

structure Slots where
  lastSent : Dict String ℚ
  reopenAt : Dict String ℚ
  inFlight : Finset String

/-- `now - last < cooldown_s`; a cooldown that is NaN keeps nothing apart. -/
def inCooldown (cooldown : PyFloat) (now last : ℚ) : Bool := PyFloat.lt (.fin (now - last)) cooldown

/-- The checks under the lock, for the clock and the cooldown as they were read before it. -/
def Slots.admits (s : Slots) (alertType : String) (now : ℚ) (cooldown : PyFloat) : Bool :=
  !inCooldown cooldown now ((s.lastSent.get? alertType).getD 0) &&
    !decide (now < (s.reopenAt.get? alertType).getD 0) && !decide (alertType ∈ s.inFlight)

def Slots.reserve (s : Slots) (alertType : String) (now : ℚ) : Slots where
  lastSent := s.lastSent.insert alertType now
  reopenAt := s.reopenAt.erase alertType
  inFlight := insert alertType s.inFlight

/-- `_reopen_after_failed_delivery`, for the slot that was reserved at `now`. -/
def Slots.reopenAfterFailedDelivery (s : Slots) (alertType : String) (now : ℚ) : Slots :=
  if s.lastSent.get? alertType ≠ some now then s
  else { s with
    lastSent := s.lastSent.erase alertType
    reopenAt := s.reopenAt.insert alertType (now + FAILURE_REOPEN_S) }

def Slots.discard (s : Slots) (alertType : String) : Slots := { s with inFlight := s.inFlight.erase alertType }

/-! ### The threads -/

/-- Where a call that was let through has got to. Where no thread could be started the marker goes
first and the slot is reopened after it; after a delivery it is the other way round. -/
inductive Phase where
  | reserved
  | unmarked
  | unstarted
  | delivering
  | failed
  | reopened
  | ended
  | done (failed : Bool)
deriving DecidableEq

/-- A call that was let through, and when its delivery failed if it did. -/
structure Delivery where
  alertType : String
  now : ℚ
  cooldown : PyFloat
  phase : Phase := .reserved
  failedAt : Option ℚ := none
deriving DecidableEq

def Delivery.begun (alertType : String) (now : ℚ) (cooldown : PyFloat) : Delivery := { alertType, now, cooldown }

structure Alerts where
  slots : Slots
  deliveries : List Delivery

def Alerts.boot : Alerts := ⟨⟨Dict.empty, Dict.empty, ∅⟩, []⟩

inductive Turn where
  | launch (starts : Bool)
  | deliver (answer : ℕ → Answer) (time : ℚ)
  | reopen
  | finish

inductive Action where
  | send (alertType : String) (now : ℚ) (cooldown : PyFloat) (configured : Bool)
  | turn (i : ℕ) (turn : Turn)

/-- One turn of a delivery; a turn that is not its next changes nothing. -/
def Delivery.take (d : Delivery) (s : Slots) (turn : Turn) : Slots × Delivery :=
  match d.phase, turn with
  | .reserved, .launch true => (s, { d with phase := .delivering })
  | .reserved, .launch false => (s.discard d.alertType, { d with phase := .unmarked })
  | .unmarked, .reopen => (s.reopenAfterFailedDelivery d.alertType d.now, { d with phase := .unstarted })
  | .delivering, .deliver answer time =>
      if fire answer = .exhausted ∨ fire answer = .fault
      then (s, { d with phase := .failed, failedAt := some time })
      else (s, { d with phase := .ended })
  | .failed, .reopen => (s.reopenAfterFailedDelivery d.alertType d.now, { d with phase := .reopened })
  | .reopened, .finish => (s.discard d.alertType, { d with phase := .done true })
  | .ended, .finish => (s.discard d.alertType, { d with phase := .done false })
  | _, _ => (s, d)

def step (a : Alerts) : Action → Alerts
  | .send alertType now cooldown configured =>
      if configured && a.slots.admits alertType now cooldown then
        ⟨a.slots.reserve alertType now, a.deliveries ++ [Delivery.begun alertType now cooldown]⟩
      else a
  | .turn i turn =>
      match a.deliveries[i]? with
      | none => a
      | some d => ⟨(d.take a.slots turn).1, a.deliveries.set i (d.take a.slots turn).2⟩

/-- The deliveries of a type, in the order they were let through. -/
def Alerts.ofType (a : Alerts) (alertType : String) : List Delivery :=
  a.deliveries.filter fun d => decide (d.alertType = alertType)

/-- It still holds the marker of its type. -/
def Delivery.inFlight (d : Delivery) : Bool :=
  match d.phase with
  | .reserved | .delivering | .failed | .reopened | .ended => true
  | .unmarked | .unstarted | .done _ => false

/-- Its alert is lost and its slot has been reopened. -/
def Delivery.lost (d : Delivery) : Bool :=
  match d.phase with
  | .unstarted | .reopened | .done true => true
  | .reserved | .unmarked | .delivering | .failed | .ended | .done false => false

end Retina.Alerting
