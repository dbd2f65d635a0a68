import RetinaServer.Limits.FixedWindowCounters
import RetinaServer.Polled.Poller
import Mathlib.Logic.Function.Basic

/-! Owners registering radars. A registration counts what the account owns, probes the radar, writes the rows and
commits, and other registrations and removals come between its awaits. -/
namespace Retina.Polled.Registering
open Runs
open Limits (Key FixedWindowCounters PolledProbeRateLimiter.admitCall)

def MAX_RADARS_PER_ACCOUNT : Nat := 10
def MAX_PROBES_IN_FLIGHT : Nat := 4

/-- A radar's row, with the account its claim names. -/
structure Row where
  owner : String
  endpointKey : String

structure Request where
  user : String
  /-- What `parse_endpoint` makes of the address. -/
  endpoint : Option PolledEndpoint
  /-- The declaration that the owner confirmed. -/
  fingerprint : String
deriving DecidableEq

/-- What the probe found. `usable` is whether the declared configuration is valid. -/
structure Declared where
  fingerprint : String
  usable : Bool

/-- How far a call of `register` has come. -/
inductive Call where
  | idle
  | counted (req : Request)
  /-- It has taken its place among the probes in flight, and asks whether the address is registered. -/
  | asking (req : Request) (endpoint : PolledEndpoint)
  | probing (req : Request) (endpoint : PolledEndpoint)
  | probed (req : Request) (endpoint : PolledEndpoint)
  /-- Its rows are flushed. -/
  | written (req : Request) (endpoint : PolledEndpoint) (nodeId : String)
deriving DecidableEq

def Call.user : Call → Option String
  | .idle => none
  | .counted req | .asking req _ | .probing req _ | .probed req _ | .written req _ _ => some req.user

def Call.inFlight : Call → Bool
  | .asking _ _ | .probing _ _ => true
  | _ => false

structure Registry (κ : Type) where
  /-- The committed rows. -/
  radars : Dict String Row
  calls : κ → Call
  /-- `_in_flight`. -/
  inFlight : Nat
  limiter : FixedWindowCounters Key
  /-- The call that has written and not committed: the database takes one writer at a time. -/
  writer : Option κ

inductive Event (κ : Type) where
  | count (c : κ) (req : Request)
  /-- The refusals that need no request. `keyed` is whether a password could be stored. -/
  | enter (c : κ) (now : ℚ) (keyed : Bool)
  | ask (c : κ)
  | answer (c : κ) (declared : Option Declared)
  | write (c : κ) (nodeId : String)
  | commit (c : κ)
  /-- An exception: the session is rolled back. -/
  | abandon (c : κ)
  /-- A removal commits. -/
  | remove (nodeId : String)

namespace Registry

variable {κ : Type}

def owned (s : Registry κ) (user : String) : Nat := s.radars.values.countP fun row => decide (row.owner = user)

def registered (s : Registry κ) (endpointKey : String) : Bool :=
  s.radars.values.any fun row => decide (row.endpointKey = endpointKey)

variable [DecidableEq κ]

def setCall (s : Registry κ) (c : κ) (call : Call) : Registry κ := { s with calls := Function.update s.calls c call }

/-- `probe`, up to its first await. A place taken and refused within the step is given back in it. -/
def startProbe (s : Registry κ) (c : κ) (req : Request) (now : ℚ) (keyed : Bool) : Registry κ :=
  match req.endpoint with
  | none => s.setCall c .idle
  | some endpoint =>
      if endpoint.authSecret.isSome && !keyed then s.setCall c .idle
      else if MAX_PROBES_IN_FLIGHT ≤ s.inFlight then s.setCall c .idle
      else
        let (refusal, limiter) := PolledProbeRateLimiter.admitCall s.limiter now req.user
        if refusal.isSome then { s.setCall c .idle with limiter }
        else { s.setCall c (.asking req endpoint) with limiter, inFlight := s.inFlight + 1 }

/-- `create_polled_radar`, up to its flush. -/
def write (s : Registry κ) (c : κ) (req : Request) (endpoint : PolledEndpoint) (nodeId : String) : Registry κ :=
  -- The writer before is waited for, and an id in use is minted again.
  if s.writer.isSome || (s.radars.get? nodeId).isSome then s
  else if s.registered endpoint.endpointKey then s.setCall c .idle
  else { s.setCall c (.written req endpoint nodeId) with writer := some c }

def release (s : Registry κ) (call : Call) : Registry κ :=
  match call with
  | .asking _ _ | .probing _ _ => { s with inFlight := s.inFlight - 1 }
  | .written _ _ _ => { s with writer := none }
  | _ => s

def step (s : Registry κ) : Event κ → Registry κ
  | .count c req => match s.calls c with
      | .idle => if MAX_RADARS_PER_ACCOUNT ≤ s.owned req.user then s else s.setCall c (.counted req)
      | _ => s
  | .enter c now keyed => match s.calls c with
      | .counted req => s.startProbe c req now keyed
      | _ => s
  | .ask c => match s.calls c with
      | .asking req endpoint =>
          if s.registered endpoint.endpointKey then { s.setCall c .idle with inFlight := s.inFlight - 1 }
          else s.setCall c (.probing req endpoint)
      | _ => s
  | .answer c declared => match s.calls c with
      | .probing req endpoint =>
          let agreed := declared.any fun d => d.usable && decide (d.fingerprint = req.fingerprint)
          { s.setCall c (if agreed then .probed req endpoint else .idle) with inFlight := s.inFlight - 1 }
      | _ => s
  | .write c nodeId => match s.calls c with
      | .probed req endpoint => s.write c req endpoint nodeId
      | _ => s
  | .commit c => match s.calls c with
      | .written req endpoint nodeId =>
          { s.setCall c .idle with
            radars := s.radars.insert nodeId { owner := req.user, endpointKey := endpoint.endpointKey }
            writer := none }
      | _ => s
  | .abandon c => (s.setCall c .idle).release (s.calls c)
  | .remove nodeId => if s.writer.isSome then s else { s with radars := s.radars.erase nodeId }

/-- The account whose radar a removal takes. -/
def removes (s : Registry κ) (nodeId : String) : Option String :=
  if s.writer.isSome then none else (s.radars.get? nodeId).map Row.owner

end Registry

/-! ### What a step leaves alone -/

section
variable {κ : Type} [DecidableEq κ] {s : Registry κ} {c : κ}

theorem user_setCall {call : Call} (keeps : ∀ user, call.user = some user → (s.calls c).user = some user)
    (named : ((s.setCall c call).calls c').user = some user) : (s.calls c').user = some user := by
  by_cases here : c' = c
  · subst here
    simp only [Registry.setCall, Function.update_self] at named
    exact keeps user named
  · simpa only [Registry.setCall, Function.update_of_ne here] using named

theorem user_idle (named : ((s.setCall c .idle).calls c').user = some user) : (s.calls c').user = some user :=
  user_setCall (by rintro _ ⟨⟩) named

omit [DecidableEq κ] in
theorem calls_release (call : Call) : (s.release call).calls = s.calls := by
  cases call <;> rfl

omit [DecidableEq κ] in
theorem radars_release (call : Call) : (s.release call).radars = s.radars := by
  cases call <;> rfl

omit [DecidableEq κ] in
theorem writer_release (other : ∀ req endpoint nodeId, call ≠ .written req endpoint nodeId) :
    (s.release call).writer = s.writer := by
  cases call with
  | written req endpoint nodeId => exact absurd rfl (other req endpoint nodeId)
  | idle | counted _ | asking _ _ | probing _ _ | probed _ _ => rfl

theorem written_setCall {call : Call} (other : ∀ req endpoint nodeId, call ≠ .written req endpoint nodeId)
    (phase : (s.setCall c call).calls c' = .written req endpoint nodeId) :
    c' ≠ c ∧ s.calls c' = .written req endpoint nodeId := by
  by_cases here : c' = c
  · subst here
    simp only [Registry.setCall, Function.update_self] at phase
    exact absurd phase (other req endpoint nodeId)
  · simp only [Registry.setCall, Function.update_of_ne here] at phase
    exact ⟨here, phase⟩

/-- What a step makes of the calls, of the rows and of the writer. -/
inductive Turn (s : Registry κ) (e : Event κ) (s' : Registry κ) : Prop where
  | stays (calls : s'.calls = s.calls) (radars : s'.radars = s.radars) (writer : s'.writer = s.writer)
  | moves (caller : κ) (call : Call) (unwritten : ∀ req endpoint nodeId, call ≠ .written req endpoint nodeId)
      (keeps : ∀ user, call.user = some user → (s.calls caller).user = some user)
      (calls : s'.calls = (s.setCall caller call).calls) (radars : s'.radars = s.radars) (writer : s'.writer = s.writer)
  | counts (named : e = .count caller req) (idle : s.calls caller = .idle)
      (room : s.owned req.user < MAX_RADARS_PER_ACCOUNT) (calls : s'.calls = (s.setCall caller (.counted req)).calls)
      (radars : s'.radars = s.radars) (writer : s'.writer = s.writer)
  | writes (phase : s.calls caller = .probed req endpoint) (free : s.writer = none) (fresh : s.radars.get? nodeId = none)
      (calls : s'.calls = (s.setCall caller (.written req endpoint nodeId)).calls) (radars : s'.radars = s.radars)
      (writer : s'.writer = some caller)
  | ends (phase : s.calls caller = .written req endpoint nodeId) (calls : s'.calls = (s.setCall caller .idle).calls)
      (radars : (∀ c, e ≠ .commit c) → s'.radars = s.radars)
  | removes (named : e = .remove nodeId) (free : s.writer = none) (calls : s'.calls = s.calls)

theorem Turn.gives_up {s' : Registry κ} (c : κ) (calls : s'.calls = (s.setCall c .idle).calls) (radars : s'.radars = s.radars)
    (writer : s'.writer = s.writer) (e : Event κ) : Turn s e s' :=
  .moves c .idle (by rintro _ _ _ ⟨⟩) (by rintro _ ⟨⟩) calls radars writer

theorem turn_step (e : Event κ) : Turn s e (s.step e) := by
  cases e with
  | count c req =>
    simp only [Registry.step]
    split
    · rename_i idle
      split
      · exact .stays rfl rfl rfl
      · rename_i room
        exact .counts rfl idle (Nat.lt_of_not_le room) rfl rfl rfl
    · exact .stays rfl rfl rfl
  | enter c now keyed =>
    simp only [Registry.step]
    split
    · rename_i req phase
      simp only [Registry.startProbe]
      split
      · exact .gives_up c rfl rfl rfl _
      · split
        · exact .gives_up c rfl rfl rfl _
        · split
          · exact .gives_up c rfl rfl rfl _
          · split
            · refine .gives_up c ?_ ?_ ?_ _ <;> rfl
            · exact .moves c _ (by rintro _ _ _ ⟨⟩) (fun user same => by rw [phase]; exact same) rfl rfl rfl
    · exact .stays rfl rfl rfl
  | ask c =>
    simp only [Registry.step]
    split
    · rename_i req endpoint phase
      split
      · refine .gives_up c ?_ ?_ ?_ _ <;> rfl
      · exact .moves c _ (by rintro _ _ _ ⟨⟩) (fun user same => by rw [phase]; exact same) rfl rfl rfl
    · exact .stays rfl rfl rfl
  | answer c declared =>
    simp only [Registry.step]
    split
    · rename_i req endpoint phase
      split
      · exact .moves c _ (by rintro _ _ _ ⟨⟩) (fun user same => by rw [phase]; exact same) rfl rfl rfl
      · refine .gives_up c ?_ ?_ ?_ _ <;> rfl
    · exact .stays rfl rfl rfl
  | write c nodeId =>
    simp only [Registry.step]
    split
    · rename_i req endpoint phase
      simp only [Registry.write]
      split
      · exact .stays rfl rfl rfl
      · rename_i free
        rw [Bool.or_eq_true, not_or, Bool.not_eq_true, Bool.not_eq_true, Option.isSome_eq_false_iff,
          Option.isNone_iff_eq_none, Option.isSome_eq_false_iff, Option.isNone_iff_eq_none] at free
        split
        · exact .gives_up c rfl rfl rfl _
        · exact .writes phase free.1 free.2 rfl rfl rfl
    · exact .stays rfl rfl rfl
  | commit c =>
    simp only [Registry.step]
    split
    · rename_i req endpoint nodeId phase
      exact .ends phase rfl fun uncommitted => absurd rfl (uncommitted c)
    · exact .stays rfl rfl rfl
  | abandon c =>
    simp only [Registry.step]
    cases phase : s.calls c with
    | written req endpoint nodeId => exact .ends phase (calls_release _) fun _ => radars_release _
    | idle | counted _ | asking _ _ | probing _ _ | probed _ _ =>
      exact .gives_up c (calls_release _) (radars_release _) (writer_release (by rintro _ _ _ ⟨⟩)) _
  | remove nodeId =>
    simp only [Registry.step]
    split
    · exact .stays rfl rfl rfl
    · rename_i free
      rw [Bool.not_eq_true, Option.isSome_eq_false_iff, Option.isNone_iff_eq_none] at free
      exact .removes rfl free rfl

theorem radars_step {e : Event κ} (uncommitted : ∀ c, e ≠ .commit c) (unremoved : ∀ nodeId, e ≠ .remove nodeId) :
    (s.step e).radars = s.radars := by
  cases turn_step (s := s) e with
  | stays _ radars _ => exact radars
  | moves _ _ _ _ _ radars _ => exact radars
  | counts _ _ _ _ radars _ => exact radars
  | writes _ _ _ _ radars _ => exact radars
  | ends _ _ radars => exact radars uncommitted
  | removes named => exact absurd named (unremoved _)

/-- A call has an account from its count on. -/
theorem user_step (e : Event κ) (named : ((s.step e).calls c).user = some user) :
    (s.calls c).user = some user ∨
      ∃ req, e = .count c req ∧ s.calls c = .idle ∧ req.user = user ∧ s.owned user < MAX_RADARS_PER_ACCOUNT := by
  cases turn_step (s := s) e with
  | stays calls _ _ => exact .inl (calls ▸ named)
  | moves _ _ _ keeps calls _ _ => exact .inl (user_setCall keeps (calls ▸ named))
  | @counts c' req event idle room calls _ _ =>
    rw [calls] at named
    by_cases here : c = c'
    · subst here
      simp only [Registry.setCall, Function.update_self, Call.user, Option.some.injEq] at named
      exact .inr ⟨req, event, idle, named, named ▸ room⟩
    · simp only [Registry.setCall, Function.update_of_ne here] at named
      exact .inl named
  | writes phase _ _ calls _ _ =>
    exact .inl (user_setCall (fun user same => by rw [phase]; exact same) (calls ▸ named))
  | ends _ calls _ => exact .inl (user_idle (calls ▸ named))
  | removes _ _ calls => exact .inl (calls ▸ named)

/-- One call at a time has written, under an id nothing else has. -/
def Exclusive (s : Registry κ) : Prop :=
  ∀ c req endpoint nodeId, s.calls c = .written req endpoint nodeId → s.writer = some c ∧ s.radars.get? nodeId = none

theorem exclusive_setCall (exclusive : Exclusive s) {s' : Registry κ} {call : Call}
    (other : ∀ req endpoint nodeId, call ≠ .written req endpoint nodeId) (calls : s'.calls = (s.setCall c call).calls)
    (writer : s'.writer = s.writer) (radars : s'.radars = s.radars) : Exclusive s' := by
  intro c' req endpoint nodeId phase
  rw [calls] at phase
  rw [writer, radars]
  exact exclusive c' req endpoint nodeId (written_setCall other phase).2

/-- A writer that ends, with what it wrote or without. -/
theorem exclusive_ended (exclusive : Exclusive s) (phase : s.calls c = .written req endpoint nodeId) {s' : Registry κ}
    (calls : s'.calls = (s.setCall c .idle).calls) : Exclusive s' := by
  intro c' req' endpoint' nodeId' phase'
  rw [calls] at phase'
  obtain ⟨other, written⟩ := written_setCall (by rintro _ _ _ ⟨⟩) phase'
  have same := (exclusive c' _ _ _ written).1.symm.trans (exclusive c _ _ _ phase).1
  exact absurd (Option.some.inj same) other

theorem exclusive_step (exclusive : Exclusive s) (e : Event κ) : Exclusive (s.step e) := by
  cases turn_step (s := s) e with
  | stays calls radars writer =>
    intro c req endpoint nodeId phase
    rw [writer, radars]
    exact exclusive c req endpoint nodeId (calls ▸ phase)
  | moves _ _ unwritten _ calls radars writer => exact exclusive_setCall exclusive unwritten calls writer radars
  | counts _ _ _ calls radars writer => exact exclusive_setCall exclusive (by rintro _ _ _ ⟨⟩) calls writer radars
  | @writes c req endpoint nodeId _ free fresh calls radars writer =>
    intro c' req' endpoint' nodeId' phase'
    rw [writer, radars]
    rw [calls] at phase'
    by_cases here : c' = c
    · subst here
      simp only [Registry.setCall, Function.update_self, Call.written.injEq] at phase'
      obtain ⟨-, -, rfl⟩ := phase'
      exact ⟨rfl, fresh⟩
    · simp only [Registry.setCall, Function.update_of_ne here] at phase'
      have held := (exclusive c' _ _ _ phase').1
      rw [free] at held
      cases held
  | ends phase calls _ => exact exclusive_ended exclusive phase calls
  | removes _ free calls =>
    intro c req endpoint nodeId phase
    have held := (exclusive c req endpoint nodeId (calls ▸ phase)).1
    rw [free] at held
    cases held

end

/-- What a call counted, and what has become of its account since: the registrations that have committed, and
the removals. -/
structure Tally where
  counted : Nat
  joined : Nat
  left : Nat

structure Watched (κ : Type) where
  registry : Registry κ
  tallies : κ → Tally

namespace Watched

variable {κ : Type} [DecidableEq κ]

def start (radars : Dict String Row) (limiter : FixedWindowCounters Key) : Watched κ where
  registry := { radars, calls := fun _ => .idle, inFlight := 0, limiter, writer := none }
  tallies := fun _ => ⟨0, 0, 0⟩

/-- The account's other calls hear of it. -/
def hear (s : Watched κ) (user : String) (f : Tally → Tally) : κ → Tally := fun c =>
  if (s.registry.calls c).user = some user then f (s.tallies c) else s.tallies c

def talliesAfter (s : Watched κ) : Event κ → κ → Tally
  | .count c req => match s.registry.calls c with
      | .idle => Function.update s.tallies c ⟨s.registry.owned req.user, 0, 0⟩
      | _ => s.tallies
  | .commit c => match s.registry.calls c with
      | .written req _ _ => s.hear req.user fun t => { t with joined := t.joined + 1 }
      | _ => s.tallies
  | .remove nodeId => match s.registry.removes nodeId with
      | some user => s.hear user fun t => { t with left := t.left + 1 }
      | none => s.tallies
  | _ => s.tallies

def step (s : Watched κ) (e : Event κ) : Watched κ where
  registry := s.registry.step e
  tallies := s.talliesAfter e

/-- A registration that commits leaves its account no more radars than the cap. -/
def WithinCap (s : Watched κ) : Event κ → Prop
  | .commit c => match s.registry.calls c with
      | .written req _ _ => (s.registry.step (.commit c)).owned req.user ≤ MAX_RADARS_PER_ACCOUNT
      | _ => True
  | _ => True

/-- The registrations of the account that have committed since this one counted are fewer than its count and the
removals since leave room for. -/
def LeavesRoom (s : Watched κ) : Event κ → Prop
  | .commit c => match s.registry.calls c with
      | .written _ _ _ =>
          (s.tallies c).counted + (s.tallies c).joined < MAX_RADARS_PER_ACCOUNT + (s.tallies c).left
      | _ => True
  | _ => True

/-- The tallies account for what each call's account owns. -/
structure Sound (s : Watched κ) : Prop where
  told : ∀ c user, (s.registry.calls c).user = some user →
    s.registry.owned user + (s.tallies c).left = (s.tallies c).counted + (s.tallies c).joined
  room : ∀ c user, (s.registry.calls c).user = some user → (s.tallies c).counted < MAX_RADARS_PER_ACCOUNT
  exclusive : Exclusive s.registry

variable {s : Watched κ}

theorem owned_commit (exclusive : Exclusive s.registry) (phase : s.registry.calls c = .written req endpoint nodeId)
    (user : String) : (s.registry.step (.commit c)).owned user =
      s.registry.owned user + if req.user = user then 1 else 0 := by
  simp only [Registry.step, phase, Registry.owned, Dict.countP_insert_new _ _ (exclusive c _ _ _ phase).2,
    decide_eq_true_eq]

theorem owned_remove (s : Registry κ) (nodeId user : String) :
    (s.step (.remove nodeId)).owned user + (if s.removes nodeId = some user then 1 else 0) = s.owned user := by
  cases writer : s.writer with
  | some c => simp [Registry.step, Registry.removes, writer]
  | none =>
    have erased := Dict.countP_erase s.radars (fun row => decide (row.owner = user)) nodeId
    cases found : s.radars.get? nodeId with
    | none => simpa [Registry.step, Registry.removes, Registry.owned, writer, found] using erased
    | some row => simpa [Registry.step, Registry.removes, Registry.owned, writer, found] using erased

/-- A call that counts is not one that has. -/
theorem tally_count (req : Request) (named : (s.registry.calls c).user = some user) :
    s.talliesAfter (.count c' req) c = s.tallies c := by
  cases phase : s.registry.calls c' with
  | idle =>
    have other : c ≠ c' := by
      rintro rfl
      rw [phase] at named
      cases named
    simp only [talliesAfter, phase, Function.update_of_ne other]
  | counted _ | asking _ _ | probing _ _ | probed _ _ | written _ _ _ => simp only [talliesAfter, phase]

/-- The account's tally moves with what it owns. -/
theorem told_step (sound : s.Sound) {e : Event κ} (named : (s.registry.calls c).user = some user) :
    (s.registry.step e).owned user + (s.talliesAfter e c).left =
      (s.talliesAfter e c).counted + (s.talliesAfter e c).joined := by
  have before := sound.told c user named
  have unmoved (radars : (s.registry.step e).radars = s.registry.radars) (tallies : s.talliesAfter e c = s.tallies c) :
      (s.registry.step e).owned user + (s.talliesAfter e c).left =
        (s.talliesAfter e c).counted + (s.talliesAfter e c).joined := by
    rw [Registry.owned, radars, tallies]
    exact before
  cases e with
  | enter c' _ _ | ask c' | answer c' _ | write c' _ | abandon c' =>
    exact unmoved (radars_step (by rintro _ ⟨⟩) (by rintro _ ⟨⟩)) rfl
  | count c' req =>
    exact unmoved (radars_step (by rintro _ ⟨⟩) (by rintro _ ⟨⟩)) (tally_count req named)
  | commit c' =>
    cases phase : s.registry.calls c' with
    | written req endpoint nodeId =>
      rw [owned_commit sound.exclusive phase]
      simp only [talliesAfter, phase, hear, named, Option.some.injEq]
      by_cases same : user = req.user
      · simp only [same, if_true] at before ⊢
        omega
      · simp only [same, Ne.symm same, if_false, Nat.add_zero]
        exact before
    | idle | counted _ | asking _ _ | probing _ _ | probed _ _ =>
      refine unmoved ?_ ?_
      · simp only [Registry.step, phase]
      · simp only [talliesAfter, phase]
  | remove nodeId =>
    have removed := owned_remove s.registry nodeId user
    simp only [talliesAfter]
    cases taken : s.registry.removes nodeId with
    | none =>
      simp only [taken, reduceCtorEq, if_false, Nat.add_zero] at removed
      rw [removed]
      exact before
    | some owner =>
      rw [taken] at removed
      simp only [hear, named, Option.some.injEq] at removed ⊢
      by_cases same : owner = user
      · simp only [same, if_true] at removed ⊢
        omega
      · simp only [same, Ne.symm same, if_false, Nat.add_zero] at removed ⊢
        rw [removed]
        exact before

theorem counted_step (e : Event κ) (named : (s.registry.calls c).user = some user) :
    (s.talliesAfter e c).counted = (s.tallies c).counted := by
  cases e with
  | enter c' _ _ | ask c' | answer c' _ | write c' _ | abandon c' => rfl
  | count c' req => rw [tally_count req named]
  | commit c' =>
    cases phase : s.registry.calls c' with
    | written req _ _ =>
      simp only [talliesAfter, phase, hear]
      split <;> rfl
    | idle | counted _ | asking _ _ | probing _ _ | probed _ _ => simp only [talliesAfter, phase]
  | remove nodeId =>
    cases taken : s.registry.removes nodeId with
    | some owner =>
      simp only [talliesAfter, taken, hear]
      split <;> rfl
    | none => simp only [talliesAfter, taken]

theorem sound_step (e : Event κ) (sound : s.Sound) : (s.step e).Sound where
  exclusive := exclusive_step sound.exclusive e
  told c user named := by
    rcases user_step e named with before | ⟨req, rfl, idle, rfl, -⟩
    · exact told_step sound before
    · have radars : (s.registry.step (.count c req)).radars = s.registry.radars :=
        radars_step (by rintro _ ⟨⟩) (by rintro _ ⟨⟩)
      simp only [step, Registry.owned, radars, talliesAfter, idle, Function.update_self]
  room c user named := by
    rcases user_step e named with before | ⟨req, rfl, idle, rfl, room⟩
    · exact counted_step e before ▸ sound.room c user before
    · simpa only [step, talliesAfter, idle, Function.update_self] using room

omit [DecidableEq κ] in
theorem sound_start (radars : Dict String Row) (limiter : FixedWindowCounters Key) :
    (start radars limiter : Watched κ).Sound where
  exclusive _ _ _ _ phase := by cases phase
  told _ _ named := by cases named
  room _ _ named := by cases named

theorem withinCap_iff (sound : s.Sound) (e : Event κ) : s.WithinCap e ↔ s.LeavesRoom e := by
  cases e with
  | count c _ | enter c _ _ | ask c | answer c _ | write c _ | abandon c | remove nodeId => exact Iff.rfl
  | commit c =>
    cases phase : s.registry.calls c with
    | written req endpoint nodeId =>
      have told := sound.told c req.user (by rw [phase]; rfl)
      simp only [WithinCap, LeavesRoom, phase, owned_commit sound.exclusive phase, if_true]
      omega
    | idle | counted _ | asking _ _ | probing _ _ | probed _ _ => simp only [WithinCap, LeavesRoom, phase]

/-- A registration that no other of its account overtakes keeps to the cap. -/
theorem withinCap_of_alone (sound : s.Sound) (phase : s.registry.calls c = .written req endpoint nodeId)
    (alone : (s.tallies c).joined = 0) : s.WithinCap (.commit c) := by
  have room := sound.room c req.user (by rw [phase]; rfl)
  refine (withinCap_iff sound _).mpr ?_
  simp only [LeavesRoom, phase]
  omega

end Watched

variable {κ : Type} [DecidableEq κ]

/-- An account one radar short of the cap. -/
def nineRadars : Dict String Row :=
  .ofList (["a1", "a2", "a3", "a4", "a5", "a6", "a7", "a8", "a9"].map fun nodeId =>
    (nodeId, { owner := "u1", endpointKey := nodeId }))

def endpointAt (host : String) : PolledEndpoint where
  scheme := "http"
  host := host
  port := 80
  endpointKey := host
  authUser := none
  authSecret := none
  raw := host

def radarAt (host : String) : Request where
  user := "u1"
  endpoint := some (endpointAt host)
  fingerprint := "f0"

/-- Two registrations, each counted before the other has written. -/
def twoAtOnce : List (Event Bool) :=
  [.count false (radarAt "b1"), .count true (radarAt "b2"), .enter false 0 true, .enter true 0 true,
    .ask false, .ask true, .answer false (some ⟨"f0", true⟩), .answer true (some ⟨"f0", true⟩),
    .write false "a10", .commit false, .write true "a11"]

end Retina.Polled.Registering
