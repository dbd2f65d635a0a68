import RetinaServer.Library.Runs
import Mathlib.Algebra.Order.Field.Rat
import Mathlib.Data.NNRat.Defs
import Mathlib.Logic.Function.Basic
import Mathlib.Tactic.Linarith
import Mathlib.Tactic.Ring

/-! A value read through one lock: reused while it is in date, and read again by the first caller to hold the
lock after. The callers move one at a time, in any order, and one that finds the value in date takes no lock. -/
namespace ReadThrough
open Runs

/-- A cache of `β` over a source of `α`; `ε` is what else a read consults. -/
structure Policy (α : Type u) (ε : Type v) (β : Type w) where
  load : α → ε → β
  initial : β
  /-- What a read that fails puts in the place of the value. -/
  onFailure : β → β
  ttl : ℚ
  retry : ℚ
  /-- Whether nothing is answered until a read has succeeded. -/
  withholds : Bool

/-- Where a caller stands; `locked` says whether it holds the lock there. -/
inductive Stage (β : Type w) where
  | idle
  | entering
  | timed (now : ℚ)
  | waiting
  | holding
  | retimed (now : ℚ)
  | querying
  | loaded (v : β)
  | flagging
  | failed
  | stamping (window : ℚ)
  | storing (expiry : ℚ)
  | checking (locked : Bool)
  | taking (locked : Bool)
  | releasing (answer : Option β)
  | done (answer : Option β)

def Stage.locked : Stage β → Bool
  | .idle | .entering | .timed _ | .waiting | .done _ => false
  | .holding | .retimed _ | .querying | .loaded _ | .flagging | .failed | .stamping _ | .storing _ | .releasing _ => true
  | .checking locked | .taking locked => locked

/-- The globals, the lock's holder and, for the count, the reads and the invalidations there have been. -/
structure Shared (α : Type u) (β : Type w) where
  source : α
  clock : ℚ
  cached : β
  haveData : Bool
  expiresAt : ℚ
  holder : Option ℕ
  reads : ℕ
  invalidations : ℕ

structure World (α : Type u) (β : Type w) where
  shared : Shared α β
  stage : ℕ → Stage β

inductive Act (ε : Type v) where
  | call
  | move
  /-- The read is answered, or raises. -/
  | query (consulted : Option ε)

inductive Event (α : Type u) (ε : Type v) where
  | tick (d : ℚ≥0)
  | commit (source : α)
  | invalidate
  | act (i : ℕ) (a : Act ε)

section
variable {α : Type u} {ε : Type v} {β : Type w} (p : Policy α ε β)

def Policy.move (g : Shared α β) (i : ℕ) : Stage β → Shared α β × Stage β
  | .entering => (g, .timed g.clock)
  | .timed now => (g, if now < g.expiresAt then .checking false else .waiting)
  | .waiting => if g.holder = none then ({ g with holder := some i }, .holding) else (g, .waiting)
  | .holding => (g, .retimed g.clock)
  | .retimed now => (g, if now < g.expiresAt then .checking true else .querying)
  | .loaded v => ({ g with cached := v }, .flagging)
  | .flagging => ({ g with haveData := true }, .stamping p.ttl)
  | .failed => ({ g with cached := p.onFailure g.cached }, .stamping p.retry)
  | .stamping window => (g, .storing (g.clock + window))
  | .storing expiry => ({ g with expiresAt := expiry }, .checking true)
  | .checking locked =>
      (g, if p.withholds && !g.haveData then if locked then .releasing none else .done none else .taking locked)
  | .taking locked => (g, if locked then .releasing (some g.cached) else .done (some g.cached))
  | .releasing answer => ({ g with holder := none }, .done answer)
  | s => (g, s)

def Policy.act (g : Shared α β) (i : ℕ) (s : Stage β) : Act ε → Shared α β × Stage β
  | .call => match s with
      | .idle | .done _ => (g, .entering)
      | s => (g, s)
  | .move => p.move g i s
  | .query consulted => match s with
      | .querying => ({ g with reads := g.reads + 1 }, consulted.elim .failed fun c => .loaded (p.load g.source c))
      | s => (g, s)

def World.boot (source : α) (clock : ℚ) : World α β :=
  ⟨⟨source, clock, p.initial, false, 0, none, 0, 0⟩, fun _ => .idle⟩

def World.step (w : World α β) : Event α ε → World α β
  | .tick d => { w with shared := { w.shared with clock := w.shared.clock + d } }
  | .commit source => { w with shared := { w.shared with source := source } }
  -- The call waits for the lock; what is here is the assignment it makes once it has it.
  | .invalidate =>
      if w.shared.holder = none then
        { w with shared := { w.shared with expiresAt := 0, invalidations := w.shared.invalidations + 1 } }
      else w
  | .act i a => ⟨(p.act w.shared i (w.stage i) a).1, Function.update w.stage i (p.act w.shared i (w.stage i) a).2⟩

end

section
variable {α : Type u} {ε : Type v} {β : Type w} {p : Policy α ε β} {w : World α β} {g : Shared α β} {s : Stage β} {i j : ℕ} {a : Act ε}

/-! ### The lock -/

/-- A caller outside leaves the globals alone, but for the lock that it may take. -/
theorem act_outside (outside : s.locked = false) :
    (p.act g i s a).1 = g ∧ (p.act g i s a).2.locked = false ∨
      g.holder = none ∧ p.act g i s a = ({ g with holder := some i }, .holding) := by
  cases a with
  | call => cases s <;> exact .inl ⟨rfl, outside⟩
  | query consulted => cases s <;> first | exact .inl ⟨rfl, outside⟩ | cases outside
  | move =>
    cases s with
    | waiting =>
      simp only [Policy.act, Policy.move]
      split
      · exact .inr ⟨‹_›, rfl⟩
      · exact .inl ⟨rfl, rfl⟩
    | timed now =>
      refine .inl ⟨rfl, ?_⟩
      simp only [Policy.act, Policy.move]
      split <;> rfl
    | checking locked =>
      obtain rfl : locked = false := outside
      refine .inl ⟨rfl, ?_⟩
      simp only [Policy.act, Policy.move]
      split <;> rfl
    | taking locked =>
      obtain rfl : locked = false := outside
      exact .inl ⟨rfl, rfl⟩
    | idle | entering | done => exact .inl ⟨rfl, rfl⟩
    | _ => cases outside

/-- A caller inside keeps the lock, or leaves it and is outside. -/
theorem act_inside (inside : s.locked = true) :
    (p.act g i s a).1.holder = g.holder ∧ (p.act g i s a).2.locked = true ∨
      (p.act g i s a).1.holder = none ∧ (p.act g i s a).2.locked = false := by
  cases a with
  | call => cases s <;> exact .inl ⟨rfl, inside⟩
  | query consulted =>
    cases s with
    | querying => cases consulted <;> exact .inl ⟨rfl, rfl⟩
    | _ => exact .inl ⟨rfl, inside⟩
  | move =>
    cases s with
    | releasing answer => exact .inr ⟨rfl, rfl⟩
    | retimed now =>
      refine .inl ⟨rfl, ?_⟩
      simp only [Policy.act, Policy.move]
      split <;> rfl
    | checking locked =>
      obtain rfl : locked = true := inside
      refine .inl ⟨rfl, ?_⟩
      simp only [Policy.act, Policy.move]
      split <;> rfl
    | taking locked =>
      obtain rfl : locked = true := inside
      exact .inl ⟨rfl, rfl⟩
    | holding | querying | loaded | flagging | failed | stamping | storing => exact .inl ⟨rfl, rfl⟩
    | _ => cases inside

/-- What the step of a caller may make of the globals. -/
structure Effect (p : Policy α ε β) (s : Stage β) (g g' : Shared α β) : Prop where
  clock : g'.clock = g.clock
  source : g'.source = g.source
  invalidations : g'.invalidations = g.invalidations
  cached : g'.cached = g.cached ∨ s = .loaded g'.cached ∨ s = .failed ∧ g'.cached = p.onFailure g.cached
  expiry : g'.expiresAt = g.expiresAt ∨ s = .storing g'.expiresAt
  haveData : g'.haveData = g.haveData ∨ s = .flagging ∧ g'.haveData = true

theorem act_effect (g : Shared α β) (i : ℕ) (s : Stage β) (a : Act ε) : Effect p s g (p.act g i s a).1 := by
  cases a with
  | move =>
    cases s with
    | loaded v => exact ⟨rfl, rfl, rfl, .inr (.inl rfl), .inl rfl, .inl rfl⟩
    | failed => exact ⟨rfl, rfl, rfl, .inr (.inr ⟨rfl, rfl⟩), .inl rfl, .inl rfl⟩
    | flagging => exact ⟨rfl, rfl, rfl, .inl rfl, .inl rfl, .inr ⟨rfl, rfl⟩⟩
    | storing expiry => exact ⟨rfl, rfl, rfl, .inl rfl, .inr rfl, .inl rfl⟩
    | waiting =>
      simp only [Policy.act, Policy.move]
      split <;> exact ⟨rfl, rfl, rfl, .inl rfl, .inl rfl, .inl rfl⟩
    | _ => exact ⟨rfl, rfl, rfl, .inl rfl, .inl rfl, .inl rfl⟩
  | call | query => cases s <;> exact ⟨rfl, rfl, rfl, .inl rfl, .inl rfl, .inl rfl⟩

/-- The callers inside are those that hold the lock. -/
def Mutex (w : World α β) : Prop := ∀ i, (w.stage i).locked = true ↔ w.shared.holder = some i

theorem Mutex.alone (mutex : Mutex w) (one : (w.stage i).locked = true) (two : (w.stage j).locked = true) : i = j :=
  Option.some.inj (((mutex i).mp one).symm.trans ((mutex j).mp two))

theorem Mutex.outside (mutex : Mutex w) (free : w.shared.holder = none) (i : ℕ) : (w.stage i).locked = false := by
  cases inside : (w.stage i).locked with
  | false => rfl
  | true =>
    have held := (mutex i).mp inside
    rw [free] at held
    cases held

theorem stage_act_self (w : World α β) (i : ℕ) (a : Act ε) :
    (w.step p (.act i a)).stage i = (p.act w.shared i (w.stage i) a).2 := Function.update_self ..

theorem stage_act_ne (apart : j ≠ i) : (w.step p (.act i a)).stage j = w.stage j := Function.update_of_ne apart ..

theorem mutex_step (mutex : Mutex w) (e : Event α ε) : Mutex (w.step p e) := by
  cases e with
  | tick | commit => exact mutex
  | invalidate =>
    rw [World.step]
    split <;> exact mutex
  | act i a =>
    intro j
    have own := mutex i
    by_cases same : j = i
    · rw [same, stage_act_self]
      cases inside : (w.stage i).locked with
      | false =>
        rcases act_outside (p := p) (g := w.shared) (i := i) (a := a) inside with ⟨shared, outside⟩ | ⟨-, taken⟩
        · rw [inside] at own
          rw [World.step, shared, outside]
          exact own
        · rw [World.step, taken]
          exact ⟨fun _ => rfl, fun _ => rfl⟩
      | true =>
        rcases act_inside (p := p) (g := w.shared) (i := i) (a := a) inside with ⟨kept, still⟩ | ⟨left, outside⟩
        · rw [World.step, kept, still]
          exact ⟨fun _ => own.mp inside, fun _ => rfl⟩
        · rw [World.step, left, outside]
          exact ⟨fun no => (by cases no), fun no => (by cases no)⟩
    · rw [stage_act_ne same]
      have other := mutex j
      cases inside : (w.stage i).locked with
      | false =>
        rcases act_outside (p := p) (g := w.shared) (i := i) (a := a) inside with ⟨shared, -⟩ | ⟨free, taken⟩
        · rw [World.step, shared]
          exact other
        · rw [World.step, taken, mutex.outside free j]
          exact ⟨fun no => (by cases no), fun taken => absurd (Option.some.inj taken).symm same⟩
      | true =>
        have outside : (w.stage j).locked ≠ true := fun too => same (mutex.alone too inside)
        rcases act_inside (p := p) (g := w.shared) (i := i) (a := a) inside with ⟨kept, -⟩ | ⟨left, -⟩
        · rw [World.step, kept]
          exact other
        · rw [World.step, left]
          exact ⟨fun too => absurd too outside, fun no => (by cases no)⟩

/-- The rule for what holds of every caller: it is to hold of the one that acts, and to be kept of the others, who are all outside
if the one that acts is not. -/
theorem act_rule {Q Q' : Stage β → Prop} (mutex : Mutex w) (all : ∀ j, Q (w.stage j))
    (own : Q' (p.act w.shared i (w.stage i) a).2) (kept : (w.stage i).locked = false → ∀ s, Q s → Q' s)
    (outside : ∀ s, s.locked = false → Q s → Q' s) : ∀ j, Q' ((w.step p (.act i a)).stage j) := by
  intro j
  by_cases same : j = i
  · rw [same, stage_act_self]
    exact own
  · rw [stage_act_ne same]
    cases inside : (w.stage i).locked with
    | false => exact kept inside _ (all j)
    | true =>
      refine outside _ ?_ (all j)
      exact Bool.eq_false_iff.mpr fun too => same (mutex.alone too inside)

/-! ### The clock -/

/-- A time a caller has read is one the clock has shown, and an expiry is no further ahead than a lifetime. -/
def Stage.Timely (p : Policy α ε β) (clock : ℚ) : Stage β → Prop
  | .timed now | .retimed now => 0 ≤ now ∧ now ≤ clock
  | .stamping window => window ≤ p.ttl
  | .storing expiry => expiry ≤ clock + p.ttl
  | _ => True

theorem Stage.Timely.later (timely : s.Timely p clock) (le : clock ≤ clock') : s.Timely p clock' := by
  cases s with
  | timed now | retimed now => exact ⟨timely.1, timely.2.trans le⟩
  | stamping window => exact timely
  | storing expiry => exact le_trans timely (add_le_add_left le _)
  | _ => trivial

structure Ordered (p : Policy α ε β) (w : World α β) : Prop where
  mutex : Mutex w
  clock : 0 ≤ w.shared.clock
  expiry : w.shared.expiresAt ≤ w.shared.clock + p.ttl
  times : ∀ j, (w.stage j).Timely p w.shared.clock

theorem timely_act (window : p.retry ≤ p.ttl) (start : 0 ≤ g.clock) (timely : s.Timely p g.clock) :
    (p.act g i s a).2.Timely p g.clock := by
  cases a with
  | call => cases s <;> exact timely
  | query consulted =>
    cases s with
    | querying => cases consulted <;> trivial
    | _ => exact timely
  | move =>
    cases s with
    | entering | holding => exact ⟨start, le_rfl⟩
    | flagging => exact le_rfl
    | failed => exact window
    | stamping window => exact add_le_add_right timely _
    | timed | retimed | waiting | taking =>
      simp only [Policy.act, Policy.move]
      split <;> trivial
    | checking locked =>
      simp only [Policy.act, Policy.move]
      split
      · split <;> trivial
      · trivial
    | _ => trivial

theorem ordered_step (life : 0 ≤ p.ttl) (window : p.retry ≤ p.ttl) (ordered : Ordered p w) (e : Event α ε) : Ordered p (w.step p e) := by
  have mutex := mutex_step (p := p) ordered.mutex e
  cases e with
  | tick d =>
    have later : w.shared.clock ≤ w.shared.clock + d := le_add_of_nonneg_right d.coe_nonneg
    exact ⟨mutex, ordered.clock.trans later, ordered.expiry.trans (add_le_add_left later _), fun j => (ordered.times j).later later⟩
  | commit source => exact ⟨mutex, ordered.clock, ordered.expiry, ordered.times⟩
  | invalidate =>
    rw [World.step] at mutex ⊢
    split
    · exact ⟨ordered.mutex, ordered.clock, add_nonneg ordered.clock life, ordered.times⟩
    · exact ordered
  | act i a =>
    have clock : (w.step p (.act i a)).shared.clock = w.shared.clock := (act_effect w.shared i (w.stage i) a).clock
    have times := act_rule (i := i) (a := a) ordered.mutex ordered.times (timely_act window ordered.clock (ordered.times i)) (fun _ _ => id)
      (fun _ _ => id)
    refine ⟨mutex, by rw [clock]; exact ordered.clock, ?_, by rw [clock]; exact times⟩
    rw [clock, World.step]
    rcases (act_effect (p := p) w.shared i (w.stage i) a).expiry with same | stored
    · rw [same]
      exact ordered.expiry
    · have timely := ordered.times i
      rw [stored] at timely
      exact timely

theorem ordered_boot (p : Policy α ε β) (life : 0 ≤ p.ttl) (source : α) (start : 0 ≤ clock) : Ordered p (World.boot p source clock) :=
  ⟨fun _ => ⟨fun no => (by cases no), fun no => (by cases no)⟩, start, add_nonneg start life, fun _ => trivial⟩

/-- A world that a run reaches. -/
def Reached (p : Policy α ε β) (w : World α β) : Prop :=
  ∃ source clock, ∃ events : List (Event α ε), 0 ≤ clock ∧ run (World.step p) (World.boot p source clock) events = w

theorem Reached.ordered (life : 0 ≤ p.ttl) (window : p.retry ≤ p.ttl) (reached : Reached p w) : Ordered p w := by
  obtain ⟨source, clock, events, start, rfl⟩ := reached
  exact Runs.invariant_always (I := Ordered p) (fun _ e ordered => ordered_step life window ordered e)
    (ordered_boot p life source start) events

/-! ### What a later call is answered -/

/-- What a reader is about to leave in the cache is good. -/
def Stage.Sound (p : Policy α ε β) (Good : β → Prop) (cached : β) : Stage β → Prop
  | .loaded v => Good v
  | .failed => Good (p.onFailure cached)
  | .flagging | .stamping _ | .storing _ => Good cached
  | _ => True

theorem sound_outside {Good : β → Prop} (outside : Stage.locked s = false) : s.Sound p Good v := by
  cases s <;> trivial

/-- A value that is in date past `bound` is good. -/
structure Fresh (p : Policy α ε β) (Good : β → Prop) (bound : ℚ) (w : World α β) : Prop where
  mutex : Mutex w
  value : bound < w.shared.expiresAt → Good w.shared.cached
  sound : ∀ j, (w.stage j).Sound p Good w.shared.cached

/-- A read that succeeds gives a good value, and so does what a read that raises leaves. -/
def Reads (p : Policy α ε β) (Good : β → Prop) (w : World α β) (e : Event α ε) : Prop :=
  ∀ i consulted, e = .act i (.query consulted) → w.stage i = .querying →
    consulted.elim (Good (p.onFailure w.shared.cached)) fun c => Good (p.load w.shared.source c)

variable {Good : β → Prop} {bound : ℚ}

/-- A good value stays, or another good one takes its place. -/
theorem good_act (sound : s.Sound p Good g.cached) (good : Good g.cached) : Good (p.act g i s a).1.cached := by
  rcases (act_effect (p := p) g i s a).cached with same | loaded | ⟨rfl, same⟩
  · rw [same]
    exact good
  · rw [loaded] at sound
    exact sound
  · rw [same]
    exact sound

theorem sound_act (sound : s.Sound p Good g.cached)
    (reads : ∀ consulted, a = .query consulted → s = .querying →
      consulted.elim (Good (p.onFailure g.cached)) fun c => Good (p.load g.source c)) :
    (p.act g i s a).2.Sound p Good (p.act g i s a).1.cached := by
  cases a with
  | call => cases s <;> exact sound
  | query consulted =>
    cases s with
    | querying =>
      have good := reads consulted rfl rfl
      cases consulted <;> exact good
    | _ => exact sound
  | move =>
    cases s with
    | loaded | failed | flagging | stamping => exact sound
    | waiting | timed | retimed | taking =>
      simp only [Policy.act, Policy.move]
      split <;> trivial
    | checking =>
      simp only [Policy.act, Policy.move]
      split
      · split <;> trivial
      · trivial
    | _ => trivial

theorem fresh_step (bounded : 0 ≤ bound) (fresh : Fresh p Good bound w) (e : Event α ε) (reads : Reads p Good w e) :
    Fresh p Good bound (w.step p e) := by
  have mutex := mutex_step (p := p) fresh.mutex e
  cases e with
  | tick | commit => exact ⟨mutex, fresh.value, fresh.sound⟩
  | invalidate =>
    rw [World.step] at mutex ⊢
    split
    · exact ⟨fresh.mutex, fun live => absurd live bounded.not_gt, fresh.sound⟩
    · exact fresh
  | act i a =>
    have own := fresh.sound i
    have next := sound_act (i := i) own fun consulted query => reads i consulted (query ▸ rfl)
    refine ⟨mutex, fun live => ?_, act_rule fresh.mutex fresh.sound next (fun inside s sound => ?_) fun s outside _ => sound_outside outside⟩
    · rw [World.step] at live ⊢
      rcases (act_effect (p := p) w.shared i (w.stage i) a).expiry with same | stored
      · rw [same] at live
        exact good_act own (fresh.value live)
      · refine good_act own ?_
        rw [stored] at own
        exact own
    · rcases act_outside (p := p) (g := w.shared) (i := i) (a := a) inside with ⟨same, -⟩ | ⟨-, taken⟩
      · rw [World.step, same]
        exact sound
      · rw [World.step, taken]
        exact sound

/-- What a caller that began late enough has of the cache is good. -/
def Stage.Answers (Good : β → Prop) (bound : ℚ) (cached : β) : Stage β → Prop
  | .timed now | .retimed now => bound ≤ now
  | .checking _ | .taking _ => Good cached
  | .releasing answer | .done answer => ∀ v ∈ answer, Good v
  | _ => True

theorem answers_act (value : bound < g.expiresAt → Good g.cached) (sound : s.Sound p Good g.cached) (late : bound ≤ g.clock)
    (answers : s.Answers Good bound g.cached) : (p.act g i s a).2.Answers Good bound (p.act g i s a).1.cached := by
  cases a with
  | call => cases s <;> trivial
  | query consulted =>
    cases s with
    | querying => cases consulted <;> trivial
    | _ => exact answers
  | move =>
    cases s with
    | entering | holding => exact late
    | storing => exact sound
    | releasing | done => exact answers
    | timed now | retimed now =>
      simp only [Policy.act, Policy.move]
      split
      · rename_i live
        exact value (lt_of_le_of_lt answers live)
      · trivial
    | waiting =>
      simp only [Policy.act, Policy.move]
      split <;> trivial
    | checking locked =>
      simp only [Policy.act, Policy.move]
      split
      · split <;> exact fun v none_held => by cases none_held
      · exact answers
    | taking locked =>
      simp only [Policy.act, Policy.move]
      split <;> exact fun v same => Option.some.inj same ▸ answers
    | _ => trivial

theorem answers_step (fresh : Fresh p Good bound w) (late : bound ≤ w.shared.clock)
    (answers : (w.stage i).Answers Good bound w.shared.cached) (e : Event α ε) :
    ((w.step p e).stage i).Answers Good bound (w.step p e).shared.cached := by
  cases e with
  | tick | commit => exact answers
  | invalidate =>
    rw [World.step]
    split <;> exact answers
  | act j a =>
    by_cases same : i = j
    · subst same
      rw [stage_act_self]
      exact answers_act fresh.value (fresh.sound i) late answers
    · rw [stage_act_ne same]
      cases stage : w.stage i with
      | checking | taking =>
        rw [stage] at answers
        exact good_act (fresh.sound j) answers
      | timed | retimed | releasing | done =>
        rw [stage] at answers
        exact answers
      | _ => trivial

theorem clock_step (late : bound ≤ w.shared.clock) (e : Event α ε) : bound ≤ (w.step p e).shared.clock := by
  cases e with
  | tick d => exact late.trans (le_add_of_nonneg_right d.coe_nonneg)
  | commit => exact late
  | invalidate =>
    rw [World.step]
    split <;> exact late
  | act i a => exact late.trans_eq (act_effect w.shared i (w.stage i) a).clock.symm

/-- A caller that has no call under way. -/
def Ready (w : World α β) (i : ℕ) : Prop := w.stage i = .idle ∨ ∃ answer, w.stage i = .done answer

theorem Ready.begins (ready : Ready w i) : (w.step p (.act i .call)).stage i = .entering := by
  rw [stage_act_self]
  rcases ready with idle | ⟨answer, ended⟩
  · rw [idle]
    rfl
  · rw [ended]
    rfl

/-- Where all that is in date past `bound` is good, a call that begins after that time is answered with something good. -/
theorem called_good (bounded : 0 ≤ bound) (fresh : Fresh p Good bound w) (late : bound ≤ w.shared.clock) (ready : Ready w i)
    (events : List (Event α ε)) (reads : Along (World.step p) (Reads p Good) w (.act i .call :: events))
    (answered : (run (World.step p) w (.act i .call :: events)).stage i = .done (some v)) : Good v := by
  rw [run_cons] at answered
  have answers : ((run (World.step p) (w.step p (.act i .call)) events).stage i).Answers Good bound
      (run (World.step p) (w.step p (.act i .call)) events).shared.cached := by
    refine (Runs.invariant
      (I := fun w : World α β => Fresh p Good bound w ∧ bound ≤ w.shared.clock ∧ (w.stage i).Answers Good bound w.shared.cached)
      (fun w e held (reads : Reads p Good w e) =>
        ⟨fresh_step bounded held.1 e reads, clock_step held.2.1 e, answers_step held.1 held.2.1 held.2.2 e⟩)
      ⟨fresh_step bounded fresh _ reads.1, clock_step late _, ?_⟩ reads.2).2.2
    rw [ready.begins]
    trivial
  rw [answered] at answers
  exact answers v rfl

/-- A call that begins after `before` is to see what stands at `w'`: it comes of an invalidation, or no read is under way in it
and a lifetime has passed. -/
def Due (p : Policy α ε β) (w w' : World α β) (before : List (Event α ε)) : Prop :=
  w.shared.holder = none ∧ (w' = w.step p (.invalidate : Event α ε) ∨
    w' = w ∧ w.shared.clock + p.ttl ≤ (run (World.step p) w' before).shared.clock)

/-- Such a call is answered with something good as long as each read leaves something good. -/
theorem good_when_due (Good : β → Prop) (life : 0 ≤ p.ttl) (window : p.retry ≤ p.ttl) (reached : Reached p w)
    (due : Due p w w' before) (ready : Ready (run (World.step p) w' before) i) (after : List (Event α ε))
    (reads : Along (World.step p) (Reads p Good) w' (before ++ .act i .call :: after))
    (answered : (run (World.step p) w' (before ++ .act i .call :: after)).stage i = .done (some v)) : Good v := by
  have ordered := reached.ordered life window
  obtain ⟨free, due⟩ := due
  obtain ⟨first, second⟩ := (along_append _ _ _ _ _).mp reads
  rw [run_append] at answered
  obtain ⟨bound, bounded, fresh, late⟩ : ∃ bound, 0 ≤ bound ∧ Fresh p Good bound w' ∧
      bound ≤ (run (World.step p) w' before).shared.clock := by
    have idle (bound : ℚ) (expiry : w'.shared.expiresAt ≤ bound) (mutex : Mutex w') (free : w'.shared.holder = none) :
        Fresh p Good bound w' :=
      ⟨mutex, fun live => absurd live expiry.not_gt, fun j => sound_outside (mutex.outside free j)⟩
    rcases due with same | ⟨same, waited⟩
    · have expired : w'.shared.expiresAt = 0 ∧ w'.shared.holder = none := by
        rw [same, World.step, if_pos free]
        exact ⟨rfl, free⟩
      have shown : 0 ≤ w'.shared.clock := by
        rw [same]
        exact clock_step ordered.clock _
      exact ⟨0, le_rfl, idle 0 expired.1.le (same ▸ mutex_step ordered.mutex _) expired.2,
        Runs.invariant_always (I := fun w : World α β => 0 ≤ w.shared.clock) (fun _ e late => clock_step late e) shown before⟩
    · rw [same] at idle
      exact ⟨w.shared.clock + p.ttl, add_nonneg ordered.clock life, same ▸ idle _ ordered.expiry ordered.mutex free, waited⟩
  refine called_good bounded ?_ late ready after second answered
  exact Runs.invariant (I := Fresh p Good bound) (fun _ e fresh reads => fresh_step bounded fresh e reads) fresh first

/-! ### Before the first read -/

/-- A read that succeeds gives a good value. -/
def Succeeds (p : Policy α ε β) (Good : β → Prop) (w : World α β) (e : Event α ε) : Prop :=
  ∀ i c, e = .act i (.query (some c)) → w.stage i = .querying → Good (p.load w.shared.source c)

def Stage.Known (Good : β → Prop) (cached : β) (haveData : Bool) : Stage β → Prop
  | .loaded v => Good v
  | .flagging => Good cached
  | .taking _ => haveData = true
  | .releasing answer | .done answer => ∀ v ∈ answer, Good v
  | _ => True

/-- Once something has been read, what the cache holds is good. -/
structure Known (Good : β → Prop) (w : World α β) : Prop where
  mutex : Mutex w
  value : w.shared.haveData = true → Good w.shared.cached
  stages : ∀ j, (w.stage j).Known Good w.shared.cached w.shared.haveData

theorem known_act (withholds : p.withholds = true) (value : g.haveData = true → Good g.cached)
    (known : s.Known Good g.cached g.haveData)
    (succeeds : ∀ c, a = .query (some c) → s = .querying → Good (p.load g.source c)) :
    (p.act g i s a).2.Known Good (p.act g i s a).1.cached (p.act g i s a).1.haveData := by
  cases a with
  | call => cases s <;> trivial
  | query consulted =>
    cases s with
    | querying =>
      cases consulted with
      | none => trivial
      | some c => exact succeeds c rfl rfl
    | _ => exact known
  | move =>
    cases s with
    | loaded | releasing | done => exact known
    | waiting | timed | retimed =>
      simp only [Policy.act, Policy.move]
      split <;> trivial
    | checking locked =>
      simp only [Policy.act, Policy.move]
      split
      · split <;> exact fun v none_held => by cases none_held
      · rename_i answered
        show g.haveData = true
        simpa [withholds] using answered
    | taking locked =>
      simp only [Policy.act, Policy.move]
      split <;> exact fun v same => Option.some.inj same ▸ value known
    | _ => trivial

theorem known_step (withholds : p.withholds = true) (keeps : ∀ v, p.onFailure v = v) (known : Known Good w)
    (e : Event α ε) (succeeds : Succeeds p Good w e) : Known Good (w.step p e) := by
  have mutex := mutex_step (p := p) known.mutex e
  cases e with
  | tick | commit => exact ⟨mutex, known.value, known.stages⟩
  | invalidate =>
    rw [World.step]
    split
    · exact ⟨known.mutex, known.value, known.stages⟩
    · exact known
  | act i a =>
    have own := known.stages i
    have next := known_act (i := i) withholds known.value own fun c query => succeeds i c (query ▸ rfl)
    refine ⟨mutex, fun read => ?_, act_rule known.mutex known.stages next (fun inside s held => ?_) fun s outside held => ?_⟩
    · rw [World.step] at read ⊢
      rcases (act_effect (p := p) w.shared i (w.stage i) a).cached with same | loaded | ⟨failed, same⟩
      · rw [same]
        rcases (act_effect (p := p) w.shared i (w.stage i) a).haveData with before | ⟨flagging, -⟩
        · exact known.value (before ▸ read)
        · rw [flagging] at own
          exact own
      · rw [loaded] at own
        exact own
      · rcases (act_effect (p := p) w.shared i (w.stage i) a).haveData with before | ⟨flagging, -⟩
        · rw [same, keeps]
          exact known.value (before ▸ read)
        · rw [flagging] at failed
          cases failed
    · rcases act_outside (p := p) (g := w.shared) (i := i) (a := a) inside with ⟨same, -⟩ | ⟨-, taken⟩
      · rw [World.step, same]
        exact held
      · rw [World.step, taken]
        exact held
    · cases s with
      | taking locked =>
        rcases (act_effect (p := p) w.shared i (w.stage i) a).haveData with before | ⟨-, after⟩
        · exact before.trans held
        · exact after
      | done answer => exact held
      | idle | entering | timed | waiting | checking => trivial
      | _ => cases outside

/-- Whatever is answered since the start was read from the source. -/
theorem answered_was_read (withholds : p.withholds = true) (keeps : ∀ v, p.onFailure v = v) (source : α) (clock : ℚ)
    (events : List (Event α ε)) (answered : (run (World.step p) (World.boot p source clock) events).stage i = .done (some v)) :
    ∃ first k c rest, events = first ++ .act k (.query (some c)) :: rest ∧
      (run (World.step p) (World.boot p source clock) first).stage k = .querying ∧
      v = p.load (run (World.step p) (World.boot p source clock) first).shared.source c := by
  let Read (v : β) : Prop := ∃ first k c rest, events = first ++ .act k (.query (some c)) :: rest ∧
    (run (World.step p) (World.boot p source clock) first).stage k = .querying ∧
    v = p.load (run (World.step p) (World.boot p source clock) first).shared.source c
  have reads (first rest : List (Event α ε)) (parts : events = first ++ rest) :
      Known Read (run (World.step p) (World.boot p source clock) first) := by
    induction first using List.reverseRecOn generalizing rest with
    | nil => exact ⟨fun _ => ⟨fun no => (by cases no), fun no => (by cases no)⟩, fun no => (by cases no), fun _ => trivial⟩
    | append_singleton first e ih =>
      have parts' : events = first ++ e :: rest := by rw [parts, List.append_assoc, List.singleton_append]
      rw [run_append, run_cons, run_nil]
      refine known_step withholds keeps (ih (e :: rest) parts') e ?_
      rintro k c rfl stage
      exact ⟨first, k, c, rest, parts', stage, rfl⟩
  have known := (reads events [] (List.append_nil _).symm).stages i
  rw [answered] at known
  exact known v rfl

/-- No answer is withheld from the caller. -/
def Stage.Served : Stage β → Prop
  | .releasing answer | .done answer => answer.isSome = true
  | _ => True

theorem served_act (read : g.haveData = true) (served : s.Served) : (p.act g i s a).2.Served := by
  cases a with
  | call => cases s <;> trivial
  | query consulted =>
    cases s with
    | querying => cases consulted <;> trivial
    | _ => exact served
  | move =>
    cases s with
    | releasing | done => exact served
    | waiting | timed | retimed =>
      simp only [Policy.act, Policy.move]
      split <;> trivial
    | checking locked => simp [Policy.act, Policy.move, read, Stage.Served]
    | taking locked =>
      simp only [Policy.act, Policy.move]
      split <;> rfl
    | _ => trivial

/-- After the first read that succeeds no call is turned away. -/
theorem called_served (read : w.shared.haveData = true) (ready : Ready w i) (events : List (Event α ε))
    (answered : (run (World.step p) w (.act i .call :: events)).stage i = .done answer) : answer.isSome = true := by
  have step (w : World α β) (held : w.shared.haveData = true ∧ (w.stage i).Served) (e : Event α ε) :
      (w.step p e).shared.haveData = true ∧ ((w.step p e).stage i).Served := by
    cases e with
    | tick | commit => exact held
    | invalidate =>
      rw [World.step]
      split <;> exact held
    | act j a =>
      refine ⟨(act_effect (p := p) w.shared j (w.stage j) a).haveData.elim (fun same => same.trans held.1) And.right, ?_⟩
      by_cases same : i = j
      · subst same
        rw [stage_act_self]
        exact served_act held.1 held.2
      · rw [stage_act_ne same]
        exact held.2
  rw [run_cons] at answered
  have first : (w.step p (.act i .call : Event α ε)).shared.haveData = true :=
    (act_effect (p := p) w.shared i (w.stage i) .call).haveData.elim (fun same => same.trans read) And.right
  have served := (Runs.invariant_always (I := fun w : World α β => w.shared.haveData = true ∧ (w.stage i).Served)
    (fun w e held => step w held e) ⟨first, by rw [ready.begins]; trivial⟩ events).2
  rw [answered] at served
  exact served

/-! ### How often it is read -/

/-- The stages in which a read has been made and its expiry has not been stored. -/
def Stage.midRead : Stage β → Bool
  | .loaded _ | .flagging | .failed | .stamping _ | .storing _ => true
  | _ => false

/-- The reads made, less one for each invalidation, are worth this time on the clock. -/
def Shared.spent (p : Policy α ε β) (start : ℚ) (g : Shared α β) : ℚ := start + (g.reads - g.invalidations) * p.retry

def Stage.Paced (p : Policy α ε β) (spent clock : ℚ) : Stage β → Prop
  | .querying => spent ≤ clock
  | .stamping window => p.retry ≤ window
  | .storing expiry => spent ≤ expiry
  | _ => True

/-- A read is paid for by the time that passes until the next. -/
structure Paced (p : Policy α ε β) (start : ℚ) (w : World α β) : Prop where
  ordered : Ordered p w
  bound : w.shared.spent p start ≤ w.shared.clock + p.retry
  between : (∀ j, (w.stage j).midRead = false) → w.shared.spent p start ≤ max w.shared.expiresAt w.shared.clock
  stages : ∀ j, (w.stage j).Paced p (w.shared.spent p start) w.shared.clock

theorem paced_outside (outside : Stage.locked s = false) : s.Paced p spent clock := by
  cases s <;> trivial

theorem midRead_locked (mid : Stage.midRead s = true) : s.locked = true := by
  cases s <;> first | rfl | cases mid

theorem act_reads (g : Shared α β) (i : ℕ) (s : Stage β) (a : Act ε) :
    (p.act g i s a).1.reads = g.reads ∨
      s = .querying ∧ (p.act g i s a).1.reads = g.reads + 1 ∧ (p.act g i s a).2.midRead = true ∧
        ∀ spent clock, (p.act g i s a).2.Paced p spent clock := by
  cases a with
  | move =>
    cases s with
    | waiting =>
      simp only [Policy.act, Policy.move]
      split <;> exact .inl rfl
    | _ => exact .inl rfl
  | call => cases s <;> exact .inl rfl
  | query consulted =>
    cases s with
    | querying => cases consulted <;> exact .inr ⟨rfl, rfl, rfl, fun _ _ => trivial⟩
    | _ => exact .inl rfl

/-- What a caller makes of a time it has paid for, where it makes no read. -/
theorem paced_act {spent : ℚ} (window : p.retry ≤ p.ttl) (timely : s.Timely p g.clock) (bound : spent ≤ g.clock + p.retry)
    (between : s.locked = true → s.midRead = false → spent ≤ max g.expiresAt g.clock) (paced : s.Paced p spent g.clock)
    (same : (p.act g i s a).1.reads = g.reads) : (p.act g i s a).2.Paced p spent g.clock := by
  cases a with
  | call => cases s <;> exact paced
  | query consulted =>
    cases s with
    | querying => exact absurd same (Nat.succ_ne_self _)
    | _ => exact paced
  | move =>
    cases s with
    | querying => exact paced
    | flagging => exact window
    | failed => exact le_rfl
    | stamping window => exact bound.trans (add_le_add_right paced _)
    | retimed now =>
      simp only [Policy.act, Policy.move]
      split
      · trivial
      · -- The value is out of date by a time that the clock has passed, so all the reads so far are paid for.
        rename_i expired
        have passed : g.expiresAt ≤ g.clock := (not_lt.mp expired).trans timely.2
        exact (between rfl rfl).trans (max_eq_right passed).le
    | timed | waiting | taking =>
      simp only [Policy.act, Policy.move]
      split <;> trivial
    | checking =>
      simp only [Policy.act, Policy.move]
      split
      · split <;> trivial
      · trivial
    | _ => trivial

/-- A caller is in the midst of a read until it has stored the expiry. -/
theorem midRead_act (mid : s.midRead = true) : (p.act g i s a).2.midRead = true ∨ s = .storing (p.act g i s a).1.expiresAt := by
  cases a with
  | call => cases s <;> exact .inl mid
  | query consulted => cases s <;> first | exact .inl mid | cases mid
  | move => cases s <;> first | exact .inl rfl | exact .inr rfl | cases mid

theorem paced_step (retry : 0 ≤ p.retry) (window : p.retry ≤ p.ttl) (paced : Paced p start w) (e : Event α ε) :
    Paced p start (w.step p e) := by
  have ordered := ordered_step (retry.trans window) window paced.ordered e
  have bound := paced.bound
  cases e with
  | tick d =>
    have later : w.shared.clock ≤ w.shared.clock + d := le_add_of_nonneg_right d.coe_nonneg
    refine ⟨ordered, bound.trans (add_le_add_left later _), fun none_mid => (paced.between none_mid).trans (max_le_max le_rfl later),
      fun j => ?_⟩
    have own := paced.stages j
    rw [World.step]
    cases stage : w.stage j with
    | querying =>
      rw [stage] at own
      exact le_trans (show w.shared.spent p start ≤ w.shared.clock from own) later
    | stamping | storing =>
      rw [stage] at own
      exact own
    | _ => trivial
  | commit source => exact ⟨ordered, bound, paced.between, paced.stages⟩
  | invalidate =>
    rw [World.step] at ordered ⊢
    split
    · rename_i free
      rw [if_pos free] at ordered
      have less : Shared.spent p start { w.shared with expiresAt := 0, invalidations := w.shared.invalidations + 1 } =
          w.shared.spent p start - p.retry := by
        simp only [Shared.spent, Nat.cast_add, Nat.cast_one]
        ring
      refine ⟨ordered, ?_, fun _ => le_max_of_le_right ?_, fun j => paced_outside (paced.ordered.mutex.outside free j)⟩
      · rw [less]
        exact (sub_le_self _ retry).trans bound
      · rw [less]
        exact sub_le_iff_le_add.mpr bound
    · exact paced
  | act i a =>
    have own := paced.stages i
    have frame := act_effect (p := p) w.shared i (w.stage i) a
    rcases act_reads (p := p) w.shared i (w.stage i) a with same | ⟨querying, more, mid, mid_paced⟩
    · have spent : (p.act w.shared i (w.stage i) a).1.spent p start = w.shared.spent p start := by
        rw [Shared.spent, same, frame.invalidations, Shared.spent]
      have between (inside : (w.stage i).locked = true) (out : (w.stage i).midRead = false) :
          w.shared.spent p start ≤ max w.shared.expiresAt w.shared.clock := by
        refine paced.between fun j => Bool.eq_false_iff.mpr fun mid => ?_
        rw [paced.ordered.mutex.alone (midRead_locked mid) inside, out] at mid
        cases mid
      have next := paced_act window (paced.ordered.times i) bound between own same
      refine ⟨ordered, ?_, fun none_mid => ?_, ?_⟩
      · rw [World.step, spent, frame.clock]
        exact bound
      · have after := none_mid i
        rw [stage_act_self] at after
        rw [World.step, spent, frame.clock]
        by_cases stored : w.stage i = .storing (p.act w.shared i (w.stage i) a).1.expiresAt
        · rw [stored] at own
          exact le_max_of_le_left own
        · have before : w.shared.spent p start ≤ max w.shared.expiresAt w.shared.clock := by
            refine paced.between fun j => ?_
            by_cases here : j = i
            · rw [here]
              refine Bool.eq_false_iff.mpr fun mid => ?_
              rcases midRead_act (p := p) (g := w.shared) (i := i) (a := a) mid with still | ends
              · rw [after] at still
                cases still
              · exact stored ends
            · have other := none_mid j
              rwa [stage_act_ne here] at other
          rcases (act_effect (p := p) w.shared i (w.stage i) a).expiry with kept | ends
          · rw [kept]
            exact before
          · exact absurd ends stored
      · rw [World.step, spent, frame.clock]
        exact act_rule paced.ordered.mutex paced.stages next (fun _ _ => id) fun _ _ => id
    · have spent : (p.act w.shared i (w.stage i) a).1.spent p start = w.shared.spent p start + p.retry := by
        rw [Shared.spent, more, frame.invalidations, Shared.spent, Nat.cast_add, Nat.cast_one]
        ring
      rw [querying] at own
      refine ⟨ordered, ?_, fun none_mid => ?_, ?_⟩
      · rw [World.step, spent, frame.clock]
        exact add_le_add_left own _
      · have after := none_mid i
        rw [stage_act_self, mid] at after
        cases after
      · exact act_rule (Q := fun _ => True) paced.ordered.mutex (fun _ => trivial) (mid_paced _ _)
          (fun outside _ _ => by rw [querying] at outside; cases outside) fun _ outside _ => paced_outside outside

/-- The reads of a run: one for each invalidation and each retry interval that passes, and one besides. -/
theorem reads_bounded (p : Policy α ε β) (retry : 0 ≤ p.retry) (window : p.retry ≤ p.ttl) (source : α) (start : 0 ≤ clock)
    (events : List (Event α ε)) :
    let g := (run (World.step p) (World.boot p source clock) events).shared
    g.reads * p.retry ≤ (g.clock - clock) + (g.invalidations + 1) * p.retry := by
  intro g
  have paced : Paced p clock (run (World.step p) (World.boot p source clock) events) := by
    refine Runs.invariant_always (I := Paced p clock) (fun w e paced => paced_step retry window paced e) ?_ events
    have spent : (World.boot p source clock).shared.spent p clock = clock := by simp [Shared.spent, World.boot]
    refine ⟨ordered_boot p (retry.trans window) source start, ?_, fun _ => ?_, fun _ => trivial⟩
    · rw [spent]
      exact le_add_of_nonneg_right retry
    · rw [spent]
      exact le_max_right _ _
  have bound : g.spent p clock ≤ g.clock + p.retry := paced.bound
  rw [Shared.spent] at bound
  linarith

end

end ReadThrough
