import RetinaServer.Alerting.SendAlert
import Mathlib.Data.List.Chain

/-! How far apart the deliveries of one alert type are kept, and that no two of them overlap. -/
namespace Retina.Alerting
open Tcp (PyFloat)
open OrderedDict

/-- What lies between two deliveries that follow one another in a history of their type. -/
structure Follows (history : List Delivery) (prev next : Delivery) : Prop where
  landed : prev.inFlight = false
  apart : inCooldown next.cooldown next.now prev.now = false ∨
    (∃ d ∈ history, d.now = prev.now ∧ d.lost = true) ∧ prev.now + FAILURE_REOPEN_S ≤ next.now
  spared : prev.failedAt.isSome = true → prev.now + FAILURE_REOPEN_S ≤ next.now

/-- The slot of the last delivery is reserved for it, or has been reopened after it. -/
def SlotOf (s : Slots) (alertType : String) (history : List Delivery) (last : Delivery) : Prop :=
  s.lastSent.get? alertType = some last.now ∧ last.lost = false ∨
    s.lastSent.get? alertType = none ∧ s.reopenAt.get? alertType = some (last.now + FAILURE_REOPEN_S) ∧
      ∃ d ∈ history, d.now = last.now ∧ d.lost = true

/-- A delivery that failed is about to reopen its slot, or has done so. -/
def Delivery.Settles (d : Delivery) : Prop := d.failedAt.isSome = true → d.phase = .failed ∨ d.lost = true

structure Kept (s : Slots) (alertType : String) (history : List Delivery) : Prop where
  marked : history.countP Delivery.inFlight = if alertType ∈ s.inFlight then 1 else 0
  slot : ∀ before last, history = before ++ [last] → SlotOf s alertType history last
  settles : ∀ d ∈ history, d.Settles
  spaced : history.IsChain (Follows history)

/-! ### A call that is let through -/

theorem Slots.admits_iff (s : Slots) (alertType : String) (now : ℚ) (cooldown : PyFloat) :
    s.admits alertType now cooldown = true ↔ inCooldown cooldown now ((s.lastSent.get? alertType).getD 0) = false ∧
      (s.reopenAt.get? alertType).getD 0 ≤ now ∧ alertType ∉ s.inFlight := by
  simp [Slots.admits, and_assoc]

theorem Follows.mono (kept : ∀ now, (∃ d ∈ history, d.now = now ∧ d.lost = true) → ∃ d ∈ history', d.now = now ∧ d.lost = true)
    (follows : Follows history prev next) : Follows history' prev next :=
  ⟨follows.landed, follows.apart.imp_right (And.imp_left (kept prev.now)), follows.spared⟩

/-- A delivery that is let through follows the last one. -/
theorem follows_of_admits (kept : Kept s alertType (before ++ [last])) (admitted : s.admits alertType now cooldown = true) :
    Follows (before ++ [last]) last (.begun alertType now cooldown) := by
  obtain ⟨cool, reopened, unmarked⟩ := (s.admits_iff _ _ _).mp admitted
  have landed : last.inFlight = false := by
    have none_marked := kept.marked
    rw [if_neg unmarked, List.countP_eq_zero] at none_marked
    exact Bool.eq_false_of_not_eq_true (none_marked last (by simp))
  rcases kept.slot before last rfl with ⟨sent, unlost⟩ | ⟨-, deadline, lost⟩
  · rw [sent, Option.getD_some] at cool
    refine ⟨landed, .inl cool, fun failed => ?_⟩
    rcases kept.settles last (by simp) failed with pending | lost
    · rw [Delivery.inFlight, pending] at landed
      cases landed
    · cases unlost.symm.trans lost
  · rw [deadline, Option.getD_some] at reopened
    exact ⟨landed, .inr ⟨lost, reopened⟩, fun _ => reopened⟩

theorem Kept.reserve (kept : Kept s alertType history) (admitted : s.admits alertType now cooldown = true) :
    Kept (s.reserve alertType now) alertType (history ++ [.begun alertType now cooldown]) := by
  obtain ⟨-, -, unmarked⟩ := (s.admits_iff _ _ _).mp admitted
  have grown {prev next : Delivery} :
      Follows history prev next → Follows (history ++ [.begun alertType now cooldown]) prev next :=
    Follows.mono fun _ ⟨d, listed, facts⟩ => ⟨d, List.mem_append_left _ listed, facts⟩
  constructor
  · have none_marked := kept.marked
    rw [if_neg unmarked] at none_marked
    rw [List.countP_append, none_marked, Slots.reserve, if_pos (Finset.mem_insert_self _ _), Nat.zero_add]
    rfl
  · intro before last split
    obtain ⟨-, same⟩ := List.append_inj' split rfl
    obtain rfl := List.singleton_inj.mp same
    exact .inl ⟨Dict.get?_insert_self _ _ _, rfl⟩
  · intro d listed failed
    rcases List.mem_append.mp listed with old | new
    · exact kept.settles d old failed
    · obtain rfl := List.mem_singleton.mp new
      exact absurd failed Bool.false_ne_true
  · refine List.isChain_append.mpr ⟨kept.spaced.imp fun _ _ => grown, List.isChain_singleton _, ?_⟩
    intro last is_last next is_next
    obtain rfl := Option.some.inj is_next
    obtain ⟨before, rfl⟩ := List.getLast?_eq_some_iff.mp is_last
    exact grown (follows_of_admits kept admitted)

/-! ### A turn of one delivery -/

/-- What a turn may do to its delivery and to the slot of its type. -/
structure Turned (s : Slots) (d : Delivery) (s' : Slots) (d' : Delivery) : Prop where
  alertType : d'.alertType = d.alertType
  now : d'.now = d.now
  cooldown : d'.cooldown = d.cooldown
  settled : d.inFlight = false → d'.inFlight = false ∧ d'.failedAt = d.failedAt
  marker : s'.inFlight = if d.inFlight = true ∧ d'.inFlight = false then s.inFlight.erase d.alertType else s.inFlight
  settles : d.Settles → d'.Settles
  slot : d'.lost = d.lost ∧ s'.lastSent = s.lastSent ∧ s'.reopenAt = s.reopenAt ∨
    d'.lost = true ∧ s'.lastSent = (s.reopenAfterFailedDelivery d.alertType d.now).lastSent ∧
      s'.reopenAt = (s.reopenAfterFailedDelivery d.alertType d.now).reopenAt

theorem Turned.refl (s : Slots) (d : Delivery) : Turned s d s d where
  alertType := rfl
  now := rfl
  cooldown := rfl
  settled landed := ⟨landed, rfl⟩
  marker := (if_neg fun ⟨marked, unmarked⟩ => absurd marked (ne_true_of_eq_false unmarked)).symm
  settles := id
  slot := .inl ⟨rfl, rfl, rfl⟩

theorem reopen_inFlight (s : Slots) (alertType : String) (now : ℚ) :
    (s.reopenAfterFailedDelivery alertType now).inFlight = s.inFlight := by
  rw [Slots.reopenAfterFailedDelivery]
  split <;> rfl

theorem turned_take (d : Delivery) (s : Slots) (turn : Turn) : Turned s d (d.take s turn).1 (d.take s turn).2 := by
  rw [Delivery.take.eq_def]
  split
  · rename_i phase
    constructor <;> simp [Delivery.inFlight, Delivery.lost, Delivery.Settles, phase]
  · rename_i phase
    constructor <;> simp [Delivery.inFlight, Delivery.lost, Delivery.Settles, Slots.discard, phase]
  · rename_i phase
    constructor <;> simp [Delivery.inFlight, Delivery.lost, Delivery.Settles, reopen_inFlight, phase]
  · rename_i phase
    split
    · constructor <;> simp [Delivery.inFlight, Delivery.lost, Delivery.Settles, phase]
    · constructor <;> simp [Delivery.inFlight, Delivery.lost, Delivery.Settles, phase]
  · rename_i phase
    constructor <;> simp [Delivery.inFlight, Delivery.lost, Delivery.Settles, reopen_inFlight, phase]
  · rename_i phase
    constructor <;> simp [Delivery.inFlight, Delivery.lost, Delivery.Settles, Slots.discard, phase]
  · rename_i phase
    constructor <;> simp [Delivery.inFlight, Delivery.lost, Delivery.Settles, Slots.discard, phase]
  · exact Turned.refl s d

/-- A chain with one element replaced is a chain, where what led to it leads to the other and what
followed it follows the other. -/
theorem isChain_replace {α : Type u} {R S : α → α → Prop} {a b : α} {earlier later : List α} (into : ∀ x, R x a → S x b) (out : ∀ y, R a y → S b y)
    (elsewhere : ∀ x y, R x y → S x y) (chain : (earlier ++ a :: later).IsChain R) : (earlier ++ b :: later).IsChain S := by
  induction earlier with
  | nil =>
    obtain ⟨first, rest⟩ := List.isChain_cons.mp chain
    exact List.isChain_cons.mpr ⟨fun y head => out y (first y head), rest.imp elsewhere⟩
  | cons x earlier ih =>
    obtain ⟨first, rest⟩ := List.isChain_cons.mp chain
    refine List.isChain_cons.mpr ⟨fun y head => ?_, ih rest⟩
    cases earlier with
    | nil =>
      obtain rfl := Option.some.inj head
      exact into x (first a rfl)
    | cons x' _ =>
      obtain rfl := Option.some.inj head
      exact elsewhere x x' (first x' rfl)

theorem Turned.lost (turned : Turned s d s' d') (lost : d.lost = true) : d'.lost = true := by
  rcases turned.slot with ⟨same, -, -⟩ | ⟨now_lost, -, -⟩
  · exact same.trans lost
  · exact now_lost

/-- A delivery that is lost stays so, whichever of its type takes a turn. -/
theorem Turned.carries (turned : Turned s d s' d') (now : ℚ) :
    (∃ x ∈ earlier ++ d :: later, x.now = now ∧ x.lost = true) → ∃ x ∈ earlier ++ d' :: later, x.now = now ∧ x.lost = true := by
  rintro ⟨x, listed, stamp, lost⟩
  rcases List.mem_append.mp listed with before | here
  · exact ⟨x, List.mem_append_left _ before, stamp, lost⟩
  · rcases List.mem_cons.mp here with rfl | after
    · exact ⟨d', by simp, turned.now.trans stamp, turned.lost lost⟩
    · exact ⟨x, by simp [after], stamp, lost⟩

/-- The slot of the last delivery, through a turn of any of its type: reopened by a delivery that was
let through at the same instant, it is reopened for the last one too. -/
theorem Turned.slotOf (turned : Turned s d s' d') (slot : SlotOf s d.alertType (earlier ++ d :: later) last)
    (stamp : last'.now = last.now) (lost : last' = last ∨ last = d ∧ last' = d') :
    SlotOf s' d.alertType (earlier ++ d' :: later) last' := by
  rcases turned.slot with ⟨same, sent, deadlines⟩ | ⟨now_lost, sent, deadlines⟩
  · have unmoved : last'.lost = last.lost := by
      rcases lost with rfl | ⟨rfl, rfl⟩
      · rfl
      · exact same
    rw [SlotOf, sent, deadlines, stamp, unmoved]
    exact slot.imp_right (And.imp_right (And.imp_right (turned.carries last.now)))
  · rw [SlotOf, sent, deadlines, stamp]
    by_cases reserved : s.lastSent.get? d.alertType = some d.now
    · rw [Slots.reopenAfterFailedDelivery, if_neg (not_not.mpr reserved)]
      have stamped : d.now = last.now := by
        rcases slot with ⟨held, -⟩ | ⟨blank, -⟩
        · exact Option.some.inj (reserved.symm.trans held)
        · cases reserved.symm.trans blank
      refine .inr ⟨Dict.get?_erase_self _ _, ?_, d', by simp, turned.now.trans stamped, now_lost⟩
      rw [Dict.get?_insert_self, stamped]
    · rw [Slots.reopenAfterFailedDelivery, if_pos reserved]
      rcases slot with ⟨held, unlost⟩ | ⟨blank, deadline, reopened⟩
      · rcases lost with rfl | ⟨rfl, rfl⟩
        · exact .inl ⟨held, unlost⟩
        · exact absurd held reserved
      · exact .inr ⟨blank, deadline, turned.carries last.now reopened⟩

theorem Turned.marked (turned : Turned s d s' d')
    (marked : (earlier ++ d :: later).countP Delivery.inFlight = if d.alertType ∈ s.inFlight then 1 else 0) :
    (earlier ++ d' :: later).countP Delivery.inFlight = if d.alertType ∈ s'.inFlight then 1 else 0 := by
  rw [turned.marker]
  rw [List.countP_append, List.countP_cons] at marked ⊢
  cases flying : d.inFlight with
  | false =>
    have landed := (turned.settled flying).1
    simp only [flying, landed, Bool.false_eq_true, false_and, if_false] at marked ⊢
    exact marked
  | true =>
    cases flying' : d'.inFlight with
    | true =>
      simp only [flying, and_false, if_true, if_false, reduceCtorEq] at marked ⊢
      exact marked
    | false =>
      simp only [flying, and_self, if_true, Finset.notMem_erase, if_false, Bool.false_eq_true] at marked ⊢
      split at marked <;> omega

theorem Turned.kept (turned : Turned s d s' d') (kept : Kept s d.alertType (earlier ++ d :: later)) :
    Kept s' d.alertType (earlier ++ d' :: later) := by
  refine ⟨turned.marked kept.marked, ?_, ?_, ?_⟩
  · intro before last split
    rcases List.eq_nil_or_concat later with rfl | ⟨middle, final, rfl⟩
    · obtain ⟨-, same⟩ := List.append_inj' split rfl
      obtain rfl := List.singleton_inj.mp same
      exact turned.slotOf (kept.slot earlier d rfl) turned.now (.inr ⟨rfl, rfl⟩)
    · rw [List.concat_eq_append, ← List.cons_append, ← List.append_assoc] at split
      obtain ⟨-, same⟩ := List.append_inj' split rfl
      obtain rfl := List.singleton_inj.mp same
      exact turned.slotOf (kept.slot (earlier ++ d :: middle) final (by simp)) rfl (.inl rfl)
  · intro x listed
    rcases List.mem_append.mp listed with before | here
    · exact kept.settles x (List.mem_append_left _ before)
    · rcases List.mem_cons.mp here with rfl | after
      · exact turned.settles (kept.settles d (by simp))
      · exact kept.settles x (by simp [after])
  · refine isChain_replace ?_ ?_ (fun _ _ => Follows.mono turned.carries) kept.spaced
    · rintro x ⟨landed, apart, spared⟩
      rw [← turned.now, ← turned.cooldown] at apart
      rw [← turned.now] at spared
      exact ⟨landed, apart.imp_right (And.imp_left (turned.carries x.now)), spared⟩
    · rintro y ⟨landed, apart, spared⟩
      obtain ⟨landed', failedAt⟩ := turned.settled landed
      rw [← turned.now] at apart spared
      rw [← failedAt] at spared
      exact ⟨landed', apart.imp_right (And.imp_left (turned.carries d'.now)), spared⟩

/-! ### Runs -/

theorem Kept.congr (kept : Kept s alertType history) (sent : s'.lastSent.get? alertType = s.lastSent.get? alertType)
    (deadline : s'.reopenAt.get? alertType = s.reopenAt.get? alertType) (marker : alertType ∈ s'.inFlight ↔ alertType ∈ s.inFlight) :
    Kept s' alertType history := by
  refine ⟨by simpa only [marker] using kept.marked, fun before last split => ?_, kept.settles, kept.spaced⟩
  rw [SlotOf, sent, deadline]
  exact kept.slot before last split

theorem kept_elsewhere (turned : Turned s d s' d') (other : alertType ≠ d.alertType) (kept : Kept s alertType history) :
    Kept s' alertType history := by
  have marker : alertType ∈ s'.inFlight ↔ alertType ∈ s.inFlight := by
    rw [turned.marker]
    split
    · rw [Finset.mem_erase, and_iff_right other]
    · rfl
  rcases turned.slot with ⟨-, sent, deadlines⟩ | ⟨-, sent, deadlines⟩
  · exact kept.congr (by rw [sent]) (by rw [deadlines]) marker
  · refine kept.congr ?_ ?_ marker
    · rw [sent, Slots.reopenAfterFailedDelivery]
      split
      · rfl
      · exact Dict.get?_erase_ne _ (Ne.symm other)
    · rw [deadlines, Slots.reopenAfterFailedDelivery]
      split
      · rfl
      · exact Dict.get?_insert_ne _ _ (Ne.symm other)

/-- Every type's history is kept by every action. -/
theorem kept_step (a : Alerts) (action : Action) (kept : ∀ alertType, Kept a.slots alertType (a.ofType alertType)) (alertType : String) :
    Kept (step a action).slots alertType ((step a action).ofType alertType) := by
  cases action with
  | send sent now cooldown configured =>
    rw [step]
    split
    · rename_i admitted
      obtain ⟨-, admitted⟩ := Bool.and_eq_true_iff.mp admitted
      rw [Alerts.ofType, List.filter_append]
      by_cases same : sent = alertType
      · subst same
        rw [List.filter_cons_of_pos (by simp [Delivery.begun]), List.filter_nil]
        exact (kept sent).reserve admitted
      · rw [List.filter_cons_of_neg (by simp [Delivery.begun, same]), List.filter_nil, List.append_nil]
        exact (kept alertType).congr (Dict.get?_insert_ne _ _ same) (Dict.get?_erase_ne _ same)
          (by rw [Slots.reserve, Finset.mem_insert, or_iff_right (Ne.symm same)])
    · exact kept alertType
  | turn i turn =>
    rw [step]
    split
    · exact kept alertType
    · rename_i d found
      have turned := turned_take d a.slots turn
      obtain ⟨bound, here⟩ := List.getElem?_eq_some_iff.mp found
      have split := List.set_eq_take_append_cons_drop (l := a.deliveries) (i := i) (a := (d.take a.slots turn).2)
      have whole : a.deliveries = a.deliveries.take i ++ d :: a.deliveries.drop (i + 1) := by
        rw [← here, List.cons_getElem_drop_succ, List.take_append_drop]
      rw [if_pos bound] at split
      have kept := kept alertType
      rw [Alerts.ofType, split, List.filter_append]
      rw [Alerts.ofType, whole, List.filter_append] at kept
      by_cases same : d.alertType = alertType
      · subst same
        rw [List.filter_cons_of_pos (by simp)] at kept
        rw [List.filter_cons_of_pos (by simp [turned.alertType])]
        exact turned.kept kept
      · rw [List.filter_cons_of_neg (by simpa using same)] at kept
        rw [List.filter_cons_of_neg (by simpa [turned.alertType] using same)]
        exact kept_elsewhere turned (Ne.symm same) kept

theorem kept_boot (alertType : String) : Kept Alerts.boot.slots alertType (Alerts.boot.ofType alertType) where
  marked := rfl
  slot before last split := absurd (congrArg List.length split) (by simp [Alerts.ofType, Alerts.boot])
  settles := by simp [Alerts.ofType, Alerts.boot]
  spaced := List.isChain_nil

theorem kept_run (actions : List Action) (alertType : String) :
    Kept (Runs.run step Alerts.boot actions).slots alertType ((Runs.run step Alerts.boot actions).ofType alertType) :=
  Runs.invariant_always (I := fun a : Alerts => ∀ alertType, Kept a.slots alertType (a.ofType alertType)) kept_step kept_boot
    actions alertType

/-- Whatever the calls, the deliveries and the cooldowns: of a type one delivery at most is in flight. One
that follows another starts when that is over; the cooldown it was checked against has passed since the
other started, or the slot was reopened for a lost alert and `FAILURE_REOPEN_S` has passed since then,
as it has after any delivery that failed. -/
theorem deliveries_kept_apart (actions : List Action) (alertType : String) :
    let history := (Runs.run step Alerts.boot actions).ofType alertType
    history.countP Delivery.inFlight ≤ 1 ∧
      ∀ before prev next after, history = before ++ prev :: next :: after →
        prev.inFlight = false ∧
        (PyFloat.lt (.fin (next.now - prev.now)) next.cooldown = false ∨
          (∃ d ∈ history, d.now = prev.now ∧ d.lost = true) ∧ prev.now + FAILURE_REOPEN_S ≤ next.now) ∧
        (prev.failedAt.isSome = true → prev.now + FAILURE_REOPEN_S ≤ next.now) := by
  intro history
  have kept := kept_run actions alertType
  constructor
  · rw [kept.marked]
    split <;> omega
  · intro before prev next after split
    have follows : Follows history prev next := List.isChain_iff_forall_rel_of_append_cons_cons.mp kept.spaced split
    exact ⟨follows.landed, follows.apart, follows.spared⟩

/-- A delivery that fails every attempt in 150 s may be followed at once. One that fails lets another
start within a cooldown, raised since, of one that succeeded before it; and after a fault, too, the slot is
reopened within the cooldown. -/
theorem slow_failure_followed_at_once :
    (Runs.run step Alerts.boot [
      .send "disk" 101000 (.fin 30) true, .turn 0 (.launch true), .turn 0 (.deliver (fun _ => .requestError) 101150),
      .turn 0 .reopen, .turn 0 .finish, .send "disk" 101150 (.fin 30) true]).deliveries =
      [⟨"disk", 101000, .fin 30, .done true, some 101150⟩, ⟨"disk", 101150, .fin 30, .reserved, none⟩] ∧
    (Runs.run step Alerts.boot [
      .send "disk" 101000 (.fin 300) true, .turn 0 (.launch true), .turn 0 (.deliver (fun _ => .status 200) 101001), .turn 0 .finish,
      .send "disk" 101300 (.fin 300) true, .turn 1 (.launch true), .turn 1 (.deliver (fun _ => .requestError) 101310),
      .turn 1 .reopen, .turn 1 .finish, .send "disk" 101400 (.fin 3600) true]).deliveries =
      [⟨"disk", 101000, .fin 300, .done false, none⟩, ⟨"disk", 101300, .fin 300, .done true, some 101310⟩,
        ⟨"disk", 101400, .fin 3600, .reserved, none⟩] ∧
    (Runs.run step Alerts.boot [
      .send "disk" 101000 (.fin 300) true, .turn 0 (.launch true), .turn 0 (.deliver (fun _ => .fault) 101000),
      .turn 0 .reopen, .turn 0 .finish, .send "disk" 101090 (.fin 300) true]).deliveries =
      [⟨"disk", 101000, .fin 300, .done true, some 101000⟩, ⟨"disk", 101090, .fin 300, .reserved, none⟩] := by
  decide +kernel

end Retina.Alerting
