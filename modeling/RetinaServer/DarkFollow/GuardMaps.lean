import RetinaServer.DarkFollow.Targets

/-! How long the guard's maps remember a key. The workers' outcomes and the tests of a rebuild take turns at the maps,
and a sweep goes by the cooldowns that it finds expired. -/
namespace Retina.DarkFollow
open Known Runs

/-- One hold of the guard's lock. -/
inductive GuardEvent where
  | outcome (key : String) (ok : Bool) (nowMono : ℚ)
  | drop (key : String) (nowMono : ℚ)
  | reprieve (key : String) (level velSigmaMs nowMono : ℚ)
  | clear (key : String)
  | sweep (nowMono : ℚ)

namespace GuardEvent

/-- The key whose streak or cooldown the event is about. -/
def judged : GuardEvent → Option String
  | .outcome key _ _ | .drop key _ => some key
  | _ => none

/-- The key that the event turns down, by a rejected solve or by a drop. -/
def rejection : GuardEvent → Option (String × ℚ)
  | .outcome key false nowMono | .drop key nowMono => some (key, nowMono)
  | _ => none

/-- The key that the event is about, and when. -/
def seen : GuardEvent → Option (String × ℚ)
  | .outcome key _ nowMono | .drop key nowMono | .reprieve key _ _ nowMono => some (key, nowMono)
  | _ => none

/-- The event rejects the key and leaves it a streak, but no cooldown. -/
def Spares (guard : Guard) (key : String) : GuardEvent → Prop
  | .outcome other false nowMono => other = key ∧ guard.cooldownUntil.get? key = none ∧
      ((guard.rejectStreak.get? key).getD 0 + 1 < maxConsecutiveRejects ∨ inCooldown guard key nowMono = true)
  | .drop other nowMono => other = key ∧ guard.cooldownUntil.get? key = none ∧ guard.rejectStreak.get? key ≠ none ∧
      -- a clock below zero is read as a cooldown where there is none
      inCooldown guard key nowMono = true
  | _ => False

end GuardEvent

section
variable (S : FollowSettings)

def guardStep (guard : Guard) : GuardEvent → Guard
  | .outcome key ok nowMono => recordOutcome S guard key ok nowMono
  | .drop key nowMono => dropTarget S guard key nowMono
  | .reprieve key level velSigmaMs nowMono => (manoeuvreReprieve S guard key level velSigmaMs nowMono).1
  | .clear key => clearManoeuvreKeep guard key
  | .sweep nowMono => sweepGuard guard nowMono

/-- The guard beside what was turned down: ever, and since the last sweep or less than a cooldown before it. -/
structure Watch where
  guard : Guard
  rejections : List (String × ℚ)
  live : List (String × ℚ)

def Watch.start : Watch := ⟨.empty, [], []⟩

def Watch.recent (w : Watch) (nowMono : ℚ) : List (String × ℚ) :=
  w.rejections.filter fun item => decide (nowMono < item.2 + S.cooldownS)

def watchStep (w : Watch) (e : GuardEvent) : Watch where
  guard := guardStep S w.guard e
  rejections := w.rejections ++ e.rejection.toList
  live := match e with
    | .sweep nowMono => w.recent S nowMono
    | _ => w.live ++ e.rejection.toList

/-- The keys in the streak and cooldown maps are among those that were turned down lately. -/
def Lately (w : Watch) : Prop :=
  ∀ key, w.guard.rejectStreak.get? key ≠ none ∨ w.guard.cooldownUntil.get? key ≠ none → ∃ t, (key, t) ∈ w.live

/-- What the guard's maps hold in a run, and for how long. -/
structure MapsBounded (events : List GuardEvent) : Prop where
  lately : ∀ before after, events = before ++ after → Lately (run (watchStep S) .start before)
  forgotten : ∀ before nowMono after, events = before ++ .sweep nowMono :: after →
    ∀ key, (∀ e ∈ before, ∀ t, e.seen = some (key, t) → t + S.cooldownS ≤ nowMono ∧ t + manoeuvreKeepTtlS ≤ nowMono) →
      (run (watchStep S) .start (before ++ [.sweep nowMono])).guard.at key = ⟨none, none, none⟩
  small : ∀ before after, events = before ++ after →
    (run (watchStep S) .start before).guard.rejectStreak.size ≤
        ((run (watchStep S) .start before).live.map Prod.fst).dedup.length ∧
      (run (watchStep S) .start before).guard.cooldownUntil.size ≤
        ((run (watchStep S) .start before).live.map Prod.fst).dedup.length

/-- A key that a rejection leaves with a streak and no cooldown is heard of again before every sweep that comes a
cooldown or more after all its rejections. -/
def HeardAgain (events : List GuardEvent) : Prop :=
  ∀ before e between nowMono after key, events = before ++ e :: between ++ .sweep nowMono :: after →
    e.Spares (run (watchStep S) .start before).guard key → (∀ e' ∈ between, e'.judged ≠ some key) →
      ∃ t, (key, t) ∈ (before ++ [e]).filterMap GuardEvent.rejection ∧ nowMono < t + S.cooldownS

end

/-- The guard has a streak of the key, and no cooldown that a sweep would take it with. -/
def Lone (guard : Guard) (key : String) : Prop :=
  guard.rejectStreak.get? key ≠ none ∧ guard.cooldownUntil.get? key = none

variable {S : FollowSettings} {guard : Guard} {key other : String}

/-! ### What an event does to a key -/

theorem expired_eq (guard : Guard) (nowMono : ℚ) (key : String) :
    expired guard nowMono key = true ↔ ∃ until_, guard.cooldownUntil.get? key = some until_ ∧ until_ ≤ nowMono := by
  cases held : guard.cooldownUntil.get? key with
  | none => simp [expired, held]
  | some until_ => simp [expired, held]

theorem sweepGuard_streak (guard : Guard) (nowMono : ℚ) (key : String) :
    (sweepGuard guard nowMono).rejectStreak.get? key ≠ none ↔
      guard.rejectStreak.get? key ≠ none ∧ expired guard nowMono key = false := by
  rw [sweepGuard, Dict.get?_filter]
  cases guard.rejectStreak.get? key with
  | none => simp
  | some streak => simp [Option.filter_some]

theorem sweepGuard_cooldown (guard : Guard) (nowMono : ℚ) (key : String) (until_ : ℚ) :
    (sweepGuard guard nowMono).cooldownUntil.get? key = some until_ ↔
      guard.cooldownUntil.get? key = some until_ ∧ nowMono < until_ := by
  rw [sweepGuard, Dict.get?_filter, Option.filter_eq_some_iff]
  simp

theorem lone_sweepGuard (guard : Guard) (nowMono : ℚ) (key : String) :
    Lone (sweepGuard guard nowMono) key ↔ Lone guard key := by
  rw [Lone, Lone, sweepGuard_streak]
  cases held : guard.cooldownUntil.get? key with
  | none =>
    have absent : (sweepGuard guard nowMono).cooldownUntil.get? key = none := Dict.get?_filter_none _ _ held
    simp [absent, expired, held]
  | some until_ =>
    have fresh : expired guard nowMono key = false → (sweepGuard guard nowMono).cooldownUntil.get? key = some until_ := by
      intro young
      rw [sweepGuard_cooldown]
      refine ⟨held, not_le.mp fun old => ?_⟩
      rw [(expired_eq guard nowMono key).mpr ⟨until_, held, old⟩] at young
      cases young
    constructor
    · rintro ⟨⟨-, young⟩, absent⟩
      rw [fresh young] at absent
      cases absent
    · rintro ⟨-, absent⟩
      cases absent

theorem recordOutcome_at_ne (apart : other ≠ key) (ok : Bool) (now : ℚ) :
    (recordOutcome S guard other ok now).at key = guard.at key := by
  unfold recordOutcome
  split
  · simp [Guard.at, Dict.get?_erase_ne _ apart]
  · dsimp only
    split
    · rw [dropTarget_at_ne apart]
      simp [Guard.at, Dict.get?_insert_ne _ _ apart]
    · simp [Guard.at, Dict.get?_insert_ne _ _ apart]

theorem lone_congr {guard' : Guard} (same : guard.at key = guard'.at key) : Lone guard key ↔ Lone guard' key := by
  have streak : guard.rejectStreak.get? key = guard'.rejectStreak.get? key := congrArg KeyGuard.rejectStreak same
  have cooldown : guard.cooldownUntil.get? key = guard'.cooldownUntil.get? key := congrArg KeyGuard.cooldownUntil same
  rw [Lone, Lone, streak, cooldown]

theorem lone_dropTarget (guard : Guard) (key : String) (now : ℚ) :
    Lone (dropTarget S guard key now) key ↔ Lone guard key ∧ inCooldown guard key now = true := by
  unfold dropTarget
  split
  · rename_i cooling
    simp [cooling]
  · rename_i warm
    simp [Lone, warm]

theorem lone_recordOutcome (guard : Guard) (key : String) (now : ℚ) :
    Lone (recordOutcome S guard key false now) key ↔ GuardEvent.Spares guard key (.outcome key false now) := by
  simp only [recordOutcome, Bool.false_eq_true, if_false, GuardEvent.Spares, true_and]
  have struck : ∀ n, Lone { guard with rejectStreak := guard.rejectStreak.insert key n } key ↔
      guard.cooldownUntil.get? key = none := fun n => by simp [Lone]
  split
  · rename_i full
    rw [lone_dropTarget, struck]
    have same : ∀ n, inCooldown { guard with rejectStreak := guard.rejectStreak.insert key n } key now =
        inCooldown guard key now := fun _ => rfl
    rw [same]
    refine and_congr_right fun _ => ⟨.inr, ?_⟩
    rintro (few | cooling)
    · exact absurd full (not_le.mpr few)
    · exact cooling
  · rename_i few
    rw [struck]
    exact ⟨fun absent => ⟨absent, .inl (not_le.mp few)⟩, And.left⟩

/-- A key is left with a streak alone by a rejection that spares it, or where it was so before. -/
theorem lone_guardStep (guard : Guard) (e : GuardEvent) (key : String) :
    Lone (guardStep S guard e) key ↔ e.Spares guard key ∨ e.judged ≠ some key ∧ Lone guard key := by
  cases e with
  | outcome other ok now =>
    by_cases here : other = key
    · subst here
      cases ok with
      | false =>
        rw [guardStep, lone_recordOutcome]
        simp [GuardEvent.judged]
      | true => simp [guardStep, recordOutcome, Lone, GuardEvent.Spares, GuardEvent.judged]
    · rw [guardStep, lone_congr (recordOutcome_at_ne here ok now)]
      cases ok with
      | false => simp [GuardEvent.Spares, GuardEvent.judged, here]
      | true => simp [GuardEvent.Spares, GuardEvent.judged, here]
  | drop other now =>
    by_cases here : other = key
    · subst here
      rw [guardStep, lone_dropTarget, Lone]
      simp only [GuardEvent.Spares, GuardEvent.judged, true_and, ne_eq, not_true, false_and, or_false]
      tauto
    · rw [guardStep, lone_congr (dropTarget_at_ne here now)]
      simp [GuardEvent.Spares, GuardEvent.judged, here]
  | reprieve other level velSigmaMs now =>
    have same : Lone (guardStep S guard (.reprieve other level velSigmaMs now)) key ↔ Lone guard key := by
      simp only [guardStep, manoeuvreReprieve]
      split
      · exact Iff.rfl
      · split
        · exact Iff.rfl
        · split
          · exact Iff.rfl
          · exact Iff.rfl
    simp [same, GuardEvent.Spares, GuardEvent.judged]
  | clear other => simp [guardStep, clearManoeuvreKeep, Lone, GuardEvent.Spares, GuardEvent.judged]
  | sweep now => simp [guardStep, lone_sweepGuard, GuardEvent.Spares, GuardEvent.judged]

theorem cooldown_dropTarget (held : (dropTarget S guard other now).cooldownUntil.get? key = some until_) :
    guard.cooldownUntil.get? key = some until_ ∨ other = key ∧ until_ = now + S.cooldownS := by
  unfold dropTarget at held
  split at held
  · exact .inl held
  · rw [Dict.get?_insert] at held
    split at held
    · rename_i here
      exact .inr ⟨here, (Option.some.inj held).symm⟩
    · exact .inl held

/-- A cooldown was there before and is not swept, or begins with a rejection. -/
theorem cooldown_guardStep (held : (guardStep S guard e).cooldownUntil.get? key = some until_) :
    guard.cooldownUntil.get? key = some until_ ∧ (∀ now, e = .sweep now → now < until_) ∨
      ∃ t, e.rejection = some (key, t) ∧ until_ = t + S.cooldownS := by
  cases e with
  | outcome other ok now =>
    cases ok with
    | true => exact .inl ⟨held, nofun⟩
    | false =>
      simp only [guardStep, recordOutcome, Bool.false_eq_true, if_false] at held
      split at held
      · rcases cooldown_dropTarget held with old | ⟨rfl, new⟩
        · exact .inl ⟨old, nofun⟩
        · exact .inr ⟨now, rfl, new⟩
      · exact .inl ⟨held, nofun⟩
  | drop other now =>
    rcases cooldown_dropTarget held with old | ⟨rfl, new⟩
    · exact .inl ⟨old, nofun⟩
    · exact .inr ⟨now, rfl, new⟩
  | reprieve other level velSigmaMs now =>
    refine .inl ⟨?_, nofun⟩
    simp only [guardStep, manoeuvreReprieve] at held
    split at held
    · exact held
    · split at held
      · exact held
      · split at held
        · exact held
        · exact held
  | clear other => exact .inl ⟨held, nofun⟩
  | sweep now =>
    obtain ⟨old, young⟩ := (sweepGuard_cooldown guard now key until_).mp held
    refine .inl ⟨old, ?_⟩
    rintro _ ⟨⟩
    exact young

/-- A mark was there before and is not swept, or was made when the key was seen. -/
theorem keepSince_guardStep (mark : (guardStep S guard e).manoeuvreKeepSince.get? key = some since) :
    guard.manoeuvreKeepSince.get? key = some since ∧ (∀ now, e = .sweep now → now - manoeuvreKeepTtlS < since) ∨
      e.seen = some (key, since) := by
  cases e with
  | outcome other ok now =>
    refine .inl ⟨?_, nofun⟩
    cases ok with
    | true => exact mark
    | false =>
      simp only [guardStep, recordOutcome, Bool.false_eq_true, if_false] at mark
      split at mark
      · rwa [dropTarget_keepSince] at mark
      · exact mark
  | drop other now =>
    rw [guardStep, dropTarget_keepSince] at mark
    exact .inl ⟨mark, nofun⟩
  | reprieve other level velSigmaMs now =>
    simp only [guardStep, manoeuvreReprieve] at mark
    split at mark
    · exact .inl ⟨(Dict.get?_filter_some mark).1, nofun⟩
    · split at mark
      · exact .inl ⟨mark, nofun⟩
      · split at mark
        · rw [Dict.get?_insert] at mark
          split at mark
          · rename_i here
            exact .inr (by rw [GuardEvent.seen, here, Option.some.inj mark])
          · exact .inl ⟨mark, nofun⟩
        · exact .inl ⟨mark, nofun⟩
  | clear other => exact .inl ⟨(Dict.get?_filter_some mark).1, nofun⟩
  | sweep now =>
    obtain ⟨old, young⟩ := Dict.get?_filter_some mark
    refine .inl ⟨old, ?_⟩
    rintro _ ⟨⟩
    simpa using young

/-! ### What was turned down lately -/

/-- Every cooldown was begun by a rejection that is still recent. -/
structure Noted (S : FollowSettings) (w : Watch) : Prop where
  live : ∀ item ∈ w.live, item ∈ w.rejections
  cooldown : ∀ key until_, w.guard.cooldownUntil.get? key = some until_ →
    ∃ t, (key, t) ∈ w.live ∧ until_ = t + S.cooldownS

theorem mem_live_of_rejection (w : Watch) (rejected : GuardEvent.rejection e = some item) :
    item ∈ (watchStep S w e).live := by
  cases e with
  | outcome | drop => exact List.mem_append_right _ (by simp [rejected])
  | reprieve | clear | sweep => cases rejected

theorem mem_live_step {w : Watch} (member : item ∈ w.live) (unswept : ∀ now, e ≠ .sweep now) :
    item ∈ (watchStep S w e).live := by
  cases e with
  | sweep now => exact absurd rfl (unswept now)
  | outcome | drop | reprieve | clear => exact List.mem_append_left _ member

theorem mem_live_sweep (w : Watch) (now : ℚ) :
    item ∈ (watchStep S w (.sweep now)).live ↔ item ∈ w.rejections ∧ now < item.2 + S.cooldownS := by
  simp [watchStep, Watch.recent, List.mem_filter]

theorem Noted.step (noted : Noted S w) (e : GuardEvent) : Noted S (watchStep S w e) where
  live item member := by
    cases e with
    | sweep now => exact List.mem_append_left _ ((mem_live_sweep w now).mp member).1
    | outcome | drop | reprieve | clear =>
      rcases List.mem_append.mp member with old | new
      · exact List.mem_append_left _ (noted.live item old)
      · exact List.mem_append_right _ new
  cooldown key until_ held := by
    rcases cooldown_guardStep held with ⟨old, young⟩ | ⟨t, rejected, begun⟩
    · obtain ⟨t, member, begun⟩ := noted.cooldown key until_ old
      refine ⟨t, ?_, begun⟩
      by_cases swept : ∃ now, e = .sweep now
      · obtain ⟨now, rfl⟩ := swept
        exact (mem_live_sweep w now).mpr ⟨noted.live _ member, begun ▸ young now rfl⟩
      · exact mem_live_step member (not_exists.mp swept)
    · exact ⟨t, mem_live_of_rejection w rejected, begun⟩

theorem GuardEvent.Spares.rejection (spares : GuardEvent.Spares guard key e) : ∃ t, e.rejection = some (key, t) := by
  cases e with
  | outcome other ok now =>
    cases ok with
    | true => cases spares
    | false => exact ⟨now, by rw [GuardEvent.rejection, spares.1]⟩
  | drop other now => exact ⟨now, by rw [GuardEvent.rejection, spares.1]⟩
  | reprieve | clear | sweep => cases spares

/-- A sweep finds every key with a streak alone rejected less than a cooldown ago. -/
def Answered (S : FollowSettings) (w : Watch) : GuardEvent → Prop
  | .sweep nowMono => ∀ key, Lone w.guard key → ∃ t, (key, t) ∈ w.rejections ∧ nowMono < t + S.cooldownS
  | _ => True

theorem lately_step_iff (S : FollowSettings) (w : Watch) (e : GuardEvent) (noted : Noted S w) (lately : Lately w) :
    Answered S w e ↔ Lately (watchStep S w e) := by
  constructor
  · intro answered key held
    cases cooling : (watchStep S w e).guard.cooldownUntil.get? key with
    | some until_ =>
      obtain ⟨t, member, -⟩ := (noted.step e).cooldown key until_ cooling
      exact ⟨t, member⟩
    | none =>
      have lone : Lone (guardStep S w.guard e) key := ⟨held.resolve_right (by simp [cooling]), cooling⟩
      rcases (lone_guardStep w.guard e key).mp lone with spares | ⟨-, before⟩
      · obtain ⟨t, rejected⟩ := spares.rejection
        exact ⟨t, mem_live_of_rejection w rejected⟩
      · by_cases swept : ∃ now, e = .sweep now
        · obtain ⟨now, rfl⟩ := swept
          obtain ⟨t, recent⟩ := answered key before
          exact ⟨t, (mem_live_sweep w now).mpr recent⟩
        · obtain ⟨t, member⟩ := lately key (.inl before.1)
          exact ⟨t, mem_live_step member (not_exists.mp swept)⟩
  · intro after
    cases e with
    | outcome | drop | reprieve | clear => trivial
    | sweep now =>
      intro key lone
      obtain ⟨t, member⟩ := after key (.inl ((lone_sweepGuard w.guard now key).mpr lone).1)
      exact ⟨t, (mem_live_sweep w now).mp member⟩

theorem noted_start (S : FollowSettings) : Noted S .start := ⟨nofun, nofun⟩

theorem lately_start : Lately .start := by
  rintro key (streak | cooldown)
  · exact absurd rfl streak
  · exact absurd rfl cooldown

theorem lately_iff_answered (S : FollowSettings) (events : List GuardEvent) :
    (∀ before after, events = before ++ after → Lately (run (watchStep S) .start before)) ↔
      Along (watchStep S) (Answered S) .start events := by
  have exactly : ∀ w e, (Noted S w ∧ Lately w) → (Answered S w e ↔ Noted S (watchStep S w e) ∧ Lately (watchStep S w e)) :=
    fun w e held => (lately_step_iff S w e held.1 held.2).trans (iff_and_self.mpr fun _ => held.1.step e)
  rw [along_iff_invariant exactly ⟨noted_start S, lately_start⟩]
  have noted : ∀ before, Noted S (run (watchStep S) .start before) :=
    invariant_always (fun _ e noted => noted.step e) (noted_start S)
  exact ⟨fun lately before after split => ⟨noted before, lately before after split⟩,
    fun both before after split => (both before after split).2⟩

/-! ### Keys that nothing follows up -/

theorem run_rejections (S : FollowSettings) (events : List GuardEvent) :
    (run (watchStep S) .start events).rejections = events.filterMap GuardEvent.rejection := by
  induction events using List.reverseRecOn with
  | nil => rfl
  | append_singleton before e ih =>
    rw [run_append, List.filterMap_append, ← ih]
    cases rejected : e.rejection with
    | none => simp [watchStep, rejected]
    | some item => simp [watchStep, rejected]

/-- A streak alone stays until its key is judged again, over all sweeps. -/
theorem lone_run (lone : Lone w.guard key) (between : List GuardEvent) (unjudged : ∀ e ∈ between, e.judged ≠ some key) :
    Lone (run (watchStep S) w between).guard key := by
  induction between generalizing w with
  | nil => exact lone
  | cons e rest ih =>
    have next : Lone (guardStep S w.guard e) key :=
      (lone_guardStep w.guard e key).mpr (.inr ⟨unjudged e (by simp), lone⟩)
    exact ih next fun e' member => unjudged e' (List.mem_cons_of_mem _ member)

/-- A streak alone goes back to a rejection that spared its key, which was not judged since. -/
theorem exists_spared (events : List GuardEvent) (lone : Lone (run (watchStep S) .start events).guard key) :
    ∃ before e between, events = before ++ e :: between ∧ e.Spares (run (watchStep S) .start before).guard key ∧
      ∀ e' ∈ between, e'.judged ≠ some key := by
  induction events using List.reverseRecOn with
  | nil => exact absurd rfl lone.1
  | append_singleton events last ih =>
    rw [run_append] at lone
    rcases (lone_guardStep _ last key).mp lone with spares | ⟨unjudged, already⟩
    · exact ⟨events, last, [], rfl, spares, fun e' none => absurd none List.not_mem_nil⟩
    · obtain ⟨before, e, between, rfl, spares, since⟩ := ih already
      refine ⟨before, e, between ++ [last], by simp, spares, fun e' member => ?_⟩
      rcases List.mem_append.mp member with earlier | final
      · exact since e' earlier
      · rwa [List.mem_singleton.mp final]

theorem GuardEvent.judged_of_rejection (rejected : GuardEvent.rejection e = some (key, t)) : e.judged = some key := by
  cases e with
  | outcome other ok now =>
    cases ok with
    | true => cases rejected
    | false =>
      obtain ⟨rfl, -⟩ := Prod.mk.inj (Option.some.inj rejected)
      rfl
  | drop other now =>
    obtain ⟨rfl, -⟩ := Prod.mk.inj (Option.some.inj rejected)
    rfl
  | reprieve | clear | sweep => cases rejected

theorem answered_iff_heardAgain (S : FollowSettings) (events : List GuardEvent) :
    Along (watchStep S) (Answered S) .start events ↔ HeardAgain S events := by
  rw [along_iff_split]
  constructor
  · intro answered before e between nowMono after key split spares unjudged
    have left : Lone (run (watchStep S) .start (before ++ [e])).guard key := by
      rw [run_append]
      exact (lone_guardStep _ e key).mpr (.inl spares)
    have lone := lone_run (S := S) left between unjudged
    rw [← run_append] at lone
    have found : Answered S (run (watchStep S) .start (before ++ [e] ++ between)) (.sweep nowMono) :=
      answered _ _ after (split.trans (by simp))
    obtain ⟨t, member, recent⟩ := found key lone
    rw [run_rejections, List.filterMap_append] at member
    rcases List.mem_append.mp member with upto | since
    · exact ⟨t, upto, recent⟩
    · obtain ⟨e', listed, rejected⟩ := List.mem_filterMap.mp since
      exact absurd (GuardEvent.judged_of_rejection rejected) (unjudged e' listed)
  · intro heard before e after split
    cases e with
    | outcome | drop | reprieve | clear => trivial
    | sweep nowMono =>
      intro key lone
      obtain ⟨first, e, between, rfl, spares, unjudged⟩ := exists_spared before lone
      obtain ⟨t, member, recent⟩ := heard first e between nowMono after key split spares unjudged
      refine ⟨t, ?_, recent⟩
      rw [run_rejections, List.append_cons, List.filterMap_append]
      exact List.mem_append_left _ member

/-! ### The maps of a run -/

theorem exists_seen_of_mark (events : List GuardEvent)
    (mark : (run (watchStep S) .start events).guard.manoeuvreKeepSince.get? key = some since) :
    ∃ e ∈ events, e.seen = some (key, since) := by
  induction events using List.reverseRecOn with
  | nil => cases mark
  | append_singleton before last ih =>
    rw [run_append] at mark
    rcases keepSince_guardStep mark with ⟨old, -⟩ | seen
    · obtain ⟨e, member, seen⟩ := ih old
      exact ⟨e, List.mem_append_left _ member, seen⟩
    · exact ⟨last, by simp, seen⟩

theorem GuardEvent.seen_of_rejection (rejected : GuardEvent.rejection e = some item) : e.seen = some item := by
  cases e with
  | outcome other ok now =>
    cases ok with
    | true => cases rejected
    | false => exact rejected
  | drop => exact rejected
  | reprieve | clear | sweep => cases rejected

/-- A sweep forgets a key that was last seen a retention ago, as far as it was turned down lately. -/
theorem forgotten_of_lately (before : List GuardEvent) (nowMono : ℚ)
    (lately : Lately (run (watchStep S) .start (before ++ [.sweep nowMono])))
    (old : ∀ e ∈ before, ∀ t, e.seen = some (key, t) → t + S.cooldownS ≤ nowMono ∧ t + manoeuvreKeepTtlS ≤ nowMono) :
    (run (watchStep S) .start (before ++ [.sweep nowMono])).guard.at key = ⟨none, none, none⟩ := by
  have unlisted : ∀ t, (key, t) ∉ (run (watchStep S) .start (before ++ [.sweep nowMono])).live := by
    intro t member
    rw [run_append] at member
    obtain ⟨listed, recent⟩ := (mem_live_sweep _ nowMono).mp member
    rw [run_rejections] at listed
    obtain ⟨e, met, rejected⟩ := List.mem_filterMap.mp listed
    exact absurd (old e met t (GuardEvent.seen_of_rejection rejected)).1 (not_le.mpr recent)
  have absent := not_or.mp fun held => (lately key held).elim unlisted
  have unmarked : (run (watchStep S) .start (before ++ [.sweep nowMono])).guard.manoeuvreKeepSince.get? key = none := by
    refine Option.eq_none_iff_forall_ne_some.mpr fun since mark => ?_
    rw [run_append] at mark
    rcases keepSince_guardStep mark with ⟨marked, young⟩ | seen
    · obtain ⟨e, met, seen⟩ := exists_seen_of_mark before marked
      have late := (old e met since seen).2
      exact absurd (young nowMono rfl) (not_lt.mpr (le_sub_iff_add_le.mpr late))
    · cases seen
  rw [Guard.at, not_not.mp absent.1, not_not.mp absent.2, unmarked]

/-- In every run of the guard its maps hold no key but those turned down lately, and forget what is not seen again,
exactly when each key that a rejection leaves with a streak and no cooldown is heard of again in time. -/
theorem maps_bounded_iff (S : FollowSettings) (events : List GuardEvent) : MapsBounded S events ↔ HeardAgain S events := by
  rw [← answered_iff_heardAgain, ← lately_iff_answered]
  have named : ∀ {items : List (String × ℚ)} {key}, (∃ t, (key, t) ∈ items) → key ∈ (items.map Prod.fst).dedup :=
    fun ⟨t, member⟩ => List.mem_dedup.mpr (List.mem_map_of_mem member)
  refine ⟨MapsBounded.lately, fun lately => ⟨lately, fun before nowMono after split key old => ?_,
    fun before after split => ⟨?_, ?_⟩⟩⟩
  · exact forgotten_of_lately before nowMono (lately _ after (by simp [split])) old
  · exact Dict.size_le_of_keys fun key held => named (lately before after split key (.inl held))
  · exact Dict.size_le_of_keys fun key held => named (lately before after split key (.inr held))

/-! ### The guard of the lane -/

theorem testKey_guard (S : FollowSettings) (sky : Sky) (guard : Guard) (key : String) (rec : DarkRecord) :
    ∃ events, (testKey S sky guard key rec).1 = run (guardStep S) guard events := by
  unfold testKey
  split
  · exact ⟨[], rfl⟩
  · split
    · exact ⟨[], rfl⟩
    · rename_i lat lon reading screened
      split
      · dsimp only
        split
        · exact ⟨[.reprieve key reading.manoeuvre reading.velSigmaMs sky.nowMono], rfl⟩
        · exact ⟨[.reprieve key reading.manoeuvre reading.velSigmaMs sky.nowMono, .drop key sky.nowMono], rfl⟩
      · exact ⟨[.clear key], rfl⟩

theorem testFrom_guard (S : FollowSettings) (sky : Sky) (items : List (String × DarkRecord))
    (acc : Guard × List (String × Verdict)) : ∃ events, (testFrom S sky items acc).1 = run (guardStep S) acc.1 events := by
  induction items generalizing acc with
  | nil => exact ⟨[], rfl⟩
  | cons item rest ih =>
    obtain ⟨first, tested⟩ := testKey_guard S sky acc.1 item.1 item.2
    obtain ⟨later, walked⟩ := ih ((testKey S sky acc.1 item.1 item.2).1,
      acc.2 ++ [(item.1, (testKey S sky acc.1 item.1 item.2).2)])
    refine ⟨first ++ later, ?_⟩
    rw [run_append, ← tested]
    exact walked

theorem Follower.step_guard (S : FollowSettings) (s : Follower) (e : FollowEvent) :
    ∃ events, (s.step S e).guard = run (guardStep S) s.guard events := by
  cases e with
  | outcome key ok now => exact ⟨[.outcome key ok now], rfl⟩
  | ask mode sky =>
    simp only [Follower.step, followTargets]
    split
    · exact ⟨[], rfl⟩
    · split
      · obtain ⟨events, built⟩ := testFrom_guard S sky sky.tracks.items (sweepGuard s.guard sky.nowMono, [])
        exact ⟨.sweep sky.nowMono :: events, built⟩
      · exact ⟨[], rfl⟩

/-- Whatever the lane's guard comes to, it comes to by a run of its own. -/
theorem exists_guard_run (S : FollowSettings) (events : List FollowEvent) :
    ∃ held, (run (Follower.step S) .start events).guard = (run (watchStep S) .start held).guard := by
  have view : ∀ held, (run (watchStep S) .start held).guard = run (guardStep S) .empty held :=
    map_run Watch.guard (fun _ _ => rfl) .start
  induction events using List.reverseRecOn with
  | nil => exact ⟨[], rfl⟩
  | append_singleton before e ih =>
    obtain ⟨first, upto⟩ := ih
    obtain ⟨last, stepped⟩ := (run (Follower.step S) .start before).step_guard S e
    refine ⟨first ++ last, ?_⟩
    rw [run_append, view, run_append, ← view first, ← upto]
    exact stepped

/-- A key is rejected once and never seen again, and a sweep comes a quarter of an hour later. -/
def rejectedOnce : List GuardEvent := [.outcome "mn-dark-1" false 100, .sweep 1000]

theorem rejected_once_stays : ¬ MapsBounded {} rejectedOnce := by
  intro bounded
  have gone := bounded.forgotten [.outcome "mn-dark-1" false 100] 1000 [] rfl "mn-dark-1" (by
    intro e member t seen
    rw [List.mem_singleton.mp member] at seen
    obtain rfl : 100 = t := by simpa [GuardEvent.seen] using seen
    exact ⟨by decide +kernel, by decide +kernel⟩)
  have streak := congrArg KeyGuard.rejectStreak gone
  revert streak
  decide +kernel

end Retina.DarkFollow
