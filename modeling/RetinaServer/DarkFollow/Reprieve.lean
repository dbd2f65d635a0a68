import RetinaServer.DarkFollow.Targets

/-! How long the reprieve keeps a key whose velocity sigma stays over the ceiling. The
time is counted from rebuild to rebuild, over the stretches in which the key is kept. -/
namespace Retina.DarkFollow
open Frames Known Runs OrderedDict

variable (S : FollowSettings)

/-- Whether the event rebuilds the list. -/
def Follower.rebuilding (s : Follower) : FollowEvent → Bool
  | .ask mode sky => s.rebuilds mode sky.nowMono
  | .outcome _ _ _ => false

/-- The event rebuilds the list, and the reprieve keeps the key on it. -/
def Follower.keeps (s : Follower) (key : String) : FollowEvent → Bool
  | .ask mode sky => s.rebuilds mode sky.nowMono &&
      match verdictOn S sky (sweepGuard s.guard sky.nowMono) key with
      | some (.keptManoeuvre _) => true
      | _ => false
  | .outcome _ _ _ => false

/-- The time a key has been kept, and when it last was, unless a rebuild has dropped it since. -/
structure Tally where
  total : ℚ
  last : Option ℚ

def Tally.step (t : Tally) (rebuilding kept : Bool) (nowMono : ℚ) : Tally :=
  if rebuilding then
    if kept then ⟨t.total + (t.last.map fun l => nowMono - l).getD 0, some nowMono⟩ else ⟨t.total, none⟩
  else t

def tallyStep (key : String) (st : Follower × Tally) (e : FollowEvent) : Follower × Tally :=
  (st.1.step S e, st.2.step (st.1.rebuilding e) (st.1.keeps S key e) e.nowMono)

/-- The time for which the reprieve keeps a key in a stretch of events. -/
def keptTime (key : String) (s : Follower) (stretch : List FollowEvent) : ℚ :=
  (run (tallyStep S key) (s, ⟨0, none⟩) stretch).2.total

/-- The rebuild finds the velocity sigma of the key over the ceiling, where it has one. -/
def SigmaOver (s : Follower) (key : String) : FollowEvent → Prop
  | .ask mode sky => s.rebuilds mode sky.nowMono = true → ∀ reading ∈ sky.filters key, S.maxVelSigmaMs < reading.velSigmaMs
  | .outcome _ _ _ => True

instance (s : Follower) (key : String) : ∀ e : FollowEvent, Decidable (SigmaOver S s key e)
  | .ask _ _ => inferInstanceAs (Decidable (_ → ∀ _ ∈ _, _))
  | .outcome _ _ _ => inferInstanceAs (Decidable True)

/-- A rebuild that tests the key finds it manoeuvring. -/
def Manoeuvring (s : Follower) (key : String) : FollowEvent → Prop
  | .ask mode sky => s.rebuilds mode sky.nowMono = true → ∀ rec ∈ sky.tracks.get? key,
      ∀ passed ∈ (screened S sky (sweepGuard s.guard sky.nowMono) key rec).toOption, S.manoeuvreKeep ≤ passed.2.2.manoeuvre
  | .outcome _ _ _ => True

instance (s : Follower) (key : String) : ∀ e : FollowEvent, Decidable (Manoeuvring S s key e)
  | .ask _ _ => inferInstanceAs (Decidable (_ → ∀ _ ∈ _, ∀ _ ∈ _, _))
  | .outcome _ _ _ => inferInstanceAs (Decidable True)

/-- The sweep of a rebuild leaves when the reprieve of the key began. -/
def Unswept (s : Follower) (key : String) : FollowEvent → Prop
  | .ask mode sky => s.rebuilds mode sky.nowMono = true → ∀ since ∈ s.guard.manoeuvreKeepSince.get? key,
      sky.nowMono - manoeuvreKeepTtlS < since
  | .outcome _ _ _ => True

instance (s : Follower) (key : String) : ∀ e : FollowEvent, Decidable (Unswept s key e)
  | .ask _ _ => inferInstanceAs (Decidable (_ → ∀ _ ∈ _, _))
  | .outcome _ _ _ => inferInstanceAs (Decidable True)

/-- The episode of a key goes on. -/
structure GoesOn (key : String) (s : Follower) (e : FollowEvent) : Prop where
  loose : SigmaOver S s key e
  manoeuvring : Manoeuvring S s key e
  unswept : Unswept s key e

instance (key : String) (s : Follower) (e : FollowEvent) : Decidable (GoesOn S key s e) :=
  decidable_of_iff (SigmaOver S s key e ∧ Manoeuvring S s key e ∧ Unswept s key e)
    ⟨fun ⟨loose, manoeuvring, unswept⟩ => ⟨loose, manoeuvring, unswept⟩, fun goes => ⟨goes.loose, goes.manoeuvring, goes.unswept⟩⟩

variable {S}

/-! ### What one event does to the mark of an episode -/

theorem recordOutcome_keepSince (guard : Guard) (key : String) (ok : Bool) (now : ℚ) :
    (recordOutcome S guard key ok now).manoeuvreKeepSince = guard.manoeuvreKeepSince := by
  unfold recordOutcome
  split
  · rfl
  · dsimp only
    split
    · exact dropTarget_keepSince _ key now
    · rfl

/-- In an episode a key is kept, and the reprieve begins or has time left, or else the mark stays. -/
def Reprieved (S : FollowSettings) (now : ℚ) (kept : Prop) (mark mark' : Option ℚ) : Prop :=
  (kept ∧ (mark = none ∧ mark' = some now ∨
    ∃ since, mark = some since ∧ now - since ≤ S.manoeuvreKeepMaxS ∧ mark' = some since)) ∨
  ¬ kept ∧ mark' = mark

theorem testKey_goesOn {sky : Sky} {before : Guard} {rec : DarkRecord}
    (loose : ∀ reading ∈ sky.filters key, S.maxVelSigmaMs < reading.velSigmaMs)
    (manoeuvring : ∀ passed ∈ (screened S sky before key rec).toOption, S.manoeuvreKeep ≤ passed.2.2.manoeuvre) :
    Reprieved S sky.nowMono (∃ target, (testKey S sky before key rec).2 = .keptManoeuvre target)
      (before.manoeuvreKeepSince.get? key) ((testKey S sky before key rec).1.manoeuvreKeepSince.get? key) := by
  unfold testKey
  split
  · exact .inr ⟨by simp, rfl⟩
  · cases found : screened S sky before key rec with
    | error why => exact .inr ⟨by simp, rfl⟩
    | ok reached =>
      obtain ⟨lat, lon, reading⟩ := reached
      have turning : S.manoeuvreKeep ≤ reading.manoeuvre := manoeuvring (lat, lon, reading) (by rw [found]; rfl)
      have read := screened_reading found
      simp only [loose reading read, if_true, manoeuvreReprieve, not_lt.mpr turning, if_false]
      by_cases past : S.manoeuvreMaxVelSigmaMs < reading.velSigmaMs
      · refine .inr ⟨by simp [past], ?_⟩
        simp [past, dropTarget_keepSince]
      · cases mark : before.manoeuvreKeepSince.get? key with
        | none => simp [Reprieved, past]
        | some since =>
          by_cases left : sky.nowMono - since ≤ S.manoeuvreKeepMaxS
          · simp only [past, if_false, left, decide_true, if_true]
            exact .inl ⟨⟨_, rfl⟩, .inr ⟨since, rfl, left, mark⟩⟩
          · refine .inr ⟨by simp [past, left], ?_⟩
            simp [past, left, mark, dropTarget_keepSince]

/-- The sweep leaves a mark that is young enough. -/
theorem sweepGuard_keepSince {guard : Guard} {now : ℚ}
    (young : ∀ since ∈ guard.manoeuvreKeepSince.get? key, now - manoeuvreKeepTtlS < since) :
    (sweepGuard guard now).manoeuvreKeepSince.get? key = guard.manoeuvreKeepSince.get? key := by
  rw [sweepGuard, Dict.get?_filter]
  cases mark : guard.manoeuvreKeepSince.get? key with
  | none => rfl
  | some since => simp [young since mark]

theorem Reprieved.congr (reprieved : Reprieved S now kept mark mark') (same : kept ↔ kept') :
    Reprieved S now kept' mark mark' := by
  unfold Reprieved at reprieved ⊢
  rwa [← same]

/-- A rebuild does to the mark of an episode what the test of its key does. -/
theorem buildTargets_goesOn {sky : Sky} {guard : Guard}
    (loose : ∀ reading ∈ sky.filters key, S.maxVelSigmaMs < reading.velSigmaMs)
    (manoeuvring : ∀ rec ∈ sky.tracks.get? key,
      ∀ passed ∈ (screened S sky guard key rec).toOption, S.manoeuvreKeep ≤ passed.2.2.manoeuvre) :
    Reprieved S sky.nowMono (∃ target, verdictOn S sky guard key = some (.keptManoeuvre target))
      (guard.manoeuvreKeepSince.get? key) ((buildTargets S sky guard).1.manoeuvreKeepSince.get? key) := by
  cases held : sky.tracks.get? key with
  | none =>
    obtain ⟨left, silent⟩ := buildTargets_absent S guard held
    rw [silent]
    exact .inr ⟨by simp, congrArg KeyGuard.keepSince left⟩
  | some rec =>
    obtain ⟨before, same, left, said⟩ := buildTargets_held S guard held
    have mark : before.manoeuvreKeepSince.get? key = guard.manoeuvreKeepSince.get? key := congrArg KeyGuard.keepSince same
    have mark' : (buildTargets S sky guard).1.manoeuvreKeepSince.get? key =
        (testKey S sky before key rec).1.manoeuvreKeepSince.get? key := congrArg KeyGuard.keepSince left
    have turning := manoeuvring rec held
    rw [← screened_congr same rec] at turning
    rw [said, ← mark, mark']
    exact (testKey_goesOn loose turning).congr (by simp only [Option.some.injEq])

theorem Follower.keeps_ask_iff (s : Follower) (mode : LaneMode) (sky : Sky) (rebuild : s.rebuilds mode sky.nowMono = true) :
    s.keeps S key (.ask mode sky) = true ↔
      ∃ target, verdictOn S sky (sweepGuard s.guard sky.nowMono) key = some (.keptManoeuvre target) := by
  rw [Follower.keeps, rebuild, Bool.true_and]
  split
  · rename_i target kept
    exact iff_of_true rfl ⟨target, kept⟩
  · rename_i other
    exact iff_of_false (by simp) fun ⟨target, kept⟩ => other target kept

theorem step_goesOn (s : Follower) (e : FollowEvent) (goes : GoesOn S key s e) :
    Reprieved S e.nowMono (s.keeps S key e = true)
      (s.guard.manoeuvreKeepSince.get? key) ((s.step S e).guard.manoeuvreKeepSince.get? key) := by
  cases e with
  | outcome other ok now => exact .inr ⟨by simp [Follower.keeps], by rw [Follower.step, recordOutcome_keepSince]⟩
  | ask mode sky =>
    cases rebuild : s.rebuilds mode sky.nowMono with
    | false =>
      refine .inr ⟨by simp [Follower.keeps, rebuild], ?_⟩
      simp only [Follower.step, followTargets, rebuild, Bool.false_eq_true, if_false]
      split
      · rfl
      · rfl
    | true =>
      have on : mode ≠ .off := by
        rintro rfl
        simp [Follower.rebuilds] at rebuild
      have built : (s.step S (.ask mode sky)).guard = (buildTargets S sky (sweepGuard s.guard sky.nowMono)).1 := by
        simp only [Follower.step, followTargets, on, rebuild, if_false, if_true]
      rw [built, ← sweepGuard_keepSince (goes.unswept rebuild)]
      exact (buildTargets_goesOn (goes.loose rebuild) (goes.manoeuvring rebuild)).congr
        (s.keeps_ask_iff mode sky rebuild).symm

/-- Only a rebuild keeps a key. -/
theorem Follower.rebuilding_of_keeps {s : Follower} (kept : s.keeps S key e = true) : s.rebuilding e = true := by
  cases e with
  | outcome => cases kept
  | ask => exact (Bool.and_eq_true_iff.mp kept).1

/-! ### Where marks come from -/

theorem testKey_keepSince (sky : Sky) (guard : Guard) (other : String) (rec : DarkRecord)
    (mark : (testKey S sky guard other rec).1.manoeuvreKeepSince.get? key = some since) :
    guard.manoeuvreKeepSince.get? key = some since ∨ since = sky.nowMono := by
  have cleared (mark : (clearManoeuvreKeep guard other).manoeuvreKeepSince.get? key = some since) :
      guard.manoeuvreKeepSince.get? key = some since :=
    (Dict.get?_filter_some mark).1
  have reprieved (level velSigmaMs : ℚ)
      (mark : (manoeuvreReprieve S guard other level velSigmaMs sky.nowMono).1.manoeuvreKeepSince.get? key = some since) :
      guard.manoeuvreKeepSince.get? key = some since ∨ since = sky.nowMono := by
    unfold manoeuvreReprieve at mark
    split at mark
    · exact .inl (cleared mark)
    · split at mark
      · exact .inl mark
      · split at mark
        · rw [Dict.get?_insert] at mark
          split at mark
          · exact .inr (Option.some.inj mark).symm
          · exact .inl mark
        · exact .inl mark
  unfold testKey at mark
  split at mark
  · exact .inl mark
  · split at mark
    · exact .inl mark
    · split at mark
      · dsimp only at mark
        split at mark
        · exact reprieved _ _ mark
        · rw [dropTarget_keepSince] at mark
          exact reprieved _ _ mark
      · exact .inl (cleared mark)

theorem testFrom_keepSince (sky : Sky) (items : List (String × DarkRecord)) (acc : Guard × List (String × Verdict))
    (mark : (testFrom S sky items acc).1.manoeuvreKeepSince.get? key = some since) :
    acc.1.manoeuvreKeepSince.get? key = some since ∨ since = sky.nowMono := by
  induction items generalizing acc with
  | nil => exact .inl mark
  | cons item rest ih =>
    rcases ih _ mark with before | new
    · exact testKey_keepSince sky acc.1 item.1 item.2 before
    · exact .inr new

theorem step_keepSince (s : Follower) (e : FollowEvent)
    (mark : (s.step S e).guard.manoeuvreKeepSince.get? key = some since) :
    s.guard.manoeuvreKeepSince.get? key = some since ∨ since = e.nowMono := by
  cases e with
  | outcome other ok now =>
    rw [Follower.step, recordOutcome_keepSince] at mark
    exact .inl mark
  | ask mode sky =>
    simp only [Follower.step, followTargets] at mark
    split at mark
    · exact .inl mark
    · split at mark
      · rcases testFrom_keepSince sky sky.tracks.items (sweepGuard s.guard sky.nowMono, []) mark with swept | new
        · exact .inl (Dict.get?_filter_some swept).1
        · exact .inr new
      · exact .inl mark

/-- A reprieve began at an event of the run. -/
theorem exists_event_of_mark (events : List FollowEvent)
    (mark : (run (Follower.step S) .start events).guard.manoeuvreKeepSince.get? key = some since) :
    ∃ e ∈ events, e.nowMono = since := by
  induction events using List.reverseRecOn with
  | nil => cases mark
  | append_singleton before e ih =>
    rw [run_append] at mark
    rcases step_keepSince (run (Follower.step S) .start before) e mark with old | new
    · obtain ⟨first, member, began⟩ := ih old
      exact ⟨first, List.mem_append_left _ member, began⟩
    · exact ⟨e, by simp, new.symm⟩

/-! ### The budget -/

/-- What has been kept of an episode by a time is time since the reprieve began, and within the budget. -/
structure Within (S : FollowSettings) (now since : ℚ) (t : Tally) : Prop where
  began : since ≤ now
  budget : t.total ≤ max 0 S.manoeuvreKeepMaxS
  elapsed : t.total ≤ now - since
  last : ∀ l ∈ t.last, t.total ≤ l - since

/-- Nothing has been kept where no reprieve has begun. -/
def Budgeted (S : FollowSettings) (key : String) (now : ℚ) (s : Follower) (t : Tally) : Prop :=
  match s.guard.manoeuvreKeepSince.get? key with
  | none => t = ⟨0, none⟩
  | some since => Within S now since t

theorem Within.kept (within : Within S now since t) (later : now ≤ now') (left : now' - since ≤ S.manoeuvreKeepMaxS) :
    Within S now' since ⟨t.total + (t.last.map fun l => now' - l).getD 0, some now'⟩ := by
  have elapsed : t.total + (t.last.map fun l => now' - l).getD 0 ≤ now' - since := by
    cases held : t.last with
    | none =>
      have passed := within.elapsed
      simp only [Option.map_none, Option.getD_none]
      linarith
    | some l =>
      have upto := within.last l held
      simp only [Option.map_some, Option.getD_some]
      linarith
  refine ⟨within.began.trans later, elapsed.trans (left.trans (le_max_right _ _)), elapsed, fun l same => ?_⟩
  obtain rfl := Option.some.inj same
  exact elapsed

theorem Within.dropped (within : Within S now since t) (later : now ≤ now') : Within S now' since ⟨t.total, none⟩ := by
  refine ⟨within.began.trans later, within.budget, ?_, fun l none => by cases none⟩
  have passed := within.elapsed
  linarith

theorem Within.unchanged (within : Within S now since t) (later : now ≤ now') : Within S now' since t := by
  refine ⟨within.began.trans later, within.budget, ?_, within.last⟩
  have passed := within.elapsed
  linarith

theorem budgeted_step (budgeted : Budgeted S key now s t) (later : now ≤ e.nowMono) (goes : GoesOn S key s e) :
    Budgeted S key e.nowMono (s.step S e) (t.step (s.rebuilding e) (s.keeps S key e) e.nowMono) := by
  unfold Budgeted at budgeted ⊢
  obtain ⟨kept, ⟨unmarked, begins⟩ | ⟨since, mark, left, stays⟩⟩ | ⟨dropped, stays⟩ := step_goesOn s e goes
  · have rebuilds := Follower.rebuilding_of_keeps kept
    rw [unmarked] at budgeted
    subst budgeted
    rw [begins]
    refine ⟨le_refl _, ?_, ?_, fun l same => ?_⟩
    · simp [Tally.step, rebuilds, kept]
    · simp [Tally.step, rebuilds, kept]
    · simp only [Tally.step, rebuilds, kept, if_true, Option.mem_def, Option.some.injEq] at same
      simp [Tally.step, rebuilds, kept, same]
  · have rebuilds := Follower.rebuilding_of_keeps kept
    rw [mark] at budgeted
    rw [stays]
    simpa only [Tally.step, rebuilds, kept, if_true] using budgeted.kept later left
  · rw [stays]
    cases mark : s.guard.manoeuvreKeepSince.get? key with
    | none =>
      rw [mark] at budgeted
      subst budgeted
      cases rebuilds : s.rebuilding e with
      | false => rfl
      | true => simp [Tally.step, dropped]
    | some since =>
      rw [mark] at budgeted
      cases rebuilds : s.rebuilding e with
      | false => exact budgeted.unchanged later
      | true => simpa [Tally.step, dropped] using budgeted.dropped later

theorem total_le_of_budgeted (budgeted : Budgeted S key now s t) : t.total ≤ max 0 S.manoeuvreKeepMaxS := by
  unfold Budgeted at budgeted
  split at budgeted
  · subst budgeted
    exact le_max_left _ _
  · exact budgeted.budget

/-- The budget holds to the end of a stretch in which the episode goes on. -/
theorem total_le_of_goesOn (stretch : List FollowEvent) (budgeted : Budgeted S key now s t)
    (clock : (stretch.map FollowEvent.nowMono).Pairwise (· ≤ ·)) (later : ∀ e ∈ stretch, now ≤ e.nowMono)
    (goes : Along (Follower.step S) (GoesOn S key) s stretch) :
    (run (tallyStep S key) (s, t) stretch).2.total ≤ max 0 S.manoeuvreKeepMaxS := by
  induction stretch generalizing now s t with
  | nil => exact total_le_of_budgeted budgeted
  | cons e rest ih =>
    obtain ⟨first, clock⟩ := List.pairwise_cons.mp clock
    have after : ∀ e' ∈ rest, e.nowMono ≤ e'.nowMono := fun e' member => first _ (List.mem_map_of_mem member)
    exact ih (budgeted_step budgeted (later e (by simp)) goes.1) clock after goes.2

/-- In every run with a clock that does not go back, and every stretch of it in which the
sigma of a key stays over the ceiling, no test finds the key to have stopped manoeuvring and no
sweep takes its mark, the reprieve keeps the key for its budget at most, whatever drops,
cooldowns and returns lie in between. -/
theorem reprieve_within_budget (S : FollowSettings) (key : String) (before stretch : List FollowEvent)
    (clock : ((before ++ stretch).map FollowEvent.nowMono).Pairwise (· ≤ ·))
    (goes : Along (Follower.step S) (GoesOn S key) (run (Follower.step S) .start before) stretch) :
    keptTime S key (run (Follower.step S) .start before) stretch ≤ max 0 S.manoeuvreKeepMaxS := by
  cases stretch with
  | nil => exact le_max_left _ _
  | cons e rest =>
    rw [List.map_append, List.pairwise_append] at clock
    obtain ⟨-, onwards, since_before⟩ := clock
    have initial : Budgeted S key e.nowMono (run (Follower.step S) .start before) ⟨0, none⟩ := by
      unfold Budgeted
      split
      · rfl
      · rename_i since mark
        obtain ⟨first, member, rfl⟩ := exists_event_of_mark before mark
        have began : first.nowMono ≤ e.nowMono := since_before _ (List.mem_map_of_mem member) _ (by simp)
        exact ⟨began, le_max_left _ _, sub_nonneg.mpr began, fun l none => by cases none⟩
    refine total_le_of_goesOn (e :: rest) initial onwards ?_ goes
    intro e' member
    rcases List.mem_cons.mp member with rfl | later
    · exact le_refl _
    · exact (List.pairwise_cons.mp onwards).1 _ (List.mem_map_of_mem later)

/-! ### Runs on fixed inputs -/

/-- A rebuild at a time of the clock, with one key whose sigma is over the ceiling. -/
def turning (t : ℤ) (level : ℚ) : FollowEvent :=
  .ask .binding {
    nowS := t
    nowMono := t
    tracks := Dict.empty.insert "mn-dark-1"
      { lat := some 50, lon := some 14, timestampMs := t * 1000, altM := none, velEast := none, velNorth := none, nNodes := 3,
        solveCount := 3 }
    filters := fun _ => some ⟨0, 0, 200, 0, level⟩
    nodeWorld := fun _ => .real }

theorem reprieve_in_one_turn :
    keptTime {} "mn-dark-1" .start [turning 1000 (1 / 2), turning 1020 (1 / 2), turning 1040 (1 / 2)] ≤ max 0 30 :=
  reprieve_within_budget {} "mn-dark-1" [] [turning 1000 (1 / 2), turning 1020 (1 / 2), turning 1040 (1 / 2)]
    (by decide +kernel) (by decide +kernel)

/-- The manoeuvre level falls and rises again while the sigma stays over the ceiling. -/
def dipping : List FollowEvent :=
  [turning 1000 (1 / 2), turning 1010 (1 / 2), turning 1025 (1 / 2), turning 1026 (1 / 5),
    turning 1057 (1 / 2), turning 1070 (1 / 2), turning 1080 (1 / 2)]

theorem falling_level_renews :
    ¬ ((dipping.map FollowEvent.nowMono).Pairwise (· ≤ ·) →
        Along (Follower.step {}) (fun s e => SigmaOver {} s "mn-dark-1" e) .start dipping →
          keptTime {} "mn-dark-1" .start dipping ≤ max 0 30) := by
  intro bounded
  have total := bounded (by decide +kernel) (by decide +kernel)
  revert total
  decide +kernel

end Retina.DarkFollow
