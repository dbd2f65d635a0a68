import RetinaServer.Frames.Frame
import RetinaServer.Library.Runs

/-! The shared cache of ADS-B records. Any number of threads store in it, each
reading the record held and writing its own in two steps, and a pruner takes a
snapshot and then removes one by one what was stale in it. -/
namespace Retina.Frames
open Runs

/-- A call of `adsb_store` that has passed its check, with the record it read. -/
inductive StoreCall where
  | idle
  | passed (hexCode : String) (rec : AdsbRecord) (existing : Option AdsbRecord)

/-- A call of `prune_stale_stores`: its clock, and what it is still to pop, as the snapshot had it. -/
inductive PruneCall where
  | idle
  | popping (now : ℚ) (staleAdsb : List (String × AdsbRecord))

structure AdsbCache (τ π : Type) where
  adsbAircraft : AdsbStore
  stores : τ → StoreCall
  prunes : π → PruneCall

inductive CacheStep (τ π : Type) where
  | get (t : τ) (hexCode : String) (rec : AdsbRecord)
  | set (t : τ)
  | scan (p : π) (now : ℚ)
  | pop (p : π)

def adsbStaleS : ℚ := 60

/-- `age_s > 60`. -/
def StaleAdsb (now : ℚ) (rec : AdsbRecord) : Prop := adsbStaleS < now - rec.lastSeenMs / 1000

instance (now : ℚ) (rec : AdsbRecord) : Decidable (StaleAdsb now rec) := inferInstanceAs (Decidable (_ < _))

/-- The check of `adsb_store`: the record held is the newer. -/
def newerHeld (existing : Option AdsbRecord) (rec : AdsbRecord) : Bool :=
  existing.any fun held => decide (rec.lastSeenMs < held.lastSeenMs)

namespace AdsbCache
variable {τ π : Type} [DecidableEq τ] [DecidableEq π]

def empty : AdsbCache τ π := ⟨Dict.empty, fun _ => .idle, fun _ => .idle⟩

/-- A call begins where its thread is idle; one whose check fails answers False. -/
def step (s : AdsbCache τ π) : CacheStep τ π → AdsbCache τ π
  | .get t hexCode rec => match s.stores t with
      | .idle =>
          let existing := s.adsbAircraft.get? hexCode
          if newerHeld existing rec then s
          else { s with stores := Function.update s.stores t (.passed hexCode rec existing) }
      | .passed _ _ _ => s
  | .set t => match s.stores t with
      | .idle => s
      | .passed hexCode rec _ =>
          { s with
            adsbAircraft := s.adsbAircraft.insert hexCode rec
            stores := Function.update s.stores t .idle }
  | .scan p now => match s.prunes p with
      | .idle =>
          let staleAdsb := s.adsbAircraft.items.filter fun item => decide (StaleAdsb now item.2)
          { s with prunes := Function.update s.prunes p (.popping now staleAdsb) }
      | .popping _ _ => s
  | .pop p => match s.prunes p with
      | .idle => s
      | .popping _ [] => { s with prunes := Function.update s.prunes p .idle }
      | .popping now ((hexCode, _) :: rest) =>
          { s with
            adsbAircraft := s.adsbAircraft.erase hexCode
            prunes := Function.update s.prunes p (.popping now rest) }

/-- While a hex is present its stamp does not go back. -/
def StampsKept (s : AdsbCache τ π) (e : CacheStep τ π) : Prop :=
  ∀ hexCode held held', s.adsbAircraft.get? hexCode = some held →
    (s.step e).adsbAircraft.get? hexCode = some held' → held.lastSeenMs ≤ held'.lastSeenMs

/-- The record that a pop removes, with the pruner's clock. -/
def popped (s : AdsbCache τ π) : CacheStep τ π → Option (String × AdsbRecord × ℚ)
  | .pop p => match s.prunes p with
      | .popping now ((hexCode, _) :: _) => (s.adsbAircraft.get? hexCode).map fun rec => (hexCode, rec, now)
      | _ => none
  | _ => none

/-- What a pop removes is older than the limit. -/
def PopsStale (s : AdsbCache τ π) (e : CacheStep τ π) : Prop :=
  ∀ hexCode rec now, s.popped e = some (hexCode, rec, now) → StaleAdsb now rec

/-- What a call that answers True stores. -/
def returned (s : AdsbCache τ π) : CacheStep τ π → Option (String × AdsbRecord)
  | .set t => match s.stores t with
      | .passed hexCode rec _ => some (hexCode, rec)
      | .idle => none
  | _ => none

/-- From `s` on, the cache holds `rec` or a newer one, until one such is popped for its age. -/
def KeptUntilStale (hexCode : String) (rec : AdsbRecord) (s : AdsbCache τ π) (later : List (CacheStep τ π)) : Prop :=
  (∃ held, (run step s later).adsbAircraft.get? hexCode = some held ∧ rec.lastSeenMs ≤ held.lastSeenMs) ∨
    ∃ between e rest held now, later = between ++ e :: rest ∧
      (run step s between).popped e = some (hexCode, held, now) ∧ rec.lastSeenMs ≤ held.lastSeenMs ∧ StaleAdsb now held

/-- Nothing comes between a call's read and its write that the check would have
refused it for, nor between a scan and a pop that the scan would have spared. -/
def Undisturbed (s : AdsbCache τ π) : CacheStep τ π → Prop
  | .set t => match s.stores t with
      | .passed hexCode rec existing => ∀ held, s.adsbAircraft.get? hexCode = some held → existing ≠ some held →
          held.lastSeenMs ≤ rec.lastSeenMs
      | .idle => True
  | .pop p => match s.prunes p with
      | .popping now ((hexCode, seen) :: _) => ∀ held, s.adsbAircraft.get? hexCode = some held → held ≠ seen →
          StaleAdsb now held
      | _ => True
  | _ => True

/-- A call holds a read that let it pass, a pruner records that were stale. -/
structure Sound (s : AdsbCache τ π) : Prop where
  stores : ∀ t hexCode rec existing, s.stores t = .passed hexCode rec existing →
    ∀ held, existing = some held → held.lastSeenMs ≤ rec.lastSeenMs
  prunes : ∀ p now staleAdsb, s.prunes p = .popping now staleAdsb → ∀ item ∈ staleAdsb, StaleAdsb now item.2

/-- Uninterrupted, a call is `adsb_store` as the frame path runs it. -/
theorem get_set (s : AdsbCache τ π) (idle : s.stores t = .idle) (hexCode : String) (rec : AdsbRecord) :
    ((s.step (.get t hexCode rec)).step (.set t)).adsbAircraft = adsbStore s.adsbAircraft hexCode rec := by
  simp only [step, idle, adsbStore]
  by_cases newer : newerHeld (s.adsbAircraft.get? hexCode) rec = true
  · rw [if_pos newer]
    simp only [newerHeld] at newer
    simp only [idle, newer, if_true]
  · rw [if_neg newer]
    simp only [newerHeld] at newer
    simp [newer]

omit [DecidableEq τ] [DecidableEq π] in
theorem sound_empty : Sound (empty : AdsbCache τ π) where
  stores := by rintro _ _ _ _ ⟨⟩
  prunes := by rintro _ _ _ ⟨⟩

omit [DecidableEq π] in
theorem sound_store {s : AdsbCache τ π} (sound : Sound s) (t : τ) {call : StoreCall}
    (passed : ∀ hexCode rec existing, call = .passed hexCode rec existing →
      ∀ held, existing = some held → held.lastSeenMs ≤ rec.lastSeenMs) (store : AdsbStore) :
    Sound { s with adsbAircraft := store, stores := Function.update s.stores t call } := by
  refine { sound with stores := fun t' hexCode rec existing held => ?_ }
  by_cases same : t' = t
  · subst same
    exact passed hexCode rec existing (by simpa using held)
  · exact sound.stores t' hexCode rec existing (by simpa [same] using held)

omit [DecidableEq τ] in
theorem sound_prune {s : AdsbCache τ π} (sound : Sound s) (p : π) {call : PruneCall}
    (stale : ∀ now staleAdsb, call = .popping now staleAdsb → ∀ item ∈ staleAdsb, StaleAdsb now item.2)
    (store : AdsbStore) : Sound { s with adsbAircraft := store, prunes := Function.update s.prunes p call } := by
  refine { sound with prunes := fun p' now staleAdsb held => ?_ }
  by_cases same : p' = p
  · subst same
    exact stale now staleAdsb (by simpa using held)
  · exact sound.prunes p' now staleAdsb (by simpa [same] using held)

theorem sound_step {s : AdsbCache τ π} (sound : Sound s) (e : CacheStep τ π) : Sound (s.step e) := by
  cases e with
  | get t hexCode rec =>
    simp only [step]
    split
    · split
      · exact sound
      · rename_i older
        refine sound_store sound t ?_ s.adsbAircraft
        rintro _ _ _ ⟨⟩ held found
        rw [found] at older
        simpa [newerHeld] using older
    · exact sound
  | set t =>
    simp only [step]
    split
    · exact sound
    · exact sound_store sound t (by rintro _ _ _ ⟨⟩) _
  | scan p now =>
    simp only [step]
    split
    · refine sound_prune sound p ?_ s.adsbAircraft
      rintro _ _ ⟨⟩ item member
      exact of_decide_eq_true (List.mem_filter.mp member).2
    · exact sound
  | pop p =>
    simp only [step]
    split
    · exact sound
    · exact sound_prune sound p (by rintro _ _ ⟨⟩) s.adsbAircraft
    · rename_i now hexCode seen rest held
      refine sound_prune sound p ?_ _
      rintro _ _ ⟨⟩ item member
      exact sound.prunes p now _ held item (List.mem_cons_of_mem _ member)

/-- A step that leaves the records alone. -/
theorem stampsKept_of_same {s : AdsbCache τ π} {e : CacheStep τ π} (same : (s.step e).adsbAircraft = s.adsbAircraft) :
    s.StampsKept e := by
  intro hexCode held held' before after
  rw [same] at after
  exact (Option.some.inj (before.symm.trans after)) ▸ le_rfl

theorem stampsKept_set {s : AdsbCache τ π} {rec : AdsbRecord} (call : s.stores t = .passed hexCode rec existing) :
    s.StampsKept (.set t) ↔ ∀ held, s.adsbAircraft.get? hexCode = some held → held.lastSeenMs ≤ rec.lastSeenMs := by
  have stored : (s.step (.set t)).adsbAircraft = s.adsbAircraft.insert hexCode rec := by simp only [step, call]
  constructor
  · intro kept held before
    exact kept hexCode held rec before (by rw [stored, Dict.get?_insert_self])
  · intro older hexCode' held held' before after
    rw [stored, Dict.get?_insert] at after
    split at after
    · rename_i same
      subst same
      exact Option.some.inj after ▸ older held before
    · exact (Option.some.inj (before.symm.trans after)) ▸ le_rfl

/-- A pop takes records away and changes none. -/
theorem stampsKept_pop (s : AdsbCache τ π) (p : π) : s.StampsKept (.pop p) := by
  cases call : s.prunes p with
  | idle => exact stampsKept_of_same (by simp only [step, call])
  | popping now staleAdsb =>
    cases staleAdsb with
    | nil => exact stampsKept_of_same (by simp only [step, call])
    | cons item rest =>
      intro hexCode held held' before after
      simp only [step, call] at after
      have kept := (Dict.get?_filter_some after).1
      exact (Option.some.inj (before.symm.trans kept)) ▸ le_rfl

theorem undisturbed_iff {s : AdsbCache τ π} (sound : Sound s) (e : CacheStep τ π) :
    s.Undisturbed e ↔ s.StampsKept e ∧ s.PopsStale e := by
  cases e with
  | get t hexCode rec =>
    refine iff_of_true trivial ⟨stampsKept_of_same ?_, by rintro _ _ _ ⟨⟩⟩
    simp only [step]
    split
    · split <;> rfl
    · rfl
  | scan p now =>
    refine iff_of_true trivial ⟨stampsKept_of_same ?_, by rintro _ _ _ ⟨⟩⟩
    simp only [step]
    split <;> rfl
  | set t =>
    cases call : s.stores t with
    | idle =>
      refine iff_of_true ?_ ⟨stampsKept_of_same (by simp only [step, call]), by rintro _ _ _ ⟨⟩⟩
      simp only [Undisturbed, call]
    | passed hexCode rec existing =>
      have unpopped : s.PopsStale (.set t) := by rintro _ _ _ ⟨⟩
      rw [stampsKept_set call, and_iff_left unpopped]
      simp only [Undisturbed, call]
      constructor
      · intro undisturbed held present
        by_cases seen : existing = some held
        · exact sound.stores t hexCode rec existing call held seen
        · exact undisturbed held present seen
      · exact fun older held present _ => older held present
  | pop p =>
    rw [and_iff_right (stampsKept_pop s p)]
    cases call : s.prunes p with
    | idle => simp [Undisturbed, PopsStale, popped, call]
    | popping now staleAdsb =>
      cases staleAdsb with
      | nil => simp [Undisturbed, PopsStale, popped, call]
      | cons item rest =>
        obtain ⟨hexCode, seen⟩ := item
        simp only [Undisturbed, PopsStale, popped, call, Option.map_eq_some_iff, Prod.mk.injEq]
        constructor
        · rintro undisturbed _ rec _ ⟨held, present, rfl, rfl, rfl⟩
          by_cases same : held = seen
          · exact same ▸ sound.prunes p now _ call (hexCode, seen) List.mem_cons_self
          · exact undisturbed held present same
        · exact fun stale held present _ => stale hexCode held now ⟨held, present, rfl, rfl, rfl⟩

/-- Nothing but a pop makes a hex absent. -/
theorem popped_of_absent {s : AdsbCache τ π} {e : CacheStep τ π} (present : s.adsbAircraft.get? hexCode = some held)
    (absent : (s.step e).adsbAircraft.get? hexCode = none) : ∃ now, s.popped e = some (hexCode, held, now) := by
  cases e with
  | get t hexCode' rec =>
    simp only [step] at absent
    split at absent
    · split at absent <;> simp [present] at absent
    · simp [present] at absent
  | set t =>
    simp only [step] at absent
    split at absent
    · simp [present] at absent
    · rw [Dict.get?_insert] at absent
      split at absent
      · cases absent
      · simp [present] at absent
  | scan p now =>
    simp only [step] at absent
    split at absent <;> simp [present] at absent
  | pop p =>
    simp only [step] at absent
    split at absent
    · simp [present] at absent
    · simp [present] at absent
    · rename_i now hexCode' seen rest call
      by_cases same : hexCode' = hexCode
      · subst same
        exact ⟨now, by simp only [popped, call, present, Option.map_some]⟩
      · simp [Dict.get?_erase_ne _ same, present] at absent

/-- The step lemma run along: a record is kept, or replaced by newer ones, until it is popped for its age. -/
theorem keptUntilStale {s : AdsbCache τ π} {later : List (CacheStep τ π)} (rec : AdsbRecord)
    (present : s.adsbAircraft.get? hexCode = some held) (newer : rec.lastSeenMs ≤ held.lastSeenMs)
    (kept : Along step (fun s e => s.StampsKept e ∧ s.PopsStale e) s later) : KeptUntilStale hexCode rec s later := by
  induction later generalizing s held with
  | nil => exact .inl ⟨held, present, newer⟩
  | cons e rest ih =>
    obtain ⟨⟨stamps, pops⟩, others⟩ := kept
    cases after : (s.step e).adsbAircraft.get? hexCode with
    | none =>
      obtain ⟨now, removed⟩ := popped_of_absent present after
      exact .inr ⟨[], e, rest, held, now, rfl, removed, newer, pops hexCode held now removed⟩
    | some held' =>
      rcases ih after (newer.trans (stamps hexCode held held' present after)) others with
        stands | ⟨between, e', rest', gone, now, rfl, removed⟩
      · exact .inl stands
      · exact .inr ⟨e :: between, e', rest', gone, now, rfl, removed⟩

/-- Along every interleaving stamps do not go back, what a call has stored or a
newer record stays until it is popped for its age, and a pop removes only what
is stale, exactly where no call and no pruner is disturbed. -/
theorem cache_never_walks_back_iff (events : List (CacheStep τ π)) :
    (Along step StampsKept (empty : AdsbCache τ π) events ∧
      (∀ before e later hexCode rec, events = before ++ e :: later →
        (run step (empty : AdsbCache τ π) before).returned e = some (hexCode, rec) →
          ∀ soon rest, later = soon ++ rest →
            KeptUntilStale hexCode rec (run step (empty : AdsbCache τ π) (before ++ [e])) soon) ∧
      Along step PopsStale (empty : AdsbCache τ π) events) ↔
    Along step Undisturbed (empty : AdsbCache τ π) events := by
  have preserved : ∀ (s : AdsbCache τ π) e, Sound s → Sound (s.step e) := fun s e sound => sound_step sound e
  rw [along_congr preserved (fun s e sound => undisturbed_iff sound e) sound_empty events]
  constructor
  · rintro ⟨stamps, -, pops⟩
    exact (along_and _ _ _ _ _).mpr ⟨stamps, pops⟩
  · intro both
    obtain ⟨stamps, pops⟩ := (along_and _ _ _ _ _).mp both
    refine ⟨stamps, ?_, pops⟩
    rintro before e later hexCode rec rfl stored soon rest rfl
    have present : (run step (empty : AdsbCache τ π) (before ++ [e])).adsbAircraft.get? hexCode = some rec := by
      rw [run_append, run_cons, run_nil]
      cases e with
      | set t =>
        cases call : (run step (empty : AdsbCache τ π) before).stores t with
        | idle => simp [returned, call] at stored
        | passed hexCode' rec' existing =>
          simp only [returned, call, Option.some.injEq, Prod.mk.injEq] at stored
          obtain ⟨rfl, rfl⟩ := stored
          simp [step, call]
      | get _ _ _ | scan _ _ | pop _ => cases stored
    have split : before ++ e :: (soon ++ rest) = (before ++ [e]) ++ (soon ++ rest) := by simp
    have after := ((along_append _ _ _ (before ++ [e]) (soon ++ rest)).mp (split ▸ both)).2
    exact keptUntilStale rec present le_rfl ((along_append _ _ _ soon rest).mp after).1

end AdsbCache

/-- One aircraft's record, as far as its stamp goes. -/
def stampedAt (lastSeenMs : ℤ) : AdsbRecord :=
  ⟨"a1b2c3", "", 1, 1, .num 0, .num 0, .num 0, lastSeenMs, none, none, 0, 0, 0⟩

/-- A worker with a backlogged frame reads before, and writes after, the event loop stores a newer fix. -/
def overtaken : List (CacheStep Bool (Fin 1)) :=
  [.get false "a1b2c3" (stampedAt 1000), .get true "a1b2c3" (stampedAt 200000), .set true, .set false]

/-- A fix comes in between the pruner's scan and its pop. -/
def refreshed : List (CacheStep Bool (Fin 1)) :=
  [.get false "a1b2c3" (stampedAt 1000), .set false, .scan 0 200, .get false "a1b2c3" (stampedAt 199000), .set false,
    .pop 0]

theorem cache_walked_back :
    ((run AdsbCache.step .empty (overtaken.take 3)).adsbAircraft.get? "a1b2c3").map AdsbRecord.lastSeenMs = some 200000 ∧
      ((run AdsbCache.step .empty overtaken).adsbAircraft.get? "a1b2c3").map AdsbRecord.lastSeenMs = some 1000 ∧
      (run AdsbCache.step .empty (refreshed.take 5)).popped (.pop 0) = some ("a1b2c3", stampedAt 199000, 200) ∧
      ¬ StaleAdsb 200 (stampedAt 199000) := by
  decide +kernel

end Retina.Frames
