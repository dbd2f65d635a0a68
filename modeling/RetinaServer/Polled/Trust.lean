import RetinaServer.Library.Runs
import RetinaServer.Polled.Transactions

/-! What the transactions make of a radar's epoch and trust, one by one and over a run of them. -/
namespace Retina.Polled.Trust
open Runs

/-! ### What a transaction makes of the radars -/

/-- The radar is what it was. -/
structure Carries (radar radar' : PolledRadar) : Prop where
  epoch : radar'.epoch = radar.epoch
  endpointKey : radar'.endpointKey = radar.endpointKey
  fingerprint : radar'.configFingerprint = radar.configFingerprint
  trustState : radar'.trustState = radar.trustState

/-- A new epoch begins, on probation. -/
structure Restarts (radar radar' : PolledRadar) : Prop where
  epoch : radar'.epoch = radar.epoch + 1
  trustState : radar'.trustState = .probation

/-- What an event writes over a radar. -/
inductive Written {γ δ : Type} (e : Event γ δ) (nodeId : String) (radar : PolledRadar) : PolledRadar → Prop where
  | carried (carries : Carries radar radar') : Written e nodeId radar radar'
  | trusted (decided : e = .setTrust nodeId trustState radar.epoch actor) (new : radar.trustState ≠ trustState) :
      Written e nodeId radar { radar with trustState }
  | restarted (restarts : Restarts radar radar') : Written e nodeId radar radar'

inductive Effect {γ δ : Type} (e : Event γ δ) (db db' : Tables γ) : Prop where
  | aside (radars : db'.radars = db.radars)
  | written (found : db.radars.get? nodeId = some radar) (radars : db'.radars = db.radars.insert nodeId radar')
      (how : Written e nodeId radar radar')
  | registered (fresh : db.nodes.get? nodeId = none) (unpolled : db.radars.get? nodeId = none)
      (radars : db'.radars = db.radars.insert nodeId radar') (known : db'.nodes.get? nodeId ≠ none)
      (probation : radar'.trustState = .probation)
  | retired (nodeId : String) (radars : db'.radars = db.radars.erase nodeId)

/-- A node stays. -/
def NodesStay {γ : Type} (db db' : Tables γ) : Prop := ∀ n, db'.nodes.get? n = none → db.nodes.get? n = none

theorem carries_readdressed {δ : Type} (radar : PolledRadar) (epoch : ℤ) (probe : Probe δ) (unprotected : Bool) (now : ℚ) :
    Carries radar (radar.readdressed epoch probe unprotected false now) :=
  ⟨rfl, rfl, rfl, rfl⟩

theorem restarts_readdressed {δ : Type} {radar : PolledRadar} (read : radar.epoch = epoch) (probe : Probe δ)
    (unprotected : Bool) (now : ℚ) : Restarts radar (radar.readdressed epoch probe unprotected true now) :=
  ⟨congrArg (· + 1) read.symm, rfl⟩

section
variable {γ δ : Type} [DecidableEq γ] {probedConfig : δ → γ → Option γ}

theorem filter_epoch {radars : Dict String PolledRadar} {epoch : ℤ}
    (met : (radars.get? nodeId).filter (fun radar => decide (radar.epoch = epoch)) = some radar) :
    radars.get? nodeId = some radar ∧ radar.epoch = epoch := by
  rw [Option.filter_eq_some_iff, decide_eq_true_eq] at met
  exact met

omit [DecidableEq γ] in
theorem setTrust_cases (nodeId : String) (trustState : TrustState) (epoch : ℤ) (actor : String) (s : Session (Tables γ)) :
    (∃ answer, (setTrust nodeId trustState epoch actor).run s = (answer, s)) ∨
    ∃ radar nodeEvents, s.working.radars.get? nodeId = some radar ∧ radar.epoch = epoch ∧ radar.trustState ≠ trustState ∧
      (setTrust nodeId trustState epoch actor).run s =
        (.ok (), { s with working :=
          { s.working with radars := s.working.radars.insert nodeId { radar with trustState }, nodeEvents } }) := by
  rw [setTrust, Transaction.run_bind]
  cases met : (s.working.radars.get? nodeId).filter
      fun radar => decide (radar.epoch = epoch ∧ radar.trustState ≠ trustState) with
  | none =>
    refine .inl ?_
    rw [run_updateRadar_missed _ met]
    simp only [Nat.zero_ne_one, if_false, Transaction.run_bind_query]
    cases s.working.radars.get? nodeId with
    | none => exact ⟨_, rfl⟩
    | some radar =>
      dsimp only
      split
      · exact ⟨_, rfl⟩
      · exact ⟨_, rfl⟩
  | some radar =>
    refine .inr ?_
    rw [run_updateRadar_met met rfl]
    rw [Option.filter_eq_some_iff, decide_eq_true_eq] at met
    exact ⟨radar, _, met.1, met.2.1, met.2.2, rfl⟩

omit [DecidableEq γ] in
/-- The poller's writes that only record something. -/
theorem effect_recorded (e : Event γ δ) (target : Target) {values : PolledRadar → PolledRadar}
    (carries : ∀ radar, Carries radar (values radar)) (db : Tables γ) :
    Effect e db ((recordAtEpoch target values).perform db).2 ∧
      NodesStay db ((recordAtEpoch target values).perform db).2 := by
  simp only [recordAtEpoch, Transaction.perform]
  cases met : (db.radars.get? target.nodeId).filter fun radar => decide (radar.epoch = target.epoch) with
  | none =>
    rw [Transaction.run_bind_ok _ (run_updateRadar_missed _ met)]
    exact ⟨.aside rfl, fun _ => id⟩
  | some radar =>
    rw [Transaction.run_bind_ok _ (run_updateRadar_met met (carries radar).endpointKey)]
    exact ⟨.written (filter_epoch met).1 rfl (.carried (carries radar)), fun _ => id⟩

/-- How the poller's check comes to its guarded write: the version is taken, and the session goes on with the radar
missed or written. -/
theorem run_upsert_atEpoch (target : Target) (adopted : γ) (reads : Reads γ) {values : PolledRadar → PolledRadar}
    (keyed : ∀ radar, (values radar).endpointKey = radar.endpointKey)
    (next : ℤ → Nat → Transaction (Tables γ) Raised Verdict) (db : Tables γ) :
    let checked : Transaction (Tables γ) Raised Verdict := do
      let version ← upsertConfig target.nodeId adopted reads.held reads.highest
      let rowcount ← updateRadar target.nodeId (fun radar => decide (radar.epoch = target.epoch)) values
      next version rowcount
    (∃ s, checked.run ⟨db, db⟩ = (.error .integrityError, s) ∧ s.committed = db) ∨
    ∃ version configs, checked.run ⟨db, db⟩ = (next version 0).run ⟨db, { db with configs }⟩ ∨
      ∃ radar, db.radars.get? target.nodeId = some radar ∧ radar.epoch = target.epoch ∧
        checked.run ⟨db, db⟩ =
          (next version 1).run ⟨db, { db with configs, radars := db.radars.insert target.nodeId (values radar) }⟩ := by
  intro checked
  rcases upsertConfig_cases target.nodeId adopted reads.held reads.highest ⟨db, db⟩ with
    ⟨s, raised, kept⟩ | ⟨version, configs, wrote⟩
  · exact .inl ⟨s, Transaction.run_bind_error _ raised, kept⟩
  · refine .inr ⟨version, configs, ?_⟩
    simp only [checked]
    rw [Transaction.run_bind_ok _ wrote]
    cases met : (db.radars.get? target.nodeId).filter fun radar => decide (radar.epoch = target.epoch) with
    | none => exact .inl (Transaction.run_bind_ok _ (run_updateRadar_missed _ met))
    | some radar =>
      obtain ⟨found, at_⟩ := filter_epoch met
      exact .inr ⟨radar, found, at_, Transaction.run_bind_ok _ (run_updateRadar_met met (keyed radar))⟩

theorem sameEpoch_cases (target : Target) (config : δ) (reads : Reads γ) (now : ℚ) (db : Tables γ) :
    (∃ answer, (sameEpoch probedConfig target config reads now).perform db = (answer, db)) ∨
    ∃ radar verdict nodes configs, db.radars.get? target.nodeId = some radar ∧ radar.epoch = target.epoch ∧
      (∀ n, nodes.get? n = none ↔ db.nodes.get? n = none) ∧
      (sameEpoch probedConfig target config reads now).perform db =
        (.ok verdict, { db with
          nodes, configs, radars := db.radars.insert target.nodeId { radar with lastConfigAt := some now } }) := by
  rw [sameEpoch]
  cases reads.active with
  | none => exact .inl ⟨_, rfl⟩
  | some active =>
    dsimp only
    cases probedConfig config active.fields with
    | none => exact .inl ⟨_, rfl⟩
    | some adopted =>
      have keyed : ∀ radar : PolledRadar, { radar with lastConfigAt := some now }.endpointKey = radar.endpointKey :=
        fun _ => rfl
      simp only [Transaction.perform]
      rcases run_upsert_atEpoch target adopted reads keyed _ db with
        ⟨s, ran, kept⟩ | ⟨version, configs, ran | ⟨radar, found, at_, ran⟩⟩
      · rw [ran]
        exact .inl ⟨_, congrArg (Prod.mk _) kept⟩
      · rw [ran]
        exact .inl ⟨_, rfl⟩
      · rw [ran]
        simp only [ne_eq, not_true_eq_false, if_false]
        split
        · exact .inr ⟨radar, _, db.nodes, configs, found, at_, fun _ => Iff.rfl, rfl⟩
        · obtain ⟨nodes, wrote, stay⟩ := run_updateNode target.nodeId
            (fun node => { node with activeConfigVersion := some version }) ⟨db, { db with configs, radars := _ }⟩
          rw [Transaction.run_bind_ok _ wrote]
          exact .inr ⟨radar, _, nodes, configs, found, at_, stay, rfl⟩

theorem nextEpoch_cases (target : Target) (probe : Probe δ) (reads : Reads γ) (now : ℚ) (db : Tables γ) :
    (∃ answer, (nextEpoch probedConfig target probe reads now).perform db = (answer, db)) ∨
    ∃ radar radar' nodes configs, db.radars.get? target.nodeId = some radar ∧ radar.epoch = target.epoch ∧
      Restarts radar radar' ∧ (∀ n, nodes.get? n = none ↔ db.nodes.get? n = none) ∧
      (nextEpoch probedConfig target probe reads now).perform db =
        (.ok .superseded, { db with nodes, configs, radars := db.radars.insert target.nodeId radar' }) := by
  rw [nextEpoch]
  cases reads.active with
  | none => exact .inl ⟨_, rfl⟩
  | some active =>
    dsimp only
    cases probedConfig probe.config active.fields with
    | none => exact .inl ⟨_, rfl⟩
    | some adopted =>
      have keyed : ∀ radar : PolledRadar,
          { radar with
            epoch := target.epoch + 1, trustState := .probation, configFingerprint := probe.configFingerprint
            probePassedAt := now, lastResolvedIp := probe.address, resolvedAt := some now
            lastConfigAt := some now }.endpointKey = radar.endpointKey :=
        fun _ => rfl
      simp only [Transaction.perform]
      rcases run_upsert_atEpoch target adopted reads keyed _ db with
        ⟨s, ran, kept⟩ | ⟨version, configs, ran | ⟨radar, found, at_, ran⟩⟩
      · rw [ran]
        exact .inl ⟨_, congrArg (Prod.mk _) kept⟩
      · rw [ran]
        exact .inl ⟨_, rfl⟩
      · rw [ran]
        simp only [ne_eq, not_true_eq_false, if_false]
        obtain ⟨nodes, wrote, stay⟩ := run_updateNode target.nodeId
          (fun node => { node with activeConfigVersion := some version }) ⟨db, { db with configs, radars := _ }⟩
        rw [Transaction.run_bind_ok _ wrote]
        exact .inr ⟨radar, _, nodes, configs, found, at_, ⟨congrArg (· + 1) at_.symm, rfl⟩, stay, rfl⟩

/-- Where another address is taken, it is written over the epoch that was read. -/
theorem run_setPolledRadarAddress {s : Session (Tables γ)}
    (answered : (setPolledRadarAddress probedConfig nodeId epoch oldKey probe unprotected changedBy now).run s = (.ok moved, s')) :
    ∃ radar moved', s.working.radars.get? nodeId = some radar ∧ radar.epoch = epoch ∧
      s'.working.radars = s.working.radars.insert nodeId (radar.readdressed epoch probe unprotected moved' now) ∧
      ∀ n, s'.working.nodes.get? n = none ↔ s.working.nodes.get? n = none := by
  rw [setPolledRadarAddress, Transaction.run_nested_eq_ok, Transaction.run_bind_eq_ok] at answered
  obtain ⟨rowcount, s₁, updated, answered⟩ := answered
  rcases updateRadar_cases (s := s) nodeId (fun radar => decide (radar.epoch = epoch)) fun radar =>
      radar.readdressed epoch probe unprotected (decide (probe.endpointKey ≠ oldKey)) now with
    ⟨-, ran⟩ | ran | ⟨radar, met, ran⟩
  · cases ran.symm.trans updated
    cases answered
  · cases ran.symm.trans updated
  · cases ran.symm.trans updated
    obtain ⟨found, at_⟩ := filter_epoch met
    refine ⟨radar, decide (probe.endpointKey ≠ oldKey), found, at_, ?_⟩
    simp only [ne_eq, not_true_eq_false, if_false] at answered
    split at answered
    · rw [Transaction.run_bind_query] at answered
      split at answered
      · cases answered
      · split at answered
        · cases answered
        · rw [Transaction.run_bind_query, Transaction.run_bind_eq_ok] at answered
          obtain ⟨version, s₂, upserted, answered⟩ := answered
          obtain ⟨configs, rfl⟩ := run_upsertConfig_ok upserted
          obtain ⟨nodes, wrote, stay⟩ := run_updateNode nodeId
            (fun node => { node with activeConfigVersion := some version }) ⟨s.committed, _⟩
          rw [Transaction.run_bind_ok _ wrote] at answered
          cases answered
          exact ⟨rfl, stay⟩
    · cases answered
      exact ⟨rfl, fun _ => Iff.rfl⟩

omit [DecidableEq γ] in
theorem run_createPolledRadar {r : Registration γ δ} {s : Session (Tables γ)}
    (answered : (createPolledRadar nodeId r).run s = (.ok u, s')) :
    s.working.nodes.get? nodeId = none ∧ s.working.radars.get? nodeId = none ∧
      ∃ node radar, radar.trustState = .probation ∧ s'.working.radars = s.working.radars.insert nodeId radar ∧
        s'.working.nodes = s.working.nodes.insert nodeId node := by
  rw [createPolledRadar, Transaction.run_nested_eq_ok, Transaction.run_bind_query] at answered
  split at answered
  · cases answered
  · rename_i fresh
    rw [Bool.or_eq_true, not_or, Bool.not_eq_true, Bool.not_eq_true, Option.isSome_eq_false_iff, Option.isNone_iff_eq_none,
      Option.isSome_eq_false_iff, Option.isNone_iff_eq_none] at fresh
    rw [Transaction.run_bind_write, Transaction.run_bind_eq_ok] at answered
    obtain ⟨_, s₁, inserted, answered⟩ := answered
    obtain rfl := run_insertConfig_ok inserted
    rw [Transaction.run_bind_write, Transaction.run_bind_query] at answered
    split at answered
    · cases answered
    · cases answered
      exact ⟨fresh.1, fresh.2, _, _, rfl, rfl, rfl⟩

omit [DecidableEq γ] in
theorem run_retirePolledRadar (nodeId : String) (radar : Option PolledRadar) (actor : String) (s : Session (Tables γ)) :
    ∃ db, (retirePolledRadar nodeId radar actor).run s = (.ok (), { s with working := db }) ∧
      (db.radars = s.working.radars ∨ db.radars = s.working.radars.erase nodeId) ∧
      ∀ n, db.nodes.get? n = none ↔ s.working.nodes.get? n = none := by
  rw [retirePolledRadar, Transaction.run_bind_write]
  split
  · rw [Transaction.run_bind_write]
    obtain ⟨nodes, wrote, stay⟩ := run_updateNode nodeId (fun node => { node with status := "retired" }) ⟨s.committed, _⟩
    rw [Transaction.run_bind_ok _ wrote]
    exact ⟨_, rfl, .inr rfl, stay⟩
  · obtain ⟨nodes, wrote, stay⟩ := run_updateNode nodeId (fun node => { node with status := "retired" }) ⟨s.committed, _⟩
    rw [Transaction.run_bind_ok _ wrote]
    exact ⟨_, rfl, .inl rfl, stay⟩

variable (probedConfig) in
theorem effect_step (e : Event γ δ) (db : Tables γ) :
    Effect e db (step probedConfig db e) ∧ NodesStay db (step probedConfig db e) := by
  cases e with
  | registered nodeId r =>
    simp only [step, transact, transact.answered, Transaction.perform_committing (uncommitting_createPolledRadar nodeId r)]
    rcases ran : (createPolledRadar nodeId r).run ⟨db, db⟩ with ⟨_ | u, s⟩
    · exact ⟨.aside rfl, fun _ => id⟩
    · obtain ⟨fresh, unpolled, node, radar, probation, radars, nodes⟩ := run_createPolledRadar ran
      have known : s.working.nodes.get? nodeId = some node := by rw [nodes, Dict.get?_insert_self]
      refine ⟨.registered fresh unpolled radars (by simp [known]) probation, fun n absent => ?_⟩
      rw [nodes, Dict.get?_insert] at absent
      split at absent
      · cases absent
      · exact absent
  | setTrust nodeId trustState epoch actor =>
    simp only [step, transact, transact.answered,
      Transaction.perform_committing (uncommitting_setTrust (γ := γ) nodeId trustState epoch actor)]
    rcases setTrust_cases nodeId trustState epoch actor ⟨db, db⟩ with
      ⟨answer, ran⟩ | ⟨radar, nodeEvents, found, rfl, new, ran⟩
    · rw [ran]
      cases answer with
      | error e => exact ⟨.aside rfl, fun _ => id⟩
      | ok u => exact ⟨.aside rfl, fun _ => id⟩
    · rw [ran]
      exact ⟨.written found rfl (.trusted rfl new), fun _ => id⟩
  | checkConfig target fingerprint =>
    simp only [step, transact, transact.answered,
      Transaction.perform_of_uncommitting (uncommitting_checkConfig (γ := γ) target fingerprint)]
    exact ⟨.aside rfl, fun _ => id⟩
  | addressMoved target address passed now =>
    have carries : ∀ radar : PolledRadar, Carries radar
        { radar with
          lastResolvedIp := address, resolvedAt := some now, networkMoves := radar.networkMoves + 1
          lastNetworkMoveAt := some now, probePassedAt := if passed then now else radar.probePassedAt } :=
      fun _ => ⟨rfl, rfl, rfl, rfl⟩
    exact effect_recorded _ target carries db
  | sameEpoch target config reads now =>
    simp only [step, transact, transact.answered]
    rcases sameEpoch_cases target config reads now db with
      ⟨answer, ran⟩ | ⟨radar, verdict, nodes, configs, found, at_, stay, ran⟩
    · rw [ran]
      exact ⟨.aside rfl, fun _ => id⟩
    · rw [ran]
      exact ⟨.written found rfl (.carried ⟨rfl, rfl, rfl, rfl⟩), fun n => (stay n).mp⟩
  | nextEpoch target probe reads now =>
    simp only [step, transact, transact.answered]
    rcases nextEpoch_cases target probe reads now db with
      ⟨answer, ran⟩ | ⟨radar, radar', nodes, configs, found, at_, restarts, stay, ran⟩
    · rw [ran]
      exact ⟨.aside rfl, fun _ => id⟩
    · rw [ran]
      exact ⟨.written found rfl (.restarted restarts), fun n => (stay n).mp⟩
  | setAddress nodeId epoch oldKey probe unprotected changedBy now =>
    simp only [step, transact, transact.answered, Transaction.perform_committing
      (uncommitting_setPolledRadarAddress probedConfig nodeId epoch oldKey probe unprotected changedBy now)]
    rcases ran : (setPolledRadarAddress probedConfig nodeId epoch oldKey probe unprotected changedBy now).run ⟨db, db⟩ with
      ⟨_ | moved, s⟩
    · exact ⟨.aside rfl, fun _ => id⟩
    · obtain ⟨radar, moved', found, at_, radars, stay⟩ := run_setPolledRadarAddress ran
      refine ⟨.written found radars ?_, fun n => (stay n).mp⟩
      cases moved' with
      | false => exact .carried (carries_readdressed radar epoch probe unprotected now)
      | true => exact .restarted (restarts_readdressed at_ probe unprotected now)
  | retired nodeId radar actor =>
    simp only [step, transact, transact.answered,
      Transaction.perform_committing (uncommitting_retirePolledRadar (γ := γ) nodeId radar actor)]
    obtain ⟨db', ran, either, stay⟩ := run_retirePolledRadar nodeId radar actor ⟨db, db⟩
    rw [ran]
    exact ⟨either.elim .aside (.retired nodeId), fun n => (stay n).mp⟩
  | persisted target liveness failures frameAt =>
    have carries : ∀ radar : PolledRadar, Carries radar
        { radar with liveness, consecutiveFailures := failures, lastFrameAt := frameAt.or radar.lastFrameAt } :=
      fun _ => ⟨rfl, rfl, rfl, rfl⟩
    exact effect_recorded _ target carries db

end

section
variable {γ δ : Type} {e : Event γ δ} {db db' : Tables γ}

/-- A radar that stays has been written over by the event, if by anything. -/
theorem Effect.written_over (effect : Effect e db db') (before : db.radars.get? n = some radar)
    (after : db'.radars.get? n = some radar') : Written e n radar radar' := by
  have unchanged : db'.radars.get? n = db.radars.get? n → Written e n radar radar' := by
    intro same
    cases before.symm.trans (same.symm.trans after)
    exact .carried ⟨rfl, rfl, rfl, rfl⟩
  cases effect with
  | aside radars => exact unchanged (congrArg (·.get? n) radars)
  | @written nodeId _ _ found radars how =>
    by_cases here : nodeId = n
    · subst here
      rw [radars, Dict.get?_insert_self] at after
      cases found.symm.trans before
      cases after
      exact how
    · exact unchanged (by rw [radars, Dict.get?_insert_ne _ _ here])
  | @registered nodeId _ _ unpolled radars _ _ =>
    have other : nodeId ≠ n := by
      rintro rfl
      cases unpolled.symm.trans before
    exact unchanged (by rw [radars, Dict.get?_insert_ne _ _ other])
  | retired nodeId radars =>
    by_cases here : nodeId = n
    · subst here
      rw [radars, Dict.get?_erase_self] at after
      cases after
    · exact unchanged (by rw [radars, Dict.get?_erase_ne _ here])

/-- A radar that comes is on probation, under an id that no node has had. -/
theorem Effect.new (effect : Effect e db db') (before : db.radars.get? n = none) (after : db'.radars.get? n = some radar') :
    db.nodes.get? n = none ∧ db'.nodes.get? n ≠ none ∧ radar'.trustState = .probation := by
  have unchanged : db'.radars.get? n ≠ db.radars.get? n := by
    rw [before, after]
    rintro ⟨⟩
  cases effect with
  | aside radars => exact absurd (congrArg (·.get? n) radars) unchanged
  | @written nodeId _ _ found radars how =>
    have other : nodeId ≠ n := by
      rintro rfl
      cases found.symm.trans before
    exact absurd (by rw [radars, Dict.get?_insert_ne _ _ other]) unchanged
  | @registered nodeId radar fresh unpolled radars known probation =>
    by_cases here : nodeId = n
    · subst here
      rw [radars, Dict.get?_insert_self] at after
      cases after
      exact ⟨fresh, known, probation⟩
    · exact absurd (by rw [radars, Dict.get?_insert_ne _ _ here]) unchanged
  | retired nodeId radars =>
    rw [radars, Dict.get?_erase] at after
    split at after
    · cases after
    · exact absurd (before.symm.trans after) (by rintro ⟨⟩)

theorem Written.epoch_le (how : Written e n radar radar') : radar.epoch ≤ radar'.epoch := by
  cases how with
  | carried carries =>
    have := carries.epoch
    omega
  | trusted decided new => exact Int.le_refl _
  | restarted restarts =>
    have := restarts.epoch
    omega

theorem Written.restarts (how : Written e n radar radar')
    (changed : radar'.endpointKey ≠ radar.endpointKey ∨ radar'.configFingerprint ≠ radar.configFingerprint) :
    Restarts radar radar' := by
  cases how with
  | carried carries =>
    rcases changed with other | other
    · exact absurd carries.endpointKey other
    · exact absurd carries.fingerprint other
  | trusted decided new =>
    rcases changed with other | other
    · exact absurd rfl other
    · exact absurd rfl other
  | restarted restarts => exact restarts

end

/-! ### Runs -/

section
variable {γ δ : Type}

def GraduatedAt (nodeId : String) (epoch : ℤ) (db : Tables γ) : Prop :=
  ∃ radar, db.radars.get? nodeId = some radar ∧ radar.epoch = epoch ∧ radar.trustState = .graduated

/-- The nodes of the radars are there. -/
def Housed (db : Tables γ) : Prop := ∀ n, db.radars.get? n ≠ none → db.nodes.get? n ≠ none

/-- The task whose session an event is of. -/
def Event.task : Event γ δ → Option Target
  | .checkConfig target _ | .addressMoved target _ _ _ | .sameEpoch target _ _ _ | .nextEpoch target _ _ _
  | .persisted target _ _ _ => some target
  | .registered _ _ | .setTrust _ _ _ _ | .setAddress _ _ _ _ _ _ _ | .retired _ _ _ => none

variable [DecidableEq γ] (probedConfig : δ → γ → Option γ)

/-- An exception, or a session that finds its task's epoch gone. A session that starts the next one itself also answers
`superseded`. -/
def Refused (db : Tables γ) (e : Event γ δ) : Prop :=
  (∃ raised, (transact probedConfig db e).1 = .error raised) ∨
  (transact probedConfig db e).1 = .ok (.verdict .superseded) ∧
    ∀ target radar, e.task = some target → db.radars.get? target.nodeId = some radar → radar.epoch ≠ target.epoch

variable {probedConfig}

theorem housed_step (housed : Housed db) (e : Event γ δ) : Housed (step probedConfig db e) := by
  intro n present
  obtain ⟨effect, stay⟩ := effect_step probedConfig e db
  obtain ⟨radar', after⟩ := Option.ne_none_iff_exists'.mp present
  cases before : db.radars.get? n with
  | none => exact (effect.new before after).2.1
  | some radar => exact fun absent => housed n (by simp [before]) (stay n absent)

theorem epoch_le_of_run (housed : Housed db) (found : db.radars.get? n = some radar) (events : List (Event γ δ))
    (found' : (run (step probedConfig) db events).radars.get? n = some radar') : radar.epoch ≤ radar'.epoch := by
  have kept : (run (step probedConfig) db events).nodes.get? n ≠ none ∧
      ∀ radar', (run (step probedConfig) db events).radars.get? n = some radar' → radar.epoch ≤ radar'.epoch := by
    refine invariant_always (I := fun db : Tables γ => db.nodes.get? n ≠ none ∧
      ∀ radar', db.radars.get? n = some radar' → radar.epoch ≤ radar'.epoch) ?_ ?_ events
    · rintro db e ⟨known, least⟩
      obtain ⟨effect, stay⟩ := effect_step probedConfig e db
      refine ⟨fun absent => known (stay n absent), fun radar' after => ?_⟩
      cases before : db.radars.get? n with
      | none => exact absurd (effect.new before after).1 known
      | some radar'' => exact Int.le_trans (least radar'' before) (effect.written_over before after).epoch_le
    · refine ⟨housed n (by simp [found]), fun radar' same => ?_⟩
      cases found.symm.trans same
      exact Int.le_refl _
  exact kept.2 radar' found'

omit [DecidableEq γ] in
/-- What the caller commits answers for itself, so what is refused there was raised. -/
theorem unchanged_of_committing {α : Type} {f : α → Answer} {t : Transaction (Tables γ) Raised α}
    (uncommitting : t.Uncommitting) (other : ∀ a, f a ≠ .verdict .superseded)
    (refused : (∃ raised, (transact.answered db f (.committing t)).1 = .error raised) ∨
      (transact.answered db f (.committing t)).1 = .ok (.verdict .superseded)) :
    (transact.answered db f (.committing t)).2 = db := by
  simp only [transact.answered] at refused ⊢
  cases answer : ((Transaction.committing t).perform db).1 with
  | error raised => exact Transaction.perform_committing_error uncommitting answer
  | ok a =>
    rw [answer] at refused
    rcases refused with ⟨raised, same⟩ | same
    · cases same
    · exact absurd (Except.ok.inj same) (other a)

omit [DecidableEq γ] in
theorem unchanged_of_recorded (target : Target) (values : PolledRadar → PolledRadar)
    (refused : (∃ raised, (transact.answered db (fun _ => .done) (recordAtEpoch target values)).1 = .error raised) ∨
      (transact.answered db (fun _ => .done) (recordAtEpoch target values)).1 = .ok (.verdict .superseded)) :
    (transact.answered db (fun _ => .done) (recordAtEpoch target values)).2 = db := by
  simp only [transact.answered, recordAtEpoch, Transaction.perform] at refused ⊢
  rcases updateRadar_cases (s := ⟨db, db⟩) target.nodeId (fun radar => decide (radar.epoch = target.epoch)) values with
    ⟨-, ran⟩ | ran | ⟨radar, met, ran⟩
  · rw [Transaction.run_bind_ok _ ran]
    rfl
  · rw [Transaction.run_bind_error _ ran]
  · rw [Transaction.run_bind_ok _ ran] at refused
    rcases refused with ⟨raised, same⟩ | same
    · cases same
    · cases same

theorem unchanged_of_refused {e : Event γ δ} (refused : Refused probedConfig db e) : step probedConfig db e = db := by
  cases e with
  | registered nodeId r =>
    exact unchanged_of_committing (uncommitting_createPolledRadar nodeId r) (by rintro _ ⟨⟩) (refused.imp_right And.left)
  | setTrust nodeId trustState epoch actor =>
    exact unchanged_of_committing (uncommitting_setTrust nodeId trustState epoch actor) (by rintro _ ⟨⟩)
      (refused.imp_right And.left)
  | checkConfig target fingerprint => exact Transaction.perform_of_uncommitting (uncommitting_checkConfig target fingerprint) db
  | addressMoved target address passed now => exact unchanged_of_recorded target _ (refused.imp_right And.left)
  | sameEpoch target config reads now =>
    simp only [Refused, step, transact, transact.answered] at refused ⊢
    rcases sameEpoch_cases target config reads now db with
      ⟨answer, ran⟩ | ⟨radar, verdict, nodes, configs, found, at_, stay, ran⟩
    · rw [ran]
    · rw [ran] at refused
      rcases refused with ⟨raised, same⟩ | ⟨-, gone⟩
      · cases same
      · exact absurd at_ (gone target radar rfl found)
  | nextEpoch target probe reads now =>
    simp only [Refused, step, transact, transact.answered] at refused ⊢
    rcases nextEpoch_cases target probe reads now db with
      ⟨answer, ran⟩ | ⟨radar, radar', nodes, configs, found, at_, restarts, stay, ran⟩
    · rw [ran]
    · rw [ran] at refused
      rcases refused with ⟨raised, same⟩ | ⟨-, gone⟩
      · cases same
      · exact absurd at_ (gone target radar rfl found)
  | setAddress nodeId epoch oldKey probe unprotected changedBy now =>
    exact unchanged_of_committing
      (uncommitting_setPolledRadarAddress probedConfig nodeId epoch oldKey probe unprotected changedBy now) (by rintro _ ⟨⟩)
      (refused.imp_right And.left)
  | retired nodeId radar actor =>
    exact unchanged_of_committing (uncommitting_retirePolledRadar nodeId radar actor) (by rintro _ ⟨⟩)
      (refused.imp_right And.left)
  | persisted target liveness failures frameAt => exact unchanged_of_recorded target _ (refused.imp_right And.left)

/-- An epoch only grows; an endpoint or a fingerprint changes with it, on probation; a graduated radar was graduated by
a decision about the epoch that it is still in; what is refused changes nothing. -/
theorem trust_within_epoch (events : List (Event γ δ)) :
    (∀ before after n radar radar', events = before ++ after →
      (run (step probedConfig) Tables.empty before).radars.get? n = some radar →
      (run (step probedConfig) Tables.empty events).radars.get? n = some radar' → radar.epoch ≤ radar'.epoch) ∧
    Along (step probedConfig)
      (fun db e =>
        (∀ n radar radar', db.radars.get? n = some radar → (step probedConfig db e).radars.get? n = some radar' →
          (radar'.endpointKey ≠ radar.endpointKey ∨ radar'.configFingerprint ≠ radar.configFingerprint) →
          radar'.epoch = radar.epoch + 1 ∧ radar'.trustState = .probation) ∧
        (Refused probedConfig db e → step probedConfig db e = db))
      Tables.empty events ∧
    ∀ n epoch, GraduatedAt n epoch (run (step probedConfig) Tables.empty events) →
      ∃ before actor after, events = before ++ .setTrust n .graduated epoch actor :: after ∧
        (∃ radar, (run (step probedConfig) Tables.empty before).radars.get? n = some radar ∧ radar.epoch = epoch ∧
          radar.trustState = .probation) ∧
        ∀ between rest, after = between ++ rest →
          GraduatedAt n epoch
            (run (step probedConfig) Tables.empty (before ++ .setTrust n .graduated epoch actor :: between)) := by
  refine ⟨?_, ?_, ?_⟩
  · rintro before after n radar radar' rfl found found'
    rw [run_append] at found'
    have housed : Housed (run (step probedConfig) Tables.empty before) :=
      invariant_always (I := Housed) (fun _ e housed => housed_step housed e) (fun _ absent => absurd rfl absent) before
    exact epoch_le_of_run housed found after found'
  · refine along_of_always (I := fun _ => True) (fun _ _ _ => trivial) (fun db e _ => ⟨?_, unchanged_of_refused⟩)
      trivial events
    intro n radar radar' found found' changed
    have restarts := ((effect_step probedConfig e db).1.written_over found found').restarts changed
    exact ⟨restarts.epoch, restarts.trustState⟩
  · intro n epoch graduated
    have at_first : ¬ GraduatedAt n epoch (Tables.empty : Tables γ) := by
      rintro ⟨radar, absent, -⟩
      cases absent
    obtain ⟨before, e, after, split, turned, since⟩ := exists_turn at_first graduated
    obtain ⟨radar', found', at_, trusted⟩ := since [] after rfl
    rw [run_append] at found'
    have effect := (effect_step probedConfig e (run (step probedConfig) Tables.empty before)).1
    cases found : (run (step probedConfig) Tables.empty before).radars.get? n with
    | none => exact absurd ((effect.new found found').2.2.symm.trans trusted) (by rintro ⟨⟩)
    | some radar =>
      cases effect.written_over found found' with
      | carried carries =>
        exact absurd ⟨radar, found, carries.epoch.symm.trans at_, carries.trustState.symm.trans trusted⟩ turned
      | restarted restarts => exact absurd (restarts.trustState.symm.trans trusted) (by rintro ⟨⟩)
      | @trusted trustState actor decided new =>
        obtain rfl : radar.epoch = epoch := at_
        obtain rfl : trustState = .graduated := trusted
        subst decided
        have probation : radar.trustState = .probation := by
          cases held : radar.trustState with
          | probation => rfl
          | graduated => exact absurd held new
        exact ⟨before, actor, after, split, ⟨radar, found, rfl, probation⟩, since⟩

end

/-- A decision about the epoch before the poller's is refused. -/
example :
    let probe (fingerprint : String) : Probe Nat :=
      { endpointRaw := "radar.example", scheme := "http", host := "radar.example", port := 80
        endpointKey := "radar.example:80", authUser := none, authSecretEnc := none, address := none
        configFingerprint := fingerprint, config := 0 }
    let db := run (step fun declared _ => some declared) Tables.empty
      [.registered "p1" { probe := probe "a", config := 0, owner := "u", unprotected := true, now := 0 },
        .setTrust "p1" .graduated 1 "admin", .nextEpoch ⟨"p1", 1⟩ (probe "b") ⟨some ⟨"p1", 1, 0, false⟩, none, some 1⟩ 1]
    (transact (fun declared _ => some declared) db (.setTrust "p1" .graduated 1 "admin")).1 =
      .error (.epochMoved 2 .probation) := by
  decide +kernel

end Retina.Polled.Trust
