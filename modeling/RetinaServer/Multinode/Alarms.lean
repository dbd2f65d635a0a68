import RetinaServer.Multinode.Absorption

/-! Anomaly flags through every merge of keys. A publish latches the flags of the
entry it replaces and of the one its mint retires; of the entries it supersedes
it latches none. -/
namespace Retina.Multinode
open Runs

def arcOnlyAnomalyAllowlist : List String := ["supersonic", "instant_acceleration", "anomalous_acceleration"]

/-- A track of a contributing node's tracker. -/
structure ContributingTrack where
  trackId : Option String
  isAnomalous : Bool := false
  anomalyTypes : List String := []

/-- Stamps the contributing tracks' flags onto a result; a dark one takes only
the physically loud kinds. -/
def collectTrackAnomalies (tracks : List ContributingTrack) (trackIds : List String) (result : Solve) : Solve :=
  let mine := tracks.filter fun t => t.trackId.any fun tid => decide (tid ∈ trackIds)
  let kinds := (mine.flatMap ContributingTrack.anomalyTypes).dedup
  let dark := result.adsbHex.getD "" = ""
  let kept := if dark then kinds.filter fun kind => decide (kind ∈ arcOnlyAnomalyAllowlist) else kinds
  let isAnom := if dark then !kept.isEmpty else mine.any ContributingTrack.isAnomalous
  { result with
    anomalyTypes := kept.insertionSort (· ≤ ·)
    isAnomalous := isAnom || !kept.isEmpty }

/-- The input's hex, where it has one, is the result's. -/
def nameHex (p : PublishInput) : Solve :=
  if p.adsbHex.getD "" = "" then p.result else { p.result with adsbHex := p.adsbHex }

/-- What either lane or the upkeep does to the stores, the flags of a publish
being those its contributing tracks have at the time. -/
inductive LaneStep where
  | solver (p : PublishInput) (tracks : List ContributingTrack)
  | known (hexn : String) (result : Solve) (fix : Option AdsbFix) (lastFollowPublish : Dict String ℚ)
  | forget (key : String)
  | prune (now : ℚ)
  | flag (key : String)

def LaneStep.stamped : LaneStep → StoreStep
  | solver p tracks => .publish (.solver { p with result := collectTrackAnomalies tracks p.trackIds (nameHex p) })
  | known hexn result fix lastFollowPublish =>
      .publish (.known hexn (collectTrackAnomalies [] [] (knownResult hexn result)) fix lastFollowPublish)
  | forget key => .forget key
  | prune now => .prune now
  | flag key => .flag key

section
variable (cfg : Config)

def laneStep (s : Stores) (e : LaneStep) : Stores := storeStep cfg s e.stamped

/-- An alarm of an absorbed entry is the stored entry's. -/
def KeepsAlarms (s : Stores) (e : LaneStep) : Prop :=
  match e.stamped with
  | .publish pub => ∀ old ∈ absorbedBy cfg s pub, old.2.isAnomalous = true ∨ old.2.anomalyTypes ≠ [] →
      ∃ key entry, pub.target cfg s = some key ∧ (pub.apply cfg s).tracks.get? key = some entry ∧
        entry.isAnomalous = true ∧ ∀ kind ∈ old.2.anomalyTypes, kind ∈ entry.anomalyTypes
  | _ => True

/-- The solve, its key's entry or the one it retires is flagged. -/
def carriesFlag (p : PublishInput) (s : Stores) : Bool :=
  p.result.isAnomalous || (s.tracks.get? (publishDecision cfg p s).key).any TrackRecord.isAnomalous ||
    (retiredFor cfg p s).any fun coast => coast.2.isAnomalous

/-- The solve, its key's entry or the one it retires has this kind of anomaly. -/
def CarriesKind (p : PublishInput) (s : Stores) (kind : String) : Prop :=
  kind ∈ p.result.anomalyTypes ∨ (∃ prev ∈ s.tracks.get? (publishDecision cfg p s).key, kind ∈ prev.anomalyTypes) ∨
    ∃ coast ∈ retiredFor cfg p s, kind ∈ coast.2.anomalyTypes

/-- The superseded entries have no alarm but what the publish carries anyway. -/
def SupersedesQuietly (s : Stores) (e : LaneStep) : Prop :=
  match e.stamped with
  | .publish (.solver p) => (publishDecision cfg p s).how = .shadowed ∨
      ∀ old ∈ supersededBy cfg p s, (old.2.isAnomalous = true → carriesFlag cfg p s = true) ∧
        ∀ kind ∈ old.2.anomalyTypes, CarriesKind cfg p s kind
  | _ => True

/-- Whatever has a kind of anomaly is flagged. -/
def Flagged (r : TrackRecord C) : Prop := r.anomalyTypes ≠ [] → r.isAnomalous = true

theorem collect_flagged (tracks : List ContributingTrack) (trackIds : List String) (result : Solve) :
    Flagged (collectTrackAnomalies tracks trackIds result) := by
  intro kinds
  simp only [collectTrackAnomalies, Bool.or_eq_true, Bool.not_eq_true', List.isEmpty_eq_false_iff] at kinds ⊢
  right
  intro none_kept
  rw [none_kept] at kinds
  exact kinds rfl

theorem collected_flagged (stamped : LaneStep.stamped e = .publish pub) : Flagged pub.result := by
  cases e with
  | solver p tracks =>
    obtain rfl := StoreStep.publish.inj stamped
    exact collect_flagged _ _ _
  | known hexn result fix lastFollowPublish =>
    obtain rfl := StoreStep.publish.inj stamped
    exact collect_flagged _ _ _
  | _ => cases stamped

variable {cfg}

/-- Every entry of the store that has a kind of anomaly is flagged. -/
def AllFlagged (s : Stores) : Prop := ∀ k r, s.tracks.get? k = some r → Flagged r

theorem storedEntry_flagged (flagged : AllFlagged s) (stamped : Flagged p.result) :
    Flagged (storedEntry cfg p s) := by
  intro kinds
  obtain ⟨kind, member⟩ := List.exists_mem_of_ne_nil _ kinds
  obtain ⟨flag, kindsOf⟩ := storedEntry_alarms cfg p s
  rw [flag]
  simp only [Bool.or_eq_true]
  rcases (kindsOf kind).mp member with own | ⟨prev, held, has⟩ | ⟨coast, retired, has⟩
  · exact .inl (.inl (stamped (List.ne_nil_of_mem own)))
  · have raised := flagged _ prev held (List.ne_nil_of_mem has)
    exact .inl (.inr (by simp [Option.mem_def.mp held, raised]))
  · have taken : coast ∈ takenIn cfg p s := List.mem_append_right _ (Option.mem_toList.mpr retired)
    have live := (takenIn_live cfg p s taken).2
    have raised := flagged _ coast.2 live (List.ne_nil_of_mem has)
    exact .inr (by simp [Option.mem_def.mp retired, raised])

theorem latch_flagged (stamped : Flagged result) (flagged : ∀ prev ∈ held, Flagged prev) :
    Flagged (latch held result) := by
  cases held with
  | none => exact stamped
  | some prev =>
    intro kinds
    have either : result.anomalyTypes ≠ [] ∨ prev.anomalyTypes ≠ [] := by
      by_contra neither
      rw [not_or, not_not, not_not] at neither
      exact kinds (by simp [latch, neither])
    simp only [latch, Bool.or_eq_true]
    exact either.imp stamped (flagged prev rfl)

theorem publish_allFlagged (flagged : AllFlagged s) (stamped : Flagged (Publication.result pub)) :
    AllFlagged (pub.apply cfg s) := by
  cases pub with
  | solver p =>
    by_cases shadowed : (publishDecision cfg p s).how = .shadowed
    · rw [Publication.apply, published_shadowed cfg p s shadowed]
      exact flagged
    · intro k r live
      rw [Publication.apply, published_tracks cfg p s shadowed] at live
      split at live
      · obtain rfl := Option.some.inj live
        exact storedEntry_flagged flagged stamped
      · split at live
        · cases live
        · exact flagged k r live
  | known hexn result fix lastFollowPublish =>
    intro k r live
    simp only [Publication.apply, publishKnown, Dict.get?_insert] at live
    split at live
    · obtain rfl := Option.some.inj live
      have smoothed := smoothSolve_smoothedFrom cfg.smoother s.memory (knownResult hexn result)
        (knownDecision cfg hexn (knownResult hexn result) lastFollowPublish s).key (some hexn) fix
      apply latch_flagged
      · intro kinds
        rw [smoothed.isAnomalous]
        rw [smoothed.anomalyTypes] at kinds
        exact stamped kinds
      · exact fun prev held => flagged _ prev held
    · exact flagged k r live

theorem laneStep_allFlagged (s : Stores) (e : LaneStep) (flagged : AllFlagged s) : AllFlagged (laneStep cfg s e) := by
  have kept (keys : List String) (f : Stores → String → Stores) (removes : Removes cfg f) : AllFlagged (keys.foldl f s) := by
    intro k r live
    rw [removes.foldl_tracks] at live
    split at live
    · cases live
    · exact flagged k r live
  cases stamped : e.stamped with
  | publish pub =>
    simp only [laneStep, storeStep, stamped]
    exact publish_allFlagged flagged (collected_flagged stamped)
  | forget key =>
    simp only [laneStep, storeStep, stamped]
    exact kept [key] _ (forgetMnKey_removes cfg)
  | prune now =>
    simp only [laneStep, storeStep, stamped]
    exact kept _ _ (evict_removes cfg)
  | flag key =>
    simp only [laneStep, storeStep, stamped, flagAnomaly]
    split <;> exact flagged

variable (cfg)

/-- What of an entry's alarms is in another. -/
def AlarmsIn (old entry : TrackEntry) : Prop :=
  old.isAnomalous = true ∨ old.anomalyTypes ≠ [] →
    entry.isAnomalous = true ∧ ∀ kind ∈ old.anomalyTypes, kind ∈ entry.anomalyTypes

/-- Of a flagged store's entries only the flag need be asked. -/
theorem alarmsIn_iff (flagged : Flagged old) (entry : TrackEntry) :
    AlarmsIn old entry ↔ (old.isAnomalous = true → entry.isAnomalous = true) ∧
      ∀ kind ∈ old.anomalyTypes, kind ∈ entry.anomalyTypes := by
  constructor
  · intro kept
    exact ⟨fun flag => (kept (.inl flag)).1, fun kind has => (kept (.inr (List.ne_nil_of_mem has))).2 kind has⟩
  · rintro ⟨flag, kinds⟩ alarmed
    exact ⟨flag (alarmed.elim id flagged), kinds⟩

theorem keepsAlarms_publish (entry : TrackEntry)
    (stored : ∀ k, pub.target cfg s = some k → (pub.apply cfg s).tracks.get? k = some entry)
    (targeted : pub.target cfg s = some key) :
    (∀ old ∈ absorbedBy cfg s pub, old.2.isAnomalous = true ∨ old.2.anomalyTypes ≠ [] →
      ∃ key entry, pub.target cfg s = some key ∧ (pub.apply cfg s).tracks.get? key = some entry ∧
        entry.isAnomalous = true ∧ ∀ kind ∈ old.2.anomalyTypes, kind ∈ entry.anomalyTypes) ↔
    ∀ old ∈ absorbedBy cfg s pub, AlarmsIn old.2 entry := by
  constructor
  · intro kept old member alarmed
    obtain ⟨k, found, target, held, flag, kinds⟩ := kept old member alarmed
    obtain rfl := Option.some.inj ((stored k target).symm.trans held)
    exact ⟨flag, kinds⟩
  · intro kept old member alarmed
    exact ⟨key, entry, targeted, stored key targeted, kept old member alarmed⟩

theorem storedEntry_alarmsIn_iff (p : PublishInput) (s : Stores) (flagged : Flagged old) :
    AlarmsIn old (storedEntry cfg p s) ↔
      (old.isAnomalous = true → carriesFlag cfg p s = true) ∧
        ∀ kind ∈ old.anomalyTypes, CarriesKind cfg p s kind := by
  obtain ⟨flag, kinds⟩ := storedEntry_alarms cfg p s
  rw [alarmsIn_iff flagged, flag]
  exact and_congr Iff.rfl (forall₂_congr fun kind _ => kinds kind)

theorem keepsAlarms_solver_iff (p : PublishInput) (s : Stores) (flagged : AllFlagged s)
    (kept : (publishDecision cfg p s).how ≠ .shadowed) :
    (∀ old ∈ absorbedBy cfg s (.solver p), AlarmsIn old.2 (storedEntry cfg p s)) ↔
      ∀ old ∈ supersededBy cfg p s, (old.2.isAnomalous = true → carriesFlag cfg p s = true) ∧
        ∀ kind ∈ old.2.anomalyTypes, CarriesKind cfg p s kind := by
  have known (old : String × TrackEntry) (taken : old ∈ takenIn cfg p s) : Flagged old.2 :=
    flagged old.1 old.2 (takenIn_live cfg p s taken).2
  constructor
  · intro all old superseded
    have taken : old ∈ takenIn cfg p s := List.mem_append_left _ superseded
    exact (storedEntry_alarmsIn_iff cfg p s (known old taken)).mp
      (all old ((mem_absorbedBy_solver cfg p s kept old).mpr (.inr taken)))
  · intro quiet old absorbed
    rcases (mem_absorbedBy_solver cfg p s kept old).mp absorbed with ⟨-, held⟩ | taken
    · rw [storedEntry_alarmsIn_iff cfg p s (flagged _ _ held)]
      refine ⟨fun flag => ?_, fun kind has => .inr (.inl ⟨old.2, held, has⟩)⟩
      simp [carriesFlag, held, flag]
    · rw [storedEntry_alarmsIn_iff cfg p s (known old taken)]
      rcases List.mem_append.mp taken with superseded | retired
      · exact quiet old superseded
      · have coasting : retiredFor cfg p s = some old := Option.mem_toList.mp retired
        refine ⟨fun flag => ?_, fun kind has => .inr (.inr ⟨old, coasting, has⟩)⟩
        simp [carriesFlag, coasting, flag]

/-- One step loses no alarm exactly when it supersedes none. -/
theorem keepsAlarms_iff (s : Stores) (e : LaneStep) (flagged : AllFlagged s) :
    KeepsAlarms cfg s e ↔ SupersedesQuietly cfg s e := by
  simp only [KeepsAlarms, SupersedesQuietly]
  cases e.stamped with
  | publish pub =>
    cases pub with
    | solver p =>
      by_cases shadowed : (publishDecision cfg p s).how = .shadowed
      · simp [absorbedBy_shadowed cfg p s shadowed, shadowed]
      · have targeted : (Publication.solver p).target cfg s = some (publishDecision cfg p s).key := by
          simp only [Publication.target, if_neg shadowed]
        dsimp only
        rw [keepsAlarms_publish cfg (storedEntry cfg p s) ?_ targeted,
          keepsAlarms_solver_iff cfg p s flagged shadowed, or_iff_right shadowed]
        intro k target
        obtain rfl := Option.some.inj (targeted.symm.trans target)
        rw [Publication.apply, published_tracks cfg p s shadowed, if_pos rfl]
    | known hexn result fix lastFollowPublish =>
      dsimp only
      simp only [iff_true]
      intro old absorbed alarmed
      obtain ⟨-, held⟩ := (mem_absorbedBy_known cfg hexn result fix lastFollowPublish s old).mp absorbed
      have flag := alarmed.elim id (flagged _ _ held)
      refine ⟨_, _, rfl, Dict.get?_insert_self _ _ _, ?_, ?_⟩
      · simp [latch, held, TrackRecord.stored, flag]
      · intro kind has
        simp [latch, held, TrackRecord.stored, has]
  | _ => simp

theorem boot_allFlagged : AllFlagged Stores.boot := by
  intro k r live
  simp [Stores.boot] at live

/-- Along a run every alarm survives every merge exactly when no publish
supersedes an entry with an alarm of its own. -/
theorem alarms_survive_iff (steps : List LaneStep) :
    Along (laneStep cfg) (KeepsAlarms cfg) Stores.boot steps ↔
      Along (laneStep cfg) (SupersedesQuietly cfg) Stores.boot steps :=
  along_congr laneStep_allFlagged (keepsAlarms_iff cfg) boot_allFlagged steps

end

/-- A dark aircraft goes supersonic, and a second later its solve carries a transponder. -/
def supersonicSolve : LaneStep :=
  .solver { result := still 0 0 0, trackIds := ["a"] } [⟨some "a", true, ["supersonic"]⟩]

def identifiedPublish : PublishInput where
  result := still (1 / 100) 0 1000
  adsbHex := some "abc123"
  trackIds := ["a"]

theorem superseded_alarm_cleared :
    ¬ ∀ cfg steps, Along (laneStep cfg) (KeepsAlarms cfg) Stores.boot steps := by
  intro kept
  have second := (kept meridianConfig [supersonicSolve, .solver identifiedPublish []]).2.1
  have alarmed : ∃ old ∈ absorbedBy meridianConfig (laneStep meridianConfig Stores.boot supersonicSolve)
      (.solver { identifiedPublish with result := collectTrackAnomalies [] ["a"] (nameHex identifiedPublish) }),
      old.2.isAnomalous = true := by decide +kernel
  have quiet : ∀ key ∈ (Publication.solver
        { identifiedPublish with result := collectTrackAnomalies [] ["a"] (nameHex identifiedPublish) }).target
        meridianConfig (laneStep meridianConfig Stores.boot supersonicSolve),
      ∀ entry ∈ (laneStep meridianConfig (laneStep meridianConfig Stores.boot supersonicSolve)
        (.solver identifiedPublish [])).tracks.get? key, entry.isAnomalous = false := by decide +kernel
  obtain ⟨old, absorbed, flag⟩ := alarmed
  obtain ⟨key, entry, targeted, held, raised, -⟩ := second old absorbed (.inl flag)
  rw [quiet key targeted entry held] at raised
  cases raised

end Retina.Multinode
