import RetinaServer.Library.Recollection
import RetinaServer.Multinode.Lineage

/-! The node tracks an entry remembers, against its lineage: the solves of its key since it was created, and those of
every entry they absorbed. The memory is pruned to its age and trimmed to its size as it is written, by the time of
the solve that writes it. -/
namespace Retina.Multinode
open Runs Recollection

/-- The stores, with the solves of each live key's lineage, the latest publish first. -/
structure Remembering where
  stores : Stores
  solves : String → List (Sighting String)

def Remembering.boot : Remembering := ⟨Stores.boot, fun _ => []⟩

/-- The node tracks a solve was built from. The known lane's is built from none. -/
def Publication.sighting : Publication → Sighting String
  | .solver p => ⟨p.result.tsS, p.trackIds⟩
  | .known hexn result _ _ => ⟨(knownResult hexn result).tsS, []⟩

section
variable (cfg : Config)

def rememberingStep (t : Remembering) (e : StoreStep) : Remembering where
  stores := storeStep cfg t.stores e
  solves := fun k =>
    match e with
    | .publish pub =>
        if pub.target cfg t.stores = some k then
          pub.sighting :: (absorbedBy cfg t.stores pub).flatMap fun old => t.solves old.1
        else t.solves k
    | _ => t.solves k

/-- The entry whose memory a publish writes over: its key's, or else the one that the mint retires. -/
def heir (s : Stores) : Publication → Option (String × TrackEntry)
  | .solver p =>
      match s.tracks.get? (publishDecision cfg p s).key with
      | none => retiredFor cfg p s
      | some prev =>
          if (prev.recentTrackIds.getD .empty).items = [] then retiredFor cfg p s
          else some ((publishDecision cfg p s).key, prev)
  | .known _ _ _ _ => none

def memoryIn (entry : TrackEntry) : Dict String ℚ := entry.recentTrackIds.getD .empty

/-- The known lane's solve has no memory of its own, and none is written on it. -/
def BringsNoMemory (_ : Remembering) : StoreStep → Prop
  | .publish (.known _ result _ _) => result.recentTrackIds = none
  | _ => True

/-- A publish is no earlier than any solve of the lineages it takes in; and what was carried there and is not in the
memory it writes over, it carries itself, or it is older than the memory goes back. -/
def Orderly (t : Remembering) : StoreStep → Prop
  | .publish pub => (pub.target cfg t.stores).isSome → ∀ old ∈ absorbedBy cfg t.stores pub, ∀ s ∈ t.solves old.1,
      s.time ≤ pub.sighting.time ∧
        (heir cfg t.stores pub ≠ some old → ∀ id ∈ s.seen,
          id ∈ pub.sighting.seen ∨ cfg.keying.trackLinkAgeS < pub.sighting.time - s.time)
  | _ => True

instance decidableOrderly (t : Remembering) : ∀ e, Decidable (Orderly cfg t e)
  | .publish pub => inferInstanceAs (Decidable ((pub.target cfg t.stores).isSome →
      ∀ old ∈ absorbedBy cfg t.stores pub, ∀ s ∈ t.solves old.1, s.time ≤ pub.sighting.time ∧
        (heir cfg t.stores pub ≠ some old → ∀ id ∈ s.seen,
          id ∈ pub.sighting.seen ∨ cfg.keying.trackLinkAgeS < pub.sighting.time - s.time)))
  | .forget _ | .prune _ | .flag _ => inferInstanceAs (Decidable True)

/-- Each entry's memory is of its latest solve and of its lineage. -/
def MemoryOf (P : List (Sighting String) → Sighting String → Dict String ℚ → Prop) (t : Remembering) : Prop :=
  ∀ k r, t.stores.tracks.get? k = some r →
    ∃ last older, t.solves k = last :: older ∧ last.time = r.tsS ∧ P (last :: older) last (memoryIn r)

/-- Every stamp in a memory is of a solve in the lineage that carried the id, and within the age of the entry's own
time; the last solve's own ids are in it; and there are no more than the cap, or than these. -/
def DrawnFromLineage (t : Remembering) : Prop :=
  MemoryOf (Drawn cfg.keying.trackLinkAgeS cfg.keying.trackLinkMaxIds) t

/-- A memory has the latest time that any solve of the lineage carried each id, of those within the age of the entry's
own time: all of them, or the last solve's own and then the newest. -/
def ExactOfLineage (t : Remembering) : Prop :=
  MemoryOf (Exact cfg.keying.trackLinkAgeS cfg.keying.trackLinkMaxIds) t

/-- Besides, the last solve of each lineage is the latest. -/
def ExactInOrder (t : Remembering) : Prop :=
  MemoryOf (fun lineage last recent => Exact cfg.keying.trackLinkAgeS cfg.keying.trackLinkMaxIds lineage last recent ∧
    ∀ s ∈ lineage, s.time ≤ last.time) t

theorem ExactInOrder.exact (inOrder : ExactInOrder cfg t) : ExactOfLineage cfg t := by
  intro k r live
  obtain ⟨last, older, lineage, time, exactly, -⟩ := inOrder k r live
  exact ⟨last, older, lineage, time, exactly⟩

/-! ### What is stored -/

theorem mergeRecentTrackIds_eq (ctx : KeyingContext) (prev : Option (Dict String ℚ)) (trackIds : List String) (tsS : ℚ) :
    mergeRecentTrackIds ctx prev trackIds tsS =
      merge ctx.settings.trackLinkAgeS ctx.settings.trackLinkMaxIds (prev.getD .empty) trackIds tsS := rfl

theorem forgetAll_coastRecentIds (acc : Absorbed) (items : List (String × TrackEntry)) :
    (forgetAll cfg acc items).coastRecentIds = acc.coastRecentIds := by
  induction items generalizing acc with
  | nil => rfl
  | cons old rest ih => exact ih (acc.forget cfg old.1 old.2)

theorem absorb_coastRecentIds (p : PublishInput) (s : Stores) :
    (absorb cfg p (publishDecision cfg p s) s).coastRecentIds =
      (retiredFor cfg p s).bind fun coast => coast.2.recentTrackIds := by
  rw [absorb_eq]
  cases retiredFor cfg p s with
  | none => exact forgetAll_coastRecentIds cfg (begun cfg p s) _
  | some coast => rfl

theorem inheritedIds_eq (p : PublishInput) (s : Stores) :
    (inheritedIds (s.tracks.get? (publishDecision cfg p s).key)
      (absorb cfg p (publishDecision cfg p s) s).coastRecentIds).getD .empty =
        ((heir cfg s (.solver p)).map fun old => memoryIn old.2).getD .empty := by
  have coasting : ((retiredFor cfg p s).bind fun coast => coast.2.recentTrackIds).getD .empty =
      ((retiredFor cfg p s).map fun old => memoryIn old.2).getD .empty := by
    cases retiredFor cfg p s <;> rfl
  rw [absorb_coastRecentIds, heir, inheritedIds]
  cases s.tracks.get? (publishDecision cfg p s).key with
  | none => exact coasting
  | some prev =>
    simp only [Option.bind_some]
    cases held : prev.recentTrackIds with
    | none =>
      simp only [Option.getD_none]
      rw [if_pos (show (Dict.empty : Dict String ℚ).items = [] from rfl)]
      exact coasting
    | some recent =>
      simp only [Option.getD_some]
      split
      · exact coasting
      · simp [memoryIn, held]

theorem absorb_tsS (p : PublishInput) (s : Stores) :
    (absorb cfg p (publishDecision cfg p s) s).result.timestampMs = p.result.timestampMs := by
  have carried := (absorb_from cfg p (publishDecision cfg p s) s).carries.2.2.1
  rw [smoothSolve_timestampMs] at carried
  exact carried

theorem latch_recentTrackIds (prev : Option TrackEntry) (result : Solve) :
    (latch prev result).recentTrackIds = result.recentTrackIds := by
  cases prev <;> rfl

theorem smoothSolve_recentTrackIds (env : SmootherEnv) (memory : Memory) (result : Solve) (trackKey : String)
    (adsbHex : Option String) (fix : Option AdsbFix) :
    (smoothSolve env memory result trackKey adsbHex fix).1.recentTrackIds = result.recentTrackIds := by
  obtain ⟨lat, lon, smoother, sigma, action, d2, innov, same⟩ := smoothSolve_writes env memory result trackKey adsbHex fix
  rw [same]

/-- What a publication leaves under its key, and that it brings no other entry about. -/
theorem stored_memory {pub : Publication} (brought : BringsNoMemory t (.publish pub))
    (targeted : pub.target cfg s = some key) :
    ∃ entry, (pub.apply cfg s).tracks.get? key = some entry ∧ entry.tsS = pub.sighting.time ∧
      memoryIn entry = merge cfg.keying.trackLinkAgeS cfg.keying.trackLinkMaxIds
        (((heir cfg s pub).map fun old => memoryIn old.2).getD .empty) pub.sighting.seen pub.sighting.time ∧
      ∀ k r, key ≠ k → (pub.apply cfg s).tracks.get? k = some r → s.tracks.get? k = some r := by
  cases pub with
  | solver p =>
    simp only [Publication.target] at targeted
    split at targeted
    · cases targeted
    · rename_i written
      obtain rfl := Option.some.inj targeted
      have time : (absorb cfg p (publishDecision cfg p s) s).result.tsS = p.result.tsS := by
        rw [TrackRecord.tsS, TrackRecord.tsS, absorb_tsS]
      refine ⟨storedEntry cfg p s, ?_, time, ?_, ?_⟩
      · rw [Publication.apply, published_tracks cfg p s written, if_pos rfl]
      · rw [← inheritedIds_eq, Publication.sighting, ← time]
        rfl
      · intro k r other live
        rw [Publication.apply, published_tracks cfg p s written, if_neg other] at live
        split at live
        · cases live
        · exact live
  | known hexn result fix lastFollowPublish =>
    obtain rfl := Option.some.inj targeted
    have smoothed := smoothSolve_recentTrackIds cfg.smoother s.memory (knownResult hexn result)
      (knownDecision cfg hexn (knownResult hexn result) lastFollowPublish s).key (some hexn) fix
    have time := smoothSolve_timestampMs cfg.smoother s.memory (knownResult hexn result)
      (knownDecision cfg hexn (knownResult hexn result) lastFollowPublish s).key (some hexn) fix
    refine ⟨_, Dict.get?_insert_self _ _ _, ?_, ?_, fun k r other live => (Dict.get?_insert_ne _ _ other).symm.trans live⟩
    · simp only [Publication.sighting, TrackRecord.tsS, ← time, latch]
      split <;> rfl
    · have unremembered : (knownResult hexn result).recentTrackIds = none := brought
      rw [unremembered] at smoothed
      have blank := merge_empty (κ := String) cfg.keying.trackLinkAgeS cfg.keying.trackLinkMaxIds
        (Publication.known hexn result fix lastFollowPublish).sighting.time
      refine Eq.trans ?_ blank.symm
      exact congrArg (fun memory => Option.getD memory Dict.empty) ((latch_recentTrackIds _ _).trans smoothed)

/-! ### One step -/

variable {cfg}

/-- An entry that stands after a step stood before with the same lineage, or was written by it. -/
theorem rememberingStep_live {t : Remembering} {e : StoreStep} (brought : BringsNoMemory t e)
    (live : (rememberingStep cfg t e).stores.tracks.get? k = some r) :
    (t.stores.tracks.get? k = some r ∧ (rememberingStep cfg t e).solves k = t.solves k) ∨
      ∃ pub, e = .publish pub ∧ pub.target cfg t.stores = some k ∧ r.tsS = pub.sighting.time ∧
        memoryIn r = merge cfg.keying.trackLinkAgeS cfg.keying.trackLinkMaxIds
          (((heir cfg t.stores pub).map fun old => memoryIn old.2).getD .empty) pub.sighting.seen pub.sighting.time ∧
        (rememberingStep cfg t e).solves k =
          pub.sighting :: (absorbedBy cfg t.stores pub).flatMap fun old => t.solves old.1 := by
  cases e with
  | publish pub =>
    cases targeted : pub.target cfg t.stores with
    | none =>
      refine .inl ⟨?_, by simp [rememberingStep, targeted]⟩
      rcases apply_cases cfg pub t.stores with ⟨-, same⟩ | ⟨key, -, -, written, -⟩
      · simpa [rememberingStep, storeStep, same] using live
      · rw [targeted] at written
        cases written
    | some key =>
      obtain ⟨entry, stored, time, memory, others⟩ := stored_memory cfg brought targeted
      by_cases own : key = k
      · subst own
        obtain rfl := Option.some.inj (stored.symm.trans live)
        exact .inr ⟨pub, rfl, targeted, time, memory, by simp [rememberingStep, targeted]⟩
      · exact .inl ⟨others k r own live, by simp [rememberingStep, targeted, own]⟩
  | _ => exact .inl ⟨storeStep_upkeep cfg (fun pub same => by cases same) live, rfl⟩

theorem heir_absorbed {t : Stores} (targeted : Publication.target cfg t pub = some key)
    (inherits : heir cfg t pub = some old) : old ∈ absorbedBy cfg t pub := by
  cases pub with
  | known => cases inherits
  | solver p =>
    simp only [Publication.target] at targeted
    split at targeted
    · cases targeted
    · rename_i written
      have coasting : retiredFor cfg p t = some old → old ∈ absorbedBy cfg t (.solver p) := fun retired =>
        (mem_absorbedBy_solver cfg p t written old).mpr (.inr (List.mem_append_right _ (Option.mem_toList.mpr retired)))
      rw [heir] at inherits
      split at inherits
      · exact coasting inherits
      · rename_i prev held
        split at inherits
        · exact coasting inherits
        · obtain rfl := Option.some.inj inherits
          exact (mem_absorbedBy_solver cfg p t written _).mpr (.inl ⟨rfl, held⟩)

theorem drawn_step (nonneg : 0 ≤ cfg.keying.trackLinkAgeS) (t : Remembering) (e : StoreStep)
    (drawn : DrawnFromLineage cfg t) (brought : BringsNoMemory t e) : DrawnFromLineage cfg (rememberingStep cfg t e) := by
  intro k r live
  rcases rememberingStep_live brought live with ⟨before, same⟩ | ⟨pub, rfl, targeted, time, memory, solves⟩
  · rw [same]
    exact drawn k r before
  · refine ⟨pub.sighting, _, solves, time.symm, ?_⟩
    rw [memory]
    refine drawn_merge nonneg fun id seen found => ?_
    cases inherits : heir cfg t.stores pub with
    | none =>
      rw [inherits] at found
      cases found
    | some old =>
      rw [inherits] at found
      have absorbed := heir_absorbed targeted inherits
      obtain ⟨last, older, lineage, -, before⟩ := drawn old.1 old.2 (live_of_absorbedBy cfg absorbed)
      obtain ⟨s, member, carried⟩ := (before.drawn id seen found).1
      exact ⟨s, List.mem_flatMap.mpr ⟨old, absorbed, lineage ▸ member⟩, carried⟩

theorem exact_step (nonneg : 0 ≤ cfg.keying.trackLinkAgeS) (t : Remembering) (e : StoreStep)
    (exactly : ExactInOrder cfg t) (brought : BringsNoMemory t e) (orderly : Orderly cfg t e) :
    ExactInOrder cfg (rememberingStep cfg t e) := by
  intro k r live
  rcases rememberingStep_live brought live with ⟨before, same⟩ | ⟨pub, rfl, targeted, time, memory, solves⟩
  · rw [same]
    exact exactly k r before
  · have orderly := orderly (targeted ▸ rfl)
    have ordered : ∀ s ∈ (absorbedBy cfg t.stores pub).flatMap fun old => t.solves old.1, s.time ≤ pub.sighting.time := by
      intro s member
      obtain ⟨old, absorbed, member⟩ := List.mem_flatMap.mp member
      exact (orderly old absorbed s member).1
    refine ⟨pub.sighting, _, solves, time.symm, ?_, fun s member => ?_⟩
    · rw [memory]
      -- the lineage of the entry whose memory is written over, and those of the others
      have covers : ∀ s ∈ ((absorbedBy cfg t.stores pub).filter fun old => decide (heir cfg t.stores pub ≠ some old)).flatMap
          (fun old => t.solves old.1), ∀ id ∈ s.seen,
            id ∈ pub.sighting.seen ∨ cfg.keying.trackLinkAgeS < pub.sighting.time - s.time := by
        intro s member
        obtain ⟨old, listed, member⟩ := List.mem_flatMap.mp member
        obtain ⟨absorbed, other⟩ := List.mem_filter.mp listed
        exact (orderly old absorbed s member).2 (of_decide_eq_true other)
      cases inherits : heir cfg t.stores pub with
      | none =>
        refine (Prior.empty _ _ _).exact nonneg (fun s => ?_) ordered covers
        simp [inherits]
      | some old =>
        have absorbed := heir_absorbed targeted inherits
        obtain ⟨last, older, lineage, -, before, latest⟩ := exactly old.1 old.2 (live_of_absorbedBy cfg absorbed)
        have inOrder := (orderly old absorbed last (lineage ▸ List.mem_cons_self)).1
        refine (before.prior inOrder latest).exact nonneg (fun s => ?_) ordered covers
        rw [← lineage, inherits]
        simp only [List.mem_flatMap, List.mem_filter, decide_eq_true_eq]
        constructor
        · rintro ⟨old', listed, member⟩
          by_cases own : some old = some old'
          · exact .inl (Option.some.inj own ▸ member)
          · exact .inr ⟨old', ⟨listed, own⟩, member⟩
        · rintro (member | ⟨old', ⟨listed, -⟩, member⟩)
          · exact ⟨old, absorbed, member⟩
          · exact ⟨old', listed, member⟩
    · rcases List.mem_cons.mp member with rfl | older
      · exact le_refl _
      · exact ordered s older

variable (cfg)

theorem memoryOf_boot (P : List (Sighting String) → Sighting String → Dict String ℚ → Prop) :
    MemoryOf P Remembering.boot := by
  intro k r live
  cases live

/-- In every run each memory is drawn from the entry's lineage, and while the publishes are orderly it is exact. -/
theorem track_memory (nonneg : 0 ≤ cfg.keying.trackLinkAgeS) (steps : List StoreStep)
    (brought : Along (rememberingStep cfg) BringsNoMemory .boot steps) :
    DrawnFromLineage cfg (run (rememberingStep cfg) .boot steps) ∧
      (Along (rememberingStep cfg) (Orderly cfg) .boot steps →
        ExactOfLineage cfg (run (rememberingStep cfg) .boot steps)) := by
  constructor
  · exact invariant (drawn_step nonneg) (memoryOf_boot _) brought
  · intro orderly
    have inOrder := invariant (I := ExactInOrder cfg) (fun t e held both => exact_step nonneg t e held both.1 both.2)
      (memoryOf_boot _) ((along_and _ _ _ _ steps).mpr ⟨brought, orderly⟩)
    exact inOrder.exact

end

/-- A solve of a transponder's aircraft, from one node track. -/
def taggedFrom (trackId : String) (timestampMs : ℤ) : StoreStep :=
  .publish (.solver { result := still 0 0 timestampMs, adsbHex := some "abc123", trackIds := [trackId] })

/-- The solve of 45 s prunes what the one of 0 s left, and the one of 10 s comes after it. -/
def prunedSolve : List StoreStep := [taggedFrom "a" 0, taggedFrom "b" 45000, taggedFrom "c" 10000]

/-- Track `a` was carried ten seconds before the entry's own time. -/
theorem late_solve_forgets : ¬ ∀ cfg steps, Along (rememberingStep cfg) BringsNoMemory .boot steps →
    ExactOfLineage cfg (run (rememberingStep cfg) .boot steps) := by
  intro claimed
  have remembered : ((run (rememberingStep meridianConfig) .boot prunedSolve).stores.tracks.get? "mn-adsb-abc123").map
      (fun r => (memoryIn r).items) = some [("b", 45), ("c", 10)] := by decide +kernel
  have solves : (run (rememberingStep meridianConfig) .boot prunedSolve).solves "mn-adsb-abc123" =
      [⟨10, ["c"]⟩, ⟨45, ["b"]⟩, ⟨0, ["a"]⟩] := by decide +kernel
  obtain ⟨r, live, items⟩ := Option.map_eq_some_iff.mp remembered
  obtain ⟨last, older, lineage, -, exactly⟩ :=
    claimed meridianConfig prunedSolve ⟨trivial, trivial, trivial, trivial⟩ "mn-adsb-abc123" r live
  rw [solves] at lineage
  obtain ⟨rfl, rfl⟩ := List.cons.inj lineage
  have seen : LastSeen [⟨10, ["c"]⟩, ⟨45, ["b"]⟩, ⟨0, ["a"]⟩] "a" 0 := ⟨⟨⟨0, ["a"]⟩, by simp, by simp, rfl⟩, by simp⟩
  have forgotten : (memoryIn r).get? "a" = none := by
    rw [Dict.get?, items]
    decide +kernel
  have full := (exactly.newest "a" 0 seen (by decide +kernel) forgotten).1
  rw [Dict.size, items] at full
  exact absurd full (by decide)

/-- Two of these solves, in the order of their times. -/
theorem track_memory_in_order : ExactOfLineage meridianConfig
    (run (rememberingStep meridianConfig) .boot [taggedFrom "a" 0, taggedFrom "b" 45000]) :=
  (track_memory meridianConfig (by decide +kernel) [taggedFrom "a" 0, taggedFrom "b" 45000]
    ⟨trivial, trivial, trivial⟩).2 (by decide +kernel)

end Retina.Multinode
