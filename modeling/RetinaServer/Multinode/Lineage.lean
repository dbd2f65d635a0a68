import RetinaServer.Multinode.Absorption

/-! The high-water marks of a track against its lineage: the publishes of its key
since it was created, and those of every entry they absorbed. -/
namespace Retina.Multinode
open Runs HighWater

/-- The stores, with the node counts of every solve in each live key's lineage. -/
structure Traced where
  stores : Stores
  lineage : String → List Nat

def Traced.boot : Traced := ⟨Stores.boot, fun _ => []⟩

section
variable (cfg : Config)

def tracedStep (t : Traced) (e : StoreStep) : Traced where
  stores := storeStep cfg t.stores e
  lineage := fun k =>
    if ((storeStep cfg t.stores e).tracks.get? k).isNone then []
    else match e with
      | .publish pub =>
          if pub.target cfg t.stores = some k then
            pub.result.nNodes :: (absorbedBy cfg t.stores pub).flatMap fun old => t.lineage old.1
          else t.lineage k
      | _ => t.lineage k

/-- Each entry's mark is the most nodes of any solve in its lineage. -/
def MarksLineage (t : Traced) : Prop := ∀ k r, t.stores.tracks.get? k = some r → r.maxNNodes = peak (t.lineage k)

/-- A publish counts one more than the most of the entries it absorbs. -/
def CountsUp (t : Traced) (e : StoreStep) : Prop :=
  match e with
  | .publish pub => ∀ key, pub.target cfg t.stores = some key →
      ∃ entry, (pub.apply cfg t.stores).tracks.get? key = some entry ∧
        entry.solveCount = peak ((absorbedBy cfg t.stores pub).map fun old => old.2.solveCount) + 1 ∧
        ∀ old ∈ absorbedBy cfg t.stores pub, old.2.solveCount < entry.solveCount
  | _ => True

/-- A solve that the known lane publishes has the mark of its key's entry
already. That lane sets none. -/
def BringsMark (t : Traced) (e : StoreStep) : Prop :=
  match e with
  | .publish (.known hexn result _ lastFollowPublish) =>
      result.maxNNodes = max (((t.stores.tracks.get?
        (knownDecision cfg hexn (knownResult hexn result) lastFollowPublish t.stores).key).map
          TrackRecord.maxNNodes).getD 0) result.nNodes
  | _ => True

/-! ### What is stored -/

theorem peak_absorbedBy_solver (p : PublishInput) (s : Stores) (kept : (publishDecision cfg p s).how ≠ .shadowed)
    (f : TrackEntry → Nat) :
    peak ((absorbedBy cfg s (.solver p)).map fun old => f old.2) =
      max (((s.tracks.get? (publishDecision cfg p s).key).map f).getD 0)
        (peak ((takenIn cfg p s).map fun old => f old.2)) := by
  apply le_antisymm
  · apply peak_le
    intro count member
    obtain ⟨old, absorbed, rfl⟩ := List.mem_map.mp member
    rcases (mem_absorbedBy_solver cfg p s kept old).mp absorbed with ⟨-, held⟩ | taken
    · simp [held]
    · exact le_max_of_le_right (le_peak (List.mem_map_of_mem taken))
  · apply max_le
    · cases held : s.tracks.get? (publishDecision cfg p s).key with
      | none => exact Nat.zero_le _
      | some prev =>
        have own : ((publishDecision cfg p s).key, prev) ∈ absorbedBy cfg s (.solver p) :=
          (mem_absorbedBy_solver cfg p s kept _).mpr (.inl ⟨rfl, held⟩)
        exact le_peak (List.mem_map.mpr ⟨_, own, rfl⟩)
    · apply peak_le
      intro count member
      obtain ⟨old, taken, rfl⟩ := List.mem_map.mp member
      exact le_peak (List.mem_map.mpr ⟨old, (mem_absorbedBy_solver cfg p s kept old).mpr (.inr taken), rfl⟩)

theorem peak_absorbedBy_known (hexn : String) (result : Solve) (fix : Option AdsbFix) (lastFollowPublish : Dict String ℚ)
    (s : Stores) (f : TrackEntry → Nat) :
    peak ((absorbedBy cfg s (.known hexn result fix lastFollowPublish)).map fun old => f old.2) =
      ((s.tracks.get? (knownDecision cfg hexn (knownResult hexn result) lastFollowPublish s).key).map f).getD 0 := by
  apply le_antisymm
  · apply peak_le
    intro count member
    obtain ⟨old, absorbed, rfl⟩ := List.mem_map.mp member
    obtain ⟨-, held⟩ := (mem_absorbedBy_known cfg hexn result fix lastFollowPublish s old).mp absorbed
    simp [held]
  · cases held : s.tracks.get? (knownDecision cfg hexn (knownResult hexn result) lastFollowPublish s).key with
    | none => exact Nat.zero_le _
    | some prev =>
      have own : ((knownDecision cfg hexn (knownResult hexn result) lastFollowPublish s).key, prev) ∈
          absorbedBy cfg s (.known hexn result fix lastFollowPublish) :=
        (mem_absorbedBy_known cfg hexn result fix lastFollowPublish s _).mpr ⟨rfl, held⟩
      exact le_peak (List.mem_map.mpr ⟨_, own, rfl⟩)

/-- The mark a publication stores: the solver's takes in those of the entries it
absorbs, the known lane's is whatever the solve came with. -/
def publishedMark (s : Stores) (pub : Publication) : Nat :=
  match pub with
  | .solver p => max (peak ((absorbedBy cfg s pub).map fun old => max old.2.maxNNodes old.2.nNodes)) p.result.nNodes
  | .known _ result _ _ => result.maxNNodes

structure StoredMarks (s : Stores) (pub : Publication) (entry : TrackEntry) : Prop where
  nNodes : entry.nNodes = pub.result.nNodes
  maxNNodes : entry.maxNNodes = publishedMark cfg s pub
  solveCount : entry.solveCount = peak ((absorbedBy cfg s pub).map fun old => old.2.solveCount) + 1

theorem solver_marks (p : PublishInput) (s : Stores) (kept : (publishDecision cfg p s).how ≠ .shadowed) :
    StoredMarks cfg s (.solver p) (storedEntry cfg p s) := by
  obtain ⟨nNodes, maxNNodes, solveCount⟩ := storedEntry_marks cfg p s
  refine ⟨nNodes, ?_, ?_⟩
  · rw [maxNNodes, publishedMark, peak_absorbedBy_solver cfg p s kept fun r => max r.maxNNodes r.nNodes, max_assoc]
  · rw [solveCount, peak_absorbedBy_solver cfg p s kept TrackRecord.solveCount]

/-- What a publication makes of each key. -/
theorem stored_marks (targeted : Publication.target cfg s pub = some key) :
    ∃ entry, StoredMarks cfg s pub entry ∧ (pub.apply cfg s).tracks.get? key = some entry ∧
      ∀ k r, key ≠ k → (pub.apply cfg s).tracks.get? k = some r → s.tracks.get? k = some r := by
  cases pub with
  | solver p =>
    simp only [Publication.target] at targeted
    split at targeted
    · cases targeted
    · rename_i kept
      obtain rfl := Option.some.inj targeted
      refine ⟨storedEntry cfg p s, solver_marks cfg p s kept, ?_, ?_⟩
      · rw [Publication.apply, published_tracks cfg p s kept, if_pos rfl]
      · intro k r other live
        rw [Publication.apply, published_tracks cfg p s kept, if_neg other] at live
        split at live
        · cases live
        · exact live
  | known hexn result fix lastFollowPublish =>
    obtain rfl := Option.some.inj targeted
    have smoothed := smoothSolve_smoothedFrom cfg.smoother s.memory (knownResult hexn result)
      (knownDecision cfg hexn (knownResult hexn result) lastFollowPublish s).key (some hexn) fix
    refine ⟨_, ⟨?_, ?_, ?_⟩, Dict.get?_insert_self _ _ _, ?_⟩
    · simp only [TrackRecord.stored, latch]
      split <;> exact smoothed.nNodes
    · simp only [TrackRecord.stored, latch]
      split <;> exact smoothed.maxNNodes
    · rw [peak_absorbedBy_known cfg hexn result fix lastFollowPublish s TrackRecord.solveCount]
      rfl
    · intro k r other live
      exact (Dict.get?_insert_ne _ _ other).symm.trans live

theorem storeStep_upkeep (upkeep : ∀ pub, e ≠ .publish pub)
    (live : (storeStep cfg s e).tracks.get? k = some r) : s.tracks.get? k = some r := by
  have removed (keys : List String) (f : Stores → String → Stores) (removes : Removes cfg f)
      (live : (keys.foldl f s).tracks.get? k = some r) : s.tracks.get? k = some r := by
    rw [removes.foldl_tracks] at live
    split at live
    · cases live
    · exact live
  cases e with
  | publish pub => exact absurd rfl (upkeep pub)
  | forget key => exact removed [key] _ (forgetMnKey_removes cfg) live
  | prune now => exact removed _ _ (evict_removes cfg) live
  | flag key =>
    simp only [storeStep, flagAnomaly] at live
    split at live <;> exact live

/-! ### One step -/

/-- An entry that stands after a step was stored by it, on a lineage of its own
solve and all it absorbed, or stood before with the lineage it has. -/
theorem tracedStep_live (live : (tracedStep cfg t e).stores.tracks.get? k = some r) :
    (∃ pub, e = .publish pub ∧ pub.target cfg t.stores = some k ∧ StoredMarks cfg t.stores pub r ∧
      (tracedStep cfg t e).lineage k =
        pub.result.nNodes :: (absorbedBy cfg t.stores pub).flatMap fun old => t.lineage old.1) ∨
    t.stores.tracks.get? k = some r ∧ (tracedStep cfg t e).lineage k = t.lineage k := by
  have present : (storeStep cfg t.stores e).tracks.get? k = some r := live
  cases e with
  | publish pub =>
    cases targeted : pub.target cfg t.stores with
    | none =>
      refine .inr ⟨?_, by simp [tracedStep, present, targeted]⟩
      rcases apply_cases cfg pub t.stores with ⟨-, same⟩ | ⟨key, -, -, written, -⟩
      · simpa [tracedStep, storeStep, same] using live
      · rw [targeted] at written
        cases written
    | some key =>
      obtain ⟨entry, marks, stored, others⟩ := stored_marks cfg targeted
      by_cases own : key = k
      · subst own
        obtain rfl := Option.some.inj (stored.symm.trans live)
        exact .inl ⟨pub, rfl, targeted, marks, by simp [tracedStep, present, targeted]⟩
      · exact .inr ⟨others k r own live, by simp [tracedStep, present, targeted, own]⟩
  | _ =>
    refine .inr ⟨storeStep_upkeep cfg (fun pub same => by cases same) live, ?_⟩
    simp [tracedStep, present]

/-- No entry has more nodes than its lineage. -/
def NNodesWithin (t : Traced) : Prop := ∀ k r, t.stores.tracks.get? k = some r → r.nNodes ≤ peak (t.lineage k)

variable {cfg}

theorem tracedStep_nNodesWithin (t : Traced) (e : StoreStep) (within : NNodesWithin t) :
    NNodesWithin (tracedStep cfg t e) := by
  intro k r live
  rcases tracedStep_live cfg live with ⟨pub, -, -, marks, lineage⟩ | ⟨before, lineage⟩
  · rw [lineage, marks.nNodes, peak_cons]
    exact le_max_left _ _
  · rw [lineage]
    exact within k r before

/-- The mark of a lineage is the solve's nodes or the most of the absorbed marks. -/
theorem peak_lineage (marked : MarksLineage t) (pub : Publication) :
    peak (pub.result.nNodes :: (absorbedBy cfg t.stores pub).flatMap fun old => t.lineage old.1) =
      max pub.result.nNodes (peak ((absorbedBy cfg t.stores pub).map fun old => old.2.maxNNodes)) := by
  have recorded : ∀ old ∈ absorbedBy cfg t.stores pub, peak (t.lineage old.1) = old.2.maxNNodes := by
    intro old absorbed
    exact (marked old.1 old.2 (live_of_absorbedBy cfg absorbed)).symm
  rw [peak_cons, peak_flatMap, List.map_congr_left recorded]

/-- The mark is right after a publication exactly when it is stored right. -/
theorem publishedMark_iff (marked : MarksLineage t) (within : NNodesWithin t) (pub : Publication) :
    publishedMark cfg t.stores pub =
        peak (pub.result.nNodes :: (absorbedBy cfg t.stores pub).flatMap fun old => t.lineage old.1) ↔
      BringsMark cfg t (.publish pub) := by
  rw [peak_lineage marked]
  cases pub with
  | solver p =>
    have covered : ∀ old ∈ absorbedBy cfg t.stores (.solver p), max old.2.maxNNodes old.2.nNodes = old.2.maxNNodes := by
      intro old absorbed
      have live := live_of_absorbedBy cfg absorbed
      exact max_eq_left (marked old.1 old.2 live ▸ within old.1 old.2 live)
    simp only [publishedMark, BringsMark, iff_true, List.map_congr_left covered]
    exact max_comm _ _
  | known hexn result fix lastFollowPublish =>
    rw [peak_absorbedBy_known cfg hexn result fix lastFollowPublish t.stores TrackRecord.maxNNodes, max_comm]
    exact Iff.rfl

theorem tracedStep_marksLineage (t : Traced) (e : StoreStep) (sound : MarksLineage t ∧ NNodesWithin t)
    (brought : BringsMark cfg t e) : MarksLineage (tracedStep cfg t e) ∧ NNodesWithin (tracedStep cfg t e) := by
  refine ⟨?_, tracedStep_nNodesWithin t e sound.2⟩
  intro k r live
  rcases tracedStep_live cfg live with ⟨pub, rfl, -, marks, lineage⟩ | ⟨before, lineage⟩
  · rw [lineage, marks.maxNNodes]
    exact (publishedMark_iff sound.1 sound.2 pub).mpr brought
  · rw [lineage]
    exact sound.1 k r before

theorem countsUp (t : Traced) (e : StoreStep) : CountsUp cfg t e := by
  cases e with
  | publish pub =>
    intro key targeted
    obtain ⟨entry, marks, stored, -⟩ := stored_marks cfg targeted
    refine ⟨entry, stored, marks.solveCount, ?_⟩
    intro old absorbed
    rw [marks.solveCount]
    exact Nat.lt_succ_of_le (le_peak (List.mem_map.mpr ⟨old, absorbed, rfl⟩))
  | _ => trivial

theorem boot_sound : MarksLineage Traced.boot ∧ NNodesWithin Traced.boot := by
  constructor <;> intro k r live <;> simp [Traced.boot, Stores.boot] at live

/-- A publication that leaves a wrong mark is a known-lane one. -/
theorem bringsMark_of_marksLineage (sound : MarksLineage t ∧ NNodesWithin t)
    (next : MarksLineage (tracedStep cfg t e)) :
    BringsMark cfg t e := by
  cases e with
  | publish pub =>
    cases targeted : pub.target cfg t.stores with
    | none =>
      cases pub with
      | solver p => trivial
      | known hexn result fix lastFollowPublish => cases targeted
    | some key =>
      obtain ⟨entry, marks, stored, -⟩ := stored_marks cfg targeted
      have live : (storeStep cfg t.stores (.publish pub)).tracks.get? key = some entry := stored
      have mark := next key entry live
      simp only [tracedStep, live, Option.isNone_some, Bool.false_eq_true, if_false, targeted, if_true,
        marks.maxNNodes] at mark
      exact (publishedMark_iff sound.1 sound.2 pub).mp mark
  | _ => trivial

variable (cfg)

/-- Solve counts grow along every lineage of every run, and every mark is that of
its lineage exactly when the known lane brings the marks of what it publishes. -/
theorem lineage_marks_iff (steps : List StoreStep) :
    (∀ before after, steps = before ++ after → MarksLineage (run (tracedStep cfg) Traced.boot before)) ∧
        Along (tracedStep cfg) (CountsUp cfg) Traced.boot steps ↔
      Along (tracedStep cfg) (BringsMark cfg) Traced.boot steps := by
  constructor
  · rintro ⟨marked, -⟩
    rw [along_iff_split]
    intro before e after split
    have here := marked before (e :: after) split
    have next := marked (before ++ [e]) after (by simp [split])
    rw [run_append] at next
    have within : NNodesWithin (run (tracedStep cfg) Traced.boot before) :=
      invariant_always tracedStep_nNodesWithin boot_sound.2 before
    exact bringsMark_of_marksLineage ⟨here, within⟩ next
  · intro brought
    refine ⟨?_, ?_⟩
    · rintro before after rfl
      exact (invariant tracedStep_marksLineage boot_sound ((along_append _ _ _ _ _).mp brought).1).1
    · rw [along_iff_split]
      exact fun before e after _ => countsUp _ e

end

/-- A transponder's aircraft is solved by three nodes, and then by the known lane. -/
def solvedThenKnown : List StoreStep :=
  [.publish (.solver { result := still 0 0 0, adsbHex := some "abc123" }),
   .publish (.known "abc123" (still 0 0 1000) none Dict.empty)]

theorem known_publish_drops_mark :
    ¬ ∀ cfg steps, (∀ before after, steps = before ++ after →
        MarksLineage (run (tracedStep cfg) Traced.boot before)) ∧
      Along (tracedStep cfg) (CountsUp cfg) Traced.boot steps := by
  intro claimed
  have marked := (claimed meridianConfig solvedThenKnown).1 solvedThenKnown [] (by simp)
  have unmarked : ((run (tracedStep meridianConfig) Traced.boot solvedThenKnown).stores.tracks.get?
      "mn-adsb-abc123").map TrackRecord.maxNNodes = some 0 := by decide +kernel
  have solved : peak ((run (tracedStep meridianConfig) Traced.boot solvedThenKnown).lineage "mn-adsb-abc123") = 3 := by
    decide +kernel
  obtain ⟨entry, live, mark⟩ := Option.map_eq_some_iff.mp unmarked
  rw [marked "mn-adsb-abc123" entry live, solved] at mark
  cases mark

end Retina.Multinode
