import RetinaServer.Feed.DedupFolds
import Mathlib.Data.List.MinMax

/-! What the collapse leaves. Entries are gathered around the first seen, and the best of each circle
goes out in its place; the circles' best entries may look alike where the first seen do not. -/
namespace Retina.Feed
open FirstFit

/-- Neither of two entries looks like the other. -/
def Unlike (geo : Geodesy) (a b : FeedEntry) : Prop :=
  looksLikeSameAircraft geo a b = false ∧ looksLikeSameAircraft geo b a = false

/-- No two entries of the output look alike, and collapsing it again changes nothing. -/
def LeavesNoDuplicate (geo : Geodesy) (aircraft : List FeedEntry) : Prop :=
  (dedupAircraft geo aircraft).Pairwise (Unlike geo) ∧
    dedupAircraft geo (dedupAircraft geo aircraft) = dedupAircraft geo aircraft

/-- The entries that look like a first-seen one, with it, and the first that ranks best among them. -/
def bestOf (circle : FeedEntry × List FeedEntry) : Option FeedEntry := List.argmin dedupQualityKey (circle.1 :: circle.2)

/-- Whenever two entries look alike under different first-seen entries, one of them does not lead its circle's ranking. -/
def BestApart (geo : Geodesy) (aircraft : List FeedEntry) : Prop :=
  (circles (looksLikeSameAircraft geo) aircraft).Pairwise fun circle circle' =>
    ∀ a ∈ bestOf circle, ∀ b ∈ bestOf circle', Unlike geo a b

/-! ### Groups without ground truth -/

theorem groupAircraft_circles (geo : Geodesy) {aircraft : List FeedEntry} (plain : ∀ ac ∈ aircraft, ac.groundTruthHex = none) :
    groupAircraft geo aircraft = (circles (looksLikeSameAircraft geo) aircraft).map fun circle => ⟨circle.1, circle.2, none⟩ := by
  let fresh (ac : FeedEntry) : Group := ⟨ac, [], none⟩
  have by_proximity : groupAircraft geo aircraft =
      aircraft.foldl (placeNear (looksLikeSameAircraft geo) Group.first Group.push fresh) [] := by
    refine List.foldl_ext _ _ _ fun groups ac listed => ?_
    rw [groupStep, plain ac listed]
    rfl
  have kept (g : Group) (ac : FeedEntry) : (g.push ac).first = g.first := rfl
  rw [by_proximity, fill_near kept (fun _ => rfl)]
  refine List.map_congr_left fun circle _ => ?_
  have pushed (g : Group) (followers : List FeedEntry) :
      followers.foldl Group.push g = { g with rest := g.rest ++ followers } := by
    induction followers generalizing g with
    | nil => simp
    | cons ac rest ih =>
      rw [List.foldl_cons, ih]
      simp [Group.push]
  rw [pushed]
  rfl

/-- In a group formed by proximity everything is folded into the best. -/
theorem foldl_foldStep_single (geo : Geodesy) (f : Fold) (members : List FeedEntry) :
    members.foldl (foldStep geo false) [f] = [{ f with members := f.members ++ members }] := by
  induction members generalizing f with
  | nil => simp
  | cons m rest ih =>
    rw [List.foldl_cons]
    have joined : foldStep geo false [f] m = [f.push m] := rfl
    rw [joined, ih]
    simp [Fold.push]

/-- A stable sort by a key begins with the first that has the least key. -/
theorem head?_insertionSort (members : List FeedEntry) :
    (members.insertionSort fun a b => dedupQualityKey a ≤ dedupQualityKey b).head? = List.argmin dedupQualityKey members := by
  induction members with
  | nil => rfl
  | cons m rest ih =>
    rw [List.insertionSort_cons, List.argmin_cons, ← ih]
    cases rest.insertionSort (fun a b => dedupQualityKey a ≤ dedupQualityKey b) with
    | nil => rfl
    | cons best later =>
      rw [List.orderedInsert_cons]
      by_cases first : dedupQualityKey m ≤ dedupQualityKey best
      · simp [first, not_lt.mpr first]
      · simp [first, not_le.mp first]

/-- An entry up to the nodes it is shown under. -/
def SameAircraft (a b : FeedEntry) : Prop := ∃ nodes, b = { a with contributingNodeIds := nodes }

theorem looksLike_same {a a' b b' : FeedEntry} (geo : Geodesy) (same : SameAircraft a a') (same' : SameAircraft b b') :
    looksLikeSameAircraft geo a' b' = looksLikeSameAircraft geo a b := by
  obtain ⟨nodes, rfl⟩ := same
  obtain ⟨nodes', rfl⟩ := same'
  rfl

/-- A circle's group leaves one entry, the circle's best. -/
theorem survivors_circle (geo : Geodesy) (circle : FeedEntry × List FeedEntry) :
    ∃ best out, bestOf circle = some best ∧ survivors geo ⟨circle.1, circle.2, none⟩ = [out] ∧ SameAircraft best out := by
  obtain ⟨leader, followers⟩ := circle
  rw [survivors]
  by_cases alone : followers = []
  · subst alone
    exact ⟨leader, leader, rfl, rfl, leader.contributingNodeIds, rfl⟩
  · have sorted := head?_insertionSort (leader :: followers)
    cases ranked : (leader :: followers).insertionSort (fun a b => dedupQualityKey a ≤ dedupQualityKey b) with
    | nil =>
      have emptied := (List.perm_insertionSort (fun a b => dedupQualityKey a ≤ dedupQualityKey b) (leader :: followers)).length_eq
      rw [ranked] at emptied
      cases emptied
    | cons best later =>
      rw [ranked] at sorted
      have folded : collapse geo ⟨leader, followers, none⟩ = [⟨best, best :: later⟩] := by
        rw [collapse, Group.members, ranked, List.foldl_cons]
        exact foldl_foldStep_single geo ⟨best, [best]⟩ later
      obtain ⟨nodes, entry⟩ := (inheritNodes_survives (collapse_led geo ⟨leader, followers, none⟩ ⟨best, best :: later⟩
        (folded ▸ List.mem_singleton_self _))).entry
      refine ⟨best, inheritNodes ⟨best, best :: later⟩, sorted.symm, ?_, nodes, entry⟩
      rw [if_neg alone, folded, List.map_singleton]

/-- Without ground truth the output is the best of each circle, in the order of those seen first. -/
theorem dedup_circles (geo : Geodesy) {aircraft : List FeedEntry} (plain : ∀ ac ∈ aircraft, ac.groundTruthHex = none) :
    List.Forall₂ (fun circle out => ∃ best, bestOf circle = some best ∧ SameAircraft best out)
      (circles (looksLikeSameAircraft geo) aircraft) (dedupAircraft geo aircraft) := by
  rw [dedupAircraft, groupAircraft_circles geo plain, List.flatMap_map]
  generalize circles (looksLikeSameAircraft geo) aircraft = all
  induction all with
  | nil => exact .nil
  | cons circle rest ih =>
    obtain ⟨best, out, found, left, same⟩ := survivors_circle geo circle
    rw [List.flatMap_cons, left]
    exact .cons ⟨best, found, same⟩ ih

/-- Entries none of which looks like an earlier one are left as they are. -/
theorem dedup_of_unlike (geo : Geodesy) {aircraft : List FeedEntry} (plain : ∀ ac ∈ aircraft, ac.groundTruthHex = none)
    (unlike : aircraft.Pairwise (Unlike geo)) : dedupAircraft geo aircraft = aircraft := by
  have apart : aircraft.Pairwise fun a b => looksLikeSameAircraft geo b a = false := unlike.imp And.right
  rw [dedupAircraft, groupAircraft_circles geo plain, circles_of_apart apart, List.map_map, List.flatMap_map]
  have untouched (ac : FeedEntry) : survivors geo ⟨ac, [], none⟩ = [ac] := rfl
  simp only [Function.comp_apply, untouched]
  exact List.flatMap_singleton' aircraft

theorem forall_of_forall₂ {R : α → β → Prop} {P : α → Prop} {Q : β → Prop} {as : List α} {bs : List β}
    (pairs : List.Forall₂ R as bs) (carried : ∀ a b, R a b → (P a ↔ Q b)) : (∀ a ∈ as, P a) ↔ ∀ b ∈ bs, Q b := by
  induction pairs with
  | nil => simp
  | cons here _ ih => rw [List.forall_mem_cons, List.forall_mem_cons, ih, carried _ _ here]

theorem pairwise_of_forall₂ {R : α → β → Prop} {P : α → α → Prop} {Q : β → β → Prop} {as : List α} {bs : List β}
    (pairs : List.Forall₂ R as bs) (carried : ∀ a a' b b', R a b → R a' b' → (P a a' ↔ Q b b')) :
    as.Pairwise P ↔ bs.Pairwise Q := by
  induction pairs with
  | nil => simp
  | cons here rest ih =>
    rw [List.pairwise_cons, List.pairwise_cons, ih, forall_of_forall₂ rest fun a b there => carried _ a _ b here there]

/-- The output's entries are apart exactly when the best entries of the circles are. -/
theorem dedup_unlike_iff (geo : Geodesy) {aircraft : List FeedEntry} (plain : ∀ ac ∈ aircraft, ac.groundTruthHex = none) :
    (dedupAircraft geo aircraft).Pairwise (Unlike geo) ↔ BestApart geo aircraft := by
  refine (pairwise_of_forall₂ (dedup_circles geo plain) ?_).symm
  rintro circle circle' out out' ⟨best, found, same⟩ ⟨best', found', same'⟩
  simp only [found, found', Option.mem_def, Option.some.injEq, forall_eq', Unlike, looksLike_same geo same same',
    looksLike_same geo same' same]

theorem dedup_plain (geo : Geodesy) {aircraft : List FeedEntry} (plain : ∀ ac ∈ aircraft, ac.groundTruthHex = none) :
    ∀ out ∈ dedupAircraft geo aircraft, out.groundTruthHex = none := by
  have survivors_of_folds : List.Forall₂ Survives (dedupAircraft geo aircraft) (aircraftFolds geo aircraft) :=
    forall₂_flatMap fun g _ => survivors_survive geo g
  refine (forall_of_forall₂ survivors_of_folds fun out f survives => ?_).mpr fun f listed => plain _ (aircraftFolds_winner_mem geo aircraft f listed)
  obtain ⟨nodes, rfl⟩ := survives.entry
  exact Iff.rfl

/-- For a feed without ground truth: no duplicate is left, and a second collapse changes nothing, exactly
when no two entries that look alike are each the best of their circle. -/
theorem leaves_no_duplicate_iff (geo : Geodesy) (aircraft : List FeedEntry) (plain : ∀ ac ∈ aircraft, ac.groundTruthHex = none) :
    LeavesNoDuplicate geo aircraft ↔ BestApart geo aircraft := by
  rw [LeavesNoDuplicate, dedup_unlike_iff geo plain, and_iff_left_iff_imp]
  intro apart
  exact dedup_of_unlike geo (dedup_plain geo plain) ((dedup_unlike_iff geo plain).mpr apart)

/-! ### The convoy -/

/-- The solve takes the first arc's place, and stands as near to the second arc as it stood to the first. -/
theorem convoy_keeps_a_duplicate : ¬ LeavesNoDuplicate alongMeridian convoy := by
  have pair : dedupAircraft alongMeridian convoy = [
      entryAt "mn0001" (5 / 222) .multinodeSolve, entryAt "pr0002" (10 / 222) .singleNodeEllipseArc] := by decide +kernel
  intro ⟨unlike, _⟩
  rw [pair, List.pairwise_pair] at unlike
  exact absurd unlike.1 (by decide +kernel)

theorem convoy_leaves_a_duplicate_iff : LeavesNoDuplicate alongMeridian convoy ↔ BestApart alongMeridian convoy :=
  leaves_no_duplicate_iff alongMeridian convoy (by decide +kernel)

end Retina.Feed
