import RetinaServer.Library.Dict
import RetinaServer.Library.Machines
import RetinaServer.Library.Rounding

/-! The analytics and the associator under a retirement. What they hold of the node
goes, and so does what other nodes hold against it; the digest that its overlap
grids were last built under stays with the coverage cycle. -/
namespace Retina.Retirement
open Machines

/-- One bin of a coverage digest: a limit of the prior, or a learned bin with its state. -/
inductive DigestBin where
  | prior (limitKm : ℚ)
  | learned (stateCode : String) (limitKm : ℚ)
deriving DecidableEq, Repr

/-- A bin at the grain that rebuilds are decided on. -/
inductive QuantizedBin where
  | prior (bucket : ℤ)
  | learned (stateCode : String) (bucket : ℤ)
deriving DecidableEq, Repr

abbrev Digest := List (Option QuantizedBin)

def coverageDigestQuantKm : ℚ := 2
def coverageRecheckMinS : ℚ := 150
def coverageMaxNodesPerCycle : Nat := 3

def quantizeBin : DigestBin → QuantizedBin
  | .prior limitKm => .prior (Rounding.roundHalfEven (limitKm / coverageDigestQuantKm))
  | .learned stateCode limitKm => .learned stateCode (Rounding.roundHalfEven (limitKm / coverageDigestQuantKm))

def quantizeDigest (digest : List (Option DigestBin)) : Digest := digest.map (Option.map quantizeBin)

/-- The associator's nodes and overlap pairs, what the analytics have observed of each node, the neighbours each node's
reputation is flagged for, and the coverage cycle's four stores. -/
structure Coverage (A : Type u) where
  nodeGeometries : Dict String Unit
  overlapPairs : List (String × String)
  areas : Dict String A
  conditionActive : Dict String (List String)
  coverageDigests : Dict String Digest
  coverageNextCheck : Dict String ℚ
  coveragePending : Dict String Digest
  coveragePendingSince : Dict String ℚ

inductive CoverageEvent (A : Type u) where
  /-- `register_node`, with the nodes whose areas overlap the new one's. -/
  | registered (n : String) (overlapping : List String)
  | observed (n : String) (area : A)
  /-- A node disagrees with its neighbour. -/
  | disagreed (n neighbour : String)
  | refreshed (monotonic : ℚ)

/-- What a coverage event comes to, as far as anybody reads it. -/
inductive CoverageSight where
  | quiet
  /-- The disagreement is new, and costs the node its onset penalty. -/
  | onset (new : Bool)
  /-- The depth of the queue after the scan, the nodes whose grids are rebuilt, what is still owed and for how long. -/
  | cycle (depth : Nat) (rebuilt : List String) (backlog : Nat) (oldestWaitS : ℚ)

def Coverage.empty {A : Type u} : Coverage A := ⟨.empty, [], .empty, .empty, .empty, .empty, .empty, .empty⟩

section
variable {A : Type u} (digestOf : A → Option (List (Option DigestBin)))

/-- `coverage_digest`: a node that nothing is known of has none. -/
def coverageDigest (s : Coverage A) (n : String) : Option (List (Option DigestBin)) := (s.areas.get? n).bind digestOf

def scanNode (now : ℚ) (s : Coverage A) (n : String) : Coverage A :=
  if (s.coverageDigests.get? n).isSome ∧ now < (s.coverageNextCheck.get? n).getD 0 then s
  else match coverageDigest digestOf s n with
    | none => s
    | some digest =>
        let s := { s with coverageNextCheck := s.coverageNextCheck.insert n (now + coverageRecheckMinS) }
        if s.coverageDigests.get? n = some (quantizeDigest digest) then
          { s with
            coveragePending := s.coveragePending.erase n
            coveragePendingSince := s.coveragePendingSince.erase n }
        else
          { s with
            coveragePending := s.coveragePending.insert n (quantizeDigest digest)
            coveragePendingSince :=
              s.coveragePendingSince.insert n ((s.coveragePendingSince.get? n).getD now) }

def scanCoverageConstraints (now : ℚ) (s : Coverage A) : Coverage A :=
  s.nodeGeometries.keys.foldl (scanNode digestOf now) s

/-- The front of the queue is taken up to the budget, and each digest recorded before its grids are rebuilt. -/
def drainCoverageRebuilds : Nat → Coverage A → List String × Coverage A
  | 0, s => ([], s)
  | budget + 1, s => match s.coveragePending.items with
    | [] => ([], s)
    | (n, digest) :: _ =>
        let later := drainCoverageRebuilds budget { s with
          coveragePending := s.coveragePending.erase n
          coveragePendingSince := s.coveragePendingSince.erase n
          coverageDigests := s.coverageDigests.insert n digest }
        (n :: later.1, later.2)

def oldestWaitS (now : ℚ) (s : Coverage A) : ℚ :=
  match s.coveragePendingSince.values.min? with
  | none => 0
  | some first => now - first

def coverage : Machine (Coverage A) (CoverageEvent A) CoverageSight where
  step s
    | .registered n overlapping => { s with
        nodeGeometries := s.nodeGeometries.insert n ()
        overlapPairs := s.overlapPairs ++ (overlapping.filter fun m => s.nodeGeometries.keys.contains m).map fun m => (n, m) }
    | .observed n area => { s with areas := s.areas.insert n area }
    | .disagreed n neighbour =>
        let flags := (s.conditionActive.get? n).getD []
        { s with conditionActive :=
            s.conditionActive.insert n (if neighbour ∈ flags then flags else flags ++ [neighbour]) }
    | .refreshed now => (drainCoverageRebuilds coverageMaxNodesPerCycle (scanCoverageConstraints digestOf now s)).2
  shown s
    | .registered _ _ | .observed _ _ => .quiet
    | .disagreed n neighbour => .onset (decide (neighbour ∉ (s.conditionActive.get? n).getD []))
    | .refreshed now =>
        let scanned := scanCoverageConstraints digestOf now s
        let drained := drainCoverageRebuilds coverageMaxNodesPerCycle scanned
        .cycle scanned.coveragePending.size drained.1 drained.2.coveragePending.size (oldestWaitS now drained.2)

/-- `retire_node`, `_forget_as_neighbour` and `unregister_node`. -/
def forgetCoverage (n : String) (s : Coverage A) : Coverage A :=
  { s with
    nodeGeometries := s.nodeGeometries.erase n
    overlapPairs := s.overlapPairs.filter fun pair => decide (pair.1 ≠ n ∧ pair.2 ≠ n)
    areas := s.areas.erase n
    conditionActive := (s.conditionActive.erase n).mapValues fun flags => flags.filter fun m => decide (m ≠ n) }

/-- The coverage cycle without the node. -/
def dropDigests (n : String) (s : Coverage A) : Coverage A :=
  { s with
    coverageDigests := s.coverageDigests.erase n
    coverageNextCheck := s.coverageNextCheck.erase n
    coveragePending := s.coveragePending.erase n
    coveragePendingSince := s.coveragePendingSince.erase n }

def unseenCoverage (n : String) (s : Coverage A) : Coverage A := dropDigests n (forgetCoverage n s)

/-- No grids are remembered to be built under a digest of the node's, and none are owed to it. -/
structure SpotlessCoverage (n : String) (s : Coverage A) : Prop where
  built : s.coverageDigests.get? n = none
  owed : s.coveragePending.get? n = none

/-- Some area has the digest. -/
def Attained (digest : Digest) : Prop := ∃ area raw, digestOf area = some raw ∧ quantizeDigest raw = digest

structure SoundCoverage (s : Coverage A) : Prop where
  built : ∀ n digest, s.coverageDigests.get? n = some digest → Attained digestOf digest
  owed : ∀ n digest, s.coveragePending.get? n = some digest → Attained digestOf digest
  checked : ∀ n, (s.coverageNextCheck.get? n).isSome = true →
    (s.coverageDigests.get? n).isSome = true ∨ (s.coveragePending.get? n).isSome = true
  waiting : ∀ n, (s.coveragePendingSince.get? n).isSome = (s.coveragePending.get? n).isSome

theorem sound_empty : SoundCoverage digestOf (Coverage.empty : Coverage A) := by
  refine ⟨?_, ?_, ?_, fun n => rfl⟩
  · intro n digest found
    cases found
  · intro n digest found
    cases found
  · intro n found
    cases found

variable {digestOf}

theorem sound_scanNode {s : Coverage A} (sound : SoundCoverage digestOf s) (now : ℚ) (n : String) :
    SoundCoverage digestOf (scanNode digestOf now s n) := by
  rw [scanNode]
  split
  · exact sound
  · cases known : coverageDigest digestOf s n with
    | none => exact sound
    | some raw =>
      obtain ⟨area, -, digested⟩ := Option.bind_eq_some_iff.mp known
      simp only
      split
      · rename_i same
        -- The node moved back before its turn came, and its digest stands.
        refine ⟨sound.built, ?_, ?_, ?_⟩
        · intro m digest found
          rw [Dict.get?_erase] at found
          split at found
          · cases found
          · exact sound.owed m digest found
        · intro m checked
          by_cases own : n = m
          · subst own
            exact .inl (by rw [same]; rfl)
          · simp only [Dict.get?_insert_ne _ _ own] at checked
            simpa only [Dict.get?_erase_ne _ own] using sound.checked m checked
        · intro m
          simp only [Dict.get?_erase]
          split
          · rfl
          · exact sound.waiting m
      · refine ⟨sound.built, ?_, ?_, ?_⟩
        · intro m digest found
          rw [Dict.get?_insert] at found
          split at found
          · exact ⟨area, raw, digested, Option.some.inj found⟩
          · exact sound.owed m digest found
        · intro m checked
          by_cases own : n = m
          · subst own
            exact .inr (by simp only [Dict.get?_insert_self, Option.isSome_some])
          · simp only [Dict.get?_insert_ne _ _ own] at checked ⊢
            exact sound.checked m checked
        · intro m
          simp only [Dict.get?_insert]
          split
          · rfl
          · exact sound.waiting m

theorem sound_scan {s : Coverage A} (sound : SoundCoverage digestOf s) (now : ℚ) (nodes : List String) :
    SoundCoverage digestOf (nodes.foldl (scanNode digestOf now) s) := by
  induction nodes generalizing s with
  | nil => exact sound
  | cons n rest ih => exact ih (sound_scanNode sound now n)

theorem sound_drain {s : Coverage A} (sound : SoundCoverage digestOf s) (budget : Nat) :
    SoundCoverage digestOf (drainCoverageRebuilds budget s).2 := by
  induction budget generalizing s with
  | zero => exact sound
  | succ budget ih =>
    rw [drainCoverageRebuilds]
    split
    · exact sound
    · rename_i n digest rest front
      have first : s.coveragePending.get? n = some digest :=
        (Dict.get?_eq_some_iff _ n digest).mpr (by rw [front]; exact List.mem_cons_self)
      refine ih ⟨?_, ?_, ?_, ?_⟩
      · intro m digest' found
        rw [Dict.get?_insert] at found
        split at found
        · exact Option.some.inj found ▸ sound.owed n digest first
        · exact sound.built m digest' found
      · intro m digest' found
        rw [Dict.get?_erase] at found
        split at found
        · cases found
        · exact sound.owed m digest' found
      · intro m checked
        simp only [Dict.get?_insert, Dict.get?_erase]
        split
        · exact .inl rfl
        · exact sound.checked m checked
      · intro m
        simp only [Dict.get?_erase]
        split
        · rfl
        · exact sound.waiting m

theorem sound_coverage {s : Coverage A} (sound : SoundCoverage digestOf s) (e : CoverageEvent A) :
    SoundCoverage digestOf ((coverage digestOf).step s e) := by
  cases e with
  | registered n overlapping => exact ⟨sound.built, sound.owed, sound.checked, sound.waiting⟩
  | observed n area => exact ⟨sound.built, sound.owed, sound.checked, sound.waiting⟩
  | disagreed n neighbour => exact ⟨sound.built, sound.owed, sound.checked, sound.waiting⟩
  | refreshed now => exact sound_drain (sound_scan sound now _) coverageMaxNodesPerCycle

theorem sound_forgetCoverage {s : Coverage A} (sound : SoundCoverage digestOf s) (n : String) :
    SoundCoverage digestOf (forgetCoverage n s) :=
  ⟨sound.built, sound.owed, sound.checked, sound.waiting⟩

/-! ### The cycle with and without the node -/

variable (digestOf)

/-- The scan of another node does not look at the node's entries. -/
theorem scanNode_dropDigests (now : ℚ) (s : Coverage A) (other : m ≠ n) :
    scanNode digestOf now (dropDigests n s) m = dropDigests n (scanNode digestOf now s m) := by
  have known : coverageDigest digestOf (dropDigests n s) m = coverageDigest digestOf s m := rfl
  simp only [scanNode, known]
  simp only [dropDigests, Dict.get?_erase_ne _ (Ne.symm other)]
  split
  · rfl
  · cases coverageDigest digestOf s m with
    | none => rfl
    | some raw =>
      simp only
      split
      · simp only [Dict.erase_insert_ne _ _ other, Dict.erase_comm _ n m]
      · simp only [Dict.erase_insert_ne _ _ other]

theorem scan_dropDigests (now : ℚ) (s : Coverage A) (nodes : List String) (absent : n ∉ nodes) :
    nodes.foldl (scanNode digestOf now) (dropDigests n s) = dropDigests n (nodes.foldl (scanNode digestOf now) s) := by
  induction nodes generalizing s with
  | nil => rfl
  | cons m rest ih =>
    rw [List.mem_cons, not_or] at absent
    rw [List.foldl_cons, List.foldl_cons, scanNode_dropDigests digestOf now s (Ne.symm absent.1), ih _ absent.2]

/-- What the scan of others leaves of a node. -/
structure SameFor (n : String) (s s' : Coverage A) : Prop where
  built : s'.coverageDigests.get? n = s.coverageDigests.get? n
  owed : s'.coveragePending.get? n = s.coveragePending.get? n
  area : s'.areas = s.areas

theorem sameFor_scanNode (now : ℚ) (s : Coverage A) (other : m ≠ n) : SameFor n s (scanNode digestOf now s m) := by
  rw [scanNode]
  split
  · exact ⟨rfl, rfl, rfl⟩
  · cases coverageDigest digestOf s m with
    | none => exact ⟨rfl, rfl, rfl⟩
    | some raw =>
      simp only
      split
      · exact ⟨rfl, Dict.get?_erase_ne _ other, rfl⟩
      · exact ⟨rfl, Dict.get?_insert_ne _ _ other, rfl⟩

theorem sameFor_scan (now : ℚ) (s : Coverage A) (nodes : List String) (absent : n ∉ nodes) :
    SameFor n s (nodes.foldl (scanNode digestOf now) s) := by
  induction nodes generalizing s with
  | nil => exact ⟨rfl, rfl, rfl⟩
  | cons m rest ih =>
    rw [List.mem_cons, not_or] at absent
    have first := sameFor_scanNode digestOf now s (Ne.symm absent.1)
    have later := ih (scanNode digestOf now s m) absent.2
    exact ⟨later.built.trans first.built, later.owed.trans first.owed, later.area.trans first.area⟩

def CoverageSight.depth? : CoverageSight → Option Nat
  | .cycle depth _ _ _ => some depth
  | _ => none

theorem depth?_refreshed (s : Coverage A) (now : ℚ) :
    ((coverage digestOf).shown s (.refreshed now)).depth? =
      some (scanCoverageConstraints digestOf now s).coveragePending.size := rfl

theorem absent_of_erased (s : Coverage A) (n : String) : n ∉ (forgetCoverage n s).nodeGeometries.keys :=
  (Dict.get?_eq_none_iff _ n).mp (Dict.get?_erase_self s.nodeGeometries n)

/-- A queued node that is gone deepens the queue for good. -/
theorem depth_of_owed (s : Coverage A) (now : ℚ) (owed : (s.coveragePending.get? n).isSome = true) :
    (scanCoverageConstraints digestOf now (unseenCoverage n s)).coveragePending.size + 1 =
      (scanCoverageConstraints digestOf now (forgetCoverage n s)).coveragePending.size := by
  have absent := absent_of_erased s n
  have kept := (sameFor_scan digestOf now (forgetCoverage n s) _ absent).owed
  have split_ := scan_dropDigests digestOf now (forgetCoverage n s) _ absent
  have counted := Dict.size_erase (scanCoverageConstraints digestOf now (forgetCoverage n s)).coveragePending n
  have still : ((scanCoverageConstraints digestOf now (forgetCoverage n s)).coveragePending.get? n).isSome = true := by
    rw [scanCoverageConstraints, kept]
    exact owed
  rw [if_pos still] at counted
  rw [← counted]
  exact congrArg (fun s => s.coveragePending.size + 1) split_

/-- The node is registered anew, and observed until it has come to an area. -/
def reobserved (n : String) (area : A) (s : Coverage A) : Coverage A :=
  (coverage digestOf).step ((coverage digestOf).step s (.registered n [])) (.observed n area)

theorem keys_reobserved (n : String) (area : A) (s : Coverage A) :
    (reobserved digestOf n area (forgetCoverage n s)).nodeGeometries.keys =
      (forgetCoverage n s).nodeGeometries.keys ++ [n] := by
  simp only [reobserved, coverage, Dict.keys_insert]
  rw [if_neg (absent_of_erased s n)]

/-- The digest that was left keeps the node's first grids from being built. -/
theorem depth_of_built {area : A} {raw : List (Option DigestBin)} (s : Coverage A) (now : ℚ)
    (digested : digestOf area = some raw) (built : s.coverageDigests.get? n = some (quantizeDigest raw))
    (unowed : s.coveragePending.get? n = none) :
    (scanCoverageConstraints digestOf now (reobserved digestOf n area (unseenCoverage n s))).coveragePending.size =
      (scanCoverageConstraints digestOf now (reobserved digestOf n area (forgetCoverage n s))).coveragePending.size
        + 1 := by
  have absent := absent_of_erased s n
  have keys := keys_reobserved digestOf n area s
  have apart : reobserved digestOf n area (unseenCoverage n s) =
      dropDigests n (reobserved digestOf n area (forgetCoverage n s)) := rfl
  generalize reached : reobserved digestOf n area (forgetCoverage n s) = s₁ at keys apart ⊢
  have areas : s₁.areas.get? n = some area := by
    rw [← reached]
    exact Dict.get?_insert_self _ n area
  have digest₁ : s₁.coverageDigests.get? n = some (quantizeDigest raw) := by
    rw [← reached]
    exact built
  have pending₁ : s₁.coveragePending.get? n = none := by
    rw [← reached]
    exact unowed
  have drops : (dropDigests n s₁).nodeGeometries.keys = s₁.nodeGeometries.keys := rfl
  rw [apart, scanCoverageConstraints, scanCoverageConstraints, drops, keys, List.foldl_append, List.foldl_append,
    scan_dropDigests digestOf now s₁ _ absent]
  have same := sameFor_scan digestOf now s₁ _ absent
  generalize (forgetCoverage n s).nodeGeometries.keys.foldl (scanNode digestOf now) s₁ = s₂ at same ⊢
  have known : coverageDigest digestOf s₂ n = some raw := by
    rw [coverageDigest, same.area, areas, Option.bind_some, digested]
  have known' : coverageDigest digestOf (dropDigests n s₂) n = some raw := known
  have unqueued : s₂.coveragePending.get? n = none := same.owed.trans pending₁
  -- Left with its digest, the node is skipped or found where it was; without one it is queued.
  have left : (scanNode digestOf now s₂ n).coveragePending = s₂.coveragePending := by
    rw [scanNode]
    split
    · rfl
    · simp only [known, same.built, digest₁, if_true]
      exact Dict.erase_of_absent unqueued
  have queued : (scanNode digestOf now (dropDigests n s₂) n).coveragePending =
      (s₂.coveragePending.erase n).insert n (quantizeDigest raw) := by
    have none_built : (dropDigests n s₂).coverageDigests.get? n = none := Dict.get?_erase_self _ n
    simp only [scanNode, none_built, Option.isSome_none, Bool.false_eq_true, false_and, if_false, known', reduceCtorEq]
    rfl
  simp only [List.foldl_cons, List.foldl_nil, left, queued, Dict.erase_of_absent unqueued]
  rw [Dict.size, Dict.items_insert_new _ unqueued, List.length_append, List.length_singleton, Dict.size]

variable {digestOf} in
/-- A retired node's coverage is scanned and rebuilt as an unseen node's exactly when it left no digest behind. -/
theorem coverage_alike_iff {s : Coverage A} (sound : SoundCoverage digestOf s) (n : String) :
    Alike (coverage digestOf) (fun _ => True) (forgetCoverage n s) (unseenCoverage n s) ↔ SpotlessCoverage n s := by
  constructor
  · intro alike
    have unowed : s.coveragePending.get? n = none := by
      by_contra owed
      have same := congrArg CoverageSight.depth? (alike.shown (e := .refreshed 0) trivial)
      rw [depth?_refreshed, depth?_refreshed, Option.some.injEq, ← depth_of_owed digestOf s 0 (Option.ne_none_iff_isSome.mp owed)] at same
      omega
    refine ⟨?_, unowed⟩
    by_contra left
    obtain ⟨digest, built⟩ := Option.ne_none_iff_exists'.mp left
    obtain ⟨area, raw, digested, rfl⟩ := sound.built n digest built
    have registered := (alike.step (e := .registered n []) trivial).step (e := .observed n area) trivial
    have same := congrArg CoverageSight.depth? (registered.shown (e := .refreshed 0) trivial)
    rw [depth?_refreshed, depth?_refreshed, Option.some.injEq] at same
    have deeper := depth_of_built digestOf s 0 digested built unowed
    simp only [reobserved] at deeper
    omega
  · rintro ⟨built, owed⟩
    have unchecked : s.coverageNextCheck.get? n = none := by
      by_contra checked
      have either := sound.checked n (Option.ne_none_iff_isSome.mp checked)
      rw [built, owed] at either
      simp at either
    have unwaiting : s.coveragePendingSince.get? n = none := by
      have agree := sound.waiting n
      rw [owed, Option.isSome_none, Option.isSome_eq_false_iff, Option.isNone_iff_eq_none] at agree
      exact agree
    have equal : unseenCoverage n s = forgetCoverage n s := by
      simp only [unseenCoverage, dropDigests, forgetCoverage, Dict.erase_of_absent built, Dict.erase_of_absent owed,
        Dict.erase_of_absent unchecked, Dict.erase_of_absent unwaiting]
    rw [equal]
    exact Alike.refl _

end
end Retina.Retirement
