import RetinaServer.Multinode.Keying

/-! The ownership of followed keys. Each publication of a followed aircraft leaves its
measurement epoch under the key it went to, and the keying rule asks whether one lies
close to the solve that it judges. -/
namespace Retina.DarkFollow
open Multinode (KeyingContext)

def followedTtlS : ℚ := 60

structure Publication where
  key : String
  tsS : ℚ
deriving DecidableEq

def Publication.Recorded (p : Publication) : Prop := p.key ≠ "" ∧ 0 < p.tsS

instance (p : Publication) : Decidable p.Recorded := inferInstanceAs (Decidable (_ ∧ _))

abbrev LastFollowPublish := Dict String ℚ

/-- The epoch overwrites the one that the key had, and measures the age of all others. -/
def noteFollowPublish (lastFollowPublish : LastFollowPublish) (p : Publication) : LastFollowPublish :=
  if p.key = "" ∨ p.tsS ≤ 0 then lastFollowPublish
  else (lastFollowPublish.insert p.key p.tsS).filter fun _ t => decide (p.tsS - followedTtlS ≤ t)

def recentlyFollowed (lastFollowPublish : LastFollowPublish) (key : String) (nowS withinS : ℚ) : Bool :=
  (lastFollowPublish.get? key).any fun last => decide (|nowS - last| ≤ withinS)

/-- The keying rule asks with the interval of its settings. -/
theorem recentlyFollowed_of_context (ctx : KeyingContext) (key : String) (nowS : ℚ) :
    Multinode.recentlyFollowed ctx key nowS =
      recentlyFollowed ctx.lastFollowPublish key nowS ctx.settings.darkFollowOwnS := rfl

/-- The memory that publications leave in the order in which they are noted. -/
def noted (publications : List Publication) : LastFollowPublish := publications.foldl noteFollowPublish .empty

/-- The epoch noted last under a key. -/
def lastNoted (publications : List Publication) (key : String) : Option ℚ :=
  ((publications.filter fun p => decide (p.Recorded ∧ p.key = key)).getLast?).map Publication.tsS

/-- Recorded, and not older than the retention by the epoch of any other. -/
structure Retained (publications : List Publication) (p : Publication) : Prop where
  mem : p ∈ publications
  recorded : p.Recorded
  young : ∀ q ∈ publications, q.Recorded → q.tsS - followedTtlS ≤ p.tsS

/-! ### What the memory holds -/

theorem noteFollowPublish_cases (lastFollowPublish : LastFollowPublish) (p : Publication) :
    (¬ p.Recorded ∧ noteFollowPublish lastFollowPublish p = lastFollowPublish) ∨
      (p.Recorded ∧ noteFollowPublish lastFollowPublish p =
        (lastFollowPublish.insert p.key p.tsS).filter fun _ t => decide (p.tsS - followedTtlS ≤ t)) := by
  by_cases ignored : p.key = "" ∨ p.tsS ≤ 0
  · refine .inl ⟨fun recorded => ?_, if_pos ignored⟩
    rcases ignored with unnamed | early
    · exact recorded.1 unnamed
    · exact absurd recorded.2 (not_lt.mpr early)
  · obtain ⟨named, late⟩ := not_or.mp ignored
    exact .inr ⟨⟨named, not_le.mp late⟩, if_neg ignored⟩

theorem lastNoted_append (publications : List Publication) (p : Publication) (key : String) :
    lastNoted (publications ++ [p]) key =
      if p.Recorded ∧ p.key = key then some p.tsS else lastNoted publications key := by
  unfold lastNoted
  rw [List.filter_append]
  split
  · rename_i here
    simp [here]
  · rename_i elsewhere
    simp [elsewhere]

/-- What is held under a key is what was noted last under it. -/
theorem lastNoted_of_held (publications : List Publication) (held : (noted publications).get? key = some t) :
    lastNoted publications key = some t := by
  induction publications using List.reverseRecOn generalizing t with
  | nil => cases held
  | append_singleton before p ih =>
    rw [lastNoted_append]
    rw [noted, List.foldl_append, List.foldl_cons, List.foldl_nil, ← noted] at held
    obtain ⟨ignored, kept⟩ | ⟨recorded, swept⟩ := noteFollowPublish_cases (noted before) p
    · rw [kept] at held
      rw [if_neg fun here => ignored here.1]
      exact ih held
    · rw [swept] at held
      obtain ⟨held, -⟩ := Dict.get?_filter_some held
      rw [Dict.get?_insert] at held
      split at held
      · rename_i here
        rw [if_pos ⟨recorded, here⟩, held]
      · rename_i elsewhere
        rw [if_neg fun here => elsewhere here.2]
        exact ih held

/-- What was noted last under a key is held as long as no epoch is newer by more than the retention. -/
theorem held_of_lastNoted (publications : List Publication) (last : lastNoted publications key = some t)
    (young : ∀ q ∈ publications, q.Recorded → q.tsS - followedTtlS ≤ t) : (noted publications).get? key = some t := by
  induction publications using List.reverseRecOn generalizing t with
  | nil => cases last
  | append_singleton before p ih =>
    have young_before : ∀ q ∈ before, q.Recorded → q.tsS - followedTtlS ≤ t :=
      fun q member => young q (List.mem_append_left _ member)
    rw [lastNoted_append] at last
    rw [noted, List.foldl_append, List.foldl_cons, List.foldl_nil, ← noted]
    obtain ⟨ignored, kept⟩ | ⟨recorded, swept⟩ := noteFollowPublish_cases (noted before) p
    · rw [if_neg fun here => ignored here.1] at last
      rw [kept]
      exact ih last young_before
    · have within : p.tsS - followedTtlS ≤ t := young p (by simp) recorded
      have inserted : ((noted before).insert p.key p.tsS).get? key = some t := by
        rw [Dict.get?_insert]
        split
        · rename_i here
          rwa [if_pos ⟨recorded, here⟩] at last
        · rename_i elsewhere
          rw [if_neg fun here => elsewhere here.2] at last
          exact ih last young_before
      rw [swept, Dict.get?_filter, inserted, Option.filter_some, if_pos (decide_eq_true within)]

/-- A key is owned around every publication that is retained, in whatever order they were
noted, exactly when all of them have the epoch that was noted last under the key. -/
theorem owned_around_all_iff (publications : List Publication) (key : String) :
    (∀ t w, (∃ p, Retained publications p ∧ p.key = key ∧ |t - p.tsS| ≤ w) →
        recentlyFollowed (noted publications) key t w = true) ↔
      ∀ p, Retained publications p → p.key = key → lastNoted publications key = some p.tsS := by
  constructor
  · intro owned p retained named
    have here := owned p.tsS 0 ⟨p, retained, named, by simp⟩
    cases held : (noted publications).get? key with
    | none => simp [recentlyFollowed, held] at here
    | some last =>
      have equal : |p.tsS - last| ≤ 0 := by simpa [recentlyFollowed, held] using here
      have same : p.tsS = last := sub_eq_zero.mp (abs_nonpos_iff.mp equal)
      rw [same]
      exact lastNoted_of_held publications held
  · rintro last t w ⟨p, retained, named, close⟩
    have held := held_of_lastNoted publications (last p retained named) retained.young
    simpa [recentlyFollowed, held] using close

/-- Noted by age, the newer of two publications answers. -/
example : recentlyFollowed (noted [⟨"mn-dark-1", 95⟩, ⟨"mn-dark-1", 100⟩]) "mn-dark-1" 106 6 = true := by decide +kernel

/-- The older of two publications is noted second, and the newer is forgotten. -/
theorem older_overwrites :
    ¬ ∀ t w, (∃ p, Retained [⟨"mn-dark-1", 100⟩, ⟨"mn-dark-1", 95⟩] p ∧ p.key = "mn-dark-1" ∧ |t - p.tsS| ≤ w) →
        recentlyFollowed (noted [⟨"mn-dark-1", 100⟩, ⟨"mn-dark-1", 95⟩]) "mn-dark-1" t w = true := by
  intro owned
  have retained : Retained [⟨"mn-dark-1", 100⟩, ⟨"mn-dark-1", 95⟩] ⟨"mn-dark-1", 100⟩ :=
    ⟨by decide, by decide +kernel, by decide +kernel⟩
  have answer := owned 106 6 ⟨_, retained, rfl, by decide +kernel⟩
  revert answer
  decide +kernel

end Retina.DarkFollow
