import RetinaServer.Library.Dict
import Mathlib.Data.List.Dedup
import Mathlib.Data.List.Sort
import Mathlib.Algebra.Order.Ring.Rat
import Mathlib.Tactic.Linarith
import Mathlib.Algebra.Order.Group.Defs

/-! One-sided retention. A writer stamps an entry, and a pruner drops what is too old by its stamp. An entry goes
within its retention of what last touched it exactly when no stamp is ahead of the arrival of what it stamps. -/
namespace Retention

/-- What a pruner sees of a store, and when what last touched each entry arrived. -/
structure View (ι : Type u) (α : Type v) where
  stamp : ι → Option α
  arrived : ι → α

variable {ι : Type u} {α : Type v} [AddCommGroup α] [LinearOrder α] [IsOrderedAddMonoid α] {retention : ι → α}

/-- The pruner's test. -/
def View.Kept (retention : ι → α) (view : View ι α) (now : α) (i : ι) : Prop :=
  ∃ stamp, view.stamp i = some stamp ∧ now - stamp ≤ retention i

/-- No entry outlasts its retention from the arrival on. -/
def View.Mortal (retention : ι → α) (view : View ι α) : Prop :=
  ∀ i now, view.arrived i + retention i < now → ¬ view.Kept retention now i

/-- What arrives touches some entries and gives each of them its stamp; others it leaves, or takes out. -/
structure Touches (view view' : View ι α) (touched : ι → Prop) (stamp arrival : α) : Prop where
  arrived : ∀ i, touched i → view'.arrived i = arrival
  stamped : ∀ i, touched i → ∀ stamp', view'.stamp i = some stamp' → stamp' = stamp
  others : ∀ i, ¬ touched i → view'.arrived i = view.arrived i ∧
    ∀ stamp', view'.stamp i = some stamp' → view.stamp i = some stamp'

variable {view view' : View ι α}

theorem mortal_iff : view.Mortal retention ↔ ∀ i stamp, view.stamp i = some stamp → stamp ≤ view.arrived i := by
  constructor
  · intro mortal i stamp stamped
    by_contra ahead
    rw [not_le] at ahead
    refine mortal i (stamp + retention i) (add_lt_add_left ahead _) ⟨stamp, stamped, ?_⟩
    rw [add_sub_cancel_left]
  · rintro within i now late ⟨stamp, stamped, kept⟩
    have early : now ≤ stamp + retention i := sub_le_iff_le_add'.mp kept
    have bound : stamp + retention i ≤ view.arrived i + retention i := add_le_add_left (within i stamp stamped) _
    exact absurd (late.trans_le (early.trans bound)) (lt_irrefl _)

/-- What only takes entries out keeps the rest mortal. -/
theorem mortal_of_thinned (mortal : view.Mortal retention) (arrived : ∀ i, view'.arrived i = view.arrived i)
    (thinned : ∀ i stamp, view'.stamp i = some stamp → view.stamp i = some stamp) : view'.Mortal retention := by
  rw [mortal_iff] at mortal ⊢
  intro i stamp stamped
  rw [arrived]
  exact mortal i stamp (thinned i stamp stamped)

theorem Touches.mortal {touched : ι → Prop} (touches : Touches view view' touched stamp arrival)
    (mortal : view.Mortal retention) (within : stamp ≤ arrival) : view'.Mortal retention := by
  rw [mortal_iff] at mortal ⊢
  intro i stamp' stamped
  by_cases here : touched i
  · rw [touches.arrived i here, touches.stamped i here stamp' stamped]
    exact within
  · rw [(touches.others i here).1]
    exact mortal i stamp' ((touches.others i here).2 stamp' stamped)

/-- Where an entry is left touched, the stores stay mortal exactly when the stamp is not ahead. -/
theorem Touches.mortal_iff {touched : ι → Prop} (touches : Touches view view' touched stamp arrival)
    (mortal : view.Mortal retention) (here : touched i) (stamped : view'.stamp i = some stamp) :
    view'.Mortal retention ↔ stamp ≤ arrival := by
  constructor
  · intro after
    rw [← touches.arrived i here]
    exact Retention.mortal_iff.mp after i stamp stamped
  · exact touches.mortal mortal

end Retention

/-! A bounded memory of when each key was last seen. Each sighting stamps its own keys over what the memory had, which
is pruned to an age and trimmed to a size, oldest first, as it is written. Sightings that come in the order of their
times leave in it exactly the newest of what was seen. -/
namespace Recollection

variable {κ : Type u} [DecidableEq κ]

structure Sighting (κ : Type u) where
  time : ℚ
  seen : List κ
deriving DecidableEq

section
variable (maxAge : ℚ) (maxSize : Nat) (recent : Dict κ ℚ) (own : List κ) (now : ℚ)

/-- What is young enough at the time of a write. -/
def young : Dict κ ℚ := recent.filter fun _ t => decide (|now - t| ≤ maxAge)

def others : Dict κ ℚ := (young maxAge recent now).filter fun k _ => decide (k ∉ own.dedup)

/-- The others of the young, newest first, as many as fit beside the write's own. -/
def trimmed : List (κ × ℚ) :=
  ((others maxAge recent own now).items.insertionSort fun a b => b.2 ≤ a.2).take (maxSize - own.dedup.length)

/-- What a write keeps of the memory. -/
def kept : Dict κ ℚ :=
  if maxSize < (young maxAge recent now).items.length + own.dedup.length then Dict.ofList (trimmed maxAge maxSize recent own now)
  else young maxAge recent now

def merge : Dict κ ℚ := own.dedup.foldl (fun d k => d.insert k now) (kept maxAge maxSize recent own now)

end

/-- The latest time at which the key was seen. -/
def LastSeen (history : List (Sighting κ)) (k : κ) (t : ℚ) : Prop :=
  (∃ s ∈ history, k ∈ s.seen ∧ s.time = t) ∧ ∀ s ∈ history, k ∈ s.seen → s.time ≤ t

/-- The memory after a sighting: its own keys, and of the others those seen within the age, each with the time it was
last seen; all of them, or as many as fit, and then the newest. -/
structure Exact (maxAge : ℚ) (maxSize : Nat) (history : List (Sighting κ)) (last : Sighting κ) (recent : Dict κ ℚ) :
    Prop where
  lastSeen : ∀ k t, recent.get? k = some t → LastSeen history k t ∧ |last.time - t| ≤ maxAge
  own : ∀ k ∈ last.seen, recent.get? k = some last.time
  newest : ∀ k t, LastSeen history k t → |last.time - t| ≤ maxAge → recent.get? k = none →
    maxSize ≤ recent.size ∧ ∀ k' t', recent.get? k' = some t' → k' ∉ last.seen → t ≤ t'
  capped : recent.size ≤ max maxSize last.seen.dedup.length

/-- What holds of the memory in whatever order the sightings come: its own keys are in it, and every time in it is one
at which the key was seen. -/
structure Drawn (maxAge : ℚ) (maxSize : Nat) (history : List (Sighting κ)) (last : Sighting κ) (recent : Dict κ ℚ) :
    Prop where
  drawn : ∀ k t, recent.get? k = some t → (∃ s ∈ history, k ∈ s.seen ∧ s.time = t) ∧ |last.time - t| ≤ maxAge
  own : ∀ k ∈ last.seen, recent.get? k = some last.time
  capped : recent.size ≤ max maxSize last.seen.dedup.length

/-- What a write relies on of the memory it finds. -/
structure Prior (maxAge : ℚ) (maxSize : Nat) (history : List (Sighting κ)) (now : ℚ) (recent : Dict κ ℚ) : Prop where
  lastSeen : ∀ k t, recent.get? k = some t → LastSeen history k t
  newest : ∀ k t, LastSeen history k t → |now - t| ≤ maxAge → recent.get? k = none →
    maxSize ≤ recent.size ∧ ∀ k' t', recent.get? k' = some t' → t ≤ t'

/-! ### Sizes -/

theorem size_le_of_held {d d' : Dict κ ℚ} (within : ∀ k t, d.get? k = some t → d'.get? k ≠ none) : d.size ≤ d'.size := by
  have listed : d.size ≤ d'.keys.length := Dict.size_le_of_keys fun k held => by
    obtain ⟨t, found⟩ := Option.ne_none_iff_exists'.mp held
    exact not_not.mp fun gone => within k t found ((Dict.get?_eq_none_iff d' k).mpr gone)
  rwa [Dict.keys, List.length_map] at listed

/-- Keys that are new each add one. -/
theorem size_foldl_insert (items : List (κ × ℚ)) (d : Dict κ ℚ) (distinct : (items.map Prod.fst).Nodup)
    (new : ∀ item ∈ items, item.1 ∉ d.keys) :
    (items.foldl (fun d item => d.insert item.1 item.2) d).size = d.size + items.length := by
  induction items generalizing d with
  | nil => rfl
  | cons item rest ih =>
    obtain ⟨once, distinct⟩ := List.nodup_cons.mp distinct
    have here := Dict.keys_insert_of_notMem item.2 (new item List.mem_cons_self)
    have longer : (d.insert item.1 item.2).size = d.size + 1 := by
      simpa [Dict.keys, Dict.size] using congrArg List.length here
    rw [List.foldl_cons, ih _ distinct, longer, List.length_cons, Nat.add_assoc, Nat.add_comm 1]
    intro later member
    rw [here, List.mem_append, List.mem_singleton, not_or]
    exact ⟨new later (List.mem_cons_of_mem _ member), fun same => once (same ▸ List.mem_map_of_mem member)⟩

theorem size_foldl_insert_le (keys : List κ) (now : ℚ) (d : Dict κ ℚ) :
    (keys.foldl (fun d k => d.insert k now) d).size ≤ d.size + keys.length := by
  induction keys generalizing d with
  | nil => exact Nat.le_refl _
  | cons k rest ih =>
    have here : (d.insert k now).size ≤ d.size + 1 := by
      by_cases present : k ∈ d.keys
      · have same := congrArg List.length (Dict.keys_insert_of_mem now present)
        simp only [Dict.keys, List.length_map] at same
        simp only [Dict.size, same, Nat.le_succ]
      · have longer := congrArg List.length (Dict.keys_insert_of_notMem now present)
        simp only [Dict.keys, List.length_map, List.length_append, List.length_singleton] at longer
        simp only [Dict.size, longer, Nat.le_refl]
    have later := ih (d.insert k now)
    rw [List.foldl_cons, List.length_cons]
    omega

/-! ### What a write keeps -/

section
variable {maxAge : ℚ} {maxSize : Nat} {recent : Dict κ ℚ} {own : List κ} {now : ℚ}

theorem get?_young : (young maxAge recent now).get? k = some t ↔ recent.get? k = some t ∧ |now - t| ≤ maxAge := by
  rw [young, Dict.get?_filter, Option.filter_eq_some_iff, decide_eq_true_eq]

theorem get?_others : (others maxAge recent own now).get? k = some t ↔
    (recent.get? k = some t ∧ |now - t| ≤ maxAge) ∧ k ∉ own := by
  rw [others, Dict.get?_filter, Option.filter_eq_some_iff, get?_young, decide_eq_true_eq, List.mem_dedup]

theorem trimmed_distinct : ((trimmed maxAge maxSize recent own now).map Prod.fst).Nodup := by
  have sorted := ((List.perm_insertionSort (fun a b : κ × ℚ => b.2 ≤ a.2)
    (others maxAge recent own now).items).map Prod.fst).nodup_iff.mpr (others maxAge recent own now).nodup
  exact sorted.sublist ((List.take_sublist _ _).map Prod.fst)

theorem other_of_trimmed (listed : item ∈ trimmed maxAge maxSize recent own now) :
    (others maxAge recent own now).get? item.1 = some item.2 :=
  (Dict.get?_eq_some_iff ..).mpr ((List.perm_insertionSort _ _).mem_iff.mp (List.mem_of_mem_take listed))

/-- What does not fit is no newer than what does, and then all the room is taken. -/
theorem newest_trimmed (other : (others maxAge recent own now).get? k = some t)
    (dropped : (k, t) ∉ trimmed maxAge maxSize recent own now) :
    (trimmed maxAge maxSize recent own now).length = maxSize - own.dedup.length ∧
      ∀ item ∈ trimmed maxAge maxSize recent own now, t ≤ item.2 := by
  have total : Std.Total fun a b : κ × ℚ => b.2 ≤ a.2 := ⟨fun a b => le_total b.2 a.2⟩
  have transitive : IsTrans (κ × ℚ) fun a b => b.2 ≤ a.2 := ⟨fun _ _ _ first second => second.trans first⟩
  have sorted := List.pairwise_insertionSort (fun a b : κ × ℚ => b.2 ≤ a.2) (others maxAge recent own now).items
  have listed : (k, t) ∈ (others maxAge recent own now).items.insertionSort fun a b => b.2 ≤ a.2 :=
    (List.perm_insertionSort _ _).mem_iff.mpr ((Dict.get?_eq_some_iff ..).mp other)
  rw [← List.take_append_drop (maxSize - own.dedup.length)
    ((others maxAge recent own now).items.insertionSort fun a b => b.2 ≤ a.2)] at sorted listed
  have late := (List.mem_append.mp listed).resolve_left dropped
  refine ⟨?_, fun item member => (List.pairwise_append.mp sorted).2.2 item member (k, t) late⟩
  rw [trimmed, List.length_take]
  have short := List.length_pos_of_mem late
  rw [List.length_drop] at short
  omega

theorem kept_sub (found : (kept maxAge maxSize recent own now).get? k = some t) :
    recent.get? k = some t ∧ |now - t| ≤ maxAge := by
  rw [kept] at found
  split at found
  · have listed := (Dict.get?_ofList_eq_some_iff _ trimmed_distinct).mp found
    exact (get?_others.mp (other_of_trimmed listed)).1
  · exact get?_young.mp found

theorem get?_merge (k : κ) : (merge maxAge maxSize recent own now).get? k =
    if k ∈ own then some now else (kept maxAge maxSize recent own now).get? k := by
  rw [merge, Dict.get?_foldl_insert_const]
  simp only [List.mem_dedup]

/-- A write that trims keeps none of its own, so that they are added to as many as are kept. -/
theorem size_merge_of_trimmed (trims : maxSize < (young maxAge recent now).items.length + own.dedup.length) :
    (merge maxAge maxSize recent own now).size = (trimmed maxAge maxSize recent own now).length + own.dedup.length := by
  have keptSize : (kept maxAge maxSize recent own now).size = (trimmed maxAge maxSize recent own now).length := by
    rw [kept, if_pos trims, Dict.ofList, size_foldl_insert _ _ trimmed_distinct (fun _ _ => List.not_mem_nil)]
    exact Nat.zero_add _
  have stamps : merge maxAge maxSize recent own now =
      (own.dedup.map fun k => (k, now)).foldl (fun d item => d.insert item.1 item.2) (kept maxAge maxSize recent own now) := by
    rw [merge, List.foldl_map]
  rw [stamps, size_foldl_insert, keptSize, List.length_map]
  · rw [List.map_map, show (Prod.fst ∘ fun k : κ => (k, now)) = fun k => k from rfl, List.map_id']
    exact List.nodup_dedup own
  · intro item member present
    obtain ⟨k, mine, rfl⟩ := List.mem_map.mp member
    have held : (kept maxAge maxSize recent own now).get? k ≠ none := fun absent =>
      (Dict.get?_eq_none_iff ..).mp absent present
    obtain ⟨t, found⟩ := Option.ne_none_iff_exists'.mp held
    rw [kept, if_pos trims] at found
    have listed := (Dict.get?_ofList_eq_some_iff _ trimmed_distinct).mp found
    exact (get?_others.mp (other_of_trimmed listed)).2 (List.mem_dedup.mp mine)

theorem size_merge_le : (merge maxAge maxSize recent own now).size ≤ max maxSize own.dedup.length := by
  by_cases trims : maxSize < (young maxAge recent now).items.length + own.dedup.length
  · rw [size_merge_of_trimmed trims]
    have room : (trimmed maxAge maxSize recent own now).length ≤ maxSize - own.dedup.length := List.length_take_le _ _
    omega
  · refine le_trans (size_foldl_insert_le _ _ _) (le_trans ?_ (le_max_left _ _))
    rw [kept, if_neg trims]
    exact not_lt.mp trims

/-- What the memory holds after a write is the write's own, or was held and is young. -/
theorem held_merge (found : (merge maxAge maxSize recent own now).get? k = some t) :
    k ∈ own ∧ now = t ∨ k ∉ own ∧ recent.get? k = some t ∧ |now - t| ≤ maxAge := by
  rw [get?_merge] at found
  split at found
  · rename_i mine
    exact .inl ⟨mine, Option.some.inj found⟩
  · rename_i other
    exact .inr ⟨other, kept_sub found⟩

/-- Of what is young, a write drops only what does not fit, and nothing newer than what it keeps. -/
theorem newest_merge (held : recent.get? k = some t) (inAge : |now - t| ≤ maxAge) (other : k ∉ own)
    (dropped : (merge maxAge maxSize recent own now).get? k = none) :
    maxSize ≤ (merge maxAge maxSize recent own now).size ∧
      ∀ k' t', (merge maxAge maxSize recent own now).get? k' = some t' → k' ∉ own → t ≤ t' := by
  rw [get?_merge, if_neg other] at dropped
  by_cases trims : maxSize < (young maxAge recent now).items.length + own.dedup.length
  · have absent : (k, t) ∉ trimmed maxAge maxSize recent own now := by
      intro listed
      have found := (Dict.get?_ofList_eq_some_iff _ trimmed_distinct).mpr listed
      rw [kept, if_pos trims, found] at dropped
      cases dropped
    obtain ⟨full, newer⟩ := newest_trimmed (get?_others.mpr ⟨⟨held, inAge⟩, other⟩) absent
    rw [size_merge_of_trimmed trims, full]
    refine ⟨by omega, fun k' t' found mine => ?_⟩
    rw [get?_merge, if_neg mine, kept, if_pos trims] at found
    exact newer (k', t') ((Dict.get?_ofList_eq_some_iff _ trimmed_distinct).mp found)
  · rw [kept, if_neg trims, get?_young.mpr ⟨held, inAge⟩] at dropped
    cases dropped

/-- Where all of the memory is young, a write is no smaller than it, or full. -/
theorem size_merge_ge (allYoung : ∀ k t, recent.get? k = some t → |now - t| ≤ maxAge) :
    recent.size ≤ (merge maxAge maxSize recent own now).size ∨ maxSize ≤ (merge maxAge maxSize recent own now).size := by
  by_cases whole : ∀ k t, recent.get? k = some t → (merge maxAge maxSize recent own now).get? k ≠ none
  · exact .inl (size_le_of_held whole)
  · simp only [not_forall, not_not] at whole
    obtain ⟨k, t, held, dropped⟩ := whole
    have other : k ∉ own := by
      intro mine
      rw [get?_merge, if_pos mine] at dropped
      cases dropped
    exact .inr (newest_merge held (allYoung k t held) other dropped).1

end

/-! ### Sightings in any order -/

theorem drawn_merge {maxAge : ℚ} {maxSize : Nat} {recent : Dict κ ℚ} {all : List (Sighting κ)} (nonneg : 0 ≤ maxAge)
    (drawn : ∀ k t, recent.get? k = some t → ∃ s ∈ all, k ∈ s.seen ∧ s.time = t) :
    Drawn maxAge maxSize (⟨now, own⟩ :: all) ⟨now, own⟩ (merge maxAge maxSize recent own now) := by
  constructor
  · intro k t found
    rcases held_merge found with ⟨mine, rfl⟩ | ⟨-, held, inAge⟩
    · exact ⟨⟨_, List.mem_cons_self, mine, rfl⟩, by rwa [sub_self, abs_zero]⟩
    · obtain ⟨s, member, saw, time⟩ := drawn k t held
      exact ⟨⟨s, List.mem_cons_of_mem _ member, saw, time⟩, inAge⟩
  · intro k mine
    rw [get?_merge, if_pos mine]
  · exact size_merge_le

theorem merge_empty (maxAge : ℚ) (maxSize : Nat) (now : ℚ) : merge (κ := κ) maxAge maxSize .empty [] now = .empty := by
  have none_young : young (κ := κ) maxAge .empty now = .empty := rfl
  rw [merge, List.dedup_nil, List.foldl_nil, kept, none_young, if_neg]
  exact Nat.not_lt_zero maxSize

/-! ### Sightings in order -/

omit [DecidableEq κ] in
theorem LastSeen.unique {history : List (Sighting κ)} (one : LastSeen history k t) (other : LastSeen history k t') :
    t = t' := by
  obtain ⟨⟨s, member, saw, rfl⟩, latest⟩ := one
  obtain ⟨⟨s', member', saw', rfl⟩, latest'⟩ := other
  exact le_antisymm (latest' s member saw) (latest s' member' saw')

theorem Prior.empty (maxAge : ℚ) (maxSize : Nat) (now : ℚ) : Prior (κ := κ) maxAge maxSize [] now .empty where
  lastSeen _ _ found := by cases found
  newest _ _ seen _ _ := by
    obtain ⟨⟨_, member, _⟩, _⟩ := seen
    cases member

variable {maxAge : ℚ} {maxSize : Nat} {recent : Dict κ ℚ} {history : List (Sighting κ)}

/-- A write finds the memory of the last as it relies on it, where it is of no earlier time. -/
theorem Exact.prior {last : Sighting κ} (exact : Exact maxAge maxSize history last recent) (ordered : last.time ≤ now)
    (latest : ∀ s ∈ history, s.time ≤ last.time) : Prior maxAge maxSize history now recent where
  lastSeen k t found := (exact.lastSeen k t found).1
  newest k t seen inAge absent := by
    obtain ⟨s, member, -, time⟩ := seen.1
    have early : t ≤ last.time := time ▸ latest s member
    have inAge' : |last.time - t| ≤ maxAge := by
      rw [abs_of_nonneg (by linarith)] at inAge ⊢
      linarith
    obtain ⟨full, newer⟩ := exact.newest k t seen inAge' absent
    refine ⟨full, fun k' t' found => ?_⟩
    by_cases mine : k' ∈ last.seen
    · rw [exact.own k' mine] at found
      exact Option.some.inj found ▸ early
    · exact newer k' t' found mine

/-- A write is exact where no sighting that it takes in is later, and what those it has no memory of saw is too old or
is seen again. -/
theorem Prior.exact {covered all : List (Sighting κ)} (prior : Prior maxAge maxSize history now recent)
    (nonneg : 0 ≤ maxAge) (whole : ∀ s, s ∈ all ↔ s ∈ history ∨ s ∈ covered) (ordered : ∀ s ∈ all, s.time ≤ now)
    (covers : ∀ s ∈ covered, ∀ k ∈ s.seen, k ∈ own ∨ maxAge < now - s.time) :
    Exact maxAge maxSize (⟨now, own⟩ :: all) ⟨now, own⟩ (merge maxAge maxSize recent own now) := by
  have lastSeen_iff : ∀ k t, k ∉ own → |now - t| ≤ maxAge → (LastSeen (⟨now, own⟩ :: all) k t ↔ LastSeen history k t) := by
    intro k t other inAge
    have young := le_of_abs_le inAge
    constructor
    · rintro ⟨⟨s, member, saw, rfl⟩, latest⟩
      have old : s ∈ all := (List.mem_cons.mp member).resolve_left fun same => other (by rw [same] at saw; exact saw)
      rcases (whole s).mp old with remembered | alone
      · exact ⟨⟨s, remembered, saw, rfl⟩, fun s' member' =>
          latest s' (List.mem_cons_of_mem _ ((whole s').mpr (.inl member')))⟩
      · rcases covers s alone k saw with mine | tooOld
        · exact absurd mine other
        · exact absurd young (not_le.mpr tooOld)
    · rintro ⟨⟨s, member, saw, rfl⟩, latest⟩
      refine ⟨⟨s, List.mem_cons_of_mem _ ((whole s).mpr (.inl member)), saw, rfl⟩, fun s' member' saw' => ?_⟩
      rcases List.mem_cons.mp member' with rfl | old
      · exact absurd saw' other
      · rcases (whole s').mp old with remembered | alone
        · exact latest s' remembered saw'
        · rcases covers s' alone k saw' with mine | tooOld
          · exact absurd mine other
          · linarith
  constructor
  · intro k t found
    rcases held_merge found with ⟨mine, rfl⟩ | ⟨other, held, inAge⟩
    · refine ⟨⟨⟨_, List.mem_cons_self, mine, rfl⟩, fun s member _ => ?_⟩, by rwa [sub_self, abs_zero]⟩
      rcases List.mem_cons.mp member with rfl | old
      · exact le_refl _
      · exact ordered s old
    · exact ⟨(lastSeen_iff k t other inAge).mpr (prior.lastSeen k t held), inAge⟩
  · intro k mine
    rw [get?_merge, if_pos mine]
  · intro k t seen inAge absent
    have other : k ∉ own := by
      intro mine
      rw [get?_merge, if_pos mine] at absent
      cases absent
    have before := (lastSeen_iff k t other inAge).mp seen
    cases held : recent.get? k with
    | some t' =>
      obtain rfl := before.unique (prior.lastSeen k t' held)
      exact newest_merge held inAge other absent
    | none =>
      -- a full memory had dropped the key, and all that it has is newer
      obtain ⟨full, newer⟩ := prior.newest k t before inAge held
      have allYoung : ∀ k' t', recent.get? k' = some t' → |now - t'| ≤ maxAge := by
        intro k' t' found
        obtain ⟨s, member, -, time⟩ := (prior.lastSeen k' t' found).1
        have past : t' ≤ now := time ▸ ordered s ((whole s).mpr (.inl member))
        have late := newer k' t' found
        have young := le_of_abs_le inAge
        rw [abs_of_nonneg (by linarith)]
        linarith
      refine ⟨(size_merge_ge allYoung).elim full.trans fun fits => fits, fun k' t' found mine => ?_⟩
      rw [get?_merge, if_neg mine] at found
      exact newer k' t' (kept_sub found).1
  · exact size_merge_le

/-- Where no more is young than fits, nothing that is young is missing. -/
theorem Exact.complete {last : Sighting κ} (exact : Exact maxAge maxSize history last recent) (keys : List κ)
    (all : ∀ k t, LastSeen history k t → |last.time - t| ≤ maxAge → k ∈ keys) (fits : keys.length ≤ maxSize)
    (seen : LastSeen history k t) (inAge : |last.time - t| ≤ maxAge) : recent.get? k = some t := by
  cases found : recent.get? k with
  | some t' => rw [seen.unique (exact.lastSeen k t' found).1]
  | none =>
    have absent := (Dict.get?_eq_none_iff recent k).mp found
    have listed : k :: recent.keys ⊆ keys := by
      intro k' member
      rcases List.mem_cons.mp member with rfl | held
      · exact all k' t seen inAge
      · obtain ⟨t', there⟩ := Option.ne_none_iff_exists'.mp fun gone => (Dict.get?_eq_none_iff recent k').mp gone held
        obtain ⟨seen', inAge'⟩ := exact.lastSeen k' t' there
        exact all k' t' seen' inAge'
    have longer := (List.subperm_of_subset (List.nodup_cons.mpr ⟨absent, recent.nodup⟩) listed).length_le
    have full := (exact.newest k t seen inAge found).1
    rw [List.length_cons, Dict.keys, List.length_map] at longer
    rw [Dict.size] at full
    omega

end Recollection
