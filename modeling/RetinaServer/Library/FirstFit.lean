import Mathlib.Data.List.Perm.Basic

/-! First-fit placement. A newcomer joins the first bucket that takes it and
opens a bucket of its own behind the others when none does, so the buckets
partition what was placed, whatever the test is. Where the test is of nearness
to the bucket's first member, the buckets are the circles around the leaders. -/
namespace FirstFit

variable {α : Type u} {β : Type v}

def place (takes : β → Bool) (add : β → β) (fresh : β) : List β → List β
  | [] => [fresh]
  | b :: rest => if takes b then add b :: rest else b :: place takes add fresh rest

theorem place_forall {takes : β → Bool} {add : β → β} {I : β → Prop} (opened : I fresh)
    (joined : ∀ b, I b → I (add b)) (held : ∀ b ∈ buckets, I b) :
    ∀ b ∈ place takes add fresh buckets, I b := by
  induction buckets with
  | nil => simpa [place] using opened
  | cons b rest ih =>
    obtain ⟨first, others⟩ := List.forall_mem_cons.mp held
    simp only [place]
    split
    · exact List.forall_mem_cons.mpr ⟨joined b first, others⟩
    · exact List.forall_mem_cons.mpr ⟨first, ih others⟩

/-- Placement adds exactly the newcomer: nothing is lost and nothing is doubled. -/
theorem place_perm (members : β → List α) {takes : β → Bool} {add : β → β} {fresh : β} {x : α}
    (opened : members fresh = [x]) (joined : ∀ b, (members (add b)).Perm (x :: members b))
    (buckets : List β) :
    ((place takes add fresh buckets).flatMap members).Perm (x :: buckets.flatMap members) := by
  induction buckets with
  | nil => simp [place, opened]
  | cons b rest ih =>
    simp only [place]
    split
    · simpa using (joined b).append_right (rest.flatMap members)
    · simpa using (ih.append_left (members b)).trans List.perm_middle

/-- Filling buckets from a list partitions the list. -/
theorem fill_perm {members : β → List α} {step : List β → α → List β}
    (placed : ∀ buckets x, ((step buckets x).flatMap members).Perm (x :: buckets.flatMap members))
    (items : List α) (buckets : List β) :
    ((items.foldl step buckets).flatMap members).Perm (buckets.flatMap members ++ items) := by
  induction items generalizing buckets with
  | nil => simp
  | cons x rest ih =>
    have next := (ih (step buckets x)).trans ((placed buckets x).append_right rest)
    exact next.trans (by simpa using List.perm_middle.symm)

/-! ### Circles around leaders -/

def followers (near : α → α → Bool) (leader : α) (items : List α) : List α := items.filter fun x => near x leader

def others (near : α → α → Bool) (leader : α) (items : List α) : List α := items.filter fun x => !near x leader

/-- The first item leads all the later ones near it, and the rest are circled among themselves. -/
def circles (near : α → α → Bool) : List α → List (α × List α)
  | [] => []
  | leader :: rest => (leader, followers near leader rest) :: circles near (others near leader rest)
termination_by items => items.length
decreasing_by exact Nat.lt_succ_of_le (List.length_filter_le _ rest)

/-- One arrival at buckets that take what is near their first member. -/
def placeNear (near : α → α → Bool) (first : β → α) (push : β → α → β) (fresh : α → β) (buckets : List β) (x : α) : List β :=
  place (fun b => near x (first b)) (push · x) (fresh x) buckets

variable {near : α → α → Bool} {first : β → α} {push : β → α → β} {fresh : α → β}

/-- The first bucket takes all that is near it and leaves the rest to the others. -/
theorem foldl_placeNear_cons (kept : ∀ b x, first (push b x) = first b) (items : List α) (b : β) (buckets : List β) :
    items.foldl (placeNear near first push fresh) (b :: buckets) =
      (followers near (first b) items).foldl push b ::
        (others near (first b) items).foldl (placeNear near first push fresh) buckets := by
  induction items generalizing b buckets with
  | nil => rfl
  | cons x rest ih =>
    rw [List.foldl_cons, placeNear, place]
    cases taken : near x (first b) with
    | true =>
      rw [if_pos rfl, ih, kept]
      simp [followers, others, taken]
    | false =>
      rw [if_neg Bool.false_ne_true, ← placeNear, ih]
      simp [followers, others, taken]

theorem fill_near (kept : ∀ b x, first (push b x) = first b) (opened : ∀ x, first (fresh x) = x) (items : List α) :
    items.foldl (placeNear near first push fresh) [] =
      (circles near items).map fun circle => circle.2.foldl push (fresh circle.1) := by
  induction items using circles.induct near with
  | case1 => rw [circles]; rfl
  | case2 leader rest ih =>
    rw [circles, List.foldl_cons, placeNear, place, foldl_placeNear_cons kept, opened, ih, List.map_cons]

/-- Items none of which is near an earlier one are circles of their own. -/
theorem circles_of_apart (apart : items.Pairwise fun x y => near y x = false) :
    circles near items = items.map fun x => (x, []) := by
  induction items with
  | nil => rw [circles]; rfl
  | cons leader rest ih =>
    obtain ⟨far, apart⟩ := List.pairwise_cons.mp apart
    have none_near : followers near leader rest = [] := by
      simpa [followers, List.filter_eq_nil_iff] using far
    have all_left : others near leader rest = rest := by
      simpa [others, List.filter_eq_self] using far
    rw [circles, none_near, all_left, ih apart, List.map_cons]

end FirstFit
