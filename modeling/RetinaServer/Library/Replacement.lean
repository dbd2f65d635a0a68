import Mathlib.Data.List.Infix

/-! Replacing every occurrence of a word in a text, from the left and without
overlap. A replacement that overlaps no occurrence leaves none and makes none. -/
namespace Replacement

variable {α : Type u} [DecidableEq α]

/-- The number is how many characters of a replaced occurrence are still to be passed over. -/
def replaceFrom (old new : List α) : Nat → List α → List α
  | _, [] => []
  | skip + 1, _ :: text => replaceFrom old new skip text
  | 0, c :: text =>
      if old.isPrefixOf (c :: text) then new ++ replaceFrom old new (old.length - 1) text
      else c :: replaceFrom old new 0 text

def replaceAll (old new text : List α) : List α := replaceFrom old new 0 text

/-- No end of `new` meets an end of `word`, and neither contains the other. -/
structure Apart (new word : List α) : Prop where
  outside : ¬ word <:+: new
  inside : ¬ new <:+: word
  before : ∀ x ≠ [], x <:+ new → ¬ x <+: word
  after : ∀ x ≠ [], x <+: new → ¬ x <:+ word

instance (new word : List α) : Decidable (Apart new word) :=
  decidable_of_iff ((¬ word <:+: new ∧ ¬ new <:+: word) ∧ (∀ x ∈ new.tails, x ≠ [] → ¬ x <+: word) ∧
      ∀ x ∈ new.inits, x ≠ [] → ¬ x <:+ word) <| by
    simp only [List.mem_tails, List.mem_inits]
    constructor
    · rintro ⟨⟨outside, inside⟩, before, after⟩
      exact ⟨outside, inside, fun x some_x ends => before x ends some_x, fun x some_x starts => after x starts some_x⟩
    · rintro ⟨outside, inside, before, after⟩
      exact ⟨⟨outside, inside⟩, fun x ends some_x => before x some_x ends, fun x starts some_x => after x some_x starts⟩

omit [DecidableEq α] in
/-- A word of two joined texts is in one of them or across the seam. -/
theorem infix_append_cases {first second word : List α} (occurs : word <:+: first ++ second) :
    word <:+: first ∨ word <:+: second ∨
      ∃ x y, word = x ++ y ∧ x ≠ [] ∧ x <:+ first ∧ y <+: second := by
  induction first with
  | nil => exact .inr (.inl occurs)
  | cons c first ih =>
    rw [List.cons_append, List.infix_cons_iff] at occurs
    rcases occurs with starts | later
    · rw [← List.cons_append] at starts
      rcases Nat.le_total word.length (c :: first).length with short | long
      · exact .inl (List.prefix_of_prefix_length_le starts (List.prefix_append _ _) short).isInfix
      · obtain ⟨y, rfl⟩ := List.prefix_of_prefix_length_le (List.prefix_append _ _) starts long
        exact .inr (.inr ⟨c :: first, y, rfl, List.cons_ne_nil c first, List.suffix_rfl,
          (List.prefix_append_right_inj (c :: first)).mp starts⟩)
    · rcases ih later with inside | inside | ⟨x, y, split, some_first, ends, starts⟩
      · exact .inl (List.infix_cons inside)
      · exact .inr (.inl inside)
      · exact .inr (.inr ⟨x, y, split, some_first, ends.trans (List.suffix_cons c first), starts⟩)

omit [DecidableEq α] in
/-- What follows a replacement that keeps clear of a word holds the word if the whole does. -/
theorem Apart.of_infix_append {new word rest : List α} (apart : Apart new word) (occurs : word <:+: new ++ rest) :
    word <:+: rest := by
  rcases infix_append_cases occurs with inside | later | ⟨x, y, split, some_first, ends, starts⟩
  · exact absurd inside apart.outside
  · exact later
  · exact absurd (split ▸ List.prefix_append x y) (apart.before x some_first ends)

/-- The text begins with an end of the word only if it did before. -/
theorem prefix_of_replaceFrom {old new word : List α} (apart : Apart new word) (text x : List α) (ends : x <:+ word)
    (starts : x <+: replaceFrom old new 0 text) : x <+: text := by
  induction text generalizing x with
  | nil => exact starts
  | cons c text ih =>
    simp only [replaceFrom] at starts
    split at starts
    · by_cases empty : x = []
      · rw [empty]
        exact List.nil_prefix
      · rcases Nat.le_total x.length new.length with short | long
        · have inside := List.prefix_of_prefix_length_le starts (List.prefix_append _ _) short
          exact absurd ends (apart.after x empty inside)
        · have contains := List.prefix_of_prefix_length_le (List.prefix_append _ _) starts long
          exact absurd (contains.isInfix.trans ends.isInfix) apart.inside
    · cases x with
      | nil => exact List.nil_prefix
      | cons d x =>
        obtain ⟨rfl, rest⟩ := List.cons_prefix_cons.mp starts
        exact List.cons_prefix_cons.mpr ⟨rfl, ih x ((List.suffix_cons d x).trans ends) rest⟩

/-- A replacement brings in no word it keeps clear of. -/
theorem infix_of_replaceFrom {old new word : List α} (apart : Apart new word) (skip : Nat) (text : List α)
    (occurs : word <:+: replaceFrom old new skip text) : word <:+: text := by
  induction text generalizing skip with
  | nil => cases skip <;> exact occurs
  | cons c text ih =>
    cases skip with
    | succ skip => exact List.infix_cons (ih skip occurs)
    | zero =>
      have whole := occurs
      simp only [replaceFrom] at occurs
      split at occurs
      · exact List.infix_cons (ih _ (apart.of_infix_append occurs))
      · rcases List.infix_cons_iff.mp occurs with starts | later
        · rename_i unmatched
          have unreplaced : replaceFrom old new 0 (c :: text) = c :: replaceFrom old new 0 text := by
            simp only [replaceFrom, if_neg unmatched]
          exact (prefix_of_replaceFrom apart (c :: text) word List.suffix_rfl (unreplaced ▸ starts)).isInfix
        · exact List.infix_cons (ih 0 later)

/-- A replacement that keeps clear of the replaced word leaves none of it. -/
theorem not_infix_replaceFrom {old new : List α} (some_old : old ≠ []) (apart : Apart new old) (skip : Nat)
    (text : List α) : ¬ old <:+: replaceFrom old new skip text := by
  induction text generalizing skip with
  | nil =>
    intro occurs
    have empty : replaceFrom old new skip [] = [] := by cases skip <;> rfl
    rw [empty] at occurs
    exact some_old (List.infix_nil.mp occurs)
  | cons c text ih =>
    cases skip with
    | succ skip => exact ih skip
    | zero =>
      intro occurs
      simp only [replaceFrom] at occurs
      split at occurs
      · exact ih _ (apart.of_infix_append occurs)
      · rename_i unmatched
        rcases List.infix_cons_iff.mp occurs with starts | later
        · have unreplaced : replaceFrom old new 0 (c :: text) = c :: replaceFrom old new 0 text := by
            simp only [replaceFrom, if_neg unmatched]
          have before := prefix_of_replaceFrom apart (c :: text) old List.suffix_rfl (unreplaced ▸ starts)
          exact unmatched (List.isPrefixOf_iff_prefix.mpr before)
        · exact ih 0 later

/-- One replacement after another, each in the text the ones before it left. -/
def replaceEach (replacements : List (List α × List α)) (text : List α) : List α :=
  replacements.foldl (fun text r => if r.1 <:+: text then replaceAll r.1 r.2 text else text) text

/-- Replacements that keep clear of a word bring it into no text that is free of it. -/
theorem free_of_replaceEach {replacements : List (List α × List α)} {word : List α}
    (apart : ∀ r ∈ replacements, Apart r.2 word) (text : List α) (free : ¬ word <:+: text) :
    ¬ word <:+: replaceEach replacements text := by
  induction replacements generalizing text with
  | nil => exact free
  | cons r rest ih =>
    obtain ⟨here, later⟩ := List.forall_mem_cons.mp apart
    rw [replaceEach, List.foldl_cons, ← replaceEach]
    refine ih later _ ?_
    split
    · exact fun occurs => free (infix_of_replaceFrom here 0 text occurs)
    · exact free

/-- Replacements that keep clear of every replaced word leave none of them. -/
theorem not_infix_replaceEach {replacements : List (List α × List α)} (named : ∀ r ∈ replacements, r.1 ≠ [])
    (apart : ∀ r ∈ replacements, ∀ r' ∈ replacements, Apart r'.2 r.1) (text : List α) :
    ∀ r ∈ replacements, ¬ r.1 <:+: replaceEach replacements text := by
  induction replacements generalizing text with
  | nil => simp
  | cons r rest ih =>
    intro r' listed
    have later := ih (fun x member => named x (List.mem_cons_of_mem r member))
      (fun x member y member' => apart x (List.mem_cons_of_mem r member) y (List.mem_cons_of_mem r member'))
    rw [replaceEach, List.foldl_cons, ← replaceEach]
    rcases List.mem_cons.mp listed with rfl | rest_listed
    · refine free_of_replaceEach (fun x member => apart r' List.mem_cons_self x (List.mem_cons_of_mem r' member)) _ ?_
      split
      · exact not_infix_replaceFrom (named r' List.mem_cons_self)
          (apart r' List.mem_cons_self r' List.mem_cons_self) 0 text
      · assumption
    · exact later _ r' rest_listed

end Replacement
