import RetinaServer.Library.Numerals
import Mathlib.Data.List.DropRight
import Mathlib.Data.List.Basic

/-! A tree of directories and files without links, and what a path text leads to in it. -/
namespace FileTree
open Numerals (Text)

/-- What a directory may hold an entry under. -/
def IsName (c : Text) : Prop := c ≠ [] ∧ c ≠ ['.'] ∧ c ≠ ['.', '.'] ∧ '/' ∉ c

instance (c : Text) : Decidable (IsName c) := inferInstanceAs (Decidable (_ ∧ _ ∧ _ ∧ _))

inductive Entry (β : Type u) where
  | dir
  | file (content : β)

/-- The entries under their names from the top down. -/
structure Tree (β : Type u) where
  entries : List Text → Option (Entry β)
  top : entries [] = some .dir
  parents : ∀ path name, entries (path ++ [name]) ≠ none → entries path = some .dir
  named : ∀ path name, entries (path ++ [name]) ≠ none → IsName name

variable {β : Type u}

/-- Where the segments of a path lead from a place. A segment is looked up in a directory only. -/
@[simp] def Tree.walk (t : Tree β) (cwd : List Text) : List Text → Option (List Text)
  | [] => some cwd
  | c :: rest => match t.entries cwd with
    | some .dir =>
        if c = [] ∨ c = ['.'] then t.walk cwd rest
        else if c = ['.', '.'] then t.walk cwd.dropLast rest
        else match t.entries (cwd ++ [c]) with
          | some _ => t.walk (cwd ++ [c]) rest
          | none => none
    | _ => none

def segments (path : Text) : List Text := path.splitOn '/'

/-- The place that a path from the top leads to. -/
def Tree.resolve (t : Tree β) (path : Text) : Option (List Text) := t.walk [] (segments path)

def Tree.fileAt (t : Tree β) (place : List Text) : Option β :=
  match t.entries place with
  | some (.file content) => some content
  | _ => none

/-- What a file holds that a path leads to. -/
def Tree.read (t : Tree β) (path : Text) : Option β := (t.resolve path).bind t.fileAt

def render (place : List Text) : Text := place.flatMap fun c => '/' :: c

/-- The segments taken one by one, without a look at the tree. -/
@[simp] def normalize (cwd : List Text) : List Text → List Text
  | [] => cwd
  | c :: rest =>
      if c = [] ∨ c = ['.'] then normalize cwd rest
      else if c = ['.', '.'] then normalize cwd.dropLast rest
      else normalize (cwd ++ [c]) rest

/-- `os.path.realpath`. -/
def realpath (path : Text) : Text := render (normalize [] (segments path))

/-! ### Places -/

section
variable {t : Tree β}

theorem names_of_entries (held : t.entries place ≠ none) : ∀ c ∈ place, IsName c := by
  induction place using List.reverseRecOn with
  | nil => exact fun c no => absurd no List.not_mem_nil
  | append_singleton place name ih =>
    intro c listed
    rcases List.mem_append.mp listed with before | last
    · refine ih ?_ c before
      rw [t.parents place name held]
      exact Option.some_ne_none _
    · rw [List.mem_singleton.mp last]
      exact t.named place name held

/-- Above an entry are directories. -/
theorem dir_above (held : t.entries (place ++ below) ≠ none) (proper : below ≠ []) : t.entries place = some .dir := by
  induction below using List.reverseRecOn with
  | nil => exact absurd rfl proper
  | append_singleton below name ih =>
    rw [← List.append_assoc] at held
    have above := t.parents _ _ held
    by_cases empty : below = []
    · rw [empty, List.append_nil] at above
      exact above
    · exact ih (by rw [above]; exact Option.some_ne_none _) empty

theorem walk_append (t : Tree β) (cwd first second : List Text) :
    t.walk cwd (first ++ second) = (t.walk cwd first).bind fun place => t.walk place second := by
  induction first generalizing cwd with
  | nil => rfl
  | cons c rest ih =>
    rw [List.cons_append, Tree.walk, Tree.walk]
    split
    · split
      · exact ih _
      · split
        · exact ih _
        · split
          · exact ih _
          · rfl
    · rfl

theorem normalize_of_walk (found : t.walk cwd path = some place) : normalize cwd path = place := by
  induction path generalizing cwd with
  | nil => exact Option.some.inj found
  | cons c rest ih =>
    rw [Tree.walk] at found
    rw [normalize]
    split at found
    · split at found
      · rename_i still
        rw [if_pos still]
        exact ih found
      · rename_i moves
        rw [if_neg moves]
        split at found
        · rename_i up
          rw [if_pos up]
          exact ih found
        · rename_i down
          rw [if_neg down]
          split at found
          · exact ih found
          · cases found
    · cases found

/-- Names are walked down. -/
theorem walk_names (held : t.entries (cwd ++ path) ≠ none) : t.walk cwd path = some (cwd ++ path) := by
  induction path generalizing cwd with
  | nil => rw [Tree.walk, List.append_nil]
  | cons c rest ih =>
    have name : IsName c := names_of_entries held c (List.mem_append_right _ List.mem_cons_self)
    have above := dir_above held (List.cons_ne_nil c rest)
    rw [← List.singleton_append, ← List.append_assoc] at held
    have here : t.entries (cwd ++ [c]) ≠ none := by
      cases rest with
      | nil => rwa [List.append_nil] at held
      | cons next rest =>
        rw [dir_above held (List.cons_ne_nil next rest)]
        exact Option.some_ne_none _
    obtain ⟨entry, found⟩ := Option.ne_none_iff_exists'.mp here
    rw [Tree.walk, above]
    simp only [name.1, name.2.1, name.2.2.1, found, or_self, if_false]
    rw [ih held, List.append_assoc, List.singleton_append]

/-- Without `..` a path only leads down. -/
theorem prefix_of_walk (down : ['.', '.'] ∉ path) (found : t.walk cwd path = some place) : ∃ below, place = cwd ++ below := by
  induction path generalizing cwd with
  | nil => exact ⟨[], by rw [List.append_nil]; exact (Option.some.inj found).symm⟩
  | cons c rest ih =>
    obtain ⟨other, later⟩ := List.ne_and_not_mem_of_not_mem_cons down
    rw [Tree.walk] at found
    split at found
    · split at found
      · exact ih later found
      · rw [if_neg (Ne.symm other)] at found
        split at found
        · obtain ⟨below, same⟩ := ih later found
          exact ⟨c :: below, by rw [same, List.append_assoc, List.singleton_append]⟩
        · cases found
    · cases found

/-- And leads to the same place in a tree that agrees on what lies above it. -/
theorem walk_of_agree {t' : Tree β} (down : ['.', '.'] ∉ path) (found : t.walk cwd path = some place)
    (agree : ∀ above below, place = above ++ below → t'.entries above = t.entries above) : t'.walk cwd path = some place := by
  induction path generalizing cwd with
  | nil => exact found
  | cons c rest ih =>
    obtain ⟨other, later⟩ := List.ne_and_not_mem_of_not_mem_cons down
    obtain ⟨below, same⟩ := prefix_of_walk down found
    rw [Tree.walk] at found ⊢
    rw [agree cwd below same]
    split at found
    · split at found
      · rename_i still
        rw [if_pos still]
        exact ih later found
      · rename_i moves
        rw [if_neg moves]
        rw [if_neg (Ne.symm other)] at found ⊢
        split at found
        · rename_i entry held
          obtain ⟨below', same'⟩ := prefix_of_walk later found
          rw [agree (cwd ++ [c]) below' same', held]
          exact ih later found
        · cases found
    · cases found

/-- A path whose last segment but one is a name leads to a file only under that name. -/
theorem walk_last_two (found : t.walk cwd (front ++ [d, x]) = some place) (isFile : t.fileAt place ≠ none) (name : IsName d) :
    ∃ above, t.walk cwd front = some above ∧ place = above ++ [d, x] ∧ IsName x := by
  rw [walk_append] at found
  obtain ⟨above, before, found⟩ := Option.bind_eq_some_iff.mp found
  refine ⟨above, before, ?_⟩
  have file_not_dir : t.entries place ≠ some .dir := by
    intro dir
    rw [Tree.fileAt, dir] at isFile
    exact isFile rfl
  rw [Tree.walk] at found
  split at found
  · rename_i dir
    simp only [name.1, name.2.1, name.2.2.1, or_self, if_false] at found
    split at found
    · rename_i held
      rw [Tree.walk] at found
      split at found
      · rename_i inner
        split at found
        · rename_i still
          cases Option.some.inj found
          exact absurd inner file_not_dir
        · split at found
          · rw [Tree.walk, List.dropLast_concat] at found
            cases Option.some.inj found
            exact absurd dir file_not_dir
          · split at found
            · rename_i last
              rw [Tree.walk, List.append_assoc] at found
              cases Option.some.inj found
              refine ⟨rfl, ?_⟩
              have here : t.entries ((above ++ [d]) ++ [x]) ≠ none := by
                rw [last]
                exact Option.some_ne_none _
              exact t.named _ _ here
            · cases found
      · cases found
    · cases found
  · cases found

end

/-! ### Texts -/

theorem render_append (place below : List Text) : render (place ++ below) = render place ++ render below :=
  List.flatMap_append

theorem segments_render_append (base : List Text) (names : ∀ c ∈ base, '/' ∉ c) (path : Text) :
    segments (render base ++ '/' :: path) = [] :: (base ++ segments path) := by
  induction base with
  | nil => exact List.splitOn_append_cons_self_of_not_mem List.not_mem_nil path
  | cons c rest ih =>
    have first := names c List.mem_cons_self
    have later := ih fun other listed => names other (List.mem_cons_of_mem _ listed)
    rw [show render (c :: rest) ++ '/' :: path = [] ++ '/' :: (c ++ (render rest ++ '/' :: path)) by
      simp [render], segments, List.splitOn_append_cons_self_of_not_mem List.not_mem_nil]
    cases rest with
    | nil =>
      rw [show c ++ (render [] ++ '/' :: path) = c ++ '/' :: path from rfl, List.splitOn_append_cons_self_of_not_mem first]
      rfl
    | cons next rest =>
      rw [show render (next :: rest) ++ '/' :: path = '/' :: (next ++ render rest ++ '/' :: path) by simp [render]] at later ⊢
      rw [List.splitOn_append_cons_self_of_not_mem first]
      rw [segments, show '/' :: (next ++ render rest ++ '/' :: path) = [] ++ '/' :: (next ++ render rest ++ '/' :: path) from rfl,
        List.splitOn_append_cons_self_of_not_mem List.not_mem_nil] at later
      rw [(List.cons.inj later).2]
      rfl

/-- Two texts that run up to a slash, or to the end, agree up to there. -/
theorem eq_of_slash_prefix {c c' : Text} (free : '/' ∉ c) (free' : '/' ∉ c') (under : c ++ '/' :: rest <+: c' ++ rest')
    (slashed : rest' = [] ∨ ∃ tail, rest' = '/' :: tail) : c = c' ∧ '/' :: rest <+: rest' := by
  induction c generalizing c' with
  | nil =>
    cases c' with
    | nil => exact ⟨rfl, under⟩
    | cons x c' =>
      obtain ⟨same, -⟩ := List.cons_prefix_cons.mp under
      exact absurd (same ▸ List.mem_cons_self) free'
  | cons x c ih =>
    cases c' with
    | nil =>
      rcases slashed with rfl | ⟨tail, rfl⟩
      · exact absurd (List.prefix_nil.mp under) (by simp)
      · obtain ⟨same, -⟩ := List.cons_prefix_cons.mp under
        exact absurd (same ▸ List.mem_cons_self) free
    | cons y c' =>
      obtain ⟨rfl, inner⟩ := List.cons_prefix_cons.mp under
      obtain ⟨rfl, further⟩ := ih (fun inside => free (List.mem_cons_of_mem _ inside))
        (fun inside => free' (List.mem_cons_of_mem _ inside)) inner
      exact ⟨rfl, further⟩

theorem render_slashed (place : List Text) : render place = [] ∨ ∃ tail, render place = '/' :: tail := by
  cases place with
  | nil => exact .inl rfl
  | cons c rest => exact .inr ⟨c ++ render rest, rfl⟩

/-- A place whose text begins with that of another and a slash lies below the other. -/
theorem below_of_render_prefix (names : ∀ c ∈ base, '/' ∉ c) (names' : ∀ c ∈ place, '/' ∉ c)
    (under : render base ++ ['/'] <+: render place) : ∃ below, below ≠ [] ∧ place = base ++ below := by
  induction base generalizing place with
  | nil =>
    refine ⟨place, ?_, rfl⟩
    rintro rfl
    exact absurd (List.prefix_nil.mp under) (by simp)
  | cons c base ih =>
    cases place with
    | nil => exact absurd (List.prefix_nil.mp under) (by simp)
    | cons c' place =>
      have inner : c ++ (render base ++ ['/']) <+: c' ++ render place := by
        simpa [render, List.append_assoc] using under
      obtain ⟨tail, slashed⟩ : ∃ tail, render base ++ ['/'] = '/' :: tail := by
        rcases render_slashed base with nothing | ⟨tail, same⟩
        · exact ⟨[], by rw [nothing]; rfl⟩
        · exact ⟨tail ++ ['/'], by rw [same]; rfl⟩
      rw [slashed] at inner
      obtain ⟨rfl, further⟩ := eq_of_slash_prefix (names c List.mem_cons_self) (names' c' List.mem_cons_self) inner (render_slashed place)
      rw [← slashed] at further
      obtain ⟨below, proper, rfl⟩ := ih (fun other listed => names other (List.mem_cons_of_mem _ listed))
        (fun other listed => names' other (List.mem_cons_of_mem _ listed)) further
      exact ⟨below, proper, rfl⟩

theorem render_prefix_of_below (base : List Text) (proper : below ≠ []) : render base ++ ['/'] <+: render (base ++ below) := by
  obtain ⟨c, rest, rfl⟩ := List.exists_cons_of_ne_nil proper
  rw [render_append]
  exact List.prefix_append_right_inj _ |>.mpr ⟨c ++ render rest, rfl⟩

theorem length_normalize (cwd path : List Text) : (normalize cwd path).length ≤ cwd.length + (path.filter (· ≠ [])).length := by
  induction path generalizing cwd with
  | nil => simp [normalize]
  | cons c rest ih =>
    rw [normalize]
    split
    · refine (ih cwd).trans (Nat.add_le_add_left ?_ _)
      exact (List.Sublist.filter _ (List.sublist_cons_self c rest)).length_le
    · rename_i moves
      have counted : ((c :: rest).filter (· ≠ [])).length = (rest.filter (· ≠ [])).length + 1 := by
        rw [List.filter_cons_of_pos (by simpa using fun empty => moves (.inl empty)), List.length_cons]
      rw [counted]
      split
      · have shorter := ih cwd.dropLast
        rw [List.length_dropLast] at shorter
        omega
      · have longer := ih (cwd ++ [c])
        rw [List.length_append, List.length_singleton] at longer
        omega

/-! ### Trees from a listing -/

theorem above_of_held (files : List (List Text × β)) (dirs : List (List Text)) (place : List Text) (proper : place ≠ [])
    (held : (match files.find? fun file => decide (file.1 = place) with
      | some file => some (Entry.file file.2)
      | none => if place = [] ∨ (files.map Prod.fst ++ dirs).any (place.isPrefixOf ·) then some .dir else none) ≠ none) :
    ∃ listed ∈ files.map Prod.fst ++ dirs, place <+: listed := by
  split at held
  · rename_i file found
    have holds := List.find?_some found
    have same := of_decide_eq_true holds
    exact ⟨file.1, List.mem_append_left _ (List.mem_map_of_mem (List.mem_of_find?_eq_some found)), same ▸ List.prefix_rfl⟩
  · split at held
    · rename_i under
      obtain ⟨listed, member, under⟩ := List.any_eq_true.mp (under.resolve_left proper)
      exact ⟨listed, member, List.isPrefixOf_iff_prefix.mp under⟩
    · exact absurd rfl held

/-- The tree of some files and some directories, and of what lies above them. -/
def Tree.ofList (files : List (List Text × β)) (dirs : List (List Text))
    (names : ∀ place ∈ files.map Prod.fst ++ dirs, ∀ c ∈ place, IsName c)
    (apart : ∀ file ∈ files.map Prod.fst, file ≠ [] ∧ ∀ place ∈ files.map Prod.fst ++ dirs, file <+: place → place = file) :
    Tree β where
  entries place := match files.find? fun file => decide (file.1 = place) with
    | some file => some (.file file.2)
    | none => if place = [] ∨ (files.map Prod.fst ++ dirs).any (place.isPrefixOf ·) then some .dir else none
  top := by
    have absent : files.find? (fun file => decide (file.1 = [])) = none := by
      rw [List.find?_eq_none]
      intro file listed same
      exact (apart file.1 (List.mem_map_of_mem listed)).1 (of_decide_eq_true same)
    rw [absent]
    exact if_pos (.inl rfl)
  parents := by
    intro path name held
    obtain ⟨place, listed, under⟩ := above_of_held files dirs (path ++ [name]) (by simp) held
    have absent : files.find? (fun file => decide (file.1 = path)) = none := by
      rw [List.find?_eq_none]
      intro file inside same
      have same := of_decide_eq_true same
      have whole := (apart file.1 (List.mem_map_of_mem inside)).2 place listed
        (same ▸ (List.prefix_append path [name]).trans under)
      rw [whole, same] at under
      have shorter := under.length_le
      simp at shorter
    rw [absent]
    refine if_pos (.inr (List.any_eq_true.mpr ⟨place, listed, ?_⟩))
    exact List.isPrefixOf_iff_prefix.mpr ((List.prefix_append path [name]).trans under)
  named := by
    intro path name held
    obtain ⟨place, listed, under⟩ := above_of_held files dirs (path ++ [name]) (by simp) held
    exact names place listed name (under.subset (by simp))

end FileTree
