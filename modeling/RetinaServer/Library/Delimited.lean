import RetinaServer.Library.Runs
import Mathlib.Data.List.Basic

/-! A stream cut into pieces at a separator. However the stream is handed over in
chunks, a reader that keeps the unfinished piece handles the same pieces. -/
namespace Delimited
open Runs

variable {α : Type u} {σ : Type v} [DecidableEq α]

/-- The pieces that a separator ends, and the unfinished one; `current` is the piece so far. -/
def pieces (sep : α) (current : List α) : List α → List (List α) × List α
  | [] => ([], current)
  | x :: rest =>
      if x = sep then (current :: (pieces sep [] rest).1, (pieces sep [] rest).2)
      else pieces sep (current ++ [x]) rest

/-- Each piece with its separator. -/
def stream (sep : α) (lines : List (List α)) : List α := lines.flatMap fun line => line ++ [sep]

theorem pieces_append (sep : α) (current xs ys : List α) :
    pieces sep current (xs ++ ys) =
      ((pieces sep current xs).1 ++ (pieces sep (pieces sep current xs).2 ys).1,
        (pieces sep (pieces sep current xs).2 ys).2) := by
  induction xs generalizing current with
  | nil => rfl
  | cons x rest ih =>
    by_cases here : x = sep
    · simp only [List.cons_append, pieces, here, if_true, ih]
    · simp only [List.cons_append, pieces, here, if_false, ih]

theorem pieces_of_not_mem (sep : α) (current : List α) {xs : List α} (absent : sep ∉ xs) :
    pieces sep current xs = ([], current ++ xs) := by
  induction xs generalizing current with
  | nil => simp [pieces]
  | cons x rest ih =>
    obtain ⟨other, later⟩ := List.ne_and_not_mem_of_not_mem_cons absent
    rw [pieces, if_neg (Ne.symm other), ih _ later, List.append_assoc, List.singleton_append]

theorem not_mem_unfinished (sep : α) {current : List α} (absent : sep ∉ current) (xs : List α) :
    sep ∉ (pieces sep current xs).2 := by
  induction xs generalizing current with
  | nil => exact absent
  | cons x rest ih =>
    by_cases here : x = sep
    · simpa only [pieces, here, if_true] using @ih [] List.not_mem_nil
    · simp only [pieces, here, if_false]
      exact ih (by simpa using ⟨absent, Ne.symm here⟩)

/-- A piece under way may be put before what follows it. -/
theorem pieces_nil_append (sep : α) {current : List α} (absent : sep ∉ current) (xs : List α) :
    pieces sep [] (current ++ xs) = pieces sep current xs := by
  rw [pieces_append, pieces_of_not_mem sep [] absent, List.nil_append, List.nil_append]

theorem pieces_stream (sep : α) {lines : List (List α)} (whole : ∀ line ∈ lines, sep ∉ line) :
    pieces sep [] (stream sep lines) = (lines, []) := by
  induction lines with
  | nil => rfl
  | cons line rest ih =>
    have first := pieces_of_not_mem sep [] (whole line List.mem_cons_self)
    have later := ih fun other member => whole other (List.mem_cons_of_mem _ member)
    rw [stream] at later ⊢
    rw [List.flatMap_cons, List.append_assoc, pieces_append, first, List.singleton_append, List.nil_append]
    simp only [pieces, if_true, later, List.nil_append]

/-! ### Readers -/

/-- A chunk finishes some pieces, each handled in turn, and leaves an unfinished one. -/
def feed (sep : α) (handle : σ → List α → σ) (reader : σ × List α) (chunk : List α) : σ × List α :=
  ((pieces sep [] (reader.2 ++ chunk)).1.foldl handle reader.1, (pieces sep [] (reader.2 ++ chunk)).2)

theorem not_mem_feed (sep : α) (handle : σ → List α → σ) (reader : σ × List α) (chunk : List α) :
    sep ∉ (feed sep handle reader chunk).2 :=
  not_mem_unfinished sep List.not_mem_nil _

/-- The chunks make no difference: the reader handles the pieces of the stream. -/
theorem foldl_feed (sep : α) (handle : σ → List α → σ) (s : σ) {buf : List α} (absent : sep ∉ buf)
    (chunks : List (List α)) :
    chunks.foldl (feed sep handle) (s, buf) =
      ((pieces sep buf chunks.flatten).1.foldl handle s, (pieces sep buf chunks.flatten).2) := by
  induction chunks generalizing s buf with
  | nil => rfl
  | cons chunk rest ih =>
    have next := not_mem_feed sep handle (s, buf) chunk
    rw [List.foldl_cons, List.flatten_cons, pieces_append]
    rw [show feed sep handle (s, buf) chunk =
      ((feed sep handle (s, buf) chunk).1, (feed sep handle (s, buf) chunk).2) from rfl, ih _ next]
    simp only [feed, pieces_nil_append sep absent, List.foldl_append]

/-- What holds of every piece of the stream holds of the pieces that each chunk finishes. -/
theorem along_feed (sep : α) (handle : σ → List α → σ) (Q : σ → List α → Prop) (s : σ) {buf : List α}
    (absent : sep ∉ buf) (chunks : List (List α)) :
    Along (feed sep handle) (fun reader chunk => Along handle Q reader.1 (pieces sep [] (reader.2 ++ chunk)).1)
        (s, buf) chunks ↔
      Along handle Q s (pieces sep buf chunks.flatten).1 := by
  induction chunks generalizing s buf with
  | nil => exact Iff.rfl
  | cons chunk rest ih =>
    have next := not_mem_feed sep handle (s, buf) chunk
    rw [List.flatten_cons, pieces_append, along_append]
    simp only [Along]
    rw [show feed sep handle (s, buf) chunk =
      ((feed sep handle (s, buf) chunk).1, (feed sep handle (s, buf) chunk).2) from rfl, ih _ next]
    simp only [feed, pieces_nil_append sep absent, run]

theorem foldl_feed_stream (sep : α) (handle : σ → List α → σ) (s : σ) {lines chunks : List (List α)}
    (whole : ∀ line ∈ lines, sep ∉ line) (same : chunks.flatten = stream sep lines) :
    chunks.foldl (feed sep handle) (s, []) = (lines.foldl handle s, []) := by
  rw [foldl_feed sep handle s List.not_mem_nil, same, pieces_stream sep whole]

end Delimited
