import RetinaServer.Parquet.Columns
import RetinaServer.Library.Dict
import Mathlib.Data.List.Sort
import Mathlib.Data.List.Flatten

/-! An archive file read back: its rows regrouped by timestamp alone, a frame for each. -/
namespace Retina.Parquet
open OrderedDict Tcp

structure LegacyFrame where
  timestamp : ℤ
  delay : List (Option PyFloat) := []
  doppler : List (Option PyFloat) := []
  snr : List (Option PyFloat) := []
  adsb : List (Option (AdsbColumns (Option String))) := []
  signingMode : Option String
  signatureValid : Option Bool
  epoch : Option ℤ
  geometry : Geometry
deriving DecidableEq

structure Legacy where
  nodeId : String
  detections : List LegacyFrame
deriving DecidableEq

def Legacy.count (file : Legacy) : Nat := file.detections.length

/-- A row without a hex reads as one without an aircraft. -/
def entryOf (r : Row (Option String)) : Option (AdsbColumns (Option String)) :=
  if r.adsb.hex.any fun hex => decide (hex ≠ "") then some r.adsb else none

/-- The frame that a timestamp's first row opens. -/
def opened (r : Row (Option String)) : LegacyFrame where
  timestamp := r.frameTsMs
  signingMode := r.signingMode
  signatureValid := r.signatureValid
  epoch := r.epoch
  geometry := r.geometry

def LegacyFrame.add (fr : LegacyFrame) (r : Row (Option String)) : LegacyFrame :=
  { fr with
    delay := fr.delay ++ [r.delayUs]
    doppler := fr.doppler ++ [r.dopplerHz]
    snr := fr.snr ++ [r.snrDb]
    adsb := fr.adsb ++ [entryOf r] }

/-- A row goes to the frame of its timestamp, which it opens if it is the first. -/
def grown (fr : Option LegacyFrame) (r : Row (Option String)) : LegacyFrame := (fr.getD (opened r)).add r

def readRow (byFrame : Dict ℤ LegacyFrame) (r : Row (Option String)) : Dict ℤ LegacyFrame :=
  byFrame.insert r.frameTsMs (grown (byFrame.get? r.frameTsMs) r)

def byFrame (rows : List (Row (Option String))) : Dict ℤ LegacyFrame := rows.foldl readRow Dict.empty

/-- `_read_parquet_as_legacy_json`: the frames in the order of their timestamps. -/
def readParquet (rows : List (Row (Option String))) : Legacy where
  nodeId := rows.head?.elim "" Row.nodeId
  detections := ((byFrame rows).items.insertionSort fun a b => a.1 ≤ b.1).map Prod.snd

/-- The frame that rows of one timestamp make. -/
def frameOf (rows : List (Row (Option String))) : Option LegacyFrame :=
  rows.head?.map fun r =>
    { opened r with
      delay := rows.map Row.delayUs
      doppler := rows.map Row.dopplerHz
      snr := rows.map Row.snrDb
      adsb := rows.map entryOf }

theorem foldl_add (fr : LegacyFrame) (rows : List (Row (Option String))) :
    rows.foldl LegacyFrame.add fr =
      { fr with
        delay := fr.delay ++ rows.map Row.delayUs
        doppler := fr.doppler ++ rows.map Row.dopplerHz
        snr := fr.snr ++ rows.map Row.snrDb
        adsb := fr.adsb ++ rows.map entryOf } := by
  induction rows generalizing fr with
  | nil => simp
  | cons r rest ih =>
    rw [List.foldl_cons, ih]
    simp [LegacyFrame.add]

theorem foldl_grown (fr : LegacyFrame) (rows : List (Row (Option String))) :
    rows.foldl (fun fr r => some (grown fr r)) (some fr) = some (rows.foldl LegacyFrame.add fr) := by
  induction rows generalizing fr with
  | nil => rfl
  | cons r rest ih => exact ih (fr.add r)

theorem get?_foldl_readRow (rows : List (Row (Option String))) (d : Dict ℤ LegacyFrame) (ts : ℤ) :
    (rows.foldl readRow d).get? ts =
      (rows.filter fun r => decide (r.frameTsMs = ts)).foldl (fun fr r => some (grown fr r)) (d.get? ts) := by
  induction rows generalizing d with
  | nil => rfl
  | cons r rest ih =>
    rw [List.foldl_cons, ih, readRow, Dict.get?_insert]
    by_cases here : r.frameTsMs = ts
    · subst here
      simp
    · simp [here]

/-- A timestamp's frame is made of its rows. -/
theorem get?_byFrame (rows : List (Row (Option String))) (ts : ℤ) :
    (byFrame rows).get? ts = frameOf (rows.filter fun r => decide (r.frameTsMs = ts)) := by
  rw [byFrame, get?_foldl_readRow]
  cases rows.filter fun r => decide (r.frameTsMs = ts) with
  | nil => rfl
  | cons r rest =>
    rw [List.foldl_cons, foldl_grown, foldl_add]
    rfl

/-- By timestamp. -/
def earlier (a b : ℤ × Option LegacyFrame) : Prop := a.1 ≤ b.1

instance : DecidableRel earlier := fun a b => inferInstanceAs (Decidable (a.1 ≤ b.1))

instance : Std.Total earlier := ⟨fun a b => le_total a.1 b.1⟩

instance : IsTrans (ℤ × Option LegacyFrame) earlier := ⟨fun _ _ _ => le_trans⟩

section Frames
variable {α : Type u} (xs : List α) (ts : α → ℤ) (rows : α → List (Row (Option String)))
  (stamped : ∀ x ∈ xs, rows x ≠ [] ∧ ∀ r ∈ rows x, r.frameTsMs = ts x)
include stamped

theorem filter_flatMap (k : ℤ) : ((xs.flatMap rows).filter fun r => decide (r.frameTsMs = k)) =
    (xs.filter fun x => decide (ts x = k)).flatMap rows := by
  induction xs with
  | nil => rfl
  | cons x rest ih =>
    obtain ⟨⟨-, own⟩, others⟩ := List.forall_mem_cons.mp stamped
    rw [List.flatMap_cons, List.filter_append, ih others]
    by_cases here : ts x = k
    · have all : (rows x).filter (fun r => decide (r.frameTsMs = k)) = rows x :=
        List.filter_eq_self.mpr fun r member => decide_eq_true ((own r member).trans here)
      simp [all, here]
    · have none_ : (rows x).filter (fun r => decide (r.frameTsMs = k)) = [] :=
        List.filter_eq_nil_iff.mpr fun r member => by simpa [own r member] using here
      simp [none_, here]

theorem mem_keys_byFrame (k : ℤ) : k ∈ (byFrame (xs.flatMap rows)).keys ↔ k ∈ xs.map ts := by
  rw [← not_iff_not, ← Dict.get?_eq_none_iff, get?_byFrame, filter_flatMap xs ts rows stamped, frameOf,
    Option.map_eq_none_iff, List.head?_eq_none_iff, List.flatMap_eq_nil_iff]
  simp only [List.mem_filter, decide_eq_true_eq, List.mem_map, not_exists, not_and]
  constructor
  · exact fun empty x member same => (stamped x member).1 (empty x ⟨member, same⟩)
  · exact fun absent x member => absurd member.2 (absent x member.1)

/-- As many frames come back as went in only where no two share a timestamp. -/
theorem nodup_of_count (count : (readParquet (xs.flatMap rows)).count = xs.length) : (xs.map ts).Nodup := by
  have size : (byFrame (xs.flatMap rows)).keys.length = (xs.map ts).length := by
    simpa [Legacy.count, readParquet, Dict.keys] using count
  have within : (byFrame (xs.flatMap rows)).keys ⊆ xs.map ts := fun k member =>
    (mem_keys_byFrame xs ts rows stamped k).mp member
  have same := (List.subperm_of_subset (Dict.nodup _) within).perm_of_length_le size.ge
  exact same.nodup_iff.mp (Dict.nodup _)

variable (distinct : (xs.map ts).Nodup)
include distinct

theorem get?_byFrame_own (x : α) (member : x ∈ xs) : (byFrame (xs.flatMap rows)).get? (ts x) = frameOf (rows x) := by
  have alone : (xs.filter fun y => decide (ts y = ts x)) = [x] := by
    induction xs with
    | nil => exact nomatch member
    | cons y rest ih =>
      obtain ⟨unlisted, later⟩ := List.nodup_cons.mp distinct
      rcases List.mem_cons.mp member with rfl | listed
      · have others : (rest.filter fun y => decide (ts y = ts x)) = [] :=
          List.filter_eq_nil_iff.mpr fun z there => by
            simpa using fun same : ts z = ts x => unlisted (same ▸ List.mem_map_of_mem there)
        simp [others]
      · have apart : ts y ≠ ts x := fun same => unlisted (same ▸ List.mem_map_of_mem listed)
        rw [List.filter_cons_of_neg (by simpa using apart)]
        exact ih (fun z there => stamped z (List.mem_cons_of_mem y there)) later listed
  rw [get?_byFrame, filter_flatMap xs ts rows stamped, alone]
  simp

/-- Where no two share a timestamp, each frame comes back as its own rows make it, in
the order of the timestamps. -/
theorem detections_eq : (readParquet (xs.flatMap rows)).detections.map some =
    (xs.insertionSort fun x y => ts x ≤ ts y).map fun x => frameOf (rows x) := by
  have own := get?_byFrame_own xs ts rows stamped distinct
  have items : ((byFrame (xs.flatMap rows)).items.map fun item => (item.1, some item.2)).Perm
      (xs.map fun x => (ts x, frameOf (rows x))) := by
    refine (List.perm_ext_iff_of_nodup ?_ ?_).mpr ?_
    · refine List.Nodup.of_map Prod.fst ?_
      rw [List.map_map]
      exact Dict.nodup _
    · refine List.Nodup.of_map Prod.fst ?_
      rw [List.map_map]
      exact distinct
    · rintro ⟨k, fr⟩
      simp only [List.mem_map, Prod.mk.injEq]
      constructor
      · rintro ⟨⟨k', fr'⟩, listed, rfl, rfl⟩
        have present := List.mem_map_of_mem (f := Prod.fst) listed
        obtain ⟨x, member, same⟩ := List.mem_map.mp ((mem_keys_byFrame xs ts rows stamped k').mp present)
        refine ⟨x, member, same, ?_⟩
        rw [← own x member, same]
        exact (Dict.get?_eq_some_iff _ k' fr').mpr listed
      · rintro ⟨x, member, rfl, rfl⟩
        have present := (mem_keys_byFrame xs ts rows stamped (ts x)).mpr (List.mem_map_of_mem member)
        obtain ⟨fr, found⟩ := Option.ne_none_iff_exists'.mp fun missing =>
          ((Dict.get?_eq_none_iff _ (ts x)).mp missing) present
        exact ⟨(ts x, fr), (Dict.get?_eq_some_iff _ (ts x) fr).mp found, rfl, found.symm.trans (own x member)⟩
  have sorted : ((byFrame (xs.flatMap rows)).items.map fun item => (item.1, some item.2)).insertionSort earlier =
      (xs.map fun x => (ts x, frameOf (rows x))).insertionSort earlier := by
    refine List.Perm.eq_of_pairwise ?_ (List.pairwise_insertionSort _ _) (List.pairwise_insertionSort _ _)
      (((List.perm_insertionSort _ _).trans items).trans (List.perm_insertionSort _ _).symm)
    intro a b first second before after
    have same : a.1 = b.1 := le_antisymm before after
    have keyed := (((List.perm_insertionSort earlier _).trans items).mem_iff.mp first)
    obtain ⟨x, here, rfl⟩ := List.mem_map.mp keyed
    obtain ⟨y, there, rfl⟩ := List.mem_map.mp ((List.mem_insertionSort earlier).mp second)
    rw [List.inj_on_of_nodup_map distinct here there same]
  have opened_ := congrArg (List.map Prod.snd) sorted
  rw [← List.map_insertionSort (r := fun a b => a.1 ≤ b.1) earlier _ _ (fun _ _ _ _ => Iff.rfl), List.map_map,
    ← List.map_insertionSort (r := fun x y => ts x ≤ ts y) earlier _ _ (fun _ _ _ _ => Iff.rfl), List.map_map] at opened_
  rw [readParquet, List.map_map]
  exact opened_

end Frames

end Retina.Parquet
