import RetinaServer.Library.Dict
import RetinaServer.Library.Rounding
import RetinaServer.Library.Window
import Mathlib.Logic.Function.Basic

/-! The rendered trails: two dictionaries of bounded deques, one in the true frame
and one in the frame a client is served. A thread that looked a deque up goes on
writing to it after the dictionary has let it go, so a deque is known by its hex
and by its turn among those made for that hex. -/
namespace Retina.Feed
open Rounding

def trackHistoryMax : Nat := 60
def trailStaleS : ℚ := 300

/-- One call of `append_track_history`. -/
structure Emit where
  hexCode : String
  lat : ℚ
  lon : ℚ
  altFt : ℚ
  ts : ℚ
  publicLat : Option ℚ := none
  publicLon : Option ℚ := none
deriving DecidableEq, Repr

structure TrailPoint where
  lat : ℚ
  lon : ℚ
  altFt : ℚ
  ts : ℚ
deriving DecidableEq, Repr

def Emit.truePoint (e : Emit) : TrailPoint := ⟨roundTo 6 e.lat, roundTo 6 e.lon, roundTo 0 e.altFt, roundTo 1 e.ts⟩

def Emit.publicPoint (e : Emit) : TrailPoint :=
  ⟨roundTo 6 (e.publicLat.getD e.lat), roundTo 6 (e.publicLon.getD e.lon), roundTo 0 e.altFt, roundTo 1 e.ts⟩

/-- What a deque of the stores' length keeps. -/
def trim (points : List α) : List α := Window.newest trackHistoryMax points

structure TrailStore where
  index : Dict String Nat
  made : String → Nat
  points : String → Nat → List TrailPoint

namespace TrailStore

def empty : TrailStore := ⟨Dict.empty, fun _ => 0, fun _ _ => []⟩

/-- `store[hex] = deque(contents)`. -/
def assign (st : TrailStore) (hex : String) (contents : List TrailPoint) : TrailStore where
  index := st.index.insert hex (st.made hex)
  made := Function.update st.made hex (st.made hex + 1)
  points := Function.update st.points hex (Function.update (st.points hex) (st.made hex) contents)

/-- The deque of the hex, made now if there is none. -/
def setdefault (st : TrailStore) (hex : String) : TrailStore × Nat :=
  match st.index.get? hex with
  | some g => (st, g)
  | none => (st.assign hex [], st.made hex)

def write (st : TrailStore) (hex : String) (g : Nat) (contents : List TrailPoint) : TrailStore :=
  { st with points := Function.update st.points hex (Function.update (st.points hex) g contents) }

def push (st : TrailStore) (hex : String) (g : Nat) (point : TrailPoint) : TrailStore :=
  st.write hex g (trim (st.points hex g ++ [point]))

def pop (st : TrailStore) (hex : String) : TrailStore := { st with index := st.index.erase hex }

/-- What a reader of the dictionary finds. -/
def content (st : TrailStore) (hex : String) : Option (List TrailPoint) := (st.index.get? hex).map (st.points hex)

/-- A deque that is in the dictionary has been made. -/
def WellMade (st : TrailStore) : Prop := ∀ hex g, st.index.get? hex = some g → g < st.made hex

theorem empty_wellMade : empty.WellMade := by
  intro hex g found
  cases found

@[simp] theorem content_assign_self (st : TrailStore) (hex : String) (contents : List TrailPoint) :
    (st.assign hex contents).content hex = some contents := by
  simp [content, assign]

theorem content_write_self (st : TrailStore) (contents : List TrailPoint) (current : st.index.get? hex = some g) :
    (st.write hex g contents).content hex = some contents := by
  simp [content, write, current]

/-- Writing to a deque that the dictionary has let go shows nowhere. -/
theorem content_write_orphan (st : TrailStore) (contents : List TrailPoint) (orphan : st.index.get? hex ≠ some g) :
    (st.write hex g contents).content hex = st.content hex := by
  simp only [content, write, Function.update_self]
  cases found : st.index.get? hex with
  | none => rfl
  | some g' =>
    have other : g' ≠ g := fun same => orphan (same ▸ found)
    simp [Function.update_of_ne other]

@[simp] theorem content_pop_self (st : TrailStore) (hex : String) : (st.pop hex).content hex = none := by
  simp [content, pop]

theorem assign_wellMade (wellMade : WellMade st) (hex : String) (contents : List TrailPoint) :
    (st.assign hex contents).WellMade := by
  intro hex' g found
  by_cases same : hex' = hex
  · subst same
    simp only [assign, Dict.get?_insert_self, Option.some.injEq] at found
    simp [assign, ← found]
  · simp only [assign, Dict.get?_insert_ne _ _ (Ne.symm same)] at found
    simpa [assign, Function.update_of_ne same] using wellMade hex' g found

theorem pop_wellMade (wellMade : WellMade st) (hex : String) : (st.pop hex).WellMade := by
  intro hex' g found
  simp only [pop, Dict.get?_erase] at found
  split at found
  · cases found
  · exact wellMade hex' g found

theorem setdefault_of_none {st : TrailStore} (absent : st.index.get? hex = none) :
    st.setdefault hex = (st.assign hex [], st.made hex) := by
  simp [setdefault, absent]

theorem setdefault_of_some {st : TrailStore} (present : st.index.get? hex = some g) : st.setdefault hex = (st, g) := by
  simp [setdefault, present]

/-- An operation on the deques of one hex. -/
structure OnlyAt (st st' : TrailStore) (hex : String) : Prop where
  index : ∀ hex', hex' ≠ hex → st'.index.get? hex' = st.index.get? hex'
  points : ∀ hex', hex' ≠ hex → st'.points hex' = st.points hex'

theorem OnlyAt.content {st st' : TrailStore} (only : OnlyAt st st' hex) (other : hex' ≠ hex) :
    st'.content hex' = st.content hex' := by
  simp only [TrailStore.content, only.index hex' other, only.points hex' other]

theorem assign_only (st : TrailStore) (hex : String) (contents : List TrailPoint) :
    OnlyAt st (st.assign hex contents) hex :=
  ⟨fun _ other => Dict.get?_insert_ne _ _ (Ne.symm other), fun _ other => Function.update_of_ne other _ _⟩

theorem write_only (st : TrailStore) (hex : String) (g : Nat) (contents : List TrailPoint) :
    OnlyAt st (st.write hex g contents) hex :=
  ⟨fun _ _ => rfl, fun _ other => Function.update_of_ne other _ _⟩

theorem pop_only (st : TrailStore) (hex : String) : OnlyAt st (st.pop hex) hex :=
  ⟨fun _ other => Dict.get?_erase_ne _ (Ne.symm other), fun _ _ => rfl⟩

end TrailStore

/-- Point for point the two deques were written by the same emits. -/
def SameEmits (truePoints publicPoints : List TrailPoint) : Prop :=
  ∃ emits : List Emit, truePoints = emits.map Emit.truePoint ∧ publicPoints = emits.map Emit.publicPoint

/-- A hex is in both stores, with the same emits, or in neither. -/
def InStep : Option (List TrailPoint) → Option (List TrailPoint) → Prop
  | none, none => True
  | some truePoints, some publicPoints => SameEmits truePoints publicPoints
  | _, _ => False

theorem sameEmits_nil : SameEmits [] [] := ⟨[], rfl, rfl⟩

theorem SameEmits.append (first : SameEmits xs ys) (second : SameEmits xs' ys') :
    SameEmits (xs ++ xs') (ys ++ ys') := by
  obtain ⟨emits, rfl, rfl⟩ := first
  obtain ⟨emits', rfl, rfl⟩ := second
  exact ⟨emits ++ emits', by simp, by simp⟩

theorem SameEmits.trim (same : SameEmits xs ys) : SameEmits (trim xs) (trim ys) := by
  obtain ⟨emits, rfl, rfl⟩ := same
  exact ⟨Feed.trim emits, Window.newest_map _ _ _, Window.newest_map _ _ _⟩

theorem SameEmits.nil_iff (same : SameEmits xs ys) : xs = [] ↔ ys = [] := by
  obtain ⟨emits, rfl, rfl⟩ := same
  simp

theorem InStep.getD (inStep : InStep c c') : SameEmits (c.getD []) (c'.getD []) := by
  cases c <;> cases c'
  · exact sameEmits_nil
  · cases inStep
  · cases inStep
  · exact inStep

/-! ### Adoption -/

/-- What one store's part of an adoption makes of the contents: the new hex gets
the old trail and its own after it, and the old one is left empty. -/
def adopted (oldHex newHex : String) (c : String → Option (List TrailPoint)) (hex : String) : Option (List TrailPoint) :=
  match c oldHex with
  | none | some [] => c hex
  | some (first :: rest) =>
      if hex = newHex then some (trim (trim (first :: rest) ++ (c newHex).getD []))
      else if hex = oldHex then some []
      else c hex

theorem adopted_inStep {c c' : String → Option (List TrailPoint)} (oldHex newHex : String)
    (old : InStep (c oldHex) (c' oldHex)) (new : InStep (c newHex) (c' newHex)) (here : InStep (c hex) (c' hex)) :
    InStep (adopted oldHex newHex c hex) (adopted oldHex newHex c' hex) := by
  simp only [adopted]
  cases found : c oldHex with
  | none =>
    cases found' : c' oldHex with
    | none => exact here
    | some ys => simp [InStep, found, found'] at old
  | some xs =>
    cases found' : c' oldHex with
    | none => simp [InStep, found, found'] at old
    | some ys =>
      have same : SameEmits xs ys := by simpa [InStep, found, found'] using old
      cases xs with
      | nil =>
        obtain rfl := same.nil_iff.mp rfl
        exact here
      | cons first rest =>
        cases ys with
        | nil => simpa using same.nil_iff
        | cons first' rest' =>
          dsimp only
          split
          · exact (same.trim.append new.getD).trim
          · split
            · exact sameEmits_nil
            · exact here

theorem adopted_ne {c : String → Option (List TrailPoint)} (notOld : hex ≠ oldHex) (notNew : hex ≠ newHex) :
    adopted oldHex newHex c hex = c hex := by
  simp only [adopted]
  split
  · rfl
  · rfl
  · rw [if_neg notNew, if_neg notOld]

end Retina.Feed
