import RetinaServer.Known.ClaimKnownTargets
import RetinaServer.Library.Machines
import Mathlib.Data.Fintype.EquivFin

/-! What claiming remembers of a node: the tracks that it holds, and the streaks that
its claims run in. A retirement goes through neither. -/
namespace Retina.Retirement
open Machines Known Frames

/-! ### Holds -/

inductive HoldEvent where
  /-- `_touch_hold`, for every claim. -/
  | touched (n : String) (claim : Claim) (det : Detection) (tsMs : ℤ) (world : World)
  /-- The head of `_claim_holds`: what is too old for the frame goes, and the rest is offered to the detections. -/
  | offered (n : String) (frameTsS : ℚ)
  /-- A live fix of the hex disagrees with the hold. -/
  | dropped (n hexn : String)
  /-- A follow candidate looks for the fix and the world of the hex. -/
  | followed (hexn : String)
  | swept (nowS : ℚ)
  | reported

inductive HoldSight where
  | quiet
  | offers (expired : Nat) (live : Holds)
  | original (fix : Option Fix) (world : Option World)
  | held (count : Nat)

section
variable (cfg : ClaimSettings)

def offerHolds (frameTsS : ℚ) (held : Holds) : Holds :=
  if cfg.knownHoldMaxGapS ≤ 0 then held else expireHolds cfg frameTsS held

def sweepHolds (nowS : ℚ) (store : Dict String Holds) : Dict String Holds :=
  (store.mapValues fun holds => holds.filter fun _ entry => !decide (knownClaimsStaleS < nowS - entry.tsMs / 1000)).filter
    fun _ holds => !holds.items.isEmpty

def changeHolds (n : String) (change : Holds → Holds) (store : Dict String Holds) : Dict String Holds :=
  match store.get? n with
  | none => store
  | some held => store.insert n (change held)

def originalFix (store : Dict String Holds) (hexn : String) : Option Fix :=
  store.values.findSome? fun held => (held.get? hexn).bind HoldEntry.fix

def originalWorld (store : Dict String Holds) (hexn : String) : Option World :=
  store.values.findSome? fun held => (held.get? hexn).bind HoldEntry.world

def holds : Machine (Dict String Holds) HoldEvent HoldSight where
  step store
    | .touched n claim det tsMs world => touchHold cfg n claim det tsMs world store
    | .offered n frameTsS => changeHolds n (offerHolds cfg frameTsS) store
    | .dropped n hexn => changeHolds n (fun held => held.erase hexn) store
    | .swept nowS => sweepHolds nowS store
    | .followed _ | .reported => store
  shown store
    | .touched _ _ _ _ _ | .dropped _ _ | .swept _ => .quiet
    | .offered n frameTsS =>
        let held := (store.get? n).getD .empty
        let live := offerHolds cfg frameTsS held
        .offers (held.size - live.size) (if cfg.knownHoldMaxGapS ≤ 0 then .empty else live)
    | .followed hexn => .original (originalFix store hexn) (originalWorld store hexn)
    | .reported => .held (store.values.map Dict.size).sum

/-- With the holds switched off nothing is written. -/
def SoundHolds (store : Dict String Holds) : Prop := cfg.knownHoldMaxGapS ≤ 0 → ∀ n, store.get? n = none

variable {cfg}

theorem sound_changeHolds {store : Dict String Holds} (sound : SoundHolds cfg store) (n : String) (change : Holds → Holds) :
    SoundHolds cfg (changeHolds n change store) := by
  intro off
  rw [changeHolds, sound off n]
  exact sound off

theorem sound_holds {store : Dict String Holds} (sound : SoundHolds cfg store) (e : HoldEvent) :
    SoundHolds cfg ((holds cfg).step store e) := by
  cases e with
  | touched n claim det tsMs world =>
    intro off
    simp only [holds, touchHold, off, if_true]
    exact sound off
  | offered n frameTsS => exact sound_changeHolds sound n _
  | dropped n hexn => exact sound_changeHolds sound n _
  | followed hexn => exact sound
  | reported => exact sound
  | swept nowS =>
    intro off n
    refine Dict.get?_filter_none _ _ ?_
    rw [Dict.get?_mapValues, sound off n, Option.map_none]

/-- A claim of a hex by a transponder's tag. -/
def claimOf (hexn : String) (lat : ℚ) : Claim where
  index := 0
  hexn := hexn
  fix := ⟨lat, 0, none, none, none, 0⟩
  predD := 0
  predF := 0
  extra := {}

def touch (n hexn : String) (lat : ℚ) : HoldEvent := .touched n (claimOf hexn lat) ⟨0, 0, 0⟩ 0 .real

def heldAfter (hexn : String) (lat : ℚ) (held : Holds) : Holds :=
  held.insert hexn (touchEntry (held.get? hexn) ⟨0, 0, 0⟩ 0 (some (claimOf hexn lat).fix) .real false)

theorem step_touch (on : ¬ cfg.knownHoldMaxGapS ≤ 0) (store : Dict String Holds) (n hexn : String) (lat : ℚ) :
    (holds cfg).step store (touch n hexn lat) = store.insert n (heldAfter hexn lat ((store.get? n).getD .empty)) := by
  simp only [holds, touch, touchHold, on, if_false]
  rfl

theorem fix_heldAfter (hexn : String) (lat : ℚ) (held : Holds) :
    ((heldAfter hexn lat held).get? hexn).bind HoldEntry.fix = some (claimOf hexn lat).fix := by
  rw [heldAfter, Dict.get?_insert_self, Option.bind_some]
  cases held.get? hexn <;> rfl

/-- What is left of the node, were it an empty record, keeps its place: a hex is looked up there before it is with nodes that
came later. -/
theorem original_of_place (on : ¬ cfg.knownHoldMaxGapS ≤ 0) {store : Dict String Holds} (held : store.get? n ≠ none)
    (absent : store.get? m = none) (blank : ∀ held ∈ store.values, held.get? hexn = none) :
    originalFix ((holds cfg).step ((holds cfg).step store (touch m hexn 1)) (touch n hexn 2)) hexn =
      some (claimOf hexn 2).fix := by
  have other : m ≠ n := by
    rintro rfl
    exact held absent
  have unheld : ∀ own ∈ store.values, (own.get? hexn).bind HoldEntry.fix = none := by
    intro own member
    rw [blank own member]
    rfl
  have absent' (own : Holds) : (store.insert n own).get? m = none := by rw [Dict.get?_insert_ne _ _ (Ne.symm other), absent]
  rw [step_touch on, step_touch on, Dict.get?_insert_ne _ _ other, Dict.insert_insert_of_held _ _ held absent, originalFix,
    Dict.findSome?_insert_new _ _ (absent' _), Dict.findSome?_insert _ _ _ _ unheld, fix_heldAfter]
  rfl

theorem original_of_absent (on : ¬ cfg.knownHoldMaxGapS ≤ 0) {store : Dict String Holds} (other : m ≠ n)
    (absent : store.get? n = none) (blank : ∀ held ∈ store.values, held.get? hexn = none) :
    originalFix ((holds cfg).step ((holds cfg).step store (touch m hexn 1)) (touch n hexn 2)) hexn =
      some (claimOf hexn 1).fix := by
  have unheld : ∀ own ∈ store.values, (own.get? hexn).bind HoldEntry.fix = none := by
    intro own member
    rw [blank own member]
    rfl
  have absent' (own : Holds) : (store.insert m own).get? n = none := by rw [Dict.get?_insert_ne _ _ other, absent]
  rw [step_touch on, step_touch on, originalFix, Dict.findSome?_insert_new _ _ (absent' _),
    Dict.findSome?_insert _ _ _ _ unheld, fix_heldAfter]
  rfl

theorem holds_alike_iff {store : Dict String Holds} (sound : SoundHolds cfg store) (n : String) :
    Alike (holds cfg) (fun _ => True) store (store.erase n) ↔ store.get? n = none := by
  constructor
  · intro alike
    by_contra left
    have on : ¬ cfg.knownHoldMaxGapS ≤ 0 := fun off => left (sound off n)
    obtain ⟨m, newNode⟩ := Infinite.exists_notMem_finset store.keys.toFinset
    obtain ⟨hexn, newHex⟩ := Infinite.exists_notMem_finset (store.values.flatMap Dict.keys).toFinset
    rw [List.mem_toFinset] at newNode newHex
    have absent := (Dict.get?_eq_none_iff store m).mpr newNode
    have other : m ≠ n := by
      rintro rfl
      exact left absent
    have blank (own : Holds) (member : own ∈ store.values) : own.get? hexn = none :=
      (Dict.get?_eq_none_iff own hexn).mpr fun keyed => newHex (List.mem_flatMap.mpr ⟨own, member, keyed⟩)
    have after := (alike.step (e := touch m hexn 1) trivial).step (e := touch n hexn 2) trivial
    have same := after.shown (e := .followed hexn) trivial
    simp only [holds, HoldSight.original.injEq] at same
    have first := original_of_place on left absent blank
    have second := original_of_absent on other (Dict.get?_erase_self store n)
      fun own member => blank own (Dict.mem_values_erase store n member)
    simp only [holds] at first second
    rw [first, second] at same
    simp [claimOf] at same
  · intro absent
    rw [Dict.erase_of_absent absent]
    exact Alike.refl store

end

/-! ### Streaks -/

inductive StreakEvent where
  | touched (n hexn : String) (tsMs : ℤ)

/-- What shows of a claim is the length of its streak. -/
def streaks : Machine Streaks StreakEvent Nat where
  step store
    | .touched n hexn tsMs => touchClaimStreak store (n, hexn) tsMs
  shown store
    | .touched n hexn tsMs => streakCount store (n, hexn) tsMs

def unseenStreaks (n : String) (store : Streaks) : Streaks := store.filter fun key _ => decide (key.1 ≠ n)

def SoundStreaks (store : Streaks) : Prop := ∀ key e, store.get? key = some e → 1 ≤ e.count

def SpotlessStreaks (n : String) (store : Streaks) : Prop := ∀ hexn, store.get? (n, hexn) = none

theorem streakCount_pos (store : Streaks) (key : String × String) (tsMs : ℤ) : 1 ≤ streakCount store key tsMs := by
  rw [streakCount]
  cases store.get? key with
  | none => exact le_rfl
  | some e =>
    rw [Streak.next]
    split <;> omega

theorem sound_streaks {store : Streaks} (sound : SoundStreaks store) (e : StreakEvent) : SoundStreaks (streaks.step store e) := by
  cases e with
  | touched n hexn tsMs =>
    intro key e found
    rcases get?_touchClaimStreak found with ⟨-, rfl⟩ | before
    · exact streakCount_pos store (n, hexn) tsMs
    · exact sound key e before

/-- A claim at the time of a streak's last one goes on with it. -/
theorem spaced_self (t : ℤ) : Spaced t t := by
  have positive : (0 : ℚ) ≤ calClaimStreakGapS := by decide
  simpa [Spaced] using positive

theorem streaks_alike_iff {store : Streaks} (sound : SoundStreaks store) (n : String) :
    Alike streaks (fun _ => True) store (unseenStreaks n store) ↔ SpotlessStreaks n store := by
  constructor
  · intro alike hexn
    cases found : store.get? (n, hexn) with
    | none => rfl
    | some e =>
      have same := alike.shown (e := .touched n hexn e.last) trivial
      have gone : (unseenStreaks n store).get? (n, hexn) = none := by
        rw [unseenStreaks, Dict.get?_filter, found]
        simp
      have positive := sound (n, hexn) e found
      simp only [streaks, streakCount, found, gone, Streak.next, spaced_self, if_true] at same
      omega
  · intro spotless
    have equal : unseenStreaks n store = store := by
      refine Dict.filter_eq_self ?_
      rintro ⟨m, hexn⟩ e member
      rw [decide_eq_true_eq]
      rintro rfl
      have found := (Dict.get?_eq_some_iff store (m, hexn) e).mpr member
      rw [spotless hexn] at found
      cases found
    rw [equal]
    exact Alike.refl store

end Retina.Retirement
