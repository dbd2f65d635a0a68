import RetinaServer.Feed.TrailStore
import RetinaServer.Library.Runs

/-! The threads on the trail stores: the flush thread appends, the event loop
prunes and the solver adopts, each by single operations on one dictionary or one
deque, with no lock between them. -/
namespace Retina.Feed
open Runs TrailStore

/-- Where `append_track_history` is, with the deques it holds. -/
inductive Appending where
  | idle
  | called (e : Emit)
  | missing (e : Emit)
  | found (e : Emit) (hist : Nat)
  | publicMissing (e : Emit) (hist : Nat)
  | both (e : Emit) (hist histPublic : Nat)
  | moved (e : Emit) (hist histPublic : Nat)
  | pushed (e : Emit) (hist histPublic : Nat)
deriving DecidableEq

/-- Where `prune_stale_stores` is: the items it has still to judge, the stale
hexes it has still to pop, and the one it has popped from the true store only. -/
structure Pruning where
  now : ℚ := 0
  toJudge : List (String × Nat) := []
  stale : List String := []
  half : Option String := none

/-- Where the loop body of `adopt_track_history` is. -/
inductive AdoptPhase where
  | reading
  | copying (g : Nat)
  | extending (g : Nat) (merged : List TrailPoint)
  | assigning (g : Nat) (merged : List TrailPoint)
  | clearing (g : Nat)

/-- The loop is over the true store and then the public one. -/
inductive Adopting where
  | idle
  | onTrue (oldHex newHex : String) (phase : AdoptPhase)
  | onPublic (oldHex newHex : String) (phase : AdoptPhase)

structure Trails where
  trueStore : TrailStore := .empty
  publicStore : TrailStore := .empty
  appending : Appending := .idle
  pruning : Pruning := {}
  adopting : Adopting := .idle

inductive TrailStep where
  | call (e : Emit)
  | appendNext
  | sweep (now : ℚ)
  | judge
  | popTrue
  | popPublic
  | adopt (oldHex newHex : String)
  | adoptNext

/-- The dedup, on the true position only. -/
def stays (hist : List TrailPoint) (e : Emit) : Bool :=
  hist.getLast?.any fun last => decide (|last.lat - e.lat| < 5 / 100000 ∧ |last.lon - e.lon| < 5 / 100000)

def appendNext (s : Trails) : Trails :=
  match s.appending with
  | .idle => s
  | .called e => match s.trueStore.index.get? e.hexCode with
    | some hist => { s with appending := .found e hist }
    | none => { s with appending := .missing e }
  | .missing e =>
      let (trueStore, hist) := s.trueStore.setdefault e.hexCode
      { s with trueStore, appending := .found e hist }
  | .found e hist => match s.publicStore.index.get? e.hexCode with
    | some histPublic => { s with appending := .both e hist histPublic }
    | none => { s with appending := .publicMissing e hist }
  | .publicMissing e hist =>
      let (publicStore, histPublic) := s.publicStore.setdefault e.hexCode
      { s with publicStore, appending := .both e hist histPublic }
  | .both e hist histPublic =>
      if stays (s.trueStore.points e.hexCode hist) e then { s with appending := .idle }
      else { s with appending := .moved e hist histPublic }
  | .moved e hist histPublic => { s with
      trueStore := s.trueStore.push e.hexCode hist e.truePoint
      appending := .pushed e hist histPublic }
  | .pushed e _ histPublic => { s with
      publicStore := s.publicStore.push e.hexCode histPublic e.publicPoint
      appending := .idle }

/-- `not trail or (now - trail[-1][3]) > TRAIL_STALE_S` -/
def isStale (now : ℚ) (trail : List TrailPoint) : Bool :=
  trail.getLast?.all fun last => decide (trailStaleS < now - last.ts)

/-- One operation of the loop body on one store; `none` when the body is through. -/
def adoptPhase (st : TrailStore) (oldHex newHex : String) : AdoptPhase → TrailStore × Option AdoptPhase
  | .reading => match st.index.get? oldHex with
    | none => (st, none)
    | some g => if st.points oldHex g = [] then (st, none) else (st, some (.copying g))
  | .copying g => (st, some (.extending g (trim (st.points oldHex g))))
  | .extending g merged => (st, some (.assigning g (trim (merged ++ (st.content newHex).getD []))))
  | .assigning g merged => (st.assign newHex merged, some (.clearing g))
  | .clearing g => (st.write oldHex g [], none)

def adoptNext (s : Trails) : Trails :=
  match s.adopting with
  | .idle => s
  | .onTrue oldHex newHex phase =>
      let (trueStore, next) := adoptPhase s.trueStore oldHex newHex phase
      { s with trueStore, adopting := match next with
        | some phase => .onTrue oldHex newHex phase
        | none => .onPublic oldHex newHex .reading }
  | .onPublic oldHex newHex phase =>
      let (publicStore, next) := adoptPhase s.publicStore oldHex newHex phase
      { s with publicStore, adopting := match next with
        | some phase => .onPublic oldHex newHex phase
        | none => .idle }

/-- A thread that is not there yet takes no step. -/
def trailStep (s : Trails) : TrailStep → Trails
  | .call e => match s.appending with
    | .idle => { s with appending := .called e }
    | _ => s
  | .appendNext => appendNext s
  | .sweep now =>
      if s.pruning.toJudge = [] ∧ s.pruning.stale = [] ∧ s.pruning.half = none then
        { s with pruning := { now, toJudge := s.trueStore.index.items } }
      else s
  | .judge => match s.pruning.toJudge with
    | [] => s
    | (hex, g) :: rest => { s with pruning := { s.pruning with
        toJudge := rest
        stale := if isStale s.pruning.now (s.trueStore.points hex g) then s.pruning.stale ++ [hex]
          else s.pruning.stale } }
  | .popTrue => match s.pruning.toJudge, s.pruning.half, s.pruning.stale with
    | [], none, hex :: rest => { s with
        trueStore := s.trueStore.pop hex
        pruning := { s.pruning with stale := rest, half := some hex } }
    | _, _, _ => s
  | .popPublic => match s.pruning.half with
    | none => s
    | some hex => { s with
        publicStore := s.publicStore.pop hex
        pruning := { s.pruning with half := none } }
  | .adopt oldHex newHex => match s.adopting with
    | .idle => { s with adopting := .onTrue oldHex newHex .reading }
    | _ => s
  | .adoptNext => adoptNext s

/-- The call the flush thread is in. -/
def Appending.emit : Appending → Option Emit
  | .idle => none
  | .called e | .missing e | .found e _ | .publicMissing e _ | .both e _ _ | .moved e _ _ | .pushed e _ _ => some e

/-- The hex whose deques the running append has begun to look up. -/
def Appending.held : Appending → Option String
  | .idle | .called _ | .missing _ => none
  | .found e _ | .publicMissing e _ | .both e _ _ | .moved e _ _ | .pushed e _ _ => some e.hexCode

def Adopting.Moves (hex : String) : Adopting → Prop
  | .idle => False
  | .onTrue oldHex newHex _ | .onPublic oldHex newHex _ => hex = oldHex ∨ hex = newHex

instance (hex : String) : ∀ a : Adopting, Decidable (a.Moves hex)
  | .idle => inferInstanceAs (Decidable False)
  | .onTrue _ _ _ | .onPublic _ _ _ => inferInstanceAs (Decidable (_ ∨ _))

/-- The public deque that the append is about to take goes with the true one it
holds: both are the dictionaries' own, or both are about to be popped. -/
def PairedLookup (s : Trails) : Prop :=
  match s.appending with
  | .found e hist => s.publicStore.index.get? e.hexCode = none ∨
      (s.trueStore.index.get? e.hexCode = some hist ↔ s.pruning.half ≠ some e.hexCode)
  | .publicMissing e hist => s.trueStore.index.get? e.hexCode = some hist ↔ s.pruning.half ≠ some e.hexCode
  | _ => True

/-- No pop falls between an append's two lookups on one side only, and an
adoption has its two hexes to itself. -/
def Undisturbed (s : Trails) : TrailStep → Prop
  | .appendNext => PairedLookup s ∧ ∀ e ∈ s.appending.emit, ¬ s.adopting.Moves e.hexCode
  | .popTrue => ∀ hex ∈ s.pruning.stale.head?, ¬ s.adopting.Moves hex
  | .adopt oldHex newHex => ∀ hex ∈ [oldHex, newHex], s.appending.held ≠ some hex ∧ s.pruning.half ≠ some hex
  | _ => True

instance (s : Trails) : Decidable (PairedLookup s) := by
  simp only [PairedLookup]
  split <;> infer_instance

instance (s : Trails) : ∀ step, Decidable (Undisturbed s step)
  | .appendNext => inferInstanceAs (Decidable (PairedLookup s ∧ ∀ e ∈ _, ¬ _))
  | .popTrue => inferInstanceAs (Decidable (∀ hex ∈ _, ¬ _))
  | .adopt _ _ => inferInstanceAs (Decidable (∀ hex ∈ _, _ ∧ _))
  | .call _ | .sweep _ | .judge | .popPublic | .adoptNext => inferInstanceAs (Decidable True)

/-- With no append in progress, a hex that is not between its two pops and is not
being moved is in both stores with the same emits, or in neither. -/
def InLockstep (s : Trails) : Prop :=
  s.appending = .idle → ∀ hex, s.pruning.half ≠ some hex → ¬ s.adopting.Moves hex →
    InStep (s.trueStore.content hex) (s.publicStore.content hex)

/-! ### What an adoption has still to do -/

/-- The contents of one store once the rest of the loop body has run on it. -/
def remaining (oldHex newHex : String) (phase : AdoptPhase) (c : String → Option (List TrailPoint)) (hex : String) :
    Option (List TrailPoint) :=
  match phase with
  | .reading | .copying _ => adopted oldHex newHex c hex
  | .extending _ merged =>
      if hex = newHex then some (trim (merged ++ (c newHex).getD [])) else if hex = oldHex then some [] else c hex
  | .assigning _ merged => if hex = newHex then some merged else if hex = oldHex then some [] else c hex
  | .clearing _ => if hex = newHex then c hex else if hex = oldHex then some [] else c hex

/-- The deque that the loop body holds is the old hex's, unless it was just replaced. -/
def PhaseHolds (st : TrailStore) (oldHex newHex : String) : AdoptPhase → Prop
  | .reading => True
  | .copying g => st.index.get? oldHex = some g ∧ st.points oldHex g ≠ []
  | .extending g _ | .assigning g _ => st.index.get? oldHex = some g
  | .clearing g => if oldHex = newHex then st.index.get? oldHex ≠ some g else st.index.get? oldHex = some g

theorem remaining_ne (phase : AdoptPhase) (c : String → Option (List TrailPoint)) (notOld : hex ≠ oldHex)
    (notNew : hex ≠ newHex) : remaining oldHex newHex phase c hex = c hex := by
  cases phase with
  | reading | copying => exact adopted_ne notOld notNew
  | _ => simp [remaining, notOld, notNew]

/-- One operation of the loop body leaves what comes of it all as it was. -/
def PhaseSpec (st : TrailStore) (oldHex newHex : String) (phase : AdoptPhase)
    (result : TrailStore × Option AdoptPhase) : Prop :=
  result.1.WellMade ∧
  match result.2 with
  | some next => PhaseHolds result.1 oldHex newHex next ∧
      ∀ hex, remaining oldHex newHex next result.1.content hex = remaining oldHex newHex phase st.content hex
  | none => ∀ hex, result.1.content hex = remaining oldHex newHex phase st.content hex

theorem adoptPhase_spec {st : TrailStore} (wellMade : st.WellMade) (holds : PhaseHolds st oldHex newHex phase) :
    PhaseSpec st oldHex newHex phase (adoptPhase st oldHex newHex phase) := by
  cases phase with
  | reading =>
    cases found : st.index.get? oldHex with
    | none =>
      have through : adoptPhase st oldHex newHex .reading = (st, none) := by simp [adoptPhase, found]
      rw [through]
      refine ⟨wellMade, ?_⟩
      intro hex
      simp [remaining, adopted, content, found]
    | some g =>
      by_cases empty : st.points oldHex g = []
      · have through : adoptPhase st oldHex newHex .reading = (st, none) := by simp [adoptPhase, found, empty]
        rw [through]
        refine ⟨wellMade, ?_⟩
        intro hex
        simp [remaining, adopted, content, found, empty]
      · have next : adoptPhase st oldHex newHex .reading = (st, some (.copying g)) := by
          simp [adoptPhase, found, empty]
        rw [next]
        exact ⟨wellMade, ⟨found, empty⟩, fun _ => rfl⟩
  | copying g =>
    obtain ⟨found, nonempty⟩ := holds
    refine ⟨wellMade, found, ?_⟩
    intro hex
    obtain ⟨first, rest, points⟩ := List.exists_cons_of_ne_nil nonempty
    have old : st.content oldHex = some (first :: rest) := by simp [content, found, points]
    simp only [remaining, adopted, old, adoptPhase, points]
  | extending g merged => exact ⟨wellMade, holds, fun _ => rfl⟩
  | assigning g merged =>
    have only := assign_only st newHex merged
    refine ⟨assign_wellMade wellMade newHex merged, ?_, ?_⟩
    · have earlier : g < st.made oldHex := wellMade oldHex g holds
      simp only [PhaseHolds, adoptPhase]
      by_cases same : oldHex = newHex
      · subst same
        rw [if_pos rfl]
        simp only [assign, Dict.get?_insert_self, ne_eq, Option.some.injEq]
        omega
      · rw [if_neg same, only.index oldHex same]
        exact holds
    · intro hex
      by_cases isNew : hex = newHex
      · subst isNew
        simp [remaining, adoptPhase]
      · by_cases isOld : hex = oldHex
        · simp only [remaining, if_neg isNew, if_pos isOld]
        · simp only [remaining, if_neg isNew, if_neg isOld]
          exact only.content isNew
  | clearing g =>
    have only := write_only st oldHex g []
    refine ⟨wellMade, ?_⟩
    intro hex
    simp only [adoptPhase, remaining]
    by_cases isOld : hex = oldHex
    · subst isOld
      by_cases isNew : hex = newHex
      · subst isNew
        simp only [PhaseHolds, if_true] at holds
        rw [if_pos rfl, content_write_orphan st [] holds]
      · simp only [PhaseHolds, if_neg isNew] at holds
        rw [if_neg isNew, if_pos rfl, content_write_self st [] holds]
    · rw [only.content isOld, if_neg isOld]
      split <;> rfl

/-- The loop body touches the two hexes it moves and no other. -/
theorem adoptPhase_elsewhere (st : TrailStore) (oldHex newHex : String) (phase : AdoptPhase)
    (unmoved : ¬ (hex = oldHex ∨ hex = newHex)) :
    (adoptPhase st oldHex newHex phase).1.index.get? hex = st.index.get? hex ∧
      (adoptPhase st oldHex newHex phase).1.points hex = st.points hex := by
  obtain ⟨notOld, notNew⟩ := not_or.mp unmoved
  cases phase with
  | reading =>
    simp only [adoptPhase]
    split
    · exact ⟨rfl, rfl⟩
    · split <;> exact ⟨rfl, rfl⟩
  | copying | extending => exact ⟨rfl, rfl⟩
  | assigning g merged =>
    have only := assign_only st newHex merged
    exact ⟨only.index hex notNew, only.points hex notNew⟩
  | clearing g =>
    have only := write_only st oldHex g []
    exact ⟨only.index hex notOld, only.points hex notOld⟩

theorem remaining_congr {c c' : String → Option (List TrailPoint)} (phase : AdoptPhase) (old : c oldHex = c' oldHex)
    (new : c newHex = c' newHex) (here : c hex = c' hex) :
    remaining oldHex newHex phase c hex = remaining oldHex newHex phase c' hex := by
  cases phase <;> simp only [remaining, adopted, old, new, here]

/-- The contents of the true store once the running adoption is through with it. -/
def settledTrue (s : Trails) : String → Option (List TrailPoint) :=
  match s.adopting with
  | .idle | .onPublic _ _ _ => s.trueStore.content
  | .onTrue oldHex newHex phase => remaining oldHex newHex phase s.trueStore.content

def settledPublic (s : Trails) : String → Option (List TrailPoint) :=
  match s.adopting with
  | .idle => s.publicStore.content
  | .onTrue oldHex newHex _ => remaining oldHex newHex .reading s.publicStore.content
  | .onPublic oldHex newHex phase => remaining oldHex newHex phase s.publicStore.content

theorem settled_of_unmoved {s : Trails} (unmoved : ¬ s.adopting.Moves hex) :
    settledTrue s hex = s.trueStore.content hex ∧ settledPublic s hex = s.publicStore.content hex := by
  simp only [settledTrue, settledPublic]
  cases adopting : s.adopting with
  | idle => exact ⟨rfl, rfl⟩
  | onTrue oldHex newHex phase =>
    simp only [adopting, Adopting.Moves, not_or] at unmoved
    exact ⟨remaining_ne phase _ unmoved.1 unmoved.2, remaining_ne .reading _ unmoved.1 unmoved.2⟩
  | onPublic oldHex newHex phase =>
    simp only [adopting, Adopting.Moves, not_or] at unmoved
    exact ⟨rfl, remaining_ne phase _ unmoved.1 unmoved.2⟩

/-- What the adoption holds on to. -/
def AdoptHolds (s : Trails) : Prop :=
  match s.adopting with
  | .idle => True
  | .onTrue oldHex newHex phase => PhaseHolds s.trueStore oldHex newHex phase
  | .onPublic oldHex newHex phase => PhaseHolds s.publicStore oldHex newHex phase

/-! ### What an append holds -/

/-- An append that found the true deque: it will find the public twin, or the
deque is a new one between two pops, or the pruner has taken the true deque away. -/
def Sought (s : Trails) (hex : String) (hist : Nat) : Prop :=
  s.trueStore.index.get? hex = some hist ∧ s.pruning.half ≠ some hex ∧
      SameEmits (s.trueStore.points hex hist) ((s.publicStore.content hex).getD []) ∨
    s.trueStore.index.get? hex = some hist ∧ s.pruning.half = some hex ∧ s.trueStore.points hex hist = [] ∨
    s.trueStore.index.get? hex = none ∧ s.pruning.half = some hex ∨
    s.trueStore.index.get? hex = none ∧ s.publicStore.index.get? hex = none

/-- An append that holds both deques: they are the dictionaries' own and stand
as `P` says, or both are gone or going. -/
def HoldsBoth (s : Trails) (hex : String) (hist histPublic : Nat) (P : List TrailPoint → List TrailPoint → Prop) : Prop :=
  s.trueStore.index.get? hex = some hist ∧ s.publicStore.index.get? hex = some histPublic ∧
      s.pruning.half ≠ some hex ∧ P (s.trueStore.points hex hist) (s.publicStore.points hex histPublic) ∨
    s.trueStore.index.get? hex = none ∧ s.pruning.half = some hex ∨
    s.trueStore.index.get? hex = none ∧ s.publicStore.index.get? hex = none

/-- Between the two pushes the true deque is one emit ahead. -/
def OneAhead (e : Emit) (xs ys : List TrailPoint) : Prop :=
  ∃ before, SameEmits before ys ∧ xs = trim (before ++ [e.truePoint])

def AppendHolds (s : Trails) : Prop :=
  match s.appending with
  | .idle | .called _ | .missing _ => True
  | .found e hist => Sought s e.hexCode hist
  | .publicMissing e hist => Sought s e.hexCode hist ∧ s.publicStore.index.get? e.hexCode = none
  | .both e hist histPublic | .moved e hist histPublic => HoldsBoth s e.hexCode hist histPublic SameEmits
  | .pushed e hist histPublic => HoldsBoth s e.hexCode hist histPublic (OneAhead e)

/-- The invariant of the undisturbed runs. -/
structure Steady (s : Trails) : Prop where
  trueMade : s.trueStore.WellMade
  publicMade : s.publicStore.WellMade
  apart : ∀ hex, s.adopting.Moves hex → s.appending.held ≠ some hex ∧ s.pruning.half ≠ some hex
  half : ∀ hex, s.pruning.half = some hex → s.appending.held ≠ some hex → s.trueStore.index.get? hex = none
  rest : ∀ hex, s.pruning.half ≠ some hex → s.appending.held ≠ some hex → InStep (settledTrue s hex) (settledPublic s hex)
  append : AppendHolds s
  adopt : AdoptHolds s

theorem content_of_some {st : TrailStore} (found : st.index.get? hex = some g) :
    st.content hex = some (st.points hex g) := by
  simp [content, found]

theorem content_of_none {st : TrailStore} (absent : st.index.get? hex = none) : st.content hex = none := by
  simp [content, absent]

theorem steady_lockstep (steady : Steady s) : InLockstep s := by
  intro idle hex whole unmoved
  obtain ⟨onTrue, onPublic⟩ := settled_of_unmoved unmoved
  have inStep := steady.rest hex whole (by simp [idle, Appending.held])
  rwa [onTrue, onPublic] at inStep

/-- An operation of the append or of the pruner on one hex that is not being moved. -/
structure StepAt (s s' : Trails) (hex : String) : Prop where
  trueOnly : OnlyAt s.trueStore s'.trueStore hex
  publicOnly : OnlyAt s.publicStore s'.publicStore hex
  trueMade : s'.trueStore.WellMade
  publicMade : s'.publicStore.WellMade
  adopting : s'.adopting = s.adopting
  unmoved : ¬ s.adopting.Moves hex

theorem StepAt.settled {s s' : Trails} (at_hex : StepAt s s' hex) (other : hex' ≠ hex) :
    settledTrue s' hex' = settledTrue s hex' ∧ settledPublic s' hex' = settledPublic s hex' := by
  have unmoved := at_hex.unmoved
  simp only [settledTrue, settledPublic, at_hex.adopting]
  cases adopting : s.adopting with
  | idle => exact ⟨at_hex.trueOnly.content other, at_hex.publicOnly.content other⟩
  | onTrue oldHex newHex phase =>
    simp only [adopting, Adopting.Moves, not_or] at unmoved
    exact ⟨remaining_congr phase (at_hex.trueOnly.content (Ne.symm unmoved.1))
        (at_hex.trueOnly.content (Ne.symm unmoved.2)) (at_hex.trueOnly.content other),
      remaining_congr .reading (at_hex.publicOnly.content (Ne.symm unmoved.1))
        (at_hex.publicOnly.content (Ne.symm unmoved.2)) (at_hex.publicOnly.content other)⟩
  | onPublic oldHex newHex phase =>
    simp only [adopting, Adopting.Moves, not_or] at unmoved
    exact ⟨at_hex.trueOnly.content other,
      remaining_congr phase (at_hex.publicOnly.content (Ne.symm unmoved.1))
        (at_hex.publicOnly.content (Ne.symm unmoved.2)) (at_hex.publicOnly.content other)⟩

theorem phaseHolds_of_only {st st' : TrailStore} (only : OnlyAt st st' hex) (other : oldHex ≠ hex)
    (holds : PhaseHolds st oldHex newHex phase) : PhaseHolds st' oldHex newHex phase := by
  cases phase with
  | reading => trivial
  | _ => simpa only [PhaseHolds, only.index oldHex other, only.points oldHex other] using holds

theorem StepAt.adoptHolds {s s' : Trails} (at_hex : StepAt s s' hex) (holds : AdoptHolds s) : AdoptHolds s' := by
  have unmoved := at_hex.unmoved
  simp only [AdoptHolds, at_hex.adopting] at holds ⊢
  cases adopting : s.adopting with
  | idle => trivial
  | onTrue oldHex newHex phase =>
    simp only [adopting, Adopting.Moves, not_or] at unmoved holds
    exact phaseHolds_of_only at_hex.trueOnly (Ne.symm unmoved.1) holds
  | onPublic oldHex newHex phase =>
    simp only [adopting, Adopting.Moves, not_or] at unmoved holds
    exact phaseHolds_of_only at_hex.publicOnly (Ne.symm unmoved.1) holds

/-- A step at one hex is judged there alone. -/
theorem StepAt.steady {s s' : Trails} (at_hex : StepAt s s' hex) (steady : Steady s)
    (half : ∀ other, other ≠ hex → (s'.pruning.half = some other ↔ s.pruning.half = some other))
    (held : ∀ other, other ≠ hex → (s'.appending.held = some other ↔ s.appending.held = some other))
    (ownHalf : s'.pruning.half = some hex → s'.appending.held ≠ some hex → s'.trueStore.index.get? hex = none)
    (ownRest : s'.pruning.half ≠ some hex → s'.appending.held ≠ some hex →
      InStep (s'.trueStore.content hex) (s'.publicStore.content hex))
    (append : AppendHolds s') : Steady s' := by
  refine ⟨at_hex.trueMade, at_hex.publicMade, ?_, ?_, ?_, append, at_hex.adoptHolds steady.adopt⟩
  · intro other moving
    rw [at_hex.adopting] at moving
    have distinct : other ≠ hex := by
      rintro rfl
      exact at_hex.unmoved moving
    rw [Ne, Ne, held other distinct, half other distinct]
    exact steady.apart other moving
  · intro other halved free
    by_cases same : other = hex
    · subst same
      exact ownHalf halved free
    · rw [at_hex.trueOnly.index other same]
      exact steady.half other ((half other same).mp halved) (fun holding => free ((held other same).mpr holding))
  · intro other whole free
    by_cases same : other = hex
    · subst same
      have unmoved := at_hex.unmoved
      rw [← at_hex.adopting] at unmoved
      obtain ⟨onTrue, onPublic⟩ := settled_of_unmoved unmoved
      rw [onTrue, onPublic]
      exact ownRest whole free
    · obtain ⟨onTrue, onPublic⟩ := at_hex.settled same
      rw [onTrue, onPublic]
      exact steady.rest other (fun halved => whole ((half other same).mpr halved))
        (fun holding => free ((held other same).mpr holding))

/-! ### The pruner's steps -/

/-- What an append holds of a hex outlasts a step of another thread. -/
structure Outlasts (s s' : Trails) (hex : String) : Prop where
  sought : ∀ hist, Sought s hex hist → Sought s' hex hist
  absent : s.publicStore.index.get? hex = none → s'.publicStore.index.get? hex = none
  both : ∀ hist histPublic P, HoldsBoth s hex hist histPublic P → HoldsBoth s' hex hist histPublic P

theorem appendHolds_of_outlasts {s s' : Trails} (appending : s'.appending = s.appending)
    (outlasts : ∀ hex, s.appending.held = some hex → Outlasts s s' hex) (holds : AppendHolds s) : AppendHolds s' := by
  simp only [AppendHolds, appending] at holds ⊢
  cases running : s.appending with
  | idle | called e | missing e => trivial
  | found e hist =>
    have kept := outlasts e.hexCode (by simp [running, Appending.held])
    exact kept.sought hist (by simpa only [running] using holds)
  | publicMissing e hist =>
    have kept := outlasts e.hexCode (by simp [running, Appending.held])
    simp only [running] at holds
    exact ⟨kept.sought hist holds.1, kept.absent holds.2⟩
  | both e hist histPublic | moved e hist histPublic =>
    have kept := outlasts e.hexCode (by simp [running, Appending.held])
    exact kept.both hist histPublic _ (by simpa only [running] using holds)
  | pushed e hist histPublic =>
    have kept := outlasts e.hexCode (by simp [running, Appending.held])
    exact kept.both hist histPublic _ (by simpa only [running] using holds)

theorem StepAt.outlasts {s s' : Trails} (at_hex : StepAt s s' hex) (other : hex' ≠ hex)
    (half : s'.pruning.half = some hex' ↔ s.pruning.half = some hex') : Outlasts s s' hex' := by
  have index := at_hex.trueOnly.index hex' other
  have points := at_hex.trueOnly.points hex' other
  have publicIndex := at_hex.publicOnly.index hex' other
  refine ⟨?_, fun absent => publicIndex.trans absent, ?_⟩
  · intro hist sought
    simpa only [Sought, index, points, publicIndex, at_hex.publicOnly.content other, ne_eq, half] using sought
  · intro hist histPublic P both
    simpa only [HoldsBoth, index, points, publicIndex, at_hex.publicOnly.points hex' other, ne_eq, half] using both

/-- Once the true deque is popped the append can do no harm. -/
theorem outlasts_popTrue {s s' : Trails} (popped : s'.trueStore.index.get? hex = none)
    (half : s'.pruning.half = some hex) (publicStore : s'.publicStore = s.publicStore) : Outlasts s s' hex :=
  ⟨fun _ _ => .inr (.inr (.inl ⟨popped, half⟩)), fun absent => publicStore ▸ absent,
    fun _ _ _ _ => .inr (.inl ⟨popped, half⟩)⟩

theorem outlasts_popPublic {s s' : Trails} (trueStore : s'.trueStore = s.trueStore)
    (popped : s'.publicStore.index.get? hex = none) (was : s.pruning.half = some hex) (now : s'.pruning.half = none) :
    Outlasts s s' hex := by
  refine ⟨?_, fun _ => popped, ?_⟩
  · rintro hist (⟨-, whole, -⟩ | ⟨current, -, fresh⟩ | ⟨gone, -⟩ | ⟨gone, -⟩)
    · exact absurd was whole
    · refine .inl ⟨trueStore ▸ current, by simp [now], ?_⟩
      rw [trueStore, fresh, content_of_none popped]
      exact sameEmits_nil
    · exact .inr (.inr (.inr ⟨trueStore ▸ gone, popped⟩))
    · exact .inr (.inr (.inr ⟨trueStore ▸ gone, popped⟩))
  · rintro hist histPublic P (⟨-, -, whole, -⟩ | ⟨gone, -⟩ | ⟨gone, -⟩)
    · exact absurd was whole
    · exact .inr (.inr ⟨trueStore ▸ gone, popped⟩)
    · exact .inr (.inr ⟨trueStore ▸ gone, popped⟩)

theorem onlyAt_refl (st : TrailStore) (hex : String) : OnlyAt st st hex := ⟨fun _ _ => rfl, fun _ _ => rfl⟩

theorem popTrue_steady {s : Trails} (steady : Steady s) (undisturbed : Undisturbed s .popTrue) :
    Steady (trailStep s .popTrue) := by
  simp only [trailStep]
  split
  · rename_i hex rest judged whole pending
    have unmoved : ¬ s.adopting.Moves hex := undisturbed hex (by simp [pending])
    have at_hex : StepAt s { s with
        trueStore := s.trueStore.pop hex, pruning := { s.pruning with stale := rest, half := some hex } } hex :=
      ⟨pop_only _ _, onlyAt_refl _ _, pop_wellMade steady.trueMade hex, steady.publicMade, rfl, unmoved⟩
    have half (other : String) (distinct : other ≠ hex) : (some hex = some other ↔ s.pruning.half = some other) := by
      simp [whole, Ne.symm distinct]
    have popped : (s.trueStore.pop hex).index.get? hex = none := Dict.get?_erase_self _ _
    refine at_hex.steady steady half (fun _ _ => Iff.rfl) (fun _ _ => popped) (fun never => absurd rfl never) ?_
    refine appendHolds_of_outlasts (s := s) rfl ?_ steady.append
    intro hex' _
    by_cases same : hex' = hex
    · rw [same]
      exact outlasts_popTrue popped rfl rfl
    · exact at_hex.outlasts same (half hex' same)
  · exact steady

theorem popPublic_steady {s : Trails} (steady : Steady s) : Steady (trailStep s .popPublic) := by
  simp only [trailStep]
  split
  · exact steady
  · rename_i hex halved
    have unmoved : ¬ s.adopting.Moves hex := fun moving => (steady.apart hex moving).2 halved
    have at_hex : StepAt s { s with
        publicStore := s.publicStore.pop hex, pruning := { s.pruning with half := none } } hex :=
      ⟨onlyAt_refl _ _, pop_only _ _, steady.trueMade, pop_wellMade steady.publicMade hex, rfl, unmoved⟩
    have half (other : String) (distinct : other ≠ hex) : (none = some other ↔ s.pruning.half = some other) := by
      simp [halved, Ne.symm distinct]
    have popped : (s.publicStore.pop hex).index.get? hex = none := Dict.get?_erase_self _ _
    refine at_hex.steady steady half (fun _ _ => Iff.rfl) (fun never => by cases never) ?_ ?_
    · intro _ free
      rw [content_of_none (steady.half hex halved free), content_of_none popped]
      trivial
    · refine appendHolds_of_outlasts (s := s) rfl ?_ steady.append
      intro hex' _
      by_cases same : hex' = hex
      · rw [same]
        exact outlasts_popPublic rfl popped halved rfl
      · exact at_hex.outlasts same (half hex' same)

/-! ### The append's own steps -/

/-- The append holds nothing, before and after. -/
theorem unheld_steady {s : Trails} {next : Appending} (steady : Steady s) (was : s.appending.held = none)
    (now : next.held = none) (append : AppendHolds { s with appending := next }) :
    Steady { s with appending := next } := by
  refine ⟨steady.trueMade, steady.publicMade, ?_, ?_, ?_, append, steady.adopt⟩
  · intro hex moving
    exact ⟨by simp [now], (steady.apart hex moving).2⟩
  · intro hex halved _
    exact steady.half hex halved (by simp [was])
  · intro hex whole _
    exact steady.rest hex whole (by simp [was])

/-- The append is at its hex, from now on or still. -/
theorem StepAt.held {s s' : Trails} (at_hex : StepAt s s' hex) (steady : Steady s) (pruning : s'.pruning = s.pruning)
    (was : s.appending.held = none ∨ s.appending.held = some hex) (now : s'.appending.held = some hex)
    (append : AppendHolds s') : Steady s' := by
  refine at_hex.steady steady (fun _ _ => by rw [pruning]) ?_ (fun _ free => absurd now free)
    (fun _ free => absurd now free) append
  intro other distinct
  rcases was with was | was <;> simp [was, now, Ne.symm distinct]

theorem lookup_steady {s : Trails} {next : Appending} (steady : Steady s) (unmoved : ¬ s.adopting.Moves hex)
    (was : s.appending.held = none ∨ s.appending.held = some hex) (now : next.held = some hex)
    (append : AppendHolds { s with appending := next }) : Steady { s with appending := next } := by
  have at_hex : StepAt s { s with appending := next } hex :=
    ⟨onlyAt_refl _ _, onlyAt_refl _ _, steady.trueMade, steady.publicMade, rfl, unmoved⟩
  exact at_hex.held steady rfl was now append

/-- The end of an append, with its deques in place or both gone. -/
theorem finish_steady {s s' : Trails} (steady : Steady s) (at_hex : StepAt s s' hex) (pruning : s'.pruning = s.pruning)
    (was : s.appending.held = some hex) (idle : s'.appending = .idle)
    (both : HoldsBoth s' hex hist histPublic SameEmits) : Steady s' := by
  refine at_hex.steady steady (fun _ _ => by rw [pruning]) ?_ ?_ ?_ ?_
  · intro other distinct
    rw [was, idle]
    simp [Appending.held, Ne.symm distinct]
  · intro halved _
    rcases both with ⟨-, -, whole, -⟩ | ⟨gone, -⟩ | ⟨gone, -⟩
    · exact absurd halved whole
    · exact gone
    · exact gone
  · intro whole _
    rcases both with ⟨current, publicCurrent, -, same⟩ | ⟨-, halved⟩ | ⟨gone, publicGone⟩
    · rw [content_of_some current, content_of_some publicCurrent]
      exact same
    · exact absurd halved whole
    · rw [content_of_none gone, content_of_none publicGone]
      trivial
  · simp [AppendHolds, idle]

theorem found_sought {s : Trails} (steady : Steady s) (unmoved : ¬ s.adopting.Moves hex)
    (free : s.appending.held ≠ some hex) (current : s.trueStore.index.get? hex = some hist) : Sought s hex hist := by
  have whole : s.pruning.half ≠ some hex := by
    intro halved
    rw [steady.half hex halved free] at current
    cases current
  refine .inl ⟨current, whole, ?_⟩
  obtain ⟨onTrue, onPublic⟩ := settled_of_unmoved unmoved
  have inStep := steady.rest hex whole free
  rw [onTrue, onPublic, content_of_some current] at inStep
  exact inStep.getD

theorem made_sought {s : Trails} (steady : Steady s) (unmoved : ¬ s.adopting.Moves hex)
    (free : s.appending.held ≠ some hex) (absent : s.trueStore.index.get? hex = none) (next : Appending) :
    Sought { s with trueStore := s.trueStore.assign hex [], appending := next } hex (s.trueStore.made hex) := by
  have current : (s.trueStore.assign hex []).index.get? hex = some (s.trueStore.made hex) := by simp [assign]
  have empty : (s.trueStore.assign hex []).points hex (s.trueStore.made hex) = [] := by simp [assign]
  by_cases halved : s.pruning.half = some hex
  · exact .inr (.inl ⟨current, halved, empty⟩)
  · refine .inl ⟨current, halved, ?_⟩
    obtain ⟨onTrue, onPublic⟩ := settled_of_unmoved unmoved
    have inStep := steady.rest hex halved free
    rw [onTrue, onPublic, content_of_none absent] at inStep
    have publicAbsent : s.publicStore.content hex = none := by
      cases found : s.publicStore.content hex with
      | none => rfl
      | some ys =>
        rw [found] at inStep
        cases inStep
    rw [empty, publicAbsent]
    exact sameEmits_nil

/-- The public deque that an undisturbed lookup takes is the held one's twin. -/
theorem Sought.both {s : Trails} (sought : Sought s hex hist)
    (paired : s.trueStore.index.get? hex = some hist ↔ s.pruning.half ≠ some hex)
    (publicCurrent : s.publicStore.index.get? hex = some histPublic) : HoldsBoth s hex hist histPublic SameEmits := by
  rcases sought with ⟨current, whole, same⟩ | ⟨current, halved, -⟩ | ⟨gone, halved⟩ | ⟨gone, publicGone⟩
  · rw [content_of_some publicCurrent] at same
    exact .inl ⟨current, publicCurrent, whole, same⟩
  · exact absurd halved (paired.mp current)
  · exact .inr (.inl ⟨gone, halved⟩)
  · rw [publicGone] at publicCurrent
    cases publicCurrent

theorem Sought.made {s : Trails} (sought : Sought s hex hist)
    (paired : s.trueStore.index.get? hex = some hist ↔ s.pruning.half ≠ some hex)
    (absent : s.publicStore.index.get? hex = none) (next : Appending) :
    HoldsBoth { s with publicStore := s.publicStore.assign hex [], appending := next } hex hist
      (s.publicStore.made hex) SameEmits := by
  have publicCurrent : (s.publicStore.assign hex []).index.get? hex = some (s.publicStore.made hex) := by simp [assign]
  have empty : (s.publicStore.assign hex []).points hex (s.publicStore.made hex) = [] := by simp [assign]
  rcases sought with ⟨current, whole, same⟩ | ⟨current, halved, -⟩ | ⟨gone, halved⟩ | ⟨gone, -⟩
  · rw [content_of_none absent] at same
    refine .inl ⟨current, publicCurrent, whole, ?_⟩
    rw [empty]
    exact same
  · exact absurd halved (paired.mp current)
  · exact .inr (.inl ⟨gone, halved⟩)
  · by_cases halved : s.pruning.half = some hex
    · exact .inr (.inl ⟨gone, halved⟩)
    · rw [paired.mpr halved] at gone
      cases gone

/-- A push to a held deque reaches the dictionaries where the deque does. -/
theorem HoldsBoth.write {s s' : Trails} {P Q : List TrailPoint → List TrailPoint → Prop}
    (both : HoldsBoth s hex hist histPublic P) (pruning : s'.pruning = s.pruning)
    (trueIndex : s'.trueStore.index = s.trueStore.index) (publicIndex : s'.publicStore.index = s.publicStore.index)
    (after : P (s.trueStore.points hex hist) (s.publicStore.points hex histPublic) →
      Q (s'.trueStore.points hex hist) (s'.publicStore.points hex histPublic)) :
    HoldsBoth s' hex hist histPublic Q := by
  simp only [HoldsBoth, pruning, trueIndex, publicIndex] at both ⊢
  rcases both with ⟨current, publicCurrent, whole, same⟩ | gone | gone
  · exact .inl ⟨current, publicCurrent, whole, after same⟩
  · exact .inr (.inl gone)
  · exact .inr (.inr gone)

theorem write_wellMade {st : TrailStore} (wellMade : st.WellMade) (hex : String) (g : Nat) (contents : List TrailPoint) :
    (st.write hex g contents).WellMade := wellMade

theorem push_points (st : TrailStore) (hex : String) (g : Nat) (point : TrailPoint) :
    (st.push hex g point).points hex g = trim (st.points hex g ++ [point]) := by
  simp [push, write]

theorem appendNext_steady {s : Trails} (steady : Steady s) (undisturbed : Undisturbed s .appendNext) :
    Steady (trailStep s .appendNext) := by
  obtain ⟨paired, apart⟩ := undisturbed
  have holds := steady.append
  simp only [trailStep, appendNext]
  simp only [PairedLookup] at paired
  simp only [AppendHolds] at holds
  cases running : s.appending with
  | idle => exact steady
  | called e =>
    have unmoved := apart e (by simp [running, Appending.emit])
    have free : s.appending.held = none := by simp [running, Appending.held]
    dsimp only
    cases current : s.trueStore.index.get? e.hexCode with
    | none => exact unheld_steady steady free rfl trivial
    | some hist =>
      have sought := found_sought steady unmoved (by simp [free]) current
      exact lookup_steady steady unmoved (.inl free) rfl sought
  | missing e =>
    have unmoved := apart e (by simp [running, Appending.emit])
    have free : s.appending.held = none := by simp [running, Appending.held]
    dsimp only
    cases current : s.trueStore.index.get? e.hexCode with
    | none =>
      rw [setdefault_of_none current]
      have at_hex : StepAt s { s with
          trueStore := s.trueStore.assign e.hexCode []
          appending := .found e (s.trueStore.made e.hexCode) } e.hexCode :=
        ⟨assign_only _ _ _, onlyAt_refl _ _, assign_wellMade steady.trueMade _ _, steady.publicMade, rfl, unmoved⟩
      exact at_hex.held steady rfl (.inl free) rfl (made_sought steady unmoved (by simp [free]) current _)
    | some hist =>
      rw [setdefault_of_some current]
      have sought := found_sought steady unmoved (by simp [free]) current
      exact lookup_steady steady unmoved (.inl free) rfl sought
  | found e hist =>
    have unmoved := apart e (by simp [running, Appending.emit])
    have mine : s.appending.held = some e.hexCode := by simp [running, Appending.held]
    simp only [running] at paired holds
    dsimp only
    cases publicCurrent : s.publicStore.index.get? e.hexCode with
    | none => exact lookup_steady steady unmoved (.inr mine) rfl ⟨holds, publicCurrent⟩
    | some histPublic =>
      simp only [publicCurrent, reduceCtorEq, false_or] at paired
      exact lookup_steady steady unmoved (.inr mine) rfl (holds.both paired publicCurrent)
  | publicMissing e hist =>
    have unmoved := apart e (by simp [running, Appending.emit])
    have mine : s.appending.held = some e.hexCode := by simp [running, Appending.held]
    simp only [running] at paired holds
    dsimp only
    rw [setdefault_of_none holds.2]
    have at_hex : StepAt s { s with
        publicStore := s.publicStore.assign e.hexCode []
        appending := .both e hist (s.publicStore.made e.hexCode) } e.hexCode :=
      ⟨onlyAt_refl _ _, assign_only _ _ _, steady.trueMade, assign_wellMade steady.publicMade _ _, rfl, unmoved⟩
    exact at_hex.held steady rfl (.inr mine) rfl (holds.1.made paired holds.2 _)
  | both e hist histPublic =>
    have unmoved := apart e (by simp [running, Appending.emit])
    have mine : s.appending.held = some e.hexCode := by simp [running, Appending.held]
    simp only [running] at holds
    dsimp only
    split
    · have at_hex : StepAt s { s with appending := .idle } e.hexCode :=
        ⟨onlyAt_refl _ _, onlyAt_refl _ _, steady.trueMade, steady.publicMade, rfl, unmoved⟩
      exact finish_steady steady at_hex rfl mine rfl holds
    · exact lookup_steady steady unmoved (.inr mine) rfl holds
  | moved e hist histPublic =>
    have unmoved := apart e (by simp [running, Appending.emit])
    have mine : s.appending.held = some e.hexCode := by simp [running, Appending.held]
    simp only [running] at holds
    have at_hex : StepAt s { s with
        trueStore := s.trueStore.push e.hexCode hist e.truePoint
        appending := .pushed e hist histPublic } e.hexCode :=
      ⟨write_only _ _ _ _, onlyAt_refl _ _, write_wellMade steady.trueMade _ _ _, steady.publicMade, rfl, unmoved⟩
    refine at_hex.held steady rfl (.inr mine) rfl (holds.write rfl rfl rfl ?_)
    intro same
    exact ⟨_, same, push_points _ _ _ _⟩
  | pushed e hist histPublic =>
    have unmoved := apart e (by simp [running, Appending.emit])
    have mine : s.appending.held = some e.hexCode := by simp [running, Appending.held]
    simp only [running] at holds
    have at_hex : StepAt s { s with
        publicStore := s.publicStore.push e.hexCode histPublic e.publicPoint
        appending := .idle } e.hexCode :=
      ⟨onlyAt_refl _ _, write_only _ _ _ _, steady.trueMade, write_wellMade steady.publicMade _ _ _, rfl, unmoved⟩
    refine finish_steady steady at_hex rfl mine rfl (holds.write rfl rfl rfl ?_)
    rintro ⟨before, same, ahead⟩
    dsimp only
    rw [ahead, push_points]
    exact (same.append ⟨[e], rfl, rfl⟩).trim

/-! ### The adoption's steps -/

theorem adopt_steady {s : Trails} (steady : Steady s) (undisturbed : Undisturbed s (.adopt oldHex newHex)) :
    Steady (trailStep s (.adopt oldHex newHex)) := by
  simp only [trailStep]
  split
  · rename_i free
    have paired (hex : String) (whole : s.pruning.half ≠ some hex) (unheld : s.appending.held ≠ some hex) :
        InStep (s.trueStore.content hex) (s.publicStore.content hex) := by
      have unmoved : ¬ s.adopting.Moves hex := by simp [free, Adopting.Moves]
      obtain ⟨onTrue, onPublic⟩ := settled_of_unmoved unmoved
      have inStep := steady.rest hex whole unheld
      rwa [onTrue, onPublic] at inStep
    have old := undisturbed oldHex (by simp)
    have new := undisturbed newHex (by simp)
    refine ⟨steady.trueMade, steady.publicMade, ?_, steady.half, ?_, steady.append, trivial⟩
    · rintro hex (rfl | rfl)
      · exact old
      · exact new
    · intro hex whole unheld
      exact adopted_inStep oldHex newHex (paired oldHex old.2 old.1) (paired newHex new.2 new.1)
        (paired hex whole unheld)
  · exact steady

/-- A step of the adoption that settles to the same contents. -/
theorem moved_steady {s s' : Trails} (steady : Steady s) (trueMade : s'.trueStore.WellMade)
    (publicMade : s'.publicStore.WellMade) (appending : s'.appending = s.appending) (pruning : s'.pruning = s.pruning)
    (moves : ∀ hex, s'.adopting.Moves hex → s.adopting.Moves hex)
    (elsewhere : ∀ hex, ¬ s.adopting.Moves hex →
      s'.trueStore.index.get? hex = s.trueStore.index.get? hex ∧ s'.trueStore.points hex = s.trueStore.points hex ∧
      s'.publicStore.index.get? hex = s.publicStore.index.get? hex ∧
      s'.publicStore.points hex = s.publicStore.points hex)
    (settled : ∀ hex, settledTrue s' hex = settledTrue s hex ∧ settledPublic s' hex = settledPublic s hex)
    (adopt : AdoptHolds s') : Steady s' := by
  have still (hex : String) (moving : s'.adopting.Moves hex) := steady.apart hex (moves hex moving)
  refine ⟨trueMade, publicMade, ?_, ?_, ?_, ?_, adopt⟩
  · intro hex moving
    rw [appending, pruning]
    exact still hex moving
  · intro hex halved unheld
    rw [pruning] at halved
    rw [appending] at unheld
    rw [(elsewhere hex fun moving => (steady.apart hex moving).2 halved).1]
    exact steady.half hex halved unheld
  · intro hex whole unheld
    rw [pruning] at whole
    rw [appending] at unheld
    rw [(settled hex).1, (settled hex).2]
    exact steady.rest hex whole unheld
  · refine appendHolds_of_outlasts appending ?_ steady.append
    intro hex held
    obtain ⟨index, points, publicIndex, publicPoints⟩ :=
      elsewhere hex fun moving => (steady.apart hex moving).1 held
    have publicContent : s'.publicStore.content hex = s.publicStore.content hex := by
      simp only [content, publicIndex, publicPoints]
    refine ⟨?_, fun absent => publicIndex.trans absent, ?_⟩
    · intro hist sought
      simpa only [Sought, index, points, publicIndex, publicContent, pruning] using sought
    · intro hist histPublic P both
      simpa only [HoldsBoth, index, points, publicIndex, publicPoints, pruning] using both

theorem adoptNext_steady {s : Trails} (steady : Steady s) : Steady (trailStep s .adoptNext) := by
  have holds := steady.adopt
  simp only [trailStep, adoptNext]
  simp only [AdoptHolds] at holds
  cases adopting : s.adopting with
  | idle => exact steady
  | onTrue oldHex newHex phase =>
    simp only [adopting] at holds
    have spec := adoptPhase_spec steady.trueMade holds
    have elsewhere (hex : String) (unmoved : ¬ s.adopting.Moves hex) := by
      rw [adopting] at unmoved
      exact adoptPhase_elsewhere s.trueStore oldHex newHex phase unmoved
    rcases result : adoptPhase s.trueStore oldHex newHex phase with ⟨trueStore, next⟩
    rw [result] at spec elsewhere
    simp only [result]
    obtain ⟨made, after⟩ := spec
    cases next with
    | some next =>
      refine moved_steady steady made steady.publicMade rfl rfl ?_ ?_ ?_ after.1
      · intro hex moving
        rwa [adopting]
      · intro hex unmoved
        exact ⟨(elsewhere hex unmoved).1, (elsewhere hex unmoved).2, rfl, rfl⟩
      · intro hex
        simp only [settledTrue, settledPublic, adopting]
        exact ⟨after.2 hex, trivial⟩
    | none =>
      refine moved_steady steady made steady.publicMade rfl rfl ?_ ?_ ?_ trivial
      · intro hex moving
        rwa [adopting]
      · intro hex unmoved
        exact ⟨(elsewhere hex unmoved).1, (elsewhere hex unmoved).2, rfl, rfl⟩
      · intro hex
        simp only [settledTrue, settledPublic, adopting]
        exact ⟨after hex, trivial⟩
  | onPublic oldHex newHex phase =>
    simp only [adopting] at holds
    have spec := adoptPhase_spec steady.publicMade holds
    have elsewhere (hex : String) (unmoved : ¬ s.adopting.Moves hex) := by
      rw [adopting] at unmoved
      exact adoptPhase_elsewhere s.publicStore oldHex newHex phase unmoved
    rcases result : adoptPhase s.publicStore oldHex newHex phase with ⟨publicStore, next⟩
    rw [result] at spec elsewhere
    simp only [result]
    obtain ⟨made, after⟩ := spec
    cases next with
    | some next =>
      refine moved_steady steady steady.trueMade made rfl rfl ?_ ?_ ?_ after.1
      · intro hex moving
        rwa [adopting]
      · intro hex unmoved
        exact ⟨rfl, rfl, (elsewhere hex unmoved).1, (elsewhere hex unmoved).2⟩
      · intro hex
        simp only [settledTrue, settledPublic, adopting]
        exact ⟨trivial, after.2 hex⟩
    | none =>
      refine moved_steady steady steady.trueMade made rfl rfl ?_ ?_ ?_ trivial
      · intro hex moving
        exact moving.elim
      · intro hex unmoved
        exact ⟨rfl, rfl, (elsewhere hex unmoved).1, (elsewhere hex unmoved).2⟩
      · intro hex
        simp only [settledTrue, settledPublic, adopting]
        exact ⟨trivial, after hex⟩

/-- What the pruner notes for itself changes no store. -/
theorem noted_steady {s : Trails} (steady : Steady s) (pruning : Pruning) (half : pruning.half = s.pruning.half) :
    Steady { s with pruning } := by
  refine ⟨steady.trueMade, steady.publicMade, ?_, ?_, ?_, ?_, steady.adopt⟩
  · intro hex moving
    simpa only [half] using steady.apart hex moving
  · intro hex halved
    exact steady.half hex (half ▸ halved)
  · intro hex whole
    exact steady.rest hex (half ▸ whole)
  · refine appendHolds_of_outlasts (s := s) rfl ?_ steady.append
    intro hex _
    exact ⟨fun _ sought => by simpa only [Sought, half] using sought, id,
      fun _ _ _ both => by simpa only [HoldsBoth, half] using both⟩

theorem trailStep_steady (s : Trails) (step : TrailStep) (steady : Steady s) (undisturbed : Undisturbed s step) :
    Steady (trailStep s step) := by
  cases step with
  | call e =>
    simp only [trailStep]
    split
    · rename_i free
      exact unheld_steady steady (by simp [free, Appending.held]) rfl trivial
    · exact steady
  | appendNext => exact appendNext_steady steady undisturbed
  | sweep now =>
    simp only [trailStep]
    split
    · rename_i through
      exact noted_steady steady _ through.2.2.symm
    · exact steady
  | judge =>
    simp only [trailStep]
    split
    · exact steady
    · exact noted_steady steady _ rfl
  | popTrue => exact popTrue_steady steady undisturbed
  | popPublic => exact popPublic_steady steady
  | adopt oldHex newHex => exact adopt_steady steady undisturbed
  | adoptNext => exact adoptNext_steady steady

theorem start_steady : Steady {} := by
  refine ⟨empty_wellMade, empty_wellMade, ?_, ?_, ?_, trivial, trivial⟩
  · intro hex moving
    exact moving.elim
  · intro hex halved
    cases halved
  · intro hex _ _
    trivial

def northbound (lat ts : ℚ) : Emit := { hexCode := "pr294e", lat, lon := 0, altFt := 0, ts }

/-- An append from the call to the second push of a new trail. -/
def wholeAppend (e : Emit) : List TrailStep := .call e :: List.replicate 7 .appendNext

def sweepPops (now : ℚ) : List TrailStep := [.sweep now, .judge, .popTrue, .popPublic]

/-- A trail that is swept between two appends, and then handed to another hex. -/
def sweptThenAdopted : List TrailStep :=
  wholeAppend (northbound 1 0) ++ sweepPops 301 ++ wholeAppend (northbound 2 302) ++
    .adopt "pr294e" "mn1d7899" :: List.replicate 10 .adoptNext

/-- A trail goes stale, and its aircraft is back while it is being popped: the
append has found the old true deque and makes a new public one. -/
def returningHex : List TrailStep :=
  wholeAppend (northbound 1 0) ++ [.sweep 301, .judge, .call (northbound 2 301), .appendNext, .popTrue, .popPublic] ++
    List.replicate 5 .appendNext

end Retina.Feed
