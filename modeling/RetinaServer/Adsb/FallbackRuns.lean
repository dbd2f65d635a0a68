import RetinaServer.Adsb.Fallback
import RetinaServer.Library.Runs
import RetinaServer.Tracks.LegibleEvents

/-! Runs of the poller: what the store holds after each cycle, of all that was answered for a cell while it stayed a
region, and how long a region waits for its turn. -/
namespace Retina.Adsb
open OrderedDict Runs
open Freshest (IsNewest Register)
open Tcp (Json PyText HasFloat)
open Frames (Trig)
open TaggedEvents (asNum asNum_isSome_iff)

/-! ### What a cycle asks -/

def Fetched.rowList : Fetched → List Row
  | .rows found => found
  | _ => []

section asks
variable {K : Type*} (text : PyText) (met : Met)

/-- The regions that are asked, each with what comes of it: all, up to where the cycle stops. -/
def sent : Nat → List (Region K) → List (Region K × Fetched)
  | _, [] => []
  | i, region :: rest =>
      if INTERVAL_S ≤ met.elapsedS i then []
      else match fetchPoint text (met.replies i) with
        | .rateLimited _ => []
        | .failed => (region, .failed) :: sent (i + 1) rest
        | .rows rows => (region, .rows rows) :: sent (i + 1) rest

/-- The rows answered for a cell. -/
def answeredFor (order : List (Region K)) (cell : Cell) : List Row :=
  (sent text met 0 order).flatMap fun entry => if entry.1.cell = cell then entry.2.rowList else []

theorem sent_append_unasked (i : Nat) (order : List (Region K)) (answers : Dict Cell (List Row)) :
    (sent text met i order).map Prod.fst ++ (askRegions text met i order answers).unasked = order := by
  induction order generalizing i answers with
  | nil => rfl
  | cons region rest ih =>
    rw [sent, askRegions]
    split
    · rfl
    · cases fetchPoint text (met.replies i) with
      | rateLimited retryAfterS => rfl
      | failed => exact congrArg (region :: ·) (ih (i + 1) answers)
      | rows rows => exact congrArg (region :: ·) (ih (i + 1) (answers.insert region.cell rows))

theorem get?_answers (i : Nat) (order : List (Region K)) (distinct : (order.map Region.cell).Nodup)
    (answers : Dict Cell (List Row)) (blank : ∀ cell ∈ order.map Region.cell, answers.get? cell = none) (cell : Cell) :
    ((askRegions text met i order answers).answers.get? cell).getD [] = (answers.get? cell).getD [] ++
      (sent text met i order).flatMap fun entry => if entry.1.cell = cell then entry.2.rowList else [] := by
  induction order generalizing i answers with
  | nil => simp [askRegions, sent]
  | cons region rest ih =>
    obtain ⟨single, distinct⟩ := List.nodup_cons.mp distinct
    have blankRest : ∀ cell ∈ rest.map Region.cell, answers.get? cell = none :=
      fun cell member => blank cell (List.mem_cons_of_mem _ member)
    rw [askRegions, sent]
    split
    · simp
    · cases fetchPoint text (met.replies i) with
      | rateLimited retryAfterS => simp
      | failed => simpa [Fetched.rowList] using ih (i + 1) distinct answers blankRest
      | rows rows =>
        have next := ih (i + 1) distinct (answers.insert region.cell rows) fun cell member => by
          rw [Dict.get?_insert_ne _ _ fun same : region.cell = cell => single (same ▸ member)]
          exact blankRest cell member
        rw [next, List.flatMap_cons, Dict.get?_insert]
        by_cases here : region.cell = cell
        · subst here
          rw [if_pos rfl, if_pos rfl, blank _ List.mem_cons_self]
          rfl
        · rw [if_neg here, if_neg here]
          rfl

theorem answers_eq {order : List (Region K)} (distinct : (order.map Region.cell).Nodup) (cell : Cell) :
    ((askRegions text met 0 order Dict.empty).answers.get? cell).getD [] = answeredFor text met order cell :=
  get?_answers text met 0 order distinct Dict.empty (fun _ _ => rfl) cell

end asks

/-! ### What a cycle keeps -/

variable (trig : Trig)

theorem asCandidate_isSome_iff (row : Row) : (asCandidate trig row).isSome = true ↔ HasFloat row.gs ∧ HasFloat row.track := by
  have altitude : (asNum row.altBaro).isSome = true := by rw [asNum, Option.isSome_map, row.measured, Option.isSome_some]
  rw [← asNum_isSome_iff, ← asNum_isSome_iff, asCandidate]
  cases asNum row.gs with
  | none => simp
  | some gs =>
    cases asNum row.track with
    | none => simp
    | some track =>
      obtain ⟨altBaro, read⟩ := Option.isSome_iff_exists.mp altitude
      simp [read]

theorem lastSeenMs_asCandidate (made : asCandidate trig row = some rec) : rec.lastSeenMs = row.capturedMs := by
  simp only [asCandidate, Option.bind_eq_bind, Option.bind_eq_some_iff, Option.some.injEq] at made
  obtain ⟨gs, -, track, -, altBaro, -, rfl⟩ := made
  rfl

/-- A cell's records are kept by hex, each stamped with the capture of its row. -/
def rowRegister : Register Row Candidate String ℚ where
  name := Row.hex
  stamp row := row.capturedMs
  make := asCandidate trig
  stamped rec := rec.lastSeenMs
  low := 0
  stamped_make row rec made := by rw [lastSeenMs_asCandidate trig made]

theorem takeRow_eq (oldestMs : ℚ) : takeRow trig oldestMs = (rowRegister trig).take oldestMs := rfl

def recordsOf (store : CellStore) (cell : Cell) : Dict String Candidate := (store.get? cell).getD Dict.empty

theorem records_publish {K : Type*} {regions : List (Region K)} {kept : Cell → Dict String Candidate}
    (all : ∀ cell ∈ regions.map Region.cell, refreshed trig oldestMs previous answers cell = some (kept cell)) :
    ∃ store, publish trig oldestMs previous answers regions = some store ∧
      ∀ cell, recordsOf store cell = if cell ∈ regions.map Region.cell then kept cell else Dict.empty := by
  induction regions using List.reverseRecOn with
  | nil => exact ⟨Dict.empty, rfl, fun cell => rfl⟩
  | append_singleton regions region ih =>
    rw [List.map_append] at all
    obtain ⟨store, done, holds⟩ := ih fun cell member => all cell (List.mem_append_left _ member)
    have here := all region.cell (by simp)
    rw [publish] at done
    refine ⟨if (kept region.cell).items.isEmpty then store else store.insert region.cell (kept region.cell), ?_, fun cell => ?_⟩
    · rw [publish, List.foldlM_append, done]
      simp [here]
    · have member : cell ∈ (regions ++ [region]).map Region.cell ↔ cell ∈ regions.map Region.cell ∨ region.cell = cell := by
        rw [List.map_append, List.mem_append, List.map_singleton, List.mem_singleton]
        exact or_congr_right eq_comm
      simp only [member]
      by_cases bare : (kept region.cell).items.isEmpty = true
      · rw [if_pos bare, holds]
        by_cases same : region.cell = cell
        · subst same
          have nothing : kept region.cell = Dict.empty := Dict.eq_of_items (List.isEmpty_iff.mp bare)
          rw [nothing, ite_self, ite_self]
        · simp only [same, or_false]
      · rw [if_neg bare, recordsOf, Dict.get?_insert]
        by_cases same : region.cell = cell
        · subst same
          rw [if_pos rfl, if_pos (.inr rfl), Option.getD_some]
        · simp only [same, or_false, if_false]
          exact holds cell

/-! ### Runs -/

variable {K : Type*} [Field K] [LinearOrder K] (service : Service K)

/-- The rows that a turn of the task is answered for a cell. -/
def answeredIn (s : Poller K) (poll : Poll K) (cell : Cell) : List Row :=
  let s := realNodeRegions service s poll.positions
  answeredFor service.text poll.met (Rotation.order s.regions (s.resumeAt % s.regions.length)) cell

/-- The regions that a turn of the task asks. -/
def askedIn (s : Poller K) (poll : Poll K) : List (Region K) :=
  let s := realNodeRegions service s poll.positions
  (sent service.text poll.met 0 (Rotation.order s.regions (s.resumeAt % s.regions.length))).map Prod.fst

def askedAlong : Poller K → List (Poll K) → List (Region K)
  | _, [] => []
  | s, poll :: rest => askedIn service s poll ++ askedAlong (adsbFallbackTurn service s poll) rest

/-- The poller, with the rows that were answered for each cell since it became a region, and the time of the last cycle. -/
structure Watched (K : Type*) where
  poller : Poller K
  heard : Cell → List Row
  nowS : ℚ

def Watched.boot (nowS : ℚ) : Watched K := ⟨.boot, fun _ => [], nowS⟩

def watchTurn (w : Watched K) (poll : Poll K) : Watched K where
  poller := adsbFallbackTurn service w.poller poll
  heard cell :=
    if cell ∈ (realNodeRegions service w.poller poll.positions).regions.map Region.cell then
      w.heard cell ++ answeredIn service w.poller poll cell
    else []
  nowS := poll.met.nowS

/-- The clock does not go back. -/
def Orderly (w : Watched K) (poll : Poll K) : Prop := w.nowS ≤ poll.met.nowS

/-- The oldest capture that is not too old. -/
def oldestMs (nowS : ℚ) : ℚ := (nowS - service.maxFixAgeS) * 1000

/-- The store holds, by cell and hex, the newest of the rows that were answered for the cell since it became a region,
where it is not too old, and nothing else. -/
structure Current (w : Watched K) : Prop where
  held : ∀ cell hex rec, (recordsOf w.poller.store cell).get? hex = some rec →
    cell ∈ w.poller.regions.map Region.cell ∧ ∃ row, IsNewest Row.hex (fun row => (row.capturedMs : ℚ)) (w.heard cell) hex row ∧
      oldestMs service w.nowS ≤ row.capturedMs ∧ asCandidate service.trig row = some rec
  complete : ∀ cell hex row, IsNewest Row.hex (fun row => (row.capturedMs : ℚ)) (w.heard cell) hex row →
    oldestMs service w.nowS ≤ row.capturedMs → (recordsOf w.poller.store cell).get? hex ≠ none

/-- The regions are these in every turn. -/
def Unchanged (regions : List (Region K)) : Poller K → List (Poll K) → Prop :=
  Along (adsbFallbackTurn service) fun s poll => (realNodeRegions service s poll.positions).regions = regions

/-- Where the regions of a stretch of turns are the same, none of them waits for more asks of the others than go over
the others twice. -/
def NobodyStarves (polls : List (Poll K)) : Prop :=
  ∀ before stretch after, polls = before ++ stretch ++ after → ∀ regions,
    Unchanged service regions (run (adsbFallbackTurn service) .boot before) stretch → ∀ region ∈ regions,
      Rotation.Spaced (2 * regions.length - 2) region
        (askedAlong service (run (adsbFallbackTurn service) .boot before) stretch)

/-- A row that is not too old, and newest so far of its hex in its cell, is dated from the epoch on, and its speed and
its course are no integers beyond the floats. -/
def Leading (oldest : ℚ) (heard rows : List Row) : Prop :=
  ∀ before row after, rows = before ++ row :: after → oldest ≤ row.capturedMs →
    (∀ row' ∈ heard ++ before, row'.hex = row.hex → row'.capturedMs ≤ row.capturedMs) →
    0 ≤ row.capturedMs ∧ HasFloat row.gs ∧ HasFloat row.track

def Publishable (w : Watched K) (poll : Poll K) : Prop :=
  ∀ cell ∈ (realNodeRegions service w.poller poll.positions).regions.map Region.cell,
    Leading (oldestMs service poll.met.nowS) (w.heard cell) (answeredIn service w.poller poll cell)

/-! ### A cycle -/

/-- The books of a run: each cell's records are of what was heard for it, and only a region's cell has any. -/
structure Sound (w : Watched K) : Prop where
  distinct : (w.poller.regions.map Region.cell).Nodup
  elsewhere : ∀ cell, cell ∉ w.poller.regions.map Region.cell → w.heard cell = []
  records : ∀ cell, (rowRegister service.trig).Holds (oldestMs service w.nowS) (w.heard cell) (recordsOf w.poller.store cell)

theorem distinct_realNodeRegions {s : Poller K} (distinct : (s.regions.map Region.cell).Nodup) (positions : List (K × K)) :
    ((realNodeRegions service s positions).regions.map Region.cell).Nodup := by
  rw [realNodeRegions]
  split
  · exact distinct
  · exact nodup_regionsForNodes _ _ _ _

@[simp] theorem store_realNodeRegions (s : Poller K) (positions : List (K × K)) :
    (realNodeRegions service s positions).store = s.store := by
  rw [realNodeRegions]
  split <;> rfl

@[simp] theorem regions_adsbFallbackTurn (s : Poller K) (poll : Poll K) :
    (adsbFallbackTurn service s poll).regions = (realNodeRegions service s poll.positions).regions := by
  simp only [adsbFallbackTurn]
  split
  · rfl
  · cases runCycle service.text service.trig service.maxFixAgeS (realNodeRegions service s poll.positions).regions
      ((realNodeRegions service s poll.positions).resumeAt % (realNodeRegions service s poll.positions).regions.length)
      poll.met (realNodeRegions service s poll.positions).store <;> rfl

variable {service} {trig}

theorem cells_order {K : Type*} (regions : List (Region K)) (start : Nat) :
    ((Rotation.order regions start).map Region.cell).Perm (regions.map Region.cell) := by
  refine List.Perm.map _ ?_
  rw [Rotation.order]
  exact List.perm_append_comm.trans (List.Perm.of_eq (List.take_append_drop start regions))

theorem refreshed_holds (held : (rowRegister trig).Holds floor heard (recordsOf previous cell)) (rises : floor ≤ oldest)
    (answered : (answers.get? cell).getD [] = rows) (leading : Leading oldest heard rows) :
    ∃ kept, refreshed trig oldest previous answers cell = some kept ∧ (rowRegister trig).Holds oldest (heard ++ rows) kept := by
  rw [refreshed, answered]
  refine (held.prune rises).foldlM rows fun before row after split leads high => ?_
  obtain ⟨dated, numbers⟩ := leading before row after split high fun row' member same => by
    exact Int.cast_le.mp (leads row' member same)
  refine ⟨?_, Option.isSome_iff_ne_none.mp ((asCandidate_isSome_iff trig row).mpr numbers)⟩
  show (0 : ℚ) ≤ row.capturedMs
  exact_mod_cast dated

omit [Field K] in
/-- A cycle over regions in cells of their own returns, and each cell's records are of what is heard for it by then. -/
theorem runCycle_holds (text : PyText) {regions : List (Region K)} {heard : Cell → List Row} (distinct : (regions.map Region.cell).Nodup) (start : Nat) (met : Met)
    (held : ∀ cell, (rowRegister trig).Holds floor (heard cell) (recordsOf previous cell))
    (rises : floor ≤ (met.nowS - maxFixAgeS) * 1000)
    (leading : ∀ cell ∈ regions.map Region.cell, Leading ((met.nowS - maxFixAgeS) * 1000) (heard cell)
      (answeredFor text met (Rotation.order regions start) cell)) :
    ∃ store cycle, runCycle text trig maxFixAgeS regions start met previous = some (store, cycle) ∧
      ∀ cell, (rowRegister trig).Holds ((met.nowS - maxFixAgeS) * 1000)
        (if cell ∈ regions.map Region.cell then heard cell ++ answeredFor text met (Rotation.order regions start) cell else [])
        (recordsOf store cell) := by
  have asked := answers_eq text met ((cells_order regions start).nodup_iff.mpr distinct)
  have each : ∀ cell, ∃ kept, cell ∈ regions.map Region.cell →
      refreshed trig ((met.nowS - maxFixAgeS) * 1000) previous
        (askRegions text met 0 (Rotation.order regions start) Dict.empty).answers cell = some kept ∧
      (rowRegister trig).Holds ((met.nowS - maxFixAgeS) * 1000)
        (heard cell ++ answeredFor text met (Rotation.order regions start) cell) kept := by
    intro cell
    by_cases member : cell ∈ regions.map Region.cell
    · obtain ⟨kept, done, holds⟩ := refreshed_holds (held cell) rises (asked cell) (leading cell member)
      exact ⟨kept, fun _ => ⟨done, holds⟩⟩
    · exact ⟨Dict.empty, fun among => absurd among member⟩
  choose kept spec using each
  obtain ⟨store, done, records⟩ := records_publish trig fun cell member => (spec cell member).1
  refine ⟨store, _, by rw [runCycle, done, Option.map_some], fun cell => ?_⟩
  rw [records]
  split
  · rename_i member
    exact (spec cell member).2
  · exact Register.holds_nil _

omit [Field K] in
/-- Where the cycle resumes: behind the regions that were asked, or from the top. -/
theorem runCycle_resumeAt {regions : List (Region K)} (distinct : regions.Nodup) (started : start < regions.length)
    (done : runCycle text trig maxFixAgeS regions start met previous = some (store, cycle)) :
    (sent text met 0 (Rotation.order regions start)).map Prod.fst =
        (Rotation.order regions start).take (sent text met 0 (Rotation.order regions start)).length ∧
      cycle.resumeAt = Rotation.next regions.length start (sent text met 0 (Rotation.order regions start)).length := by
  obtain ⟨published, _, same⟩ := Option.map_eq_some_iff.mp done
  obtain ⟨-, rfl⟩ := Prod.mk.inj same
  have split := sent_append_unasked text met 0 (Rotation.order regions start) Dict.empty
  have count : ((sent text met 0 (Rotation.order regions start)).map Prod.fst).length =
      (sent text met 0 (Rotation.order regions start)).length := List.length_map _
  refine ⟨by rw [← count]; exact List.prefix_iff_eq_take.mp ⟨_, split⟩, ?_⟩
  have first : (askRegions text met 0 (Rotation.order regions start) Dict.empty).unasked.head? =
      (Rotation.order regions start)[(sent text met 0 (Rotation.order regions start)).length]? := by
    rw [← count]
    calc (askRegions text met 0 (Rotation.order regions start) Dict.empty).unasked.head?
        = ((sent text met 0 (Rotation.order regions start)).map Prod.fst ++
            (askRegions text met 0 (Rotation.order regions start) Dict.empty).unasked)[((sent text met 0
              (Rotation.order regions start)).map Prod.fst).length]? := by
          rw [List.getElem?_append_right le_rfl, Nat.sub_self, List.head?_eq_getElem?]
      _ = (Rotation.order regions start)[((sent text met 0 (Rotation.order regions start)).map Prod.fst).length]? :=
          congrArg (·[((sent text met 0 (Rotation.order regions start)).map Prod.fst).length]?) split
  show Option.elim _ 0 _ = _
  rw [first]
  by_cases cut : (sent text met 0 (Rotation.order regions start)).length < regions.length
  · have place := Rotation.next_lt (n := regions.length) start (sent text met 0 (Rotation.order regions start)).length (by omega)
    rw [Rotation.getElem?_order regions started cut, List.getElem?_eq_getElem place, Option.elim_some]
    exact List.get_idxOf distinct ⟨_, place⟩
  · rw [List.getElem?_eq_none (by rw [Rotation.length_order]; omega), Option.elim_none, Rotation.next, if_neg cut]

/-! ### A turn -/

/-- The cycle of a turn returns, with the books of each of its cells. -/
theorem Sound.cycle (sound : Sound service w) (orderly : Orderly w poll) (publishable : Publishable service w poll) :
    ∃ store cycle, runCycle service.text service.trig service.maxFixAgeS (realNodeRegions service w.poller poll.positions).regions
        ((realNodeRegions service w.poller poll.positions).resumeAt %
          (realNodeRegions service w.poller poll.positions).regions.length) poll.met w.poller.store = some (store, cycle) ∧
      ∀ cell, (rowRegister service.trig).Holds (oldestMs service poll.met.nowS)
        (if cell ∈ (realNodeRegions service w.poller poll.positions).regions.map Region.cell then
          w.heard cell ++ answeredIn service w.poller poll cell else []) (recordsOf store cell) := by
  have rises : oldestMs service w.nowS ≤ oldestMs service poll.met.nowS := by
    rw [Orderly] at orderly
    rw [oldestMs, oldestMs]
    linarith
  exact runCycle_holds service.text (distinct_realNodeRegions service sound.distinct poll.positions) _ poll.met
    sound.records rises publishable

theorem Sound.turn (sound : Sound service w) (orderly : Orderly w poll) (publishable : Publishable service w poll) :
    Sound service (watchTurn service w poll) := by
  have distinct := distinct_realNodeRegions service sound.distinct poll.positions
  refine ⟨by rwa [watchTurn, regions_adsbFallbackTurn], fun cell absent => ?_, fun cell => ?_⟩
  · rw [watchTurn, regions_adsbFallbackTurn] at absent
    exact if_neg absent
  · by_cases unpositioned : (realNodeRegions service w.poller poll.positions).regions = []
    · simp only [watchTurn, adsbFallbackTurn, unpositioned, if_true, List.map_nil, List.not_mem_nil, if_false]
      exact Register.holds_nil _
    · obtain ⟨store, cycle, done, holds⟩ := sound.cycle orderly publishable
      simp only [watchTurn, adsbFallbackTurn, if_neg unpositioned, store_realNodeRegions, done, Option.elim_some]
      exact holds cell

/-- A turn whose cycle returns, where it has one. -/
def Returns (service : Service K) (s : Poller K) (poll : Poll K) : Prop :=
  let s := realNodeRegions service s poll.positions
  s.regions = [] ∨
    runCycle service.text service.trig service.maxFixAgeS s.regions (s.resumeAt % s.regions.length) poll.met s.store ≠ none

theorem Sound.returns (sound : Sound service w) (orderly : Orderly w poll) (publishable : Publishable service w poll) :
    Returns service w.poller poll := by
  obtain ⟨store, cycle, done, -⟩ := sound.cycle orderly publishable
  refine .inr ?_
  rw [store_realNodeRegions, done]
  exact Option.some_ne_none _

/-- The asks of a stretch over unchanged regions are rounds over them. -/
theorem askedAlong_eq_rounds {s : Poller K} (distinct : (s.regions.map Region.cell).Nodup)
    (inhabited : 0 < regions.length) (unchanged : Unchanged service regions s polls)
    (returns : Along (adsbFallbackTurn service) (Returns service) s polls) :
    ∃ counts, askedAlong service s polls = Rotation.rounds regions (s.resumeAt % regions.length) counts := by
  induction polls generalizing s with
  | nil => exact ⟨[], rfl⟩
  | cons poll rest ih =>
    obtain ⟨here, unchanged⟩ := unchanged
    obtain ⟨goes, returns⟩ := returns
    have distinct' := distinct_realNodeRegions service distinct poll.positions
    have resumed : (realNodeRegions service s poll.positions).resumeAt = s.resumeAt := by
      rw [realNodeRegions]
      split <;> rfl
    have filled : (realNodeRegions service s poll.positions).regions ≠ [] := by
      rw [here]
      exact List.ne_nil_of_length_pos inhabited
    obtain ⟨⟨store, cycle⟩, done⟩ := Option.ne_none_iff_exists'.mp (goes.resolve_left filled)
    have turned : (adsbFallbackTurn service s poll).resumeAt = cycle.resumeAt := by
      simp only [adsbFallbackTurn, if_neg filled, done, Option.elim_some]
    rw [here, resumed] at done
    obtain ⟨asks, resume⟩ := runCycle_resumeAt (List.Nodup.of_map Region.cell (here ▸ distinct')) (Nat.mod_lt _ inhabited) done
    obtain ⟨counts, later⟩ := ih (by rwa [regions_adsbFallbackTurn]) unchanged returns
    refine ⟨(sent service.text poll.met 0 (Rotation.order regions (s.resumeAt % regions.length))).length :: counts, ?_⟩
    rw [askedAlong, Rotation.rounds, later, turned, resume, Nat.mod_eq_of_lt (Rotation.next_lt _ _ inhabited)]
    simp only [askedIn, here, resumed, asks]

omit [Field K] [LinearOrder K] in
theorem sound_boot (nowS : ℚ) : Sound service (.boot nowS : Watched K) :=
  ⟨List.nodup_nil, fun _ _ => rfl, fun _ => Register.holds_nil _⟩

omit [Field K] [LinearOrder K] in
theorem Sound.current (sound : Sound service w) : Current service w := by
  refine ⟨fun cell hex rec found => ?_, fun cell hex row newest young => (sound.records cell).complete hex row newest young⟩
  obtain ⟨row, newest, young, made⟩ := (sound.records cell).held hex rec found
  refine ⟨?_, row, newest, young, made⟩
  by_contra outside
  have listed := newest.mem
  rw [sound.elsewhere cell outside] at listed
  exact nomatch listed

/-- A stretch of turns that all return starves nobody. -/
theorem spaced_askedAlong {s : Poller K} (distinct : (s.regions.map Region.cell).Nodup)
    (unchanged : Unchanged service regions s polls) (returns : Along (adsbFallbackTurn service) (Returns service) s polls)
    (member : region ∈ regions) : Rotation.Spaced (2 * regions.length - 2) region (askedAlong service s polls) := by
  have inhabited : 0 < regions.length := List.length_pos_of_mem member
  obtain ⟨counts, same⟩ := askedAlong_eq_rounds distinct inhabited unchanged returns
  rw [same]
  exact Rotation.spaced_rounds member (Nat.mod_lt _ inhabited) counts

theorem returns_along (t : ℚ) (polls : List (Poll K))
    (admitted : Along (watchTurn service) (fun w poll => Orderly w poll ∧ Publishable service w poll) (.boot t) polls) :
    Along (adsbFallbackTurn service) (Returns service) (.boot : Poller K) polls := by
  have commutes : ∀ (w : Watched K) poll, (watchTurn service w poll).poller = adsbFallbackTurn service w.poller poll :=
    fun _ _ => rfl
  refine (along_map Watched.poller commutes (Returns service) (.boot t) polls).mpr ?_
  exact along_of_invariant (I := Sound service) (fun _ _ sound guard => sound.turn guard.1 guard.2)
    (fun _ _ sound guard => sound.returns guard.1 guard.2) (sound_boot t) admitted

variable (service)

/-- Where what is answered can be published, the poll loses nothing and starves nobody. -/
theorem nothing_lost_nobody_starved (t : ℚ) (polls : List (Poll K))
    (admitted : Along (watchTurn service) (fun w poll => Orderly w poll ∧ Publishable service w poll) (.boot t) polls) :
    Current service (run (watchTurn service) (.boot t) polls) ∧ NobodyStarves service polls := by
  constructor
  · exact Sound.current (invariant (fun _ _ sound guard => Sound.turn sound guard.1 guard.2) (sound_boot t) admitted)
  · rintro before stretch after rfl regions unchanged region member
    have returns := returns_along t _ admitted
    rw [along_append, along_append] at returns
    have distinct : ((run (adsbFallbackTurn service) .boot before).regions.map Region.cell).Nodup :=
      invariant_always (I := fun s : Poller K => (s.regions.map Region.cell).Nodup)
        (fun s poll distinct => by
          rw [regions_adsbFallbackTurn]
          exact distinct_realNodeRegions service distinct poll.positions) (by exact List.nodup_nil) before
    exact spaced_askedAlong distinct unchanged returns.1.2 member

/-! ### A speed beyond the floats -/

/-- One node's region, on a lattice of square cells. -/
def plainService : Service ℚ where
  lattice := { spacingKm := 400, kmPerDegLatNominal := 111, kmPerDegLat := 111, kmPerDegLon := fun _ => 111, floor := Int.floor }
  geo := { sin := id, cos := fun _ => 1, asin := id, radians := fun x => x / 57, degrees := fun x => x * 57
           ceil := Int.ceil, earthKm := 6371, haversineKm := fun _ _ _ _ => 0 }
  marginKm := 150
  text := { parse := fun _ => none, repr := fun _ => "", str := fun _ => "" }
  trig := { sinDeg := fun _ => 0, cosDeg := fun _ => 1 }
  maxFixAgeS := 45

def aircraft (hex : String) (gs : ℤ) : Json :=
  .dict [("hex", .str hex), ("lat", .int 10), ("lon", .int 10), ("seen_pos", .int 0), ("alt_baro", .int 30000), ("gs", .int gs)]

def pollOf (ac : List Json) : Poll ℚ where
  positions := [(10, 10)]
  met := { elapsedS := fun _ => 0, nowS := 1000
           replies := fun _ => .body (.dict [("now", .int 1000000), ("ac", .list ac)]) 1000 }

/-- One aircraft's speed ends the cycle, and the other's row is lost with it. -/
theorem overflow_loses_answers : ¬ ∀ (service : Service ℚ) t polls, Along (watchTurn service) Orderly (.boot t) polls →
    Current service (run (watchTurn service) (.boot t) polls) ∧ NobodyStarves service polls := by
  intro claimed
  let w := watchTurn plainService (.boot 0) (pollOf [aircraft "abc123" (10 ^ 400), aircraft "def456" 450])
  have current : Current plainService w :=
    (claimed plainService 0 [pollOf [aircraft "abc123" (10 ^ 400), aircraft "def456" 450]]
      ⟨show (0 : ℚ) ≤ 1000 by norm_num, trivial⟩).1
  have answered : (w.heard (27, 52)).map (fun row => (row.hex, row.capturedMs)) = [("abc123", 1000000), ("def456", 1000000)] := by
    decide +kernel
  have kept : (recordsOf w.poller.store (27, 52)).items.length = 0 := by decide +kernel
  obtain ⟨first, rest, heard, -, more⟩ := List.map_eq_cons_iff.mp answered
  obtain ⟨second, last, rfl, shown, bare⟩ := List.map_eq_cons_iff.mp more
  obtain rfl := List.map_eq_nil_iff.mp bare
  obtain ⟨hex, dated⟩ := Prod.mk.inj shown
  refine current.complete (27, 52) "def456" second ⟨[first], [], heard, hex, fun row member other => ?_, by simp⟩ ?_ ?_
  · obtain rfl := List.mem_singleton.mp member
    rw [heard] at answered
    have named : row.hex = "abc123" := (Prod.mk.inj (List.cons.inj answered).1).1
    exact absurd (named.symm.trans other) (by decide)
  · rw [dated]
    decide +kernel
  · rw [Dict.get?, List.eq_nil_of_length_eq_zero kept]
    rfl

/-- Without that speed the other aircraft is kept. -/
theorem good_answer_kept : Current plainService (run (watchTurn plainService) (.boot 0) [pollOf [aircraft "def456" 450]]) ∧
    NobodyStarves plainService [pollOf [aircraft "def456" 450]] := by
  have numbers : ((realNodeRegions plainService .boot (pollOf []).positions).regions.map Region.cell).all (fun cell =>
      (answeredIn plainService .boot (pollOf [aircraft "def456" 450]) cell).all fun row =>
        decide (0 ≤ row.capturedMs) && ((asNum row.gs).isSome && (asNum row.track).isSome)) = true := by decide +kernel
  refine nothing_lost_nobody_starved plainService 0 [pollOf [aircraft "def456" 450]]
    ⟨⟨show (0 : ℚ) ≤ 1000 by norm_num, fun cell member before row after answered _ _ => ?_⟩, trivial⟩
  have each := List.all_eq_true.mp (List.all_eq_true.mp numbers cell member) row (answered ▸ by simp)
  rw [Bool.and_eq_true, Bool.and_eq_true, asNum_isSome_iff, asNum_isSome_iff] at each
  exact ⟨of_decide_eq_true each.1, each.2⟩

end Retina.Adsb
