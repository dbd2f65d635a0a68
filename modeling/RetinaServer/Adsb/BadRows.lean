import RetinaServer.Adsb.FallbackRuns
import RetinaServer.Library.Partial

/-! What one row of an answer can do to the others, and to the receipt it is dated by. -/
namespace Retina.Adsb
open OrderedDict
open Tcp (Json Fields PyText HasFloat get floatCeiling)
open Frames (Trig hexKeyOf truncate adsbCaptureMaxSkewS)
open Solver (isTransponderHex)
open TaggedEvents (asNum)

/-! ### How far an element gets -/

section reading
variable (text : PyText) (recvMs base : ℚ) (ac : Fields)

def hexOf : String := hexKeyOf text (get ac "hex" .null)

def Named : Prop := isTransponderHex (hexOf text ac) = true ∧ isBool (get ac "seen_pos" .null) = false

/-- It has an age. -/
def Aged : Prop := Named text ac ∧ (get ac "seen_pos" .null).isNum = some true

def Placed : Prop :=
  Aged text ac ∧ isUsable (get ac "lat" .null) (get ac "lon" .null) = some true ∧
    isPositionAbsent (get ac "lat" .null) (get ac "lon" .null) = false

/-- It is a row, if it can be read. -/
def Flying : Prop := Placed text ac ∧ (get ac "alt_baro" .null).isNum = some true ∧ 0 < numeric (get ac "alt_baro" .null)

/-- The capture time before it is cut to a millisecond. -/
def takenMs : ℚ := base - numeric (get ac "seen_pos" .null) * 1000

/-- What the loop comes to can be read: numbers have floats, a flight is a text, and an age can be taken from the time. -/
structure Readable : Prop where
  seenPos : Named text ac → HasFloat (get ac "seen_pos" .null)
  lat : Aged text ac → HasFloat (get ac "lat" .null)
  lon : Aged text ac → usableValue (get ac "lat" .null) = some true → HasFloat (get ac "lon" .null)
  altBaro : Placed text ac → HasFloat (get ac "alt_baro" .null)
  flight : Flying text ac → (get ac "flight" .null).truthy = true → ∃ s, get ac "flight" .null = .str s
  span : Flying text ac → |recvMs| < floatCeiling ∧ |numeric (get ac "seen_pos" .null) * 1000| < floatCeiling ∧
    |takenMs base ac| < floatCeiling

end reading

theorem isNum_ne_none_iff (value : Json) : value.isNum ≠ none ↔ HasFloat value := by
  rw [← Option.isSome_iff_ne_none, ← TaggedEvents.asNum_isSome_iff, asNum, Option.isSome_map]

theorem hasFloat_of_isBool (boolean : isBool value = true) : HasFloat value := by
  rintro n rfl
  exact nomatch boolean

theorem usableValue_ne_none_iff (value : Json) : usableValue value ≠ none ↔ HasFloat value := by
  rw [usableValue]
  split
  · rename_i boolean
    exact iff_of_true (Option.some_ne_none _) (hasFloat_of_isBool boolean)
  · exact isNum_ne_none_iff value

theorem isUsable_ne_none_iff (lat lon : Json) :
    isUsable lat lon ≠ none ↔ HasFloat lat ∧ (usableValue lat = some true → HasFloat lon) := by
  rw [isUsable, ← usableValue_ne_none_iff lat, ← usableValue_ne_none_iff lon]
  cases usableValue lat with
  | none => simp
  | some usable => cases usable <;> simp

theorem stripped_ne_none_iff (value : Json) : stripped value ≠ none ↔ (value.truthy = true → ∃ s, value = .str s) := by
  unfold stripped
  by_cases truthy : value.truthy = true
  · rw [if_pos truthy, forall_prop_of_true truthy]
    cases value <;> simp
  · rw [if_neg truthy]
    exact iff_of_true (Option.some_ne_none _) fun also => absurd also truthy

theorem capturedMs_eq_some_iff (recvMs base seenPos : ℚ) : capturedMs recvMs base seenPos = some captured ↔
    (|recvMs| < floatCeiling ∧ |seenPos * 1000| < floatCeiling ∧ |base - seenPos * 1000| < floatCeiling) ∧
      truncate (base - seenPos * 1000) = captured := by
  rw [capturedMs]
  split
  · rename_i beyond
    refine iff_of_false (fun same => nomatch same) fun both => ?_
    rcases beyond with one | one | one
    · exact absurd both.1.1 (not_lt.mpr one)
    · exact absurd both.1.2.1 (not_lt.mpr one)
    · exact absurd both.1.2.2 (not_lt.mpr one)
  · rename_i within
    push Not at within
    rw [Option.some.injEq, and_iff_right within]

variable {text : PyText}

/-- The row an element is, where it is one. -/
theorem parseAircraft_of_flying (flying : Flying text ac) (readable : Readable text recvMs base ac) :
    ∃ row, parseAircraft text recvMs base (.dict ac) = some (some row) ∧ row.hex = hexOf text ac ∧
      row.capturedMs = truncate (takenMs base ac) ∧ row.gs = get ac "gs" (.int 0) ∧ row.track = get ac "track" (.int 0) := by
  obtain ⟨flight, trimmed⟩ := Option.ne_none_iff_exists'.mp ((stripped_ne_none_iff _).mpr (readable.flight flying))
  have captured := (capturedMs_eq_some_iff recvMs base (numeric (get ac "seen_pos" .null))).mpr ⟨readable.span flying, rfl⟩
  obtain ⟨⟨⟨⟨named, plain⟩, aged⟩, usable, present⟩, measured, up⟩ := flying
  rw [hexOf] at named
  simp only [parseAircraft, named, plain, aged, usable, present, Bool.not_true, Bool.or_self, Bool.false_eq_true, if_false,
    Option.bind_some]
  split
  · rename_i raised
    exact nomatch measured.symm.trans raised
  · rename_i idle
    exact nomatch measured.symm.trans idle
  · rw [if_neg (not_le.mpr up), trimmed, Option.bind_some, captured]
    exact ⟨_, rfl, rfl, rfl, rfl, rfl⟩

/-- The stages of the loop, the next of them read where the one before is passed. -/
theorem readable_iff : Readable text recvMs base ac ↔
    (Named text ac → HasFloat (get ac "seen_pos" .null) ∧ ((get ac "seen_pos" .null).isNum = some true →
      isUsable (get ac "lat" .null) (get ac "lon" .null) ≠ none ∧
      (isUsable (get ac "lat" .null) (get ac "lon" .null) = some true ∧
          isPositionAbsent (get ac "lat" .null) (get ac "lon" .null) = false →
        HasFloat (get ac "alt_baro" .null) ∧
        ((get ac "alt_baro" .null).isNum = some true ∧ 0 < numeric (get ac "alt_baro" .null) →
          stripped (get ac "flight" .null) ≠ none ∧
            capturedMs recvMs base (numeric (get ac "seen_pos" .null)) ≠ none)))) := by
  have spans : capturedMs recvMs base (numeric (get ac "seen_pos" .null)) ≠ none ↔
      |recvMs| < floatCeiling ∧ |numeric (get ac "seen_pos" .null) * 1000| < floatCeiling ∧ |takenMs base ac| < floatCeiling := by
    rw [Option.ne_none_iff_exists']
    simp only [capturedMs_eq_some_iff, exists_and_left, exists_eq', and_true]
    rfl
  rw [isUsable_ne_none_iff, stripped_ne_none_iff, spans]
  constructor
  · rintro ⟨seenPos, lat, lon, altBaro, flight, span⟩ named
    exact ⟨seenPos named, fun aged => ⟨⟨lat ⟨named, aged⟩, lon ⟨named, aged⟩⟩, fun placed =>
      ⟨altBaro ⟨⟨named, aged⟩, placed⟩, fun up => ⟨flight ⟨⟨⟨named, aged⟩, placed⟩, up⟩, span ⟨⟨⟨named, aged⟩, placed⟩, up⟩⟩⟩⟩⟩
  · intro stages
    exact {
      seenPos := fun named => (stages named).1
      lat := fun aged => ((stages aged.1).2 aged.2).1.1
      lon := fun aged => ((stages aged.1).2 aged.2).1.2
      altBaro := fun placed => (((stages placed.1.1).2 placed.1.2).2 placed.2).1
      flight := fun flying => ((((stages flying.1.1.1).2 flying.1.1.2).2 flying.1.2).2 flying.2).1
      span := fun flying => ((((stages flying.1.1.1).2 flying.1.1.2).2 flying.1.2).2 flying.2).2 }

theorem parseAircraft_ne_none_iff : parseAircraft text recvMs base (.dict ac) ≠ none ↔ Readable text recvMs base ac := by
  rw [readable_iff, Named, hexOf, ← isNum_ne_none_iff, ← isNum_ne_none_iff]
  simp only [parseAircraft]
  split
  · rename_i unnamed
    refine iff_of_true (Option.some_ne_none _) fun named => ?_
    simp [named] at unnamed
  · rename_i named
    rw [Bool.not_eq_true, Bool.or_eq_false_iff, Bool.not_eq_false'] at named
    rw [forall_prop_of_true named]
    cases (get ac "seen_pos" .null).isNum with
    | none => simp
    | some aged =>
      cases aged with
      | false => simp
      | true =>
        cases isUsable (get ac "lat" .null) (get ac "lon" .null) with
        | none => simp
        | some usable =>
          simp only [Option.bind_some, Bool.not_true, Bool.false_eq_true, if_false]
          split
          · rename_i away
            refine iff_of_true (Option.some_ne_none _) ⟨Option.some_ne_none _, fun _ => ⟨Option.some_ne_none _, fun placed => ?_⟩⟩
            simp [Option.some.inj placed.1, placed.2] at away
          · rename_i here
            rw [Bool.not_eq_true, Bool.or_eq_false_iff, Bool.not_eq_false'] at here
            obtain ⟨rfl, present⟩ := here
            split
            · rename_i raised
              simp [present, raised]
            · rename_i idle
              simp [present, idle]
            · rename_i measured
              by_cases low : numeric (get ac "alt_baro" .null) ≤ 0
              · simp [present, measured, low, not_lt.mpr low]
              · rw [if_neg low]
                cases stripped (get ac "flight" .null) with
                | none => simp [present, measured, not_le.mp low]
                | some flight => simp [present, measured, not_le.mp low]

theorem flying_of_parseAircraft (parsed : parseAircraft text recvMs base (.dict ac) = some (some row)) : Flying text ac := by
  simp only [parseAircraft] at parsed
  split at parsed
  · exact nomatch parsed
  · rename_i named
    rw [Bool.not_eq_true, Bool.or_eq_false_iff, Bool.not_eq_false'] at named
    obtain ⟨finite, aged, parsed⟩ := Option.bind_eq_some_iff.mp parsed
    cases finite with
    | false => exact nomatch parsed
    | true =>
      obtain ⟨usable, place, parsed⟩ := Option.bind_eq_some_iff.mp parsed
      split at parsed
      · exact nomatch parsed
      · rename_i here
        rw [Bool.not_eq_true, Bool.or_eq_false_iff, Bool.not_eq_false'] at here
        obtain ⟨rfl, present⟩ := here
        split at parsed
        · exact nomatch parsed
        · exact nomatch parsed
        · rename_i measured
          split at parsed
          · exact nomatch parsed
          · rename_i up
            exact ⟨⟨⟨named, aged⟩, place, present⟩, measured, not_le.mp up⟩

/-! ### An answer -/

/-- The elements of `ac`; none where it cannot be iterated. -/
def itemsOf (body : Fields) : List Json := (elements body).getD []

/-- The time an answer is dated from, its receipt where its own cannot be read. -/
def baseOf (body : Fields) (recvMs : ℚ) : ℚ := (baseMs (get body "now" .null) recvMs).getD recvMs

/-- An answer that has this element alone. -/
def alone (body : Fields) (element : Json) : Fields := [("now", get body "now" .null), ("ac", .list [element])]

theorem elements_ne_none_iff (body : Fields) :
    elements body ≠ none ↔ ((get body "ac" .null).truthy = true → (get body "ac" .null).number? = none) := by
  unfold elements
  by_cases truthy : (get body "ac" .null).truthy = true
  · simp only [truthy, if_true, true_imp_iff]
    cases shown : get body "ac" .null with
    | null => simp [shown, Json.truthy] at truthy
    | _ => simp [Json.number?]
  · rw [if_neg truthy]
    exact iff_of_true (Option.some_ne_none _) fun also => absurd also truthy

theorem parsePointResponse_eq (text : PyText) (stamped : HasFloat (get body "now" .null)) (iterable : elements body ≠ none)
    (recvS : ℚ) : parsePointResponse text body recvS =
      ((itemsOf body).mapM (parseAircraft text (recvS * 1000) (baseOf body (recvS * 1000)))).map List.reduceOption := by
  obtain ⟨items, found⟩ := Option.ne_none_iff_exists'.mp iterable
  obtain ⟨finite, num⟩ := Option.ne_none_iff_exists'.mp ((isNum_ne_none_iff _).mpr stamped)
  simp only [parsePointResponse, itemsOf, baseOf, baseMs, num, found, Option.map_some, Option.bind_some, Option.getD_some]

theorem mapM_ne_none_iff (items : List Json) : items.mapM (parseAircraft text recvMs base) ≠ none ↔
    ∀ ac, .dict ac ∈ items → Readable text recvMs base ac := by
  rw [← Option.isSome_iff_ne_none, Partial.mapM_isSome_iff]
  constructor
  · intro each ac member
    exact parseAircraft_ne_none_iff.mp (Option.isSome_iff_ne_none.mp (each _ member))
  · intro readable e member
    rw [Option.isSome_iff_ne_none]
    cases e with
    | dict ac => exact parseAircraft_ne_none_iff.mpr (readable ac member)
    | _ => simp [parseAircraft]

theorem parsePointResponse_ne_none_iff (text : PyText) (body : Fields) (recvS : ℚ) : parsePointResponse text body recvS ≠ none ↔
    HasFloat (get body "now" .null) ∧ elements body ≠ none ∧
      ∀ ac, .dict ac ∈ itemsOf body → Readable text (recvS * 1000) (baseOf body (recvS * 1000)) ac := by
  by_cases stamped : HasFloat (get body "now" .null)
  · by_cases iterable : elements body = none
    · rw [parsePointResponse, iterable]
      simp
    · rw [parsePointResponse_eq text stamped iterable, ← mapM_ne_none_iff, and_iff_right stamped, and_iff_right iterable]
      exact not_congr Option.map_eq_none_iff
  · have raised : (get body "now" .null).isNum = none := by
      by_contra read
      exact stamped ((isNum_ne_none_iff _).mp read)
    rw [parsePointResponse, baseMs, raised]
    simp [stamped]

/-- What an element comes to among the rows. -/
def sighting (text : PyText) (recvMs base : ℚ) (e : Json) : Option Row := (parseAircraft text recvMs base e).getD none

theorem reduceOption_eq {α : Type} (items : List (Option α)) : items.reduceOption = items.filterMap id := rfl

theorem rows_eq (parsed : parsePointResponse text body recvS = some rows) :
    rows = (itemsOf body).filterMap (sighting text (recvS * 1000) (baseOf body (recvS * 1000))) := by
  obtain ⟨stamped, iterable, -⟩ := (parsePointResponse_ne_none_iff text body recvS).mp (parsed ▸ Option.some_ne_none rows)
  rw [parsePointResponse_eq text stamped iterable, Option.map_eq_some_iff] at parsed
  obtain ⟨out, went, rfl⟩ := parsed
  rw [Partial.eq_map_of_mapM went none, reduceOption_eq, List.filterMap_map]
  rfl

theorem parsePointResponse_alone (text : PyText) (stamped : HasFloat (get body "now" .null)) (e : Json) (recvS : ℚ) :
    parsePointResponse text (alone body e) recvS =
      (parseAircraft text (recvS * 1000) (baseOf body (recvS * 1000)) e).map Option.toList := by
  have single : elements (alone body e) = some [e] := rfl
  have stamped' : HasFloat (get (alone body e) "now" .null) := stamped
  have same : baseOf (alone body e) (recvS * 1000) = baseOf body (recvS * 1000) := rfl
  rw [parsePointResponse_eq text stamped' (by simp [single]), same, itemsOf, single, Option.getD_some]
  rw [List.mapM_cons]
  cases parseAircraft text (recvS * 1000) (baseOf body (recvS * 1000)) e with
  | none => rfl
  | some row => cases row <;> rfl

theorem sighting_eq_some_iff (readable : ∀ ac, e = .dict ac → Readable text recvMs base ac) :
    sighting text recvMs base e = some row ↔ parseAircraft text recvMs base e = some (some row) := by
  have goes : parseAircraft text recvMs base e ≠ none := by
    cases e with
    | dict ac => exact parseAircraft_ne_none_iff.mpr (readable ac rfl)
    | _ => simp [parseAircraft]
  obtain ⟨parsed, eq⟩ := Option.ne_none_iff_exists'.mp goes
  rw [sighting, eq, Option.getD_some, Option.some.injEq]

/-- The result is what each element alone comes to. -/
theorem rows_flatten (parsed : parsePointResponse text body recvS = some rows) :
    ∃ pieces, (itemsOf body).mapM (fun e => parsePointResponse text (alone body e) recvS) = some pieces ∧
      rows = pieces.flatten := by
  obtain ⟨stamped, iterable, readable⟩ := (parsePointResponse_ne_none_iff text body recvS).mp (parsed ▸ Option.some_ne_none rows)
  obtain ⟨out, went⟩ := Option.ne_none_iff_exists'.mp ((mapM_ne_none_iff (itemsOf body)).mpr readable)
  refine ⟨out.map Option.toList, ?_, ?_⟩
  · simp only [parsePointResponse_alone text stamped]
    rw [Partial.mapM_eq_some_iff] at went ⊢
    exact List.forall₂_map_right_iff.mpr (went.imp fun e row here => by rw [here, Option.map_some])
  · rw [parsePointResponse_eq text stamped iterable, went, Option.map_some, Option.some.injEq] at parsed
    rw [← parsed, reduceOption_eq, List.filterMap_eq_flatMap_toList, List.flatMap_def]
    rfl

theorem truncate_le_iff (v r : ℚ) : (truncate v : ℚ) ≤ r ↔ if 0 ≤ r then v < ⌊r⌋ + 1 else v ≤ ⌊r⌋ := by
  rw [← Int.le_floor, truncate]
  by_cases received : 0 ≤ r
  · have whole : 0 ≤ ⌊r⌋ := Int.floor_nonneg.mpr received
    rw [if_pos received]
    split
    · rw [← Int.lt_add_one_iff, Int.floor_lt]
      push_cast
      rfl
    · rename_i past
      refine iff_of_true ((Int.ceil_le.mpr (by push_cast; linarith)).trans whole) ?_
      have : (0 : ℚ) ≤ ⌊r⌋ := by exact_mod_cast whole
      linarith
  · have whole : ⌊r⌋ < 0 := Int.floor_lt_zero.mpr (not_le.mp received)
    have below : (⌊r⌋ : ℚ) < 0 := by exact_mod_cast whole
    rw [if_neg received]
    split
    · rename_i later
      refine iff_of_false (fun le => ?_) (fun le => by linarith)
      have := Int.floor_nonneg.mpr later
      omega
    · exact Int.ceil_le

/-! ### What a cycle publishes -/

variable {trig : Trig}

/-- Every record is dated from the epoch on. -/
def Dated (store : CellStore) : Prop := ∀ cell hex rec, (recordsOf store cell).get? hex = some rec → 0 ≤ rec.lastSeenMs

/-- Of the rows dated from the epoch on, each that is newest so far of its hex has a speed and a course with floats. -/
def MeasuredLeaders (rows : List Row) : Prop :=
  ∀ before row after, rows = before ++ row :: after → 0 ≤ row.capturedMs →
    (∀ row' ∈ before, row'.hex = row.hex → row'.capturedMs ≤ row.capturedMs) → HasFloat row.gs ∧ HasFloat row.track

/-- The record of the row's hex is no older than the row. -/
def Published (kept : Dict String Candidate) (row : Row) : Prop :=
  ∃ rec, kept.get? row.hex = some rec ∧ row.capturedMs ≤ rec.lastSeenMs

theorem Published.insert (published : Published kept row)
    (newer : row.hex = hex → ∀ rec', kept.get? hex = some rec' → rec'.lastSeenMs ≤ rec.lastSeenMs) :
    Published (kept.insert hex rec) row := by
  obtain ⟨old, found, le⟩ := published
  by_cases same : row.hex = hex
  · exact ⟨rec, by rw [same, Dict.get?_insert_self], le.trans (newer same old (same ▸ found))⟩
  · exact ⟨old, by rw [Dict.get?_insert_ne _ _ (Ne.symm same), found], le⟩

/-- The rows of one answer go through, and each that is not too old is published. -/
theorem takeRow_publishes (trig : Trig) (kept : Dict String Candidate) (measured : MeasuredLeaders rows)
    (dated : ∀ hex rec, kept.get? hex = some rec → 0 ≤ rec.lastSeenMs) (oldest : ℚ) :
    ∃ kept', rows.foldlM (takeRow trig oldest) kept = some kept' ∧
      (∀ hex rec, kept'.get? hex = some rec → 0 ≤ rec.lastSeenMs) ∧
      ∀ row ∈ rows, oldest ≤ row.capturedMs → 0 ≤ row.capturedMs → Published kept' row := by
  induction rows using List.reverseRecOn with
  | nil => exact ⟨kept, rfl, dated, fun _ member => nomatch member⟩
  | append_singleton rows x ih =>
    obtain ⟨kept', went, dated', published⟩ := ih fun before row after split =>
      measured before row (after ++ [x]) (by rw [split, List.append_assoc]; rfl)
    by_cases taken : max oldest ((kept'.get? x.hex).elim 0 fun rec => (rec.lastSeenMs : ℚ)) ≤ x.capturedMs
    · obtain ⟨young, newer⟩ := max_le_iff.mp taken
      have le_x : ∀ rec, kept'.get? x.hex = some rec → rec.lastSeenMs ≤ x.capturedMs := by
        intro rec found
        rw [found, Option.elim_some] at newer
        exact_mod_cast newer
      have fromEpoch : 0 ≤ x.capturedMs := by
        cases found : kept'.get? x.hex with
        | none =>
          rw [found, Option.elim_none] at newer
          exact_mod_cast newer
        | some rec => exact (dated' _ _ found).trans (le_x rec found)
      have leads : ∀ row' ∈ rows, row'.hex = x.hex → row'.capturedMs ≤ x.capturedMs := by
        intro row' member same
        by_contra later
        have later := not_le.mp later
        obtain ⟨rec, found, le⟩ := published row' member (young.trans (by exact_mod_cast later.le)) (fromEpoch.trans later.le)
        have := le_x rec (same ▸ found)
        omega
      obtain ⟨rec, made⟩ := Option.isSome_iff_exists.mp
        ((asCandidate_isSome_iff trig x).mpr (measured rows x [] rfl fromEpoch leads))
      have stamp := lastSeenMs_asCandidate trig made
      refine ⟨kept'.insert x.hex rec, ?_, fun hex rec' found => ?_, fun row member old epoch => ?_⟩
      · rw [List.foldlM_append, went]
        simp only [Option.bind_eq_bind, Option.bind_some, List.foldlM_cons, List.foldlM_nil, takeRow, if_pos taken, made,
          Option.map_some, Option.pure_def]
      · rw [Dict.get?_insert] at found
        split at found
        · rw [← Option.some.inj found, stamp]
          exact fromEpoch
        · exact dated' hex rec' found
      · rcases List.mem_append.mp member with before | last
        · refine (published row before old epoch).insert fun _ rec' found => ?_
          rw [stamp]
          exact le_x rec' found
        · rw [List.mem_singleton.mp last]
          exact ⟨rec, Dict.get?_insert_self _ _ _, stamp.ge⟩
    · refine ⟨kept', ?_, dated', fun row member old epoch => ?_⟩
      · rw [List.foldlM_append, went]
        simp only [Option.bind_eq_bind, Option.bind_some, List.foldlM_cons, List.foldlM_nil, takeRow, if_neg taken,
          Option.pure_def]
      · rcases List.mem_append.mp member with before | last
        · exact published row before old epoch
        · rw [List.mem_singleton.mp last] at old epoch ⊢
          cases found : kept'.get? x.hex with
          | none =>
            rw [found, Option.elim_none] at taken
            exact absurd (max_le old (by exact_mod_cast epoch)) taken
          | some rec =>
            refine ⟨rec, found, ?_⟩
            rw [found, Option.elim_some] at taken
            by_contra newer
            exact taken (max_le old (by exact_mod_cast (not_le.mp newer).le))

/-- What is kept from nothing is of the rows. -/
theorem of_rows {rows : List Row} {kept : Dict String Candidate} (went : rows.foldlM (takeRow trig oldest) Dict.empty = some kept) (found : kept.get? hex = some rec) :
    ∃ row ∈ rows, row.hex = hex ∧ row.capturedMs = rec.lastSeenMs := by
  induction rows using List.reverseRecOn generalizing kept hex rec with
  | nil =>
    rw [List.foldlM_nil, Option.pure_def, Option.some.injEq] at went
    subst went
    exact nomatch found
  | append_singleton rows x ih =>
    rw [List.foldlM_append] at went
    obtain ⟨kept', early, last⟩ := Option.bind_eq_some_iff.mp went
    rw [List.foldlM_cons] at last
    obtain ⟨kept'', taken, same⟩ := Option.bind_eq_some_iff.mp last
    obtain rfl := Option.some.inj same
    rw [takeRow] at taken
    split at taken
    · obtain ⟨rec', made, rfl⟩ := Option.map_eq_some_iff.mp taken
      rw [Dict.get?_insert] at found
      split at found
      · rename_i here
        obtain rfl := Option.some.inj found
        exact ⟨x, by simp, here, (lastSeenMs_asCandidate trig made).symm⟩
      · obtain ⟨row, member, rest⟩ := ih early found
        exact ⟨row, List.mem_append_left _ member, rest⟩
    · obtain rfl := Option.some.inj taken
      obtain ⟨row, member, rest⟩ := ih early found
      exact ⟨row, List.mem_append_left _ member, rest⟩

/-- Where every floor lets the rows through, the leaders are measured. -/
theorem measuredLeaders_of_foldlM {rows : List Row} (goes : ∀ oldest, rows.foldlM (takeRow trig oldest) Dict.empty ≠ none) : MeasuredLeaders rows := by
  rintro before row after rfl epoch leads
  have went := goes row.capturedMs
  rw [List.foldlM_append] at went
  cases early : before.foldlM (takeRow trig row.capturedMs) Dict.empty with
  | none =>
    rw [early] at went
    exact absurd rfl went
  | some kept =>
    have newest : (kept.get? row.hex).elim 0 (fun rec => (rec.lastSeenMs : ℚ)) ≤ row.capturedMs := by
      cases found : kept.get? row.hex with
      | none =>
        rw [Option.elim_none]
        exact_mod_cast epoch
      | some rec =>
        obtain ⟨row', member, same, stamp⟩ := of_rows early found
        rw [Option.elim_some, ← stamp]
        exact_mod_cast leads row' member same
    rw [early, Option.bind_eq_bind, Option.bind_some, List.foldlM_cons, takeRow, if_pos (max_le le_rfl newest)] at went
    rw [← asCandidate_isSome_iff trig row, Option.isSome_iff_ne_none]
    intro raised
    rw [raised] at went
    exact went rfl

section cycle
variable {K : Type*} [DecidableEq K] (text trig) (maxFixAgeS : ℚ)

/-- The cycle returns, and of each answer it got, each row that is not too old is in the store, or a newer one of its hex. -/
def PublishesAnswers (regions : List (Region K)) (start : Nat) (met : Met) (previous : CellStore) : Prop :=
  ∃ store cycle, runCycle text trig maxFixAgeS regions start met previous = some (store, cycle) ∧
    ∀ entry ∈ sent text met 0 (Rotation.order regions start), ∀ row ∈ entry.2.rowList,
      (met.nowS - maxFixAgeS) * 1000 ≤ row.capturedMs → 0 ≤ row.capturedMs → Published (recordsOf store entry.1.cell) row

variable {text trig maxFixAgeS}

omit [DecidableEq K] in
theorem answeredFor_of_mem {order : List (Region K)} (distinct : (order.map Region.cell).Nodup) (asked : entry ∈ sent text met 0 order) :
    answeredFor text met order entry.1.cell = entry.2.rowList := by
  obtain ⟨before, after, split⟩ := List.append_of_mem asked
  have cells : (((sent text met 0 order).map Prod.fst).map Region.cell).Nodup := by
    refine distinct.sublist (List.Sublist.map Region.cell ?_)
    conv_rhs => rw [← sent_append_unasked text met 0 order Dict.empty]
    exact List.sublist_append_left _ _
  rw [split, List.map_append, List.map_append, List.map_cons, List.map_cons, List.nodup_middle, List.nodup_cons] at cells
  have others : ∀ part : List (Region K × Fetched), (∀ other ∈ part, other ∈ before ++ after) →
      (part.flatMap fun other => if other.1.cell = entry.1.cell then other.2.rowList else []) = [] := by
    refine fun part inside => List.flatMap_eq_nil_iff.mpr fun other member => if_neg fun same => cells.1 ?_
    rw [← List.map_append, ← List.map_append, ← same]
    exact List.mem_map_of_mem (List.mem_map_of_mem (inside other member))
  rw [answeredFor, split, List.flatMap_append, List.flatMap_cons, if_pos rfl,
    others before fun other member => List.mem_append_left _ member,
    others after fun other member => List.mem_append_right _ member, List.nil_append, List.append_nil]

/-- A cycle whose answers each have measured leaders publishes them all. -/
theorem publishesAnswers {regions : List (Region K)} (distinct : (regions.map Region.cell).Nodup) (start : Nat)
    (dated : Dated previous) (measured : ∀ entry ∈ sent text met 0 (Rotation.order regions start), MeasuredLeaders entry.2.rowList) :
    PublishesAnswers text trig maxFixAgeS regions start met previous := by
  have distinct' := (cells_order regions start).nodup_iff.mpr distinct
  have each : ∀ cell, ∃ kept, refreshed trig ((met.nowS - maxFixAgeS) * 1000) previous
        (askRegions text met 0 (Rotation.order regions start) Dict.empty).answers cell = some kept ∧
      ∀ row ∈ answeredFor text met (Rotation.order regions start) cell,
        (met.nowS - maxFixAgeS) * 1000 ≤ row.capturedMs → 0 ≤ row.capturedMs → Published kept row := by
    intro cell
    have leaders : MeasuredLeaders (answeredFor text met (Rotation.order regions start) cell) := by
      by_cases answered : ∃ entry ∈ sent text met 0 (Rotation.order regions start), entry.1.cell = cell
      · obtain ⟨entry, asked, rfl⟩ := answered
        rw [answeredFor_of_mem distinct' asked]
        exact measured entry asked
      · have nothing : answeredFor text met (Rotation.order regions start) cell = [] :=
          List.flatMap_eq_nil_iff.mpr fun entry asked => if_neg fun same => answered ⟨entry, asked, same⟩
        rw [nothing]
        exact fun before row after split => absurd split (by simp)
    obtain ⟨kept, went, -, published⟩ := takeRow_publishes trig
      ((recordsOf previous cell).filter fun _ rec => decide ((met.nowS - maxFixAgeS) * 1000 ≤ rec.lastSeenMs))
      leaders (fun hex rec found => dated cell hex rec (Dict.get?_filter_some found).1) ((met.nowS - maxFixAgeS) * 1000)
    exact ⟨kept, by rw [refreshed, answers_eq text met distinct']; exact went, published⟩
  choose kept spec using each
  obtain ⟨store, done, records⟩ := records_publish trig fun cell _ => (spec cell).1
  refine ⟨store, _, by rw [runCycle, done, Option.map_some], fun entry asked row member old epoch => ?_⟩
  have listed : entry.1.cell ∈ regions.map Region.cell := by
    refine (cells_order regions start).mem_iff.mp (List.mem_map_of_mem ?_)
    rw [← sent_append_unasked text met 0 (Rotation.order regions start) Dict.empty]
    exact List.mem_append_left _ (List.mem_map_of_mem asked)
  rw [records, if_pos listed]
  exact (spec entry.1.cell).2 row (by rwa [answeredFor_of_mem distinct' asked]) old epoch

end cycle

/-! ### The claims of an answer -/

section claims
variable (text : PyText) (trig : Trig) (maxFixAgeS : ℚ)

/-- An answer is read, into no row that is dated after its receipt and into what each element alone comes to; and the
cycle that has it publishes its rows. -/
structure CostsOnlyItself (body : Fields) (recvS : ℚ) : Prop where
  returns : ∃ rows, parsePointResponse text body recvS = some rows ∧
    (∀ row ∈ rows, (row.capturedMs : ℚ) ≤ recvS * 1000) ∧
    ∃ pieces, (itemsOf body).mapM (fun e => parsePointResponse text (alone body e) recvS) = some pieces ∧ rows = pieces.flatten
  published : ∀ (region : Region ℚ) (met : Met) previous, Dated previous → met.elapsedS 0 < INTERVAL_S →
    met.replies 0 = .body (.dict body) recvS → PublishesAnswers text trig maxFixAgeS [region] 0 met previous

/-- The time is cut to a millisecond that is not after the receipt. -/
def NotAhead (recvMs takenMs : ℚ) : Prop := if 0 ≤ recvMs then takenMs < ⌊recvMs⌋ + 1 else takenMs ≤ ⌊recvMs⌋

/-- The answer's time has a float, its aircraft are no number, and each of them can be read as far as it gets; none that
is a row has an age that takes it past the receipt; and of those dated from the epoch on, each that is newest so far of
its hex has a speed and a course with floats. -/
structure Tolerable (body : Fields) (recvS : ℚ) : Prop where
  now : HasFloat (get body "now" .null)
  iterable : (get body "ac" .null).truthy = true → (get body "ac" .null).number? = none
  readable : ∀ ac, .dict ac ∈ itemsOf body → Readable text (recvS * 1000) (baseOf body (recvS * 1000)) ac
  past : ∀ ac, .dict ac ∈ itemsOf body → Flying text ac → NotAhead (recvS * 1000) (takenMs (baseOf body (recvS * 1000)) ac)
  measured : ∀ before ac after, itemsOf body = before ++ .dict ac :: after → Flying text ac →
    0 ≤ truncate (takenMs (baseOf body (recvS * 1000)) ac) →
    (∀ ac', .dict ac' ∈ before → Flying text ac' → hexOf text ac' = hexOf text ac →
      truncate (takenMs (baseOf body (recvS * 1000)) ac') ≤ truncate (takenMs (baseOf body (recvS * 1000)) ac)) →
    HasFloat (get ac "gs" (.int 0)) ∧ HasFloat (get ac "track" (.int 0))

end claims

variable {items : List Json}

/-- The row of an element that flies, and what it has of the element. -/
structure RowOf (text : PyText) (base : ℚ) (ac : Fields) (row : Row) : Prop where
  flying : Flying text ac
  hex : row.hex = hexOf text ac
  captured : row.capturedMs = truncate (takenMs base ac)
  gs : row.gs = get ac "gs" (.int 0)
  track : row.track = get ac "track" (.int 0)

theorem exists_rowOf (readable : Readable text recvMs base ac) (flying : Flying text ac) :
    ∃ row, sighting text recvMs base (.dict ac) = some row ∧ RowOf text base ac row := by
  obtain ⟨row, parsed, hex, captured, gs, track⟩ := parseAircraft_of_flying flying readable
  exact ⟨row, by rw [sighting, parsed, Option.getD_some], flying, hex, captured, gs, track⟩

theorem rowOf_of_sighting (readable : ∀ ac, e = .dict ac → Readable text recvMs base ac)
    (seen : sighting text recvMs base e = some row) : ∃ ac, e = .dict ac ∧ RowOf text base ac row := by
  have parsed := (sighting_eq_some_iff readable).mp seen
  cases e with
  | dict ac =>
    have flying := flying_of_parseAircraft parsed
    obtain ⟨row', again, of⟩ := exists_rowOf (readable ac rfl) flying
    rw [seen, Option.some.injEq] at again
    exact ⟨ac, rfl, again ▸ of⟩
  | _ => simp [parseAircraft] at parsed

theorem measuredLeaders_iff (readable : ∀ ac, .dict ac ∈ items → Readable text recvMs base ac) :
    MeasuredLeaders (items.filterMap (sighting text recvMs base)) ↔
      ∀ before ac after, items = before ++ .dict ac :: after → Flying text ac → 0 ≤ truncate (takenMs base ac) →
        (∀ ac', .dict ac' ∈ before → Flying text ac' → hexOf text ac' = hexOf text ac →
          truncate (takenMs base ac') ≤ truncate (takenMs base ac)) →
        HasFloat (get ac "gs" (.int 0)) ∧ HasFloat (get ac "track" (.int 0)) := by
  constructor
  · rintro leaders before ac after rfl flying epoch leads
    obtain ⟨row, seen, of⟩ := exists_rowOf (readable ac (by simp)) flying
    rw [← of.gs, ← of.track]
    refine leaders (before.filterMap (sighting text recvMs base)) row (after.filterMap (sighting text recvMs base)) ?_
      (of.captured ▸ epoch) fun row' member same => ?_
    · rw [List.filterMap_append, List.filterMap_cons_some seen]
    · obtain ⟨e, listed, seen'⟩ := List.mem_filterMap.mp member
      obtain ⟨ac', rfl, of'⟩ := rowOf_of_sighting
        (fun ac' eq => readable ac' (List.mem_append_left _ (eq ▸ listed))) seen'
      rw [of'.captured, of.captured]
      exact leads ac' listed of'.flying (by rw [← of'.hex, ← of.hex, same])
  · intro others before row after split epoch leads
    obtain ⟨front, back, rfl, fronts, backs⟩ := List.filterMap_eq_append_iff.mp split
    obtain ⟨blank, e, rest, rfl, unseen, seen, -⟩ := List.filterMap_eq_cons_iff.mp backs
    obtain ⟨ac, rfl, of⟩ := rowOf_of_sighting (fun ac eq => readable ac (eq ▸ by simp)) seen
    rw [of.gs, of.track]
    refine others (front ++ blank) ac rest (by simp) of.flying (of.captured ▸ epoch) fun ac' member flying same => ?_
    obtain ⟨row', seen', of'⟩ := exists_rowOf (readable ac' (by
      rcases List.mem_append.mp member with early | late
      · simp [early]
      · simp [late])) flying
    rw [← of'.captured, ← of.captured]
    rcases List.mem_append.mp member with early | late
    · exact leads row' (fronts ▸ List.mem_filterMap.mpr ⟨_, early, seen'⟩) (by rw [of'.hex, of.hex, same])
    · exact nomatch (unseen _ late).symm.trans seen'

theorem Tolerable.measuredLeaders (tolerable : Tolerable text body recvS) (parsed : parsePointResponse text body recvS = some rows) :
    MeasuredLeaders rows := by
  rw [rows_eq parsed, measuredLeaders_iff tolerable.readable]
  exact tolerable.measured

theorem measuredLeaders_fetchPoint (tolerable : ∀ body recvS, reply = .body (.dict body) recvS → Tolerable text body recvS) :
    MeasuredLeaders (fetchPoint text reply).rowList := by
  have nothing : MeasuredLeaders [] := fun before row after split => absurd split (by simp)
  cases reply with
  | refused retryAfterS => exact nothing
  | broken => exact nothing
  | body value recvS =>
    cases value with
    | dict body =>
      rw [fetchPoint]
      cases parsed : parsePointResponse text body recvS with
      | none => exact nothing
      | some rows => exact (tolerable body recvS rfl).measuredLeaders parsed
    | _ => exact nothing

theorem fetched_of_mem_sent {K : Type*} {order : List (Region K)} {entry : Region K × Fetched} {i : Nat}
    (asked : entry ∈ sent text met i order) : ∃ j, j < i + order.length ∧ entry.2 = fetchPoint text (met.replies j) := by
  induction order generalizing i with
  | nil => cases asked
  | cons region rest ih =>
    have later : entry ∈ sent text met (i + 1) rest → ∃ j, j < i + (region :: rest).length ∧
        entry.2 = fetchPoint text (met.replies j) := by
      intro member
      obtain ⟨j, bound, fetched⟩ := ih member
      exact ⟨j, by rw [List.length_cons]; omega, fetched⟩
    rw [sent] at asked
    split at asked
    · cases asked
    · split at asked
      · cases asked
      · rename_i fetched
        rcases List.mem_cons.mp asked with rfl | member
        · exact ⟨i, by simp, fetched.symm⟩
        · exact later member
      · rename_i fetched
        rcases List.mem_cons.mp asked with rfl | member
        · exact ⟨i, by simp, fetched.symm⟩
        · exact later member

variable (text : PyText) (trig : Trig) (maxFixAgeS : ℚ)

/-- A cycle over tolerable answers publishes them all. -/
theorem publishesAnswers_of_tolerable {regions : List (Region ℚ)} (distinct : (regions.map Region.cell).Nodup) (start : Nat)
    (dated : Dated previous)
    (tolerable : ∀ i < regions.length, ∀ body recvS, met.replies i = .body (.dict body) recvS → Tolerable text body recvS) :
    PublishesAnswers text trig maxFixAgeS regions start met previous := by
  refine publishesAnswers distinct start dated fun entry asked => ?_
  obtain ⟨j, bound, fetched⟩ := fetched_of_mem_sent asked
  rw [Rotation.length_order, Nat.zero_add] at bound
  rw [fetched]
  exact measuredLeaders_fetchPoint (tolerable j bound)

/-- The floors that a cycle may have let the rows of its one answer through. -/
theorem foldlM_of_publishes (parsed : parsePointResponse text body recvS = some rows)
    (publishes : ∀ (region : Region ℚ) (met : Met) previous, Dated previous → met.elapsedS 0 < INTERVAL_S →
      met.replies 0 = .body (.dict body) recvS → PublishesAnswers text trig maxFixAgeS [region] 0 met previous) (oldest : ℚ) :
    rows.foldlM (takeRow trig oldest) Dict.empty ≠ none := by
  let region : Region ℚ := ⟨"", 0, 0, 0, 0, 0, [], 0⟩
  let met : Met := ⟨fun _ => 0, fun _ => .body (.dict body) recvS, oldest / 1000 + maxFixAgeS⟩
  have floor : (met.nowS - maxFixAgeS) * 1000 = oldest := by
    show (oldest / 1000 + maxFixAgeS - maxFixAgeS) * 1000 = oldest
    ring
  obtain ⟨store, cycle, done, -⟩ := publishes region met Dict.empty (fun _ _ _ found => by cases found)
    (show (0 : ℚ) < 5 by norm_num) rfl
  have begun : ¬ INTERVAL_S ≤ met.elapsedS 0 := show ¬ (5 : ℚ) ≤ 0 by norm_num
  have fetched : fetchPoint text (met.replies 0) = .rows rows := by
    show (parsePointResponse text body recvS).elim Fetched.failed Fetched.rows = .rows rows
    rw [parsed, Option.elim_some]
  have answers : (askRegions text met 0 (Rotation.order [region] 0) Dict.empty).answers = Dict.empty.insert region.cell rows := by
    show (askRegions text met 0 [region] Dict.empty).answers = _
    rw [askRegions, if_neg begun, fetched]
    rfl
  intro raised
  rw [runCycle, floor, answers, publish, List.foldlM_cons, refreshed, Dict.get?_insert_self] at done
  change Option.map _ (((rows.foldlM (takeRow trig oldest) Dict.empty).map _).bind _) = _ at done
  rw [raised] at done
  cases done

/-- When one row of an answer costs only itself; and in a cycle of any regions, whatever it is answered, the rest is published. -/
theorem costsOnlyItself_iff : (∀ body recvS, CostsOnlyItself text trig maxFixAgeS body recvS ↔ Tolerable text body recvS) ∧
    ∀ (regions : List (Region ℚ)) start met previous, (regions.map Region.cell).Nodup → Dated previous →
      (∀ i < regions.length, ∀ body recvS, met.replies i = .body (.dict body) recvS → Tolerable text body recvS) →
      PublishesAnswers text trig maxFixAgeS regions start met previous := by
  refine ⟨fun body recvS => ⟨?_, ?_⟩, fun regions start met previous distinct dated tolerable =>
    publishesAnswers_of_tolerable text trig maxFixAgeS distinct start dated tolerable⟩
  · rintro ⟨⟨rows, parsed, notAfter, -⟩, published⟩
    obtain ⟨stamped, iterable, readable⟩ := (parsePointResponse_ne_none_iff text body recvS).mp (parsed ▸ Option.some_ne_none rows)
    refine ⟨stamped, (elements_ne_none_iff body).mp iterable, readable, fun ac member flying => ?_, ?_⟩
    · obtain ⟨row, seen, of⟩ := exists_rowOf (readable ac member) flying
      have listed : row ∈ rows := rows_eq parsed ▸ List.mem_filterMap.mpr ⟨_, member, seen⟩
      exact (truncate_le_iff _ _).mp (of.captured ▸ notAfter row listed)
    · rw [← measuredLeaders_iff readable, ← rows_eq parsed]
      exact measuredLeaders_of_foldlM (foldlM_of_publishes text trig maxFixAgeS parsed published)
  · intro tolerable
    obtain ⟨rows, parsed⟩ := Option.ne_none_iff_exists'.mp ((parsePointResponse_ne_none_iff text body recvS).mpr
      ⟨tolerable.now, (elements_ne_none_iff body).mpr tolerable.iterable, tolerable.readable⟩)
    refine ⟨⟨rows, parsed, fun row member => ?_, rows_flatten parsed⟩, fun region met previous dated _ answered => ?_⟩
    · rw [rows_eq parsed] at member
      obtain ⟨e, listed, seen⟩ := List.mem_filterMap.mp member
      obtain ⟨ac, rfl, of⟩ := rowOf_of_sighting (fun ac eq => tolerable.readable ac (eq ▸ listed)) seen
      rw [of.captured]
      exact (truncate_le_iff _ _).mpr (tolerable.past ac listed of.flying)
    · refine publishesAnswers_of_tolerable text trig maxFixAgeS (by simp) 0 dated fun i bound body' recvS' reply => ?_
      obtain rfl : i = 0 := by simpa using bound
      rw [answered] at reply
      cases reply
      exact tolerable

/-! ### Two bad rows -/

/-- An aircraft beside one whose flight is a number. -/
def numberedFlight : Fields :=
  [("now", .int 1000000), ("ac", .list [aircraft "def456" 450, .dict [("hex", .str "abc123"), ("lat", .int 10), ("lon", .int 10),
    ("seen_pos", .int 0), ("alt_baro", .int 30000), ("flight", .int 7)]])]

/-- An aircraft that was seen a minute after the answer. -/
def negativeAge : Fields :=
  [("now", .int 1000000), ("ac", .list [.dict [("hex", .str "abc123"), ("lat", .int 10), ("lon", .int 10),
    ("seen_pos", .int (-60)), ("alt_baro", .int 30000)]])]

/-- The one takes the whole answer with it, the other is dated in the future. -/
theorem bad_rows_cost_more : ¬ CostsOnlyItself plainService.text plainService.trig 45 numberedFlight 1000 ∧
    ¬ CostsOnlyItself plainService.text plainService.trig 45 negativeAge 1000 := by
  constructor
  · rintro ⟨⟨rows, parsed, -⟩, -⟩
    have raised : (parsePointResponse plainService.text numberedFlight 1000).isNone = true := by decide +kernel
    rw [parsed] at raised
    exact nomatch raised
  · rintro ⟨⟨rows, parsed, notAfter, -⟩, -⟩
    have dated : (parsePointResponse plainService.text negativeAge 1000).map (fun rows => rows.map Row.capturedMs) =
        some [1060000] := by decide +kernel
    rw [parsed, Option.map_some, Option.some.injEq] at dated
    obtain ⟨row, rest, rfl, captured, -⟩ := List.map_eq_cons_iff.mp dated
    have := notAfter row List.mem_cons_self
    rw [captured] at this
    norm_num at this

end Retina.Adsb
