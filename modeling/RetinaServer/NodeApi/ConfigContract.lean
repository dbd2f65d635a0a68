import RetinaServer.Library.JsonSchema
import RetinaServer.Tcp.NodeConfig
import Mathlib.Data.List.Sort
import Mathlib.Data.String.Basic
import Mathlib.Order.WithBot

/-! The one validator of a configuration, and the schema that is published of it. Both are built
from the table of numeric bounds; the callsign and the beam are written out in each. -/
namespace Retina.NodeApi
open Tcp OrderedDict JsonSchema

def MIN_BASELINE_DEG : ℚ := 1 / 1000000

/-- What comes out of the validator other than a configuration. -/
inductive Raised where
  | configInvalid (field reason : String)
  | keyError
  | typeError
deriving DecidableEq, Repr

/-- `ConfigInvalid(field)`. -/
def outOfRange (field : String) : Raised := .configInvalid field "out of range"

/-- An end without a bound is infinite, and is given as inclusive. -/
structure Bounds where
  low : WithBot ℚ
  high : WithTop ℚ
  lowInclusive : Bool
  highInclusive : Bool

def latitudeBounds : Bounds := ⟨((-90 : ℚ) : WithBot ℚ), ((90 : ℚ) : WithTop ℚ), true, true⟩
def longitudeBounds : Bounds := ⟨((-180 : ℚ) : WithBot ℚ), ((180 : ℚ) : WithTop ℚ), true, true⟩
def altitudeBounds : Bounds := ⟨((-1500 : ℚ) : WithBot ℚ), ((30000 : ℚ) : WithTop ℚ), true, true⟩

def NUMERIC_BOUNDS : List (String × Bounds) := [
  ("rx_lat", latitudeBounds),
  ("rx_lon", longitudeBounds),
  ("rx_alt_ft", altitudeBounds),
  ("tx_lat", latitudeBounds),
  ("tx_lon", longitudeBounds),
  ("tx_alt_ft", altitudeBounds),
  ("fc_hz", ⟨((1000000 : ℚ) : WithBot ℚ), ((6000000000 : ℚ) : WithTop ℚ), true, true⟩),
  ("fs_hz", ⟨((100000 : ℚ) : WithBot ℚ), ((20000000 : ℚ) : WithTop ℚ), true, true⟩),
  ("max_range_km", ⟨((0 : ℚ) : WithBot ℚ), ((1000 : ℚ) : WithTop ℚ), false, true⟩),
  ("cpi_s", ⟨((0 : ℚ) : WithBot ℚ), ((10 : ℚ) : WithTop ℚ), false, true⟩),
  ("delay_tolerance_us", ⟨((0 : ℚ) : WithBot ℚ), ⊤, false, true⟩),
  ("doppler_tolerance_hz", ⟨((0 : ℚ) : WithBot ℚ), ⊤, false, true⟩)]

def NULLABLE : List String := ["rx_lat", "rx_lon", "rx_alt_ft", "tx_lat", "tx_lon", "tx_alt_ft"]

def UNTABLED_PROPERTIES : List (String × Schema ℚ) := [
  ("tx_callsign", .string (some 1) (some 32)),
  ("beam_width_deg", .number { exclusiveMinimum := some 0, maximum := some 360 }),
  ("beam_azimuth_deg", .number { minimum := some 0, exclusiveMaximum := some 360 })]

def REQUIRED : List String := NUMERIC_BOUNDS.map Prod.fst ++ UNTABLED_PROPERTIES.map Prod.fst

def NULLABLE_BEAM : List String := ["beam_width_deg", "beam_azimuth_deg"]

def NULLABLE_CALLSIGN : List String := ["tx_callsign"]

/-! ### The published schema -/

/-- An infinite end is no keyword. -/
def numericProperty (bounds : Bounds) : Schema ℚ := .number {
  minimum := if bounds.lowInclusive then bounds.low else none
  exclusiveMinimum := if bounds.lowInclusive then none else bounds.low
  maximum := if bounds.highInclusive then bounds.high else none
  exclusiveMaximum := if bounds.highInclusive then none else bounds.high }

def nullableFields : List String := NULLABLE ++ NULLABLE_BEAM ++ NULLABLE_CALLSIGN

def publish (property : String × Schema ℚ) : String × Schema ℚ :=
  (property.1, if property.1 ∈ nullableFields then property.2.orNull else property.2)

def properties : List (String × Schema ℚ) :=
  (NUMERIC_BOUNDS.map (fun entry => (entry.1, numericProperty entry.2)) ++ UNTABLED_PROPERTIES).map publish

def configJsonSchema : Schema ℚ := .object properties (REQUIRED.insertionSort (· ≤ ·)) false

/-- A boolean is no number, and neither is what is not finite. -/
def document : Reading Json ℚ where
  isNull := Json.isNull
  number
    | .int n => some n
    | .float (.fin x) => some x
    | _ => none
  length
    | .str s => some s.length
    | _ => none
  names
    | .dict fields => some (fields.map Prod.fst)
    | _ => none
  member
    | .dict fields, name => lookup name fields
    | _, _ => none

@[simp] theorem member_dict (fields : Fields) (name : String) : document.member (.dict fields) name = lookup name fields := rfl

/-! ### The validator -/

/-- The reason of `_as_finite_float` for a value that has no finite float. -/
def notFiniteReason : Json → String
  | .int _ => "out of range"
  | .float _ => "not a finite number"
  | _ => "not a number"

def numberOf (field : String) (value : Json) : Except Raised ℚ :=
  match asFiniteFloat value with
  | some (.fin x) => .ok x
  | _ => .error (.configInvalid field (notFiniteReason value))

def below (bounds : Bounds) (x : ℚ) : Bool :=
  if bounds.lowInclusive then decide ((x : WithBot ℚ) < bounds.low) else decide ((x : WithBot ℚ) ≤ bounds.low)

def above (bounds : Bounds) (x : ℚ) : Bool :=
  if bounds.highInclusive then decide (bounds.high < (x : WithTop ℚ)) else decide (bounds.high ≤ (x : WithTop ℚ))

/-- A number, or null where that is allowed, that no test refuses. -/
def checkNumber (field : String) (nullable : Bool) (refused : ℚ → Bool) (value : Json) : Except Raised Json :=
  if value.isNull && nullable then .ok .null
  else match numberOf field value with
    | .ok x => if refused x then .error (outOfRange field) else .ok (.float (.fin x))
    | .error e => .error e

def checkNumeric (field : String) (bounds : Bounds) : Json → Except Raised Json :=
  checkNumber field (decide (field ∈ NULLABLE)) fun x => below bounds x || above bounds x

def checkCallsign : Json → Except Raised Json
  | .null => .ok .null
  | .str s => if 1 ≤ s.length ∧ s.length ≤ 32 then .ok (.str s) else .error (outOfRange "tx_callsign")
  | _ => .error (outOfRange "tx_callsign")

def checkBeamWidth : Json → Except Raised Json :=
  checkNumber "beam_width_deg" true fun x => !decide (0 < x ∧ x ≤ 360)

def checkBeamAzimuth : Json → Except Raised Json :=
  checkNumber "beam_azimuth_deg" true fun x => !decide (0 ≤ x ∧ x < 360)

/-- The fields in the order they are checked, which is the order of the result. -/
def fieldChecks : List (String × (Json → Except Raised Json)) :=
  NUMERIC_BOUNDS.map (fun entry => (entry.1, checkNumeric entry.1 entry.2)) ++
    [("tx_callsign", checkCallsign), ("beam_width_deg", checkBeamWidth), ("beam_azimuth_deg", checkBeamAzimuth)]

/-- `fields[key]`. -/
def subscript (fields : Fields) (key : String) : Except Raised Json :=
  match lookup key fields with
  | some value => .ok value
  | none => .error .keyError

def checkFields (payload : Fields) : List (String × (Json → Except Raised Json)) → Except Raised Fields
  | [] => .ok []
  | (field, check) :: rest => do
      let value ← subscript payload field
      let value ← check value
      let out ← checkFields payload rest
      return (field, value) :: out

/-- The first name in order is the one refused. -/
def refuseFirst (names : List String) (reason : String) : Except Raised Unit :=
  match names.insertionSort (· ≤ ·) with
  | [] => .ok ()
  | name :: _ => .error (.configInvalid name reason)

def unknownKeys (payload : Fields) : List String := (payload.map Prod.fst).filter fun name => decide (name ∉ REQUIRED)

def missingKeys (payload : Fields) : List String := REQUIRED.filter fun name => decide (name ∉ payload.map Prod.fst)

def checkPaired (out : Fields) (latField lonField : String) : Except Raised Unit := do
  let lat ← subscript out latField
  let lon ← subscript out lonField
  if lat.isNull ≠ lon.isNull then
    .error (.configInvalid (if lat.isNull then latField else lonField) "latitude and longitude must be given together")
  else .ok ()

/-- `a - b` of two fields of the result. -/
def difference (out : Fields) (a b : String) : Except Raised ℚ := do
  match ← subscript out a, ← subscript out b with
  | .float (.fin x), .float (.fin y) => .ok (x - y)
  | _, _ => .error .typeError

def checkBaseline (out : Fields) : Except Raised Unit := do
  if (← subscript out "rx_lat").isNull || (← subscript out "tx_lat").isNull then return ()
  let north ← difference out "rx_lat" "tx_lat"
  if MIN_BASELINE_DEG ≤ |north| then return ()
  let east ← difference out "rx_lon" "tx_lon"
  if MIN_BASELINE_DEG ≤ |east| then return ()
  .error (.configInvalid "tx_lat" "receiver and illuminator are at the same point")

def validateConfig : Json → Except Raised Fields
  | .dict payload => do
      refuseFirst (unknownKeys payload) "unknown field"
      refuseFirst (missingKeys payload) "missing"
      let out ← checkFields payload fieldChecks
      checkPaired out "rx_lat" "rx_lon"
      checkPaired out "tx_lat" "tx_lon"
      checkBaseline out
      return out
  | _ => .error (.configInvalid "config" "not an object")

/-! ### One field against its property -/

/-- A number, if it is one, has a finite double. -/
def finiteDouble : Json → Bool
  | .int n => decide (|n| < floatCeiling)
  | .float x => x.isFinite
  | _ => true

/-- The value as a float, where it is a number. -/
def asFloat : Json → Json
  | .int n => .float (.fin n)
  | value => value

@[simp] theorem isNull_asFloat (value : Json) : (asFloat value).isNull = value.isNull := by
  cases value <;> rfl

@[simp] theorem number_asFloat (value : Json) : document.number (asFloat value) = document.number value := by
  cases value <;> rfl

@[simp] theorem length_asFloat (value : Json) : document.length (asFloat value) = document.length value := by
  cases value <;> rfl

@[simp] theorem asFloat_asFloat (value : Json) : asFloat (asFloat value) = asFloat value := by
  cases value <;> rfl

theorem finiteDouble_asFloat (finite : finiteDouble value = true) : finiteDouble (asFloat value) = true := by
  cases value with
  | int n => rfl
  | null | bool _ | float _ | str _ | list _ | dict _ => exact finite

/-- A check accepts what its property accepts, gives it back as a float, and otherwise names its field. -/
structure FieldSpec (field : String) (check : Json → Except Raised Json) (property : Schema ℚ) : Prop where
  accepts : ∀ value result, check value = .ok result ↔
    property.accepts document value = true ∧ finiteDouble value = true ∧ result = asFloat value
  raises : ∀ value raised, check value = .error raised → ∃ reason, raised = .configInvalid field reason

theorem number_ok_iff (field : String) (value : Json) (x : ℚ) :
    numberOf field value = .ok x ↔ document.number value = some x ∧ finiteDouble value = true := by
  cases value with
  | int n =>
    by_cases large : floatCeiling ≤ |n|
    · simp [numberOf, asFiniteFloat, document, finiteDouble, large]
    · simp [numberOf, asFiniteFloat, document, finiteDouble, large, not_le.mp large]
  | float y => cases y <;> simp [numberOf, asFiniteFloat, document, finiteDouble, PyFloat.isFinite]
  | null | bool _ | str _ | list _ | dict _ => simp [numberOf, asFiniteFloat, document]

theorem numberOf_error (raised : numberOf field value = .error e) : ∃ reason, e = .configInvalid field reason := by
  rw [numberOf] at raised
  split at raised
  · cases raised
  · exact ⟨_, (Except.error.inj raised).symm⟩

theorem asFloat_of_number (read : document.number value = some x) : asFloat value = .float (.fin x) := by
  cases value with
  | int n => rw [asFloat, ← Option.some.inj read]
  | float y => cases y <;> cases read; rfl
  | null | bool _ | str _ | list _ | dict _ => cases read

/-- What is not read as a number is no number with a finite double. -/
theorem not_number_of_error (read : numberOf field value = .error e) :
    ¬ ((document.number value).any accepted = true ∧ finiteDouble value = true) := by
  rintro ⟨some_read, finite⟩
  obtain ⟨x, found, -⟩ := (Option.any_eq_true _ _).mp some_read
  rw [(number_ok_iff field value x).mpr ⟨found, finite⟩] at read
  cases read

theorem checkNumber_spec (field : String) (nullable : Bool) (refused : ℚ → Bool) (property : Schema ℚ)
    (described : ∀ value, property.accepts document value =
      ((document.number value).any (fun x => !refused x) || (nullable && value.isNull))) :
    FieldSpec field (checkNumber field nullable refused) property := by
  constructor
  · intro value result
    rw [described, checkNumber]
    by_cases absent : (value.isNull && nullable) = true
    · obtain ⟨null, allowed⟩ := Bool.and_eq_true_iff.mp absent
      have same : value = .null := by
        cases value <;> first | rfl | cases null
      subst same
      rw [if_pos absent, allowed]
      simp [asFloat, finiteDouble, Json.isNull, eq_comm]
    · have unread : (nullable && value.isNull) = false := by
        rwa [Bool.and_comm, Bool.not_eq_true] at absent
      rw [if_neg absent, unread, Bool.or_false]
      cases read : numberOf field value with
      | error e =>
        simp only [reduceCtorEq, false_iff]
        exact fun ⟨some_read, finite, _⟩ => not_number_of_error read ⟨some_read, finite⟩
      | ok x =>
        obtain ⟨found, finite⟩ := (number_ok_iff field value x).mp read
        rw [found, Option.any_some, asFloat_of_number found]
        cases refuses : refused x with
        | false =>
          simp only [refuses, Bool.false_eq_true, if_false, Except.ok.injEq, Bool.not_false, finite, true_and]
          exact eq_comm
        | true => simp [refuses]
  · intro value raised failed
    rw [checkNumber] at failed
    split at failed
    · cases failed
    · split at failed
      · split at failed
        · exact ⟨_, (Except.error.inj failed).symm⟩
        · cases failed
      · rename_i e unread
        rw [← Except.error.inj failed]
        exact numberOf_error unread

theorem numericProperty_holds (bounds : Bounds) (value : Json) :
    (numericProperty bounds).accepts document value =
      (document.number value).any fun x => !(below bounds x || above bounds x) := by
  obtain ⟨low, high, lowInclusive, highInclusive⟩ := bounds
  rw [numericProperty, Schema.accepts]
  congr 1
  funext x
  have lower : ((if lowInclusive then low else none : Option ℚ).all (fun l => decide (l ≤ x)) &&
      (if lowInclusive then none else low : Option ℚ).all (fun l => decide (l < x))) =
      !below ⟨low, high, lowInclusive, highInclusive⟩ x := by
    induction low using WithBot.recBotCoe with
    | bot => cases lowInclusive <;> simp [below] <;> rfl
    | coe l =>
      have read (p : ℚ → Bool) : Option.all p (l : WithBot ℚ) = p l := rfl
      cases lowInclusive <;> simp [below, read, ← decide_not]
  have upper : ((if highInclusive then high else none : Option ℚ).all (fun h => decide (x ≤ h)) &&
      (if highInclusive then none else high : Option ℚ).all (fun h => decide (x < h))) =
      !above ⟨low, high, lowInclusive, highInclusive⟩ x := by
    induction high using WithTop.recTopCoe with
    | top => cases highInclusive <;> simp [above] <;> rfl
    | coe h =>
      have read (p : ℚ → Bool) : Option.all p (h : WithTop ℚ) = p h := rfl
      cases highInclusive <;> simp [above, read, ← decide_not]
  rw [NumberBounds.holds, lower, Bool.and_assoc, upper, Bool.not_or]

theorem publish_spec (field : String) (check : Json → Except Raised Json) (schema : Schema ℚ)
    (plain : field ∉ nullableFields → FieldSpec field check schema)
    (nullable : field ∈ nullableFields → FieldSpec field check schema.orNull) :
    FieldSpec field check (publish (field, schema)).2 := by
  simp only [publish]
  split
  · exact nullable ‹_›
  · exact plain ‹_›

theorem numeric_nullable : ∀ field ∈ NUMERIC_BOUNDS.map Prod.fst, field ∈ nullableFields ↔ field ∈ NULLABLE := by
  decide +kernel

theorem checkNumeric_spec (listed : entry ∈ NUMERIC_BOUNDS) :
    FieldSpec entry.1 (checkNumeric entry.1 entry.2) (publish (entry.1, numericProperty entry.2)).2 := by
  have same := numeric_nullable entry.1 (List.mem_map_of_mem listed)
  apply publish_spec
  · intro plain
    refine checkNumber_spec entry.1 _ _ _ fun value => ?_
    rw [numericProperty_holds, decide_eq_false (fun named => plain (same.mpr named)), Bool.false_and, Bool.or_false]
  · intro nullable
    refine checkNumber_spec entry.1 _ _ _ fun value => ?_
    rw [accepts_orNull, numericProperty_holds, decide_eq_true (same.mp nullable), Bool.true_and]
    rfl

/-- A nullable number with the tests of its published bounds. -/
theorem bounded_spec (field : String) (bounds : NumberBounds ℚ) (refused : ℚ → Bool) (nullable : field ∈ nullableFields)
    (same : ∀ x, bounds.holds x = !refused x) :
    FieldSpec field (checkNumber field true refused) (publish (field, .number bounds)).2 := by
  refine publish_spec _ _ _ (absurd nullable) fun _ => checkNumber_spec _ _ _ _ fun value => ?_
  rw [accepts_orNull, Schema.accepts, Bool.true_and]
  congr 2
  funext x
  exact same x

theorem checkBeamWidth_spec :
    FieldSpec "beam_width_deg" checkBeamWidth
      (publish ("beam_width_deg", .number { exclusiveMinimum := some 0, maximum := some 360 })).2 :=
  bounded_spec _ _ _ (by decide) fun x => by simp [NumberBounds.holds]

theorem checkBeamAzimuth_spec :
    FieldSpec "beam_azimuth_deg" checkBeamAzimuth
      (publish ("beam_azimuth_deg", .number { minimum := some 0, exclusiveMaximum := some 360 })).2 :=
  bounded_spec _ _ _ (by decide) fun x => by simp [NumberBounds.holds]

theorem checkCallsign_spec :
    FieldSpec "tx_callsign" checkCallsign (publish ("tx_callsign", .string (some 1) (some 32))).2 := by
  have nullable : "tx_callsign" ∈ nullableFields := by decide
  refine publish_spec _ _ _ (absurd nullable) fun _ => ⟨?_, ?_⟩
  · intro value result
    rw [accepts_orNull]
    cases value with
    | null => simp [checkCallsign, Schema.accepts, document, finiteDouble, asFloat, Json.isNull, eq_comm]
    | str name =>
      by_cases fits : 1 ≤ name.length ∧ name.length ≤ 32
      · simp [checkCallsign, Schema.accepts, lengthHolds, document, finiteDouble, asFloat, Json.isNull, fits, eq_comm]
      · simp only [checkCallsign, if_neg fits, reduceCtorEq, false_iff]
        rintro ⟨accepted, -⟩
        simp [Schema.accepts, lengthHolds, document, Json.isNull] at accepted
        exact fits accepted
    | bool _ | int _ | float _ | list _ | dict _ =>
      simp [checkCallsign, Schema.accepts, document, Json.isNull]
  · intro value raised failed
    rw [checkCallsign.eq_def] at failed
    split at failed
    · cases failed
    · split at failed
      · cases failed
      · exact ⟨_, (Except.error.inj failed).symm⟩
    · exact ⟨_, (Except.error.inj failed).symm⟩

/-- A check and the property of its field. -/
def Described (check : String × (Json → Except Raised Json)) (property : String × Schema ℚ) : Prop :=
  check.1 = property.1 ∧ FieldSpec check.1 check.2 property.2

/-- Each check stands beside the property of its field. -/
theorem fieldChecks_spec : List.Forall₂ Described fieldChecks properties := by
  rw [fieldChecks, properties, List.map_append]
  refine List.rel_append ?_ ?_
  · rw [List.map_map, List.forall₂_map_left_iff, List.forall₂_map_right_iff, List.forall₂_same]
    exact fun entry listed => ⟨rfl, checkNumeric_spec listed⟩
  · exact .cons ⟨rfl, checkCallsign_spec⟩ (.cons ⟨rfl, checkBeamWidth_spec⟩ (.cons ⟨rfl, checkBeamAzimuth_spec⟩ .nil))

/-! ### The fields together -/

/-- A field of the result is the payload's, through its check. -/
def Checked (payload : Fields) (check : String × (Json → Except Raised Json)) (entry : String × Json) : Prop :=
  entry.1 = check.1 ∧ ∃ value, lookup check.1 payload = some value ∧ check.2 value = .ok entry.2

theorem checkFields_ok_iff (payload : Fields) (checks : List (String × (Json → Except Raised Json))) (out : Fields) :
    checkFields payload checks = .ok out ↔ List.Forall₂ (Checked payload) checks out := by
  induction checks generalizing out with
  | nil =>
    rw [checkFields, List.forall₂_nil_left_iff, Except.ok.injEq, eq_comm]
  | cons check rest ih =>
    obtain ⟨field, check⟩ := check
    rw [checkFields, List.forall₂_cons_left_iff]
    cases found : lookup field payload with
    | none => simp [subscript, found, Checked, bind, Except.bind]
    | some value =>
      cases checked : check value with
      | error e => simp [subscript, found, checked, Checked, bind, Except.bind]
      | ok result =>
        cases later : checkFields payload rest with
        | error e =>
          have failed : ∀ out', ¬ List.Forall₂ (Checked payload) rest out' := by
            intro out' all
            rw [(ih out').mpr all] at later
            cases later
          simp [subscript, found, checked, failed, bind, Except.bind]
        | ok out' =>
          have only : ∀ out'', List.Forall₂ (Checked payload) rest out'' ↔ out'' = out' := by
            intro out''
            rw [← ih, later, Except.ok.injEq, eq_comm]
          simp only [subscript, found, checked, bind, Except.bind, pure, Except.pure, Except.ok.injEq, only, Checked]
          constructor
          · rintro rfl
            exact ⟨(field, result), out', ⟨rfl, value, rfl, checked⟩, rfl, rfl⟩
          · rintro ⟨⟨field', result'⟩, out'', ⟨same, value', same_value, checked'⟩, rfl, rfl⟩
            simp only at same
            rw [← Option.some.inj same_value, checked] at checked'
            rw [same, Except.ok.inj checked']

theorem checkFields_error (failed : checkFields payload checks = .error raised)
    (present : ∀ check ∈ checks, (lookup check.1 payload).isSome) :
    ∃ check ∈ checks, ∃ value, lookup check.1 payload = some value ∧ check.2 value = .error raised := by
  induction checks with
  | nil => cases failed
  | cons check rest ih =>
    obtain ⟨field, check⟩ := check
    obtain ⟨here, later⟩ := List.forall_mem_cons.mp present
    obtain ⟨value, found⟩ := Option.isSome_iff_exists.mp here
    rw [checkFields] at failed
    simp only [subscript, found, bind, Except.bind] at failed
    cases checked : check value with
    | error e =>
      rw [checked] at failed
      exact ⟨_, List.mem_cons_self, value, found, checked.trans (congrArg _ (Except.error.inj failed))⟩
    | ok result =>
      rw [checked] at failed
      cases rest_failed : checkFields payload rest with
      | error e =>
        rw [rest_failed] at failed
        rw [Except.error.inj failed] at rest_failed
        obtain ⟨other, listed, spec⟩ := ih rest_failed later
        exact ⟨other, List.mem_cons_of_mem _ listed, spec⟩
      | ok out =>
        rw [rest_failed] at failed
        cases failed

theorem refuseFirst_ok_iff (names : List String) (reason : String) : refuseFirst names reason = .ok () ↔ names = [] := by
  rw [refuseFirst]
  cases sorted : names.insertionSort (· ≤ ·) with
  | nil =>
    have none_left := (List.perm_insertionSort (· ≤ ·) names).symm
    rw [sorted] at none_left
    simpa using none_left.eq_nil
  | cons name rest =>
    simp only [reduceCtorEq, false_iff]
    rintro rfl
    cases sorted

theorem refuseFirst_error (failed : refuseFirst names reason = .error raised) :
    ∃ field reason, raised = .configInvalid field reason := by
  rw [refuseFirst] at failed
  split at failed
  · cases failed
  · exact ⟨_, _, (Except.error.inj failed).symm⟩

theorem unknownKeys_eq_nil_iff (payload : Fields) : unknownKeys payload = [] ↔ ∀ name ∈ payload.map Prod.fst, name ∈ REQUIRED := by
  simp [unknownKeys, List.filter_eq_nil_iff]

theorem missingKeys_eq_nil_iff (payload : Fields) : missingKeys payload = [] ↔ ∀ name ∈ REQUIRED, name ∈ payload.map Prod.fst := by
  simp [missingKeys, List.filter_eq_nil_iff]

theorem fieldChecks_fields : fieldChecks.map Prod.fst = REQUIRED := by decide +kernel

theorem properties_fields : properties.map Prod.fst = REQUIRED := by decide +kernel

theorem required_nodup : REQUIRED.Nodup := by decide +kernel

theorem described_check (specs : List.Forall₂ Described checks described) :
    ∀ check ∈ checks, ∃ property, FieldSpec check.1 check.2 property := by
  induction specs with
  | nil => simp
  | cons spec _ ih => exact List.forall_mem_cons.mpr ⟨⟨_, spec.2⟩, ih⟩

/-- The required fields as floats, in the order of the checks. -/
def asFloats (payload : Fields) : Fields := REQUIRED.map fun field => (field, asFloat (get payload field .null))

/-- Every property of the schema holds of its field, and every number has a finite double. -/
def FieldsAccepted (described : List (String × Schema ℚ)) (payload : Fields) : Prop :=
  ∀ property ∈ described, ∀ value, lookup property.1 payload = some value →
    property.2.accepts document value = true ∧ finiteDouble value = true

theorem checked_iff (specs : List.Forall₂ Described checks described)
    (present : ∀ check ∈ checks, (lookup check.1 payload).isSome) (out : Fields) :
    List.Forall₂ (Checked payload) checks out ↔
      FieldsAccepted described payload ∧
        out = (checks.map Prod.fst).map fun field => (field, asFloat (get payload field .null)) := by
  induction specs generalizing out with
  | nil => simp [FieldsAccepted]
  | @cons check property checks described spec _ ih =>
    obtain ⟨same, spec⟩ := spec
    obtain ⟨here, later⟩ := List.forall_mem_cons.mp present
    obtain ⟨value, found⟩ := Option.isSome_iff_exists.mp here
    have read : get payload check.1 .null = value := by rw [Tcp.get, found, Option.getD_some]
    have first (entry : String × Json) : Checked payload check entry ↔
        (property.2.accepts document value = true ∧ finiteDouble value = true) ∧ entry = (check.1, asFloat value) := by
      rw [Checked, found, Prod.ext_iff]
      simp only [Option.some.injEq, exists_eq_left', spec.accepts]
      constructor
      · rintro ⟨named, accepted, finite, result⟩
        exact ⟨⟨accepted, finite⟩, named, result⟩
      · rintro ⟨⟨accepted, finite⟩, named, result⟩
        exact ⟨named, accepted, finite, result⟩
    have accepted_cons : FieldsAccepted (property :: described) payload ↔
        (property.2.accepts document value = true ∧ finiteDouble value = true) ∧ FieldsAccepted described payload := by
      rw [FieldsAccepted, List.forall_mem_cons, ← same, found]
      simp only [Option.some.injEq, forall_eq']
      rfl
    rw [List.forall₂_cons_left_iff, accepted_cons, List.map_cons, List.map_cons, read]
    simp only [first, ih later]
    constructor
    · rintro ⟨entry, rest, ⟨accepted, rfl⟩, ⟨all, rfl⟩, rfl⟩
      exact ⟨⟨accepted, all⟩, rfl⟩
    · rintro ⟨⟨accepted, all⟩, rfl⟩
      exact ⟨_, _, ⟨accepted, rfl⟩, ⟨all, rfl⟩, rfl⟩

theorem checkFields_iff (present : ∀ name ∈ REQUIRED, name ∈ payload.map Prod.fst) (out : Fields) :
    checkFields payload fieldChecks = .ok out ↔ FieldsAccepted properties payload ∧ out = asFloats payload := by
  have held : ∀ check ∈ fieldChecks, (lookup check.1 payload).isSome := by
    intro check listed
    rw [Option.isSome_iff_ne_none, Ne, lookup_eq_none_iff, not_not]
    exact present check.1 (fieldChecks_fields ▸ List.mem_map_of_mem listed)
  rw [checkFields_ok_iff, checked_iff fieldChecks_spec held, fieldChecks_fields, asFloats]

theorem checkFields_raises (present : ∀ name ∈ REQUIRED, name ∈ payload.map Prod.fst)
    (failed : checkFields payload fieldChecks = .error raised) : ∃ field reason, raised = .configInvalid field reason := by
  have held : ∀ check ∈ fieldChecks, (lookup check.1 payload).isSome := by
    intro check listed
    rw [Option.isSome_iff_ne_none, Ne, lookup_eq_none_iff, not_not]
    exact present check.1 (fieldChecks_fields ▸ List.mem_map_of_mem listed)
  obtain ⟨check, listed, value, -, refused⟩ := checkFields_error failed held
  obtain ⟨property, spec⟩ := described_check fieldChecks_spec check listed
  obtain ⟨reason, rfl⟩ := spec.raises value raised refused
  exact ⟨_, _, rfl⟩

theorem asFloats_fields (payload : Fields) : (asFloats payload).map Prod.fst = REQUIRED := by
  simp [asFloats, Function.comp_def]

theorem lookup_asFloats (payload : Fields) (named : field ∈ REQUIRED) :
    lookup field (asFloats payload) = some (asFloat (get payload field .null)) := by
  refine (lookup_eq_some_iff _ _ _ ?_).mpr (List.mem_map.mpr ⟨field, named, rfl⟩)
  rw [asFloats_fields]
  exact required_nodup

@[simp] theorem subscript_asFloats (payload : Fields) (named : field ∈ REQUIRED) :
    subscript (asFloats payload) field = .ok (asFloat (get payload field .null)) := by
  rw [subscript, lookup_asFloats payload named]

/-! ### The receiver and the illuminator -/

def COORDINATE_PAIRS : List (String × String) := [("rx_lat", "rx_lon"), ("tx_lat", "tx_lon")]

/-- A member that is absent reads as null. -/
def fieldOf (payload : Json) (field : String) : Json := (document.member payload field).getD .null

def numberAt (payload : Json) (field : String) : Option ℚ := document.number (fieldOf payload field)

def Paired (payload : Json) (pair : String × String) : Prop :=
  (fieldOf payload pair.1).isNull = (fieldOf payload pair.2).isNull

/-- The two ends are not at one point. -/
def Apart (payload : Json) : Prop :=
  ∀ rxLat rxLon txLat txLon, numberAt payload "rx_lat" = some rxLat → numberAt payload "rx_lon" = some rxLon →
    numberAt payload "tx_lat" = some txLat → numberAt payload "tx_lon" = some txLon →
    ¬ (|rxLat - txLat| < MIN_BASELINE_DEG ∧ |rxLon - txLon| < MIN_BASELINE_DEG)

/-- What is published of a configuration, and the checks that a schema cannot state. -/
structure Contract (payload : Json) : Prop where
  schema : configJsonSchema.accepts document payload = true
  finite : ∀ field value, document.member payload field = some value → finiteDouble value = true
  paired : ∀ pair ∈ COORDINATE_PAIRS, Paired payload pair
  apart : Apart payload

theorem checkPaired_asFloats (payload : Fields) (latField lonField : String) (lat : latField ∈ REQUIRED)
    (lon : lonField ∈ REQUIRED) :
    checkPaired (asFloats payload) latField lonField = .ok () ∧ Paired (.dict payload) (latField, lonField) ∨
      (∃ field reason, checkPaired (asFloats payload) latField lonField = .error (.configInvalid field reason)) ∧
        ¬ Paired (.dict payload) (latField, lonField) := by
  have same : Paired (.dict payload) (latField, lonField) ↔
      (get payload latField .null).isNull = (get payload lonField .null).isNull := Iff.rfl
  simp only [checkPaired, subscript_asFloats _ lat, subscript_asFloats _ lon, bind, Except.bind, isNull_asFloat, same]
  by_cases paired : (get payload latField .null).isNull = (get payload lonField .null).isNull
  · rw [if_neg (not_not.mpr paired)]
    exact .inl ⟨rfl, paired⟩
  · rw [if_pos paired]
    exact .inr ⟨⟨_, _, rfl⟩, paired⟩

/-- Null, or a number. -/
def Coordinate (payload : Json) (field : String) : Prop :=
  fieldOf payload field = .null ∨ ∃ x, numberAt payload field = some x

theorem coordinate_isNull (coordinate : Coordinate payload field) :
    (fieldOf payload field).isNull = true ∧ numberAt payload field = none ∨
      (fieldOf payload field).isNull = false ∧ ∃ x, numberAt payload field = some x := by
  rcases coordinate with null | ⟨x, read⟩
  · rw [numberAt, null]
    exact .inl ⟨rfl, rfl⟩
  · refine .inr ⟨?_, x, read⟩
    rw [numberAt] at read
    cases value : fieldOf payload field with
    | null => rw [value] at read; cases read
    | bool _ | int _ | float _ | str _ | list _ | dict _ => rfl

theorem difference_asFloats (payload : Fields) (named : a ∈ REQUIRED) (named' : b ∈ REQUIRED)
    (read : numberAt (.dict payload) a = some x) (read' : numberAt (.dict payload) b = some y) :
    difference (asFloats payload) a b = .ok (x - y) := by
  have first : asFloat (get payload a .null) = .float (.fin x) := asFloat_of_number read
  have second : asFloat (get payload b .null) = .float (.fin y) := asFloat_of_number read'
  simp only [difference, subscript_asFloats _ named, subscript_asFloats _ named', first, second, bind, Except.bind]

/-- With both ends paired the baseline check either passes or names the illuminator. -/
theorem checkBaseline_asFloats (payload : Fields)
    (coordinates : ∀ pair ∈ COORDINATE_PAIRS, Coordinate (.dict payload) pair.1 ∧ Coordinate (.dict payload) pair.2)
    (paired : ∀ pair ∈ COORDINATE_PAIRS, Paired (.dict payload) pair) :
    checkBaseline (asFloats payload) = .ok () ∧ Apart (.dict payload) ∨
      (∃ field reason, checkBaseline (asFloats payload) = .error (.configInvalid field reason)) ∧
        ¬ Apart (.dict payload) := by
  have required : ∀ field ∈ ["rx_lat", "rx_lon", "tx_lat", "tx_lon"], field ∈ REQUIRED := by decide +kernel
  obtain ⟨rx, tx, -⟩ := List.forall_mem_cons.mp coordinates |>.imp_right List.forall_mem_cons.mp
  obtain ⟨rxPaired, txPaired, -⟩ := List.forall_mem_cons.mp paired |>.imp_right List.forall_mem_cons.mp
  have longitude {pair : String × String} (paired : Paired (.dict payload) pair) (lon : Coordinate (.dict payload) pair.2)
      (present : (fieldOf (.dict payload) pair.1).isNull = false) : ∃ x, numberAt (.dict payload) pair.2 = some x := by
    rcases coordinate_isNull lon with ⟨null, -⟩ | ⟨-, read⟩
    · rw [Paired, present, null] at paired
      cases paired
    · exact read
  have null (field : String) : (get payload field .null).isNull = (fieldOf (.dict payload) field).isNull := rfl
  simp only [checkBaseline, subscript_asFloats _ (required "rx_lat" (by simp)),
    subscript_asFloats _ (required "tx_lat" (by simp)), bind, Except.bind, isNull_asFloat, null, pure, Except.pure]
  rcases coordinate_isNull rx.1 with ⟨unplaced, unread⟩ | ⟨placed, rxLat, readRxLat⟩
  · rw [unplaced, Bool.true_or, if_pos rfl]
    refine .inl ⟨rfl, ?_⟩
    intro _ _ _ _ read
    rw [unread] at read
    cases read
  rcases coordinate_isNull tx.1 with ⟨unplaced, unread⟩ | ⟨placed', txLat, readTxLat⟩
  · rw [unplaced, Bool.or_true, if_pos rfl]
    refine .inl ⟨rfl, ?_⟩
    intro _ _ _ _ _ _ read
    rw [unread] at read
    cases read
  obtain ⟨rxLon, readRxLon⟩ := longitude rxPaired rx.2 placed
  obtain ⟨txLon, readTxLon⟩ := longitude txPaired tx.2 placed'
  have apart : Apart (.dict payload) ↔ ¬ (|rxLat - txLat| < MIN_BASELINE_DEG ∧ |rxLon - txLon| < MIN_BASELINE_DEG) := by
    constructor
    · exact fun apart => apart rxLat rxLon txLat txLon readRxLat readRxLon readTxLat readTxLon
    · intro apart a b c d atRxLat atRxLon atTxLat atTxLon
      rwa [Option.some.inj (atRxLat.symm.trans readRxLat), Option.some.inj (atRxLon.symm.trans readRxLon),
        Option.some.inj (atTxLat.symm.trans readTxLat), Option.some.inj (atTxLon.symm.trans readTxLon)]
  rw [placed, placed', Bool.false_or, if_neg Bool.false_ne_true, apart,
    difference_asFloats payload (required "rx_lat" (by simp)) (required "tx_lat" (by simp)) readRxLat readTxLat,
    difference_asFloats payload (required "rx_lon" (by simp)) (required "tx_lon" (by simp)) readRxLon readTxLon]
  by_cases north : MIN_BASELINE_DEG ≤ |rxLat - txLat|
  · simp [north, not_lt.mpr north]
  · by_cases east : MIN_BASELINE_DEG ≤ |rxLon - txLon|
    · simp [north, east, not_lt.mpr east]
    · simp [north, east, not_le.mp north, not_le.mp east]

/-! ### The validator and its contract -/

theorem configJsonSchema_accepts_iff (payload : Fields) :
    configJsonSchema.accepts document (.dict payload) = true ↔
      (∀ property ∈ properties, ∀ value, lookup property.1 payload = some value →
        property.2.accepts document value = true) ∧
      (∀ name ∈ REQUIRED, name ∈ payload.map Prod.fst) ∧ ∀ name ∈ payload.map Prod.fst, name ∈ REQUIRED := by
  rw [configJsonSchema, accepts_closed_iff, properties_fields]
  simp only [List.mem_insertionSort]
  constructor
  · rintro ⟨accepted, names, read, present, known⟩
    obtain rfl : payload.map Prod.fst = names := Option.some.inj read
    exact ⟨accepted, present, known⟩
  · rintro ⟨accepted, present, known⟩
    exact ⟨accepted, _, rfl, present, known⟩

/-- Among the required fields the contract is what the checks test, one after the other. -/
theorem contract_iff (payload : Fields) :
    Contract (.dict payload) ↔
      unknownKeys payload = [] ∧ missingKeys payload = [] ∧ FieldsAccepted properties payload ∧
        (∀ pair ∈ COORDINATE_PAIRS, Paired (.dict payload) pair) ∧ Apart (.dict payload) := by
  rw [unknownKeys_eq_nil_iff, missingKeys_eq_nil_iff]
  constructor
  · rintro ⟨schema, finite, paired, apart⟩
    obtain ⟨accepted, present, known⟩ := (configJsonSchema_accepts_iff payload).mp schema
    exact ⟨known, present, fun property listed value found => ⟨accepted property listed value found, finite _ _ found⟩,
      paired, apart⟩
  · rintro ⟨known, present, accepted, paired, apart⟩
    refine ⟨(configJsonSchema_accepts_iff payload).mpr ⟨?_, present, known⟩, ?_, paired, apart⟩
    · exact fun property listed value found => (accepted property listed value found).1
    · intro field value found
      have held : field ∈ payload.map Prod.fst := by
        by_contra absent
        rw [member_dict, (lookup_eq_none_iff _ _).mpr absent] at found
        cases found
      obtain ⟨property, listed, rfl⟩ := List.mem_map.mp (properties_fields ▸ known field held)
      exact (accepted property listed value found).2

theorem coordinate_of_accepted (accepted : FieldsAccepted properties payload)
    (tabled : (field, bounds) ∈ NUMERIC_BOUNDS) : Coordinate (.dict payload) field := by
  cases found : lookup field payload with
  | none =>
    have absent : fieldOf (.dict payload) field = .null := by
      rw [fieldOf, member_dict, found, Option.getD_none]
    exact .inl absent
  | some value =>
    have held : fieldOf (.dict payload) field = value := by
      rw [fieldOf, member_dict, found, Option.getD_some]
    have listed : publish (field, numericProperty bounds) ∈ properties :=
      List.mem_map_of_mem (List.mem_append_left _ (List.mem_map_of_mem (f := fun entry => (entry.1, numericProperty entry.2)) tabled))
    obtain ⟨held_by, -⟩ := accepted _ listed value found
    have number_or_null : (numericProperty bounds).accepts document value = true ∨ value.isNull = true := by
      simp only [publish] at held_by
      split at held_by
      · rwa [accepts_orNull, Bool.or_eq_true] at held_by
      · exact .inl held_by
    rw [Coordinate, numberAt, held]
    rcases number_or_null with number | null
    · rw [numericProperty_holds] at number
      cases read : document.number value with
      | none => rw [read] at number; cases number
      | some x => exact .inr ⟨x, rfl⟩
    · refine .inl ?_
      cases value <;> first | rfl | cases null

theorem pairs_iff (document : Json) : (∀ pair ∈ COORDINATE_PAIRS, Paired document pair) ↔
    Paired document ("rx_lat", "rx_lon") ∧ Paired document ("tx_lat", "tx_lon") := by
  simp [COORDINATE_PAIRS]

theorem coordinates_of_accepted (accepted : FieldsAccepted properties payload) :
    ∀ pair ∈ COORDINATE_PAIRS, Coordinate (.dict payload) pair.1 ∧ Coordinate (.dict payload) pair.2 := by
  have coordinate (field : String) (bounds : Bounds) (tabled : (field, bounds) ∈ NUMERIC_BOUNDS) :=
    coordinate_of_accepted accepted tabled
  rw [COORDINATE_PAIRS, List.forall_mem_cons, List.forall_mem_singleton]
  refine ⟨⟨coordinate _ latitudeBounds ?_, coordinate _ longitudeBounds ?_⟩,
    coordinate _ latitudeBounds ?_, coordinate _ longitudeBounds ?_⟩
  all_goals simp [NUMERIC_BOUNDS]

theorem validateConfig_spec (payload : Fields) :
    validateConfig (.dict payload) = .ok (asFloats payload) ∧ Contract (.dict payload) ∨
      (∃ field reason, validateConfig (.dict payload) = .error (.configInvalid field reason)) ∧
        ¬ Contract (.dict payload) := by
  rw [contract_iff, validateConfig]
  simp only [bind, Except.bind, pure, Except.pure]
  cases unknown : refuseFirst (unknownKeys payload) "unknown field" with
  | error raised =>
    obtain ⟨field, reason, rfl⟩ := refuseFirst_error unknown
    refine .inr ⟨⟨field, reason, rfl⟩, fun ⟨known, _⟩ => ?_⟩
    rw [(refuseFirst_ok_iff _ _).mpr known] at unknown
    cases unknown
  | ok _ =>
  have known := (refuseFirst_ok_iff _ _).mp unknown
  cases missing : refuseFirst (missingKeys payload) "missing" with
  | error raised =>
    obtain ⟨field, reason, rfl⟩ := refuseFirst_error missing
    refine .inr ⟨⟨field, reason, rfl⟩, fun ⟨_, present, _⟩ => ?_⟩
    rw [(refuseFirst_ok_iff _ _).mpr present] at missing
    cases missing
  | ok _ =>
  have none_missing := (refuseFirst_ok_iff _ _).mp missing
  have present := (missingKeys_eq_nil_iff payload).mp none_missing
  cases checked : checkFields payload fieldChecks with
  | error raised =>
    obtain ⟨field, reason, rfl⟩ := checkFields_raises present checked
    refine .inr ⟨⟨field, reason, rfl⟩, fun ⟨_, _, accepted, _⟩ => ?_⟩
    rw [(checkFields_iff present (asFloats payload)).mpr ⟨accepted, rfl⟩] at checked
    cases checked
  | ok out =>
  obtain ⟨accepted, rfl⟩ := (checkFields_iff present out).mp checked
  rcases checkPaired_asFloats payload "rx_lat" "rx_lon" (by decide +kernel) (by decide +kernel)
    with ⟨passes, rx⟩ | ⟨⟨field, reason, fails⟩, unpaired⟩
  swap
  · exact .inr ⟨⟨field, reason, by simp only [fails]⟩, fun ⟨_, _, _, paired, _⟩ => unpaired ((pairs_iff _).mp paired).1⟩
  rcases checkPaired_asFloats payload "tx_lat" "tx_lon" (by decide +kernel) (by decide +kernel)
    with ⟨passes', tx⟩ | ⟨⟨field, reason, fails⟩, unpaired⟩
  swap
  · exact .inr ⟨⟨field, reason, by simp only [passes, fails]⟩, fun ⟨_, _, _, paired, _⟩ => unpaired ((pairs_iff _).mp paired).2⟩
  rcases checkBaseline_asFloats payload (coordinates_of_accepted accepted) ((pairs_iff _).mpr ⟨rx, tx⟩) with ⟨passes'', apart⟩ | ⟨⟨field, reason, fails⟩, together⟩
  · exact .inl ⟨by simp only [passes, passes', passes''], known, none_missing, accepted, (pairs_iff _).mpr ⟨rx, tx⟩, apart⟩
  · exact .inr ⟨⟨field, reason, by simp only [passes, passes', fails]⟩, fun ⟨_, _, _, _, apart⟩ => together apart⟩

theorem get_asFloats (payload : Fields) (named : field ∈ REQUIRED) :
    get (asFloats payload) field .null = asFloat (get payload field .null) := by
  rw [Tcp.get, lookup_asFloats payload named, Option.getD_some]

theorem asFloats_asFloats (payload : Fields) : asFloats (asFloats payload) = asFloats payload := by
  refine List.map_congr_left fun field named => ?_
  rw [get_asFloats payload named, asFloat_asFloat]

theorem alike_asFloat (value : Json) : Alike document (asFloat value) value := by
  refine ⟨isNull_asFloat value, number_asFloat value, length_asFloat value, ?_, ?_⟩
  · cases value <;> rfl
  · cases value <;> rfl

/-- A configuration in the contract is in it as floats too. -/
theorem contract_asFloats (contract : Contract (.dict payload)) : Contract (.dict (asFloats payload)) := by
  obtain ⟨-, missing, accepted, paired, apart⟩ := (contract_iff payload).mp contract
  have present := (missingKeys_eq_nil_iff payload).mp missing
  have read (field : String) (named : field ∈ REQUIRED) :
      fieldOf (.dict (asFloats payload)) field = asFloat (fieldOf (.dict payload) field) := get_asFloats payload named
  have coordinates : ∀ pair ∈ COORDINATE_PAIRS, pair.1 ∈ REQUIRED ∧ pair.2 ∈ REQUIRED := by decide +kernel
  have number (field : String) (named : field ∈ REQUIRED) :
      numberAt (.dict (asFloats payload)) field = numberAt (.dict payload) field := by
    rw [numberAt, read field named, number_asFloat, numberAt]
  refine (contract_iff _).mpr ⟨?_, ?_, ?_, ?_, ?_⟩
  · rw [unknownKeys_eq_nil_iff, asFloats_fields]
    exact fun _ listed => listed
  · rw [missingKeys_eq_nil_iff, asFloats_fields]
    exact fun _ listed => listed
  · intro property listed result found
    have named : property.1 ∈ REQUIRED := properties_fields ▸ List.mem_map_of_mem listed
    obtain ⟨value, held⟩ := Option.isSome_iff_exists.mp (Option.isSome_iff_ne_none.mpr
      (fun absent => (lookup_eq_none_iff _ _).mp absent (present _ named)))
    rw [lookup_asFloats payload named, Tcp.get, held, Option.getD_some] at found
    obtain ⟨holds, finite⟩ := accepted property listed value held
    rw [← Option.some.inj found, accepts_congr document (alike_asFloat value)]
    exact ⟨holds, finiteDouble_asFloat finite⟩
  · intro pair listed
    obtain ⟨lat, lon⟩ := coordinates pair listed
    rw [Paired, read _ lat, read _ lon, isNull_asFloat, isNull_asFloat]
    exact paired pair listed
  · have required : ∀ field ∈ ["rx_lat", "rx_lon", "tx_lat", "tx_lon"], field ∈ REQUIRED := by decide +kernel
    rw [Apart, number "rx_lat" (required _ (by simp)), number "rx_lon" (required _ (by simp)),
      number "tx_lat" (required _ (by simp)), number "tx_lon" (required _ (by simp))]
    exact apart

/-- The validator accepts exactly its contract. What it gives back are the required fields, in their
order, each the payload's as a float; that is in the contract too, and is given back as it is. Otherwise
it raises `ConfigInvalid`. -/
theorem validateConfig_contract (payload : Json) :
    ((∃ out, validateConfig payload = .ok out) ↔ Contract payload) ∧
    (∀ out, validateConfig payload = .ok out →
      out.map Prod.fst = REQUIRED ∧
      (∀ field ∈ REQUIRED, ∃ value, document.member payload field = some value ∧ lookup field out = some (asFloat value)) ∧
      configJsonSchema.accepts document (.dict out) = true ∧ validateConfig (.dict out) = .ok out) ∧
    ∀ raised, validateConfig payload = .error raised → ∃ field reason, raised = .configInvalid field reason := by
  cases payload with
  | dict payload =>
    rcases validateConfig_spec payload with ⟨accepts, contract⟩ | ⟨⟨field, reason, refuses⟩, broken⟩
    · refine ⟨⟨fun _ => contract, fun _ => ⟨_, accepts⟩⟩, ?_, ?_⟩
      · intro out accepted
        obtain rfl : asFloats payload = out := Except.ok.inj (accepts.symm.trans accepted)
        have again := contract_asFloats contract
        refine ⟨asFloats_fields payload, ?_, again.schema, ?_⟩
        · intro field named
          have present := ((configJsonSchema_accepts_iff payload).mp contract.schema).2.1 field named
          obtain ⟨value, held⟩ := Option.isSome_iff_exists.mp (Option.isSome_iff_ne_none.mpr
            (fun absent => (lookup_eq_none_iff _ _).mp absent present))
          refine ⟨value, held, ?_⟩
          rw [lookup_asFloats payload named, Tcp.get, held, Option.getD_some]
        · rcases validateConfig_spec (asFloats payload) with ⟨accepts', -⟩ | ⟨-, broken⟩
          · rw [accepts', asFloats_asFloats]
          · exact absurd again broken
      · intro raised refused
        rw [accepts] at refused
        cases refused
    · refine ⟨⟨?_, fun contract => absurd contract broken⟩, ?_, ?_⟩
      · rintro ⟨out, accepted⟩
        rw [refuses] at accepted
        cases accepted
      · intro out accepted
        rw [refuses] at accepted
        cases accepted
      · intro raised refused
        exact ⟨field, reason, (Except.error.inj (refuses.symm.trans refused)).symm⟩
  | null | bool _ | int _ | float _ | str _ | list _ =>
    refine ⟨⟨?_, ?_⟩, ?_, ?_⟩
    · rintro ⟨out, accepted⟩
      cases accepted
    · intro contract
      have object := contract.schema
      simp [configJsonSchema, Schema.accepts, document] at object
    · intro out accepted
      cases accepted
    · intro raised refused
      exact ⟨_, _, (Except.error.inj refused).symm⟩

end Retina.NodeApi
