import RetinaServer.Frames.Frame
import RetinaServer.Library.Dict
import Mathlib.Data.Rat.Defs
import Mathlib.Algebra.Order.Ring.Rat
import Mathlib.Data.Rat.Floor
import Mathlib.Data.List.Infix

/-! A message as the decoder hands it on, and what the handler asks of a value
of any type: whether it is truthy, a key, a number, or equal to another. -/
namespace Retina.Tcp
open OrderedDict

inductive PyFloat where
  | fin (x : ℚ)
  | posInf
  | negInf
  | nan
deriving DecidableEq, Repr

def PyFloat.le : PyFloat → PyFloat → Bool
  | .nan, _ | _, .nan => false
  | .negInf, _ | _, .posInf => true
  | .fin x, .fin y => decide (x ≤ y)
  | _, _ => false

def PyFloat.eq : PyFloat → PyFloat → Bool
  | .fin x, .fin y => decide (x = y)
  | .posInf, .posInf | .negInf, .negInf => true
  | _, _ => false

def PyFloat.lt (x y : PyFloat) : Bool := x.le y && !x.eq y

def PyFloat.isFinite : PyFloat → Bool
  | .fin _ => true
  | _ => false

inductive Json where
  | null
  | bool (b : Bool)
  | int (n : ℤ)
  | float (x : PyFloat)
  | str (s : String)
  | list (items : List Json)
  | dict (fields : List (String × Json))

abbrev Fields := List (String × Json)

/-- `fields.get(key, default)`. -/
def get (fields : Fields) (key : String) (default : Json) : Json := (lookup key fields).getD default

def has (fields : Fields) (key : String) : Bool := (lookup key fields).isSome

def Json.isNull : Json → Bool
  | .null => true
  | _ => false

/-- `bool(value)`. -/
def Json.truthy : Json → Bool
  | .null => false
  | .bool b => b
  | .int n => decide (n ≠ 0)
  | .float x => !x.eq (.fin 0)
  | .str s => decide (s ≠ "")
  | .list items => !items.isEmpty
  | .dict fields => !fields.isEmpty

/-- `isinstance(value, (int, float))`: a boolean is a number. -/
def Json.number? : Json → Option PyFloat
  | .bool b => some (.fin (if b then 1 else 0))
  | .int n => some (.fin n)
  | .float x => some x
  | _ => none

mutual
/-- `a == b`. Numbers compare by value, dictionaries without their order. -/
def Json.eqv : Json → Json → Bool
  | .null, .null => true
  | .str s, .str t => decide (s = t)
  | .list xs, .list ys => eqvItems xs ys
  | .dict xs, .dict ys => decide (xs.length = ys.length) && eqvFields xs ys
  | .bool b, y => (y.number?).any fun x => PyFloat.eq (.fin (if b then 1 else 0)) x
  | .int n, y => (y.number?).any fun x => PyFloat.eq (.fin n) x
  | .float x, y => (y.number?).any fun x' => PyFloat.eq x x'
  | _, _ => false

def eqvItems : List Json → List Json → Bool
  | [], [] => true
  | x :: xs, y :: ys => x.eqv y && eqvItems xs ys
  | _, _ => false

def eqvFields : Fields → Fields → Bool
  | [], _ => true
  | (key, x) :: xs, ys => (match lookup key ys with
      | some y => x.eqv y
      | none => false) && eqvFields xs ys
end

/-- A dictionary key: equal numbers are one key, whatever their type. -/
inductive NodeKey where
  | text (s : String)
  | number (x : PyFloat)
  | none
deriving DecidableEq, Repr

/-- `none` is an unhashable value. -/
def Json.hashKey : Json → Option NodeKey
  | .str s => some (.text s)
  | .null => some .none
  | .list _ | .dict _ => none
  | .bool b => some (.number (.fin (if b then 1 else 0)))
  | .int n => some (.number (.fin n))
  | .float x => some (.number x)

/-- The string is part of the text. -/
def isSubstring (part text : String) : Bool := decide (part.toList <:+: text.toList)

/-- `key in value`; `none` is a value that holds nothing. -/
def Json.contains (key : String) : Json → Option Bool
  | .dict fields => some (has fields key)
  | .list items => some (items.any fun item => Json.eqv (.str key) item)
  | .str s => some (isSubstring key s)
  | _ => none

/-- `value[:n]` does not raise. -/
def Json.sliceable : Json → Bool
  | .str _ | .list _ => true
  | _ => false

/-- Integers from here on have no float. -/
def floatCeiling : ℤ := 2 ^ 1024 - 2 ^ 970

/-- What the runtime does with text and numbers: `float(text)`, `repr(value)` and `str(value)`. -/
structure PyText where
  parse : String → Option PyFloat
  repr : Json → String
  str : Json → String

inductive Conversion where
  | converted (x : PyFloat)
  /-- `TypeError` or `ValueError`. -/
  | invalid
  /-- `OverflowError`. -/
  | overflow

/-- `float(value)`. -/
def PyText.float (text : PyText) : Json → Conversion
  | .str s => (text.parse s).elim .invalid .converted
  | .int n => if floatCeiling ≤ |n| then .overflow else .converted (.fin n)
  | .bool b => .converted (.fin (if b then 1 else 0))
  | .float x => .converted x
  | _ => .invalid

/-- What `int` comes to. -/
inductive Integer where
  | converted (n : ℤ)
  /-- `TypeError` or `ValueError`. -/
  | invalid
  /-- `OverflowError`. -/
  | overflow
deriving DecidableEq, Repr

/-- `int(value)`, where `parse` is `int(text)`. -/
def Json.toInt (parse : String → Option ℤ) : Json → Integer
  | .str s => (parse s).elim .invalid .converted
  | .int n => .converted n
  | .bool b => .converted (if b then 1 else 0)
  | .float (.fin x) => .converted (Frames.truncate x)
  | .float .nan => .invalid
  | .float _ => .overflow
  | _ => .invalid

/-- `math.isfinite(value)`; `none` is a value it raises for. -/
def Json.isFinite : Json → Option Bool
  | .int n => if floatCeiling ≤ |n| then none else some true
  | .bool _ => some true
  | .float x => some x.isFinite
  | _ => none

/-- A finite number; `none` is an integer without a float. -/
def Json.isNum (value : Json) : Option Bool := if (value.number?).isSome then value.isFinite else some false

end Retina.Tcp
