import Srv6Fabric.FloatStr

/-!
# Parsed YAML documents

The values the loader makes of a document's core types, and what the validator does with
them: look a key up, ask for the truth value, iterate, convert to a float, print.  Printing
fails on an integer past the digit limit of `str`.
-/

namespace Srv6Fabric

inductive Scalar where
  | null
  | bool (value : Bool)
  | int (value : Int)
  | float (value : PyFloat)
  | str (text : String)
  deriving DecidableEq

inductive Yaml where
  | scalar (value : Scalar)
  | list (items : List Yaml)
  | dict (entries : List (Scalar × Yaml))

/-- A value that passes `isinstance(v, int)`. -/
inductive PyInt where
  | int (value : Int)
  | bool (value : Bool)
  deriving DecidableEq

namespace PyInt

/-- The number, `True` being 1. -/
def toInt : PyInt → Int
  | .int value => value
  | .bool value => if value then 1 else 0

end PyInt

/-! ## Texts -/

/-- `str` of an `int`. -/
def intStr (n : Int) : Except PyError String :=
  if maxStrDigits < (Nat.toDigits 10 n.natAbs).length then
    .error (.valueError (s!"Exceeds the limit ({maxStrDigits} digits) for integer string "
      ++ "conversion; use sys.set_int_max_str_digits() to increase the limit"))
  else .ok (toString n)

namespace Scalar

/-- The name of the value's class. -/
def className : Scalar → String
  | null => "NoneType"
  | bool _ => "bool"
  | int _ => "int"
  | float _ => "float"
  | str _ => "str"

/-- `repr(v)`. -/
def repr : Scalar → Except PyError String
  | null => .ok "None"
  | bool value => .ok (if value then "True" else "False")
  | int value => intStr value
  | float value => .ok value.str
  | str text => .ok (pyRepr text)

/-- `str(v)`. -/
def toStr : Scalar → Except PyError String
  | str text => .ok text
  | other => other.repr

/-- Where a number stands in the order: an infinity on its side of all others. -/
def rank : Scalar → Option (Int × ℚ)
  | bool value => some (0, if value then 1 else 0)
  | int value => some (0, value)
  | float (.finite value _) => some (0, value)
  | float .negZero => some (0, 0)
  | float (.inf negative) => some (if negative then -1 else 1, 0)
  | float .nan => some (0, 0)
  | _ => none

/-- `x <= y` of two numbers or two texts. -/
def le (x y : Scalar) : Bool :=
  match x, y, x.rank, y.rank with
  | str text, str other, _, _ => text ≤ other
  | _, _, some (side, value), some (otherSide, other) =>
      side < otherSide || (side = otherSide && value ≤ other)
  | _, _, _, _ => false

/-- Two values `<` compares. -/
def comparable (x y : Scalar) : Bool :=
  (x.rank.isSome && y.rank.isSome) || (x.className = "str" && y.className = "str")

/-- `sorted(keys)` of distinct keys.  Which two classes the `TypeError` names depends on
the order a set is walked in. -/
def sorted : List Scalar → Except PyError (List Scalar)
  | [] => .ok []
  | [single] => .ok [single]
  | first :: rest =>
      match (first :: rest).find? fun key => !first.comparable key with
      | none => .ok ((first :: rest).mergeSort le)
      | some other => .error (.typeError (s!"'<' not supported between instances of "
          ++ s!"'{first.className}' and '{other.className}'"))

end Scalar

namespace Yaml

/-- The name of the value's class. -/
def className : Yaml → String
  | scalar value => value.className
  | list _ => "list"
  | dict _ => "dict"

mutual

/-- `repr(v)`. -/
def repr : Yaml → Except PyError String
  | scalar value => value.repr
  | list items => do return "[" ++ ", ".intercalate (← reprItems items) ++ "]"
  | dict entries => do return "\x7b" ++ ", ".intercalate (← reprEntries entries) ++ "\x7d"

def reprItems : List Yaml → Except PyError (List String)
  | [] => .ok []
  | item :: rest => do return (← item.repr) :: (← reprItems rest)

def reprEntries : List (Scalar × Yaml) → Except PyError (List String)
  | [] => .ok []
  | (key, value) :: rest => do
      return ((← key.repr) ++ ": " ++ (← value.repr)) :: (← reprEntries rest)

end

/-- `bool(v)`. -/
def truthy : Yaml → Bool
  | scalar .null => false
  | scalar (.bool value) => value
  | scalar (.int value) => value ≠ 0
  | scalar (.float value) => !value.isZero
  | scalar (.str text) => text ≠ ""
  | list items => !items.isEmpty
  | dict entries => !entries.isEmpty

/-! ## Mappings and sequences -/

/-- `d.get(name)` on the entries of a mapping. -/
def get? (entries : List (Scalar × Yaml)) (name : String) : Option Yaml :=
  (entries.find? fun entry => entry.1 = .str name).map Prod.snd

/-- What `for x in v` walks over. -/
def iterate : Yaml → Except PyError (List Yaml)
  | scalar (.str text) => .ok (text.toList.map fun char => scalar (.str (String.ofList [char])))
  | list items => .ok items
  | dict entries => .ok (entries.map fun entry => scalar entry.1)
  | other => .error (.typeError s!"'{other.className}' object is not iterable")

/-- `float(v)`. -/
def toFloat : Yaml → Except PyError PyFloat
  | scalar (.bool value) => .ok (PyFloat.round (if value then 1 else 0))
  | scalar (.int value) => PyFloat.ofInt value
  | scalar (.float value) => .ok value
  | scalar (.str text) =>
      match PyFloat.ofText text with
      | some value => .ok value
      | none => .error (.valueError s!"could not convert string to float: {pyRepr text}")
  | other => .error (.typeError ("float() argument must be a string or a real number, not "
      ++ s!"'{other.className}'"))

/-- `str(v)` of what a sequence or a mapping holds. -/
def toStr : Yaml → Except PyError String
  | scalar value => value.toStr
  | other => other.repr

end Yaml

end Srv6Fabric
