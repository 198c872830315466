import TestRig.Number.Decimal
import TestRig.Fault
import TestRig.Text.Normal

/-!
Dynamic values of the configuration language: strings, numbers, booleans, typed nulls and
unknowns, lists, sets and maps of one element type, tuples, and objects with named attributes.
A value knows its type (`Value.ty`), and a type has a name for messages (`Ty.friendlyName`).
Object attributes are kept sorted by name.
-/

namespace TestRig

open TestRig.Number

/-- The type of a value. `dynamic` stands for a type not known in advance. -/
inductive Ty where
  | string
  | number
  | bool
  | dynamic
  | list (elem : Ty)
  | set (elem : Ty)
  | map (elem : Ty)
  | tuple (elems : List Ty)
  | object (attrs : List (String × Ty))
  deriving Repr, Inhabited

inductive Value where
  | str (s : String)
  | num (n : Numeric)
  | bool (b : Bool)
  | null (ty : Ty)
  | unknown (ty : Ty)
  | list (elem : Ty) (items : List Value)
  | set (elem : Ty) (items : List Value)
  | map (elem : Ty) (entries : List (String × Value))
  | tuple (items : List Value)
  | object (attrs : List (String × Value))
  deriving Repr, Inhabited

namespace Ty

mutual
/-- The name of a type in messages: `string`, `list of string`, `tuple`, `object`. -/
def friendlyName : Ty → String
  | string => "string"
  | number => "number"
  | bool => "bool"
  | dynamic => "dynamic"
  | list e => "list of " ++ friendlyName e
  | set e => "set of " ++ friendlyName e
  | map e => "map of " ++ friendlyName e
  | tuple _ => "tuple"
  | object _ => "object"
end

mutual
def beq : Ty → Ty → Bool
  | string, string => true
  | number, number => true
  | bool, bool => true
  | dynamic, dynamic => true
  | list a, list b => beq a b
  | set a, set b => beq a b
  | map a, map b => beq a b
  | tuple as, tuple bs => beqList as bs
  | object as, object bs => beqAttrs as bs
  | _, _ => false

def beqList : List Ty → List Ty → Bool
  | [], [] => true
  | a :: as, b :: bs => beq a b && beqList as bs
  | _, _ => false

def beqAttrs : List (String × Ty) → List (String × Ty) → Bool
  | [], [] => true
  | (n, a) :: as, (m, b) :: bs => n == m && beq a b && beqAttrs as bs
  | _, _ => false
end

instance : BEq Ty := ⟨beq⟩

def isPrimitive : Ty → Bool
  | string | number | bool => true
  | _ => false

end Ty

namespace Value

mutual
def ty : Value → Ty
  | str _ => .string
  | num _ => .number
  | bool _ => .bool
  | null t => t
  | unknown t => t
  | list e _ => .list e
  | set e _ => .set e
  | map e _ => .map e
  | tuple items => .tuple (tys items)
  | object attrs => .object (attrTys attrs)

def tys : List Value → List Ty
  | [] => []
  | v :: vs => ty v :: tys vs

def attrTys : List (String × Value) → List (String × Ty)
  | [] => []
  | (n, v) :: r => (n, ty v) :: attrTys r
end

def ofString (s : String) : Value := .str s

def ofStrings (xs : List String) : Value := .list .string (xs.map .str)

/-- Inserts an attribute into a sorted attribute list, replacing one of the same name. -/
def insertAttr (n : String) (v : Value) : List (String × Value) → List (String × Value)
  | [] => [(n, v)]
  | (m, w) :: r =>
    if n < m then (n, v) :: (m, w) :: r
    else if n == m then (n, v) :: r
    else (m, w) :: insertAttr n v r

/-- An object from named values in any order; a later name replaces an earlier one. -/
def objectOf (attrs : List (String × Value)) : Value :=
  .object (attrs.foldl (fun acc (n, v) => insertAttr n v acc) [])

mutual
/-- The value with every string and every attribute or key name in normalization form C, the
form a string value is given when it is made. -/
def normalized : Value → Value
  | str s => str (Text.nfc s)
  | list e items => list e (normalizedAll items)
  | set e items => set e (normalizedAll items)
  | map e entries => map e ((normalizedEntries entries).foldl (fun acc (n, v) => insertAttr n v acc) [])
  | tuple items => tuple (normalizedAll items)
  | object attrs => objectOf (normalizedEntries attrs)
  | v => v

def normalizedAll : List Value → List Value
  | [] => []
  | v :: vs => normalized v :: normalizedAll vs

def normalizedEntries : List (String × Value) → List (String × Value)
  | [] => []
  | (n, v) :: r => (Text.nfc n, normalized v) :: normalizedEntries r
end

def isNull : Value → Bool
  | null _ => true
  | _ => false

def isUnknown : Value → Bool
  | unknown _ => true
  | _ => false

def ofInt (i : Int) : Value := .num (.finite (Binary.ofInt i))

/-- The text of a number: the fewest digits at its precision, positionally. -/
def numberText (n : Numeric) : String := n.fixedText

def elements : Value → Option (List Value)
  | list _ items => some items
  | set _ items => some items
  | tuple items => some items
  | _ => none

end Value

def stringsError (v : Value) : String :=
  if v.isUnknown then "value is unknown"
  else if v.isNull then "value is null"
  else "cannot use " ++ v.ty.friendlyName ++ " as a string list"

mutual
/-- A scalar or a nested sequence of scalars as strings, in order: numbers by their text,
booleans as `true` and `false`. -/
def Value.asStrings : Value → Except String (List String)
  | .str s => .ok [s]
  | .num n => .ok [n.fixedText]
  | .bool b => .ok [if b then "true" else "false"]
  | .list _ items => asStringsAll items
  | .set _ items => asStringsAll items
  | .tuple items => asStringsAll items
  | v => .error (stringsError v)

def asStringsAll : List Value → Except String (List String)
  | [] => .ok []
  | v :: vs => do
    let a ← v.asStrings
    let b ← asStringsAll vs
    return a ++ b
end

end TestRig
