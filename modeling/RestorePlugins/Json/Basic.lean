import RestorePlugins.Decimal.Binary64
import RestorePlugins.Entries
import RestorePlugins.Text.Utf8

namespace RestorePlugins

/-!
# JSON documents

A document is a tree of null, truth values, numbers, texts, arrays and objects.  An integer
literal that fits into 64 bits, signed or unsigned, stays an integer; every other number is a
binary64 number.  The fields of an object stand in key order, one field a key.

* `Json.get?` — the field of an object; other values have no fields.
* `Json.beq` — equality as values, for which `0.0` and `-0.0` are one number.
* `Json.Canonical` — what reading and editing produce: integers in range, finite numbers,
  fields in order.
-/

/-- A JSON document. -/
inductive Json where
  | null
  | bool (value : Bool)
  | int (value : Int)
  | float (value : Binary64)
  | str (value : String)
  | arr (items : List Json)
  | obj (fields : List (String × Json))
  deriving Inhabited

namespace Json

/-- The smallest integer that stays an integer. -/
def minInt : Int := -0x8000000000000000

/-- The largest integer that stays an integer. -/
def maxInt : Int := 0xffffffffffffffff

/-- The object without fields. -/
def emptyObject : Json := .obj []

/-- The field of an object. -/
def get? (key : String) : Json → Option Json
  | .obj fields => Entries.find? key fields
  | _ => none

/-- The text of a text value. -/
def asString? : Json → Option String
  | .str s => some s
  | _ => none

/-- Whether the value is an object. -/
def isObject : Json → Bool
  | .obj _ => true
  | _ => false

@[simp] theorem get?_obj (key : String) (fields : List (String × Json)) :
    get? key (.obj fields) = Entries.find? key fields := rfl

/-! ### Equality as values -/

mutual

/-- Equality of two documents as values. -/
def beq : Json → Json → Bool
  | .null, .null => true
  | .bool a, .bool b => a == b
  | .int a, .int b => a == b
  | .float a, .float b => a == b
  | .str a, .str b => a == b
  | .arr a, .arr b => beqItems a b
  | .obj a, .obj b => beqFields a b
  | _, _ => false

/-- Equality of two arrays, item by item. -/
def beqItems : List Json → List Json → Bool
  | [], [] => true
  | a :: as, b :: bs => beq a b && beqItems as bs
  | _, _ => false

/-- Equality of two objects, field by field in order. -/
def beqFields : List (String × Json) → List (String × Json) → Bool
  | [], [] => true
  | (k, a) :: as, (l, b) :: bs => k == l && beq a b && beqFields as bs
  | _, _ => false

end

instance : BEq Json := ⟨beq⟩

/-! ### Canonical documents -/

mutual

/-- Integers fit into 64 bits, numbers are finite, and fields stand in key order. -/
def Canonical : Json → Prop
  | .int i => minInt ≤ i ∧ i ≤ maxInt
  | .float x => x.magnitude < Binary64.infinity
  | .arr items => CanonicalItems items
  | .obj fields => Entries.Ascending fields ∧ CanonicalFields fields
  | _ => True

/-- Every item is canonical. -/
def CanonicalItems : List Json → Prop
  | [] => True
  | item :: rest => Canonical item ∧ CanonicalItems rest

/-- Every field's value is canonical. -/
def CanonicalFields : List (String × Json) → Prop
  | [] => True
  | (_, value) :: rest => Canonical value ∧ CanonicalFields rest

end

/-! ### Nesting -/

mutual

/-- The count of arrays and objects around the innermost value. -/
def depth : Json → Nat
  | .arr items => depthItems items + 1
  | .obj fields => depthFields fields + 1
  | _ => 0

/-- The deepest item. -/
def depthItems : List Json → Nat
  | [] => 0
  | item :: rest => max (depth item) (depthItems rest)

/-- The deepest field. -/
def depthFields : List (String × Json) → Nat
  | [] => 0
  | (_, value) :: rest => max (depth value) (depthFields rest)

end

end Json

end RestorePlugins
