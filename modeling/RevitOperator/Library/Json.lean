import RevitOperator.Library.Text
import Mathlib.Algebra.Order.Ring.Rat

/-- JSON values. An object keeps its members in insertion order; a number is
    one of the finite values JSON can write. -/
inductive Json where
  | null
  | bool (value : Bool)
  | num (value : ℚ)
  | str (value : String)
  | arr (items : List Json)
  | obj (members : List (String × Json))
deriving Inhabited

namespace Json

/-- The members of an object, and none of any other value. -/
def members : Json → List (String × Json)
  | .obj members => members
  | _ => []

/-- The member of an object under a key. -/
def member? (value : Json) (key : String) : Option Json :=
  (value.members.find? fun entry => entry.1 = key).map Prod.snd

def isObject : Json → Bool
  | .obj _ => true
  | _ => false

def asString? : Json → Option String
  | .str value => some value
  | _ => none

def asNumber? : Json → Option ℚ
  | .num value => some value
  | _ => none

def asBool? : Json → Option Bool
  | .bool value => some value
  | _ => none

/-- An integer that JavaScript represents exactly. -/
def asSafeInt? : Json → Option Int
  | .num value => if value.den = 1 ∧ value.num.natAbs ≤ 9007199254740991 then some value.num else none
  | _ => none

/-- A positive integer that JavaScript represents exactly. -/
def asPositiveId? (value : Json) : Option Int :=
  value.asSafeInt?.filter fun id => 0 < id

def asArray? : Json → Option (List Json)
  | .arr items => some items
  | _ => none

/-- An object, and the empty object in place of any other value. -/
def row : Json → Json
  | .obj members => .obj members
  | _ => .obj []

/-- The member under a key of an object, `null` when it is missing. -/
def field (value : Json) (key : String) : Json := (value.member? key).getD .null

/-- The value is this string. -/
def isText (value : Json) (expected : String) : Bool :=
  match value with
  | .str text => text = expected
  | _ => false

/-- The value is this Boolean. -/
def isBool (value : Json) (expected : Bool) : Bool :=
  match value with
  | .bool flag => flag = expected
  | _ => false

/-- The value is this number. -/
def isNumber (value : Json) (expected : ℚ) : Bool :=
  match value with
  | .num number => number = expected
  | _ => false

/-- A member set to `null` or not set at all. -/
def isNullish (value : Json) (key : String) : Bool :=
  match value.member? key with
  | none | some .null => true
  | some _ => false

/-- Every key of the object is one of these. -/
def onlyKeys (value : Json) (keys : List String) : Bool :=
  value.members.all fun entry => keys.contains entry.1

mutual
/-- Structural equality of two values. -/
def beq : Json → Json → Bool
  | .null, .null => true
  | .bool a, .bool b => a = b
  | .num a, .num b => a = b
  | .str a, .str b => a = b
  | .arr a, .arr b => beqItems a b
  | .obj a, .obj b => beqMembers a b
  | _, _ => false

def beqItems : List Json → List Json → Bool
  | [], [] => true
  | a :: as, b :: bs => beq a b && beqItems as bs
  | _, _ => false

def beqMembers : List (String × Json) → List (String × Json) → Bool
  | [], [] => true
  | (k, a) :: as, (l, b) :: bs => k = l && beq a b && beqMembers as bs
  | _, _ => false
end

mutual
theorem beq_eq_true : ∀ a b : Json, beq a b = true ↔ a = b
  | .null, b => by cases b <;> simp [beq]
  | .bool _, b => by cases b <;> simp [beq]
  | .num _, b => by cases b <;> simp [beq]
  | .str _, b => by cases b <;> simp [beq]
  | .arr as, b => by cases b <;> simp [beq, beqItems_eq_true as]
  | .obj as, b => by cases b <;> simp [beq, beqMembers_eq_true as]

theorem beqItems_eq_true : ∀ as bs : List Json, beqItems as bs = true ↔ as = bs
  | [], bs => by cases bs <;> simp [beqItems]
  | a :: as, bs => by cases bs <;> simp [beqItems, beq_eq_true a, beqItems_eq_true as]

theorem beqMembers_eq_true : ∀ as bs : List (String × Json), beqMembers as bs = true ↔ as = bs
  | [], bs => by cases bs <;> simp [beqMembers]
  | (k, a) :: as, bs => by
    cases bs with
    | nil => simp [beqMembers]
    | cons b bs =>
      obtain ⟨l, b⟩ := b
      simp [beqMembers, beq_eq_true a, beqMembers_eq_true as]
end

instance : DecidableEq Json := fun a b => decidable_of_iff _ (beq_eq_true a b)

mutual
/-- The value with the members of every object in ordinal key order. -/
def canonicalValue : Json → Json
  | .arr items => .arr (canonicalItems items)
  | .obj members =>
    .obj ((canonicalMembers members).insertionSort fun a b => text.ordinalLe a.1 b.1 = true)
  | value => value

def canonicalItems : List Json → List Json
  | [] => []
  | item :: rest => canonicalValue item :: canonicalItems rest

def canonicalMembers : List (String × Json) → List (String × Json)
  | [] => []
  | (key, value) :: rest => (key, canonicalValue value) :: canonicalMembers rest
end

end Json
