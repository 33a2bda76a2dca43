import Rulebook.Value.Text

/-!
# Equality of values

There are two equalities.  The strict one compares like with like: numbers
numerically, and objects without regard to the order of their fields.  The
loose one also compares numbers, numeric strings and booleans by their numeric
value, and arrays and objects with strings by their text.
-/

namespace Rulebook.Value

mutual

/-- The same kind and the same content; `nan` differs from itself. -/
def same : Value → Value → Bool
  | null, null => true
  | bool a, bool b => a == b
  | number a, number b => a.eq b
  | string a, string b => a == b
  | array as, array bs => sameItems as bs
  | object as, object bs => as.length == bs.length && sameFields as bs
  | file a, file b => a == b
  | files as, files bs => as == bs
  | _, _ => false

/-- Items are compared position by position. -/
def sameItems : List Value → List Value → Bool
  | [], [] => true
  | a :: as, b :: bs => same a b && sameItems as bs
  | _, _ => false

/-- Every field has an equal one of the same name among the others. -/
def sameFields : List (String × Value) → List (String × Value) → Bool
  | [], _ => true
  | (name, a) :: as, bs =>
      (match bs.lookup name with
        | some b => same a b
        | none => false) && sameFields as bs

end

instance : BEq Value := ⟨same⟩

/-- Strict equality: the same kind and the same content. -/
def strictEq (a b : Value) : Bool :=
  match a, b with
  | number a, number b => a.eq b
  | a, b => a == b

/-- Loose equality of a number with a value other than `null`. -/
def looseEqNumber (n : Number) : Value → Bool
  | number m => n.eq m
  | bool b => n.eq (.ofBool b)
  | string s => (Number.ofArgument s.toList).eq n
  | _ => false

/-- Loose equality.  `null` is equal to `null` alone. -/
def looseEq (a b : Value) : Bool :=
  match a, b with
  | null, null => true
  | null, _ => false
  | _, null => false
  | string a, string b => a == b
  | bool a, bool b => a == b
  | number n, other => looseEqNumber n other
  | other, number n => looseEqNumber n other
  | bool b, other => looseEqNumber (.ofBool b) other
  | other, bool b => looseEqNumber (.ofBool b) other
  | array items, string s => (array items).stringify == s
  | object fields, string s => (object fields).stringify == s
  | string s, array items => (array items).stringify == s
  | string s, object fields => (object fields).stringify == s
  | a, b => strictEq a b

/-- Loose equality with the text of a rule argument. -/
def looseEqText (value : Value) (text : String) : Bool :=
  looseEq value (string text)

mutual

/-- The names of the fields of every object in a value are distinct. -/
def WellFormed : Value → Prop
  | array items => WellFormedItems items
  | object fields => Table.Distinct fields ∧ WellFormedFields fields
  | _ => True

/-- `WellFormed` for every item. -/
def WellFormedItems : List Value → Prop
  | [] => True
  | item :: items => WellFormed item ∧ WellFormedItems items

/-- `WellFormed` for the value of every field. -/
def WellFormedFields : List (String × Value) → Prop
  | [] => True
  | (_, value) :: fields => WellFormed value ∧ WellFormedFields fields

end

end Rulebook.Value
