import Schemata.Entries

/-!
# Plain values

Plain data: default values of arguments, the values of arguments at a call, and what resolvers work
on.

## Main definitions

* `Schemata.Value`: plain values.
* `Schemata.Value.equal`: equality, which looks neither at the order of the entries of an object nor
  at the sign of zero, and by which no NaN equals anything.
-/

namespace Schemata

/-- A plain value. The entries of an object stand in insertion order. -/
inductive Value where
  | null
  | bool (b : Bool)
  | int (n : Int64)
  | float (x : Float)
  | string (s : String)
  | list (items : List Value)
  | object (entries : List (String × Value))
  deriving Inhabited

/-- The values of arguments at a call, by the names of the arguments. -/
abbrev ArgumentValues := Entries Value

namespace Value

/-- The truth value, of one that is. -/
def asBool? : Value → Option Bool
  | bool b => some b
  | _ => none

/-- The integer, of a value that is one. -/
def asInt? : Value → Option Int64
  | int n => some n
  | _ => none

/-- The text, of a value that is one. -/
def asString? : Value → Option String
  | string s => some s
  | _ => none

/-- Whether the value is `null`. -/
def isNull : Value → Bool
  | null => true
  | _ => false

mutual

/-- Equality of values of one kind; an integer never equals a float. -/
def equal : Value → Value → Bool
  | null, null => true
  | bool a, bool b => a == b
  | int a, int b => a == b
  | float a, float b => a == b
  | string a, string b => a == b
  | list as, list bs => equalItems as bs
  | object as, object bs => as.length == bs.length && equalEntries as bs
  | _, _ => false

/-- Equality of lists, item by item. -/
def equalItems : List Value → List Value → Bool
  | [], [] => true
  | a :: as, b :: bs => a.equal b && equalItems as bs
  | _, _ => false

/-- Every one of the first entries has an equal one of its name among the second. -/
def equalEntries : List (String × Value) → List (String × Value) → Bool
  | [], _ => true
  | (name, a) :: as, bs =>
    (match Entries.get? bs name with
      | some b => a.equal b
      | none => false) && equalEntries as bs

end

instance : BEq Value := ⟨equal⟩

end Value

end Schemata
