import Mathlib
import Schemata.Proofs.PlainData

/-!
# Plain data as configuration, and back

Plain values and configuration values are two types, and data is carried from the one to the other
by two functions. When a value of the one type is the same data as a value of the other is said here
without these functions, kind by kind: a number is the same integer or has the same bits, and a
collection has the same items or entries one by one, in their order and under the same names.

Either function then finds the one value of its type that is the same data. Only a configuration
value can be refused: it is if, at some depth, it holds something that is no data.

## Main definitions

* `Schemata.Value.SameData`: a plain value and a configuration value that are the same data.
* `Schemata.Config.NoData`: ready arguments and fields, functions, and references to types.

## Main results

* `Schemata.Value.sameData_iff`: writing data as configuration gives the value that is the same.
* `Schemata.Config.conversion_exact`: nothing is lost in either direction.
-/

namespace Schemata

namespace Value

mutual

/-- The configuration value is the same data as the plain value. -/
inductive SameData : Value → Config → Prop
  | null : SameData .null .null
  | bool (b : Bool) : SameData (.bool b) (.bool b)
  | int (n : Int64) : SameData (.int n) (.int n)
  | float {x y : Float} (h : x.toBits = y.toBits) : SameData (.float x) (.float y)
  | string (s : String) : SameData (.string s) (.string s)
  | list {vs : List Value} {cs : List Config} (h : SameItems vs cs) : SameData (.list vs) (.list cs)
  | object {vs : List (String × Value)} {cs : List (String × Config)} (h : SameEntries vs cs) :
      SameData (.object vs) (.record cs)

/-- Items are the same data one by one. -/
inductive SameItems : List Value → List Config → Prop
  | nil : SameItems [] []
  | cons {v : Value} {c : Config} {vs : List Value} {cs : List Config} (hfirst : SameData v c)
      (hrest : SameItems vs cs) : SameItems (v :: vs) (c :: cs)

/-- Entries are the same data one by one, each under the name of the other. -/
inductive SameEntries : List (String × Value) → List (String × Config) → Prop
  | nil : SameEntries [] []
  | cons (name : String) {v : Value} {c : Config} {vs : List (String × Value)}
      {cs : List (String × Config)} (hfirst : SameData v c) (hrest : SameEntries vs cs) :
      SameEntries ((name, v) :: vs) ((name, c) :: cs)

end

mutual

theorem sameData_ofValue : (v : Value) → SameData v (.ofValue v)
  | .null => .null
  | .bool b => .bool b
  | .int n => .int n
  | .float _ => .float rfl
  | .string s => .string s
  | .list vs => .list (sameItems_ofValueItems vs)
  | .object vs => .object (sameEntries_ofValueEntries vs)

theorem sameItems_ofValueItems : (vs : List Value) → SameItems vs (Config.ofValueItems vs)
  | [] => .nil
  | v :: vs => .cons (sameData_ofValue v) (sameItems_ofValueItems vs)

theorem sameEntries_ofValueEntries :
    (vs : List (String × Value)) → SameEntries vs (Config.ofValueEntries vs)
  | [] => .nil
  | (name, v) :: vs => .cons name (sameData_ofValue v) (sameEntries_ofValueEntries vs)

end

mutual

theorem SameData.ofValue_eq {v : Value} {c : Config} : SameData v c → Config.ofValue v = c
  | .null => rfl
  | .bool _ => rfl
  | .int _ => rfl
  | .float h => by rw [Config.ofValue, Float.toBits_inj.mp h]
  | .string _ => rfl
  | .list h => by rw [Config.ofValue, h.ofValueItems_eq]
  | .object h => by rw [Config.ofValue, h.ofValueEntries_eq]

theorem SameItems.ofValueItems_eq {vs : List Value} {cs : List Config} :
    SameItems vs cs → Config.ofValueItems vs = cs
  | .nil => rfl
  | .cons hfirst hrest => by rw [Config.ofValueItems, hfirst.ofValue_eq, hrest.ofValueItems_eq]

theorem SameEntries.ofValueEntries_eq {vs : List (String × Value)} {cs : List (String × Config)} :
    SameEntries vs cs → Config.ofValueEntries vs = cs
  | .nil => rfl
  | .cons _ hfirst hrest => by
    rw [Config.ofValueEntries, hfirst.ofValue_eq, hrest.ofValueEntries_eq]

end

/-- **Writing data as configuration** gives the one value that is the same data. -/
theorem sameData_iff {v : Value} {c : Config} : SameData v c ↔ Config.ofValue v = c := by
  constructor
  · exact SameData.ofValue_eq
  · rintro rfl
    exact sameData_ofValue v

/-- Entries that are the same data have the same names in the same order. -/
theorem SameEntries.keys_eq {vs : Entries Value} {cs : Record} :
    SameEntries vs cs → vs.keys = cs.keys
  | .nil => rfl
  | .cons name _ hrest => congrArg (name :: ·) hrest.keys_eq

end Value

namespace Config

/-- What is no data: a ready argument or field, a function, or a reference to a type. -/
inductive NoData : Config → Prop
  | argument (a : Argument) : NoData (.argument a)
  | callable (f : Callable) : NoData (.callable f)
  | field (f : Field) : NoData (.field f)
  | type (ref : TypeRef) : NoData (.type ref)

theorem noData_iff {c : Config} : c.NoData ↔ c.isData = false := by
  constructor
  · rintro (_ | _ | _ | _) <;> rfl
  · intro h
    cases c with
    | argument a => exact .argument a
    | callable f => exact .callable f
    | field f => exact .field f
    | type ref => exact .type ref
    | _ => cases h

theorem toValue?_eq_some_iff_sameData {c : Config} {v : Value} :
    c.toValue? = some v ↔ v.SameData c := by
  rw [toValue?_eq_some_iff, Value.sameData_iff, eq_comm]

/-- **What cannot be read as data** holds, at some depth, something that is none. -/
theorem toValue?_eq_none_iff_within {c : Config} :
    c.toValue? = none ↔ ∃ part : Config, part.NoData ∧ part.Within c := by
  rw [toValue?_eq_none_iff, IsPlain]
  push Not
  simp only [ne_eq, Bool.not_eq_true, noData_iff, and_comm]

/-- **Nothing is lost in either direction.**

* What is written as configuration is read back as it was.
* A value is read as the data that it is, and as no other: integers, bits of floats and texts are
  the same at every depth, and so are the items of lists and the entries of objects in their order.
* Written as configuration, what was read is the value that it was read from.
* Names are kept in their order, so entries that stand under distinct names may as well be inserted
  one by one.
* A value is refused exactly if it holds, at some depth, an argument, a function, a field or a
  reference to a type. -/
theorem conversion_exact :
    (∀ v : Value, (ofValue v).toValue? = some v) ∧
    (∀ (c : Config) (v : Value), c.toValue? = some v ↔ v.SameData c) ∧
    (∀ (c : Config) (v : Value), c.toValue? = some v ↔ ofValue v = c) ∧
    (∀ (vs : Entries Value) (cs : Record), Value.SameEntries vs cs → vs.keys.Nodup →
      Entries.ofList vs = vs ∧ Entries.ofList cs = cs) ∧
    ∀ c : Config, c.toValue? = none ↔ ∃ part : Config, part.NoData ∧ part.Within c := by
  refine ⟨toValue?_ofValue, fun c v => toValue?_eq_some_iff_sameData, fun c v => ?_,
    fun vs cs hsame hnodup => ?_, fun c => toValue?_eq_none_iff_within⟩
  · rw [toValue?_eq_some_iff, eq_comm]
  · exact ⟨Entries.ofList_of_nodup hnodup, Entries.ofList_of_nodup (hsame.keys_eq ▸ hnodup)⟩

end Config

end Schemata
