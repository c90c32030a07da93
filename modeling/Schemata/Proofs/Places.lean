import Schemata.Value

/-!
# Places in plain values

The parts of a value stand at places: one goes into a list or an object by the positions of its
items or entries. What holds of a value everywhere holds at every place. Two such properties matter
when values are written and read: whether objects repeat names, and whether there are floats that
are NaN or infinite. The latter can be replaced, place by place, and nothing else changes.

## Main definitions

* `Schemata.Value.kind`: the kind of a value.
* `Schemata.Value.at?`, `Schemata.Value.Everywhere`: the part at a place, and what holds at every
  place.
* `Schemata.Value.Keyed`, `Schemata.Value.AllFinite`: no object repeats a name, and no float is NaN
  or infinite.
* `Schemata.Value.withoutNonFinite`: the value with `null` for the floats that are.

## Main results

* `Schemata.Value.withoutNonFinite_eq`: there may be nothing to replace.
* `Schemata.Value.at?_withoutNonFinite`, `Schemata.Value.kind_withoutNonFinite`: nothing else
  changes.
-/

namespace Schemata.Value

/-- The kinds of values. -/
inductive Kind where
  | null
  | bool
  | int
  | float
  | string
  | list
  | object
  deriving DecidableEq

/-- The kind of a value. -/
def kind : Value → Kind
  | null => .null
  | bool _ => .bool
  | int _ => .int
  | float _ => .float
  | string _ => .string
  | list _ => .list
  | object _ => .object

/-! ### Parts of values -/

/-- The items of a list, or what stands in the entries of an object. -/
def parts : Value → List Value
  | list items => items
  | object entries => Entries.items entries
  | _ => []

/-- The part of a value at a place. A place is given by the positions that lead to it from the
outside. -/
def at? : Value → List Nat → Option Value
  | v, [] => some v
  | v, i :: place => v.parts[i]?.bind fun part => part.at? place

/-- The value and all its parts, at whatever depth, are as described. -/
def Everywhere (P : Value → Prop) (v : Value) : Prop :=
  ∀ place part, v.at? place = some part → P part

theorem everywhere_iff {P : Value → Prop} {v : Value} :
    v.Everywhere P ↔ P v ∧ ∀ part ∈ v.parts, part.Everywhere P := by
  constructor
  · refine fun h => ⟨h [] v rfl, fun part hmem place inner hinner => ?_⟩
    obtain ⟨i, hi⟩ := List.mem_iff_getElem?.mp hmem
    exact h (i :: place) inner (by rw [at?, hi, Option.bind_some, hinner])
  · rintro ⟨hself, hparts⟩ (_ | ⟨i, place⟩) inner hinner
    · exact Option.some.inj hinner ▸ hself
    · obtain ⟨part, hi, hinner⟩ := Option.bind_eq_some_iff.mp hinner
      exact hparts part (List.mem_of_getElem? hi) place inner hinner

/-- No object in the value has two entries of one name. Objects whose entries were inserted one by
one are such. -/
def Keyed : Value → Prop :=
  Everywhere fun
    | object entries => (Entries.keys entries).Nodup
    | _ => True

theorem keyed_of_flat {v : Value} (hlist : v.kind ≠ .list) (hobject : v.kind ≠ .object) :
    v.Keyed := by
  refine everywhere_iff.mpr ?_
  cases v with
  | list items => exact (hlist rfl).elim
  | object entries => exact (hobject rfl).elim
  | _ => exact ⟨trivial, List.forall_mem_nil _⟩

theorem keyed_list_iff {items : List Value} :
    (list items).Keyed ↔ ∀ item ∈ items, item.Keyed :=
  everywhere_iff.trans (and_iff_right trivial)

theorem keyed_object_iff {entries : List (String × Value)} :
    (object entries).Keyed ↔
      (Entries.keys entries).Nodup ∧ ∀ item ∈ Entries.items entries, item.Keyed :=
  everywhere_iff

/-- No float in the value is NaN or infinite. -/
def AllFinite : Value → Prop :=
  Everywhere fun
    | float x => x.isFinite = true
    | _ => True

/-! ### Floats that are replaced -/

mutual

/-- The value with `null` in place of every float that is NaN or infinite. -/
def withoutNonFinite : Value → Value
  | float x => if x.isFinite then float x else null
  | list items => list (itemsWithoutNonFinite items)
  | object entries => object (entriesWithoutNonFinite entries)
  | v => v

/-- The items with `null` in place of every float that is NaN or infinite. -/
def itemsWithoutNonFinite : List Value → List Value
  | [] => []
  | v :: vs => v.withoutNonFinite :: itemsWithoutNonFinite vs

/-- The entries with `null` in place of every float that is NaN or infinite. -/
def entriesWithoutNonFinite : List (String × Value) → List (String × Value)
  | [] => []
  | (name, v) :: vs => (name, v.withoutNonFinite) :: entriesWithoutNonFinite vs

end

theorem itemsWithoutNonFinite_eq_map (vs : List Value) :
    itemsWithoutNonFinite vs = vs.map withoutNonFinite := by
  induction vs with
  | nil => rfl
  | cons v vs ih => rw [itemsWithoutNonFinite, ih, List.map_cons]

theorem items_entriesWithoutNonFinite (vs : List (String × Value)) :
    Entries.items (entriesWithoutNonFinite vs) = (Entries.items vs).map withoutNonFinite := by
  induction vs with
  | nil => rfl
  | cons entry vs ih => exact congrArg (entry.2.withoutNonFinite :: ·) ih

theorem keys_entriesWithoutNonFinite (vs : List (String × Value)) :
    Entries.keys (entriesWithoutNonFinite vs) = Entries.keys vs := by
  induction vs with
  | nil => rfl
  | cons entry vs ih => exact congrArg (entry.1 :: ·) ih

theorem parts_withoutNonFinite (v : Value) :
    v.withoutNonFinite.parts = v.parts.map withoutNonFinite := by
  cases v with
  | float x =>
    rw [withoutNonFinite]
    split <;> rfl
  | list items => exact itemsWithoutNonFinite_eq_map items
  | object entries => exact items_entriesWithoutNonFinite entries
  | _ => rfl

/-- Replacing is done place by place. -/
theorem at?_withoutNonFinite (v : Value) (place : List Nat) :
    v.withoutNonFinite.at? place = (v.at? place).map withoutNonFinite := by
  induction place generalizing v with
  | nil => rfl
  | cons i place ih =>
    rw [at?, at?, parts_withoutNonFinite, List.getElem?_map]
    cases v.parts[i]? with
    | none => rfl
    | some part => exact ih part

/-- Only a float that is NaN or infinite changes its kind. -/
theorem kind_withoutNonFinite {v : Value} (h : ∀ x, v = float x → x.isFinite = true) :
    v.withoutNonFinite.kind = v.kind := by
  cases v with
  | float x => rw [withoutNonFinite, if_pos (h x rfl)]
  | _ => rfl

mutual

/-- Without floats that are NaN or infinite nothing is replaced. -/
theorem withoutNonFinite_eq {v : Value} (h : v.AllFinite) : v.withoutNonFinite = v := by
  obtain ⟨hself, hparts⟩ := everywhere_iff.mp h
  cases v with
  | float x => rw [withoutNonFinite, if_pos hself]
  | list items => exact congrArg list (itemsWithoutNonFinite_eq hparts)
  | object entries => exact congrArg object (entriesWithoutNonFinite_eq hparts)
  | _ => rfl

theorem itemsWithoutNonFinite_eq {vs : List Value} (h : ∀ v ∈ vs, v.AllFinite) :
    itemsWithoutNonFinite vs = vs := by
  cases vs with
  | nil => rfl
  | cons v vs =>
    obtain ⟨hfirst, hrest⟩ := List.forall_mem_cons.mp h
    rw [itemsWithoutNonFinite, withoutNonFinite_eq hfirst, itemsWithoutNonFinite_eq hrest]

theorem entriesWithoutNonFinite_eq {vs : List (String × Value)}
    (h : ∀ v ∈ Entries.items vs, v.AllFinite) : entriesWithoutNonFinite vs = vs := by
  cases vs with
  | nil => rfl
  | cons entry vs =>
    obtain ⟨hfirst, hrest⟩ := List.forall_mem_cons.mp h
    rw [entriesWithoutNonFinite, withoutNonFinite_eq hfirst, entriesWithoutNonFinite_eq hrest]

end

end Schemata.Value
