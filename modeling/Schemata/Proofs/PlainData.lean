import Schemata.Config

/-!
# Plain data in configurations

A configuration value is plain if it is data throughout: at whatever depth one looks into its lists
and records, there is no ready argument or field, no function, and no reference to a type. The plain
values are those that can be read as data, and each of them is read as the data that it is written
from.

## Main definitions

* `Schemata.Config.Within`: the values that stand in a value, at any depth.
* `Schemata.Config.IsPlain`: values that are data throughout.

## Main results

* `Schemata.Config.toValue?_eq_some_iff`: reading a value as data inverts writing data as a value.
* `Schemata.Config.isPlain_iff`: the plain values are those that can be read as data.
-/

namespace Schemata.Config

/-- The part is the value itself, or it stands in its items or entries at some depth. -/
inductive Within (part : Config) : Config → Prop
  | self : Within part part
  | item {items : List Config} {value : Config} (hmem : value ∈ items) (h : Within part value) :
      Within part (.list items)
  | entry {entries : List (String × Config)} {name : String} {value : Config}
      (hmem : (name, value) ∈ entries) (h : Within part value) : Within part (.record entries)

/-- The value is data, or a collection, whatever is collected in it. -/
def isData : Config → Bool
  | bool _ | float _ | int _ | list _ | null | record _ | string _ => true
  | argument _ | callable _ | field _ | type _ => false

/-- The value is data throughout. -/
def IsPlain (value : Config) : Prop :=
  ∀ part : Config, part.Within value → part.isData = true

theorem isPlain_list_iff {items : List Config} :
    (list items).IsPlain ↔ ∀ item ∈ items, item.IsPlain := by
  constructor
  · exact fun h item hmem part hpart => h part (.item hmem hpart)
  · rintro h part (_ | ⟨hmem, hpart⟩)
    · rfl
    · exact h _ hmem part hpart

theorem isPlain_record_iff {entries : List (String × Config)} :
    (record entries).IsPlain ↔ ∀ entry ∈ entries, entry.2.IsPlain := by
  constructor
  · exact fun h entry hmem part hpart => h part (.entry hmem hpart)
  · rintro h part (_ | _ | ⟨hmem, hpart⟩)
    · rfl
    · exact h _ hmem part hpart

/-- Data that is not a collection has nothing else in it. -/
theorem isPlain_of_isData {value : Config} (hdata : value.isData = true)
    (hflat : value.isStructured = false) : value.IsPlain := by
  rintro part (_ | _ | _)
  · exact hdata
  · cases hflat
  · cases hflat

theorem not_isPlain_of_isData {value : Config} (h : value.isData = false) : ¬ value.IsPlain :=
  fun hplain => Bool.noConfusion ((hplain value .self).symm.trans h)

/-! ### Reading and writing data -/

mutual

theorem toValue?_ofValue (v : Value) : (ofValue v).toValue? = some v := by
  cases v with
  | list items => rw [ofValue, toValue?, toValueItems?_ofValueItems, Option.map_some]
  | object entries => rw [ofValue, toValue?, toValueEntries?_ofValueEntries, Option.map_some]
  | _ => rfl

theorem toValueItems?_ofValueItems (vs : List Value) :
    toValueItems? (ofValueItems vs) = some vs := by
  cases vs with
  | nil => rfl
  | cons v vs => rw [ofValueItems, toValueItems?, toValue?_ofValue, toValueItems?_ofValueItems]

theorem toValueEntries?_ofValueEntries (vs : List (String × Value)) :
    toValueEntries? (ofValueEntries vs) = some vs := by
  cases vs with
  | nil => rfl
  | cons entry vs =>
    obtain ⟨name, v⟩ := entry
    rw [ofValueEntries, toValueEntries?, toValue?_ofValue, toValueEntries?_ofValueEntries]

end

mutual

theorem ofValue_of_toValue? (c : Config) {v : Value} (h : c.toValue? = some v) :
    c = ofValue v := by
  cases c with
  | list items =>
    obtain ⟨vs, hvs, rfl⟩ := Option.map_eq_some_iff.mp h
    rw [ofValue, ← ofValueItems_of_toValueItems? items hvs]
  | record entries =>
    obtain ⟨vs, hvs, rfl⟩ := Option.map_eq_some_iff.mp h
    rw [ofValue, ← ofValueEntries_of_toValueEntries? entries hvs]
  | argument a => cases h
  | callable f => cases h
  | field f => cases h
  | type ref => cases h
  | _ =>
    obtain rfl := Option.some.inj h
    rfl

theorem ofValueItems_of_toValueItems? (cs : List Config) {vs : List Value}
    (h : toValueItems? cs = some vs) : cs = ofValueItems vs := by
  cases cs with
  | nil =>
    obtain rfl := Option.some.inj h
    rfl
  | cons c cs =>
    unfold toValueItems? at h
    split at h
    · rename_i v vs hv hvs
      obtain rfl := Option.some.inj h
      rw [ofValueItems, ← ofValue_of_toValue? c hv, ← ofValueItems_of_toValueItems? cs hvs]
    · cases h

theorem ofValueEntries_of_toValueEntries? (cs : List (String × Config))
    {vs : List (String × Value)} (h : toValueEntries? cs = some vs) : cs = ofValueEntries vs := by
  cases cs with
  | nil =>
    obtain rfl := Option.some.inj h
    rfl
  | cons entry cs =>
    obtain ⟨name, c⟩ := entry
    unfold toValueEntries? at h
    split at h
    · rename_i v vs hv hvs
      obtain rfl := Option.some.inj h
      rw [ofValueEntries, ← ofValue_of_toValue? c hv, ← ofValueEntries_of_toValueEntries? cs hvs]
    · cases h

end

/-- **Reading inverts writing.** A value is read as the data that it is written from, and as no
other. -/
theorem toValue?_eq_some_iff {c : Config} {v : Value} : c.toValue? = some v ↔ c = ofValue v := by
  constructor
  · exact ofValue_of_toValue? c
  · rintro rfl
    exact toValue?_ofValue v

/-! ### Plain values -/

mutual

theorem isSome_toValue?_iff (c : Config) : c.toValue?.isSome = true ↔ c.IsPlain := by
  cases c with
  | list items =>
    rw [toValue?, Option.isSome_map, isPlain_list_iff]
    exact isSome_toValueItems?_iff items
  | record entries =>
    rw [toValue?, Option.isSome_map, isPlain_record_iff]
    exact isSome_toValueEntries?_iff entries
  | argument a => exact iff_of_false Bool.false_ne_true (not_isPlain_of_isData rfl)
  | callable f => exact iff_of_false Bool.false_ne_true (not_isPlain_of_isData rfl)
  | field f => exact iff_of_false Bool.false_ne_true (not_isPlain_of_isData rfl)
  | type ref => exact iff_of_false Bool.false_ne_true (not_isPlain_of_isData rfl)
  | _ => exact iff_of_true rfl (isPlain_of_isData rfl rfl)

theorem isSome_toValueItems?_iff (cs : List Config) :
    (toValueItems? cs).isSome = true ↔ ∀ c ∈ cs, c.IsPlain := by
  cases cs with
  | nil => exact iff_of_true rfl (List.forall_mem_nil _)
  | cons c cs =>
    rw [List.forall_mem_cons, ← isSome_toValue?_iff c, ← isSome_toValueItems?_iff cs, toValueItems?]
    cases c.toValue? <;> cases toValueItems? cs <;> simp

theorem isSome_toValueEntries?_iff (cs : List (String × Config)) :
    (toValueEntries? cs).isSome = true ↔ ∀ entry ∈ cs, entry.2.IsPlain := by
  cases cs with
  | nil => exact iff_of_true rfl (List.forall_mem_nil _)
  | cons entry cs =>
    obtain ⟨name, c⟩ := entry
    rw [List.forall_mem_cons, ← isSome_toValue?_iff c, ← isSome_toValueEntries?_iff cs,
      toValueEntries?]
    cases c.toValue? <;> cases toValueEntries? cs <;> simp

end

/-- **The plain values** are those that can be read as data. -/
theorem isPlain_iff {c : Config} : c.IsPlain ↔ ∃ v, c = ofValue v := by
  rw [← isSome_toValue?_iff, Option.isSome_iff_exists]
  exact exists_congr fun _ => toValue?_eq_some_iff

theorem toValue?_eq_none_iff {c : Config} : c.toValue? = none ↔ ¬ c.IsPlain := by
  rw [← isSome_toValue?_iff, Bool.not_eq_true, Option.isSome_eq_false_iff,
    Option.isNone_iff_eq_none]

end Schemata.Config
