import Schemata.Proofs.Brevity

/-!
# What the text of a value does not show

The text of a value is fixed by what is shown of it. The abridgement of a value keeps just that: it
empties the collections inside two others, replaces what follows the first five items of a
collection by as many blanks, cuts long texts but for a sign that they go on, and forgets of a
function all but its kind, of a deferred reference what produces it, and of a field or an argument
all but its name. Values with one abridgement have one text.

A collection that is shown with its items tells how many of them are left out: as many as it has
more than five. It says nothing where it has no more.

## Main definitions

* `Schemata.Config.abridge`: the abridgement of a value.
* `Schemata.Config.Shown`: the parts that stand in the text of a value.
* `Schemata.Config.TellsRest`: the end of the text of a collection, by how many items it has.

## Main results

* `Schemata.Config.render_abridge`: a value is shown as its abridgement is.
* `Schemata.Config.abridgeString_eq_iff`, `Schemata.Config.abridgeItems_eq_iff`: what is kept.
* `Schemata.Config.render_elides`: values with one abridgement have one text, and each collection in
  it tells how many items are left out.
-/

namespace Schemata

/-- The reference without what produces its deferred part. -/
def TypeRef.withoutProducer : TypeRef → TypeRef
  | deferred _ => deferred default
  | ready head => ready head
  | list inner => list inner.withoutProducer
  | named name => named name
  | nonNull inner => nonNull inner.withoutProducer

theorem TypeRef.text_withoutProducer (ref : TypeRef) : ref.withoutProducer.text = ref.text := by
  induction ref with
  | deferred | ready | named => rfl
  | list inner ih | nonNull inner ih => rw [withoutProducer, text, text, ih]

theorem Decimal.toString_inj {m n : Nat} : toString m = toString n ↔ m = n := by
  refine ⟨fun h => ?_, congrArg _⟩
  rw [Nat.toString_eq_repr, Nat.toString_eq_repr, Nat.repr_eq_ofList_toDigits,
    Nat.repr_eq_ofList_toDigits, String.ofList_inj] at h
  rw [← Nat.ofDigitChars_toDigits (n := m) (by decide : 1 < 10) le_rfl, h,
    Nat.ofDigitChars_toDigits (by decide) le_rfl]

/-- The field with nothing but its name. -/
def FieldOf.nameOnly (f : FieldOf Config) : FieldOf Config where
  name := f.name
  arguments := []
  typeRef := none
  resolution := .standard
  estimator := none
  description := none
  deprecationReason := none
  source := []
  id := 0

/-- The argument with nothing but its name. -/
def Argument.nameOnly (a : Argument) : Argument where
  name := a.name
  typeRef := none
  defaultValue := none
  description := none
  deprecationReason := none

namespace Config

/-- A text cut to its first characters; one more character tells that it goes on. -/
def abridgeString (s : String) : String :=
  -- Any character would do: the text stays longer than what is shown of it, so it goes on.
  if shownCharacters < s.toList.length then String.ofList (s.toList.take shownCharacters ++ ['.'])
  else s

/-- The first items of a collection, abridged, and a blank for each of the others. -/
def abridgeItems {α : Type} (abridge : α → α) (blank : α) (items : List α) : List α :=
  (items.take shownItems).map abridge ++ List.replicate (items.length - shownItems) blank

/-- What is shown of a value with so many levels of collections. -/
def abridgeWithin : Nat → Config → Config
  | _, null => null
  | _, bool b => bool b
  | _, int n => int n
  | _, float x => float x
  | _, string s => string (abridgeString s)
  | 0, list _ => list []
  | levels + 1, list items => list (abridgeItems (abridgeWithin levels) null items)
  | 0, record _ => record []
  | levels + 1, record entries =>
    record (abridgeItems (fun (name, value) => (name, abridgeWithin levels value)) ("", null)
      entries)
  | _, type ref => type ref.withoutProducer
  | _, callable c => callable { c with handle := default }
  | _, field f => field f.nameOnly
  | _, argument a => argument a.nameOnly

/-- What messages show of a value. -/
def abridge (value : Config) : Config :=
  value.abridgeWithin shownLevels

variable {levels : Nat} {value : Config} {α : Type} {items others : List α} {s t : String}

/-! ### What is kept -/

theorem length_abridgeItems (abridge : α → α) (blank : α) (items : List α) :
    (abridgeItems abridge blank items).length = items.length := by
  rw [abridgeItems, List.length_append, List.length_map, List.length_take, List.length_replicate]
  omega

theorem take_abridgeItems (abridge : α → α) (blank : α) (items : List α) :
    (abridgeItems abridge blank items).take shownItems = (items.take shownItems).map abridge := by
  rcases Nat.le_total items.length shownItems with hshort | hlong
  · rw [abridgeItems, Nat.sub_eq_zero_of_le hshort, List.replicate_zero, List.append_nil,
      List.take_of_length_le]
    rw [List.length_map]
    exact List.length_take_le _ _
  · refine List.take_left' ?_
    rw [List.length_map, List.length_take_of_le hlong]

/-- Of a collection its length and its first items are kept. -/
theorem abridgeItems_eq_iff {abridge : α → α} {blank : α} :
    abridgeItems abridge blank items = abridgeItems abridge blank others ↔
      items.length = others.length ∧
        (items.take shownItems).map abridge = (others.take shownItems).map abridge := by
  constructor
  · intro h
    rw [← take_abridgeItems abridge blank, ← take_abridgeItems abridge blank, ← h]
    rw [← length_abridgeItems abridge blank, h, length_abridgeItems]
    exact ⟨rfl, rfl⟩
  · rintro ⟨hlength, hfirst⟩
    rw [abridgeItems, abridgeItems, hlength, hfirst]

theorem abridgeString_of_long (h : shownCharacters < s.toList.length) :
    abridgeString s = String.ofList (s.toList.take shownCharacters ++ ['.']) :=
  if_pos h

theorem abridgeString_of_short (h : ¬ shownCharacters < s.toList.length) : abridgeString s = s :=
  if_neg h

theorem take_abridgeString (s : String) :
    (abridgeString s).toList.take shownCharacters = s.toList.take shownCharacters := by
  by_cases h : shownCharacters < s.toList.length
  · rw [abridgeString_of_long h, String.toList_ofList]
    exact List.take_left' (List.length_take_of_le h.le)
  · rw [abridgeString_of_short h]

theorem abridgeString_long_iff :
    shownCharacters < (abridgeString s).toList.length ↔ shownCharacters < s.toList.length := by
  by_cases h : shownCharacters < s.toList.length
  · rw [abridgeString_of_long h, String.toList_ofList, List.length_append,
      List.length_take_of_le h.le]
    exact iff_of_true (Nat.lt_succ_self _) h
  · rw [abridgeString_of_short h]

/-- Of a long text its first characters are kept, and that it goes on. -/
theorem abridgeString_eq_iff : abridgeString s = abridgeString t ↔
    s = t ∨ shownCharacters < s.toList.length ∧ shownCharacters < t.toList.length ∧
      s.toList.take shownCharacters = t.toList.take shownCharacters := by
  constructor
  · intro h
    have hlong : shownCharacters < s.toList.length ↔ shownCharacters < t.toList.length := by
      rw [← abridgeString_long_iff, h, abridgeString_long_iff]
    by_cases hs : shownCharacters < s.toList.length
    · refine .inr ⟨hs, hlong.mp hs, ?_⟩
      rw [← take_abridgeString, h, take_abridgeString]
    · left
      rw [← abridgeString_of_short hs, h, abridgeString_of_short (mt hlong.mpr hs)]
  · rintro (rfl | ⟨hs, ht, hfirst⟩)
    · rfl
    · rw [abridgeString_of_long hs, abridgeString_of_long ht, hfirst]

/-! ### What is shown -/

theorem renderString_of_long (h : shownCharacters < s.toList.length) : renderString s =
    Text.quote (String.ofList (s.toList.take shownCharacters)) ++ "..." := by
  have hempty : s.isEmpty = false := by
    rw [String.isEmpty_eq_false_iff]
    rintro rfl
    cases h
  rw [renderString, hempty]
  exact if_pos h

theorem renderString_abridgeString (s : String) :
    renderString (abridgeString s) = renderString s := by
  by_cases h : shownCharacters < s.toList.length
  · rw [renderString_of_long h, renderString_of_long (abridgeString_long_iff.mpr h),
      take_abridgeString]
  · rw [abridgeString_of_short h]

/-- What is shown of a collection is fixed by its length and by what is shown of its first items. -/
theorem renderItems_abridgeItems {abridge : α → α} {blank : α} {shown : α → String}
    (h : ∀ item ∈ items, shown (abridge item) = shown item) :
    renderItems (abridgeItems abridge blank items).length
        (((abridgeItems abridge blank items).take shownItems).map shown) =
      renderItems items.length ((items.take shownItems).map shown) := by
  rw [length_abridgeItems, take_abridgeItems, List.map_map]
  exact congrArg _ (List.map_congr_left fun item hmem => h item (List.mem_of_mem_take hmem))

theorem renderWithin_abridgeWithin_of_flat (hflat : value.isStructured = false) :
    (value.abridgeWithin levels).renderWithin levels = value.renderWithin levels := by
  cases value with
  | list | record => cases hflat
  | string s => rw [abridgeWithin, renderWithin, renderWithin, renderString_abridgeString]
  | type ref => rw [abridgeWithin, renderWithin, renderWithin, TypeRef.text_withoutProducer]
  | callable c => rw [abridgeWithin, renderWithin, renderWithin]
  | field f => rw [abridgeWithin, renderWithin, renderWithin, FieldOf.nameOnly]
  | argument a => rw [abridgeWithin, renderWithin, renderWithin, Argument.nameOnly]
  | _ => rw [abridgeWithin]

/-- **The abridgement shows.** A value is shown as what is kept of it is. -/
theorem renderWithin_abridgeWithin (levels : Nat) (value : Config) :
    (value.abridgeWithin levels).renderWithin levels = value.renderWithin levels := by
  induction levels generalizing value with
  | zero =>
    cases value with
    | list | record => rw [abridgeWithin, renderWithin, renderWithin]
    | _ => exact renderWithin_abridgeWithin_of_flat rfl
  | succ levels ih =>
    cases value with
    | list items =>
      rw [abridgeWithin, renderWithin, renderWithin, renderItems_abridgeItems fun item _ => ih item]
    | record entries =>
      rw [abridgeWithin, renderWithin, renderWithin, renderItems_abridgeItems]
      rintro ⟨name, item⟩ -
      exact congrArg (name ++ ": " ++ ·) (ih item)
    | _ => exact renderWithin_abridgeWithin_of_flat rfl

theorem render_abridge (value : Config) : value.abridge.render = value.render :=
  renderWithin_abridgeWithin shownLevels value

/-! ### What is counted -/

/-- The part stands in the text of a value, shown with so many levels of collections where the value
is shown with `levels`. -/
inductive Shown (left : Nat) (part : Config) : Nat → Config → Prop
  | self : Shown left part left part
  | item {levels : Nat} {items : List Config} {value : Config}
      (hmem : value ∈ items.take shownItems) (h : Shown left part levels value) :
      Shown left part (levels + 1) (list items)
  | entry {levels : Nat} {entries : List (String × Config)} {name : String} {value : Config}
      (hmem : (name, value) ∈ entries.take shownItems) (h : Shown left part levels value) :
      Shown left part (levels + 1) (record entries)

/-- The text of a shown part stands in the text of the value. -/
theorem Shown.isInfix {left : Nat} {part : Config} (h : Shown left part levels value) :
    (part.renderWithin left).toList <:+: (value.renderWithin levels).toList := by
  induction h with
  | self => exact List.infix_rfl
  | item hmem _ ih => exact ih.trans (isInfix_item hmem)
  | entry hmem _ ih =>
    refine ih.trans (List.IsInfix.trans ?_ (isInfix_entry hmem))
    rw [String.toList_append]
    exact (List.suffix_append _ _).isInfix

/-- The end of the text of a collection with so many items: the number of those that are left out
after three dots, where some are. -/
structure TellsRest (total : Nat) (ending : String) : Prop where
  silent_iff : ending = "" ↔ total ≤ shownItems
  number_iff : ∀ rest : Nat, ending = ", ..." ++ toString rest ++ " more" ↔
    shownItems < total ∧ rest = total - shownItems

/-- **The items left out are counted.** -/
theorem exists_tellsRest (total : Nat) (texts : List String) :
    ∃ ending, TellsRest total ending ∧
      renderItems total texts = ", ".intercalate texts ++ ending := by
  -- An end that tells a number has dots before it, so it is not the silent one.
  have hnumbered (rest : Nat) : "" ≠ ", ..." ++ toString rest ++ " more" := fun h => by
    have hdots := (String.append_eq_empty_iff.mp (String.append_eq_empty_iff.mp h.symm).1).1
    exact absurd hdots (by decide)
  refine ⟨_, ⟨?_, fun rest => ?_⟩, rfl⟩
  · split_ifs with h
    · exact iff_of_false (hnumbered _).symm (Nat.not_le_of_lt h)
    · exact iff_of_true rfl (Nat.le_of_not_lt h)
  · split_ifs with h
    · rw [String.append_left_inj, String.append_right_inj, Decimal.toString_inj, eq_comm]
      exact (and_iff_right h).symm
    · exact iff_of_false (hnumbered rest) fun hrest => h hrest.1

/-- **What is left out does not show.** Values with one abridgement have one text. Each list and
each record whose items stand in the text of a value is shown by its first items, each as it is
shown by itself, and by the number of those that are left out. -/
theorem render_elides :
    (∀ v w : Config, v.abridge = w.abridge → v.render = w.render) ∧
      ∀ (value : Config) (left : Nat),
        (∀ items, Shown (left + 1) (list items) shownLevels value → ∃ ending,
          TellsRest items.length ending ∧
          ("[" ++ (", ".intercalate ((items.take shownItems).map (renderWithin left)) ++ ending) ++
            "]").toList <:+: value.render.toList) ∧
        ∀ entries, Shown (left + 1) (record entries) shownLevels value → ∃ ending,
          TellsRest entries.length ending ∧
          ("\x7b" ++ (", ".intercalate ((entries.take shownItems).map fun (name, item) =>
            name ++ ": " ++ item.renderWithin left) ++ ending) ++ "\x7d").toList <:+:
              value.render.toList := by
  refine ⟨fun v w h => ?_, fun value left => ⟨fun items hshown => ?_, fun entries hshown => ?_⟩⟩
  · rw [← render_abridge v, h, render_abridge]
  · obtain ⟨ending, htells, htext⟩ := exists_tellsRest items.length
      ((items.take shownItems).map (renderWithin left))
    refine ⟨ending, htells, ?_⟩
    rw [← htext, ← renderWithin]
    exact hshown.isInfix
  · obtain ⟨ending, htells, htext⟩ := exists_tellsRest entries.length
      ((entries.take shownItems).map fun (name, item) => name ++ ": " ++ item.renderWithin left)
    refine ⟨ending, htells, ?_⟩
    rw [← htext, ← renderWithin]
    exact hshown.isInfix

/-- A list of seven items. -/
def crowded : Config :=
  list [list [list [int 1, int 2]], callable ⟨.resolver, ⟨3⟩⟩, type (.list (.deferred ⟨4⟩)),
    record [("deep", record [("key", null)])], argument (.ofType "size" (.named "Int")),
    string "hidden", int 7]

/-- A list that differs from it in all that is not shown. -/
def crowdedOther : Config :=
  list [list [list []], callable ⟨.resolver, ⟨5⟩⟩, type (.list (.deferred ⟨6⟩)),
    record [("deep", record [("other", null), ("key", null)])],
    argument (.ofType "size" (.named "Float")), null, list [null]]

theorem render_elides_crowded :
    crowded.abridge = crowdedOther.abridge ∧ crowded.render = crowdedOther.render ∧
      crowded.render = "[[[...]], <resolver function>, [<deferred type>], " ++
        "\x7bdeep: \x7b...\x7d\x7d, <argument \"size\">, ...2 more]" ∧
      ∃ ending, TellsRest 7 ending ∧
        ("[" ++ (", ".intercalate ["[[...]]", "<resolver function>", "[<deferred type>]",
          "\x7bdeep: \x7b...\x7d\x7d", "<argument \"size\">"] ++ ending) ++ "]").toList <:+:
            crowded.render.toList := by
  obtain ⟨halike, hcounts⟩ := render_elides
  have habridged : crowded.abridge = crowdedOther.abridge := rfl
  refine ⟨habridged, halike _ _ habridged, by decide +kernel, ?_⟩
  obtain ⟨ending, htells, hshown⟩ := (hcounts crowded 1).1 _ .self
  exact ⟨ending, htells, hshown⟩

end Config

end Schemata
