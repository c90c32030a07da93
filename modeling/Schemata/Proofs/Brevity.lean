import Schemata.Config.Rendering
import Schemata.Proofs.Lengths
import Schemata.Proofs.PlainData

/-!
# How long the text of a value is

Of a value, messages show so many levels, so many items of a collection and so many characters of a
text. These limits leave out some of what a value holds: the keys of its records, its references to
types, and the names of its fields and arguments are shown in full.

Such texts are exposed. The text of a value is at least as long as each of them, and its length is
bounded by the length of the longest of them. So the texts of values of some kind are of bounded
length exactly if the exposed texts are. Over all values there is no bound.

The number of items that are left out is shown as well. Its digits are bounded because a collection
has fewer items than a machine counts.

## Main definitions

* `Schemata.Config.Storable`: no collection in the value has more items than a machine counts.
* `Schemata.Config.exposed`: the texts that are shown in full.

## Main results

* `Schemata.Config.length_renderWithin_le`, `Schemata.Config.length_le_of_exposed`: the two bounds.
* `Schemata.Config.render_length_bounds`: the two bounds of the text that messages show.
* `Schemata.Config.bounded_iff_exposed`: when the texts of values of some kind are bounded.
* `Schemata.Config.render_unbounded`: over all values they are not.
-/

namespace Schemata.Config

/-- How many items or entries a collection has. -/
def itemCount : Config → Nat
  | list items => items.length
  | record entries => entries.length
  | _ => 0

/-- No collection that stands in the value has more items than a machine counts with 64 bits. -/
def Storable (value : Config) : Prop :=
  ∀ part : Config, part.Within value → part.itemCount < 2 ^ 64

/-- The texts that are shown in full where so many levels of collections are shown. -/
def exposedWithin : Nat → Config → List String
  | levels + 1, list items => (items.take shownItems).flatMap (exposedWithin levels)
  | levels + 1, record entries =>
    (entries.take shownItems).flatMap fun (name, value) => name :: exposedWithin levels value
  | _, type ref => [ref.text]
  | _, field f => [f.name]
  | _, argument a => [a.name]
  | 0, list _ | 0, record _ => []
  | _, bool _ | _, callable _ | _, float _ | _, int _ | _, null | _, string _ => []

/-- The texts that messages show in full of a value. -/
def exposed (value : Config) : List String :=
  value.exposedWithin shownLevels

variable {levels longest : Nat} {text : String} {value : Config}

/-! ### Collections and their items -/

theorem Storable.item {items : List Config} (h : (list items).Storable) (hmem : value ∈ items) :
    value.Storable :=
  fun part hpart => h part (.item hmem hpart)

theorem Storable.entry {entries : List (String × Config)} {name : String}
    (h : (record entries).Storable) (hmem : (name, value) ∈ entries) : value.Storable :=
  fun part hpart => h part (.entry hmem hpart)

theorem Storable.record {entries : List (String × Config)} (hcount : entries.length < 2 ^ 64)
    (hentries : ∀ entry ∈ entries, entry.2.Storable) : (Config.record entries).Storable := by
  rintro part (_ | _ | ⟨hmem, hpart⟩)
  · exact hcount
  · exact hentries _ hmem part hpart

theorem storable_of_flat (hflat : value.isStructured = false) : value.Storable := by
  rintro part (_ | _ | _)
  · cases value with
    | list | record => cases hflat
    | _ => exact Nat.two_pow_pos 64
  · cases hflat
  · cases hflat

/-- Each text that is listed for a collection stands in its text. -/
theorem isInfix_renderItems {texts : List String} (total : Nat) (h : text ∈ texts) :
    text.toList <:+: (renderItems total texts).toList := by
  rw [renderItems, String.toList_append]
  exact (Text.isInfix_intercalate h).trans (List.prefix_append _ _).isInfix

/-- The text of a collection between its brackets: five items, the separators, and the number of
those left out. -/
theorem length_collection_le {α : Type} {items : List α} {shown : α → String}
    {before after : String} (haround : before.length + after.length = 2)
    (hcount : items.length < 2 ^ 64)
    (hshown : ∀ item ∈ items.take shownItems, (shown item).length ≤ longest) :
    (before ++ renderItems items.length ((items.take shownItems).map shown) ++ after).length ≤
      5 * (2 + longest) + 32 := by
  have hlist : (", ".intercalate ((items.take shownItems).map shown)).length ≤
      5 * (2 + longest) := by
    refine (Text.length_intercalate_le (List.forall_mem_map.mpr hshown)).trans ?_
    rw [List.length_map]
    exact Nat.mul_le_mul_right _ (List.length_take_le _ _)
  have hdigits : (toString (items.length - shownItems)).length ≤ 20 :=
    Decimal.length_nat_le (by decide) (by omega)
  rw [String.length_append, String.length_append, renderItems, String.length_append]
  split_ifs
  · rw [String.length_append, String.length_append]
    change _ + (_ + (5 + _ + 5)) + _ ≤ _
    omega
  · change _ + (_ + 0) + _ ≤ _
    omega

/-! ### The bound from below -/

/-- The text of an item stands in the text of its list. -/
theorem isInfix_item {items : List Config} (hmem : value ∈ items.take shownItems) :
    (value.renderWithin levels).toList <:+: ((list items).renderWithin (levels + 1)).toList := by
  rw [renderWithin]
  exact Text.isInfix_between _ _ (isInfix_renderItems _ (List.mem_map_of_mem hmem))

/-- The text of an entry, its key in full, stands in the text of its record. -/
theorem isInfix_entry {entries : List (String × Config)} {name : String}
    (hmem : (name, value) ∈ entries.take shownItems) :
    (name ++ ": " ++ value.renderWithin levels).toList <:+:
      ((record entries).renderWithin (levels + 1)).toList := by
  rw [renderWithin]
  exact Text.isInfix_between _ _ (isInfix_renderItems _ (List.mem_map.mpr ⟨_, hmem, rfl⟩))

/-- A tag shows the whole name that is quoted in it. -/
theorem length_le_length_tag (before name after : String) :
    name.length ≤ (before ++ Text.quote name ++ after).length := by
  have hname := Text.length_le_length_quote name
  rw [String.length_append, String.length_append]
  omega

theorem length_le_of_exposed_of_flat (hflat : value.isStructured = false)
    (h : text ∈ value.exposedWithin levels) : text.length ≤ (value.renderWithin levels).length := by
  cases value with
  | list | record => cases hflat
  | type ref =>
    rw [exposedWithin, List.mem_singleton] at h
    rw [h, renderWithin]
  | field f =>
    rw [exposedWithin, List.mem_singleton] at h
    rw [h, renderWithin]
    exact length_le_length_tag _ f.name _
  | argument a =>
    rw [exposedWithin, List.mem_singleton] at h
    rw [h, renderWithin]
    exact length_le_length_tag _ a.name _
  | _ =>
    rw [exposedWithin] at h
    exact absurd h List.not_mem_nil

/-- **The bound from below.** What is exposed is not cut. -/
theorem length_le_of_exposed (h : text ∈ value.exposedWithin levels) :
    text.length ≤ (value.renderWithin levels).length := by
  -- The items of a collection are other values, shown with one level less.
  induction levels generalizing value with
  | zero =>
    cases value with
    | list | record =>
      rw [exposedWithin] at h
      exact absurd h List.not_mem_nil
    | _ => exact length_le_of_exposed_of_flat rfl h
  | succ levels ih =>
    cases value with
    | list items =>
      rw [exposedWithin, List.mem_flatMap] at h
      obtain ⟨item, hmem, htext⟩ := h
      exact (ih htext).trans (isInfix_item hmem).length_le
    | record entries =>
      rw [exposedWithin, List.mem_flatMap] at h
      obtain ⟨⟨name, item⟩, hmem, htext⟩ := h
      have hentry : (name ++ ": " ++ item.renderWithin levels).toList.length ≤ _ :=
        (isInfix_entry hmem).length_le
      rw [String.length_toList, String.length_append, String.length_append] at hentry
      rcases List.mem_cons.mp htext with rfl | htext
      · exact le_trans (by omega) hentry
      · exact (ih htext).trans (le_trans (Nat.le_add_left _ _) hentry)
    | _ => exact length_le_of_exposed_of_flat rfl h

/-! ### The bound from above -/

/-- How long the text of a value can be where so many levels of collections are shown and no text
longer than `longest` is exposed: at the bottom a cut text, or a tag with a name of ten characters
for each; above it five items with their keys. -/
def lengthBound (longest : Nat) : Nat → Nat
  | 0 => 1005 + 10 * longest
  | levels + 1 => 5 * (2 + (longest + 2 + lengthBound longest levels)) + 32

theorem le_lengthBound (longest levels : Nat) :
    1005 + 10 * longest ≤ lengthBound longest levels := by
  induction levels with
  | zero => exact Nat.le_refl _
  | succ levels ih =>
    rw [lengthBound]
    omega

theorem length_renderString_le (s : String) : (renderString s).length ≤ 1005 := by
  unfold renderString
  dsimp only
  split_ifs with hempty hlong
  · exact Nat.le_of_ble_eq_true rfl
  · have hquote := Text.length_quote_le (String.ofList (s.toList.take shownCharacters))
    have hcut : (s.toList.take shownCharacters).length ≤ 100 := List.length_take_le _ _
    rw [String.length_ofList] at hquote
    rw [String.length_append]
    change _ + 3 ≤ _
    omega
  · have hquote := Text.length_quote_le s
    have hshort : s.toList.length ≤ 100 := Nat.le_of_not_lt hlong
    rw [String.length_toList] at hshort
    omega

theorem length_tag_le {before name after : String} (haround : before.length + after.length ≤ 1003)
    (hname : name.length ≤ longest) :
    (before ++ Text.quote name ++ after).length ≤ 1005 + 10 * longest := by
  have hquote := Text.length_quote_le name
  rw [String.length_append, String.length_append]
  omega

theorem length_renderWithin_le_of_flat (hflat : value.isStructured = false)
    (hexposed : ∀ text ∈ value.exposedWithin levels, text.length ≤ longest) :
    (value.renderWithin levels).length ≤ 1005 + 10 * longest := by
  cases value with
  | list | record => cases hflat
  | null =>
    rw [renderWithin]
    exact le_trans (by decide) (Nat.le_add_right 1005 _)
  | bool b =>
    rw [renderWithin]
    exact le_trans (by cases b <;> decide) (Nat.le_add_right 1005 _)
  | int n =>
    rw [renderWithin]
    exact (Decimal.length_int64_le n).trans (by omega)
  | float x =>
    rw [renderWithin]
    exact (Decimal.length_floatText_le x).trans (by omega)
  | string s =>
    rw [renderWithin]
    exact (length_renderString_le s).trans (Nat.le_add_right _ _)
  | callable c =>
    rw [renderWithin]
    exact le_trans (by cases c.kind <;> decide) (Nat.le_add_right 1005 _)
  | type ref =>
    rw [exposedWithin, List.forall_mem_singleton] at hexposed
    rw [renderWithin]
    omega
  | field f =>
    rw [exposedWithin, List.forall_mem_singleton] at hexposed
    rw [renderWithin]
    exact length_tag_le (by decide) hexposed
  | argument a =>
    rw [exposedWithin, List.forall_mem_singleton] at hexposed
    rw [renderWithin]
    exact length_tag_le (by decide) hexposed

/-- **The bound from above.** Only what is exposed makes the text of a value long. -/
theorem length_renderWithin_le (hstorable : value.Storable)
    (hexposed : ∀ text ∈ value.exposedWithin levels, text.length ≤ longest) :
    (value.renderWithin levels).length ≤ lengthBound longest levels := by
  induction levels generalizing value with
  | zero =>
    cases value with
    | list | record =>
      rw [renderWithin]
      exact le_trans (by decide) (Nat.le_add_right 1005 _)
    | _ => exact length_renderWithin_le_of_flat rfl hexposed
  | succ levels ih =>
    cases value with
    | list items =>
      rw [exposedWithin, List.forall_mem_flatMap] at hexposed
      rw [renderWithin]
      refine length_collection_le rfl (hstorable _ .self) fun item hmem => ?_
      have hitem := ih (hstorable.item (List.mem_of_mem_take hmem)) (hexposed item hmem)
      omega
    | record entries =>
      rw [exposedWithin, List.forall_mem_flatMap] at hexposed
      rw [renderWithin]
      refine length_collection_le rfl (hstorable _ .self) fun (name, item) hmem => ?_
      obtain ⟨hname, hrest⟩ := List.forall_mem_cons.mp (hexposed (name, item) hmem)
      have hitem := ih (hstorable.entry (List.mem_of_mem_take hmem)) hrest
      rw [String.length_append, String.length_append]
      change name.length + 2 + _ ≤ _
      omega
    | _ => exact (length_renderWithin_le_of_flat rfl hexposed).trans (le_lengthBound _ _)

/-! ### What messages show -/

theorem length_render_le (hstorable : value.Storable)
    (hexposed : ∀ text ∈ value.exposed, text.length ≤ longest) :
    value.render.length ≤ 25437 + 280 * longest := by
  have hbound : lengthBound longest shownLevels = 25437 + 280 * longest := by
    simp only [shownLevels, lengthBound]
    omega
  exact (length_renderWithin_le hstorable hexposed).trans_eq hbound

/-- **The length of a shown value.** It is bounded by what is exposed in the value, from below and,
if the value fits in a machine, from above. -/
theorem render_length_bounds (value : Config) :
    (∀ text ∈ value.exposed, text.length ≤ value.render.length) ∧
      ∀ longest, value.Storable → (∀ text ∈ value.exposed, text.length ≤ longest) →
        value.render.length ≤ 25437 + 280 * longest :=
  ⟨fun _ => length_le_of_exposed, fun _ => length_render_le⟩

/-- A record whose keys and whose one reference are short. -/
def friends : Config :=
  record [("name", string "Ann"), ("friends", type (.list (.named "Person")))]

theorem render_length_bounds_friends :
    friends.render = "\x7bname: \"Ann\", friends: [Person]\x7d" ∧
      friends.exposed = ["name", "friends", "[Person]"] ∧ 8 ≤ friends.render.length ∧
      friends.render.length ≤ 25437 + 280 * 8 := by
  have hexposed : friends.exposed = ["name", "friends", "[Person]"] := rfl
  obtain ⟨hlow, hhigh⟩ := render_length_bounds friends
  refine ⟨by decide +kernel, hexposed, hlow "[Person]" (by simp [hexposed]), hhigh 8 ?_ ?_⟩
  · refine .record (by decide) fun entry hmem => ?_
    rcases hmem with - | ⟨-, - | ⟨-, hmem⟩⟩
    · exact storable_of_flat rfl
    · exact storable_of_flat rfl
    · cases hmem
  · rw [hexposed]
    decide

/-- **When shown values are bounded.** The texts of values of some kind are of bounded length
exactly if the texts that are exposed in them are. -/
theorem bounded_iff_exposed {kind : Config → Prop} (hkind : ∀ value, kind value → value.Storable) :
    (∃ bound, ∀ value, kind value → value.render.length ≤ bound) ↔
      ∃ longest, ∀ value, kind value → ∀ text ∈ value.exposed, text.length ≤ longest := by
  constructor
  · rintro ⟨bound, hbound⟩
    exact ⟨bound, fun value hvalue text htext =>
      (length_le_of_exposed htext).trans (hbound value hvalue)⟩
  · rintro ⟨longest, hlongest⟩
    exact ⟨_, fun value hvalue => length_render_le (hkind value hvalue) (hlongest value hvalue)⟩

/-- No bound holds for all values: the key of a record may be longer. -/
theorem render_unbounded :
    ¬ ∃ bound, ∀ value : Config, value.Storable → value.render.length ≤ bound := by
  rintro ⟨bound, hbound⟩
  -- Keys are not cut, so a key that is longer than the bound is shown as a whole.
  let key := String.ofList (List.replicate (bound + 1) 'k')
  have hstorable : (record [(key, null)]).Storable := by
    refine .record (Nat.one_lt_two_pow (by decide)) fun entry hmem => ?_
    obtain rfl := List.mem_singleton.mp hmem
    exact storable_of_flat rfl
  have hexposed : key ∈ (record [(key, null)]).exposed := List.mem_cons_self
  have hshown : key.length ≤ (record [(key, null)]).render.length := length_le_of_exposed hexposed
  have hlength : key.length = bound + 1 := by
    rw [String.length_ofList, List.length_replicate]
  have := hbound _ hstorable
  omega

end Schemata.Config
