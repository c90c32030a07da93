/-!
# Named entries in insertion order

A record, a registry and a map of fields are all lists of named items whose order is the order in
which the names were first inserted. Inserting under a name that is taken keeps its position and
replaces its item.

Lists made with `insert` alone have pairwise distinct names; reading takes the first item of a
name, so on any list a reading is settled by the list up to that item.

## Main definitions

* `Schemata.Entries`: named items, and the readings `get?`, `contains`, `keys`, `items`.
* `Schemata.Entries.insert`, `Schemata.Entries.ofList`: insertion, alone and repeated.
-/

namespace Schemata

universe u v

/-- Items of type `α`, each under a name. -/
abbrev Entries (α : Type u) := List (String × α)

namespace Entries

variable {α : Type u} {β : Type v}

/-- The item under `name`. -/
def get? (entries : Entries α) (name : String) : Option α :=
  entries.lookup name

/-- Whether there is an item under `name`. -/
def contains (entries : Entries α) (name : String) : Bool :=
  (entries.get? name).isSome

/-- The names, in insertion order. -/
def keys (entries : Entries α) : List String :=
  entries.map Prod.fst

/-- The items, in insertion order. -/
def items (entries : Entries α) : List α :=
  entries.map Prod.snd

/-- Puts `item` under `name`: in place of the item that is there, or at the end. -/
def insert : Entries α → String → α → Entries α
  | [], name, item => [(name, item)]
  | (key, old) :: rest, name, item =>
    if key = name then (key, item) :: rest else (key, old) :: insert rest name item

/-- Inserts the given pairs one after the other into no entries. -/
def ofList (pairs : List (String × α)) : Entries α :=
  pairs.foldl (fun entries pair => insert entries pair.1 pair.2) []

@[simp] theorem get?_nil (name : String) : get? ([] : Entries α) name = none := rfl

theorem get?_cons (key name : String) (item : α) (rest : Entries α) :
    get? ((key, item) :: rest) name = if name = key then some item else get? rest name := by
  by_cases h : name = key
  · simp [get?, h]
  · simp [get?, List.lookup_cons, beq_false_of_ne h, h]

theorem get?_insert (entries : Entries α) (name other : String) (item : α) :
    get? (insert entries name item) other = if other = name then some item else
      get? entries other := by
  induction entries with
  | nil => simp [insert, get?_cons]
  | cons pair rest ih =>
    obtain ⟨key, old⟩ := pair
    by_cases h : key = name <;> by_cases h' : other = key <;> grind [insert, get?_cons]

theorem mem_of_get? {entries : Entries α} {name : String} {item : α}
    (h : entries.get? name = some item) : (name, item) ∈ entries := by
  induction entries with
  | nil => cases h
  | cons pair rest ih =>
    obtain ⟨key, old⟩ := pair
    rw [get?_cons] at h
    by_cases hname : name = key
    · rw [if_pos hname] at h
      obtain rfl := Option.some.inj h
      exact hname ▸ List.mem_cons_self
    · rw [if_neg hname] at h
      exact List.mem_cons_of_mem _ (ih h)

theorem mem_items_of_get? {entries : Entries α} {name : String} {item : α}
    (h : entries.get? name = some item) : item ∈ entries.items :=
  List.mem_map.mpr ⟨_, mem_of_get? h, rfl⟩

theorem mem_insert {entries : Entries α} {name : String} {item : α} {pair : String × α}
    (h : pair ∈ entries.insert name item) : pair = (name, item) ∨ pair ∈ entries := by
  induction entries with
  | nil => exact .inl (List.mem_singleton.mp h)
  | cons first rest ih =>
    obtain ⟨key, old⟩ := first
    unfold insert at h
    by_cases hname : key = name
    · rw [if_pos hname] at h
      rcases List.mem_cons.mp h with rfl | h
      · exact .inl (by rw [hname])
      · exact .inr (List.mem_cons_of_mem _ h)
    · rw [if_neg hname] at h
      rcases List.mem_cons.mp h with rfl | h
      · exact .inr List.mem_cons_self
      · exact (ih h).imp_right (List.mem_cons_of_mem _)

theorem mem_items_insert {entries : Entries α} {name : String} {item other : α}
    (h : other ∈ (entries.insert name item).items) : other = item ∨ other ∈ entries.items := by
  obtain ⟨pair, hpair, rfl⟩ := List.mem_map.mp h
  rcases mem_insert hpair with rfl | hold
  · exact .inl rfl
  · exact .inr (List.mem_map_of_mem hold)

theorem contains_insert (entries : Entries α) (name other : String) (item : α) :
    contains (insert entries name item) other = (other = name || contains entries other) := by
  by_cases h : other = name <;> simp [contains, get?_insert, h]

theorem contains_iff_mem_keys (entries : Entries α) (name : String) :
    contains entries name = true ↔ name ∈ keys entries := by
  induction entries with
  | nil => simp [contains, keys]
  | cons pair rest ih =>
    obtain ⟨key, old⟩ := pair
    by_cases h : name = key
    · simp [contains, keys, get?_cons, h]
    · simpa [contains, keys, get?_cons, h] using ih

/-- Putting an item where it is changes nothing. -/
theorem insert_of_get? {entries : Entries α} {name : String} {item : α}
    (h : entries.get? name = some item) : entries.insert name item = entries := by
  induction entries with
  | nil => cases h
  | cons pair rest ih =>
    obtain ⟨key, old⟩ := pair
    rw [get?_cons] at h
    by_cases hname : name = key
    · rw [if_pos hname] at h
      rw [insert, if_pos hname.symm, Option.some.inj h]
    · rw [if_neg hname] at h
      rw [insert, if_neg fun hsame => hname hsame.symm, ih h]

/-- The names after an insertion: a new name comes last, and a name that is taken stays. -/
theorem keys_insert (entries : Entries α) (name : String) (item : α) :
    keys (insert entries name item) =
      if contains entries name then keys entries else keys entries ++ [name] := by
  induction entries with
  | nil => simp [insert, keys, contains]
  | cons pair rest ih =>
    obtain ⟨key, old⟩ := pair
    by_cases h : key = name
    · simp [insert, keys, contains, get?_cons, h]
    · have h' : ¬ name = key := fun e => h e.symm
      by_cases hc : contains rest name = true <;>
        simp_all [insert, keys, contains, get?_cons]

/-- Where no name is repeated, an item is found under its name. -/
theorem get?_of_mem {entries : Entries α} (h : entries.keys.Nodup) {name : String} {item : α}
    (hmem : (name, item) ∈ entries) : entries.get? name = some item := by
  induction entries with
  | nil => cases hmem
  | cons pair rest ih =>
    obtain ⟨key, old⟩ := pair
    obtain ⟨hnew, hrest⟩ := List.nodup_cons.mp h
    rw [get?_cons]
    rcases List.mem_cons.mp hmem with hfirst | hlater
    · cases hfirst
      exact if_pos rfl
    · rw [if_neg, ih hrest hlater]
      intro hname
      have hlisted : name ∈ rest.map Prod.fst := List.mem_map_of_mem hlater
      exact hnew (hname ▸ hlisted)

theorem nodup_keys_insert {entries : Entries α} (h : entries.keys.Nodup) (name : String)
    (item : α) : (entries.insert name item).keys.Nodup := by
  rw [keys_insert]
  by_cases htaken : contains entries name = true
  · rwa [if_pos htaken]
  · rw [if_neg htaken]
    rw [contains_iff_mem_keys] at htaken
    refine List.nodup_append.mpr ⟨h, by simp, fun key hkey other hother hsame => ?_⟩
    obtain rfl := List.mem_singleton.mp hother
    exact htaken (hsame ▸ hkey)

/-- An insertion under a new name comes last. -/
theorem insert_of_not_contains (entries : Entries α) (name : String) (item : α)
    (h : contains entries name = false) : insert entries name item = entries ++ [(name, item)] := by
  induction entries with
  | nil => rfl
  | cons pair rest ih =>
    obtain ⟨key, old⟩ := pair
    by_cases hk : key = name
    · simp [contains, get?_cons, hk] at h
    · have hk' : ¬ name = key := fun e => hk e.symm
      have hrest : contains rest name = false := by simpa [contains, get?_cons, hk'] using h
      simp [insert, hk, ih hrest]

/-- Pairs under new and distinct names come last one after the other. -/
theorem foldl_insert_of_nodup (pairs : List (String × α)) {entries : Entries α}
    (h : (keys (entries ++ pairs)).Nodup) :
    pairs.foldl (fun entries pair => insert entries pair.1 pair.2) entries = entries ++ pairs := by
  induction pairs generalizing entries with
  | nil => exact (List.append_nil entries).symm
  | cons pair rest ih =>
    have hnew : contains entries pair.1 = false := by
      rw [← Bool.not_eq_true, contains_iff_mem_keys]
      intro htaken
      rw [keys, List.map_append] at h
      exact (List.nodup_append.mp h).2.2 _ htaken _ List.mem_cons_self rfl
    rw [List.foldl_cons, insert_of_not_contains _ _ _ hnew, ih]
    · rw [List.append_assoc, List.singleton_append]
    · rwa [List.append_assoc, List.singleton_append]

/-- Pairs under distinct names are inserted as they stand. -/
theorem ofList_of_nodup {pairs : Entries α} (h : pairs.keys.Nodup) : ofList pairs = pairs :=
  foldl_insert_of_nodup pairs h

theorem mem_items_of_mem_ofList {pairs : List (String × α)} {item : α}
    (h : item ∈ (ofList pairs).items) : item ∈ items pairs := by
  refine List.foldlRecOn (motive := fun entries : Entries α => ∀ item ∈ entries.items,
    item ∈ items pairs) pairs _ (List.forall_mem_nil _) (fun _ hold next hnext item hitem => ?_)
    item h
  rcases mem_items_insert hitem with rfl | hitem
  · exact List.mem_map_of_mem hnext
  · exact hold item hitem

theorem nodup_keys_ofList (pairs : List (String × α)) : (ofList pairs).keys.Nodup :=
  List.foldlRecOn (motive := fun entries : Entries α => entries.keys.Nodup) pairs _ List.nodup_nil
    fun _ h pair _ => nodup_keys_insert h pair.1 pair.2

end Entries

end Schemata
