import Schemata.Proofs.Behaviour
import Schemata.Proofs.DirectiveCourse

/-!
# Directives and where they apply

A directive is made from a descriptor that gives a text for its name, at least one location, and
nothing but acceptable arguments. Locations are given by a list or a record of texts, each of which
is the spelling of a location; the keys of a record mean nothing. The locations of the directive are
those that the texts spell, one for each text and in their order.

Any other descriptor is refused. Its name is looked at first, then whether there are locations, then
every single one of them, then its arguments; the first of these that is wrong decides the
violation.

Nothing is said about locations when a directive is checked later. None is needed: a directive that
comes from a descriptor has a location, every builtin one has, and so has every directive that any
course of additions puts into a set, a builder or a schema.

## Main definitions

* `Schemata.Directive.IsComplete`: the descriptors that a directive is made from.
* `Schemata.Directive.DescribedBy`: the directive that a descriptor describes.
* `Schemata.Directive.Refused`: the violation of a descriptor that describes none.
* `Schemata.Directive.Made`: builtin directives, and those that a descriptor describes.

## Main results

* `Schemata.Location.parse?_eq_some_iff`: a location is named by its spelling and nothing else.
* `Schemata.Directive.ofRecord_eq_ok_iff`, `Schemata.Directive.ofRecord_eq_error_iff`: single
  descriptors.
* `Schemata.Directive.ofRecord_exact`: what descriptors of directives come to.
-/

namespace Schemata

/-! ### Spellings -/

namespace Location

theorem mem_all (l : Location) : l ∈ all := by
  cases l <;> decide

theorem parse?_name (l : Location) : parse? l.name = some l := by
  cases l <;> rfl

/-- **A location is named by its spelling**, and by nothing else. -/
theorem parse?_eq_some_iff {s : String} {l : Location} : parse? s = some l ↔ s = l.name := by
  constructor
  · intro h
    have hname : l.name = s := by simpa using List.find?_some h
    exact hname.symm
  · rintro rfl
    exact parse?_name l

end Location

/-! ### Readings of descriptors -/

/-- The values that are collected in a list or a record. The keys of a record are left out. -/
def Config.items? : Config → Option (List Config)
  | list items => some items
  | record entries => some (Entries.items entries)
  | _ => none

/-- The value is the spelling of a location. -/
def Config.SpellsLocation (value : Config) : Prop :=
  ∃ l : Location, value = .string l.name

theorem Record.getString?_eq_some_iff {r : Record} {key s : String} :
    r.getString? key = some s ↔ Entries.get? r key = some (.string s) := by
  have hvalue : ∀ value : Config, value.asString? = some s ↔ value = .string s := by
    intro value
    cases value <;> simp [Config.asString?]
  rw [getString?, Option.bind_eq_some_iff]
  simp only [hvalue, exists_eq_right]

theorem Record.getString?_eq_none_iff {r : Record} {key : String} :
    r.getString? key = none ↔ ∀ s, Entries.get? r key ≠ some (.string s) := by
  simp only [Option.eq_none_iff_forall_ne_some, ne_eq, getString?_eq_some_iff]

theorem Record.expandOption_eq_error_iff {r : Record} {owner : ArgumentOwner}
    {violation : Violation} :
    Argument.expandOption owner (Entries.get? r Key.args) = .error violation ↔
      ∃ args, Entries.get? r Key.args = some args ∧
        (args.keyed? = none ∧ violation = .invalidArgumentsConfig owner args.render ∨
          ∃ before key entry after, args.keyed? = some (before ++ (key, entry) :: after) ∧
            (∀ e ∈ before, Argument.Acceptable e.1 e.2) ∧
              Argument.Refused owner key entry violation) := by
  cases Entries.get? r Key.args with
  | none => simp [Argument.expandOption]
  | some args =>
    simp only [Option.some.injEq, exists_eq_left']
    exact Argument.expand_eq_error_iff

namespace Directive

variable {r : Record} {d : Directive} {name : String} {violation : Violation}

/-! ### What descriptors describe -/

/-- The descriptor gives this name, and a list or a record of these values for locations. -/
structure Gives (r : Record) (name : String) (values : List Config) : Prop where
  name : Entries.get? r Key.name = some (.string name)
  locations : ∃ value, Entries.get? r Key.locations = some value ∧ value.items? = some values

/-- A directive can be made from the descriptor. -/
structure IsComplete (r : Record) : Prop where
  located : ∃ name values, Gives r name values ∧ values ≠ [] ∧ ∀ v ∈ values, v.SpellsLocation
  arguments : ∃ entries, r.argumentEntries? = some entries ∧
    ∀ e ∈ entries, Argument.Acceptable e.1 e.2

/-- The directive is the one that the descriptor describes. -/
structure DescribedBy (d : Directive) (r : Record) : Prop where
  /-- The values that are given are the spellings of the locations. -/
  gives : Gives r d.name (d.locations.map fun l => .string l.name)
  located : d.locations ≠ []
  arguments : ∃ entries, r.argumentEntries? = some entries ∧
    List.Forall₂ (fun e a => Argument.Declares e.1 e.2 a) entries d.arguments
  description : d.description = r.getString? Key.description
  isRepeatable : d.isRepeatable = true ↔ Entries.get? r Key.isRepeatable = some (.bool true)
  source : d.source = r

/-- The descriptor describes no directive, and this is the violation. -/
inductive Refused (r : Record) : Violation → Prop
  | nameless (hname : ∀ name, Entries.get? r Key.name ≠ some (.string name)) :
      Refused r (.missingDirectiveName (Config.renderOption (Entries.get? r Key.name)))
  | unlocated {name : String} (hname : Entries.get? r Key.name = some (.string name))
      (hlocations : Entries.get? r Key.locations = none) :
      Refused r (.missingDirectiveLocations name)
  | unstructured {name : String} {value : Config}
      (hname : Entries.get? r Key.name = some (.string name))
      (hlocations : Entries.get? r Key.locations = some value) (hvalue : value.items? = none) :
      Refused r (.invalidDirectiveLocations name value.render)
  | empty {name : String} (hgives : Gives r name []) : Refused r (.emptyDirectiveLocations name)
  /-- The first value that is not the spelling of a location. -/
  | unknown {name : String} {item : Config} {before after : List Config}
      (hgives : Gives r name (before ++ item :: after)) (hbefore : ∀ v ∈ before, v.SpellsLocation)
      (hitem : ¬ item.SpellsLocation) : Refused r (.unknownDirectiveLocation name item.render)
  | arguments {name : String} {values : List Config} {args : Config} (hgives : Gives r name values)
      (hsome : values ≠ []) (hspelt : ∀ v ∈ values, v.SpellsLocation)
      (hargs : Entries.get? r Key.args = some args) (hkeyed : args.keyed? = none) :
      Refused r (.invalidArgumentsConfig (.directive name) args.render)
  /-- The first entry that declares no argument. -/
  | argument {name : String} {values : List Config} {args entry : Config} {key : FieldKey}
      {before after : List (FieldKey × Config)} {violation : Violation}
      (hgives : Gives r name values) (hsome : values ≠ [])
      (hspelt : ∀ v ∈ values, v.SpellsLocation) (hargs : Entries.get? r Key.args = some args)
      (hkeyed : args.keyed? = some (before ++ (key, entry) :: after))
      (hbefore : ∀ e ∈ before, Argument.Acceptable e.1 e.2)
      (hrefused : Argument.Refused (.directive name) key entry violation) : Refused r violation

/-! ### Single steps -/

theorem nameOf_eq_ok_iff : nameOf r = .ok name ↔ Entries.get? r Key.name = some (.string name) := by
  rw [← Record.getString?_eq_some_iff, nameOf]
  cases r.getString? Key.name <;> simp

theorem nameOf_eq_error_iff : nameOf r = .error violation ↔
    (∀ name, Entries.get? r Key.name ≠ some (.string name)) ∧
      violation = .missingDirectiveName (Config.renderOption (Entries.get? r Key.name)) := by
  rw [← Record.getString?_eq_none_iff, nameOf]
  cases r.getString? Key.name <;> simp [eq_comm]

theorem locationValues_eq_ok_iff {values : List Config} :
    locationValues name r = .ok values ↔ values ≠ [] ∧
      ∃ value, Entries.get? r Key.locations = some value ∧ value.items? = some values := by
  unfold locationValues
  cases Entries.get? r Key.locations with
  | none => simp
  | some value =>
    simp only [Option.some.injEq, exists_eq_left']
    cases value with
    | list items => cases items <;> cases values <;> simp [Config.items?]
    | record entries => cases entries <;> cases values <;> simp [Config.items?, Entries.items]
    | _ => simp [Config.items?]

theorem locationValues_eq_error_iff : locationValues name r = .error violation ↔
    Entries.get? r Key.locations = none ∧ violation = .missingDirectiveLocations name ∨
      ∃ value, Entries.get? r Key.locations = some value ∧
        (value.items? = none ∧ violation = .invalidDirectiveLocations name value.render ∨
          value.items? = some [] ∧ violation = .emptyDirectiveLocations name) := by
  unfold locationValues
  cases Entries.get? r Key.locations with
  | none => simp [eq_comm (a := violation)]
  | some value =>
    simp only [Option.some.injEq, exists_eq_left', reduceCtorEq, false_and, false_or]
    cases value with
    | list items => cases items <;> simp [Config.items?, eq_comm (a := violation)]
    | record entries =>
      cases entries <;> simp [Config.items?, Entries.items, eq_comm (a := violation)]
    | _ => simp [Config.items?, eq_comm (a := violation)]

theorem locationOf_eq_ok_iff {value : Config} {l : Location} :
    locationOf name value = .ok l ↔ value = .string l.name := by
  have hparsed : value.asString?.bind Location.parse? = some l ↔ value = .string l.name := by
    rw [Option.bind_eq_some_iff]
    simp only [Location.parse?_eq_some_iff, exists_eq_right]
    cases value <;> simp [Config.asString?]
  rw [← hparsed, locationOf]
  cases value.asString?.bind Location.parse? <;> simp

theorem exists_locationOf_eq_ok_iff (name : String) {value : Config} :
    (∃ l, locationOf name value = .ok l) ↔ value.SpellsLocation :=
  exists_congr fun _ => locationOf_eq_ok_iff

theorem locationOf_eq_error_iff {value : Config} : locationOf name value = .error violation ↔
    ¬ value.SpellsLocation ∧ violation = .unknownDirectiveLocation name value.render := by
  rw [← exists_locationOf_eq_ok_iff name, locationOf]
  cases value.asString?.bind Location.parse? <;> simp [eq_comm]

/-- Locations are read of their spellings, one by one. -/
theorem mapM_locationOf_eq_ok_iff {values : List Config} {locations : List Location} :
    values.mapM (locationOf name) = .ok locations ↔
      values = locations.map fun l => .string l.name := by
  rw [Outcome.mapM_eq_ok_iff, ← List.forall₂_eq_eq_eq, List.forall₂_map_right_iff]
  simp only [locationOf_eq_ok_iff]

theorem forall_spellsLocation_iff {values : List Config} :
    (∀ v ∈ values, v.SpellsLocation) ↔
      ∃ locations : List Location, values = locations.map fun l => .string l.name := by
  constructor
  · intro h
    induction values with
    | nil => exact ⟨[], rfl⟩
    | cons v rest ih =>
      obtain ⟨⟨l, rfl⟩, hrest⟩ := List.forall_mem_cons.mp h
      obtain ⟨locations, rfl⟩ := ih hrest
      exact ⟨l :: locations, rfl⟩
  · rintro ⟨locations, rfl⟩ v hv
    obtain ⟨l, -, rfl⟩ := List.mem_map.mp hv
    exact ⟨l, rfl⟩

/-- Only the value `true` makes a directive repeatable. -/
theorem repeatable_iff {value? : Option Config} :
    (match value? with
      | some (.bool true) => true
      | _ => false) = true ↔ value? = some (.bool true) := by
  split <;> simp_all

/-! ### Descriptors -/

/-- **The directive of a descriptor.** -/
theorem ofRecord_eq_ok_iff : ofRecord r = .ok d ↔ d.DescribedBy r := by
  simp only [ofRecord, Outcome.bind_eq_ok_iff, nameOf_eq_ok_iff, locationValues_eq_ok_iff,
    mapM_locationOf_eq_ok_iff, Record.expandOption_eq_ok_iff]
  constructor
  · rintro ⟨name, hname, _, ⟨hsome, hvalue⟩, locations, rfl, arguments, hentries, hdone⟩
    obtain rfl := Except.ok.inj hdone
    exact ⟨⟨hname, hvalue⟩, mt List.map_eq_nil_iff.mpr hsome, hentries, rfl, repeatable_iff, rfl⟩
  · intro h
    refine ⟨d.name, h.gives.name, _, ⟨mt List.map_eq_nil_iff.mp h.located, h.gives.locations⟩,
      d.locations, rfl, d.arguments, h.arguments, congrArg Except.ok ?_⟩
    have hrepeatable := Bool.eq_iff_iff.mpr (repeatable_iff.trans h.isRepeatable.symm)
    cases d
    simp only [Directive.mk.injEq, true_and]
    exact ⟨h.description.symm, hrepeatable, h.source.symm⟩

/-- **The violation of a descriptor.** -/
theorem ofRecord_eq_error_iff : ofRecord r = .error violation ↔ Refused r violation := by
  simp only [ofRecord, Outcome.bind_eq_error_iff, nameOf_eq_ok_iff, nameOf_eq_error_iff,
    locationValues_eq_ok_iff, locationValues_eq_error_iff, mapM_locationOf_eq_ok_iff,
    Outcome.mapM_eq_error_iff, exists_locationOf_eq_ok_iff, locationOf_eq_error_iff,
    Record.expandOption_eq_error_iff]
  -- The disjuncts are the checks in their order; each carries what the checks before it have found.
  constructor
  · rintro (⟨hname, rfl⟩ | ⟨name, hname, (⟨hlocations, rfl⟩ | ⟨value, hlocations, hvalue⟩) |
      ⟨values, ⟨hsome, hvalue⟩, ⟨before, item, after, rfl, hbefore, hitem, rfl⟩ |
        ⟨locations, hspelt, ⟨args, hargs, hrefused⟩ | ⟨_, _, hdone⟩⟩⟩⟩)
    · exact .nameless hname
    · exact .unlocated hname hlocations
    · rcases hvalue with ⟨hvalue, rfl⟩ | ⟨hvalue, rfl⟩
      · exact .unstructured hname hlocations hvalue
      · exact .empty ⟨hname, value, hlocations, hvalue⟩
    · exact .unknown ⟨hname, hvalue⟩ hbefore hitem
    · have hspelt := forall_spellsLocation_iff.mpr ⟨locations, hspelt⟩
      rcases hrefused with ⟨hkeyed, rfl⟩ | ⟨before, key, entry, after, hkeyed, hbefore, hrefused⟩
      · exact .arguments ⟨hname, hvalue⟩ hsome hspelt hargs hkeyed
      · exact .argument ⟨hname, hvalue⟩ hsome hspelt hargs hkeyed hbefore hrefused
    · cases hdone
  · rintro (hname | ⟨hname, hlocations⟩ | ⟨hname, hlocations, hvalue⟩ | ⟨hname, value, hgives⟩ |
      ⟨⟨hname, hvalue⟩, hbefore, hitem⟩ | ⟨⟨hname, hvalue⟩, hsome, hspelt, hargs, hkeyed⟩ |
      ⟨⟨hname, hvalue⟩, hsome, hspelt, hargs, hkeyed, hbefore, hrefused⟩)
    · exact .inl ⟨hname, rfl⟩
    · exact .inr ⟨_, hname, .inl (.inl ⟨hlocations, rfl⟩)⟩
    · exact .inr ⟨_, hname, .inl (.inr ⟨_, hlocations, .inl ⟨hvalue, rfl⟩⟩)⟩
    · exact .inr ⟨_, hname, .inl (.inr ⟨value, hgives.1, .inr ⟨hgives.2, rfl⟩⟩)⟩
    · exact .inr ⟨_, hname, .inr ⟨_, ⟨by simp, hvalue⟩,
        .inl ⟨_, _, _, rfl, hbefore, hitem, rfl⟩⟩⟩
    · obtain ⟨locations, hspelt⟩ := forall_spellsLocation_iff.mp hspelt
      exact .inr ⟨_, hname, .inr ⟨_, ⟨hsome, hvalue⟩,
        .inr ⟨locations, hspelt, .inl ⟨_, hargs, .inl ⟨hkeyed, rfl⟩⟩⟩⟩⟩
    · obtain ⟨locations, hspelt⟩ := forall_spellsLocation_iff.mp hspelt
      exact .inr ⟨_, hname, .inr ⟨_, ⟨hsome, hvalue⟩, .inr ⟨locations, hspelt,
        .inl ⟨_, hargs, .inr ⟨_, _, _, _, hkeyed, hbefore, hrefused⟩⟩⟩⟩⟩

/-- **The complete descriptors** are those that a directive is made from. -/
theorem exists_ofRecord_eq_ok_iff : (∃ d, ofRecord r = .ok d) ↔ IsComplete r := by
  simp only [ofRecord_eq_ok_iff]
  constructor
  · rintro ⟨d, h⟩
    refine ⟨⟨d.name, _, h.gives, mt List.map_eq_nil_iff.mp h.located, ?_⟩, ?_⟩
    · exact forall_spellsLocation_iff.mpr ⟨d.locations, rfl⟩
    · obtain ⟨entries, hentries, harguments⟩ := h.arguments
      exact ⟨entries, hentries, Argument.forall_acceptable_iff.mpr ⟨d.arguments, harguments⟩⟩
  · rintro ⟨⟨name, values, hgives, hsome, hspelt⟩, entries, hentries, hacceptable⟩
    obtain ⟨locations, rfl⟩ := forall_spellsLocation_iff.mp hspelt
    obtain ⟨arguments, harguments⟩ := Argument.forall_acceptable_iff.mp hacceptable
    exact ⟨⟨name, _, arguments, locations, _, r⟩, hgives, mt List.map_eq_nil_iff.mpr hsome,
      ⟨entries, hentries, harguments⟩, rfl, repeatable_iff, rfl⟩

/-- It makes no difference whether the values for locations stand in a list or in a record. -/
theorem ofRecord_insert_locations (r : Record) (entries : Entries Config) :
    ofRecord (Entries.insert r Key.locations (.record entries)) =
      (ofRecord (Entries.insert r Key.locations (.list entries.items))).map fun d =>
        { d with source := Entries.insert r Key.locations (.record entries) } := by
  have hread : ∀ (value : Config) (key : String), key ≠ Key.locations →
      Entries.get? (Entries.insert r Key.locations value) key = Entries.get? r key :=
    fun value key hkey => by rw [Entries.get?_insert, if_neg hkey]
  have hname : ∀ value, nameOf (Entries.insert r Key.locations value) = nameOf r := fun value => by
    rw [nameOf, nameOf, Record.getString?, Record.getString?, hread value Key.name (by decide)]
  have hvalues : ∀ name, locationValues name (Entries.insert r Key.locations (.record entries)) =
      locationValues name (Entries.insert r Key.locations (.list entries.items)) := fun name => by
    rw [locationValues, locationValues, Entries.get?_insert, Entries.get?_insert, if_pos rfl,
      if_pos rfl]
    cases entries <;> rfl
  simp only [ofRecord, Record.getString?, hname, hvalues, hread _ Key.args (by decide),
    hread _ Key.description (by decide), hread _ Key.isRepeatable (by decide)]
  -- The two sides differ in the descriptor that the directive keeps, and that is added at the end.
  rcases nameOf r with violation | name
  · rfl
  change (locationValues name _ >>= _) = Except.map _ (locationValues name _ >>= _)
  rcases locationValues name _ with violation | values
  · rfl
  change (values.mapM (locationOf name) >>= _) = Except.map _ (values.mapM (locationOf name) >>= _)
  rcases values.mapM (locationOf name) with violation | locations
  · rfl
  change (Argument.expandOption _ _ >>= _) = Except.map _ (Argument.expandOption _ _ >>= _)
  cases Argument.expandOption (.directive name) (Entries.get? r Key.args) with
  | error violation => rfl
  | ok arguments => rfl

/-! ### Directives in runs -/

/-- The directive is builtin, or a descriptor describes it. No directive is made in another way. -/
inductive Made : Directive → Prop
  | builtin (b : BuiltinDirective) : Made b.definition
  | described {r : Record} {d : Directive} (h : ofRecord r = .ok d) : Made d

theorem Made.located (h : Made d) : d.locations ≠ [] := by
  cases h with
  | builtin b => cases b <;> exact List.cons_ne_nil _ _
  | described h => exact (ofRecord_eq_ok_iff.mp h).located

end Directive

namespace DirectiveSet

variable {W : Type}

/-- All directives of the set are made in one of the two ways. -/
def Made (d : DirectiveSet) : Prop :=
  ∀ e ∈ d.entries.items, e.definition.Made

theorem Made.insert {d : DirectiveSet} (h : d.Made) (name : String) {e : DirectiveEntry}
    (he : e.definition.Made) : Made ⟨d.entries.insert name e⟩ := by
  intro other hmem
  rcases Entries.mem_items_insert hmem with rfl | hold
  · exact he
  · exact h other hold

theorem Made.grow {d : DirectiveSet} (h : d.Made) {e : DirectiveEntry} (he : e.definition.Made) :
    (d.grow e).Made := by
  rcases d.grow_cases e with hsame | ⟨-, hgrown⟩
  · rwa [hsame]
  · rw [hgrown]
    exact h.insert e.name he

theorem Made.complete {d : DirectiveSet} (h : d.Made) : d.complete.Made :=
  (forall_complete_iff (P := (·.definition.Made)) .builtin d).mpr h

theorem Made.course (steps : List Step) (hsteps : ∀ e, .add e ∈ steps → e.definition.Made) :
    ∀ {d : DirectiveSet} (s : Store W), d.Made → (DirectiveSet.course steps d s).1.2.Made := by
  induction steps with
  | nil => exact fun _ hd => hd
  | cons step rest ih =>
    intro d s hd
    have hrest := fun e he => hsteps e (List.mem_cons_of_mem step he)
    cases step with
    | complete => exact ih hrest s hd.complete
    | add e =>
      rw [course_add_apply]
      exact ih hrest (d.attempt e s).2 (hd.grow (hsteps e List.mem_cons_self))

/-- Every directive of the set may be applied somewhere. -/
def Located (d : DirectiveSet) : Prop :=
  ∀ e ∈ d.entries.items, e.definition.locations ≠ []

theorem Made.located {d : DirectiveSet} (h : d.Made) : d.Located :=
  fun e he => (h e he).located

theorem made_empty : Made .empty :=
  fun _ h => nomatch h

end DirectiveSet

namespace Builder

variable {W : Type}

theorem made_extendAll (as : List Addition) (has : ∀ e, .directive e ∈ as → e.definition.Made)
    (s : Store W) : (extendAll as .initial s).1.directives.Made := by
  obtain ⟨-, -, hdirectives⟩ := extendAll_spec as .initial s
  rw [hdirectives]
  refine List.foldlRecOn _ DirectiveSet.grow DirectiveSet.made_empty fun d hd e he => hd.grow ?_
  obtain ⟨a, ha, hdirective⟩ := List.mem_filterMap.mp he
  cases a with
  | type t => cases hdirective
  | directive e' =>
    obtain rfl := Option.some.inj hdirective
    exact has e' ha

end Builder

/-- **Directives are made of complete descriptors**, and of no others.

* A descriptor is complete if it gives a text for its name, at least one value for locations, in a
  list or a record, each of which is the spelling of one of the 19 locations, and acceptable
  arguments or none.
* The directive has the locations that the values spell, one for each value and in their order, so
  that spelling them gives back the values; the other parts are what the descriptor gives for them.
* A descriptor that is not complete is refused for the first of these reasons: its name, no entry
  for locations, one that is neither a list nor a record, an empty one, the first value that spells
  no location, the arguments.
* It makes no difference whether the values for locations stand in a list or in a record.
* Every directive that is builtin or made has a location, and whatever is done with such directives,
  in sets, in builders and in the schemas that these build, every directive has one. -/
theorem Directive.ofRecord_exact {W : Type} (r : Record) :
    (∀ d, ofRecord r = .ok d ↔ d.DescribedBy r) ∧
      ((∃ d, ofRecord r = .ok d) ↔ IsComplete r) ∧
      (∀ violation, ofRecord r = .error violation ↔ Refused r violation) ∧
      (Location.all.length = 19 ∧ (Location.all.map Location.name).Nodup ∧
        ∀ l, l ∈ Location.all) ∧
      (∀ entries : Entries Config, ofRecord (Entries.insert r Key.locations (.record entries)) =
        (ofRecord (Entries.insert r Key.locations (.list entries.items))).map fun d =>
          { d with source := Entries.insert r Key.locations (.record entries) }) ∧
      (∀ d : Directive, d.Made → d.locations ≠ []) ∧
      (∀ (steps : List DirectiveSet.Step) (s : Store W),
        (∀ e, .add e ∈ steps → e.definition.Made) →
          (DirectiveSet.course steps .empty s).1.2.Located) ∧
      ∀ (as : List Builder.Addition) (s : Store W), (∀ e, .directive e ∈ as → e.definition.Made) →
        (Builder.extendAll as .initial s).1.directives.Located ∧
          ∀ (host : Host W) (s₁ s₂ : Store W) (schema : Schema),
            ((Builder.extendAll as .initial s).1.build host).run s₁ = (.ok schema, s₂) →
              schema.directives.Located := by
  refine ⟨fun d => ofRecord_eq_ok_iff, exists_ofRecord_eq_ok_iff, fun v => ofRecord_eq_error_iff,
    ⟨rfl, by decide, Location.mem_all⟩, ofRecord_insert_locations r, fun d => Made.located,
    fun steps s hsteps => ?_, fun as s has => ?_⟩
  · exact (DirectiveSet.made_empty.course steps hsteps s).located
  · have hmade := Builder.made_extendAll as has s
    refine ⟨hmade.located, fun host s₁ s₂ schema hbuilt => ?_⟩
    obtain ⟨-, rfl, -⟩ := Builder.eq_of_build hbuilt
    exact hmade.complete.located

/-- The descriptor of a directive with two locations. -/
def Directive.authRecord : Record :=
  [(Key.name, .string "auth"), (Key.locations, .list [.string "OBJECT", .string "FIELD"])]

/-- The directive that it describes. -/
def Directive.auth : Directive where
  name := "auth"
  description := none
  arguments := []
  locations := [.object, .field]
  isRepeatable := false
  source := authRecord

/-- The answers of a host that has nothing to declare. -/
def Directive.authOracle : Oracle where
  typeOf _ := .named "Int"
  fieldOf _ := .null
  fieldSetOf _ := .null

theorem Directive.ofRecord_auth :
    auth.DescribedBy authRecord ∧ ∃ (schema : Schema) (s : Store Unit),
      (((Builder.extendAll [.directive (.declared auth)] .initial (.start ())).1.build
        authOracle.host).run (.start ())) = (.ok schema, s) ∧
      schema.directives.names = ["auth", "include", "skip", "deprecated"] ∧
      schema.directives.Located := by
  have hdescribed : ofRecord authRecord = .ok auth := rfl
  have hmade : ∀ e, Builder.Addition.directive e ∈ [.directive (.declared auth)] →
      e.definition.Made := by
    rintro e he
    cases List.mem_singleton.mp he
    exact .described hdescribed
  obtain ⟨hexact, -, -, -, -, -, -, hruns⟩ := ofRecord_exact (W := Unit) authRecord
  refine ⟨(hexact auth).mp hdescribed, _, _, rfl, rfl, ?_⟩
  exact (hruns [.directive (.declared auth)] (.start ()) hmade).2 authOracle.host _ _ _ rfl

/-- An unknown location is reported before arguments that are neither a list nor a record. -/
example : Directive.ofRecord [(Key.name, .string "auth"), (Key.args, .null),
    (Key.locations, .record [("0", .string "FIELD"), ("1", .string "field")])] =
      .error (.unknownDirectiveLocation "auth" "\"field\"") := rfl

end Schemata
