import Schemata.Field.Declaration
import Schemata.Proofs.Effects
import Schemata.Proofs.PlainData

/-!
# Arguments, entry by entry

The arguments of an owner are declared by the entries of a record, each under its name, or by the
items of a list, each at its position. A ready argument declares itself. A descriptor declares an
argument of its own name, or else of the name that it stands under, so that in a list it must bring
one; a default value that it gives must be plain data. Under a name a type may stand alone.

The arguments come in the order of the entries, one for each of them. If some entries declare none,
the first of these decides the violation, whatever follows it.

## Main definitions

* `Schemata.Config.keyed?`: the entries of a collection, under their names or positions.
* `Schemata.Argument.Acceptable`: entries that declare an argument.
* `Schemata.Argument.Declares`: the argument that an entry declares.
* `Schemata.Argument.Refused`: the violation of an entry that declares none.

## Main results

* `Schemata.Argument.ofEntry_eq_ok_iff`, `Schemata.Argument.ofEntry_eq_error_iff`: single entries.
* `Schemata.Argument.acceptable_iff`: the acceptable entries are those that declare an argument.
* `Schemata.Argument.expand_exact`: what a configuration of arguments comes to.
-/

namespace Schemata

/-! ### Keys -/

/-- The name that a key gives. -/
def FieldKey.name? : FieldKey → Option String
  | name n => some n
  | position _ => none

/-- The entries of a collection: those of a record under their names, those of a list under their
positions. -/
def Config.keyed? : Config → Option (List (FieldKey × Config))
  | record entries => some (FieldKey.ofEntries entries)
  | list items => some (FieldKey.ofList items)
  | _ => none

theorem Config.keyed?_eq_none_iff {config : Config} :
    config.keyed? = none ↔ config.isStructured = false := by
  cases config <;> simp [keyed?, isStructured]

/-- The name of what a descriptor describes under a key: its own, or else the one that the key
gives. -/
def Record.nameUnder? (r : Record) (key : FieldKey) : Option String :=
  (r.getString? Key.name).or key.name?

namespace Argument

variable {owner : ArgumentOwner} {key : FieldKey} {entry : Config} {r : Record} {a : Argument}
  {violation : Violation}

/-! ### What entries declare -/

/-- The entry declares an argument: it is one, or describes one, or it stands under a name and is a
type. -/
inductive Acceptable : FieldKey → Config → Prop
  | ready (key : FieldKey) (a : Argument) : Acceptable key (.argument a)
  | described {key : FieldKey} {r : Record} (hname : (r.nameUnder? key).isSome)
      (hplain : ∀ value, Entries.get? r Key.defaultValue = some value → value.IsPlain) :
      Acceptable key (.record r)
  | reference (name : String) (ref : TypeRef) : Acceptable (.name name) (.type ref)
  | typeName (name : String) {type : String} (htype : type ≠ "") :
      Acceptable (.name name) (.string type)

/-- The argument is the one that the descriptor describes under the key. It has a default value if
the descriptor gives one, and this is written as the descriptor has it. -/
structure DescribedBy (key : FieldKey) (r : Record) (a : Argument) : Prop where
  name : r.nameUnder? key = some a.name
  defaultValue : Entries.get? r Key.defaultValue = a.defaultValue.map Config.ofValue
  typeRef : a.typeRef = r.getTypeRef? Key.type
  description : a.description = r.getString? Key.description
  deprecationReason : a.deprecationReason = r.getString? Key.deprecationReason

/-- The entry declares the argument. -/
inductive Declares : FieldKey → Config → Argument → Prop
  | ready (key : FieldKey) (a : Argument) : Declares key (.argument a) a
  | described {key : FieldKey} {r : Record} {a : Argument} (h : a.DescribedBy key r) :
      Declares key (.record r) a
  | reference (name : String) (ref : TypeRef) : Declares (.name name) (.type ref) (ofType name ref)
  | typeName (name : String) {type : String} (htype : type ≠ "") :
      Declares (.name name) (.string type) (ofType name (.named type))

/-- The entry declares no argument, and this is the violation. A default value that is not plain
matters only where the argument has a name. -/
inductive Refused (owner : ArgumentOwner) : FieldKey → Config → Violation → Prop
  | defaultValue {key : FieldKey} {r : Record} {name : String} {value : Config}
      (hname : r.nameUnder? key = some name)
      (hvalue : Entries.get? r Key.defaultValue = some value) (hplain : ¬ value.IsPlain) :
      Refused owner key (.record r) (.invalidArgumentDefaultValue name owner value.render)
  | declaration {key : FieldKey} {entry : Config} (hunacceptable : ¬ Acceptable key entry)
      (hnameless : ∀ r, entry = .record r → Record.nameUnder? r key = none) :
      Refused owner key entry (.invalidArgumentDeclaration key.text owner entry.render)

/-! ### Descriptors -/

theorem defaultOf_eq_ok_iff {name : String} {default? : Option Value} :
    defaultOf owner name r = .ok default? ↔
      Entries.get? r Key.defaultValue = default?.map Config.ofValue := by
  unfold defaultOf
  cases Entries.get? r Key.defaultValue with
  | none => cases default? <;> simp
  | some value =>
    have hread : ∀ v, value.toValue? = some v ↔ value = Config.ofValue v :=
      fun _ => Config.toValue?_eq_some_iff
    dsimp only
    cases default? with
    | none => cases value.toValue? <;> simp
    | some v =>
      rw [Option.map_some, Option.some.injEq, ← hread]
      cases value.toValue? <;> simp

theorem defaultOf_eq_error_iff {name : String} :
    defaultOf owner name r = .error violation ↔
      ∃ value, Entries.get? r Key.defaultValue = some value ∧ ¬ value.IsPlain ∧
        violation = .invalidArgumentDefaultValue name owner value.render := by
  unfold defaultOf
  cases Entries.get? r Key.defaultValue with
  | none => simp
  | some value =>
    simp only [Option.some.injEq, exists_eq_left', ← Config.toValue?_eq_none_iff]
    cases value.toValue? <;> simp [eq_comm]

theorem ofRecord_eq_ok_iff {name : String} (hname : r.nameUnder? key = some name)
    {defaultName : String} (hdefault : (r.getString? Key.name).getD defaultName = name) :
    ofRecord owner defaultName r = .ok a ↔ a.DescribedBy key r := by
  rw [ofRecord, hdefault, Outcome.bind_eq_ok_iff]
  constructor
  · rintro ⟨default?, hread, hdone⟩
    obtain rfl := Except.ok.inj hdone
    exact ⟨hname, defaultOf_eq_ok_iff.mp hread, rfl, rfl, rfl⟩
  · intro h
    refine ⟨a.defaultValue, defaultOf_eq_ok_iff.mpr h.defaultValue, ?_⟩
    obtain rfl := Option.some.inj (hname.symm.trans h.name)
    rw [← h.typeRef, ← h.description, ← h.deprecationReason]
    rfl

theorem ofRecord_eq_error_iff {name : String} {defaultName : String}
    (hdefault : (r.getString? Key.name).getD defaultName = name) :
    ofRecord owner defaultName r = .error violation ↔
      ∃ value, Entries.get? r Key.defaultValue = some value ∧ ¬ value.IsPlain ∧
        violation = .invalidArgumentDefaultValue name owner value.render := by
  rw [ofRecord, hdefault, Outcome.bind_eq_error_iff, defaultOf_eq_error_iff]
  exact or_iff_left fun ⟨_, _, hdone⟩ => nomatch hdone

/-! ### Entries -/

/-- The argument that an entry declares under its key. -/
def ofEntry (owner : ArgumentOwner) : FieldKey → Config → Except Violation Argument
  | .name name, entry => ofNamedEntry owner name entry
  | .position index, entry => ofListedEntry owner index entry

/-- A descriptor that has a name is read as a descriptor, wherever it stands. -/
theorem ofEntry_record_of_some {name : String} (hname : r.nameUnder? key = some name) :
    ∃ defaultName, (r.getString? Key.name).getD defaultName = name ∧
      ofEntry owner key (.record r) = ofRecord owner defaultName r := by
  cases key with
  | name keyName =>
    refine ⟨keyName, ?_, rfl⟩
    rw [Record.nameUnder?, FieldKey.name?, Option.or_some, Option.some.injEq] at hname
    exact hname
  | position index =>
    rw [Record.nameUnder?, FieldKey.name?, Option.or_none] at hname
    refine ⟨"", by rw [hname, Option.getD_some], ?_⟩
    rw [ofEntry, ofListedEntry, hname]
    rfl

theorem ofEntry_record_of_none (hname : r.nameUnder? key = none) :
    ofEntry owner key (.record r) =
      .error (.invalidArgumentDeclaration key.text owner (Config.record r).render) := by
  cases key with
  | name keyName =>
    rw [Record.nameUnder?, FieldKey.name?, Option.or_some] at hname
    cases hname
  | position index =>
    rw [Record.nameUnder?, FieldKey.name?, Option.or_none] at hname
    rw [ofEntry, ofListedEntry, hname]
    rfl

/-- **The acceptable entries** are those that declare an argument. -/
theorem acceptable_iff : Acceptable key entry ↔ ∃ a, Declares key entry a := by
  constructor
  · rintro (⟨_, a⟩ | @⟨_, r, hname, hplain⟩ | ⟨name, ref⟩ | ⟨name, htype⟩)
    · exact ⟨a, .ready key a⟩
    · obtain ⟨name, hname⟩ := Option.isSome_iff_exists.mp hname
      obtain ⟨default?, hdefault⟩ : ∃ default? : Option Value,
          Entries.get? r Key.defaultValue = default?.map Config.ofValue := by
        cases hvalue : Entries.get? r Key.defaultValue with
        | none => exact ⟨none, rfl⟩
        | some value =>
          obtain ⟨v, rfl⟩ := Config.isPlain_iff.mp (hplain value hvalue)
          exact ⟨some v, rfl⟩
      exact ⟨⟨name, _, default?, _, _⟩, .described ⟨hname, hdefault, rfl, rfl, rfl⟩⟩
    · exact ⟨_, .reference name ref⟩
    · exact ⟨_, .typeName name htype⟩
  · rintro ⟨_, ⟨_, a⟩ | ⟨hdescribed⟩ | ⟨name, ref⟩ | ⟨name, htype⟩⟩
    · exact .ready key _
    · refine .described (by rw [hdescribed.name]; rfl) fun value hvalue => ?_
      rw [hdescribed.defaultValue] at hvalue
      obtain ⟨v, -, rfl⟩ := Option.map_eq_some_iff.mp hvalue
      exact Config.isPlain_iff.mpr ⟨v, rfl⟩
    · exact .reference name ref
    · exact .typeName name htype

/-- An entry that is not acceptable is refused. -/
theorem exists_refused (owner : ArgumentOwner) (h : ¬ Acceptable key entry) :
    ∃ violation, Refused owner key entry violation := by
  by_cases hnameless : ∀ r, entry = .record r → Record.nameUnder? r key = none
  · exact ⟨_, .declaration h hnameless⟩
  · -- A descriptor with a name can be refused for nothing but its default value.
    simp only [not_forall] at hnameless
    obtain ⟨r, rfl, hname⟩ := hnameless
    obtain ⟨name, hname⟩ := Option.ne_none_iff_exists'.mp hname
    have hdefault : ¬ ∀ value, Entries.get? r Key.defaultValue = some value → value.IsPlain :=
      fun hplain => h (.described (by rw [hname]; rfl) hplain)
    simp only [not_forall] at hdefault
    obtain ⟨value, hvalue, hplain⟩ := hdefault
    exact ⟨_, .defaultValue hname hvalue hplain⟩

theorem Declares.ofEntry_eq (h : Declares key entry a) : ofEntry owner key entry = .ok a := by
  cases h with
  | ready key a => cases key <;> rfl
  | described h =>
    obtain ⟨defaultName, hdefault, heq⟩ := ofEntry_record_of_some h.name
    rw [heq]
    exact (ofRecord_eq_ok_iff h.name hdefault).mpr h
  | reference name ref => rfl
  | @typeName name type htype =>
    have hfull : type.isEmpty = false := by simpa using htype
    simp [ofEntry, ofNamedEntry, Config.asTypeRef?, hfull]

theorem Refused.ofEntry_eq (h : Refused owner key entry violation) :
    ofEntry owner key entry = .error violation := by
  cases h with
  | @defaultValue r name value hname hvalue hplain =>
    obtain ⟨defaultName, hdefault, heq⟩ := ofEntry_record_of_some hname
    rw [heq]
    exact (ofRecord_eq_error_iff hdefault).mpr ⟨value, hvalue, hplain, rfl⟩
  | declaration hunacceptable hnameless =>
    cases entry with
    | argument a => exact (hunacceptable (.ready key a)).elim
    | record r => exact ofEntry_record_of_none (hnameless r rfl)
    | type ref =>
      cases key with
      | name name => exact (hunacceptable (.reference name ref)).elim
      | position index => rfl
    | string type =>
      cases key with
      | name name =>
        obtain rfl : type = "" := by
          by_contra htype
          exact hunacceptable (.typeName name htype)
        rfl
      | position index => rfl
    | _ => cases key <;> rfl

theorem ofEntry_eq_ok_iff : ofEntry owner key entry = .ok a ↔ Declares key entry a := by
  refine ⟨fun h => ?_, Declares.ofEntry_eq⟩
  by_cases hacceptable : Acceptable key entry
  · obtain ⟨found, hfound⟩ := acceptable_iff.mp hacceptable
    obtain rfl := Except.ok.inj (hfound.ofEntry_eq.symm.trans h)
    exact hfound
  · obtain ⟨violation, hrefused⟩ := exists_refused owner hacceptable
    cases hrefused.ofEntry_eq.symm.trans h

theorem ofEntry_eq_error_iff :
    ofEntry owner key entry = .error violation ↔ Refused owner key entry violation := by
  refine ⟨fun h => ?_, Refused.ofEntry_eq⟩
  by_cases hacceptable : Acceptable key entry
  · obtain ⟨found, hfound⟩ := acceptable_iff.mp hacceptable
    cases hfound.ofEntry_eq.symm.trans h
  · obtain ⟨found, hrefused⟩ := exists_refused owner hacceptable
    obtain rfl := Except.error.inj (hrefused.ofEntry_eq.symm.trans h)
    exact hrefused

theorem exists_ofEntry_eq_ok_iff :
    (∃ a, ofEntry owner key entry = .ok a) ↔ Acceptable key entry := by
  rw [acceptable_iff]
  exact exists_congr fun _ => ofEntry_eq_ok_iff

/-! ### Configurations -/

theorem expand_of_keyed {config : Config} {entries : List (FieldKey × Config)}
    (h : config.keyed? = some entries) :
    expand owner config = entries.mapM fun e => ofEntry owner e.1 e.2 := by
  cases config with
  | record items =>
    obtain rfl := Option.some.inj h
    rw [FieldKey.ofEntries, List.mapM_map]
    rfl
  | list items =>
    obtain rfl := Option.some.inj h
    rw [FieldKey.ofList, List.mapM_map]
    rfl
  | _ => cases h

theorem expand_of_unkeyed {config : Config} (h : config.keyed? = none) :
    expand owner config = .error (.invalidArgumentsConfig owner config.render) := by
  cases config with
  | record entries => cases h
  | list items => cases h
  | _ => rfl

theorem expand_eq_ok_iff {config : Config} {arguments : List Argument} :
    expand owner config = .ok arguments ↔ ∃ entries, config.keyed? = some entries ∧
      List.Forall₂ (fun e a => Declares e.1 e.2 a) entries arguments := by
  cases hkeyed : config.keyed? with
  | none => simp [expand_of_unkeyed hkeyed]
  | some entries =>
    rw [expand_of_keyed hkeyed, Outcome.mapM_eq_ok_iff]
    simp only [Option.some.injEq, exists_eq_left', ofEntry_eq_ok_iff]

theorem expand_eq_error_iff {config : Config} :
    expand owner config = .error violation ↔
      config.keyed? = none ∧ violation = .invalidArgumentsConfig owner config.render ∨
      ∃ before key entry after, config.keyed? = some (before ++ (key, entry) :: after) ∧
        (∀ e ∈ before, Acceptable e.1 e.2) ∧ Refused owner key entry violation := by
  cases hkeyed : config.keyed? with
  | none => simp [expand_of_unkeyed hkeyed, eq_comm]
  | some entries =>
    rw [expand_of_keyed hkeyed, Outcome.mapM_eq_error_iff]
    simp only [exists_ofEntry_eq_ok_iff, ofEntry_eq_error_iff, Option.some.injEq, reduceCtorEq,
      false_and, false_or, Prod.exists]

theorem forall_acceptable_iff {entries : List (FieldKey × Config)} :
    (∀ e ∈ entries, Acceptable e.1 e.2) ↔
      ∃ arguments, List.Forall₂ (fun e a => Declares e.1 e.2 a) entries arguments := by
  induction entries with
  | nil => exact iff_of_true (List.forall_mem_nil _) ⟨[], .nil⟩
  | cons e rest ih =>
    rw [List.forall_mem_cons, ih, acceptable_iff]
    constructor
    · rintro ⟨⟨a, ha⟩, others, hothers⟩
      exact ⟨a :: others, .cons ha hothers⟩
    · rintro ⟨_, _ | ⟨ha, hothers⟩⟩
      exact ⟨⟨_, ha⟩, _, hothers⟩

theorem Refused.ne_invalidArgumentsConfig (h : Refused owner key entry violation)
    (owner' : ArgumentOwner) (rendered : String) :
    violation ≠ .invalidArgumentsConfig owner' rendered := by
  cases h <;> exact fun hsame => nomatch hsame

/-- **Arguments are read entry by entry**, for whatever owner and from whatever value.

* They are read exactly if the value is a record or a list and all its entries are acceptable.
* There is then one argument for each entry, in their order, and it is the one that the entry
  declares: a ready argument; the one that a descriptor describes, under its own name or else the
  one that it stands under, with a default value exactly if the descriptor gives one, be it `null`,
  and then with that one; or an argument of the type that stands alone.
* If they are not read, the violation is that of the first entry that is not acceptable, whatever
  follows it.
* The value itself is refused exactly if it is neither a record nor a list. -/
theorem expand_exact (owner : ArgumentOwner) (config : Config) :
    ((∃ arguments, expand owner config = .ok arguments) ↔
      ∃ entries, config.keyed? = some entries ∧ ∀ e ∈ entries, Acceptable e.1 e.2) ∧
    (∀ arguments, expand owner config = .ok arguments ↔
      ∃ entries, config.keyed? = some entries ∧
        List.Forall₂ (fun e a => Declares e.1 e.2 a) entries arguments) ∧
    (∀ violation, expand owner config = .error violation ↔
      config.isStructured = false ∧ violation = .invalidArgumentsConfig owner config.render ∨
      ∃ before key entry after, config.keyed? = some (before ++ (key, entry) :: after) ∧
        (∀ e ∈ before, Acceptable e.1 e.2) ∧ ¬ Acceptable key entry ∧
        Refused owner key entry violation) ∧
    ((∃ owner' rendered, expand owner config = .error (.invalidArgumentsConfig owner' rendered)) ↔
      config.isStructured = false) := by
  refine ⟨?_, fun arguments => expand_eq_ok_iff, fun violation => ?_, ?_⟩
  · simp only [expand_eq_ok_iff, forall_acceptable_iff]
    constructor
    · rintro ⟨arguments, entries, hkeyed, hdeclares⟩
      exact ⟨entries, hkeyed, arguments, hdeclares⟩
    · rintro ⟨entries, hkeyed, arguments, hdeclares⟩
      exact ⟨arguments, entries, hkeyed, hdeclares⟩
  · rw [expand_eq_error_iff, Config.keyed?_eq_none_iff]
    refine or_congr_right ?_
    constructor
    · rintro ⟨before, key, entry, after, hkeyed, hbefore, hrefused⟩
      refine ⟨before, key, entry, after, hkeyed, hbefore, fun hacceptable => ?_, hrefused⟩
      -- What is acceptable declares an argument, and so is not refused.
      obtain ⟨a, ha⟩ := acceptable_iff.mp hacceptable
      cases ha.ofEntry_eq.symm.trans hrefused.ofEntry_eq
    · rintro ⟨before, key, entry, after, hkeyed, hbefore, -, hrefused⟩
      exact ⟨before, key, entry, after, hkeyed, hbefore, hrefused⟩
  · constructor
    · rintro ⟨owner', rendered, hfailed⟩
      rcases expand_eq_error_iff.mp hfailed with
        ⟨hkeyed, -⟩ | ⟨before, key, entry, after, -, -, hrefused⟩
      · exact Config.keyed?_eq_none_iff.mp hkeyed
      · exact (hrefused.ne_invalidArgumentsConfig owner' rendered rfl).elim
    · intro hunstructured
      exact ⟨owner, config.render, expand_of_unkeyed (Config.keyed?_eq_none_iff.mpr hunstructured)⟩

/-- In a list a descriptor without a name is refused before its default value is looked at. -/
example : expand (.directive "d") (.list [.record [("name", .string "a")],
    .record [("defaultValue", .callable ⟨.resolver, ⟨0⟩⟩)]]) =
      .error (.invalidArgumentDeclaration "1" (.directive "d")
        "\x7bdefaultValue: <resolver function>\x7d") := by cbv

end Argument

end Schemata
