import Schemata.Proofs.Expansion
import Schemata.Proofs.Faults

/-!
# What fields keep of their descriptors

A descriptor is read twice. When the field is made, entries that are not of the kind that they have
to be count as absent, and only a field with both ways of being resolved is refused. The check of
the field later reads the record again, and refuses what the making has passed over. A field that
has been made and has passed its check therefore has all the behaviour that its descriptor gives:
none of its functions has been dropped, and none of its arguments.

## Main definitions

* `Schemata.FieldSpecOf.callable?`: the function that a field has for a role.
* `Schemata.Record.argumentEntries?`: the entries that declare the arguments of a descriptor.
* `Schemata.FieldSpecOf.Keeps`: a field has the behaviour that a descriptor gives.

## Main results

* `Schemata.FieldSpec.ofRecord_eq_ok_iff`: the fields that are made.
* `Schemata.FieldSpec.ofRecord_eq_conflict_iff`: the fields that are refused for their resolution.
* `Schemata.Field.keeps_of_check`: the fields that are made and pass their check.
-/

namespace Schemata

/-! ### Readings of records -/

namespace Record

variable {r : Record} {key : String}

theorem getCallable?_eq_some_iff {kind : CallableKind} {handle : Handle} :
    r.getCallable? key kind = some handle ↔
      Entries.get? r key = some (.callable ⟨kind, handle⟩) := by
  have hvalue : ∀ value : Config, value.asCallableOf? kind = some handle ↔
      value = .callable ⟨kind, handle⟩ := by
    intro value
    cases value with
    | callable c =>
      obtain ⟨kind', handle'⟩ := c
      simp [Config.asCallableOf?]
    | _ => simp [Config.asCallableOf?]
  rw [getCallable?, Option.bind_eq_some_iff]
  simp only [hvalue, exists_eq_right]

theorem getTypeRef?_eq_some_iff {ref : TypeRef} :
    r.getTypeRef? key = some ref ↔ Entries.get? r key = some (.type ref) ∨
      ∃ name, name ≠ "" ∧ Entries.get? r key = some (.string name) ∧ ref = .named name := by
  have hvalue : ∀ value : Config, value.asTypeRef? = some ref ↔ value = .type ref ∨
      ∃ name, name ≠ "" ∧ value = .string name ∧ ref = .named name := by
    intro value
    cases value with
    | string name =>
      by_cases hname : name = ""
      · simp [Config.asTypeRef?, hname]
      · simp [Config.asTypeRef?, hname, eq_comm (a := ref)]
    | _ => simp [Config.asTypeRef?]
  rw [getTypeRef?, Option.bind_eq_some_iff]
  simp only [hvalue]
  constructor
  · rintro ⟨_, hentry, rfl | ⟨name, hname, rfl, rfl⟩⟩
    · exact .inl hentry
    · exact .inr ⟨name, hname, hentry, rfl⟩
  · rintro (hentry | ⟨name, hname, hentry, rfl⟩)
    · exact ⟨_, hentry, .inl rfl⟩
    · exact ⟨_, hentry, .inr ⟨name, hname, rfl, rfl⟩⟩

/-- The entries that declare the arguments of a descriptor, under their names or positions. There
are none if the descriptor does not mention arguments. -/
def argumentEntries? (r : Record) : Option (List (FieldKey × Config)) :=
  match Entries.get? r Key.args with
  | none => some []
  | some config => config.keyed?

theorem expandOption_eq_ok_iff {owner : ArgumentOwner} {arguments : List Argument} :
    Argument.expandOption owner (Entries.get? r Key.args) = .ok arguments ↔
      ∃ entries, r.argumentEntries? = some entries ∧
        List.Forall₂ (fun e a => Argument.Declares e.1 e.2 a) entries arguments := by
  unfold argumentEntries?
  cases Entries.get? r Key.args with
  | none => simp [Argument.expandOption, eq_comm]
  | some config => exact Argument.expand_eq_ok_iff

end Record

/-- Reading arguments is never refused for how a field is resolved. -/
theorem Argument.expandOption_ne_conflict {owner : ArgumentOwner} {config? : Option Config}
    {typeName fieldName : String} :
    expandOption owner config? ≠ .error (.conflictingFieldResolution typeName fieldName) := by
  cases config? with
  | none => exact fun h => nomatch h
  | some config =>
    intro hfailed
    rcases expand_eq_error_iff.mp hfailed with ⟨-, hviolation⟩ | ⟨_, _, _, _, -, -, hrefused⟩
    · cases hviolation
    · cases hrefused

/-! ### Fields that are made -/

namespace FieldSpecOf

/-- The function that the field has for a role. -/
def callable? {C : Type} (f : FieldSpecOf C) : CallableRole → Option Handle
  | .resolver => f.resolver?
  | .mapper => f.mapper?
  | .estimator => f.estimator

/-- No field is resolved both parent by parent and for all parents at once. -/
theorem resolver?_or_mapper?_eq_none {C : Type} (f : FieldSpecOf C) :
    f.resolver? = none ∨ f.mapper? = none := by
  unfold resolver? mapper?
  cases f.resolution with
  | standard => exact .inl rfl
  | batched mapper => exact .inl rfl
  | perItem resolver => exact .inr rfl

/-- If names are distinct, every argument is found under its own. -/
theorem argument?_of_mem {C : Type} {f : FieldSpecOf C}
    (hdistinct : (f.arguments.map Argument.name).Nodup) {a : Argument} (ha : a ∈ f.arguments) :
    f.argument? a.name = some a := by
  have hfound : (f.argument? a.name).isSome :=
    List.find?_isSome.mpr ⟨a, ha, beq_self_eq_true a.name⟩
  obtain ⟨b, hb⟩ := Option.isSome_iff_exists.mp hfound
  have hname : b.name = a.name := by simpa using List.find?_some hb
  have hsame : b = a :=
    List.inj_on_of_nodup_map hdistinct (List.mem_of_find?_eq_some hb) ha hname
  rwa [hsame] at hb

/-- The content is what the descriptor gives for a field of the type named `parent`. For each role
it has what is there for it, if this is a function of the right kind. -/
structure DescribedBy (f : FieldSpec) (parent : String) (r : Record) : Prop where
  name : f.name = (r.getString? Key.name).getD ""
  arguments : Argument.expandOption (.field parent f.name) (Entries.get? r Key.args) =
    .ok f.arguments
  callables : ∀ role : CallableRole, f.callable? role = r.getCallable? role.key role.kind
  typeRef : f.typeRef = r.getTypeRef? Key.type
  description : f.description = r.getString? Key.description
  deprecationReason : f.deprecationReason = r.getString? Key.deprecationReason
  source : f.source = r

/-- The field has the behaviour that the descriptor gives. -/
structure Keeps (f : FieldSpec) (r : Record) : Prop where
  source : f.source = r
  /-- There is an entry for each function of the field, which is that very function, and no other
  entry for a function. -/
  callables : ∀ role : CallableRole,
    Entries.get? r role.key = (f.callable? role).map fun handle => .callable ⟨role.kind, handle⟩
  notBoth : ¬ (Entries.contains r Key.resolve = true ∧ Entries.contains r Key.map = true)
  notFlagged : Entries.contains r Key.isDeprecated = false
  type : ∃ ref, f.typeRef = some ref ∧ (Entries.get? r Key.type = some (.type ref) ∨
    ∃ name, name ≠ "" ∧ Entries.get? r Key.type = some (.string name) ∧ ref = .named name)
  arguments : ∃ entries, r.argumentEntries? = some entries ∧
    List.Forall₂ (fun e a => Argument.Declares e.1 e.2 a) entries f.arguments
  found : ∀ a ∈ f.arguments, f.argument? a.name = some a

end FieldSpecOf

namespace FieldSpec

variable {parent name : String} {r : Record} {f : FieldSpec}

theorem resolutionOf_eq_ok_iff :
    resolutionOf parent name r = .ok f.resolution ↔
      f.resolver? = r.getCallable? Key.resolve .resolver ∧
        f.mapper? = r.getCallable? Key.map .mapper := by
  unfold resolutionOf FieldSpecOf.resolver? FieldSpecOf.mapper?
  cases r.getCallable? Key.resolve .resolver <;> cases r.getCallable? Key.map .mapper <;>
    cases f.resolution <;> simp [eq_comm]

theorem resolutionOf_eq_error_iff {violation : Violation} :
    resolutionOf parent name r = .error violation ↔
      violation = .conflictingFieldResolution parent name ∧
      (∃ handle, Entries.get? r Key.resolve = some (.callable ⟨.resolver, handle⟩)) ∧
      ∃ handle, Entries.get? r Key.map = some (.callable ⟨.mapper, handle⟩) := by
  simp only [← Record.getCallable?_eq_some_iff]
  unfold resolutionOf
  cases r.getCallable? Key.resolve .resolver <;> cases r.getCallable? Key.map .mapper <;>
    simp [eq_comm]

theorem ofRecord_eq_ok_iff : ofRecord parent r = .ok f ↔ f.DescribedBy parent r := by
  simp only [ofRecord, Outcome.bind_eq_ok_iff]
  constructor
  · rintro ⟨arguments, harguments, resolution, hresolution, hdone⟩
    have hspec := Except.ok.inj hdone
    have hread : resolutionOf parent ((r.getString? Key.name).getD "") r = .ok f.resolution := by
      rwa [← hspec]
    obtain ⟨hresolver, hmapper⟩ := resolutionOf_eq_ok_iff.mp hread
    subst hspec
    refine ⟨rfl, harguments, fun role => ?_, rfl, rfl, rfl, rfl⟩
    cases role with
    | resolver => exact hresolver
    | mapper => exact hmapper
    | estimator => rfl
  · intro h
    refine ⟨f.arguments, h.name ▸ h.arguments, f.resolution,
      resolutionOf_eq_ok_iff.mpr ⟨h.callables .resolver, h.callables .mapper⟩, ?_⟩
    have hestimator : f.estimator = r.getCallable? Key.complexity .estimator :=
      h.callables .estimator
    have hsource : f.source = r := h.source
    rw [← h.name, ← h.typeRef, ← hestimator, ← h.description, ← h.deprecationReason, ← hsource]
    rfl

/-- A field is refused for its resolution if its arguments can be read and both ways of being
resolved are there, each with a function of its own kind. -/
theorem ofRecord_eq_conflict_iff {typeName fieldName : String} :
    ofRecord parent r = .error (.conflictingFieldResolution typeName fieldName) ↔
      typeName = parent ∧ fieldName = (r.getString? Key.name).getD "" ∧
      (∃ arguments, Argument.expandOption (.field parent fieldName) (Entries.get? r Key.args) =
        .ok arguments) ∧
      (∃ handle, Entries.get? r Key.resolve = some (.callable ⟨.resolver, handle⟩)) ∧
      ∃ handle, Entries.get? r Key.map = some (.callable ⟨.mapper, handle⟩) := by
  simp only [ofRecord, Outcome.bind_eq_error_iff]
  constructor
  · rintro (hfailed | ⟨arguments, harguments, hfailed | ⟨_, _, hdone⟩⟩)
    · exact (Argument.expandOption_ne_conflict hfailed).elim
    · obtain ⟨hviolation, hresolver, hmapper⟩ := resolutionOf_eq_error_iff.mp hfailed
      cases hviolation
      exact ⟨rfl, rfl, ⟨arguments, harguments⟩, hresolver, hmapper⟩
    · cases hdone
  · rintro ⟨rfl, rfl, ⟨arguments, harguments⟩, hresolver, hmapper⟩
    exact .inr ⟨arguments, harguments,
      .inl (resolutionOf_eq_error_iff.mpr ⟨rfl, hresolver, hmapper⟩)⟩

end FieldSpec

/-! ### Fields that pass their check -/

namespace Field

variable {W : Type} {host : Host W} {types : TypeLookup} {s : Store W} {f : Field} {r : Record}
  {parent typeName : String}

/-- If the entry for a role fits, all of it is read as the function of the role. -/
theorem Fits.get?_eq {role : CallableRole} (h : f.Fits role) :
    Entries.get? f.source role.key =
      (Record.getCallable? f.source role.key role.kind).map fun handle =>
        .callable ⟨role.kind, handle⟩ := by
  cases hentry : Entries.get? f.source role.key with
  | none => rw [Record.getCallable?, hentry]; rfl
  | some value =>
    obtain ⟨handle, rfl⟩ := h value hentry
    rw [Record.getCallable?_eq_some_iff.mpr hentry]
    rfl

/-- Before its arguments are checked, a field must have a reference to its type. -/
theorem HeadValid.exists_typeRef (h : f.HeadValid ((f.resolveType host types).run s).1) :
    ∃ ref, f.typeRef = some ref := by
  obtain ⟨type, htype, -⟩ := h.type
  cases href : f.typeRef with
  | some ref => exact ⟨ref, rfl⟩
  | none =>
    rw [resolveType, href] at htype
    cases htype

/-- What a passed check settles. -/
theorem valid_of_check (h : ((f.check host types typeName).run s).1 = .ok ()) :
    f.HeadValid ((f.resolveType host types).run s).1 ∧ (f.arguments.map Argument.name).Nodup := by
  rcases headValid_or_headFaulty typeName f ((f.resolveType host types).run s).1 with
    hvalid | ⟨violation, hfaulty⟩
  · rw [run_check_of_headValid hvalid] at h
    exact ⟨hvalid, (Argument.forall_clearAt_iff.mp (Argument.run_checkAll_eq_ok_iff.mp h)).1⟩
  · cases (run_check_of_headFaulty hfaulty).symm.trans h

/-- **No behaviour is dropped.** Take any descriptor of a field.

* If the field that it describes passes its check, as a field of whatever type and against whatever
  types, then the field has the behaviour that the descriptor gives. For each of the resolver, the
  mapper and the estimator there is an entry exactly if the field has such a function, which is then
  that very function. There are no entries for both a resolver and a mapper, and none for the
  flag that fields once had. The type is a reference or the name of a type. There is one argument
  for each entry that declares arguments, in their order and as the entry declares it, and each is
  found under its name.
* Making the field is refused for its resolution exactly if its arguments can be read and there
  are entries for both a resolver and a mapper, with functions of these kinds. -/
theorem keeps_of_check (host : Host W) (types : TypeLookup) (parent : String) (r : Record) :
    (∀ (f : Field) (typeName : String) (s : Store W),
      FieldSpec.ofRecord parent r = .ok f.toFieldSpecOf →
      ((f.check host types typeName).run s).1 = .ok () → f.toFieldSpecOf.Keeps r) ∧
    ∀ typeName fieldName : String,
      FieldSpec.ofRecord parent r = .error (.conflictingFieldResolution typeName fieldName) ↔
        typeName = parent ∧ fieldName = (r.getString? Key.name).getD "" ∧
        (∃ arguments, Argument.expandOption (.field parent fieldName) (Entries.get? r Key.args) =
          .ok arguments) ∧
        (∃ handle, Entries.get? r Key.resolve = some (.callable ⟨.resolver, handle⟩)) ∧
        ∃ handle, Entries.get? r Key.map = some (.callable ⟨.mapper, handle⟩) := by
  refine ⟨fun f typeName s hmade hpassed => ?_, fun _ _ => FieldSpec.ofRecord_eq_conflict_iff⟩
  have hdescribed := FieldSpec.ofRecord_eq_ok_iff.mp hmade
  obtain rfl : f.source = r := hdescribed.source
  obtain ⟨hhead, hdistinct⟩ := valid_of_check hpassed
  have hcallables : ∀ role : CallableRole, Entries.get? f.source role.key =
      (f.callable? role).map fun handle => .callable ⟨role.kind, handle⟩ := fun role => by
    rw [hdescribed.callables role]
    exact (hhead.callables role).get?_eq
  have habsent : ∀ role : CallableRole, f.callable? role = none →
      Entries.contains f.source role.key = false := fun role hnone => by
    rw [Entries.contains, hcallables role, hnone]
    rfl
  exact {
    source := rfl
    callables := hcallables
    notBoth := by
      rintro ⟨hresolve, hmap⟩
      rcases f.resolver?_or_mapper?_eq_none with hnone | hnone
      · cases (habsent .resolver hnone).symm.trans hresolve
      · cases (habsent .mapper hnone).symm.trans hmap
    notFlagged := hhead.notFlagged
    type := by
      obtain ⟨ref, href⟩ := hhead.exists_typeRef
      exact ⟨ref, href, Record.getTypeRef?_eq_some_iff.mp (hdescribed.typeRef.symm.trans href)⟩
    arguments := Record.expandOption_eq_ok_iff.mp hdescribed.arguments
    found := fun a ha => FieldSpecOf.argument?_of_mem hdistinct ha }

/-- A descriptor with a resolver, an estimator and an argument. -/
def ageRecord : Record :=
  [(Key.name, .string "age"), (Key.type, .string "Int"),
    (Key.resolve, .callable ⟨.resolver, ⟨0⟩⟩), (Key.complexity, .callable ⟨.estimator, ⟨1⟩⟩),
    (Key.args, .record [("unit", .string "String")])]

/-- The field that it describes. -/
def age : Field where
  name := "age"
  arguments := [.ofType "unit" (.named "String")]
  typeRef := some (.named "Int")
  resolution := .perItem ⟨0⟩
  estimator := some ⟨1⟩
  description := none
  deprecationReason := none
  source := ageRecord
  id := 0

/-- The answers of a host that has nothing to declare. -/
def ageOracle : Oracle where
  typeOf _ := .named "Int"
  fieldOf _ := .null
  fieldSetOf _ := .null

theorem keeps_age :
    FieldSpec.ofRecord "Person" ageRecord = .ok age.toFieldSpecOf ∧
      ((age.check ageOracle.host Registry.initial.lookup "Person").run (.start ())).1 = .ok () ∧
      age.toFieldSpecOf.Keeps ageRecord :=
  ⟨rfl, rfl, (keeps_of_check ageOracle.host Registry.initial.lookup "Person" ageRecord).1 age
    "Person" (.start ()) rfl rfl⟩

end Field

end Schemata
