import Schemata.Proofs.Draft

/-!
# Why declarations are refused

A declaration of a field is refused for its own shape, for its key, for the ways in which it says
that the field is resolved, or for one of the arguments that it declares. Arguments are refused as a
whole if they are neither a list nor a record, but a declaration with such arguments has been
refused before they are looked at.

## Main definitions

* `Schemata.Argument.Refusal`: the reasons for which a single argument is refused.
* `Schemata.FieldDraft.Refusal`: the reasons for which the declaration of a field is.

## Main results

* `Schemata.Argument.fails_expandOption`: the reasons against the arguments of an owner.
* `Schemata.FieldDraft.fails_declare`: a declaration of a field is refused for these reasons only.
* `Schemata.FieldDraft.declare_of_unstructured`: arguments that are neither a list nor a record.
-/

namespace Schemata

/-! ### Arguments -/

namespace Argument

variable {owner : ArgumentOwner}

/-- The reasons for which an argument of the owner is refused. -/
inductive Refusal (owner : ArgumentOwner) : Violation → Prop
  | declaration (key rendered : String) :
      Refusal owner (.invalidArgumentDeclaration key owner rendered)
  | defaultValue (argument rendered : String) :
      Refusal owner (.invalidArgumentDefaultValue argument owner rendered)

theorem fails_ofRecord (owner : ArgumentOwner) (defaultName : String) (r : Record) :
    Outcome.Fails (Refusal owner) (ofRecord owner defaultName r) := by
  refine Outcome.Fails.bind ?_ fun _ _ => Outcome.fails_ok _
  unfold defaultOf
  cases Entries.get? r Key.defaultValue with
  | none => exact Outcome.fails_ok none
  | some value =>
    dsimp only
    cases value.toValue? with
    | none => exact Outcome.fails_error (.defaultValue _ _)
    | some v => exact Outcome.fails_ok (some v)

theorem fails_ofNamedEntry (owner : ArgumentOwner) (name : String) (entry : Config) :
    Outcome.Fails (Refusal owner) (ofNamedEntry owner name entry) := by
  unfold ofNamedEntry
  split
  · exact Outcome.fails_ok _
  · exact fails_ofRecord owner name _
  · split
    · exact Outcome.fails_ok _
    · exact Outcome.fails_error (.declaration _ _)

theorem fails_ofListedEntry (owner : ArgumentOwner) (position : Nat) (entry : Config) :
    Outcome.Fails (Refusal owner) (ofListedEntry owner position entry) := by
  unfold ofListedEntry
  split
  · exact Outcome.fails_ok _
  · split_ifs
    · exact fails_ofRecord owner "" _
    · exact Outcome.fails_error (.declaration _ _)
  · exact Outcome.fails_error (.declaration _ _)

/-- Arguments are refused for one of them, if they are a list or a record. -/
theorem fails_expandOption (owner : ArgumentOwner) {config : Option Config}
    (hstructured : ∀ args, config = some args → args.isStructured = true) :
    Outcome.Fails (Refusal owner) (expandOption owner config) := by
  cases config with
  | none => exact Outcome.fails_ok []
  | some config =>
    change Outcome.Fails (Refusal owner) (expand owner config)
    cases config with
    | record entries => exact Outcome.fails_mapM (fun _ => fails_ofNamedEntry owner _ _) _
    | list items => exact Outcome.fails_mapM (fun _ => fails_ofListedEntry owner _ _) _
    | _ => cases hstructured _ rfl

end Argument

/-! ### Fields -/

/-- The reasons for which the declaration of a field is refused on the type named `typeName`. -/
inductive FieldDraft.Refusal (typeName : String) : Violation → Prop
  | argument {fieldName : String} {violation : Violation}
      (h : Argument.Refusal (.field typeName fieldName) violation) : Refusal typeName violation
  | arguments (fieldName rendered : String) :
      Refusal typeName (.invalidFieldArgs typeName fieldName rendered)
  | resolution (fieldName : String) :
      Refusal typeName (.conflictingFieldResolution typeName fieldName)
  | nameless (position : Nat) : Refusal typeName (.missingFieldName typeName position)
  | producer (position : Nat) : Refusal typeName (.deferredFieldRequiresName typeName position)
  | shape (key rendered : String) :
      Refusal typeName (.invalidFieldDeclaration typeName key rendered)

theorem FieldSpec.fails_ofRecord (parent : String) {r : Record}
    (hstructured : ∀ args, Entries.get? r Key.args = some args → args.isStructured = true) :
    Outcome.Fails (FieldDraft.Refusal parent) (FieldSpec.ofRecord parent r) := by
  refine Outcome.Fails.bind ?_ fun _ _ => ?_
  · exact (Argument.fails_expandOption _ hstructured).imp fun _ => .argument
  · refine Outcome.Fails.bind ?_ fun _ _ => Outcome.fails_ok _
    unfold resolutionOf
    split
    · exact Outcome.fails_error (.resolution _)
    all_goals exact Outcome.fails_ok _

namespace Declaration

theorem fails_nameRecord (typeName : String) (key : FieldKey) (r : Record) :
    Outcome.Fails (FieldDraft.Refusal typeName) (nameRecord typeName key r) := by
  unfold nameRecord
  split
  · exact Outcome.fails_ok _
  · exact Outcome.fails_ok _
  · exact Outcome.fails_error (.nameless _)

theorem fails_checkArgs (typeName : String) (r : Record) :
    Outcome.Fails (FieldDraft.Refusal typeName) (checkArgs typeName r) := by
  unfold checkArgs
  split
  · exact Outcome.fails_ok _
  · split_ifs
    · exact Outcome.fails_ok _
    · exact Outcome.fails_error (.arguments _ _)

theorem fails_classify (typeName : String) (key : FieldKey) (value : Config) :
    Outcome.Fails (FieldDraft.Refusal typeName) (classify typeName key value) := by
  unfold classify
  split
  · refine (fails_nameRecord typeName key _).bind fun named _ => ?_
    exact (fails_checkArgs typeName named).bind fun _ _ => Outcome.fails_ok _
  · exact Outcome.fails_ok _
  · exact Outcome.fails_ok _
  · exact Outcome.fails_error (.producer _)
  · split_ifs
    · exact Outcome.fails_error (.shape _ _)
    · exact Outcome.fails_ok _
  · exact Outcome.fails_error (.shape _ _)

/-- The arguments of a descriptor that has been accepted are a list or a record. -/
theorem isStructured_of_classify {typeName : String} {key : FieldKey} {value args : Config}
    {r : Record} (h : classify typeName key value = .ok (described r))
    (hargs : Entries.get? r Key.args = some args) : args.isStructured = true := by
  cases classified_of_classify h with
  | described _ hcheck =>
    unfold checkArgs at hcheck
    rw [hargs] at hcheck
    dsimp only at hcheck
    split_ifs at hcheck with hstructured
    exact hstructured

end Declaration

namespace FieldDraft

/-- **A declaration is refused for these reasons only**, and never for arguments that are neither a
list nor a record as a whole: those are refused with the descriptor that they stand in. -/
theorem fails_declare (typeName : String) (key : FieldKey) (value : Config) :
    Outcome.Fails (Refusal typeName) (declare typeName key value) := by
  refine (Declaration.fails_classify typeName key value).bind fun d hclassify => ?_
  cases d with
  | deferred name producer => exact Outcome.fails_ok _
  | ready field => exact Outcome.fails_ok _
  | described r =>
    refine (FieldSpec.fails_ofRecord typeName fun args hargs => ?_).map _
    exact Declaration.isStructured_of_classify hclassify hargs
  | shorthand name type =>
    rw [Declaration.draft]
    refine (FieldSpec.fails_ofRecord typeName fun args hargs => ?_).map _
    -- The descriptor that a bare type is short for has no arguments.
    simp [Declaration.shorthandRecord, Entries.get?_cons, Key.args, Key.name, Key.type] at hargs

/-- Arguments that are neither a list nor a record are refused with their descriptor, if this has a
name of its own or gets one from its key. -/
theorem declare_of_unstructured {typeName : String} {key : FieldKey} {r : Record} {args : Config}
    (hnamed : (Record.getString? r Key.name).isSome ∨ ∃ name, key = .name name)
    (hargs : Entries.get? r Key.args = some args) (hunstructured : args.isStructured = false) :
    declare typeName key (.record r) =
      .error (.invalidFieldArgs typeName ((Config.record r).fieldName key.text) args.render) := by
  obtain ⟨named, hname, hkept⟩ : ∃ named, Declaration.nameRecord typeName key r = .ok named ∧
      Entries.get? named Key.args = some args := by
    cases hown : Record.getString? r Key.name with
    | some own => exact ⟨r, by simp [Declaration.nameRecord, hown], hargs⟩
    | none =>
      rw [hown] at hnamed
      obtain h | ⟨name, rfl⟩ := hnamed
      · cases h
      · refine ⟨Entries.insert r Key.name (.string name), ?_, ?_⟩
        · simp [Declaration.nameRecord, hown]
        · rw [Entries.get?_insert, if_neg (by decide), hargs]
  have hcheck : Declaration.checkArgs typeName named =
      .error (.invalidFieldArgs typeName ((Config.record r).fieldName key.text) args.render) := by
    have hfield := Declaration.getString?_of_nameRecord hname
    unfold Declaration.checkArgs
    rw [hkept, hfield]
    dsimp only
    rw [if_neg (by simp [hunstructured])]
    rfl
  rw [declare, Declaration.classify, hname]
  change (Declaration.checkArgs typeName named >>= _) >>= _ = _
  rw [hcheck]
  rfl

end FieldDraft

end Schemata
