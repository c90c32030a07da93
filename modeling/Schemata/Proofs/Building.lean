import Schemata.Proofs.Validation

/-!
# When a schema is built

A builder grows by types and directives that it does not refuse. Building validates what has been
added, and there is a schema exactly if all of it is well formed.

## Main definitions

* `Schemata.Builder.Grown`: the builders that additions lead to.
* `Schemata.Builder.Regular`: what additions see to.
* `Schemata.Store.SameFields`: nothing has changed that is kept of fields.

## Main results

* `Schemata.Builder.Grown.regular`: builders stay regular.
* `Schemata.Builder.validate_eq_nil_iff`: where validation of a builder finds nothing.
* `Schemata.Builder.build_succeeds_iff`: a schema is built if the builder is well formed.
-/

namespace Schemata

variable {W : Type} {host : Host W} {oracle : Oracle}

/-! ### Additions -/

/-- The two stores remember the same types, and make the same field next. -/
def Store.SameFields (s s' : Store W) : Prop :=
  s'.resolved = s.resolved ∧ s'.nextId = s.nextId

theorem Store.SameFields.trans {s s' s'' : Store W} (h : s.SameFields s')
    (h' : s'.SameFields s'') : s.SameFields s'' :=
  ⟨h'.1.trans h.1, h'.2.trans h.2⟩

namespace Registry

/-- A type that is not refused has a name that was free, and comes last. -/
theorem insert_eq_ok {r r' : Registry} {t : TypeDef} (h : r.insert t = .ok r') :
    r.contains t.name = false ∧ r' = ⟨r.types ++ [(t.name, t)]⟩ := by
  unfold insert at h
  cases hname : Name.validate t.name with
  | error reason =>
    rw [hname] at h
    cases h
  | ok _ =>
    rw [hname] at h
    dsimp only at h
    split_ifs at h with htaken
    obtain rfl := Except.ok.inj h
    rw [Bool.not_eq_true] at htaken
    exact ⟨htaken, by rw [Entries.insert_of_not_contains r.types t.name t htaken]⟩

/-- Adding a type changes nothing that is kept of fields. -/
theorem add_spec (r : Registry) (t : TypeDef) (s : Store W) :
    ((r.add t).run s).1 = r.insert t ∧ s.SameFields ((r.add t).run s).2 := by
  rw [add, Attempt.run_bind_apply, Attempt.run_ofExcept_apply]
  cases r.insert t <;> exact ⟨rfl, rfl, rfl⟩

end Registry

namespace DirectiveSet

/-- A directive that is not refused has a name that may be declared. -/
theorem insert_eq_ok {d d' : DirectiveSet} {e : DirectiveEntry} (h : d.insert e = .ok d') :
    Name.IsDeclarable e.name ∧ d' = ⟨d.entries.insert e.name e⟩ := by
  unfold insert at h
  cases hname : Name.validate e.name with
  | error reason =>
    rw [hname] at h
    cases h
  | ok _ =>
    rw [hname] at h
    refine ⟨Name.validate_eq_ok_iff.mp hname, ?_⟩
    rcases hheld : d.get? e.name with _ | (builtin | declared) <;> rw [hheld] at h <;> cases h <;>
      rfl

/-- Adding a directive changes nothing that is kept of fields. -/
theorem add_spec (d : DirectiveSet) (e : DirectiveEntry) (s : Store W) :
    ((d.add e).run s).1 = d.insert e ∧ s.SameFields ((d.add e).run s).2 := by
  rw [add, Attempt.run_bind_apply, Attempt.run_ofExcept_apply]
  cases d.insert e with
  | error violation => exact ⟨rfl, rfl, rfl⟩
  | ok grown => cases d.contains e.name <;> exact ⟨rfl, rfl, rfl⟩

end DirectiveSet

namespace Builder

theorem addType_spec (b : Builder) (t : TypeDef) (s : Store W) :
    ((b.addType t).run s).1 =
        ((b.types.insert t).map fun types => { b with types }).mapError .refused ∧
      s.SameFields ((b.addType t).run s).2 := by
  obtain ⟨houtcome, hsame⟩ := b.types.add_spec t s
  rw [addType, Attempt.run_mapError_apply, Attempt.run_bind_apply, ← houtcome]
  generalize (b.types.add t).run s = made at hsame ⊢
  obtain ⟨violation | grown, s₁⟩ := made <;> exact ⟨rfl, hsame⟩

theorem addDirective_spec (b : Builder) (e : DirectiveEntry) (s : Store W) :
    ((b.addDirective e).run s).1 =
        ((b.directives.insert e).map fun directives => { b with directives }).mapError .refused ∧
      s.SameFields ((b.addDirective e).run s).2 := by
  obtain ⟨houtcome, hsame⟩ := b.directives.add_spec e s
  rw [addDirective, Attempt.run_mapError_apply, Attempt.run_bind_apply, ← houtcome]
  generalize (b.directives.add e).run s = made at hsame ⊢
  obtain ⟨violation | grown, s₁⟩ := made <;> exact ⟨rfl, hsame⟩

/-- The builders that successful additions to the initial builder lead to. The fields of a type may
have been accessed before it is added, and the store may be any at each addition. -/
inductive Grown (host : Host W) : Builder → Prop
  | initial : Grown host .initial
  | addType {b b' : Builder} {t : TypeDef} {s s' : Store W} (hb : Grown host b)
      (ht : ∀ c, t.asComposite? = some c → c.Reached host)
      (hadd : (b.addType t).run s = (.ok b', s')) : Grown host b'
  | addDirective {b b' : Builder} {e : DirectiveEntry} {s s' : Store W} (hb : Grown host b)
      (hadd : (b.addDirective e).run s = (.ok b', s')) : Grown host b'

/-- What every addition to a builder sees to. -/
structure Regular (host : Host W) (b : Builder) : Prop where
  /-- Types stand under their own names. -/
  keyed : ∀ p ∈ b.types.types, p.2.name = p.1
  /-- The names of the builtin scalars are theirs. -/
  scalars : ∀ scalar : BuiltinScalar,
    b.types.lookup scalar.name = some (TypeDef.builtin scalar).head
  kept : ∀ t ∈ b.types.types.items, t.Kept host
  directiveNames : ∀ e ∈ b.directives.entries.items, Name.IsDeclarable e.name

theorem eq_of_addType {b b' : Builder} {t : TypeDef} {s s' : Store W}
    (h : (b.addType t).run s = (.ok b', s')) : b.types.contains t.name = false ∧
      b' = { b with types := ⟨b.types.types ++ [(t.name, t)]⟩ } := by
  obtain ⟨houtcome, -⟩ := b.addType_spec t s
  rw [h] at houtcome
  cases hinsert : b.types.insert t with
  | error violation =>
    rw [hinsert] at houtcome
    cases houtcome
  | ok grown =>
    rw [hinsert] at houtcome
    obtain ⟨hfree, rfl⟩ := Registry.insert_eq_ok hinsert
    exact ⟨hfree, Except.ok.inj houtcome⟩

theorem eq_of_addDirective {b b' : Builder} {e : DirectiveEntry} {s s' : Store W}
    (h : (b.addDirective e).run s = (.ok b', s')) : Name.IsDeclarable e.name ∧
      b' = { b with directives := ⟨b.directives.entries.insert e.name e⟩ } := by
  obtain ⟨houtcome, -⟩ := b.addDirective_spec e s
  rw [h] at houtcome
  cases hinsert : b.directives.insert e with
  | error violation =>
    rw [hinsert] at houtcome
    cases houtcome
  | ok grown =>
    rw [hinsert] at houtcome
    obtain ⟨hname, rfl⟩ := DirectiveSet.insert_eq_ok hinsert
    exact ⟨hname, Except.ok.inj houtcome⟩

theorem regular_initial (host : Host W) : initial.Regular host where
  keyed := by simp [initial, Registry.initial, TypeDef.name]
  scalars := by
    intro scalar
    cases scalar <;> rfl
  kept := by
    intro t ht c hc
    simp only [initial, Registry.initial, Entries.items, List.map_map, List.mem_map,
      Function.comp_apply] at ht
    obtain ⟨scalar, -, rfl⟩ := ht
    cases hc
  directiveNames := by simp [initial, DirectiveSet.empty, Entries.items]

/-- **Builders stay regular.** -/
theorem Grown.regular {b : Builder} (hb : b.Grown host) : b.Regular host := by
  induction hb with
  | initial => exact regular_initial host
  | @addType b b' t s s' hb ht hadd ih =>
    obtain ⟨hfree, rfl⟩ := eq_of_addType hadd
    refine ⟨?_, ?_, ?_, ih.directiveNames⟩
    · simp only [List.forall_mem_append, List.forall_mem_singleton]
      exact ⟨ih.keyed, trivial⟩
    · intro scalar
      have hold := ih.scalars scalar
      simp only [Registry.lookup, Registry.get?, Entries.get?, List.lookup_append] at hold ⊢
      rcases hlookup : b.types.types.lookup scalar.name with _ | found <;> rw [hlookup] at hold
      · cases hold
      · exact hold
    · simp only [Entries.items, List.map_append, List.map_cons, List.map_nil,
        List.forall_mem_append, List.forall_mem_singleton]
      exact ⟨ih.kept, fun c hc => (ht c hc).kept⟩
  | addDirective hb hadd ih =>
    obtain ⟨hname, rfl⟩ := eq_of_addDirective hadd
    refine ⟨ih.keyed, ih.scalars, ih.kept, fun e he => ?_⟩
    rcases Entries.mem_items_insert he with rfl | he
    · exact hname
    · exact ih.directiveNames e he

end Builder

/-! ### Directives -/

theorem Stable.preserves_checkDirective {types : TypeLookup} {I : Store W → Prop}
    (hI : Stable host types I) (d : Directive) : Run.Preserves I (d.check host types).run :=
  Attempt.preserves_bind (Attempt.preserves_ofExcept _) fun _ =>
    hI.preserves_checkAfter _ [] d.arguments

theorem Directive.decides_check {types : TypeLookup} {I : Store W → Prop}
    (hhost : host.Follows oracle) (hI : ∀ h, Run.Preserves I (Run.typeOf host h)) (d : Directive) :
    Attempt.Decides I (d.check host types) fun _ =>
      Name.IsDeclarable d.name ∧ d.WellFormed oracle types := by
  refine ((((Attempt.decides_ofExcept _).mapError _).imp fun _ => Name.validate_eq_ok_iff).and
    (Argument.decides_checkAll hhost hI (.directive d.name) d.arguments)).imp fun _ => ?_
  exact and_congr_right fun _ => ⟨fun h => ⟨h.1, h.2⟩, fun h => ⟨h.1, h.2⟩⟩

/-- The builtin directives may be part of every schema that has the builtin scalars. -/
theorem BuiltinDirective.wellFormed {types : TypeLookup}
    (hscalars : ∀ scalar : BuiltinScalar,
      types scalar.name = some (TypeDef.builtin scalar).head) (b : BuiltinDirective) :
    b.definition.WellFormed oracle types := by
  have hif : Name.IsDeclarable "if" := ⟨by decide, by decide⟩
  have hcondition : ∀ description,
      (conditionArgument description).WellFormed oracle types := fun description =>
    { name := hif
      type := ⟨_, _, rfl, .nonNull (.named (hscalars .boolean)) rfl, rfl, fun h => by cases h.2⟩ }
  have hreason : reasonArgument.WellFormed oracle types :=
    { name := ⟨by decide, by decide⟩
      type := ⟨_, _, rfl, .named (hscalars .string), rfl, fun h => by cases h.2⟩ }
  cases b with
  | deprecation => exact ⟨List.pairwise_singleton _ _, List.forall_mem_singleton.mpr hreason⟩
  | inclusion => exact ⟨List.pairwise_singleton _ _, List.forall_mem_singleton.mpr (hcondition _)⟩
  | skipping => exact ⟨List.pairwise_singleton _ _, List.forall_mem_singleton.mpr (hcondition _)⟩

theorem BuiltinDirective.isDeclarable_name (b : BuiltinDirective) :
    Name.IsDeclarable b.definition.name := by
  cases b <;> exact ⟨by decide, by decide⟩

namespace DirectiveSet

theorem preserves_validate {types : TypeLookup} {I : Store W → Prop} (d : DirectiveSet)
    (hI : Steady host types I) : Run.Preserves I (d.validate host types) := by
  refine Attempt.preserves_violations (fun e => ?_) d.entries.items
  exact hI.stable.preserves_checkDirective e.definition

theorem forall_completeWith_iff {P : DirectiveEntry → Prop} (hP : ∀ b, P (.builtin b))
    (s : DirectiveSet) (b : BuiltinDirective) :
    (∀ e ∈ (s.completeWith b).entries.items, P e) ↔ ∀ e ∈ s.entries.items, P e := by
  unfold completeWith
  cases hfree : s.contains b.name with
  | true => rfl
  | false =>
    have hinsert := Entries.insert_of_not_contains s.entries b.name (.builtin b) hfree
    simp [hinsert, Entries.items, or_imp, forall_and, hP b]

/-- What holds of the builtin directives holds of all directives of a completed set if it holds of
those it had before. -/
theorem forall_complete_iff {P : DirectiveEntry → Prop} (hP : ∀ b, P (.builtin b))
    (s : DirectiveSet) :
    (∀ e ∈ s.complete.entries.items, P e) ↔ ∀ e ∈ s.entries.items, P e := by
  unfold complete
  generalize BuiltinDirective.all = builtins
  induction builtins generalizing s with
  | nil => rfl
  | cons b rest ih =>
    rw [List.foldl_cons, ih, forall_completeWith_iff hP]

end DirectiveSet

/-! ### Validating and building -/

/-- Once all fields of a type are known, what is known is sound if the type is well formed. -/
theorem TypeDef.sound_iff_wellFormed {types : TypeLookup} (hhost : host.Follows oracle)
    {s₀ : Store W} (hs : s₀.Agrees oracle types) {t : TypeDef} (ht : t.Kept host)
    (hall : t.Exhausted) : t.Sound oracle types s₀ ↔ t.WellFormed oracle types := by
  cases t with
  | object c => exact Composite.sound_iff_wellFormed hhost hs (ht c rfl) (hall c rfl)
  | interface c => exact Composite.sound_iff_wellFormed hhost hs (ht c rfl) (hall c rfl)
  | _ => rfl

/-- Whether a type is well formed does not depend on how many of its fields are known. -/
theorem TypeDef.Advances.wellFormed_iff {types : TypeLookup} {t t' : TypeDef} (h : t.Advances t') :
    t'.WellFormed oracle types ↔ t.WellFormed oracle types := by
  cases h with
  | same => rfl
  | interface h => rw [h.same, TypeDef.WellFormed, TypeDef.WellFormed]; rfl
  | object h => rw [h.same, TypeDef.WellFormed, TypeDef.WellFormed]; rfl

theorem Registry.Advances.forall_iff {P Q : TypeDef → Prop} {r r' : Registry} (h : r.Advances r')
    (hPQ : ∀ t t', t.Advances t' → (Q t' ↔ P t)) :
    (∀ t ∈ r'.types.items, Q t) ↔ ∀ t ∈ r.types.items, P t := by
  obtain ⟨types⟩ := r
  obtain ⟨types'⟩ := r'
  simp only [Advances] at h ⊢
  induction h with
  | nil => simp [Entries.items]
  | cons hpair hrest ih =>
    simp only [Entries.items, List.map_cons, List.forall_mem_cons] at ih ⊢
    exact and_congr (hPQ _ _ hpair.2) ih

namespace Builder

theorem validate_apply (host : Host W) (b : Builder) (s : Store W) :
    b.validate host s =
      let checked := b.types.validate host s
      let faults := b.directives.complete.validate host checked.1.2.lookup checked.2
      ((checked.1.1 ++ faults.1, { directives := b.directives.complete, types := checked.1.2 }),
        faults.2) := rfl

/-- What survives every step survives validation. -/
theorem preserves_validate {I : Store W → Prop} (b : Builder)
    (hI : Steady host b.types.lookup I) : Run.Preserves I (b.validate host) := by
  intro s hs
  have hlookup := (b.types.validate_advances host s).1.lookup_eq
  rw [validate_apply]
  dsimp only
  rw [hlookup]
  exact b.directives.complete.preserves_validate hI _ (b.types.preserves_validate hI s hs)

/-- **Validation of a builder** finds nothing if all types are sound afterwards and all declared
directives are well formed. -/
theorem validate_eq_nil_iff (hhost : host.Follows oracle) {b : Builder} (hb : b.Regular host)
    (s : Store W) :
    (b.validate host s).1.1 = [] ↔
      (∀ t ∈ (b.validate host s).1.2.types.types.items, t.Sound oracle b.types.lookup s) ∧
        ∀ d, .declared d ∈ b.directives.entries.items → d.WellFormed oracle b.types.lookup := by
  have hextends := b.types.preserves_validate
    (Store.Extends.aboutCells (fun _ _ h => h.resolvesTo hhost) s).steady s (.refl _ s)
  have hsound := b.types.validate_eq_nil_iff hhost s s (.refl _ s)
  have hlookup := (b.types.validate_advances host s).1.lookup_eq
  rw [validate_apply]
  dsimp only
  rw [hlookup]
  obtain ⟨hfaults, -⟩ := Attempt.violations_eq_nil_iff (fun e : DirectiveEntry =>
    Directive.decides_check hhost (Store.Extends.preserves_typeOf s) e.definition)
    b.directives.complete.entries.items _ hextends
  rw [List.append_eq_nil_iff, hsound, DirectiveSet.validate, hfaults]
  refine and_congr_right fun _ => ?_
  have hbuiltin : ∀ builtin, Name.IsDeclarable (DirectiveEntry.builtin builtin).definition.name ∧
      (DirectiveEntry.builtin builtin).definition.WellFormed oracle b.types.lookup :=
    fun builtin => ⟨builtin.isDeclarable_name, builtin.wellFormed hb.scalars⟩
  rw [DirectiveSet.forall_complete_iff hbuiltin]
  constructor
  · exact fun h d hd => (h _ hd).2
  · intro h e he
    cases e with
    | builtin builtin => exact hbuiltin builtin
    | declared d => exact ⟨hb.directiveNames _ he, h d he⟩

theorem build_apply (host : Host W) (b : Builder) (s : Store W) :
    (b.build host).run s = if (b.validate host s).1.1 = [] then
        (.ok (b.validate host s).1.2, (b.validate host s).2.record
          (.schemaBuilt (b.validate host s).1.2.types.types.length
            (b.validate host s).1.2.directives.entries.length))
      else
        (.error (.invalid (b.validate host s).1.1),
          (b.validate host s).2.record (.validationFailed (b.validate host s).1.1.length)) := by
  rw [build, Attempt.run_bind_apply, Attempt.run_ofRun_apply]
  rcases b.validate host s with ⟨⟨_ | ⟨violation, rest⟩, schema⟩, s'⟩ <;> rfl

theorem build_eq_ok_iff {b : Builder} {s : Store W} :
    (∃ schema s', (b.build host).run s = (.ok schema, s')) ↔ (b.validate host s).1.1 = [] := by
  rw [build_apply]
  split_ifs with h
  · exact iff_of_true ⟨_, _, rfl⟩ h
  · refine iff_of_false ?_ h
    rintro ⟨_, _, hbuilt⟩
    cases hbuilt

/-- What is built is what validation has left, in which nothing was found. -/
theorem eq_of_build {b : Builder} {s s' : Store W} {schema : Schema}
    (h : (b.build host).run s = (.ok schema, s')) :
    (b.validate host s).1.1 = [] ∧ schema = (b.validate host s).1.2 ∧
      s' = (b.validate host s).2.record
        (.schemaBuilt schema.types.types.length schema.directives.entries.length) := by
  rw [build_apply] at h
  split_ifs at h with hnone
  · cases h
    exact ⟨hnone, rfl, rfl⟩
  · cases h

/-- **A schema is built if the builder is well formed.** With a host whose functions answer the same
whenever they are called, and from a store that remembers nothing but what references stand for,
building the schema of a builder that additions have led to succeeds exactly if every type and every
directive in it is well formed. -/
theorem build_succeeds_iff (hhost : host.Follows oracle) {b : Builder} (hb : b.Grown host)
    {s : Store W} (hs : s.Agrees oracle b.types.lookup) :
    (∃ schema s', (b.build host).run s = (.ok schema, s')) ↔ b.WellFormed oracle := by
  obtain ⟨hadvances, hall, hkept⟩ := b.types.validate_advances host s
  have hsound : (∀ t ∈ (b.types.validate host s).1.2.types.items,
        t.Sound oracle b.types.lookup s) ↔
      ∀ t ∈ b.types.types.items, t.WellFormed oracle b.types.lookup := by
    rw [← hadvances.forall_iff fun t t' h => h.wellFormed_iff]
    refine forall₂_congr fun t ht => ?_
    exact TypeDef.sound_iff_wellFormed hhost hs (hkept hb.regular.kept t ht) (hall t ht)
  rw [build_eq_ok_iff, validate_eq_nil_iff hhost hb.regular s, validate_apply, hsound]
  exact ⟨fun h => ⟨h.1, h.2⟩, fun h => ⟨h.types, h.directives⟩⟩

/-- The answers of a host whose producers of fields all declare a text. -/
def textOracle : Oracle where
  typeOf _ := .named "String"
  fieldOf _ := .string "String"
  fieldSetOf _ := .record []

/-- An object whose only field is deferred. -/
def greetingType : TypeDef :=
  .object (.declare "Query" none (.declared [(.name "greeting", .callable ⟨.producer, ⟨0⟩⟩)]))

/-- The builder of a schema with that object. -/
def greeting : Builder :=
  { directives := .empty, types := ⟨Registry.initial.types ++ [("Query", greetingType)]⟩ }

theorem grown_greeting : greeting.Grown textOracle.host := by
  refine .addType (b := .initial) (t := greetingType) (s := .start ()) .initial ?_ rfl
  rintro _ ⟨⟩
  exact .declare "Query" none _

theorem wellFormed_greeting : greeting.WellFormed textOracle := by
  have hfield : (FieldDraft.deferred ⟨"greeting", "Query", ⟨0⟩⟩).Becomes textOracle
      { name := "greeting", arguments := [], typeRef := some (.named "String"),
        resolution := .standard, estimator := none, description := none,
        deprecationReason := none,
        source := Declaration.shorthandRecord "greeting" (.string "String") } :=
    .deferred (.final rfl) rfl
  refine ⟨fun t ht => ?_, fun d hd => by cases hd⟩
  simp only [greeting, Registry.initial, BuiltinScalar.all, Entries.items, List.map_cons,
    List.map_nil, List.cons_append, List.nil_append, List.mem_cons, List.not_mem_nil,
    or_false] at ht
  rcases ht with rfl | rfl | rfl | rfl | rfl | rfl
  all_goals try trivial
  refine ⟨[_], ⟨_, .declared _, .cons rfl .nil, by simp⟩, ?_⟩
  refine List.forall_mem_singleton.mpr ⟨_, hfield, ?_⟩
  exact {
    name := ⟨by decide, by decide⟩
    notFlagged := by decide
    type := ⟨_, _, rfl, .named rfl, by decide⟩
    callables := by
      intro role value hvalue
      cases role <;> cases hvalue
    argumentNames := .nil
    arguments := by simp }

theorem build_greeting : ∃ schema s',
    (greeting.build textOracle.host).run (.start ()) = (.ok schema, s') :=
  (build_succeeds_iff textOracle.follows_host grown_greeting (fun _ _ h => by cases h)).mpr
    wellFormed_greeting

end Builder

end Schemata
