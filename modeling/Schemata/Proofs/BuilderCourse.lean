import Schemata.Proofs.Registration

/-!
# Courses of a builder

Types and directives are added to a builder, and some of them are refused. What is refused leaves no
trace: without it, the same types and directives are there in the end, and building makes the same
schema or finds the same violations. The types are those that were not refused, each under its own
name for good, after the builtin scalars.

The names of the builtin scalars are never given away, so the builtin directives, whose arguments
are of these types, pass their checks against every registry that a builder comes to have.

## Main definitions

* `Schemata.Builder.accepted`: the additions that are not refused.
* `Schemata.Registry.Orderly`: registries as additions leave them.

## Main results

* `Schemata.Builder.add_cases`: an addition is refused without effect, or it grows the builder.
* `Schemata.Builder.extendAll_accepted`: refused additions leave no trace.
* `Schemata.BuiltinDirective.check_apply`: the check of a builtin directive.
* `Schemata.Builder.extendAll_atomic`: the courses of a builder.
-/

namespace Schemata

variable {W : Type} {host : Host W} {s : Store W}

/-! ### Registries as additions leave them -/

namespace Registry

/-- A registry as additions to the initial one leave it. -/
structure Orderly (r : Registry) : Prop where
  /-- Types stand under their own names. -/
  keyed : ∀ p ∈ r.types, p.2.name = p.1
  nodup : r.names.Nodup
  /-- The names of the builtin scalars are theirs. -/
  scalars : ∀ scalar : BuiltinScalar, r.get? scalar.name = some (.builtin scalar)

theorem orderly_initial : Orderly .initial where
  keyed := by simp [initial, TypeDef.name]
  nodup := by decide
  scalars := by
    intro scalar
    cases scalar <;> rfl

/-- A type is refused for its name, or because the name is taken. -/
theorem insert_eq_error_iff {r : Registry} {t : TypeDef} :
    (∃ violation, r.insert t = .error violation) ↔
      ¬ Name.IsDeclarable t.name ∨ t.name ∈ r.names := by
  rw [← Name.validate_eq_ok_iff, names, ← Entries.contains_iff_mem_keys]
  unfold insert contains
  cases Name.validate t.name with
  | error reason => simp
  | ok _ => cases r.types.contains t.name <;> simp

/-- What has a name keeps it. -/
theorem get?_grow {r : Registry} {name : String} {found : TypeDef} (t : TypeDef)
    (h : r.get? name = some found) : (r.grow t).get? name = some found := by
  rcases r.grow_cases t with hsame | ⟨-, hgrown⟩
  · rwa [hsame]
  · simp only [get?, Entries.get?] at h
    rw [hgrown, get?, Entries.get?, List.lookup_append, h, Option.some_or]

theorem Orderly.grow {r : Registry} (h : r.Orderly) (t : TypeDef) : (r.grow t).Orderly where
  keyed := by
    rcases r.grow_cases t with hsame | ⟨-, hgrown⟩
    · rw [hsame]
      exact h.keyed
    · rw [hgrown, List.forall_mem_append, List.forall_mem_singleton]
      exact ⟨h.keyed, rfl⟩
  nodup := by
    rcases r.grow_cases t with hsame | ⟨hfree, hgrown⟩
    · rw [hsame]
      exact h.nodup
    · rw [hgrown, names, ← Entries.insert_of_not_contains r.types t.name t hfree]
      exact Entries.nodup_keys_insert h.nodup t.name t
  scalars := fun scalar => get?_grow t (h.scalars scalar)

/-- A listed type is found under its name. -/
theorem Orderly.get?_of_mem {r : Registry} (h : r.Orderly) {t : TypeDef}
    (hmem : t ∈ r.types.items) : r.get? t.name = some t := by
  obtain ⟨⟨name, type⟩, hpair, hsame⟩ := List.mem_map.mp hmem
  obtain rfl : type = t := hsame
  obtain rfl : type.name = name := h.keyed _ hpair
  exact Entries.get?_of_mem h.nodup hpair

theorem Orderly.lookup_scalar {r : Registry} (h : r.Orderly)
    (scalar : BuiltinScalar) : r.lookup scalar.name = some (TypeDef.builtin scalar).head := by
  rw [lookup, h.scalars scalar]
  rfl

end Registry

/-! ### Additions -/

namespace Builder

/-- **An addition** is refused and changes neither the builder nor the store, or it grows the
builder. -/
theorem add_cases (b : Builder) (a : Addition) (s : Store W) :
    (∃ violation, (b.add a).run s = (.error (.refused violation), s)) ∨
      ∃ s₁ : Store W, (b.add a).run s = (.ok (b.grow a), s₁) := by
  cases a with
  | type t =>
    rw [add, addType, Attempt.run_mapError_apply, Attempt.run_bind_apply, Registry.add,
      Attempt.run_bind_apply, Attempt.run_ofExcept_apply, grow, Registry.grow]
    cases b.types.insert t with
    | error violation => exact .inl ⟨violation, rfl⟩
    | ok grown => exact .inr ⟨_, rfl⟩
  | directive e =>
    rw [add, addDirective, Attempt.run_mapError_apply, Attempt.run_bind_apply, DirectiveSet.add,
      Attempt.run_bind_apply, Attempt.run_ofExcept_apply, grow, DirectiveSet.grow]
    cases b.directives.insert e with
    | error violation => exact .inl ⟨violation, rfl⟩
    | ok grown =>
      right
      cases b.directives.contains e.name <;> exact ⟨_, rfl⟩

/-- The additions that are not refused, of those made one after the other. -/
def accepted : List Addition → Builder → Run W (List Addition)
  | [], _ => return []
  | a :: rest, b => do
    match ← (b.add a).run with
    | .ok grown => return a :: (← accepted rest grown)
    | .error _ => accepted rest b

section Steps

variable {a : Addition} {b : Builder} {s s₁ : Store W}

theorem extendAll_cons_of_refused {violation : Violation} (rest : List Addition)
    (h : (b.add a).run s = (.error (.refused violation), s)) :
    extendAll (a :: rest) b s = extendAll rest b s := by
  rw [extendAll, Run.bind_apply, h]

theorem extendAll_cons_of_accepted (rest : List Addition)
    (h : (b.add a).run s = (.ok (b.grow a), s₁)) :
    extendAll (a :: rest) b s = extendAll rest (b.grow a) s₁ := by
  rw [extendAll, Run.bind_apply, h]

theorem accepted_cons_of_refused {violation : Violation} (rest : List Addition)
    (h : (b.add a).run s = (.error (.refused violation), s)) :
    accepted (a :: rest) b s = accepted rest b s := by
  rw [accepted, Run.bind_apply, h]

theorem accepted_cons_of_accepted (rest : List Addition)
    (h : (b.add a).run s = (.ok (b.grow a), s₁)) :
    (accepted (a :: rest) b s).1 = a :: (accepted rest (b.grow a) s₁).1 := by
  rw [accepted, Run.bind_apply, h]
  rfl

end Steps

/-- **Refused additions leave no trace.** Without them, none is refused, and the builder and the
store are the same in the end. -/
theorem extendAll_accepted (as : List Addition) : ∀ (b : Builder) (s : Store W),
    (accepted (accepted as b s).1 b s).1 = (accepted as b s).1 ∧
      extendAll (accepted as b s).1 b s = extendAll as b s := by
  induction as with
  | nil => exact fun _ _ => ⟨rfl, rfl⟩
  | cons a rest ih =>
    intro b s
    rcases b.add_cases a s with ⟨violation, hrefused⟩ | ⟨s₁, hgrown⟩
    · rw [accepted_cons_of_refused rest hrefused, extendAll_cons_of_refused rest hrefused]
      exact ih b s
    · obtain ⟨hkept, hsame⟩ := ih (b.grow a) s₁
      rw [accepted_cons_of_accepted rest hgrown, accepted_cons_of_accepted _ hgrown,
        extendAll_cons_of_accepted rest hgrown, extendAll_cons_of_accepted _ hgrown, hkept, hsame]
      exact ⟨rfl, rfl⟩

/-- The accepted types come last, in their order. -/
theorem types_extendAll (as : List Addition) : ∀ (b : Builder) (s : Store W),
    (extendAll as b s).1.types.types = b.types.types ++
      ((accepted as b s).1.filterMap Addition.type?).map fun t => (t.name, t) := by
  induction as with
  | nil => exact fun b _ => (List.append_nil b.types.types).symm
  | cons a rest ih =>
    intro b s
    rcases b.add_cases a s with ⟨violation, hrefused⟩ | ⟨s₁, hgrown⟩
    · rw [accepted_cons_of_refused rest hrefused, extendAll_cons_of_refused rest hrefused]
      exact ih b s
    · rw [accepted_cons_of_accepted rest hgrown, extendAll_cons_of_accepted rest hgrown, ih]
      cases a with
      | directive e => rfl
      | type t =>
        obtain ⟨-, hadded⟩ := eq_of_addType hgrown
        rw [hadded, List.filterMap_cons]
        exact List.append_assoc _ _ _

/-- Additions lead to builders that have grown. -/
theorem Grown.extendAll (as : List Addition)
    (has : ∀ t, .type t ∈ as → ∀ c, t.asComposite? = some c → c.Reached host) :
    ∀ {b : Builder} (s : Store W), b.Grown host → (Builder.extendAll as b s).1.Grown host := by
  induction as with
  | nil => exact fun _ hb => hb
  | cons a rest ih =>
    intro b s hb
    have hrest : ∀ t, .type t ∈ rest → ∀ c, t.asComposite? = some c → c.Reached host :=
      fun t ht => has t (List.mem_cons_of_mem a ht)
    rcases b.add_cases a s with ⟨violation, hrefused⟩ | ⟨s₁, hgrown⟩
    · rw [extendAll_cons_of_refused rest hrefused]
      exact ih hrest s hb
    · rw [extendAll_cons_of_accepted rest hgrown]
      refine ih hrest s₁ ?_
      cases a with
      | type t => exact .addType hb (has t List.mem_cons_self) hgrown
      | directive e => exact .addDirective hb hgrown

/-- What every addition leaves in place of the types is in place in the end. -/
theorem types_induction {P : Registry → Prop} (h : ∀ r t, P r → P (r.grow t))
    (as : List Addition) (b : Builder) (s : Store W) (hb : P b.types) :
    P (extendAll as b s).1.types := by
  obtain ⟨-, htypes, -⟩ := extendAll_spec as b s
  rw [htypes]
  exact List.foldlRecOn _ Registry.grow hb fun r hr t _ => h r t hr

end Builder

/-! ### The builtin directives -/

/-- An argument that resolves without calling the host passes its check without a trace. -/
theorem Argument.check_of_resolved {types : TypeLookup} {owner : ArgumentOwner} {a : Argument}
    {type : ResolvedType} (hname : Name.IsDeclarable a.name)
    (htype : (a.resolveType host types).run s = (.ok type, s)) (hinput : type.isInput = true)
    (hkept : a.isDeprecated = false) : (a.check host types owner).run s = (.ok (), s) := by
  rw [check, Attempt.run_bind_apply, Attempt.run_mapError_apply, Attempt.run_ofExcept_apply,
    Name.validate_eq_ok_iff.mpr hname]
  change (Attempt.mapError _ _ >>= _).run s = _
  rw [Attempt.run_bind_apply, Attempt.run_mapError_apply, htype]
  change (Attempt.require _ _ >>= _).run s = _
  rw [Attempt.run_bind_apply, Attempt.run_require_apply, hinput]
  change (Attempt.require _ _).run s = _
  rw [Attempt.run_require_apply, hkept, Bool.and_false]
  rfl

/-- A directive with one such argument passes its check without a trace. -/
theorem Directive.check_of_argument {types : TypeLookup} {d : Directive} {a : Argument}
    (hname : Name.IsDeclarable d.name) (harguments : d.arguments = [a])
    (hcheck : (a.check host types (.directive d.name)).run s = (.ok (), s)) :
    (d.check host types).run s = (.ok (), s) := by
  rw [check, Attempt.run_bind_apply, Attempt.run_mapError_apply, Attempt.run_ofExcept_apply,
    Name.validate_eq_ok_iff.mpr hname, harguments]
  change (Attempt.require _ _ >>= _).run s = _
  rw [Attempt.run_bind_apply, Attempt.run_require_apply]
  change (Argument.check host types _ a >>= _).run s = _
  rw [Attempt.run_bind_apply, hcheck]
  rfl

/-- **The check of a builtin directive** succeeds against every registry that has the builtin
scalars, without calling the host. -/
theorem BuiltinDirective.check_apply {types : TypeLookup}
    (hscalars : ∀ scalar : BuiltinScalar,
      types scalar.name = some (TypeDef.builtin scalar).head)
    (b : BuiltinDirective) (s : Store W) :
    (b.definition.check host types).run s = (.ok (), s) := by
  have hboolean : TypeRef.lookUp types "Boolean" = .ok (.named (TypeDef.builtin .boolean).head) := by
    have hknown := hscalars .boolean
    change types "Boolean" = _ at hknown
    rw [TypeRef.lookUp, hknown]
  have hstring : TypeRef.lookUp types "String" = .ok (.named (TypeDef.builtin .string).head) := by
    have hknown := hscalars .string
    change types "String" = _ at hknown
    rw [TypeRef.lookUp, hknown]
  have hif : Name.IsDeclarable "if" := ⟨by decide, by decide⟩
  have hcondition : ∀ description owner,
      ((conditionArgument description).check host types owner).run s = (.ok (), s) := by
    intro description owner
    have hresolved : ((conditionArgument description).resolveType host types).run s =
        (.ok (.nonNull (.named (TypeDef.builtin .boolean).head)), s) := by
      change (Attempt.ofExcept (TypeRef.lookUp types "Boolean") >>= _).run s = _
      rw [Attempt.run_bind_apply, Attempt.run_ofExcept_apply, hboolean]
      rfl
    exact Argument.check_of_resolved hif hresolved rfl rfl
  have hreason : ∀ owner, (reasonArgument.check host types owner).run s = (.ok (), s) := by
    intro owner
    have hresolved : (reasonArgument.resolveType host types).run s =
        (.ok (.named (TypeDef.builtin .string).head), s) := by
      change (Attempt.ofExcept (TypeRef.lookUp types "String")).run s = _
      rw [Attempt.run_ofExcept_apply, hstring]
    exact Argument.check_of_resolved ⟨by decide, by decide⟩ hresolved rfl rfl
  have hname := b.isDeclarable_name
  cases b with
  | deprecation => exact Directive.check_of_argument hname rfl (hreason _)
  | inclusion => exact Directive.check_of_argument hname rfl (hcondition _ _)
  | skipping => exact Directive.check_of_argument hname rfl (hcondition _ _)

/-! ### Courses -/

namespace Builder

theorem types_orderly (as : List Addition) (s : Store W) :
    (extendAll as initial s).1.types.Orderly :=
  types_induction (fun _ t hr => hr.grow t) as .initial s Registry.orderly_initial

theorem addType_refused_iff (b : Builder) (t : TypeDef) (s : Store W) :
    (∃ reason, ((b.addType t).run s).1 = .error reason) ↔
      ¬ Name.IsDeclarable t.name ∨ t.name ∈ b.types.names := by
  obtain ⟨houtcome, -⟩ := b.addType_spec t s
  rw [houtcome, ← Registry.insert_eq_error_iff]
  cases b.types.insert t with
  | error violation => exact iff_of_true ⟨_, rfl⟩ ⟨violation, rfl⟩
  | ok grown => exact iff_of_false (nomatch ·) (nomatch ·)

/-- **Courses of a builder.** After any additions to the initial builder, some of which may have
been refused, the types are the builtin scalars and then those that were not refused, in their order
and each under its own name, and no name is repeated. Whatever is added later, what has a name keeps
it. A type is refused exactly if its name may not be declared or is taken. Without the refused
additions none is refused, and the builder and the store are the same in the end, so that building
has the same outcome. And the builtin directives pass their checks against these types. -/
theorem extendAll_atomic (as : List Addition) (s : Store W) :
    let made := extendAll as .initial s
    let kept := (accepted as .initial s).1
    made.1.types.types = Registry.initial.types ++
        (kept.filterMap Addition.type?).map (fun t => (t.name, t)) ∧
      made.1.types.Orderly ∧
      (∀ t ∈ kept.filterMap Addition.type?, made.1.types.get? t.name = some t) ∧
      (∀ (later : List Addition) (s₁ : Store W) name t, made.1.types.get? name = some t →
        (extendAll later made.1 s₁).1.types.get? name = some t) ∧
      (∀ (t : TypeDef) (s₁ : Store W), (∃ reason, ((made.1.addType t).run s₁).1 = .error reason) ↔
        ¬ Name.IsDeclarable t.name ∨ t.name ∈ made.1.types.names) ∧
      ((accepted kept .initial s).1 = kept ∧ extendAll kept .initial s = made) ∧
      (∀ host : Host W, (extendAll kept .initial >>= fun b => (b.build host).run) s =
        (extendAll as .initial >>= fun b => (b.build host).run) s) ∧
      ∀ (host : Host W) (b : BuiltinDirective) (s₁ : Store W),
        (b.definition.check host made.1.types.lookup).run s₁ = (.ok (), s₁) := by
  have htypes := types_extendAll as .initial s
  have horderly := types_orderly as s
  have haccepted := extendAll_accepted as .initial s
  refine ⟨htypes, horderly, fun t ht => ?_, fun later s₁ name t hheld => ?_,
    addType_refused_iff _, haccepted, fun host => ?_, fun host b s₁ => ?_⟩
  · refine horderly.get?_of_mem ?_
    rw [htypes, Entries.items, List.map_append, List.mem_append, List.map_map]
    exact .inr (List.mem_map_of_mem ht)
  · exact types_induction (P := fun r => r.get? name = some t)
      (fun _ t' hr => Registry.get?_grow t' hr) later _ s₁ hheld
  · rw [Run.bind_apply, Run.bind_apply, haccepted.2]
  · exact b.check_apply horderly.lookup_scalar s₁

end Builder

end Schemata
