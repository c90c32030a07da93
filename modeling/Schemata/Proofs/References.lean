import Schemata.Proofs.Building
import Schemata.Proofs.Settling

/-!
# References of a built schema

After a schema has been built, a type has been found for every field and every argument in it. The
type is a kind and a name, and following the name leads to a type of that kind as long as the
reference goes by names. A type that was given ready, and was never registered, is not found again
this way: its kind and name were taken from the type itself.

Fields keep their types. Arguments do not, so an argument has the type that was found for it as long
as its deferred references go on producing what they produced then.

## Main definitions

* `Schemata.ResolvedType.PointsInto`: following the name leads to a type of the kind.
* `Schemata.TypeRef.LeadsTo`: the type of a reference, and when it points into a registry.
* `Schemata.Schema.HasField`, `Schemata.Schema.HasArgument`: the fields and arguments of a schema.

## Main results

* `Schemata.Builder.settled_of_build`: the fields and arguments of a built schema are settled.
* `Schemata.Builder.references_of_build`: references resolve, and those that are anchored point into
  the schema.
-/

namespace Schemata

variable {W : Type} {host : Host W}

/-! ### Following names -/

/-- Following the name inside all wrapping leads to a type of the kind that stands there. -/
def ResolvedType.PointsInto (type : ResolvedType) (r : Registry) : Prop :=
  ∃ t, type.deref r = .ok t ∧ t.kind = type.innermost.kind

namespace Registry

/-- Types stand under their own names. -/
def Keyed (r : Registry) : Prop :=
  ∀ name head, r.lookup name = some head → head.name = name

theorem pointsInto_iff {r : Registry} (hr : r.Keyed) {type : ResolvedType} :
    type.PointsInto r ↔ type.Known r.lookup := by
  unfold ResolvedType.PointsInto ResolvedType.deref TypeName.deref ResolvedType.Known lookup
  dsimp only
  cases hfound : r.get? type.innermost.name with
  | none => simp
  | some t =>
    have hname : t.head.name = type.innermost.name := by
      refine hr _ _ ?_
      rw [lookup, hfound]
      rfl
    simp only [Except.ok.injEq, exists_eq_left', Option.map_some, Option.some.injEq]
    constructor
    · intro hkind
      have hhead : t.head = { kind := t.kind, name := t.head.name } := rfl
      rw [hhead, hkind, hname]
    · intro hhead
      rw [← hhead]
      rfl

end Registry

theorem Builder.Regular.keyed_types {b : Builder} (hb : b.Regular host) : b.types.Keyed := by
  intro name head hhead
  obtain ⟨t, ht, rfl⟩ := Option.map_eq_some_iff.mp hhead
  exact hb.keyed (name, t) (Entries.mem_of_get? ht)

/-- With what is produced in this world, the reference resolves to the type; the type points into
the registry exactly if the reference is anchored in it. -/
structure TypeRef.LeadsTo (host : Host W) (r : Registry) (w : W) (ref : TypeRef)
    (type : ResolvedType) : Prop where
  outcome : (ref.unfolded host w).outcome r.lookup = .ok type
  pointsInto_iff : type.PointsInto r ↔ (ref.unfolded host w).Anchored r.lookup

theorem TypeRef.leadsTo_of_outcome {r : Registry} (hr : r.Keyed) {w : W} {ref : TypeRef}
    {type : ResolvedType} (h : (ref.unfolded host w).outcome r.lookup = .ok type) :
    ref.LeadsTo host r w type where
  outcome := h
  pointsInto_iff := (Registry.pointsInto_iff hr).trans (known_iff hr h)

/-! ### Fields and arguments of a schema -/

namespace Schema

/-- The field is one that an object or interface of the schema keeps. -/
def HasField (schema : Schema) (f : Field) : Prop :=
  ∃ t ∈ schema.types.types.items, ∃ c m, t.asComposite? = some c ∧ c.fields = some (.ok m) ∧
    ∃ slot ∈ m.slots.items, slot.outcome? = some (.ok f)

/-- Every object or interface of the schema keeps its fields, and each of them is known. -/
def FieldsKnown (schema : Schema) : Prop :=
  ∀ t ∈ schema.types.types.items, ∀ c, t.asComposite? = some c → ∃ m, c.fields = some (.ok m) ∧
    ∀ slot ∈ m.slots.items, ∃ f, slot.outcome? = some (.ok f)

/-- The argument belongs to a field, an input object or a directive of the schema. -/
inductive HasArgument (schema : Schema) : Argument → Prop
  | field {f : Field} {a : Argument} (hf : schema.HasField f) (ha : a ∈ f.arguments) :
      HasArgument schema a
  | inputField {t : InputObject} {a : Argument} (ht : .inputObject t ∈ schema.types.types.items)
      (ha : a ∈ t.fields.items) : HasArgument schema a
  | directive {e : DirectiveEntry} {a : Argument} (he : e ∈ schema.directives.entries.items)
      (ha : a ∈ e.definition.arguments) : HasArgument schema a

/-- All fields and arguments of the schema are settled. -/
structure Settled (host : Host W) (s : Store W) (schema : Schema) : Prop where
  types : ∀ t ∈ schema.types.types.items, t.Settled host schema.types.lookup s
  directives : ∀ e ∈ schema.directives.entries.items, ∀ a ∈ e.definition.arguments,
    a.Settled host schema.types.lookup

namespace Settled

variable {schema : Schema} {s : Store W}

theorem of_asComposite? (h : schema.Settled host s) {t : TypeDef}
    (ht : t ∈ schema.types.types.items) {c : Composite} (hc : t.asComposite? = some c) :
    c.Settled host schema.types.lookup s := by
  have htype := h.types t ht
  cases t with
  | interface c' | object c' =>
    obtain rfl := Option.some.inj hc
    exact htype
  | _ => cases hc

theorem fieldsKnown (h : schema.Settled host s) : schema.FieldsKnown := by
  intro t ht c hc
  obtain ⟨m, hm, hall⟩ := h.of_asComposite? ht hc
  refine ⟨m, hm, fun slot hslot => ?_⟩
  obtain ⟨f, hf, -⟩ := hall slot hslot
  exact ⟨f, hf⟩

theorem of_hasField (h : schema.Settled host s) {f : Field} (hf : schema.HasField f) :
    f.Settled host schema.types.lookup s := by
  obtain ⟨t, ht, c, m, hc, hm, slot, hslot, houtcome⟩ := hf
  obtain ⟨m', hm', hall⟩ := h.of_asComposite? ht hc
  obtain rfl := Except.ok.inj (Option.some.inj (hm.symm.trans hm'))
  obtain ⟨f', hf', hsettled⟩ := hall slot hslot
  obtain rfl := Except.ok.inj (Option.some.inj (houtcome.symm.trans hf'))
  exact hsettled

theorem of_hasArgument (h : schema.Settled host s) {a : Argument} (ha : schema.HasArgument a) :
    a.Settled host schema.types.lookup := by
  cases ha with
  | field hf ha => exact (h.of_hasField hf).arguments a ha
  | inputField ht ha => exact h.types _ ht a ha
  | directive he ha => exact h.directives _ he a ha

end Settled

end Schema

namespace Builder

/-- What validation settles of each type where it finds nothing is settled in a built schema. -/
theorem forall_types_of_build {I : Store W → Prop} {P : TypeDef → Store W → Prop} {b : Builder}
    (hI : Steady host b.types.lookup I) (hP : ∀ t, Steady host b.types.lookup (P t))
    (hvalidate : ∀ (t : TypeDef) s, I s → (t.validate host b.types.lookup s).1.1 = [] →
      P (t.validate host b.types.lookup s).1.2 (t.validate host b.types.lookup s).2)
    {s s' : Store W} {schema : Schema} (hs : I s)
    (hbuild : (b.build host).run s = (.ok schema, s')) :
    ∀ t ∈ schema.types.types.items, P t s' := by
  obtain ⟨hnone, rfl, rfl⟩ := eq_of_build hbuild
  obtain ⟨htypes, -⟩ := List.append_eq_nil_iff.mp hnone
  intro t ht
  have hsettled := Registry.forall_of_validateTypes hI hP hvalidate b.types.types s hs htypes t ht
  have hlookup := (b.types.validate_advances host s).1.lookup_eq
  refine hP t _ _ (.record _) ?_
  rw [validate_apply]
  dsimp only
  rw [hlookup]
  exact b.directives.complete.preserves_validate (hP t) _ hsettled

/-- The fields and arguments of a built schema are settled, and the types that were remembered
before are remembered still. -/
theorem settled_of_build {b : Builder} {s s' : Store W} {schema : Schema}
    (hbuild : (b.build host).run s = (.ok schema, s')) :
    schema.Settled host s' ∧ schema.types.lookup = b.types.lookup ∧
      s.Extends (TypeRef.MayResolveTo host schema.types.lookup) s' := by
  have hsettled := forall_types_of_build (I := fun _ => True) (fun _ _ _ hs => hs)
    (fun t => t.aboutCells_settled.steady) (fun t s _ => t.settled_of_validate s) trivial hbuild
  obtain ⟨hnone, rfl, rfl⟩ := eq_of_build hbuild
  have hlookup : (b.validate host s).1.2.types.lookup = b.types.lookup :=
    (b.types.validate_advances host s).1.lookup_eq
  have hgrown : AboutCells host b.types.lookup
      (s.Extends (TypeRef.MayResolveTo host b.types.lookup)) :=
    Store.Extends.aboutCells (fun _ _ h => h) s
  have hextends := b.preserves_validate hgrown.steady s (.refl _ s)
  obtain ⟨-, hdirectives⟩ := List.append_eq_nil_iff.mp hnone
  refine ⟨⟨?_, DirectiveSet.settled_of_validate _ _ hdirectives⟩, hlookup, ?_⟩
  · rwa [hlookup]
  · rw [hlookup]
    exact hextends.of_resolved_eq rfl

/-- **References of a built schema resolve, and those that are anchored point into it.** Whatever
the functions of the host answer, all fields of a schema are known. Each of them resolves to the
type that was remembered for it before the schema was built or to one that its reference leads to,
and each argument resolves to one that its reference leads to, whenever its deferred references
produce what they produced then. -/
theorem references_of_build {b : Builder} (hb : b.Grown host) {s s' : Store W} {schema : Schema}
    (hbuild : (b.build host).run s = (.ok schema, s')) : schema.FieldsKnown ∧
    (∀ f, schema.HasField f → ∃ ref type, f.typeRef = some ref ∧
        ((f.resolveType host schema.types.lookup).run s').1 = .ok type ∧
        (s.resolved? ⟨f.id, ref⟩ = some type ∧
            (type.PointsInto schema.types ↔ type.Known schema.types.lookup) ∨
          ∃ w, ref.LeadsTo host schema.types w type)) ∧
      ∀ a, schema.HasArgument a → ∃ ref type w, a.typeRef = some ref ∧
        ref.LeadsTo host schema.types w type ∧
        ∀ s₁ : Store W, ref.unfolded host s₁.world = ref.unfolded host w →
          ((a.resolveType host schema.types.lookup).run s₁).1 = .ok type := by
  obtain ⟨hsettled, hlookup, hextends⟩ := settled_of_build hbuild
  have hkeyed : schema.types.Keyed := by
    rw [Registry.Keyed, hlookup]
    exact hb.regular.keyed_types
  refine ⟨hsettled.fieldsKnown, ?_, ?_⟩
  · intro f hf
    obtain ⟨ref, type, href, hfound⟩ := (hsettled.of_hasField hf).type
    refine ⟨ref, type, href, ?_, ?_⟩
    · rw [Field.run_resolveType_of_remembered href hfound]
    · have htype := hextends.types _ _ hfound
      unfold Store.Types at htype
      cases hcell : s.resolved? ⟨f.id, ref⟩ with
      | some found =>
        rw [hcell] at htype
        exact .inl ⟨congrArg some htype.symm, Registry.pointsInto_iff hkeyed⟩
      | none =>
        rw [hcell] at htype
        obtain ⟨w, hw⟩ := htype
        exact .inr ⟨w, TypeRef.leadsTo_of_outcome hkeyed hw⟩
  · intro a ha
    obtain ⟨ref, type, href, w, hw⟩ := hsettled.of_hasArgument ha
    refine ⟨ref, type, w, href, TypeRef.leadsTo_of_outcome hkeyed hw, fun s₁ hs₁ => ?_⟩
    rw [Argument.resolveType, href, TypeRef.resolveOption, TypeRef.run_resolve_fst, hs₁]
    exact hw

/-- An object whose only field has a type that was given ready. -/
def hauntedType : TypeDef :=
  .object (.declare "Query" none (.declared [(.name "ghost", .type (.ready ⟨.scalar, "Ghost"⟩))]))

/-- The builder of a schema with that object, in which the ready type is not registered. -/
def haunted : Builder :=
  { directives := .empty, types := ⟨Registry.initial.types ++ [("Query", hauntedType)]⟩ }

theorem grown_haunted : haunted.Grown textOracle.host := by
  refine .addType (b := .initial) (t := hauntedType) (s := .start ()) .initial ?_ rfl
  rintro _ ⟨⟩
  exact .declare "Query" none _

theorem references_haunted : ∃ schema s',
    (haunted.build textOracle.host).run (.start ()) = (.ok schema, s') ∧ schema.FieldsKnown ∧
      ∀ f, schema.HasField f → ∃ ref type, f.typeRef = some ref ∧
        ((f.resolveType textOracle.host schema.types.lookup).run s').1 = .ok type ∧
        ((Store.start ()).resolved? ⟨f.id, ref⟩ = some type ∧
            (type.PointsInto schema.types ↔ type.Known schema.types.lookup) ∨
          ∃ w, ref.LeadsTo textOracle.host schema.types w type) := by
  have hbuild : ∃ schema s', (haunted.build textOracle.host).run (.start ()) = (.ok schema, s') :=
    ⟨_, _, rfl⟩
  obtain ⟨schema, s', hbuild⟩ := hbuild
  obtain ⟨hknown, hfields, -⟩ := references_of_build grown_haunted hbuild
  exact ⟨schema, s', hbuild, hknown, hfields⟩

/-- A schema is built although the name of what one of its fields resolves to leads nowhere. -/
theorem dangling_haunted : haunted.Grown textOracle.host ∧ ∃ schema s' f type,
    (haunted.build textOracle.host).run (.start ()) = (.ok schema, s') ∧ schema.HasField f ∧
      ((f.resolveType textOracle.host schema.types.lookup).run s').1 = .ok type ∧
      type.deref schema.types = .error ⟨"Ghost"⟩ := by
  refine ⟨grown_haunted, _, _,
    { name := "ghost", arguments := [], typeRef := some (.ready ⟨.scalar, "Ghost"⟩),
      resolution := .standard, estimator := none, description := none, deprecationReason := none,
      source := Declaration.shorthandRecord "ghost" (.type (.ready ⟨.scalar, "Ghost"⟩)), id := 0 },
    .named ⟨.scalar, "Ghost"⟩, rfl, ?_, rfl, rfl⟩
  exact ⟨_, List.mem_of_getElem? (i := 5) rfl, _, _, rfl, rfl, _,
    List.mem_of_getElem? (i := 0) rfl, rfl⟩

end Builder

end Schemata
