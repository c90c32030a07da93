import Schemata.Proofs.Deferral
import Schemata.Proofs.Reading
import Schemata.Schema

/-!
# Well-formed schemas

What it means for the types and directives of a builder to make a schema, said without a store. It
is said for hosts whose functions answer the same whenever they are called: the answers are an
oracle, and the relations below follow from the declarations and the oracle alone.

## Main definitions

* `Schemata.Oracle`, `Schemata.Host.Follows`: answers that do not depend on the world of the host.
* `Schemata.TypeRef.ResolvesTo`: the type that a reference stands for.
* `Schemata.FieldDraft.Becomes`: the content of the field that a draft becomes.
* `Schemata.FieldSet.Normalises`: the drafts of a set of fields.
* `Schemata.Argument.WellFormed`, `Schemata.FieldSpec.WellFormed`, `Schemata.TypeDef.WellFormed`,
  `Schemata.Directive.WellFormed`, `Schemata.Builder.WellFormed`: what validation is about.

## Main results

* `Schemata.TypeRef.Denotes.unique`: a reference stands for one type.
* `Schemata.Oracle.produces_iff`: the declarations in which chains of producers end.
* `Schemata.FieldSet.drafts_eq_ok_iff`: the drafts of a set are those that it normalises to.
-/

namespace Schemata

variable {W : Type}

/-- Answers to the functions that declare types and fields. -/
structure Oracle where
  typeOf : Handle → TypeRef
  fieldOf : Handle → Config
  fieldSetOf : Handle → Config

/-- The host answers as the oracle says, whatever happened before. What a call makes of the world of
the host is left open. -/
structure Host.Follows (host : Host W) (oracle : Oracle) : Prop where
  typeOf : ∀ h w, (host.typeOf h w).1 = oracle.typeOf h
  fieldOf : ∀ h w, (host.fieldOf h w).1 = oracle.fieldOf h
  fieldSetOf : ∀ h w, (host.fieldSetOf h w).1 = oracle.fieldSetOf h

/-- A host that answers as the oracle says, and whose world never changes. -/
def Oracle.host (oracle : Oracle) : Host Unit where
  typeOf h w := (oracle.typeOf h, w)
  fieldOf h w := (oracle.fieldOf h, w)
  fieldSetOf h w := (oracle.fieldSetOf h, w)
  resolve _ parent _ w := (parent, w)
  map _ parents _ w := (parents, w)
  complexity _ children _ w := (children, w)

theorem Oracle.follows_host (oracle : Oracle) : oracle.host.Follows oracle :=
  ⟨fun _ _ => rfl, fun _ _ => rfl, fun _ _ => rfl⟩

/-! ### References -/

namespace TypeRef

/-- The reference stands for the type, where so many deferred references may follow one another. -/
inductive Denotes (oracle : Oracle) (types : TypeLookup) : Nat → TypeRef → ResolvedType → Prop
  | ready (n : Nat) (head : TypeHead) : Denotes oracle types n (.ready head) (.named head)
  | named {n : Nat} {name : String} {head : TypeHead} (h : types name = some head) :
      Denotes oracle types n (.named name) (.named head)
  | list {n : Nat} {inner : TypeRef} {type : ResolvedType} (h : Denotes oracle types n inner type) :
      Denotes oracle types n (.list inner) (.list type)
  | nonNull {n : Nat} {inner : TypeRef} {type : ResolvedType}
      (h : Denotes oracle types n inner type) (hnullable : type.isNullable = true) :
      Denotes oracle types n (.nonNull inner) (.nonNull type)
  | deferred {n : Nat} {producer : Handle} {type : ResolvedType}
      (h : Denotes oracle types n (oracle.typeOf producer) type) :
      Denotes oracle types (n + 1) (.deferred producer) type

/-- The type that the reference stands for. -/
def ResolvesTo (oracle : Oracle) (types : TypeLookup) (ref : TypeRef) (type : ResolvedType) :
    Prop :=
  ref.Denotes oracle types maxDeferrals type

/-- A reference stands for one type. -/
theorem Denotes.unique {oracle : Oracle} {types : TypeLookup} {n : Nat} {ref : TypeRef}
    {type type' : ResolvedType} (h : ref.Denotes oracle types n type)
    (h' : ref.Denotes oracle types n type') : type' = type := by
  induction h generalizing type' with
  | ready n head =>
    cases h'
    rfl
  | named h =>
    cases h' with
    | named h' => rw [Option.some.inj (h.symm.trans h')]
  | list h ih =>
    cases h' with
    | list h' => rw [ih h']
  | nonNull h hnullable ih =>
    cases h' with
    | nonNull h' => rw [ih h']
  | deferred h ih =>
    cases h' with
    | deferred h' => exact ih h'

end TypeRef

/-! ### Arguments and fields -/

/-- A name that a schema may declare. -/
def Name.IsDeclarable (name : String) : Prop :=
  isGrammatical name = true ∧ isReserved name = false

theorem Name.validate_eq_ok_iff {name : String} : validate name = .ok () ↔ IsDeclarable name := by
  unfold validate IsDeclarable
  cases isReserved name <;> cases isGrammatical name <;> simp

/-- The argument may be declared: its type is an input type, and it is not deprecated while callers
have to give it. -/
structure Argument.WellFormed (oracle : Oracle) (types : TypeLookup) (a : Argument) : Prop where
  name : Name.IsDeclarable a.name
  type : ∃ ref type, a.typeRef = some ref ∧ ref.ResolvesTo oracle types type ∧
    type.isInput = true ∧ ¬ (a.isRequired type = true ∧ a.isDeprecated = true)

/-- The field may be declared, if its reference stands for the types that `typed` says. -/
structure FieldSpec.WellFormedAs (oracle : Oracle) (types : TypeLookup)
    (typed : TypeRef → ResolvedType → Prop) (spec : FieldSpec) : Prop where
  name : Name.IsDeclarable spec.name
  notFlagged : Entries.contains spec.source Key.isDeprecated = false
  type : ∃ ref type, spec.typeRef = some ref ∧ typed ref type ∧
    type.innermost.kind ≠ .inputObject
  /-- Entries of the record for functions are functions of the kind that their role needs. -/
  callables : ∀ role value, Entries.get? spec.source (CallableRole.key role) = some value →
    ∃ handle, value = .callable ⟨role.kind, handle⟩
  argumentNames : (spec.arguments.map Argument.name).Nodup
  arguments : ∀ a ∈ spec.arguments, a.WellFormed oracle types

/-- The field may be declared. -/
def FieldSpec.WellFormed (oracle : Oracle) (types : TypeLookup) (spec : FieldSpec) : Prop :=
  FieldSpec.WellFormedAs oracle types (TypeRef.ResolvesTo oracle types) spec

/-! ### Deferred fields -/

/-- Asking the producer leads to the declared value, which is no producer again, after so many calls
at most. -/
inductive Oracle.Produces (oracle : Oracle) : Nat → Handle → Config → Prop
  | final {n : Nat} {producer : Handle}
      (h : (oracle.fieldOf producer).asProducer? = none) :
      Produces oracle (n + 1) producer (oracle.fieldOf producer)
  | next {n : Nat} {producer next : Handle} {declared : Config}
      (h : (oracle.fieldOf producer).asProducer? = some next)
      (hnext : Produces oracle n next declared) :
      Produces oracle (n + 1) producer declared

/-- The final declaration of a chain is the one that the oracle produces. -/
theorem Oracle.produces_iff {host : Host W} {oracle : Oracle} (hhost : host.Follows oracle)
    {n : Nat} {producer : Handle} {w : W} {declared : Config} :
    oracle.Produces n producer declared ↔
      Production.final? (host.chain n producer w).1 = some declared := by
  induction n generalizing producer w with
  | zero =>
    constructor
    · rintro ⟨⟩
    · intro h
      simp [Host.chain, Production.final?] at h
  | succ n ih =>
    have hanswer := hhost.fieldOf producer w
    rw [Host.chain]
    cases hproducer : (oracle.fieldOf producer).asProducer? with
    | none =>
      have hfinal : Production.final? [⟨producer, oracle.fieldOf producer⟩] =
          some (oracle.fieldOf producer) := by
        simp [Production.final?, hproducer]
      simp only [hanswer, hproducer, hfinal, Option.some.injEq]
      constructor
      · rintro (h | ⟨h, -⟩)
        · rfl
        · rw [hproducer] at h
          cases h
      · rintro rfl
        exact .final hproducer
    | some next =>
      have hfinal : ∀ chain, Production.final? (⟨producer, oracle.fieldOf producer⟩ :: chain) =
          Production.final? chain :=
        fun _ => Production.final?_cons_of_producer (by simp [hproducer])
      simp only [hanswer, hproducer, hfinal]
      rw [← ih]
      constructor
      · rintro (h | ⟨h, hnext⟩)
        · rw [hproducer] at h
          cases h
        · obtain rfl := Option.some.inj (hproducer.symm.trans h)
          exact hnext
      · exact fun hnext => .next hproducer hnext

/-- The content of the field that a draft becomes: a deferred field becomes what its producer leads
to, declared under its name. -/
inductive FieldDraft.Becomes (oracle : Oracle) : FieldDraft → FieldSpec → Prop
  | defined (spec : FieldSpec) : Becomes oracle (.defined spec) spec
  | deferred {field : DeferredField} {declared : Config} {spec : FieldSpec}
      (hproduces : oracle.Produces DeferredField.maxDeferrals field.producer declared)
      (hdeclare : FieldDraft.declare field.parent (.name field.name) declared =
        .ok (.defined spec)) : Becomes oracle (.deferred field) spec

/-- What forcing a deferred field gives is what it becomes. -/
theorem Forcing.Yields.becomes_iff {host : Host W} {oracle : Oracle} (hhost : host.Follows oracle)
    {f : Forcing W} {outcome : Except Violation Field} (h : f.Yields host outcome)
    {spec : FieldSpec} : (FieldDraft.deferred f.field).Becomes oracle spec ↔
      outcome.map (fun field => field.toFieldSpecOf) = .ok spec := by
  have hproduces : ∀ declared,
      oracle.Produces DeferredField.maxDeferrals f.field.producer declared ↔
      Production.final? (f.chain host) = some declared :=
    fun declared => Oracle.produces_iff hhost
  unfold Yields at h
  cases hfinal : Production.final? (f.chain host) with
  | none =>
    rw [hfinal] at h
    obtain rfl := h
    constructor
    · rintro (_ | ⟨hdeclared, -⟩)
      rw [hproduces, hfinal] at hdeclared
      cases hdeclared
    · rintro ⟨⟩
  | some declared =>
    rw [hfinal] at h
    have hspec : outcome.map (fun field => field.toFieldSpecOf) = .ok spec ↔
        FieldDraft.declare f.field.parent (.name f.field.name) declared = .ok (.defined spec) := by
      rw [← h]
      cases outcome <;> simp [Except.map]
    rw [hspec]
    constructor
    · rintro (_ | ⟨hdeclared, hdeclare⟩)
      rw [hproduces, hfinal] at hdeclared
      obtain rfl := Option.some.inj hdeclared
      exact hdeclare
    · exact fun hdeclare => .deferred ((hproduces declared).mpr hfinal) hdeclare

/-! ### Sets of fields -/

namespace FieldSet

/-- The declarations of a set. -/
inductive Declares (oracle : Oracle) : FieldSet → List (FieldKey × Config) → Prop
  | declared (declarations : List (FieldKey × Config)) :
      Declares oracle (.declared declarations) declarations
  | record {producer : Handle} {entries : List (String × Config)}
      (h : oracle.fieldSetOf producer = .record entries) :
      Declares oracle (.deferred producer) (FieldKey.ofEntries entries)
  | list {producer : Handle} {items : List Config}
      (h : oracle.fieldSetOf producer = .list items) :
      Declares oracle (.deferred producer) (FieldKey.ofList items)

/-- The drafts of a set, one for each declaration, under pairwise distinct names. -/
def Normalises (oracle : Oracle) (typeName : String) (set : FieldSet) (drafts : List FieldDraft) :
    Prop :=
  ∃ declarations, set.Declares oracle declarations ∧
    List.Forall₂ (fun declaration draft =>
      FieldDraft.declare typeName declaration.1 declaration.2 = .ok draft) declarations drafts ∧
    (drafts.map FieldDraft.name).Nodup

theorem drafts_eq_ok_iff {oracle : Oracle} {typeName : String} {set : FieldSet}
    {drafts : List FieldDraft} :
    set.drafts typeName oracle.fieldSetOf = .ok drafts ↔
      set.Normalises oracle typeName drafts := by
  cases set with
  | declared declarations =>
    rw [FieldSet.drafts, FieldDraft.readAll_eq_ok_iff]
    constructor
    · exact fun h => ⟨declarations, .declared declarations, h⟩
    · rintro ⟨_, ⟨⟩, h⟩
      exact h
  | deferred producer =>
    rw [FieldSet.drafts, Outcome.bind_eq_ok_iff]
    constructor
    · rintro ⟨declarations, hdeclarations, h⟩
      refine ⟨declarations, ?_, (FieldDraft.readAll_eq_ok_iff _ _ _).mp h⟩
      cases hproduced : oracle.fieldSetOf producer with
      | record entries =>
        rw [hproduced] at hdeclarations
        obtain rfl := Except.ok.inj hdeclarations
        exact .record hproduced
      | list items =>
        rw [hproduced] at hdeclarations
        obtain rfl := Except.ok.inj hdeclarations
        exact .list hproduced
      | _ =>
        rw [hproduced] at hdeclarations
        cases hdeclarations
    · rintro ⟨declarations, hdeclares, h⟩
      refine ⟨declarations, ?_, (FieldDraft.readAll_eq_ok_iff _ _ _).mpr h⟩
      cases hdeclares with
      | record hproduced => rw [hproduced, declarationsOf]
      | list hproduced => rw [hproduced, declarationsOf]

end FieldSet

/-! ### Types, directives and builders -/

/-- The fields of the type can be read, each of them can be forced, and what they become may be
declared. -/
def Composite.WellFormed (oracle : Oracle) (types : TypeLookup) (c : Composite) : Prop :=
  ∃ drafts, c.fieldSet.Normalises oracle c.name drafts ∧
    ∀ draft ∈ drafts, ∃ spec, draft.Becomes oracle spec ∧ FieldSpec.WellFormed oracle types spec

/-- Every member of the union is a known object. -/
def UnionType.WellFormed (types : TypeLookup) (u : UnionType) : Prop :=
  ∀ member ∈ u.members, ∃ head, types member = some head ∧ head.kind = .object

/-- Every field of the input object may be declared. -/
def InputObject.WellFormed (oracle : Oracle) (types : TypeLookup) (t : InputObject) : Prop :=
  ∀ a ∈ t.fields.items, a.WellFormed oracle types

/-- The type may be part of a schema with the given types. -/
def TypeDef.WellFormed (oracle : Oracle) (types : TypeLookup) : TypeDef → Prop
  | .interface c | .object c => c.WellFormed oracle types
  | .union u => u.WellFormed types
  | .inputObject t => t.WellFormed oracle types
  | .builtin _ | .enum _ | .scalar _ => True

/-- The arguments of the directive have pairwise distinct names, and each of them may be
declared. -/
structure Directive.WellFormed (oracle : Oracle) (types : TypeLookup) (d : Directive) : Prop where
  argumentNames : (d.arguments.map Argument.name).Nodup
  arguments : ∀ a ∈ d.arguments, a.WellFormed oracle types

/-- All types and all declared directives of the builder may be part of one schema. -/
structure Builder.WellFormed (oracle : Oracle) (b : Builder) : Prop where
  types : ∀ t ∈ b.types.types.items, t.WellFormed oracle b.types.lookup
  directives : ∀ d, .declared d ∈ b.directives.entries.items →
    d.WellFormed oracle b.types.lookup

end Schemata
