import Schemata.Proofs.Stability
import Schemata.Proofs.WellFormed

/-!
# Checks decide well-formedness

With a host that follows an oracle, each check passes if what it looks at is well formed, and fails
otherwise. A field gives the type that the store remembers for it, if it does, so the check of a
field is about the type that its cell has had from some store on.

## Main definitions

* `Schemata.Store.Types`: the type that a cell has from a store on.
* `Schemata.Store.Extends`: a store that remembers more than another, and nothing else.

## Main results

* `Schemata.TypeRef.decides_resolve`: resolving finds the type that a reference stands for.
* `Schemata.Argument.decides_checkAll`, `Schemata.Field.decides_check`: what checks pass.
* `Schemata.Attempt.violations_eq_nil_iff`: checks made one after the other.
-/

namespace Schemata

variable {W α ε : Type} {host : Host W} {oracle : Oracle} {types : TypeLookup}
  {I : Store W → Prop}

/-! ### References -/

theorem Attempt.decides_typeOf (hhost : host.Follows oracle)
    (hI : ∀ h, Run.Preserves I (Run.typeOf host h)) (h : Handle) :
    Attempt.Decides I (ofRun (Run.typeOf host h) : Attempt W ε TypeRef) (· = oracle.typeOf h) := by
  refine fun s hs => ⟨fun ref => ?_, hI h s hs⟩
  rw [run_ofRun_apply, ← hhost.typeOf h s.world]
  constructor
  · exact fun heq => (Except.ok.inj heq).symm
  · rintro rfl
    rfl

namespace TypeRef

theorem decides_resolveWith {onDeferred : Handle → Attempt W ResolutionError ResolvedType} {n : Nat}
    (hdeferred : ∀ producer,
      Attempt.Decides I (onDeferred producer) (Denotes oracle types n (.deferred producer)))
    (ref : TypeRef) :
    Attempt.Decides I (ref.resolveWith types onDeferred) (ref.Denotes oracle types n) := by
  induction ref with
  | deferred producer => exact hdeferred producer
  | ready head =>
    refine (Attempt.decides_pure _).imp fun type => ⟨?_, ?_⟩
    · rintro rfl
      exact .ready n head
    · rintro ⟨⟩
      rfl
  | list inner ih =>
    refine (ih.bind fun type _ => Attempt.decides_pure _).imp fun type => ⟨?_, ?_⟩
    · rintro ⟨found, hfound, rfl⟩
      exact .list hfound
    · rintro (_ | _ | hfound)
      exact ⟨_, hfound, rfl⟩
  | named name =>
    refine (Attempt.decides_ofExcept _).imp fun type => ?_
    unfold lookUp
    cases hhead : types name with
    | none =>
      constructor
      · rintro ⟨⟩
      · rintro ⟨⟩
        simp_all
    | some head =>
      constructor
      · rintro ⟨⟩
        exact .named hhead
      · rintro (_ | hfound)
        rw [Option.some.inj (hhead.symm.trans hfound)]
  | nonNull inner ih =>
    refine (ih.bind fun type _ => Attempt.decides_ofExcept _).imp fun type => ⟨?_, ?_⟩
    · rintro ⟨found, hfound, hwrap⟩
      obtain ⟨hnullable, rfl⟩ := wrapNonNull_eq_ok_iff.mp hwrap
      exact .nonNull hfound hnullable
    · rintro (_ | _ | _ | ⟨hfound, hnullable⟩)
      exact ⟨_, hfound, wrapNonNull_eq_ok_iff.mpr ⟨hnullable, rfl⟩⟩

theorem decides_resolveWithin (hhost : host.Follows oracle)
    (hI : ∀ h, Run.Preserves I (Run.typeOf host h)) (n : Nat) (ref : TypeRef) :
    Attempt.Decides I (ref.resolveWithin host types n) (ref.Denotes oracle types n) := by
  induction n generalizing ref with
  | zero =>
    refine decides_resolveWith (fun producer => ?_) ref
    refine (Attempt.decides_throw _).imp fun type => ⟨False.elim, ?_⟩
    rintro ⟨⟩
  | succ n ih =>
    refine decides_resolveWith (fun producer => ?_) ref
    refine ((Attempt.decides_typeOf hhost hI producer).bind fun produced _ => ih produced).imp
      fun type => ⟨?_, ?_⟩
    · rintro ⟨produced, rfl, hproduced⟩
      exact .deferred hproduced
    · rintro (_ | _ | _ | _ | hproduced)
      exact ⟨_, rfl, hproduced⟩

/-- **Resolving finds the type that a reference stands for**, and fails if there is none. -/
theorem decides_resolve (hhost : host.Follows oracle)
    (hI : ∀ h, Run.Preserves I (Run.typeOf host h)) (ref : TypeRef) :
    Attempt.Decides I (ref.resolve host types) (ref.ResolvesTo oracle types) :=
  decides_resolveWithin hhost hI maxDeferrals ref

/-- In every world of the host the reference resolves to the type that it stands for. -/
theorem outcome_unfolded_iff (hhost : host.Follows oracle) {ref : TypeRef} {type : ResolvedType}
    (w : W) :
    (ref.unfolded host w).outcome types = .ok type ↔ ref.ResolvesTo oracle types type := by
  have hdecides : Attempt.Decides (fun _ => True) (ref.resolve host types)
      (ref.ResolvesTo oracle types) := decides_resolve hhost (fun _ _ _ => trivial) ref
  have hresolves := (hdecides (.start w) trivial).1 type
  rw [run_resolve_fst] at hresolves
  exact hresolves

theorem MayResolveTo.resolvesTo (hhost : host.Follows oracle) {ref : TypeRef}
    {type : ResolvedType} (h : ref.MayResolveTo host types type) :
    ref.ResolvesTo oracle types type := by
  obtain ⟨w, hw⟩ := h
  exact (outcome_unfolded_iff hhost w).mp hw

end TypeRef

/-! ### Remembered types -/

namespace Store

variable {R : TypeRef → ResolvedType → Prop}

/-- The type that a cell has from the store on: the one that is remembered in it, or else one that
its reference may resolve to. -/
def Types (R : TypeRef → ResolvedType → Prop) (s : Store W) (cell : Cell) (type : ResolvedType) :
    Prop :=
  match s.resolved? cell with
  | some found => type = found
  | none => R cell.ref type

theorem Types.unique {s : Store W} {cell : Cell} {type type' : ResolvedType}
    (h : s.Types (TypeRef.ResolvesTo oracle types) cell type)
    (h' : s.Types (TypeRef.ResolvesTo oracle types) cell type') : type' = type := by
  unfold Types at h h'
  split at h <;> rename_i hcell <;> rw [hcell] at h'
  · exact h'.trans h.symm
  · exact TypeRef.Denotes.unique h h'

/-- The second store remembers what the first one does, and otherwise nothing but types that
references may resolve to. -/
structure Extends (R : TypeRef → ResolvedType → Prop) (s₀ s : Store W) : Prop where
  keeps : s₀.Keeps s
  types : ∀ cell type, s.resolved? cell = some type → s₀.Types R cell type

namespace Extends

theorem refl (R : TypeRef → ResolvedType → Prop) (s : Store W) : s.Extends R s where
  keeps _ _ := id
  types cell type h := by rw [Types, h]

theorem of_resolved_eq {s₀ s s' : Store W} (h : s₀.Extends R s) (heq : s'.resolved = s.resolved) :
    s₀.Extends R s' := by
  constructor
  · rw [Keeps, resolved?_eq heq]
    exact h.keeps
  · rw [resolved?_eq heq]
    exact h.types

theorem preserves_typeOf (s₀ : Store W) (h : Handle) :
    Run.Preserves (s₀.Extends R) (Run.typeOf host h) :=
  fun _ hs => hs.of_resolved_eq rfl

/-- A cell that is empty may be filled with a type that its reference may resolve to. -/
theorem remember {s₀ s : Store W} (h : s₀.Extends R s) {cell : Cell} {type : ResolvedType}
    (hempty : s.resolved? cell = none) (htype : s₀.Types R cell type) :
    s₀.Extends R (s.remember cell type) where
  keeps other found hfound := keeps_remember hempty type other found (h.keeps other found hfound)
  types other found := by
    rw [resolved?_remember]
    split_ifs with hother
    · rintro ⟨⟩
      rw [hother]
      exact htype
    · exact h.types other found

/-- A cell that is empty was empty before. -/
theorem types_iff {s₀ s : Store W} (h : s₀.Extends R s) {cell : Cell}
    (hempty : s.resolved? cell = none) {type : ResolvedType} :
    s₀.Types R cell type ↔ R cell.ref type := by
  unfold Types
  cases hcell : s₀.resolved? cell with
  | some found =>
    rw [h.keeps _ _ hcell] at hempty
    cases hempty
  | none => exact Iff.rfl

/-- Extending a store survives everything that fills cells. -/
theorem aboutCells (hR : ∀ ref type, ref.MayResolveTo host types type → R ref type)
    (s₀ : Store W) : AboutCells host types (s₀.Extends R) where
  of_resolved_eq _ _ heq hs := hs.of_resolved_eq heq
  remember _ _ _ hempty htype hs := hs.remember hempty ((hs.types_iff hempty).mpr (hR _ _ htype))

end Extends

end Store

/-! ### Arguments -/

namespace Argument

theorem decides_check (hhost : host.Follows oracle)
    (hI : ∀ h, Run.Preserves I (Run.typeOf host h)) (owner : ArgumentOwner) (a : Argument) :
    Attempt.Decides I (a.check host types owner) fun _ => a.WellFormed oracle types := by
  have htype : Attempt.Decides I (a.resolveType host types) fun type =>
      ∃ ref, a.typeRef = some ref ∧ ref.ResolvesTo oracle types type := by
    rw [resolveType]
    cases a.typeRef with
    | none => exact (Attempt.decides_throw _).imp fun type => by simp
    | some ref => exact (TypeRef.decides_resolve hhost hI ref).imp fun type => by simp
  have hsound : Attempt.Decides I (do
      let type ← Attempt.mapError (Violation.unresolvableArgumentType a.name owner)
        (a.resolveType host types)
      Attempt.require type.isInput (.invalidArgumentType a.name owner type.text)
      Attempt.require (!(a.isRequired type && a.isDeprecated))
        (.deprecatedRequiredArgument a.name owner)) fun _ =>
      ∃ type, (∃ ref, a.typeRef = some ref ∧ ref.ResolvesTo oracle types type) ∧
        type.isInput = true ∧ ¬ (a.isRequired type = true ∧ a.isDeprecated = true) := by
    refine (htype.mapError _).bind fun type _ => (Attempt.decides_require _ _).and ?_
    refine (Attempt.decides_require _ _).imp fun _ => ?_
    rw [Bool.not_eq_true', ← Bool.and_eq_true, Bool.not_eq_true]
  refine ((((Attempt.decides_ofExcept _).mapError _).imp fun _ =>
    Name.validate_eq_ok_iff).and hsound).imp fun _ => ⟨?_, ?_⟩
  · rintro ⟨hname, type, ⟨ref, href, hresolves⟩, hinput, hrequired⟩
    exact ⟨hname, ref, type, href, hresolves, hinput, hrequired⟩
  · rintro ⟨hname, ref, type, href, hresolves, hinput, hrequired⟩
    exact ⟨hname, type, ⟨ref, href, hresolves⟩, hinput, hrequired⟩

theorem decides_checkAfter (hhost : host.Follows oracle)
    (hI : ∀ h, Run.Preserves I (Run.typeOf host h)) (owner : ArgumentOwner)
    (arguments : List Argument) : ∀ seen : List String,
      Attempt.Decides I (checkAfter host types owner seen arguments) fun _ =>
        ((arguments.map Argument.name).Nodup ∧ ∀ a ∈ arguments, a.name ∉ seen) ∧
          ∀ a ∈ arguments, a.WellFormed oracle types := by
  induction arguments with
  | nil => exact fun seen => (Attempt.decides_pure ()).imp fun _ => by simp
  | cons a rest ih =>
    intro seen
    refine ((Attempt.decides_require _ _).and ((decides_check hhost hI owner a).and
      (ih (a.name :: seen)))).imp fun _ => ?_
    rw [List.forall_mem_cons, List.forall_mem_cons]
    simp only [Bool.not_eq_true', List.contains_eq_mem, decide_eq_false_iff_not, List.map_cons,
      List.nodup_cons, List.mem_map, not_exists, not_and, List.mem_cons, not_or]
    constructor
    · rintro ⟨hfresh, ha, ⟨hnodup, hseen⟩, hrest⟩
      exact ⟨⟨⟨fun b hb => (hseen b hb).1, hnodup⟩, hfresh, fun b hb => (hseen b hb).2⟩, ha, hrest⟩
    · rintro ⟨⟨⟨hnew, hnodup⟩, hfresh, hseen⟩, ha, hrest⟩
      exact ⟨hfresh, ha, ⟨hnodup, fun b hb => ⟨hnew b hb, hseen b hb⟩⟩, hrest⟩

/-- **The arguments of an owner** pass if their names are pairwise distinct and each of them may be
declared. -/
theorem decides_checkAll (hhost : host.Follows oracle)
    (hI : ∀ h, Run.Preserves I (Run.typeOf host h)) (owner : ArgumentOwner)
    (arguments : List Argument) :
    Attempt.Decides I (checkAll host types owner arguments) fun _ =>
      (arguments.map Argument.name).Nodup ∧ ∀ a ∈ arguments, a.WellFormed oracle types :=
  (decides_checkAfter hhost hI owner arguments []).imp fun _ => by simp

end Argument

/-! ### Fields -/

namespace Field

variable (s₀ : Store W)

/-- The field has the type that its cell has, whenever it is asked for. -/
theorem decides_resolveRef (hhost : host.Follows oracle) (f : Field) (ref : TypeRef) :
    Attempt.Decides (s₀.Extends (TypeRef.ResolvesTo oracle types)) (f.resolveRef host types ref)
      (s₀.Types (TypeRef.ResolvesTo oracle types) ⟨f.id, ref⟩) := by
  intro s hs
  rw [resolveRef_apply]
  cases hcell : s.resolved? ⟨f.id, ref⟩ with
  | some found =>
    have hfound := hs.types _ _ hcell
    refine ⟨fun type => ⟨fun h => ?_, fun h => ?_⟩, hs⟩
    · obtain rfl := Except.ok.inj h
      exact hfound
    · rw [hfound.unique h]
  | none =>
    have hunknown : ∀ type, s₀.Types (TypeRef.ResolvesTo oracle types) ⟨f.id, ref⟩ type ↔
        ref.ResolvesTo oracle types type := fun _ => hs.types_iff hcell
    have hdecides : Attempt.Decides (s₀.Extends (TypeRef.ResolvesTo oracle types))
        (ref.resolve host types) (ref.ResolvesTo oracle types) :=
      TypeRef.decides_resolve hhost (Store.Extends.preserves_typeOf s₀) ref
    obtain ⟨hresolves, hextends⟩ := hdecides s hs
    have hresolved := TypeRef.resolved_resolve host types ref s
    dsimp only
    rcases hrun : (ref.resolve host types).run s with ⟨e | found, s'⟩ <;>
      rw [hrun] at hresolves hextends hresolved
    · exact ⟨fun type => (hresolves type).trans (hunknown type).symm, hextends⟩
    · refine ⟨fun type => (hresolves type).trans (hunknown type).symm, ?_⟩
      have hextends' : s₀.Extends (TypeRef.ResolvesTo oracle types)
          (s'.record (.typeResolved f.name found.text)) := hextends.of_resolved_eq rfl
      refine hextends'.remember ?_ ((hunknown found).mpr ((hresolves found).mp rfl))
      change s'.resolved.lookup ⟨f.id, ref⟩ = none
      rw [hresolved]
      exact hcell

theorem checkCallable_eq_ok_iff {typeName : String} {f : Field} {role : CallableRole} :
    f.checkCallable typeName role = .ok () ↔
      ∀ value, Entries.get? f.source role.key = some value →
        ∃ handle, value = .callable ⟨role.kind, handle⟩ := by
  have hcallable : ∀ value : Config, (value.asCallableOf? role.kind).isSome = true ↔
      ∃ handle, value = .callable ⟨role.kind, handle⟩ := by
    intro value
    cases value with
    | callable c =>
      obtain ⟨kind, handle⟩ := c
      by_cases hkind : kind = role.kind <;> simp [Config.asCallableOf?, hkind]
    | _ => simp [Config.asCallableOf?]
  unfold checkCallable
  cases Entries.get? f.source role.key with
  | none => simp
  | some value =>
    simp only [Option.some.injEq, forall_eq', ← hcallable]
    split <;> simp_all

/-- **The check of a field** passes if the field may be declared, with the types that its cells have
from the store on. -/
theorem decides_check (hhost : host.Follows oracle) (typeName : String) (f : Field) :
    Attempt.Decides (s₀.Extends (TypeRef.ResolvesTo oracle types)) (f.check host types typeName)
      fun _ => FieldSpec.WellFormedAs oracle types
        (fun ref => s₀.Types (TypeRef.ResolvesTo oracle types) ⟨f.id, ref⟩) f.toFieldSpecOf := by
  have htype : Attempt.Decides (s₀.Extends (TypeRef.ResolvesTo oracle types))
      (f.resolveType host types) fun type => ∃ ref, f.typeRef = some ref ∧
        s₀.Types (TypeRef.ResolvesTo oracle types) ⟨f.id, ref⟩ type := by
    rw [resolveType]
    cases f.typeRef with
    | none => exact (Attempt.decides_throw _).imp fun type => by simp
    | some ref => exact (decides_resolveRef s₀ hhost f ref).imp fun type => by simp
  have houtput : ∀ type : ResolvedType, type.isOutput = true ↔
      type.innermost.kind ≠ .inputObject := by
    intro type
    unfold ResolvedType.isOutput
    cases type.innermost.kind <;> simp [TypeKind.isOutput]
  have hcallable : ∀ role, Attempt.Decides (s₀.Extends (TypeRef.ResolvesTo oracle types))
      (Attempt.ofExcept (f.checkCallable typeName role)) fun _ =>
        ∀ value, Entries.get? f.source role.key = some value →
          ∃ handle, value = .callable ⟨role.kind, handle⟩ :=
    fun role => (Attempt.decides_ofExcept _).imp fun _ => checkCallable_eq_ok_iff
  have harguments : Attempt.Decides (s₀.Extends (TypeRef.ResolvesTo oracle types))
      (Argument.checkAll host types (.field typeName f.name) f.arguments) fun _ => _ :=
    Argument.decides_checkAll hhost (Store.Extends.preserves_typeOf s₀) _ f.arguments
  have hrest := (hcallable .resolver).and ((hcallable .mapper).and
    ((hcallable .estimator).and harguments))
  refine ((((Attempt.decides_ofExcept _).mapError _).imp fun _ => Name.validate_eq_ok_iff).and
    ((Attempt.decides_require _ _).and ((htype.mapError _).bind fun type _ =>
      (Attempt.decides_require _ _).and hrest))).imp fun _ => ?_
  constructor
  · rintro ⟨hname, hflag, type, ⟨ref, href, htype⟩, hout, hresolver, hmapper, hestimator,
      hnodup, hargs⟩
    exact {
      name := hname
      notFlagged := by simpa using hflag
      type := ⟨ref, type, href, htype, (houtput type).mp hout⟩
      callables := by
        rintro (_ | _ | _)
        · exact hresolver
        · exact hmapper
        · exact hestimator
      argumentNames := hnodup
      arguments := hargs }
  · rintro ⟨hname, hflag, ⟨ref, type, href, htype, hout⟩, hcallables, hnodup, hargs⟩
    exact ⟨hname, by simpa using hflag, type, ⟨ref, href, htype⟩, (houtput type).mpr hout,
      hcallables .resolver, hcallables .mapper, hcallables .estimator, hnodup, hargs⟩

end Field

/-! ### One check after the other -/

namespace Attempt

theorem violation?_snd (attempt : Attempt W ε Unit) (s : Store W) :
    (attempt.violation? s).2 = (attempt.run s).2 := by
  rw [violation?, Run.bind_apply]
  cases (attempt.run s).1 <;> rfl

theorem violation?_eq_none_iff (attempt : Attempt W ε Unit) (s : Store W) :
    (attempt.violation? s).1 = none ↔ (attempt.run s).1 = .ok () := by
  rw [violation?, Run.bind_apply]
  cases (attempt.run s).1 <;> simp [Run.pure_apply]

theorem violation?_eq_some_iff (attempt : Attempt W ε Unit) (s : Store W) {violation : ε} :
    (attempt.violation? s).1 = some violation ↔ (attempt.run s).1 = .error violation := by
  rw [violation?, Run.bind_apply]
  cases (attempt.run s).1 <;> simp [Run.pure_apply]

theorem violations_cons_apply (check : α → Attempt W ε Unit) (a : α) (rest : List α)
    (s : Store W) :
    violations check (a :: rest) s =
      let first := (check a).violation? s
      let others := violations check rest first.2
      (first.1.toList ++ others.1, others.2) := rfl

/-- Checks made one after the other find nothing if each of them passes. -/
theorem violations_eq_nil_iff {check : α → Attempt W ε Unit} {P : α → Prop}
    (hcheck : ∀ a, Decides I (check a) fun _ => P a) (as : List α) :
    ∀ s, I s → ((violations check as s).1 = [] ↔ ∀ a ∈ as, P a) ∧ I (violations check as s).2 := by
  induction as with
  | nil => exact fun s hs => ⟨by simp [violations, Run.pure_apply], hs⟩
  | cons a rest ih =>
    intro s hs
    obtain ⟨hpass, hI⟩ := hcheck a s hs
    have hfirst : ((check a).violation? s).1 = none ↔ P a :=
      ((check a).violation?_eq_none_iff s).trans (hpass ())
    rw [← (check a).violation?_snd s] at hI
    obtain ⟨hrest, hI'⟩ := ih _ hI
    rw [violations_cons_apply]
    refine ⟨?_, hI'⟩
    rw [List.forall_mem_cons, ← hfirst, ← hrest, List.append_eq_nil_iff, Option.toList_eq_nil_iff]

end Attempt

end Schemata
