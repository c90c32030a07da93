import Schemata.Proofs.Resolving
import Schemata.Registry.Validation

/-!
# What checking leaves alone

Checking fields and arguments takes three kinds of steps that leave a trace in the store: it asks
for deferred references, it records that a type was resolved, and it remembers the type in a cell
that was empty. What survives these steps survives every check, whatever the check finds.

## Main definitions

* `Schemata.Stable`: an invariant that survives the steps of checking.
* `Schemata.AboutCells`: an invariant of the remembered types alone that is stable.
* `Schemata.Store.Keeps`: what one store remembers, another does.

## Main results

* `Schemata.Stable.preserves_fieldViolations`: stable invariants survive the checks of fields.
* `Schemata.stable_declarationCalls`: checking declares nothing.
* `Schemata.AboutCells.of_keeps`: what grows with the remembered types survives.
-/

namespace Schemata

variable {W α ε : Type}

section Violations

variable {I : Store W → Prop}

theorem Attempt.preserves_violations {check : α → Attempt W ε Unit}
    (hcheck : ∀ a, Run.Preserves I (check a).run) (as : List α) :
    Run.Preserves I (violations check as) := by
  induction as with
  | nil => exact fun _ hs => hs
  | cons a rest ih =>
    have hfirst : Run.Preserves I (check a).violation? := by
      refine (hcheck a).bind fun outcome => ?_
      cases outcome <;> exact fun _ hs => hs
    exact hfirst.bind fun first => ih.bind fun others _ hs => hs

end Violations

/-! ### Resolving -/

section Resolving

variable {I : Store W → Prop} {host : Host W} (types : TypeLookup)

theorem TypeRef.preserves_resolveWith
    {onDeferred : Handle → Attempt W ResolutionError ResolvedType}
    (hdeferred : ∀ h, Run.Preserves I (onDeferred h).run) (ref : TypeRef) :
    Run.Preserves I (ref.resolveWith types onDeferred).run := by
  induction ref with
  | deferred producer => exact hdeferred producer
  | ready head => exact fun _ hs => hs
  | list inner ih => exact Attempt.preserves_bind ih fun type _ hs => hs
  | named name => exact fun _ hs => hs
  | nonNull inner ih => exact Attempt.preserves_bind ih fun type => Attempt.preserves_ofExcept _

theorem TypeRef.preserves_resolveWithin
    (htypeOf : ∀ h, Run.Preserves I (Run.typeOf host h)) (deferrals : Nat) (ref : TypeRef) :
    Run.Preserves I (ref.resolveWithin host types deferrals).run := by
  induction deferrals generalizing ref with
  | zero => exact preserves_resolveWith types (fun _ _ hs => hs) ref
  | succ deferrals ih =>
    refine preserves_resolveWith types (fun producer => ?_) ref
    exact Attempt.preserves_bind (htypeOf producer) fun produced => ih produced

/-- Resolving a reference does nothing but ask for deferred references. -/
theorem TypeRef.preserves_resolve (htypeOf : ∀ h, Run.Preserves I (Run.typeOf host h))
    (ref : TypeRef) : Run.Preserves I (ref.resolve host types).run :=
  preserves_resolveWithin types htypeOf maxDeferrals ref

/-- Resolving a reference remembers nothing. -/
theorem TypeRef.resolved_resolve (host : Host W) (types : TypeLookup) (ref : TypeRef)
    (s : Store W) :
    ((ref.resolve host types).run s).2.resolved = s.resolved :=
  preserves_resolve (I := fun s' => s'.resolved = s.resolved) types (fun _ _ hs => hs) ref s rfl

/-- The type of a field is given as it is remembered; one that is not is resolved, and remembered
if it is found. -/
theorem Field.resolveRef_apply (f : Field) (ref : TypeRef) (s : Store W) :
    (f.resolveRef host types ref).run s = match s.resolved? ⟨f.id, ref⟩ with
      | some type => (.ok type, s)
      | none => match (ref.resolve host types).run s with
        | (.error e, s') => (.error e, s')
        | (.ok type, s') =>
          (.ok type, (s'.record (.typeResolved f.name type.text)).remember ⟨f.id, ref⟩ type) := by
  rw [resolveRef, Attempt.run_bind_apply, Attempt.run_ofRun_apply, Run.remembered?]
  dsimp only
  cases s.resolved? ⟨f.id, ref⟩ with
  | some type => rfl
  | none =>
    dsimp only
    rw [Attempt.run_bind_apply]
    rcases (ref.resolve host types).run s with ⟨e | type, s'⟩ <;> rfl

end Resolving

/-! ### Checking -/

/-- An invariant that survives the steps of checking. -/
structure Stable (host : Host W) (types : TypeLookup) (I : Store W → Prop) : Prop where
  typeOf : ∀ h, Run.Preserves I (Run.typeOf host h)
  record : ∀ fieldName type s, I s → I (s.record (.typeResolved fieldName type))
  /-- A type is remembered where none was, and is one that the reference resolved to. -/
  remember : ∀ cell type s, s.resolved? cell = none → cell.ref.MayResolveTo host types type →
    I s → I (s.remember cell type)

namespace Stable

variable {host : Host W} {types : TypeLookup} {I : Store W → Prop} (hI : Stable host types I)
include hI

theorem preserves_resolveRef (f : Field) (ref : TypeRef) :
    Run.Preserves I (f.resolveRef host types ref).run := by
  intro s hs
  rw [Field.resolveRef_apply]
  cases hcell : s.resolved? ⟨f.id, ref⟩ with
  | some type => exact hs
  | none =>
    have hresolve := TypeRef.preserves_resolve types hI.typeOf ref s hs
    have hresolved := TypeRef.resolved_resolve host types ref s
    dsimp only
    rcases hrun : (ref.resolve host types).run s with ⟨e | type, s'⟩ <;>
      rw [hrun] at hresolve hresolved
    · exact hresolve
    · refine hI.remember _ type _ ?_ (TypeRef.mayResolveTo_of_run hrun)
        (hI.record f.name type.text s' hresolve)
      change s'.resolved.lookup ⟨f.id, ref⟩ = none
      rw [hresolved]
      exact hcell

theorem preserves_resolveType (f : Field) :
    Run.Preserves I (f.resolveType host types).run := by
  rw [Field.resolveType]
  split
  · exact hI.preserves_resolveRef f _
  · exact fun _ hs => hs

theorem preserves_checkArgument (owner : ArgumentOwner) (a : Argument) :
    Run.Preserves I (a.check host types owner).run := by
  have htype : Run.Preserves I (a.resolveType host types).run := by
    rw [Argument.resolveType]
    cases a.typeRef with
    | some ref => exact TypeRef.preserves_resolve types hI.typeOf ref
    | none => exact fun _ hs => hs
  refine Attempt.preserves_bind (Attempt.preserves_ofExcept _) fun _ => ?_
  refine Attempt.preserves_bind (Attempt.preserves_mapError _ htype) fun type => ?_
  exact Attempt.preserves_bind (Attempt.preserves_require _ _) fun _ =>
    Attempt.preserves_require _ _

theorem preserves_checkAfter (owner : ArgumentOwner) (seen : List String)
    (arguments : List Argument) :
    Run.Preserves I (Argument.checkAfter host types owner seen arguments).run := by
  induction arguments generalizing seen with
  | nil => exact fun _ hs => hs
  | cons a rest ih =>
    refine Attempt.preserves_bind (Attempt.preserves_require _ _) fun _ => ?_
    exact Attempt.preserves_bind (hI.preserves_checkArgument owner a) fun _ =>
      ih (a.name :: seen)

theorem preserves_checkField (typeName : String) (f : Field) :
    Run.Preserves I (f.check host types typeName).run := by
  refine Attempt.preserves_bind (Attempt.preserves_ofExcept _) fun _ => ?_
  refine Attempt.preserves_bind (Attempt.preserves_require _ _) fun _ => ?_
  refine Attempt.preserves_bind
    (Attempt.preserves_mapError _ (hI.preserves_resolveType f)) fun type => ?_
  refine Attempt.preserves_bind (Attempt.preserves_require _ _) fun _ => ?_
  refine Attempt.preserves_bind (Attempt.preserves_ofExcept _) fun _ => ?_
  refine Attempt.preserves_bind (Attempt.preserves_ofExcept _) fun _ => ?_
  refine Attempt.preserves_bind (Attempt.preserves_ofExcept _) fun _ => ?_
  exact hI.preserves_checkAfter _ [] f.arguments

/-- **Checks disturb nothing that is stable.** -/
theorem preserves_fieldViolations (typeName : String) (fields : List Field) :
    Run.Preserves I (Attempt.violations (Field.check host types typeName) fields) :=
  Attempt.preserves_violations (hI.preserves_checkField typeName) fields

end Stable

/-! ### Invariants that are stable -/

/-- Checking asks for no declaration of a field or a set of fields. -/
theorem stable_declarationCalls (host : Host W) (types : TypeLookup) (calls : List Call) :
    Stable host types fun s => s.declarationCalls = calls where
  typeOf h s hs := by
    change (s.record (.called (.typeOf h))).declarationCalls = calls
    rw [Store.declarationCalls_record, hs]
    exact List.append_nil calls
  record fieldName type s hs := by
    rw [Store.declarationCalls_record, hs]
    exact List.append_nil calls
  remember cell type s _ _ hs := hs

/-- What the first store remembers, the second does. -/
def Store.Keeps (s s' : Store W) : Prop :=
  ∀ cell type, s.resolved? cell = some type → s'.resolved? cell = some type

theorem Store.Keeps.refl (s : Store W) : s.Keeps s :=
  fun _ _ h => h

theorem Store.Keeps.trans {s s' s'' : Store W} (h : s.Keeps s') (h' : s'.Keeps s'') :
    s.Keeps s'' :=
  fun cell type hfound => h' cell type (h cell type hfound)

theorem Store.resolved?_eq {s s' : Store W} (h : s'.resolved = s.resolved) :
    s'.resolved? = s.resolved? := by
  funext cell
  rw [resolved?, resolved?, h]

theorem Store.resolved?_remember (s : Store W) (cell other : Cell) (type : ResolvedType) :
    (s.remember cell type).resolved? other =
      if other = cell then some type else s.resolved? other := by
  by_cases h : other = cell
  · simp [resolved?, remember, h]
  · simp [resolved?, remember, List.lookup_cons, beq_false_of_ne h, h]

theorem Store.keeps_remember {s : Store W} {cell : Cell} (hempty : s.resolved? cell = none)
    (type : ResolvedType) : s.Keeps (s.remember cell type) := by
  intro other found hfound
  have hne : other ≠ cell := by
    rintro rfl
    rw [hempty] at hfound
    cases hfound
  rw [resolved?_remember, if_neg hne, hfound]

/-- An invariant of the remembered types that survives when a cell is filled. -/
structure AboutCells (host : Host W) (types : TypeLookup) (I : Store W → Prop) : Prop where
  of_resolved_eq : ∀ s s' : Store W, s'.resolved = s.resolved → I s → I s'
  remember : ∀ cell type s, s.resolved? cell = none → cell.ref.MayResolveTo host types type →
    I s → I (s.remember cell type)

namespace AboutCells

variable {host : Host W} {types : TypeLookup} {I : Store W → Prop}

theorem stable (hI : AboutCells host types I) : Stable host types I where
  typeOf _ s hs := hI.of_resolved_eq s _ rfl hs
  record _ _ s hs := hI.of_resolved_eq s _ rfl hs
  remember := hI.remember

theorem of_keeps (h : ∀ s s' : Store W, s.Keeps s' → I s → I s') : AboutCells host types I where
  of_resolved_eq s s' heq hs := by
    refine h s s' (fun cell type hfound => ?_) hs
    rw [Store.resolved?_eq heq, hfound]
  remember cell type s hempty _ hs := h s _ (Store.keeps_remember hempty type) hs

end AboutCells

end Schemata
