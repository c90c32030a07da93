import Schemata.Proofs.Checking

/-!
# Checks against more types

Two checks of one thing are compared: they may be made in different stores, and the second against
more known types than the first. With a host that follows an oracle a check comes out the same in
both, except that a failure for want of a name that has become known may come out otherwise. If no
name has become known, there are no exceptions, and the outcome does not depend on the store.

The types that the stores remember enter by what each cell answers: the type that is remembered in
it, or else what its reference stands for. Checking fills cells, but it never changes what they
answer.

## Main definitions

* `Schemata.Outcome.Revised`: an outcome that is the same, up to excepted failures.
* `Schemata.TypeLookup.Grows`: known types, and more known types.
* `Schemata.ResolutionError.Lacks`, `Schemata.Violation.Lacks`: failures for want of a name.
* `Schemata.TypeRef.answer`, `Schemata.Store.answer`: what references and cells answer.
* `Schemata.Attempt.Revises`: attempts with revised outcomes.

## Main results

* `Schemata.aboutCells_answer`: checking never changes what cells answer.
* `Schemata.Argument.revises_check`, `Schemata.Field.revises_check`,
  `Schemata.Directive.revises_check`: checks against more types.
-/

namespace Schemata

variable {W α β ε ε' : Type} {host : Host W} {oracle : Oracle} {types types' : TypeLookup}
  {missing : String → Prop}

/-! ### Revised outcomes -/

namespace Outcome

/-- The second outcome is the first one, unless the first is an excepted failure. -/
def Revised (excepted : ε → Prop) (x x' : Except ε α) : Prop :=
  x' = x ∨ ∃ e, x = .error e ∧ excepted e

namespace Revised

variable {excepted : ε → Prop} {x x' : Except ε α}

theorem refl (excepted : ε → Prop) (x : Except ε α) : Revised excepted x x :=
  .inl rfl

theorem bind {f : α → Except ε β} (h : Revised excepted x x') :
    Revised excepted (x >>= f) (x' >>= f) := by
  rcases h with rfl | ⟨e, rfl, he⟩
  · exact .refl _ _
  · exact .inr ⟨e, rfl, he⟩

theorem map {f : α → β} (h : Revised excepted x x') : Revised excepted (x.map f) (x'.map f) := by
  rcases h with rfl | ⟨e, rfl, he⟩
  · exact .refl _ _
  · exact .inr ⟨e, rfl, he⟩

theorem mapError {excepted' : ε' → Prop} {f : ε → ε'} (h : Revised excepted x x')
    (hf : ∀ e, excepted e → excepted' (f e)) :
    Revised excepted' (x.mapError f) (x'.mapError f) := by
  rcases h with rfl | ⟨e, rfl, he⟩
  · exact .refl _ _
  · exact .inr ⟨f e, rfl, hf e he⟩

end Revised

end Outcome

/-! ### Known types, and more of them -/

/-- The second lookup knows what the first one knows, and apart from that only missing names. -/
def TypeLookup.Grows (missing : String → Prop) (types types' : TypeLookup) : Prop :=
  ∀ name, types' name = types name ∨ types name = none ∧ missing name

namespace TypeLookup.Grows

theorem refl (missing : String → Prop) (types : TypeLookup) : types.Grows missing types :=
  fun _ => .inl rfl

theorem trans {types'' : TypeLookup} (h : types.Grows missing types')
    (h' : types'.Grows missing types'') : types.Grows missing types'' := by
  intro name
  rcases h name with hsame | hnew
  · rcases h' name with hsame' | ⟨hnone, hmissing⟩
    · exact .inl (hsame'.trans hsame)
    · exact .inr ⟨hsame ▸ hnone, hmissing⟩
  · exact .inr hnew

theorem imp {missing' : String → Prop} (h : types.Grows missing types')
    (hmissing : ∀ name, missing name → missing' name) : types.Grows missing' types' :=
  fun name => (h name).imp_right fun ⟨hnone, hname⟩ => ⟨hnone, hmissing name hname⟩

end TypeLookup.Grows

/-- The reference does not resolve because a missing name is not known. -/
def ResolutionError.Lacks (missing : String → Prop) : ResolutionError → Prop
  | undefinedTypeName name => missing name
  | _ => False

/-- The violation is there because a missing name is not known. -/
def Violation.Lacks (missing : String → Prop) : Violation → Prop
  | unresolvableFieldType _ _ reason | unresolvableArgumentType _ _ reason => reason.Lacks missing
  | undefinedUnionMemberType _ member => missing member
  | _ => False

/-- Where no name is missing, nothing is there for want of one. -/
theorem Violation.not_lacks {v : Violation} : ¬ v.Lacks fun _ => False := by
  intro h
  cases v with
  | unresolvableFieldType _ _ reason => cases reason <;> exact h
  | unresolvableArgumentType _ _ reason => cases reason <;> exact h
  | _ => exact h

namespace TypeRef

/-- What the reference resolves to with a host that answers as the oracle says. -/
def answer (oracle : Oracle) (types : TypeLookup) (ref : TypeRef) :
    Except ResolutionError ResolvedType :=
  (ref.unfolded oracle.host ()).outcome types

theorem unfoldedWithin_eq (hhost : host.Follows oracle) (n : Nat) (w : W) (ref : TypeRef) :
    ref.unfoldedWithin host n w = ref.unfoldedWithin oracle.host n () :=
  unfoldedWithin_congr (fun producer w _ => hhost.typeOf producer w) n ref w ()

theorem run_resolve_answer (hhost : host.Follows oracle) (ref : TypeRef) (s : Store W) :
    ((ref.resolve host types).run s).1 = ref.answer oracle types := by
  rw [run_resolve_fst, unfolded, unfoldedWithin_eq hhost, answer, unfolded]

theorem revised_outcome (hgrows : types.Grows missing types') (ref : TypeRef) :
    Outcome.Revised (ResolutionError.Lacks missing) (ref.outcome types) (ref.outcome types') := by
  induction ref with
  | deferred producer => exact .refl _ _
  | ready head => exact .refl _ _
  | list inner ih => exact ih.map
  | named name =>
    rw [outcome, outcome, lookUp, lookUp]
    rcases hgrows name with h | ⟨hnone, hmissing⟩
    · rw [h]
      exact .refl _ _
    · rw [hnone]
      exact .inr ⟨_, rfl, hmissing⟩
  | nonNull inner ih => exact ih.bind

/-- A reference that resolves goes on resolving to its type when more types are known. -/
theorem revised_answer (hgrows : types.Grows missing types') (ref : TypeRef) :
    Outcome.Revised (ResolutionError.Lacks missing) (ref.answer oracle types)
      (ref.answer oracle types') :=
  revised_outcome hgrows _

end TypeRef

/-! ### What cells answer -/

namespace Store

/-- What a cell answers: the type that is remembered in it, or what its reference stands for. -/
def answer (oracle : Oracle) (types : TypeLookup) (s : Store W) (cell : Cell) :
    Except ResolutionError ResolvedType :=
  match s.resolved? cell with
  | some type => .ok type
  | none => cell.ref.answer oracle types

theorem answer_eq {s s' : Store W} (h : s'.resolved = s.resolved) :
    s'.answer oracle types = s.answer oracle types := by
  funext cell
  rw [answer, answer, resolved?_eq h]

/-- Cells that answer the same go on doing so when more types are known. -/
theorem answer_grows (hgrows : types.Grows missing types') {s s' : Store W} {cell : Cell}
    (h : s'.answer oracle types cell = s.answer oracle types cell) :
    s'.answer oracle types' cell = s.answer oracle types' cell := by
  have hkeep : ∀ type, cell.ref.answer oracle types = .ok type →
      cell.ref.answer oracle types' = .ok type := by
    intro type htype
    rcases cell.ref.revised_answer hgrows with hsame | ⟨e, herror, -⟩
    · exact hsame.trans htype
    · cases htype.symm.trans herror
  unfold answer at h ⊢
  cases hs : s.resolved? cell with
  | some type =>
    rw [hs] at h
    cases hs' : s'.resolved? cell with
    | some type' =>
      rw [hs'] at h
      exact h
    | none =>
      rw [hs'] at h
      exact hkeep type h
  | none =>
    rw [hs] at h
    cases hs' : s'.resolved? cell with
    | some type' =>
      rw [hs'] at h
      exact (hkeep type' h.symm).symm
    | none => rfl

/-- A cell answers as before when more types are known, up to failures for want of a name. -/
theorem revised_answer (hgrows : types.Grows missing types') (s : Store W) (cell : Cell) :
    Outcome.Revised (ResolutionError.Lacks missing) (s.answer oracle types cell)
      (s.answer oracle types' cell) := by
  unfold answer
  cases s.resolved? cell with
  | some type => exact .refl _ _
  | none => exact cell.ref.revised_answer hgrows

end Store

/-- **Checking never changes what cells answer**, since a cell is only ever filled with what its
reference stands for. -/
theorem aboutCells_answer (hhost : host.Follows oracle) (types : TypeLookup)
    (answers : Cell → Except ResolutionError ResolvedType) :
    AboutCells host types fun s => s.answer oracle types = answers where
  of_resolved_eq _ _ heq hs := (Store.answer_eq heq).trans hs
  remember cell type s hempty htype hs := by
    obtain ⟨w, hw⟩ := htype
    rw [TypeRef.unfolded, TypeRef.unfoldedWithin_eq hhost] at hw
    rw [← hs]
    funext other
    unfold Store.answer
    rw [Store.resolved?_remember]
    by_cases hother : other = cell
    · rw [if_pos hother, hother, hempty]
      exact hw.symm
    · rw [if_neg hother]

/-- Resolving the reference of a field gives what its cell answers. -/
theorem Field.run_resolveRef_fst (hhost : host.Follows oracle) (f : Field) (ref : TypeRef)
    (s : Store W) :
    ((f.resolveRef host types ref).run s).1 = s.answer oracle types ⟨f.id, ref⟩ := by
  rw [resolveRef_apply, Store.answer]
  cases s.resolved? ⟨f.id, ref⟩ with
  | some type => rfl
  | none =>
    have hanswer : ((ref.resolve host types).run s).1 = ref.answer oracle types :=
      ref.run_resolve_answer hhost s
    dsimp only
    rcases hrun : (ref.resolve host types).run s with ⟨e | type, s'⟩ <;> rw [hrun] at hanswer <;>
      exact hanswer

/-! ### Revised attempts -/

section Attempts

variable {I I' : Store W → Prop} {excepted : ε → Prop}

namespace Attempt

/-- The outcome of the second attempt is that of the first, up to excepted failures, where the first
is made in a store that satisfies `I` and the second in one that satisfies `I'`. -/
def Revises (I I' : Store W → Prop) (excepted : ε → Prop) (m m' : Attempt W ε α) : Prop :=
  ∀ s s', I s → I' s' → Outcome.Revised excepted (m.run s).1 (m'.run s').1

theorem revises_ofExcept (outcome : Except ε α) :
    Revises I I' excepted (ofExcept outcome) (ofExcept outcome) :=
  fun _ _ _ _ => .refl _ _

theorem revises_require (condition : Bool) (reason : ε) :
    Revises I I' excepted (require condition reason) (require condition reason) :=
  fun _ _ _ _ => .refl _ _

theorem Revises.mapError {excepted' : ε' → Prop} {m m' : Attempt W ε α} {f : ε → ε'}
    (hm : Revises I I' excepted m m') (hf : ∀ e, excepted e → excepted' (f e)) :
    Revises I I' excepted' (mapError f m) (mapError f m') :=
  fun s s' hs hs' => (hm s s' hs hs').mapError hf

/-- After an excepted failure of the first sequence the second may go on in any way. -/
theorem Revises.bind {m m' : Attempt W ε α} {f f' : α → Attempt W ε β}
    (hm : Revises I I' excepted m m') (hI : Run.Preserves I m.run) (hI' : Run.Preserves I' m'.run)
    (hf : ∀ a, Revises I I' excepted (f a) (f' a)) :
    Revises I I' excepted (m >>= f) (m' >>= f') := by
  intro s s' hs hs'
  have hrevised := hm s s' hs hs'
  have hkept := hI s hs
  have hkept' := hI' s' hs'
  rw [run_bind_apply, run_bind_apply]
  generalize m.run s = made at hrevised hkept ⊢
  generalize m'.run s' = made' at hrevised hkept' ⊢
  obtain ⟨outcome, s₁⟩ := made
  obtain ⟨outcome', s₁'⟩ := made'
  rcases hrevised with heq | ⟨e, heq, hexcepted⟩ <;> dsimp only at heq <;> subst heq
  · cases outcome' with
    | error e => exact .refl _ _
    | ok a => exact hf a s₁ s₁' hkept hkept'
  · exact .inr ⟨e, rfl, hexcepted⟩

end Attempt

variable (hhost : host.Follows oracle) (hgrows : types.Grows missing types')
include hhost hgrows

/-! ### Arguments -/

section Arguments

variable (hI : Stable host types I) (hI' : Stable host types' I')
include hI hI'

namespace Argument

theorem revises_check (owner : ArgumentOwner) (a : Argument) :
    Attempt.Revises I I' (Violation.Lacks missing) (a.check host types owner)
      (a.check host types' owner) := by
  have hresolve : Attempt.Revises I I' (ResolutionError.Lacks missing) (a.resolveType host types)
      (a.resolveType host types') ∧ Run.Preserves I (a.resolveType host types).run ∧
        Run.Preserves I' (a.resolveType host types').run := by
    rw [resolveType, resolveType]
    cases a.typeRef with
    | none => exact ⟨fun _ _ _ _ => .refl _ _, fun _ hs => hs, fun _ hs => hs⟩
    | some ref =>
      refine ⟨fun s s' _ _ => ?_, TypeRef.preserves_resolve types hI.typeOf ref,
        TypeRef.preserves_resolve types' hI'.typeOf ref⟩
      simp only [TypeRef.resolveOption, TypeRef.run_resolve_answer hhost]
      exact ref.revised_answer hgrows
  obtain ⟨htype, hkept, hkept'⟩ := hresolve
  have hnamed : Attempt.Revises I I' (Violation.Lacks missing)
      (Attempt.mapError (.unresolvableArgumentType a.name owner) (a.resolveType host types))
      (Attempt.mapError (.unresolvableArgumentType a.name owner) (a.resolveType host types')) :=
    htype.mapError fun _ he => he
  refine (Attempt.revises_ofExcept _).bind (fun _ hs => hs) (fun _ hs => hs) fun _ => ?_
  refine hnamed.bind hkept hkept' fun type => ?_
  refine (Attempt.revises_require _ _).bind (fun _ hs => hs) (fun _ hs => hs) fun _ => ?_
  exact Attempt.revises_require _ _

theorem revises_checkAfter (owner : ArgumentOwner) (arguments : List Argument) :
    ∀ seen, Attempt.Revises I I' (Violation.Lacks missing)
      (checkAfter host types owner seen arguments)
      (checkAfter host types' owner seen arguments) := by
  induction arguments with
  | nil => exact fun _ _ _ _ _ => .refl _ _
  | cons a rest ih =>
    intro seen
    refine (Attempt.revises_require _ _).bind (fun _ hs => hs) (fun _ hs => hs) fun _ => ?_
    exact (revises_check hhost hgrows hI hI' owner a).bind (hI.preserves_checkArgument owner a)
      (hI'.preserves_checkArgument owner a) fun _ => ih (a.name :: seen)

end Argument

theorem Directive.revises_check (d : Directive) :
    Attempt.Revises I I' (Violation.Lacks missing) (d.check host types)
      (d.check host types') := by
  refine (Attempt.revises_ofExcept _).bind (fun _ hs => hs) (fun _ hs => hs) fun _ => ?_
  exact Argument.revises_checkAfter hhost hgrows hI hI' (.directive d.name) d.arguments []

end Arguments

/-! ### Fields -/

/-- **The check of a field** comes out the same for two fields of one content, up to failures for
want of a name, if their cells answer the same up to such failures. -/
theorem Field.revises_check {f f' : Field} (hspec : f'.toFieldSpecOf = f.toFieldSpecOf)
    {answers answers' : Cell → Except ResolutionError ResolvedType}
    (hcells : ∀ ref, Outcome.Revised (ResolutionError.Lacks missing) (answers ⟨f.id, ref⟩)
      (answers' ⟨f'.id, ref⟩)) (typeName : String) :
    Attempt.Revises (fun s => s.answer oracle types = answers)
      (fun s => s.answer oracle types' = answers') (Violation.Lacks missing)
      (f.check host types typeName) (f'.check host types' typeName) := by
  obtain ⟨spec, id⟩ := f
  obtain ⟨spec', id'⟩ := f'
  obtain rfl : spec' = spec := hspec
  have hI := (aboutCells_answer hhost types answers).stable
  have hI' := (aboutCells_answer hhost types' answers').stable
  have htype : Attempt.Revises (fun s => s.answer oracle types = answers)
      (fun s => s.answer oracle types' = answers') (ResolutionError.Lacks missing)
      (resolveType host types ⟨spec', id⟩) (resolveType host types' ⟨spec', id'⟩) := by
    rw [resolveType, resolveType]
    dsimp only
    cases spec'.typeRef with
    | none => exact fun _ _ _ _ => .refl _ _
    | some ref =>
      rintro s s' rfl rfl
      simp only [run_resolveRef_fst hhost]
      exact hcells ref
  have hnamed : Attempt.Revises (fun s => s.answer oracle types = answers)
      (fun s => s.answer oracle types' = answers') (Violation.Lacks missing)
      (Attempt.mapError (.unresolvableFieldType typeName spec'.name)
        (resolveType host types ⟨spec', id⟩))
      (Attempt.mapError (.unresolvableFieldType typeName spec'.name)
        (resolveType host types' ⟨spec', id'⟩)) :=
    htype.mapError fun _ he => he
  refine (Attempt.revises_ofExcept _).bind (fun _ hs => hs) (fun _ hs => hs) fun _ => ?_
  refine (Attempt.revises_require _ _).bind (fun _ hs => hs) (fun _ hs => hs) fun _ => ?_
  refine hnamed.bind (hI.preserves_resolveType _) (hI'.preserves_resolveType _) fun type => ?_
  refine (Attempt.revises_require _ _).bind (fun _ hs => hs) (fun _ hs => hs) fun _ => ?_
  refine (Attempt.revises_ofExcept _).bind (fun _ hs => hs) (fun _ hs => hs) fun _ => ?_
  refine (Attempt.revises_ofExcept _).bind (fun _ hs => hs) (fun _ hs => hs) fun _ => ?_
  refine (Attempt.revises_ofExcept _).bind (fun _ hs => hs) (fun _ hs => hs) fun _ => ?_
  exact Argument.revises_checkAfter hhost hgrows hI hI' (.field typeName spec'.name)
    spec'.arguments []

end Attempts

end Schemata
