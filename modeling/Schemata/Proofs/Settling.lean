import Schemata.Proofs.Validation
import Schemata.Schema

/-!
# What passing checks settle

When a check passes, whatever the functions of the host answer, then the types it asked for have
been found, and the types of fields are remembered. Since nothing that is remembered is forgotten,
this is still so when validation has come to its end.

## Main definitions

* `Schemata.Argument.Settled`: a type was found for the argument.
* `Schemata.Field.Settled`: the type of the field is remembered, and its arguments are settled.
* `Schemata.Composite.Settled`, `Schemata.TypeDef.Settled`: all fields of a type are settled.

## Main results

* `Schemata.Attempt.violations_settles`: what passing checks settle stays settled.
* `Schemata.Composite.forall_of_validate`, `Schemata.Registry.forall_of_validateTypes`: where
  validation finds nothing, what it settles of each field and each type is settled in the end.
* `Schemata.TypeDef.settled_of_validate`: all fields and arguments of a type are settled.
-/

namespace Schemata

variable {W α β ε ε' : Type} {host : Host W} {types : TypeLookup}

/-! ### Passing -/

namespace Attempt

theorem run_bind_eq_ok_iff {m : Attempt W ε α} {f : α → Attempt W ε β} {s s' : Store W} {b : β} :
    (m >>= f).run s = (.ok b, s') ↔
      ∃ a s₁, m.run s = (.ok a, s₁) ∧ (f a).run s₁ = (.ok b, s') := by
  rw [run_bind_apply]
  rcases m.run s with ⟨e | a, s₁⟩
  · constructor
    · rintro ⟨⟩
    · rintro ⟨_, _, ⟨⟩, -⟩
  · constructor
    · exact fun h => ⟨a, s₁, rfl, h⟩
    · rintro ⟨_, _, ⟨⟩, h⟩
      exact h

theorem run_ofExcept_eq_ok_iff {outcome : Except ε α} {s s' : Store W} {a : α} :
    (ofExcept outcome : Attempt W ε α).run s = (.ok a, s') ↔ outcome = .ok a ∧ s' = s := by
  rw [run_ofExcept_apply, Prod.ext_iff]
  exact and_congr_right' eq_comm

theorem run_mapError_eq_ok_iff {f : ε → ε'} {m : Attempt W ε α} {s s' : Store W} {a : α} :
    (mapError f m).run s = (.ok a, s') ↔ m.run s = (.ok a, s') := by
  rw [run_mapError_apply, Prod.ext_iff, Prod.ext_iff]
  exact and_congr_left' Outcome.mapError_eq_ok_iff

/-- What passing checks settle stays settled if all checks leave it so. What the checks rely on
must survive them. -/
theorem violations_settles {check : α → Attempt W ε Unit} {I : Store W → Prop}
    {Q : α → Store W → Prop} (hI : ∀ a, Run.Preserves I (check a).run)
    (hcheck : ∀ a s s', I s → (check a).run s = (.ok (), s') → Q a s')
    (hkeep : ∀ a b, Run.Preserves (Q b) (check a).run) (as : List α) :
    ∀ s, I s → (violations check as s).1 = [] → ∀ a ∈ as, Q a (violations check as s).2 := by
  induction as with
  | nil => exact fun s _ _ a ha => by cases ha
  | cons a rest ih =>
    intro s hs hnone
    rw [violations_cons_apply] at hnone ⊢
    obtain ⟨hfirst, hrest⟩ := List.append_eq_nil_iff.mp hnone
    rw [Option.toList_eq_nil_iff, violation?_eq_none_iff] at hfirst
    have hleft : I ((check a).violation? s).2 := by
      rw [violation?_snd]
      exact hI a s hs
    refine List.forall_mem_cons.mpr ⟨?_, ih _ hleft hrest⟩
    refine preserves_violations (fun b => hkeep b a) rest _ ?_
    rw [violation?_snd]
    exact hcheck a s _ hs (Prod.ext hfirst rfl)

/-- What passing checks say about what they check holds of all of it. -/
theorem forall_of_violations {check : α → Attempt W ε Unit} {P : α → Prop}
    (hcheck : ∀ a s s', (check a).run s = (.ok (), s') → P a) (as : List α) (s : Store W)
    (h : (violations check as s).1 = []) : ∀ a ∈ as, P a :=
  violations_settles (I := fun _ => True) (Q := fun a _ => P a) (fun _ _ hs => hs)
    (fun a s s' _ => hcheck a s s') (fun _ _ _ hs => hs) as s trivial h

end Attempt

/-! ### Arguments and fields -/

/-- A type was found for the argument. -/
def Argument.Settled (host : Host W) (types : TypeLookup) (a : Argument) : Prop :=
  ∃ ref type, a.typeRef = some ref ∧ ref.MayResolveTo host types type

namespace Argument

theorem settled_of_resolveType {a : Argument} {type : ResolvedType} {s s' : Store W}
    (h : (a.resolveType host types).run s = (.ok type, s')) : a.Settled host types := by
  rw [resolveType] at h
  cases href : a.typeRef with
  | none =>
    rw [href] at h
    cases h
  | some ref =>
    rw [href] at h
    exact ⟨ref, type, href, TypeRef.mayResolveTo_of_run h⟩

theorem settled_of_check {owner : ArgumentOwner} {a : Argument} {s s' : Store W}
    (h : (a.check host types owner).run s = (.ok (), s')) : a.Settled host types := by
  obtain ⟨_, s₁, -, hrest⟩ := Attempt.run_bind_eq_ok_iff.mp h
  obtain ⟨type, s₂, htype, -⟩ := Attempt.run_bind_eq_ok_iff.mp hrest
  exact settled_of_resolveType (Attempt.run_mapError_eq_ok_iff.mp htype)

theorem settled_of_checkAfter {owner : ArgumentOwner} {arguments : List Argument} :
    ∀ {seen : List String} {s s' : Store W},
      (checkAfter host types owner seen arguments).run s = (.ok (), s') →
        ∀ a ∈ arguments, a.Settled host types := by
  induction arguments with
  | nil => exact fun _ a ha => by cases ha
  | cons a rest ih =>
    intro seen s s' h
    obtain ⟨_, s₁, -, hrest⟩ := Attempt.run_bind_eq_ok_iff.mp h
    obtain ⟨_, s₂, hfirst, hothers⟩ := Attempt.run_bind_eq_ok_iff.mp hrest
    exact List.forall_mem_cons.mpr ⟨settled_of_check hfirst, ih hothers⟩

end Argument

/-- The store remembers the type of the field, and types were found for its arguments. -/
structure Field.Settled (host : Host W) (types : TypeLookup) (s : Store W) (f : Field) : Prop where
  type : ∃ ref type, f.typeRef = some ref ∧ s.resolved? ⟨f.id, ref⟩ = some type
  arguments : ∀ a ∈ f.arguments, a.Settled host types

namespace Field

theorem Settled.of_keeps {f : Field} {s s' : Store W} (hs : s.Keeps s')
    (h : f.Settled host types s) : f.Settled host types s' := by
  obtain ⟨ref, type, href, hfound⟩ := h.type
  exact ⟨⟨ref, type, href, hs _ _ hfound⟩, h.arguments⟩

theorem aboutCells_settled (f : Field) :
    AboutCells host types fun s => f.Settled host types s :=
  .of_keeps fun _ _ hs h => h.of_keeps hs

/-- The type that a field resolves to is remembered. -/
theorem remembered_of_resolveRef {f : Field} {ref : TypeRef} {type : ResolvedType} {s s' : Store W}
    (h : (f.resolveRef host types ref).run s = (.ok type, s')) :
    s'.resolved? ⟨f.id, ref⟩ = some type := by
  rw [resolveRef_apply] at h
  cases hcell : s.resolved? ⟨f.id, ref⟩ with
  | some found =>
    rw [hcell] at h
    cases h
    exact hcell
  | none =>
    rw [hcell] at h
    dsimp only at h
    rcases hrun : (ref.resolve host types).run s with ⟨e | found, s₁⟩ <;> rw [hrun] at h <;> cases h
    rw [Store.resolved?_remember, if_pos rfl]

theorem remembered_of_resolveType {f : Field} {type : ResolvedType} {s s' : Store W}
    (h : (f.resolveType host types).run s = (.ok type, s')) :
    ∃ ref, f.typeRef = some ref ∧ s'.resolved? ⟨f.id, ref⟩ = some type := by
  rw [resolveType] at h
  cases href : f.typeRef with
  | none =>
    rw [href] at h
    cases h
  | some ref =>
    rw [href] at h
    exact ⟨ref, rfl, remembered_of_resolveRef h⟩

/-- A type that is remembered is what the field resolves to. -/
theorem run_resolveType_of_remembered {f : Field} {ref : TypeRef} {type : ResolvedType}
    {s : Store W} (href : f.typeRef = some ref) (hfound : s.resolved? ⟨f.id, ref⟩ = some type) :
    (f.resolveType host types).run s = (.ok type, s) := by
  rw [resolveType, href]
  dsimp only
  rw [resolveRef_apply, hfound]

/-- A field that passes its check has an output type, and its arguments pass theirs. -/
theorem passes_of_check {typeName : String} {f : Field} {s s' : Store W}
    (h : (f.check host types typeName).run s = (.ok (), s')) : ∃ type s₁,
      (f.resolveType host types).run s = (.ok type, s₁) ∧ type.isOutput = true ∧
        (Argument.checkAll host types (.field typeName f.name) f.arguments).run s₁ =
          (.ok (), s') := by
  obtain ⟨_, s₁, hname, h₁⟩ := Attempt.run_bind_eq_ok_iff.mp h
  obtain ⟨_, s₂, hflag, h₂⟩ := Attempt.run_bind_eq_ok_iff.mp h₁
  obtain ⟨-, rfl⟩ := Attempt.run_ofExcept_eq_ok_iff.mp (Attempt.run_mapError_eq_ok_iff.mp hname)
  obtain ⟨-, rfl⟩ := Attempt.run_ofExcept_eq_ok_iff.mp hflag
  obtain ⟨type, s₃, htype, h₃⟩ := Attempt.run_bind_eq_ok_iff.mp h₂
  -- The steps between the type and the arguments leave the store as it is.
  obtain ⟨_, s₄, houtput, h₄⟩ := Attempt.run_bind_eq_ok_iff.mp h₃
  obtain ⟨_, s₅, hresolver, h₅⟩ := Attempt.run_bind_eq_ok_iff.mp h₄
  obtain ⟨_, s₆, hmapper, h₆⟩ := Attempt.run_bind_eq_ok_iff.mp h₅
  obtain ⟨_, s₇, hestimator, harguments⟩ := Attempt.run_bind_eq_ok_iff.mp h₆
  obtain ⟨hpasses, rfl⟩ := Attempt.run_ofExcept_eq_ok_iff.mp houtput
  obtain ⟨-, rfl⟩ := Attempt.run_ofExcept_eq_ok_iff.mp hresolver
  obtain ⟨-, rfl⟩ := Attempt.run_ofExcept_eq_ok_iff.mp hmapper
  obtain ⟨-, rfl⟩ := Attempt.run_ofExcept_eq_ok_iff.mp hestimator
  refine ⟨type, s₇, Attempt.run_mapError_eq_ok_iff.mp htype, ?_, harguments⟩
  by_contra hinput
  rw [if_neg hinput] at hpasses
  cases hpasses

/-- The check of a field keeps the type that it resolves to. -/
theorem remembered_of_check {typeName : String} {f : Field} {type : ResolvedType}
    {s s₁ s' : Store W} (htype : (f.resolveType host types).run s = (.ok type, s₁))
    (h : (f.check host types typeName).run s = (.ok (), s')) :
    ∃ ref, f.typeRef = some ref ∧ s'.resolved? ⟨f.id, ref⟩ = some type := by
  obtain ⟨type', s₂, htype', -, harguments⟩ := passes_of_check h
  obtain ⟨hsame, rfl⟩ := Prod.ext_iff.mp (htype.symm.trans htype')
  obtain rfl := Except.ok.inj hsame
  obtain ⟨ref, href, hfound⟩ := remembered_of_resolveType htype
  have hcell : AboutCells host types fun s => s.resolved? ⟨f.id, ref⟩ = some type :=
    .of_keeps fun _ _ hs hfound => hs _ _ hfound
  have hkept := hcell.stable.preserves_checkAfter (.field typeName f.name) [] f.arguments _ hfound
  rw [Argument.checkAll] at harguments
  rw [harguments] at hkept
  exact ⟨ref, href, hkept⟩

theorem settled_of_check {typeName : String} {f : Field} {s s' : Store W}
    (h : (f.check host types typeName).run s = (.ok (), s')) : f.Settled host types s' := by
  obtain ⟨type, s₁, htype, -, harguments⟩ := passes_of_check h
  obtain ⟨ref, href, hfound⟩ := remembered_of_check htype h
  exact ⟨⟨ref, type, href, hfound⟩, Argument.settled_of_checkAfter harguments⟩

end Field

/-! ### Types -/

/-- The fields of the type are known, and all of them are settled. -/
def Composite.Settled (host : Host W) (types : TypeLookup) (s : Store W) (c : Composite) : Prop :=
  ∃ m, c.fields = some (.ok m) ∧ ∀ slot ∈ m.slots.items,
    ∃ f, slot.outcome? = some (.ok f) ∧ f.Settled host types s

namespace Composite

theorem aboutCells_settled (c : Composite) :
    AboutCells host types fun s => c.Settled host types s := by
  refine .of_keeps fun s s' hs h => ?_
  obtain ⟨m, hm, hall⟩ := h
  refine ⟨m, hm, fun slot hslot => ?_⟩
  obtain ⟨f, hf, hsettled⟩ := hall slot hslot
  exact ⟨f, hf, hsettled.of_keeps hs⟩

/-- Where validation finds nothing, all fields are known, and what passing checks settle of them is
settled. -/
theorem forall_of_validate {I : Store W → Prop} {Q : Field → Store W → Prop} (c : Composite)
    (hI : Steady host types I) (hQ : ∀ f, Steady host types (Q f))
    (hcheck : ∀ f s s', I s → (Field.check host types c.name f).run s = (.ok (), s') → Q f s')
    (s : Store W) (hs : I s) (h : (c.validate host types s).1.1 = []) :
    ∃ m, (c.validate host types s).1.2.fields = some (.ok m) ∧ ∀ slot ∈ m.slots.items,
      ∃ f, slot.outcome? = some (.ok f) ∧ Q f (c.validate host types s).2 := by
  rcases c.validate_cases host types s with
    ⟨violation, s₁, -, -, hrun⟩ | ⟨m, outcomes, s₁, -, hleads, houtcomes, hrun⟩
  · rw [hrun] at h
    cases h
  · rw [hrun] at h ⊢
    obtain ⟨hforced, hnone⟩ := List.append_eq_nil_iff.mp h
    have hsettled := Attempt.violations_settles (hI.stable.preserves_checkField c.name) hcheck
      (fun f f' => (hQ f').stable.preserves_checkField c.name f)
      (FieldMap.forcedFields outcomes) s₁ (hI.of_leads hleads hs) hnone
    have hall := (FieldMap.forced_iff outcomes).mp ⟨hforced, hsettled⟩
    exact ⟨m, rfl, (FieldMap.outcomes_iff houtcomes).mpr hall⟩

theorem settled_of_validate (c : Composite) (s : Store W)
    (h : (c.validate host types s).1.1 = []) :
    (c.validate host types s).1.2.Settled host types (c.validate host types s).2 :=
  c.forall_of_validate (I := fun _ => True) (fun _ _ _ hs => hs)
    (fun f => f.aboutCells_settled.steady) (fun f _ _ _ hf => f.settled_of_check hf) s trivial h

end Composite

/-- All fields of the type are settled. -/
def TypeDef.Settled (host : Host W) (types : TypeLookup) (s : Store W) : TypeDef → Prop
  | .interface c | .object c => c.Settled host types s
  | .inputObject t => ∀ a ∈ t.fields.items, a.Settled host types
  | .builtin _ | .enum _ | .scalar _ | .union _ => True

namespace TypeDef

theorem aboutCells_settled (t : TypeDef) :
    AboutCells host types fun s => t.Settled host types s := by
  cases t with
  | object c => exact c.aboutCells_settled
  | interface c => exact c.aboutCells_settled
  | _ => exact .of_keeps fun _ _ _ h => h

theorem settled_of_validate (t : TypeDef) (s : Store W) (h : (t.validate host types s).1.1 = []) :
    (t.validate host types s).1.2.Settled host types (t.validate host types s).2 := by
  cases t with
  | object c => exact c.settled_of_validate s h
  | interface c => exact c.settled_of_validate s h
  | inputObject t =>
    exact Attempt.forall_of_violations (fun a s s' ha => a.settled_of_check ha) t.fields.items s h
  | _ => trivial

end TypeDef

namespace Registry

/-- **Where validation finds nothing**, what it settles of each type stays settled. -/
theorem forall_of_validateTypes {I : Store W → Prop} {P : TypeDef → Store W → Prop}
    (hI : Steady host types I) (hP : ∀ t, Steady host types (P t))
    (hvalidate : ∀ (t : TypeDef) s, I s → (t.validate host types s).1.1 = [] →
      P (t.validate host types s).1.2 (t.validate host types s).2) (ts : Entries TypeDef) :
    ∀ s, I s → (validateTypes host types ts s).1.1 = [] →
      ∀ t ∈ (validateTypes host types ts s).1.2.items, P t (validateTypes host types ts s).2 := by
  induction ts with
  | nil => exact fun s _ _ t ht => by cases ht
  | cons pair rest ih =>
    obtain ⟨name, t⟩ := pair
    intro s hs h
    rw [validateTypes_cons_apply] at h ⊢
    obtain ⟨hfirst, hrest⟩ := List.append_eq_nil_iff.mp h
    refine List.forall_mem_cons.mpr ⟨?_, ih _ (t.preserves_validate hI s hs) hrest⟩
    have hkept := preserves_validateTypes (hP _) rest _ (hvalidate t s hs hfirst)
    exact hkept

end Registry

/-! ### Directives -/

theorem Directive.settled_of_check {d : Directive} {s s' : Store W}
    (h : (d.check host types).run s = (.ok (), s')) : ∀ a ∈ d.arguments, a.Settled host types := by
  obtain ⟨_, s₁, -, harguments⟩ := Attempt.run_bind_eq_ok_iff.mp h
  exact Argument.settled_of_checkAfter harguments

/-- Where validation of a set of directives finds nothing, all arguments are settled. -/
theorem DirectiveSet.settled_of_validate (d : DirectiveSet) (s : Store W)
    (h : (d.validate host types s).1 = []) :
    ∀ e ∈ d.entries.items, ∀ a ∈ e.definition.arguments, a.Settled host types :=
  Attempt.forall_of_violations (fun _ _ _ he => Directive.settled_of_check he) d.entries.items s h

end Schemata
