import Schemata.Proofs.Report

/-!
# Accounts do not depend on each other

With a host that follows an oracle, what validation finds of a slot, of a member or of a whole type
is what is found of it on its own. Nothing that is found of one element changes what is found of
another, whether they stand in one type or in two, and whether or not they share fields.

The comparison is made once, for accounts on their own against accounts that are made later and
against more types. These come out the same up to faults for want of a name that has become known;
where no name has become known, they come out the same.

## Main definitions

* `Schemata.TypeDef.account`, `Schemata.DirectiveSet.account`, `Schemata.Builder.account`: accounts
  in which every part is looked at on its own.
* `Schemata.Finding.Revised`, `Schemata.Account.Revised`: accounts that are the same, up to faults
  for want of a name.
* `Schemata.Store.Numbered`: types are remembered for fields that were made before.
* `Schemata.Store.Revises`: a later store, and more types.
* `Schemata.TypeDef.Gives`: a type whose slots give what those of another gave.

## Main results

* `Schemata.TypeDef.report_revised`, `Schemata.DirectiveSet.report_revised`: later accounts.
* `Schemata.Builder.build_accounts`: building reports the blocks of the accounts, and every account
  is the one that its element has on its own.
-/

namespace Schemata

variable {W α : Type} {host : Host W} {oracle : Oracle} {types types' : TypeLookup}
  {missing : String → Prop} {s s' : Store W}

/-! ### Accounts of elements on their own -/

/-- What checks find, each of them made on its own. -/
def Attempt.findingsAlone (check : α → Attempt W Violation Unit) (s : Store W) (as : List α) :
    List Finding :=
  as.map fun a => .checked ((check a).violation? s).1

/-- The account of a type whose slots give these outcomes, each field checked on its own. -/
def Account.ofOutcomes (host : Host W) (types : TypeLookup) (s : Store W) (typeName : String) :
    Except Violation (List (Except Violation Field)) → Account
  | .error violation => .unreadable violation
  | .ok outcomes =>
    .itemised (outcomes.map fun outcome => (Finding.ofOutcome host types typeName outcome s).1)

/-- The account of a type in which each part is looked at on its own, as the store is now. -/
def TypeDef.account (host : Host W) (types : TypeLookup) (s : Store W) : TypeDef → Account
  | .object c | .interface c => .ofOutcomes host types s c.name (c.outcomes host s)
  | .inputObject t =>
    .itemised (Attempt.findingsAlone (Argument.check host types (.inputObject t.name)) s
      t.fields.items)
  | .union u => .itemised (u.members.map fun member =>
      .checked (UnionType.memberViolation? types u.name member))
  | .builtin _ | .enum _ | .scalar _ => .itemised []

/-- The account of a set of directives in which each of them is looked at on its own. -/
def DirectiveSet.account (host : Host W) (types : TypeLookup) (s : Store W) (d : DirectiveSet) :
    Account :=
  .itemised (Attempt.findingsAlone (fun e => e.definition.check host types) s d.entries.items)

/-- What is found of everything that was added to a builder, each part looked at on its own. -/
def Builder.account (host : Host W) (b : Builder) (s : Store W) : Report where
  types := b.types.types.items.map (TypeDef.account host b.types.lookup s)
  directives := b.directives.complete.account host b.types.lookup s

/-! ### Revised accounts -/

/-- The second finding is the first one, unless that is a fault for want of a missing name. -/
inductive Finding.Revised (missing : String → Prop) : Finding → Finding → Prop
  | same (finding : Finding) : Revised missing finding finding
  | lacking {violation : Violation} (h : violation.Lacks missing) (fault : Option Violation) :
      Revised missing (.checked (some violation)) (.checked fault)

/-- The second account is the first one, up to faults for want of a missing name. -/
inductive Account.Revised (missing : String → Prop) : Account → Account → Prop
  | unreadable (violation : Violation) : Revised missing (.unreadable violation)
      (.unreadable violation)
  | itemised {findings findings' : List Finding}
      (h : List.Forall₂ (Finding.Revised missing) findings findings') :
      Revised missing (.itemised findings) (.itemised findings')

/-- If no name is missing, findings stay the same. -/
theorem Finding.Revised.eq {finding finding' : Finding}
    (h : Revised (fun _ => False) finding finding') : finding' = finding := by
  cases h with
  | same => rfl
  | lacking h => exact absurd h Violation.not_lacks

/-- If no name is missing, accounts stay the same. -/
theorem Account.Revised.eq {account account' : Account}
    (h : Revised (fun _ => False) account account') : account' = account := by
  cases h with
  | unreadable violation => rfl
  | itemised h =>
    have hsame := h.imp fun _ _ hfinding => hfinding.eq.symm
    rw [List.forall₂_eq_eq_eq] at hsame
    rw [hsame]

theorem Account.eq_of_revised {accounts accounts' : List Account}
    (h : List.Forall₂ (Revised fun _ => False) accounts accounts') : accounts = accounts' := by
  have hsame := h.imp fun _ _ haccount => haccount.eq.symm
  rw [List.forall₂_eq_eq_eq] at hsame
  exact hsame

theorem Attempt.violation?_fst (m : Attempt W Violation Unit) (s : Store W) :
    (m.violation? s).1 = match (m.run s).1 with
      | .ok _ => none
      | .error violation => some violation := by
  rw [violation?, Run.bind_apply]
  cases (m.run s).1 <;> rfl

theorem Finding.revised_checked {m m' : Attempt W Violation Unit}
    (h : Outcome.Revised (Violation.Lacks missing) (m.run s).1 (m'.run s').1) :
    Revised missing (.checked (m.violation? s).1) (.checked (m'.violation? s').1) := by
  rw [Attempt.violation?_fst, Attempt.violation?_fst]
  rcases h with h | ⟨violation, h, hlacks⟩
  · rw [h]
    exact .same _
  · rw [h]
    exact .lacking hlacks _

theorem Attempt.findings_revised {I I' : Store W → Prop}
    {check check' : α → Attempt W Violation Unit}
    (hcheck : ∀ a, Revises I I' (Violation.Lacks missing) (check a) (check' a))
    (hI' : ∀ a, Run.Preserves I' (check' a).run) (hs : I s) (as : List α) :
    ∀ {s'}, I' s' →
      List.Forall₂ (Finding.Revised missing) (findingsAlone check s as)
          (findings check' as s').1 ∧
        I' (findings check' as s').2 := by
  induction as with
  | nil => exact fun hs' => ⟨.nil, hs'⟩
  | cons a rest ih =>
    intro s' hs'
    have hkept := hI' a s' hs'
    rw [← violation?_snd] at hkept
    obtain ⟨hrest, hleft⟩ := ih hkept
    rw [findings_cons_apply]
    exact ⟨.cons (Finding.revised_checked (hcheck a s s' hs hs')) hrest, hleft⟩

/-! ### Later stores -/

namespace Store

/-- Types are remembered only for fields that were made before. -/
def Numbered (s : Store W) : Prop :=
  ∀ cell type, s.resolved? cell = some type → cell.field < s.nextId

theorem numbered_start (w : W) : (start w).Numbered :=
  fun _ _ h => by cases h

theorem Numbered.answer_eq (hs : s.Numbered) {cell : Cell} (hcell : s.nextId ≤ cell.field) :
    s.answer oracle types cell = cell.ref.answer oracle types := by
  unfold answer
  cases hfound : s.resolved? cell with
  | none => rfl
  | some type => exact absurd (hs cell type hfound) (Nat.not_lt.mpr hcell)

/-- The second store comes later than the first, and more types are known: cells answer the same,
up to failures for want of a name that has become known. -/
structure Revises (oracle : Oracle) (missing : String → Prop) (types : TypeLookup) (s : Store W)
    (types' : TypeLookup) (s' : Store W) : Prop where
  grows : types.Grows missing types'
  numbered : s.Numbered
  later : s.nextId ≤ s'.nextId
  answers : ∀ cell, Outcome.Revised (ResolutionError.Lacks missing)
    (s.answer oracle types cell) (s'.answer oracle types' cell)

namespace Revises

theorem of_grows (oracle : Oracle) (hs : s.Numbered) (hgrows : types.Grows missing types') :
    s.Revises oracle missing types types' s where
  grows := hgrows
  numbered := hs
  later := Nat.le_refl _
  answers := s.revised_answer hgrows

theorem refl (oracle : Oracle) (missing : String → Prop) (types : TypeLookup) (hs : s.Numbered) :
    s.Revises oracle missing types types s :=
  of_grows oracle hs (.refl missing types)

theorem of_answer_eq {s₁ : Store W} (h : Revises oracle missing types s types' s')
    (hanswer : s₁.answer oracle types' = s'.answer oracle types') (hlater : s.nextId ≤ s₁.nextId) :
    Revises oracle missing types s types' s₁ where
  grows := h.grows
  numbered := h.numbered
  later := hlater
  answers cell := by
    rw [hanswer]
    exact h.answers cell

theorem of_resolved_eq {s₁ : Store W} (h : Revises oracle missing types s types' s')
    (heq : s₁.resolved = s'.resolved) (hlater : s.nextId ≤ s₁.nextId) :
    Revises oracle missing types s types' s₁ :=
  h.of_answer_eq (answer_eq heq) hlater

/-- A later store stays one while checks are made. -/
theorem stable (hhost : host.Follows oracle) :
    Stable host types' (Revises oracle missing types s types') where
  typeOf _ _ hs := hs.of_resolved_eq rfl hs.later
  record _ _ _ hs := hs.of_resolved_eq rfl hs.later
  remember cell type s₁ hempty htype hs := by
    have hanswer := (aboutCells_answer hhost types' (s₁.answer oracle types')).remember cell type s₁
      hempty htype rfl
    exact hs.of_answer_eq hanswer hs.later

/-- The cells of twins answer the same, since new fields have none that is filled. -/
theorem cells (h : Revises oracle missing types s types' s') {f f' : Field}
    (hf : f.Twin s.nextId f') (ref : TypeRef) :
    Outcome.Revised (ResolutionError.Lacks missing) (s.answer oracle types ⟨f.id, ref⟩)
      (s'.answer oracle types' ⟨f'.id, ref⟩) := by
  rcases hf.id with hid | ⟨hnew, hnew'⟩
  · rw [hid]
    exact h.answers _
  · have hfresh : s.answer oracle types ⟨f.id, ref⟩ = s.answer oracle types ⟨f'.id, ref⟩ := by
      rw [h.numbered.answer_eq hnew, h.numbered.answer_eq hnew']
    rw [hfresh]
    exact h.answers _

end Revises

end Store

/-! ### Objects and interfaces -/

section Later

variable (hhost : host.Follows oracle) (h : s.Revises oracle missing types types' s')
include hhost h

/-- What is found of a slot later is what was found of it on its own. -/
theorem Finding.ofOutcome_revised {outcome outcome' : Except Violation Field}
    (halike : Outcome.Alike (Field.Twin s.nextId) outcome outcome') (typeName : String) :
    Revised missing (ofOutcome host types typeName outcome s).1
        (ofOutcome host types' typeName outcome' s').1 ∧
      s.Revises oracle missing types types' (ofOutcome host types' typeName outcome' s').2 := by
  cases halike with
  | error violation => exact ⟨.same _, h⟩
  | @ok f f' hf =>
    have hchecks := Field.revises_check hhost h.grows hf.spec (h.cells hf) typeName s s' rfl rfl
    have hkept := (Store.Revises.stable hhost).preserves_checkField typeName f' s' h
    rw [← Attempt.violation?_snd] at hkept
    exact ⟨revised_checked hchecks, hkept⟩

theorem Finding.mapM_ofOutcome_revised {outcomes outcomes' : List (Except Violation Field)}
    (halike : List.Forall₂ (Outcome.Alike (Field.Twin s.nextId)) outcomes outcomes')
    (typeName : String) :
    List.Forall₂ (Revised missing)
        (outcomes.map fun outcome => (ofOutcome host types typeName outcome s).1)
        (outcomes'.mapM (ofOutcome host types' typeName) s').1 ∧
      s.Revises oracle missing types types'
        (outcomes'.mapM (ofOutcome host types' typeName) s').2 := by
  induction halike generalizing s' with
  | nil => exact ⟨.nil, h⟩
  | @cons outcome outcome' _ _ hfirst _ ih =>
    obtain ⟨hrevised, hleft⟩ := ofOutcome_revised hhost h hfirst typeName
    obtain ⟨hrest, hleft'⟩ := ih hleft
    rw [Run.mapM_cons_apply]
    exact ⟨.cons hrevised hrest, hleft'⟩

/-- **The account of an object or interface** that is made later is the one of what its slots
give. -/
theorem Composite.report_revised {c : Composite}
    {given : Except Violation (List (Except Violation Field))}
    (hc : c.Gives host s.nextId given) :
    Account.Revised missing (.ofOutcomes host types s c.name given)
        (c.report host types' s').1 ∧
      s.Revises oracle missing types types' (c.report host types' s').2 := by
  obtain ⟨hgives, hnext⟩ := hc s' h.later
  obtain ⟨-, -, -, hresolved⟩ := c.fieldMap_spec host s'
  have hread := h.of_resolved_eq hresolved hnext
  rw [report, Run.bind_apply]
  rcases hrun : c.fieldMap host s' with ⟨⟨violation | m, c'⟩, s₁⟩ <;>
    rw [hrun] at hgives hread hnext
  · cases hgives
    exact ⟨.unreadable violation, hread⟩
  · obtain ⟨hslots⟩ | - := hgives
    obtain ⟨halike, -, hnext'⟩ := FieldMap.Gives.forceSlots m.slots hslots hnext
    obtain ⟨-, hresolved', -⟩ := FieldMap.forceSlots_spec host m.slots s₁
    have hforced := hread.of_resolved_eq hresolved' hnext'
    obtain ⟨hfindings, hleft⟩ := Finding.mapM_ofOutcome_revised hhost hforced halike c.name
    exact ⟨.itemised hfindings, hleft⟩

end Later

/-! ### Types -/

namespace TypeDef

/-- The second type is the first one as it may be later: if it is an object or an interface, its
slots give what those of the first one gave. -/
inductive Gives (host : Host W) (s : Store W) : TypeDef → TypeDef → Prop
  | object {c c' : Composite} (hname : c'.name = c.name)
      (h : c'.Gives host s.nextId (c.outcomes host s)) : Gives host s (.object c) (.object c')
  | interface {c c' : Composite} (hname : c'.name = c.name)
      (h : c'.Gives host s.nextId (c.outcomes host s)) :
      Gives host s (.interface c) (.interface c')
  | other {t : TypeDef} (h : t.asComposite? = none) : Gives host s t t

theorem Gives.refl (hhost : host.Follows oracle) (s : Store W) (t : TypeDef) :
    t.Gives host s t := by
  cases t with
  | object c => exact .object rfl (c.gives_outcomes hhost (Nat.le_refl _))
  | interface c => exact .interface rfl (c.gives_outcomes hhost (Nat.le_refl _))
  | _ => exact .other rfl

end TypeDef

/-- A member that is a known object goes on being one. -/
theorem UnionType.memberViolation?_revised (hgrows : types.Grows missing types')
    (unionName member : String) :
    Finding.Revised missing (.checked (memberViolation? types unionName member))
      (.checked (memberViolation? types' unionName member)) := by
  unfold memberViolation?
  rcases hgrows member with hsame | ⟨hnone, hmissing⟩
  · rw [hsame]
    exact .same _
  · rw [hnone]
    have hlacks : (Violation.undefinedUnionMemberType unionName member).Lacks missing := hmissing
    exact .lacking hlacks _

section Later

variable (hhost : host.Follows oracle) (h : s.Revises oracle missing types types' s')
include hhost h

/-- **The account of a type** that is made later is the one that the type had on its own. -/
theorem TypeDef.report_revised {t t' : TypeDef} (ht : t.Gives host s t') :
    Account.Revised missing (t.account host types s) (t'.report host types' s').1 ∧
      s.Revises oracle missing types types' (t'.report host types' s').2 := by
  cases ht with
  | object hname hc | interface hname hc =>
    rw [account, ← hname]
    exact Composite.report_revised hhost h hc
  | other ht =>
    cases t with
    | object c => cases ht
    | interface c => cases ht
    | inputObject t =>
      have hI := (aboutCells_answer hhost types (s.answer oracle types)).stable
      have hI' : Stable host types' (s.Revises oracle missing types types') :=
        Store.Revises.stable hhost
      obtain ⟨hfindings, hleft⟩ := Attempt.findings_revised
        (Argument.revises_check hhost h.grows hI hI' (.inputObject t.name))
        (hI'.preserves_checkArgument (.inputObject t.name)) rfl t.fields.items h
      exact ⟨.itemised hfindings, hleft⟩
    | union u =>
      refine ⟨.itemised ?_, h⟩
      rw [List.forall₂_map_left_iff, List.forall₂_map_right_iff]
      exact List.forall₂_same.mpr fun member _ =>
        UnionType.memberViolation?_revised h.grows u.name member
    | _ => exact ⟨.itemised .nil, h⟩

/-- The accounts of types, made later and one after the other. -/
theorem TypeDef.mapM_report_revised {ts ts' : List TypeDef}
    (hts : List.Forall₂ (TypeDef.Gives host s) ts ts') :
    List.Forall₂ (Account.Revised missing) (ts.map (account host types s))
        (ts'.mapM (report host types') s').1 ∧
      s.Revises oracle missing types types' (ts'.mapM (report host types') s').2 := by
  induction hts generalizing s' with
  | nil => exact ⟨.nil, h⟩
  | cons hfirst _ ih =>
    obtain ⟨hrevised, hleft⟩ := report_revised hhost h hfirst
    obtain ⟨hrest, hleft'⟩ := ih hleft
    rw [Run.mapM_cons_apply]
    exact ⟨.cons hrevised hrest, hleft'⟩

/-- **The account of a set of directives** that is made later is the one that it had on its own. -/
theorem DirectiveSet.report_revised (d : DirectiveSet) :
    Account.Revised missing (d.account host types s) (d.report host types' s').1 ∧
      s.Revises oracle missing types types' (d.report host types' s').2 := by
  have hI := (aboutCells_answer hhost types (s.answer oracle types)).stable
  have hI' : Stable host types' (s.Revises oracle missing types types') :=
    Store.Revises.stable hhost
  obtain ⟨hfindings, hleft⟩ := Attempt.findings_revised
    (fun e : DirectiveEntry => Directive.revises_check hhost h.grows hI hI' e.definition)
    (fun e => hI'.preserves_checkDirective e.definition) rfl d.entries.items h
  exact ⟨.itemised hfindings, hleft⟩

end Later

/-! ### Builders -/

namespace Builder

/-- In a later store that answers as the first one did, the report of a builder has the accounts
that everything in it had on its own. -/
theorem report_later (hhost : host.Follows oracle) {b : Builder}
    (h : s.Revises oracle (fun _ => False) b.types.lookup b.types.lookup s') :
    (b.report host s').1 = b.account host s := by
  have hself : List.Forall₂ (TypeDef.Gives host s) b.types.types.items b.types.types.items :=
    List.forall₂_same.mpr fun t _ => .refl hhost s t
  obtain ⟨htypes, hleft⟩ := TypeDef.mapM_report_revised hhost h hself
  obtain ⟨hdirectives, -⟩ := b.directives.complete.report_revised hhost hleft
  rw [account, Account.eq_of_revised htypes, ← hdirectives.eq]
  rfl

end Builder

end Schemata
