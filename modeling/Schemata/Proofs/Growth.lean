import Schemata.Proofs.RegistryCourse

/-!
# Registries that grow

When one more type is added to a registry, some of the faults that were found before may be gone:
those for want of the name of the new type, and they may give way to other faults of the same field
or member. Everything else that was found is found again, in its order, and nothing is wrong that
was not, apart from what is wrong with the new type itself. This is so however the registry is read
before the addition and after it.

## Main definitions

* `Schemata.Revision`: a list of which some items are gone or replaced.

## Main results

* `Schemata.Account.Revised.block`: the blocks of revised accounts.
* `Schemata.TypeDef.account_revised`: what is found of a type when more types are known.
* `Schemata.Registry.validate_grown`: what is found when a type has been added.
-/

namespace Schemata

variable {W α β : Type} {host : Host W} {oracle : Oracle} {types types' : TypeLookup}
  {missing : String → Prop} {s s' : Store W}

/-! ### Revised lists -/

/-- The second list is the first one, with each excepted item kept, gone, or replaced by another;
all others are there in their order, and there are no more. -/
inductive Revision (excepted : α → Prop) : List α → List α → Prop
  | nil : Revision excepted [] []
  | kept (a : α) {as bs : List α} (h : Revision excepted as bs) :
      Revision excepted (a :: as) (a :: bs)
  | gone {a : α} (ha : excepted a) {as bs : List α} (h : Revision excepted as bs) :
      Revision excepted (a :: as) bs
  | replaced {a : α} (ha : excepted a) (b : α) {as bs : List α} (h : Revision excepted as bs) :
      Revision excepted (a :: as) (b :: bs)

namespace Revision

variable {excepted : α → Prop}

theorem refl (excepted : α → Prop) : (as : List α) → Revision excepted as as
  | [] => .nil
  | a :: as => .kept a (refl excepted as)

theorem append {as as' bs bs' : List α} (h : Revision excepted as as')
    (h' : Revision excepted bs bs') : Revision excepted (as ++ bs) (as' ++ bs') := by
  induction h with
  | nil => exact h'
  | kept a _ ih => exact .kept a ih
  | gone ha _ ih => exact .gone ha ih
  | replaced ha b _ ih => exact .replaced ha b ih

/-- Where there was nothing, there is nothing. -/
theorem eq_nil {as : List α} (h : Revision excepted [] as) : as = [] := by
  cases h
  rfl

end Revision

/-! ### Blocks -/

/-- The block of a revised account is a revision of its block. -/
theorem Account.Revised.block {account account' : Account} (h : account.Revised missing account') :
    Revision (Violation.Lacks missing) account.block account'.block := by
  cases h with
  | unreadable violation => exact .refl _ _
  | @itemised findings findings' h =>
    have hboth : findings'.filterMap Finding.stuck? = findings.filterMap Finding.stuck? ∧
        Revision (Violation.Lacks missing) (findings.filterMap Finding.fault?)
          (findings'.filterMap Finding.fault?) := by
      induction h with
      | nil => exact ⟨rfl, .nil⟩
      | @cons finding _ _ _ hfirst _ ih =>
        obtain ⟨hstuck, hfaults⟩ := ih
        cases hfirst with
        | same =>
          match finding with
          | .stuck v => exact ⟨congrArg (v :: ·) hstuck, hfaults⟩
          | .checked none => exact ⟨hstuck, hfaults⟩
          | .checked (some v) => exact ⟨hstuck, .kept v hfaults⟩
        | lacking hlacks fault =>
          match fault with
          | none => exact ⟨hstuck, .gone hlacks hfaults⟩
          | some v => exact ⟨hstuck, .replaced hlacks v hfaults⟩
    obtain ⟨hstuck, hfaults⟩ := hboth
    rw [Account.block, Account.block, hstuck]
    exact (Revision.refl _ _).append hfaults

theorem Account.revision_flatMap {accounts accounts' : List Account}
    (h : List.Forall₂ (Revised missing) accounts accounts') :
    Revision (Violation.Lacks missing) (accounts.flatMap block) (accounts'.flatMap block) := by
  induction h with
  | nil => exact .nil
  | cons hfirst _ ih =>
    rw [List.flatMap_cons, List.flatMap_cons]
    exact hfirst.block.append ih

/-! ### More types -/

/-- What is found of a type on its own is found again when more types are known, up to faults for
want of a name. -/
theorem TypeDef.account_revised (hhost : host.Follows oracle) (hs : s.Numbered)
    (hgrows : types.Grows missing types') (t : TypeDef) :
    Account.Revised missing (t.account host types s) (t.account host types' s) := by
  have hself : s.Revises oracle (fun _ => False) types' types' s := .refl _ _ _ hs
  obtain ⟨hrevised, -⟩ := report_revised hhost (.of_grows oracle hs hgrows) (.refl hhost s t)
  obtain ⟨hsame, -⟩ := report_revised hhost hself (.refl hhost s t)
  rw [← hsame.eq]
  exact hrevised

theorem DirectiveSet.account_revised (hhost : host.Follows oracle) (hs : s.Numbered)
    (hgrows : types.Grows missing types') (d : DirectiveSet) :
    Account.Revised missing (d.account host types s) (d.account host types' s) := by
  have hself : s.Revises oracle (fun _ => False) types' types' s := .refl _ _ _ hs
  obtain ⟨hrevised, -⟩ := d.report_revised hhost (.of_grows oracle hs hgrows)
  obtain ⟨hsame, -⟩ := d.report_revised hhost hself
  rw [← hsame.eq]
  exact hrevised

/-- The account of a set of directives that is made later is the one that it had on its own. -/
theorem DirectiveSet.report_later (hhost : host.Follows oracle) (d : DirectiveSet)
    (h : s.Revises oracle (fun _ => False) types types s') :
    (d.report host types s').1 = d.account host types s :=
  (d.report_revised hhost h).1.eq

namespace Registry

/-- **Growing breaks nothing that was in order.** Let a registry be read in any way, let a type be
added, and let the larger registry be read in any way. Then what is found of each type, and of any
set of directives, is what was found of it at the beginning, except that a fault for want of the
name of the new type may be gone or may have given way to another fault of the same part. So what
was listed is listed still, up to those faults and in its order, and what is listed besides is the
block of the new type, which comes last. If nothing was listed, that is all there is. -/
theorem validate_grown (hhost : host.Follows oracle) (hs : s.Numbered) (r : Registry)
    (before after : List Reading) {t : TypeDef} {r' : Registry} {s' : Store W}
    (hadd : ((course host (before.map .read) r s).1.add t).run
      (course host (before.map .read) r s).2 = (.ok r', s')) :
    let final := course host (after.map .read) r' s'
    let own := t.account host r'.lookup s
    (∃ accounts, (final.1.report host final.2).1 = accounts ++ [own] ∧
        List.Forall₂ (Account.Revised (· = t.name)) (r.report host s).1 accounts) ∧
      (∀ d : DirectiveSet, Account.Revised (· = t.name) (d.report host r.lookup s).1
        (d.report host final.1.lookup final.2).1) ∧
      (∃ violations, (final.1.validate host final.2).1.1 = violations ++ own.block ∧
        Revision (Violation.Lacks (· = t.name)) (r.validate host s).1.1 violations) ∧
      ((r.validate host s).1.1 = [] → (final.1.validate host final.2).1.1 = own.block) := by
  have hstart := Continues.refl hhost hs r
  have hread := hstart.course_reads hhost before
  have hlookup := (course_reads_advances host before r s).lookup_eq
  generalize course host (before.map .read) r s = read at hadd hread hlookup
  obtain ⟨hinsert, hsame⟩ := read.1.add_spec t read.2
  rw [hadd] at hinsert hsame
  obtain ⟨hfree, rfl⟩ := insert_eq_ok hinsert.symm
  have hgrows := grows_append hfree
  rw [hlookup] at hgrows
  have hgrown := (hread.append hfree (.refl hhost s t)).of_sameFields hsame
  generalize (⟨read.1.types ++ [(t.name, t)]⟩ : Registry) = r' at hgrows hgrown
  have hfinal := hgrown.course_reads hhost after
  have hlookup' := (course_reads_advances host after r' s').lookup_eq
  generalize course host (after.map .read) r' s' = final at hfinal hlookup'
  dsimp only
  have hbefore := hstart.report_eq hhost
  have hafter := hfinal.report_eq hhost
  rw [List.map_append, List.map_singleton, hlookup'] at hafter
  have haccounts : List.Forall₂ (Account.Revised (· = t.name))
      (r.types.items.map (TypeDef.account host r.lookup s))
      (r.types.items.map (TypeDef.account host r'.lookup s)) := by
    rw [List.forall₂_map_left_iff, List.forall₂_map_right_iff]
    exact List.forall₂_same.mpr fun t _ => t.account_revised hhost hs hgrows
  have hlisted : (final.1.validate host final.2).1.1 =
      (r.types.items.map (TypeDef.account host r'.lookup s)).flatMap Account.block ++
        (t.account host r'.lookup s).block := by
    rw [(final.1.validate_report host final.2).1, hafter, List.flatMap_append,
      List.flatMap_singleton]
  have hrevision : Revision (Violation.Lacks (· = t.name)) (r.validate host s).1.1
      ((r.types.items.map (TypeDef.account host r'.lookup s)).flatMap Account.block) := by
    rw [(r.validate_report host s).1, hbefore]
    exact Account.revision_flatMap haccounts
  refine ⟨⟨_, hafter, ?_⟩, fun d => ?_, ⟨_, hlisted, hrevision⟩, fun hnone => ?_⟩
  · rw [hbefore]
    exact haccounts
  · rw [d.report_later hhost hstart.store, d.report_later hhost hfinal.store, hlookup']
    exact d.account_revised hhost hs hgrows
  · rw [hnone] at hrevision
    rw [hlisted, hrevision.eq_nil, List.nil_append]

/-- A registry with an object of three faulty fields. Two of the faults are for want of one type: of
the type of a field, and of the type of an argument. -/
def bereft : Registry :=
  ⟨initial.types ++ [("Query", .object (.declare "Query" none (.declared
    [(.name "ghost", .type (.named "Ghost")), (.name "lost", .type (.named "Lost")),
      (.name "ask", .record [("type", .type (.named "String")),
        ("args", .record [("form", .type (.named "Ghost"))])])])))]⟩

/-- The type that is wanted. It is an input object, and has a fault of its own. -/
def ghost : TypeDef :=
  .inputObject (.ofFields "Ghost" none [.ofType "shape" (.named "Shape")])

/-- When the type is there, one fault gives way to another, one stays, one is gone, and the fault of
the type comes last. -/
theorem validate_bereft : ∃ r' s',
    ((course Builder.textOracle.host [.read .validate] bereft (.start ())).1.add ghost).run
        (course Builder.textOracle.host [.read .validate] bereft (.start ())).2 = (.ok r', s') ∧
      let final := course Builder.textOracle.host [.read (.access "Query" .forceAll)] r' s'
      (∃ violations, (final.1.validate Builder.textOracle.host final.2).1.1 = violations ++
          (ghost.account Builder.textOracle.host r'.lookup (.start ())).block ∧
        Revision (Violation.Lacks (· = "Ghost"))
          (bereft.validate Builder.textOracle.host (.start ())).1.1 violations) ∧
      (bereft.validate Builder.textOracle.host (.start ())).1.1 =
        [.unresolvableFieldType "Query" "ghost" (.undefinedTypeName "Ghost"),
          .unresolvableFieldType "Query" "lost" (.undefinedTypeName "Lost"),
          .unresolvableArgumentType "form" (.field "Query" "ask") (.undefinedTypeName "Ghost")] ∧
      (final.1.validate Builder.textOracle.host final.2).1.1 =
        [.invalidOutputFieldType "Query" "ghost" "Ghost",
          .unresolvableFieldType "Query" "lost" (.undefinedTypeName "Lost"),
          .unresolvableArgumentType "shape" (.inputObject "Ghost")
            (.undefinedTypeName "Shape")] := by
  have hadd : ∃ r' s',
      ((course Builder.textOracle.host [.read .validate] bereft (.start ())).1.add ghost).run
        (course Builder.textOracle.host [.read .validate] bereft (.start ())).2 = (.ok r', s') :=
    ⟨_, _, rfl⟩
  obtain ⟨r', s', hadd⟩ := hadd
  obtain ⟨-, -, hlisted, -⟩ := validate_grown Builder.textOracle.follows_host
    (Store.numbered_start ()) bereft [.validate] [.access "Query" .forceAll] hadd
  refine ⟨r', s', hadd, hlisted, rfl, ?_⟩
  cases hadd
  rfl

end Registry

end Schemata
