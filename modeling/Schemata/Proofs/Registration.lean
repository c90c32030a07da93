import Schemata.Proofs.RegistryCourse

/-!
# The order of registration

Types and directives are added to a builder one after the other. In which order the types come makes
no difference to what is found of each of them: their names stand for the same types in any order,
and nothing that is found of one type depends on the others.

## Main definitions

* `Schemata.Builder.Addition`, `Schemata.Builder.extendAll`: additions, one after the other.

## Main results

* `Schemata.Entries.get?_perm`: items under distinct names are found in any order.
* `Schemata.Builder.extendAll_spec`: additions of types and of directives do not interfere.
* `Schemata.Registry.foldl_grow`: types with new names are all listed, in their order.
* `Schemata.Builder.build_order`: the reports of two builders that differ by the order of types.
-/

namespace Schemata

variable {W : Type} {host : Host W} {oracle : Oracle} {s s' : Store W}

/-- Items under pairwise distinct names are found in any order. -/
theorem Entries.get?_perm {α : Type} {entries entries' : Entries α} (h : entries.Perm entries')
    (hnodup : entries.keys.Nodup) (name : String) : entries'.get? name = entries.get? name := by
  induction h with
  | nil => rfl
  | cons pair _ ih =>
    obtain ⟨key, item⟩ := pair
    rw [get?_cons, get?_cons, ih (List.nodup_cons.mp hnodup).2]
  | swap p q rest =>
    obtain ⟨key, item⟩ := p
    obtain ⟨key', item'⟩ := q
    have hne : key' ≠ key := by
      rintro rfl
      simp [keys] at hnodup
    simp only [get?_cons]
    split_ifs with hname hname'
    · exact absurd (hname'.symm.trans hname) hne
    all_goals rfl
  | trans h _ ih ih' =>
    rw [ih' ((h.map Prod.fst).nodup_iff.mp hnodup), ih hnodup]

/-! ### Additions -/

/-- The set with one more directive, or as it is if the directive is refused. -/
def DirectiveSet.grow (d : DirectiveSet) (e : DirectiveEntry) : DirectiveSet :=
  match d.insert e with
  | .ok grown => grown
  | .error _ => d

/-- A type with a new name that may be declared comes last. -/
theorem Registry.grow_of_free {r : Registry} {t : TypeDef} (hname : Name.IsDeclarable t.name)
    (hfree : t.name ∉ r.names) : r.grow t = ⟨r.types ++ [(t.name, t)]⟩ := by
  have htaken : r.contains t.name = false := by
    rw [Registry.names, ← Entries.contains_iff_mem_keys, Bool.not_eq_true] at hfree
    exact hfree
  rw [grow, insert, Name.validate_eq_ok_iff.mpr hname]
  dsimp only
  rw [if_neg (Bool.eq_false_iff.mp htaken)]
  rw [Entries.insert_of_not_contains r.types t.name t htaken]

namespace Builder

/-- An addition to a builder. -/
inductive Addition where
  | type (type : TypeDef)
  | directive (entry : DirectiveEntry)

/-- The type of an addition, if it is one of a type. -/
def Addition.type? : Addition → Option TypeDef
  | type t => some t
  | directive _ => none

/-- The directive of an addition, if it is one of a directive. -/
def Addition.directive? : Addition → Option DirectiveEntry
  | type _ => none
  | directive e => some e

/-- Makes an addition. -/
def add (b : Builder) : Addition → Attempt W BuildError Builder
  | .type t => b.addType t
  | .directive e => b.addDirective e

/-- Makes additions one after the other. What is refused leaves the builder as it is. -/
def extendAll : List Addition → Builder → Run W Builder
  | [], b => return b
  | a :: rest, b => do
    match ← (b.add a).run with
    | .ok grown => extendAll rest grown
    | .error _ => extendAll rest b

/-- What an addition makes of a builder. -/
def grow (b : Builder) : Addition → Builder
  | .type t => { b with types := b.types.grow t }
  | .directive e => { b with directives := b.directives.grow e }

theorem extendAll_cons_apply (a : Addition) (rest : List Addition) (b : Builder) (s : Store W) :
    ∃ s₁ : Store W, s.SameFields s₁ ∧ extendAll (a :: rest) b s = extendAll rest (b.grow a) s₁ := by
  rw [extendAll, Run.bind_apply]
  cases a with
  | type t =>
    obtain ⟨houtcome, hsame⟩ := b.addType_spec t s
    rw [add, grow, Registry.grow]
    generalize (b.addType t).run s = made at houtcome hsame ⊢
    obtain ⟨outcome, s₁⟩ := made
    obtain rfl := houtcome
    cases b.types.insert t <;> exact ⟨s₁, hsame, rfl⟩
  | directive e =>
    obtain ⟨houtcome, hsame⟩ := b.addDirective_spec e s
    rw [add, grow, DirectiveSet.grow]
    generalize (b.addDirective e).run s = made at houtcome hsame ⊢
    obtain ⟨outcome, s₁⟩ := made
    obtain rfl := houtcome
    cases b.directives.insert e <;> exact ⟨s₁, hsame, rfl⟩

/-- **Additions** of types and of directives do not interfere, and they change nothing that is kept
of fields. -/
theorem extendAll_spec (as : List Addition) :
    ∀ (b : Builder) (s : Store W), s.SameFields (extendAll as b s).2 ∧
      (extendAll as b s).1.types = (as.filterMap Addition.type?).foldl Registry.grow b.types ∧
      (extendAll as b s).1.directives =
        (as.filterMap Addition.directive?).foldl DirectiveSet.grow b.directives := by
  induction as with
  | nil => exact fun b s => ⟨⟨rfl, rfl⟩, rfl, rfl⟩
  | cons a rest ih =>
    intro b s
    obtain ⟨s₁, hsame, hrun⟩ := extendAll_cons_apply a rest b s
    obtain ⟨hrest, htypes, hdirectives⟩ := ih (b.grow a) s₁
    rw [hrun]
    refine ⟨hsame.trans hrest, htypes.trans ?_, hdirectives.trans ?_⟩ <;> cases a <;> rfl

end Builder

/-- **Types with new names** that may be declared are all listed, in their order. -/
theorem Registry.foldl_grow (ts : List TypeDef) :
    ∀ r : Registry, (ts.map TypeDef.name).Nodup →
      (∀ t ∈ ts, Name.IsDeclarable t.name ∧ t.name ∉ r.names) →
      ts.foldl grow r = ⟨r.types ++ ts.map fun t => (t.name, t)⟩ := by
  induction ts with
  | nil =>
    intro r _ _
    rw [List.map_nil, List.append_nil]
    rfl
  | cons t rest ih =>
    intro r hnodup hnames
    obtain ⟨hfirst, hothers⟩ := List.forall_mem_cons.mp hnames
    obtain ⟨hnew, hnodup⟩ := List.nodup_cons.mp hnodup
    rw [List.foldl_cons, grow_of_free hfirst.1 hfirst.2, ih _ hnodup]
    · simp
    · intro t' ht'
      obtain ⟨hname, hfree⟩ := hothers t' ht'
      refine ⟨hname, ?_⟩
      simp only [names, Entries.keys, List.map_append, List.map_cons, List.map_nil,
        List.mem_append, List.mem_singleton, not_or]
      refine ⟨hfree, ?_⟩
      intro hsame
      exact hnew (hsame ▸ List.mem_map_of_mem ht')

/-! ### Reports -/

namespace Builder

/-- What is found of a builder after additions, beside what each type has on its own. -/
theorem report_of_sameFields (hhost : host.Follows oracle) {b : Builder} (hs : s.Numbered)
    (h : s.SameFields s') : (b.report host s').1 = b.account host s := by
  have hstart : s.Revises oracle (fun _ => False) b.types.lookup b.types.lookup s := .refl _ _ _ hs
  exact report_later hhost (hstart.of_resolved_eq h.1 (Nat.le_of_eq h.2.symm))

/-- The accounts of types stand beside their names. -/
theorem zip_account (b : Builder) (s : Store W) :
    b.types.names.zip (b.account host s).types =
      b.types.types.map fun p => (p.1, p.2.account host b.types.lookup s) := by
  rw [account, Registry.names, Entries.keys, Entries.items, List.map_map, List.zip_map']
  rfl

/-- The report of a builder lists no violation if all its blocks are empty. -/
theorem violations_eq_nil_iff (r : Report) : r.violations = [] ↔
    (∀ account ∈ r.types, account.block = []) ∧ r.directives.block = [] := by
  rw [Report.violations, List.append_eq_nil_iff, List.flatMap_eq_nil_iff]

end Builder

theorem Registry.names_initial :
    Registry.initial.names = BuiltinScalar.all.map BuiltinScalar.name :=
  rfl

/-- Two builders that additions of the same types and directives lead to, up to the order of types,
have the same types under their names, up to their order. -/
theorem Registry.perm_of_grow {ts ts' : List TypeDef} (hperm : ts.Perm ts')
    (hnodup : (ts.map TypeDef.name).Nodup)
    (hnames : ∀ t ∈ ts, Name.IsDeclarable t.name ∧
      ∀ scalar : BuiltinScalar, t.name ≠ scalar.name) :
    (ts.foldl grow initial).types.Perm (ts'.foldl grow initial).types ∧
      (ts'.foldl grow initial).lookup = (ts.foldl grow initial).lookup := by
  have hfree : ∀ t ∈ ts, Name.IsDeclarable t.name ∧ t.name ∉ initial.names := by
    intro t ht
    obtain ⟨hname, hscalars⟩ := hnames t ht
    refine ⟨hname, ?_⟩
    rw [names_initial, List.mem_map]
    rintro ⟨scalar, -, hsame⟩
    exact hscalars scalar hsame.symm
  have hnodup' := (hperm.map TypeDef.name).nodup_iff.mp hnodup
  rw [foldl_grow ts initial hnodup hfree,
    foldl_grow ts' initial hnodup' fun t ht => hfree t (hperm.mem_iff.mpr ht)]
  have htypes : (initial.types ++ ts.map fun t => (t.name, t)).Perm
      (initial.types ++ ts'.map fun t => (t.name, t)) := (hperm.map _).append_left _
  refine ⟨htypes, ?_⟩
  have hkeys : Entries.keys (initial.types ++ ts.map fun t => (t.name, t)) =
      initial.names ++ ts.map TypeDef.name := by
    simp [Entries.keys, names]
  have hdistinct : (Entries.keys (initial.types ++ ts.map fun t => (t.name, t))).Nodup := by
    rw [hkeys, List.nodup_append]
    refine ⟨by decide, hnodup, ?_⟩
    rintro name hname _ hmem rfl
    obtain ⟨t, ht, rfl⟩ := List.mem_map.mp hmem
    exact (hfree t ht).2 hname
  funext name
  exact congrArg _ (Entries.get?_perm htypes hdistinct name)

namespace Builder

/-- **The order in which types are added makes no difference to what is found.** Let two builders
be made by the same additions of directives and by additions of the same types in two orders, where
the types have pairwise distinct names that may be declared and are no names of builtin scalars.
Then each type has the same account in both, and so have the directives; validation lists the blocks
of these accounts in the order of the types, and there is a schema in both cases or in none. -/
theorem build_order (hhost : host.Follows oracle) (hs : s.Numbered) {as as' : List Addition}
    (htypes : (as.filterMap Addition.type?).Perm (as'.filterMap Addition.type?))
    (hdirectives : as.filterMap Addition.directive? = as'.filterMap Addition.directive?)
    (hnodup : ((as.filterMap Addition.type?).map TypeDef.name).Nodup)
    (hnames : ∀ t ∈ as.filterMap Addition.type?, Name.IsDeclarable t.name ∧
      ∀ scalar : BuiltinScalar, t.name ≠ scalar.name) :
    let made := extendAll as .initial s
    let made' := extendAll as' .initial s
    let report := (made.1.report host made.2).1
    let report' := (made'.1.report host made'.2).1
    (made.1.types.names.zip report.types).Perm (made'.1.types.names.zip report'.types) ∧
      report'.directives = report.directives ∧
      (made.1.validate host made.2).1.1 = report.violations ∧
      (made'.1.validate host made'.2).1.1 = report'.violations ∧
      ((∃ schema s₁, (made.1.build host).run made.2 = (.ok schema, s₁)) ↔
        ∃ schema s₁, (made'.1.build host).run made'.2 = (.ok schema, s₁)) := by
  obtain ⟨hsame, hgrown, hset⟩ := extendAll_spec as .initial s
  obtain ⟨hsame', hgrown', hset'⟩ := extendAll_spec as' .initial s
  rw [← hdirectives, ← hset] at hset'
  obtain ⟨hperm, hlookup⟩ := Registry.perm_of_grow htypes hnodup hnames
  change _ = (as.filterMap Addition.type?).foldl Registry.grow .initial at hgrown
  change _ = (as'.filterMap Addition.type?).foldl Registry.grow .initial at hgrown'
  rw [← hgrown, ← hgrown'] at hperm hlookup
  clear hgrown hgrown' hset
  generalize extendAll as initial s = made at *
  generalize extendAll as' initial s = made' at *
  obtain ⟨b, s₁⟩ := made
  obtain ⟨b', s₁'⟩ := made'
  dsimp only at *
  have hreport : (b.report host s₁).1 = b.account host s := report_of_sameFields hhost hs hsame
  have hreport' : (b'.report host s₁').1 = b'.account host s := report_of_sameFields hhost hs hsame'
  have hset : (b'.account host s).directives = (b.account host s).directives := by
    rw [account, account, hlookup, hset']
  have haccounts : (b.account host s).types.Perm (b'.account host s).types := by
    rw [account, account, hlookup]
    exact (hperm.map _).map _
  rw [build_eq_ok_iff, build_eq_ok_iff, (b.validate_report host s₁).1,
    (b'.validate_report host s₁').1, hreport, hreport', zip_account, zip_account, hlookup]
  refine ⟨hperm.map _, hset, rfl, rfl, ?_⟩
  rw [violations_eq_nil_iff, violations_eq_nil_iff, hset]
  exact and_congr_left' (forall_congr' fun account => by rw [haccounts.mem_iff])

/-- An object whose fields refer to another object and to itself. -/
def pingType : TypeDef :=
  .object (.declare "Ping" none (.declared
    [(.name "pong", .type (.named "Pong")), (.name "ping", .type (.named "Ping"))]))

/-- The other object, which refers back, and has a field of an unknown type. -/
def pongType : TypeDef :=
  .object (.declare "Pong" none (.declared
    [(.name "ping", .type (.list (.named "Ping"))), (.name "ghost", .type (.named "Ghost"))]))

/-- In both orders the one fault is found, and every type has one account. -/
theorem build_order_pingPong :
    let made := extendAll [.type pingType, .type pongType] .initial (.start ())
    let made' := extendAll [.type pongType, .type pingType] .initial (.start ())
    (made.1.types.names.zip (made.1.report textOracle.host made.2).1.types).Perm
        (made'.1.types.names.zip (made'.1.report textOracle.host made'.2).1.types) ∧
      (made.1.validate textOracle.host made.2).1.1 =
        [.unresolvableFieldType "Pong" "ghost" (.undefinedTypeName "Ghost")] ∧
      (made'.1.validate textOracle.host made'.2).1.1 =
        [.unresolvableFieldType "Pong" "ghost" (.undefinedTypeName "Ghost")] := by
  have htypes : ([.type pingType, .type pongType].filterMap Addition.type?).Perm
      ([.type pongType, .type pingType].filterMap Addition.type?) := .swap _ _ _
  have hnames : ∀ t ∈ [pingType, pongType], Name.IsDeclarable t.name ∧
      ∀ scalar : BuiltinScalar, t.name ≠ scalar.name := by
    simp only [List.forall_mem_cons, List.not_mem_nil, false_imp_iff, implies_true, and_true]
    refine ⟨⟨⟨by decide, by decide⟩, ?_⟩, ⟨by decide, by decide⟩, ?_⟩ <;>
      (intro scalar; cases scalar <;> decide)
  obtain ⟨hperm, -, hlist, hlist', -⟩ := build_order textOracle.follows_host
    (Store.numbered_start ()) htypes rfl (by decide) hnames
  refine ⟨hperm, hlist.trans ?_, hlist'.trans ?_⟩ <;> rfl

end Builder

end Schemata
