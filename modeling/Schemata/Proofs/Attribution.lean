import Schemata.Proofs.BuilderCourse
import Schemata.Proofs.Refusals

/-!
# Violations name what they were found of

A violation says of which element it was found: a type with fields, a union, an input object, or a
directive. A field is declared, forced and checked as one of the type that it is declared on,
whatever type it was made for before, and the arguments are those of their owner. So everything that
is found of an element names this element, with whatever functions its fields are produced.

## Main definitions

* `Schemata.Element`, `Schemata.Violation.element?`: the element that a violation names.
* `Schemata.Outcome.Blames`, `Schemata.Attempt.Blames`: failures name the given element.
* `Schemata.Account.Blames`: all that was found names the given element.

## Main results

* `Schemata.FieldSet.blames_drafts`: reading the fields of a type.
* `Schemata.Forcing.Yields.blames`: forcing a field along its chain of producers.
* `Schemata.Field.blames_check`, `Schemata.Directive.blames_check`: checks.
* `Schemata.Builder.report_blames`: the report of a builder.
-/

namespace Schemata

variable {W α β : Type} {host : Host W} {types : TypeLookup}

/-- What holds of each result of a list of runs, whatever store it starts from, holds of all. -/
theorem Run.forall₂_mapM {R : α → β → Prop} {f : α → Run W β} {as : List α}
    (h : ∀ a ∈ as, ∀ s, R a (f a s).1) : ∀ s : Store W, List.Forall₂ R as (as.mapM f s).1 := by
  induction as with
  | nil => exact fun _ => .nil
  | cons a rest ih =>
    obtain ⟨hfirst, hothers⟩ := List.forall_mem_cons.mp h
    intro s
    rw [mapM_cons_apply]
    exact .cons (hfirst s) (ih hothers (f a s).2)

/-! ### Elements -/

/-- An element of a schema that violations are found of. -/
inductive Element where
  /-- A type with fields, or the type itself. -/
  | type (name : String)
  | union (name : String)
  | inputObject (name : String)
  | directive (name : String)
  deriving DecidableEq, Repr

/-- The element that has the arguments of an owner, of a field the type that it is declared on. -/
def ArgumentOwner.element : ArgumentOwner → Element
  | directive name => .directive name
  | field typeName _ => .type typeName
  | inputObject typeName => .inputObject typeName

/-- The element that a violation names. Only a directive without a name cannot be named. -/
def Violation.element? : Violation → Option Element
  | conflictingFieldResolution t _ => some (.type t)
  | deprecatedRequiredArgument _ owner => some owner.element
  | duplicateArgumentName _ owner => some owner.element
  | duplicateDirectiveDefinition d => some (.directive d)
  | duplicateFieldDefinition t _ => some (.type t)
  | duplicateTypeDefinition t => some (.type t)
  | deferredFieldRequiresName t _ => some (.type t)
  | deferredFieldDepthExceeded t _ _ => some (.type t)
  | emptyDirectiveLocations d => some (.directive d)
  | fieldSetNotIterable t _ => some (.type t)
  | invalidArgumentDeclaration _ owner _ => some owner.element
  | invalidArgumentDefaultValue _ owner _ => some owner.element
  | invalidArgumentName _ owner _ => some owner.element
  | invalidArgumentsConfig owner _ => some owner.element
  | invalidArgumentType _ owner _ => some owner.element
  | invalidDirectiveLocations d _ => some (.directive d)
  | invalidDirectiveName d _ => some (.directive d)
  | invalidFieldArgs t _ _ => some (.type t)
  | invalidFieldCallable t _ _ _ => some (.type t)
  | invalidFieldDeclaration t _ _ => some (.type t)
  | invalidFieldName t _ _ => some (.type t)
  | invalidOutputFieldType t _ _ => some (.type t)
  | invalidTypeName t _ => some (.type t)
  | invalidUnionMemberType u _ _ => some (.union u)
  | legacyIsDeprecatedFlag t _ => some (.type t)
  | missingDirectiveName _ => none
  | missingDirectiveLocations d => some (.directive d)
  | missingFieldName t _ => some (.type t)
  | undefinedUnionMemberType u _ => some (.union u)
  | unresolvableArgumentType _ owner _ => some owner.element
  | unresolvableFieldType t _ _ => some (.type t)
  | unknownDirectiveLocation d _ => some (.directive d)

/-- The element that a type is. -/
def TypeDef.element : TypeDef → Element
  | inputObject t => .inputObject t.name
  | union u => .union u.name
  | t => .type t.name

/-! ### Failures that name an element -/

section Blames

variable {subject : Element}

/-- If there is no result, the violation names the element. -/
def Outcome.Blames (subject : Element) (outcome : Except Violation α) : Prop :=
  ∀ violation, outcome = .error violation → violation.element? = some subject

namespace Outcome

theorem blames_ok (a : α) : Blames subject (.ok a) :=
  fails_ok a

theorem blames_error {violation : Violation} (h : violation.element? = some subject) :
    Blames subject (.error violation : Except Violation α) :=
  fails_error h

theorem Blames.bind {x : Except Violation α} {f : α → Except Violation β} (hx : Blames subject x)
    (hf : ∀ a, Blames subject (f a)) : Blames subject (x >>= f) :=
  Fails.bind hx fun a _ => hf a

theorem Blames.map {x : Except Violation α} (hx : Blames subject x) (f : α → β) :
    Blames subject (x.map f) :=
  Fails.map hx f

end Outcome

/-- If the attempt fails, from whatever store, the violation names the element. -/
def Attempt.Blames (subject : Element) (m : Attempt W Violation α) : Prop :=
  ∀ s, Outcome.Blames subject (m.run s).1

namespace Attempt

theorem blames_ofExcept {outcome : Except Violation α} (h : Outcome.Blames subject outcome) :
    Blames subject (ofExcept outcome : Attempt W Violation α) :=
  fun _ => h

theorem blames_require (condition : Bool) {violation : Violation}
    (h : violation.element? = some subject) :
    Blames subject (require condition violation : Attempt W Violation Unit) := by
  intro s
  rw [run_require_apply]
  cases condition with
  | false => exact Outcome.blames_error h
  | true => exact Outcome.blames_ok ()

/-- If all failures become violations of the element, it does not matter what they were. -/
theorem blames_mapError {ε : Type} {f : ε → Violation} (hf : ∀ e, (f e).element? = some subject)
    (m : Attempt W ε α) : Blames subject (mapError f m) := by
  intro s
  rw [run_mapError_apply]
  cases (m.run s).1 with
  | error e => exact Outcome.blames_error (hf e)
  | ok a => exact Outcome.blames_ok a

theorem Blames.bind {m : Attempt W Violation α} {f : α → Attempt W Violation β}
    (hm : Blames subject m) (hf : ∀ a, Blames subject (f a)) : Blames subject (m >>= f) := by
  intro s
  have hfirst := hm s
  rw [run_bind_apply]
  rcases hrun : m.run s with ⟨violation | a, s'⟩
  · rw [hrun] at hfirst
    exact Outcome.blames_error (hfirst violation rfl)
  · exact hf a s'

/-- Checks that are made one after the other list violations of the one element that they name. -/
theorem blames_violations {check : β → Attempt W Violation Unit}
    (hcheck : ∀ b, Blames subject (check b)) (bs : List β) :
    ∀ (s : Store W), ∀ violation ∈ (violations check bs s).1,
      violation.element? = some subject := by
  induction bs with
  | nil => exact fun _ _ h => nomatch h
  | cons b rest ih =>
    intro s violation hmem
    rw [violations_cons_apply] at hmem
    rcases List.mem_append.mp hmem with hfirst | hlater
    · have hfailed := (violation?_eq_some_iff (check b) s).mp (Option.mem_toList.mp hfirst)
      exact hcheck b s violation hfailed
    · exact ih _ violation hlater

/-- What checks of several elements find names for each of them the one that was checked. -/
theorem blames_findings {check : β → Attempt W Violation Unit} {subject : β → Element}
    (hcheck : ∀ b, Blames (subject b) (check b)) (bs : List β) (s : Store W) :
    List.Forall₂ (fun b finding => ∀ violation, finding.violation? = some violation →
      violation.element? = some (subject b)) bs (findings check bs s).1 := by
  refine Run.forall₂_mapM (fun b _ s' violation hfound => ?_) s
  exact hcheck b s' violation ((violation?_eq_some_iff (check b) s').mp hfound)

end Attempt

end Blames

/-! ### Declarations -/

theorem Argument.Refusal.element?_eq {owner : ArgumentOwner} {violation : Violation}
    (h : Refusal owner violation) : violation.element? = some owner.element := by
  cases h <;> rfl

namespace FieldDraft

theorem Refusal.element?_eq {typeName : String} {violation : Violation}
    (h : Refusal typeName violation) : violation.element? = some (.type typeName) := by
  cases h with
  | argument h => exact h.element?_eq
  | _ => rfl

/-- A value that declares no field is refused on the type that it is declared on. -/
theorem blames_declare (typeName : String) (key : FieldKey) (value : Config) :
    Outcome.Blames (.type typeName) (declare typeName key value) :=
  (fails_declare typeName key value).imp fun _ => Refusal.element?_eq

theorem blames_readAfter (typeName : String) (declarations : List (FieldKey × Config)) :
    ∀ taken, Outcome.Blames (.type typeName) (readAfter typeName taken declarations) := by
  induction declarations with
  | nil => exact fun _ => Outcome.blames_ok []
  | cons declaration rest ih =>
    obtain ⟨key, value⟩ := declaration
    intro taken
    have hfirst := blames_declare typeName key value
    rw [readAfter]
    cases hdeclare : declare typeName key value with
    | error violation => exact Outcome.blames_error (hfirst violation hdeclare)
    | ok draft =>
      dsimp only
      split_ifs
      · exact Outcome.blames_error rfl
      · exact (ih _).map _

/-- The deferred fields among the drafts of a type are declared on it. -/
theorem parent_of_readAll {typeName : String} {declarations : List (FieldKey × Config)}
    {drafts : List FieldDraft} (h : readAll typeName declarations = .ok drafts)
    {field : DeferredField} (hmem : .deferred field ∈ drafts) : field.parent = typeName := by
  obtain ⟨hdrafts, -⟩ := (readAll_eq_ok_iff typeName declarations drafts).mp h
  obtain ⟨i, hi, hfield⟩ := List.getElem_of_mem hmem
  have hdeclare := hdrafts.get (hdrafts.length_eq ▸ hi) hi
  rw [List.get_eq_getElem, List.get_eq_getElem, hfield] at hdeclare
  obtain ⟨d, -, hdraft⟩ := Outcome.bind_eq_ok_iff.mp hdeclare
  exact (Declaration.eq_deferred_of_draft hdraft).2

end FieldDraft

namespace FieldSet

/-- **Fields that cannot be read** are those of the type that they are read for. -/
theorem blames_drafts (typeName : String) (produced : Handle → Config) (set : FieldSet) :
    Outcome.Blames (.type typeName) (set.drafts typeName produced) := by
  cases set with
  | declared declarations => exact FieldDraft.blames_readAfter typeName declarations []
  | deferred producer =>
    refine Outcome.Blames.bind ?_ fun _ => FieldDraft.blames_readAfter typeName _ []
    unfold declarationsOf
    split
    · exact Outcome.blames_ok _
    · exact Outcome.blames_ok _
    · exact Outcome.blames_error rfl

theorem parent_of_drafts {typeName : String} {produced : Handle → Config} {set : FieldSet}
    {drafts : List FieldDraft} (h : set.drafts typeName produced = .ok drafts)
    {field : DeferredField} (hmem : .deferred field ∈ drafts) : field.parent = typeName := by
  cases set with
  | declared declarations => exact FieldDraft.parent_of_readAll h hmem
  | deferred producer =>
    obtain ⟨declarations, -, hread⟩ := Outcome.bind_eq_ok_iff.mp h
    exact FieldDraft.parent_of_readAll hread hmem

end FieldSet

/-- **A field that cannot be forced** is one of the type that it was declared on, however many
producers have been asked before. -/
theorem Forcing.Yields.blames {f : Forcing W} {outcome : Except Violation Field}
    (h : f.Yields host outcome) : Outcome.Blames (.type f.field.parent) outcome := by
  unfold Forcing.Yields at h
  split at h
  · rename_i declared hfinal
    intro violation hfailed
    rw [hfailed] at h
    exact FieldDraft.blames_declare _ _ declared violation h.symm
  · rw [h]
    exact Outcome.blames_error rfl

/-! ### What types keep -/

namespace Composite.Kept

variable {c : Composite} {m : FieldMap}

theorem blames_fields (hc : c.Kept host) {violation : Violation}
    (h : c.fields = some (.error violation)) : violation.element? = some (.type c.name) := by
  obtain ⟨w, hread⟩ := hc.read _ h
  have hdrafts := FieldSet.blames_drafts c.name (fun producer => (host.fieldSetOf producer w).1)
    c.fieldSet
  exact (hdrafts.map FieldDraft.named) violation hread.symm

/-- The deferred fields of a type are declared on it. -/
theorem parent_of_slot (hc : c.Kept host) (hm : c.fields = some (.ok m)) {field : DeferredField}
    {forced : Option (Except Violation Field)} (hslot : .deferred field forced ∈ m.slots.items) :
    field.parent = c.name := by
  obtain ⟨w, hread⟩ := hc.read _ hm
  obtain ⟨drafts, hdrafts, hnamed⟩ := Outcome.map_eq_ok_iff.mp hread.symm
  dsimp only at hnamed
  have hmem : .deferred field ∈ (FieldEntry.drafts m.entries).items := by
    simp only [FieldEntry.drafts, FieldMap.entries, Entries.items, List.map_map]
    obtain ⟨pair, hpair, hsame⟩ := List.mem_map.mp hslot
    exact List.mem_map.mpr ⟨pair, hpair, by simp [hsame, Slot.entry, FieldEntry.draft]⟩
  rw [← hnamed] at hmem
  simp only [FieldDraft.named, Entries.items, List.map_map] at hmem
  obtain ⟨draft, hdraft, hsame⟩ := List.mem_map.mp hmem
  obtain rfl : draft = .deferred field := hsame
  exact FieldSet.parent_of_drafts hdrafts hdraft

theorem blames_slot (hc : c.Kept host) (hm : c.fields = some (.ok m)) {slot : Slot}
    (hslot : slot ∈ m.slots.items) {outcome : Except Violation Field}
    (houtcome : slot.outcome? = some outcome) : Outcome.Blames (.type c.name) outcome := by
  match slot with
  | .defined field =>
    obtain rfl := Option.some.inj houtcome
    exact Outcome.blames_ok field
  | .deferred field forced =>
    obtain rfl : forced = some outcome := houtcome
    obtain ⟨w, hyields⟩ := hc.forced m hm _ hslot
    have hblames := hyields.blames
    rwa [hc.parent_of_slot hm hslot] at hblames

end Composite.Kept

/-! ### Checks -/

namespace Argument

theorem blames_check (host : Host W) (types : TypeLookup) (owner : ArgumentOwner) (a : Argument) :
    Attempt.Blames owner.element (a.check host types owner) := by
  refine (Attempt.blames_mapError (fun _ => rfl) _).bind fun _ => ?_
  refine (Attempt.blames_mapError (fun _ => rfl) _).bind fun _ => ?_
  exact (Attempt.blames_require _ rfl).bind fun _ => Attempt.blames_require _ rfl

theorem blames_checkAfter (host : Host W) (types : TypeLookup) (owner : ArgumentOwner)
    (arguments : List Argument) :
    ∀ seen, Attempt.Blames owner.element (checkAfter host types owner seen arguments) := by
  induction arguments with
  | nil => exact fun _ _ => Outcome.blames_ok ()
  | cons a rest ih =>
    intro seen
    refine (Attempt.blames_require _ rfl).bind fun _ => ?_
    exact (blames_check host types owner a).bind fun _ => ih _

end Argument

/-- **The check of a field** names the type that the field is checked as one of, which need not be
the one that it was made for. -/
theorem Field.blames_check (host : Host W) (types : TypeLookup) (typeName : String) (f : Field) :
    Attempt.Blames (.type typeName) (f.check host types typeName) := by
  have hcallable : ∀ role, Attempt.Blames (.type typeName)
      (Attempt.ofExcept (f.checkCallable typeName role) : Attempt W Violation Unit) := by
    intro role
    refine Attempt.blames_ofExcept ?_
    unfold checkCallable
    split
    · exact Outcome.blames_ok ()
    · split_ifs
      · exact Outcome.blames_ok ()
      · exact Outcome.blames_error rfl
  refine (Attempt.blames_mapError (fun _ => rfl) _).bind fun _ => ?_
  refine (Attempt.blames_require _ rfl).bind fun _ => ?_
  refine (Attempt.blames_mapError (fun _ => rfl) _).bind fun _ => ?_
  refine (Attempt.blames_require _ rfl).bind fun _ => ?_
  refine (hcallable .resolver).bind fun _ => ?_
  refine (hcallable .mapper).bind fun _ => ?_
  refine (hcallable .estimator).bind fun _ => ?_
  exact Argument.blames_checkAfter host types (.field typeName f.name) f.arguments []

theorem Directive.blames_check (host : Host W) (types : TypeLookup) (d : Directive) :
    Attempt.Blames (.directive d.name) (d.check host types) := by
  refine (Attempt.blames_mapError (fun _ => rfl) _).bind fun _ => ?_
  exact Argument.blames_checkAfter host types (.directive d.name) d.arguments []

theorem UnionType.blames_member {types : TypeLookup} {unionName member : String}
    {violation : Violation} (h : memberViolation? types unionName member = some violation) :
    violation.element? = some (.union unionName) := by
  unfold memberViolation? at h
  split at h
  · cases h
    rfl
  · split_ifs at h
    cases h
    rfl

/-! ### Reports -/

/-- **Whatever is found of an object or an interface** names it. -/
theorem Composite.Kept.blames_validate {c : Composite} (hc : c.Kept host) (types : TypeLookup)
    (s : Store W) : ∀ violation ∈ (c.validate host types s).1.1,
      violation.element? = some (.type c.name) := by
  have hkept := (c.validate_serves host types s).kept hc
  rcases c.validate_cases host types s with
    ⟨violation, s₁, -, -, hrun⟩ | ⟨m, outcomes, s₁, -, -, houtcomes, hrun⟩
  · rw [hrun] at hkept ⊢
    rintro _ (_ | ⟨_, ⟨⟩⟩)
    exact hkept.blames_fields rfl
  · rw [hrun] at hkept ⊢
    intro violation hmem
    rcases List.mem_append.mp hmem with hstuck | hfault
    · -- The slot was forced, then or before, and keeps the violation.
      obtain ⟨outcome, houtcome, hviolation⟩ := List.mem_filterMap.mp hstuck
      have hslot : some outcome ∈ m.slots.items.map Slot.outcome? := by
        rw [houtcomes]
        exact List.mem_map_of_mem houtcome
      obtain ⟨slot, hslot, hkeeps⟩ := List.mem_map.mp hslot
      have hblames := hkept.blames_slot rfl hslot hkeeps
      cases outcome with
      | ok f => cases hviolation
      | error stuck =>
        obtain rfl := Option.some.inj hviolation
        exact hblames stuck rfl
    · exact Attempt.blames_violations (Field.blames_check host types c.name) _ s₁ violation hfault

theorem TypeDef.Kept.blames_report {t : TypeDef} (ht : t.Kept host) (types : TypeLookup)
    (s : Store W) : ∀ violation ∈ (t.report host types s).1.block,
      violation.element? = some t.element := by
  rw [← (t.validate_report host types s).1]
  cases t with
  | object c => exact (ht c rfl).blames_validate types s
  | interface c => exact (ht c rfl).blames_validate types s
  | inputObject t =>
    exact Attempt.blames_violations (Argument.blames_check host types (.inputObject t.name))
      t.fields.items s
  | union u =>
    intro violation hmem
    obtain ⟨member, -, hfault⟩ := List.mem_filterMap.mp hmem
    exact UnionType.blames_member hfault
  | _ => exact fun _ h => nomatch h

namespace Builder

/-- **Every violation names the element that it is found of.** Whatever the functions of the host
answer, building a builder that additions have led to reports the blocks of its types and of its
directives, if it reports violations. All that is in the block of an object or an interface names
this type, all that is in the block of a union or an input object names that, and what is found of a
directive names the directive: whether it was found reading the fields, forcing them or checking
them, and whatever type the field of a slot was made for. -/
theorem report_blames {b : Builder} (hb : b.Grown host) (s : Store W) :
    let report := (b.report host s).1
    (∀ violations, ((b.build host).run s).1 = .error (.invalid violations) →
        violations = report.violations) ∧
      List.Forall₂ (fun t account => ∀ violation ∈ account.block,
        violation.element? = some t.element) b.types.types.items report.types ∧
      ∃ findings, report.directives = .itemised findings ∧
        List.Forall₂ (fun e finding => ∀ violation, finding.violation? = some violation →
          violation.element? = some (.directive e.name))
          b.directives.complete.entries.items findings := by
  have htypes : List.Forall₂ (fun t account => ∀ violation ∈ account.block,
      violation.element? = some t.element) b.types.types.items (b.types.report host s).1 :=
    Run.forall₂_mapM (fun t ht s' => (hb.regular.kept t ht).blames_report b.types.lookup s') s
  refine ⟨fun violations hfailed => ?_, htypes, _, rfl,
    Attempt.blames_findings (fun e => e.definition.blames_check host b.types.lookup) _ _⟩
  rw [build_apply] at hfailed
  split_ifs at hfailed
  cases hfailed
  exact (b.validate_report host s).1

/-- The answers of a host one of whose producers gives the other, which declares nothing. -/
def evasiveOracle : Oracle where
  typeOf _ := .named "String"
  fieldOf h := if h = ⟨0⟩ then .callable ⟨.producer, ⟨1⟩⟩ else .null
  fieldSetOf _ := .record []

/-- A field without a type, which any type may declare. -/
def lentField : Field where
  name := "lent"
  arguments := []
  typeRef := none
  resolution := .standard
  estimator := none
  description := none
  deprecationReason := none
  source := []
  id := 0

/-- Two types that share a field, one of them with a field that cannot be forced, a type whose
fields cannot be read, a union and an input object that name an unknown type, and a directive with
two arguments of one name. -/
def crossed : List Addition :=
  [.type (.object (.declare "Query" none (.declared
      [(.name "lent", .field lentField), (.name "shy", .callable ⟨.producer, ⟨0⟩⟩)]))),
    .type (.interface (.declare "Node" none (.declared [(.name "lent", .field lentField)]))),
    .type (.object (.declare "Torn" none (.declared [(.position 3, .null)]))),
    .type (.union (.ofMembers "Any" none ["Ghost"])),
    .type (.inputObject (.ofFields "Filter" none [.ofType "by" (.named "Ghost")])),
    .directive (.declared
      { name := "cached", description := none, locations := [.field], isRepeatable := false,
        source := [],
        arguments := [.ofType "ttl" (.named "Int"), .ofType "ttl" (.named "Int")] })]

/-- The shared field is faulty in both types, and each fault names the type it is found of. -/
theorem report_crossed :
    let b := (extendAll crossed .initial (.start ())).1
    let report := (b.report evasiveOracle.host (.start ())).1
    b.Grown evasiveOracle.host ∧
      List.Forall₂ (fun t account => ∀ violation ∈ account.block,
        violation.element? = some t.element) b.types.types.items report.types ∧
      report.violations =
        [.invalidFieldDeclaration "Query" "shy" "null",
          .unresolvableFieldType "Query" "lent" .missingType,
          .unresolvableFieldType "Node" "lent" .missingType,
          .invalidFieldDeclaration "Torn" "3" "null",
          .undefinedUnionMemberType "Any" "Ghost",
          .unresolvableArgumentType "by" (.inputObject "Filter") (.undefinedTypeName "Ghost"),
          .duplicateArgumentName "ttl" (.directive "cached")] := by
  have hreached : ∀ t, .type t ∈ crossed → ∀ c, t.asComposite? = some c →
      c.Reached evasiveOracle.host := by
    intro t ht c hc
    simp only [crossed, List.mem_cons, Addition.type.injEq, reduceCtorEq, List.not_mem_nil,
      or_false] at ht
    rcases ht with rfl | rfl | rfl | rfl | rfl <;> cases hc <;> exact .declare _ none _
  have hgrown := Grown.initial.extendAll crossed hreached (.start ())
  exact ⟨hgrown, (report_blames hgrown (.start ())).2.1, rfl⟩

end Builder

end Schemata
