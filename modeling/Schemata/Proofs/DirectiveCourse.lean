import Schemata.Proofs.Registration

/-!
# Courses of a set of directives

Directives are added to a set, and now and then the set is completed with the builtin ones. A name
that was declared to be a directive remains that directive; a builtin directive stands under its
name for as long as the name is not declared to be anything else.

What comes of an addition depends on what the names were declared to be, and completing a set
declares nothing. So it makes no difference to any addition when, or how often, the set is completed.

## Main definitions

* `Schemata.DirectiveSet.Step`, `Schemata.DirectiveSet.course`: what may be done with a set, and one
  step after the other.
* `Schemata.DirectiveSet.declared?`: what a name was declared to be.
* `Schemata.DirectiveSet.Orderly`, `Schemata.DirectiveSet.Receives`: sets as steps leave them, and
  how such a set takes one more directive.

## Main results

* `Schemata.DirectiveSet.insert_eq`: insertion by the verdict on the directive.
* `Schemata.DirectiveSet.get?_complete`: what a completed set has under a name.
* `Schemata.DirectiveSet.course_completed`: completing a set in between changes no addition.
* `Schemata.DirectiveSet.course_orderly`: the courses of a set.
-/

namespace Schemata

variable {W : Type} {s : Store W}

/-! ### Entries -/

theorem BuiltinDirective.ofName?_name (b : BuiltinDirective) : ofName? b.name = some b := by
  cases b <;> rfl

theorem DirectiveEntry.name_builtin (b : BuiltinDirective) : (builtin b).name = b.name := by
  cases b <;> rfl

namespace DirectiveEntry

/-- What an entry declares its name to be. Builtin directives are not declared. -/
def declared? : DirectiveEntry → Option Directive
  | builtin _ => none
  | declared directive => some directive

theorem eq_declared_of_declared? {e : DirectiveEntry} {directive : Directive}
    (h : e.declared? = some directive) : e = .declared directive := by
  cases e with
  | builtin b => cases h
  | declared d => rw [Option.some.inj h]

theorem eq_builtin_of_declared? {e : DirectiveEntry} (h : e.declared? = none) :
    ∃ b, e = .builtin b := by
  cases e with
  | builtin b => exact ⟨b, rfl⟩
  | declared d => cases h

/-- What comes of adding a directive to a set that declares its name to be `held`. -/
def verdict (e : DirectiveEntry) (held : Option Directive) : Except Violation Unit :=
  match Name.validate e.name with
  | .error reason => .error (.invalidDirectiveName e.name reason)
  | .ok () =>
    match held with
    | some _ => .error (.duplicateDirectiveDefinition e.name)
    | none => .ok ()

theorem verdict_eq_ok_iff {e : DirectiveEntry} {held : Option Directive} :
    e.verdict held = .ok () ↔ Name.IsDeclarable e.name ∧ held = none := by
  rw [← Name.validate_eq_ok_iff]
  unfold verdict
  cases Name.validate e.name <;> cases held <;> simp

end DirectiveEntry

namespace DirectiveSet

/-! ### Additions -/

/-- What a set declares a name to be. -/
def declared? (d : DirectiveSet) (name : String) : Option Directive :=
  (d.get? name).bind DirectiveEntry.declared?

theorem declared?_eq_some_iff {d : DirectiveSet} {name : String} {directive : Directive} :
    d.declared? name = some directive ↔ d.get? name = some (.declared directive) := by
  rw [declared?, Option.bind_eq_some_iff]
  constructor
  · rintro ⟨e, hheld, hdeclared⟩
    rw [hheld, DirectiveEntry.eq_declared_of_declared? hdeclared]
  · exact fun h => ⟨_, h, rfl⟩

/-- **Insertion** by the verdict on the directive. -/
theorem insert_eq (d : DirectiveSet) (e : DirectiveEntry) :
    d.insert e = (e.verdict (d.declared? e.name)).map fun _ => ⟨d.entries.insert e.name e⟩ := by
  unfold insert DirectiveEntry.verdict declared?
  cases Name.validate e.name with
  | error reason => rfl
  | ok _ => rcases d.get? e.name with _ | (builtin | declared) <;> rfl

theorem grow_of_accepted {d : DirectiveSet} {e : DirectiveEntry}
    (h : e.verdict (d.declared? e.name) = .ok ()) : d.grow e = ⟨d.entries.insert e.name e⟩ := by
  rw [grow, insert_eq, h]
  rfl

theorem grow_of_refused {d : DirectiveSet} {e : DirectiveEntry} {violation : Violation}
    (h : e.verdict (d.declared? e.name) = .error violation) : d.grow e = d := by
  rw [grow, insert_eq, h]
  rfl

/-- Either the set is as it was, or it has the directive under its name. -/
theorem grow_cases (d : DirectiveSet) (e : DirectiveEntry) : d.grow e = d ∨
    e.verdict (d.declared? e.name) = .ok () ∧ d.grow e = ⟨d.entries.insert e.name e⟩ := by
  cases hverdict : e.verdict (d.declared? e.name) with
  | error violation => exact .inl (grow_of_refused hverdict)
  | ok _ => exact .inr ⟨rfl, grow_of_accepted hverdict⟩

/-- Only the name of an accepted directive is declared to be something else. -/
theorem declared?_grow (d : DirectiveSet) (e : DirectiveEntry) (name : String) :
    (d.grow e).declared? name =
      if e.verdict (d.declared? e.name) = .ok () ∧ name = e.name then e.declared?
      else d.declared? name := by
  rcases hverdict : e.verdict (d.declared? e.name) with violation | _
  · rw [grow_of_refused hverdict, if_neg fun h => nomatch h.1]
  · rw [grow_of_accepted hverdict, declared?, get?, Entries.get?_insert]
    by_cases hname : name = e.name
    · rw [if_pos hname, if_pos ⟨rfl, hname⟩]
      rfl
    · rw [if_neg hname, if_neg fun h => hname h.2]
      rfl

/-- Adds a directive, and tells whether it is refused. What is refused leaves the set as it is. -/
def attempt (d : DirectiveSet) (e : DirectiveEntry) :
    Run W (Except Violation Unit × DirectiveSet) := do
  match ← (d.add e).run with
  | .ok grown => return (.ok (), grown)
  | .error violation => return (.error violation, d)

/-- **What comes of an addition.** The journal of the run has an event more if an accepted directive
replaces a builtin one. -/
theorem attempt_apply (d : DirectiveSet) (e : DirectiveEntry) (s : Store W) :
    d.attempt e s = ((e.verdict (d.declared? e.name), d.grow e),
      if e.verdict (d.declared? e.name) = .ok () ∧ d.contains e.name = true then
        s.record (.builtinReplaced e.name)
      else s) := by
  rw [attempt, Run.bind_apply, add, Attempt.run_bind_apply, Attempt.run_ofExcept_apply, grow,
    insert_eq]
  cases e.verdict (d.declared? e.name) with
  | error violation =>
    rw [if_neg (by rintro ⟨⟨⟩, -⟩)]
    rfl
  | ok _ => cases d.contains e.name <;> rfl

/-! ### Completion -/

theorem get?_completeWith (d : DirectiveSet) (b : BuiltinDirective) (name : String) :
    (d.completeWith b).get? name =
      (d.get? name).or (if name = b.name then some (.builtin b) else none) := by
  unfold completeWith
  by_cases htaken : d.contains b.name = true
  · rw [if_pos htaken]
    by_cases hname : name = b.name
    · obtain ⟨e, he⟩ := Option.isSome_iff_exists.mp htaken
      change d.get? b.name = some e at he
      rw [hname, he, Option.some_or]
    · rw [if_neg hname, Option.or_none]
  · rw [if_neg htaken, get?, Entries.get?_insert]
    by_cases hname : name = b.name
    · have hfree : d.get? b.name = none := Option.not_isSome_iff_eq_none.mp htaken
      rw [if_pos hname, if_pos hname, hname, hfree, Option.none_or]
    · rw [if_neg hname, if_neg hname, Option.or_none]
      rfl

/-- **A completed set** has what the set had, and the builtin directives under the names that were
free. -/
theorem get?_complete (d : DirectiveSet) (name : String) :
    d.complete.get? name =
      (d.get? name).or ((BuiltinDirective.ofName? name).map .builtin) := by
  simp only [complete, BuiltinDirective.all, List.foldl_cons, List.foldl_nil, get?_completeWith,
    Option.or_assoc]
  congr 1
  by_cases hinclusion : name = BuiltinDirective.inclusion.name
  · rw [if_pos hinclusion, hinclusion]
    rfl
  by_cases hskipping : name = BuiltinDirective.skipping.name
  · rw [if_neg hinclusion, if_pos hskipping, hskipping]
    rfl
  by_cases hdeprecation : name = BuiltinDirective.deprecation.name
  · rw [if_neg hinclusion, if_neg hskipping, if_pos hdeprecation, hdeprecation]
    rfl
  · rw [if_neg hinclusion, if_neg hskipping, if_neg hdeprecation, BuiltinDirective.ofName?,
      List.find?_eq_none.mpr]
    · rfl
    · simp [BuiltinDirective.all, Ne.symm hinclusion, Ne.symm hskipping, Ne.symm hdeprecation]

/-- Completing a set declares nothing. -/
theorem declared?_complete (d : DirectiveSet) (name : String) :
    d.complete.declared? name = d.declared? name := by
  rw [declared?, declared?, get?_complete]
  cases d.get? name with
  | some e => rfl
  | none => cases BuiltinDirective.ofName? name <;> rfl

/-- What each builtin directive leaves in place under a free name is in place in the completed
set. -/
theorem complete_induction {P : DirectiveSet → Prop}
    (h : ∀ (d : DirectiveSet) (b : BuiltinDirective), d.contains b.name = false → P d →
      P ⟨d.entries.insert b.name (.builtin b)⟩) {d : DirectiveSet} (hd : P d) : P d.complete := by
  refine List.foldlRecOn BuiltinDirective.all completeWith hd fun d hd b _ => ?_
  unfold completeWith
  cases hfree : d.contains b.name with
  | true => exact hd
  | false => exact h d b hfree hd

/-! ### Sets as steps leave them -/

/-- A set as additions and completions leave it. -/
structure Orderly (d : DirectiveSet) : Prop where
  /-- Directives stand under their own names. -/
  keyed : ∀ p ∈ d.entries, p.2.name = p.1
  declarable : ∀ name ∈ d.names, Name.IsDeclarable name
  nodup : d.names.Nodup

theorem orderly_empty : Orderly .empty where
  keyed := fun _ h => nomatch h
  declarable := fun _ h => nomatch h
  nodup := .nil

theorem Orderly.insert {d : DirectiveSet} (h : d.Orderly) {e : DirectiveEntry}
    (hname : Name.IsDeclarable e.name) : Orderly ⟨d.entries.insert e.name e⟩ where
  keyed := by
    intro p hp
    rcases Entries.mem_insert hp with rfl | hold
    · rfl
    · exact h.keyed p hold
  declarable := by
    intro name hmem
    rw [names, ← Entries.contains_iff_mem_keys, Entries.contains_insert, Bool.or_eq_true,
      decide_eq_true_eq, Entries.contains_iff_mem_keys] at hmem
    rcases hmem with rfl | hold
    · exact hname
    · exact h.declarable name hold
  nodup := Entries.nodup_keys_insert h.nodup e.name e

theorem Orderly.grow {d : DirectiveSet} (h : d.Orderly) (e : DirectiveEntry) :
    (d.grow e).Orderly := by
  rcases d.grow_cases e with hsame | ⟨hverdict, hgrown⟩
  · rwa [hsame]
  · rw [hgrown]
    exact h.insert (DirectiveEntry.verdict_eq_ok_iff.mp hverdict).1

theorem Orderly.complete {d : DirectiveSet} (h : d.Orderly) : d.complete.Orderly := by
  refine complete_induction (fun d b _ hd => ?_) h
  have hdeclarable : Name.IsDeclarable (DirectiveEntry.builtin b).name := b.isDeclarable_name
  have hinserted := hd.insert hdeclarable
  rwa [DirectiveEntry.name_builtin] at hinserted

/-- A builtin directive stands under its own name. -/
theorem Orderly.eq_builtin {d : DirectiveSet} (h : d.Orderly) {name : String}
    {b : BuiltinDirective} (hheld : d.get? name = some (.builtin b)) :
    BuiltinDirective.ofName? name = some b := by
  have hname : b.name = name :=
    (DirectiveEntry.name_builtin b).symm.trans (h.keyed _ (Entries.mem_of_get? hheld))
  rw [← hname, BuiltinDirective.ofName?_name]

/-- A completed set is settled by what names were declared to be. -/
theorem Orderly.get?_complete {d : DirectiveSet} (h : d.Orderly) (name : String) :
    d.complete.get? name = ((d.declared? name).map .declared).or
      ((BuiltinDirective.ofName? name).map .builtin) := by
  rw [DirectiveSet.get?_complete, declared?]
  rcases hheld : d.get? name with _ | (builtin | declared)
  · rfl
  · rw [h.eq_builtin hheld]
    rfl
  · rfl

theorem names_prefix_grow (d : DirectiveSet) (e : DirectiveEntry) :
    d.names <+: (d.grow e).names := by
  rcases d.grow_cases e with hsame | ⟨-, hgrown⟩
  · simp only [hsame, List.prefix_rfl]
  · rw [hgrown, names, names, Entries.keys_insert]
    split_ifs
    · exact List.prefix_rfl
    · exact List.prefix_append _ _

theorem names_prefix_complete (d : DirectiveSet) : d.names <+: d.complete.names := by
  refine complete_induction (P := fun d' => d.names <+: d'.names) (fun d' b hfree h => ?_)
    List.prefix_rfl
  rw [names, names, Entries.keys_insert]
  change d'.entries.contains b.name = false at hfree
  rw [hfree]
  exact h.trans (List.prefix_append _ _)

/-- How a set takes one more directive. -/
structure Receives (d : DirectiveSet) (e : DirectiveEntry) (s : Store W) : Prop where
  /-- It is refused for its name, or because the name is held, by anything but the builtin directive
  of this name. -/
  refused_iff : (∃ violation, (d.attempt e s).1.1 = .error violation) ↔
    ¬ Name.IsDeclarable e.name ∨ ∃ held, d.get? e.name = some held ∧
      some held ≠ (BuiltinDirective.ofName? e.name).map .builtin
  /-- A set that refuses a directive is as it was, and nothing has happened. -/
  refused : ∀ violation, (d.attempt e s).1.1 = .error violation →
    d.attempt e s = ((.error violation, d), s)
  /-- An accepted directive takes the place of the builtin one, or comes last. -/
  accepted : (d.attempt e s).1.1 = .ok () →
    (d.attempt e s).1.2.get? e.name = some e ∧
      (∀ name ≠ e.name, (d.attempt e s).1.2.get? name = d.get? name) ∧
      (d.attempt e s).1.2.names = if d.contains e.name then d.names else d.names ++ [e.name]

/-- A name is declared to be something if it is held by anything but its builtin directive. -/
theorem Orderly.declared?_ne_none_iff {d : DirectiveSet} (h : d.Orderly) (name : String) :
    d.declared? name ≠ none ↔ ∃ held, d.get? name = some held ∧
      some held ≠ (BuiltinDirective.ofName? name).map .builtin := by
  rw [declared?]
  constructor
  · intro hdeclared
    rcases hheld : d.get? name with _ | (builtin | declared)
    · exact absurd (by rw [hheld]; rfl) hdeclared
    · exact absurd (by rw [hheld]; rfl) hdeclared
    · refine ⟨_, rfl, fun hsame => ?_⟩
      cases hbuiltin : BuiltinDirective.ofName? name <;> rw [hbuiltin] at hsame <;> cases hsame
  · rintro ⟨held, hheld, hother⟩ hnone
    rw [hheld] at hnone
    obtain ⟨b, rfl⟩ := DirectiveEntry.eq_builtin_of_declared? hnone
    rw [h.eq_builtin hheld] at hother
    exact hother rfl

theorem Orderly.receives {d : DirectiveSet} (h : d.Orderly) (e : DirectiveEntry) (s : Store W) :
    d.Receives e s where
  refused_iff := by
    rw [← h.declared?_ne_none_iff, ← not_and_or, ← DirectiveEntry.verdict_eq_ok_iff, attempt_apply]
    cases e.verdict (d.declared? e.name) <;> simp
  refused := by
    intro violation hrefused
    rw [attempt_apply] at hrefused ⊢
    dsimp only at hrefused
    rw [grow_of_refused hrefused, hrefused, if_neg fun h => nomatch h.1]
  accepted := by
    intro haccepted
    rw [attempt_apply] at haccepted ⊢
    dsimp only at haccepted ⊢
    rw [grow_of_accepted haccepted]
    refine ⟨?_, fun name hname => ?_, Entries.keys_insert d.entries e.name e⟩
    · rw [get?, Entries.get?_insert, if_pos rfl]
    · rw [get?, Entries.get?_insert, if_neg hname]
      rfl

/-! ### Courses -/

/-- What may be done with a set of directives. -/
inductive Step where
  | add (entry : DirectiveEntry)
  | complete

/-- The directive that a step adds. -/
def Step.entry? : Step → Option DirectiveEntry
  | add e => some e
  | complete => none

/-- Takes one step after the other. There is an outcome for each addition. -/
def course : List Step → DirectiveSet → Run W (List (Except Violation Unit) × DirectiveSet)
  | [], d => return ([], d)
  | .complete :: rest, d => course rest d.complete
  | .add e :: rest, d => do
    let (outcome, after) ← d.attempt e
    let (outcomes, final) ← course rest after
    return (outcome :: outcomes, final)

theorem course_add_apply (e : DirectiveEntry) (rest : List Step) (d : DirectiveSet)
    (s : Store W) : course (.add e :: rest) d s =
      ((e.verdict (d.declared? e.name) :: (course rest (d.grow e) (d.attempt e s).2).1.1,
        (course rest (d.grow e) (d.attempt e s).2).1.2),
        (course rest (d.grow e) (d.attempt e s).2).2) := by
  rw [course, Run.bind_apply, attempt_apply]
  rfl

theorem course_append (steps later : List Step) : ∀ (d : DirectiveSet) (s : Store W),
    (course (steps ++ later) d s).1.2 =
      (course later (course steps d s).1.2 (course steps d s).2).1.2 := by
  induction steps with
  | nil => exact fun _ _ => rfl
  | cons step rest ih =>
    intro d s
    cases step with
    | complete => exact ih d.complete s
    | add e =>
      rw [List.cons_append, course_add_apply, course_add_apply]
      exact ih (d.grow e) (d.attempt e s).2

/-- What every step leaves in place is in place after a course. -/
theorem course_induction {P : DirectiveSet → Prop} (hadd : ∀ d e, P d → P (d.grow e))
    (hcomplete : ∀ d, P d → P d.complete) (steps : List Step) :
    ∀ (d : DirectiveSet) (s : Store W), P d → P (course steps d s).1.2 := by
  induction steps with
  | nil => exact fun _ _ hd => hd
  | cons step rest ih =>
    intro d s hd
    cases step with
    | complete => exact ih d.complete s (hcomplete d hd)
    | add e =>
      rw [course_add_apply]
      exact ih (d.grow e) (d.attempt e s).2 (hadd d e hd)

theorem Orderly.course {d : DirectiveSet} (h : d.Orderly) (steps : List Step) (s : Store W) :
    (DirectiveSet.course steps d s).1.2.Orderly :=
  course_induction (fun _ e hd => hd.grow e) (fun _ hd => hd.complete) steps d s h

theorem names_prefix_course (steps : List Step) (d : DirectiveSet) (s : Store W) :
    d.names <+: (course steps d s).1.2.names :=
  course_induction (P := fun d' => d.names <+: d'.names)
    (fun d' e h => h.trans (d'.names_prefix_grow e))
    (fun d' h => h.trans d'.names_prefix_complete) steps d s List.prefix_rfl

/-- A name that was declared to be a directive remains that directive. -/
theorem declared?_course {name : String} {directive : Directive} (steps : List Step)
    (d : DirectiveSet) (s : Store W) (h : d.declared? name = some directive) :
    (course steps d s).1.2.declared? name = some directive := by
  refine course_induction (P := fun d' => d'.declared? name = some directive)
    (fun d' e hd => ?_) (fun d' hd => ?_) steps d s h
  · rw [declared?_grow, if_neg, hd]
    rintro ⟨haccepted, rfl⟩
    rw [(DirectiveEntry.verdict_eq_ok_iff.mp haccepted).2] at hd
    cases hd
  · rw [declared?_complete, hd]

/-- **Completing a set in between** changes the outcome of no addition, nor what any name is declared
to be. The induction is on the course with completions; the sets differ from the first of them on,
but they always declare the same. -/
theorem course_completed (steps : List Step) : ∀ {d d' : DirectiveSet} (s s' : Store W),
    d.declared? = d'.declared? →
      let completed := course steps d s
      let plain := course ((steps.filterMap Step.entry?).map .add) d' s'
      completed.1.1 = plain.1.1 ∧ completed.1.2.declared? = plain.1.2.declared? := by
  induction steps with
  | nil => exact fun _ _ hsame => ⟨rfl, hsame⟩
  | cons step rest ih =>
    intro d d' s s' hsame
    cases step with
    | complete =>
      exact ih (d := d.complete) s s' (funext fun name => by rw [declared?_complete, hsame])
    | add e =>
      have hgrown : (d.grow e).declared? = (d'.grow e).declared? := by
        funext name
        rw [declared?_grow, declared?_grow, hsame]
      obtain ⟨houtcomes, hdeclared⟩ := ih (d.attempt e s).2 (d'.attempt e s').2 hgrown
      have hsteps : ((Step.add e :: rest).filterMap Step.entry?).map Step.add =
          .add e :: (rest.filterMap Step.entry?).map .add := rfl
      dsimp only
      rw [hsteps, course_add_apply, course_add_apply, hsame]
      exact ⟨congrArg (_ :: ·) houtcomes, hdeclared⟩

/-- **Courses of a set of directives.** After any additions and completions of the empty set, the
directives stand under their own names, which may be declared and are not repeated. The set refuses
a directive exactly if the name may not be declared or is held by anything but its builtin directive;
refusing changes nothing, and accepting changes what is under this name, whose place remains if it
was held. Whatever comes later, no name loses its place, and a name that holds a declared directive
holds it for good. And in any course of the same additions, with other completions in between, the
additions have the same outcomes, and completing the set in the end leads to the same directives. -/
theorem course_orderly (steps : List Step) (s : Store W) :
    let final := (course steps .empty s).1.2
    final.Orderly ∧
      (∀ (e : DirectiveEntry) (s₁ : Store W), final.Receives e s₁) ∧
      (∀ (later : List Step) (s₁ : Store W),
        final.names <+: (course later final s₁).1.2.names ∧
          ∀ name directive, final.get? name = some (.declared directive) →
            (course later final s₁).1.2.get? name = some (.declared directive)) ∧
      ∀ (steps' : List Step) (s' : Store W),
        steps'.filterMap Step.entry? = steps.filterMap Step.entry? →
        (course steps' .empty s').1.1 = (course steps .empty s).1.1 ∧
          ∀ name, (course (steps' ++ [.complete]) .empty s').1.2.get? name =
            (course (steps ++ [.complete]) .empty s).1.2.get? name := by
  have hfinal := orderly_empty.course steps s
  refine ⟨hfinal, hfinal.receives, fun later s₁ => ?_, fun steps' s' hsame => ?_⟩
  · refine ⟨names_prefix_course later _ s₁, fun name directive hheld => ?_⟩
    rw [← declared?_eq_some_iff] at hheld ⊢
    exact declared?_course later _ s₁ hheld
  · obtain ⟨houtcomes, hdeclared⟩ := course_completed steps (d := .empty) s s rfl
    obtain ⟨houtcomes', hdeclared'⟩ := course_completed steps' (d := .empty) s' s rfl
    rw [hsame, ← houtcomes] at houtcomes'
    rw [hsame, ← hdeclared] at hdeclared'
    refine ⟨houtcomes', fun name => ?_⟩
    rw [course_append, course_append]
    change DirectiveSet.get? (DirectiveSet.complete _) name =
      DirectiveSet.get? (DirectiveSet.complete _) name
    rw [(orderly_empty.course steps' s').get?_complete, hfinal.get?_complete, hdeclared']

end DirectiveSet

end Schemata
