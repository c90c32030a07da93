import Schemata.Proofs.Accounting

/-!
# Courses of a registry

A registry grows, and in between it is read: the fields of its types are reached, types of fields
are resolved, and the registry is validated. Reading fills the memory of types, of slots and of the
store, which are never emptied. All that is kept is what would be found anew, so in the end
validation finds what it would find in a copy that nobody has read.

## Main definitions

* `Schemata.Registry.Reading`, `Schemata.Registry.Step`: what may be done with a registry, with
  `Schemata.Registry.course` for one step after the other.
* `Schemata.Registry.untouched`: the registry as it would be if it had never been read.
* `Schemata.Registry.Continues`: a registry as it may be later, beside the types as they were.

## Main results

* `Schemata.Registry.Continues.read`: readings only continue a registry.
* `Schemata.Registry.course_transparent`: the violations after a course.
-/

namespace Schemata

variable {W : Type} {host : Host W} {oracle : Oracle} {types : TypeLookup}
  {missing : String → Prop} {s s' : Store W}

/-- The access, in which a type is validated against the given types if it is validated. -/
def FieldAccess.against (types : TypeLookup) : FieldAccess → FieldAccess
  | validate _ => validate types
  | a => a

namespace Registry

/-- A way of reading a registry. -/
inductive Reading where
  /-- An access to the fields of the type of a name. -/
  | access (typeName : String) (access : FieldAccess)
  /-- The type of a field. -/
  | resolve (field : Field)
  /-- The violations of all types. -/
  | validate

/-- The registry after a reading. All checks and resolutions are made against the registry. -/
def read (host : Host W) : Reading → Registry → Run W Registry
  | .access typeName a, r => Prod.snd <$> r.access typeName ((a.against r.lookup).run host)
  | .resolve f, r => (fun _ => r) <$> (f.resolveType host r.lookup).run
  | .validate, r => Prod.snd <$> r.validate host

/-- A step in the life of a registry. -/
inductive Step where
  | add (type : TypeDef)
  | read (reading : Reading)

/-- The registry after a step. A type that is refused leaves it as it is. -/
def step (host : Host W) : Step → Registry → Run W Registry
  | .add t, r => do
    match ← (r.add t).run with
    | .ok grown => return grown
    | .error _ => return r
  | .read reading, r => r.read host reading

/-- The registry after steps that are taken one after the other. -/
def course (host : Host W) : List Step → Registry → Run W Registry
  | [], r => return r
  | step :: rest, r => do course host rest (← r.step host step)

theorem course_cons_apply (host : Host W) (step : Step) (rest : List Step) (r : Registry)
    (s : Store W) :
    course host (step :: rest) r s =
      course host rest (r.step host step s).1 (r.step host step s).2 := rfl

end Registry

/-! ### Without what was read -/

/-- The object or interface as it would be if its fields had never been asked for. -/
def Composite.untouched (c : Composite) : Composite :=
  { c with fields := none }

/-- The type as it would be if its fields had never been asked for. -/
def TypeDef.untouched : TypeDef → TypeDef
  | .object c => .object c.untouched
  | .interface c => .interface c.untouched
  | t => t

/-- The registry as it would be if it had never been read. -/
def Registry.untouched (r : Registry) : Registry :=
  ⟨r.types.map fun (name, t) => (name, t.untouched)⟩

theorem Registry.items_untouched (r : Registry) :
    r.untouched.types.items = r.types.items.map TypeDef.untouched := by
  simp [untouched, Entries.items]

theorem TypeDef.untouched_advances (t : TypeDef) : t.untouched.Advances t := by
  cases t with
  | object c => exact .object ⟨rfl, .unread c.fields⟩
  | interface c => exact .interface ⟨rfl, .unread c.fields⟩
  | _ => exact .same _

theorem Composite.Advances.untouched_eq {c c' : Composite} (h : c.Advances c') :
    c'.untouched = c.untouched := by
  rw [h.same, untouched, untouched]

theorem TypeDef.Advances.untouched_eq {t t' : TypeDef} (h : t.Advances t') :
    t'.untouched = t.untouched := by
  cases h with
  | same => rfl
  | interface h => rw [untouched, untouched, h.untouched_eq]
  | object h => rw [untouched, untouched, h.untouched_eq]

theorem Registry.untouched_advances (r : Registry) : r.untouched.Advances r := by
  obtain ⟨ts⟩ := r
  simp only [Advances, untouched]
  rw [List.forall₂_map_left_iff]
  exact List.forall₂_same.mpr fun p _ => ⟨rfl, p.2.untouched_advances⟩

/-- What was never read is the same however much was read since. -/
theorem Registry.Advances.untouched_eq {r r' : Registry} (h : r.Advances r') :
    r'.untouched = r.untouched := by
  obtain ⟨ts⟩ := r
  obtain ⟨ts'⟩ := r'
  simp only [Advances, untouched, Registry.mk.injEq] at h ⊢
  induction h with
  | nil => rfl
  | cons hpair hrest ih => rw [List.map_cons, List.map_cons, ih, hpair.1, hpair.2.untouched_eq]

/-! ### Readings -/

theorem TypeDef.Advances.trans {t t' t'' : TypeDef} (h : t.Advances t') (h' : t'.Advances t'') :
    t.Advances t'' := by
  cases h with
  | same => exact h'
  | interface h =>
    cases h' with
    | same => exact .interface h
    | interface h' => exact .interface (h.trans h')
  | object h =>
    cases h' with
    | same => exact .object h
    | object h' => exact .object (h.trans h')

namespace Registry

theorem Advances.trans {r r' r'' : Registry} (h : r.Advances r') (h' : r'.Advances r'') :
    r.Advances r'' :=
  Entries.forall₂_trans (fun _ _ _ => TypeDef.Advances.trans) h h'

theorem Advances.refl (r : Registry) : r.Advances r :=
  List.forall₂_same.mpr fun p _ => ⟨rfl, .same p.2⟩

theorem advances_insert {r : Registry} {name : String} {t t' : TypeDef} (h : r.get? name = some t)
    (ht : t.Advances t') : r.Advances ⟨r.types.insert name t'⟩ := by
  obtain ⟨ts⟩ := r
  simp only [Advances, get?] at h ⊢
  induction ts with
  | nil => cases h
  | cons pair rest ih =>
    obtain ⟨key, old⟩ := pair
    have hrest := Advances.refl ⟨rest⟩
    rw [Entries.get?_cons] at h
    rw [Entries.insert]
    by_cases hname : name = key
    · rw [if_pos hname] at h
      rw [if_pos hname.symm]
      obtain rfl := Option.some.inj h
      exact .cons ⟨rfl, ht⟩ hrest
    · rw [if_neg hname] at h
      rw [if_neg fun e => hname e.symm]
      exact .cons ⟨rfl, .same old⟩ (ih h)

/-- What an access comes to: either there is nothing to reach, or one type becomes another. -/
theorem access_cases {α : Type} (r : Registry) (name : String)
    (f : Composite → Run W (α × Composite)) (s : Store W) :
    (∃ reply, r.access name f s = ((reply, r), s)) ∨
      ∃ t c, r.get? name = some t ∧ t.asComposite? = some c ∧
        r.access name f s =
          ((.done (f c s).1.1, ⟨r.types.insert name (t.withComposite (f c s).1.2)⟩),
            (f c s).2) := by
  unfold access
  cases r.get? name with
  | none => exact .inl ⟨_, rfl⟩
  | some t =>
    cases hc : t.asComposite? with
    | none =>
      simp only [hc]
      exact .inl ⟨_, rfl⟩
    | some c =>
      simp only [hc]
      exact .inr ⟨t, c, rfl, hc, rfl⟩

end Registry

theorem Composite.Advances.name_eq {c c' : Composite} (h : c.Advances c') : c'.name = c.name := by
  rw [h.same]

theorem TypeDef.advances_withComposite {t : TypeDef} {c c' : Composite}
    (hc : t.asComposite? = some c) (h : c.Advances c') : t.Advances (t.withComposite c') := by
  cases t with
  | object c₀ =>
    obtain rfl := Option.some.inj hc
    exact .object h
  | interface c₀ =>
    obtain rfl := Option.some.inj hc
    exact .interface h
  | _ => cases hc

/-- Readings only make more of the fields of types known. -/
theorem Registry.read_advances (host : Host W) (reading : Reading) (r : Registry) (s : Store W) :
    r.Advances (r.read host reading s).1 := by
  cases reading with
  | access typeName a =>
    change r.Advances (r.access typeName _ s).1.2
    rcases r.access_cases typeName ((a.against r.lookup).run host) s with
      ⟨reply, hrun⟩ | ⟨t, c, ht, hc, hrun⟩
    · rw [hrun]
      exact .refl r
    · rw [hrun]
      have hserves := (a.against r.lookup).run_spec host c s
      exact advances_insert ht (t.advances_withComposite hc hserves.advances)
  | resolve f => exact .refl r
  | validate => exact (r.validate_advances host s).1

/-! ### Registries as they may be later -/

/-- The registry has the given types as they may be later than the first store, and the second store
answers as the first one does. -/
structure Registry.Continues (host : Host W) (oracle : Oracle) (s : Store W) (ts : List TypeDef)
    (r : Registry) (s' : Store W) : Prop where
  store : s.Revises oracle (fun _ => False) r.lookup r.lookup s'
  types : List.Forall₂ (TypeDef.Gives host s) ts r.types.items

/-- A type whose fields are accessed gives what it gave before. -/
theorem TypeDef.Gives.withComposite {t₀ t : TypeDef} {c c' : Composite}
    (h : t₀.Gives host s t) (hc : t.asComposite? = some c) (hname : c'.name = c.name)
    (hgives : ∀ given, c.Gives host s.nextId given → c'.Gives host s.nextId given) :
    t₀.Gives host s (t.withComposite c') := by
  cases h with
  | object hname₀ h =>
    obtain rfl := Option.some.inj hc
    exact .object (hname.trans hname₀) (hgives _ h)
  | interface hname₀ h =>
    obtain rfl := Option.some.inj hc
    exact .interface (hname.trans hname₀) (hgives _ h)
  | other h =>
    rw [h] at hc
    cases hc

namespace FieldAccess

theorem preserves_work {I : Store W → Prop} (hI : AboutCells host types I) (typeName : String)
    (a : FieldAccess) (m : FieldMap) :
    Run.Preserves I ((a.against types).work host typeName m) := by
  intro s₁ hs
  obtain ⟨-, hforced, -⟩ := FieldMap.forceSlots_spec host m.slots s₁
  cases a with
  | fields => exact hs
  | look name => exact hs
  | field name => exact hI.of_resolved_eq _ _ (m.field_spec host name s₁).1 hs
  | slot name => exact hI.of_resolved_eq _ _ (m.field_spec host name s₁).1 hs
  | forceAll => exact hI.of_resolved_eq _ _ hforced hs
  | validate _ =>
    exact hI.stable.preserves_fieldViolations typeName _ _ (hI.of_resolved_eq _ _ hforced hs)

/-- What is about remembered types alone survives accesses if it survives their being found. -/
theorem preserves_run {I : Store W → Prop} (hI : AboutCells host types I) (a : FieldAccess)
    (c : Composite) : Run.Preserves I ((a.against types).run host c) := by
  intro s₁ hs
  obtain ⟨-, -, -, hresolved⟩ := c.fieldMap_spec host s₁
  have hread := hI.of_resolved_eq _ _ hresolved hs
  rw [run_apply]
  cases (c.fieldMap host s₁).1.1 with
  | error violation => exact hread
  | ok m => exact preserves_work hI c.name a m _ hread

end FieldAccess

/-- A type that is validated gives what it gave before. -/
theorem TypeDef.Gives.validate {t₀ t : TypeDef} (h : t₀.Gives host s t)
    (hlater : s.nextId ≤ s'.nextId) : t₀.Gives host s (t.validate host types s').1.2 := by
  cases h with
  | @object c₀ c hname h =>
    have hname' := (c.validate_serves host types s').advances.name_eq
    exact .object (hname'.trans hname) ((FieldAccess.validate types).gives_run h hlater).1
  | @interface c₀ c hname h =>
    have hname' := (c.validate_serves host types s').advances.name_eq
    exact .interface (hname'.trans hname) ((FieldAccess.validate types).gives_run h hlater).1
  | other h =>
    cases t₀ with
    | object c => cases h
    | interface c => cases h
    | _ => exact .other rfl

namespace Registry

variable {ts : List TypeDef} {r : Registry}

theorem gives_validateTypes (hhost : host.Follows oracle) (entries : Entries TypeDef) :
    ∀ {ts s'}, List.Forall₂ (TypeDef.Gives host s) ts entries.items →
      s.Revises oracle (fun _ => False) types types s' →
      List.Forall₂ (TypeDef.Gives host s) ts
        (Entries.items (validateTypes host types entries s').1.2) := by
  induction entries with
  | nil => exact fun h _ => h
  | cons pair rest ih =>
    obtain ⟨name, t⟩ := pair
    rintro _ s' (_ | ⟨hfirst, hrest⟩) hstore
    obtain ⟨-, hleft⟩ := TypeDef.report_revised hhost hstore hfirst
    rw [← (t.validate_report host types s').2] at hleft
    rw [validateTypes_cons_apply]
    exact .cons (hfirst.validate hstore.later) (ih hrest hleft)

namespace Continues

theorem refl (hhost : host.Follows oracle) (hs : s.Numbered) (r : Registry) :
    Continues host oracle s r.types.items r s where
  store := .refl oracle _ r.lookup hs
  types := List.forall₂_same.mpr fun t _ => .refl hhost s t

/-- **Accounts made later** are those that the types have on their own. -/
theorem report_eq (hhost : host.Follows oracle) (h : Continues host oracle s ts r s') :
    (r.report host s').1 = ts.map (TypeDef.account host r.lookup s) := by
  obtain ⟨haccounts, -⟩ := TypeDef.mapM_report_revised hhost h.store h.types
  exact (Account.eq_of_revised haccounts).symm

/-- **Readings only continue a registry**, whatever is read. -/
theorem read (hhost : host.Follows oracle) (h : Continues host oracle s ts r s')
    (reading : Reading) :
    Continues host oracle s ts (r.read host reading s').1 (r.read host reading s').2 := by
  have hlookup := (r.read_advances host reading s').lookup_eq
  suffices hboth : s.Revises oracle (fun _ => False) r.lookup r.lookup
        (r.read host reading s').2 ∧
      List.Forall₂ (TypeDef.Gives host s) ts (r.read host reading s').1.types.items by
    refine ⟨?_, hboth.2⟩
    rw [hlookup]
    exact hboth.1
  cases reading with
  | access typeName a =>
    change s.Revises oracle _ _ _ (r.access typeName ((a.against r.lookup).run host) s').2 ∧
      List.Forall₂ _ ts (r.access typeName ((a.against r.lookup).run host) s').1.2.types.items
    rcases r.access_cases typeName ((a.against r.lookup).run host) s' with
      ⟨reply, hrun⟩ | ⟨t, c, ht, hc, hrun⟩
    · rw [hrun]
      exact ⟨h.store, h.types⟩
    · rw [hrun]
      have hadvances := ((a.against r.lookup).run_spec host c s').advances
      have hlater := ((a.against r.lookup).gives_run
        (c.gives_outcomes hhost h.store.later) h.store.later).2
      refine ⟨h.store.of_answer_eq ?_ hlater, ?_⟩
      · exact FieldAccess.preserves_run (aboutCells_answer hhost r.lookup _) a c s' rfl
      · exact Entries.forall₂_insert h.types ht fun t₀ hgives =>
          hgives.withComposite hc hadvances.name_eq fun given hgiven =>
            ((a.against r.lookup).gives_run hgiven h.store.later).1
  | resolve f =>
    exact ⟨(Store.Revises.stable hhost).preserves_resolveType f s' h.store, h.types⟩
  | validate =>
    obtain ⟨-, hleft⟩ := TypeDef.mapM_report_revised hhost h.store h.types
    change s.Revises oracle _ _ _ (r.report host s').2 at hleft
    rw [← (r.validate_report host s').2] at hleft
    exact ⟨hleft, gives_validateTypes hhost r.types h.types h.store⟩

theorem course_reads (hhost : host.Follows oracle) (readings : List Reading) :
    ∀ {r s'}, Continues host oracle s ts r s' →
      Continues host oracle s ts (course host (readings.map .read) r s').1
        (course host (readings.map .read) r s').2 := by
  induction readings with
  | nil => exact fun h => h
  | cons reading rest ih => exact fun h => ih (h.read hhost reading)

end Continues

theorem course_reads_advances (host : Host W) (readings : List Reading) :
    ∀ (r : Registry) (s : Store W), r.Advances (course host (readings.map .read) r s).1 := by
  induction readings with
  | nil => exact fun r _ => .refl r
  | cons reading rest ih =>
    intro r s
    exact Advances.trans (r.read_advances host reading s) (ih _ _)

end Registry

/-! ### Additions -/

namespace Registry

variable {ts : List TypeDef} {r : Registry}

/-- The registry with one more type, or as it is if the type is refused. -/
def grow (r : Registry) (t : TypeDef) : Registry :=
  match r.insert t with
  | .ok grown => grown
  | .error _ => r

theorem step_add_spec (host : Host W) (t : TypeDef) (r : Registry) (s : Store W) :
    (r.step host (.add t) s).1 = r.grow t ∧ s.SameFields (r.step host (.add t) s).2 := by
  obtain ⟨houtcome, hsame⟩ := r.add_spec t s
  rw [step, Run.bind_apply, grow, ← houtcome]
  generalize (r.add t).run s = made at hsame ⊢
  obtain ⟨violation | grown, s₁⟩ := made <;> exact ⟨rfl, hsame⟩

theorem grow_cases (r : Registry) (t : TypeDef) :
    r.grow t = r ∨ r.contains t.name = false ∧ r.grow t = ⟨r.types ++ [(t.name, t)]⟩ := by
  unfold grow
  cases hinsert : r.insert t with
  | error violation => exact .inl rfl
  | ok grown => exact .inr (insert_eq_ok hinsert)

/-- An added type is the only one that becomes known. -/
theorem grows_append {r : Registry} {t : TypeDef} (h : r.contains t.name = false) :
    r.lookup.Grows (· = t.name) (Registry.lookup ⟨r.types ++ [(t.name, t)]⟩) := by
  intro name
  simp only [contains, Entries.contains, Entries.get?, Option.isSome_eq_false_iff,
    Option.isNone_iff_eq_none] at h
  simp only [lookup, get?, Entries.get?, List.lookup_append]
  by_cases hname : name = t.name
  · rw [hname, h]
    exact .inr ⟨rfl, rfl⟩
  · left
    simp [List.lookup_cons, beq_false_of_ne hname]

theorem Continues.of_sameFields {s'' : Store W} (h : Continues host oracle s ts r s')
    (hsame : s'.SameFields s'') : Continues host oracle s ts r s'' where
  store := h.store.of_resolved_eq hsame.1 (Nat.le_trans h.store.later (Nat.le_of_eq hsame.2.symm))
  types := h.types

/-- **An addition continues a registry** with one more type. -/
theorem Continues.append (h : Continues host oracle s ts r s') {t₀ t : TypeDef}
    (hfree : r.contains t.name = false) (ht : t₀.Gives host s t) :
    Continues host oracle s (ts ++ [t₀]) ⟨r.types ++ [(t.name, t)]⟩ s' where
  store := {
    grows := .refl _ _
    numbered := h.store.numbered
    later := h.store.later
    answers := fun cell => by
      rcases h.store.answers cell with hsame | ⟨e, -, hnone⟩
      · exact .inl (Store.answer_grows (grows_append hfree) hsame)
      · cases e <;> exact hnone.elim }
  types := by
    simp only [Entries.items, List.map_append, List.map_cons, List.map_nil]
    exact List.rel_append h.types (.cons ht .nil)

end Registry

/-! ### Courses -/

/-- Accesses leave no trace in what a type gives. -/
theorem Composite.Reached.gives_untouched (hhost : host.Follows oracle) {c : Composite}
    (h : c.Reached host) (w : W) : c.Gives host 0 (c.untouched.outcomes host (.start w)) := by
  induction h with
  | declare name description set =>
    exact Composite.gives_outcomes hhost (Nat.zero_le _) (.declare name description set)
  | access h a s ih =>
    rw [(a.run_spec host _ s).advances.untouched_eq]
    exact (a.gives_run ih (Nat.zero_le _)).1

theorem TypeDef.gives_untouched (hhost : host.Follows oracle) {t : TypeDef}
    (ht : ∀ c, t.asComposite? = some c → c.Reached host) (w : W) :
    t.untouched.Gives host (.start w) t := by
  cases t with
  | object c => exact .object rfl ((ht c rfl).gives_untouched hhost w)
  | interface c => exact .interface rfl ((ht c rfl).gives_untouched hhost w)
  | _ => exact .other rfl

theorem Store.Agrees.answer_eq (hs : s.Agrees oracle types) (cell : Cell) :
    s.answer oracle types cell = cell.ref.answer oracle types := by
  unfold answer
  cases hfound : s.resolved? cell with
  | none => rfl
  | some type =>
    have hresolves := hs cell type hfound
    exact ((TypeRef.outcome_unfolded_iff oracle.follows_host ()).mpr hresolves).symm

namespace Registry

/-- The registry is as it would be if it had never been read. -/
def Transparent (host : Host W) (oracle : Oracle) (w : W) (r : Registry) (s : Store W) : Prop :=
  Continues host oracle (.start w) r.untouched.types.items r s

namespace Transparent

variable {w : W} {r : Registry}

theorem initial (hhost : host.Follows oracle) (hs : s.Agrees oracle Registry.initial.lookup)
    (w : W) : Transparent host oracle w .initial s where
  store := {
    grows := .refl _ _
    numbered := Store.numbered_start w
    later := Nat.zero_le _
    answers := fun cell => .inl (hs.answer_eq cell) }
  types := (Continues.refl hhost (Store.numbered_start w) Registry.initial).types

theorem read (hhost : host.Follows oracle) (h : r.Transparent host oracle w s)
    (reading : Reading) :
    (r.read host reading s).1.Transparent host oracle w (r.read host reading s).2 := by
  have huntouched := (r.read_advances host reading s).untouched_eq
  rw [Transparent, huntouched]
  exact Continues.read hhost h reading

theorem course_reads (hhost : host.Follows oracle) (h : r.Transparent host oracle w s)
    (readings : List Reading) :
    (course host (readings.map .read) r s).1.Transparent host oracle w
      (course host (readings.map .read) r s).2 := by
  rw [Transparent, (course_reads_advances host readings r s).untouched_eq]
  exact Continues.course_reads hhost readings h

theorem step (hhost : host.Follows oracle) (h : r.Transparent host oracle w s) {step : Step}
    (hstep : ∀ t, step = .add t → ∀ c, t.asComposite? = some c → c.Reached host) :
    (r.step host step s).1.Transparent host oracle w (r.step host step s).2 := by
  cases step with
  | read reading => exact h.read hhost reading
  | add t =>
    obtain ⟨hgrown, hsame⟩ := r.step_add_spec host t s
    rw [hgrown]
    rcases r.grow_cases t with hrefused | ⟨hfree, hadded⟩
    · rw [hrefused]
      exact Continues.of_sameFields h hsame
    · rw [hadded, Transparent, items_untouched]
      have hgrown := Continues.append h hfree (TypeDef.gives_untouched hhost (hstep t rfl) w)
      rw [items_untouched, ← List.map_singleton, ← List.map_append] at hgrown
      have hitems : Entries.items (r.types ++ [(t.name, t)]) = r.types.items ++ [t] := by
        simp [Entries.items]
      rw [hitems]
      exact hgrown.of_sameFields hsame

theorem course (hhost : host.Follows oracle) (steps : List Step)
    (hsteps : ∀ t, .add t ∈ steps → ∀ c, t.asComposite? = some c → c.Reached host) :
    ∀ {r s}, Transparent host oracle w r s →
      (Registry.course host steps r s).1.Transparent host oracle w
        (Registry.course host steps r s).2 := by
  induction steps with
  | nil => exact fun h => h
  | cons step rest ih =>
    intro r s h
    rw [course_cons_apply]
    refine ih (fun t ht => hsteps t (List.mem_cons_of_mem _ ht)) (h.step hhost ?_)
    rintro t rfl
    exact hsteps t List.mem_cons_self

/-- What is found is what would be found if nothing had been read. -/
theorem violations_eq (hhost : host.Follows oracle) (h : r.Transparent host oracle w s) :
    (r.validate host s).1.1 = (r.untouched.validate host (.start w)).1.1 := by
  have hfresh := Continues.refl hhost (Store.numbered_start w) r.untouched
  have hlookup : r.lookup = r.untouched.lookup := r.untouched_advances.lookup_eq
  rw [(r.validate_report host s).1, (r.untouched.validate_report host (.start w)).1,
    Continues.report_eq hhost h, hfresh.report_eq hhost, hlookup]

end Transparent

/-- **Reading leaves no trace in what validation finds.** Let a registry grow from the initial one
while it is read in any way in between, from a store that remembers nothing but what references
stand for in the initial registry. Then validation finds in the end what it finds in a copy of the
registry that was never read, and it goes on finding that however often it or another reading is
repeated. -/
theorem course_transparent (hhost : host.Follows oracle) (steps : List Step)
    (hsteps : ∀ t, .add t ∈ steps → ∀ c, t.asComposite? = some c → c.Reached host)
    {s : Store W} (hs : s.Agrees oracle Registry.initial.lookup) (w : W) :
    let final := course host steps .initial s
    (final.1.validate host final.2).1.1 = (final.1.untouched.validate host (.start w)).1.1 ∧
      ∀ readings : List Reading,
        let later := course host (readings.map .read) final.1 final.2
        (later.1.validate host later.2).1.1 = (final.1.validate host final.2).1.1 := by
  have hfinal := Transparent.course hhost steps hsteps (Transparent.initial hhost hs w)
  refine ⟨hfinal.violations_eq hhost, fun readings => ?_⟩
  have hadvances := course_reads_advances host readings (course host steps .initial s).1
    (course host steps .initial s).2
  dsimp only
  rw [(hfinal.course_reads hhost readings).violations_eq hhost, hfinal.violations_eq hhost,
    hadvances.untouched_eq]

/-- An object is added, found faulty for want of a type and read, and then the type is added. -/
def belated : List Step :=
  [.add (.object (.declare "Query" none (.declared [(.name "ghost", .type (.named "Ghost"))]))),
    .read .validate, .read (.access "Query" .forceAll), .add (.scalar ⟨"Ghost", none⟩)]

/-- In the end nothing is wrong, in the registry that was read as in its copy. -/
theorem course_belated :
    (∀ t, .add t ∈ belated → ∀ c, t.asComposite? = some c →
        c.Reached Builder.textOracle.host) ∧
      (Store.start ()).Agrees Builder.textOracle Registry.initial.lookup ∧
      let final := course Builder.textOracle.host belated .initial (.start ())
      (final.1.validate Builder.textOracle.host final.2).1.1 = [] ∧
        (final.1.untouched.validate Builder.textOracle.host (.start ())).1.1 = [] := by
  have hreached : ∀ t, .add t ∈ belated → ∀ c, t.asComposite? = some c →
      c.Reached Builder.textOracle.host := by
    intro t ht c hc
    simp only [belated, List.mem_cons, Step.add.injEq, reduceCtorEq, List.not_mem_nil, or_false,
      false_or] at ht
    rcases ht with rfl | rfl
    · obtain rfl := Option.some.inj hc
      exact .declare "Query" none _
    · cases hc
  have hagrees : (Store.start ()).Agrees Builder.textOracle Registry.initial.lookup :=
    fun _ _ h => by cases h
  obtain ⟨hsame, -⟩ :=
    course_transparent Builder.textOracle.follows_host belated hreached hagrees ()
  refine ⟨hreached, hagrees, hsame.trans ?_, ?_⟩ <;> rfl

end Registry

end Schemata
