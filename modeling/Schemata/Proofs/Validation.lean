import Schemata.Proofs.Checking
import Schemata.Proofs.FieldCourse
import Schemata.Proofs.Steps

/-!
# Validation finds what is wrong

Validating a type reads its fields, forces all of them and checks each; it finds nothing if there is
nothing to find. What it looked at stays in the type, so whether a type is sound can be read off the
type afterwards. The types keep their names and kinds all along, so that every check of a registry
is made against the same types.

## Main definitions

* `Schemata.Composite.Sound`, `Schemata.TypeDef.Sound`: every field that the type keeps may be
  declared.
* `Schemata.Composite.Exhausted`: the fields have been read and all of them forced.
* `Schemata.TypeDef.Advances`: the type with more of its fields known.
* `Schemata.Store.Agrees`: nothing is remembered but what references stand for.

## Main results

* `Schemata.Composite.sound_iff_wellFormed`: what a type keeps is sound if it is well formed.
* `Schemata.TypeDef.validate_eq_nil_iff`, `Schemata.Registry.validate_eq_nil_iff`: where validation
  finds nothing.
-/

namespace Schemata

variable {W : Type} {host : Host W} {oracle : Oracle} {types : TypeLookup}

/-! ### Objects and interfaces -/

namespace FieldMap

theorem forced_iff {P : Field → Prop} (outcomes : List (Except Violation Field)) :
    (forcedViolations outcomes = [] ∧ ∀ f ∈ forcedFields outcomes, P f) ↔
      ∀ outcome ∈ outcomes, ∃ f, outcome = .ok f ∧ P f := by
  induction outcomes with
  | nil => simp [forcedViolations, forcedFields]
  | cons outcome rest ih =>
    rw [List.forall_mem_cons, ← ih]
    cases outcome with
    | error violation => simp [forcedViolations]
    | ok f =>
      simp only [forcedViolations, forcedFields, List.filterMap_cons, List.forall_mem_cons,
        Except.ok.injEq, exists_eq_left']
      tauto

theorem outcomes_iff {P : Field → Prop} {m : FieldMap} {outcomes : List (Except Violation Field)}
    (h : m.slots.items.map Slot.outcome? = outcomes.map some) :
    (∀ slot ∈ m.slots.items, ∃ f, slot.outcome? = some (.ok f) ∧ P f) ↔
      ∀ outcome ∈ outcomes, ∃ f, outcome = .ok f ∧ P f := by
  have hslots : (∀ slot ∈ m.slots.items, ∃ f, slot.outcome? = some (.ok f) ∧ P f) ↔
      ∀ kept ∈ m.slots.items.map Slot.outcome?, ∃ f, kept = some (.ok f) ∧ P f := by
    simp
  rw [hslots, h]
  simp

end FieldMap

namespace Composite

/-- The type keeps its fields, and each of them may be declared, with the types that their cells
have from the store on. -/
def Sound (oracle : Oracle) (types : TypeLookup) (s₀ : Store W) (c : Composite) : Prop :=
  ∃ m, c.fields = some (.ok m) ∧ ∀ slot ∈ m.slots.items, ∃ f, slot.outcome? = some (.ok f) ∧
    FieldSpec.WellFormedAs oracle types
      (fun ref => s₀.Types (TypeRef.ResolvesTo oracle types) ⟨f.id, ref⟩) f.toFieldSpecOf

/-- The fields have been read, and all of them forced. -/
def Exhausted (c : Composite) : Prop :=
  (∃ violation, c.fields = some (.error violation)) ∨
    ∃ (m : FieldMap) (outcomes : List (Except Violation Field)),
      c.fields = some (.ok m) ∧ m.slots.items.map Slot.outcome? = outcomes.map some

/-- Validation is one of the accesses to the fields. -/
theorem validate_serves (host : Host W) (types : TypeLookup) (c : Composite) (s : Store W) :
    (FieldAccess.validate types).Serves host c s (.violations (c.validate host types s).1.1)
      (c.validate host types s).1.2 (c.validate host types s).2 :=
  (FieldAccess.validate types).run_spec host c s

/-- What validation comes to: either the fields cannot be read, or those that there are after
forcing are checked. Reading and forcing leave the remembered types as they are. -/
theorem validate_cases (host : Host W) (types : TypeLookup) (c : Composite) (s : Store W) :
    (∃ violation s₁, s₁.resolved = s.resolved ∧ s.Leads host types s₁ ∧
      c.validate host types s = (([violation], { c with fields := some (.error violation) }), s₁)) ∨
    ∃ (m : FieldMap) (outcomes : List (Except Violation Field)) (s₁ : Store W),
      s₁.resolved = s.resolved ∧ s.Leads host types s₁ ∧
      m.slots.items.map Slot.outcome? = outcomes.map some ∧
      c.validate host types s =
        let faults := Attempt.violations (Field.check host types c.name)
          (FieldMap.forcedFields outcomes) s₁
        ((FieldMap.forcedViolations outcomes ++ faults.1, { c with fields := some (.ok m) }),
          faults.2) := by
  obtain ⟨-, hkept, -, hread⟩ := c.fieldMap_spec host s
  have hleads : s.Leads host types (c.fieldMap host s).2 :=
    s.steady_leads.preserves_fieldMap c s .refl
  simp only [validate, withFields, Run.bind_apply]
  rcases hrun : c.fieldMap host s with ⟨⟨violation | m, c'⟩, s'⟩ <;>
    rw [hrun] at hkept hread hleads <;> dsimp only at hkept hread hleads <;> subst hkept
  · exact .inl ⟨violation, s', hread, hleads, rfl⟩
  · obtain ⟨houtcomes, hforced, -⟩ := FieldMap.forceSlots_spec host m.slots s'
    exact .inr ⟨⟨(FieldMap.forceSlots host m.slots s').1.2⟩, _, _, hforced.trans hread,
      s.steady_leads.preserves_forceSlots m.slots s' hleads, houtcomes, rfl⟩

theorem validate_exhausted (host : Host W) (types : TypeLookup) (c : Composite) (s : Store W) :
    (c.validate host types s).1.2.Exhausted := by
  rcases c.validate_cases host types s with
    ⟨violation, s₁, -, -, hrun⟩ | ⟨m, outcomes, s₁, -, -, houtcomes, hrun⟩
  · rw [hrun]
    exact .inl ⟨violation, rfl⟩
  · rw [hrun]
    exact .inr ⟨m, outcomes, rfl, houtcomes⟩

/-- What survives every step survives validation. -/
theorem preserves_validate {I : Store W → Prop} (hI : Steady host types I) (c : Composite) :
    Run.Preserves I (c.validate host types) := by
  intro s hs
  rcases c.validate_cases host types s with
    ⟨violation, s₁, -, hleads, hrun⟩ | ⟨m, outcomes, s₁, -, hleads, -, hrun⟩
  · rw [hrun]
    exact hI.of_leads hleads hs
  · rw [hrun]
    exact hI.stable.preserves_fieldViolations c.name _ s₁ (hI.of_leads hleads hs)

/-- **Validation of an object or interface** finds nothing if what the type keeps afterwards is
sound. -/
theorem validate_eq_nil_iff (hhost : host.Follows oracle) (s₀ : Store W) (c : Composite)
    (s : Store W) (hs : s₀.Extends (TypeRef.ResolvesTo oracle types) s) :
    (c.validate host types s).1.1 = [] ↔ (c.validate host types s).1.2.Sound oracle types s₀ := by
  rcases c.validate_cases host types s with
    ⟨violation, s₁, hresolved, -, hrun⟩ | ⟨m, outcomes, s₁, hresolved, -, houtcomes, hrun⟩
  · rw [hrun]
    simp [Sound]
  · obtain ⟨hfaults, -⟩ := Attempt.violations_eq_nil_iff (Field.decides_check s₀ hhost c.name)
      (FieldMap.forcedFields outcomes) s₁ (hs.of_resolved_eq hresolved)
    rw [hrun, List.append_eq_nil_iff, hfaults, FieldMap.forced_iff,
      ← FieldMap.outcomes_iff houtcomes]
    simp [Sound]

end Composite

/-! ### Sound and well formed -/

/-- Nothing is remembered but the types that references stand for. -/
def Store.Agrees (oracle : Oracle) (types : TypeLookup) (s : Store W) : Prop :=
  ∀ cell type, s.resolved? cell = some type → cell.ref.ResolvesTo oracle types type

theorem Store.Agrees.types_iff {s : Store W} (hs : s.Agrees oracle types) {cell : Cell}
    {type : ResolvedType} : s.Types (TypeRef.ResolvesTo oracle types) cell type ↔
      cell.ref.ResolvesTo oracle types type := by
  unfold Types
  split
  · rename_i found hfound
    have hresolves := hs cell found hfound
    exact ⟨fun h => h ▸ hresolves, fun h => TypeRef.Denotes.unique hresolves h⟩
  · exact Iff.rfl

theorem Store.Agrees.wellFormedAs_iff {s : Store W} (hs : s.Agrees oracle types) {id : Nat}
    {spec : FieldSpec} :
    FieldSpec.WellFormedAs oracle types
        (fun ref => s.Types (TypeRef.ResolvesTo oracle types) ⟨id, ref⟩) spec ↔
      FieldSpec.WellFormed oracle types spec := by
  have htyped : (fun ref => s.Types (TypeRef.ResolvesTo oracle types) ⟨id, ref⟩) =
      TypeRef.ResolvesTo oracle types := by
    funext ref type
    exact propext hs.types_iff
  rw [FieldSpec.WellFormed, htyped]

/-- A slot that keeps an outcome keeps what its draft becomes. -/
theorem Slot.Kept.becomes_iff (hhost : host.Follows oracle) {slot : Slot} (hslot : slot.Kept host)
    {outcome : Except Violation Field} (houtcome : slot.outcome? = some outcome)
    {spec : FieldSpec} : slot.entry.draft.Becomes oracle spec ↔
      ∃ f : Field, outcome = .ok f ∧ f.toFieldSpecOf = spec := by
  match slot with
  | .defined field =>
    obtain rfl := Option.some.inj houtcome
    constructor
    · rintro ⟨⟩
      exact ⟨field, rfl, rfl⟩
    · rintro ⟨f, hf, rfl⟩
      obtain rfl := Except.ok.inj hf
      exact .defined _
  | .deferred field kept =>
    obtain rfl : kept = some outcome := houtcome
    obtain ⟨w, hyields⟩ := hslot
    exact (hyields.becomes_iff hhost).trans Outcome.map_eq_ok_iff

namespace Composite

/-- The drafts of a type are those of the entries it keeps. -/
theorem Kept.drafts_eq (hhost : host.Follows oracle) {c : Composite} (hc : c.Kept host)
    {outcome : Except Violation FieldMap} (houtcome : c.fields = some outcome) :
    (c.fieldSet.drafts c.name oracle.fieldSetOf).map FieldDraft.named =
      outcome.map fun m => FieldEntry.drafts m.entries := by
  obtain ⟨w, hread⟩ := hc.read outcome houtcome
  have hanswers : (fun producer => (host.fieldSetOf producer w).1) = oracle.fieldSetOf :=
    funext fun producer => hhost.fieldSetOf producer w
  rw [hread, hanswers]

/-- **What a type keeps is sound if the type is well formed**, once all its fields are known. -/
theorem sound_iff_wellFormed (hhost : host.Follows oracle) {s₀ : Store W}
    (hs : s₀.Agrees oracle types) {c : Composite} (hc : c.Kept host) (hall : c.Exhausted) :
    c.Sound oracle types s₀ ↔ c.WellFormed oracle types := by
  rcases hall with ⟨violation, hfields⟩ | ⟨m, outcomes, hfields, houtcomes⟩
  · have hdrafts := hc.drafts_eq hhost hfields
    constructor
    · rintro ⟨m, hm, -⟩
      cases hfields.symm.trans hm
    · rintro ⟨drafts, hnormalises, -⟩
      rw [FieldSet.drafts_eq_ok_iff.mpr hnormalises] at hdrafts
      cases hdrafts
  · obtain ⟨drafts, hdrafts, hnamed⟩ := Outcome.map_eq_ok_iff.mp (hc.drafts_eq hhost hfields)
    have hitems : drafts = m.slots.items.map fun slot => slot.entry.draft := by
      have h := congrArg Entries.items hnamed
      simpa [FieldDraft.named, FieldEntry.drafts, FieldMap.entries, Entries.items,
        Function.comp_def] using h
    have hslot : ∀ slot ∈ m.slots.items,
        ((∃ f, slot.outcome? = some (.ok f) ∧
          FieldSpec.WellFormedAs oracle types
            (fun ref => s₀.Types (TypeRef.ResolvesTo oracle types) ⟨f.id, ref⟩)
            f.toFieldSpecOf) ↔
          ∃ spec, slot.entry.draft.Becomes oracle spec ∧
            FieldSpec.WellFormed oracle types spec) := by
      intro slot hslot
      have hmem : slot.outcome? ∈ outcomes.map some := by
        rw [← houtcomes]
        exact List.mem_map_of_mem hslot
      obtain ⟨outcome, -, houtcome⟩ := List.mem_map.mp hmem
      simp only [(hc.forced m hfields slot hslot).becomes_iff hhost houtcome.symm,
        hs.wellFormedAs_iff, ← houtcome, Option.some.injEq]
      constructor
      · rintro ⟨f, hf, hwell⟩
        exact ⟨_, ⟨f, hf, rfl⟩, hwell⟩
      · rintro ⟨_, ⟨f, hf, rfl⟩, hwell⟩
        exact ⟨f, hf, hwell⟩
    constructor
    · rintro ⟨m', hm', hsound⟩
      obtain rfl := Except.ok.inj (Option.some.inj (hfields.symm.trans hm'))
      refine ⟨drafts, FieldSet.drafts_eq_ok_iff.mp hdrafts, ?_⟩
      rw [hitems, List.forall_mem_map]
      exact fun slot hmem => (hslot slot hmem).mp (hsound slot hmem)
    · rintro ⟨drafts', hnormalises, hwell⟩
      obtain rfl := Except.ok.inj
        (hdrafts.symm.trans (FieldSet.drafts_eq_ok_iff.mpr hnormalises))
      rw [hitems, List.forall_mem_map] at hwell
      exact ⟨m, hfields, fun slot hmem => (hslot slot hmem).mpr (hwell slot hmem)⟩

end Composite

/-! ### All types of a registry -/

namespace TypeDef

/-- The second type is the first one, with more of its fields known if it is an object or an
interface. -/
inductive Advances : TypeDef → TypeDef → Prop
  | same (t : TypeDef) : Advances t t
  | interface {c c' : Composite} (h : c.Advances c') : Advances (.interface c) (.interface c')
  | object {c c' : Composite} (h : c.Advances c') : Advances (.object c) (.object c')

theorem Advances.head_eq {t t' : TypeDef} (h : t.Advances t') : t'.head = t.head := by
  cases h with
  | same => rfl
  | interface h => rw [h.same, head, head, kind, kind, name, name]
  | object h => rw [h.same, head, head, kind, kind, name, name]

/-- What the type keeps of its fields was given by reading and forcing. -/
def Kept (host : Host W) (t : TypeDef) : Prop :=
  ∀ c, t.asComposite? = some c → c.Kept host

/-- What is known of the type may be part of a schema with the given types, with the types that
cells have from the store on. -/
def Sound (oracle : Oracle) (types : TypeLookup) (s₀ : Store W) : TypeDef → Prop
  | .interface c | .object c => c.Sound oracle types s₀
  | .union u => u.WellFormed types
  | .inputObject t => t.WellFormed oracle types
  | .builtin _ | .enum _ | .scalar _ => True

/-- All fields of the type are known, if it has any. -/
def Exhausted (t : TypeDef) : Prop :=
  ∀ c, t.asComposite? = some c → c.Exhausted

end TypeDef

theorem UnionType.validate_eq_nil_iff (types : TypeLookup) (u : UnionType) :
    u.validate types = [] ↔ u.WellFormed types := by
  rw [validate, List.filterMap_eq_nil_iff]
  refine forall₂_congr fun member _ => ?_
  unfold memberViolation?
  cases types member with
  | none => simp
  | some head => by_cases hkind : head.kind = .object <;> simp [hkind]

/-- Validating a type makes more of its fields known, and all of them in the end. -/
theorem TypeDef.validate_advances (host : Host W) (types : TypeLookup) (t : TypeDef) (s : Store W) :
    t.Advances (t.validate host types s).1.2 ∧ (t.validate host types s).1.2.Exhausted ∧
      (t.Kept host → (t.validate host types s).1.2.Kept host) := by
  cases t with
  | object c =>
    have hserves := c.validate_serves host types s
    refine ⟨.object hserves.advances, ?_, fun hc => ?_⟩
    · rintro _ ⟨⟩
      exact c.validate_exhausted host types s
    · rintro _ ⟨⟩
      exact hserves.kept (hc c rfl)
  | interface c =>
    have hserves := c.validate_serves host types s
    refine ⟨.interface hserves.advances, ?_, fun hc => ?_⟩
    · rintro _ ⟨⟩
      exact c.validate_exhausted host types s
    · rintro _ ⟨⟩
      exact hserves.kept (hc c rfl)
  | _ => exact ⟨.same _, fun _ h => (by cases h), fun hc => hc⟩

/-- What survives every step survives validation. -/
theorem TypeDef.preserves_validate {I : Store W → Prop} (hI : Steady host types I)
    (t : TypeDef) : Run.Preserves I (t.validate host types) := by
  cases t with
  | object c => exact c.preserves_validate hI
  | interface c => exact c.preserves_validate hI
  | inputObject t =>
    exact Attempt.preserves_violations (hI.stable.preserves_checkArgument _) t.fields.items
  | _ => exact fun _ hs => hs

/-- **Validation of a type** finds nothing if the type is sound afterwards. -/
theorem TypeDef.validate_eq_nil_iff (hhost : host.Follows oracle) (s₀ : Store W) (t : TypeDef)
    (s : Store W) (hs : s₀.Extends (TypeRef.ResolvesTo oracle types) s) :
    (t.validate host types s).1.1 = [] ↔ (t.validate host types s).1.2.Sound oracle types s₀ := by
  cases t with
  | object c => exact c.validate_eq_nil_iff hhost s₀ s hs
  | interface c => exact c.validate_eq_nil_iff hhost s₀ s hs
  | inputObject t =>
    exact (Attempt.violations_eq_nil_iff
      (Argument.decides_check hhost (Store.Extends.preserves_typeOf s₀) (.inputObject t.name))
      t.fields.items s hs).1
  | union u => exact u.validate_eq_nil_iff types
  | _ => exact iff_of_true rfl trivial

namespace Registry

/-- The second registry has the types of the first, with more of their fields known. -/
def Advances (r r' : Registry) : Prop :=
  List.Forall₂ (fun p q => p.1 = q.1 ∧ p.2.Advances q.2) r.types r'.types

/-- References see no difference between a registry and what it becomes. -/
theorem Advances.lookup_eq {r r' : Registry} (h : r.Advances r') : r'.lookup = r.lookup := by
  funext name
  have hrel : Option.Rel TypeDef.Advances (r.get? name) (r'.get? name) := Entries.rel_get? h name
  rw [lookup, lookup]
  generalize r.get? name = found at hrel ⊢
  generalize r'.get? name = found' at hrel ⊢
  cases hrel with
  | none => rfl
  | some ht => exact congrArg some ht.head_eq

theorem validateTypes_cons_apply (host : Host W) (types : TypeLookup) (name : String) (t : TypeDef)
    (rest : Entries TypeDef) (s : Store W) :
    validateTypes host types ((name, t) :: rest) s =
      let first := t.validate host types s
      let others := validateTypes host types rest first.2
      ((first.1.1 ++ others.1.1, (name, first.1.2) :: others.1.2), others.2) := rfl

theorem validateTypes_advances (host : Host W) (types : TypeLookup) (ts : Entries TypeDef) :
    ∀ s, List.Forall₂ (fun p q => p.1 = q.1 ∧ p.2.Advances q.2) ts
          (validateTypes host types ts s).1.2 ∧
      (∀ t ∈ (validateTypes host types ts s).1.2.items, t.Exhausted) ∧
      ((∀ t ∈ ts.items, t.Kept host) →
        ∀ t ∈ (validateTypes host types ts s).1.2.items, t.Kept host) := by
  induction ts with
  | nil => exact fun s => ⟨.nil, fun t ht => (by cases ht), fun h => h⟩
  | cons pair rest ih =>
    obtain ⟨name, t⟩ := pair
    intro s
    obtain ⟨hadvances, hall, hkept⟩ := t.validate_advances host types s
    obtain ⟨hadvances', hall', hkept'⟩ := ih (t.validate host types s).2
    rw [validateTypes_cons_apply]
    simp only [Entries.items, List.map_cons, List.forall_mem_cons] at hall' hkept' ⊢
    exact ⟨.cons ⟨rfl, hadvances⟩ hadvances', ⟨hall, hall'⟩, fun h => ⟨hkept h.1, hkept' h.2⟩⟩

theorem preserves_validateTypes {I : Store W → Prop} (hI : Steady host types I)
    (ts : Entries TypeDef) : Run.Preserves I (validateTypes host types ts) := by
  induction ts with
  | nil => exact fun _ hs => hs
  | cons pair rest ih =>
    obtain ⟨name, t⟩ := pair
    intro s hs
    rw [validateTypes_cons_apply]
    exact ih _ (t.preserves_validate hI s hs)

theorem validateTypes_eq_nil_iff (hhost : host.Follows oracle) (s₀ : Store W)
    (ts : Entries TypeDef) : ∀ s, s₀.Extends (TypeRef.ResolvesTo oracle types) s →
      ((validateTypes host types ts s).1.1 = [] ↔
        ∀ t ∈ (validateTypes host types ts s).1.2.items, t.Sound oracle types s₀) := by
  induction ts with
  | nil => exact fun s hs => iff_of_true rfl fun t ht => (by cases ht)
  | cons pair rest ih =>
    obtain ⟨name, t⟩ := pair
    intro s hs
    have habout : AboutCells host types (s₀.Extends (TypeRef.ResolvesTo oracle types)) :=
      Store.Extends.aboutCells (fun _ _ h => h.resolvesTo hhost) s₀
    have hextends := t.preserves_validate habout.steady s hs
    have hsound := t.validate_eq_nil_iff hhost s₀ s hs
    have hrest := ih _ hextends
    rw [validateTypes_cons_apply]
    simp only [Entries.items, List.map_cons, List.forall_mem_cons, List.append_eq_nil_iff]
      at hrest ⊢
    exact and_congr hsound hrest

/-- Validating a registry makes more of the fields of its types known, and all of them in the
end. -/
theorem validate_advances (host : Host W) (r : Registry) (s : Store W) :
    r.Advances (r.validate host s).1.2 ∧
      (∀ t ∈ (r.validate host s).1.2.types.items, t.Exhausted) ∧
      ((∀ t ∈ r.types.items, t.Kept host) →
        ∀ t ∈ (r.validate host s).1.2.types.items, t.Kept host) :=
  validateTypes_advances host r.lookup r.types s

/-- What survives every step survives validation. -/
theorem preserves_validate {I : Store W → Prop} (r : Registry)
    (hI : Steady host r.lookup I) : Run.Preserves I (r.validate host) :=
  preserves_validateTypes hI r.types

/-- **Validation of a registry** finds nothing if all its types are sound afterwards. -/
theorem validate_eq_nil_iff (hhost : host.Follows oracle) (s₀ : Store W) (r : Registry)
    (s : Store W) (hs : s₀.Extends (TypeRef.ResolvesTo oracle r.lookup) s) :
    (r.validate host s).1.1 = [] ↔
      ∀ t ∈ (r.validate host s).1.2.types.items, t.Sound oracle r.lookup s₀ :=
  validateTypes_eq_nil_iff hhost s₀ r.types s hs

end Registry

end Schemata
