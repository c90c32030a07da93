import Schemata.Proofs.References

/-!
# A built schema is frozen

Before there is a schema, the fields of all its types have been read, all slots forced, and every
field has passed a check that found its type. All of this is kept, by the schema or by the store, so
whatever is read later is there already. Reading a schema calls no function of the host and changes
nothing, and it gives what was checked, whatever functions of the host would answer by now and
against whatever types a field is resolved.

## Main definitions

* `Schemata.Field.Passed`: on the way from one store to another, a field has passed its check.
* `Schemata.Schema.Reading`, `Schemata.Schema.course`: readings of a schema, one after the other.
* `Schemata.FieldAccess.replyFrom`: the reply to an access to fields that are all known.
* `Schemata.Schema.Frozen`: a schema in which all fields are known and have passed, and which replies
  the same to the same reading for good.

## Main results

* `Schemata.FieldAccess.run_of_forced`: an access to fields that are all known.
* `Schemata.Field.Passed.run_resolveType`: the type of a field that has passed.
* `Schemata.Builder.frozen_of_build`: a built schema is frozen.
-/

namespace Schemata

variable {W : Type} {host : Host W} {types : TypeLookup} {s s' s'' : Store W}

/-! ### Fields that have passed -/

namespace Field

/-- On the way from the first store to the second, the field was checked as one of the type named
`typeName`. It resolved to the given type, and it passed. -/
def Passed (host : Host W) (types : TypeLookup) (typeName : String) (s s' : Store W) (f : Field)
    (type : ResolvedType) : Prop :=
  ∃ s₁ s₂, s.Leads host types s₁ ∧ ((f.resolveType host types).run s₁).1 = .ok type ∧
    (f.check host types typeName).run s₁ = (.ok (), s₂) ∧ s₂.Leads host types s'

variable {typeName : String} {f : Field} {type : ResolvedType}

theorem passed_of_check (hs : s.Leads host types s')
    (h : (f.check host types typeName).run s' = (.ok (), s'')) :
    ∃ type, f.Passed host types typeName s s'' type := by
  obtain ⟨type, s₁, htype, -, -⟩ := passes_of_check h
  exact ⟨type, s', s'', hs, congrArg Prod.fst htype, h, .refl⟩

theorem Passed.step (h : f.Passed host types typeName s s' type)
    (hstep : s'.Step host types s'') : f.Passed host types typeName s s'' type := by
  obtain ⟨s₁, s₂, hs, htype, hcheck, hleads⟩ := h
  exact ⟨s₁, s₂, hs, htype, hcheck, hleads.tail hstep⟩

/-- **A field that has passed keeps its type.** It resolves to this type against any types, and
nothing is asked for. -/
theorem Passed.run_resolveType (h : f.Passed host types typeName s s' type)
    (hlater : s'.Keeps s'') (types' : TypeLookup) :
    (f.resolveType host types').run s'' = (.ok type, s'') := by
  obtain ⟨s₁, s₂, -, htype, hcheck, hleads⟩ := h
  obtain ⟨ref, href, hfound⟩ := remembered_of_check (Prod.ext htype rfl) hcheck
  have hkept : s₂.Keeps s'' := hleads.keeps.trans hlater
  exact run_resolveType_of_remembered href (hkept _ _ hfound)

end Field

/-! ### Fields that are all known -/

namespace Slot

theorem isForced_iff {slot : Slot} :
    slot.isForced = true ↔ ∃ outcome, slot.outcome? = some outcome := by
  cases slot with
  | defined field => exact iff_of_true rfl ⟨_, rfl⟩
  | deferred field forced => exact Option.isSome_iff_exists

theorem force_of_forced {slot : Slot} {outcome : Except Violation Field}
    (h : slot.outcome? = some outcome) (s : Store W) : slot.force host s = ((outcome, slot), s) := by
  match slot with
  | .defined field =>
    obtain rfl := Option.some.inj h
    rfl
  | .deferred field forced =>
    obtain rfl : forced = some outcome := h
    rfl

end Slot

namespace FieldMap

/-- Every slot has been forced. -/
def Forced (m : FieldMap) : Prop :=
  ∀ slot ∈ m.slots.items, slot.isForced = true

/-- What the map keeps under a name, once every slot has been forced. -/
def lookup (m : FieldMap) (name : String) : Except Violation (Option Field) :=
  (m.kept? name).getD (.ok none)

theorem lookup_of_slot {m : FieldMap} {name : String} {slot : Slot}
    {outcome : Except Violation Field} (hslot : m.slot? name = some slot)
    (houtcome : slot.outcome? = some outcome) : m.lookup name = outcome.map some := by
  simp [lookup, kept?, hslot, houtcome]

theorem field_of_forced {m : FieldMap} (hm : m.Forced) (name : String) (s : Store W) :
    m.field host name s = ((m.lookup name, m), s) := by
  cases hslot : m.slot? name with
  | none =>
    rw [field_of_no_slot hslot, lookup, kept?, hslot]
    rfl
  | some slot =>
    obtain ⟨outcome, houtcome⟩ := Slot.isForced_iff.mp (hm slot (Entries.mem_items_of_get? hslot))
    rw [field_of_slot hslot, Slot.force_of_forced houtcome, lookup_of_slot hslot houtcome]
    dsimp only
    rw [Entries.insert_of_get? hslot]

theorem forceSlots_of_forced (slots : Entries Slot)
    (h : ∀ slot ∈ slots.items, slot.isForced = true) (s : Store W) :
    forceSlots host slots s = ((slots.items.filterMap Slot.outcome?, slots), s) := by
  induction slots with
  | nil => rfl
  | cons pair rest ih =>
    obtain ⟨name, slot⟩ := pair
    obtain ⟨hfirst, hothers⟩ := List.forall_mem_cons.mp h
    obtain ⟨outcome, houtcome⟩ := Slot.isForced_iff.mp hfirst
    have hitems : Entries.items ((name, slot) :: rest) = slot :: Entries.items rest := rfl
    rw [forceSlots_cons_apply, Slot.force_of_forced houtcome]
    dsimp only
    rw [ih hothers, hitems, List.filterMap_cons_some houtcome]

end FieldMap

namespace FieldAccess

/-- The access reads fields, and does not check them. -/
def IsReading : FieldAccess → Prop
  | fields | field _ | slot _ | forceAll | look _ => True
  | validate _ => False

/-- The reply to a reading when every slot of the map has been forced. -/
def replyFrom (m : FieldMap) : FieldAccess → FieldReply
  | fields => .fields (.ok m)
  | field name => .field (m.lookup name)
  | slot name => .slot (.ok (m.lookup name))
  | forceAll => .all (.ok (m.slots.items.filterMap Slot.outcome?))
  | look name => .looked (.ok (m.names, m.slot? name))
  | validate _ => .violations []

/-- **An access to fields that are all known** gives what is kept of them, and changes nothing. -/
theorem run_of_forced {a : FieldAccess} (ha : a.IsReading) {c : Composite} {m : FieldMap}
    (hm : c.fields = some (.ok m)) (hforced : m.Forced) (s : Store W) :
    a.run host c s = ((a.replyFrom m, c), s) := by
  have hsame : { c with fields := some (.ok m) } = c := by rw [← hm]
  have hwork : a.work host c.name m s = ((a.replyFrom m, m), s) := by
    cases a with
    | fields => rfl
    | field name =>
      rw [work, Run.bind_apply, FieldMap.field_of_forced hforced]
      rfl
    | slot name =>
      rw [work, Run.bind_apply, FieldMap.field_of_forced hforced]
      rfl
    | forceAll =>
      rw [work, Run.bind_apply, FieldMap.forceAll, Run.bind_apply,
        FieldMap.forceSlots_of_forced m.slots hforced]
      rfl
    | look name => rfl
    | validate types => exact ha.elim
  rw [run_apply, Composite.fieldMap_of_read hm]
  dsimp only
  rw [hwork, hsame]

end FieldAccess

/-- Work that leaves an object or interface as it is leaves the registry as it is. -/
theorem Registry.access_of_same {α : Type} {r : Registry} {name : String}
    {f : Composite → Run W (α × Composite)} {t : TypeDef} {c : Composite} {a : α}
    (ht : r.get? name = some t) (hc : t.asComposite? = some c) (hf : f c s = ((a, c), s)) :
    r.access name f s = ((.done a, r), s) := by
  have hsame : t.withComposite c = t := by
    cases t <;> cases hc <;> rfl
  unfold access
  simp only [ht, hc, Run.bind_apply, hf, hsame]
  rw [Entries.insert_of_get? ht]
  rfl

/-! ### Types whose fields have passed -/

/-- The type keeps the map. Every slot in it has been forced, and its field has passed the check as
one of the type, on the way from the first store to the second. -/
structure Composite.Frozen (host : Host W) (types : TypeLookup) (s s' : Store W) (c : Composite)
    (m : FieldMap) : Prop where
  fields : c.fields = some (.ok m)
  forced : m.Forced
  passed : ∀ slot ∈ m.slots.items, ∃ f type,
    slot.outcome? = some (.ok f) ∧ f.Passed host types c.name s s' type

namespace Composite

theorem Frozen.step {c : Composite} {m : FieldMap} (h : c.Frozen host types s s' m)
    (hstep : s'.Step host types s'') : c.Frozen host types s s'' m where
  fields := h.fields
  forced := h.forced
  passed := by
    intro slot hslot
    obtain ⟨f, type, houtcome, hpassed⟩ := h.passed slot hslot
    exact ⟨f, type, houtcome, hpassed.step hstep⟩

/-- Where validation finds nothing, the type is frozen. -/
theorem frozen_of_validate (c : Composite) (hs : s.Leads host types s')
    (h : (c.validate host types s').1.1 = []) :
    ∃ m, (c.validate host types s').1.2.Frozen host types s (c.validate host types s').2 m := by
  have hname : (c.validate host types s').1.2.name = c.name := by
    rw [(c.validate_serves host types s').advances.same]
  have hsteady : ∀ f : Field, Steady host types fun later =>
      ∃ type, f.Passed host types c.name s later type := by
    intro f s₁ s₂ hstep ⟨type, hpassed⟩
    exact ⟨type, hpassed.step hstep⟩
  obtain ⟨m, hm, hall⟩ := c.forall_of_validate s.steady_leads hsteady
    (fun _ _ _ hbefore hcheck => Field.passed_of_check hbefore hcheck) s' hs h
  refine ⟨m, hm, fun slot hslot => ?_, fun slot hslot => ?_⟩
  · obtain ⟨f, houtcome, -⟩ := hall slot hslot
    exact Slot.isForced_iff.mpr ⟨_, houtcome⟩
  · obtain ⟨f, houtcome, type, hpassed⟩ := hall slot hslot
    rw [hname]
    exact ⟨f, type, houtcome, hpassed⟩

/-- A name that is declared has a field. -/
theorem Frozen.lookup_of_mem {c : Composite} {m : FieldMap} (h : c.Frozen host types s s' m)
    {name : String} (hname : name ∈ m.names) : ∃ f type,
      m.lookup name = .ok (some f) ∧ f.Passed host types c.name s s' type := by
  rw [FieldMap.names, ← Entries.contains_iff_mem_keys] at hname
  obtain ⟨slot, hslot⟩ := Option.isSome_iff_exists.mp hname
  obtain ⟨f, type, houtcome, hpassed⟩ := h.passed slot (Entries.mem_items_of_get? hslot)
  exact ⟨f, type, FieldMap.lookup_of_slot hslot houtcome, hpassed⟩

end Composite

/-- If the type is an object or an interface, it is frozen. -/
def TypeDef.Frozen (host : Host W) (types : TypeLookup) (s : Store W) (t : TypeDef)
    (s' : Store W) : Prop :=
  ∀ c, t.asComposite? = some c → ∃ m, c.Frozen host types s s' m

theorem TypeDef.steady_frozen (t : TypeDef) : Steady host types (t.Frozen host types s) := by
  intro s₁ s₂ hstep h c hc
  obtain ⟨m, hm⟩ := h c hc
  exact ⟨m, hm.step hstep⟩

theorem TypeDef.frozen_of_validate (t : TypeDef) (hs : s.Leads host types s')
    (h : (t.validate host types s').1.1 = []) :
    (t.validate host types s').1.2.Frozen host types s (t.validate host types s').2 := by
  intro c hc
  cases t with
  | object c' =>
    obtain rfl := Option.some.inj hc
    exact c'.frozen_of_validate hs h
  | interface c' =>
    obtain rfl := Option.some.inj hc
    exact c'.frozen_of_validate hs h
  | _ => cases hc

/-! ### Readings of a schema -/

namespace Schema

/-- A reading of a schema: an access to the fields of a type, or the type of a field. -/
inductive Reading where
  | access (typeName : String) (access : FieldAccess)
  | resolve (f : Field) (types : TypeLookup)

/-- The reply to a reading. -/
inductive Reply where
  | access (result : Access FieldReply)
  | type (outcome : Except ResolutionError ResolvedType)

/-- The reading is one of the fields of the schema, and checks nothing. -/
def Reading.IsOf (schema : Schema) : Reading → Prop
  | access _ a => a.IsReading
  | resolve f _ => schema.HasField f

/-- Reads the schema, which keeps its types as they are afterwards. -/
def read (host : Host W) (schema : Schema) : Reading → Run W (Reply × Schema)
  | .access typeName a => do
    let (result, types) ← schema.types.access typeName (a.run host)
    return (.access result, { schema with types })
  | .resolve f types => do
    return (.type (← (f.resolveType host types).run), schema)

/-- Reads the schema again and again. -/
def course (host : Host W) : List Reading → Schema → Run W (List Reply × Schema)
  | [], schema => return ([], schema)
  | reading :: rest, schema => do
    let (reply, schema) ← schema.read host reading
    let (replies, schema) ← course host rest schema
    return (reply :: replies, schema)

/-- A schema that replies the same to the same reading for good, whatever functions of the host
would answer. The fields that it gives, and their types, are those that passed their checks between
the first store and the second, from which on the schema is read. -/
structure Frozen (host : Host W) (s s' : Store W) (schema : Schema) : Prop where
  /-- Every slot has been forced, and every field has passed. -/
  types : ∀ t ∈ schema.types.types.items, t.Frozen host schema.types.lookup s s'
  /-- What a type keeps of its fields is what accesses give. -/
  access : ∀ typeName t c m, schema.types.get? typeName = some t → t.asComposite? = some c →
    c.fields = some (.ok m) → ∀ a : FieldAccess, a.IsReading → ∀ s₁,
      schema.read host (.access typeName a) s₁ = ((.access (.done (a.replyFrom m)), schema), s₁)
  /-- A name that is declared has a field, and this is the one that passed. -/
  field : ∀ typeName t c m, schema.types.get? typeName = some t → t.asComposite? = some c →
    c.fields = some (.ok m) → ∀ name ∈ m.names, ∃ f type,
      f.Passed host schema.types.lookup c.name s s' type ∧ ∀ s₁,
        schema.read host (.access typeName (.field name)) s₁ =
          ((.access (.done (.field (.ok (some f)))), schema), s₁)
  /-- Against any types, a field resolves to the type that it passed with. -/
  resolve : ∀ f, schema.HasField f → ∃ typeName type,
    f.Passed host schema.types.lookup typeName s s' type ∧ ∀ types s₁, s'.Keeps s₁ →
      schema.read host (.resolve f types) s₁ = ((.type (.ok type), schema), s₁)
  /-- Nothing is called or changed by any readings, and each of them gives what it gives first. -/
  course : ∀ readings : List Reading, (∀ reading ∈ readings, reading.IsOf schema) →
    ∀ s₁, s'.Keeps s₁ → schema.course host readings s₁ =
      ((readings.map fun reading => (schema.read host reading s').1.1, schema), s₁)

/-- A field that has passed resolves to the type that it passed with. -/
theorem read_resolve {schema : Schema} {typeName : String} {f : Field} {type : ResolvedType}
    {s₁ : Store W} (hpassed : f.Passed host types typeName s s' type) (hlater : s'.Keeps s₁)
    (types' : TypeLookup) :
    schema.read host (.resolve f types') s₁ = ((.type (.ok type), schema), s₁) := by
  rw [read, Run.bind_apply, hpassed.run_resolveType hlater types']
  rfl

section Types

variable {schema : Schema}
  (htypes : ∀ t ∈ schema.types.types.items, t.Frozen host schema.types.lookup s s')
include htypes

/-- The map that a type of the schema keeps is frozen. -/
theorem frozen_of_fields {t : TypeDef} {c : Composite} {m : FieldMap}
    (ht : t ∈ schema.types.types.items) (hc : t.asComposite? = some c)
    (hm : c.fields = some (.ok m)) : c.Frozen host schema.types.lookup s s' m := by
  obtain ⟨kept, hfrozen⟩ := htypes t ht c hc
  have hsame : m = kept := Except.ok.inj (Option.some.inj (hm.symm.trans hfrozen.fields))
  rwa [hsame]

/-- A field of a schema whose types are frozen has passed. -/
theorem passed_of_hasField {f : Field} (hf : schema.HasField f) :
    ∃ typeName type, f.Passed host schema.types.lookup typeName s s' type := by
  obtain ⟨t, ht, c, m, hc, hm, slot, hslot, houtcome⟩ := hf
  have hfrozen := frozen_of_fields htypes ht hc hm
  obtain ⟨f', type, houtcome', hpassed⟩ := hfrozen.passed slot hslot
  obtain rfl := Except.ok.inj (Option.some.inj (houtcome.symm.trans houtcome'))
  exact ⟨c.name, type, hpassed⟩

/-- An access to a frozen type gives what its map keeps. -/
theorem read_access {typeName : String} {t : TypeDef} {c : Composite} {m : FieldMap}
    (ht : schema.types.get? typeName = some t) (hc : t.asComposite? = some c)
    (hm : c.fields = some (.ok m)) {a : FieldAccess} (ha : a.IsReading) (s₁ : Store W) :
    schema.read host (.access typeName a) s₁ =
      ((.access (.done (a.replyFrom m)), schema), s₁) := by
  have hfrozen := frozen_of_fields htypes (Entries.mem_items_of_get? ht) hc hm
  have hrun : a.run host c s₁ = ((a.replyFrom m, c), s₁) :=
    FieldAccess.run_of_forced ha hm hfrozen.forced s₁
  rw [read, Run.bind_apply, Registry.access_of_same ht hc hrun]
  rfl

/-- A reading has one reply, whenever it is made. -/
theorem exists_reply {reading : Reading} (hreading : reading.IsOf schema) :
    ∃ reply, ∀ s₁, s'.Keeps s₁ → schema.read host reading s₁ = ((reply, schema), s₁) := by
  cases reading with
  | resolve f types' =>
    obtain ⟨typeName, type, hpassed⟩ := passed_of_hasField htypes hreading
    exact ⟨.type (.ok type), fun s₁ hlater => read_resolve hpassed hlater types'⟩
  | access typeName a =>
    cases ht : schema.types.get? typeName with
    | none =>
      refine ⟨.access .noType, fun s₁ _ => ?_⟩
      rw [read, Run.bind_apply, Registry.access, ht]
      rfl
    | some t =>
      cases hc : t.asComposite? with
      | none =>
        refine ⟨.access .noFields, fun s₁ _ => ?_⟩
        rw [read, Run.bind_apply, Registry.access, ht]
        dsimp only
        rw [hc]
        rfl
      | some c =>
        obtain ⟨m, hfrozen⟩ := htypes t (Entries.mem_items_of_get? ht) c hc
        exact ⟨_, fun s₁ _ => read_access htypes ht hc hfrozen.fields hreading s₁⟩

/-- Readings, one after the other, give what each of them gives first. -/
theorem course_of_frozen (readings : List Reading)
    (hreadings : ∀ reading ∈ readings, reading.IsOf schema) (s₁ : Store W) (hlater : s'.Keeps s₁) :
    schema.course host readings s₁ =
      ((readings.map fun reading => (schema.read host reading s').1.1, schema), s₁) := by
  induction readings with
  | nil => rfl
  | cons reading rest ih =>
    obtain ⟨hfirst, hothers⟩ := List.forall_mem_cons.mp hreadings
    obtain ⟨reply, hreply⟩ := exists_reply htypes hfirst
    rw [course, Run.bind_apply, hreply s₁ hlater]
    dsimp only
    rw [Run.bind_apply, ih hothers, List.map_cons, hreply s' (.refl s')]
    rfl

theorem frozen_of_types : schema.Frozen host s s' where
  types := htypes
  access := fun _ _ _ _ ht hc hm _ ha s₁ => read_access htypes ht hc hm ha s₁
  field := by
    intro typeName t c m ht hc hm name hname
    have hfrozen := frozen_of_fields htypes (Entries.mem_items_of_get? ht) hc hm
    obtain ⟨f, type, hfound, hpassed⟩ := hfrozen.lookup_of_mem hname
    refine ⟨f, type, hpassed, fun s₁ => ?_⟩
    rw [read_access htypes ht hc hm (a := .field name) trivial s₁, FieldAccess.replyFrom, hfound]
  resolve := by
    intro f hf
    obtain ⟨typeName, type, hpassed⟩ := passed_of_hasField htypes hf
    exact ⟨typeName, type, hpassed, fun types' s₁ hlater => read_resolve hpassed hlater types'⟩
  course := course_of_frozen htypes

end Types

end Schema

namespace Builder

/-- **A built schema is frozen.** Whatever the functions of the host answer, and however often they
change what they answer: once there is a schema, all of its fields are known and have passed their
checks, no reading of it calls any function, and what is read is what passed. -/
theorem frozen_of_build {b : Builder} {s s' : Store W} {schema : Schema}
    (hbuild : (b.build host).run s = (.ok schema, s')) : schema.Frozen host s s' := by
  obtain ⟨-, hlookup, -⟩ := settled_of_build hbuild
  have htypes := forall_types_of_build (P := fun t => t.Frozen host b.types.lookup s)
    s.steady_leads (fun t => t.steady_frozen) (fun t _ hs hnone => t.frozen_of_validate hs hnone)
    .refl hbuild
  rw [← hlookup] at htypes
  exact Schema.frozen_of_types htypes

/-- A host that counts the calls of its functions, and gives the same answers up to the third of
them only. -/
def fickleHost : Host Nat where
  typeOf _ calls := (.named (if calls < 3 then "String" else "Ghost"), calls + 1)
  fieldOf _ calls := (if calls < 3 then .type (.deferred ⟨0⟩) else .null, calls + 1)
  fieldSetOf _ calls :=
    (if calls < 3 then .record [("greeting", .callable ⟨.producer, ⟨0⟩⟩)] else .null, calls + 1)
  resolve _ _ _ calls := (.null, calls + 1)
  map _ _ _ calls := ([], calls + 1)
  complexity _ _ _ calls := (0, calls + 1)

/-- The builder of a schema with an object whose set of fields is deferred. -/
def fickle : Builder :=
  { directives := .empty
    types := ⟨Registry.initial.types ++
      [("Query", .object (.declare "Query" none (.deferred ⟨0⟩)))]⟩ }

theorem frozen_fickle : ∃ schema s', (fickle.build fickleHost).run (.start 0) = (.ok schema, s') ∧
    s'.world = 3 ∧ (fickleHost.fieldSetOf ⟨0⟩ s'.world).1 = .null ∧
    schema.Frozen fickleHost (.start 0) s' := by
  have hbuild : ∃ schema s', (fickle.build fickleHost).run (.start 0) = (.ok schema, s') ∧
      s'.world = 3 := ⟨_, _, rfl, rfl⟩
  obtain ⟨schema, s', hbuild, hworld⟩ := hbuild
  refine ⟨schema, s', hbuild, hworld, ?_, frozen_of_build hbuild⟩
  rw [hworld]
  rfl

end Builder

end Schemata
