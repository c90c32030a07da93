import Schemata.Proofs.Reading
import Schemata.Proofs.Slots
import Schemata.Proofs.Stability

/-!
# Accesses to the fields of a type

The fields of an object or an interface are reached in several ways: the whole map, one field by its
name, the slot of a name, all fields at once, a look at the map that asks for no field, and
validation against any types. This file says what each of them does: the set is read if it was not,
the slots that the access reaches are forced if they were not, and everything that was kept before
stays as it is.

## Main definitions

* `Schemata.FieldAccess`: the accesses, with `Schemata.FieldAccess.run`.
* `Schemata.FieldAccess.Reaches`: the access may force the slot of a name.
* `Schemata.FieldAccess.Recalls`: the reply is what the type keeps.
* `Schemata.Composite.Kept`: what a type keeps was given by reading and by forcing.
* `Schemata.Composite.Advances`: what a type keeps, it keeps for good.

## Main results

* `Schemata.FieldAccess.run_spec`: what one access does.
-/

namespace Schemata

variable {W : Type}

/-- A way of reaching the fields of an object or an interface. -/
inductive FieldAccess where
  /-- The map of the fields. -/
  | fields
  /-- The field of a name. -/
  | field (name : String)
  /-- The field in the slot of a name, found in the map. -/
  | slot (name : String)
  /-- All fields. -/
  | forceAll
  /-- The names of the fields, and the slot of a name as it is. -/
  | look (name : String)
  /-- The check of all fields against the given types. -/
  | validate (types : TypeLookup)

/-- The reply to an access. -/
inductive FieldReply where
  | fields (outcome : Except Violation FieldMap)
  | field (outcome : Except Violation (Option Field))
  | slot (outcome : Except Violation (Except Violation (Option Field)))
  | all (outcome : Except Violation (List (Except Violation Field)))
  | looked (outcome : Except Violation (List String × Option Slot))
  | violations (violations : List Violation)

namespace FieldAccess

/-- The access, made to a type. -/
def run (host : Host W) : FieldAccess → Composite → Run W (FieldReply × Composite)
  | fields, c => do
    let (outcome, c) ← c.fieldMap host
    return (.fields outcome, c)
  | field name, c => do
    let (outcome, c) ← c.field host name
    return (.field outcome, c)
  | slot name, c => do
    let (outcome, c) ← c.withFields host (FieldMap.field host name)
    return (.slot outcome, c)
  | forceAll, c => do
    let (outcome, c) ← c.withFields host (FieldMap.forceAll host)
    return (.all outcome, c)
  | look name, c => do
    let (outcome, c) ← c.withFields host fun m => return ((m.names, m.slot? name), m)
    return (.looked outcome, c)
  | validate types, c => do
    let (violations, c) ← c.validate host types
    return (.violations violations, c)

/-- The access may force the slot of the name. -/
def Reaches : FieldAccess → String → Prop
  | fields, _ | look _, _ => False
  | field name, other | slot name, other => other = name
  | forceAll, _ | validate _, _ => True

/-- The reply to the access when the fields cannot be read. -/
def failure (violation : Violation) : FieldAccess → FieldReply
  | fields => .fields (.error violation)
  | field _ => .field (.error violation)
  | slot _ => .slot (.error violation)
  | forceAll => .all (.error violation)
  | look _ => .looked (.error violation)
  | validate _ => .violations [violation]

/-- The work of the access on the map, for the type named `typeName`. -/
def work (host : Host W) (typeName : String) :
    FieldAccess → FieldMap → Run W (FieldReply × FieldMap)
  | fields, m => return (.fields (.ok m), m)
  | field name, m => do
    let (outcome, m) ← m.field host name
    return (.field outcome, m)
  | slot name, m => do
    let (outcome, m) ← m.field host name
    return (.slot (.ok outcome), m)
  | forceAll, m => do
    let (outcomes, m) ← m.forceAll host
    return (.all (.ok outcomes), m)
  | look name, m => return (.looked (.ok (m.names, m.slot? name)), m)
  | validate types, m => do
    let (violations, m) ← Composite.validateFields host types typeName m
    return (.violations violations, m)

end FieldAccess

/-! ### Reading the fields -/

namespace Composite

/-- The calls that the next access makes in order to read the fields. -/
def unread (c : Composite) : List Call :=
  match c.fields with
  | some _ => []
  | none => c.fieldSet.calls

/-- The slot of a name, of a type whose fields have been read. -/
def slot? (c : Composite) (name : String) : Option Slot :=
  match c.fields with
  | some (.ok m) => m.slot? name
  | _ => none

/-- The deferred fields of a type that have been forced. -/
def forced (c : Composite) : List DeferredField :=
  match c.fields with
  | some (.ok m) => m.forced
  | _ => []

/-- The outcome was given by reading the set of fields in some world of the host, up to what has
been forced since. -/
def ReadAs (host : Host W) (c : Composite) (outcome : Except Violation FieldMap) : Prop :=
  ∃ w, outcome.map (fun m => FieldEntry.drafts m.entries) =
    (c.fieldSet.drafts c.name fun producer => (host.fieldSetOf producer w).1).map FieldDraft.named

/-- What the type keeps was given by reading and by forcing. -/
structure Kept (host : Host W) (c : Composite) : Prop where
  read : ∀ outcome, c.fields = some outcome → c.ReadAs host outcome
  forced : ∀ m, c.fields = some (.ok m) → ∀ slot ∈ m.slots.items, slot.Kept host

theorem kept_declare (host : Host W) (name : String) (description : Option String)
    (set : FieldSet) : (declare name description set).Kept host where
  read _ h := by cases h
  forced _ h := by cases h

/-- The outcome of reading is the one that is kept, or else it is new and has no forced slot. -/
def Opens (host : Host W) (c : Composite) (outcome : Except Violation FieldMap) : Prop :=
  c.fields = some outcome ∨
    c.fields = none ∧ c.ReadAs host outcome ∧
      ∀ m, outcome = .ok m → ∃ entries, m = FieldMap.ofEntries entries

theorem fieldMap_of_read {host : Host W} {c : Composite} {kept : Except Violation FieldMap}
    (h : c.fields = some kept) (s : Store W) : c.fieldMap host s = ((kept, c), s) := by
  simp only [fieldMap, h]
  rfl

theorem fieldMap_of_unread {host : Host W} {c : Composite} (h : c.fields = none) (s : Store W) :
    c.fieldMap host s =
      let read := (c.fieldSet.read host c.name).run s
      ((read.1.map FieldMap.ofEntries, { c with fields := some (read.1.map FieldMap.ofEntries) }),
        read.2) := by
  simp only [fieldMap, h]
  rfl

/-- Reading the fields calls the function of the set if the fields have not been read, and nothing
else. -/
theorem fieldMap_spec (host : Host W) (c : Composite) (s : Store W) :
    c.Opens host (c.fieldMap host s).1.1 ∧
      (c.fieldMap host s).1.2 = { c with fields := some (c.fieldMap host s).1.1 } ∧
      (c.fieldMap host s).2.declarationCalls = s.declarationCalls ++ c.unread ∧
      (c.fieldMap host s).2.resolved = s.resolved := by
  cases hfields : c.fields with
  | some outcome =>
    have hsame : c = { c with fields := some outcome } := by rw [← hfields]
    rw [fieldMap_of_read hfields]
    refine ⟨.inl hfields, hsame, ?_, rfl⟩
    simp only [unread, hfields, List.append_nil]
  | none =>
    obtain ⟨hdrafts, hcalls, hresolved⟩ := c.fieldSet.read_spec host c.name s
    rw [fieldMap_of_unread hfields]
    dsimp only
    refine ⟨.inr ⟨hfields, ⟨s.world, ?_⟩, ?_⟩, rfl, ?_, hresolved⟩
    · rw [← hdrafts]
      cases ((c.fieldSet.read host c.name).run s).1 <;> simp [Except.map]
    · intro m hm
      obtain ⟨entries, -, rfl⟩ := Outcome.map_eq_ok_iff.mp hm
      exact ⟨entries, rfl⟩
    · rw [hcalls]
      simp only [unread, hfields]

end Composite

namespace FieldAccess

/-- Every access reads the fields and, if that succeeds, works on the map. -/
theorem run_apply (host : Host W) (a : FieldAccess) (c : Composite) (s : Store W) :
    a.run host c s = match (c.fieldMap host s).1.1 with
      | .error violation =>
        ((a.failure violation, { c with fields := some (.error violation) }),
          (c.fieldMap host s).2)
      | .ok m =>
        let worked := a.work host c.name m (c.fieldMap host s).2
        ((worked.1.1, { c with fields := some (.ok worked.1.2) }), worked.2) := by
  obtain ⟨-, hkept, -⟩ := c.fieldMap_spec host s
  cases a <;>
    simp only [run, Composite.field, Composite.withFields, Composite.validate, Run.bind_apply] <;>
    rcases hrun : c.fieldMap host s with ⟨⟨violation | m, c'⟩, s'⟩ <;>
    rw [hrun] at hkept <;> dsimp only at hkept <;> subst hkept <;> rfl

end FieldAccess

/-! ### What a type keeps -/

/-- The field that the map keeps under a name, if its slot has been forced. -/
def FieldMap.kept? (m : FieldMap) (name : String) : Option (Except Violation (Option Field)) :=
  match m.slot? name with
  | none => some (.ok none)
  | some slot => slot.outcome?.map (·.map some)

theorem FieldMap.Advances.kept?_eq {m m' : FieldMap} (h : m.Advances m') {name : String}
    {outcome : Except Violation (Option Field)} (hm : m.kept? name = some outcome) :
    m'.kept? name = some outcome := by
  have hslot := h.slot? name
  unfold kept? at hm ⊢
  cases hold : m.slot? name with
  | none =>
    rw [hold] at hslot hm
    cases hnew : m'.slot? name with
    | none => exact hm
    | some slot' =>
      rw [hnew] at hslot
      cases hslot
  | some slot =>
    rw [hold] at hslot hm
    cases hnew : m'.slot? name with
    | none =>
      rw [hnew] at hslot
      cases hslot
    | some slot' =>
      rw [hnew] at hslot
      obtain hadvances | - := hslot
      dsimp only at hm ⊢
      obtain ⟨kept, hkept, rfl⟩ := Option.map_eq_some_iff.mp hm
      rw [hadvances.outcome?_eq hkept]
      rfl

namespace FieldAccess

/-- The reply is what a type named `typeName` has to say that keeps the given outcome: the violation
for which its fields cannot be read, or what its slots keep. Of the map and of a look at it the
reply may be older than the outcome, since slots may have been forced in between; validation adds
what checking the kept fields finds. -/
inductive Recalls (host : Host W) (typeName : String) :
    Except Violation FieldMap → FieldAccess → FieldReply → Prop
  | failed (violation : Violation) (a : FieldAccess) :
      Recalls host typeName (.error violation) a (a.failure violation)
  | fields {m m' : FieldMap} (h : m'.Advances m) :
      Recalls host typeName (.ok m) fields (.fields (.ok m'))
  | field {m : FieldMap} {name : String} {outcome : Except Violation (Option Field)}
      (h : m.kept? name = some outcome) :
      Recalls host typeName (.ok m) (field name) (.field outcome)
  | slot {m : FieldMap} {name : String} {outcome : Except Violation (Option Field)}
      (h : m.kept? name = some outcome) :
      Recalls host typeName (.ok m) (slot name) (.slot (.ok outcome))
  | forceAll {m : FieldMap} {outcomes : List (Except Violation Field)}
      (h : m.slots.items.map Slot.outcome? = outcomes.map some) :
      Recalls host typeName (.ok m) forceAll (.all (.ok outcomes))
  | look {m m' : FieldMap} {name : String} (h : m'.Advances m) :
      Recalls host typeName (.ok m) (look name) (.looked (.ok (m'.names, m'.slot? name)))
  | validate {m : FieldMap} {types : TypeLookup} {outcomes : List (Except Violation Field)}
      (h : m.slots.items.map Slot.outcome? = outcomes.map some) (s : Store W) :
      Recalls host typeName (.ok m) (validate types) (.violations
        (FieldMap.forcedViolations outcomes ++ (Attempt.violations (Field.check host types typeName)
          (FieldMap.forcedFields outcomes) s).1))

/-- What a map recalls, it goes on recalling. -/
theorem Recalls.advance {host : Host W} {typeName : String} {m m' : FieldMap} {a : FieldAccess}
    {reply : FieldReply} (h : Recalls host typeName (.ok m) a reply) (hm : m.Advances m') :
    Recalls host typeName (.ok m') a reply := by
  cases h with
  | fields h => exact .fields (h.trans hm)
  | field h => exact .field (hm.kept?_eq h)
  | slot h => exact .slot (hm.kept?_eq h)
  | forceAll h => exact .forceAll (hm.outcomes h)
  | look h => exact .look (h.trans hm)
  | validate h s => exact .validate (hm.outcomes h) s

/-- The access asks for fields, so that its reply does not depend on when it is made. -/
def IsRequest : FieldAccess → Prop
  | field _ | slot _ | forceAll => True
  | fields | look _ | validate _ => False

/-- Requests have one reply. -/
theorem Recalls.unique {host : Host W} {typeName : String} {outcome : Except Violation FieldMap}
    {a : FieldAccess} {reply reply' : FieldReply} (ha : a.IsRequest)
    (h : Recalls host typeName outcome a reply) (h' : Recalls host typeName outcome a reply') :
    reply' = reply := by
  cases h with
  | failed violation a =>
    cases h'
    rfl
  | fields h => cases ha
  | look h => cases ha
  | validate h s => cases ha
  | field h =>
    cases h' with
    | field h' => rw [Option.some.inj (h.symm.trans h')]
  | slot h =>
    cases h' with
    | slot h' => rw [Option.some.inj (h.symm.trans h')]
  | forceAll h =>
    cases h' with
    | forceAll h' =>
      have hsome : (some : Except Violation Field → _).Injective := fun _ _ => Option.some.inj
      rw [List.map_injective_iff.mpr hsome (h.symm.trans h')]

/-! ### What the work of an access does -/

/-- **The work of an access.** Slots that were not forced are forced by it, each by one traversal of
its chain, and no other calls are made; the reply is what the slots keep afterwards; a slot that the
access does not reach stays as it is. -/
theorem work_spec (host : Host W) (typeName : String) (a : FieldAccess) (m : FieldMap)
    (s : Store W) :
    (∃ fs, SlotsForced host m.slots (a.work host typeName m s).1.2.slots fs ∧
        (a.work host typeName m s).2.declarationCalls =
          s.declarationCalls ++ fs.flatMap (Forcing.calls host)) ∧
      Recalls host typeName (.ok (a.work host typeName m s).1.2) a
        (a.work host typeName m s).1.1 ∧
      ∀ name, ¬ a.Reaches name → (a.work host typeName m s).1.2.slot? name = m.slot? name := by
  have hnothing : ∃ fs, SlotsForced host m.slots m.slots fs ∧
      s.declarationCalls = s.declarationCalls ++ fs.flatMap (Forcing.calls host) :=
    ⟨[], .refl host m.slots, (List.append_nil _).symm⟩
  have hfield : ∀ name,
      ((m.field host name) s).1.2.kept? name = some ((m.field host name) s).1.1 ∧
        ∀ other, other ≠ name → ((m.field host name) s).1.2.slot? other = m.slot? other := by
    intro name
    obtain ⟨-, ⟨hslot, hrun⟩ | ⟨slot, slot', outcome, hslot, hrun, houtcome⟩, -⟩ :=
      m.field_spec host name s
    · rw [hrun]
      exact ⟨by simp [FieldMap.kept?, hslot], fun _ _ => rfl⟩
    · rw [hrun]
      constructor
      · simp [FieldMap.kept?, FieldMap.slot?, Entries.get?_insert, houtcome]
      · intro other hother
        simp [FieldMap.slot?, Entries.get?_insert, hother]
  cases a with
  | fields => exact ⟨hnothing, .fields (.refl m), fun _ _ => rfl⟩
  | look name => exact ⟨hnothing, .look (.refl m), fun _ _ => rfl⟩
  | field name =>
    obtain ⟨-, -, hforced⟩ := m.field_spec host name s
    exact ⟨hforced, .field (hfield name).1, (hfield name).2⟩
  | slot name =>
    obtain ⟨-, -, hforced⟩ := m.field_spec host name s
    exact ⟨hforced, .slot (hfield name).1, (hfield name).2⟩
  | forceAll =>
    obtain ⟨houtcomes, -, hforced⟩ := FieldMap.forceSlots_spec host m.slots s
    exact ⟨hforced, .forceAll houtcomes, fun _ h => absurd trivial h⟩
  | validate types =>
    obtain ⟨houtcomes, -, fs, hforced, hcalls⟩ := FieldMap.forceSlots_spec host m.slots s
    have hchecks := (stable_declarationCalls host types _).preserves_fieldViolations typeName
      (FieldMap.forcedFields (FieldMap.forceSlots host m.slots s).1.1)
      (FieldMap.forceSlots host m.slots s).2 rfl
    exact ⟨⟨fs, hforced, hchecks.trans hcalls⟩, .validate houtcomes _, fun _ h => absurd trivial h⟩

end FieldAccess

/-! ### What an access does -/

/-- What is kept of the fields stays: a violation as it is, a map with all its slots. -/
inductive KeptAdvances :
    Option (Except Violation FieldMap) → Option (Except Violation FieldMap) → Prop
  | unread (kept : Option (Except Violation FieldMap)) : KeptAdvances none kept
  | failed (violation : Violation) :
      KeptAdvances (some (.error violation)) (some (.error violation))
  | read {m m' : FieldMap} (h : m.Advances m') : KeptAdvances (some (.ok m)) (some (.ok m'))

theorem KeptAdvances.trans {x y z : Option (Except Violation FieldMap)} (h : KeptAdvances x y)
    (h' : KeptAdvances y z) : KeptAdvances x z := by
  cases h with
  | unread => exact .unread z
  | failed violation => exact h'
  | read h =>
    cases h' with
    | read h' => exact .read (h.trans h')

theorem KeptAdvances.refl (x : Option (Except Violation FieldMap)) : KeptAdvances x x :=
  match x with
  | none => .unread none
  | some (.error violation) => .failed violation
  | some (.ok m) => .read (.refl m)

namespace Composite

/-- The second type is the first one with more of its fields known. -/
structure Advances (c c' : Composite) : Prop where
  same : c' = { c with fields := c'.fields }
  fields : KeptAdvances c.fields c'.fields

theorem Advances.refl (c : Composite) : c.Advances c :=
  ⟨rfl, .refl c.fields⟩

theorem Advances.trans {c c' c'' : Composite} (h : c.Advances c') (h' : c'.Advances c'') :
    c.Advances c'' := by
  refine ⟨?_, h.fields.trans h'.fields⟩
  rw [h'.same, h.same]

namespace Opens

variable {host : Host W} {c : Composite} {outcome : Except Violation FieldMap} {m : FieldMap}

theorem advances (h : c.Opens host outcome) {kept : Option (Except Violation FieldMap)}
    (hkept : KeptAdvances (some outcome) kept) : KeptAdvances c.fields kept := by
  rcases h with h | ⟨h, -⟩
  · rw [h]
    exact hkept
  · rw [h]
    exact .unread kept

theorem readAs (h : c.Opens host outcome) (hc : c.Kept host) : c.ReadAs host outcome := by
  rcases h with h | ⟨-, h, -⟩
  · exact hc.read outcome h
  · exact h

theorem kept_items (h : c.Opens host (.ok m)) (hc : c.Kept host) :
    ∀ slot ∈ m.slots.items, slot.Kept host := by
  rcases h with h | ⟨-, -, hnew⟩
  · exact hc.forced m h
  · obtain ⟨entries, rfl⟩ := hnew m rfl
    intro slot hslot
    obtain ⟨⟨name, slot⟩, hmem, rfl⟩ := List.mem_map.mp hslot
    obtain ⟨⟨name, entry⟩, -, hpair⟩ := List.mem_map.mp hmem
    cases hpair
    exact Slot.kept_ofEntry host entry

theorem forced_eq (h : c.Opens host (.ok m)) : m.forced = c.forced := by
  rcases h with h | ⟨h, -, hnew⟩
  · simp only [forced, h]
  · obtain ⟨entries, rfl⟩ := hnew m rfl
    simp only [forced, h, FieldMap.forced_ofEntries]

/-- A slot that is forced when the fields have just been read was forced before. -/
theorem slot?_of_forced (h : c.Opens host (.ok m)) {name : String} {field : DeferredField}
    {outcome : Except Violation Field}
    (hslot : m.slot? name = some (.deferred field (some outcome))) :
    c.slot? name = some (.deferred field (some outcome)) := by
  rcases h with h | ⟨-, -, hnew⟩
  · simp only [slot?, h, hslot]
  · obtain ⟨entries, rfl⟩ := hnew m rfl
    obtain ⟨entry, hentry⟩ : ∃ entry, Slot.ofEntry entry = .deferred field (some outcome) := by
      have hmem := Entries.mem_items_of_get? hslot
      obtain ⟨⟨key, slot⟩, hpair, hsame⟩ := List.mem_map.mp hmem
      obtain ⟨⟨key', entry⟩, -, hentry⟩ := List.mem_map.mp hpair
      cases hentry
      exact ⟨entry, hsame⟩
    cases entry <;> cases hentry

end Opens

end Composite

namespace FieldAccess

/-- What an access does to a type and to the store. -/
structure Serves (host : Host W) (a : FieldAccess) (c : Composite) (s : Store W)
    (reply : FieldReply) (c' : Composite) (s' : Store W) : Prop where
  /-- What was kept stays. -/
  advances : c.Advances c'
  /-- What is kept now was given by reading and forcing. -/
  kept : c.Kept host → c'.Kept host
  /-- The reply is what is kept now. -/
  recalls : ∃ outcome, c'.fields = some outcome ∧ Recalls host c.name outcome a reply
  /-- The calls are those of reading, if that was not done before, and those of one chain for each
  field that is forced now and was not before. -/
  calls : ∃ fs : List (Forcing W),
    s'.declarationCalls = s.declarationCalls ++ c.unread ++ fs.flatMap (Forcing.calls host) ∧
      c'.forced.Perm (c.forced ++ fs.map Forcing.field)
  /-- Only slots that the access reaches are forced. -/
  reaches : ∀ name field outcome, c'.slot? name = some (.deferred field (some outcome)) →
    c.slot? name = some (.deferred field (some outcome)) ∨ a.Reaches name

/-- **What one access does.** -/
theorem run_spec (host : Host W) (a : FieldAccess) (c : Composite) (s : Store W) :
    a.Serves host c s (a.run host c s).1.1 (a.run host c s).1.2 (a.run host c s).2 := by
  obtain ⟨hopens, -, hunread, -⟩ := c.fieldMap_spec host s
  rw [run_apply]
  cases houtcome : (c.fieldMap host s).1.1 with
  | error violation =>
    rw [houtcome] at hopens
    have hforced : c.forced = [] := by
      rcases hopens with h | ⟨h, -⟩ <;> simp only [Composite.forced, h]
    exact {
      advances := ⟨rfl, hopens.advances (.failed violation)⟩
      kept := fun hc =>
        { read := fun outcome h => by
            obtain rfl := Option.some.inj h
            exact hopens.readAs hc
          forced := fun m h => by cases h }
      recalls := ⟨_, rfl, .failed violation a⟩
      calls := ⟨[], hunread.trans (List.append_nil _).symm, by rw [hforced]; exact .nil⟩
      reaches := fun _ _ _ h => by cases h }
  | ok m =>
    rw [houtcome] at hopens
    obtain ⟨⟨fs, hslots, hcalls⟩, hrecalls, hreaches⟩ :=
      a.work_spec host c.name m (c.fieldMap host s).2
    exact {
      advances := ⟨rfl, hopens.advances (.read hslots.advances)⟩
      kept := fun hc =>
        { read := fun outcome h => by
            obtain rfl := Option.some.inj h
            obtain ⟨w, hread⟩ := hopens.readAs hc
            exact ⟨w, by simpa only [Except.map, hslots.entries_eq] using hread⟩
          forced := fun m' h => by
            cases h
            exact hslots.kept_items (hopens.kept_items hc) }
      recalls := ⟨_, rfl, hrecalls⟩
      calls := ⟨fs, by rw [hcalls, hunread], by rw [← hopens.forced_eq]; exact hslots.perm_forced⟩
      reaches := fun name field outcome h => by
        by_cases ha : a.Reaches name
        · exact .inr ha
        · exact .inl (hopens.slot?_of_forced ((hreaches name ha).symm.trans h)) }

end FieldAccess

namespace Composite

/-- The types that declared types become by accesses to their fields, whatever happens to the store
in between. -/
inductive Reached (host : Host W) : Composite → Prop
  | declare (name : String) (description : Option String) (set : FieldSet) :
      Reached host (declare name description set)
  | access {c : Composite} (h : Reached host c) (a : FieldAccess) (s : Store W) :
      Reached host (a.run host c s).1.2

theorem Reached.kept {host : Host W} {c : Composite} (h : c.Reached host) : c.Kept host := by
  induction h with
  | declare name description set => exact kept_declare host name description set
  | @access c _ a s ih => exact (a.run_spec host c s).kept ih

end Composite

end Schemata
