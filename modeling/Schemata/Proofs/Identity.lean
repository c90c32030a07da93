import Schemata.Proofs.FieldCourse
import Schemata.Proofs.WellFormed

/-!
# Fields up to identity

With a host that follows an oracle, reading and forcing the fields of a type give the same fields
whenever they are done, except that a field made on the way has an identity of the moment. Two
fields are twins from some number on if they have one content and one identity, or if both
identities are of that number or later.

What the slots of a type give is therefore settled once and for all: reading and forcing do not
change it, they only keep it.

## Main definitions

* `Schemata.Field.Twin`: fields of one content, whose identities differ only if both are new.
* `Schemata.Attempt.Twins`: attempts that give the same up to new identities.
* `Schemata.Composite.outcomes`: what the slots of a type give, each forced on its own.
* `Schemata.Slot.Gives`, `Schemata.Composite.Gives`: what a slot and a type will give.

## Main results

* `Schemata.DeferredField.twins_force`, `Schemata.FieldSet.twins_read`: forcing and reading.
* `Schemata.Composite.gives_outcomes`: a type gives what its slots give now.
* `Schemata.FieldAccess.gives_run`: accesses do not change what a type gives.
-/

namespace Schemata

variable {W α β ε : Type} {host : Host W} {oracle : Oracle} {n : Nat}

/-! ### Outcomes that are alike -/

/-- Two failures for one reason, or two successes with related results. -/
inductive Outcome.Alike (R : α → β → Prop) : Except ε α → Except ε β → Prop
  | ok {a : α} {b : β} (h : R a b) : Alike R (.ok a) (.ok b)
  | error (e : ε) : Alike R (.error e) (.error e)

/-- Items under the same names, each related to the other. -/
def Entries.Alike (R : α → β → Prop) (entries : Entries α) (entries' : Entries β) : Prop :=
  List.Forall₂ (fun p q => q.1 = p.1 ∧ R p.2 q.2) entries entries'

namespace Entries.Alike

variable {R : α → β → Prop} {entries : Entries α} {entries' : Entries β}

theorem contains_eq (h : Alike R entries entries') (name : String) :
    entries'.contains name = entries.contains name := by
  have hkeys : entries'.keys = entries.keys := by
    induction h with
    | nil => rfl
    | cons hpair _ ih =>
      rw [keys, List.map_cons, hpair.1]
      exact congrArg _ ih
  rw [Bool.eq_iff_iff, contains_iff_mem_keys, contains_iff_mem_keys, hkeys]

theorem insert (h : Alike R entries entries') (name : String) {a : α} {b : β} (hab : R a b) :
    Alike R (entries.insert name a) (entries'.insert name b) := by
  induction h with
  | nil => exact .cons ⟨rfl, hab⟩ .nil
  | @cons p q _ _ hpair hrest ih =>
    obtain ⟨key, old⟩ := p
    obtain ⟨key', old'⟩ := q
    obtain ⟨rfl, hold⟩ := hpair
    rw [Entries.insert, Entries.insert]
    split_ifs
    · exact .cons ⟨rfl, hab⟩ hrest
    · exact .cons ⟨rfl, hold⟩ ih

end Entries.Alike

/-- Items that are related to those of a list stay so if one of them gives way to another that is
related to whatever it was related to. -/
theorem Entries.forall₂_insert {R : α → β → Prop} {as : List α} {entries : Entries β}
    {name : String} {item item' : β} (h : List.Forall₂ R as entries.items)
    (hitem : entries.get? name = some item) (hkeep : ∀ a, R a item → R a item') :
    List.Forall₂ R as (entries.insert name item').items := by
  induction entries generalizing as with
  | nil => cases hitem
  | cons pair rest ih =>
    obtain ⟨key, old⟩ := pair
    obtain - | ⟨hold, hrest⟩ := h
    rw [Entries.get?_cons] at hitem
    rw [Entries.insert]
    by_cases hname : name = key
    · rw [if_pos hname] at hitem
      rw [if_pos hname.symm]
      obtain rfl := Option.some.inj hitem
      exact .cons (hkeep _ hold) hrest
    · rw [if_neg hname] at hitem
      rw [if_neg fun e => hname e.symm]
      exact .cons hold (ih hrest hitem)

/-! ### Twins -/

/-- The fields have one content, and one identity unless both identities are `n` or later. -/
structure Field.Twin (n : Nat) (f f' : Field) : Prop where
  spec : f'.toFieldSpecOf = f.toFieldSpecOf
  id : f'.id = f.id ∨ n ≤ f.id ∧ n ≤ f'.id

theorem Field.Twin.refl (n : Nat) (f : Field) : f.Twin n f :=
  ⟨rfl, .inl rfl⟩

/-- Entries with one deferred field, or with fields that are twins. -/
inductive FieldEntry.Twin (n : Nat) : FieldEntry → FieldEntry → Prop
  | defined {f f' : Field} (h : f.Twin n f') : Twin n (.defined f) (.defined f')
  | deferred (d : DeferredField) : Twin n (.deferred d) (.deferred d)

namespace Attempt

/-- From stores whose next identities are `n` or later, the attempts have outcomes that are alike,
and they leave such stores. -/
def Twins (n : Nat) (R : α → β → Prop) (m : Attempt W ε α) (m' : Attempt W ε β) : Prop :=
  ∀ s s' : Store W, n ≤ s.nextId → n ≤ s'.nextId →
    Outcome.Alike R (m.run s).1 (m'.run s').1 ∧ n ≤ (m.run s).2.nextId ∧ n ≤ (m'.run s').2.nextId

theorem twins_pure {R : α → β → Prop} {a : α} {b : β} (h : R a b) :
    Twins n R (pure a : Attempt W ε α) (pure b) :=
  fun _ _ hs hs' => ⟨.ok h, hs, hs'⟩

theorem twins_ofExcept (outcome : Except ε α) :
    Twins n Eq (ofExcept outcome : Attempt W ε α) (ofExcept outcome) := by
  refine fun s s' hs hs' => ⟨?_, hs, hs'⟩
  cases outcome with
  | error e => exact .error e
  | ok a => exact .ok rfl

theorem twins_record (e : Event) :
    Twins n Eq (ofRun (Run.record e) : Attempt W ε Unit) (ofRun (Run.record e)) :=
  fun _ _ hs hs' => ⟨.ok rfl, hs, hs'⟩

theorem Twins.bind {γ δ : Type} {R : α → β → Prop} {Q : γ → δ → Prop} {m : Attempt W ε α}
    {m' : Attempt W ε β} {f : α → Attempt W ε γ} {f' : β → Attempt W ε δ} (hm : Twins n R m m')
    (hf : ∀ a b, R a b → Twins n Q (f a) (f' b)) : Twins n Q (m >>= f) (m' >>= f') := by
  intro s s' hs hs'
  obtain ⟨halike, hnext, hnext'⟩ := hm s s' hs hs'
  rw [run_bind_apply, run_bind_apply]
  generalize m.run s = made at halike hnext ⊢
  generalize m'.run s' = made' at halike hnext' ⊢
  obtain ⟨outcome, s₁⟩ := made
  obtain ⟨outcome', s₁'⟩ := made'
  cases halike with
  | ok h => exact hf _ _ h s₁ s₁' hnext hnext'
  | error e => exact ⟨.error e, hnext, hnext'⟩

end Attempt

/-! ### Declaring and reading -/

theorem Declaration.twins_entryOfRecord (typeName : String) (r : Record) :
    Attempt.Twins (W := W) n (FieldEntry.Twin n) (entryOfRecord typeName r)
      (entryOfRecord typeName r) := by
  refine (Attempt.twins_ofExcept _).bind ?_
  rintro spec _ rfl
  have hmake : Attempt.Twins (W := W) (ε := Violation) n (Field.Twin n)
      (Attempt.ofRun (Run.makeField spec)) (Attempt.ofRun (Run.makeField spec)) :=
    fun s s' hs hs' => ⟨.ok ⟨rfl, .inr ⟨hs, hs'⟩⟩, Nat.le_succ_of_le hs, Nat.le_succ_of_le hs'⟩
  exact hmake.bind fun f f' h => Attempt.twins_pure (.defined h)

/-- What is declared makes entries that are twins. -/
theorem FieldEntry.twins_declare (typeName : String) (key : FieldKey) (value : Config) :
    Attempt.Twins (W := W) n (FieldEntry.Twin n) (declare typeName key value)
      (declare typeName key value) := by
  refine (Attempt.twins_ofExcept _).bind ?_
  rintro d _ rfl
  cases d with
  | deferred name producer => exact Attempt.twins_pure (.deferred _)
  | ready f => exact Attempt.twins_pure (.defined (.refl n f))
  | described r => exact Declaration.twins_entryOfRecord typeName r
  | shorthand name type => exact Declaration.twins_entryOfRecord typeName _

namespace FieldSet

theorem twins_readAfter (typeName : String) (declarations : List (FieldKey × Config)) :
    ∀ {entries entries' : Entries FieldEntry}, Entries.Alike (FieldEntry.Twin n) entries entries' →
      Attempt.Twins (W := W) n (Entries.Alike (FieldEntry.Twin n))
        (readAfter typeName entries declarations) (readAfter typeName entries' declarations) := by
  induction declarations with
  | nil => exact fun h => Attempt.twins_pure h
  | cons declaration rest ih =>
    obtain ⟨key, value⟩ := declaration
    intro entries entries' hentries
    refine (FieldEntry.twins_declare typeName key value).bind fun entry entry' hentry => ?_
    have hname : entry'.name = entry.name := by
      cases hentry with
      | defined h => exact congrArg FieldSpecOf.name h.spec
      | deferred d => rfl
    rw [hname, hentries.contains_eq]
    refine (Attempt.twins_ofExcept _).bind fun _ _ _ => ?_
    exact ih (hentries.insert entry.name hentry)

/-- **Reading the set of fields** makes entries that are twins. -/
theorem twins_read (hhost : host.Follows oracle) (typeName : String) (set : FieldSet) :
    Attempt.Twins n (Entries.Alike (FieldEntry.Twin n)) (set.read host typeName)
      (set.read host typeName) := by
  have hdeclarations : Attempt.Twins n Eq (set.declarations host typeName)
      (set.declarations host typeName) := by
    cases set with
    | declared declarations => exact Attempt.twins_pure rfl
    | deferred producer =>
      intro s s' hs hs'
      rw [declarations_apply_deferred, declarations_apply_deferred, hhost.fieldSetOf,
        hhost.fieldSetOf]
      refine ⟨?_, hs, hs'⟩
      cases declarationsOf typeName (oracle.fieldSetOf producer) with
      | error e => exact .error e
      | ok declarations => exact .ok rfl
  refine hdeclarations.bind ?_
  rintro declarations _ rfl
  refine (twins_readAfter typeName declarations .nil).bind fun entries entries' hentries => ?_
  have hrecord : Attempt.Twins (W := W) (ε := Violation) n (fun _ _ => True)
      (Attempt.ofRun (Run.record (.fieldMapBuilt typeName entries.length)))
      (Attempt.ofRun (Run.record (.fieldMapBuilt typeName entries'.length))) :=
    fun _ _ hs hs' => ⟨.ok trivial, hs, hs'⟩
  exact hrecord.bind fun _ _ _ => Attempt.twins_pure hentries

end FieldSet

/-! ### Forcing -/

namespace DeferredField

theorem twins_forceWithin (hhost : host.Follows oracle) (deferrals : Nat) :
    ∀ d, Attempt.Twins n (Field.Twin n) (forceWithin host deferrals d)
      (forceWithin host deferrals d) := by
  induction deferrals with
  | zero => exact fun d s s' hs hs' => ⟨.error _, hs, hs'⟩
  | succ deferrals ih =>
    intro d
    have hask : Attempt.Twins (ε := Violation) n Eq (Attempt.ofRun (Run.fieldOf host d.producer))
        (Attempt.ofRun (Run.fieldOf host d.producer)) := by
      refine fun s s' hs hs' => ⟨.ok ?_, hs, hs'⟩
      exact (hhost.fieldOf d.producer s.world).trans (hhost.fieldOf d.producer s'.world).symm
    refine (Attempt.twins_record _).bind fun _ _ _ => hask.bind ?_
    rintro value _ rfl
    refine (FieldEntry.twins_declare d.parent (.name d.name) value).bind fun entry entry' h => ?_
    cases h with
    | defined h => exact Attempt.twins_pure h
    | deferred next => exact ih next

/-- **Forcing a deferred field** gives fields that are twins. -/
theorem twins_force (hhost : host.Follows oracle) (d : DeferredField) :
    Attempt.Twins n (Field.Twin n) (d.force host) (d.force host) :=
  twins_forceWithin hhost maxDeferrals d

end DeferredField

/-! ### What slots give -/

namespace Slot

/-- Whenever the slot is forced, from a store whose next identity is `n` or later, it gives the
outcome, up to new identities. -/
def Gives (host : Host W) (n : Nat) (outcome : Except Violation Field) (slot : Slot) : Prop :=
  ∀ s : Store W, n ≤ s.nextId →
    Outcome.Alike (Field.Twin n) outcome (slot.force host s).1.1 ∧
      n ≤ (slot.force host s).2.nextId

theorem gives_of_entry (hhost : host.Follows oracle) {s : Store W} (hs : n ≤ s.nextId)
    {entry entry' : FieldEntry} (h : entry.Twin n entry') :
    (ofEntry entry').Gives host n ((ofEntry entry).force host s).1.1 := by
  intro s' hs'
  cases h with
  | defined h => exact ⟨.ok h, hs'⟩
  | deferred d =>
    obtain ⟨halike, -, hnext⟩ := d.twins_force hhost s s' hs hs'
    exact ⟨halike, hnext⟩

/-- A slot gives what it gives now. -/
theorem gives_force (hhost : host.Follows oracle) {s : Store W} (hs : n ≤ s.nextId) (slot : Slot) :
    slot.Gives host n (slot.force host s).1.1 := by
  match slot with
  | .defined field => exact gives_of_entry hhost hs (.defined (.refl n field))
  | .deferred field none => exact gives_of_entry hhost hs (.deferred field)
  | .deferred field (some (.ok f)) => exact fun s' hs' => ⟨.ok (.refl n f), hs'⟩
  | .deferred field (some (.error v)) => exact fun s' hs' => ⟨.error v, hs'⟩

/-- A slot that is forced goes on giving what it gave before. -/
theorem Gives.force {slot : Slot} {outcome : Except Violation Field}
    (h : slot.Gives host n outcome) {s : Store W} (hs : n ≤ s.nextId) :
    (slot.force host s).1.2.Gives host n outcome := by
  have hgiven := (h s hs).1
  match slot with
  | .defined field => exact h
  | .deferred field (some kept) => exact h
  | .deferred field none => exact fun s' hs' => ⟨hgiven, hs'⟩

end Slot

namespace FieldMap

variable {outcomes : List (Except Violation Field)}

/-- The slots of the map give the outcomes, one for each slot and in their order. -/
def Gives (host : Host W) (n : Nat) (outcomes : List (Except Violation Field)) (m : FieldMap) :
    Prop :=
  List.Forall₂ (fun outcome slot => slot.Gives host n outcome) outcomes m.slots.items

theorem Gives.exists_of_mem {m : FieldMap} (h : m.Gives host n outcomes) {slot : Slot}
    (hslot : slot ∈ m.slots.items) : ∃ outcome, slot.Gives host n outcome := by
  unfold Gives at h
  generalize m.slots.items = slots at h hslot
  induction h with
  | nil => cases hslot
  | cons hfirst _ ih =>
    rcases List.mem_cons.mp hslot with rfl | hslot
    · exact ⟨_, hfirst⟩
    · exact ih hslot

/-- Forcing all slots gives what they give, and they go on giving it. -/
theorem Gives.forceSlots (slots : Entries Slot) : ∀ {outcomes}, Gives host n outcomes ⟨slots⟩ →
    ∀ {s : Store W}, n ≤ s.nextId →
      List.Forall₂ (Outcome.Alike (Field.Twin n)) outcomes (forceSlots host slots s).1.1 ∧
        Gives host n outcomes ⟨(FieldMap.forceSlots host slots s).1.2⟩ ∧
        n ≤ (FieldMap.forceSlots host slots s).2.nextId := by
  induction slots with
  | nil =>
    rintro _ ⟨⟩ s hs
    exact ⟨.nil, .nil, hs⟩
  | cons pair rest ih =>
    obtain ⟨name, slot⟩ := pair
    rintro _ (_ | ⟨hslot, hrest⟩) s hs
    obtain ⟨halike, hnext⟩ := hslot s hs
    obtain ⟨hothers, hgives, hnext'⟩ := ih hrest hnext
    rw [forceSlots_cons_apply]
    exact ⟨.cons halike hothers, .cons (hslot.force hs) hgives, hnext'⟩

/-- Asking for one field does not change what the slots give. -/
theorem Gives.field {m : FieldMap} (h : m.Gives host n outcomes) (name : String) {s : Store W}
    (hs : n ≤ s.nextId) :
    (m.field host name s).1.2.Gives host n outcomes ∧ n ≤ (m.field host name s).2.nextId := by
  cases hslot : m.slot? name with
  | none =>
    rw [field_of_no_slot hslot]
    exact ⟨h, hs⟩
  | some slot =>
    rw [field_of_slot hslot]
    refine ⟨Entries.forall₂_insert h hslot fun outcome hgives => hgives.force hs, ?_⟩
    obtain ⟨outcome, hgives⟩ := h.exists_of_mem (Entries.mem_items_of_get? hslot)
    exact (hgives s hs).2

end FieldMap

/-! ### What types give -/

namespace Composite

variable {given : Except Violation (List (Except Violation Field))} {c : Composite}

/-- What the slots of the type give, each of them forced on its own; or the violation for which the
fields cannot be read. -/
def outcomes (host : Host W) (s : Store W) (c : Composite) :
    Except Violation (List (Except Violation Field)) :=
  (c.fieldMap host s).1.1.map fun m => m.slots.items.map fun slot => (slot.force host s).1.1

/-- Whenever the fields of the type are read, from a store whose next identity is `n` or later,
their slots give the given outcomes. -/
def Gives (host : Host W) (n : Nat) (given : Except Violation (List (Except Violation Field)))
    (c : Composite) : Prop :=
  ∀ s : Store W, n ≤ s.nextId →
    Outcome.Alike (FieldMap.Gives host n) given (c.fieldMap host s).1.1 ∧
      n ≤ (c.fieldMap host s).2.nextId

theorem gives_of_read {kept : Except Violation FieldMap} (h : c.fields = some kept)
    (hkept : Outcome.Alike (FieldMap.Gives host n) given kept) : c.Gives host n given := by
  intro s hs
  rw [fieldMap_of_read h]
  exact ⟨hkept, hs⟩

/-- **A type gives what its slots give now.** -/
theorem gives_outcomes (hhost : host.Follows oracle) {s : Store W} (hs : n ≤ s.nextId)
    (c : Composite) : c.Gives host n (c.outcomes host s) := by
  unfold outcomes
  cases hfields : c.fields with
  | some kept =>
    refine gives_of_read hfields ?_
    rw [fieldMap_of_read hfields]
    cases kept with
    | error v => exact .error v
    | ok m =>
      refine .ok ?_
      unfold FieldMap.Gives
      rw [List.forall₂_map_left_iff]
      exact List.forall₂_same.mpr fun slot _ => slot.gives_force hhost hs
  | none =>
    intro s' hs'
    obtain ⟨halike, -, hnext⟩ := c.fieldSet.twins_read hhost c.name s s' hs hs'
    rw [fieldMap_of_unread hfields, fieldMap_of_unread hfields]
    refine ⟨?_, hnext⟩
    dsimp only
    generalize ((c.fieldSet.read host c.name).run s).1 = read at halike ⊢
    generalize ((c.fieldSet.read host c.name).run s').1 = read' at halike ⊢
    cases halike with
    | error v => exact .error v
    | ok hentries =>
      refine .ok ?_
      unfold FieldMap.Gives
      simp only [FieldMap.ofEntries, Entries.items, List.map_map]
      rw [List.forall₂_map_left_iff, List.forall₂_map_right_iff]
      exact hentries.imp fun p q h => Slot.gives_of_entry hhost hs h.2

end Composite

/-! ### Accesses -/

/-- Checking makes no fields. -/
theorem stable_le_nextId (host : Host W) (types : TypeLookup) (n : Nat) :
    Stable host types fun s => n ≤ s.nextId where
  typeOf _ _ hs := hs
  record _ _ _ hs := hs
  remember _ _ _ _ _ hs := hs

namespace FieldAccess

theorem gives_work {outcomes : List (Except Violation Field)} {m : FieldMap}
    (h : m.Gives host n outcomes) (typeName : String) (a : FieldAccess) {s : Store W}
    (hs : n ≤ s.nextId) :
    (a.work host typeName m s).1.2.Gives host n outcomes ∧
      n ≤ (a.work host typeName m s).2.nextId := by
  cases a with
  | fields => exact ⟨h, hs⟩
  | look name => exact ⟨h, hs⟩
  | field name => exact h.field name hs
  | slot name => exact h.field name hs
  | forceAll => exact (FieldMap.Gives.forceSlots m.slots h hs).2
  | validate types =>
    obtain ⟨-, hgives, hnext⟩ := FieldMap.Gives.forceSlots m.slots h hs
    exact ⟨hgives, (stable_le_nextId host types n).preserves_fieldViolations typeName
      (FieldMap.forcedFields (FieldMap.forceSlots host m.slots s).1.1) _ hnext⟩

/-- **Accesses do not change what a type gives.** -/
theorem gives_run {given : Except Violation (List (Except Violation Field))} {c : Composite}
    (h : c.Gives host n given) (a : FieldAccess) {s : Store W} (hs : n ≤ s.nextId) :
    (a.run host c s).1.2.Gives host n given ∧ n ≤ (a.run host c s).2.nextId := by
  obtain ⟨hmap, hnext⟩ := h s hs
  rw [run_apply]
  cases hmap' : (c.fieldMap host s).1.1 with
  | error v =>
    rw [hmap'] at hmap
    exact ⟨Composite.gives_of_read rfl hmap, hnext⟩
  | ok m =>
    rw [hmap'] at hmap
    obtain hgives | - := hmap
    obtain ⟨hworked, hnext'⟩ := a.gives_work hgives c.name hnext
    exact ⟨Composite.gives_of_read rfl (.ok hworked), hnext'⟩

end FieldAccess

end Schemata
