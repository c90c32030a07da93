import Schemata.Proofs.Deferral
import Schemata.TypeDef

/-!
# What slots keep

Work on the slots of a field map forces some of the deferred ones and leaves all others alone. A
slot that is forced keeps the outcome of forcing its field in the world it was forced in; the field
that is declared in a slot never changes.

## Main definitions

* `Schemata.Slot.entry`, `Schemata.Slot.outcome?`: the entry that a slot was made of, and the
  outcome that it keeps.
* `Schemata.Slot.Kept`: the kept outcome was given by forcing.
* `Schemata.SlotsForced`: the slots before and after some of them were forced.
* `Schemata.FieldMap.Advances`: a map keeps its slots, and they keep their outcomes.

## Main results

* `Schemata.FieldMap.forceSlots_spec`, `Schemata.FieldMap.field_spec`: which slots are forced.
* `Schemata.SlotsForced.perm_forced`: the forced fields grow by those that are forced.
-/

namespace Schemata

variable {W : Type}

/-! ### Entries that are related one by one -/

namespace Entries

variable {α : Type} {R : α → α → Prop} {entries entries' entries'' : Entries α}

theorem forall₂_trans (hR : ∀ a b c, R a b → R b c → R a c)
    (h : List.Forall₂ (fun p q => p.1 = q.1 ∧ R p.2 q.2) entries entries')
    (h' : List.Forall₂ (fun p q => p.1 = q.1 ∧ R p.2 q.2) entries' entries'') :
    List.Forall₂ (fun p q => p.1 = q.1 ∧ R p.2 q.2) entries entries'' := by
  induction h generalizing entries'' with
  | nil => exact h'
  | cons hpair hrest ih =>
    obtain - | ⟨hpair', hrest'⟩ := h'
    exact .cons ⟨hpair.1.trans hpair'.1, hR _ _ _ hpair.2 hpair'.2⟩ (ih hrest')

/-- What stands under one name is related, and nothing stands under a name on one side alone. -/
theorem rel_get? (h : List.Forall₂ (fun p q => p.1 = q.1 ∧ R p.2 q.2) entries entries')
    (name : String) : Option.Rel R (entries.get? name) (entries'.get? name) := by
  induction h with
  | nil => exact .none
  | @cons p q _ _ hpair hrest ih =>
    obtain ⟨key, item⟩ := p
    obtain ⟨key', item'⟩ := q
    obtain ⟨rfl, hitem⟩ := hpair
    rw [get?_cons, get?_cons]
    split_ifs
    · exact .some hitem
    · exact ih

end Entries

/-! ### What a slot keeps -/

namespace Slot

/-- The entry that a slot was made of. -/
def entry : Slot → FieldEntry
  | defined field => .defined field
  | deferred field _ => .deferred field

/-- The outcome that a slot keeps. -/
def outcome? : Slot → Option (Except Violation Field)
  | defined field => some (.ok field)
  | deferred _ forced => forced

/-- The deferred field of a slot that has been forced. -/
def forced? : Slot → Option DeferredField
  | deferred field (some _) => some field
  | _ => none

/-- The outcome that a slot keeps for a deferred field was given by forcing it. -/
def Kept (host : Host W) : Slot → Prop
  | deferred field (some outcome) => ∃ w, Forcing.Yields host ⟨field, w⟩ outcome
  | _ => True

/-- The slot is as it was, or it was deferred and keeps an outcome now. -/
inductive Advances : Slot → Slot → Prop
  | same (slot : Slot) : Advances slot slot
  | forced (field : DeferredField) (outcome : Except Violation Field) :
      Advances (deferred field none) (deferred field (some outcome))

theorem Advances.trans {a b c : Slot} (h : a.Advances b) (h' : b.Advances c) : a.Advances c := by
  cases h with
  | same => exact h'
  | forced field outcome =>
    cases h'
    exact .forced field outcome

theorem Advances.outcome?_eq {a b : Slot} (h : a.Advances b) {outcome : Except Violation Field}
    (ha : a.outcome? = some outcome) : b.outcome? = some outcome := by
  cases h with
  | same => exact ha
  | forced => cases ha

theorem Advances.isForced {a b : Slot} (h : a.Advances b) (ha : a.isForced = true) :
    b.isForced = true := by
  cases h with
  | same => exact ha
  | forced => rfl

@[simp] theorem entry_ofEntry (entry : FieldEntry) : (ofEntry entry).entry = entry := by
  cases entry <;> rfl

@[simp] theorem forced?_ofEntry (entry : FieldEntry) : (ofEntry entry).forced? = none := by
  cases entry <;> rfl

theorem kept_ofEntry (host : Host W) (entry : FieldEntry) : (ofEntry entry).Kept host := by
  cases entry <;> trivial

theorem name_eq (slot : Slot) : slot.name = slot.entry.name := by
  cases slot <;> rfl

theorem sublist_forced (slots : List Slot) :
    ((slots.filterMap forced?).map DeferredField.name).Sublist (slots.map Slot.name) := by
  induction slots with
  | nil => exact .slnil
  | cons slot rest ih =>
    match slot with
    | defined field => exact ih.cons _
    | deferred field none => exact ih.cons _
    | deferred field (some outcome) => exact ih.cons_cons field.name

end Slot

namespace FieldMap

/-- The entries that the slots of a map were made of, under their names. -/
def entries (m : FieldMap) : Entries FieldEntry :=
  m.slots.map fun (name, slot) => (name, slot.entry)

/-- The deferred fields of a map that have been forced. -/
def forced (m : FieldMap) : List DeferredField :=
  m.slots.items.filterMap Slot.forced?

@[simp] theorem entries_ofEntries (entries : Entries FieldEntry) :
    (ofEntries entries).entries = entries := by
  simp [FieldMap.entries, ofEntries, Function.comp_def]

theorem forced_ofEntries (entries : Entries FieldEntry) : (ofEntries entries).forced = [] := by
  simp [forced, ofEntries, Entries.items]

end FieldMap

/-! ### Slots before and after -/

/-- Slots before and after some of them were forced, with the forcings in the order of the slots. -/
inductive SlotsForced (host : Host W) : Entries Slot → Entries Slot → List (Forcing W) → Prop
  | nil : SlotsForced host [] [] []
  | kept {rest rest' : Entries Slot} {fs : List (Forcing W)} (name : String) (slot : Slot)
      (h : SlotsForced host rest rest' fs) :
      SlotsForced host ((name, slot) :: rest) ((name, slot) :: rest') fs
  | forced {rest rest' : Entries Slot} {fs : List (Forcing W)} (name : String) (f : Forcing W)
      {outcome : Except Violation Field} (houtcome : f.Yields host outcome)
      (h : SlotsForced host rest rest' fs) :
      SlotsForced host ((name, .deferred f.field none) :: rest)
        ((name, .deferred f.field (some outcome)) :: rest') (f :: fs)

namespace SlotsForced

variable {host : Host W} {slots slots' : Entries Slot} {fs : List (Forcing W)}

theorem refl (host : Host W) : (slots : Entries Slot) → SlotsForced host slots slots []
  | [] => .nil
  | (name, slot) :: rest => .kept name slot (refl host rest)

theorem entries_eq (h : SlotsForced host slots slots' fs) :
    FieldMap.entries ⟨slots'⟩ = FieldMap.entries ⟨slots⟩ := by
  induction h with
  | nil => rfl
  | kept name slot h ih => simpa [FieldMap.entries] using ih
  | forced name f houtcome h ih => simpa [FieldMap.entries, Slot.entry] using ih

/-- The forced fields afterwards are those from before and those of the forcings. -/
theorem perm_forced (h : SlotsForced host slots slots' fs) :
    (slots'.items.filterMap Slot.forced?).Perm
      (slots.items.filterMap Slot.forced? ++ fs.map Forcing.field) := by
  induction h with
  | nil => exact .nil
  | kept name slot h ih =>
    cases hslot : slot.forced? with
    | none => simpa [Entries.items, hslot] using ih
    | some field => simpa [Entries.items, hslot] using ih
  | forced name f houtcome h ih =>
    simp only [Entries.items, List.map_cons, List.filterMap_cons, Slot.forced?] at ih ⊢
    exact (ih.cons f.field).trans List.perm_middle.symm

theorem kept_items (h : SlotsForced host slots slots' fs)
    (hkept : ∀ slot ∈ slots.items, slot.Kept host) : ∀ slot ∈ slots'.items, slot.Kept host := by
  induction h with
  | nil => exact hkept
  | kept name slot h ih =>
    simp only [Entries.items, List.map_cons, List.forall_mem_cons] at hkept ih ⊢
    exact ⟨hkept.1, ih hkept.2⟩
  | forced name f houtcome h ih =>
    simp only [Entries.items, List.map_cons, List.forall_mem_cons] at hkept ih ⊢
    exact ⟨⟨f.world, houtcome⟩, ih hkept.2⟩

end SlotsForced

/-! ### Maps that advance -/

namespace FieldMap

/-- The second map has the slots of the first under the same names, and each is as it was or has
been forced. -/
def Advances (m m' : FieldMap) : Prop :=
  List.Forall₂ (fun p q => p.1 = q.1 ∧ p.2.Advances q.2) m.slots m'.slots

variable {m m' : FieldMap}

theorem Advances.refl (m : FieldMap) : m.Advances m :=
  List.forall₂_same.mpr fun p _ => ⟨rfl, .same p.2⟩

theorem Advances.trans {m'' : FieldMap} (h : m.Advances m') (h' : m'.Advances m'') :
    m.Advances m'' :=
  Entries.forall₂_trans (fun _ _ _ => Slot.Advances.trans) h h'

/-- The slot of a name is as it was or has been forced, and a name without a slot stays one. -/
theorem Advances.slot? (h : m.Advances m') (name : String) :
    Option.Rel Slot.Advances (m.slot? name) (m'.slot? name) :=
  Entries.rel_get? h name

/-- A map in which all slots keep outcomes goes on keeping them. -/
theorem Advances.outcomes (h : m.Advances m') {outcomes : List (Except Violation Field)}
    (hall : m.slots.items.map Slot.outcome? = outcomes.map some) :
    m'.slots.items.map Slot.outcome? = outcomes.map some := by
  obtain ⟨slots⟩ := m
  obtain ⟨slots'⟩ := m'
  simp only [Advances] at h hall ⊢
  induction h generalizing outcomes with
  | nil => exact hall
  | cons hpair hrest ih =>
    cases outcomes with
    | nil => simp [Entries.items] at hall
    | cons outcome outcomes =>
      simp only [Entries.items, List.map_cons, List.cons.injEq] at hall ih ⊢
      exact ⟨hpair.2.outcome?_eq hall.1, ih hall.2⟩

end FieldMap

theorem SlotsForced.advances {host : Host W} {m m' : FieldMap} {fs : List (Forcing W)}
    (h : SlotsForced host m.slots m'.slots fs) : m.Advances m' := by
  obtain ⟨slots⟩ := m
  obtain ⟨slots'⟩ := m'
  simp only [FieldMap.Advances] at h ⊢
  induction h with
  | nil => exact .nil
  | kept name slot h ih => exact .cons ⟨rfl, .same slot⟩ ih
  | forced name f houtcome h ih => exact .cons ⟨rfl, .forced f.field _⟩ ih

/-! ### Forcing slots -/

/-- A slot that is forced keeps what it gives. Only a deferred slot that has not been forced before
makes calls, and those are the calls of one forcing. -/
theorem Slot.force_spec (host : Host W) (slot : Slot) (s : Store W) :
    ((slot.force host) s).1.2.outcome? = some ((slot.force host) s).1.1 ∧
      ((slot.force host) s).2.resolved = s.resolved ∧
      ((((slot.force host) s).1.2 = slot ∧
          ((slot.force host) s).2.declarationCalls = s.declarationCalls) ∨
        ∃ field outcome, slot = .deferred field none ∧
          ((slot.force host) s).1.2 = .deferred field (some outcome) ∧
          Forcing.Yields host ⟨field, s.world⟩ outcome ∧
          ((slot.force host) s).2.declarationCalls =
            s.declarationCalls ++ Forcing.calls host ⟨field, s.world⟩) := by
  match slot with
  | .defined field => exact ⟨rfl, rfl, .inl ⟨rfl, rfl⟩⟩
  | .deferred field (some outcome) => exact ⟨rfl, rfl, .inl ⟨rfl, rfl⟩⟩
  | .deferred field none =>
    obtain ⟨hyields, hcalls, hresolved⟩ := field.force_spec host s
    exact ⟨rfl, hresolved, .inr ⟨field, _, rfl, rfl, hyields, hcalls⟩⟩

namespace FieldMap

theorem forceSlots_cons_apply (host : Host W) (name : String) (slot : Slot) (rest : Entries Slot)
    (s : Store W) :
    forceSlots host ((name, slot) :: rest) s =
      let first := slot.force host s
      let others := forceSlots host rest first.2
      ((first.1.1 :: others.1.1, (name, first.1.2) :: others.1.2), others.2) := rfl

/-- Forcing all slots forces those that have not been forced, each once and in their order. -/
theorem forceSlots_spec (host : Host W) (slots : Entries Slot) :
    ∀ s : Store W,
      (forceSlots host slots s).1.2.items.map Slot.outcome? =
          (forceSlots host slots s).1.1.map some ∧
        (forceSlots host slots s).2.resolved = s.resolved ∧
        ∃ fs, SlotsForced host slots (forceSlots host slots s).1.2 fs ∧
          (forceSlots host slots s).2.declarationCalls =
            s.declarationCalls ++ fs.flatMap (Forcing.calls host) := by
  induction slots with
  | nil => exact fun s => ⟨rfl, rfl, [], .nil, (List.append_nil _).symm⟩
  | cons pair rest ih =>
    obtain ⟨name, slot⟩ := pair
    intro s
    rw [forceSlots_cons_apply]
    obtain ⟨hkeeps, hresolved, hslot⟩ := slot.force_spec host s
    obtain ⟨houtcomes, hresolved', fs, hforced, hcalls⟩ := ih (slot.force host s).2
    refine ⟨?_, hresolved'.trans hresolved, ?_⟩
    · simp only [Entries.items, List.map_cons] at houtcomes ⊢
      rw [hkeeps, houtcomes]
    · rcases hslot with ⟨hsame, hnone⟩ | ⟨field, outcome, rfl, hnow, hyields, hone⟩
      · refine ⟨fs, ?_, hcalls.trans (by rw [hnone])⟩
        dsimp only
        rw [hsame]
        exact .kept name slot hforced
      · refine ⟨⟨field, s.world⟩ :: fs, ?_, hcalls.trans ?_⟩
        · dsimp only
          rw [hnow]
          exact .forced name ⟨field, s.world⟩ hyields hforced
        · rw [hone, List.flatMap_cons, List.append_assoc]

/-- The names of forced fields are among the names of the slots, in their order, if each field has
the name of its slot. -/
theorem sublist_names :
    (slots : Entries Slot) → {outcomes : List (Except Violation Field)} →
      slots.items.map Slot.outcome? = outcomes.map some →
      (∀ p ∈ slots, ∀ f : Field, p.2.outcome? = some (.ok f) → f.name = p.1) →
      ((forcedFields outcomes).map fun f => f.name).Sublist slots.keys
  | [], [], _, _ => .slnil
  | (key, slot) :: rest, outcome :: outcomes, h, hname => by
    obtain ⟨hslot, hrest⟩ := List.cons.inj h
    have hfirst := hname _ List.mem_cons_self
    have hothers := sublist_names rest hrest fun p hp => hname p (List.mem_cons_of_mem _ hp)
    cases outcome with
    | error violation => exact hothers.cons key
    | ok f =>
      obtain rfl : f.name = key := hfirst f hslot
      exact hothers.cons_cons f.name

end FieldMap

/-- A slot that is found can be replaced by what it becomes when it is forced. -/
theorem SlotsForced.insert {host : Host W} {slot slot' : Slot} {name : String}
    {fs : List (Forcing W)} :
    (slots : Entries Slot) → slots.get? name = some slot →
      (∀ key, SlotsForced host [(key, slot)] [(key, slot')] fs) →
      SlotsForced host slots (slots.insert name slot') fs
  | [], h, _ => by cases h
  | (key, old) :: rest, h, hone => by
    rw [Entries.get?_cons] at h
    split_ifs at h with hname
    · obtain rfl := Option.some.inj h
      have hins : Entries.insert ((key, old) :: rest) name slot' = (key, slot') :: rest := by
        simp [Entries.insert, hname]
      rw [hins]
      cases hone key with
      | kept _ _ hnil =>
        cases hnil
        exact .kept key slot' (.refl host rest)
      | forced _ f houtcome hnil =>
        cases hnil
        exact .forced key f houtcome (.refl host rest)
    · have hne : ¬ key = name := fun e => hname e.symm
      have hins : Entries.insert ((key, old) :: rest) name slot' =
          (key, old) :: Entries.insert rest name slot' := by
        simp [Entries.insert, hne]
      rw [hins]
      exact .kept key old (insert rest h hone)

namespace FieldMap

variable {host : Host W} {m : FieldMap} {name : String}

theorem field_of_no_slot (h : m.slot? name = none) (s : Store W) :
    m.field host name s = ((.ok none, m), s) := by
  simp only [field, h]
  rfl

theorem field_of_slot {slot : Slot} (h : m.slot? name = some slot) (s : Store W) :
    m.field host name s =
      let forced := slot.force host s
      ((forced.1.1.map some, ⟨m.slots.insert name forced.1.2⟩), forced.2) := by
  simp only [field, h]
  rfl

end FieldMap

/-- Asking for the field of a name forces the slot of that name and no other. -/
theorem FieldMap.field_spec (host : Host W) (name : String) (m : FieldMap) (s : Store W) :
    ((m.field host name) s).2.resolved = s.resolved ∧
      ((m.slot? name = none ∧ (m.field host name) s = ((.ok none, m), s)) ∨
        ∃ slot slot' outcome, m.slot? name = some slot ∧
          ((m.field host name) s).1 =
            (outcome.map some, ⟨m.slots.insert name slot'⟩) ∧
          slot'.outcome? = some outcome) ∧
      ∃ fs, SlotsForced host m.slots ((m.field host name) s).1.2.slots fs ∧
        ((m.field host name) s).2.declarationCalls =
          s.declarationCalls ++ fs.flatMap (Forcing.calls host) := by
  cases hslot : m.slot? name with
  | none =>
    rw [field_of_no_slot hslot]
    exact ⟨rfl, .inl ⟨rfl, rfl⟩, [], .refl host m.slots, (List.append_nil _).symm⟩
  | some slot =>
    obtain ⟨hkeeps, hresolved, hforce⟩ := slot.force_spec host s
    rw [field_of_slot hslot]
    refine ⟨hresolved, .inr ⟨slot, _, _, rfl, rfl, hkeeps⟩, ?_⟩
    rcases hforce with ⟨hsame, hnone⟩ | ⟨field, outcome, rfl, hnow, hyields, hone⟩
    · refine ⟨[], SlotsForced.insert m.slots hslot fun key => ?_, ?_⟩
      · rw [hsame]
        exact .kept key slot .nil
      · exact hnone.trans (List.append_nil _).symm
    · refine ⟨[⟨field, s.world⟩], SlotsForced.insert m.slots hslot fun key => ?_, ?_⟩
      · rw [hnow]
        exact .forced key ⟨field, s.world⟩ hyields .nil
      · rw [hone, List.flatMap_singleton]

end Schemata
