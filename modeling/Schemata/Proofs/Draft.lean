import Mathlib.Data.List.Forall2
import Schemata.Field.Map
import Schemata.Proofs.Effects

/-!
# What declarations declare

A declaration on a type makes an entry of a field map, and nothing but the identity of the field of
that entry depends on the store. The draft of an entry is the entry without that identity, and
drafting is a plain function of the name of the type, the key and the declared value.

The name of a drafted field can be read off the declared value: a record that brings a text for a
name and a field that is ready name themselves, and everything else is named by its key.

## Main definitions

* `Schemata.FieldDraft`: entries of field maps without identities, with `declare` and `readAll`.
* `Schemata.Config.fieldName`: the name that a declared value gives to its field.
* `Schemata.Declaration.Classified`: the declarations that values make under keys.

## Main results

* `Schemata.FieldEntry.declare_spec`, `Schemata.FieldSet.readAfter_spec`: declaring and reading are
  drafting, up to identities.
* `Schemata.FieldDraft.name_of_declare`: the name of a drafted field.
* `Schemata.FieldDraft.readAll_eq_ok_iff`: drafts are read of declarations that can be drafted one
  by one, under pairwise distinct names.
-/

namespace Schemata

variable {W : Type}

/-- An entry of a field map without the identity of its field. -/
inductive FieldDraft where
  | defined (spec : FieldSpec)
  | deferred (field : DeferredField)

/-- The draft of an entry. -/
def FieldEntry.draft : FieldEntry → FieldDraft
  | defined field => .defined field.toFieldSpecOf
  | deferred field => .deferred field

namespace FieldDraft

/-- The name of the field of a draft. -/
def name : FieldDraft → String
  | defined spec => spec.name
  | deferred field => field.name

@[simp] theorem name_draft (entry : FieldEntry) : entry.draft.name = entry.name := by
  cases entry <;> rfl

end FieldDraft

/-- The draft of the entry that a declaration makes on the type named `typeName`. -/
def Declaration.draft (typeName : String) : Declaration → Except Violation FieldDraft
  | deferred name producer => .ok (.deferred { name, parent := typeName, producer })
  | ready field => .ok (.defined field.toFieldSpecOf)
  | described r => (FieldSpec.ofRecord typeName r).map .defined
  | shorthand name type =>
    (FieldSpec.ofRecord typeName (shorthandRecord name type)).map .defined

namespace FieldDraft

/-- The draft of the entry that a value declares under a key, on the type named `typeName`. -/
def declare (typeName : String) (key : FieldKey) (value : Config) : Except Violation FieldDraft :=
  Declaration.classify typeName key value >>= Declaration.draft typeName

/-- The drafts of the declarations, up to the first one that has none or takes a name that is
taken. -/
def readAfter (typeName : String) :
    (taken : List String) → List (FieldKey × Config) → Except Violation (List FieldDraft)
  | _, [] => .ok []
  | taken, (key, value) :: rest =>
    match declare typeName key value with
    | .error violation => .error violation
    | .ok draft =>
      if draft.name ∈ taken then .error (.duplicateFieldDefinition typeName draft.name)
      else (readAfter typeName (taken ++ [draft.name]) rest).map (draft :: ·)

/-- The drafts of all declarations of a type. -/
def readAll (typeName : String) (declarations : List (FieldKey × Config)) :
    Except Violation (List FieldDraft) :=
  readAfter typeName [] declarations

end FieldDraft

/-! ### Declaring is drafting -/

/-- The store with another identity for the next field made. -/
def Store.renumber (s : Store W) (id : Nat) : Store W :=
  { s with nextId := id }

/-- A new field has the content of its record, and only the next identity changes. -/
theorem Declaration.entryOfRecord_spec (typeName : String) (r : Record) (s : Store W) :
    ((entryOfRecord typeName r).run s).1.map FieldEntry.draft =
        (FieldSpec.ofRecord typeName r).map .defined ∧
      ∃ id, ((entryOfRecord typeName r).run s).2 = s.renumber id := by
  rw [entryOfRecord, Attempt.run_bind_apply, Attempt.run_ofExcept_apply]
  cases FieldSpec.ofRecord typeName r with
  | error v => exact ⟨rfl, s.nextId, rfl⟩
  | ok spec => exact ⟨rfl, s.nextId + 1, rfl⟩

theorem Declaration.toEntry_spec (typeName : String) (d : Declaration) (s : Store W) :
    ((d.toEntry typeName).run s).1.map FieldEntry.draft = d.draft typeName ∧
      ∃ id, ((d.toEntry typeName).run s).2 = s.renumber id := by
  cases d with
  | deferred name producer => exact ⟨rfl, s.nextId, rfl⟩
  | ready field => exact ⟨rfl, s.nextId, rfl⟩
  | described r => exact entryOfRecord_spec typeName r s
  | shorthand name type => exact entryOfRecord_spec typeName (shorthandRecord name type) s

/-- **Declaring is drafting**, up to the identity of the field. -/
theorem FieldEntry.declare_spec (typeName : String) (key : FieldKey) (value : Config)
    (s : Store W) :
    ((declare typeName key value).run s).1.map FieldEntry.draft =
        FieldDraft.declare typeName key value ∧
      ∃ id, ((declare typeName key value).run s).2 = s.renumber id := by
  rw [declare, Attempt.run_bind_apply, Attempt.run_ofExcept_apply, FieldDraft.declare]
  cases Declaration.classify typeName key value with
  | error v => exact ⟨rfl, s.nextId, rfl⟩
  | ok d => exact d.toEntry_spec typeName s

/-- The drafts of entries, under the names of the entries. -/
def FieldEntry.drafts (entries : Entries FieldEntry) : Entries FieldDraft :=
  entries.map fun (name, entry) => (name, entry.draft)

/-- Drafts under their own names. -/
def FieldDraft.named (drafts : List FieldDraft) : Entries FieldDraft :=
  drafts.map fun draft => (draft.name, draft)

theorem FieldEntry.keys_drafts (entries : Entries FieldEntry) :
    Entries.keys (drafts entries) = Entries.keys entries := by
  simp [drafts, Entries.keys]

/-- **Reading is drafting**, up to the identities of the fields: the entries read so far stay, and
the drafts of the others follow under their own names. -/
theorem FieldSet.readAfter_spec (typeName : String) (declarations : List (FieldKey × Config)) :
    ∀ (entries : Entries FieldEntry) (s : Store W),
      ((readAfter typeName entries declarations).run s).1.map FieldEntry.drafts =
          (FieldDraft.readAfter typeName (Entries.keys entries) declarations).map
            (fun drafts => FieldEntry.drafts entries ++ FieldDraft.named drafts) ∧
        ∃ id, ((readAfter typeName entries declarations).run s).2 = s.renumber id := by
  induction declarations with
  | nil => exact fun entries s => ⟨by simp [readAfter, FieldDraft.readAfter, FieldDraft.named,
      Attempt.run_pure_apply, Except.map], s.nextId, rfl⟩
  | cons declaration rest ih =>
    obtain ⟨key, value⟩ := declaration
    intro entries s
    obtain ⟨hdraft, id, hid⟩ := FieldEntry.declare_spec typeName key value s
    rw [readAfter, Attempt.run_bind_apply, FieldDraft.readAfter, ← hdraft]
    rcases hd : (FieldEntry.declare typeName key value).run s with ⟨v | entry, s'⟩
    · rw [hd] at hid
      exact ⟨rfl, id, hid⟩
    · rw [hd] at hid
      obtain rfl : s' = s.renumber id := hid
      simp only [Attempt.run_bind_apply, Attempt.run_require_apply, Except.map,
        FieldDraft.name_draft]
      by_cases hmem : entry.name ∈ Entries.keys entries
      · have hc : entries.contains entry.name = true :=
          (Entries.contains_iff_mem_keys entries entry.name).mpr hmem
        simp only [hc, hmem, if_true]
        exact ⟨rfl, id, rfl⟩
      · have hc : entries.contains entry.name = false :=
          Bool.eq_false_iff.mpr fun h =>
            hmem ((Entries.contains_iff_mem_keys entries entry.name).mp h)
        obtain ⟨hrest, id', hid'⟩ := ih (entries.insert entry.name entry) (s.renumber id)
        simp only [hc, hmem, if_false, Bool.not_false, if_true]
        refine ⟨hrest.trans ?_, id', hid'⟩
        have hinsert : entries.insert entry.name entry = entries ++ [(entry.name, entry)] :=
          Entries.insert_of_not_contains entries entry.name entry hc
        have hkeys : Entries.keys (entries ++ [(entry.name, entry)]) =
            Entries.keys entries ++ [entry.name] := by
          simp [Entries.keys]
        rw [hinsert, hkeys]
        cases FieldDraft.readAfter typeName (Entries.keys entries ++ [entry.name]) rest with
        | error v => rfl
        | ok drafts =>
          simp [Except.map, FieldEntry.drafts, FieldDraft.named]

/-! ### What drafting accepts -/

namespace FieldDraft

theorem readAfter_eq_ok_iff (typeName : String) (declarations : List (FieldKey × Config)) :
    ∀ (taken : List String) (drafts : List FieldDraft),
      readAfter typeName taken declarations = .ok drafts ↔
        List.Forall₂ (fun declaration draft =>
            declare typeName declaration.1 declaration.2 = .ok draft) declarations drafts ∧
          (drafts.map name).Nodup ∧ ∀ draft ∈ drafts, draft.name ∉ taken := by
  induction declarations with
  | nil =>
    intro taken drafts
    simp only [readAfter, List.forall₂_nil_left_iff, Except.ok.injEq]
    constructor
    · rintro rfl
      simp
    · rintro ⟨rfl, -⟩
      rfl
  | cons declaration rest ih =>
    obtain ⟨key, value⟩ := declaration
    intro taken drafts
    rw [readAfter]
    cases hd : declare typeName key value with
    | error v =>
      simp only [reduceCtorEq, false_iff, not_and]
      rintro (_ | ⟨h, -⟩)
      simp [hd] at h
    | ok draft =>
      simp only
      split_ifs with hmem
      · simp only [false_iff, not_and]
        rintro (_ | ⟨h, -⟩) - hfree
        obtain rfl := Except.ok.inj (hd.symm.trans h)
        exact hfree _ List.mem_cons_self hmem
      · rw [Outcome.map_eq_ok_iff]
        constructor
        · rintro ⟨others, hothers, rfl⟩
          obtain ⟨hall, hnodup, hfree⟩ := (ih _ _).mp hothers
          refine ⟨.cons hd hall, ?_, ?_⟩
          · refine List.nodup_cons.mpr ⟨fun h => ?_, hnodup⟩
            obtain ⟨other, hother, hname⟩ := List.mem_map.mp h
            exact hfree other hother (by simp [hname])
          · intro other hother
            rcases List.mem_cons.mp hother with rfl | hother
            · exact hmem
            · exact fun h => hfree other hother (List.mem_append_left _ h)
        · rintro ⟨_ | ⟨h, hall⟩, hnodup, hfree⟩
          obtain rfl := Except.ok.inj (hd.symm.trans h)
          obtain ⟨hnew, hnodup⟩ := List.nodup_cons.mp hnodup
          refine ⟨_, (ih _ _).mpr ⟨hall, hnodup, fun other hother h => ?_⟩, rfl⟩
          rcases List.mem_append.mp h with h | h
          · exact hfree other (List.mem_cons_of_mem _ hother) h
          · exact hnew (List.mem_map.mpr ⟨other, hother, List.mem_singleton.mp h⟩)

/-- **What reading accepts.** The drafts of a type are those of its declarations, each of which has
one, under pairwise distinct names. -/
theorem readAll_eq_ok_iff (typeName : String) (declarations : List (FieldKey × Config))
    (drafts : List FieldDraft) :
    readAll typeName declarations = .ok drafts ↔
      List.Forall₂ (fun declaration draft =>
          declare typeName declaration.1 declaration.2 = .ok draft) declarations drafts ∧
        (drafts.map name).Nodup := by
  simp [readAll, readAfter_eq_ok_iff]

end FieldDraft

/-! ### The names of drafted fields -/

/-- The name that a value brings for the field that it declares: a text under the key for names, or
the name of a field that is ready. -/
def Config.ownName? : Config → Option String
  | .record r => Record.getString? r Key.name
  | .field f => some f.name
  | _ => none

/-- The name that a value gives to the field that it declares under a key: its own, if it brings
one. -/
def Config.fieldName (key : String) (value : Config) : String :=
  value.ownName?.getD key

theorem FieldSpec.name_of_ofRecord {parent : String} {r : Record} {spec : FieldSpec}
    (h : FieldSpec.ofRecord parent r = .ok spec) :
    spec.name = (r.getString? Key.name).getD "" := by
  obtain ⟨arguments, -, h⟩ := Outcome.bind_eq_ok_iff.mp h
  obtain ⟨resolution, -, h⟩ := Outcome.bind_eq_ok_iff.mp h
  exact (Except.ok.inj h) ▸ rfl

theorem FieldSpec.source_of_ofRecord {parent : String} {r : Record} {spec : FieldSpec}
    (h : FieldSpec.ofRecord parent r = .ok spec) : spec.source = r := by
  obtain ⟨arguments, -, h⟩ := Outcome.bind_eq_ok_iff.mp h
  obtain ⟨resolution, -, h⟩ := Outcome.bind_eq_ok_iff.mp h
  exact (Except.ok.inj h) ▸ rfl

/-- The declaration that a value makes under a key, if it makes one on the type named `typeName`. -/
inductive Declaration.Classified (typeName : String) : FieldKey → Config → Declaration → Prop
  /-- A record is a descriptor, once its name is set. -/
  | described {key : FieldKey} {r named : Record} (hname : nameRecord typeName key r = .ok named)
      (hargs : checkArgs typeName named = .ok ()) :
      Classified typeName key (.record r) (.described named)
  | ready (key : FieldKey) (f : Field) : Classified typeName key (.field f) (.ready f)
  | deferred (name : String) (producer : Handle) :
      Classified typeName (.name name) (.callable ⟨.producer, producer⟩) (.deferred name producer)
  /-- Any other value that declares something is a bare type. -/
  | shorthand (name : String) {type : Config} (hrecord : ∀ r, type ≠ .record r)
      (hfield : ∀ f, type ≠ .field f) (hproducer : ∀ handle, type ≠ .callable ⟨.producer, handle⟩)
      (hvoid : type.isVoid = false) : Classified typeName (.name name) type (.shorthand name type)

theorem Declaration.classified_of_classify {typeName : String} {key : FieldKey} {value : Config}
    {d : Declaration} (h : classify typeName key value = .ok d) :
    Classified typeName key value d := by
  cases value with
  | record r =>
    obtain ⟨named, hnamed, h⟩ := Outcome.bind_eq_ok_iff.mp h
    obtain ⟨_, hcheck, h⟩ := Outcome.bind_eq_ok_iff.mp h
    obtain rfl := Except.ok.inj h
    exact .described hnamed hcheck
  | field f =>
    obtain rfl := Except.ok.inj h
    exact .ready key f
  | callable c =>
    obtain ⟨kind, producer⟩ := c
    cases key with
    | name name =>
      cases kind with
      | producer =>
        obtain rfl := Except.ok.inj h
        exact .deferred name producer
      | _ =>
        obtain rfl := Except.ok.inj h
        exact .shorthand name nofun nofun nofun rfl
    | position index => cases kind <;> cases h
  | _ =>
    cases key with
    | name name =>
      simp only [classify] at h
      split_ifs at h with hvoid
      obtain rfl := Except.ok.inj h
      exact .shorthand name nofun nofun nofun (Bool.eq_false_iff.mpr hvoid)
    | position index => cases h

theorem Declaration.Classified.classify_eq {typeName : String} {key : FieldKey} {value : Config}
    {d : Declaration} (h : Classified typeName key value d) :
    classify typeName key value = .ok d := by
  cases h with
  | described hname hargs =>
    simp only [classify, hname]
    change (checkArgs typeName _ >>= _) = _
    rw [hargs]
    rfl
  | ready f => rfl
  | deferred name producer => rfl
  | shorthand name hrecord hfield hproducer hvoid =>
    cases value with
    | record r => exact (hrecord r rfl).elim
    | field f => exact (hfield f rfl).elim
    | callable c =>
      obtain ⟨kind, handle⟩ := c
      cases kind with
      | producer => exact (hproducer handle rfl).elim
      | _ => rfl
    | _ => simp only [classify, hvoid, Bool.false_eq_true, if_false]

theorem Declaration.getString?_of_nameRecord {typeName : String} {key : FieldKey}
    {r named : Record} (h : nameRecord typeName key r = .ok named) :
    named.getString? Key.name = some ((r.getString? Key.name).getD key.text) := by
  unfold nameRecord at h
  cases hr : r.getString? Key.name with
  | some own =>
    simp only [hr, Except.ok.injEq] at h
    rw [← h, hr]
    rfl
  | none =>
    cases key with
    | name key =>
      simp only [hr, Except.ok.injEq] at h
      subst h
      simp [Record.getString?, Entries.get?_insert, Config.asString?, FieldKey.text]
    | position index =>
      simp only [hr] at h
      cases h

/-- The name of the field of a declaration. -/
def Declaration.fieldName : Declaration → String
  | deferred name _ => name
  | described r => (r.getString? Key.name).getD ""
  | ready field => field.name
  | shorthand name _ => name

theorem Declaration.name_of_draft {typeName : String} {d : Declaration} {draft : FieldDraft}
    (h : d.draft typeName = .ok draft) : draft.name = d.fieldName := by
  cases d with
  | deferred name producer =>
    obtain rfl := Except.ok.inj h
    rfl
  | ready field =>
    obtain rfl := Except.ok.inj h
    rfl
  | described r =>
    obtain ⟨spec, hspec, rfl⟩ := Outcome.map_eq_ok_iff.mp h
    exact FieldSpec.name_of_ofRecord hspec
  | shorthand name type =>
    rw [Declaration.draft, Outcome.map_eq_ok_iff] at h
    obtain ⟨spec, hspec, rfl⟩ := h
    exact FieldSpec.name_of_ofRecord hspec

theorem Declaration.fieldName_of_classify {typeName : String} {key : FieldKey} {value : Config}
    {d : Declaration} (h : classify typeName key value = .ok d) :
    d.fieldName = value.fieldName key.text := by
  cases classified_of_classify h with
  | described hnamed _ =>
    rw [fieldName, getString?_of_nameRecord hnamed]
    rfl
  | ready f => rfl
  | deferred name producer => rfl
  | shorthand name hrecord hfield _ _ =>
    cases value with
    | record r => exact (hrecord r rfl).elim
    | field f => exact (hfield f rfl).elim
    | _ => rfl

/-- The name of the field that a value declares. -/
theorem FieldDraft.name_of_declare {typeName : String} {key : FieldKey} {value : Config}
    {draft : FieldDraft} (h : declare typeName key value = .ok draft) :
    draft.name = value.fieldName key.text := by
  obtain ⟨d, hclassify, hdraft⟩ := Outcome.bind_eq_ok_iff.mp h
  rw [Declaration.name_of_draft hdraft, Declaration.fieldName_of_classify hclassify]

end Schemata
