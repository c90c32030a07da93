import Schemata.Proofs.Accounting
import Schemata.Proofs.Declaring
import Schemata.Proofs.Eagerness

/-!
# Fields declared once more

A field keeps the descriptor that it was made from, as it was when the field was made: with the name
set, and written out if the field was declared by a bare type. This descriptor is a normal form.
Declared once more on the same type it is accepted, under whatever key it stands and however many
functions of the host lead to it, and it makes a field of the same content. The key has no say, for
the descriptor brings a name; and no check can refuse now what it has accepted before. Only the
identity of the field is new, so that no type is remembered for it.

## Main definitions

* `Schemata.FieldSpec.IsNormal`: contents that their own descriptor declares.
* `Schemata.Field.Redeclares`: declaring the descriptor of the field makes the field again.

## Main results

* `Schemata.FieldSpec.isNormal_of_declare`: what a descriptor or a bare type declares is normal.
* `Schemata.FieldSpec.IsNormal.redeclares`: normal contents are declared again.
* `Schemata.Field.redeclared`: the fields that reading a set and forcing a slot make.
-/

namespace Schemata

variable {W : Type} {host : Host W} {typeName : String}

/-- The value is a field that is ready, and declares itself. -/
def Config.IsReady (value : Config) : Prop :=
  ∃ f, value = .field f

namespace FieldSpec

/-- The descriptor of the content brings the name, has arguments that can be read if it has any, and
describes just this content. -/
structure IsNormal (typeName : String) (spec : FieldSpec) : Prop where
  named : Record.getString? spec.source Key.name = some spec.name
  structured : Declaration.checkArgs typeName spec.source = .ok ()
  described : ofRecord typeName spec.source = .ok spec

/-- A descriptor with a name and with arguments that can be read makes a normal content, if it makes
one. -/
theorem isNormal_of_ofRecord {r : Record} {name : String} {spec : FieldSpec}
    (hnamed : r.getString? Key.name = some name)
    (hstructured : Declaration.checkArgs typeName r = .ok ())
    (h : ofRecord typeName r = .ok spec) : IsNormal typeName spec := by
  obtain rfl := source_of_ofRecord h
  have hname := name_of_ofRecord h
  rw [hnamed, Option.getD_some] at hname
  exact ⟨hname ▸ hnamed, hstructured, h⟩

theorem isNormal_of_shorthand {name : String} {type : Config} {spec : FieldSpec}
    (h : ofRecord typeName (Declaration.shorthandRecord name type) = .ok spec) :
    IsNormal typeName spec :=
  isNormal_of_ofRecord rfl rfl h

end FieldSpec

namespace Declaration

variable {key : FieldKey} {value : Config}

theorem eq_field_of_classify {f : Field} (h : classify typeName key value = .ok (ready f)) :
    value = .field f := by
  cases classified_of_classify h
  rfl

/-- The descriptor of a declaration has a name, and arguments that can be read if it has any. -/
theorem named_of_classify {r : Record} (h : classify typeName key value = .ok (described r)) :
    (∃ name, r.getString? Key.name = some name) ∧ checkArgs typeName r = .ok () := by
  cases classified_of_classify h with
  | described hnamed hcheck => exact ⟨⟨_, getString?_of_nameRecord hnamed⟩, hcheck⟩

end Declaration

namespace FieldSpec

/-- **What a descriptor or a bare type declares** is normal. -/
theorem isNormal_of_declare {key : FieldKey} {value : Config} {spec : FieldSpec}
    (h : FieldDraft.declare typeName key value = .ok (.defined spec)) (hready : ¬ value.IsReady) :
    IsNormal typeName spec := by
  obtain ⟨d, hclassify, hdraft⟩ := Outcome.bind_eq_ok_iff.mp h
  -- A ready field keeps the descriptor of the type that it was made on, which may be another one.
  cases d with
  | deferred name producer => cases hdraft
  | ready f => exact absurd ⟨f, Declaration.eq_field_of_classify hclassify⟩ hready
  | described r =>
    obtain ⟨_, hspec, hsame⟩ := Outcome.map_eq_ok_iff.mp hdraft
    cases hsame
    obtain ⟨⟨name, hnamed⟩, hstructured⟩ := Declaration.named_of_classify hclassify
    exact isNormal_of_ofRecord hnamed hstructured hspec
  | shorthand name type =>
    rw [Declaration.draft, Outcome.map_eq_ok_iff] at hdraft
    obtain ⟨_, hspec, hsame⟩ := hdraft
    cases hsame
    exact isNormal_of_shorthand hspec

namespace IsNormal

variable {spec : FieldSpec}

/-- The descriptor is taken as it is, whatever the key. -/
theorem classify_eq (h : IsNormal typeName spec) (key : FieldKey) :
    Declaration.classify typeName key (.record spec.source) = .ok (.described spec.source) := by
  have hname : Declaration.nameRecord typeName key spec.source = .ok spec.source := by
    unfold Declaration.nameRecord
    rw [h.named]
  exact (Declaration.Classified.described hname h.structured).classify_eq

/-- **A normal content is declared again**, and the next identity is given to it. -/
theorem run_declare (h : IsNormal typeName spec) (key : FieldKey) (s : Store W) :
    (FieldEntry.declare typeName key (.record spec.source)).run s =
      (.ok (.defined { spec with id := s.nextId }), s.renumber (s.nextId + 1)) := by
  rw [FieldEntry.declare, h.classify_eq key, Attempt.run_bind_apply, Attempt.run_ofExcept_apply]
  change (Declaration.entryOfRecord typeName spec.source).run s = _
  rw [Declaration.entryOfRecord, h.described]
  rfl

/-- It is also declared again by functions of the host that lead to its descriptor. -/
theorem run_force (h : IsNormal typeName spec) {d : DeferredField} (hparent : d.parent = typeName)
    {s : Store W} {producers : List Handle} {world : W}
    (hasks : host.Asks d.producer s.world producers (.record spec.source) world)
    (hlength : producers.length ≤ 32) :
    (d.force host).run s = (.ok { spec with id := s.nextId },
      (s.after (d.events producers) world).renumber (s.nextId + 1)) := by
  subst hparent
  have hentry := h.run_declare (.name d.name) (s.after (d.events producers) world)
  exact DeferredField.Forced.run_force (.declared hasks hlength rfl hentry)

end IsNormal

end FieldSpec

namespace Field

/-- Declaring the descriptor of the field once more on the type makes a field that differs in
nothing but its identity, in whatever store and with whatever host. -/
structure Redeclares (typeName : String) (f : Field) : Prop where
  /-- Under any name and at any position. -/
  declared : ∀ {W : Type} (key : FieldKey) (s : Store W),
    (FieldEntry.declare typeName key (.record f.source)).run s =
      (.ok (.defined { f with id := s.nextId }), s.renumber (s.nextId + 1))
  /-- Under any name, by functions of the host that lead to the descriptor. -/
  forced : ∀ {W : Type} (host : Host W) (d : DeferredField) (s : Store W) (producers : List Handle)
    (world : W), d.parent = typeName →
      host.Asks d.producer s.world producers (.record f.source) world → producers.length ≤ 32 →
      (Slot.deferred d none).force host s =
        ((.ok { f with id := s.nextId }, .deferred d (some (.ok { f with id := s.nextId }))),
          (s.after (d.events producers) world).renumber (s.nextId + 1))

theorem redeclares_of_isNormal {f : Field} (h : FieldSpec.IsNormal typeName f.toFieldSpecOf) :
    f.Redeclares typeName where
  declared key s := h.run_declare key s
  forced host d s producers world hparent hasks hlength := by
    rw [Slot.force, Run.bind_apply, h.run_force hparent hasks hlength]
    rfl

/-- A field that an entry has, and that was not ready, is declared again. -/
theorem redeclares_of_run {key : FieldKey} {value : Config} {f : Field} {s s' : Store W}
    (h : (FieldEntry.declare typeName key value).run s = (.ok (.defined f), s')) :
    value.IsReady ∨ f.Redeclares typeName := by
  by_cases hready : value.IsReady
  · exact .inl hready
  · exact .inr (redeclares_of_isNormal
      (FieldSpec.isNormal_of_declare (FieldEntry.draft_of_run h) hready))

/-- **The descriptor that a field keeps is a normal form.** Take any field that is made when a set
of fields is read, or when a deferred field is forced, on a type and from a descriptor or a bare
type. Declaring on that type the descriptor that the field keeps, under any name, at any position,
or by functions of the host under any name, is never refused, and it makes a field of the same
content.
The only difference is that the new field has the next identity. In a store that remembers types
only for fields that were made before, none is remembered for it. -/
theorem redeclared (host : Host W) (typeName : String) :
    (∀ (set : FieldSet) (s s' : Store W) (entries : Entries FieldEntry),
      (set.read host typeName).run s = (.ok entries, s') →
        ∃ declarations, set.Declares (host.answersIn s.world) declarations ∧
          List.Forall₂ (fun d item => ∀ f, item.2 = .defined f →
            d.2.IsReady ∨ f.Redeclares typeName) declarations entries) ∧
      (∀ (d : DeferredField) (s : Store W) (f : Field), d.parent = typeName →
        ((Slot.deferred d none).force host s).1.1 = .ok f →
          ∃ producers declared world, host.Asks d.producer s.world producers declared world ∧
            declared.asProducer? = none ∧ (declared.IsReady ∨ f.Redeclares typeName)) ∧
      ∀ (s : Store W), s.Numbered → ∀ ref, s.resolved? ⟨s.nextId, ref⟩ = none := by
  refine ⟨fun set s s' entries hread => ?_, fun d s f hparent hforced => ?_, fun s hs ref => ?_⟩
  · obtain ⟨⟨outcome, s₁⟩, hreading⟩ := FieldSet.exists_reading host typeName set s
    obtain ⟨rfl, rfl⟩ := Prod.mk.inj (hreading.run_read.symm.trans hread)
    cases hreading with
    | complete hdeclares hreads =>
      refine ⟨_, hdeclares, hreads.forall₂.imp ?_⟩
      rintro d item ⟨-, s₁, s₂, hentry⟩ f hdefined
      rw [hdefined] at hentry
      exact redeclares_of_run hentry
  · obtain ⟨⟨outcome, s'⟩, hresult⟩ := DeferredField.exists_forced host d s
    have hrun := hresult.run_force
    obtain rfl : outcome = .ok f := (congrArg Prod.fst hrun).symm.trans hforced
    cases hresult with
    | declared hasks hlength hfinal hentry =>
      subst hparent
      exact ⟨_, _, _, hasks, hfinal, redeclares_of_run hentry⟩
  · cases hfound : s.resolved? ⟨s.nextId, ref⟩ with
    | none => rfl
    | some type => exact absurd (hs _ type hfound) (Nat.lt_irrefl s.nextId)

/-- The deferred field `size` of a box. -/
def deferredSize : DeferredField where
  name := "size"
  parent := "Box"
  producer := ⟨0⟩

/-- The answers of a host whose producers of fields all declare a type alone. -/
def sizeOracle : Oracle where
  typeOf _ := .named "Int"
  fieldOf _ := .string "Int"
  fieldSetOf _ := .record []

/-- The first field that is made for that name and that type. -/
def size : Field where
  name := "size"
  arguments := []
  typeRef := some (.named "Int")
  resolution := .standard
  estimator := none
  description := none
  deprecationReason := none
  source := [(Key.name, .string "size"), (Key.type, .string "Int")]
  id := 0

theorem redeclared_size :
    let s : Store Unit := .start ()
    (((FieldSet.declared [(.name "size", .string "Int")]).read sizeOracle.host "Box").run s).1 =
        .ok [("size", .defined size)] ∧
      ((Slot.deferred deferredSize none).force sizeOracle.host s).1.1 = .ok size ∧
      (∃ producers declared world, sizeOracle.host.Asks ⟨0⟩ s.world producers declared world ∧
        declared.asProducer? = none ∧ (declared.IsReady ∨ size.Redeclares "Box")) ∧
      s.Numbered ∧ s.resolved? ⟨s.nextId, .named "Int"⟩ = none ∧ size.Redeclares "Box" := by
  intro s
  obtain ⟨hread, hforced, hfresh⟩ := redeclared sizeOracle.host "Box"
  have hnumbered : s.Numbered := Store.numbered_start ()
  obtain ⟨declarations, hdeclares, hentries⟩ :=
    hread (.declared [(.name "size", .string "Int")]) s _ _ rfl
  refine ⟨rfl, rfl, hforced deferredSize s size rfl rfl, hnumbered, hfresh s hnumbered _, ?_⟩
  cases hdeclares
  obtain - | ⟨hsize, -⟩ := hentries
  rcases hsize size rfl with ⟨f, hready⟩ | hagain
  · cases hready
  · exact hagain

end Field

end Schemata
