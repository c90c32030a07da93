import Mathlib.Logic.Relation
import Schemata.Proofs.Declaring

/-!
# Ways of saying the same

The fields of a type can be given in several forms. Declarations can be listed, or a function of the
host can produce them. Under a name, a bare type is short for the descriptor of that name and that
type, and a descriptor need not repeat the name that it stands under. All these forms come to the
same: the same entries in the same order, or the same violation.

An entry is made from a declaration with nothing of the store but the next identity. So it does not
matter that a function of the host has been called before, and all that is left of it is that it
was called and what it did to the world of the host.

## Main definitions

* `Schemata.Attempt.Counts`: attempts that use nothing of the store but the next identity.
* `Schemata.Config.Rephrased`: a declaration and its full form under a key.
* `Schemata.FieldSet.Rephrases`: two forms of a set of fields.

## Main results

* `Schemata.Config.Rephrased.declare_eq`: a declaration and its full form make the same entry.
* `Schemata.FieldSet.counts_readAfter`: reading declarations uses nothing but the next identity.
* `Schemata.FieldSet.read_rephrased`: all forms of a set are read alike.
-/

namespace Schemata

variable {W : Type} {ε α β : Type}

/-! ### Attempts that count -/

/-- Nothing of the store matters to the attempt but the next identity, and nothing else of it is
changed. -/
def Attempt.Counts (m : Attempt W ε α) : Prop :=
  ∀ s s' : Store W, s.nextId = s'.nextId → (m.run s).1 = (m.run s').1 ∧
    ∃ id, (m.run s).2 = s.renumber id ∧ (m.run s').2 = s'.renumber id

namespace Attempt

theorem counts_ofExcept (outcome : Except ε α) : (ofExcept outcome : Attempt W ε α).Counts :=
  fun s _ hid => ⟨rfl, s.nextId, rfl, by rw [hid]; rfl⟩

theorem counts_pure (a : α) : (pure a : Attempt W ε α).Counts :=
  counts_ofExcept (.ok a)

theorem counts_require (condition : Bool) (reason : ε) :
    (require condition reason : Attempt W ε Unit).Counts :=
  counts_ofExcept _

theorem counts_makeField (spec : FieldSpec) :
    (ofRun (Run.makeField spec) : Attempt W ε Field).Counts := fun s s' hid => by
  refine ⟨?_, s.nextId + 1, rfl, by rw [hid]; rfl⟩
  change Except.ok _ = Except.ok _
  rw [hid]

theorem Counts.bind {m : Attempt W ε α} {f : α → Attempt W ε β} (hm : m.Counts)
    (hf : ∀ a, (f a).Counts) : (m >>= f).Counts := by
  intro s s' hid
  obtain ⟨hout, id, hs, hs'⟩ := hm s s' hid
  rw [run_bind_apply, run_bind_apply]
  rcases hrun : m.run s with ⟨outcome, s₁⟩
  rcases hrun' : m.run s' with ⟨outcome', s₁'⟩
  rw [hrun, hrun'] at hout
  obtain rfl : outcome = outcome' := hout
  obtain rfl : s₁ = s.renumber id := by rw [← hs, hrun]
  obtain rfl : s₁' = s'.renumber id := by rw [← hs', hrun']
  cases outcome with
  | error e => exact ⟨rfl, id, rfl, rfl⟩
  | ok a => exact hf a (s.renumber id) (s'.renumber id) rfl

end Attempt

theorem Declaration.counts_toEntry (typeName : String) (d : Declaration) :
    (d.toEntry typeName : Attempt W Violation FieldEntry).Counts := by
  have hrecord : ∀ r : Record,
      (entryOfRecord typeName r : Attempt W Violation FieldEntry).Counts := fun r =>
    (Attempt.counts_ofExcept _).bind fun spec =>
      (Attempt.counts_makeField spec).bind fun _ => Attempt.counts_pure _
  cases d with
  | deferred name producer => exact Attempt.counts_pure _
  | ready field => exact Attempt.counts_pure _
  | described r => exact hrecord r
  | shorthand name type => exact hrecord _

theorem FieldEntry.counts_declare (typeName : String) (key : FieldKey) (value : Config) :
    (declare typeName key value : Attempt W Violation FieldEntry).Counts :=
  (Attempt.counts_ofExcept _).bind fun d => d.counts_toEntry typeName

/-- Reading declarations uses nothing of the store but the next identity. -/
theorem FieldSet.counts_readAfter (typeName : String) (declarations : List (FieldKey × Config)) :
    ∀ entries : Entries FieldEntry,
      (readAfter typeName entries declarations : Attempt W Violation _).Counts := by
  induction declarations with
  | nil => exact fun entries => Attempt.counts_pure entries
  | cons d rest ih =>
    exact fun entries => (FieldEntry.counts_declare typeName d.1 d.2).bind fun entry =>
      (Attempt.counts_require _ _).bind fun _ => ih _

/-! ### Declarations and their full forms -/

/-- The value declares a field by its type alone, if it stands under a name. -/
structure Config.IsBare (value : Config) : Prop where
  notRecord : ∀ r, value ≠ .record r
  notField : ∀ f, value ≠ .field f
  notProducer : ∀ handle, value ≠ .callable ⟨.producer, handle⟩
  notVoid : value.isVoid = false

/-- The second value is a full form of the first under the key. -/
inductive Config.Rephrased : FieldKey → Config → Config → Prop
  /-- A bare type is short for the descriptor with that type and the name. -/
  | described (name : String) {type : Config} (hbare : type.IsBare) :
      Rephrased (.name name) type (.record (Declaration.shorthandRecord name type))
  /-- A descriptor without a text for a name has the name that it stands under. -/
  | named (name : String) {r : Record} (hnameless : r.getString? Key.name = none) :
      Rephrased (.name name) (.record r) (.record (Entries.insert r Key.name (.string name)))

namespace Declaration

variable {typeName name : String}

theorem classify_of_bare {type : Config} (h : type.IsBare) :
    classify typeName (.name name) type = .ok (shorthand name type) :=
  (Classified.shorthand name h.notRecord h.notField h.notProducer h.notVoid).classify_eq

theorem classify_shorthandRecord (typeName name : String) (key : FieldKey) (type : Config) :
    classify typeName key (.record (shorthandRecord name type)) =
      .ok (described (shorthandRecord name type)) := by
  cases key <;> rfl

/-- Setting the name that is set anyway changes nothing. -/
theorem classify_insert_name {r : Record} (hnameless : r.getString? Key.name = none) :
    classify typeName (.name name) (.record (Entries.insert r Key.name (.string name))) =
      classify typeName (.name name) (.record r) := by
  have hname : Record.getString? (Entries.insert r Key.name (.string name)) Key.name =
      some name := by
    rw [Record.getString?, Entries.get?_insert, if_pos rfl]
    rfl
  simp only [classify, nameRecord, hnameless, hname]

end Declaration

/-- **A declaration and its full form make the same entry**, or are refused for the same reason. -/
theorem Config.Rephrased.declare_eq {key : FieldKey} {value value' : Config}
    (h : Rephrased key value value') (typeName : String) :
    (FieldEntry.declare typeName key value : Attempt W Violation FieldEntry) =
      FieldEntry.declare typeName key value' := by
  unfold FieldEntry.declare
  cases h with
  | described name hbare =>
    rw [Declaration.classify_of_bare hbare, Declaration.classify_shorthandRecord]
    rfl
  | named name hnameless => rw [Declaration.classify_insert_name hnameless]

/-! ### Sets and their forms -/

namespace Store

variable {s s' : Store W}

/-- What the store shows beside the world of the host and the calls of its functions: the next
identity, the remembered types, and the lines of the log. -/
def face (s : Store W) : Nat × List (Cell × ResolvedType) × List String :=
  (s.nextId, s.resolved, s.journal.toList.filterMap Event.logLine?)

theorem face_renumber (h : s.face = s'.face) (id : Nat) :
    (s.renumber id).face = (s'.renumber id).face := by
  obtain ⟨-, hrest⟩ := Prod.mk.inj h
  exact Prod.ext rfl hrest

theorem face_record (h : s.face = s'.face) (e : Event) :
    (s.record e).face = (s'.record e).face := by
  simp only [face, record, Prod.mk.injEq, Array.toList_push, List.filterMap_append] at h ⊢
  exact ⟨h.1, h.2.1, by rw [h.2.2]⟩

theorem face_called (s : Store W) (c : Call) (world : W) :
    (s.after [.called c] world).face = s.face := by
  simp [face, after, Event.logLine?]

end Store

namespace FieldSet

variable {host : Host W} {typeName : String} {set set' : FieldSet} {s : Store W}
  {declarations declarations' : List (FieldKey × Config)}

/-- The second set says the same in another form, if the host answers as the oracle says. -/
inductive Rephrases (oracle : Oracle) : FieldSet → FieldSet → Prop
  /-- The host produces the declarations, as a record or as a list. -/
  | produced {declarations : List (FieldKey × Config)} {producer : Handle}
      (h : (deferred producer).Declares oracle declarations) :
      Rephrases oracle (declared declarations) (deferred producer)
  /-- Any of the declarations are in their full form. -/
  | rephrased {declarations declarations' : List (FieldKey × Config)}
      (h : List.Forall₂ (fun d d' => d.1 = d'.1 ∧ (d.2 = d'.2 ∨ Config.Rephrased d.1 d.2 d'.2))
        declarations declarations') :
      Rephrases oracle (declared declarations) (declared declarations')

theorem readAfter_congr
    (h : List.Forall₂ (fun d d' => d.1 = d'.1 ∧ (d.2 = d'.2 ∨ Config.Rephrased d.1 d.2 d'.2))
      declarations declarations') :
    ∀ entries : Entries FieldEntry, (readAfter typeName entries declarations : Attempt W _ _) =
      readAfter typeName entries declarations' := by
  induction h with
  | nil => exact fun _ => rfl
  | @cons d d' rest rest' hd hrest ih =>
    obtain ⟨key, value⟩ := d
    obtain ⟨key', value'⟩ := d'
    obtain ⟨rfl, hvalue⟩ : key = key' ∧ _ := hd
    have hentry : (FieldEntry.declare typeName key value : Attempt W _ _) =
        FieldEntry.declare typeName key value' := by
      rcases hvalue with rfl | hvalue
      · rfl
      · exact hvalue.declare_eq typeName
    intro entries
    simp only [readAfter, hentry, ih]

/-- Sets with the same declarations are read alike, wherever these come from. -/
theorem read_of_declares (h : set.Declares (host.answersIn s.world) declarations)
    (h' : set'.Declares (host.answersIn s.world) declarations) :
    ((set.read host typeName).run s).1 = ((set'.read host typeName).run s).1 ∧
      ((set.read host typeName).run s).2.face = ((set'.read host typeName).run s).2.face := by
  have hface : ∀ set : FieldSet, (set.consulted host s).face = s.face := fun set => by
    cases set with
    | declared declarations => rfl
    | deferred producer => exact s.face_called _ _
  have hsame : (set.consulted host s).face = (set'.consulted host s).face :=
    (hface set).trans (hface set').symm
  obtain ⟨hout, id, hs, hs'⟩ := counts_readAfter typeName declarations []
    (set.consulted host s) (set'.consulted host s) (Prod.mk.inj hsame).1
  rw [h.run_read, h'.run_read]
  rcases hrun : (readAfter typeName [] declarations).run (set.consulted host s) with ⟨outcome, s₁⟩
  rcases hrun' : (readAfter typeName [] declarations).run (set'.consulted host s) with
    ⟨outcome', s₁'⟩
  rw [hrun, hrun'] at hout
  obtain rfl : outcome = outcome' := hout
  obtain rfl : s₁ = (set.consulted host s).renumber id := by rw [← hs, hrun]
  obtain rfl : s₁' = (set'.consulted host s).renumber id := by rw [← hs', hrun']
  cases outcome with
  | error violation => exact ⟨rfl, Store.face_renumber hsame id⟩
  | ok entries => exact ⟨rfl, Store.face_record (Store.face_renumber hsame id) _⟩

theorem read_of_rephrases (h : Rephrases (host.answersIn s.world) set set') :
    ((set.read host typeName).run s).1 = ((set'.read host typeName).run s).1 ∧
      ((set.read host typeName).run s).2.face = ((set'.read host typeName).run s).2.face := by
  cases h with
  | produced h => exact read_of_declares (.declared _) h
  | @rephrased declarations declarations' h =>
    have hread : (declared declarations).read host typeName =
        (declared declarations').read host typeName := by
      unfold read
      rw [FieldSet.declarations, FieldSet.declarations, pure_bind, pure_bind, readAfter_congr h]
    rw [hread]
    exact ⟨rfl, rfl⟩

/-- **All forms of a set of fields are read alike.** Take sets that can be turned into each other by
any number of steps in either direction. A step turns declarations into a function of the host that
produces them, as a record or as a list, or it puts any of the declarations into their full form: a
bare type under a name into the descriptor with this name and this type, or a descriptor that
brings no text for a name into the one that has the name set.

Reading the sets comes to the same entries under the same names and in the same order, or to the
same violation. It leaves the same identities, remembered types and lines in the log. -/
theorem read_rephrased (host : Host W) (typeName : String) {set set' : FieldSet} {s : Store W}
    (h : Relation.EqvGen (Rephrases (host.answersIn s.world)) set set') :
    ((set.read host typeName).run s).1 = ((set'.read host typeName).run s).1 ∧
      ((set.read host typeName).run s).2.face = ((set'.read host typeName).run s).2.face := by
  induction h with
  | rel set set' h => exact read_of_rephrases h
  | refl set => exact ⟨rfl, rfl⟩
  | symm set set' _ ih => exact ⟨ih.1.symm, ih.2.symm⟩
  | trans set set' set'' _ _ ih ih' => exact ⟨ih.1.trans ih'.1, ih.2.trans ih'.2⟩

/-- A bare type, and a descriptor that leaves the name to its key. -/
def boxFields : List (FieldKey × Config) :=
  [(.name "size", .string "Int"), (.name "label", .record [(Key.type, .string "String")])]

/-- The full forms of these declarations. -/
def fullBoxFields : Record :=
  [("size", .record [(Key.name, .string "size"), (Key.type, .string "Int")]),
    ("label", .record [(Key.type, .string "String"), (Key.name, .string "label")])]

/-- The answers of a host that produces the full forms. -/
def boxOracle : Oracle where
  typeOf _ := .named "Int"
  fieldOf _ := .null
  fieldSetOf _ := .record fullBoxFields

theorem read_rephrased_box :
    let s : Store Unit := .start ()
    Relation.EqvGen (Rephrases (boxOracle.host.answersIn s.world)) (declared boxFields)
        (deferred ⟨0⟩) ∧
      (((deferred ⟨0⟩).read boxOracle.host "Box").run s).1.map Entries.keys =
        .ok ["size", "label"] ∧
      (((declared boxFields).read boxOracle.host "Box").run s).1 =
        (((deferred ⟨0⟩).read boxOracle.host "Box").run s).1 ∧
      (((declared boxFields).read boxOracle.host "Box").run s).2.face =
        (((deferred ⟨0⟩).read boxOracle.host "Box").run s).2.face := by
  intro s
  have hbare : Config.IsBare (.string "Int") :=
    ⟨fun _ => nofun, fun _ => nofun, fun _ => nofun, by decide⟩
  have hfull : Rephrases (boxOracle.host.answersIn s.world) (declared boxFields)
      (declared (FieldKey.ofEntries fullBoxFields)) :=
    .rephrased (.cons ⟨rfl, .inr (.described "size" hbare)⟩
      (.cons ⟨rfl, .inr (.named "label" rfl)⟩ .nil))
  have hforms : Relation.EqvGen (Rephrases (boxOracle.host.answersIn s.world)) (declared boxFields)
      (deferred ⟨0⟩) :=
    .trans _ _ _ (.rel _ _ hfull) (.rel _ _ (.produced (.record rfl)))
  exact ⟨hforms, rfl, read_rephrased boxOracle.host "Box" hforms⟩

end FieldSet

end Schemata
