import Schemata.Proofs.Draft

/-!
# Reading the fields of a type

Reading the set of fields of a type asks for the declarations of a deferred set, once, and drafts
them one after the other. No producer of a field is asked. What the outcome is depends on nothing
but the set and what its function has produced.

## Main definitions

* `Schemata.FieldSet.calls`: the calls that reading a set makes.
* `Schemata.FieldSet.drafts`: the drafts of a set whose function produces the given values.

## Main results

* `Schemata.FieldSet.read_spec`: reading a set.
* `Schemata.FieldSet.drafts_nodup`: the fields of a set have pairwise distinct names.
-/

namespace Schemata

variable {W : Type}

namespace FieldSet

/-- The calls that reading the set makes. -/
def calls : FieldSet → List Call
  | declared _ => []
  | deferred producer => [.fieldSetOf producer]

/-- The declarations that a produced value stands for. -/
def declarationsOf (typeName : String) : Config → Except Violation (List (FieldKey × Config))
  | .record entries => .ok (FieldKey.ofEntries entries)
  | .list items => .ok (FieldKey.ofList items)
  | other => .error (.fieldSetNotIterable typeName other.render)

/-- The drafts of a set whose function, if it has one, produces the given value. -/
def drafts (typeName : String) (produced : Handle → Config) :
    FieldSet → Except Violation (List FieldDraft)
  | declared declarations => FieldDraft.readAll typeName declarations
  | deferred producer =>
    declarationsOf typeName (produced producer) >>= FieldDraft.readAll typeName

theorem drafts_nodup {typeName : String} {produced : Handle → Config} {set : FieldSet}
    {ds : List FieldDraft} (h : set.drafts typeName produced = .ok ds) :
    (ds.map FieldDraft.name).Nodup := by
  cases set with
  | declared declarations => exact ((FieldDraft.readAll_eq_ok_iff _ _ _).mp h).2
  | deferred producer =>
    obtain ⟨declarations, -, h⟩ := Outcome.bind_eq_ok_iff.mp h
    exact ((FieldDraft.readAll_eq_ok_iff _ _ _).mp h).2

/-- The store after the function of a deferred set has been called. -/
def asked (host : Host W) (producer : Handle) (s : Store W) : Store W :=
  { s.record (.called (.fieldSetOf producer)) with
    world := (host.fieldSetOf producer s.world).2 }

theorem declarations_apply_deferred (host : Host W) (typeName : String) (producer : Handle)
    (s : Store W) :
    ((deferred producer).declarations host typeName).run s =
      (declarationsOf typeName (host.fieldSetOf producer s.world).1, asked host producer s) := by
  have hasked : Run.fieldSetOf host producer s =
      ((host.fieldSetOf producer s.world).1, asked host producer s) := rfl
  rw [declarations, Attempt.run_bind_apply, Attempt.run_ofRun_apply, hasked]
  dsimp only
  cases (host.fieldSetOf producer s.world).1 <;> rfl

/-- Reading, once the declarations are known. -/
theorem read_of_declarations (host : Host W) (typeName : String) (set : FieldSet) (s s' : Store W)
    (outcome : Except Violation (List (FieldKey × Config)))
    (h : (set.declarations host typeName).run s = (outcome, s')) :
    ((set.read host typeName).run s).1.map FieldEntry.drafts =
        (outcome >>= FieldDraft.readAll typeName).map FieldDraft.named ∧
      ((set.read host typeName).run s).2.declarationCalls = s'.declarationCalls ∧
      ((set.read host typeName).run s).2.resolved = s'.resolved := by
  rw [read, Attempt.run_bind_apply, h]
  cases outcome with
  | error v => exact ⟨rfl, rfl, rfl⟩
  | ok declarations =>
    obtain ⟨hdrafts, id, hid⟩ := readAfter_spec typeName declarations [] s'
    dsimp only
    rw [Attempt.run_bind_apply]
    rcases hread : (readAfter typeName [] declarations).run s' with ⟨v | entries, s''⟩ <;>
      rw [hread] at hdrafts hid <;> subst hid
    · exact ⟨hdrafts, rfl, rfl⟩
    · refine ⟨hdrafts, ?_, rfl⟩
      exact (Store.declarationCalls_record (s'.renumber id) _).trans (List.append_nil _)

/-- **Reading drafts what is declared.** The outcome of reading is, up to identities, the drafts of
the set under their names; the function of a deferred set is called once, and no producer of a field
is. -/
theorem read_spec (host : Host W) (typeName : String) (set : FieldSet) (s : Store W) :
    ((set.read host typeName).run s).1.map FieldEntry.drafts =
        (set.drafts typeName fun p => (host.fieldSetOf p s.world).1).map FieldDraft.named ∧
      ((set.read host typeName).run s).2.declarationCalls = s.declarationCalls ++ set.calls ∧
      ((set.read host typeName).run s).2.resolved = s.resolved := by
  cases set with
  | declared declarations =>
    obtain ⟨hdrafts, hcalls, hresolved⟩ :=
      read_of_declarations host typeName (declared declarations) s s (.ok declarations) rfl
    exact ⟨hdrafts, hcalls.trans (List.append_nil _).symm, hresolved⟩
  | deferred producer =>
    obtain ⟨hdrafts, hcalls, hresolved⟩ :=
      read_of_declarations host typeName (deferred producer) s _ _
        (declarations_apply_deferred host typeName producer s)
    refine ⟨hdrafts, hcalls.trans ?_, hresolved⟩
    exact Store.declarationCalls_record s (.called (.fieldSetOf producer))

end FieldSet

end Schemata
