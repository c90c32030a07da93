import Mathlib.Logic.Relation
import Schemata.Proofs.Stability

/-!
# The steps of making a schema

Whatever is read, forced or checked, the store changes by small steps: a function of the host is
called, an event is put into the journal, a field gets its identity, or a type is remembered in a
cell that was empty. What survives each of these steps survives all work on a schema.

## Main definitions

* `Schemata.Store.Step`, `Schemata.Store.Leads`: one step, and any number of them.
* `Schemata.Steady`: an invariant that survives every step.

## Main results

* `Schemata.Steady.preserves_fieldMap`, `Schemata.Steady.preserves_forceSlots`: reading and forcing.
* `Schemata.Store.Leads.keeps`: no step forgets a type.
* `Schemata.Steady.stable`, `Schemata.AboutCells.steady`: steady invariants survive checks, and so
  do invariants of the remembered types alone.
-/

namespace Schemata

variable {W α ε : Type} {host : Host W} {types : TypeLookup} {I : Store W → Prop}

/-- A step of the work on a schema, in which references are resolved against the given types. -/
inductive Store.Step (host : Host W) (types : TypeLookup) (s : Store W) : Store W → Prop
  | typeOf (h : Handle) : Step host types s (Run.typeOf host h s).2
  | fieldOf (h : Handle) : Step host types s (Run.fieldOf host h s).2
  | fieldSetOf (h : Handle) : Step host types s (Run.fieldSetOf host h s).2
  | record (e : Event) : Step host types s (s.record e)
  | freshId : Step host types s (Run.freshId s).2
  /-- A type is remembered where none was, and is one that the reference resolves to. -/
  | remember (cell : Cell) (type : ResolvedType) (hempty : s.resolved? cell = none)
      (htype : cell.ref.MayResolveTo host types type) : Step host types s (s.remember cell type)

/-- The first store becomes the second by such steps. -/
def Store.Leads (host : Host W) (types : TypeLookup) : Store W → Store W → Prop :=
  Relation.ReflTransGen (Store.Step host types)

/-- An invariant that survives every step. -/
def Steady (host : Host W) (types : TypeLookup) (I : Store W → Prop) : Prop :=
  ∀ s s', s.Step host types s' → I s → I s'

theorem Store.steady_leads (s : Store W) : Steady host types (s.Leads host types) :=
  fun _ _ hstep hleads => hleads.tail hstep

theorem Store.steady_keeps (s : Store W) : Steady host types s.Keeps := by
  intro s₁ s₂ hstep hkeeps
  cases hstep with
  | remember cell type hempty htype => exact hkeeps.trans (keeps_remember hempty type)
  | _ => exact hkeeps

theorem AboutCells.steady (hI : AboutCells host types I) : Steady host types I := by
  intro s s' hstep hs
  cases hstep with
  | remember cell type hempty htype => exact hI.remember cell type s hempty htype hs
  | _ => exact hI.of_resolved_eq s _ rfl hs

namespace Steady

variable (hI : Steady host types I)
include hI

theorem of_leads {s s' : Store W} (h : s.Leads host types s') (hs : I s) : I s' := by
  induction h with
  | refl => exact hs
  | tail _ hstep ih => exact hI _ _ hstep ih

theorem stable : Stable host types I where
  typeOf h s := hI s _ (.typeOf h)
  record _ _ s := hI s _ (.record _)
  remember cell type s hempty htype := hI s _ (.remember cell type hempty htype)

/-! ### Reading -/

theorem preserves_record (e : Event) : Run.Preserves I (Run.record e) :=
  fun s => hI s _ (.record e)

theorem preserves_toEntry (typeName : String) (d : Declaration) :
    Run.Preserves I (d.toEntry typeName : Attempt W Violation FieldEntry).run := by
  have hmake : ∀ spec, Run.Preserves I (Run.makeField spec) := by
    intro spec s hs
    exact hI s _ .freshId hs
  have hrecord : ∀ r, Run.Preserves I
      (Declaration.entryOfRecord typeName r : Attempt W Violation FieldEntry).run := by
    intro r
    refine Attempt.preserves_bind (Attempt.preserves_ofExcept _) fun spec => ?_
    exact Attempt.preserves_bind (hmake spec) fun _ _ hs => hs
  cases d with
  | deferred name producer => exact fun _ hs => hs
  | ready f => exact fun _ hs => hs
  | described r => exact hrecord r
  | shorthand name type => exact hrecord _

theorem preserves_declare (typeName : String) (key : FieldKey) (value : Config) :
    Run.Preserves I (FieldEntry.declare typeName key value : Attempt W Violation FieldEntry).run :=
  Attempt.preserves_bind (Attempt.preserves_ofExcept _) fun d => hI.preserves_toEntry typeName d

theorem preserves_readAfter (typeName : String) (declarations : List (FieldKey × Config)) :
    ∀ entries, Run.Preserves I (FieldSet.readAfter typeName entries declarations :
      Attempt W Violation (Entries FieldEntry)).run := by
  induction declarations with
  | nil => exact fun _ _ hs => hs
  | cons declaration rest ih =>
    obtain ⟨key, value⟩ := declaration
    intro entries
    refine Attempt.preserves_bind (hI.preserves_declare typeName key value) fun entry => ?_
    exact Attempt.preserves_bind (Attempt.preserves_require _ _) fun _ => ih _

theorem preserves_read (typeName : String) (set : FieldSet) :
    Run.Preserves I (set.read host typeName).run := by
  have hdeclarations : Run.Preserves I (set.declarations host typeName).run := by
    cases set with
    | declared declarations => exact fun _ hs => hs
    | deferred producer =>
      have hcall : Run.Preserves I (Run.fieldSetOf host producer) :=
        fun s => hI s _ (.fieldSetOf producer)
      refine Attempt.preserves_bind hcall fun produced => ?_
      cases produced <;> exact fun _ hs => hs
  refine Attempt.preserves_bind hdeclarations fun declarations => ?_
  refine Attempt.preserves_bind (hI.preserves_readAfter typeName declarations []) fun entries => ?_
  exact Attempt.preserves_bind (hI.preserves_record _) fun _ _ hs => hs

/-- Reading the fields of a type leaves steady invariants in place. -/
theorem preserves_fieldMap (c : Composite) : Run.Preserves I (c.fieldMap host) := by
  unfold Composite.fieldMap
  split
  · exact fun _ hs => hs
  · exact (hI.preserves_read c.name c.fieldSet).bind fun _ _ hs => hs

/-! ### Forcing -/

theorem preserves_forceWithin (deferrals : Nat) :
    ∀ d : DeferredField, Run.Preserves I (DeferredField.forceWithin host deferrals d).run := by
  induction deferrals with
  | zero => exact fun _ _ hs => hs
  | succ deferrals ih =>
    intro d
    have hcall : Run.Preserves I (Run.fieldOf host d.producer) :=
      fun s => hI s _ (.fieldOf d.producer)
    refine Attempt.preserves_bind (hI.preserves_record _) fun _ => ?_
    refine Attempt.preserves_bind hcall fun value => ?_
    refine Attempt.preserves_bind (hI.preserves_declare d.parent (.name d.name) value) fun entry => ?_
    cases entry with
    | defined field => exact fun _ hs => hs
    | deferred next => exact ih next

theorem preserves_forceSlot (slot : Slot) : Run.Preserves I (slot.force host) := by
  match slot with
  | .defined field => exact fun _ hs => hs
  | .deferred field (some outcome) => exact fun _ hs => hs
  | .deferred field none =>
    exact Run.Preserves.bind (hI.preserves_forceWithin _ field) fun _ _ hs => hs

/-- Forcing slots leaves steady invariants in place. -/
theorem preserves_forceSlots (slots : Entries Slot) :
    Run.Preserves I (FieldMap.forceSlots host slots) := by
  induction slots with
  | nil => exact fun _ hs => hs
  | cons pair rest ih =>
    obtain ⟨name, slot⟩ := pair
    exact (hI.preserves_forceSlot slot).bind fun _ => ih.bind fun _ _ hs => hs

end Steady

/-- Steps forget nothing. -/
theorem Store.Leads.keeps {s s' : Store W} (h : s.Leads host types s') : s.Keeps s' :=
  s.steady_keeps.of_leads h (.refl s)

end Schemata
