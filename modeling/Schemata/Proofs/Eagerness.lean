import Schemata.Proofs.Deferral

/-!
# Deferred fields as if declared at once

The producer of a deferred field is asked for a declaration. As long as that is a producer again, it
is asked in turn, 32 times at most. The first declaration that is none is read under the name of the
field, on its type, as it would have been read if it had stood there from the start: it makes the
same field, or is refused for the same reason. Only the identity of a new field tells when it was
made.

## Main definitions

* `Schemata.Host.Asks`: the producers that are asked, and what the last one declares.
* `Schemata.DeferredField.Forced`: what forcing a deferred field comes to, and the store afterwards.

## Main results

* `Schemata.Host.Asks.run_forceWithin`: forcing asks the producers one by one.
* `Schemata.FieldEntry.declare_of_final`: what is no producer declares no deferred field.
* `Schemata.DeferredField.force_eager`: forcing is declaring what the producers lead to.
-/

namespace Schemata

variable {W : Type} {host : Host W}

/-! ### Asking producers -/

/-- The producer is asked, then the producer that it declared, and so on: the producers asked, what
the last of them declared, and the world afterwards. Such a sequence of calls may stop anywhere. -/
inductive Host.Asks (host : Host W) : Handle → W → List Handle → Config → W → Prop
  | once (producer : Handle) (w : W) :
      Asks host producer w [producer] (host.fieldOf producer w).1 (host.fieldOf producer w).2
  | again {producer next : Handle} {w w' : W} {producers : List Handle} {declared : Config}
      (hnext : (host.fieldOf producer w).1.asProducer? = some next)
      (hrest : Asks host next (host.fieldOf producer w).2 producers declared w') :
      Asks host producer w (producer :: producers) declared w'

/-- So many calls can be made, unless one of them declares something else than a producer. -/
theorem Host.exists_asks (host : Host W) (more : Nat) (producer : Handle) (w : W) :
    ∃ producers declared w', host.Asks producer w producers declared w' ∧
      producers.length ≤ more + 1 ∧
      (declared.asProducer? = none ∨
        producers.length = more + 1 ∧ declared.asProducer?.isSome) := by
  induction more generalizing producer w with
  | zero =>
    refine ⟨_, _, _, .once producer w, Nat.le_refl 1, ?_⟩
    cases (host.fieldOf producer w).1.asProducer? with
    | none => exact .inl rfl
    | some next => exact .inr ⟨rfl, rfl⟩
  | succ more ih =>
    cases hnext : (host.fieldOf producer w).1.asProducer? with
    | none => exact ⟨_, _, _, .once producer w, Nat.succ_le_succ (Nat.zero_le _), .inl hnext⟩
    | some next =>
      obtain ⟨producers, declared, w', hasks, hlength, hend⟩ := ih next (host.fieldOf producer w).2
      exact ⟨_, _, _, .again hnext hasks, Nat.succ_le_succ hlength,
        hend.imp_right fun ⟨hall, hmore⟩ => ⟨congrArg Nat.succ hall, hmore⟩⟩

/-! ### Entries of final declarations -/

/-- **What is no producer** makes a field under a name, or is refused; nothing is asked for it. -/
theorem FieldEntry.declare_of_final (typeName key : String) {value : Config}
    (hfinal : value.asProducer? = none) (s : Store W) :
    ∃ (outcome : Except Violation Field) (id : Nat),
      (declare typeName (.name key) value).run s = (outcome.map .defined, s.renumber id) ∧
        outcome.map (fun f => .defined f.toFieldSpecOf) =
          FieldDraft.declare typeName (.name key) value := by
  obtain ⟨hdraft, id, hid⟩ := declare_spec typeName (.name key) value s
  rcases hrun : (declare typeName (.name key) value).run s with ⟨v | f | d, s'⟩ <;>
    rw [hrun] at hdraft hid <;> subst hid
  · exact ⟨.error v, id, rfl, hdraft⟩
  · exact ⟨.ok f, id, rfl, hdraft⟩
  · have hproducer := (FieldDraft.declare_eq_deferred_iff.mp hdraft.symm).1
    rw [hfinal] at hproducer
    cases hproducer

/-! ### Forcing -/

namespace DeferredField

/-- The events of asking the given producers for the declaration of the field. -/
def events (d : DeferredField) (producers : List Handle) : List Event :=
  producers.flatMap fun producer => [.fieldForced d.parent d.name, .called (.fieldOf producer)]

/-- Goes on with what has been declared for the field. -/
def takeWithin (host : Host W) (deferrals : Nat) (d : DeferredField) (declared : Config) :
    Attempt W Violation Field := do
  match ← FieldEntry.declare d.parent (.name d.name) declared with
  | .defined field => return field
  | .deferred next => forceWithin host deferrals next

theorem run_forceWithin_succ (deferrals : Nat) (d : DeferredField) (s : Store W) :
    (forceWithin host (deferrals + 1) d).run s =
      (takeWithin host deferrals d (host.fieldOf d.producer s.world).1).run
        (s.after (d.events [d.producer]) (host.fieldOf d.producer s.world).2) := by
  have hasked : d.asked host s =
      s.after (d.events [d.producer]) (host.fieldOf d.producer s.world).2 := by
    rw [asked, Store.record_eq_after, Store.record_eq_after, Store.world_after, Store.after_after]
    rfl
  rw [forceWithin_succ_apply, hasked, takeWithin, Attempt.run_bind_apply]
  rcases (FieldEntry.declare d.parent (.name d.name) (host.fieldOf d.producer s.world).1).run
    (s.after (d.events [d.producer]) (host.fieldOf d.producer s.world).2) with
    ⟨v | f | next, s'⟩ <;> rfl

/-- A producer that is declared for the field is forced in its place. -/
theorem takeWithin_of_producer {declared : Config} {next : Handle}
    (hnext : declared.asProducer? = some next) (deferrals : Nat) (d : DeferredField) (s : Store W) :
    (takeWithin host deferrals d declared).run s =
      (forceWithin host deferrals { d with producer := next }).run s := by
  obtain rfl := Config.asProducer?_eq_some_iff.mp hnext
  rfl

theorem takeWithin_of_entry {declared : Config} {d : DeferredField} {s s' : Store W}
    {outcome : Except Violation Field}
    (hentry : (FieldEntry.declare d.parent (.name d.name) declared).run s =
      (outcome.map .defined, s')) (deferrals : Nat) :
    (takeWithin host deferrals d declared).run s = (outcome, s') := by
  rw [takeWithin, Attempt.run_bind_apply, hentry]
  cases outcome <;> rfl

end DeferredField

/-- **Forcing asks the producers one by one**, as long as it may, and goes on with what the last of
them has declared. -/
theorem Host.Asks.run_forceWithin {producer : Handle} {w w' : W} {producers : List Handle}
    {declared : Config} (h : host.Asks producer w producers declared w') (deferrals : Nat) :
    ∀ (d : DeferredField) (s : Store W), d.producer = producer → s.world = w →
      (d.forceWithin host (deferrals + producers.length)).run s =
        (d.takeWithin host deferrals declared).run (s.after (d.events producers) w') := by
  induction h with
  | once producer w =>
    rintro d s rfl rfl
    exact DeferredField.run_forceWithin_succ deferrals d s
  | @again producer next w w' producers declared hnext hrest ih =>
    rintro d s rfl rfl
    -- The field that is forced next differs in its producer only, which taking does not look at.
    have hnexts := ih { d with producer := next }
      (s.after (d.events [d.producer]) (host.fieldOf d.producer s.world).2) rfl rfl
    rw [List.length_cons, ← Nat.add_assoc, DeferredField.run_forceWithin_succ,
      DeferredField.takeWithin_of_producer hnext, hnexts, Store.after_after]
    rfl

/-- What forcing the deferred field from the store comes to: its outcome, and the store afterwards.
Nothing happens but that producers are asked; if a field is made, it gets an identity. -/
inductive DeferredField.Forced (host : Host W) (d : DeferredField) (s : Store W) :
    Except Violation Field × Store W → Prop
  /-- The 32nd producer declares a producer still. -/
  | exceeded {producers : List Handle} {declared : Config} {world : W}
      (hasks : host.Asks d.producer s.world producers declared world)
      (hlength : producers.length = 32) (hmore : declared.asProducer?.isSome) :
      Forced host d s (.error (.deferredFieldDepthExceeded d.parent d.name 32),
        s.after (d.events producers) world)
  /-- One of the first 32 producers declares something else, and that makes the entry. -/
  | declared {producers : List Handle} {declared : Config} {world : W}
      {outcome : Except Violation Field} {id : Nat}
      (hasks : host.Asks d.producer s.world producers declared world)
      (hlength : producers.length ≤ 32) (hfinal : declared.asProducer? = none)
      (hentry : (FieldEntry.declare d.parent (.name d.name) declared).run
        (s.after (d.events producers) world) =
          (outcome.map .defined, (s.after (d.events producers) world).renumber id)) :
      Forced host d s (outcome, (s.after (d.events producers) world).renumber id)

namespace DeferredField

theorem Forced.run_force {d : DeferredField} {s : Store W}
    {result : Except Violation Field × Store W} (h : d.Forced host s result) :
    (d.force host).run s = result := by
  cases h with
  | @exceeded producers declared world hasks hlength hmore =>
    obtain ⟨next, hnext⟩ := Option.isSome_iff_exists.mp hmore
    have hrun := hasks.run_forceWithin 0 d s rfl rfl
    rw [Nat.zero_add, hlength, takeWithin_of_producer hnext] at hrun
    exact hrun
  | @declared producers declared world outcome id hasks hlength hfinal hentry =>
    have hrun := hasks.run_forceWithin (32 - producers.length) d s rfl rfl
    rw [Nat.sub_add_cancel hlength, takeWithin_of_entry hentry] at hrun
    exact hrun

theorem exists_forced (host : Host W) (d : DeferredField) (s : Store W) :
    ∃ result, d.Forced host s result := by
  obtain ⟨producers, declared, world, hasks, hlength, hfinal | ⟨hall, hmore⟩⟩ :=
    host.exists_asks 31 d.producer s.world
  · obtain ⟨outcome, id, hentry, -⟩ :=
      FieldEntry.declare_of_final d.parent d.name hfinal (s.after (d.events producers) world)
    exact ⟨_, .declared hasks hlength hfinal hentry⟩
  · exact ⟨_, .exceeded hasks hall hmore⟩

/-- **Forcing a deferred field** declares what its producers lead to. Whatever the host answers,
forcing comes to an end, and it is the one described by `Forced`: each producer is asked once for
the next, until one declares something else or 32 have been asked. What is then declared makes the
same outcome as if it were declared under the name of the field on its type, in the store as it is
after the calls; in any other store it would make the same too, but for the identity of a new field.

The declaration of the deferred field is forced in the same way, and so is a slot that has not been
forced, which keeps the outcome. -/
theorem force_eager (host : Host W) (d : DeferredField) (s : Store W) :
    (∀ result, (d.force host).run s = result ↔ d.Forced host s result) ∧
      (∀ producers declared world, host.Asks d.producer s.world producers declared world →
        producers.length ≤ 32 → declared.asProducer? = none → ∀ s₁ : Store W,
          ((FieldEntry.declare d.parent (.name d.name) declared).run s₁).1.map FieldEntry.draft =
            ((d.force host).run s).1.map fun f => .defined f.toFieldSpecOf) ∧
      ((Declaration.deferred d.name d.producer).force host d.parent).run s =
        (d.force host).run s ∧
      (Slot.deferred d none).force host s =
        ((((d.force host).run s).1, .deferred d (some ((d.force host).run s).1)),
          ((d.force host).run s).2) := by
  obtain ⟨found, hfound⟩ := exists_forced host d s
  refine ⟨fun result => ⟨?_, Forced.run_force⟩, ?_, rfl, rfl⟩
  · rintro rfl
    rwa [hfound.run_force]
  · intro producers declared world hasks hlength hfinal s₁
    obtain ⟨outcome, id, hentry, houtcome⟩ :=
      FieldEntry.declare_of_final d.parent d.name hfinal (s.after (d.events producers) world)
    have hforced : d.Forced host s (outcome, (s.after (d.events producers) world).renumber id) :=
      .declared hasks hlength hfinal hentry
    rw [hforced.run_force, houtcome]
    exact (FieldEntry.declare_spec d.parent (.name d.name) declared s₁).1

end DeferredField

end Schemata
