import Schemata.Proofs.Draft

/-!
# Chains of producers

Forcing a deferred field asks its producer for a declaration; if that is a producer again, it is
asked in turn, and so on. The chain of a producer in a world of the host lists these calls with
what was declared at each. It is followed for at most as many calls as a field may be deferred, and
its last declaration is final if it is no producer.

Forcing a deferred field makes exactly the calls of the chain of its producer, in the world it
starts from, and its outcome is what the final declaration would have declared under the name of
the field from the start.

## Main definitions

* `Schemata.Production`: a call of a producer, with what it declared.
* `Schemata.Host.chain`: the calls that follow from asking a producer.
* `Schemata.Production.final?`: the declaration in which a chain ends.

## Main results

* `Schemata.DeferredField.forceWithin_spec`: forcing along the chain of the producer.
* `Schemata.Forcing.Yields`: what forcing a deferred field in some world gives.
-/

namespace Schemata

variable {W : Type}

/-- A call of a producer of a field, and what it declared. -/
structure Production where
  producer : Handle
  declared : Config

/-- The producer that a declared value is, if it is one. -/
def Config.asProducer? (value : Config) : Option Handle :=
  value.asCallableOf? .producer

/-- The calls that follow from asking a producer, at most so many, and the world after them. -/
def Host.chain (host : Host W) : Nat → Handle → W → List Production × W
  | 0, _, w => ([], w)
  | calls + 1, producer, w =>
    let (declared, w) := host.fieldOf producer w
    match declared.asProducer? with
    | none => ([{ producer, declared }], w)
    | some next =>
      let (rest, w) := host.chain calls next w
      ({ producer, declared } :: rest, w)

/-- The last declaration, unless it is a producer. -/
def Production.final? (chain : List Production) : Option Config :=
  (chain.getLast?.map Production.declared).filter fun declared => declared.asProducer?.isNone

theorem Production.final?_cons_of_producer {p : Production} {chain : List Production}
    (h : p.declared.asProducer?.isSome) : final? (p :: chain) = final? chain := by
  cases chain with
  | nil => simpa [final?, Option.filter, Option.isSome_iff_ne_none] using h
  | cons q rest => simp [final?, List.getLast?_cons_cons]

/-! ### Declarations under a name -/

theorem Config.asProducer?_eq_some_iff {value : Config} {producer : Handle} :
    value.asProducer? = some producer ↔ value = .callable ⟨.producer, producer⟩ := by
  cases value with
  | callable c =>
    obtain ⟨kind, handle⟩ := c
    cases kind <;> simp [asProducer?, asCallableOf?]
  | _ => simp [asProducer?, asCallableOf?]

theorem Declaration.asProducer?_of_classify {typeName key name : String} {value : Config}
    {producer : Handle} (h : classify typeName (.name key) value = .ok (.deferred name producer)) :
    value.asProducer? = some producer := by
  cases classified_of_classify h
  rfl

theorem Declaration.eq_deferred_of_draft {typeName : String} {d : Declaration}
    {field : DeferredField} (h : d.draft typeName = .ok (.deferred field)) :
    d = .deferred field.name field.producer ∧ field.parent = typeName := by
  cases d with
  | deferred name producer =>
    cases Except.ok.inj h
    exact ⟨rfl, rfl⟩
  | ready f => cases Except.ok.inj h
  | described r =>
    obtain ⟨spec, -, h⟩ := Outcome.map_eq_ok_iff.mp h
    cases h
  | shorthand name type =>
    rw [Declaration.draft, Outcome.map_eq_ok_iff] at h
    obtain ⟨spec, -, h⟩ := h
    cases h

/-- Under a name, producers and nothing else declare deferred fields. -/
theorem FieldDraft.declare_eq_deferred_iff {typeName key : String} {value : Config}
    {d : DeferredField} : declare typeName (.name key) value = .ok (.deferred d) ↔
      value.asProducer? = some d.producer ∧ d.name = key ∧ d.parent = typeName := by
  constructor
  · intro h
    have hname := name_of_declare h
    obtain ⟨declaration, hclassify, hdraft⟩ := Outcome.bind_eq_ok_iff.mp h
    obtain ⟨rfl, hparent⟩ := Declaration.eq_deferred_of_draft hdraft
    have hproducer := Declaration.asProducer?_of_classify hclassify
    obtain rfl := Config.asProducer?_eq_some_iff.mp hproducer
    exact ⟨hproducer, hname, hparent⟩
  · rintro ⟨hproducer, rfl, rfl⟩
    obtain rfl := Config.asProducer?_eq_some_iff.mp hproducer
    rfl

/-! ### Forcing -/

/-- The store in which the declaration of a deferred field is read, once its producer has given
it. -/
def DeferredField.asked (host : Host W) (d : DeferredField) (s : Store W) : Store W :=
  { (s.record (.fieldForced d.parent d.name)).record (.called (.fieldOf d.producer)) with
    world := (host.fieldOf d.producer s.world).2 }

theorem DeferredField.forceWithin_succ_apply (host : Host W) (deferrals : Nat) (d : DeferredField)
    (s : Store W) :
    (forceWithin host (deferrals + 1) d).run s =
      match (FieldEntry.declare d.parent (.name d.name) (host.fieldOf d.producer s.world).1).run
          (d.asked host s) with
      | (.ok (.defined f), s') => (.ok f, s')
      | (.ok (.deferred next), s') => (forceWithin host deferrals next).run s'
      | (.error v, s') => (.error v, s') := by
  have hasked : Run.fieldOf host d.producer
      (Run.record (.fieldForced d.parent d.name) s).2 =
        ((host.fieldOf d.producer s.world).1, d.asked host s) := rfl
  simp only [forceWithin, Attempt.run_bind_apply, Attempt.run_ofRun_apply, hasked]
  rcases (FieldEntry.declare d.parent (.name d.name) (host.fieldOf d.producer s.world).1).run
    (d.asked host s) with ⟨v | f | next, s'⟩ <;> rfl

theorem DeferredField.declarationCalls_asked (host : Host W) (d : DeferredField) (s : Store W) :
    (d.asked host s).declarationCalls = s.declarationCalls ++ [.fieldOf d.producer] := by
  change ((s.record (.fieldForced d.parent d.name)).record
    (.called (.fieldOf d.producer))).declarationCalls = _
  rw [Store.declarationCalls_record, Store.declarationCalls_record]
  simp [Event.declarationCall?]

/-- **Forcing makes the calls of one chain.** The calls are those of the chain of the producer from
the world as it is; the outcome is what the final declaration would have declared under the name of
the field, and without a final declaration the depth is exceeded. -/
theorem DeferredField.forceWithin_spec (host : Host W) (deferrals : Nat) :
    ∀ (d : DeferredField) (s : Store W),
      (match Production.final? (host.chain deferrals d.producer s.world).1 with
        | some declared =>
          ((forceWithin host deferrals d).run s).1.map (fun f => .defined f.toFieldSpecOf) =
            FieldDraft.declare d.parent (.name d.name) declared
        | none =>
          ((forceWithin host deferrals d).run s).1 =
            .error (.deferredFieldDepthExceeded d.parent d.name maxDeferrals)) ∧
      ((forceWithin host deferrals d).run s).2.declarationCalls = s.declarationCalls ++
        (host.chain deferrals d.producer s.world).1.map (fun p => .fieldOf p.producer) ∧
      ((forceWithin host deferrals d).run s).2.resolved = s.resolved := by
  induction deferrals with
  | zero =>
    intro d s
    exact ⟨rfl, (List.append_nil _).symm, rfl⟩
  | succ deferrals ih =>
    intro d s
    rw [forceWithin_succ_apply, Host.chain]
    generalize hvalue : (host.fieldOf d.producer s.world).1 = value
    cases hproducer : value.asProducer? with
    | none =>
      -- The declaration is final: it is drafted where the chain ends.
      have hfinal : Production.final? [⟨d.producer, value⟩] = some value := by
        simp [Production.final?, hproducer]
      obtain ⟨hdraft, id, hid⟩ :=
        FieldEntry.declare_spec d.parent (.name d.name) value (d.asked host s)
      simp only [hvalue, hproducer, hfinal, List.map_cons, List.map_nil,
        ← d.declarationCalls_asked host s]
      rcases hrun : (FieldEntry.declare d.parent (.name d.name) value).run (d.asked host s) with
        ⟨v | f | next, s'⟩ <;> rw [hrun] at hdraft hid <;> subst hid
      · exact ⟨hdraft, rfl, rfl⟩
      · exact ⟨hdraft, rfl, rfl⟩
      · have hdeferred := (FieldDraft.declare_eq_deferred_iff.mp hdraft.symm).1
        simp [hproducer] at hdeferred
    | some next =>
      -- The declaration is deferred again: the rest of the chain starts from the present store.
      obtain rfl := Config.asProducer?_eq_some_iff.mp hproducer
      have hrun : (FieldEntry.declare d.parent (.name d.name)
          (.callable ⟨.producer, next⟩)).run (d.asked host s) =
            (.ok (.deferred { name := d.name, parent := d.parent, producer := next }),
              d.asked host s) := rfl
      obtain ⟨houtcome, hcalls, hresolved⟩ :=
        ih { name := d.name, parent := d.parent, producer := next } (d.asked host s)
      have hworld : (d.asked host s).world = (host.fieldOf d.producer s.world).2 := rfl
      rw [hworld] at houtcome hcalls
      simp only [hvalue, hproducer, hrun, Production.final?_cons_of_producer
        (p := ⟨d.producer, .callable ⟨.producer, next⟩⟩) (by simp [hproducer])]
      refine ⟨houtcome, ?_, hresolved⟩
      rw [hcalls, d.declarationCalls_asked host s]
      simp

/-- A deferred field together with the world of the host in which it is forced. -/
structure Forcing (W : Type) where
  field : DeferredField
  world : W

namespace Forcing

/-- The calls made by forcing. -/
def chain (host : Host W) (f : Forcing W) : List Production :=
  (host.chain DeferredField.maxDeferrals f.field.producer f.world).1

/-- The calls made by forcing, as a journal has them. -/
def calls (host : Host W) (f : Forcing W) : List Call :=
  (f.chain host).map fun p => .fieldOf p.producer

/-- The outcome is what the final declaration of the chain declares under the name of the field, or
that the depth is exceeded. -/
def Yields (host : Host W) (f : Forcing W) (outcome : Except Violation Field) : Prop :=
  match Production.final? (f.chain host) with
  | some declared =>
    outcome.map (fun field => .defined field.toFieldSpecOf) =
      FieldDraft.declare f.field.parent (.name f.field.name) declared
  | none =>
    outcome = .error (.deferredFieldDepthExceeded f.field.parent f.field.name
      DeferredField.maxDeferrals)

/-- A forced field has the name that the final declaration of its chain gives it. -/
theorem Yields.name_eq {host : Host W} {f : Forcing W} {field : Field}
    (h : f.Yields host (.ok field)) : ∃ declared,
      Production.final? (f.chain host) = some declared ∧
        field.name = declared.fieldName f.field.name := by
  unfold Yields at h
  split at h
  · rename_i declared hfinal
    exact ⟨declared, hfinal, FieldDraft.name_of_declare h.symm⟩
  · cases h

end Forcing

/-- Forcing in a store is forcing in its world. -/
theorem DeferredField.force_spec (host : Host W) (d : DeferredField) (s : Store W) :
    Forcing.Yields host ⟨d, s.world⟩ ((d.force host).run s).1 ∧
      ((d.force host).run s).2.declarationCalls =
        s.declarationCalls ++ Forcing.calls host ⟨d, s.world⟩ ∧
      ((d.force host).run s).2.resolved = s.resolved :=
  forceWithin_spec host maxDeferrals d s

end Schemata
