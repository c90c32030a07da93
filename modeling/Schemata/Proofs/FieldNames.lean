import Schemata.Proofs.References

/-!
# The names of forced fields

The slots of a type stand under the names that their fields were declared with. A deferred field is
declared under the name of its slot, but what its producer declares in the end may bring a name of
its own, and then the field has that name and not the name of its slot. The map is not changed: the
field stays where it is, even if another slot has its name.

## Main definitions

* `Schemata.Slot.KeepsName`: what was declared for the slot in the end brings no other name.
* `Schemata.Composite.NamesFields`: where the names of fields and of slots agree.

## Main results

* `Schemata.Composite.Kept.name_eq_iff`: a forced field has the name of its slot exactly if the slot
  keeps its name.
* `Schemata.Host.forced_names`: the fields of types, of maps that were forced and of schemas.
-/

namespace Schemata

variable {W : Type} {host : Host W}

/-- What was declared in the end for the field of the slot brings no name other than the one that
the slot stands under. Only for deferred fields is anything left to be declared. -/
def Slot.KeepsName (host : Host W) : Slot → Prop
  | defined _ => True
  | deferred field forced => ∀ outcome, forced = some outcome → ∃ w declared,
      Forcing.Yields host ⟨field, w⟩ outcome ∧
        Production.final? (Forcing.chain host ⟨field, w⟩) = some declared ∧
        ∀ name, declared.ownName? = some name → name = field.name

namespace Composite

/-- **A forced field has the name of its slot exactly if the slot keeps its name.** -/
theorem Kept.name_eq_iff {c : Composite} (hc : c.Kept host) {m : FieldMap}
    (hm : c.fields = some (.ok m)) {key : String} {slot : Slot} (hslot : (key, slot) ∈ m.slots)
    {f : Field} (hf : slot.outcome? = some (.ok f)) : f.name = key ↔ slot.KeepsName host := by
  have hkey := hc.name_of_mem hm hslot
  match slot with
  | .defined field =>
    obtain rfl := Except.ok.inj (Option.some.inj hf)
    exact iff_of_true hkey trivial
  | .deferred field forced =>
    obtain rfl : forced = some (.ok f) := hf
    obtain rfl : field.name = key := hkey
    have hgiven : ∀ declared : Config, declared.fieldName field.name = field.name ↔
        ∀ name, declared.ownName? = some name → name = field.name := by
      intro declared
      unfold Config.fieldName
      cases declared.ownName? <;> simp
    constructor
    · intro hname outcome houtcome
      obtain rfl := Option.some.inj houtcome
      have hmem : Slot.deferred field (some (.ok f)) ∈ m.slots.items := List.mem_map_of_mem hslot
      obtain ⟨w, hyields⟩ := hc.forced m hm _ hmem
      obtain ⟨declared, hfinal, hdeclared⟩ := hyields.name_eq
      refine ⟨w, declared, hyields, hfinal, (hgiven declared).mp ?_⟩
      exact hdeclared.symm.trans hname
    · intro hkeeps
      obtain ⟨w, declared, hyields, hfinal, hown⟩ := hkeeps _ rfl
      obtain ⟨declared', hfinal', hdeclared⟩ := hyields.name_eq
      obtain rfl := Option.some.inj (hfinal.symm.trans hfinal')
      exact hdeclared.trans ((hgiven declared).mpr hown)

/-- If all slots keep their names, the fields that they give have pairwise distinct names. -/
theorem Kept.forced_names_nodup {c : Composite} (hc : c.Kept host) {m : FieldMap}
    (hm : c.fields = some (.ok m)) {outcomes : List (Except Violation Field)}
    (houtcomes : m.slots.items.map Slot.outcome? = outcomes.map some)
    (hkeeps : ∀ slot ∈ m.slots.items, slot.KeepsName host) :
    ((FieldMap.forcedFields outcomes).map fun f => f.name).Nodup := by
  have hname : ∀ p ∈ m.slots, ∀ f, p.2.outcome? = some (.ok f) → f.name = p.1 :=
    fun p hp f hf => (hc.name_eq_iff hm hp hf).mpr (hkeeps p.2 (List.mem_map_of_mem hp))
  have hsub : ((FieldMap.forcedFields outcomes).map fun f => f.name).Sublist m.names :=
    FieldMap.sublist_names m.slots houtcomes hname
  exact hsub.nodup (hc.names_nodup hm)

/-- Of the fields that the type keeps, those have the names of their slots whose slots keep their
names; if all do, the fields have pairwise distinct names. -/
structure NamesFields (host : Host W) (c : Composite) : Prop where
  slot : ∀ m, c.fields = some (.ok m) → ∀ key slot f, m.slot? key = some slot →
    slot.outcome? = some (.ok f) → (f.name = key ↔ slot.KeepsName host)
  distinct : ∀ m outcomes, c.fields = some (.ok m) →
    m.slots.items.map Slot.outcome? = outcomes.map some →
    (∀ slot ∈ m.slots.items, slot.KeepsName host) →
    ((FieldMap.forcedFields outcomes).map fun f => f.name).Nodup

theorem Kept.namesFields {c : Composite} (hc : c.Kept host) : c.NamesFields host where
  slot _ hm _ _ _ hslot hf := hc.name_eq_iff hm (Entries.mem_of_get? hslot) hf
  distinct _ _ hm houtcomes hkeeps := hc.forced_names_nodup hm houtcomes hkeeps

end Composite

/-- **The names of fields.** Whatever the functions of the host answer, a field that is forced has
the name of its slot exactly if what was declared for it in the end brings no other name. This holds
of every type after any accesses, of what forcing all fields gives, and of every object and
interface of a schema that was built, all of whose fields are known. -/
theorem Host.forced_names (host : Host W) :
    (∀ c : Composite, c.Reached host → c.NamesFields host) ∧
      (∀ (c c' : Composite) (s : Store W) (outcomes : List (Except Violation Field)),
        c.Reached host → (FieldAccess.forceAll.run host c s).1 = (.all (.ok outcomes), c') →
          ∃ m, c'.fields = some (.ok m) ∧ m.slots.items.map Slot.outcome? = outcomes.map some ∧
            c'.NamesFields host) ∧
      ∀ (b : Builder) (s s' : Store W) (schema : Schema), b.Grown host →
        (b.build host).run s = (.ok schema, s') → ∀ t ∈ schema.types.types.items, ∀ c,
          t.asComposite? = some c → c.Exhausted ∧ c.NamesFields host := by
  refine ⟨fun c hc => hc.kept.namesFields, ?_, ?_⟩
  · intro c c' s outcomes hc hrun
    have hserves := FieldAccess.forceAll.run_spec host c s
    rw [hrun] at hserves
    obtain ⟨outcome, hfields, hrecalls⟩ := hserves.recalls
    generalize hreply : FieldReply.all (.ok outcomes) = reply at hrecalls
    cases hrecalls with
    | failed violation => cases hreply
    | forceAll houtcomes =>
      cases hreply
      exact ⟨_, hfields, houtcomes, (hserves.kept hc.kept).namesFields⟩
  · intro b s s' schema hb hbuild t ht c hc
    obtain ⟨-, rfl, -⟩ := Builder.eq_of_build hbuild
    obtain ⟨-, hall, hkept⟩ := b.types.validate_advances host s
    exact ⟨hall t ht c hc, (hkept hb.regular.kept t ht c hc).namesFields⟩

/-- The answers of a host whose producers of fields all declare a field named `b`. -/
def renamingOracle : Oracle where
  typeOf _ := .named "String"
  fieldOf _ := .record [(Key.name, .string "b"), (Key.type, .string "String")]
  fieldSetOf _ := .record []

/-- An object with a deferred field `a` and a field `b`. -/
def renamedType : TypeDef :=
  .object (.declare "Query" none (.declared
    [(.name "a", .callable ⟨.producer, ⟨0⟩⟩), (.name "b", .string "String")]))

/-- The builder of a schema with that object. -/
def renamedBuilder : Builder :=
  { directives := .empty, types := ⟨Registry.initial.types ++ [("Query", renamedType)]⟩ }

theorem grown_renamedBuilder : renamedBuilder.Grown renamingOracle.host := by
  refine .addType (b := .initial) (t := renamedType) (s := .start ()) .initial ?_ rfl
  rintro _ ⟨⟩
  exact .declare "Query" none _

/-- A schema is built although the fields in the slots `a` and `b` of one object are both named
`b`. -/
theorem sameName_renamedBuilder : renamedBuilder.Grown renamingOracle.host ∧
    ∃ schema s' c m outcomes,
      (renamedBuilder.build renamingOracle.host).run (.start ()) = (.ok schema, s') ∧
        .object c ∈ schema.types.types.items ∧ c.fields = some (.ok m) ∧ m.names = ["a", "b"] ∧
        m.slots.items.map Slot.outcome? = outcomes.map some ∧
        (FieldMap.forcedFields outcomes).map (fun f => f.name) = ["b", "b"] := by
  refine ⟨grown_renamedBuilder, _, _, _, _, [.ok _, .ok _], rfl,
    List.mem_of_getElem? (i := 5) rfl, rfl, rfl, rfl, rfl⟩

end Schemata
