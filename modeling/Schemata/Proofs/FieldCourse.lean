import Schemata.Proofs.FieldAccess

/-!
# Courses of accesses to fields

A type is accessed again and again, in any order and by any of the accesses. Over a whole course the
function of its set of fields is called at most once, and the producer of a deferred field is asked
along one chain at most; what was answered once is answered for good.

## Main definitions

* `Schemata.Visit`: one access of a course, with the type before and after it.
* `Schemata.FieldAccess.course`: the accesses of a list, one after the other.
* `Schemata.ForcesOnce`: nothing is asked for twice.

## Main results

* `Schemata.Composite.Kept.names_nodup`: the slots of a type have pairwise distinct names.
* `Schemata.FieldAccess.course_spec`: what a course does, from any type that a course can reach.
* `Schemata.FieldAccess.course_forcesOnce`: courses from a type that was just declared.
-/

namespace Schemata

variable {W : Type}

/-! ### The names of the slots -/

namespace Composite.Kept

variable {host : Host W} {c : Composite} {m : FieldMap}

/-- The drafts that the slots of a type come from. -/
theorem exists_drafts (hc : c.Kept host) (hm : c.fields = some (.ok m)) :
    ∃ drafts : List FieldDraft, FieldEntry.drafts m.entries = FieldDraft.named drafts ∧
      (drafts.map FieldDraft.name).Nodup := by
  obtain ⟨w, hread⟩ := hc.read _ hm
  obtain ⟨drafts, hdrafts, hnamed⟩ := Outcome.map_eq_ok_iff.mp hread.symm
  exact ⟨drafts, hnamed.symm, FieldSet.drafts_nodup hdrafts⟩

/-- The slots of a type stand under pairwise distinct names. -/
theorem names_nodup (hc : c.Kept host) (hm : c.fields = some (.ok m)) : m.names.Nodup := by
  obtain ⟨drafts, hdrafts, hnodup⟩ := hc.exists_drafts hm
  have hkeys : m.names = drafts.map FieldDraft.name := by
    have h := congrArg Entries.keys hdrafts
    rw [FieldEntry.keys_drafts] at h
    simpa [FieldMap.names, FieldMap.entries, FieldDraft.named, Entries.keys,
      Function.comp_def] using h
  rw [hkeys]
  exact hnodup

/-- The slots of a type stand under the names that their fields were declared with. -/
theorem name_of_mem (hc : c.Kept host) (hm : c.fields = some (.ok m)) {name : String} {slot : Slot}
    (hmem : (name, slot) ∈ m.slots) : slot.name = name := by
  obtain ⟨drafts, hdrafts, -⟩ := hc.exists_drafts hm
  have hdraft : (name, slot.entry.draft) ∈ FieldDraft.named drafts := by
    rw [← hdrafts]
    exact List.mem_map.mpr ⟨_, List.mem_map.mpr ⟨_, hmem, rfl⟩, rfl⟩
  obtain ⟨draft, -, hpair⟩ := List.mem_map.mp hdraft
  have hname : draft.name = name := congrArg Prod.fst hpair
  have hentry : draft = slot.entry.draft := congrArg Prod.snd hpair
  rw [slot.name_eq, ← FieldDraft.name_draft, ← hentry, hname]

/-- The deferred fields that have been forced have pairwise distinct names. -/
theorem forced_nodup (hc : c.Kept host) : (c.forced.map DeferredField.name).Nodup := by
  rw [Composite.forced]
  split
  · rename_i m hm
    have hnames : m.slots.items.map Slot.name = m.names := by
      rw [FieldMap.names, Entries.keys, Entries.items, List.map_map]
      exact List.map_congr_left fun p hp => hc.name_of_mem hm hp
    have hsub := Slot.sublist_forced m.slots.items
    rw [hnames] at hsub
    exact hsub.nodup (hc.names_nodup hm)
  · exact List.nodup_nil

end Composite.Kept

/-! ### One access after the other -/

/-- One access of a course, with the type before and after it. -/
structure Visit where
  access : FieldAccess
  before : Composite
  reply : FieldReply
  after : Composite

/-- The accesses of a list, made one after the other to one type. -/
def FieldAccess.course (host : Host W) :
    List FieldAccess → Composite → Run W (List Visit × Composite)
  | [], c => return ([], c)
  | a :: rest, c => do
    let (reply, after) ← a.run host c
    let (visits, final) ← course host rest after
    return ({ access := a, before := c, reply, after } :: visits, final)

namespace FieldAccess

theorem course_cons_apply (host : Host W) (a : FieldAccess) (rest : List FieldAccess)
    (c : Composite) (s : Store W) :
    course host (a :: rest) c s =
      let first := a.run host c s
      let others := course host rest first.1.2 first.2
      (({ access := a, before := c, reply := first.1.1, after := first.1.2 } :: others.1.1,
        others.1.2), others.2) := rfl

/-- What a type recalls, it recalls for good. -/
theorem recalls_of_advances {host : Host W} {c c' : Composite} {a : FieldAccess}
    {reply : FieldReply} (h : c.Advances c')
    (hc : ∃ outcome, c.fields = some outcome ∧ Recalls host c.name outcome a reply) :
    ∃ outcome, c'.fields = some outcome ∧ Recalls host c'.name outcome a reply := by
  obtain ⟨outcome, hfields, hrecalls⟩ := hc
  have hkept := h.fields
  have hname : c'.name = c.name := by rw [h.same]
  rw [hfields] at hkept
  rw [hname]
  cases hc' : c'.fields with
  | none =>
    rw [hc'] at hkept
    cases hkept
  | some outcome' =>
    rw [hc'] at hkept
    cases hkept with
    | failed violation => exact ⟨_, rfl, hrecalls⟩
    | read hm => exact ⟨_, rfl, hrecalls.advance hm⟩

end FieldAccess

/-- What holds of a visit in a course that leaves the type as `final`. -/
structure Visit.Holds (host : Host W) (final : Composite) (v : Visit) : Prop where
  /-- What was kept stays. -/
  advances : v.before.Advances v.after
  /-- The reply is what the type keeps in the end. -/
  recalls : ∃ outcome, final.fields = some outcome ∧
    v.access.Recalls host final.name outcome v.reply
  /-- Only slots that the access reaches are forced. -/
  reaches : ∀ name field outcome, v.after.slot? name = some (.deferred field (some outcome)) →
    v.before.slot? name = some (.deferred field (some outcome)) ∨ v.access.Reaches name

namespace FieldAccess

/-- **Courses.** From a type that accesses have led to, a course makes the calls of reading if that
was not done, and those of one chain for each field that it forces; every visit holds, and each
finds the type as the visits before have left it. -/
theorem course_spec (host : Host W) (accesses : List FieldAccess) :
    ∀ (c : Composite) (s : Store W), c.Kept host →
      c.Advances (course host accesses c s).1.2 ∧ (course host accesses c s).1.2.Kept host ∧
      (∃ fs : List (Forcing W),
        (course host accesses c s).2.declarationCalls = s.declarationCalls ++
            (if accesses = [] then [] else c.unread) ++ fs.flatMap (Forcing.calls host) ∧
          (course host accesses c s).1.2.forced.Perm (c.forced ++ fs.map Forcing.field)) ∧
      (course host accesses c s).1.1.map Visit.access = accesses ∧
      (∀ v ∈ (course host accesses c s).1.1, c.Advances v.before ∧
        v.Holds host (course host accesses c s).1.2) ∧
      (course host accesses c s).1.1.Pairwise fun v v' => v.after.Advances v'.before := by
  induction accesses with
  | nil =>
    intro c s hc
    have hnil : course host [] c s = (([], c), s) := rfl
    rw [hnil]
    exact ⟨.refl c, hc, ⟨[], by simp, by simp⟩, rfl, fun v hv => by simp at hv, .nil⟩
  | cons a rest ih =>
    intro c s hc
    rw [course_cons_apply]
    dsimp only
    have hfirst := a.run_spec host c s
    generalize a.run host c s = first at hfirst ⊢
    obtain ⟨⟨reply, after⟩, s'⟩ := first
    dsimp only at hfirst ⊢
    obtain ⟨hadvances, hkept, ⟨fs, hcalls, hforced⟩, haccess, hvisits, hpairs⟩ :=
      ih after s' (hfirst.kept hc)
    obtain ⟨fs₀, hcalls₀, hforced₀⟩ := hfirst.calls
    have hread : after.unread = [] := by
      obtain ⟨outcome, hfields, -⟩ := hfirst.recalls
      simp only [Composite.unread, hfields]
    refine ⟨hfirst.advances.trans hadvances, hkept, ⟨fs₀ ++ fs, ?_, ?_⟩, ?_, ?_, ?_⟩
    · rw [hcalls, hcalls₀, hread]
      simp
    · refine hforced.trans ?_
      rw [List.map_append, ← List.append_assoc]
      exact hforced₀.append_right _
    · rw [List.map_cons, haccess]
    · refine List.forall_mem_cons.mpr ⟨⟨.refl c, ?_⟩, fun v hv => ?_⟩
      · exact {
          advances := hfirst.advances
          recalls := recalls_of_advances hadvances (by
            have hname : after.name = c.name := by rw [hfirst.advances.same]
            rw [hname]
            exact hfirst.recalls)
          reaches := hfirst.reaches }
      · exact ⟨hfirst.advances.trans (hvisits v hv).1, (hvisits v hv).2⟩
    · exact .cons (fun v hv => (hvisits v hv).1) hpairs

end FieldAccess

/-! ### Nothing is asked for twice -/

theorem Composite.Advances.isForced {c c' : Composite} (h : c.Advances c') {name : String}
    {slot : Slot} (hslot : c.slot? name = some slot) (hforced : slot.isForced = true) :
    ∃ slot', c'.slot? name = some slot' ∧ slot'.isForced = true := by
  have hkept := h.fields
  unfold Composite.slot? at hslot ⊢
  generalize c'.fields = fields' at hkept ⊢
  cases hfields : c.fields with
  | none =>
    rw [hfields] at hslot
    cases hslot
  | some outcome =>
    rw [hfields] at hslot hkept
    cases hkept with
    | failed violation => cases hslot
    | @read m m' hm =>
      have hrel := hm.slot? name
      dsimp only at hslot ⊢
      rw [hslot] at hrel
      cases hslot' : m'.slot? name with
      | none =>
        rw [hslot'] at hrel
        cases hrel
      | some slot' =>
        rw [hslot'] at hrel
        obtain hadvances | - := hrel
        exact ⟨slot', rfl, hadvances.isForced hforced⟩

/-- The visits that the accesses make to a type that was just declared with the given set of fields
leave it as `final`, and ask for nothing twice. -/
structure ForcesOnce (host : Host W) (set : FieldSet) (accesses : List FieldAccess) (s : Store W)
    (visits : List Visit) (final : Composite) (s' : Store W) : Prop where
  /-- Each access makes one visit. -/
  made : visits.map Visit.access = accesses
  /-- The function of the set is called by the first access. After it nothing but producers of
  deferred fields is called, along one chain for each field that is forced in the end. -/
  calls : ∃ fs : List (Forcing W),
    s'.declarationCalls = s.declarationCalls ++ (if accesses = [] then [] else set.calls) ++
        fs.flatMap (Forcing.calls host) ∧
      (fs.map Forcing.field).Perm final.forced ∧ (fs.map fun f => f.field.name).Nodup
  /-- All replies are what the type keeps in the end. -/
  recalls : ∀ v ∈ visits, ∃ outcome, final.fields = some outcome ∧
    v.access.Recalls host final.name outcome v.reply
  /-- A request that is made again gets the same reply. -/
  requests : ∀ v ∈ visits, ∀ v' ∈ visits, v'.access = v.access → v.access.IsRequest →
    v'.reply = v.reply
  /-- What is kept after a visit is kept before and after each later one. -/
  keeps : visits.Pairwise fun v v' =>
    v.after.Advances v'.before ∧ v'.before.Advances v'.after
  /-- A slot that is forced after a visit is forced after each later one. -/
  staysForced : visits.Pairwise fun v v' => ∀ name slot, v.after.slot? name = some slot →
    slot.isForced = true → ∃ slot', v'.after.slot? name = some slot' ∧ slot'.isForced = true
  /-- A visit forces slots that its access reaches and no others. -/
  reaches : ∀ v ∈ visits, ∀ name field outcome,
    v.after.slot? name = some (.deferred field (some outcome)) →
      v.before.slot? name = some (.deferred field (some outcome)) ∨ v.access.Reaches name

/-- **Nothing is asked for twice.** Whatever the functions of the host answer, and in whatever order
a declared type is accessed, its set of fields is read once, each deferred field is forced once, and
replies stay. -/
theorem FieldAccess.course_forcesOnce (host : Host W) (name : String)
    (description : Option String) (set : FieldSet) (accesses : List FieldAccess) (s : Store W) :
    ForcesOnce host set accesses s (course host accesses (.declare name description set) s).1.1
      (course host accesses (.declare name description set) s).1.2
      (course host accesses (.declare name description set) s).2 := by
  obtain ⟨-, hkept, ⟨fs, hcalls, hforced⟩, haccess, hvisits, hpairs⟩ :=
    course_spec host accesses (.declare name description set) s
      (Composite.kept_declare host name description set)
  generalize course host accesses (.declare name description set) s = made at *
  obtain ⟨⟨visits, final⟩, s'⟩ := made
  dsimp only at *
  have hkeeps : visits.Pairwise fun v v' =>
      v.after.Advances v'.before ∧ v'.before.Advances v'.after := by
    refine hpairs.imp_of_mem fun {v v'} _ hv' h => ⟨h, (hvisits v' hv').2.advances⟩
  have hperm : (fs.map Forcing.field).Perm final.forced := hforced.symm
  have hnodup := (hperm.map DeferredField.name).nodup_iff.mpr hkept.forced_nodup
  rw [List.map_map] at hnodup
  exact {
    made := haccess
    calls := ⟨fs, hcalls, hperm, hnodup⟩
    recalls := fun v hv => (hvisits v hv).2.recalls
    requests := fun v hv v' hv' haccess hrequest => by
      obtain ⟨outcome, hfields, hrecalls⟩ := (hvisits v hv).2.recalls
      obtain ⟨outcome', hfields', hrecalls'⟩ := (hvisits v' hv').2.recalls
      obtain rfl := Option.some.inj (hfields.symm.trans hfields')
      rw [haccess] at hrecalls'
      exact hrecalls.unique hrequest hrecalls'
    keeps := hkeeps
    staysForced := by
      refine hkeeps.imp ?_
      intro v v' h name slot hslot hforced
      exact (h.1.trans h.2).isForced hslot hforced
    reaches := fun v hv => (hvisits v hv).2.reaches }

end Schemata
