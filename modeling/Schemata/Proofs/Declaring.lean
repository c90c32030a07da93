import Mathlib.Data.List.Induction
import Mathlib.Data.List.Nodup
import Schemata.Proofs.Refusals
import Schemata.Proofs.WellFormed

/-!
# Sets of fields, declaration by declaration

The declarations of a set make entries one after the other. Each entry stands under the name of its
field, and reading stops at the first declaration that is refused or that takes a name again; what
follows it is not looked at. A set that is read to its end has one entry for each declaration, in
their order.

The function of a deferred set is called once. Nothing else is called, and the only thing in the
store that entries change is the next identity.

## Main definitions

* `Schemata.FieldSet.Reads`: declarations that make entries under different names.
* `Schemata.FieldSet.Reading`: what reading a set comes to, and the store afterwards.

## Main results

* `Schemata.FieldSet.Reads.run_readAfter`: reading goes through such declarations.
* `Schemata.FieldSet.exists_reads`: the first declaration that cannot be read, if there is one.
* `Schemata.FieldSet.read_exact`: reading loses, repeats and reorders nothing.
-/

namespace Schemata

variable {W : Type} {host : Host W} {typeName : String}

/-! ### Entries -/

namespace FieldEntry

theorem draft_of_run {key : FieldKey} {value : Config} {entry : FieldEntry} {s s' : Store W}
    (h : (declare typeName key value).run s = (.ok entry, s')) :
    FieldDraft.declare typeName key value = .ok entry.draft := by
  have hdraft := (declare_spec typeName key value s).1
  rw [h] at hdraft
  exact hdraft.symm

theorem error_of_run {key : FieldKey} {value : Config} {violation : Violation} {s s' : Store W}
    (h : (declare typeName key value).run s = (.error violation, s')) :
    FieldDraft.declare typeName key value = .error violation := by
  have hdraft := (declare_spec typeName key value s).1
  rw [h] at hdraft
  exact hdraft.symm

/-- An entry has the name that its declaration gives it. -/
theorem name_of_run {key : FieldKey} {value : Config} {entry : FieldEntry} {s s' : Store W}
    (h : (declare typeName key value).run s = (.ok entry, s')) :
    entry.name = value.fieldName key.text :=
  (FieldDraft.name_draft entry).symm.trans (FieldDraft.name_of_declare (draft_of_run h))

theorem renumber_of_run {key : FieldKey} {value : Config} {outcome : Except Violation FieldEntry}
    {s s' : Store W} (h : (declare typeName key value).run s = (outcome, s')) :
    ∃ id, s' = s.renumber id := by
  obtain ⟨id, hid⟩ := (declare_spec typeName key value s).2
  rw [h] at hid
  exact ⟨id, hid⟩

/-- A declaration that makes an entry from one store makes one from every store. -/
theorem exists_run_of_draft {key : FieldKey} {value : Config} {draft : FieldDraft}
    (h : FieldDraft.declare typeName key value = .ok draft) (s : Store W) :
    ∃ entry s', (declare typeName key value).run s = (.ok entry, s') := by
  have hdraft := (declare_spec typeName key value s).1
  rcases hrun : (declare typeName key value).run s with ⟨violation | entry, s'⟩
  · rw [hrun, h] at hdraft
    cases hdraft
  · exact ⟨entry, s', rfl⟩

/-- A declaration that is refused from one store is refused from every store. -/
theorem run_of_refused {key : FieldKey} {value : Config} {violation : Violation}
    (h : FieldDraft.declare typeName key value = .error violation) (s : Store W) :
    ((declare typeName key value).run s).1 = .error violation := by
  have hdraft := (declare_spec typeName key value s).1
  rw [h] at hdraft
  cases hout : ((declare typeName key value).run s).1 with
  | error v =>
    rw [hout] at hdraft
    cases hdraft
    rfl
  | ok entry =>
    rw [hout] at hdraft
    cases hdraft

end FieldEntry

/-! ### Declarations that can be read -/

/-- What the functions of the host answer when they are called in the given world. -/
def Host.answersIn (host : Host W) (w : W) : Oracle where
  typeOf h := (host.typeOf h w).1
  fieldOf h := (host.fieldOf h w).1
  fieldSetOf h := (host.fieldSetOf h w).1

namespace FieldSet

theorem Declares.unique {oracle : Oracle} {set : FieldSet}
    {declarations declarations' : List (FieldKey × Config)} (h : set.Declares oracle declarations)
    (h' : set.Declares oracle declarations') : declarations' = declarations := by
  cases h with
  | declared declarations =>
    cases h'
    rfl
  | record h =>
    cases h' with
    | record h' =>
      cases h.symm.trans h'
      rfl
    | list h' => cases h.symm.trans h'
  | list h =>
    cases h' with
    | record h' => cases h.symm.trans h'
    | list h' =>
      cases h.symm.trans h'
      rfl

theorem Declares.isStructured {oracle : Oracle} {producer : Handle}
    {declarations : List (FieldKey × Config)}
    (h : (deferred producer).Declares oracle declarations) :
    (oracle.fieldSetOf producer).isStructured = true := by
  cases h with
  | record h => rw [h, Config.isStructured]
  | list h => rw [h, Config.isStructured]

/-- The store when the declarations of the set are known: the function of a deferred set has been
called. -/
def consulted (host : Host W) (s : Store W) : FieldSet → Store W
  | declared _ => s
  | deferred producer =>
    s.after [.called (.fieldSetOf producer)] (host.fieldSetOf producer s.world).2

theorem run_declarations_deferred (host : Host W) (typeName : String) (producer : Handle)
    (s : Store W) :
    ((deferred producer).declarations host typeName).run s =
      (declarationsOf typeName (host.fieldSetOf producer s.world).1,
        (deferred producer).consulted host s) := by
  rw [declarations_apply_deferred, asked, Store.record_eq_after]
  rfl

theorem Declares.run_declarations {set : FieldSet} {s : Store W}
    {declarations : List (FieldKey × Config)}
    (h : set.Declares (host.answersIn s.world) declarations) :
    (set.declarations host typeName).run s = (.ok declarations, set.consulted host s) := by
  cases h with
  | declared declarations => rfl
  | @record producer entries hproduced =>
    rw [run_declarations_deferred]
    change (declarationsOf typeName ((host.answersIn s.world).fieldSetOf producer), _) = _
    rw [hproduced, declarationsOf]
  | @list producer items hproduced =>
    rw [run_declarations_deferred]
    change (declarationsOf typeName ((host.answersIn s.world).fieldSetOf producer), _) = _
    rw [hproduced, declarationsOf]

/-- The declarations make these entries, one after the other from the given store, and none takes
the name of an earlier one. -/
inductive Reads (typeName : String) (s : Store W) :
    List (FieldKey × Config) → Entries FieldEntry → Store W → Prop
  | nil : Reads typeName s [] [] s
  | snoc {declarations : List (FieldKey × Config)} {entries : Entries FieldEntry} {s' s'' : Store W}
      {key : FieldKey} {value : Config} {entry : FieldEntry}
      (h : Reads typeName s declarations entries s')
      (hentry : (FieldEntry.declare typeName key value).run s' = (.ok entry, s''))
      (hfresh : entry.name ∉ entries.keys) :
      Reads typeName s (declarations ++ [(key, value)]) (entries ++ [(entry.name, entry)]) s''

section Loop

variable {known : Entries FieldEntry} {key : FieldKey} {value : Config} {s s' : Store W}
  (rest : List (FieldKey × Config))

theorem run_readAfter_of_fresh {entry : FieldEntry}
    (hentry : (FieldEntry.declare typeName key value).run s = (.ok entry, s'))
    (hfresh : entry.name ∉ known.keys) :
    (readAfter typeName known ((key, value) :: rest)).run s =
      (readAfter typeName (known ++ [(entry.name, entry)]) rest).run s' := by
  have hfree : known.contains entry.name = false := by
    rwa [← Bool.not_eq_true, Entries.contains_iff_mem_keys]
  rw [readAfter, Attempt.run_bind_apply, hentry]
  dsimp only
  rw [Attempt.run_bind_apply, Attempt.run_require_apply, hfree,
    Entries.insert_of_not_contains known entry.name entry hfree]
  rfl

theorem run_readAfter_of_taken {entry : FieldEntry}
    (hentry : (FieldEntry.declare typeName key value).run s = (.ok entry, s'))
    (htaken : entry.name ∈ known.keys) :
    (readAfter typeName known ((key, value) :: rest)).run s =
      (.error (.duplicateFieldDefinition typeName entry.name), s') := by
  rw [readAfter, Attempt.run_bind_apply, hentry]
  dsimp only
  rw [Attempt.run_bind_apply, Attempt.run_require_apply,
    (Entries.contains_iff_mem_keys known entry.name).mpr htaken]
  rfl

theorem run_readAfter_of_refused {violation : Violation}
    (hrefused : (FieldEntry.declare typeName key value).run s = (.error violation, s')) :
    (readAfter typeName known ((key, value) :: rest)).run s = (.error violation, s') := by
  rw [readAfter, Attempt.run_bind_apply, hrefused]

end Loop

namespace Reads

variable {s s' : Store W} {declarations : List (FieldKey × Config)} {entries : Entries FieldEntry}

/-- **Reading goes through** declarations that make entries under different names. -/
theorem run_readAfter (h : Reads typeName s declarations entries s') :
    ∀ rest, (readAfter typeName [] (declarations ++ rest)).run s =
      (readAfter typeName entries rest).run s' := by
  induction h with
  | nil => exact fun rest => rfl
  | snoc h hentry hfresh ih =>
    intro rest
    rw [List.append_assoc, ih]
    exact run_readAfter_of_fresh rest hentry hfresh

theorem keys_eq (h : Reads typeName s declarations entries s') :
    entries.keys = declarations.map fun d => d.2.fieldName d.1.text := by
  induction h with
  | nil => rfl
  | snoc h hentry hfresh ih =>
    rw [List.map_append, ← ih, Entries.keys, List.map_append, Entries.keys, List.map_singleton,
      List.map_singleton, FieldEntry.name_of_run hentry]

theorem nodup_keys (h : Reads typeName s declarations entries s') : entries.keys.Nodup := by
  induction h with
  | nil => exact List.nodup_nil
  | @snoc declarations entries s' s'' key value entry h hentry hfresh ih =>
    have happend : Entries.keys (entries ++ [(entry.name, entry)]) =
        entries.keys ++ [entry.name] := by
      rw [Entries.keys, List.map_append]
      rfl
    rw [happend]
    exact ih.append (List.nodup_singleton _) (List.disjoint_singleton.mpr hfresh)

theorem forall₂ (h : Reads typeName s declarations entries s') :
    List.Forall₂ (fun d item => item.1 = item.2.name ∧ ∃ s₁ s₂ : Store W,
      (FieldEntry.declare typeName d.1 d.2).run s₁ = (.ok item.2, s₂)) declarations entries := by
  induction h with
  | nil => exact .nil
  | snoc h hentry hfresh ih => exact List.rel_append ih (.cons ⟨rfl, _, _, hentry⟩ .nil)

/-- A declaration that has been read makes an entry from every store. -/
theorem exists_run (h : Reads typeName s declarations entries s') (s₁ : Store W) :
    ∀ d ∈ declarations, ∃ entry s₂,
      (FieldEntry.declare typeName d.1 d.2).run s₁ = (.ok entry, s₂) := by
  induction h with
  | nil => exact fun _ hd => nomatch hd
  | snoc h hentry hfresh ih =>
    intro d hd
    rcases List.mem_append.mp hd with hd | hd
    · exact ih d hd
    · obtain rfl := List.mem_singleton.mp hd
      exact FieldEntry.exists_run_of_draft (FieldEntry.draft_of_run hentry) s₁

theorem renumber (h : Reads typeName s declarations entries s') : ∃ id, s' = s.renumber id := by
  induction h with
  | nil => exact ⟨s.nextId, rfl⟩
  | snoc h hentry hfresh ih =>
    obtain ⟨id, rfl⟩ := ih
    obtain ⟨id', rfl⟩ := FieldEntry.renumber_of_run hentry
    exact ⟨id', rfl⟩

end Reads

/-- Declarations can be read to their end, or there is a first one that is refused or takes a name
again. -/
theorem exists_reads (typeName : String) (s : Store W) (declarations : List (FieldKey × Config)) :
    (∃ entries s', Reads typeName s declarations entries s') ∨
      ∃ before key value after entries s', declarations = before ++ (key, value) :: after ∧
        Reads typeName s before entries s' ∧
        ((∃ violation s'',
            (FieldEntry.declare typeName key value).run s' = (.error violation, s'')) ∨
          ∃ entry s'', (FieldEntry.declare typeName key value).run s' = (.ok entry, s'') ∧
            entry.name ∈ entries.keys) := by
  induction declarations using List.reverseRecOn with
  | nil => exact .inl ⟨[], s, .nil⟩
  | append_singleton declarations declaration ih =>
    obtain ⟨key, value⟩ := declaration
    rcases ih with ⟨entries, s', hreads⟩ |
      ⟨before, key', value', after, entries, s', rfl, hreads, hstop⟩
    · rcases hrun : (FieldEntry.declare typeName key value).run s' with ⟨violation | entry, s''⟩
      · exact .inr ⟨declarations, key, value, [], entries, s', rfl, hreads, .inl ⟨_, _, hrun⟩⟩
      · by_cases htaken : entry.name ∈ entries.keys
        · exact .inr ⟨declarations, key, value, [], entries, s', rfl, hreads,
            .inr ⟨entry, s'', hrun, htaken⟩⟩
        · exact .inl ⟨_, s'', hreads.snoc hrun htaken⟩
    · exact .inr ⟨before, key', value', after ++ [(key, value)], entries, s',
        List.append_assoc .., hreads, hstop⟩

/-! ### Reading -/

/-- What reading the set from the store comes to: its outcome, and the store afterwards. -/
inductive Reading (host : Host W) (typeName : String) (set : FieldSet) (s : Store W) :
    Except Violation (Entries FieldEntry) × Store W → Prop
  /-- The function of the set has produced neither a list nor a record. -/
  | unreadable {producer : Handle} (hset : set = .deferred producer)
      (hproduced : (host.fieldSetOf producer s.world).1.isStructured = false) :
      Reading host typeName set s
        (.error (.fieldSetNotIterable typeName (host.fieldSetOf producer s.world).1.render),
          set.consulted host s)
  /-- A declaration is refused, and none before it was refused or took a name again. -/
  | refused {before after : List (FieldKey × Config)} {key : FieldKey} {value : Config}
      {entries : Entries FieldEntry} {s' s'' : Store W} {violation : Violation}
      (hdeclares : set.Declares (host.answersIn s.world) (before ++ (key, value) :: after))
      (hbefore : Reads typeName (set.consulted host s) before entries s')
      (hrefused : (FieldEntry.declare typeName key value).run s' = (.error violation, s'')) :
      Reading host typeName set s (.error violation, s'')
  /-- A declaration takes a name again, and none before it was refused or did so. -/
  | repeated {before after : List (FieldKey × Config)} {key : FieldKey} {value : Config}
      {entries : Entries FieldEntry} {s' s'' : Store W} {entry : FieldEntry}
      (hdeclares : set.Declares (host.answersIn s.world) (before ++ (key, value) :: after))
      (hbefore : Reads typeName (set.consulted host s) before entries s')
      (hentry : (FieldEntry.declare typeName key value).run s' = (.ok entry, s''))
      (htaken : entry.name ∈ entries.keys) :
      Reading host typeName set s
        (.error (.duplicateFieldDefinition typeName entry.name), s'')
  /-- All declarations make entries, under different names. -/
  | complete {declarations : List (FieldKey × Config)} {entries : Entries FieldEntry} {s' : Store W}
      (hdeclares : set.Declares (host.answersIn s.world) declarations)
      (hreads : Reads typeName (set.consulted host s) declarations entries s') :
      Reading host typeName set s (.ok entries, s'.record (.fieldMapBuilt typeName entries.length))

/-- Reading a set is reading its declarations. -/
theorem Declares.run_read {set : FieldSet} {s : Store W} {declarations : List (FieldKey × Config)}
    (h : set.Declares (host.answersIn s.world) declarations) :
    (set.read host typeName).run s =
      match (readAfter typeName [] declarations).run (set.consulted host s) with
      | (.ok entries, s') => (.ok entries, s'.record (.fieldMapBuilt typeName entries.length))
      | (.error violation, s') => (.error violation, s') := by
  rw [read, Attempt.run_bind_apply, h.run_declarations]
  dsimp only
  rw [Attempt.run_bind_apply]
  rcases (readAfter typeName [] declarations).run (set.consulted host s) with ⟨_ | _, _⟩ <;> rfl

theorem Reading.run_read {set : FieldSet} {s : Store W}
    {result : Except Violation (Entries FieldEntry) × Store W}
    (h : set.Reading host typeName s result) : (set.read host typeName).run s = result := by
  cases h with
  | @unreadable producer hset hproduced =>
    subst hset
    rw [read, Attempt.run_bind_apply, run_declarations_deferred]
    cases hvalue : (host.fieldSetOf producer s.world).1 with
    | record entries =>
      rw [hvalue] at hproduced
      cases hproduced
    | list items =>
      rw [hvalue] at hproduced
      cases hproduced
    | _ => rfl
  | refused hdeclares hbefore hrefused =>
    rw [hdeclares.run_read, hbefore.run_readAfter, run_readAfter_of_refused _ hrefused]
  | repeated hdeclares hbefore hentry htaken =>
    rw [hdeclares.run_read, hbefore.run_readAfter, run_readAfter_of_taken _ hentry htaken]
  | complete hdeclares hreads =>
    have hrun := hreads.run_readAfter []
    rw [List.append_nil] at hrun
    rw [hdeclares.run_read, hrun]
    rfl

theorem declares_or_unreadable (oracle : Oracle) (set : FieldSet) :
    (∃ declarations, set.Declares oracle declarations) ∨
      ∃ producer, set = .deferred producer ∧ (oracle.fieldSetOf producer).isStructured = false := by
  cases set with
  | declared declarations => exact .inl ⟨_, .declared declarations⟩
  | deferred producer =>
    cases hproduced : oracle.fieldSetOf producer with
    | record entries => exact .inl ⟨_, .record hproduced⟩
    | list items => exact .inl ⟨_, .list hproduced⟩
    | _ => exact .inr ⟨producer, rfl, by rw [hproduced]; rfl⟩

theorem exists_reading (host : Host W) (typeName : String) (set : FieldSet) (s : Store W) :
    ∃ result, set.Reading host typeName s result := by
  rcases declares_or_unreadable (host.answersIn s.world) set with
    ⟨declarations, hdeclares⟩ | ⟨producer, hset, hproduced⟩
  · rcases exists_reads typeName (set.consulted host s) declarations with
      ⟨entries, s', hreads⟩ | ⟨before, key, value, after, entries, s', rfl, hbefore, hstop⟩
    · exact ⟨_, .complete hdeclares hreads⟩
    · rcases hstop with ⟨violation, s'', hrefused⟩ | ⟨entry, s'', hentry, htaken⟩
      · exact ⟨_, .refused hdeclares hbefore hrefused⟩
      · exact ⟨_, .repeated hdeclares hbefore hentry htaken⟩
  · exact ⟨_, .unreadable hset hproduced⟩

namespace Reading

variable {set : FieldSet} {s : Store W}

/-- Reading changes the store by calling the function of the set, and by giving identities; a map
that is built is an event. -/
theorem renumber {result : Except Violation (Entries FieldEntry) × Store W}
    (h : set.Reading host typeName s result) :
    ∃ id, result.2 = match result.1 with
      | .ok entries =>
        ((set.consulted host s).renumber id).record (.fieldMapBuilt typeName entries.length)
      | .error _ => (set.consulted host s).renumber id := by
  cases h with
  | unreadable hset hproduced => exact ⟨(set.consulted host s).nextId, rfl⟩
  | refused hdeclares hbefore hrefused =>
    obtain ⟨id, rfl⟩ := hbefore.renumber
    obtain ⟨id', rfl⟩ := FieldEntry.renumber_of_run hrefused
    exact ⟨id', rfl⟩
  | repeated hdeclares hbefore hentry htaken =>
    obtain ⟨id, rfl⟩ := hbefore.renumber
    obtain ⟨id', rfl⟩ := FieldEntry.renumber_of_run hentry
    exact ⟨id', rfl⟩
  | complete hdeclares hreads =>
    obtain ⟨id, rfl⟩ := hreads.renumber
    exact ⟨id, rfl⟩

/-- A set whose declarations make entries under different names is read. -/
theorem isOk_of_declares {outcome : Except Violation (Entries FieldEntry)} {s' : Store W}
    (h : set.Reading host typeName s (outcome, s')) {declarations : List (FieldKey × Config)}
    (hdeclares : set.Declares (host.answersIn s.world) declarations)
    (hmade : ∀ d ∈ declarations, ∃ entry s₁,
      (FieldEntry.declare typeName d.1 d.2).run s = (.ok entry, s₁))
    (hdistinct : (declarations.map fun d => d.2.fieldName d.1.text).Nodup) :
    ∃ entries, outcome = .ok entries := by
  cases h with
  | @unreadable producer hset hproduced =>
    subst hset
    cases hproduced.symm.trans hdeclares.isStructured
  | @refused before after key value entries s' s'' violation hdeclares' hbefore hrefused =>
    obtain rfl := hdeclares'.unique hdeclares
    obtain ⟨entry, s₁, hentry⟩ := hmade (key, value) (List.mem_append_right _ List.mem_cons_self)
    cases (FieldEntry.error_of_run hrefused).symm.trans (FieldEntry.draft_of_run hentry)
  | @repeated before after key value entries s' s'' entry hdeclares' hbefore hentry htaken =>
    obtain rfl := hdeclares'.unique hdeclares
    rw [List.map_append, List.map_cons, ← hbefore.keys_eq] at hdistinct
    rw [FieldEntry.name_of_run hentry] at htaken
    exact (List.disjoint_of_nodup_append hdistinct htaken List.mem_cons_self).elim
  | complete hdeclares' hreads => exact ⟨_, rfl⟩

/-- Arguments that are neither a list nor a record are never refused as such. -/
theorem ne_invalidArgumentsConfig {violation : Violation} {s' : Store W}
    (h : set.Reading host typeName s (.error violation, s')) (owner : ArgumentOwner)
    (rendered : String) : violation ≠ .invalidArgumentsConfig owner rendered := by
  rintro rfl
  cases h with
  | refused hdeclares hbefore hrefused =>
    have hrefusal :=
      FieldDraft.fails_declare typeName _ _ _ (FieldEntry.error_of_run hrefused)
    cases hrefusal with
    | argument h => cases h

end Reading

/-- **Reading loses, repeats and reorders nothing.** Whatever the host answers, what reading a set
comes to is described by `Reading`; a violation is that of the first declaration that is refused or
takes a name again, whatever follows it.

* A set is read if its declarations are given, or produced as a list or a record, each of them makes
  an entry, and the names of their fields are pairwise distinct.
* There is then one entry for each declaration, in their order and under the name of its field.
* The function of a deferred set is called once, and no other function is.
* Arguments that are neither a list nor a record are refused together with the descriptor that they
  stand in, if this is named, and never for themselves. -/
theorem read_exact (host : Host W) (typeName : String) (set : FieldSet) (s : Store W) :
    (∀ result, (set.read host typeName).run s = result ↔ set.Reading host typeName s result) ∧
      ((∃ entries s', (set.read host typeName).run s = (.ok entries, s')) ↔
        ∃ declarations, set.Declares (host.answersIn s.world) declarations ∧
          (∀ d ∈ declarations, ∃ entry s₁,
            (FieldEntry.declare typeName d.1 d.2).run s = (.ok entry, s₁)) ∧
          (declarations.map fun d => d.2.fieldName d.1.text).Nodup) ∧
      (∀ entries s', (set.read host typeName).run s = (.ok entries, s') →
        ∃ declarations, set.Declares (host.answersIn s.world) declarations ∧
          entries.keys = (declarations.map fun d => d.2.fieldName d.1.text) ∧
          List.Forall₂ (fun d item => item.1 = item.2.name ∧ ∃ s₁ s₂ : Store W,
            (FieldEntry.declare typeName d.1 d.2).run s₁ = (.ok item.2, s₂))
            declarations entries) ∧
      (∃ id, ((set.read host typeName).run s).2 = match ((set.read host typeName).run s).1 with
        | .ok entries =>
          ((set.consulted host s).renumber id).record (.fieldMapBuilt typeName entries.length)
        | .error _ => (set.consulted host s).renumber id) ∧
      (∀ owner rendered,
        ((set.read host typeName).run s).1 ≠ .error (.invalidArgumentsConfig owner rendered)) ∧
      ∀ key r args, ((Record.getString? r Key.name).isSome ∨ ∃ name, key = .name name) →
        Entries.get? r Key.args = some args → args.isStructured = false →
        ((FieldEntry.declare typeName key (.record r)).run s).1 = .error
          (.invalidFieldArgs typeName ((Config.record r).fieldName key.text) args.render) := by
  obtain ⟨⟨outcome, s'⟩, hreading⟩ := exists_reading host typeName set s
  have hrun := hreading.run_read
  refine ⟨fun result => ⟨?_, Reading.run_read⟩, ⟨?_, ?_⟩, ?_, ?_, ?_, ?_⟩
  · rintro rfl
    rwa [hrun]
  · rintro ⟨entries, s'', hok⟩
    obtain ⟨rfl, rfl⟩ := Prod.mk.inj (hrun.symm.trans hok)
    cases hreading with
    | complete hdeclares hreads =>
      exact ⟨_, hdeclares, hreads.exists_run s, hreads.keys_eq ▸ hreads.nodup_keys⟩
  · rintro ⟨declarations, hdeclares, hmade, hdistinct⟩
    obtain ⟨entries, rfl⟩ := hreading.isOk_of_declares hdeclares hmade hdistinct
    exact ⟨entries, s', hrun⟩
  · intro entries s'' hok
    obtain ⟨rfl, rfl⟩ := Prod.mk.inj (hrun.symm.trans hok)
    cases hreading with
    | complete hdeclares hreads => exact ⟨_, hdeclares, hreads.keys_eq, hreads.forall₂⟩
  · rw [hrun]
    exact hreading.renumber
  · intro owner rendered hfailed
    rw [hrun] at hfailed
    obtain rfl : outcome = _ := hfailed
    exact hreading.ne_invalidArgumentsConfig owner rendered rfl
  · intro key r args hnamed hargs hunstructured
    exact FieldEntry.run_of_refused
      (FieldDraft.declare_of_unstructured hnamed hargs hunstructured) s

/-- A name may be taken under another key, and what follows is not looked at. -/
example (host : Host W) (s : Store W) :
    (((declared [(.name "size", .string "Int"), (.name "width", .record [("name", .string "size")]),
      (.position 2, .null)]).read host "Box").run s).1 =
        .error (.duplicateFieldDefinition "Box" "size") := rfl

end FieldSet

end Schemata
