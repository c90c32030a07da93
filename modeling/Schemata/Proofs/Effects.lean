import Mathlib.Data.List.Forall2
import Schemata.Store

/-!
# What computations do to a store

Three ways of speaking about a computation on a store. The first says that an invariant of the
store survives it; the second says in addition with which results it succeeds. The third reads the
calls of declaration functions off the journal: which functions that declare fields or sets of
fields the host has been asked to call, and in what order.

All are compositional, so what follows about a computation is proved along its text.

## Main definitions

* `Schemata.Outcome.Fails`: if there is no result, the reason is one of the given ones.
* `Schemata.Run.Preserves`: the invariant survives.
* `Schemata.Attempt.Decides`: the results are known beforehand, and the invariant survives.
* `Schemata.Store.declarationCalls`: the calls of functions that declare fields or sets of fields.
* `Schemata.Store.after`: the store after some events that leave everything else alone.

## Main results

* `Schemata.Attempt.run_bind_apply`: a sequence of attempts, run from a store.
* `Schemata.Attempt.preserves_bind`, `Schemata.Attempt.Decides.bind`: sequences.
-/

namespace Schemata

variable {W α β ε ε' : Type}

/-! ### Outcomes -/

namespace Outcome

theorem map_eq_ok_iff {x : Except ε α} {f : α → β} {b : β} :
    x.map f = .ok b ↔ ∃ a, x = .ok a ∧ f a = b := by
  cases x <;> simp [Except.map]

theorem mapError_eq_ok_iff {x : Except ε α} {f : ε → ε'} {a : α} :
    x.mapError f = .ok a ↔ x = .ok a := by
  cases x with
  | error e => exact ⟨fun h => (nomatch h), fun h => (nomatch h)⟩
  | ok b =>
    constructor
    · rintro ⟨⟩
      rfl
    · rintro ⟨⟩
      rfl

theorem bind_eq_ok_iff {x : Except ε α} {f : α → Except ε β} {b : β} :
    x >>= f = .ok b ↔ ∃ a, x = .ok a ∧ f a = .ok b := by
  cases x <;> simp [bind, Except.bind]

theorem bind_eq_error_iff {x : Except ε α} {f : α → Except ε β} {e : ε} :
    x >>= f = .error e ↔ x = .error e ∨ ∃ a, x = .ok a ∧ f a = .error e := by
  cases x <;> simp [bind, Except.bind]

/-- Outcomes found one after the other are all there if each of them is. -/
theorem mapM_eq_ok_iff {f : α → Except ε β} {as : List α} {bs : List β} :
    as.mapM f = .ok bs ↔ List.Forall₂ (fun a b => f a = .ok b) as bs := by
  induction as generalizing bs with
  | nil =>
    rw [List.mapM_nil, List.forall₂_nil_left_iff]
    exact ⟨fun h => (Except.ok.inj h).symm, fun h => congrArg _ h.symm⟩
  | cons a rest ih =>
    rw [List.mapM_cons, bind_eq_ok_iff]
    constructor
    · rintro ⟨b, hb, hrest⟩
      obtain ⟨others, hothers, hbs⟩ := bind_eq_ok_iff.mp hrest
      obtain rfl := Except.ok.inj hbs
      exact .cons hb (ih.mp hothers)
    · rintro (_ | ⟨hb, hothers⟩)
      exact ⟨_, hb, bind_eq_ok_iff.mpr ⟨_, ih.mpr hothers, rfl⟩⟩

/-- Outcomes found one after the other fail with the first that fails. -/
theorem mapM_eq_error_iff {f : α → Except ε β} {as : List α} {e : ε} :
    as.mapM f = .error e ↔ ∃ before a after, as = before ++ a :: after ∧
      (∀ earlier ∈ before, ∃ b, f earlier = .ok b) ∧ f a = .error e := by
  induction as with
  | nil =>
    constructor
    · rintro ⟨⟩
    · rintro ⟨before, a, after, h, -⟩
      cases before <;> cases h
  | cons first rest ih =>
    rw [List.mapM_cons, bind_eq_error_iff]
    constructor
    · rintro (hfirst | ⟨b, hb, hrest⟩)
      · exact ⟨[], first, rest, rfl, fun _ h => (nomatch h), hfirst⟩
      · rcases bind_eq_error_iff.mp hrest with hrest | ⟨_, -, hdone⟩
        · obtain ⟨before, a, after, rfl, hbefore, ha⟩ := ih.mp hrest
          exact ⟨first :: before, a, after, rfl, List.forall_mem_cons.mpr ⟨⟨b, hb⟩, hbefore⟩, ha⟩
        · cases hdone
    · rintro ⟨before, a, after, hsplit, hbefore, ha⟩
      cases before with
      | nil =>
        cases hsplit
        exact .inl ha
      | cons earlier before =>
        cases hsplit
        obtain ⟨⟨b, hb⟩, hbefore⟩ := List.forall_mem_cons.mp hbefore
        refine .inr ⟨b, hb, bind_eq_error_iff.mpr (.inl ?_)⟩
        exact ih.mpr ⟨before, a, after, rfl, hbefore, ha⟩

/-- If there is no result, the reason is one of those. -/
def Fails (reasons : ε → Prop) (x : Except ε α) : Prop :=
  ∀ e, x = .error e → reasons e

section Fails

variable {reasons : ε → Prop}

theorem fails_ok (a : α) : Fails reasons (.ok a : Except ε α) :=
  fun _ h => nomatch h

theorem fails_error {e : ε} (h : reasons e) : Fails reasons (.error e : Except ε α) := by
  rintro _ ⟨⟩
  exact h

theorem Fails.imp {reasons' : ε → Prop} {x : Except ε α} (hx : Fails reasons x)
    (h : ∀ e, reasons e → reasons' e) : Fails reasons' x :=
  fun e he => h e (hx e he)

theorem Fails.bind {x : Except ε α} {f : α → Except ε β} (hx : Fails reasons x)
    (hf : ∀ a, x = .ok a → Fails reasons (f a)) : Fails reasons (x >>= f) := by
  cases x with
  | error e => exact fails_error (hx e rfl)
  | ok a => exact hf a rfl

theorem Fails.map {x : Except ε α} (hx : Fails reasons x) (f : α → β) :
    Fails reasons (x.map f) := by
  cases x with
  | error e => exact fails_error (hx e rfl)
  | ok a => exact fails_ok (f a)

theorem fails_mapM {f : β → Except ε α} (hf : ∀ b, Fails reasons (f b)) (bs : List β) :
    Fails reasons (bs.mapM f) := by
  induction bs with
  | nil => exact fails_ok []
  | cons b rest ih =>
    rw [List.mapM_cons]
    exact (hf b).bind fun _ _ => ih.bind fun _ _ => fails_ok _

end Fails

end Outcome

/-! ### Running from a store -/

namespace Run

theorem pure_apply (a : α) (s : Store W) : (pure a : Run W α) s = (a, s) := rfl

theorem bind_apply (m : Run W α) (f : α → Run W β) (s : Store W) :
    (m >>= f) s = f (m s).1 (m s).2 := rfl

end Run

namespace Attempt

theorem run_pure_apply (a : α) (s : Store W) :
    (pure a : Attempt W ε α).run s = (.ok a, s) := rfl

/-- A sequence of attempts goes on where the first one succeeds, from the store it leaves. -/
theorem run_bind_apply (m : Attempt W ε α) (f : α → Attempt W ε β) (s : Store W) :
    (m >>= f).run s = match m.run s with
      | (.ok a, s') => (f a).run s'
      | (.error e, s') => (.error e, s') := by
  change ExceptT.bindCont f (m.run s).1 (m.run s).2 = _
  rcases m.run s with ⟨_ | _, _⟩ <;> rfl

theorem run_ofExcept_apply (outcome : Except ε α) (s : Store W) :
    (ofExcept outcome : Attempt W ε α).run s = (outcome, s) := rfl

theorem run_ofRun_apply (m : Run W α) (s : Store W) :
    (ofRun m : Attempt W ε α).run s = (.ok (m s).1, (m s).2) := rfl

theorem run_require_apply (condition : Bool) (reason : ε) (s : Store W) :
    (require condition reason : Attempt W ε Unit).run s =
      (if condition then .ok () else .error reason, s) := rfl

theorem run_mapError_apply (f : ε → ε') (m : Attempt W ε α) (s : Store W) :
    (mapError f m).run s = ((m.run s).1.mapError f, (m.run s).2) := rfl

end Attempt

/-! ### Invariants of the store -/

/-- The invariant survives the computation, whatever its result. -/
def Run.Preserves (I : Store W → Prop) (m : Run W α) : Prop :=
  ∀ s, I s → I (m s).2

/-- From a store that satisfies `I`, the attempt succeeds with exactly the results that satisfy `P`,
and leaves a store that satisfies `I`. -/
def Attempt.Decides (I : Store W → Prop) (m : Attempt W ε α) (P : α → Prop) : Prop :=
  ∀ s, I s → (∀ a, (m.run s).1 = .ok a ↔ P a) ∧ I (m.run s).2

section Invariants

variable {I : Store W → Prop}

theorem Run.Preserves.bind {m : Run W α} {f : α → Run W β} (hm : Run.Preserves I m)
    (hf : ∀ a, Run.Preserves I (f a)) : Run.Preserves I (m >>= f) :=
  fun s hs => hf _ _ (hm s hs)

namespace Attempt

theorem preserves_bind {m : Attempt W ε α} {f : α → Attempt W ε β}
    (hm : Run.Preserves I m.run) (hf : ∀ a, Run.Preserves I (f a).run) :
    Run.Preserves I (m >>= f).run := by
  intro s hs
  rw [run_bind_apply]
  have hI := hm s hs
  rcases hr : m.run s with ⟨e | a, s'⟩ <;> rw [hr] at hI
  · exact hI
  · exact hf a s' hI

theorem preserves_ofExcept (outcome : Except ε α) :
    Run.Preserves I (ofExcept outcome : Attempt W ε α).run :=
  fun _ hs => hs

theorem preserves_require (condition : Bool) (reason : ε) :
    Run.Preserves I (require condition reason : Attempt W ε Unit).run :=
  fun _ hs => hs

theorem preserves_mapError {m : Attempt W ε α} (f : ε → ε')
    (hm : Run.Preserves I m.run) : Run.Preserves I (mapError f m).run :=
  hm

theorem decides_pure (a : α) : Decides I (pure a : Attempt W ε α) (· = a) :=
  fun _ hs => ⟨fun _ => ⟨fun h => (Except.ok.inj h).symm, fun h => h ▸ rfl⟩, hs⟩

theorem decides_throw (e : ε) : Decides I (throw e : Attempt W ε α) fun _ => False :=
  fun _ hs => ⟨fun _ => ⟨fun h => (nomatch h), False.elim⟩, hs⟩

theorem decides_ofExcept (outcome : Except ε α) :
    Decides I (ofExcept outcome : Attempt W ε α) fun a => outcome = .ok a :=
  fun _ hs => ⟨fun _ => Iff.rfl, hs⟩

theorem decides_require (condition : Bool) (reason : ε) :
    Decides I (require condition reason : Attempt W ε Unit) fun _ => condition = true := by
  refine fun s hs => ⟨fun _ => ?_, hs⟩
  rw [run_require_apply]
  cases condition <;> simp

theorem Decides.imp {m : Attempt W ε α} {P Q : α → Prop} (hm : Decides I m P)
    (h : ∀ a, P a ↔ Q a) : Decides I m Q :=
  fun s hs => ⟨fun a => ((hm s hs).1 a).trans (h a), (hm s hs).2⟩

theorem Decides.mapError {m : Attempt W ε α} {P : α → Prop} (hm : Decides I m P) (f : ε → ε') :
    Decides I (mapError f m) P := by
  refine fun s hs => ⟨fun a => ?_, (hm s hs).2⟩
  rw [run_mapError_apply]
  exact Outcome.mapError_eq_ok_iff.trans ((hm s hs).1 a)

/-- A sequence succeeds if its first attempt does and so does what follows from its result. -/
theorem Decides.bind {m : Attempt W ε α} {f : α → Attempt W ε β} {P : α → Prop}
    {Q : α → β → Prop} (hm : Decides I m P) (hf : ∀ a, P a → Decides I (f a) (Q a)) :
    Decides I (m >>= f) fun b => ∃ a, P a ∧ Q a b := by
  intro s hs
  obtain ⟨hP, hI⟩ := hm s hs
  rw [run_bind_apply]
  rcases hr : m.run s with ⟨e | a, s'⟩ <;> rw [hr] at hP hI
  · refine ⟨fun b => ⟨fun h => (by cases h), ?_⟩, hI⟩
    rintro ⟨a, ha, -⟩
    cases (hP a).mpr ha
  · obtain ⟨hQ, hI'⟩ := hf a ((hP a).mp rfl) s' hI
    refine ⟨fun b => ⟨fun h => ⟨a, (hP a).mp rfl, (hQ b).mp h⟩, ?_⟩, hI'⟩
    rintro ⟨a', ha', hb⟩
    obtain rfl := Except.ok.inj ((hP a').mpr ha')
    exact (hQ b).mpr hb

/-- A check that is followed by another passes if both do. -/
theorem Decides.and {m k : Attempt W ε Unit} {P Q : Prop} (hm : Decides I m fun _ => P)
    (hk : Decides I k fun _ => Q) : Decides I (m >>= fun _ => k) fun _ => P ∧ Q :=
  (hm.bind fun _ _ => hk).imp fun _ => exists_const Unit

end Attempt

end Invariants

/-! ### Calls of functions that declare -/

/-- The call of a function that declares a field or a set of fields, of an event that is one. -/
def Event.declarationCall? : Event → Option Call
  | .called (.fieldOf h) => some (.fieldOf h)
  | .called (.fieldSetOf h) => some (.fieldSetOf h)
  | _ => none

namespace Store

/-- The calls of functions that declare fields or sets of fields, from the first to the last. -/
def declarationCalls (s : Store W) : List Call :=
  s.journal.toList.filterMap Event.declarationCall?

theorem declarationCalls_record (s : Store W) (e : Event) :
    (s.record e).declarationCalls = s.declarationCalls ++ e.declarationCall?.toList := by
  cases h : e.declarationCall? <;> simp [declarationCalls, record, h]

/-! ### Events that leave everything else alone -/

/-- The store after these events, which have brought the host into the given world. -/
def after (s : Store W) (events : List Event) (world : W) : Store W :=
  { s with world, journal := s.journal ++ events.toArray }

@[simp] theorem world_after (s : Store W) (events : List Event) (world : W) :
    (s.after events world).world = world := rfl

@[simp] theorem after_nil (s : Store W) : s.after [] s.world = s := by
  simp [after]

@[simp] theorem after_after (s : Store W) (events events' : List Event) (world world' : W) :
    (s.after events world).after events' world' = s.after (events ++ events') world' := by
  simp [after, Array.append_assoc]

theorem record_eq_after (s : Store W) (e : Event) : s.record e = s.after [e] s.world := by
  simp [record, after]

end Store

/-- A call of the host is one event, and it brings the host into another world. -/
theorem Run.call_apply (c : Call) (answer : W → α × W) (s : Store W) :
    call c answer s = ((answer s.world).1, s.after [.called c] (answer s.world).2) := by
  rw [call, Store.record_eq_after]
  rfl

end Schemata
