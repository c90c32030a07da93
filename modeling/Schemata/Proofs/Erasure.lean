import Schemata.Proofs.Resolving

/-!
# References without their deferral

A reference ends in a name, in a type that is already there, or in a deferred reference. Where it
is deferred the host is asked for what comes in that place, and what it gives may end in a deferred
reference again. This goes on from the outside in until no deferral is left, or for ever, since a
host may always give another deferred reference. Resolving follows it for 32 calls.

What is then left settles the type: the wrapping of the reference without deferral, around the kind
and the name of the type that it ends in. Of the reasons against it the depth comes first, then a
name that is not known, and then a non-null around a non-null, of which the innermost counts.

## Main definitions

* `Schemata.ResolvedType.Proper`: no non-null stands directly around a non-null.
* `Schemata.TypeRef.Asks`: the calls that are made from the outside in, and where they lead.
* `Schemata.TypeRef.Settles`: what a reference without deferral comes to.
* `Schemata.TypeRef.Resolution`: what resolving a reference comes to, and the store afterwards.

## Main results

* `Schemata.TypeRef.Asks.run_resolveWithin`: resolving makes the calls one by one.
* `Schemata.TypeRef.settles_iff`: what a reference without deferral comes to is its outcome.
* `Schemata.TypeRef.resolve_erases`: resolving erases deferral.
-/

namespace Schemata

variable {W : Type} {host : Host W} {types : TypeLookup}

/-! ### Types inside types -/

namespace ResolvedType

/-- The part is the type itself, or it stands somewhere inside its wrapping. -/
inductive Within (part : ResolvedType) : ResolvedType → Prop
  | self : Within part part
  | list {inner : ResolvedType} (h : Within part inner) : Within part (.list inner)
  | nonNull {inner : ResolvedType} (h : Within part inner) : Within part (.nonNull inner)

/-- No non-null stands directly around a non-null, at any depth. -/
def Proper (type : ResolvedType) : Prop :=
  ∀ inner, ¬ (nonNull (nonNull inner)).Within type

theorem proper_named (head : TypeHead) : (named head).Proper := by
  rintro inner ⟨⟩

theorem proper_list_iff {inner : ResolvedType} : (list inner).Proper ↔ inner.Proper := by
  constructor
  · exact fun h pair hpair => h pair (.list hpair)
  · rintro h pair (_ | hpair)
    exact h pair hpair

theorem proper_nonNull_iff {inner : ResolvedType} :
    (nonNull inner).Proper ↔ inner.isNonNull = false ∧ inner.Proper := by
  constructor
  · refine fun h => ⟨?_, fun pair hpair => h pair (.nonNull hpair)⟩
    cases inner with
    | nonNull pair => exact (h pair .self).elim
    | _ => rfl
  · rintro ⟨hnullable, h⟩ pair (_ | _ | hpair)
    · cases hnullable
    · exact h pair hpair

/-- A type that is not proper has an innermost non-null around a non-null. -/
theorem proper_or_pair (type : ResolvedType) :
    type.Proper ∨ ∃ inner, (nonNull (nonNull inner)).Within type ∧ (nonNull inner).Proper := by
  induction type with
  | named head => exact .inl (proper_named head)
  | list type ih =>
    rcases ih with hproper | ⟨inner, hpair, hinner⟩
    · exact .inl (proper_list_iff.mpr hproper)
    · exact .inr ⟨inner, .list hpair, hinner⟩
  | nonNull type ih =>
    rcases ih with hproper | ⟨inner, hpair, hinner⟩
    · cases type with
      | nonNull inner => exact .inr ⟨inner, .self, hproper⟩
      | _ => exact .inl (proper_nonNull_iff.mpr ⟨rfl, hproper⟩)
    · exact .inr ⟨inner, .nonNull hpair, hinner⟩

end ResolvedType

namespace TypeRef

/-! ### References without deferral -/

/-- The producer of the deferred reference that the reference ends in. -/
def producer? : TypeRef → Option Handle
  | deferred producer => some producer
  | ready _ | named _ => none
  | list inner | nonNull inner => inner.producer?

/-- What the reference ends in. -/
def innermost : TypeRef → TypeRef
  | list inner | nonNull inner => inner.innermost
  | ref => ref

/-- The kind and the name of the type that the reference ends in, if it is known. -/
def head? (types : TypeLookup) (ref : TypeRef) : Option TypeHead :=
  match ref.innermost with
  | ready head => some head
  | named name => types name
  | _ => none

/-- The wrapping of the reference, around the given kind and name. -/
def around (head : TypeHead) : TypeRef → ResolvedType
  | list inner => .list (inner.around head)
  | nonNull inner => .nonNull (inner.around head)
  | deferred _ | named _ | ready _ => .named head

/-- What a reference without deferral comes to. -/
inductive Settles (types : TypeLookup) (ref : TypeRef) : Except ResolutionError ResolvedType → Prop
  /-- It ends in a name that is not known. -/
  | undefined {name : String} (hname : ref.innermost = named name) (hnone : types name = none) :
      Settles types ref (.error (.undefinedTypeName name))
  /-- A non-null stands directly around a non-null, and none does further inside. -/
  | nested {head : TypeHead} {inner : ResolvedType} (hhead : ref.head? types = some head)
      (hpair : (ResolvedType.nonNull (.nonNull inner)).Within (ref.around head))
      (hinner : (ResolvedType.nonNull inner).Proper) :
      Settles types ref (.error (.nestedNonNull (ResolvedType.nonNull (.nonNull inner)).text))
  | resolved {head : TypeHead} (hhead : ref.head? types = some head)
      (hproper : (ref.around head).Proper) : Settles types ref (.ok (ref.around head))

theorem outcome_of_undefined {ref : TypeRef} {name : String} (hname : ref.innermost = named name)
    (hnone : types name = none) : ref.outcome types = .error (.undefinedTypeName name) := by
  induction ref with
  | deferred producer => cases hname
  | ready head => cases hname
  | list inner ih =>
    have hinner := ih hname
    rw [outcome, hinner]
    rfl
  | named name =>
    cases hname
    rw [outcome, lookUp, hnone]
  | nonNull inner ih =>
    have hinner := ih hname
    rw [outcome, hinner]
    rfl

theorem outcome_of_proper {ref : TypeRef} {head : TypeHead} (hhead : ref.head? types = some head)
    (hproper : (ref.around head).Proper) : ref.outcome types = .ok (ref.around head) := by
  induction ref with
  | deferred producer => cases hhead
  | ready head =>
    cases hhead
    rfl
  | list inner ih =>
    have hinner := ih hhead (ResolvedType.proper_list_iff.mp hproper)
    rw [outcome, hinner]
    rfl
  | named name =>
    have hfound : types name = some head := hhead
    rw [outcome, lookUp, hfound]
    rfl
  | nonNull inner ih =>
    obtain ⟨hnullable, hproper⟩ := ResolvedType.proper_nonNull_iff.mp hproper
    have hinner := ih hhead hproper
    rw [outcome, hinner]
    change wrapNonNull (inner.around head) = _
    rw [wrapNonNull, hnullable]
    rfl

/-- The innermost non-null around a non-null is the one that is refused. -/
theorem outcome_of_pair {ref : TypeRef} {head : TypeHead} {inner : ResolvedType}
    (hhead : ref.head? types = some head)
    (hpair : (ResolvedType.nonNull (.nonNull inner)).Within (ref.around head))
    (hinner : (ResolvedType.nonNull inner).Proper) :
    ref.outcome types =
      .error (.nestedNonNull (ResolvedType.nonNull (.nonNull inner)).text) := by
  induction ref with
  | deferred producer => cases hhead
  | ready head => cases hpair
  | named name => cases hpair
  | list ref ih =>
    rw [around] at hpair
    cases hpair with
    | list hpair =>
      rw [outcome, ih hhead hpair]
      rfl
  | nonNull ref ih =>
    rw [around] at hpair
    generalize haround : ref.around head = type at hpair
    cases hpair with
    | self =>
      -- What is inside is proper, so it resolves, and the wrapping itself is refused.
      have hresolved : ref.outcome types = .ok (.nonNull inner) := by
        rw [← haround]
        exact outcome_of_proper hhead (haround ▸ hinner)
      rw [outcome, hresolved]
      rfl
    | nonNull hpair =>
      rw [outcome, ih hhead (haround ▸ hpair)]
      rfl

theorem head?_or_undefined {ref : TypeRef} (hbare : ref.producer? = none) :
    (∃ head, ref.head? types = some head) ∨
      ∃ name, ref.innermost = named name ∧ types name = none := by
  induction ref with
  | deferred producer => cases hbare
  | ready head => exact .inl ⟨head, rfl⟩
  | list inner ih => exact ih hbare
  | named name =>
    cases hfound : types name with
    | none => exact .inr ⟨name, rfl, hfound⟩
    | some head => exact .inl ⟨head, hfound⟩
  | nonNull inner ih => exact ih hbare

/-- **What a reference without deferral comes to** is its outcome. -/
theorem settles_iff {ref : TypeRef} (hbare : ref.producer? = none)
    {result : Except ResolutionError ResolvedType} :
    ref.Settles types result ↔ ref.outcome types = result := by
  constructor
  · rintro (⟨hname, hnone⟩ | ⟨hhead, hpair, hinner⟩ | ⟨hhead, hproper⟩)
    · exact outcome_of_undefined hname hnone
    · exact outcome_of_pair hhead hpair hinner
    · exact outcome_of_proper hhead hproper
  · rintro rfl
    rcases head?_or_undefined hbare with ⟨head, hhead⟩ | ⟨name, hname, hnone⟩
    · rcases (ref.around head).proper_or_pair with hproper | ⟨inner, hpair, hinner⟩
      · rw [outcome_of_proper hhead hproper]
        exact .resolved hhead hproper
      · rw [outcome_of_pair hhead hpair hinner]
        exact .nested hhead hpair hinner
    · rw [outcome_of_undefined hname hnone]
      exact .undefined hname hnone

/-- Where types stand under their own names, a type is written as the reference is. -/
theorem text_around (hkeyed : ∀ name head, types name = some head → head.name = name)
    {ref : TypeRef} {head : TypeHead} (hhead : ref.head? types = some head) :
    (ref.around head).text = ref.text := by
  induction ref with
  | deferred producer => cases hhead
  | ready head =>
    cases hhead
    rfl
  | named name => exact hkeyed name head hhead
  | list inner ih =>
    have hinner := ih hhead
    rw [around, ResolvedType.text, hinner, text]
  | nonNull inner ih =>
    have hinner := ih hhead
    rw [around, ResolvedType.text, hinner, text]

/-! ### Asking from the outside in -/

/-- The producers are asked one after the other, each for the deferred reference that is left then,
and what it gives comes in that place. Such a sequence of calls may stop anywhere. -/
inductive Asks (host : Host W) : TypeRef → W → List Handle → TypeRef → W → Prop
  | stop (ref : TypeRef) (w : W) : Asks host ref w [] ref w
  | ask {ref reached : TypeRef} {w w' : W} {producer : Handle} {producers : List Handle}
      (hproducer : ref.producer? = some producer)
      (hrest : Asks host (ref.replaceDeferred fun _ => (host.typeOf producer w).1)
        (host.typeOf producer w).2 producers reached w') :
      Asks host ref w (producer :: producers) reached w'

/-- So many calls can be made, unless no deferral is left before. -/
theorem exists_asks (host : Host W) (calls : Nat) (ref : TypeRef) (w : W) :
    ∃ producers reached w', ref.Asks host w producers reached w' ∧ producers.length ≤ calls ∧
      (reached.producer? = none ∨ producers.length = calls ∧ reached.producer?.isSome) := by
  induction calls generalizing ref w with
  | zero =>
    refine ⟨[], ref, w, .stop ref w, Nat.le_refl 0, ?_⟩
    cases hproducer : ref.producer? with
    | none => exact .inl rfl
    | some producer => exact .inr ⟨rfl, rfl⟩
  | succ calls ih =>
    cases hproducer : ref.producer? with
    | none => exact ⟨[], ref, w, .stop ref w, Nat.zero_le _, .inl hproducer⟩
    | some producer =>
      obtain ⟨producers, reached, w', hasks, hlength, hend⟩ :=
        ih (ref.replaceDeferred fun _ => (host.typeOf producer w).1) (host.typeOf producer w).2
      refine ⟨producer :: producers, reached, w', .ask hproducer hasks, Nat.succ_le_succ hlength,
        hend.imp_right fun ⟨hall, hmore⟩ => ⟨congrArg Nat.succ hall, hmore⟩⟩

theorem resolveWith_replaceDeferred (types : TypeLookup) (replacement : Handle → TypeRef)
    (onDeferred : Handle → Attempt W ResolutionError ResolvedType) (ref : TypeRef) :
    (ref.replaceDeferred replacement).resolveWith types onDeferred =
      ref.resolveWith types fun producer =>
        (replacement producer).resolveWith types onDeferred := by
  induction ref with
  | list inner ih => rw [replaceDeferred, resolveWith, ih, resolveWith]
  | nonNull inner ih => rw [replaceDeferred, resolveWith, ih, resolveWith]
  | _ => rfl

theorem run_resolveWith_of_bare {onDeferred : Handle → Attempt W ResolutionError ResolvedType}
    {ref : TypeRef} (hbare : ref.producer? = none) (s : Store W) :
    (ref.resolveWith types onDeferred).run s = (ref.outcome types, s) := by
  induction ref with
  | deferred producer => cases hbare
  | ready head => rfl
  | named name => rfl
  | list inner ih =>
    rw [resolveWith, Attempt.run_bind_apply, ih hbare, outcome]
    cases inner.outcome types <;> rfl
  | nonNull inner ih =>
    rw [resolveWith, Attempt.run_bind_apply, ih hbare, outcome]
    cases inner.outcome types <;> rfl

/-- Nothing happens before the deferred reference is met, and what follows depends on it alone. -/
theorem run_resolveWith_congr {onDeferred onDeferred' : Handle → Attempt W ResolutionError
    ResolvedType} {ref : TypeRef} {producer : Handle} (hproducer : ref.producer? = some producer)
    {s s' : Store W} (h : (onDeferred producer).run s = (onDeferred' producer).run s') :
    (ref.resolveWith types onDeferred).run s = (ref.resolveWith types onDeferred').run s' := by
  induction ref with
  | deferred producer =>
    cases hproducer
    exact h
  | ready head => cases hproducer
  | named name => cases hproducer
  | list inner ih =>
    rw [resolveWith, resolveWith, Attempt.run_bind_apply, Attempt.run_bind_apply, ih hproducer]
  | nonNull inner ih =>
    rw [resolveWith, resolveWith, Attempt.run_bind_apply, Attempt.run_bind_apply, ih hproducer]

theorem run_resolveWith_of_error {onDeferred : Handle → Attempt W ResolutionError ResolvedType}
    {ref : TypeRef} {producer : Handle} (hproducer : ref.producer? = some producer)
    {s s' : Store W} {e : ResolutionError} (h : (onDeferred producer).run s = (.error e, s')) :
    (ref.resolveWith types onDeferred).run s = (.error e, s') := by
  induction ref with
  | deferred producer =>
    cases hproducer
    exact h
  | ready head => cases hproducer
  | named name => cases hproducer
  | list inner ih => rw [resolveWith, Attempt.run_bind_apply, ih hproducer]
  | nonNull inner ih => rw [resolveWith, Attempt.run_bind_apply, ih hproducer]

/-- How deferred references are treated does not depend on the reference that they stand in. -/
theorem exists_resolveWithin_eq (host : Host W) (types : TypeLookup) (deferrals : Nat) :
    ∃ onDeferred, ∀ ref : TypeRef,
      ref.resolveWithin host types deferrals = ref.resolveWith types onDeferred := by
  cases deferrals with
  | zero => exact ⟨_, fun _ => rfl⟩
  | succ deferrals => exact ⟨_, fun _ => rfl⟩

theorem run_resolveWithin_of_bare {ref : TypeRef} (hbare : ref.producer? = none) (deferrals : Nat)
    (s : Store W) : (ref.resolveWithin host types deferrals).run s = (ref.outcome types, s) := by
  obtain ⟨onDeferred, heq⟩ := exists_resolveWithin_eq host types deferrals
  rw [heq]
  exact run_resolveWith_of_bare hbare s

/-- A call puts what the producer gives in the place of the deferred reference. -/
theorem run_resolveWithin_succ {ref : TypeRef} {producer : Handle}
    (hproducer : ref.producer? = some producer) (deferrals : Nat) (s : Store W) :
    (ref.resolveWithin host types (deferrals + 1)).run s =
      ((ref.replaceDeferred fun _ => (host.typeOf producer s.world).1).resolveWithin host types
        deferrals).run (s.after [.called (.typeOf producer)] (host.typeOf producer s.world).2) := by
  obtain ⟨onDeferred, heq⟩ := exists_resolveWithin_eq host types deferrals
  rw [heq, resolveWith_replaceDeferred]
  refine run_resolveWith_congr hproducer ?_
  rw [Attempt.run_bind_apply, Attempt.run_ofRun_apply, Run.typeOf, Run.call_apply]
  dsimp only
  rw [heq]

namespace Asks

variable {ref reached : TypeRef} {w w' : W} {producers : List Handle}

/-- **Resolving makes the calls one by one**, as long as it may. -/
theorem run_resolveWithin (h : ref.Asks host w producers reached w') (types : TypeLookup)
    (deferrals : Nat) :
    ∀ s : Store W, s.world = w →
      (ref.resolveWithin host types (deferrals + producers.length)).run s =
        (reached.resolveWithin host types deferrals).run
          (s.after (producers.map fun producer => .called (.typeOf producer)) w') := by
  induction h with
  | stop ref w =>
    rintro s rfl
    rw [List.map_nil, Store.after_nil, List.length_nil, Nat.add_zero]
  | ask hproducer hrest ih =>
    rintro s rfl
    rw [List.length_cons, ← Nat.add_assoc, run_resolveWithin_succ hproducer, ih _ rfl,
      Store.after_after, List.map_cons, List.singleton_append]

end Asks

/-- What resolving the reference from the store comes to: its outcome, and the store afterwards, in
which nothing but the calls has happened. -/
inductive Resolution (host : Host W) (types : TypeLookup) (ref : TypeRef) (s : Store W) :
    Except ResolutionError ResolvedType × Store W → Prop
  /-- After 32 calls the reference is deferred still. -/
  | exceeded {producers : List Handle} {reached : TypeRef} {world : W}
      (hasks : ref.Asks host s.world producers reached world) (hlength : producers.length = 32)
      (hmore : reached.producer?.isSome) :
      Resolution host types ref s (.error (.deferredTypeDepthExceeded 32),
        s.after (producers.map fun producer => .called (.typeOf producer)) world)
  /-- After 32 calls or fewer no deferral is left. -/
  | erased {producers : List Handle} {bare : TypeRef} {world : W}
      {outcome : Except ResolutionError ResolvedType}
      (hasks : ref.Asks host s.world producers bare world) (hlength : producers.length ≤ 32)
      (hbare : bare.producer? = none) (hsettles : bare.Settles types outcome) :
      Resolution host types ref s (outcome,
        s.after (producers.map fun producer => .called (.typeOf producer)) world)

theorem Resolution.run_resolve {ref : TypeRef} {s : Store W}
    {result : Except ResolutionError ResolvedType × Store W}
    (h : ref.Resolution host types s result) : (ref.resolve host types).run s = result := by
  cases h with
  | @exceeded producers reached world hasks hlength hmore =>
    obtain ⟨producer, hproducer⟩ := Option.isSome_iff_exists.mp hmore
    have hrun := hasks.run_resolveWithin types 0 s rfl
    rw [Nat.zero_add, hlength] at hrun
    exact hrun.trans (run_resolveWith_of_error hproducer rfl)
  | @erased producers bare world outcome hasks hlength hbare hsettles =>
    have hrun := hasks.run_resolveWithin types (32 - producers.length) s rfl
    rw [Nat.sub_add_cancel hlength] at hrun
    rw [← (settles_iff hbare).mp hsettles]
    exact hrun.trans (run_resolveWithin_of_bare hbare _ _)

/-- **Resolving erases deferral.** Whatever the host gives and whatever types are known, resolving
comes to an end, and what it comes to is described by `Resolution`: the producers on the way are
asked from the outside in, each once and 32 at most, and nothing else happens. If that does not lead
to a reference without deferral, the depth is exceeded; if it does, what this reference ends in must
be known, then no non-null may stand directly around a non-null, and then the result is its wrapping
around the kind and the own name of that type.

A type that comes out is therefore proper, and where types stand under their own names, as they do
in registries, it is written as the reference without deferral. -/
theorem resolve_erases (host : Host W) (types : TypeLookup) (ref : TypeRef) (s : Store W) :
    (∀ result, (ref.resolve host types).run s = result ↔ ref.Resolution host types s result) ∧
      ∀ type s', (ref.resolve host types).run s = (.ok type, s') → type.Proper ∧
        ∃ producers bare world, ref.Asks host s.world producers bare world ∧
          bare.producer? = none ∧
          ((∀ name head, types name = some head → head.name = name) → type.text = bare.text) := by
  have hresolution : ∃ result, ref.Resolution host types s result := by
    obtain ⟨producers, reached, world, hasks, hlength, hbare | ⟨hall, hmore⟩⟩ :=
      exists_asks host 32 ref s.world
    · exact ⟨_, .erased hasks hlength hbare ((settles_iff hbare).mpr rfl)⟩
    · exact ⟨_, .exceeded hasks hall hmore⟩
  obtain ⟨found, hfound⟩ := hresolution
  refine ⟨fun result => ⟨?_, Resolution.run_resolve⟩, fun type s' hrun => ?_⟩
  · rintro rfl
    rwa [hfound.run_resolve]
  · obtain rfl : found = (.ok type, s') := hfound.run_resolve.symm.trans hrun
    cases hfound with
    | erased hasks hlength hbare hsettles =>
      cases hsettles with
      | resolved hhead hproper =>
        exact ⟨hproper, _, _, _, hasks, hbare, fun hkeyed => text_around hkeyed hhead⟩

end TypeRef

end Schemata
