import Schemata.Proofs.Effects
import Schemata.TypeRef.Resolve

/-!
# What references resolve to

Resolving a reference depends on the host only by what its deferred references produce. Unfolding
puts that in their place, as it is in a given world of the host; then the type can be read off the
reference and the known types alone. Its kind and name are those of a known type unless the
reference ends in a type that was given ready.

## Main definitions

* `Schemata.TypeRef.unfolded`: the reference with what is produced in a world of the host.
* `Schemata.TypeRef.outcome`: what an unfolded reference resolves to.
* `Schemata.TypeRef.MayResolveTo`: what a reference resolves to in some world.
* `Schemata.ResolvedType.Known`, `Schemata.TypeRef.Anchored`: the kind and name are those of a known
  type.

## Main results

* `Schemata.TypeRef.run_resolve_fst`: resolving gives the outcome of the unfolded reference.
* `Schemata.TypeRef.known_iff`: the types of known kind and name are those of anchored references.
-/

namespace Schemata

variable {W : Type} {host : Host W} {types : TypeLookup}

namespace TypeRef

/-! ### Unfolding -/

/-- The reference with another one in the place of a deferred one. -/
def replaceDeferred (replacement : Handle → TypeRef) : TypeRef → TypeRef
  | deferred producer => replacement producer
  | ready head => ready head
  | list inner => list (replaceDeferred replacement inner)
  | named name => named name
  | nonNull inner => nonNull (replaceDeferred replacement inner)

@[simp] theorem replaceDeferred_deferred (ref : TypeRef) : ref.replaceDeferred deferred = ref := by
  induction ref with
  | list inner ih => rw [replaceDeferred, ih]
  | nonNull inner ih => rw [replaceDeferred, ih]
  | _ => rfl

/-- The reference with what the host produces, where it is asked so many times at most. -/
def unfoldedWithin (host : Host W) : Nat → W → TypeRef → TypeRef
  | 0, _, ref => ref
  | n + 1, w, ref => ref.replaceDeferred fun producer =>
    unfoldedWithin host n (host.typeOf producer w).2 (host.typeOf producer w).1

/-- Hosts that give the same are unfolded alike, whatever becomes of their worlds. -/
theorem unfoldedWithin_congr {W' : Type} {host' : Host W'}
    (h : ∀ producer w w', (host.typeOf producer w).1 = (host'.typeOf producer w').1) (n : Nat)
    (ref : TypeRef) (w : W) (w' : W') :
    ref.unfoldedWithin host n w = ref.unfoldedWithin host' n w' := by
  induction n generalizing ref w w' with
  | zero => rfl
  | succ n ih =>
    have hproduced : (fun producer =>
        unfoldedWithin host n (host.typeOf producer w).2 (host.typeOf producer w).1) =
          fun producer =>
            unfoldedWithin host' n (host'.typeOf producer w').2 (host'.typeOf producer w').1 := by
      funext producer
      rw [h producer w w']
      exact ih _ _ _
    rw [unfoldedWithin, unfoldedWithin, hproduced]

/-- The reference with what the host produces, asked as often as resolving does. It is deferred
still if that was not often enough. -/
def unfolded (host : Host W) (w : W) (ref : TypeRef) : TypeRef :=
  ref.unfoldedWithin host maxDeferrals w

/-- What the reference resolves to if nothing more is asked for. -/
def outcome (types : TypeLookup) : TypeRef → Except ResolutionError ResolvedType
  | deferred _ => .error (.deferredTypeDepthExceeded maxDeferrals)
  | ready head => .ok (.named head)
  | list inner => (outcome types inner).map .list
  | named name => lookUp types name
  | nonNull inner => outcome types inner >>= wrapNonNull

theorem run_resolveWith_fst {onDeferred : Handle → Attempt W ResolutionError ResolvedType}
    {replacement : Handle → TypeRef} {s : Store W}
    (h : ∀ producer, ((onDeferred producer).run s).1 = (replacement producer).outcome types)
    (ref : TypeRef) : ((ref.resolveWith types onDeferred).run s).1 =
      (ref.replaceDeferred replacement).outcome types := by
  induction ref with
  | deferred producer => exact h producer
  | ready head => rfl
  | list inner ih =>
    rw [replaceDeferred, outcome, ← ih, resolveWith, Attempt.run_bind_apply]
    rcases (inner.resolveWith types onDeferred).run s with ⟨e | type, s'⟩ <;> rfl
  | named name => rfl
  | nonNull inner ih =>
    rw [replaceDeferred, outcome, ← ih, resolveWith, Attempt.run_bind_apply]
    rcases (inner.resolveWith types onDeferred).run s with ⟨e | type, s'⟩ <;> rfl

theorem run_resolveWithin_fst (n : Nat) (ref : TypeRef) (s : Store W) :
    ((ref.resolveWithin host types n).run s).1 =
      (ref.unfoldedWithin host n s.world).outcome types := by
  induction n generalizing ref s with
  | zero =>
    have hspent : ((ref.resolveWithin host types 0).run s).1 =
        (ref.replaceDeferred deferred).outcome types := run_resolveWith_fst (fun _ => rfl) ref
    rw [hspent, replaceDeferred_deferred, unfoldedWithin]
  | succ n ih =>
    refine run_resolveWith_fst (fun producer => ?_) ref
    rw [Attempt.run_bind_apply, Attempt.run_ofRun_apply]
    exact ih _ _

/-- **Resolving a reference** gives what the reference is after unfolding. -/
theorem run_resolve_fst (ref : TypeRef) (s : Store W) :
    ((ref.resolve host types).run s).1 = (ref.unfolded host s.world).outcome types :=
  run_resolveWithin_fst maxDeferrals ref s

/-- The reference resolves to the type in some world of the host. -/
def MayResolveTo (host : Host W) (types : TypeLookup) (ref : TypeRef) (type : ResolvedType) :
    Prop :=
  ∃ w, (ref.unfolded host w).outcome types = .ok type

theorem mayResolveTo_of_run {ref : TypeRef} {type : ResolvedType} {s s' : Store W}
    (h : (ref.resolve host types).run s = (.ok type, s')) : ref.MayResolveTo host types type := by
  refine ⟨s.world, ?_⟩
  rw [← run_resolve_fst, h]

end TypeRef

/-! ### Known types -/

/-- The kind and the name inside all wrapping are those of a known type of the name. -/
def ResolvedType.Known (types : TypeLookup) (type : ResolvedType) : Prop :=
  types type.innermost.name = some type.innermost

namespace TypeRef

/-- The ready type that the reference ends in. -/
def ready? : TypeRef → Option TypeHead
  | deferred _ | named _ => none
  | ready head => some head
  | list inner | nonNull inner => inner.ready?

/-- A ready type that the reference ends in is a known type of its name. -/
def Anchored (types : TypeLookup) (ref : TypeRef) : Prop :=
  ∀ head, ref.ready? = some head → types head.name = some head

theorem wrapNonNull_eq_ok_iff {inner type : ResolvedType} :
    wrapNonNull inner = .ok type ↔ inner.isNullable = true ∧ type = .nonNull inner := by
  unfold wrapNonNull ResolvedType.isNullable
  cases inner.isNonNull <;> simp [eq_comm]

/-- A reference that resolves ends in the kind and name of a ready type or of a known one. -/
theorem innermost_of_outcome (hkeyed : ∀ name head, types name = some head → head.name = name)
    {ref : TypeRef} {type : ResolvedType} (h : ref.outcome types = .ok type) :
    ref.ready? = some type.innermost ∨ ref.ready? = none ∧ type.Known types := by
  induction ref generalizing type with
  | deferred producer => cases h
  | ready head =>
    cases h
    exact .inl rfl
  | list inner ih =>
    obtain ⟨found, hfound, rfl⟩ := Outcome.map_eq_ok_iff.mp h
    have hinner := ih hfound
    exact hinner
  | named name =>
    refine .inr ⟨rfl, ?_⟩
    rw [outcome, lookUp] at h
    cases hhead : types name with
    | none =>
      rw [hhead] at h
      cases h
    | some head =>
      rw [hhead] at h
      cases h
      have hname := hkeyed name head hhead
      rw [ResolvedType.Known, ResolvedType.innermost, hname, hhead]
  | nonNull inner ih =>
    obtain ⟨found, hfound, hwrap⟩ := Outcome.bind_eq_ok_iff.mp h
    obtain ⟨-, rfl⟩ := wrapNonNull_eq_ok_iff.mp hwrap
    have hinner := ih hfound
    exact hinner

/-- **The types of known kind and name** are those that anchored references resolve to. -/
theorem known_iff (hkeyed : ∀ name head, types name = some head → head.name = name)
    {ref : TypeRef} {type : ResolvedType} (h : ref.outcome types = .ok type) :
    type.Known types ↔ ref.Anchored types := by
  constructor
  · intro hknown head hhead
    rcases innermost_of_outcome hkeyed h with hready | ⟨hnone, -⟩
    · obtain rfl := Option.some.inj (hready.symm.trans hhead)
      exact hknown
    · rw [hnone] at hhead
      cases hhead
  · intro hanchored
    rcases innermost_of_outcome hkeyed h with hready | ⟨-, hknown⟩
    · exact hanchored _ hready
    · exact hknown

end TypeRef

end Schemata
