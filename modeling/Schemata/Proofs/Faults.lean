import Mathlib.Data.List.Nodup
import Mathlib.Data.Nat.Find
import Schemata.Proofs.Settling

/-!
# The first fault of a field or a directive

The arguments of an owner are checked one after the other. An argument is at fault if one before it
has its name, or else by the first of its own checks that it does not pass: its name, the resolution
of its type, that this is an input type, and that it is not deprecated while callers have to give
it. The first argument at fault decides the violation, and those after it are not looked at. This
does not depend on the owner, which the violation only names.

Of a field the arguments come last. Before them come its name, the flag that it must not use, its
type, and its functions; the first of these that is not in order decides the violation.

## Main definitions

* `Schemata.Argument.Fault`: what can be wrong with an argument among those of its owner.
* `Schemata.Argument.Valid`, `Schemata.Argument.Faulty`: how an argument fares on its own.
* `Schemata.Argument.FaultAt`: how the argument at an index fares among the others.
* `Schemata.Field.checkHead`: the checks of a field that come before those of its arguments.
* `Schemata.Field.HeadValid`, `Schemata.Field.HeadFaulty`: how a field fares there.

## Main results

* `Schemata.Argument.run_checkAll_of_clear`: the loop goes on over arguments that are not at fault.
* `Schemata.Argument.run_checkAll_of_fault`: the loop stops at the first argument that is.
* `Schemata.Field.run_checkHead_eq_ok_iff`, `Schemata.Field.run_checkHead_eq_error_iff`: a field
  before its arguments.
* `Schemata.Argument.checkAll_exact`: the checks of the arguments of fields and directives.
-/

namespace Schemata

variable {W : Type} {host : Host W} {types : TypeLookup}

namespace Argument

/-! ### Single arguments -/

/-- What can be wrong with an argument among those of its owner. -/
inductive Fault where
  /-- An argument before it has its name. -/
  | repeated
  | name (reason : NameError)
  | unresolvable (reason : ResolutionError)
  | noInput (type : ResolvedType)
  /-- It is deprecated, and callers have to give it. -/
  | required

/-- The violation that reports a fault. -/
def Fault.violation (owner : ArgumentOwner) (argument : String) : Fault → Violation
  | repeated => .duplicateArgumentName argument owner
  | name reason => .invalidArgumentName argument owner reason
  | unresolvable reason => .unresolvableArgumentType argument owner reason
  | noInput type => .invalidArgumentType argument owner type.text
  | required => .deprecatedRequiredArgument argument owner

/-- Nothing is wrong with the argument, where resolving its type comes to this. -/
structure Valid (a : Argument) (resolution : Except ResolutionError ResolvedType) : Prop where
  name : Name.IsDeclarable a.name
  type : ∃ type, resolution = .ok type ∧ type.isInput = true ∧
    ¬ (a.isRequired type = true ∧ a.isDeprecated = true)

/-- The first thing that is wrong with the argument, where resolving its type comes to this. -/
inductive Faulty (a : Argument) (resolution : Except ResolutionError ResolvedType) : Fault → Prop
  | name {reason : NameError} (h : Name.validate a.name = .error reason) :
      Faulty a resolution (.name reason)
  | unresolvable {reason : ResolutionError} (hname : Name.IsDeclarable a.name)
      (h : resolution = .error reason) : Faulty a resolution (.unresolvable reason)
  | noInput {type : ResolvedType} (hname : Name.IsDeclarable a.name) (htype : resolution = .ok type)
      (h : type.isInput = false) : Faulty a resolution (.noInput type)
  | required {type : ResolvedType} (hname : Name.IsDeclarable a.name)
      (htype : resolution = .ok type) (hinput : type.isInput = true)
      (hrequired : a.isRequired type = true) (hdeprecated : a.isDeprecated = true) :
      Faulty a resolution .required

variable {a : Argument} {owner : ArgumentOwner} {fault : Fault} {s : Store W}

theorem valid_or_faulty (a : Argument) (resolution : Except ResolutionError ResolvedType) :
    a.Valid resolution ∨ ∃ fault, a.Faulty resolution fault := by
  cases hvalidate : Name.validate a.name with
  | error reason => exact .inr ⟨_, .name hvalidate⟩
  | ok _ =>
    have hname : Name.IsDeclarable a.name := Name.validate_eq_ok_iff.mp hvalidate
    rcases resolution with reason | type
    · exact .inr ⟨_, .unresolvable hname rfl⟩
    · cases hinput : type.isInput with
      | false => exact .inr ⟨_, .noInput hname rfl hinput⟩
      | true =>
        by_cases hboth : a.isRequired type = true ∧ a.isDeprecated = true
        · exact .inr ⟨_, .required hname rfl hinput hboth.1 hboth.2⟩
        · exact .inl ⟨hname, type, rfl, hinput, hboth⟩

/-- The check of an argument whose name may be declared comes to its type. -/
theorem run_check_of_name (hname : Name.IsDeclarable a.name) (owner : ArgumentOwner) (s : Store W) :
    (a.check host types owner).run s =
      match (a.resolveType host types).run s with
      | (.error reason, s') => (.error (.unresolvableArgumentType a.name owner reason), s')
      | (.ok type, s') =>
        (if type.isInput then
          if a.isRequired type && a.isDeprecated then
            .error (.deprecatedRequiredArgument a.name owner)
          else .ok ()
        else .error (.invalidArgumentType a.name owner type.text), s') := by
  rw [check, Name.validate_eq_ok_iff.mpr hname, Attempt.run_bind_apply, Attempt.run_mapError_apply]
  simp only [Attempt.run_ofExcept_apply, Except.mapError]
  rw [Attempt.run_bind_apply, Attempt.run_mapError_apply]
  rcases (a.resolveType host types).run s with ⟨reason | type, s'⟩
  · rfl
  · simp only [Except.mapError]
    rw [Attempt.run_bind_apply, Attempt.run_require_apply]
    cases type.isInput
    · rfl
    · cases a.isRequired type && a.isDeprecated <;> rfl

theorem run_check_of_type {type : ResolvedType} (hname : Name.IsDeclarable a.name)
    (htype : ((a.resolveType host types).run s).1 = .ok type) (owner : ArgumentOwner) :
    (a.check host types owner).run s =
      (if type.isInput then
        if a.isRequired type && a.isDeprecated then
          .error (.deprecatedRequiredArgument a.name owner)
        else .ok ()
      else .error (.invalidArgumentType a.name owner type.text),
        ((a.resolveType host types).run s).2) := by
  have hresolved : (a.resolveType host types).run s =
      (.ok type, ((a.resolveType host types).run s).2) := Prod.ext htype rfl
  rw [run_check_of_name hname, hresolved]

theorem run_check_of_valid (h : a.Valid ((a.resolveType host types).run s).1)
    (owner : ArgumentOwner) :
    (a.check host types owner).run s = (.ok (), ((a.resolveType host types).run s).2) := by
  obtain ⟨hname, type, htype, hinput, hboth⟩ := h
  have hfine : (a.isRequired type && a.isDeprecated) = false := by
    rwa [← Bool.not_eq_true, Bool.and_eq_true]
  rw [run_check_of_type hname htype, if_pos hinput, hfine]
  rfl

/-- A faulty argument is reported for its fault. What is done until then does not depend on the
owner. -/
theorem run_check_of_faulty (h : a.Faulty ((a.resolveType host types).run s).1 fault) :
    ∃ s', ∀ owner, (a.check host types owner).run s =
      (.error (fault.violation owner a.name), s') := by
  cases h with
  | name h =>
    refine ⟨s, fun owner => ?_⟩
    rw [check, h, Attempt.run_bind_apply]
    rfl
  | @unresolvable reason hname h =>
    refine ⟨((a.resolveType host types).run s).2, fun owner => ?_⟩
    have hresolved : (a.resolveType host types).run s =
        (.error reason, ((a.resolveType host types).run s).2) := Prod.ext h rfl
    rw [run_check_of_name hname, hresolved]
    rfl
  | noInput hname htype h =>
    refine ⟨((a.resolveType host types).run s).2, fun owner => ?_⟩
    rw [run_check_of_type hname htype, h]
    rfl
  | required hname htype hinput hrequired hdeprecated =>
    refine ⟨((a.resolveType host types).run s).2, fun owner => ?_⟩
    rw [run_check_of_type hname htype, if_pos hinput, hrequired, hdeprecated]
    rfl

theorem run_check_eq_ok_iff :
    ((a.check host types owner).run s).1 = .ok () ↔
      a.Valid ((a.resolveType host types).run s).1 := by
  refine ⟨fun h => ?_, fun h => by rw [run_check_of_valid h]⟩
  rcases valid_or_faulty a ((a.resolveType host types).run s).1 with hvalid | ⟨fault, hfaulty⟩
  · exact hvalid
  · obtain ⟨s', hrun⟩ := run_check_of_faulty hfaulty
    rw [hrun] at h
    cases h

theorem run_check_eq_error_iff {violation : Violation} :
    ((a.check host types owner).run s).1 = .error violation ↔
      ∃ fault, a.Faulty ((a.resolveType host types).run s).1 fault ∧
        violation = fault.violation owner a.name := by
  constructor
  · intro h
    rcases valid_or_faulty a ((a.resolveType host types).run s).1 with hvalid | ⟨fault, hfaulty⟩
    · rw [run_check_of_valid hvalid] at h
      cases h
    · obtain ⟨s', hrun⟩ := run_check_of_faulty hfaulty
      rw [hrun] at h
      exact ⟨fault, hfaulty, (Except.error.inj h).symm⟩
  · rintro ⟨fault, hfaulty, rfl⟩
    obtain ⟨s', hrun⟩ := run_check_of_faulty hfaulty
    rw [hrun]

theorem not_faulty_of_valid {resolution : Except ResolutionError ResolvedType}
    (h : a.Valid resolution) : ¬ a.Faulty resolution fault := by
  obtain ⟨hname, type, rfl, hinput, hboth⟩ := h
  rintro (⟨hinvalid⟩ | ⟨-, ⟨⟩⟩ | ⟨-, ⟨⟩, hnone⟩ | ⟨-, ⟨⟩, -, hrequired, hdeprecated⟩)
  · cases (Name.validate_eq_ok_iff.mpr hname).symm.trans hinvalid
  · cases hinput.symm.trans hnone
  · exact hboth ⟨hrequired, hdeprecated⟩

/-! ### Arguments among others -/

/-- The store when the types of the arguments have been resolved, one after the other. -/
def resolvedAll (host : Host W) (types : TypeLookup) (s : Store W) (arguments : List Argument) :
    Store W :=
  arguments.foldl (fun s a => ((a.resolveType host types).run s).2) s

/-- What resolving the type of an argument comes to after those of the others. -/
def resolvedAfter (host : Host W) (types : TypeLookup) (s : Store W) (others : List Argument)
    (a : Argument) : Except ResolutionError ResolvedType :=
  ((a.resolveType host types).run (resolvedAll host types s others)).1

theorem resolvedAll_snoc (host : Host W) (types : TypeLookup) (s : Store W)
    (arguments : List Argument) (a : Argument) :
    resolvedAll host types s (arguments ++ [a]) =
      ((a.resolveType host types).run (resolvedAll host types s arguments)).2 :=
  List.foldl_concat ..

/-- The argument at the index is at fault: its name has occurred before, or it has not and something
is wrong with the argument itself. -/
inductive FaultAt (host : Host W) (types : TypeLookup) (s : Store W) (arguments : List Argument)
    (i : Nat) (a : Argument) : Fault → Prop
  | repeated (ha : arguments[i]? = some a) (hearlier : a.name ∈ (arguments.take i).map name) :
      FaultAt host types s arguments i a .repeated
  | own {fault : Fault} (ha : arguments[i]? = some a)
      (hnew : a.name ∉ (arguments.take i).map name)
      (h : a.Faulty (resolvedAfter host types s (arguments.take i) a) fault) :
      FaultAt host types s arguments i a fault

/-- There is no argument at the index, or it is not at fault. -/
def ClearAt (host : Host W) (types : TypeLookup) (s : Store W) (arguments : List Argument)
    (i : Nat) : Prop :=
  ∀ a fault, ¬ FaultAt host types s arguments i a fault

variable {arguments : List Argument} {i : Nat}

theorem clearAt_iff (ha : arguments[i]? = some a) :
    ClearAt host types s arguments i ↔ a.name ∉ (arguments.take i).map name ∧
      a.Valid (resolvedAfter host types s (arguments.take i) a) := by
  constructor
  · intro hclear
    have hnew : a.name ∉ (arguments.take i).map name :=
      fun hearlier => hclear a .repeated (.repeated ha hearlier)
    refine ⟨hnew, ?_⟩
    rcases valid_or_faulty a (resolvedAfter host types s (arguments.take i) a) with
      hvalid | ⟨fault, hfaulty⟩
    · exact hvalid
    · exact (hclear a fault (.own ha hnew hfaulty)).elim
  · rintro ⟨hnew, hvalid⟩ found fault hfault
    cases hfault with
    | repeated hfound hearlier =>
      obtain rfl := Option.some.inj (ha.symm.trans hfound)
      exact hnew hearlier
    | own hfound _ hfaulty =>
      obtain rfl := Option.some.inj (ha.symm.trans hfound)
      exact not_faulty_of_valid hvalid hfaulty

/-- Names are pairwise distinct if none of them has occurred before. -/
theorem nodup_iff_not_mem_take :
    (arguments.map name).Nodup ↔
      ∀ (i : Nat) (a : Argument), arguments[i]? = some a →
        a.name ∉ (arguments.take i).map name := by
  have hmem : ∀ (i : Nat) (hi : i < arguments.length),
      arguments[i].name ∈ (arguments.take i).map name ↔
        ∃ j, ∃ hj : j < i, arguments[j].name = arguments[i].name := by
    intro i hi
    rw [List.mem_map]
    constructor
    · rintro ⟨b, hb, hname⟩
      obtain ⟨j, hj, rfl⟩ := List.mem_take_iff_getElem.mp hb
      exact ⟨j, (Nat.lt_min.mp hj).1, hname⟩
    · rintro ⟨j, hj, hname⟩
      have hbound : j < min i arguments.length := Nat.lt_min.mpr ⟨hj, Nat.lt_trans hj hi⟩
      exact ⟨_, List.mem_take_iff_getElem.mpr ⟨j, hbound, rfl⟩, hname⟩
  rw [List.nodup_iff_pairwise_ne, List.pairwise_map, List.pairwise_iff_getElem]
  constructor
  · intro hdistinct i a ha hearlier
    obtain ⟨hi, rfl⟩ := List.getElem?_eq_some_iff.mp ha
    obtain ⟨j, hj, hname⟩ := (hmem i hi).mp hearlier
    exact hdistinct j i _ hi hj hname
  · intro hnew j i hj hi hlt hname
    exact hnew i _ (List.getElem?_eq_getElem hi) ((hmem i hi).mpr ⟨j, hlt, hname⟩)

theorem forall_clearAt_iff :
    (∀ i, ClearAt host types s arguments i) ↔ (arguments.map name).Nodup ∧
      ∀ (i : Nat) (a : Argument), arguments[i]? = some a →
        a.Valid (resolvedAfter host types s (arguments.take i) a) := by
  rw [nodup_iff_not_mem_take]
  constructor
  · intro hclear
    exact ⟨fun i a ha => ((clearAt_iff ha).mp (hclear i)).1,
      fun i a ha => ((clearAt_iff ha).mp (hclear i)).2⟩
  · rintro ⟨hnew, hvalid⟩ i a fault hfault
    have ha : arguments[i]? = some a := by
      cases hfault with
      | repeated ha _ => exact ha
      | own ha _ _ => exact ha
    exact (clearAt_iff ha).mpr ⟨hnew i a ha, hvalid i a ha⟩ a fault hfault

/-! ### The loop -/

section Loop

variable {seen : List String}

theorem run_checkAfter_of_valid (hnew : a.name ∉ seen)
    (hvalid : a.Valid ((a.resolveType host types).run s).1) (owner : ArgumentOwner)
    (rest : List Argument) :
    (checkAfter host types owner seen (a :: rest)).run s =
      (checkAfter host types owner (a.name :: seen) rest).run
        ((a.resolveType host types).run s).2 := by
  have hfree : (!seen.contains a.name) = true := by simpa using hnew
  rw [checkAfter, Attempt.run_bind_apply, Attempt.run_require_apply, if_pos hfree]
  dsimp only
  rw [Attempt.run_bind_apply, run_check_of_valid hvalid]

theorem run_checkAfter_of_seen (hseen : a.name ∈ seen) (owner : ArgumentOwner)
    (rest : List Argument) :
    (checkAfter host types owner seen (a :: rest)).run s =
      (.error (.duplicateArgumentName a.name owner), s) := by
  have htaken : (!seen.contains a.name) = false := by simpa using hseen
  rw [checkAfter, Attempt.run_bind_apply, Attempt.run_require_apply, htaken]
  rfl

theorem run_checkAfter_of_faulty (hnew : a.name ∉ seen)
    (hfaulty : a.Faulty ((a.resolveType host types).run s).1 fault) (rest : List Argument) :
    ∃ s', ∀ owner, (checkAfter host types owner seen (a :: rest)).run s =
      (.error (fault.violation owner a.name), s') := by
  have hfree : (!seen.contains a.name) = true := by simpa using hnew
  obtain ⟨s', hrun⟩ := run_check_of_faulty hfaulty
  refine ⟨s', fun owner => ?_⟩
  rw [checkAfter, Attempt.run_bind_apply, Attempt.run_require_apply, if_pos hfree]
  dsimp only
  rw [Attempt.run_bind_apply, hrun]

end Loop

/-- **The loop goes on** over arguments that are not at fault. It has then resolved their types, and
the names that it has seen are theirs, the last one first. -/
theorem run_checkAll_of_clear (owner : ArgumentOwner) {n : Nat} (hn : n ≤ arguments.length)
    (hclear : ∀ i < n, ClearAt host types s arguments i) :
    (checkAll host types owner arguments).run s =
      (checkAfter host types owner ((arguments.take n).map name).reverse (arguments.drop n)).run
        (resolvedAll host types s (arguments.take n)) := by
  induction n with
  | zero => rfl
  | succ n ih =>
    have ha : arguments[n]? = some arguments[n] := List.getElem?_eq_getElem hn
    obtain ⟨hnew, hvalid⟩ := (clearAt_iff ha).mp (hclear n (Nat.lt_succ_self n))
    have htake : arguments.take (n + 1) = arguments.take n ++ [arguments[n]] :=
      (List.take_append_getElem hn).symm
    rw [ih (Nat.le_of_succ_le hn) fun i hi => hclear i (Nat.lt_succ_of_lt hi),
      List.drop_eq_getElem_cons hn, run_checkAfter_of_valid (by simpa using hnew) hvalid, htake,
      resolvedAll_snoc, List.map_append, List.reverse_append]
    rfl

theorem run_checkAll_of_all_clear (owner : ArgumentOwner)
    (hclear : ∀ i, ClearAt host types s arguments i) :
    (checkAll host types owner arguments).run s =
      (.ok (), resolvedAll host types s arguments) := by
  rw [run_checkAll_of_clear owner (Nat.le_refl _) fun i _ => hclear i, List.drop_length,
    List.take_length]
  rfl

/-- **The loop stops** at the first argument at fault. -/
theorem run_checkAll_of_fault (hfault : FaultAt host types s arguments i a fault)
    (hfirst : ∀ j < i, ClearAt host types s arguments j) :
    ∃ s', ∀ owner, (checkAll host types owner arguments).run s =
      (.error (fault.violation owner a.name), s') := by
  have ha : arguments[i]? = some a := by
    cases hfault with
    | repeated ha _ => exact ha
    | own ha _ _ => exact ha
  obtain ⟨hi, rfl⟩ := List.getElem?_eq_some_iff.mp ha
  have hloop := fun owner => run_checkAll_of_clear owner (Nat.le_of_lt hi) hfirst
  simp only [List.drop_eq_getElem_cons hi] at hloop
  cases hfault with
  | repeated _ hearlier =>
    refine ⟨resolvedAll host types s (arguments.take i), fun owner => ?_⟩
    rw [hloop, run_checkAfter_of_seen (by simpa using hearlier)]
    rfl
  | own _ hnew hfaulty =>
    have hunseen : arguments[i].name ∉ ((arguments.take i).map name).reverse := by simpa using hnew
    obtain ⟨s', hrun⟩ := run_checkAfter_of_faulty hunseen hfaulty (arguments.drop (i + 1))
    exact ⟨s', fun owner => (hloop owner).trans (hrun owner)⟩

/-- No argument is at fault, or there is a first one that is. -/
theorem clear_or_first_fault (host : Host W) (types : TypeLookup) (s : Store W)
    (arguments : List Argument) :
    (∀ i, ClearAt host types s arguments i) ∨ ∃ i a fault,
      FaultAt host types s arguments i a fault ∧
        ∀ j < i, ClearAt host types s arguments j := by
  classical
  by_cases hclear : ∀ i, ClearAt host types s arguments i
  · exact .inl hclear
  · have hsome : ∃ i, ¬ ClearAt host types s arguments i := not_forall.mp hclear
    obtain ⟨i, hi, hfirst⟩ : ∃ i, ¬ ClearAt host types s arguments i ∧
        ∀ j < i, ClearAt host types s arguments j :=
      ⟨Nat.find hsome, Nat.find_spec hsome, fun j hj => not_not.mp (Nat.find_min hsome hj)⟩
    simp only [ClearAt, not_forall, not_not] at hi
    obtain ⟨a, fault, hfault⟩ := hi
    exact .inr ⟨i, a, fault, hfault, hfirst⟩

theorem run_checkAll_eq_ok_iff :
    ((checkAll host types owner arguments).run s).1 = .ok () ↔
      ∀ i, ClearAt host types s arguments i := by
  refine ⟨fun h => ?_, fun h => by rw [run_checkAll_of_all_clear owner h]⟩
  rcases clear_or_first_fault host types s arguments with hclear | ⟨i, a, fault, hfault, hfirst⟩
  · exact hclear
  · obtain ⟨s', hrun⟩ := run_checkAll_of_fault hfault hfirst
    rw [hrun] at h
    cases h

theorem run_checkAll_eq_error_iff {violation : Violation} :
    ((checkAll host types owner arguments).run s).1 = .error violation ↔
      ∃ i a fault, FaultAt host types s arguments i a fault ∧
        (∀ j < i, ClearAt host types s arguments j) ∧
        violation = fault.violation owner a.name := by
  constructor
  · intro h
    rcases clear_or_first_fault host types s arguments with hclear | ⟨i, a, fault, hfault, hfirst⟩
    · rw [run_checkAll_of_all_clear owner hclear] at h
      cases h
    · obtain ⟨s', hrun⟩ := run_checkAll_of_fault hfault hfirst
      rw [hrun] at h
      exact ⟨i, a, fault, hfault, hfirst, (Except.error.inj h).symm⟩
  · rintro ⟨i, a, fault, hfault, hfirst, rfl⟩
    obtain ⟨s', hrun⟩ := run_checkAll_of_fault hfault hfirst
    rw [hrun]

/-- What the checks do to the store does not depend on the owner. -/
theorem run_checkAll_snd (owner owner' : ArgumentOwner) :
    ((checkAll host types owner arguments).run s).2 =
      ((checkAll host types owner' arguments).run s).2 := by
  rcases clear_or_first_fault host types s arguments with hclear | ⟨i, a, fault, hfault, hfirst⟩
  · rw [run_checkAll_of_all_clear owner hclear, run_checkAll_of_all_clear owner' hclear]
  · obtain ⟨s', hrun⟩ := run_checkAll_of_fault hfault hfirst
    rw [hrun, hrun]

end Argument

/-! ### Fields before their arguments -/

/-- The place of a role in the order in which roles are checked. -/
def CallableRole.rank : CallableRole → Nat
  | resolver => 0
  | mapper => 1
  | estimator => 2

namespace Field

/-- The checks of a field that come before those of its arguments. -/
def checkHead (host : Host W) (types : TypeLookup) (typeName : String) (f : Field) :
    Attempt W Violation Unit := do
  Attempt.mapError (.invalidFieldName typeName f.name) (Attempt.ofExcept (Name.validate f.name))
  Attempt.require (!Entries.contains f.source Key.isDeprecated)
    (.legacyIsDeprecatedFlag typeName f.name)
  let type ← Attempt.mapError (.unresolvableFieldType typeName f.name) (f.resolveType host types)
  Attempt.require type.isOutput
    (.invalidOutputFieldType typeName f.name (Config.renderOption (Entries.get? f.source Key.type)))
  Attempt.ofExcept (f.checkCallable typeName .resolver)
  Attempt.ofExcept (f.checkCallable typeName .mapper)
  Attempt.ofExcept (f.checkCallable typeName .estimator)

/-- The arguments of a field are checked last. -/
theorem check_eq (host : Host W) (types : TypeLookup) (typeName : String) (f : Field) :
    f.check host types typeName =
      f.checkHead host types typeName >>= fun _ =>
        Argument.checkAll host types (.field typeName f.name) f.arguments := by
  simp only [check, checkHead, bind_assoc]

/-- The entry for the role is absent, or a function of the kind that the role needs. -/
def Fits (f : Field) (role : CallableRole) : Prop :=
  ∀ value, Entries.get? f.source role.key = some value →
    ∃ handle, value = .callable ⟨role.kind, handle⟩

/-- Nothing is wrong with the field before its arguments, where resolving its type comes to this. -/
structure HeadValid (f : Field) (resolution : Except ResolutionError ResolvedType) : Prop where
  name : Name.IsDeclarable f.name
  notFlagged : Entries.contains f.source Key.isDeprecated = false
  type : ∃ type, resolution = .ok type ∧ type.isOutput = true
  callables : ∀ role, f.Fits role

/-- The violation that reports the first thing that is wrong with the field before its arguments,
where resolving its type comes to this. -/
inductive HeadFaulty (f : Field) (typeName : String)
    (resolution : Except ResolutionError ResolvedType) : Violation → Prop
  | name {reason : NameError} (h : Name.validate f.name = .error reason) :
      HeadFaulty f typeName resolution (.invalidFieldName typeName f.name reason)
  | flagged (hname : Name.IsDeclarable f.name)
      (h : Entries.contains f.source Key.isDeprecated = true) :
      HeadFaulty f typeName resolution (.legacyIsDeprecatedFlag typeName f.name)
  | unresolvable {reason : ResolutionError} (hname : Name.IsDeclarable f.name)
      (hflag : Entries.contains f.source Key.isDeprecated = false)
      (h : resolution = .error reason) :
      HeadFaulty f typeName resolution (.unresolvableFieldType typeName f.name reason)
  | noOutput {type : ResolvedType} (hname : Name.IsDeclarable f.name)
      (hflag : Entries.contains f.source Key.isDeprecated = false) (htype : resolution = .ok type)
      (h : type.isOutput = false) :
      HeadFaulty f typeName resolution (.invalidOutputFieldType typeName f.name
        (Config.renderOption (Entries.get? f.source Key.type)))
  | callable {type : ResolvedType} {role : CallableRole} {value : Config}
      (hname : Name.IsDeclarable f.name)
      (hflag : Entries.contains f.source Key.isDeprecated = false) (htype : resolution = .ok type)
      (houtput : type.isOutput = true)
      (hearlier : ∀ earlier : CallableRole, earlier.rank < role.rank → f.Fits earlier)
      (hvalue : Entries.get? f.source role.key = some value)
      (h : ∀ handle, value ≠ .callable ⟨role.kind, handle⟩) :
      HeadFaulty f typeName resolution (.invalidFieldCallable typeName f.name role value.render)

variable {f : Field} {s : Store W} {typeName : String} {violation : Violation}

/-- The check of the functions of a field, in the order of their roles. -/
def checkCallables (typeName : String) (f : Field) : Except Violation Unit := do
  f.checkCallable typeName .resolver
  f.checkCallable typeName .mapper
  f.checkCallable typeName .estimator

/-- A field whose name and flag are in order comes to its type, and then to its functions. -/
theorem run_checkHead_of_name (hname : Name.IsDeclarable f.name)
    (hflag : Entries.contains f.source Key.isDeprecated = false) (typeName : String)
    (s : Store W) :
    (f.checkHead host types typeName).run s =
      match (f.resolveType host types).run s with
      | (.error reason, s') => (.error (.unresolvableFieldType typeName f.name reason), s')
      | (.ok type, s') =>
        (if type.isOutput then f.checkCallables typeName
          else .error (.invalidOutputFieldType typeName f.name
            (Config.renderOption (Entries.get? f.source Key.type))), s') := by
  rw [checkHead, Name.validate_eq_ok_iff.mpr hname, Attempt.run_bind_apply,
    Attempt.run_mapError_apply]
  simp only [Attempt.run_ofExcept_apply, Except.mapError]
  rw [Attempt.run_bind_apply, Attempt.run_require_apply, hflag]
  simp only [Bool.not_false, if_true]
  rw [Attempt.run_bind_apply, Attempt.run_mapError_apply]
  rcases (f.resolveType host types).run s with ⟨reason | type, s'⟩
  · rfl
  · simp only [Except.mapError]
    rw [Attempt.run_bind_apply, Attempt.run_require_apply, checkCallables]
    cases type.isOutput
    · rfl
    · simp only [if_true]
      rw [Attempt.run_bind_apply, Attempt.run_ofExcept_apply]
      rcases f.checkCallable typeName .resolver with _ | _
      · rfl
      · rcases f.checkCallable typeName .mapper with _ | _ <;> rfl

theorem run_checkHead_of_type {type : ResolvedType} (hname : Name.IsDeclarable f.name)
    (hflag : Entries.contains f.source Key.isDeprecated = false)
    (htype : ((f.resolveType host types).run s).1 = .ok type) (typeName : String) :
    (f.checkHead host types typeName).run s =
      (if type.isOutput then f.checkCallables typeName
        else .error (.invalidOutputFieldType typeName f.name
          (Config.renderOption (Entries.get? f.source Key.type))),
        ((f.resolveType host types).run s).2) := by
  have hresolved : (f.resolveType host types).run s =
      (.ok type, ((f.resolveType host types).run s).2) := Prod.ext htype rfl
  rw [run_checkHead_of_name hname hflag, hresolved]

theorem Fits.checkCallable_eq {role : CallableRole} (h : f.Fits role) (typeName : String) :
    f.checkCallable typeName role = .ok () :=
  checkCallable_eq_ok_iff.mpr h

theorem checkCallable_of_misfit {role : CallableRole} {value : Config}
    (hvalue : Entries.get? f.source role.key = some value)
    (h : ∀ handle, value ≠ .callable ⟨role.kind, handle⟩) :
    f.checkCallable typeName role =
      .error (.invalidFieldCallable typeName f.name role value.render) := by
  have hrefused : f.checkCallable typeName role ≠ .ok () := by
    intro hpassed
    obtain ⟨handle, rfl⟩ := checkCallable_eq_ok_iff.mp hpassed value hvalue
    exact h handle rfl
  unfold checkCallable at hrefused ⊢
  rw [hvalue] at hrefused ⊢
  dsimp only at hrefused ⊢
  split_ifs at hrefused ⊢
  · exact (hrefused rfl).elim
  · rfl

/-- Every entry for a function fits, or there is a first one that does not. -/
theorem fits_or_misfit (f : Field) :
    (∀ role, f.Fits role) ∨ ∃ (role : CallableRole) (value : Config),
      (∀ earlier : CallableRole, earlier.rank < role.rank → f.Fits earlier) ∧
        Entries.get? f.source role.key = some value ∧
        ∀ handle, value ≠ .callable ⟨role.kind, handle⟩ := by
  have hmisfit : ∀ role, ¬ f.Fits role → ∃ value, Entries.get? f.source role.key = some value ∧
      ∀ handle, value ≠ .callable ⟨role.kind, handle⟩ := by
    intro role hrole
    simp only [Fits, not_forall, not_exists] at hrole
    obtain ⟨value, hvalue, h⟩ := hrole
    exact ⟨value, hvalue, h⟩
  by_cases hresolver : f.Fits .resolver
  · by_cases hmapper : f.Fits .mapper
    · by_cases hestimator : f.Fits .estimator
      · refine .inl fun role => ?_
        cases role <;> assumption
      · obtain ⟨value, hvalue, h⟩ := hmisfit _ hestimator
        refine .inr ⟨.estimator, value, fun earlier _ => ?_, hvalue, h⟩
        cases earlier with
        | resolver => exact hresolver
        | mapper => exact hmapper
        | estimator => contradiction
    · obtain ⟨value, hvalue, h⟩ := hmisfit _ hmapper
      refine .inr ⟨.mapper, value, fun earlier _ => ?_, hvalue, h⟩
      cases earlier with
      | resolver => exact hresolver
      | mapper => contradiction
      | estimator => contradiction
  · obtain ⟨value, hvalue, h⟩ := hmisfit _ hresolver
    exact .inr ⟨.resolver, value, fun _ hearlier => (nomatch hearlier), hvalue, h⟩

theorem headValid_or_headFaulty (typeName : String) (f : Field)
    (resolution : Except ResolutionError ResolvedType) :
    f.HeadValid resolution ∨ ∃ violation, HeadFaulty f typeName resolution violation := by
  cases hvalidate : Name.validate f.name with
  | error reason => exact .inr ⟨_, .name hvalidate⟩
  | ok _ =>
    have hname : Name.IsDeclarable f.name := Name.validate_eq_ok_iff.mp hvalidate
    cases hflag : Entries.contains f.source Key.isDeprecated with
    | true => exact .inr ⟨_, .flagged hname hflag⟩
    | false =>
      rcases resolution with reason | type
      · exact .inr ⟨_, .unresolvable hname hflag rfl⟩
      · cases houtput : type.isOutput with
        | false => exact .inr ⟨_, .noOutput hname hflag rfl houtput⟩
        | true =>
          rcases f.fits_or_misfit with hfits | ⟨role, value, hearlier, hvalue, h⟩
          · exact .inl ⟨hname, hflag, ⟨type, rfl, houtput⟩, hfits⟩
          · exact .inr ⟨_, .callable hname hflag rfl houtput hearlier hvalue h⟩

theorem checkCallables_of_fits (h : ∀ role, f.Fits role) (typeName : String) :
    f.checkCallables typeName = .ok () := by
  rw [checkCallables, (h .resolver).checkCallable_eq, (h .mapper).checkCallable_eq,
    (h .estimator).checkCallable_eq]
  rfl

theorem checkCallables_of_misfit {role : CallableRole} {value : Config}
    (hearlier : ∀ earlier : CallableRole, earlier.rank < role.rank → f.Fits earlier)
    (hvalue : Entries.get? f.source role.key = some value)
    (h : ∀ handle, value ≠ .callable ⟨role.kind, handle⟩) (typeName : String) :
    f.checkCallables typeName =
      .error (.invalidFieldCallable typeName f.name role value.render) := by
  rw [checkCallables]
  cases role with
  | resolver =>
    rw [checkCallable_of_misfit hvalue h]
    rfl
  | mapper =>
    have hresolver : f.Fits .resolver := hearlier .resolver (by decide)
    rw [hresolver.checkCallable_eq, checkCallable_of_misfit hvalue h]
    rfl
  | estimator =>
    have hresolver : f.Fits .resolver := hearlier .resolver (by decide)
    have hmapper : f.Fits .mapper := hearlier .mapper (by decide)
    rw [hresolver.checkCallable_eq, hmapper.checkCallable_eq, checkCallable_of_misfit hvalue h]
    rfl

/-- **A field that is in order before its arguments** has its type resolved, and nothing else is
done. -/
theorem run_checkHead_of_headValid (h : f.HeadValid ((f.resolveType host types).run s).1)
    (typeName : String) :
    (f.checkHead host types typeName).run s =
      (.ok (), ((f.resolveType host types).run s).2) := by
  obtain ⟨hname, hflag, ⟨type, htype, houtput⟩, hfits⟩ := h
  rw [run_checkHead_of_type hname hflag htype, if_pos houtput, checkCallables_of_fits hfits]

theorem run_checkHead_of_headFaulty
    (h : HeadFaulty f typeName ((f.resolveType host types).run s).1 violation) :
    ((f.checkHead host types typeName).run s).1 = .error violation := by
  cases h with
  | name h =>
    rw [checkHead, h, Attempt.run_bind_apply]
    rfl
  | flagged hname h =>
    rw [checkHead, Name.validate_eq_ok_iff.mpr hname, h, Attempt.run_bind_apply]
    rfl
  | @unresolvable reason hname hflag h =>
    have hresolved : (f.resolveType host types).run s =
        (.error reason, ((f.resolveType host types).run s).2) := Prod.ext h rfl
    rw [run_checkHead_of_name hname hflag, hresolved]
  | noOutput hname hflag htype h =>
    rw [run_checkHead_of_type hname hflag htype, h]
    rfl
  | callable hname hflag htype houtput hearlier hvalue h =>
    rw [run_checkHead_of_type hname hflag htype, if_pos houtput,
      checkCallables_of_misfit hearlier hvalue h]

theorem run_checkHead_eq_ok_iff :
    ((f.checkHead host types typeName).run s).1 = .ok () ↔
      f.HeadValid ((f.resolveType host types).run s).1 := by
  refine ⟨fun h => ?_, fun h => by rw [run_checkHead_of_headValid h]⟩
  rcases headValid_or_headFaulty typeName f ((f.resolveType host types).run s).1 with
    hvalid | ⟨violation, hfaulty⟩
  · exact hvalid
  · cases (run_checkHead_of_headFaulty hfaulty).symm.trans h

theorem run_checkHead_eq_error_iff :
    ((f.checkHead host types typeName).run s).1 = .error violation ↔
      HeadFaulty f typeName ((f.resolveType host types).run s).1 violation := by
  refine ⟨fun h => ?_, run_checkHead_of_headFaulty⟩
  rcases headValid_or_headFaulty typeName f ((f.resolveType host types).run s).1 with
    hvalid | ⟨found, hfaulty⟩
  · rw [run_checkHead_of_headValid hvalid] at h
    cases h
  · obtain rfl := Except.error.inj ((run_checkHead_of_headFaulty hfaulty).symm.trans h)
    exact hfaulty

/-- The arguments are checked if nothing is wrong before them, from the store in which the type of
the field has been resolved. -/
theorem run_check_of_headValid (h : f.HeadValid ((f.resolveType host types).run s).1)
    (typeName : String) :
    (f.check host types typeName).run s =
      (Argument.checkAll host types (.field typeName f.name) f.arguments).run
        ((f.resolveType host types).run s).2 := by
  rw [check_eq, Attempt.run_bind_apply, run_checkHead_of_headValid h]

theorem run_check_of_headFaulty
    (h : HeadFaulty f typeName ((f.resolveType host types).run s).1 violation) :
    ((f.check host types typeName).run s).1 = .error violation := by
  have hhead := run_checkHead_of_headFaulty h
  rw [check_eq, Attempt.run_bind_apply]
  rcases hrun : (f.checkHead host types typeName).run s with ⟨e | _, s'⟩ <;> rw [hrun] at hhead
  · exact hhead
  · cases hhead

end Field

/-! ### Directives -/

/-- The arguments of a directive are checked after its name. -/
theorem Directive.run_check (d : Directive) (s : Store W) :
    (d.check host types).run s =
      match Name.validate d.name with
      | .error reason => (.error (.invalidDirectiveName d.name reason), s)
      | .ok _ => (Argument.checkAll host types (.directive d.name) d.arguments).run s := by
  rw [Directive.check, Attempt.run_bind_apply, Attempt.run_mapError_apply,
    Attempt.run_ofExcept_apply]
  cases Name.validate d.name <;> rfl

/-! ### Owners and their arguments -/

/-- **The checks of arguments are exact**, for fields as for directives.

* The arguments of an owner pass exactly if their names are pairwise distinct and nothing is wrong
  with any of them.
* Otherwise the violation is that of the first argument at fault. Under any other owner the same
  argument is found with the same fault, and only the owner is another.
* What the checks leave in the store does not depend on the owner either.
* Nothing is wrong with an argument exactly if it passes its own check, and its fault is the first
  thing that this check finds.
* The check of a field comes to its arguments exactly if nothing is wrong before them, and otherwise
  to the first thing that is.
* The check of a directive comes to its arguments exactly if its name may be declared. -/
theorem Argument.checkAll_exact (host : Host W) (types : TypeLookup) (arguments : List Argument)
    (s : Store W) :
    (∀ owner, ((checkAll host types owner arguments).run s).1 = .ok () ↔
      (arguments.map name).Nodup ∧ ∀ (i : Nat) (a : Argument), arguments[i]? = some a →
        a.Valid (resolvedAfter host types s (arguments.take i) a)) ∧
    (∀ owner violation, ((checkAll host types owner arguments).run s).1 = .error violation ↔
      ∃ i a fault, FaultAt host types s arguments i a fault ∧
        (∀ j < i, ClearAt host types s arguments j) ∧
        violation = fault.violation owner a.name ∧
        ∀ other, ((checkAll host types other arguments).run s).1 =
          .error (fault.violation other a.name)) ∧
    (∀ owner other, ((checkAll host types owner arguments).run s).2 =
      ((checkAll host types other arguments).run s).2) ∧
    (∀ owner (a : Argument),
      (((a.check host types owner).run s).1 = .ok () ↔
        a.Valid ((a.resolveType host types).run s).1) ∧
      ∀ violation, ((a.check host types owner).run s).1 = .error violation ↔
        ∃ fault, a.Faulty ((a.resolveType host types).run s).1 fault ∧
          violation = fault.violation owner a.name) ∧
    (∀ typeName (f : Field),
      f.check host types typeName = (f.checkHead host types typeName >>= fun _ =>
        checkAll host types (.field typeName f.name) f.arguments) ∧
      (((f.checkHead host types typeName).run s).1 = .ok () ↔
        f.HeadValid ((f.resolveType host types).run s).1) ∧
      (∀ violation, ((f.checkHead host types typeName).run s).1 = .error violation ↔
        f.HeadFaulty typeName ((f.resolveType host types).run s).1 violation) ∧
      (f.HeadValid ((f.resolveType host types).run s).1 →
        (f.check host types typeName).run s =
          (checkAll host types (.field typeName f.name) f.arguments).run
            ((f.resolveType host types).run s).2) ∧
      ∀ violation, f.HeadFaulty typeName ((f.resolveType host types).run s).1 violation →
        ((f.check host types typeName).run s).1 = .error violation) ∧
    ∀ d : Directive, (d.check host types).run s =
      match Name.validate d.name with
      | .error reason => (.error (.invalidDirectiveName d.name reason), s)
      | .ok _ => (checkAll host types (.directive d.name) d.arguments).run s := by
  refine ⟨fun owner => run_checkAll_eq_ok_iff.trans forall_clearAt_iff, fun owner violation => ?_,
    run_checkAll_snd, fun owner a => ⟨run_check_eq_ok_iff, fun _ => run_check_eq_error_iff⟩,
    fun typeName f => ⟨f.check_eq host types typeName, Field.run_checkHead_eq_ok_iff,
      fun _ => Field.run_checkHead_eq_error_iff, fun h => Field.run_check_of_headValid h typeName,
      fun _ => Field.run_check_of_headFaulty⟩, fun d => d.run_check s⟩
  rw [run_checkAll_eq_error_iff]
  constructor
  · rintro ⟨i, a, fault, hfault, hfirst, rfl⟩
    obtain ⟨s', hrun⟩ := run_checkAll_of_fault hfault hfirst
    exact ⟨i, a, fault, hfault, hfirst, rfl, fun other => by rw [hrun]⟩
  · rintro ⟨i, a, fault, hfault, hfirst, hviolation, -⟩
    exact ⟨i, a, fault, hfault, hfirst, hviolation⟩

end Schemata
