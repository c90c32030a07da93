import Mathlib.Data.List.Chain
import Schemata.Proofs.RegistryCourse
import Schemata.Proofs.Settling

/-!
# Types that fields remember

A field is asked for its type again and again, against whatever types are known then, by functions
of the host that may answer differently each time. As long as it fails, the field resolves its
reference anew; once it succeeds, the type is remembered and given without a call.

If the host always gives the same, and types are added to one registry in between, remembering
cannot be told from resolving anew: a reference that resolves goes on resolving to its type when
more types are known.

## Main definitions

* `Schemata.Field.remembered?`: the type that a field remembers.
* `Schemata.Field.Inquiry`, `Schemata.Field.Reply`: calls for the type of a field, and what comes of
  them, with `Schemata.Field.replies`.

## Main results

* `Schemata.Field.replies_of_remembered`: once the type is remembered.
* `Schemata.Registry.grows_foldl`: what additions to a registry make of the known types.
* `Schemata.Field.replies_memoised`: remembering agrees with resolving.
-/

namespace Schemata

variable {W : Type} {host : Host W} {types types' : TypeLookup}

/-! ### Resolving against later types -/

/-- Additions to a registry change nothing about the types that are known. -/
theorem Registry.grows_foldl (ts : List TypeDef) (r : Registry) :
    r.lookup.Grows (fun _ => True) (ts.foldl Registry.grow r).lookup := by
  induction ts generalizing r with
  | nil => exact .refl _ _
  | cons t rest ih =>
    have hgrow : r.lookup.Grows (fun _ => True) (r.grow t).lookup := by
      rcases r.grow_cases t with hsame | ⟨hfree, hgrown⟩
      · rw [hsame]
        exact .refl _ _
      · rw [hgrown]
        exact (Registry.grows_append hfree).imp fun _ _ => trivial
    exact hgrow.trans (ih (r.grow t))

namespace TypeRef

/-- Where the host always gives the same, what a reference resolves to does not depend on the
store. -/
theorem run_resolveOption_congr (hpure : ∀ h w w', (host.typeOf h w).1 = (host.typeOf h w').1)
    (ref : Option TypeRef) (s s' : Store W) :
    ((resolveOption host types ref).run s).1 = ((resolveOption host types ref).run s').1 := by
  cases ref with
  | none => rfl
  | some ref =>
    rw [resolveOption, run_resolve_fst, run_resolve_fst, unfolded, unfolded,
      unfoldedWithin_congr hpure maxDeferrals ref s.world s'.world]

/-- A reference that resolves does so to the same type when more types are known. -/
theorem run_resolveOption_grows (hgrows : types.Grows (fun _ => True) types')
    {ref : Option TypeRef} {type : ResolvedType} {s : Store W}
    (h : ((resolveOption host types ref).run s).1 = .ok type) :
    ((resolveOption host types' ref).run s).1 = .ok type := by
  cases ref with
  | none => cases h
  | some ref =>
    rw [resolveOption, run_resolve_fst] at h ⊢
    rcases revised_outcome hgrows (ref.unfolded host s.world) with hsame | ⟨e, herror, -⟩
    · exact hsame.trans h
    · cases h.symm.trans herror

end TypeRef

/-! ### One call -/

namespace Field

variable {f : Field} {s : Store W} {type : ResolvedType}

/-- The type that the field remembers. -/
def remembered? (f : Field) (s : Store W) : Option ResolvedType :=
  f.typeRef.bind fun ref => s.resolved? ⟨f.id, ref⟩

/-- A remembered type is given, and nothing happens. -/
theorem run_resolveType_of_some (h : f.remembered? s = some type) (types : TypeLookup) :
    (f.resolveType host types).run s = (.ok type, s) := by
  obtain ⟨ref, href, hfound⟩ := Option.bind_eq_some_iff.mp h
  exact run_resolveType_of_remembered href hfound

/-- Where no type is remembered the reference is resolved, and a type that is found is
remembered. -/
theorem run_resolveType_of_none (host : Host W) (types : TypeLookup)
    (h : f.remembered? s = none) :
    ((f.resolveType host types).run s).1 = ((TypeRef.resolveOption host types f.typeRef).run s).1 ∧
      ((f.resolveType host types).run s).2.world =
        ((TypeRef.resolveOption host types f.typeRef).run s).2.world ∧
      ∀ e, ((f.resolveType host types).run s).1 = .error e →
        ((f.resolveType host types).run s).2 =
            ((TypeRef.resolveOption host types f.typeRef).run s).2 ∧
          ((f.resolveType host types).run s).2.resolved = s.resolved := by
  unfold resolveType TypeRef.resolveOption
  cases href : f.typeRef with
  | none => exact ⟨rfl, rfl, fun _ _ => ⟨rfl, rfl⟩⟩
  | some ref =>
    have hnone : s.resolved? ⟨f.id, ref⟩ = none := by
      rwa [remembered?, href] at h
    have hresolved := TypeRef.resolved_resolve host types ref s
    dsimp only
    rw [resolveRef_apply, hnone]
    dsimp only
    rcases hrun : (ref.resolve host types).run s with ⟨e | found, s'⟩
    · rw [hrun] at hresolved
      exact ⟨rfl, rfl, fun _ _ => ⟨rfl, hresolved⟩⟩
    · exact ⟨rfl, rfl, fun _ hfailed => nomatch hfailed⟩

theorem remembered_of_ok (h : ((f.resolveType host types).run s).1 = .ok type) :
    f.remembered? ((f.resolveType host types).run s).2 = some type := by
  obtain ⟨ref, href, hfound⟩ := remembered_of_resolveType (Prod.ext h rfl)
  rw [remembered?, href]
  exact hfound

theorem remembered?_eq {s' : Store W} (h : s'.resolved = s.resolved) :
    f.remembered? s' = f.remembered? s := by
  rw [remembered?, remembered?, Store.resolved?_eq h]

/-! ### Calls one after the other -/

/-- A call for the type of the field: the types that are known, and what has happened since the call
before. Whatever that is, it is not for others to change what the field remembers. -/
structure Inquiry (W : Type) (f : Field) where
  types : TypeLookup
  meanwhile : Store W → Store W
  keeps : ∀ s, f.remembered? (meanwhile s) = f.remembered? s

/-- A call for the type of a field as it went. -/
structure Reply (W : Type) where
  types : TypeLookup
  before : Store W
  outcome : Except ResolutionError ResolvedType
  after : Store W

/-- The reply to a call. -/
def reply (host : Host W) (f : Field) (inquiry : Inquiry W f) (s : Store W) : Reply W :=
  let made := (f.resolveType host inquiry.types).run (inquiry.meanwhile s)
  { types := inquiry.types, before := inquiry.meanwhile s, outcome := made.1, after := made.2 }

/-- The replies to calls that are made one after the other. -/
def replies (host : Host W) (f : Field) : List (Inquiry W f) → Store W → List (Reply W)
  | [], _ => []
  | inquiry :: rest, s =>
    f.reply host inquiry s :: replies host f rest (f.reply host inquiry s).after

namespace Reply

/-- What resolving the reference of the field comes to where the call was made, with nothing
remembered. A type is missing if there is no reference. -/
def anew (host : Host W) (f : Field) (r : Reply W) :
    Except ResolutionError ResolvedType × Store W :=
  (TypeRef.resolveOption host r.types f.typeRef).run r.before

/-- The call gave what resolving the reference gives there and then, and left the host in the same
world. If it failed nothing else has happened, and no type is remembered that was not. -/
structure Anew (host : Host W) (f : Field) (r : Reply W) : Prop where
  outcome : r.outcome = (r.anew host f).1
  world : r.after.world = (r.anew host f).2.world
  failed : ∀ e, r.outcome = .error e →
    r.after = (r.anew host f).2 ∧ r.after.resolved = r.before.resolved

end Reply

theorem reply_of_some (host : Host W) (inquiry : Inquiry W f) (h : f.remembered? s = some type) :
    (f.reply host inquiry s).outcome = .ok type ∧
      (f.reply host inquiry s).after = inquiry.meanwhile s :=
  Prod.mk.inj (run_resolveType_of_some ((inquiry.keeps s).trans h) inquiry.types)

theorem reply_of_none (host : Host W) (inquiry : Inquiry W f) (h : f.remembered? s = none) :
    (f.reply host inquiry s).Anew host f := by
  obtain ⟨houtcome, hworld, hfailed⟩ :=
    run_resolveType_of_none host inquiry.types ((inquiry.keeps s).trans h)
  exact ⟨houtcome, hworld, hfailed⟩

/-- **Once the type is remembered**, every call gives it and does nothing else. -/
theorem replies_of_remembered (inquiries : List (Inquiry W f)) :
    ∀ s, f.remembered? s = some type →
      ∀ r ∈ f.replies host inquiries s, r.outcome = .ok type ∧ r.after = r.before := by
  induction inquiries with
  | nil => exact fun _ _ _ h => nomatch h
  | cons inquiry rest ih =>
    intro s hs
    obtain ⟨houtcome, hafter⟩ := reply_of_some host inquiry hs
    refine List.forall_mem_cons.mpr ⟨⟨houtcome, hafter⟩, ih _ ?_⟩
    rw [hafter, inquiry.keeps, hs]

/-- A call that comes after failures alone goes as if nothing could be remembered. -/
theorem reply_of_failures (inquiries : List (Inquiry W f)) {r : Reply W} {later : List (Reply W)} :
    ∀ earlier s, f.remembered? s = none →
      f.replies host inquiries s = earlier ++ r :: later →
      (∀ failed ∈ earlier, ∃ e, failed.outcome = .error e) → r.Anew host f := by
  induction inquiries with
  | nil =>
    intro earlier s _ hreplies
    cases earlier <;> cases hreplies
  | cons inquiry rest ih =>
    intro earlier s hs hreplies hfailed
    have hanew := reply_of_none host inquiry hs
    cases earlier with
    | nil =>
      obtain ⟨rfl, -⟩ := List.cons.inj hreplies
      exact hanew
    | cons first earlier =>
      obtain ⟨rfl, hrest⟩ := List.cons.inj hreplies
      obtain ⟨⟨e, he⟩, hothers⟩ := List.forall_mem_cons.mp hfailed
      refine ih earlier _ ?_ hrest hothers
      exact ((remembered?_eq (hanew.failed e he).2).trans (inquiry.keeps s)).trans hs

/-- Nothing is resolved again after a success. -/
theorem replies_of_success (inquiries : List (Inquiry W f)) {r : Reply W} {later : List (Reply W)}
    (hok : r.outcome = .ok type) :
    ∀ earlier s, f.replies host inquiries s = earlier ++ r :: later →
      ∀ r' ∈ later, r'.outcome = .ok type ∧ r'.after = r'.before := by
  induction inquiries with
  | nil =>
    intro earlier s hreplies
    cases earlier <;> cases hreplies
  | cons inquiry rest ih =>
    intro earlier s hreplies
    cases earlier with
    | nil =>
      obtain ⟨rfl, rfl⟩ := List.cons.inj hreplies
      exact replies_of_remembered rest _ (remembered_of_ok hok)
    | cons first earlier =>
      obtain ⟨rfl, hrest⟩ := List.cons.inj hreplies
      exact ih earlier _ hrest

/-! ### Calls against a growing registry -/

/-- What the field remembers is what resolving anew against the types would give. -/
def UpToDate (host : Host W) (types : TypeLookup) (f : Field) (s : Store W) : Prop :=
  ∀ type, f.remembered? s = some type →
    ∀ s', ((TypeRef.resolveOption host types f.typeRef).run s').1 = .ok type

theorem UpToDate.grows (h : f.UpToDate host types s) (hgrows : types.Grows (fun _ => True) types') :
    f.UpToDate host types' s :=
  fun type htype s' => TypeRef.run_resolveOption_grows hgrows (h type htype s')

section Growing

variable (hpure : ∀ h w w', (host.typeOf h w).1 = (host.typeOf h w').1)
include hpure

/-- A call gives what resolving anew would, and what is remembered then is up to date still. -/
theorem UpToDate.reply {inquiry : Inquiry W f} (h : f.UpToDate host inquiry.types s) :
    (f.reply host inquiry s).outcome = ((f.reply host inquiry s).anew host f).1 ∧
      f.UpToDate host inquiry.types (f.reply host inquiry s).after := by
  cases hs : f.remembered? s with
  | some type =>
    obtain ⟨houtcome, hafter⟩ := reply_of_some host inquiry hs
    refine ⟨houtcome.trans (h type hs _).symm, fun found hfound => h found ?_⟩
    rwa [hafter, inquiry.keeps] at hfound
  | none =>
    have hanew := reply_of_none host inquiry hs
    refine ⟨hanew.outcome, fun type htype s' => ?_⟩
    cases hmade : (f.reply host inquiry s).outcome with
    | error e =>
      -- A failure leaves nothing behind, so there is no type to be compared.
      have hkept := (remembered?_eq (hanew.failed e hmade).2).trans (inquiry.keeps s)
      cases (htype.symm.trans hkept).trans hs
    | ok found =>
      obtain rfl := Option.some.inj ((remembered_of_ok hmade).symm.trans htype)
      rw [TypeRef.run_resolveOption_congr hpure f.typeRef s' (inquiry.meanwhile s)]
      exact hanew.outcome.symm.trans hmade

/-- Against the stages of one registry every call gives what resolving anew would. -/
theorem replies_of_stages (stages : List Registry) :
    ∀ (inquiries : List (Inquiry W f)) (s : Store W),
      inquiries.map Inquiry.types = stages.map Registry.lookup →
      stages.IsChain (fun r r' => ∃ ts : List TypeDef, r' = ts.foldl Registry.grow r) →
      (∀ r ∈ stages.head?, f.UpToDate host r.lookup s) →
      ∀ r ∈ f.replies host inquiries s, r.outcome = (r.anew host f).1 := by
  induction stages with
  | nil =>
    intro inquiries s htypes
    obtain rfl := List.map_eq_nil_iff.mp htypes
    exact fun _ _ _ h => nomatch h
  | cons stage stages ih =>
    intro inquiries s htypes hchain hcurrent
    obtain ⟨inquiry, rest, rfl, hfirst, hothers⟩ := List.map_eq_cons_iff.mp htypes
    have hstage : f.UpToDate host inquiry.types s := hfirst ▸ hcurrent stage rfl
    obtain ⟨hsame, hafter⟩ := hstage.reply hpure
    refine List.forall_mem_cons.mpr ⟨hsame, ih rest _ hothers hchain.tail ?_⟩
    intro next hnext
    obtain ⟨ts, rfl⟩ := hchain.rel_head? hnext
    exact (hfirst ▸ hafter).grows (Registry.grows_foldl ts stage)

end Growing

/-- **Remembering agrees with resolving.** A field that remembers no type is asked for it again and
again, against any types, whatever the functions of the host answer and whatever happens in between.

* A call that comes after failures alone goes as if nothing could be remembered.
* All calls that come after a success give the type that it gave, and do nothing.
* If the host always gives the same, and the types are those of successive stages of one registry,
  every call gives what resolving the reference gives there and then. -/
theorem replies_memoised (host : Host W) {f : Field} {s : Store W} (hnew : f.remembered? s = none)
    (inquiries : List (Inquiry W f)) :
    (∀ earlier r later, f.replies host inquiries s = earlier ++ r :: later →
      ((∀ failed ∈ earlier, ∃ e, failed.outcome = .error e) → r.Anew host f) ∧
      ∀ type, r.outcome = .ok type →
        ∀ r' ∈ later, r'.outcome = .ok type ∧ r'.after = r'.before) ∧
    ((∀ h w w', (host.typeOf h w).1 = (host.typeOf h w').1) →
      ∀ stages : List Registry, inquiries.map Inquiry.types = stages.map Registry.lookup →
        stages.IsChain (fun r r' => ∃ ts : List TypeDef, r' = ts.foldl Registry.grow r) →
        ∀ r ∈ f.replies host inquiries s, r.outcome = (r.anew host f).1) := by
  refine ⟨fun earlier r later hreplies => ⟨?_, fun type hok => ?_⟩, fun hpure stages => ?_⟩
  · exact reply_of_failures inquiries earlier s hnew hreplies
  · exact replies_of_success inquiries hok earlier s hreplies
  · intro htypes hchain
    refine replies_of_stages hpure stages inquiries s htypes hchain fun r _ type htype => ?_
    cases hnew.symm.trans htype

/-- A host that counts how often it is asked, and always gives the same name. -/
def countingHost : Host Nat where
  typeOf _ calls := (.named "Person", calls + 1)
  fieldOf _ calls := (.null, calls)
  fieldSetOf _ calls := (.record [], calls)
  resolve _ parent _ calls := (parent, calls)
  map _ parents _ calls := (parents, calls)
  complexity _ children _ calls := (children, calls)

/-- A field whose type the host is asked for. -/
def bestFriend : Field where
  name := "bestFriend"
  arguments := []
  typeRef := some (.deferred ⟨0⟩)
  resolution := .standard
  estimator := none
  description := none
  deprecationReason := none
  source := []
  id := 0

/-- The registry before and after a type is added, and as it is. -/
def personStages : List Registry :=
  let grown := Registry.initial.grow (.scalar ⟨"Person", none⟩)
  [.initial, grown, grown]

/-- The first call fails for want of the type, the second finds it, and the third asks nothing. -/
theorem replies_memoised_bestFriend :
    let inquiries := personStages.map fun r =>
      { types := r.lookup, meanwhile := id, keeps := fun _ => rfl : Inquiry Nat bestFriend }
    let replies := bestFriend.replies countingHost inquiries (.start 0)
    bestFriend.remembered? (.start 0 : Store Nat) = none ∧
      (∀ r ∈ replies, r.outcome = (r.anew countingHost bestFriend).1) ∧
      replies.map Reply.outcome = [.error (.undefinedTypeName "Person"),
        .ok (.named ⟨.scalar, "Person"⟩), .ok (.named ⟨.scalar, "Person"⟩)] ∧
      replies.map (fun r => r.after.world) = [1, 2, 2] := by
  have hnew : bestFriend.remembered? (.start 0 : Store Nat) = none := rfl
  refine ⟨hnew, ?_, rfl, rfl⟩
  refine (replies_memoised countingHost hnew _).2 (fun _ _ _ => rfl) personStages rfl ?_
  exact .cons_cons ⟨[.scalar ⟨"Person", none⟩], rfl⟩ (.cons_cons ⟨[], rfl⟩ (.singleton _))

end Field

end Schemata
