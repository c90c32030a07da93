import Mathlib.Data.List.Forall2
import Schemata.Proofs.Places
import Schemata.Value.Json

/-!
# Reading values back from JSON

A value is written without any mark of its kind. What is read is the first kind, in a fixed order,
that accepts the document, and the same is done for every part of a collection. An integer is
accepted as a float as well, so integers must be tried before floats; no other two kinds accept one
document. Nothing that is written for a value is therefore read as a value of another kind.

How the document travels from the writer to the reader is up to a JSON library. What is relied on is
said for each kind of document: integers of 64 bits, finite floats, truth values and texts are
handed over as they are, a float that is not finite is written as `null`, and the parts of
collections are handed over one by one in their order. Under these conditions a value is read back
as it was, with `null` for the floats that JSON has no number for.

Entries of an object that are read are inserted one by one, so a value is read back only if none of
its objects repeats a name. No object does in a value that was itself read.

## Main definitions

* `Schemata.Value.read?`: the value of the first kind that accepts a document.
* `Schemata.Value.sent`: the document that a value hands to the library.
* `Schemata.Json.Medium`, `Schemata.Json.Medium.Faithful`: a library, and what is relied on.
* `Schemata.Json.inMemory`: a library that is relied on.

## Main results

* `Schemata.Value.read?_eq`: every document is read, and as what `Schemata.Value.ofJson` says.
* `Schemata.Value.isSome_readAs?_iff`: the kinds that accept a document.
* `Schemata.Value.ofJson_toJson`, `Schemata.Value.keyed_ofJson`: a value is read back from its
  document, and what is read can be written and read again.
* `Schemata.Value.read_sent`: a value comes back from any library that is relied on.
-/

namespace Schemata

namespace Value

/-! ### The first kind that accepts -/

/-- The kinds in the order in which they are tried. -/
def Kind.declared : List Kind :=
  [null, bool, int, float, string, list, object]

mutual

-- Parts are smaller than the document that they stand in. The second measure counts that a document
-- is tried as one kind after the other while it stays the same.

/-- The document as a value of one kind, if that kind accepts it. -/
def readAs? : Kind → Json → Option Value
  | .null, j => j.asNull?.map fun _ => null
  | .bool, j => j.asBool?.map bool
  | .int, j => j.asInteger?.map int
  | .float, j => j.asFloat?.map float
  | .string, j => j.asString?.map string
  | .list, .array items => (readItems? items).map list
  | .object, .object members => (readMembers? members).map fun entries =>
    object (Entries.ofList entries)
  | .list, _ | .object, _ => none
termination_by _ j => (sizeOf j, 0)

/-- The document as a value of the first kind that accepts it. -/
def read? (j : Json) : Option Value :=
  Kind.declared.findSome? fun kind => readAs? kind j
termination_by (sizeOf j, 1)

/-- The items of an array, if each of them can be read. -/
def readItems? : List Json → Option (List Value)
  | [] => some []
  | j :: js => do
    let v ← read? j
    let vs ← readItems? js
    return v :: vs
termination_by js => (sizeOf js, 0)

/-- The members of an object, if each of them can be read. -/
def readMembers? : List (String × Json) → Option (List (String × Value))
  | [] => some []
  | (name, j) :: js => do
    let v ← read? j
    let vs ← readMembers? js
    return (name, v) :: vs
termination_by js => (sizeOf js, 0)

end

mutual

/-- **Every document is read**, and as what the reading kind by kind of its shape says. -/
theorem read?_eq (j : Json) : read? j = some (ofJson j) := by
  rw [read?, Kind.declared]
  cases j with
  | array items =>
    simp only [List.findSome?, readAs?, readItems?_eq items]
    rfl
  | object members =>
    simp only [List.findSome?, readAs?, readMembers?_eq members]
    rfl
  | _ =>
    simp only [List.findSome?, readAs?]
    rfl

theorem readItems?_eq (js : List Json) : readItems? js = some (ofJsonItems js) := by
  cases js with
  | nil => rw [readItems?, ofJsonItems]
  | cons j js =>
    rw [readItems?, read?_eq j, readItems?_eq js]
    rfl

theorem readMembers?_eq (js : List (String × Json)) :
    readMembers? js = some (ofJsonMembers js) := by
  cases js with
  | nil => rw [readMembers?, ofJsonMembers]
  | cons member js =>
    obtain ⟨name, j⟩ := member
    rw [readMembers?, read?_eq j, readMembers?_eq js]
    rfl

end

/-- **The kinds do not overlap** but for numbers: a document is accepted by the kind that it is read
as and by no other, apart from an integer, which floats accept as well. -/
theorem isSome_readAs?_iff {kind : Kind} {j : Json} :
    (readAs? kind j).isSome = true ↔
      kind = (ofJson j).kind ∨ kind = .float ∧ (ofJson j).kind = .int := by
  cases j <;> cases kind <;>
    simp [readAs?, readItems?_eq, readMembers?_eq, ofJson, readPlain?, Value.kind, Json.asNull?,
      Json.asBool?, Json.asInteger?, Json.asFloat?, Json.asString?]

/-! ### Reading what was written -/

mutual

/-- **A value is read back from its document**, but for floats that are NaN or infinite. -/
theorem ofJson_toJson {v : Value} (h : v.Keyed) : ofJson v.toJson = v.withoutNonFinite := by
  cases v with
  | float x =>
    rw [toJson, withoutNonFinite]
    split <;> rfl
  | list items =>
    rw [toJson, ofJson, withoutNonFinite, ofJsonItems_toJsonItems (keyed_list_iff.mp h)]
  | object entries =>
    obtain ⟨hnodup, hentries⟩ := keyed_object_iff.mp h
    -- The names are distinct, so no entry is put in the place of another.
    rw [toJson, ofJson, withoutNonFinite, ofJsonMembers_toJsonMembers hentries,
      Entries.ofList_of_nodup ((keys_entriesWithoutNonFinite entries).symm ▸ hnodup)]
  | _ => rfl

theorem ofJsonItems_toJsonItems {vs : List Value} (h : ∀ v ∈ vs, v.Keyed) :
    ofJsonItems (toJsonItems vs) = itemsWithoutNonFinite vs := by
  cases vs with
  | nil => rfl
  | cons v vs =>
    obtain ⟨hfirst, hrest⟩ := List.forall_mem_cons.mp h
    rw [toJsonItems, ofJsonItems, itemsWithoutNonFinite, ofJson_toJson hfirst,
      ofJsonItems_toJsonItems hrest]

theorem ofJsonMembers_toJsonMembers {vs : List (String × Value)}
    (h : ∀ v ∈ Entries.items vs, v.Keyed) :
    ofJsonMembers (toJsonMembers vs) = entriesWithoutNonFinite vs := by
  cases vs with
  | nil => rfl
  | cons entry vs =>
    obtain ⟨hfirst, hrest⟩ := List.forall_mem_cons.mp h
    rw [toJsonMembers, ofJsonMembers, entriesWithoutNonFinite, ofJson_toJson hfirst,
      ofJsonMembers_toJsonMembers hrest]

end

mutual

/-- **No object that is read repeats a name**, whatever the document repeats. -/
theorem keyed_ofJson (j : Json) : (ofJson j).Keyed := by
  cases j with
  | array items => exact keyed_list_iff.mpr (keyed_ofJsonItems items)
  | object members =>
    refine keyed_object_iff.mpr ⟨Entries.nodup_keys_ofList _, fun v hmem => ?_⟩
    exact keyed_ofJsonMembers members v (Entries.mem_items_of_mem_ofList hmem)
  | _ => exact keyed_of_flat Kind.noConfusion Kind.noConfusion

theorem keyed_ofJsonItems (js : List Json) : ∀ v ∈ ofJsonItems js, v.Keyed := by
  cases js with
  | nil => exact List.forall_mem_nil _
  | cons j js => exact List.forall_mem_cons.mpr ⟨keyed_ofJson j, keyed_ofJsonItems js⟩

theorem keyed_ofJsonMembers (js : List (String × Json)) :
    ∀ v ∈ Entries.items (ofJsonMembers js), v.Keyed := by
  cases js with
  | nil => exact List.forall_mem_nil _
  | cons member js => exact List.forall_mem_cons.mpr ⟨keyed_ofJson member.2, keyed_ofJsonMembers js⟩

end

/-! ### Sending values -/

mutual

/-- The document that a value hands to a JSON library, with floats as they are. -/
def sent : Value → Json
  | null => .null
  | bool b => .bool b
  | int n => .integer n
  | float x => .float x
  | string s => .string s
  | list items => .array (sentItems items)
  | object entries => .object (sentMembers entries)

/-- The documents that the items of a list hand to the library. -/
def sentItems : List Value → List Json
  | [] => []
  | v :: vs => v.sent :: sentItems vs

/-- The members that the entries of an object hand to the library. -/
def sentMembers : List (String × Value) → List (String × Json)
  | [] => []
  | (name, v) :: vs => (name, v.sent) :: sentMembers vs

end

theorem keys_sentMembers (vs : List (String × Value)) :
    Entries.keys (sentMembers vs) = Entries.keys vs := by
  induction vs with
  | nil => rfl
  | cons entry vs ih => exact congrArg (entry.1 :: ·) ih

end Value

/-! ### What is relied on of a library -/

namespace Json

/-- A JSON library: how a document is written, and which document is read from what was written. -/
structure Medium where
  Text : Type
  write : Json → Text
  read? : Text → Option Json

namespace Medium

/-- What is received when a document is sent. -/
def Hands (medium : Medium) (sent received : Json) : Prop :=
  medium.read? (medium.write sent) = some received

/-- What is relied on of a JSON library, for each kind of document. -/
structure Faithful (medium : Medium) : Prop where
  null : medium.Hands .null .null
  bool (b : Bool) : medium.Hands (.bool b) (.bool b)
  /-- An integer of 64 bits arrives as an integer. -/
  integer (n : Int64) : medium.Hands (.integer n) (.integer n)
  /-- A finite float arrives as the same float, be it integral or not. -/
  finite {x : Float} (h : x.isFinite = true) : medium.Hands (.float x) (.float x)
  /-- NaN and the infinities are written as `null`. -/
  nonFinite {x : Float} (h : x.isFinite = false) : medium.Hands (.float x) .null
  string (s : String) : medium.Hands (.string s) (.string s)
  /-- The items of an array arrive one by one in their order. -/
  array {sent received : List Json} (h : List.Forall₂ medium.Hands sent received) :
    medium.Hands (.array sent) (.array received)
  /-- Members under distinct names arrive one by one in their order, each under its name. -/
  object {sent received : List (String × Json)} (hnodup : (Entries.keys sent).Nodup)
    (h : List.Forall₂ (fun a b => a.1 = b.1 ∧ medium.Hands a.2 b.2) sent received) :
    medium.Hands (.object sent) (.object received)

end Medium

mutual

/-- The document with `null` in place of every float that is NaN or infinite. -/
def withoutNonFinite : Json → Json
  | float x => if x.isFinite then float x else null
  | array items => array (itemsWithoutNonFinite items)
  | object members => object (membersWithoutNonFinite members)
  | j => j

/-- The items with `null` in place of every float that is NaN or infinite. -/
def itemsWithoutNonFinite : List Json → List Json
  | [] => []
  | j :: js => j.withoutNonFinite :: itemsWithoutNonFinite js

/-- The members with `null` in place of every float that is NaN or infinite. -/
def membersWithoutNonFinite : List (String × Json) → List (String × Json)
  | [] => []
  | (name, j) :: js => (name, j.withoutNonFinite) :: membersWithoutNonFinite js

end

/-- The library that keeps a document in memory and writes no text for it. -/
def inMemory : Medium where
  Text := Json
  write := withoutNonFinite
  read? := some

theorem hands_inMemory_iff {sent received : Json} :
    inMemory.Hands sent received ↔ sent.withoutNonFinite = received :=
  Option.some_inj

theorem faithful_inMemory : inMemory.Faithful where
  null := rfl
  bool _ := rfl
  integer _ := rfl
  finite h := hands_inMemory_iff.mpr (by rw [withoutNonFinite, if_pos h])
  nonFinite h := hands_inMemory_iff.mpr (by rw [withoutNonFinite, h]; rfl)
  string _ := rfl
  array h := by
    refine hands_inMemory_iff.mpr (congrArg array ?_)
    induction h with
    | nil => rfl
    | cons hfirst _ ih => rw [itemsWithoutNonFinite, hands_inMemory_iff.mp hfirst, ih]
  object hnodup h := by
    refine hands_inMemory_iff.mpr (congrArg object ?_)
    clear hnodup
    induction h with
    | nil => rfl
    | cons hfirst _ ih =>
      obtain ⟨hname, hitem⟩ := hfirst
      rw [membersWithoutNonFinite, hands_inMemory_iff.mp hitem, hname, ih]

end Json

namespace Value

section Medium

variable {medium : Json.Medium}

mutual

/-- The document of a value is what is received when the value is sent. -/
theorem hands_toJson (hmedium : medium.Faithful) {v : Value} (h : v.Keyed) :
    medium.Hands v.sent v.toJson := by
  cases v with
  | null => exact hmedium.null
  | bool b => exact hmedium.bool b
  | int n => exact hmedium.integer n
  | float x =>
    rw [sent, toJson]
    cases hfinite : x.isFinite with
    | true => exact hmedium.finite hfinite
    | false => exact hmedium.nonFinite hfinite
  | string s => exact hmedium.string s
  | list items => exact hmedium.array (hands_toJsonItems hmedium (keyed_list_iff.mp h))
  | object entries =>
    obtain ⟨hnodup, hentries⟩ := keyed_object_iff.mp h
    exact hmedium.object ((keys_sentMembers entries).symm ▸ hnodup)
      (hands_toJsonMembers hmedium hentries)

theorem hands_toJsonItems (hmedium : medium.Faithful) {vs : List Value} (h : ∀ v ∈ vs, v.Keyed) :
    List.Forall₂ medium.Hands (sentItems vs) (toJsonItems vs) := by
  cases vs with
  | nil => exact .nil
  | cons v vs =>
    obtain ⟨hfirst, hrest⟩ := List.forall_mem_cons.mp h
    exact .cons (hands_toJson hmedium hfirst) (hands_toJsonItems hmedium hrest)

theorem hands_toJsonMembers (hmedium : medium.Faithful) {vs : List (String × Value)}
    (h : ∀ v ∈ Entries.items vs, v.Keyed) :
    List.Forall₂ (fun a b => a.1 = b.1 ∧ medium.Hands a.2 b.2) (sentMembers vs)
      (toJsonMembers vs) := by
  cases vs with
  | nil => exact .nil
  | cons entry vs =>
    obtain ⟨hfirst, hrest⟩ := List.forall_mem_cons.mp h
    exact .cons ⟨rfl, hands_toJson hmedium hfirst⟩ (hands_toJsonMembers hmedium hrest)

end

/-! ### Values that come back -/

/-- The value that is read when a value is sent: the first kind that accepts what is received. -/
def back? (medium : Json.Medium) (v : Value) : Option Value :=
  (medium.read? (medium.write v.sent)).bind read?

theorem back?_eq (hmedium : medium.Faithful) {v : Value} (h : v.Keyed) :
    v.back? medium = some v.withoutNonFinite := by
  rw [back?, hands_toJson hmedium h, Option.bind_some, read?_eq, ofJson_toJson h]

/-- **The written form of a value is unambiguous.**

* A value comes back with `null` for the floats in it that are NaN or infinite.
* If there are none, it comes back as it was, entries in their order.
* At every place of any value, what comes back is of the kind that was there, floats that are NaN or
  infinite apart: an integer does not come back as a float, nor an integral float as an integer, nor
  an empty collection as `null`.
* No two values without such floats are written alike. -/
theorem read_sent (hmedium : medium.Faithful) {v : Value} (h : v.Keyed) :
    v.back? medium = some v.withoutNonFinite ∧
    (v.AllFinite → v.back? medium = some v) ∧
    (∀ back, v.back? medium = some back → ∀ place part, v.at? place = some part →
      (∀ x, part = float x → x.isFinite = true) →
        ∃ other, back.at? place = some other ∧ other.kind = part.kind) ∧
    (v.AllFinite → ∀ w : Value, w.Keyed → w.AllFinite →
      medium.write v.sent = medium.write w.sent → v = w) := by
  have hback : v.back? medium = some v.withoutNonFinite := back?_eq hmedium h
  refine ⟨hback, fun hfinite => ?_, fun back hsome place part hpart hnumber => ?_,
    fun hfinite w hw hwfinite hsame => ?_⟩
  · rw [hback, withoutNonFinite_eq hfinite]
  · obtain rfl := Option.some.inj (hback.symm.trans hsome)
    exact ⟨part.withoutNonFinite, by rw [at?_withoutNonFinite, hpart, Option.map_some],
      kind_withoutNonFinite hnumber⟩
  · have hother : w.back? medium = some w.withoutNonFinite := back?_eq hmedium hw
    rw [withoutNonFinite_eq hfinite] at hback
    rw [back?, ← hsame, withoutNonFinite_eq hwfinite] at hother
    exact Option.some.inj (hback.symm.trans hother)

end Medium

/-- A value with numbers of all kinds, in and beside empty collections. -/
def measurements : Value :=
  object [("count", int 1), ("mean", float 1.0), ("origin", float (-0.0)),
    ("rest", list [null, list [], object [], float (0.0 / 0.0), string "1"])]

theorem keyed_measurements : measurements.Keyed := by
  have hflat {v : Value} (h : v.kind ≠ .list ∧ v.kind ≠ .object) : v.Keyed := keyed_of_flat h.1 h.2
  simp only [measurements, keyed_object_iff, keyed_list_iff, Entries.items, List.map_cons,
    List.map_nil, List.forall_mem_cons]
  refine ⟨by decide, hflat (by decide), hflat (by decide), hflat (by decide), ?_, by simp⟩
  exact ⟨hflat (by decide), by simp, by simp [Entries.keys], hflat (by decide), hflat (by decide),
    by simp⟩

theorem read_sent_measurements :
    Json.inMemory.Faithful ∧ measurements.Keyed ∧
      measurements.back? Json.inMemory = some (object [("count", int 1), ("mean", float 1.0),
        ("origin", float (-0.0)),
        ("rest", list [null, list [], object [], null, string "1"])]) := by
  refine ⟨Json.faithful_inMemory, keyed_measurements, ?_⟩
  obtain ⟨hback, -⟩ := read_sent Json.faithful_inMemory keyed_measurements
  rw [hback]
  rfl

end Value

end Schemata
