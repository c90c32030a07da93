import Schemata.Store

/-!
# Hosts that follow a script

A scripted host is given as data. Its world lists one script for each handle: the answers that the
function gives one after the other, the last of them again and again, or a rule by which it works
out its answer. Copies of a handle share one script, and so the place in its list of answers.

A script may answer with its own handle, and so go on forever.

## Main definitions

* `Schemata.Script`: how one function answers, under the label that its calls are counted by.
* `Schemata.Scripted`: the world of a scripted host, with `Schemata.Scripted.push`.
* `Schemata.Scripted.host`: the host itself.
* `Schemata.Store.callCounts`: how often the functions of each label have been called.
-/

namespace Schemata

/-- How a scripted resolver finds a value. -/
inductive ResolverRule where
  | const (value : Value)
  /-- The parent itself. -/
  | parent
  /-- The value of an argument, or `null`. -/
  | argument (name : String)
  /-- The values of all arguments, as an object. -/
  | arguments

/-- The value of a field for a parent. -/
def ResolverRule.apply (rule : ResolverRule) (parent : Value) (arguments : ArgumentValues) :
    Value :=
  match rule with
  | const value => value
  | .parent => parent
  | argument name => (arguments.get? name).getD .null
  | .arguments => .object arguments

/-- How a scripted mapper finds values. -/
inductive MapperRule where
  /-- The same value for each parent. -/
  | const (value : Value)
  /-- The parents themselves. -/
  | parents
  /-- For each parent the value of an argument, or `null`. -/
  | argument (name : String)

/-- The values of a field for several parents. -/
def MapperRule.apply (rule : MapperRule) (parents : List Value) (arguments : ArgumentValues) :
    List Value :=
  match rule with
  | const value => parents.map fun _ => value
  | .parents => parents
  | argument name => parents.map fun _ => (arguments.get? name).getD .null

/-- How a scripted estimator finds a cost. Costs wrap around. -/
inductive EstimatorRule where
  | const (cost : UInt64)
  /-- So much more than the children. -/
  | add (cost : UInt64)
  /-- The children as often as an argument says, or else so often. -/
  | multiply (argument : String) (cost : UInt64)

/-- The cost of a field whose children cost so much. -/
def EstimatorRule.apply (rule : EstimatorRule) (children : UInt64) (arguments : ArgumentValues) :
    UInt64 :=
  match rule with
  | const cost => cost
  | add cost => children + cost
  | multiply argument cost =>
    match (arguments.get? argument).bind Value.asInt? with
    | some n => children * n.toUInt64
    | none => children * cost

/-- What a scripted function answers. -/
inductive Answers where
  /-- References, one after the other. -/
  | types (refs : List TypeRef)
  /-- Declarations, one after the other. -/
  | values (values : List Config)
  | resolver (rule : ResolverRule)
  | mapper (rule : MapperRule)
  | estimator (rule : EstimatorRule)

/-- How one function of a scripted host answers. -/
structure Script where
  /-- What its calls are counted by. Uncounted calls have no label. -/
  label : Option String
  answers : Answers
  /-- How many answers have been given. -/
  given : Nat

/-- The world of a scripted host: the script of each handle. -/
structure Scripted where
  scripts : Array Script
  deriving Inhabited

/-- The answer whose turn it is; the last one once there are no more. -/
def turn {α : Type} (answers : List α) (given : Nat) : Option α :=
  answers[min given (answers.length - 1)]?

namespace Scripted

/-- The world with one more script, and the handle of that script. -/
def push (w : Scripted) (label : Option String) (answers : Handle → Answers) :
    Handle × Scripted :=
  let handle : Handle := ⟨w.scripts.size⟩
  (handle, ⟨w.scripts.push { label, answers := answers handle, given := 0 }⟩)

/-- What the script of a handle answers now. -/
def answersOf (w : Scripted) (h : Handle) : Option (Answers × Nat) :=
  w.scripts[h.index]?.map fun s => (s.answers, s.given)

/-- The label of a handle. -/
def labelOf? (w : Scripted) (h : Handle) : Option String :=
  w.scripts[h.index]?.bind Script.label

/-- The world after one more answer of a handle. -/
def advance (w : Scripted) (h : Handle) : Scripted :=
  ⟨w.scripts.modify h.index fun s => { s with given := s.given + 1 }⟩

/-- The reference a handle answers with. One that has none to give answers with the empty name. -/
def typeOf (h : Handle) (w : Scripted) : TypeRef × Scripted :=
  let answer :=
    match w.answersOf h with
    | some (.types refs, given) => (turn refs given).getD (.named "")
    | _ => .named ""
  (answer, w.advance h)

/-- The declaration a handle answers with. One that has none to give answers with `null`. -/
def configOf (h : Handle) (w : Scripted) : Config × Scripted :=
  let answer :=
    match w.answersOf h with
    | some (.values values, given) => (turn values given).getD .null
    | _ => .null
  (answer, w.advance h)

/-- The value a handle resolves to; `null` if it is no resolver. -/
def resolve (h : Handle) (parent : Value) (arguments : ArgumentValues) (w : Scripted) :
    Value × Scripted :=
  match w.answersOf h with
  | some (.resolver rule, _) => (rule.apply parent arguments, w)
  | _ => (.null, w)

/-- The values a handle maps to; none if it is no mapper. -/
def map (h : Handle) (parents : List Value) (arguments : ArgumentValues) (w : Scripted) :
    List Value × Scripted :=
  match w.answersOf h with
  | some (.mapper rule, _) => (rule.apply parents arguments, w)
  | _ => ([], w)

/-- The cost a handle estimates; that of the children if it is no estimator. -/
def complexity (h : Handle) (children : UInt64) (arguments : ArgumentValues) (w : Scripted) :
    UInt64 × Scripted :=
  match w.answersOf h with
  | some (.estimator rule, _) => (rule.apply children arguments, w)
  | _ => (children, w)

/-- The host that follows the scripts of its world. -/
def host : Host Scripted where
  typeOf := typeOf
  fieldOf := configOf
  fieldSetOf := configOf
  resolve := resolve
  map := map
  complexity := complexity

end Scripted

/-- The labels of the calls in a journal, in order. -/
def Store.calledLabels (s : Store Scripted) : List String :=
  s.journal.toList.filterMap fun
    | .called call => s.world.labelOf? call.handle
    | _ => none

/-- How often the functions of each label have been called, by the order of the labels. Labels
that have not been called are left out. -/
def Store.callCounts (s : Store Scripted) : List (String × Nat) :=
  let labels := s.calledLabels
  let sorted := labels.eraseDups.mergeSort (· ≤ ·)
  sorted.map fun label => (label, labels.count label)

end Schemata
