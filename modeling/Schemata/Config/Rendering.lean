import Schemata.Config
import Schemata.Decimal.Shortest
import Schemata.Text.Quoted

/-!
# Configuration values in messages

A message that refuses a value shows it. What it shows of a large value is cut: two collections one
inside the other are shown with their first five items, collections inside them only by their
brackets, and of a long text the first hundred characters. Functions, fields and arguments are shown
as short tags. The keys of records and the names in references to types are shown in full.

## Main definitions

* `Schemata.Config.renderWithin`: the text of a value, with so many levels of collections.
* `Schemata.Config.render`: the text that messages show.
-/

namespace Schemata.Config

/-- How many collections one inside the other are shown with items. -/
def shownLevels : Nat := 2

/-- How many items of a collection are shown. -/
def shownItems : Nat := 5

/-- How many characters of a text are shown. -/
def shownCharacters : Nat := 100

/-- A text in quotes, cut to its first characters; three dots tell that it goes on. -/
def renderString (s : String) : String :=
  let cs := s.toList
  if s.isEmpty then "(empty string)"
  else if shownCharacters < cs.length then
    Text.quote (String.ofList (cs.take shownCharacters)) ++ "..."
  else Text.quote s

/-- The texts of the first items of a collection, and how many more it has. -/
def renderItems (total : Nat) (texts : List String) : String :=
  ", ".intercalate texts ++
    if shownItems < total then ", ..." ++ toString (total - shownItems) ++ " more" else ""

/-- The text of a value, in which at most `levels` collections one inside the other are shown with
items. -/
def renderWithin : Nat → Config → String
  | _, null => "null"
  | _, bool b => if b then "true" else "false"
  | _, int n => toString n.toInt
  | _, float x => Decimal.floatText x
  | _, string s => renderString s
  | 0, list _ => "[...]"
  | levels + 1, list items =>
    "[" ++ renderItems items.length ((items.take shownItems).map (renderWithin levels)) ++ "]"
  | 0, record _ => "\x7b...\x7d"
  | levels + 1, record entries =>
    "\x7b" ++ renderItems entries.length ((entries.take shownItems).map fun (name, value) =>
      name ++ ": " ++ renderWithin levels value) ++ "\x7d"
  | _, type ref => ref.text
  | _, callable c => "<" ++ c.kind.name ++ " function>"
  | _, field f => "<field definition " ++ Text.quote f.name ++ ">"
  | _, argument a => "<argument " ++ Text.quote a.name ++ ">"

/-- The text that messages show of a value. -/
def render (value : Config) : String :=
  renderWithin shownLevels value

/-- The text that messages show of a value that may be absent: `null` stands for none. -/
def renderOption (value : Option Config) : String :=
  (value.getD null).render

end Schemata.Config
