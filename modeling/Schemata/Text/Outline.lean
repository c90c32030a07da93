import Schemata.Text.Quoted

/-!
# Outlines of data

An outline shows how a piece of data is built: the word that heads it and the parts it is made
from, on one line. Reports that list several violations show each of them by its outline.

## Main definitions

* `Schemata.Outline`: the parts an outline is made from.
* `Schemata.Outline.head`: the word that heads an outline.
* `Schemata.Outline.render`: the text of an outline.
-/

namespace Schemata

/-- How a piece of data is built. -/
inductive Outline where
  /-- A word that stands for itself. -/
  | word (content : String)
  /-- A text, shown in quotes. -/
  | text (content : String)
  /-- A list of parts. -/
  | list (parts : List Outline)
  /-- A head applied to parts by position; without a head, a plain tuple. -/
  | apply (head : String) (parts : List Outline)
  /-- A head with named parts; a head alone if there are none. -/
  | record (head : String) (parts : List (String × Outline))
  /-- Parts listed under keys that are texts themselves. -/
  | table (rows : List (String × Outline))

namespace Outline

/-- The outline of something that may be absent. -/
def option : Option Outline → Outline
  | none => .word "None"
  | some part => .apply "Some" [part]

/-- The outline of a text that may be absent. -/
def optionalText (content : Option String) : Outline :=
  option (content.map .text)

/-- The word that heads an outline, if a word does. -/
def head : Outline → String
  | word content => content
  | apply head _ => head
  | record head _ => head
  | text _ | list _ | table _ => ""

/-- Parts one after the other, with commas between them. -/
def commas (parts : List String) : String :=
  ", ".intercalate parts

mutual

/-- The text of an outline. -/
def render : Outline → String
  | word content => content
  | text content => Text.quote content
  | list parts => "[" ++ commas (renderAll parts) ++ "]"
  | apply head parts => head ++ "(" ++ commas (renderAll parts) ++ ")"
  | record head [] => head
  | record head (part :: parts) =>
    head ++ " \x7b " ++ commas (renderNamed (part :: parts)) ++ " \x7d"
  | table rows => "\x7b" ++ commas (renderRows rows) ++ "\x7d"

/-- The texts of several outlines. -/
def renderAll : List Outline → List String
  | [] => []
  | part :: parts => part.render :: renderAll parts

/-- The texts of named parts, each after its name. -/
def renderNamed : List (String × Outline) → List String
  | [] => []
  | (name, part) :: parts => (name ++ ": " ++ part.render) :: renderNamed parts

/-- The texts of the rows of a table, each after its quoted key. -/
def renderRows : List (String × Outline) → List String
  | [] => []
  | (key, part) :: parts => (Text.quote key ++ ": " ++ part.render) :: renderRows parts

end

end Outline

end Schemata
