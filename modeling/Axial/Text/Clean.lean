import Axial.Text.Blank
import Axial.Text.Escape

/-!
# Cleaned queries

A query may be laid out over several lines and carry comments. Before anything else it is brought
into a single line, and all positions in error messages count characters of that line.

* An unescaped `#` starts a comment that runs to the end of its line.
* A run of blanks and comments becomes one space, and nothing at either end of the query.
* An escaped character is kept with its backslash; an escaped blank becomes an escaped space.
-/

namespace Axial

namespace Text

/-- What lies between the last character that was kept and the current one. -/
inductive Gap where
  /-- Nothing: the current character follows directly. -/
  | closed
  /-- Blanks or a finished comment. -/
  | blank
  /-- An unfinished comment. -/
  | comment

/-- The space that a gap leaves behind; none before the first character of the query. -/
def Gap.space (started : Bool) : Gap → List Char
  | .closed => []
  | _ => if started then [' '] else []

/-- Clean the rest of a query after the given gap; `started` says whether any character was kept
before. -/
def cleanFrom (started : Bool) (gap : Gap) : List Char → List Char
  | [] => []
  | c :: cs =>
    match gap with
    | .comment => cleanFrom started (if c = '\n' then .blank else .comment) cs
    | gap =>
      if c = '#' then cleanFrom started .comment cs
      else if isBlank c then cleanFrom started .blank cs
      else if c = '\\' then
        match cs with
        | [] => gap.space started ++ ['\\']
        | e :: rest =>
          gap.space started ++ '\\' :: (if isBlank e then ' ' else e) :: cleanFrom true .closed rest
      else gap.space started ++ c :: cleanFrom true .closed cs

/-- The cleaned form of a query. -/
def clean (query : String) : String :=
  String.ofList (cleanFrom false .closed query.toList)

end Text

end Axial
