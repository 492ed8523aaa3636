/-!
# JSON documents

* `Json` : a document. A number keeps its literal, and a string whose escapes name half a
  surrogate pair has no text.
* `Json.render` : a document on one line, or laid out over lines with an indent of two spaces.
-/

namespace Axial

/-- A JSON document. -/
inductive Json where
  | null
  | bool (value : Bool)
  /-- A number, as it is written. -/
  | number (literal : List Char)
  /-- A string; `none` if its escapes do not make up a text. -/
  | string (text : Option String)
  | array (items : List Json)
  /-- The members in written order; a name may be no text, like a string. -/
  | object (members : List (Option String × Json))

namespace Json

/-! ### Writing -/

/-- The digits of a control character in an escape. -/
def hexDigits (n : Nat) : List Char :=
  [Nat.digitChar (n / 16), Nat.digitChar (n % 16)]

/-- A character inside a written string. Quotes, backslashes and control characters are escaped,
by a letter where there is one. -/
def escapeChar (c : Char) : List Char :=
  if c = '"' then ['\\', '"']
  else if c = '\\' then ['\\', '\\']
  else if c = '\x08' then ['\\', 'b']
  else if c = '\t' then ['\\', 't']
  else if c = '\n' then ['\\', 'n']
  else if c = '\x0c' then ['\\', 'f']
  else if c = '\r' then ['\\', 'r']
  else if c.toNat < 0x20 then '\\' :: 'u' :: '0' :: '0' :: hexDigits c.toNat
  else [c]

/-- A written string. -/
def quote (text : String) : List Char :=
  '"' :: (text.toList.flatMap escapeChar ++ ['"'])

/-- How a document is laid out: on one line, or with each item on a line of its own. -/
inductive Layout where
  | compact
  | pretty
deriving DecidableEq, Repr

namespace Layout

/-- The break before an item at the given depth. -/
def newline (depth : Nat) : Layout → List Char
  | compact => []
  | pretty => '\n' :: List.replicate (2 * depth) ' '

/-- What separates a name from its value. -/
def colon : Layout → List Char
  | compact => [':']
  | pretty => [':', ' ']

/-- Items between brackets; nothing stands between the brackets of no items. -/
def enclose (layout : Layout) (depth : Nat) (opening closing : Char) (items : List (List Char)) :
    List Char :=
  match items with
  | [] => [opening, closing]
  | items =>
    let line := layout.newline (depth + 1)
    opening :: (line ++ (',' :: line).intercalate items ++ layout.newline depth ++ [closing])

end Layout

mutual

/-- A document as text; `depth` counts the brackets around it. -/
def chars (layout : Layout) (depth : Nat) : Json → List Char
  | null => ['n', 'u', 'l', 'l']
  | bool b => if b then ['t', 'r', 'u', 'e'] else ['f', 'a', 'l', 's', 'e']
  | number literal => literal
  | string text => quote (text.getD "")
  | array items => layout.enclose depth '[' ']' (itemChars layout (depth + 1) items)
  | object members => layout.enclose depth '\x7b' '\x7d' (memberChars layout (depth + 1) members)

/-- Documents as texts. -/
def itemChars (layout : Layout) (depth : Nat) : List Json → List (List Char)
  | [] => []
  | item :: items => chars layout depth item :: itemChars layout depth items

/-- Members as texts. -/
def memberChars (layout : Layout) (depth : Nat) : List (Option String × Json) → List (List Char)
  | [] => []
  | (name, value) :: members =>
    (quote (name.getD "") ++ layout.colon ++ chars layout depth value)
      :: memberChars layout depth members

end

/-- A document as text. -/
def render (layout : Layout) (document : Json) : String :=
  String.ofList (document.chars layout 0)

end Json

end Axial
