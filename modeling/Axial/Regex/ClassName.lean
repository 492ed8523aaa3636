import Axial.Unicode.Age
import Axial.Unicode.Break
import Axial.Unicode.Extension

/-!
# Classes of characters by name

* `CharSet.posix?` : a class of ASCII, as it is named within brackets.
* `CharSet.named?` : a property, a category or a script.
* `CharSet.valued?` : the characters for which a property has a value.
* `CharSet.queried?` : either of the two, as it is written between braces.
-/

namespace Axial

namespace CharSet

/-! ### ASCII -/

/-- The digits of ASCII. -/
def asciiDigit : CharSet := .between [('0', '9')]

/-- The letters of ASCII. -/
def asciiLetter : CharSet := .between [('A', 'Z'), ('a', 'z')]

/-- The blanks of ASCII. -/
def asciiBlank : CharSet := .between [('\t', '\r'), (' ', ' ')]

/-- The letters and the digits of ASCII. -/
def asciiAlphanumeric : CharSet := .union asciiLetter asciiDigit

/-- The letters, the digits and the underscore of ASCII. -/
def asciiWord : CharSet := .union asciiAlphanumeric (.single '_')

/-- A class of ASCII by its name. -/
def posix? : String → Option CharSet
  | "alnum" => some asciiAlphanumeric
  | "alpha" => some asciiLetter
  | "ascii" => some (.range 0 0x7F)
  | "blank" => some (.between [('\t', '\t'), (' ', ' ')])
  | "cntrl" => some (.between [('\x00', '\x1f'), ('\x7f', '\x7f')])
  | "digit" => some asciiDigit
  | "graph" => some (.between [('!', '~')])
  | "lower" => some (.between [('a', 'z')])
  | "print" => some (.between [(' ', '~')])
  | "punct" => some (.between [('!', '/'), (':', '@'), ('[', '\x60'), ('\x7b', '~')])
  | "space" => some asciiBlank
  | "upper" => some (.between [('A', 'Z')])
  | "word" => some asciiWord
  | "xdigit" => some (.between [('0', '9'), ('A', 'F'), ('a', 'f')])
  | _ => none

/-! ### Names of the standard -/

/-- Whether a name starts with `is`, in letters of any case. -/
def startsWithIs : List Char → Bool
  | a :: b :: _ => a.toLower = 'i' && b.toLower = 's'
  | _ => false

/-- The form in which names are compared: in small letters, without a leading `is`, and without
blanks, underscores, hyphens and all that is not of ASCII. The name `isc` keeps its first letters,
for without them it would name another class. -/
def normalName (name : List Char) : String :=
  let kept := (if startsWithIs name then name.drop 2 else name).filter fun c =>
    c.toNat < 128 && c ≠ ' ' && c ≠ '_' && c ≠ '-'
  let letters := kept.map Char.toLower
  if startsWithIs name ∧ letters = ['c'] then "isc" else String.ofList letters

/-- The characters with the property, of the category or of the script of a name. -/
def named? (name : List Char) : Option CharSet :=
  let name := normalName name
  Unicode.property? name <|> lookup? Unicode.categories name <|> lookup? Unicode.scripts name

/-- The characters for which the property of a name has a value. -/
def valued? (property value : List Char) : Option CharSet :=
  let value := normalName value
  match normalName property with
  | "gc" | "generalcategory" => lookup? Unicode.categories value
  | "sc" | "script" => lookup? Unicode.scripts value
  | "scx" | "scriptextensions" => Unicode.scriptExtension? value
  | "age" => Unicode.age? value
  | "gcb" | "graphemeclusterbreak" => lookup? Unicode.graphemeBreaks value
  | "wb" | "wordbreak" => lookup? Unicode.wordBreaks value
  | "sb" | "sentencebreak" => lookup? Unicode.sentenceBreaks value
  | _ => none

/-! ### Queries -/

/-- Split a text at the first place where another one starts. -/
def splitAt? (mark : List Char) : List Char → Option (List Char × List Char)
  | [] => none
  | c :: cs =>
    if mark.isPrefixOf (c :: cs) then some ([], (c :: cs).drop mark.length)
    else (splitAt? mark cs).map fun (front, rest) => (c :: front, rest)

/-- The class that a query asks for, and whether it asks for all other characters. A query is a
name, or a property and a value with `!=`, `:` or `=` between them. -/
def queried? (query : List Char) : Option (Bool × CharSet) :=
  let valuedBy (mark : List Char) (negated : Bool) :=
    (splitAt? mark query).map fun (property, value) =>
      (valued? property value).map fun set => (negated, set)
  (valuedBy ['!', '='] true <|> valuedBy [':'] false <|> valuedBy ['='] false).getD
    ((named? query).map fun set => (false, set))

end CharSet

end Axial
