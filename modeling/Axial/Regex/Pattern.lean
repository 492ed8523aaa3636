import Axial.Regex.ClassName

/-!
# Patterns

A pattern is a regular expression as it is written, before the flags in force decide what it
matches.

* `Pattern.ClassSet` : what stands within brackets.
* `Pattern` : an expression.
* `Pattern.depth` : how deep its parts are nested.

Rows of parts lean to the left: the second part of a sequence is no sequence, the right side of an
alternation no alternation, and the right side of a union no union.
-/

namespace Axial

/-! ### Items -/

/-- A character that is written out. -/
structure Letter where
  char : Char
  /-- It is written with two hexadecimal digits, and may then stand for a byte. -/
  isByte : Bool := false
deriving DecidableEq

/-- A class with a letter of its own. -/
inductive LetterClass where
  | digit
  | blank
  | word
deriving DecidableEq

/-- What matches a single character. -/
inductive Item where
  | letter (letter : Letter)
  | letterClass (set : LetterClass) (negated : Bool)
  | property (set : CharSet) (negated : Bool)
deriving DecidableEq

/-- A sign for a place of the text. -/
inductive PlaceSign where
  | caret
  | dollar
  | textStart
  | textEnd
  | wordBoundary
  | noWordBoundary
  | wordStart
  | wordEnd
  | wordStartHalf
  | wordEndHalf
deriving DecidableEq

/-- What decides how the signs of an expression are read. -/
inductive Flag where
  | ignoreCase
  | multiLine
  | dotAll
  | swapGreed
  | unicode
  | carriageReturn
  | verbose
deriving DecidableEq

/-- Flags to set or to clear, the first one first. -/
abbrev FlagChanges := List (Flag × Bool)

namespace Pattern

/-! ### Brackets -/

/-- An operation on two classes. -/
inductive SetOperation where
  | intersection
  | difference
  | symmetricDifference
deriving DecidableEq

/-- What stands within brackets. -/
inductive ClassSet where
  | empty
  | item (item : Item)
  | range (first last : Letter)
  | posix (set : CharSet) (negated : Bool)
  | bracket (negated : Bool) (inner : ClassSet)
  | union (left right : ClassSet)
  | operation (operation : SetOperation) (left right : ClassSet)

namespace ClassSet

/-- Put a part at the end of a union. -/
def push (set part : ClassSet) : ClassSet :=
  match set with
  | empty => part
  | set => union set part

/-- How deep brackets, unions and operations are nested; `inUnion` tells that the union at the top
is counted already. -/
def depth (inUnion : Bool) : ClassSet → Nat
  | bracket _ inner => inner.depth false + 1
  | union left right => max (left.depth true) (right.depth false) + if inUnion then 0 else 1
  | operation _ left right => max (left.depth false) (right.depth false) + 1
  | _ => 0

end ClassSet

end Pattern

/-! ### Expressions -/

/-- A regular expression as it is written. -/
inductive Pattern where
  | empty
  | item (item : Item)
  | dot
  | place (sign : PlaceSign)
  | bracket (negated : Bool) (inner : Pattern.ClassSet)
  | repetition (body : Pattern) (least : Nat) (most : Option Nat) (greedy : Bool)
  /-- The number of a group counts the groups with a number that open before it. -/
  | group (number : Option Nat) (changes : FlagChanges) (body : Pattern)
  /-- Flags that hold from here to the end of the group around. -/
  | flags (changes : FlagChanges)
  | seq (first second : Pattern)
  | alt (left right : Pattern)

namespace Pattern

/-- Put a part at the end of a sequence. -/
def push (pattern part : Pattern) : Pattern :=
  match pattern with
  | empty => part
  | pattern => seq pattern part

/-- A row of alternatives that ends with the given one. -/
def orElse (earlier : Option Pattern) (last : Pattern) : Pattern :=
  match earlier with
  | none => last
  | some earlier => alt earlier last

/-- How deep the parts of a pattern are nested. A row of parts or of alternatives is one level
above its parts; `inSeq` and `inAlt` tell that the row at the top is counted already. -/
def depth (inSeq inAlt : Bool) : Pattern → Nat
  | bracket _ inner => inner.depth false + 1
  | repetition body _ _ _ => body.depth false false + 1
  | group _ _ body => body.depth false false + 1
  | seq first second =>
    max (first.depth true false) (second.depth false false) + if inSeq then 0 else 1
  | alt left right =>
    max (left.depth false true) (right.depth false false) + if inAlt then 0 else 1
  | _ => 0

end Pattern

end Axial
