import Axial.Text.CharSet

/-!
# Regular expressions

A regular expression relates a place of a text to the places where a match that starts there may
end. A place is the number of characters before it. Whether a repetition prefers many times and
which groups have numbers has no bearing on that, but it tells expressions apart.

* `Regex.Matches` : the relation, by the form of the expression.
* `Regex.image` : all ends of the matches that start at one of the given places.
* `Regex.isMatch` : whether a text holds a match anywhere.
-/

namespace Axial

/-- A condition on a place of a text. -/
inductive Anchor where
  | textStart
  | textEnd
  | lineStart
  | lineEnd
  /-- Line starts and ends where a line may also end in a carriage return. -/
  | returnLineStart
  | returnLineEnd
  /-- A place between a word and what is no word, or one that is none. -/
  | wordBoundary (word : CharSet)
  | noWordBoundary (word : CharSet)
  /-- The start or the end of a word, or only the side of it outside the word. -/
  | wordStart (word : CharSet)
  | wordEnd (word : CharSet)
  | wordStartHalf (word : CharSet)
  | wordEndHalf (word : CharSet)
deriving DecidableEq

/-- A regular expression. -/
inductive Regex where
  | empty
  | char (set : CharSet)
  | anchor (anchor : Anchor)
  | seq (first second : Regex)
  | alt (left right : Regex)
  /-- At least and, if there is a bound, at most so many times. -/
  | repetition (body : Regex) (least : Nat) (most : Option Nat) (greedy : Bool)
  /-- A group, which may have a number. -/
  | group (number : Option Nat) (body : Regex)
deriving DecidableEq

/-! ### Anchors -/

namespace Anchor

/-- Whether a place of a text fulfils a condition. -/
def holds (text : Array Char) (anchor : Anchor) (place : Nat) : Bool :=
  let before := if place = 0 then none else text[place - 1]?
  let after := text[place]?
  let inside (set : CharSet) (c : Option Char) : Bool := c.any set.mem
  match anchor with
  | textStart => place = 0
  | textEnd => place = text.size
  | lineStart => place = 0 || before = some '\n'
  | lineEnd => place = text.size || after = some '\n'
  | returnLineStart =>
    place = 0 || before = some '\n' || (before = some '\r' && after ≠ some '\n')
  | returnLineEnd =>
    place = text.size || after = some '\r' || (after = some '\n' && before ≠ some '\r')
  | wordBoundary word => inside word before != inside word after
  | noWordBoundary word => inside word before == inside word after
  | wordStart word => !inside word before && inside word after
  | wordEnd word => inside word before && !inside word after
  | wordStartHalf word => !inside word before
  | wordEndHalf word => !inside word after

end Anchor

namespace Regex

/-! ### The relation -/

/-- At least `least` and at most `most` steps of a relation. -/
inductive Steps (step : Nat → Nat → Prop) : Nat → Option Nat → Nat → Nat → Prop where
  | done (most : Option Nat) (i : Nat) : Steps step 0 most i i
  | more {least : Nat} {most : Option Nat} {i j k : Nat} (hmost : most ≠ some 0)
      (head : step i j) (tail : Steps step (least - 1) (most.map (· - 1)) j k) :
      Steps step least most i k

/-- The expression matches the text between two places. -/
def Matches (text : Array Char) : Regex → Nat → Nat → Prop
  | empty, i, j => i = j
  | char set, i, j => j = i + 1 ∧ ∃ c, text[i]? = some c ∧ set.mem c = true
  | anchor a, i, j => i = j ∧ a.holds text i = true
  | seq first second, i, k => ∃ j, first.Matches text i j ∧ second.Matches text j k
  | alt left right, i, j => left.Matches text i j ∨ right.Matches text i j
  | repetition body least most _, i, j => Steps (body.Matches text) least most i j
  | group _ body, i, j => body.Matches text i j

/-! ### Matching -/

/-- The places of one list or the other. -/
def join (places more : List Nat) : List Nat :=
  places ++ more.filter (· ∉ places)

/-- The places reached by at most `n` steps from the newest of them, which are among them. Only
places that are new take another step, so that it ends when there are none. -/
def reachFrom (step : List Nat → List Nat) : Nat → List Nat → List Nat → List Nat
  | 0, places, _ => places
  | n + 1, places, newest =>
    let fresh := (step newest).filter (· ∉ places)
    if fresh = [] then places else reachFrom step n (places ++ fresh) fresh

/-- The places reached by at most `n` steps. -/
def reach (step : List Nat → List Nat) (n : Nat) (places : List Nat) : List Nat :=
  reachFrom step n places places

/-- The places reached by exactly `n` steps. A step that changes nothing stays the last one. -/
def advance (step : List Nat → List Nat) : Nat → List Nat → List Nat
  | 0, places => places
  | n + 1, places =>
    let reached := step places
    if reached = places then places else advance step n reached

/-- The places where a match that starts at one of the given places may end. -/
def image (text : Array Char) : Regex → List Nat → List Nat
  | empty, places => places
  | char set, places =>
    (places.filter fun i => text[i]?.any set.mem).map (· + 1)
  | anchor a, places => places.filter (a.holds text)
  | seq first second, places => second.image text (first.image text places)
  | alt left right, places => join (left.image text places) (right.image text places)
  | repetition body least most _, places =>
    let places := advance (body.image text) least places
    match most with
    | none => reach (body.image text) (text.size + 1) places
    | some most => reach (body.image text) (most - least) places
  | group _ body, places => body.image text places

/-- Whether a text holds a match. -/
def isMatch (regex : Regex) (text : String) : Bool :=
  let cs := text.toList.toArray
  !(regex.image cs (List.range (cs.size + 1))).isEmpty

end Regex

end Axial
