/-!
# Sets of characters

A set of characters is kept as ranges of code points in increasing order.

* `CharSet.mem` : membership.
* `CharSet.ofRanges` : the set of some ranges in any order; ranges that touch become one.
* `CharSet.union`, `CharSet.inter`, `CharSet.diff`, `CharSet.symmDiff`, `CharSet.compl` : the
  operations on sets.
* `CharSet.lookup?` : a set by one of its names.
-/

namespace Axial

/-- A set of characters: the first and the last code point of each of its ranges. -/
structure CharSet where
  ranges : List (Nat × Nat)
deriving DecidableEq, Repr

namespace CharSet

/-! ### Membership -/

/-- Whether a code point is in a set. -/
def has (set : CharSet) (n : Nat) : Bool :=
  set.ranges.any fun r => r.1 ≤ n && n ≤ r.2

/-- Whether a character is in a set. -/
def mem (set : CharSet) (c : Char) : Bool :=
  set.has c.toNat

/-! ### Sets of ranges -/

/-- Join a range with the ranges after it that start inside it or next to it. -/
def joinFrom (first last : Nat) : List (Nat × Nat) → List (Nat × Nat)
  | [] => [(first, last)]
  | (a, b) :: rest =>
    if a ≤ last + 1 then joinFrom first (max last b) rest
    else (first, last) :: joinFrom a b rest

/-- Join the ranges that touch, in ranges ordered by their first code points. -/
def join : List (Nat × Nat) → List (Nat × Nat)
  | [] => []
  | (a, b) :: rest => joinFrom a b rest

/-- The set of some ranges in any order. -/
def ofRanges (ranges : List (Nat × Nat)) : CharSet :=
  ⟨join (ranges.mergeSort fun r s => r.1 ≤ s.1)⟩

/-- The set without characters. -/
def empty : CharSet := ⟨[]⟩

/-- The set of all characters. -/
def any : CharSet := ⟨[(0, 0x10FFFF)]⟩

/-- The characters from one code point to another. -/
def range (first last : Nat) : CharSet := ⟨[(first, last)]⟩

/-- One character. -/
def single (c : Char) : CharSet := range c.toNat c.toNat

/-- The ranges between pairs of characters. -/
def between (pairs : List (Char × Char)) : CharSet :=
  ofRanges (pairs.map fun (a, b) => (a.toNat, b.toNat))

/-- The only character of a set. -/
def single? (set : CharSet) : Option Char :=
  match set.ranges with
  | [(a, b)] => if a = b ∧ a.isValidChar then some (Char.ofNat a) else none
  | _ => none

/-! ### Operations -/

/-- The union of some sets. -/
def unions (sets : List CharSet) : CharSet :=
  ofRanges (sets.flatMap CharSet.ranges)

/-- The union of two sets. -/
def union (a b : CharSet) : CharSet :=
  unions [a, b]

/-- The parts that two lists of ranges have in common. -/
def interRanges : List (Nat × Nat) → List (Nat × Nat) → List (Nat × Nat)
  | [], _ => []
  | _, [] => []
  | (a, b) :: r, (c, d) :: s =>
    let rest := if b < d then interRanges r ((c, d) :: s) else interRanges ((a, b) :: r) s
    if max a c ≤ min b d then (max a c, min b d) :: rest else rest
termination_by r s => r.length + s.length

/-- The characters in both sets. -/
def inter (a b : CharSet) : CharSet :=
  ⟨interRanges a.ranges b.ranges⟩

/-- The code point of the next character; between U+D7FF and U+E000 there is none. -/
def next (n : Nat) : Nat :=
  if n = 0xD7FF then 0xE000 else n + 1

/-- The code point of the character before. -/
def previous (n : Nat) : Nat :=
  if n = 0xE000 then 0xD7FF else n - 1

/-- The ranges from a code point on that are not among the given ones. `seam` is what stands
between U+D7FF and U+E000 where one range ends with the first and the next starts with the
second. -/
def gaps (seam : List (Nat × Nat)) (start : Nat) : List (Nat × Nat) → List (Nat × Nat)
  | [] => if start ≤ 0x10FFFF then [(start, 0x10FFFF)] else []
  | (a, b) :: rest =>
    (if start < a then [(start, previous a)] else if start = 0xE000 ∧ a = 0xE000 then seam else [])
      ++ gaps seam (next b) rest

/-- The characters in the first set only. -/
def diff (a b : CharSet) : CharSet :=
  ⟨interRanges a.ranges (gaps [] 0 b.ranges)⟩

/-- The characters in one of the sets only. -/
def symmDiff (a b : CharSet) : CharSet :=
  (a.union b).diff (a.inter b)

/-- The characters that are not in a set. Where one range of the set ends with U+D7FF and the next
starts with U+E000, the gap without characters between them is taken from its end to its start, so
that both stay in. -/
def compl (a : CharSet) : CharSet :=
  ⟨gaps [(0xD7FF, 0xE000)] 0 a.ranges⟩

/-- The complement of a set, if asked for. -/
def negateIf (negated : Bool) (a : CharSet) : CharSet :=
  if negated then a.compl else a

/-! ### Names -/

/-- A set under some names. -/
structure Named where
  names : List String
  set : CharSet

/-- The set with the given name. -/
def lookup? (table : List Named) (name : String) : Option CharSet :=
  (table.find? (name ∈ ·.names)).map Named.set

end CharSet

end Axial
