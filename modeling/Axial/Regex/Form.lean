import Axial.Regex.Basic

/-!
# The normal form of regular expressions

Before its size is counted, an expression is put into a form that takes less. There, a sequence
holds no sequence and no empty part, and leans to the left. An alternation holds no alternation,
leans to the left, and does not have the same part at the start of every alternative. Alternatives
of one character each are a class. Only groups with a number are left.

* `Regex.sequence` : one expression after another.
* `Regex.choice` : one of some expressions.
* `Regex.repeated` : an expression some times over.
* `Regex.normal` : the normal form.
-/

namespace Axial

namespace Regex

/-! ### Sequences -/

/-- The character that an expression matches, if it matches only one. -/
def letter? : Regex → Option Char
  | char set => set.single?
  | _ => none

/-- The class that an expression matches, if it is a class of none or several characters. -/
def class? : Regex → Option CharSet
  | char set => if set.single?.isSome then none else some set
  | _ => none

/-- One expression after another. -/
def sequence (front : Regex) : Regex → Regex
  | empty => front
  | seq first second => (front.sequence first).sequence second
  | part => if front = empty then part else seq front part

/-- The parts of a sequence, followed by others. -/
def unitsBefore (rest : List Regex) : Regex → List Regex
  | empty => rest
  | seq first second => first.unitsBefore (second.unitsBefore rest)
  | part => part :: rest

/-- The sequence of some parts. -/
def ofUnits (units : List Regex) : Regex :=
  units.foldl sequence empty

/-- The rows of single characters among the parts of a sequence, and the other parts. -/
def groupUnits (units : List Regex) : List (List Regex) :=
  units.splitBy fun a b => a.letter?.isSome && b.letter?.isSome

/-! ### Choices -/

/-- The alternatives of an expression, followed by others. -/
def branchesBefore (rest : List Regex) : Regex → List Regex
  | alt left right => left.branchesBefore (right.branchesBefore rest)
  | branch => branch :: rest

/-- The alternation of some expressions. -/
def ofBranches : List Regex → Regex
  | [] => char .empty
  | branch :: branches => branches.foldl alt branch

/-- The longest row at the start of two rows. -/
def commonPart {α : Type} [DecidableEq α] : List α → List α → List α
  | a :: as, b :: bs => if a = b then a :: commonPart as bs else []
  | _, _ => []

/-- What the sequences in all alternatives start with, as a number of groups of parts, if none of
the sequences is a single group. -/
def commonLength? (branches : List (List (List Regex))) : Option Nat :=
  match branches with
  | [] => none
  | first :: others =>
    let length := (others.foldl commonPart first).length
    if length = 0 ∨ branches.any (·.length ≤ 1) then none else some length

/-- One of some expressions. What all of them start with is put in front, at most so many times. -/
def choiceWithin : Nat → List Regex → Regex
  | 0, branches => ofBranches branches
  | fuel + 1, branches =>
    match branches.foldr (fun branch rest => branch.branchesBefore rest) [] with
    | [] => ofBranches []
    | [branch] => branch
    | branches =>
      match branches.mapM letter?, branches.mapM class? with
      | some letters, _ => char (.unions (letters.map .single))
      | _, some sets => char (.unions sets)
      | none, none =>
        let grouped := branches.map fun branch => groupUnits (branch.unitsBefore [])
        match commonLength? grouped with
        | none => ofBranches branches
        | some length =>
          let front := (grouped.head?.getD []).take length
          (ofUnits front.flatten).sequence
            (choiceWithin fuel (grouped.map fun groups => ofUnits (groups.drop length).flatten))

/-- The number of parts of an expression. -/
def size : Regex → Nat
  | seq first second => first.size + second.size
  | alt left right => left.size + right.size
  | _ => 1

/-- One of some expressions. -/
def choice : List Regex → Regex
  | [branch] => branch
  | branches => choiceWithin (branches.foldl (fun total branch => total + branch.size) 1) branches

/-! ### Repetitions -/

/-- Whether an expression matches nothing but the empty text. -/
def zeroWidth : Regex → Bool
  | empty => true
  | char _ => false
  | anchor _ => true
  | seq first second => first.zeroWidth && second.zeroWidth
  | alt left right => left.zeroWidth && right.zeroWidth
  | repetition body _ _ _ => body.zeroWidth
  | group _ body => body.zeroWidth

/-- An expression some times over. What takes no room is not needed twice. -/
def repeated (body : Regex) (least : Nat) (most : Option Nat) (greedy : Bool) : Regex :=
  let least := if body.zeroWidth then min least 1 else least
  let most := if body.zeroWidth then some (min (most.getD 1) 1) else most
  if most = some 0 then empty
  else if least = 1 ∧ most = some 1 then body
  else repetition body least most greedy

/-! ### Expressions -/

/-- The normal forms of the alternatives of an expression. -/
def normalBranches : Regex → List Regex
  | seq first second =>
    [(choice first.normalBranches).sequence (choice second.normalBranches)]
  | alt left right => left.normalBranches ++ right.normalBranches
  | repetition body least most greedy =>
    [(choice body.normalBranches).repeated least most greedy]
  | group none body => [choice body.normalBranches]
  | group (some number) body => [group (some number) (choice body.normalBranches)]
  | part => [part]

/-- The normal form of an expression. -/
def normal (regex : Regex) : Regex :=
  choice regex.normalBranches

end Regex

end Axial
