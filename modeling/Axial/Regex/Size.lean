import Axial.Regex.ByteRange
import Axial.Regex.Form
import Std.Data.HashMap

/-!
# How large an expression is

An expression is turned into an automaton on bytes for either direction of reading. What these take
is counted here, and it has a limit: an expression beyond it is refused.

A state takes 32 bytes, and every way out of a state with several ways takes more: 8 if it is taken
on bytes, and 4 if it is taken freely. A state with free ways out may get more of them when other
parts are joined to it. States that read the same bytes to the same end are shared within a class,
as far as the memory for them goes.

* `Regex.Size` : what an automaton takes.
* `Regex.steps` : what each alternative of an expression adds.
* `Regex.fits` : whether both automata of an expression are within the limit.
-/

namespace Axial

namespace Regex

/-! ### Sizes -/

/-- What an automaton takes. -/
structure Size where
  /-- The number of states; it is the number of the next one, too. -/
  states : Nat := 0
  /-- The bytes that its states take besides. -/
  extra : Nat := 0
deriving DecidableEq

namespace Size

/-- The bytes of a state. -/
def stateBytes : Nat := 32

/-- The bytes of a way out that is taken on bytes. -/
def readBytes : Nat := 8

/-- The bytes of a way out that is taken freely. -/
def freeBytes : Nat := 4

/-- The most that an automaton may take. -/
def limit : Nat := 10 * 2 ^ 20

/-- Add states and bytes, up to the limit. -/
def add? (size : Size) (states extra : Nat) : Option Size :=
  let total : Size := ⟨size.states + states, size.extra + extra⟩
  if stateBytes * total.states + total.extra ≤ limit then some total else none

end Size

/-- What an expression adds to an automaton. The result tells whether its last state has free ways
out, for then joining the next part takes one of these more. -/
abbrev Step := Size → Option (Size × Bool)

/-- The bytes for joining a part to one before. -/
def joint (isFree : Bool) : Nat :=
  if isFree then Size.freeBytes else 0

/-- Add states and bytes, and end in a state without free ways out. -/
def plain (states extra : Nat) : Step := fun size =>
  (size.add? states extra).map fun size => (size, false)

/-! ### Shared states -/

/-- A memory of so many places for states by what they read. A new state takes the place of an
earlier one with the same hash. -/
structure Memory where
  places : Nat
  held : Std.HashMap Nat (List Nat × Nat) := {}

namespace Memory

/-- The place of a row of numbers. -/
def hash (memory : Memory) (key : List Nat) : Nat :=
  let mixed := key.foldl (fun (h : UInt64) n => (h ^^^ n.toUInt64) * 1099511628211)
    14695981039346656037
  mixed.toNat % memory.places

/-- The state with a key: one that is remembered, or a new one that takes some bytes. -/
def state? (memory : Memory) (key : List Nat) (extra : Nat) (size : Size) :
    Option (Nat × Memory × Size) :=
  let place := memory.hash key
  match memory.held[place]? with
  | some (known, state) => if known = key then some (state, memory, size) else fresh place
  | none => fresh place
where
  /-- A new state at a place. -/
  fresh (place : Nat) : Option (Nat × Memory × Size) :=
    (size.add? 1 extra).map fun grown =>
      (size.states, { memory with held := memory.held.insert place (key, size.states) }, grown)

end Memory

/-! ### Classes -/

/-- A state under construction: the ways out that are finished, with their ends, the last one
first; and the bytes of the way that is not. -/
structure Branch where
  finished : List (Nat × Nat × Nat) := []
  current : Option (Nat × Nat) := none

namespace Branch

/-- Give the unfinished way an end. -/
def finish (branch : Branch) (target : Nat) : Branch :=
  match branch.current with
  | none => branch
  | some (first, last) => ⟨(first, last, target) :: branch.finished, none⟩

/-- The numbers that tell a state apart. -/
def key (branch : Branch) : List Nat :=
  branch.finished.reverse.flatMap fun (first, last, target) => [first, last, target]

end Branch

/-- Finish a row of states under construction, the last one first. The result is the first one. -/
def close? (target : Nat) : List Branch → Memory → Size → Option (Nat × Memory × Size)
  | [], memory, size => some (target, memory, size)
  | branch :: deeper, memory, size => do
    let (next, memory, size) ← close? target deeper memory size
    let branch := branch.finish next
    memory.state? branch.key (Size.readBytes * branch.finished.length) size

/-- Add a row of byte ranges to a row of states under construction. What it shares with the row
before stays open, and the rest of that one is finished. -/
def insert? (target : Nat) :
    List Branch → List (Nat × Nat) → Memory → Size → Option (List Branch × Memory × Size)
  | branch :: deeper, range :: ranges, memory, size =>
    if branch.current = some range then do
      let (deeper, memory, size) ← insert? target deeper ranges memory size
      return (branch :: deeper, memory, size)
    else do
      let (next, memory, size) ← close? target deeper memory size
      return ({ branch.finish next with current := some range } ::
        ranges.map (fun range => ⟨[], some range⟩), memory, size)
  | branches, _, memory, size => some (branches, memory, size)

/-- A class, for reading forward: rows that start alike share their first states, and states that
go on alike are remembered. -/
def forwardClass (rows : List (List (Nat × Nat))) : Step := fun size => do
  let target := size.states
  let size ← size.add? 1 0
  let (branches, memory, size) ← rows.foldlM
    (fun (branches, memory, size) row => insert? target branches row memory size)
    ([{}], { places := 10000 }, size)
  let (_, _, size) ← close? target branches memory size
  return (size, false)

/-- A class, for reading backward: each row is a way of its own, and states that come to the same
end alike are remembered. -/
def backwardClass (rows : List (List (Nat × Nat))) : Step := fun size => do
  let target := size.states + 1
  let size ← size.add? 2 0
  let (_, size) ← rows.foldlM
    (fun (memory, size) row => do
      let (_, memory, size) ← row.foldlM
        (fun (state, memory, size) (first, last) => memory.state? [state, first, last] 0 size)
        (target, memory, size)
      return (memory, ← size.add? 0 Size.freeBytes))
    (({ places := 1000 } : Memory), size)
  return (size, false)

/-- A class. One of ASCII takes a single state besides its end. -/
def classStep (forward : Bool) (set : CharSet) : Step :=
  match set.single? with
  | some c => plain (Bytes.encode c.toNat).length 0
  | none =>
    if set.ranges.all fun range => range.2 < 128 then
      plain 2 (Size.readBytes * set.ranges.length)
    else
      let rows := Bytes.rows set
      if forward then forwardClass rows else backwardClass rows

/-! ### Words -/

/-- The characters that an expression matches one after another, if it matches nothing else. -/
def word? : Regex → Option (List Char)
  | char set => set.single?.map fun c => [c]
  | seq first second => do return (← first.word?) ++ (← second.word?)
  | _ => none

/-- The alternatives of an expression, if there are several and all are words. -/
def words? : Regex → Option (List (List Char))
  | alt left right => do return (← left.words? <|> left.word?.map fun w => [w]) ++ [← right.word?]
  | _ => none

/-- The rows that start with each first byte, without it. -/
def tailsByHead (words : List (List Nat)) : List (List (List Nat)) :=
  (words.filterMap List.head?).eraseDups.map fun head =>
    words.filterMap fun word => if word.head? = some head then some word.tail else none

/-- The states and the bytes of a tree of words. A word that ends where others go on parts those
before it from those after it. The first number bounds the length of the words. -/
def treeSize : Nat → List (List Nat) → Nat × Nat
  | 0, _ => (0, 0)
  | depth + 1, words =>
    let marked := if words.head? = some [] then [] :: words.dropWhile (· = []) else words
    let runs := (marked.splitBy fun a b => a ≠ [] && b ≠ []).filter (·.head? ≠ some [])
    let tails := runs.map tailsByHead
    let ends := marked.count []
    let below := (tails.flatten.filter (·.any (· ≠ []))).map (treeSize depth)
    let read := (tails.map fun run => if run.length = 1 then 0 else Size.readBytes * run.length).sum
    (runs.length + 1 + (below.map (·.1)).sum,
      read + Size.freeBytes * (runs.length + ends) + (below.map (·.2)).sum)

/-- A tree of words, with one end for all. -/
def wordsStep (forward : Bool) (words : List (List Char)) : Step :=
  let rows := words.map fun word =>
    let bytes := word.flatMap fun c => Bytes.encode c.toNat
    if forward then bytes else bytes.reverse
  let (states, extra) := treeSize ((rows.map List.length).foldl max 0) rows
  plain (states + 1) extra

/-! ### Repetitions -/

/-- A part so many times after another one. -/
def copies (body : Step) : Nat → Size × Bool → Option (Size × Bool)
  | 0, sofar => some sofar
  | n + 1, (size, isFree) =>
    match body size with
    | none => none
    | some (size, isFreeNext) =>
      match size.add? 0 (joint isFree) with
      | none => none
      | some size => copies body n (size, isFreeNext)

/-- A part exactly so many times. -/
def exactly (body : Step) : Nat → Step
  | 0 => plain 1 0
  | n + 1 => fun size => do copies body n (← body size)

/-- A part that may be left out, so many times after another one: each time there is a way to the
common end. -/
def optional (body : Step) (times : Nat) : Size × Bool → Option (Size × Bool) :=
  copies (fun size => do
    let size ← size.add? 1 (2 * Size.freeBytes)
    body size) times

/-- A part at least so many times. A part that may be empty needs two more states to be left out. -/
def atLeast (body : Step) (takesRoom : Bool) : Nat → Step
  | 0 => fun size => do
    if takesRoom then
      let (size, isFree) ← body (← size.add? 1 0)
      return (← size.add? 0 (Size.freeBytes + joint isFree), true)
    else
      let (size, isFree) ← body size
      return (← size.add? 3 (4 * Size.freeBytes + joint isFree), false)
  | 1 => fun size => do
    let (size, isFree) ← body size
    return (← size.add? 1 (Size.freeBytes + joint isFree), true)
  | n + 2 => fun size => do
    let (size, isFree) ← copies body 1 (← exactly body (n + 1) size)
    return (← size.add? 1 (Size.freeBytes + joint isFree), true)

/-- A part some times over. -/
def repeatStep (body : Step) (takesRoom : Bool) (least : Nat) : Option Nat → Step
  | none => atLeast body takesRoom least
  | some most => fun size =>
    if least = 0 ∧ most = 1 then do
      let (size, isFree) ← body (← size.add? 1 0)
      return (← size.add? 1 (2 * Size.freeBytes + joint isFree), false)
    else if least = most then exactly body least size
    else do
      let (size, isFree) ← exactly body least size
      let size ← size.add? 1 0
      let (size, isFree) ← optional body (most - least) (size, isFree)
      return (← size.add? 0 (joint isFree), false)

/-! ### Expressions -/

/-- Whether all matches take room; there is no answer if some part never matches. -/
def takesRoom? : Regex → Option Bool
  | empty => some false
  | char set => if set = .empty then none else some true
  | anchor _ => some false
  | seq first second => do return (← first.takesRoom?) || (← second.takesRoom?)
  | alt left right => do return (← left.takesRoom?) && (← right.takesRoom?)
  | repetition body least _ _ => body.takesRoom?.map (· && 0 < least)
  | group _ body => body.takesRoom?

/-- One of some parts. -/
def branching : List Step → Step
  | [] => plain 1 0
  | [step] => step
  | first :: second :: others => fun size => do
    let (size, isFree) ← first size
    let (size, isFreeSecond) ← second size
    let size ← size.add? 2 (2 * Size.freeBytes + joint isFree + joint isFreeSecond)
    let size ← others.foldlM (fun size step => do
      let (size, isFree) ← step size
      size.add? 0 (Size.freeBytes + joint isFree)) size
    return (size, false)

/-- One part after another. -/
def following (first second : Step) : Step := fun size => do
  copies second 1 (← first size)

/-- A whole expression, given its alternatives. -/
def gather (forward : Bool) (regex : Regex) (steps : List Step) : Step :=
  match regex.words? with
  | some words => wordsStep forward words
  | none => branching steps

/-- What each alternative of an expression adds. -/
def steps (forward : Bool) : Regex → List Step
  | empty => [plain 1 0]
  | char set => [classStep forward set]
  | anchor _ => [plain 1 0]
  | seq first second =>
    let front := gather forward first (first.steps forward)
    let back := gather forward second (second.steps forward)
    [if forward then following front back else following back front]
  | alt left right => left.steps forward ++ right.steps forward
  | repetition body least most _ =>
    [repeatStep (gather forward body (body.steps forward)) (body.takesRoom?.getD false) least most]
  | group _ body =>
    let inner := gather forward body (body.steps forward)
    [if forward then following (plain 1 0) (following inner (plain 1 0)) else inner]

/-- Whether every match starts at the start of the text. -/
def startsText : Regex → Bool
  | anchor place => place = .textStart
  | seq first second => first.startsText || (first.zeroWidth && second.startsText)
  | alt left right => left.startsText && right.startsText
  | repetition body least _ _ => 0 < least && body.startsText
  | group _ body => body.startsText
  | _ => false

/-- Whether every match ends at the end of the text. -/
def endsText : Regex → Bool
  | anchor place => place = .textEnd
  | seq first second => second.endsText || (second.zeroWidth && first.endsText)
  | alt left right => left.endsText && right.endsText
  | repetition body least _ _ => 0 < least && body.endsText
  | group _ body => body.endsText
  | _ => false

/-- The automaton of an expression. In front there is a loop over all bytes, unless every match is
at the end of the text where reading starts. Reading forward, the whole match has a number. -/
def automaton (forward : Bool) (regex : Regex) : Step :=
  let isFixed := if forward then regex.startsText else regex.endsText
  let front := if isFixed then plain 1 0 else plain 3 (2 * Size.freeBytes + Size.readBytes)
  let whole := if forward then group (some 0) regex else regex
  following front (following (gather forward whole (whole.steps forward)) (plain 1 0))

/-- Whether the automata of an expression are within the limit. -/
def fits (regex : Regex) : Bool :=
  (regex.normal.automaton true {}).isSome && (regex.normal.automaton false {}).isSome

end Regex

end Axial
