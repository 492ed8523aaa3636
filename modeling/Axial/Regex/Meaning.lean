import Axial.Regex.Basic
import Axial.Regex.Pattern

/-!
# What patterns mean

The flags in force decide which regular expression a pattern stands for. They hold up to the end of
the group around, also in the alternatives that follow. Case is folded before a class is negated.
Without Unicode no part may match anything outside ASCII, unless it is a character that stands for
itself.

* `Flags` : the flags in force.
* `Pattern.ClassSet.chars?` : the characters of what stands within brackets.
* `Pattern.meaning?` : the regular expression of a pattern.
-/

namespace Axial

/-! ### Flags -/

/-- The flags in force at a place of a pattern. -/
structure Flags where
  ignoreCase : Bool := false
  multiLine : Bool := false
  dotAll : Bool := false
  swapGreed : Bool := false
  unicode : Bool := true
  /-- A line may end in a carriage return. -/
  carriageReturn : Bool := false

namespace Flags

/-- Set or clear a flag. -/
def set (flags : Flags) (flag : Flag) (value : Bool) : Flags :=
  match flag with
  | .ignoreCase => { flags with ignoreCase := value }
  | .multiLine => { flags with multiLine := value }
  | .dotAll => { flags with dotAll := value }
  | .swapGreed => { flags with swapGreed := value }
  | .unicode => { flags with unicode := value }
  | .carriageReturn => { flags with carriageReturn := value }
  | .verbose => flags

/-- The flags after some changes. -/
def change (flags : Flags) (changes : FlagChanges) : Flags :=
  changes.foldl (fun flags (flag, value) => flags.set flag value) flags

/-- The characters of a word. -/
def word (flags : Flags) : CharSet :=
  if flags.unicode then Unicode.word else .asciiWord

/-- A set with all that differs from its characters in case only, if case is ignored. -/
def fold (flags : Flags) (set : CharSet) : CharSet :=
  if !flags.ignoreCase then set
  else if flags.unicode then Unicode.fold set
  else Unicode.foldAscii set

/-- A set, or its complement, which has to stay within ASCII without Unicode. -/
def negate? (flags : Flags) (negated : Bool) (set : CharSet) : Option CharSet :=
  if negated ∧ ¬flags.unicode then none else some (set.negateIf negated)

/-! ### Places -/

/-- The condition of a sign. -/
def anchor (flags : Flags) : PlaceSign → Anchor
  | .caret =>
    if !flags.multiLine then .textStart
    else if flags.carriageReturn then .returnLineStart else .lineStart
  | .dollar =>
    if !flags.multiLine then .textEnd
    else if flags.carriageReturn then .returnLineEnd else .lineEnd
  | .textStart => .textStart
  | .textEnd => .textEnd
  | .wordBoundary => .wordBoundary flags.word
  | .noWordBoundary => .noWordBoundary flags.word
  | .wordStart => .wordStart flags.word
  | .wordEnd => .wordEnd flags.word
  | .wordStartHalf => .wordStartHalf flags.word
  | .wordEndHalf => .wordEndHalf flags.word

/-! ### Classes -/

/-- The class of a letter. -/
def letterClass (flags : Flags) : LetterClass → CharSet
  | .digit => if flags.unicode then Unicode.decimalNumber else .asciiDigit
  | .blank => if flags.unicode then Unicode.whiteSpace else .asciiBlank
  | .word => flags.word

/-- All characters, or those that do not end a line. -/
def dot? (flags : Flags) : Option CharSet :=
  if !flags.unicode then none
  else if flags.dotAll then some .any
  else if flags.carriageReturn then some (CharSet.union (.single '\n') (.single '\r')).compl
  else some (CharSet.single '\n').compl

/-- The character of a letter. Without Unicode two digits may not spell a byte outside ASCII. -/
def char? (flags : Flags) (letter : Letter) : Option Char :=
  if letter.isByte ∧ ¬flags.unicode ∧ 128 ≤ letter.char.toNat then none else some letter.char

/-- The character of a letter within brackets. -/
def member? (flags : Flags) (letter : Letter) : Option Char :=
  if ¬flags.unicode ∧ 128 ≤ letter.char.toNat then none else some letter.char

/-- What an item matches that stands alone. Without Unicode only letters of ASCII fold. -/
def item? (flags : Flags) : Item → Option CharSet
  | .letter letter => (flags.char? letter).map fun c => flags.fold (.single c)
  | .letterClass set negated => flags.negate? negated (flags.letterClass set)
  | .property set negated =>
    if flags.unicode then some ((flags.fold set).negateIf negated) else none

/-- What an item adds to a class. -/
def part? (flags : Flags) : Item → Option CharSet
  | .letter letter => (flags.member? letter).map .single
  | found => flags.item? found

end Flags

namespace Pattern

/-- The set of an operation. -/
def SetOperation.apply (a b : CharSet) : SetOperation → CharSet
  | intersection => a.inter b
  | difference => a.diff b
  | symmetricDifference => a.symmDiff b

/-- The characters of what stands within brackets. -/
def ClassSet.chars? (flags : Flags) : ClassSet → Option CharSet
  | empty => some .empty
  | item found => flags.part? found
  | range first last => do
    return .range (← flags.member? first).toNat (← flags.member? last).toNat
  | posix set negated => flags.negate? negated (flags.fold set)
  | bracket negated inner => do flags.negate? negated (flags.fold (← inner.chars? flags))
  | union left right => do return (← left.chars? flags).union (← right.chars? flags)
  | operation op left right => do
    return op.apply (flags.fold (← left.chars? flags)) (flags.fold (← right.chars? flags))

/-! ### Patterns -/

/-- The regular expression of a pattern, and the flags after it. -/
def regex? (flags : Flags) : Pattern → Option (Regex × Flags)
  | empty => some (.empty, flags)
  | item found => (flags.item? found).map fun set => (.char set, flags)
  | dot => flags.dot?.map fun set => (.char set, flags)
  | place sign => some (.anchor (flags.anchor sign), flags)
  | bracket negated inner => do
    return (.char (← flags.negate? negated (flags.fold (← inner.chars? flags))), flags)
  | repetition body least most greedy => do
    let (body, flags) ← body.regex? flags
    return (.repetition body least most (greedy != flags.swapGreed), flags)
  | group number changes body => do
    let (body, _) ← body.regex? (flags.change changes)
    return (.group number body, flags)
  | .flags changes => some (.empty, flags.change changes)
  | seq first second => do
    let (first, flags) ← first.regex? flags
    let (second, flags) ← second.regex? flags
    return (.seq first second, flags)
  | alt left right => do
    let (left, flags) ← left.regex? flags
    let (right, flags) ← right.regex? flags
    return (.alt left right, flags)

/-- The regular expression of a pattern, which starts without flags but that for Unicode. -/
def meaning? (pattern : Pattern) : Option Regex :=
  (pattern.regex? {}).map (·.1)

end Pattern

end Axial
