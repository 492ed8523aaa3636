import Axial.Command.Arguments
import Axial.Command.Check
import Axial.Operation.Builtin
import Axial.Operation.Listing
import Axial.Report

/-!
# The command line

* `Command.ofLine?` : the command that the words of a command line ask for.
* `Command.source` : where the store of a command is to be taken from.
* `Command.run` : what a command prints, once its store has been fetched.
-/

namespace Axial

/-- What a command line asks for. -/
inductive Command where
  | check (query : String) (store : Option String) (layout : Json.Layout) (formOnly : Bool)
  | canonical (query : String)
  | operations
  | docs
  | doc (page : String)
  | version

/-- Where a store is taken from. -/
inductive Source where
  | none
  | input
  | file (path : String)
deriving DecidableEq, Repr

/-- What a command leaves behind: the code it exits with, and what it prints. -/
structure Outcome where
  code : Nat
  output : String
  errors : String
deriving DecidableEq, Repr

namespace Command

/-! ### Reading a command line -/

/-- The options of all commands; they only bear on logging. -/
def sharedOptions : List CommandOption :=
  [⟨"verbose", some 'v', false⟩, ⟨"log", none, true⟩]

/-- The options of a check. -/
def checkOptions : List CommandOption :=
  [⟨"store", some 's', true⟩, ⟨"pretty", some 'p', false⟩, ⟨"syntax-only", none, false⟩]

/-- The command of a name and its arguments. -/
def ofName? (name : String) (arguments : Arguments) : Option Command :=
  match name, arguments.values with
  | "check", [query] =>
    some (check query (arguments.get? "store")
      (if arguments.has "pretty" then .pretty else .compact) (arguments.has "syntax-only"))
  | "canonical", [query] => some (canonical query)
  | "operations", [] => some operations
  | "docs", [] => some docs
  | "doc", [page] => some (doc page)
  | _, _ => none

/-- The command of a command line. Shared options may stand before its name. -/
def ofLine? : List String → Option Command
  | [] => none
  | word :: words =>
    if word = "--version" ∨ word = "-V" then some version
    else
      match Argument.listOf? sharedOptions word with
      | some [.value name] => do
        let own := if name = "check" then checkOptions else []
        ofName? name (← Arguments.read? (own ++ sharedOptions) words)
      | some [.openSetting _] => ofLine? words.tail
      | some (.switch _ :: _) | some [.setting _ _] => ofLine? words
      | _ => none
termination_by words => words.length
decreasing_by all_goals simp; try omega

/-! ### Running a command -/

/-- Where the store of a command is to be taken from. -/
def source : Command → Source
  | check _ (some path) _ _ => .file path
  | check _ none _ false => .input
  | _ => .none

/-- What a command prints, given the text of its store. -/
def text (registry : Registry) (store : Except CommandError (Option String)) :
    Command → Except CommandError String
  | check query _ layout formOnly => do
    match ← Axial.check registry query (← store) formOnly with
    | .valid form => return "Syntax is valid: " ++ form ++ "\n"
    | .answer answer => return report layout answer ++ "\n"
  | canonical query => do return (← canonicalForm registry query) ++ "\n"
  | operations => return registry.listing
  | docs => return Manual.overview
  | doc page => Manual.page page
  | version => return "axq 0.2.0\n"

/-- What a command leaves behind, given the text of its store. -/
def run (command : Command) (store : Except CommandError (Option String)) : Outcome :=
  match command.text .builtin store with
  | .ok text => ⟨0, text, ""⟩
  | .error error => ⟨1, "", error.message ++ "\n"⟩

/-- What is left behind by a command line that asks for no command. -/
def usage : Outcome :=
  ⟨2, "", "Usage: axq [OPTIONS] <check|canonical|operations|docs|doc> [ARGUMENTS]\n"⟩

end Command

end Axial
