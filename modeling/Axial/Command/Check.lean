import Axial.Evaluation.Query
import Axial.Query.OfExpr
import Axial.Store.Load
import Axial.Command.Manual

/-!
# Commands on queries

* `CommandError.message` : why a command fails, in words.
* `check` : validate a query, and answer it from a store that is given as a text.
* `canonicalForm` : the canonical form of a query.
* `Manual.page` : a page of the manual.
-/

namespace Axial

/-- Why a command fails. -/
inductive CommandError where
  | parse (error : ParseError)
  | evaluation (error : EvalError)
  | load (error : LoadError)
  /-- A file cannot be read, for the given reason. -/
  | unreadable (reason : String)
  | noStore
  | unknownPage (name : String)
deriving DecidableEq

/-- The wording of a failure. -/
def CommandError.message : CommandError → String
  | parse error => "Parse error: " ++ error.message
  | evaluation error => "Evaluation error: " ++ error.message
  | load error => "Invalid data: " ++ error.message
  | unreadable reason => "IO error: " ++ reason
  | noStore => "No data provided. Use --store or pipe a JSON store to stdin."
  | unknownPage name =>
    "Unknown category: '" ++ name ++ "'\nRun 'axq docs' to see available categories."

/-- What a check comes to. -/
inductive Verdict where
  /-- The query is well formed; its canonical form. -/
  | valid (canonical : String)
  | answer (answer : Option Answer)
deriving DecidableEq

/-- Validate a query and, unless only its form is asked about, answer it from a store. -/
def check (registry : Registry) (query : String) (store : Option String) (formOnly : Bool) :
    Except CommandError Verdict := do
  let query ← (Query.parse registry query).mapError .parse
  if formOnly then return .valid query.text
  let some text := store | throw .noStore
  let store ← (Store.load text).mapError .load
  return .answer (← (query.eval store registry).mapError .evaluation)

/-- The canonical form of a query. -/
def canonicalForm (registry : Registry) (query : String) : Except CommandError String :=
  ((Query.parse registry query).map Query.text).mapError .parse

/-- The text of the page with the given name. -/
def Manual.page (name : String) : Except CommandError String :=
  match Page.ofName? name with
  | some page => .ok page.text
  | none => .error (.unknownPage name)

end Axial
