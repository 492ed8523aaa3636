/-!
# Arguments of commands

The arguments of a command are options and values in any order. An option starts with a hyphen;
it is a switch, or a setting with a value of its own. After `--` there are only values.

* `Arguments.read?` : arguments, given the options that a command knows.
-/

namespace Axial

/-- An option of a command. -/
structure CommandOption where
  name : String
  /-- The letter that stands for the option. -/
  letter : Option Char
  /-- Whether the option has a value. -/
  isSetting : Bool
deriving DecidableEq, Repr

/-- The arguments of a command. -/
structure Arguments where
  values : List String := []
  switches : List String := []
  settings : List (String × String) := []
deriving DecidableEq, Repr

/-- What a single argument is. -/
inductive Argument where
  | value (text : String)
  | switch (name : String)
  /-- An option whose value is the next argument. -/
  | openSetting (name : String)
  | setting (name value : String)
  /-- The end of the options. -/
  | separator
deriving DecidableEq, Repr

namespace Argument

/-- An argument that starts with two hyphens. -/
def ofLong? (options : List CommandOption) (text : List Char) : Option Argument := do
  let name := String.ofList (text.takeWhile (· ≠ '='))
  let option ← options.find? (·.name = name)
  match text.dropWhile (· ≠ '=') with
  | [] => return if option.isSetting then openSetting name else switch name
  | _ :: given => if option.isSetting then return setting name (String.ofList given) else none

/-- An argument of letters after one hyphen. A value may follow the letter of a setting. -/
def listOfLetters? (options : List CommandOption) : List Char → Option (List Argument)
  | [] => some []
  | letter :: rest => do
    let option ← options.find? (·.letter = some letter)
    if !option.isSetting then return switch option.name :: (← listOfLetters? options rest)
    else
      match rest with
      | [] => return [openSetting option.name]
      | '=' :: given => return [setting option.name (String.ofList given)]
      | given => return [setting option.name (String.ofList given)]

/-- What an argument says. -/
def listOf? (options : List CommandOption) (text : String) : Option (List Argument) :=
  match text.toList with
  | ['-', '-'] => some [separator]
  | '-' :: '-' :: long => (ofLong? options long).map ([·])
  | '-' :: letter :: letters => listOfLetters? options (letter :: letters)
  | _ => some [value text]

end Argument

namespace Arguments

/-- Add an argument in front, unless it waits for a value or ends the options. -/
def cons (argument : Argument) (arguments : Arguments) : Arguments :=
  match argument with
  | .value text => { arguments with values := text :: arguments.values }
  | .switch name => { arguments with switches := name :: arguments.switches }
  | .setting name value => { arguments with settings := (name, value) :: arguments.settings }
  | .openSetting _ => arguments
  | .separator => arguments

/-- The arguments of a command that knows the given options. -/
def read? (options : List CommandOption) : List String → Option Arguments
  | [] => some {}
  | text :: rest => do
    let arguments ← Argument.listOf? options text
    match arguments.getLast? with
    | some .separator => return { values := rest }
    | some (.openSetting name) =>
      match rest with
      | [] => none
      | value :: rest =>
        return (arguments ++ [Argument.setting name value]).foldr cons (← read? options rest)
    | _ => return arguments.foldr cons (← read? options rest)

/-- Whether a switch is given. -/
def has (arguments : Arguments) (name : String) : Bool :=
  name ∈ arguments.switches

/-- The value of a setting. -/
def get? (arguments : Arguments) (name : String) : Option String :=
  arguments.settings.lookup name

end Arguments

end Axial
