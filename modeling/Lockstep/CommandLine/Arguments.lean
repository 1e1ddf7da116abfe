/-
# Arguments of a program

A program states its options and its positional arguments, and its arguments are read by that
statement, from the first to the last.

* An option is given by its name behind two hyphens, or by its letter behind one; letters may
  share one hyphen as long as only the last of them takes a value.
* The value of an option is the next argument, or stands in the same argument, behind an
  equals sign or, after a letter, right behind it.  A next argument that begins with a hyphen
  is not taken for a value, a lone hyphen apart.
* Everything behind an argument of two hyphens is positional.
* An option is given at most once, unless it is stated to be repeatable.
* Reading stops where help or the version is asked for, if all was well up to there.
-/

namespace Lockstep.CommandLine

/-- Why a program does not do what its arguments say. -/
inductive Halt where
  /-- It is asked to explain itself. -/
  | help
  /-- It is asked for its version. -/
  | version
  /-- The arguments are not as stated. -/
  | misuse
deriving DecidableEq, Repr

/-- The exit status for a reason not to run. -/
def Halt.status : Halt → UInt32
  | help | version => 0
  | misuse => 2

/-- What an option means. -/
inductive OptionRole where
  /-- It is given or it is not. -/
  | switch
  /-- It has a value, of which `wellFormed` must hold. -/
  | value (wellFormed : String → Bool)
  /-- It stops the reading. -/
  | halt (reason : Halt)

/-- An option of a program. -/
structure OptionSpec where
  /-- The name. -/
  name : String
  /-- The letter, if there is one. -/
  letter : Option Char := none
  /-- What it means. -/
  role : OptionRole
  /-- Whether it may be given more than once. -/
  repeatable : Bool := false

/-- A positional argument of a program. -/
structure PositionalSpec where
  /-- Which texts are admitted. -/
  wellFormed : String → Bool := fun _ => true
  /-- Whether it must be given. -/
  required : Bool := true

/-- The arguments that a program takes. -/
structure Grammar where
  /-- The options. -/
  options : List OptionSpec
  /-- The positional arguments, in order, the required ones first. -/
  positionals : List PositionalSpec := []

/-- What was given to a program. -/
structure Arguments where
  /-- The options with their values, in order; a switch has the empty value. -/
  options : List (String × String) := []
  /-- The positional arguments, in order. -/
  positionals : List String := []
deriving DecidableEq, Repr

namespace Arguments

/-- The value of an option. -/
def value? (args : Arguments) (name : String) : Option String := args.options.lookup name

/-- All values of an option, in order. -/
def values (args : Arguments) (name : String) : List String :=
  args.options.filterMap fun item => if item.1 = name then some item.2 else none

/-- Whether an option was given. -/
def has (args : Arguments) (name : String) : Bool := (args.value? name).isSome

end Arguments

/-- The option that asks for an explanation. -/
def helpOption : OptionSpec := { name := "help", letter := some 'h', role := .halt .help }

/-- The option that asks for the version. -/
def versionOption : OptionSpec := { name := "version", letter := some 'V', role := .halt .version }

/-- Whether an argument stands for options: it begins with a hyphen and is longer than that. -/
def isOptionLike (text : String) : Bool :=
  match text.toList with
  | '-' :: _ :: _ => true
  | _ => false

/-- The name and, behind an equals sign, the value in what follows two hyphens. -/
def splitAtEquals (text : List Char) : String × Option String :=
  match text.dropWhile (· ≠ '=') with
  | [] => (String.ofList text, none)
  | _ :: value => (String.ofList (text.takeWhile (· ≠ '=')), some (String.ofList value))

namespace Grammar

/-- The option with a name. -/
def named? (grammar : Grammar) (name : String) : Option OptionSpec :=
  grammar.options.find? fun o => o.name = name

/-- The option with a letter. -/
def lettered? (grammar : Grammar) (letter : Char) : Option OptionSpec :=
  grammar.options.find? fun o => o.letter = some letter

/-- Adds an option with its value. -/
def addOption (args : Arguments) (o : OptionSpec) (value : String) : Except Halt Arguments :=
  let fits := match o.role with
    | .value wellFormed => wellFormed value
    | _ => true
  if (args.has o.name && !o.repeatable) || !fits then .error .misuse
  else .ok { args with options := args.options ++ [(o.name, value)] }

/-- Adds a positional argument. -/
def addPositional (grammar : Grammar) (args : Arguments) (text : String) :
    Except Halt Arguments :=
  match grammar.positionals[args.positionals.length]? with
  | none => .error .misuse
  | some p =>
    if p.wellFormed text then .ok { args with positionals := args.positionals ++ [text] }
    else .error .misuse

/-- Reads the letters behind one hyphen; gives the option whose value is still to come. -/
def readLetters (grammar : Grammar) (args : Arguments) :
    List Char → Except Halt (Arguments × Option OptionSpec)
  | [] => .ok (args, none)
  | letter :: rest =>
    match grammar.lettered? letter with
    | none => .error .misuse
    | some o =>
      match o.role, rest with
      | .halt reason, _ => .error reason
      | .switch, rest => (addOption args o "").bind fun args => readLetters grammar args rest
      | .value _, [] => .ok (args, some o)
      | .value _, '=' :: value => (addOption args o (String.ofList value)).map (·, none)
      | .value _, value => (addOption args o (String.ofList value)).map (·, none)

/-- Reads what stands behind two hyphens; gives the option whose value is still to come. -/
def readName (grammar : Grammar) (args : Arguments) (text : List Char) :
    Except Halt (Arguments × Option OptionSpec) :=
  let (name, value) := splitAtEquals text
  match grammar.named? name with
  | none => .error .misuse
  | some o =>
    match o.role, value with
    | .halt reason, none => .error reason
    | .switch, none => (addOption args o "").map (·, none)
    | .value _, none => .ok (args, some o)
    | .value _, some value => (addOption args o value).map (·, none)
    | _, some _ => .error .misuse

/-- Reads an argument that stands for options; gives the option whose value is still to
come. -/
def readOption (grammar : Grammar) (args : Arguments) (text : String) :
    Except Halt (Arguments × Option OptionSpec) :=
  match text.toList with
  | '-' :: '-' :: rest => grammar.readName args rest
  | _ :: rest => grammar.readLetters args rest
  | [] => .ok (args, none)

/-- Reads arguments; `waiting` is the option whose value comes next. -/
def readFrom (grammar : Grammar) (args : Arguments) (waiting : Option OptionSpec) :
    List String → Except Halt Arguments
  | [] => if waiting.isSome then .error .misuse else .ok args
  | text :: rest =>
    match waiting with
    | some o =>
      if isOptionLike text then .error .misuse
      else match addOption args o text with
        | .error reason => .error reason
        | .ok args => readFrom grammar args none rest
    | none =>
      if text = "--" then rest.foldlM grammar.addPositional args
      else if isOptionLike text then
        match grammar.readOption args text with
        | .error reason => .error reason
        | .ok (args, waiting) => readFrom grammar args waiting rest
      else match grammar.addPositional args text with
        | .error reason => .error reason
        | .ok args => readFrom grammar args none rest

/-- Reads the arguments of a program. -/
def read (grammar : Grammar) (arguments : List String) : Except Halt Arguments :=
  match grammar.readFrom {} none arguments with
  | .error reason => .error reason
  | .ok args =>
    if args.positionals.length < (grammar.positionals.filter PositionalSpec.required).length then
      .error .misuse
    else .ok args

end Grammar

end Lockstep.CommandLine
