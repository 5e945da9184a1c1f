import SuiteTree.CommandLine.Parameter

/-!
# Reading a command line

Arguments are read from left to right. One that starts with two dashes names a parameter, and may
hold its value after an equals sign; one that starts with a single dash holds a letter for each
parameter, and the rest after the letter of a parameter with a value is that value. Any other
argument is the value of the parameter before it, if that one still takes a value. There are no
arguments beside parameters and their values.

A fault that shows while reading is reported at once. What was given in total is judged afterwards.
-/

namespace SuiteTree.CommandLine

/-- Why a command line is not carried out. -/
inductive UsageError
  /-- The help text was asked for. -/
  | helpAsked
  | unknownArgument (argument : String)
  | emptyValue (parameter : String)
  | tooManyValues (parameter : String)
  | invalidValue (parameter value : String)
  /-- A parameter was given more than once. -/
  | repeated (parameter : String)
  deriving Repr, DecidableEq

/-- What was given for a parameter. -/
structure Given where
  parameter : Parameter
  /-- How often it was named on the command line. -/
  count : Nat := 0
  values : List String := []
  deriving Repr, DecidableEq

/-- What was given for each parameter, in the order in which the parameters were first given. -/
abbrev Matches := List Given

namespace Matches

/-- What was given for a parameter. -/
def find (ms : Matches) (p : Parameter) : Option Given :=
  ms.find? (·.parameter.long == p.long)

/-- Change what was given for a parameter. -/
def change (ms : Matches) (p : Parameter) (f : Given → Given) : Matches :=
  match ms with
  | [] => [f { parameter := p }]
  | g :: rest => if g.parameter.long == p.long then f g :: rest else g :: change rest p f

/-- Count one more naming of a parameter. -/
def name (ms : Matches) (p : Parameter) : Matches :=
  ms.change p fun g => { g with count := g.count + 1 }

/-- Add a value of a parameter. -/
def addValue (ms : Matches) (p : Parameter) (value : String) : Matches :=
  ms.change p fun g => { g with values := g.values ++ [value] }

/-- The values of a parameter. -/
def values (ms : Matches) (p : Parameter) : List String :=
  match ms.find p with
  | some g => g.values
  | none => []

/-- The first value of a parameter. -/
def value? (ms : Matches) (p : Parameter) : Option String :=
  (ms.values p).head?

/-- The parameter was given. -/
def has (ms : Matches) (p : Parameter) : Bool :=
  (ms.find p).isSome

end Matches

/-- A reader of arguments. -/
structure Reader where
  found : Matches := []
  /-- The parameter that takes the next argument as its value. -/
  awaiting : Option Parameter := none
  /-- Two dashes alone were met: no argument after them names a parameter. -/
  closed : Bool := false

namespace Reader

/-- Add a value, and take another one if the parameter has not yet got more than it takes. -/
def addValue (r : Reader) (p : Parameter) (value : String) : Reader :=
  let found := r.found.addValue p value
  let takesMore := p.arity == .atMostOne && (found.values p).length ≤ 1
  { r with found, awaiting := if takesMore then some p else none }

/-- Name a parameter with a value, whose leading equals signs are dropped, or without one. -/
def nameOption (r : Reader) (p : Parameter) (value : Option (List Char)) : Reader :=
  match value with
  | some cs =>
    let added := r.addValue p (String.ofList (cs.dropWhile (· == '=')))
    { added with found := added.found.name p, awaiting := none }
  | none => { r with found := r.found.name p, awaiting := some p }

/-- Name a parameter that takes no value. -/
def nameFlag (r : Reader) (p : Parameter) : Except UsageError Reader :=
  if p.long == Runner.help.long then .error .helpAsked
  else .ok { r with found := r.found.name p, awaiting := none }

/-- Read an argument that starts with two dashes. -/
def readLong (r : Reader) (argument : String) : Except UsageError Reader :=
  let cs := argument.toList.dropWhile (· == '-')
  let name := String.ofList (cs.takeWhile (· != '='))
  let value := if cs.contains '=' then some ((cs.dropWhile (· != '=')).drop 1) else none
  match Runner.options.find? (·.hasLong name) with
  | some p => .ok (r.nameOption p value)
  | none =>
    match Runner.flags.find? (·.hasLong name) with
    | some p => r.nameFlag p
    | none => .error (.unknownArgument argument)

/-- Read the letters of an argument that starts with one dash. -/
def readLetters (r : Reader) : List Char → Except UsageError Reader
  | [] => .ok r
  | c :: rest =>
    match Runner.options.find? (·.short == some c) with
    | some p => .ok (r.nameOption p (if rest.isEmpty then none else some rest))
    | none =>
      match Runner.flags.find? (·.short == some c) with
      | some p => do (← r.nameFlag p).readLetters rest
      | none => .error (.unknownArgument ("-" ++ String.singleton c))

/-- Read one argument. -/
def read (r : Reader) (argument : String) : Except UsageError Reader :=
  if r.closed then .error (.unknownArgument argument)
  else if argument = "--" then .ok { r with closed := true }
  else
    match argument.toList with
    | '-' :: '-' :: _ => r.readLong argument
    | '-' :: c :: rest => r.readLetters (c :: rest)
    | _ =>
      match r.awaiting with
      | some p => .ok (r.addValue p argument)
      | none => .error (.unknownArgument argument)

end Reader

/-- Add the values of environment variables. -/
def addEnvironment (ms : Matches) (env : List (String × String)) : Matches :=
  Runner.options.foldl (fun ms p =>
    match p.env.bind fun name => env.lookup name with
    | some value => ms.addValue p value
    | none => ms) ms

/-- Judge what was given for a parameter. -/
def Given.judge (g : Given) : Except UsageError Unit :=
  let p := g.parameter
  if p.arity = .atMostOne ∧ 1 < g.values.length then .error (.tooManyValues p.long)
  else if p.arity = .one ∧ g.values = [] then .error (.emptyValue p.long)
  else
    match g.values.find? (!p.admits ·) with
    | some value => .error (.invalidValue p.long value)
    | none => if 1 < g.count then .error (.repeated p.long) else .ok ()

/-- Read a command line, given the environment variables. -/
def Matches.ofArguments (arguments : List String) (env : List (String × String)) :
    Except UsageError Matches := do
  let r ← arguments.foldlM Reader.read {}
  let found := addEnvironment r.found env
  match r.awaiting with
  | some p => if p.arity = .one ∧ found.values p = [] then throw (.emptyValue p.long)
  | none => pure ()
  found.forM Given.judge
  pure found

end SuiteTree.CommandLine
