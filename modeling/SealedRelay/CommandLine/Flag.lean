import SealedRelay.Text.Number
/-!
# Flags

What a command takes on its command line: flags by long name, some of which can also be set by an
environment variable. This module reads them; it does not know what they mean.
-/
namespace SealedRelay.CommandLine

/-- Why a command line is not carried out. -/
inductive Refusal where
  | unknownArgument
  /-- A value is missing or not one of the possible ones. -/
  | invalidValue
  /-- A value cannot be read. -/
  | valueValidation
  /-- A value was given to a flag that takes none. -/
  | tooManyValues
  /-- A flag was given twice. -/
  | argumentConflict
  | missingRequiredArgument
  | invalidSubcommand
  | missingSubcommand
  /-- Nothing was given at all, so help is shown. -/
  | helpOnMissing
  /-- Help was asked for. -/
  | help
  /-- The version was asked for. -/
  | version
  deriving DecidableEq

def Refusal.code : Refusal → Nat
  | help | version => 0
  | _ => 2

/-- What values a flag takes. -/
inductive ValueKind where
  | text
  /-- A text that is not empty. -/
  | path
  | number
  | choice (names : List String)
  deriving DecidableEq

def ValueKind.check (k : ValueKind) (value : String) : Except Refusal Unit :=
  match k with
  | text => .ok ()
  | path => if value.isEmpty then .error .invalidValue else .ok ()
  | number =>
    if (Text.unsigned? Text.maxUInt64 value.toList).isSome then .ok ()
    else .error .valueValidation
  | choice names => if names.contains value then .ok () else .error .invalidValue

structure Flag where
  name : String
  /-- What it takes; none for nothing. -/
  value : Option ValueKind := some .text
  /-- It may be given more than once, and commas separate its values. -/
  many : Bool := false
  /-- The environment variable that sets it too. -/
  env : Option String := none
  deriving DecidableEq

/-- Where a value came from; the later wins. -/
inductive Source where
  | environment
  | commandLine
  deriving DecidableEq

/-- The values of a flag. -/
structure Given where
  source : Source
  values : List String
  deriving DecidableEq

abbrev Found := List (String × Given)

/-- Takes values for a flag. -/
def Found.accept (found : Found) (flag : Flag) (source : Source) (values : List String) :
    Except Refusal Found := do
  let values := if flag.many then values.flatMap (·.splitOn ",") else values
  match found.lookup flag.name with
  | some given =>
    if ¬ flag.many then .error .argumentConflict
    values.forM fun v => (flag.value.map (·.check v)).getD (.ok ())
    return found.map fun (name, g) =>
      if name = flag.name then (name, ⟨given.source, g.values ++ values⟩) else (name, g)
  | none =>
    values.forM fun v => (flag.value.map (·.check v)).getD (.ok ())
    return found ++ [(flag.name, ⟨source, values⟩)]

/-- A flag whose value may still be to come. -/
abbrev Pending := Option (Flag × Option String)

/-- Takes a pending flag's value, which must have come by now. -/
def Found.settle (found : Found) : Pending → Except Refusal Found
  | none => .ok found
  | some (_, none) => .error .invalidValue
  | some (flag, some value) => found.accept flag .commandLine [value]

/-- What a command takes. -/
structure Grammar where
  flags : List Flag
  /-- Names of its own commands. -/
  commands : List String := []
  /-- It tells its version. -/
  versioned : Bool := false

/-- The name after two dashes, and the value after an equals sign. -/
def longForm (arg : String) : Option (String × Option String) :=
  match arg.toList with
  | '-' :: '-' :: body =>
    match body.span (· ≠ '=') with
    | (name, []) => some (String.ofList name, none)
    | (name, _ :: value) => some (String.ofList name, some (String.ofList value))
  | _ => none

/-- The letters after one dash. -/
def shortForm (arg : String) : Option (List Char) :=
  match arg.toList with
  | '-' :: c :: cs => some (c :: cs)
  | _ => none

namespace Grammar

/-- What an argument is that the command does not take: it might have been meant as a command. -/
def stray (g : Grammar) : Refusal :=
  if g.commands.isEmpty then .unknownArgument else .invalidSubcommand

/-- What the first argument after two dashes is. -/
def strayLiteral (g : Grammar) (arg : String) : Refusal :=
  if g.commands.contains arg then .unknownArgument else g.stray

/-- The outcome of asking for help about a command by its name. -/
def helpAbout (g : Grammar) : List String → Refusal
  | [] => .help
  | [name] => if g.commands.contains name then .help else .invalidSubcommand
  | _ => .invalidSubcommand

/-- Asks for help or the version stop the command line, unless a flag before them waits for its
value. -/
def informs (found : Found) (pending : Pending) (r : Refusal) : Refusal :=
  match found.settle pending with
  | .ok _ => r
  | .error e => e

/-- The outcome of single-letter flags: only the first one that is known or not matters. -/
def letters (g : Grammar) (found : Found) (pending : Pending) : List Char → Refusal
  | 'h' :: _ => informs found pending .help
  | 'V' :: _ => if g.versioned then informs found pending .version else .unknownArgument
  | _ => .unknownArgument

/-- Reads arguments up to a command, which is given back with the arguments after it. The value of
the last flag before it is not taken yet: the command's own arguments are read first. -/
def scan (g : Grammar) (found : Found) (pending : Pending) :
    List String → Except Refusal (Found × Pending × Option (String × List String))
  | [] => .ok (found, pending, none)
  | arg :: rest =>
    let awaiting := pending.any (·.2.isNone)
    if !awaiting && g.commands.contains arg then
      if arg = "help" then .error (g.helpAbout rest)
      else .ok (found, pending, some (arg, rest))
    else if arg = "--" then
      match rest with
      | [] => .ok (found, pending, none)
      | next :: _ => .error (g.strayLiteral next)
    else
      match longForm arg, shortForm arg with
      | some ("help", none), _ => .error (informs found pending .help)
      | some ("help", some _), _ => .error .tooManyValues
      | some (name, value), _ =>
        if g.versioned ∧ name = "version" then
          .error (if value.isSome then .tooManyValues else informs found pending .version)
        else
          match g.flags.find? (·.name = name) with
          | none => .error .unknownArgument
          | some flag =>
            match flag.value, value with
            | none, some _ => .error .tooManyValues
            | none, none => do
              let found ← (← found.settle pending).accept flag .commandLine []
              scan g found none rest
            | some _, some value => do
              let found ← (← found.settle pending).accept flag .commandLine [value]
              scan g found none rest
            | some _, none => do
              let found ← found.settle pending
              scan g found (some (flag, none)) rest
      | none, some cs => .error (g.letters found pending cs)
      | none, none =>
        match pending with
        | some (flag, none) => scan g found (some (flag, some arg)) rest
        | _ => .error g.stray

/-- Adds what environment variables set and the command line did not. -/
def withEnvironment (g : Grammar) (environment : List (String × String)) (found : Found) :
    Except Refusal Found :=
  g.flags.foldlM
    (fun found flag =>
      match found.lookup flag.name, flag.env.bind (List.lookup · environment) with
      | none, some value => found.accept flag .environment [value]
      | _, _ => .ok found) found

end Grammar

end SealedRelay.CommandLine
