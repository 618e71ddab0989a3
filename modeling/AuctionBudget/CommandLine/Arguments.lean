import AuctionBudget.Text.Cut

/-! # Options on a command line

An option is written `--name value` or `--name=value`, a flag `--name`. The value behind a space may
not start with a hyphen, unless it is one. Options come first; `--` and whatever does not look like
an option end them.
-/

namespace AuctionBudget.CommandLine

/-- What an option takes, and how often it may be given. -/
inductive Arity where
  /-- No value, at most once. -/
  | flag
  /-- A value, at most once. -/
  | single
  /-- A value each time. -/
  | repeated
  deriving DecidableEq

abbrev Options := List (String × Arity)

/-- An option as it was given. A flag has the empty value. -/
structure Given where
  name : String
  value : String
  deriving DecidableEq

/-- The name behind two hyphens, and the value behind the first equals sign. -/
def optionOf? (argument : String) : Option (String × Option String) :=
  match argument.toList with
  | '-' :: '-' :: [] => none
  | '-' :: '-' :: s =>
      match Text.cutAt '=' s with
      | some (name, value) => some (String.ofList name, some (String.ofList value))
      | none => some (String.ofList s, none)
  | _ => none

/-- Whether an argument can be the value of the option before it. -/
def isValue (argument : String) : Bool :=
  match argument.toList with
  | '-' :: _ :: _ => false
  | _ => true

/-- The options at the start of the arguments, in order, and the arguments behind them. -/
def takeOptions? (options : Options) : List String → Option (List Given × List String)
  | [] => some ([], [])
  | argument :: rest =>
      match optionOf? argument with
      | none => some ([], argument :: rest)
      | some (name, value) =>
          match options.lookup name, value, rest with
          | some .flag, none, rest => (takeOptions? options rest).map (prepend ⟨name, ""⟩)
          | some .single, some value, rest | some .repeated, some value, rest =>
              (takeOptions? options rest).map (prepend ⟨name, value⟩)
          | some .single, none, value :: rest | some .repeated, none, value :: rest =>
              if isValue value then (takeOptions? options rest).map (prepend ⟨name, value⟩)
              else none
          | _, _, _ => none
where
  /-- Put an option in front of those that were taken. -/
  prepend (given : Given) (taken : List Given × List String) : List Given × List String :=
    (given :: taken.1, taken.2)

def valuesOf (given : List Given) (name : String) : List String :=
  (given.filter (·.name = name)).map (·.value)

/-- Whether no option is given more often than it may be. -/
def withinArity (options : Options) (given : List Given) : Bool :=
  options.all fun (name, arity) => arity = .repeated || (valuesOf given name).length ≤ 1

/-- The options in front of a command word, that word, and the arguments behind it. -/
def optionsThenWord? (options : Options) (arguments : List String) :
    Option (List Given × String × List String) :=
  match takeOptions? options arguments with
  | some (given, word :: rest) =>
      if withinArity options given then some (given, word, rest) else none
  | _ => none

/-- The options of a command that takes nothing else. -/
def onlyOptions? (options : Options) (arguments : List String) : Option (List Given) :=
  match takeOptions? options arguments with
  | some (given, []) | some (given, ["--"]) =>
      if withinArity options given then some given else none
  | _ => none

def hasFlag (given : List Given) (name : String) : Bool :=
  !(valuesOf given name).isEmpty

/-- The value of an option that may be left out. -/
def valueOf? (given : List Given) (name : String) : Option String :=
  (valuesOf given name).head?

end AuctionBudget.CommandLine
