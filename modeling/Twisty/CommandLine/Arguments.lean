import Twisty.Text.Numeral

/-!
# Arguments of the command line

The arguments name a subcommand, and give options before or behind it. `Invocation.parse` reads
them.

An option that takes a value waits for it, and the value is judged when the next option or the
algorithm begins, or at the end, unless it was attached with an equals sign. The algorithm is the
arguments from the first one on that is not an option of the subcommand. After it has begun all
arguments belong to it, and so they do after two dashes. The subcommand `table` takes no algorithm.
-/

namespace Twisty

open Text

/-- An option of the command line. -/
inductive Flag where
  | prefs
  | size
  | strict
  | help
  | version
deriving DecidableEq

/-- Why arguments are not understood, or that they ask for information only. -/
inductive UsageError where
  | missingRequiredArgument
  | invalidValue
  | valueValidation
  | argumentConflict
  | unknownArgument
  | invalidSubcommand
  | missingSubcommand
  | tooManyValues
  | helpOnMissingSubcommand
  | help
  | version
deriving DecidableEq

/-- The name of the kind of an error. -/
def UsageError.kind : UsageError → String
  | missingRequiredArgument => "MissingRequiredArgument"
  | invalidValue => "InvalidValue"
  | valueValidation => "ValueValidation"
  | argumentConflict => "ArgumentConflict"
  | unknownArgument => "UnknownArgument"
  | invalidSubcommand => "InvalidSubcommand"
  | missingSubcommand => "MissingSubcommand"
  | tooManyValues => "TooManyValues"
  | helpOnMissingSubcommand => "DisplayHelpOnMissingArgumentOrSubcommand"
  | help => "DisplayHelp"
  | version => "DisplayVersion"

/-- The exit status, which is zero only where information was asked for. -/
def UsageError.exitStatus : UsageError → Nat
  | help | version => 0
  | _ => 2

/-- What the program is asked to do. -/
inductive Subcommand where
  | parse
  | invert
  | table
  | run
deriving DecidableEq

namespace Subcommand

/-- The subcommand with a name. -/
def ofName? (name : List Char) : Option Subcommand :=
  if name = "parse".toList then some parse
  else if name = "invert".toList then some invert
  else if name = "table".toList then some table
  else if name = "run".toList then some run
  else none

/-- Whether the subcommand takes an algorithm. -/
def takesAlgorithm : Subcommand → Bool
  | table => false
  | _ => true

end Subcommand

/-- What is read of the arguments: before a subcommand, or behind one. -/
abbrev Scope := Option Subcommand

namespace Scope

/-- The option with a long name. -/
def long? (scope : Scope) (name : List Char) : Option Flag :=
  if name = "prefs".toList then some .prefs
  else if name = "help".toList then some .help
  else
    match scope with
    | none => if name = "version".toList then some .version else none
    | some _ =>
      if name = "size".toList then some .size
      else if name = "strict".toList then some .strict
      else none

/-- The option with a short name. -/
def short? (scope : Scope) (c : Char) : Option Flag :=
  if c = 'h' then some .help
  else
    match scope with
    | none => if c = 'V' then some .version else none
    | some _ => if c = 's' then some .size else none

/-- Whether an argument that is no option begins an algorithm. -/
def takesAlgorithm : Scope → Bool
  | none => false
  | some s => s.takesAlgorithm

end Scope

/-- The options that have been given. -/
structure Options where
  prefs : Option (List Char)
  size : Option UInt16
  strict : Bool
deriving DecidableEq, Inhabited

/-- An option whose value has not been judged, with the value if it has been read. -/
structure Pending where
  flag : Flag
  value : Option (List Char)
deriving DecidableEq

/-- What has been read of the arguments. -/
structure Reading where
  options : Options
  pending : Option Pending
  /-- Whether two dashes have been read. -/
  onlyAlgorithm : Bool
deriving DecidableEq, Inhabited

/-- The layer count that a text gives. -/
def sizeArgument? (s : List Char) : Option UInt16 :=
  match signed? s with
  | some i => if 0 ≤ i ∧ i < UInt16.size then some i.toNat.toUInt16 else none
  | none => none

/-- Whether a flag has been given. -/
def Options.has (o : Options) : Flag → Bool
  | .prefs => o.prefs.isSome
  | .size => o.size.isSome
  | .strict => o.strict
  | .help | .version => false

/-- The options with one more. An option is given once, and only then its value is judged. -/
def Options.set (o : Options) (flag : Flag) (value : List Char) : Except UsageError Options :=
  if o.has flag then .error .argumentConflict
  else
    match flag with
    | .prefs => if value.isEmpty then .error .invalidValue else .ok { o with prefs := some value }
    | .size =>
      match sizeArgument? value with
      | some n => .ok { o with size := some n }
      | none => .error .valueValidation
    | .strict => .ok { o with strict := true }
    | .help => .error .help
    | .version => .error .version

namespace Reading

/-- Judges the value of the option that waits. -/
def resolve (r : Reading) : Except UsageError Reading :=
  match r.pending with
  | none => .ok r
  | some ⟨_, none⟩ => .error .invalidValue
  | some ⟨flag, some value⟩ => do
    return { r with options := ← r.options.set flag value, pending := none }

/-- Whether an option waits for its value. -/
def isWaiting (r : Reading) : Bool :=
  match r.pending with
  | some ⟨_, none⟩ => true
  | _ => false

/-- Reads an option, with the value that is attached to it. -/
def option (r : Reading) (flag : Flag) (attached : Option (List Char)) :
    Except UsageError Reading := do
  let r ← r.resolve
  match flag, attached with
  | .prefs, none | .size, none => return { r with pending := some ⟨flag, none⟩ }
  | _, _ => return { r with options := ← r.options.set flag (attached.getD []) }

/-- What an argument is taken for. -/
inductive Taken where
  /-- For an option, or the value of one. -/
  | option (reading : Reading)
  /-- For a word. -/
  | word

/-- Reads a long option: the text behind two dashes. -/
def longOption (scope : Scope) (r : Reading) (s : List Char) : Except UsageError Taken :=
  let (name, rest) := s.span (· ≠ '=')
  let attached := if rest.isEmpty then none else some (rest.drop 1)
  match scope.long? name, attached with
  | some .prefs, _ => do return .option (← r.option .prefs attached)
  | some .size, _ => do return .option (← r.option .size attached)
  | some _, some _ => .error .tooManyValues
  | some flag, none => do return .option (← r.option flag none)
  | none, _ => if scope.takesAlgorithm then .ok .word else .error .unknownArgument

/-- Reads short options: the text behind one dash. Where an algorithm may begin, letters of which
one is no option do. -/
def shortOptions (scope : Scope) (r : Reading) (s : List Char) : Except UsageError Taken :=
  if scope.takesAlgorithm && s.any fun c => (scope.short? c).isNone then .ok .word
  else
    match s with
    | [] => .ok .word
    | c :: rest =>
      match scope.short? c with
      | none => .error .unknownArgument
      | some .size => do
        let attached := match rest with
          | [] => none
          | '=' :: value => some value
          | value => some value
        return .option (← r.option .size attached)
      | some flag => do return .option (← r.option flag none)

/-- Reads an argument that may be an option. A word is the value of the option that waits for one.
-/
def argument (scope : Scope) (r : Reading) (s : List Char) : Except UsageError Taken := do
  let taken ← match s with
    | '-' :: '-' :: rest => longOption scope r rest
    | '-' :: c :: rest => shortOptions scope r (c :: rest)
    | _ => pure .word
  match taken, r.pending with
  | .word, some ⟨flag, none⟩ => return .option { r with pending := some ⟨flag, some s⟩ }
  | _, _ => return taken

end Reading

/-- What the program is asked to do, and how. -/
structure Invocation where
  prefs : Option (List Char)
  subcommand : Subcommand
  size : Option UInt16
  strict : Bool
  /-- The arguments that the algorithm is made of. -/
  algorithm : List (List Char)
deriving DecidableEq

namespace Invocation

/-- Two dashes, behind which there are no options. -/
def dashes : List Char :=
  ['-', '-']

/-- Reads the arguments behind a subcommand: its options and its algorithm. -/
def readSubcommand (s : Subcommand) (r : Reading) :
    List (List Char) → Except UsageError (Options × List (List Char))
  | [] => do
    let r ← r.resolve
    if s.takesAlgorithm then .error .missingRequiredArgument else return (r.options, [])
  | a :: rest =>
    let begin : Except UsageError (Options × List (List Char)) := do
      if s.takesAlgorithm then return ((← r.resolve).options, a :: rest)
      else .error .unknownArgument
    if r.onlyAlgorithm then begin
    else if a = dashes then readSubcommand s { r with onlyAlgorithm := true } rest
    else do
      match ← r.argument (some s) a with
      | .option r => readSubcommand s r rest
      | .word => begin

/-- The names that `help` may be followed by. -/
def isHelpTopic (name : List Char) : Bool :=
  (Subcommand.ofName? name).isSome || name = "help".toList

/-- What comes of the subcommand `help`, which takes the name of one subcommand at most. -/
def helpError : List (List Char) → UsageError
  | [] => .help
  | name :: rest =>
    if isHelpTopic name ∧ rest.isEmpty then .help else .invalidSubcommand

/-- Reads all arguments, the options before the subcommand first. The value of the last of these is
judged after the arguments behind the subcommand. -/
def read (r : Reading) : List (List Char) → Except UsageError Invocation
  | [] => do
    let r ← r.resolve
    .error (if r.options.prefs.isSome then .missingSubcommand else .helpOnMissingSubcommand)
  | a :: rest =>
    if r.onlyAlgorithm then
      .error (if isHelpTopic a then .unknownArgument else .invalidSubcommand)
    else if r.isWaiting then other a rest
    else
      match Subcommand.ofName? a with
      | some s => do
        let (options, algorithm) ← readSubcommand s default rest
        -- Only now is the value of the last option before the subcommand judged.
        let r ← r.resolve
        return {
          prefs := options.prefs <|> r.options.prefs
          subcommand := s
          size := options.size
          strict := options.strict
          algorithm := algorithm }
      | none => if a = "help".toList then .error (helpError rest) else other a rest
where
  /-- Reads an argument that is not a subcommand. -/
  other (a : List Char) (rest : List (List Char)) : Except UsageError Invocation :=
    if a = dashes then read { r with onlyAlgorithm := true } rest
    else do
      match ← r.argument none a with
      | .option r => read r rest
      | .word => .error .invalidSubcommand

/-- Reads the arguments behind the name of the program. -/
def parse (arguments : List (List Char)) : Except UsageError Invocation :=
  read default arguments

end Invocation

end Twisty
