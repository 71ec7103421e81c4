import Alerting.CommandLine.Level

/-!
# Reading the words of a command line

Words are read from left to right. An option and its value may be two words, so that
there can be a parameter that still waits for its value; a value is checked when the
next parameter is met, and the words of a level end with a last check. Of several
faults the one that is met first counts.
-/

namespace Alerting

/-- What help is asked about. -/
inductive HelpTopic where
  | level (level : CommandLevel)
  | help
  deriving DecidableEq, Repr

/-- Why a command line gives no command. -/
inductive NoCommand where
  | help (topic : HelpTopic)
  /-- Nothing was given at all. -/
  | nothingGiven
  | missingCommand
  | unknownCommand (word : String)
  | missing (parameter : Parameter)
  | unknownWord (word : String)
  /-- A value is missing, or is none that the parameter accepts. -/
  | invalidValue (parameter : Parameter)
  | repeated (parameter : Parameter)
  /-- An option that takes no value was given one. -/
  | unexpectedValue (word : String)
  deriving DecidableEq, Repr

/-- What the operator is told. -/
def NoCommand.message : NoCommand → String
  | .help _ => "help was asked for"
  | .nothingGiven | .missingCommand => "a subcommand is required but none was provided"
  | .unknownCommand word => "unrecognized subcommand '" ++ word ++ "'"
  | .missing parameter => "the required argument " ++ parameter.name ++ " was not provided"
  | .unknownWord word => "unexpected argument '" ++ word ++ "' found"
  | .invalidValue parameter => "invalid value for '" ++ parameter.name ++ "'"
  | .repeated parameter => "the argument '" ++ parameter.name ++ "' cannot be used multiple times"
  | .unexpectedValue word => "unexpected value for '" ++ word ++ "'"

/-- How far the words of a level were read. -/
structure WordReading where
  given : List (Parameter × String) := []
  /-- A parameter that was met last, with its value if that was met too. -/
  pending : Option (Parameter × Option String) := none
  positionalGiven : Bool := false
  /-- Two dashes were met: no option follows. -/
  optionsEnded : Bool := false
  deriving DecidableEq

namespace WordReading

def value? (reading : WordReading) (parameter : Parameter) : Option String :=
  reading.given.lookup parameter

/-- Takes a value of a parameter that has none yet. -/
def give (reading : WordReading) (parameter : Parameter) (value : String) :
    Except NoCommand WordReading :=
  if (reading.value? parameter).isSome then .error (.repeated parameter)
  else if !parameter.accepts value then .error (.invalidValue parameter)
  else .ok { reading with given := (parameter, value) :: reading.given }

/-- Takes what is pending. -/
def settle (reading : WordReading) : Except NoCommand WordReading :=
  match reading.pending with
  | none => .ok reading
  | some (parameter, none) => .error (.invalidValue parameter)
  | some (parameter, some value) => { reading with pending := none }.give parameter value

/-- A word is awaited as a value. -/
def awaited? (reading : WordReading) : Option Parameter :=
  match reading.pending with
  | some (parameter, none) => if reading.optionsEnded then none else some parameter
  | _ => none

/-- Meets an option, with the value that is attached to it. -/
def meet (reading : WordReading) (level : CommandLevel) (meaning : OptionMeaning)
    (attached : Option String) : Except NoCommand WordReading := do
  let settled ← reading.settle
  match meaning, attached with
  | .help, _ => .error (.help (.level level))
  | .switch parameter, _ => settled.give parameter ""
  | .value parameter, some value => settled.give parameter value
  | .value parameter, none => .ok { settled with pending := some (parameter, none) }

/-- The name of a long option and the value after its first equals sign. -/
def splitLong (characters : List Char) : String × Option String :=
  let rest := characters.dropWhile (· ≠ '=')
  (String.ofList (characters.takeWhile (· ≠ '=')),
    if rest.isEmpty then none else some (String.ofList (rest.drop 1)))

/-- Reads what follows two dashes. -/
def readLong (reading : WordReading) (level : CommandLevel) (characters : List Char) :
    Except NoCommand WordReading :=
  let (name, attached) := splitLong characters
  match level.long? name, attached with
  | none, _ => .error (.unknownWord ("--" ++ name))
  | some (.value parameter), _ => reading.meet level (.value parameter) attached
  | some meaning, none => reading.meet level meaning none
  | some _, some _ => .error (.unexpectedValue ("--" ++ name))

/-- The value attached to a short option. An equals sign before it is left out. -/
def attachedValue : List Char → Option String
  | [] => none
  | '=' :: rest => some (String.ofList rest)
  | rest => some (String.ofList rest)

/-- Reads what follows a single dash: letters, each an option, the last perhaps with a value. -/
def readShorts (level : CommandLevel) :
    List Char → WordReading → Except NoCommand WordReading
  | [], reading => .ok reading
  | letter :: rest, reading =>
    match level.short? letter with
    | none => .error (.unknownWord ("-" ++ String.singleton letter))
    | some (.value parameter) => reading.meet level (.value parameter) (attachedValue rest)
    | some meaning => do readShorts level rest (← reading.meet level meaning none)

/-- Reads a word that is no option and no awaited value. -/
def readPositional (reading : WordReading) (level : CommandLevel) (word : String) :
    Except NoCommand WordReading :=
  match level.positional? with
  | some parameter =>
    if reading.positionalGiven then .error (.unknownWord word)
    else do
      let settled ← reading.settle
      .ok { settled with pending := some (parameter, some word), positionalGiven := true }
  | none =>
    if level = .program && !(reading.optionsEnded && (word = "help" ||
        (CommandLevel.ofCommand? word).isSome)) then .error (.unknownCommand word)
    else .error (.unknownWord word)

/-- Reads one word. -/
def readWord (reading : WordReading) (level : CommandLevel) (word : String) :
    Except NoCommand WordReading :=
  if reading.optionsEnded then reading.readPositional level word
  else match word.toList, reading.awaited? with
    | ['-', '-'], _ => .ok { reading with optionsEnded := true }
    | '-' :: '-' :: name, _ => reading.readLong level name
    | '-' :: letter :: rest, _ => readShorts level (letter :: rest) reading
    | _, some parameter => .ok { reading with pending := some (parameter, some word) }
    | _, none => reading.readPositional level word

/-- Reads all words. -/
def readWords (level : CommandLevel) :
    List String → WordReading → Except NoCommand WordReading
  | [], reading => reading.settle
  | word :: rest, reading => do readWords level rest (← reading.readWord level word)

end WordReading

/-- What is asked about with the word for help and the words after it. -/
def helpTopic : List String → NoCommand
  | [] => .help (.level .program)
  | ["help"] => .help .help
  | "help" :: word :: _ => .unknownCommand word
  | word :: rest =>
    match CommandLevel.ofCommand? word, rest with
    | none, _ => .unknownCommand word
    | some level, [] => .help (.level level)
    | some _, other :: _ => .unknownCommand other

/--
Reads the words of the program. At a command the words that belong to it are left over,
and what is pending stays so.
-/
def readProgramWords :
    List String → WordReading →
      Except NoCommand (WordReading × Option (CommandLevel × List String))
  | [], reading => do .ok (← reading.settle, none)
  | word :: rest, reading =>
    if reading.optionsEnded || reading.awaited?.isSome then do
      readProgramWords rest (← reading.readWord .program word)
    else if word = "help" then .error (helpTopic rest)
    else match CommandLevel.ofCommand? word with
      | some level => .ok (reading, some (level, rest))
      | none => do readProgramWords rest (← reading.readWord .program word)

end Alerting
