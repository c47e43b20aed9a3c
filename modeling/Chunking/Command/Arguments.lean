/-
The command line. Options that hold everywhere may stand before the name of the
command and behind it, where they count more; every command has options of its
own. A word that begins with a dash is an option, a cluster of short options, or
wrong; after two dashes nothing is an option any more.

The value of an option is looked at only when the next option or file of the same
level is taken up, or at the end of the level. So of several faults in a line it
is not always the first one that is told: the level of the command comes to its
end before the level in front of it.
-/

import Chunking.Language
import Chunking.Text.Affix
import Chunking.Word

namespace Chunking

/-- How results are printed. -/
inductive OutputFormat where
  | text
  | json
  deriving DecidableEq, Repr, Inhabited

def OutputFormat.named? : String → Option OutputFormat
  | "text" => some .text
  | "json" => some .json
  | _ => none

/-- What is to be done. -/
inductive Command where
  | init (force : Bool)
  | parse (file : String) (language : Option Language)
  | index (full : Bool)
  | display (file : String)
  | invalidate (file : Option String) (all : Bool)
  | watch (debounce : Nat)
  | status
  | config (displays resets : Bool)
  deriving DecidableEq, Repr

/-- A command with the options that hold everywhere. -/
structure Invocation where
  path : String
  verbose : Bool
  format : OutputFormat
  command : Command
  deriving DecidableEq, Repr

/-- Why a command line does not lead to a command. -/
inductive Usage where
  | invalidSubcommand
  | missingSubcommand
  | unknownArgument
  | invalidValue
  | valueValidation
  | tooManyValues
  | missingRequiredArgument
  | argumentConflict
  | displayHelp
  /-- Nothing was asked for at all. -/
  | displayHelpOnMissing
  | displayVersion
  deriving DecidableEq, Repr

namespace Usage

/-- Whether the line is in order, and only asks about the program. -/
def isInquiry : Usage → Bool
  | .displayHelp | .displayVersion => true
  | _ => false

end Usage

namespace Arguments

/-! ### Parameters -/

/-- The parameters of all commands. -/
inductive Parameter where
  | path
  | verbose
  | format
  | help
  | version
  | force
  | full
  | all
  | display
  | reset
  | language
  | debounce
  | file
  deriving DecidableEq, Repr

namespace Parameter

/-- The name behind two dashes. -/
def long? : Parameter → Option String
  | .path => some "path"
  | .verbose => some "verbose"
  | .format => some "format"
  | .help => some "help"
  | .version => some "version"
  | .force => some "force"
  | .full => some "full"
  | .all => some "all"
  | .display => some "show"
  | .reset => some "reset"
  | .language => some "language"
  | .debounce => some "debounce"
  | .file => none

/-- The letter behind one dash. -/
def short? : Parameter → Option Char
  | .path => some 'p'
  | .verbose => some 'v'
  | .format => some 'o'
  | .help => some 'h'
  | .version => some 'V'
  | .force => some 'f'
  | .full => some 'f'
  | .all => some 'a'
  | .language => some 'l'
  | .debounce => some 'd'
  | .display | .reset | .file => none

def takesValue : Parameter → Bool
  | .path | .format | .language | .debounce | .file => true
  | _ => false

/-- A count of 64 bits, before which a plus may stand. -/
def count? (text : String) : Option Nat :=
  let digits := match text.toList with
    | '+' :: digits => digits
    | digits => digits
  if digits.isEmpty || !digits.all Char.isDigit then none
  else
    let value := digits.foldl (fun value digit => value * 10 + (digit.toNat - '0'.toNat)) 0
    if value < Word.limit then some value else none

/-- What is wrong with a value. -/
def fault? (parameter : Parameter) (value : String) : Option Usage :=
  match parameter with
  | .format => if (OutputFormat.named? value).isSome then none else some .invalidValue
  | .language => if (Language.ofName? value).isSome then none else some .valueValidation
  | .debounce => if (count? value).isSome then none else some .valueValidation
  | .file => if value == "" then some .invalidValue else none
  | _ => none

end Parameter

/-- The parameters that hold everywhere. -/
def everywhere : List Parameter := [.path, .verbose, .format, .help, .version]

/-- The names of the commands with their own parameters. -/
def commands : List (String × List Parameter) :=
  [("init", [.force]), ("parse", [.file, .language]), ("index", [.full]), ("show", [.file]),
    ("invalidate", [.file, .all]), ("watch", [.debounce]), ("status", []),
    ("config", [.display, .reset])]

/-- The word that asks about commands. -/
def helpWord : String := "help"

/-! ### One level of the line -/

/-- What has been read of a level. -/
structure Reading where
  /-- The parameters taken up, with their values. -/
  given : List (Parameter × String) := []
  /-- A parameter whose value has not been looked at, or is still to come. -/
  pending : Option (Parameter × Option String) := none
  deriving Repr

namespace Reading

def has (reading : Reading) (parameter : Parameter) : Bool :=
  reading.given.any (·.1 = parameter)

def value? (reading : Reading) (parameter : Parameter) : Option String :=
  reading.given.lookup parameter

/-- Takes up a parameter with its value, once. -/
def accept (reading : Reading) (parameter : Parameter) (value : Option String) :
    Except Usage Reading :=
  if parameter.takesValue && value.isNone then .error .invalidValue
  else if reading.has parameter then .error .argumentConflict
  else
    match value.bind parameter.fault? with
    | some usage => .error usage
    | none => .ok { given := reading.given ++ [(parameter, value.getD "")] }

/-- Takes up the parameter that is pending. -/
def settle (reading : Reading) : Except Usage Reading :=
  match reading.pending with
  | none => .ok reading
  | some (parameter, value) => reading.accept parameter value

/-- Takes up a parameter after the one that is pending. -/
def take (reading : Reading) (parameter : Parameter) (value : Option String) :
    Except Usage Reading := do
  let reading ← reading.settle
  match parameter with
  | .help => throw .displayHelp
  | .version => throw .displayVersion
  | parameter => reading.accept parameter value

/-- Lets a parameter wait until its value is looked at. -/
def await (reading : Reading) (parameter : Parameter) (value : Option String) :
    Except Usage Reading := do
  let reading ← reading.settle
  return { reading with pending := some (parameter, value) }

/-- Whether a parameter waits for a value. -/
def isAwaiting (reading : Reading) : Bool :=
  match reading.pending with
  | some (_, none) => true
  | _ => false

/-- Gives the parameter that waits its value. -/
def supply (reading : Reading) (value : String) : Reading :=
  { reading with pending := reading.pending.map fun (parameter, _) => (parameter, some value) }

end Reading

/-- Reads a word that begins with two dashes; `parameters` are those of the level. -/
def readLong (parameters : List Parameter) (reading : Reading) (word : List Char) :
    Except Usage Reading :=
  let name := String.ofList (word.takeWhile (· != '='))
  let attached : Option String :=
    match word.dropWhile (· != '=') with
    | [] => none
    | _ :: value => some (String.ofList value)
  match parameters.find? (·.long? = some name) with
  | none => .error .unknownArgument
  | some parameter =>
    match parameter.takesValue, attached with
    | true, some value => reading.take parameter (some value)
    | true, none => reading.await parameter none
    | false, some _ => .error .tooManyValues
    | false, none => reading.take parameter none

/-- Reads the letters behind one dash. What follows the letter of an option with a value is that
value. -/
def readShort (parameters : List Parameter) : Reading → List Char → Except Usage Reading
  | reading, [] => .ok reading
  | reading, letter :: rest =>
    match parameters.find? (·.short? = some letter) with
    | none => .error .unknownArgument
    | some parameter =>
      if parameter.takesValue then
        match rest with
        | [] => reading.await parameter none
        | '=' :: value => reading.take parameter (some (String.ofList value))
        | value => reading.take parameter (some (String.ofList value))
      else do
        let reading ← reading.take parameter none
        readShort parameters reading rest

/-- Reads a word that is neither an option nor the value of one. -/
def readFile (parameters : List Parameter) (reading : Reading) (word : String) :
    Except Usage Reading :=
  let taken := reading.has .file || reading.pending.any (·.1 = .file)
  if parameters.contains .file && !taken then reading.await .file (some word)
  else .error .unknownArgument

/-- Reads the level behind the name of a command up to the end of the line. `plain` says that two
dashes have been passed. -/
def readLevel (parameters : List Parameter) (plain : Bool) :
    Reading → List String → Except Usage Reading
  | reading, [] => reading.settle
  | reading, word :: rest =>
    if plain then do
      readLevel parameters true (← readFile parameters reading word) rest
    else
      match word.toList with
      | ['-', '-'] => readLevel parameters true reading rest
      | '-' :: '-' :: name => do
        readLevel parameters false (← readLong parameters reading name) rest
      | '-' :: letter :: letters => do
        readLevel parameters false (← readShort parameters reading (letter :: letters)) rest
      | _ =>
        if reading.isAwaiting then readLevel parameters false (reading.supply word) rest
        else do
          readLevel parameters false (← readFile parameters reading word) rest

/-- What a level in front of a command leads to: the name of the command, and the rest of the
line. -/
structure Front where
  reading : Reading
  command : Option (String × List String)

/-- Whether a word names a command. -/
def isCommand (word : String) : Bool :=
  word == helpWord || commands.any (·.1 == word)

/-- Reads the level in front of the command. Behind two dashes no command can follow. -/
def readFront : Reading → List String → Except Usage Front
  | reading, [] => .ok ⟨reading, none⟩
  | reading, word :: rest =>
    if !reading.isAwaiting && isCommand word then .ok ⟨reading, some (word, rest)⟩
    else
      match word.toList with
      | ['-', '-'] =>
        match rest with
        | [] => .ok ⟨reading, none⟩
        | word :: _ => .error (if isCommand word then .unknownArgument else .invalidSubcommand)
      | '-' :: '-' :: name => do readFront (← readLong everywhere reading name) rest
      | '-' :: letter :: letters => do
        readFront (← readShort everywhere reading (letter :: letters)) rest
      | _ =>
        if reading.isAwaiting then readFront (reading.supply word) rest
        else .error .invalidSubcommand

/-! ### The whole line -/

/-- The answer to a question about commands. -/
def inquire : List String → Usage
  | [] => .displayHelp
  | [word] => if isCommand word then .displayHelp else .invalidSubcommand
  | _ => .invalidSubcommand

/-- The command that a level stands for. -/
def commandOf (name : String) (reading : Reading) : Except Usage Command :=
  let file : Except Usage String :=
    match reading.value? .file with
    | some file => .ok file
    | none => .error .missingRequiredArgument
  match name with
  | "init" => .ok (.init (reading.has .force))
  | "parse" => file.map fun file =>
      .parse file ((reading.value? .language).bind Language.ofName?)
  | "index" => .ok (.index (reading.has .full))
  | "show" => file.map .display
  | "invalidate" =>
    if reading.has .all && reading.has .file then .error .argumentConflict
    else .ok (.invalidate (reading.value? .file) (reading.has .all))
  | "watch" => .ok (.watch (((reading.value? .debounce).bind Parameter.count?).getD 300))
  | "config" => .ok (.config (reading.has .display) (reading.has .reset))
  | _ => .ok .status

/-- Reads a command line. -/
def parse (words : List String) : Except Usage Invocation := do
  let front ← readFront {} words
  match front.command with
  | none =>
    let reading ← front.reading.settle
    throw (if reading.given.isEmpty then .displayHelpOnMissing else .missingSubcommand)
  | some (name, rest) =>
    if name == helpWord then throw (inquire rest)
    let own := (commands.lookup name).getD []
    let level ← readLevel (everywhere ++ own) false {} rest
    let command ← commandOf name level
    let reading ← front.reading.settle
    let value? (parameter : Parameter) : Option String :=
      (level.value? parameter).or (reading.value? parameter)
    return {
      path := (value? .path).getD "."
      verbose := level.has .verbose || reading.has .verbose
      format := ((value? .format).bind OutputFormat.named?).getD .text
      command }

end Arguments

end Chunking
