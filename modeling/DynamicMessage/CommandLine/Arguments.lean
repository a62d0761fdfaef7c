/-
# CommandLine.Arguments -- reading the words of a command

There are two commands, `names IDENT…` and `wire HEX`.  Flags may stand anywhere before a lone
`--`, after which every word is an argument; a lone `-` is an argument too.  `--verbose` (`-v`) is
known before the command and after it, once in each place, and `--json` after it only.

Words are read from left to right and the first that settles the request decides: a help flag asks
for the usage text, whatever follows, and a word that has no place is an error, whatever follows.
`help` takes names of commands and nothing else: each must be a command of the one before it, and
no command has commands of its own.
-/
namespace DynamicMessage.CommandLine

set_option autoImplicit false

/-- A command with its arguments. -/
inductive Command where
  /-- The spellings of identifiers. -/
  | names (idents : List String) (json : Bool)
  /-- The records of a run in hexadecimal digits. -/
  | wire (hex : String) (json : Bool)
deriving DecidableEq, Repr

/-- A word that cannot be used, or one that is missing. -/
inductive UsageError where
  | missingCommand
  | unknownCommand (word : String)
  | unknownFlag (word : String)
  | repeatedFlag (word : String)
  | missingArgument (name : String)
  | unexpectedArgument (word : String)
deriving DecidableEq, Repr

/-- The wording of a usage error. -/
def UsageError.message : UsageError → String
  | .missingCommand => "a command is required: names or wire"
  | .unknownCommand word => s!"unrecognized command '{word}'"
  | .unknownFlag word => s!"unexpected argument '{word}' found"
  | .repeatedFlag word => s!"the argument '{word}' cannot be used multiple times"
  | .missingArgument name => s!"the argument {name} is required"
  | .unexpectedArgument word => s!"unexpected argument '{word}' found"

/-- What the words ask for. -/
inductive Request where
  /-- The usage text. -/
  | help
  | run (command : Command)
deriving DecidableEq, Repr

/-- The flags that one level of the command line has seen. -/
structure Flags where
  verbose : Bool := false
  json : Bool := false
  help : Bool := false
deriving DecidableEq, Repr

namespace Flags

/-- Marks `--verbose` as seen. -/
def withVerbose (flags : Flags) (word : String) : Except UsageError Flags :=
  if flags.verbose then .error (.repeatedFlag word) else .ok { flags with verbose := true }

/-- Marks `--json` as seen. -/
def withJson (flags : Flags) (word : String) : Except UsageError Flags :=
  if flags.json then .error (.repeatedFlag word) else .ok { flags with json := true }

/-- The letters of a word that starts with one dash. -/
def withLetters (word : String) : Flags → List Char → Except UsageError Flags
  | flags, [] => .ok flags
  | flags, c :: rest =>
    if c = 'v' then
      match flags.withVerbose word with
      | .error e => .error e
      | .ok flags => withLetters word flags rest
    else if c = 'h' then .ok { flags with help := true }
    else .error (.unknownFlag word)

/-- Takes a word that starts with a dash and is not a dash alone. -/
def withWord (flags : Flags) (jsonAllowed : Bool) (word : String) : Except UsageError Flags :=
  if word = "--verbose" then flags.withVerbose word
  else if word = "--json" ∧ jsonAllowed then flags.withJson word
  else if word = "--help" then .ok { flags with help := true }
  else
    match word.toList with
    | '-' :: '-' :: _ => .error (.unknownFlag word)
    | _ :: letters => flags.withLetters word letters
    | [] => .error (.unknownFlag word)

end Flags

/-- Whether a word is a flag, where flags may stand. -/
def isFlag (word : String) : Bool :=
  match word.toList with
  | ['-'] => false
  | '-' :: _ => true
  | _ => false

/-- The arguments of a command that takes `room` of them at most, or any number if no room is
given; flags are not known among these words. -/
def readPlain (room : Option Nat) : List String → Except UsageError (List String)
  | [] => .ok []
  | word :: rest =>
    if room = some 0 then .error (.unexpectedArgument word)
    else
      match readPlain (room.map (· - 1)) rest with
      | .error e => .error e
      | .ok arguments => .ok (word :: arguments)

/-- The flags and the arguments after a command that takes `room` arguments at most, or any number
if no room is given.  A help flag ends the reading. -/
def readArguments (room : Option Nat) (flags : Flags) :
    List String → Except UsageError (Flags × List String)
  | [] => .ok (flags, [])
  | word :: rest =>
    if word = "--" then
      match readPlain room rest with
      | .error e => .error e
      | .ok arguments => .ok (flags, arguments)
    else if isFlag word then
      match flags.withWord true word with
      | .error e => .error e
      | .ok flags => if flags.help then .ok (flags, []) else readArguments room flags rest
    else if room = some 0 then .error (.unexpectedArgument word)
    else
      match readArguments (room.map (· - 1)) flags rest with
      | .error e => .error e
      | .ok (flags, arguments) => .ok (flags, word :: arguments)

/-- The words after `help`: at most one name of a command, `help` among them. -/
def readHelp : List String → Except UsageError Request
  | [] => .ok .help
  | name :: rest =>
    if name = "names" ∨ name = "wire" ∨ name = "help" then
      match rest with
      | [] => .ok .help
      | word :: _ => .error (.unknownCommand word)
    else .error (.unknownCommand name)

/-- The command of a name with its flags and arguments. -/
def readCommand (name : String) (rest : List String) : Except UsageError Request :=
  if name = "names" then
    match readArguments none {} rest with
    | .error e => .error e
    | .ok (flags, arguments) =>
      if flags.help then .ok .help
      else if arguments.isEmpty then .error (.missingArgument "IDENTS")
      else .ok (.run (.names arguments flags.json))
  else if name = "wire" then
    match readArguments (some 1) {} rest with
    | .error e => .error e
    | .ok (flags, arguments) =>
      if flags.help then .ok .help
      else
        match arguments with
        | [] => .error (.missingArgument "HEX")
        | hex :: _ => .ok (.run (.wire hex flags.json))
  else if name = "help" then readHelp rest
  else .error (.unknownCommand name)

/-- The request that the words make: flags first, then a command. -/
def readWords (flags : Flags) : List String → Except UsageError Request
  | [] => .error .missingCommand
  | word :: rest =>
    if word = "--" then
      match rest with
      | [] => .error .missingCommand
      | extra :: _ => .error (.unexpectedArgument extra)
    else if isFlag word then
      match flags.withWord false word with
      | .error e => .error e
      | .ok flags => if flags.help then .ok .help else readWords flags rest
    else readCommand word rest

/-- The request of a command line. -/
def read (words : List String) : Except UsageError Request := readWords {} words

end DynamicMessage.CommandLine
