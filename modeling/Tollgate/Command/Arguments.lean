import Tollgate.Gateway.Request

/-!
# Commands and their arguments

Options take one value each, attached to them or as the next argument, and none may be given
twice.  Behind a lone `--` everything is a word.  What cannot be understood is an error at the
first argument that does not fit.
-/

namespace Tollgate

/-- What the program is asked to do. -/
inductive Command where
  /-- Load a manifest into a fresh gateway and sum it up. -/
  | check (manifest : String)
  /-- Tell what becomes of one request under a manifest. -/
  | resolve (manifest : String) (request : Request)
  /-- Keep a gateway in step with a manifest, which the settings may name. -/
  | watch (settings : String) (manifest : Option String)
  deriving DecidableEq, Repr

namespace Command

/-- The manifest that is meant where none is named. -/
def defaultManifest : String :=
  "manifest.yaml"

/-- The settings that are meant where none are named. -/
def defaultSettings : String :=
  "kroute.yaml"

/-- Why arguments give no command. -/
inductive Usage where
  /-- They ask how the program is used. -/
  | help
  /-- They ask for its version. -/
  | version
  /-- They make no sense. -/
  | fault
  deriving DecidableEq, Repr

/-- The options that take a value. -/
inductive Flag where
  | settings
  | manifest
  | host
  | method
  | credential
  deriving DecidableEq, Repr

namespace Flag

/-- The word of an option. -/
def word : Flag → String
  | settings => "settings"
  | manifest => "manifest"
  | host => "host"
  | method => "method"
  | credential => "credential"

/-- The letter of an option, if it has one. -/
def letter? : Flag → Option Char
  | settings => some 's'
  | manifest => some 'm'
  | host => none
  | method => some 'X'
  | credential => some 'c'

end Flag

/-- What an argument is by its first characters. -/
inductive Token where
  /-- The end of the options. -/
  | divider
  /-- An option by its word, perhaps with a value. -/
  | long (word : String) (value : Option String)
  /-- An option by its letter, perhaps with a value. -/
  | short (letter : Char) (value : Option String)
  /-- Anything else; a lone `-` too. -/
  | word (text : String)
  deriving DecidableEq, Repr

/-- Tell what an argument is. -/
def Token.ofArgument (argument : String) : Token :=
  match argument.toList with
  | ['-', '-'] => .divider
  | '-' :: '-' :: chars =>
      match chars.dropWhile (· ≠ '=') with
      | [] => .long (String.ofList chars) none
      | _ :: value =>
          .long (String.ofList (chars.takeWhile (· ≠ '='))) (some (String.ofList value))
  | ['-', letter] => .short letter none
  | '-' :: letter :: '=' :: value => .short letter (some (String.ofList value))
  | '-' :: letter :: value => .short letter (some (String.ofList value))
  | _ => .word argument

/-- What has been read of a command: the values of its options, and its words in order. -/
structure Line where
  values : List (Flag × String) := []
  words : List String := []
  deriving DecidableEq, Repr

namespace Line

/-- The value of an option. -/
def value? (line : Line) (flag : Flag) : Option String :=
  line.values.lookup flag

/-- Give an option its value. -/
def set (line : Line) (flag : Flag) (value : String) : Except Usage Line :=
  if (line.value? flag).isSome then .error .fault
  else .ok { line with values := (flag, value) :: line.values }

/-- Add words, of which there may be only so many. -/
def add (line : Line) (room : Nat) (words : List String) : Except Usage Line :=
  if line.words.length + words.length ≤ room then .ok { line with words := line.words ++ words }
  else .error .fault

end Line

/-- What a command understands. -/
structure Grammar where
  flags : List Flag
  /-- How many words it takes at most. -/
  room : Nat := 0
  /-- The words at which another command begins. -/
  commands : List String := []
  /-- Whether it tells the version. -/
  hasVersion : Bool := false

namespace Grammar

/-- The option that a token stands for, with the value attached to it. -/
def option (grammar : Grammar) : Token → Except Usage (Flag × Option String)
  | .long word value =>
      match grammar.flags.find? (·.word = word) with
      | some flag => .ok (flag, value)
      | none =>
          if value.isSome then .error .fault
          else if word = "help" then .error .help
          else if word = "version" ∧ grammar.hasVersion then .error .version
          else .error .fault
  | .short letter value =>
      match grammar.flags.find? (·.letter? = some letter) with
      | some flag => .ok (flag, value)
      | none =>
          if letter = 'h' then .error .help
          else if letter = 'V' ∧ grammar.hasVersion then .error .version
          else .error .fault
  | _ => .error .fault

/-- Read arguments up to where another command begins. -/
def read (grammar : Grammar) : List String → Line → Except Usage (Line × List String)
  | [], line => .ok (line, [])
  | argument :: rest, line =>
      if argument ∈ grammar.commands then .ok (line, argument :: rest)
      else
        match Token.ofArgument argument with
        | .divider => do return (← line.add grammar.room rest, [])
        | .word text => do grammar.read rest (← line.add grammar.room [text])
        | token => do
            match ← grammar.option token with
            | (flag, some value) => grammar.read rest (← line.set flag value)
            | (flag, none) =>
                match rest with
                | [] => throw .fault
                | value :: rest =>
                    match Token.ofArgument value with
                    | .word value => grammar.read rest (← line.set flag value)
                    | _ => throw .fault

/-- Read all arguments of a command within which no other begins. -/
def readAll (grammar : Grammar) (arguments : List String) : Except Usage Line :=
  (grammar.read arguments {}).map (·.1)

end Grammar

/-- The words that commands begin with. -/
def names : List String :=
  ["check", "resolve", "watch", "help"]

/-- The options before a command. -/
def common : Grammar where
  flags := [.settings]
  commands := names
  hasVersion := true

/-- The command of a request to be resolved. -/
def ofLine (line : Line) : Except Usage Command :=
  match line.words with
  | [path] =>
      .ok <| .resolve ((line.value? .manifest).getD defaultManifest)
        { path
          host := line.value? .host
          method := (line.value? .method).getD "GET"
          credential := line.value? .credential }
  | _ => .error .fault

/-- The command that arguments give; without any word it is to watch. -/
def ofArguments (arguments : List String) : Except Usage Command := do
  let (line, rest) ← common.read arguments {}
  let settings := (line.value? .settings).getD defaultSettings
  match rest with
  | [] => return .watch settings none
  | name :: rest =>
      if name = "check" then
        let line ← Grammar.readAll { flags := [.manifest] } rest
        return .check ((line.value? .manifest).getD defaultManifest)
      else if name = "resolve" then
        let flags : List Flag := [.manifest, .host, .method, .credential]
        ofLine (← Grammar.readAll { flags, room := 1 } rest)
      else if name = "watch" then
        let line ← Grammar.readAll { flags := [.manifest] } rest
        return .watch settings (line.value? .manifest)
      else
        match rest with
        | [] => throw .help
        | [topic] => throw (if topic ∈ names then .help else .fault)
        | _ => throw .fault

end Command

end Tollgate
