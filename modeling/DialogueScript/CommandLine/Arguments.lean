import DialogueScript.Number.Integer
import DialogueScript.Text.Blank

/-!
# Command-line arguments

Arguments are read from left to right into settings.  The first that asks for help or for the
version, or that cannot be read, decides; what no option may do without is asked for at the end.
-/

namespace DialogueScript.CommandLine

inductive Source where
  | directory (path : Text)
  | file (path : Text)
deriving Repr, DecidableEq

def defaultUser : Text := "localuser".toList

def defaultDepth : UInt64 := 50

structure Settings where
  sources : List Source := []
  user : Text := defaultUser
  depth : UInt64 := defaultDepth
  seed : Option UInt64 := none
  showTopics : Bool := false
  showTrace : Bool := false
  color : Bool := false
deriving Repr, DecidableEq

inductive Invocation where
  | help
  | version
  | chat (settings : Settings)
deriving Repr, DecidableEq

/-- The options that take a value. -/
inductive ValueOption where
  | directory
  | file
  | user
  | depth
  | seed
deriving Repr, DecidableEq

namespace ValueOption

def all : List ValueOption :=
  [.directory, .file, .user, .depth, .seed]

def name : ValueOption → Text
  | .directory => "--dir".toList
  | .file => "--file".toList
  | .user => "--user".toList
  | .depth => "--depth".toList
  | .seed => "--seed".toList

def shortName? : ValueOption → Option Text
  | .directory => some "-d".toList
  | .file => some "-f".toList
  | .user => some "-u".toList
  | .depth | .seed => none

end ValueOption

inductive UsageError where
  | missingPath (argument : Text)
  | missingValue (option : ValueOption)
  | invalidNumber (option : ValueOption) (value : Text)
  | unknownOption (argument : Text)
  | noSource
  | emptyUser
deriving Repr, DecidableEq

namespace ValueOption

/-- The option that an argument spells out, with its value in the next argument. -/
def separate? (argument : Text) : Option ValueOption :=
  all.find? fun option => argument = option.name || option.shortName? = some argument

/-- Take `lead` off the front of a text as often as it stands there. -/
def dropRepeated (lead text : Text) : Text :=
  match Text.strip? lead text with
  | none => text
  | some rest => if rest.length < text.length then dropRepeated lead rest else text
termination_by text.length

/-- The option and the value that one argument joins by an equals sign. -/
def joined? (argument : Text) : Option (ValueOption × Text) :=
  all.findSome? fun option =>
    let lead := option.name ++ ['=']
    if Text.beginsWith lead argument then some (option, dropRepeated lead argument) else none

def missing (option : ValueOption) (argument : Text) : UsageError :=
  match option with
  | .directory | .file => .missingPath argument
  | .user | .depth | .seed => .missingValue option

def number (option : ValueOption) (value : Text) : Except UsageError UInt64 :=
  match Number.word? value with
  | some n => .ok (UInt64.ofNat n)
  | none => .error (.invalidNumber option value)

def set (option : ValueOption) (value : Text) (settings : Settings) : Except UsageError Settings :=
  match option with
  | .directory => .ok { settings with sources := settings.sources ++ [.directory value] }
  | .file => .ok { settings with sources := settings.sources ++ [.file value] }
  | .user => .ok { settings with user := value }
  | .depth => (option.number value).map fun depth => { settings with depth }
  | .seed => (option.number value).map fun seed => { settings with seed := some seed }

end ValueOption

/-- The change that an option without a value makes. -/
def switch? (argument : Text) : Option (Settings → Settings) :=
  if argument = "--color".toList then some fun settings => { settings with color := true }
  else if argument = "--no-color".toList then some fun settings => { settings with color := false }
  else if argument = "--dump".toList then some fun settings => { settings with showTopics := true }
  else if argument = "--trace".toList then some fun settings => { settings with showTrace := true }
  else none

def asksForHelp (argument : Text) : Bool :=
  argument = "-h".toList || argument = "--help".toList

def asksForVersion (argument : Text) : Bool :=
  argument = "-V".toList || argument = "--version".toList

namespace Settings

def check (settings : Settings) : Except UsageError Invocation :=
  if settings.sources.isEmpty then .error .noSource
  else if (Text.trim settings.user).isEmpty then .error .emptyUser
  else .ok (.chat settings)

/-- A path without an option is a directory if there is one, otherwise a file. -/
def addPath (isDirectory : Text → Bool) (settings : Settings) (path : Text) : Settings :=
  let source := if isDirectory path then Source.directory path else Source.file path
  { settings with sources := settings.sources ++ [source] }

end Settings

def parse (isDirectory : Text → Bool) (settings : Settings) :
    List Text → Except UsageError Invocation
  | [] => settings.check
  | argument :: rest =>
    if asksForHelp argument then .ok .help
    else if asksForVersion argument then .ok .version
    else
      match switch? argument with
      | some change => parse isDirectory (change settings) rest
      | none =>
        match ValueOption.separate? argument, rest with
        | some option, [] => .error (option.missing argument)
        | some option, value :: rest =>
          match option.set value settings with
          | .ok settings => parse isDirectory settings rest
          | .error error => .error error
        | none, rest =>
          match ValueOption.joined? argument with
          | some (option, value) =>
            match option.set value settings with
            | .ok settings => parse isDirectory settings rest
            | .error error => .error error
          | none =>
            if Text.beginsWith ['-'] argument then .error (.unknownOption argument)
            else parse isDirectory (settings.addPath isDirectory argument) rest

end DialogueScript.CommandLine
