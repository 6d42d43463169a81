import DialogueScript.CommandLine.Report

/-!
# Chatting on the console

The program loads the scripts it is given, sorts them, and answers the lines of its input until
one says `exit`.  A run is described by what it prints and how it ends; the outer layer only
carries this out.
-/

namespace DialogueScript.CommandLine

/-- What has been printed on the two streams. -/
structure Output where
  out : Text := []
  err : Text := []
deriving Repr, DecidableEq

structure Outcome where
  exitCode : Nat
  output : Output
deriving Repr, DecidableEq

def exitSuccess : Nat := 0

def exitFailure : Nat := 1

def exitUsage : Nat := 2

/-- A bot that is ready to chat. -/
structure Chat where
  bot : Bot
  settings : Settings

namespace Chat

def loadSource (disk : Disk) (bot : Bot) (source : Source) :
    Bot × Except LoadFailure (List Script.Report) :=
  match source with
  | .directory path => bot.loadDirectory disk path
  | .file path =>
    let (bot, result) := bot.loadFile disk path
    (bot, result.map fun report => [report])

/-- Load sources up to the first that fails. -/
def loadSources (disk : Disk) (bot : Bot) :
    List Source → Except LoadFailure (Bot × List Script.Report)
  | [] => .ok (bot, [])
  | source :: sources =>
    match loadSource disk bot source with
    | (_, .error failure) => .error failure
    | (bot, .ok reports) =>
      (loadSources disk bot sources).map fun (bot, more) => (bot, reports ++ more)

/-- The report of a cycle; the scripts are live all the same. -/
def sortReport : Except LoadFailure Unit → Text
  | .ok () => []
  | .error failure => line ("warning: ".toList ++ failure.message)

def start (disk : Disk) (entropy : UInt64) (settings : Settings) : Except Outcome (Chat × Output) :=
  let seed := settings.seed.getD entropy
  let bot := Bot.new { depth := settings.depth, seed } {} none
  match loadSources disk bot settings.sources with
  | .error failure =>
    .error { exitCode := exitFailure, output := { err := errorLine failure.message } }
  | .ok (bot, reports) =>
    let (bot, sorted) := bot.sort
    .ok ({ bot, settings },
      { out := if settings.showTopics then topicsReport settings.color bot.topics else []
        err := loadReport settings.color reports ++ sortReport sorted })

inductive Input where
  | skip
  | exit
  | message (text : Text)
deriving Repr, DecidableEq

def readInput (line : Text) : Input :=
  let message := Text.trim line
  if message.isEmpty then .skip else if message = "exit".toList then .exit else .message message

def answer (chat : Chat) (message : Text) : Chat × Answer :=
  let (bot, answer) := chat.bot.answer chat.settings.user message
  ({ chat with bot }, answer)

/-- What is printed for an answer that took the time `elapsed`. -/
def answerReport (settings : Settings) (elapsed : Text) (answer : Answer) : Text :=
  (if settings.showTrace then traceReport settings.color elapsed answer else [])
    ++ replyReport answer.reply

/-- What is printed for the lines of the input, each answered in the time `elapsed`. -/
def converse (elapsed : Text) (chat : Chat) : List Text → Text
  | [] => []
  | line :: lines =>
    match readInput line with
    | .skip => converse elapsed chat lines
    | .exit => []
    | .message message =>
      let (chat, answer) := chat.answer message
      answerReport chat.settings elapsed answer ++ converse elapsed chat lines

end Chat

/-- A chat that is ready to go on after its first output, or a run that has ended already. -/
def prepare (disk : Disk) (entropy : UInt64) (color : Bool) (arguments : List Text) :
    Except Outcome (Chat × Output) :=
  match parse disk.isDirectory { color } arguments with
  | .error error => .error { exitCode := exitUsage, output := { err := errorLine error.message } }
  | .ok .help => .error { exitCode := exitSuccess, output := { out := line helpText } }
  | .ok .version => .error { exitCode := exitSuccess, output := { out := line programVersion } }
  | .ok (.chat settings) => Chat.start disk entropy settings

/-- A whole run on an input that is known in advance. -/
def run (disk : Disk) (entropy : UInt64) (color : Bool) (elapsed : Text) (arguments : List Text)
    (input : Text) : Outcome :=
  match prepare disk entropy color arguments with
  | .error outcome => outcome
  | .ok (chat, output) =>
    { exitCode := exitSuccess
      output := { output with out := output.out ++ chat.converse elapsed (Text.lines input) } }

end DialogueScript.CommandLine
