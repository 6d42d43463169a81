import DialogueScript.Bot
import DialogueScript.CommandLine.Arguments

/-!
# Reports on the console

What the program prints: the help, usage errors, loaded scripts with their warnings, the live
topics and the trace of a turn.  Every span of a report has a tone, which shows as a colour when
colours are wanted.
-/

namespace DialogueScript.CommandLine

def programVersion : Text := "colloquy 0.1.0".toList

def helpBefore : Text := "

Interactive shell for rule-based dialogue scripts.

Usage:
  colloquy [OPTIONS] --dir <path>
  colloquy [OPTIONS] --file <path> [--file <path>...]
  colloquy [OPTIONS] <path>...

Bare paths may name a script file or a directory of scripts. Messages are
read from stdin one per line; `exit` or end of input ends the session.

Options:
  -d, --dir <path>           Load every script in a directory.
  -f, --file <path>          Load one script file. Repeatable.
  -u, --user <name>          User id for the session. Default: ".toList

def helpBetween : Text := "
  --depth <n>                Redirect recursion limit. Default: ".toList

def helpAfter : Text := "
  --seed <n>                 Seed the random reply choice.
  --dump                     Print the sorted triggers after loading.
  --trace                    Print the resolution trace for every reply.
  --color                    Force ANSI color output.
  --no-color                 Disable ANSI color output.
  -h, --help                 Show this help message.
  -V, --version              Print version information.

Environment:
  RUST_LOG                   Log filter, e.g. colloquy=debug. Default: warn

Exit codes:
  0  Success.
  1  Scripts failed to load, or stdin/stdout failed.
  2  Invalid arguments or missing script path.
".toList

def helpText : Text :=
  programVersion ++ helpBefore ++ defaultUser ++ helpBetween ++ Number.natText defaultDepth.toNat
    ++ helpAfter

def line (text : Text) : Text :=
  text ++ ['\n']

def errorLine (message : Text) : Text :=
  line ("error: ".toList ++ message)

def UsageError.message : UsageError → Text
  | .missingPath argument => argument ++ " expects a path".toList
  | .missingValue option => option.name ++ " expects a value".toList
  | .invalidNumber option value =>
    "invalid ".toList ++ option.name ++ " '".toList ++ value
      ++ "' (expected a non-negative integer)".toList
  | .unknownOption argument => "unknown option '".toList ++ argument ++ ['\'']
  | .noSource => "no script path provided\n\n".toList ++ helpText
  | .emptyUser => "--user cannot be empty".toList

inductive Tone where
  | rule
  | faint
  | topic
  | matched
  | missed
  | label
  | opening
  | previous
  | warning
deriving Repr, DecidableEq

/-- The parameters of the escape sequence that selects a tone. -/
def Tone.code : Tone → Text
  | .rule => "90".toList
  | .faint => "2".toList
  | .topic => "1;36".toList
  | .matched => "32".toList
  | .missed => "31".toList
  | .label => "34".toList
  | .opening => "35".toList
  | .previous | .warning => "33".toList

def paint (color : Bool) (tone : Tone) (text : Text) : Text :=
  if color then "\x1b[".toList ++ tone.code ++ 'm' :: text ++ "\x1b[0m".toList else text

def loadReport (color : Bool) (reports : List Script.Report) : Text :=
  let lines := (reports.map (·.lines)).foldr (· + ·) 0
  let count := paint color .faint ('(' :: Number.natText lines ++ " lines)".toList)
  let head := paint color .matched "loaded".toList ++ ' ' :: Number.natText reports.length
    ++ " script(s) ".toList ++ count
  let warnings := (reports.flatMap (·.warnings)).flatMap fun warning =>
    line ("  ".toList ++ paint color .warning "warning:".toList ++ ' ' :: warning.message)
  line head ++ warnings

def relationReport (color : Bool) (relation : Text) (names : List Text) : Text :=
  if names.isEmpty then []
  else ' ' :: paint color .faint relation ++ ' ' :: Text.join ", ".toList names

def topicReport (color : Bool) (topic : TopicListing) : Text :=
  let head := paint color .topic topic.name ++ relationReport color "includes".toList topic.includes
    ++ relationReport color "inherits".toList topic.inherits
  let patterns :=
    if topic.patterns.isEmpty then line ("    ".toList ++ paint color .faint "(no triggers)".toList)
    else topic.patterns.zipIdx.flatMap fun (pattern, index) =>
      let number := paint color .rule ('[' :: Number.natText index ++ [']'])
      line ("    ".toList ++ number ++ ' ' :: pattern)
  line ("  ".toList ++ head) ++ patterns

def topicsReport (color : Bool) (topics : List TopicListing) : Text :=
  '\n' :: line (paint color .rule "━━━ Sorted triggers ━━━".toList)
    ++ topics.flatMap (topicReport color) ++ ['\n']

/-- The width of the labels of steps. -/
def labelWidth : Nat := 7

def padLeft (width : Nat) (text : Text) : Text :=
  List.replicate (width - text.length) ' ' ++ text

def stepLabel (color : Bool) (step : Step) : Text :=
  let number := Number.natText step.step
  if step.opening then paint color .opening (padLeft labelWidth "begin".toList)
  else if step.viaPrevious then
    paint color .previous (padLeft labelWidth ("prev ".toList ++ number))
  else paint color .label (padLeft labelWidth ("step ".toList ++ number))

def stepMatch (color : Bool) (step : Step) : Text :=
  match step.matched, step.owner with
  | none, _ => paint color .missed "no match".toList
  | some pattern, none => paint color .matched pattern
  | some pattern, some owner =>
    if owner = step.topic then paint color .matched pattern
    else
      paint color .matched pattern ++ ' ' ::
        paint color .faint ("(from ".toList ++ owner ++ [')'])

def stepReport (color : Bool) (step : Step) : Text :=
  let sought := '[' :: step.topic ++ "] \"".toList ++ step.message ++ ['"']
  line ("  ".toList ++ stepLabel color step ++ ' ' :: paint color .faint sought ++ ' ' ::
    paint color .faint ['→'] ++ ' ' :: stepMatch color step)

/-- The trace of a turn that took the time `elapsed`. -/
def traceReport (color : Bool) (elapsed : Text) (answer : Answer) : Text :=
  let reached := ((answer.trace.mainStep?).bind (·.owner)).getD ['-']
  let divider := "  │  ".toList
  let topics := paint color .topic answer.startingTopic ++ " -> ".toList
    ++ paint color .topic reached
  line (paint color .rule "━━━ Trace ━━━".toList)
    ++ answer.trace.steps.flatMap (stepReport color)
    ++ line ("  ".toList ++ paint color .faint "topic:".toList ++ ' ' :: topics ++ divider
      ++ paint color .faint "depth:".toList ++ ' ' :: Number.natText answer.trace.deepest ++ divider
      ++ paint color .faint "time:".toList ++ ' ' :: elapsed)

def replyReport (reply : Text) : Text :=
  line ("Bot: ".toList ++ reply)

end DialogueScript.CommandLine
