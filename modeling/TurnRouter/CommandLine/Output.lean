import TurnRouter.CommandLine.Load
import TurnRouter.Json.Writer
import TurnRouter.Rule.Check
import TurnRouter.Text.Quoted

/-! # What the command line prints

Reports as indented JSON with the keys in a fixed order, or as text with optional colours, and
the wording of usage and load errors.
-/
namespace TurnRouter.CommandLine

def programName : Text := "botsdk".toList
def versionLine : Text := programName ++ " 0.1.0".toList

def unlines (lines : List Text) : Text := lines.flatMap (· ++ ['\n'])

def help : Text := unlines <| versionLine :: List.map String.toList [
  "",
  "Evaluate bot handler rules against a turn request.",
  "",
  "Usage:",
  "  botsdk [OPTIONS] [--] <rule...>",
  "  botsdk [OPTIONS] --rule <rule> [--rule <rule>...]",
  "",
  "Options:",
  "  -r, --rule <text>            Rule to evaluate. Repeatable.",
  "  --request <file>             Request JSON file ('-' for stdin). Without it the",
  "                               request is read from stdin, or synthesized from",
  "                               --intent/--slot when stdin is a terminal.",
  "  --intent <name>              Intent name for a synthesized IntentRequest.",
  "  --slot <name=value>          Slot for the synthesized intent. Repeatable.",
  "  --session <json>             Session attributes merged into the request,",
  "                               keyed by dotted path.",
  "  --session-default <json>     Value used for absent session paths. Default: null",
  "  --json                       Print reports as JSON.",
  "  --color                      Force ANSI color output.",
  "  --no-color                   Disable ANSI color output.",
  "  -h, --help                   Show this help message.",
  "  -V, --version                Print version information.",
  "",
  "Environment:",
  "  BOTSDK_LOG=<filter>          tracing filter, e.g. botsdk=trace. Default: warn",
  "",
  "Exit codes:",
  "  0  Success.",
  "  1  Internal error.",
  "  2  Invalid arguments or unreadable request."]

def UsageError.message : UsageError → Text
  | missingValue flag => "error: ".toList ++ flag.toList ++ " expects a value".toList
  | slotWithoutValue slot =>
    "error: invalid --slot '".toList ++ slot ++ "' (expected name=value)".toList
  | slotWithoutName slot => "error: invalid --slot '".toList ++ slot ++ "' (empty name)".toList
  | invalidJson flag => "error: invalid JSON for ".toList ++ flag.toList
  | unknownOption arg => "error: unknown option '".toList ++ arg ++ ['\'']
  | noRule => "error: no rule provided\n\n".toList ++ help
  | conflictingRequest => "error: --request cannot be combined with --intent/--slot".toList

def LoadError.message : LoadError → Text
  | unreadable path reason => "error: failed to read '".toList ++ path ++ "': ".toList ++ reason.message
  | invalidRequest => "error: invalid request JSON".toList
  | invalidSessionKey e => "error: invalid --session key: ".toList ++ e.message

/-- How long a report took, as shown and in microseconds. -/
structure Timing where
  text : Text
  micros : Nat

structure TimedReport where
  report : Rule.Report
  timing : Timing

def field (key : String) (value : Json) : Text × Json := (key.toList, value)

def segmentJson (s : Rule.Segment) : Json :=
  .obj [field "kind" (.str (if s.isLiteral then "literal".toList else "code".toList)),
    field "text" (.str s.text)]

def optionJson {α : Type} (f : α → Json) (o : Option α) : Json := o.elim .null f

def reportJson (r : TimedReport) : Json :=
  .obj [
    field "rule" (.str r.report.rule),
    field "tokens" (.arr (r.report.segments.map segmentJson)),
    field "resolved" (optionJson .str r.report.resolved),
    field "matched" (optionJson .bool r.report.matched),
    field "error" (optionJson .str r.report.error),
    field "elapsed" (.ofInt r.timing.micros)]

def jsonOutput (reports : List TimedReport) : Text :=
  unlines [Json.writeLines 0 (.arr (reports.map reportJson))]

/-- A display attribute of the terminal. -/
inductive Style
  | bold
  | dim
  | red
  | green
  | yellow
  | blue
  | cyan
  | gray

def Style.code : Style → Text
  | bold => ['1']
  | dim => ['2']
  | red => ['3', '1']
  | green => ['3', '2']
  | yellow => ['3', '3']
  | blue => ['3', '4']
  | cyan => ['3', '6']
  | gray => ['9', '0']

def escapeSequence (code : Text) : Text := '\x1b' :: '[' :: code ++ ['m']

abbrev Paint := Style → Text → Text

def paint (color : Bool) : Paint := fun style s =>
  if color then escapeSequence style.code ++ s ++ escapeSequence ['0'] else s

def heading (p : Paint) (title : Text) : Text :=
  '\n' :: p .gray ("━━━ ".toList ++ title ++ " ━━━".toList)

def indented (label content : Text) : Text := ' ' :: ' ' :: label ++ ' ' :: content

def segmentLine (p : Paint) (s : Rule.Segment) : Text :=
  "    ".toList ++
    if s.isLiteral then p .blue "literal".toList ++ ' ' :: p .green (Text.quoted s.text)
    else p .cyan "code   ".toList ++ ' ' :: p .dim (Text.quoted s.text)

def verdictText (p : Paint) : Except Rule.Error Bool → Text
  | .ok true => p .bold (p .green "✓ match".toList)
  | .ok false => p .dim "✗ no match".toList
  | .error e => p .red ("✗ error: ".toList ++ e.message)

def segmentLines (p : Paint) (segments : List Rule.Segment) : List Text :=
  if segments.isEmpty then [indented (p .dim "tokens:".toList) (p .dim "(none)".toList)]
  else (' ' :: ' ' :: p .dim "tokens:".toList) :: segments.map (segmentLine p)

def reportLines (p : Paint) (r : TimedReport) : List Text :=
  [indented (p .dim "rule:".toList) (p .bold (Text.quoted r.report.rule))]
    ++ segmentLines p r.report.segments
    ++ (r.report.resolved.map fun s => indented (p .dim "resolved:".toList) (p .yellow s)).toList
    ++ [indented (p .dim "verdict:".toList) (verdictText p r.report.verdict) ++ ' ' :: ' ' ::
      p .dim ('(' :: r.timing.text ++ [')'])]

def place (index : Nat) : Text := '[' :: Text.ofNat index ++ [']']

def turnLines (p : Paint) (turn : Context) : List Text :=
  [heading p "Turn".toList,
    indented (p .dim "type:".toList) (p .blue turn.requestType) ++
      indented (p .dim "│ intent:".toList) (p .cyan (turn.intent.getD ['-']))]

def summaryLines (p : Paint) (reports : List TimedReport) : List Text :=
  let matching := reports.filter (·.report.isMatch)
  let first := reports.findIdx? (·.report.isMatch)
  [heading p "Summary".toList,
    ' ' :: ' ' :: p .green (Text.ofNat matching.length) ++ " of ".toList ++ Text.ofNat reports.length
      ++ " rules matched  │  first match: ".toList
      ++ first.elim (p .dim "none".toList) fun i => p .bold (place i),
    []]

def textOutput (color : Bool) (turn : Context) (reports : List TimedReport) : Text :=
  let p := paint color
  let rules := reports.mapIdx fun i r => heading p ("Rule ".toList ++ place i) :: reportLines p r
  unlines (turnLines p turn ++ rules.flatten ++ summaryLines p reports)

end TurnRouter.CommandLine
