import Fanout.Json.Number
import Fanout.Settings.Basic

/-! The words of a command line and what they ask for. They are read from left to right; the first one
that asks for help or breaks a rule settles the matter. -/
namespace Fanout.CommandLine

structure ServeOptions where
  host : Option String := none
  port : Option Nat := none
  noMetrics : Bool := false
  deriving DecidableEq

structure WatchOptions where
  url : Option String := none
  typePattern : Option String := none
  organization : Option String := none
  domain : Option String := none
  deriving DecidableEq

inductive Command where
  | serve (o : ServeOptions)
  | watch (o : WatchOptions)
  deriving DecidableEq

structure Invocation where
  /-- The settings file, if it is not the usual one. -/
  settings : Option String := none
  command : Command
  deriving DecidableEq

/-- Why there is nothing to run. -/
inductive Stop where
  | help
  | usage
  deriving DecidableEq

/-- Help is a success, and a broken rule is not. -/
def Stop.exitCode : Stop → Nat
  | .help => 0
  | .usage => 2

inductive Word where
  /-- Two dashes: only plain words follow. -/
  | escape
  /-- An option by its name, with the value after an equals sign. -/
  | long (name : String) (value : Option String)
  /-- One dash and letters. -/
  | short (letters : List Char)
  | plain
  deriving DecidableEq

/-- Splits at the first equals sign. -/
def splitValue (cs : List Char) : String × Option String :=
  match cs.dropWhile (· != '=') with
  | _ :: value => (String.ofList (cs.takeWhile (· != '=')), some (String.ofList value))
  | [] => (String.ofList cs, none)

def Word.ofText (s : String) : Word :=
  match s.toList with
  | ['-', '-'] => .escape
  | '-' :: '-' :: cs => let (name, value) := splitValue cs; .long name value
  | ['-'] => .plain
  | '-' :: cs => .short cs
  | _ => .plain

/-- What an option takes. -/
inductive Arity where
  | none
  /-- A value that passes a test. -/
  | value (accepts : String → Bool)

structure OptionRule where
  name : String
  arity : Arity

/-- Options given so far; a flag has an empty value. -/
abbrev Given := List (String × String)

/-- Notes an option, which may be given once. -/
def note (rule : OptionRule) (value : String) (given : Given) : Except Stop Given :=
  let ok := match rule.arity with
    | .none => true
    | .value accepts => accepts value
  if ok && (given.lookup rule.name).isNone then .ok (given ++ [(rule.name, value)])
  else .error .usage

/-- Options, and the words after them. -/
structure Scan where
  given : Given
  rest : List String
  escaped : Bool := false

/-- Reads options up to the first plain word. A value may stand in a word of its own, which then does
not begin with a dash. -/
def scan (rules : List OptionRule) : (pending : Option OptionRule) → Given → List String →
    Except Stop Scan
  | none, given, [] => .ok { given, rest := [] }
  | some _, _, [] => .error .usage
  | some rule, given, word :: rest =>
    match Word.ofText word with
    | .plain => do scan rules none (← note rule word given) rest
    | _ => .error .usage
  | none, given, word :: rest =>
    match Word.ofText word with
    | .escape => .ok { given, rest, escaped := true }
    | .plain => .ok { given, rest := word :: rest }
    | .short ('h' :: _) => .error .help
    | .short _ => .error .usage
    | .long "help" none => .error .help
    | .long name value =>
      match rules.find? (·.name == name) with
      | none => .error .usage
      | some rule =>
        match rule.arity, value with
        | .none, none => do scan rules none (← note rule "" given) rest
        | .none, some _ => .error .usage
        | .value _, some v => do scan rules none (← note rule v given) rest
        | .value _, none => scan rules (some rule) given rest

/-- A port, with at most one sign. -/
def portOf? (s : String) : Option Nat :=
  let (negative, ds) := match s.toList with
    | '-' :: ds => (true, ds)
    | '+' :: ds => (false, ds)
    | ds => (false, ds)
  let n := ds.foldl (fun n c => n * 10 + Json.digitValue c) 0
  if ds.isEmpty || !ds.all Json.isDigit || (negative && n != 0) || maxPort < n then none else some n

def anyText : Arity := .value fun _ => true

/-- A settings file can be named with every command. -/
def settingsRule : OptionRule := ⟨"settings", .value fun s => !s.isEmpty⟩

def serveRules : List OptionRule :=
  [settingsRule, ⟨"host", anyText⟩, ⟨"port", .value fun s => (portOf? s).isSome⟩, ⟨"no-metrics", .none⟩]

def watchRules : List OptionRule :=
  [settingsRule, ⟨"url", anyText⟩, ⟨"type", anyText⟩, ⟨"organization", anyText⟩, ⟨"domain", anyText⟩]

def serveCommand (given : Given) : Command :=
  .serve ⟨given.lookup "host", (given.lookup "port").bind portOf?, (given.lookup "no-metrics").isSome⟩

def watchCommand (given : Given) : Command :=
  .watch ⟨given.lookup "url", given.lookup "type", given.lookup "organization", given.lookup "domain"⟩

/-- The options of a command, after which nothing may stand. -/
def commandOptions (rules : List OptionRule) (words : List String) : Except Stop Given := do
  let s ← scan rules none [] words
  if s.rest.isEmpty then .ok s.given else .error .usage

/-- What is said to those who ask, or break a rule. -/
def helpText : String :=
  "\n".intercalate
    ["Herald event broadcaster", "", "Usage: herald [OPTIONS] <COMMAND>", "", "Commands:",
      "  serve  Run the broadcast server", "  watch  Subscribe to a server and print events to stdout",
      "  help   Print this message or the help of the given subcommand(s)", "", "Options:",
      "      --settings <SETTINGS>  Settings file (defaults to `~/.herald/settings.json`)",
      "  -h, --help                 Print help", "", "serve:",
      "      --host <HOST>          Host to bind (overrides settings)",
      "      --port <PORT>          Port to bind, 0 for auto-assign (overrides settings)",
      "      --no-metrics           Do not install the Prometheus recorder", "", "watch:",
      "      --url <URL>            Broadcast endpoint (overrides settings)",
      "      --type <PATTERN>       Event type pattern: exact type, `prefix.*`, or `*`",
      "      --organization <ORGANIZATION>  Only events in this organization",
      "      --domain <DOMAIN>      Only events in this domain (requires `--organization`)"]

/-- What to do about a request for help on something. -/
def helpOn : List String → Stop
  | [] | ["serve"] | ["watch"] | ["help"] => .help
  | _ => .usage

/-- Reads the words after the program's name. A settings file named after the command wins over one
named before it. -/
def parse (words : List String) : Except Stop Invocation := do
  let top ← scan [settingsRule] none [] words
  let build (rules : List OptionRule) (make : Given → Command) (words : List String) := do
    let given ← commandOptions rules words
    .ok ⟨given.lookup "settings" <|> top.given.lookup "settings", make given⟩
  if top.escaped then .error .usage
  else match top.rest with
    | "serve" :: words => build serveRules serveCommand words
    | "watch" :: words => build watchRules watchCommand words
    | "help" :: words => .error (helpOn words)
    | _ => .error .usage

end Fanout.CommandLine
