import Fanout.Log
import Fanout.Settings.Basic

/-!
Overrides of settings by environment variables. A variable with an unusable value is logged and
otherwise ignored.
-/
namespace Fanout

/-- The value of an environment variable, if it is set. -/
abbrev Environment := String → Option String

/-- The words for yes and no, in whatever case. No letter outside of ASCII has one of their letters
as its lower case, so folding ASCII is enough. -/
def parseBool (s : String) : Option Bool :=
  let w := String.ofList (s.toList.map Char.toLower)
  if ["true", "1", "yes", "on"].contains w then some true
  else if ["false", "0", "no", "off"].contains w then some false
  else none

/-- Decimal digits with at most one plus sign in front. -/
def parseNatural (s : String) : Option Nat :=
  let ds := match s.toList with
    | '+' :: r => r
    | cs => cs
  if ds.isEmpty || !ds.all Json.isDigit then none
  else some (ds.foldl (fun n c => n * 10 + Json.digitValue c) 0)

/-- The widths an integer can have. -/
inductive IntegerKind where
  | u16
  | u32
  | u64
  | usize
  deriving DecidableEq

def IntegerKind.name : IntegerKind → String
  | .u16 => "u16"
  | .u32 => "u32"
  | .u64 => "u64"
  | .usize => "usize"

def IntegerKind.max : IntegerKind → Nat
  | .u16 => maxPort
  | .u32 => maxCount
  | .u64 | .usize => Json.maxUnsigned

/-- An integer that fits its kind and lies in the range. -/
def parseRange (kind : IntegerKind) (lo hi : Nat) (s : String) : Option Nat := do
  let n ← parseNatural s
  if n ≤ kind.max ∧ lo ≤ n ∧ n ≤ hi then some n else none

/-- Which setting a variable stands for and what its value has to look like. -/
inductive Override where
  /-- Any text but the empty one. -/
  | text (set : String → Settings → Settings)
  | integer (kind : IntegerKind) (lo hi : Nat) (set : Nat → Settings → Settings)
  | flag (set : Bool → Settings → Settings)
  | policy (set : OverflowPolicy → Settings → Settings)

/-- The variables there are, in the order they are applied. -/
def overrides : List (String × Override) :=
  [("HERALD_HOST", .text fun x s => { s with server.host := x }),
    ("HERALD_PORT", .integer .u16 0 65535 fun x s => { s with server.port := x }),
    ("HERALD_MAX_CONNECTIONS",
      .integer .usize 1 1000000 fun x s => { s with server.maxConnections := x }),
    ("HERALD_HEARTBEAT_INTERVAL_MS",
      .integer .u64 100 600000 fun x s => { s with server.heartbeatIntervalMs := x }),
    ("HERALD_IDLE_TIMEOUT_MS",
      .integer .u64 1000 3600000 fun x s => { s with server.idleTimeoutMs := x }),
    ("HERALD_PUBLISH_QUEUE_CAPACITY",
      .integer .usize 1 1000000 fun x s => { s with bus.publishQueueCapacity := x }),
    ("HERALD_OUTBOUND_CAPACITY",
      .integer .usize 1 1000000 fun x s => { s with connection.outboundCapacity := x }),
    ("HERALD_OVERFLOW_POLICY", .policy fun x s => { s with connection.overflowPolicy := x }),
    ("HERALD_URL", .text fun x s => { s with client.url := x }),
    ("HERALD_MAX_RECONNECT_ATTEMPTS",
      .integer .u32 0 1000 fun x s => { s with client.backoff.maxAttempts := x }),
    ("HERALD_LOG_LEVEL", .text fun x s => { s with logging.level := x }),
    ("HERALD_LOG_JSON",
      .flag fun x s => { s with logging.format := if x then "json" else "compact" })]

/-- A variable whose value is not of its kind. -/
def unusable (name value kind : String) : LogRecord :=
  .warn "invalid env var, ignoring" [("key", name), ("value", value), ("kind", kind)]

/-- What a variable with this value changes, or the record of why it changes nothing. -/
def Override.apply (name value : String) : Override → Except (List LogRecord) (Settings → Settings)
  | .text set => if value.toList.isEmpty then .error [] else .ok (set value)
  | .integer kind lo hi set =>
    match parseRange kind lo hi value with
    | some n => .ok (set n)
    | none => .error [unusable name value kind.name]
  | .flag set =>
    match parseBool value with
    | some b => .ok (set b)
    | none => .error [unusable name value "bool"]
  | .policy set =>
    if value.toList.isEmpty then .error []
    else match OverflowPolicy.ofName? value with
      | some p => .ok (set p)
      | none =>
        .error [.warn "invalid overflow policy, ignoring" [("key", name), ("value", value)]]

/-- One variable applied to settings. -/
def applyOverride (env : Environment) (s : Settings × List LogRecord) (o : String × Override) :
    Settings × List LogRecord :=
  match env o.1 with
  | none => s
  | some value =>
    match o.2.apply o.1 value with
    | .ok change => (change s.1, s.2)
    | .error records => (s.1, s.2 ++ records)

/-- The settings with all variables applied. -/
def Settings.override (env : Environment) (s : Settings) : Settings × List LogRecord :=
  overrides.foldl (applyOverride env) (s, [])

end Fanout
