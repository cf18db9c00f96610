import Fanout.Json.Reader
import Fanout.Settings.Environment
import Fanout.Settings.Merge

/-! Settings from the compiled defaults, a file laid over them and the environment. -/
namespace Fanout

/-- Why settings cannot be had. -/
inductive SettingsError where
  | read (path cause : String)
  | parse (path : String) (e : Json.Error)
  | shape (e : Json.Error)
  | invalidValue (rule : String)

def SettingsError.message : SettingsError → String
  | .read path cause => "cannot read " ++ path ++ ": " ++ cause
  | .parse path e => path ++ " is not valid JSON: " ++ e.message
  | .shape e => "settings do not match the expected shape: " ++ e.message
  | .invalidValue rule => "invalid settings value: " ++ rule

/-- The rules that settings have to keep, with whether these break them. -/
def Settings.rules (s : Settings) : List (Bool × String) :=
  [(s.bus.publishQueueCapacity == 0, "bus.publishQueueCapacity must be > 0"),
    (s.connection.outboundCapacity == 0, "connection.outboundCapacity must be > 0"),
    (s.client.outboundCapacity == 0, "client.outboundCapacity must be > 0"),
    (s.server.heartbeatIntervalMs == 0, "server.heartbeatIntervalMs must be > 0"),
    (s.client.heartbeatIntervalMs == 0, "client.heartbeatIntervalMs must be > 0"),
    (s.client.maxMissedPongs == 0, "client.maxMissedPongs must be > 0"),
    (decide (s.client.backoff.maxDelayMs < s.client.backoff.baseDelayMs),
      "client.backoff.maxDelayMs must be >= baseDelayMs")]

/-- The first rule broken. -/
def Settings.check (s : Settings) : Except SettingsError Unit :=
  match s.rules.find? Prod.fst with
  | some (_, rule) => .error (.invalidValue rule)
  | none => .ok ()

/-- The settings file as it was found. -/
inductive SettingsFile where
  | missing
  | unreadable (cause : String)
  | text (content : String)

/-- The file from its bytes, which have to be text. -/
def SettingsFile.ofBytes (bytes : ByteArray) : SettingsFile :=
  match String.fromUTF8? bytes with
  | some s => .text s
  | none => .unreadable "stream did not contain valid UTF-8"

/-- The defaults with the file laid over them, as a value. -/
def mergedValue (path : String) (file : SettingsFile) : Except SettingsError Json.Value :=
  let defaults := ({} : Settings).toValue
  match file with
  | .missing => .ok defaults
  | .unreadable cause => .error (.read path cause)
  | .text content => do
    let user ← (Json.Value.parse content).mapError (SettingsError.parse path)
    .ok (Json.deepMerge defaults user)

/-- The defaults with the file laid over them. -/
def settingsOfFile (path : String) (file : SettingsFile) : Except SettingsError Settings := do
  (Settings.shape.decoder.decodeValue (← mergedValue path file)).mapError .shape

/-- Loads settings; `path` is what errors call the file. Records are kept also on failure. -/
def loadSettings (path : String) (file : SettingsFile) (env : Environment) :
    Except SettingsError Settings × List LogRecord :=
  match settingsOfFile path file with
  | .error e => (.error e, [])
  | .ok s =>
    let (s, records) := s.override env
    (s.check.map fun _ => s, records)

/-- Joins a directory and a name. -/
def joinPath (dir name : String) : String :=
  if dir.toList.isEmpty || dir.toList.getLast? == some '/' then dir ++ name else dir ++ "/" ++ name

/-- Where the settings file lies for a home directory, which may be unknown. -/
def settingsPath (home : Option String) : String :=
  joinPath (joinPath (home.getD "/tmp") ".herald") "settings.json"

end Fanout
