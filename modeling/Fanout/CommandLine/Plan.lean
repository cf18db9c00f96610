import Fanout.Client.Config
import Fanout.CommandLine.Arguments
import Fanout.CommandLine.Report
import Fanout.Filter
import Fanout.Server.Config
import Fanout.Settings.Load

/-! From the words of a command line to what is to be run. -/
namespace Fanout

/-- An error and the one inside it, if it has one. -/
def SettingsError.causes (e : SettingsError) : List String :=
  e.message :: match e with
    | .read _ cause => [cause]
    | .parse _ e | .shape e => [e.message]
    | .invalidValue _ => []

namespace CommandLine

/-- What is to be run. -/
inductive Plan where
  | serve (config : ServerConfig) (queueCapacity : Nat) (metrics : Bool) (logging : LoggingSettings)
  | watch (config : SessionConfig) (filter : Filter)

/-- Settings with the options of a command laid over them. -/
def servePlan (s : Settings) (o : ServeOptions) : Plan :=
  let config := ServerConfig.ofSettings s
  .serve { config with host := o.host.getD config.host, port := o.port.getD config.port }
    s.bus.publishQueueCapacity (!o.noMetrics) s.logging

/-- A session that watches for the events its options ask for. -/
def watchPlan (s : Settings) (o : WatchOptions) (sessionId : String) : Except Report Plan := do
  let filter ← (Filter.ofSpec ⟨o.typePattern, o.organization, o.domain⟩).mapError fun e =>
    ⟨"Invalid filter", [e.message]⟩
  let config := SessionConfig.ofSettings s.client sessionId
  .ok (.watch { config with url := o.url.getD config.url } filter)

/-- The path of the settings file. -/
def Invocation.settingsPath (i : Invocation) (home : Option String) : String :=
  i.settings.getD (Fanout.settingsPath home)

/-- Plans a run with the settings file as it was found at `path`. -/
def Invocation.plan (i : Invocation) (path : String) (file : SettingsFile) (env : Environment)
    (sessionId : String) : Except Report Plan := do
  let settings ← (loadSettings path file env).1.mapError fun e =>
    ⟨"Failed to load settings", e.causes⟩
  match i.command with
  | .serve o => .ok (servePlan settings o)
  | .watch o => watchPlan settings o sessionId

end CommandLine

end Fanout
