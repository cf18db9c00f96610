import Fanout.Text.Search

/-! Log records and the questions a test asks about captured ones. -/
namespace Fanout

inductive Level where
  | trace
  | debug
  | info
  | warn
  | error
  deriving DecidableEq

def Level.name : Level → String
  | .trace => "TRACE"
  | .debug => "DEBUG"
  | .info => "INFO"
  | .warn => "WARN"
  | .error => "ERROR"

def Level.all : List Level := [.trace, .debug, .info, .warn, .error]

/-- The graver a level, the higher its rank. -/
def Level.rank : Level → Nat
  | .trace => 0
  | .debug => 1
  | .info => 2
  | .warn => 3
  | .error => 4

/-- The level of this name, in whatever case. -/
def Level.ofName? (s : String) : Option Level :=
  all.find? fun l => l.name.toList.map Char.toLower == s.toList.map Char.toLower

/-- One record: its fields stand in the order given. -/
structure LogRecord where
  level : Level
  message : String
  fields : List (String × String) := []

namespace LogRecord

def warn (message : String) (fields : List (String × String)) : LogRecord :=
  ⟨.warn, message, fields⟩

def error (message : String) (fields : List (String × String)) : LogRecord :=
  ⟨.error, message, fields⟩

end LogRecord

/-- Records captured so far, the oldest first. -/
structure LogCapture where
  records : List LogRecord := []

namespace LogCapture

def emit (c : LogCapture) (r : LogRecord) : LogCapture := ⟨c.records ++ [r]⟩

def size (c : LogCapture) : Nat := c.records.length

/-- The first record with this level and message. -/
def find? (c : LogCapture) (level : Level) (message : String) : Option LogRecord :=
  c.records.find? fun r => r.level == level && r.message == message

/-- Whether some record with this level holds the text in its message. -/
def has (c : LogCapture) (level : Level) (text : String) : Bool :=
  c.records.any fun r => r.level == level && Text.holds text.toList r.message.toList

/-- The records whose first field of this name has this value. -/
def withField (c : LogCapture) (name value : String) : List LogRecord :=
  c.records.filter fun r => r.fields.lookup name == some value

def countAt (c : LogCapture) (level : Level) : Nat :=
  (c.records.filter fun r => r.level == level).length

def clear (_ : LogCapture) : LogCapture := {}

end LogCapture

/-- How records are written. -/
inductive LogFormat where
  | compact
  | json
  deriving DecidableEq

/-- The format with this name, in whatever case. Unknown names are the compact format. -/
def LogFormat.ofName (name : String) : LogFormat :=
  if name.toList.map Char.toLower = "json".toList then .json else .compact

def LogFormat.name : LogFormat → String
  | .compact => "compact"
  | .json => "json"

end Fanout
