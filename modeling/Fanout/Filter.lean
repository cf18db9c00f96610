import Fanout.Event
import Fanout.Text.Search

/-! Filters: which events a subscriber wants. -/
namespace Fanout

/-- Which event types a filter lets through. -/
inductive TypePattern where
  | any
  | exact (type : String)
  /-- Every type with this name and a dot in front. -/
  | below (parent : String)
  deriving DecidableEq, Hashable

/-- Why a filter is refused. -/
inductive FilterError where
  | emptyPattern
  | misplacedWildcard (pattern : String)
  | domainWithoutOrganization
  | emptyScope (name : String)
  deriving DecidableEq

def FilterError.message : FilterError → String
  | .emptyPattern => "type_pattern must not be empty"
  | .misplacedWildcard p => "type_pattern '" ++ p ++ "' may only use a trailing '.*' wildcard"
  | .domainWithoutOrganization => "domain_id requires organization_id"
  | .emptyScope name => name ++ " must not be empty when present"

namespace TypePattern

/-- What ends a pattern for all types below a name. -/
def wildcardTail : List Char := ['.', '*']

/-- Reads a pattern. None at all is any type, as is a lone star. -/
def parse : Option String → Except FilterError TypePattern
  | none => .ok .any
  | some raw =>
    let cs := raw.toList
    if cs.isEmpty then .error .emptyPattern
    else if cs = ['*'] then .ok .any
    else match Text.beforeSuffix? wildcardTail cs with
      | some parent =>
        if parent.isEmpty || parent.contains '*' || Text.hasEmptySegment parent then
          .error (.misplacedWildcard raw)
        else .ok (.below (String.ofList parent))
      | none => if cs.contains '*' then .error (.misplacedWildcard raw) else .ok (.exact raw)

/-- The pattern as it is written. Any type is written by leaving the pattern out. -/
def write? : TypePattern → Option String
  | .any => none
  | .exact t => some t
  | .below p => some (p ++ ".*")

/-- The pattern as it is shown. -/
def display : TypePattern → String
  | .any => "*"
  | .exact t => t
  | .below p => p ++ ".*"

/-- Whether the pattern lets an event type through. -/
def accepts : TypePattern → String → Bool
  | .any, _ => true
  | .exact t, type => t == type
  | .below p, type =>
    match Text.afterHead? p.toList type.toList with
    | some ('.' :: _ :: _) => true
    | _ => false

end TypePattern

/-- A filter as it is written: nothing is checked yet. -/
structure FilterSpec where
  typePattern : Option String := none
  organization : Option String := none
  domain : Option String := none
  deriving DecidableEq

namespace FilterSpec

def members (s : FilterSpec) : List (String × Json.Value) :=
  (s.typePattern.map fun p => ("type_pattern", .str p)).toList ++
    Event.scopeMembers s.organization s.domain

/-- The text form of a filter. -/
def encode (s : FilterSpec) : String := Json.renderMembers s.members

/-- The filter as a value, with its members by key. -/
def toValue (s : FilterSpec) : Json.Value := .obj (Json.Object.ofList s.members)

def shape : Json.Shape FilterSpec where
  name := "FilterSpec"
  fields :=
    [.default "type_pattern" (.optional .string) fun p s => { s with typePattern := p },
      .default "organization_id" (.optional .string) fun o s => { s with organization := o },
      .default "domain_id" (.optional .string) fun d s => { s with domain := d }]
  blank := {}

end FilterSpec

structure Filter where
  pattern : TypePattern
  organization : Option String := none
  domain : Option String := none
  deriving DecidableEq, Hashable

namespace Filter

/-- The first rule for filters that this one breaks. -/
def check (f : Filter) : Except FilterError Unit :=
  if f.pattern = .exact "" ∨ f.pattern = .below "" then .error .emptyPattern
  else if f.organization = some "" then .error (.emptyScope "organization_id")
  else if f.domain = some "" then .error (.emptyScope "domain_id")
  else if f.domain.isSome ∧ f.organization.isNone then .error .domainWithoutOrganization
  else .ok ()

/-- A filter that keeps the rules. -/
def make (pattern : TypePattern) (organization domain : Option String) :
    Except FilterError Filter := do
  let f : Filter := ⟨pattern, organization, domain⟩
  f.check
  .ok f

def ofSpec (s : FilterSpec) : Except FilterError Filter := do
  make (← TypePattern.parse s.typePattern) s.organization s.domain

def toSpec (f : Filter) : FilterSpec := ⟨f.pattern.write?, f.organization, f.domain⟩

/-- A filter from its text form. -/
def decode (text : String) : Except Json.Error Filter :=
  FilterSpec.shape.decoder.decodeChecked
    (fun s => (ofSpec s).mapError fun e => .broken e.message) text

/-- Whether every event gets through. -/
def isFirehose (f : Filter) : Bool :=
  f.pattern == .any && f.organization.isNone && f.domain.isNone

def display (f : Filter) : String :=
  f.pattern.display ++ (f.organization.elim "" (" org=" ++ ·)) ++
    (f.domain.elim "" (" domain=" ++ ·))

/-- A scope that a filter names has to be that of the event. -/
def acceptsScope (wanted actual : Option String) : Bool := wanted.isNone || wanted == actual

/-- Whether the filter lets an event through. -/
def accepts (f : Filter) (e : Event) : Bool :=
  f.pattern.accepts e.type && acceptsScope f.organization e.organization &&
    acceptsScope f.domain e.domain

end Filter

end Fanout
