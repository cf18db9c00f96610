import Fanout.Json.Number

/-! How the program tells why it failed. -/
namespace Fanout.CommandLine

/-- What could not be done, and why, the nearest cause first. -/
structure Report where
  headline : String
  causes : List String := []
  deriving DecidableEq

namespace Report

/-- A cause with its lines under one another. -/
def indented (first rest cause : String) : String :=
  first ++ ("\n" ++ rest).intercalate (cause.splitOn "\n")

/-- A cause with its number, right-aligned. -/
def numbered (n : Nat) (cause : String) : String :=
  let digits := Json.natDigits n
  indented (String.ofList (List.replicate (5 - digits.length) ' ' ++ digits) ++ ": ") "       " cause

/-- Several causes are numbered. -/
def causeLines : List String → List String
  | [cause] => [indented "    " "    " cause]
  | causes => causes.zipIdx.map fun (cause, n) => numbered n cause

def render (r : Report) : String :=
  "Error: " ++ r.headline ++
    if r.causes.isEmpty then ""
    else "\n\nCaused by:\n" ++ "\n".intercalate (causeLines r.causes)

end Report

end Fanout.CommandLine
