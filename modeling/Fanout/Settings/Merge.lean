import Fanout.Json.Value

/-!
Merging of JSON values. Objects merge key by key, anything else replaces what was there, and a
`null` inside an object leaves it alone.
-/
namespace Fanout.Json

def Value.isNull : Value → Bool
  | .null => true
  | _ => false

mutual

/-- `source` laid over `target`. -/
def deepMerge (target : Value) : Value → Value
  | .obj members =>
    match target with
    | .obj base => .obj (mergeMembers base members)
    | _ => .obj members
  | source => source

/-- The members of an object laid over another, one at a time. -/
def mergeMembers (base : Object) : Object → Object
  | [] => base
  | (key, v) :: rest =>
    if v.isNull then mergeMembers base rest
    else
      match base.get? key with
      | some old => mergeMembers (base.insert key (deepMerge old v)) rest
      | none => mergeMembers (base.insert key v) rest

end

end Fanout.Json
