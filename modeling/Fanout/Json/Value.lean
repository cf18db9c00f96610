import Fanout.Json.Number

/-! JSON values. The members of an object stand by ascending key, one to a key. -/
namespace Fanout.Json

inductive Value where
  | null
  | bool (b : Bool)
  | num (n : Number)
  | str (s : String)
  | arr (items : List Value)
  | obj (members : List (String × Value))

instance : Inhabited Value := ⟨.null⟩

abbrev Object := List (String × Value)

namespace Object

/-- The value under a key. -/
def get? : Object → String → Option Value
  | [], _ => none
  | (k, v) :: rest, key => if k = key then some v else get? rest key

/-- Puts a value under a key, in key order, in place of the one that was there. -/
def insert : Object → String → Value → Object
  | [], key, v => [(key, v)]
  | (k, w) :: rest, key, v =>
    if k = key then (key, v) :: rest
    else if key < k then (key, v) :: (k, w) :: rest
    else (k, w) :: insert rest key v

/-- The object with these members; of two under one key the later stays. -/
def ofList (members : List (String × Value)) : Object :=
  members.foldl (fun o m => insert o m.1 m.2) []

theorem get?_insert_self (o : Object) (key : String) (v : Value) :
    get? (insert o key v) key = some v := by
  induction o with
  | nil => simp [insert, get?]
  | cons m rest ih =>
    unfold insert
    split
    · simp [get?]
    · split
      · simp [get?]
      · simp_all [get?]

theorem get?_insert_of_ne (o : Object) {key other : String} (v : Value) (h : other ≠ key) :
    get? (insert o key v) other = get? o other := by
  induction o with
  | nil => simp [insert, get?, h.symm]
  | cons m rest ih =>
    unfold insert
    split
    · rename_i hk
      simp [get?, hk, h.symm]
    · split
      · simp [get?, h.symm]
      · simp [get?, ih]

end Object

mutual

/-- Every object in the value has its keys in strictly ascending order. -/
def Value.Ordered : Value → Prop
  | .arr items => Value.AllOrdered items
  | .obj members => (members.map Prod.fst).Pairwise (· < ·) ∧ Value.MembersOrdered members
  | _ => True

def Value.AllOrdered : List Value → Prop
  | [] => True
  | v :: vs => v.Ordered ∧ Value.AllOrdered vs

def Value.MembersOrdered : List (String × Value) → Prop
  | [] => True
  | (_, v) :: ms => v.Ordered ∧ Value.MembersOrdered ms

end

/-- The string, of a value that is one. -/
def Value.asString? : Value → Option String
  | .str s => some s
  | _ => none

/-- The number, of a value that is an integer without sign that fits 64 bits. -/
def Value.asUnsigned? : Value → Option Nat
  | .num (.int n) => if 0 ≤ n ∧ n ≤ maxUnsigned then some n.toNat else none
  | _ => none

/-- The value of an optional text: nothing is `null`. -/
def Value.ofOption (f : α → Value) : Option α → Value
  | none => .null
  | some a => f a

def Value.nat (n : Nat) : Value := .num (.int n)

end Fanout.Json
