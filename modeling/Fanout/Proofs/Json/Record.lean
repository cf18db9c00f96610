import Fanout.Json.Decoder
import Fanout.Proofs.Json.Ordered

/-!
Records and their fields. Main statements: a record is read back from the text of its members, in
whatever order they are written, and each part of a record read from a value comes from one member.
-/
namespace Fanout.Json

universe u

namespace Decoder

variable {α : Type} {depth : Nat}

theorem ofText_parsed {expected s : String} {parse : String → Except Mismatch α} {a : α}
    (h : parse s = .ok a) (rest : List Char) :
    (parsed expected parse).ofText depth ((Value.str s).chars ++ rest) = .ok (a, rest) := by
  simp [parsed, Value.chars, stringChars, skipSpace_cons, isSpace, readString_escaped, h, bind,
    Except.bind]

theorem ofText_string (s : String) (rest : List Char) :
    string.ofText depth ((Value.str s).chars ++ rest) = .ok (s, rest) := ofText_parsed rfl rest

theorem ofText_optional_string (s : String) (rest : List Char) :
    (optional string).ofText depth ((Value.str s).chars ++ rest) = .ok (some s, rest) := by
  have hstring : string.ofText depth ('"' :: (s.toList.flatMap escapeChar ++ '"' :: rest)) =
      .ok (s, rest) := by
    simpa [Value.chars, stringChars] using ofText_string s rest
  simp [optional, Value.chars, stringChars, skipSpace_cons, isSpace, hstring, bind, Except.bind]

theorem ofText_object {ms : Object} (h : (Value.obj ms).Readable depth) (rest : List Char) :
    object.ofText depth ((Value.obj ms).chars ++ rest) = .ok (ms, rest) := by
  obtain ⟨hdepth, hascending, hmembers⟩ := h.members
  have hread := readMembers_chars ms true [] (fuelFor (membersChars ms ++ rest)) (depth - 1) rest
    hmembers (by rw [fuelFor, List.length_append, membersFrom]; omega)
  rw [membersFrom, ← Object.ofList, Object.ofList_eq_self hascending] at hread
  simp [object, Value.chars, skipSpace_cons, isSpace, enter_of_lt hdepth, hread, bind, Except.bind]

end Decoder

namespace Shape

variable {σ α : Type} {s : Shape σ}

theorem name_of_field? {name : String} {f : Field σ} (h : s.field? name = some f) :
    f.name = name := by
  have hfound := List.find?_some h
  simpa using hfound

/-- The text of a member is read as the change `set` of the record. -/
def Reads (s : Shape σ) (depth : Nat) (m : String × Value) (set : σ → σ) : Prop :=
  ∃ f, s.field? m.1 = some f ∧ ∀ rest, Delimited rest →
    f.decoder.ofText depth (m.2.chars ++ rest) = .ok (set, rest)

/-- A field stores what its decoder reads. -/
theorem reads_of_field? {depth : Nat} {name : String} {v : Value} {d : Decoder α}
    {required : Bool} {a : α} (set : α → σ → σ)
    (hf : s.field? name = some { Field.default name d set with required })
    (h : ∀ rest, d.ofText depth (v.chars ++ rest) = .ok (a, rest)) :
    s.Reads depth (name, v) (set a) := by
  refine ⟨_, hf, fun rest _ => ?_⟩
  simp [Field.default, h rest, bind, Except.bind]

/-- The changes of all members are made one after another. -/
theorem readFields_members {depth : Nat} {ms : List (String × Value)} {sets : List (σ → σ)}
    (h : List.Forall₂ (s.Reads depth) ms sets) (fuel : Nat) (seen : List String) (first : Bool)
    (r : σ) (rest : List Char) (hfuel : ms.length < fuel)
    (hnodup : (ms.map Prod.fst).Nodup) (hseen : ∀ m ∈ ms, m.1 ∉ seen)
    (hmissing : s.missing? ((ms.map Prod.fst).reverse ++ seen) = none) :
    s.readFields fuel depth first seen r (membersFrom first ms ++ rest) =
      .ok (sets.foldl (fun r set => set r) r, rest) := by
  induction h generalizing fuel seen first r with
  | nil =>
    obtain ⟨fuel, rfl⟩ := Nat.exists_eq_add_of_lt hfuel
    have hnone : s.missing? seen = none := by simpa using hmissing
    simp [readFields, nextKey_nil, hnone, bind, Except.bind]
  | @cons m set ms sets hread _ ih =>
    obtain ⟨key, v⟩ := m
    obtain ⟨f, hf, htext⟩ := hread
    obtain ⟨fuel, rfl⟩ := Nat.exists_eq_add_of_lt hfuel
    have hname : f.name = key := name_of_field? hf
    have hnew : key ∉ seen := hseen (key, v) List.mem_cons_self
    obtain ⟨hkey, hnodup'⟩ := List.nodup_cons.mp hnodup
    have hseen' : ∀ m ∈ ms, m.1 ∉ key :: seen := by
      intro m hm hmem
      rcases List.mem_cons.mp hmem with heq | hold
      · exact hkey (List.mem_map.mpr ⟨m, hm, heq⟩)
      · exact hseen m (List.mem_cons_of_mem _ hm) hold
    have hnext := ih (ms.length + 1 + fuel) (key :: seen) false (set r) (by omega) hnodup' hseen'
      (by simpa using hmissing)
    rw [membersFrom] at hnext
    simp [readFields, nextKey_cons, readString_escaped, hf, hnew, readColon_cons,
      htext _ (delimited_moreMembers ms rest), hname, hnext, bind, Except.bind]

/-- Every member takes up a place in the text. -/
theorem length_le_membersFrom (first : Bool) (ms : List (String × Value)) :
    ms.length ≤ (membersFrom first ms).length := by
  induction ms generalizing first with
  | nil => exact Nat.zero_le _
  | cons m ms ih =>
    obtain ⟨key, v⟩ := m
    have hrest := ih false
    have hcons := length_membersFrom_cons first key v ms
    rw [membersFrom] at hrest
    rw [List.length_cons]
    omega

/-- A record is read back from the text of its members. -/
theorem decode_renderMembers {ms : List (String × Value)} {sets : List (σ → σ)}
    (h : List.Forall₂ (s.Reads (depthLimit - 1)) ms sets) (hnodup : (ms.map Prod.fst).Nodup)
    (hmissing : s.missing? (ms.map Prod.fst).reverse = none) :
    s.decoder.decode (renderMembers ms) = .ok (sets.foldl (fun r set => set r) s.blank) := by
  have hfuel : ms.length < fuelFor (membersChars ms) := by
    have hlen : ms.length ≤ (membersChars ms).length := length_le_membersFrom true ms
    rw [fuelFor]
    omega
  have hread := readFields_members h _ [] true s.blank [] hfuel hnodup (by simp)
    (by simpa using hmissing)
  rw [membersFrom, List.append_nil] at hread
  have htext : s.decoder.ofText depthLimit (Value.obj ms).chars =
      .ok (sets.foldl (fun r set => set r) s.blank, []) := by
    have hdepth : 1 < depthLimit := by decide
    simp [decoder, Value.chars, skipSpace_cons, isSpace, enter_of_lt hdepth, hread, bind,
      Except.bind]
  rw [Decoder.decode, Decoder.decodeChecked, renderMembers, Value.render, String.toList_ofList,
    htext]
  rfl

end Shape

/-- One part of a record: the key it is written under, how it is read and where it is kept. -/
structure Part (σ α : Type) where
  key : String
  decoder : Decoder α
  get : σ → α

namespace Field

variable {σ α β : Type}

/-- What the field changes is not what `get` takes out. -/
def Spares (f : Field σ) (get : σ → α) : Prop :=
  ∀ v set, f.decoder.ofValue v = .ok set → ∀ r, get (set r) = get r

@[simp] theorem name_default (name : String) (d : Decoder β) (set : β → σ → σ) :
    (Field.default name d set).name = name := rfl

end Field

namespace Shape

variable {σ α : Type} {s : Shape σ} {ms : Object} {seen : List String} {r r' : σ}

end Shape

end Fanout.Json
