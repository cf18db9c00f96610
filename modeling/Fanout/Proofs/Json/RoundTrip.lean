import Fanout.Proofs.Json.Object
import Fanout.Proofs.Json.Scalar

/-!
Reading a value back from its text. Main statement: a value in key order whose numbers are integers
of 64 bits is read back, if its brackets do not nest too deep.
-/
namespace Fanout.Json

mutual

/-- Every number in the value is an integer that fits 64 bits, with or without sign. -/
def Value.Whole : Value → Prop
  | .num (.int n) => -(maxNegative : Int) ≤ n ∧ n ≤ maxUnsigned
  | .num (.float _) => False
  | .arr items => Value.AllWhole items
  | .obj members => Value.MembersWhole members
  | _ => True

def Value.AllWhole : List Value → Prop
  | [] => True
  | v :: vs => v.Whole ∧ Value.AllWhole vs

def Value.MembersWhole : List (String × Value) → Prop
  | [] => True
  | (_, v) :: ms => v.Whole ∧ Value.MembersWhole ms

end

mutual

def Value.depth : Value → Nat
  | .arr items => Value.itemsDepth items + 1
  | .obj members => Value.membersDepth members + 1
  | _ => 0

def Value.itemsDepth : List Value → Nat
  | [] => 0
  | v :: vs => max v.depth (Value.itemsDepth vs)

def Value.membersDepth : List (String × Value) → Nat
  | [] => 0
  | (_, v) :: ms => max v.depth (Value.membersDepth ms)

end

namespace Value

theorem allOrdered_iff {vs : List Value} : AllOrdered vs ↔ ∀ v ∈ vs, v.Ordered := by
  induction vs with
  | nil => simp [AllOrdered]
  | cons v vs ih => simp [AllOrdered, ih]

theorem membersOrdered_iff {ms : List (String × Value)} :
    MembersOrdered ms ↔ ∀ m ∈ ms, m.2.Ordered := by
  induction ms with
  | nil => simp [MembersOrdered]
  | cons m ms ih => simp only [MembersOrdered, ih, List.forall_mem_cons]

theorem allWhole_iff {vs : List Value} : AllWhole vs ↔ ∀ v ∈ vs, v.Whole := by
  induction vs with
  | nil => simp [AllWhole]
  | cons v vs ih => simp [AllWhole, ih]

theorem membersWhole_iff {ms : List (String × Value)} :
    MembersWhole ms ↔ ∀ m ∈ ms, m.2.Whole := by
  induction ms with
  | nil => simp [MembersWhole]
  | cons m ms ih => simp only [MembersWhole, ih, List.forall_mem_cons]

theorem itemsDepth_le_iff {vs : List Value} {n : Nat} :
    itemsDepth vs ≤ n ↔ ∀ v ∈ vs, v.depth ≤ n := by
  induction vs with
  | nil => simp [itemsDepth]
  | cons v vs ih => simp only [itemsDepth, Nat.max_le, ih, List.forall_mem_cons]

theorem membersDepth_le_iff {ms : List (String × Value)} {n : Nat} :
    membersDepth ms ≤ n ↔ ∀ m ∈ ms, m.2.depth ≤ n := by
  induction ms with
  | nil => simp [membersDepth]
  | cons m ms ih => simp only [membersDepth, Nat.max_le, ih, List.forall_mem_cons]

/-- A value that its text determines for a reader with this depth left. -/
structure Readable (depth : Nat) (v : Value) : Prop where
  ordered : v.Ordered
  whole : v.Whole
  depth_lt : v.depth < depth

namespace Readable

variable {d : Nat}

theorem str (s : String) : Readable (d + 1) (.str s) :=
  ⟨by simp [Ordered], by simp [Whole], by simp [depth]⟩

theorem nat {n : Nat} (h : n ≤ maxUnsigned) : Readable (d + 1) (.nat n) where
  ordered := by simp [Value.nat, Ordered]
  whole := by
    rw [Value.nat, Whole]
    omega
  depth_lt := by simp [Value.nat, Value.depth]

theorem items {vs : List Value} (h : Readable d (.arr vs)) :
    1 < d ∧ ∀ v ∈ vs, Readable (d - 1) v := by
  obtain ⟨ho, hw, hd⟩ := h
  rw [Ordered, allOrdered_iff] at ho
  rw [Whole, allWhole_iff] at hw
  rw [Value.depth] at hd
  have hdepth := itemsDepth_le_iff.mp (Nat.le_refl (itemsDepth vs))
  refine ⟨by omega, fun v hv => ⟨ho v hv, hw v hv, ?_⟩⟩
  have := hdepth v hv
  omega

theorem members {ms : List (String × Value)} (h : Readable d (.obj ms)) :
    1 < d ∧ Object.Ascending ms ∧ ∀ m ∈ ms, Readable (d - 1) m.2 := by
  obtain ⟨ho, hw, hd⟩ := h
  rw [Ordered, membersOrdered_iff] at ho
  rw [Whole, membersWhole_iff] at hw
  rw [Value.depth] at hd
  have hdepth := membersDepth_le_iff.mp (Nat.le_refl (membersDepth ms))
  refine ⟨by omega, ho.1, fun m hm => ⟨ho.2 m hm, hw m hm, ?_⟩⟩
  have := hdepth m hm
  omega

theorem obj {ms : List (String × Value)} (ha : Object.Ascending ms)
    (h : ∀ m ∈ ms, Readable (d + 1) m.2) : Readable (d + 2) (.obj ms) where
  ordered := by
    rw [Ordered, membersOrdered_iff]
    exact ⟨ha, fun m hm => (h m hm).ordered⟩
  whole := by
    rw [Whole, membersWhole_iff]
    exact fun m hm => (h m hm).whole
  depth_lt := by
    have hdepth : membersDepth ms ≤ d :=
      membersDepth_le_iff.mpr fun m hm => Nat.le_of_lt_succ (h m hm).depth_lt
    rw [Value.depth]
    omega

end Readable

end Value

theorem skipSpace_cons {c : Char} (h : isSpace c = false) (cs : List Char) :
    skipSpace (c :: cs) = c :: cs := List.dropWhile_cons_of_neg (by simp [h])

theorem intDigits_start (n : Int) :
    ∃ c cs, intDigits n = c :: cs ∧ (c = '-' ∨ isDigit c = true) := by
  cases n with
  | ofNat n =>
    cases h : natDigits n with
    | nil => exact absurd h Nat.toDigits_ne_nil
    | cons c cs => exact ⟨c, cs, h, .inr (isDigit_of_mem_natDigits (h ▸ List.mem_cons_self))⟩
  | negSucc n => exact ⟨'-', _, rfl, .inl rfl⟩

/-- A value starts with a character that is neither blank nor a closing bracket. -/
theorem Value.chars_start {v : Value} (h : v.Whole) :
    ∃ c cs, v.chars = c :: cs ∧ isSpace c = false ∧ c ≠ ']' := by
  cases v with
  | null => exact ⟨_, _, by rw [Value.chars], by decide, by decide⟩
  | bool b => cases b <;> exact ⟨_, _, by rw [Value.chars], by decide, by decide⟩
  | num n =>
    cases n with
    | float x => simp [Value.Whole] at h
    | int n =>
      obtain ⟨c, cs, hc, hstart⟩ := intDigits_start n
      refine ⟨c, cs, by rw [Value.chars, Number.digits, hc], ?_⟩
      rcases hstart with rfl | hdigit
      · decide
      · exact ⟨isSpace_of_isDigit hdigit, ne_of_isDigit hdigit rfl⟩
  | str s => exact ⟨_, _, by rw [Value.chars, stringChars]; rfl, by decide, by decide⟩
  | arr items => exact ⟨_, _, by rw [Value.chars], by decide, by decide⟩
  | obj members => exact ⟨_, _, by rw [Value.chars], by decide, by decide⟩

def itemsFrom : (first : Bool) → List Value → List Char
  | true => itemsChars
  | false => moreItemsChars

def membersFrom : (first : Bool) → List (String × Value) → List Char
  | true => membersChars
  | false => moreMembersChars

theorem delimited_moreItems (vs : List Value) (rest : List Char) :
    Delimited (moreItemsChars vs ++ rest) := by
  cases vs <;> simp [moreItemsChars, Delimited]

theorem delimited_moreMembers (ms : List (String × Value)) (rest : List Char) :
    Delimited (moreMembersChars ms ++ rest) := by
  cases ms <;> simp [moreMembersChars, Delimited]

theorem nextItem_nil (first : Bool) (rest : List Char) :
    nextItem first (itemsFrom first [] ++ rest) = .ok (.done rest) := by
  cases first <;> simp [itemsFrom, itemsChars, moreItemsChars, nextItem, skipSpace_cons, isSpace]

theorem nextItem_cons (first : Bool) {v : Value} (hv : v.Whole) (vs : List Value)
    (rest : List Char) :
    nextItem first (itemsFrom first (v :: vs) ++ rest) =
      .ok (.item (v.chars ++ (moreItemsChars vs ++ rest))) := by
  obtain ⟨c, cs, hc, hspace, hne⟩ := Value.chars_start hv
  have hcomma : isSpace ',' = false := rfl
  cases first with
  | true => simp [itemsFrom, itemsChars, hc, nextItem, skipSpace_cons hspace, hne]
  | false =>
    simp [itemsFrom, moreItemsChars, hc, nextItem, skipSpace_cons hspace, skipSpace_cons hcomma,
      hne]

theorem nextKey_nil (first : Bool) (rest : List Char) :
    nextKey first (membersFrom first [] ++ rest) = .ok (.done rest) := by
  cases first <;>
    simp [membersFrom, membersChars, moreMembersChars, nextKey, skipSpace_cons, isSpace]

theorem nextKey_cons (first : Bool) (k : String) (v : Value) (ms : List (String × Value))
    (rest : List Char) :
    nextKey first (membersFrom first ((k, v) :: ms) ++ rest) =
      .ok (.item (k.toList.flatMap escapeChar ++ '"' ::
        (':' :: (v.chars ++ (moreMembersChars ms ++ rest))))) := by
  have hquote : isSpace '"' = false := rfl
  have hcomma : isSpace ',' = false := rfl
  cases first with
  | true => simp [membersFrom, membersChars, stringChars, nextKey, skipSpace_cons hquote]
  | false =>
    simp [membersFrom, moreMembersChars, stringChars, nextKey, skipSpace_cons hquote,
      skipSpace_cons hcomma]

/-- A number is read by its first character: a digit or a sign. -/
theorem readValue_intDigits {n : Int} (h : (Value.num (.int n)).Whole) {rest : List Char}
    (hr : Delimited rest) (fuel d : Nat) :
    readValue (fuel + 1) d (intDigits n ++ rest) = .ok (.num (.int n), rest) := by
  rw [Value.Whole] at h
  cases n with
  | ofNat n =>
    have hn : n ≤ maxUnsigned := by
      have := h.2
      simp only [Int.ofNat_eq_natCast] at this
      omega
    have hread := readNumber_natDigits false hn hr
    cases hds : natDigits n with
    | nil => exact absurd hds Nat.toDigits_ne_nil
    | cons c cs =>
      have hdigit : isDigit c = true := isDigit_of_mem_natDigits (hds ▸ List.mem_cons_self)
      have hne : ∀ x, isDigit x = false → c ≠ x := fun x hx => ne_of_isDigit hdigit hx
      have hspace := isSpace_of_isDigit hdigit
      rw [hds, List.cons_append] at hread
      rw [intDigits, hds, List.cons_append]
      simp [readValue, skipSpace_cons hspace, hne 'n' rfl, hne 't' rfl, hne 'f' rfl, hne '-' rfl,
        hne '"' rfl, hne '[' rfl, hne '\x7b' rfl, hdigit, hread, finishInteger, bind, Except.bind]
  | negSucc n =>
    have hn : n + 1 ≤ maxNegative := by
      have := h.1
      omega
    have hread := readNumber_natDigits true (Nat.le_trans hn (by decide)) hr
    have hfinish : finishInteger true (n + 1) = .int (Int.negSucc n) := by
      rw [finishInteger, if_neg (by decide), if_neg (by omega)]
      rfl
    rw [hfinish] at hread
    simp [intDigits, readValue, skipSpace_cons, isSpace, hread, bind, Except.bind]

theorem readColon_cons (cs : List Char) : readColon (':' :: cs) = .ok cs := by
  simp [readColon, skipSpace_cons, isSpace]

theorem enter_of_lt {d : Nat} (h : 1 < d) (cs : List Char) : enter d cs = .ok (d - 1) :=
  if_neg (Nat.not_le_of_lt h)

theorem readValue_obj {fuel d : Nat} {ms : List (String × Value)} {rest : List Char} {o : Object}
    (hd : 1 < d)
    (h : readMembers fuel (d - 1) true [] (membersChars ms ++ rest) = .ok (o, rest)) :
    readValue (fuel + 1) d ((Value.obj ms).chars ++ rest) = .ok (.obj o, rest) := by
  simp [Value.chars, readValue, skipSpace_cons, isSpace, enter_of_lt hd, h, bind, Except.bind]

theorem one_le_length_chars {v : Value} (h : v.Whole) : 1 ≤ v.chars.length := by
  obtain ⟨c, cs, hc, -⟩ := Value.chars_start h
  simp [hc]

theorem length_itemsFrom_cons (first : Bool) (v : Value) (vs : List Value) :
    v.chars.length + (moreItemsChars vs).length ≤ (itemsFrom first (v :: vs)).length := by
  cases first <;> simp only [itemsFrom, itemsChars, moreItemsChars, List.length_append,
    List.length_cons] <;> omega

theorem one_le_length_moreItems (vs : List Value) : 1 ≤ (moreItemsChars vs).length := by
  cases vs <;> simp [moreItemsChars]

theorem one_le_length_itemsFrom (first : Bool) (vs : List Value) :
    1 ≤ (itemsFrom first vs).length := by
  cases vs with
  | nil => cases first <;> simp [itemsFrom, itemsChars, moreItemsChars]
  | cons v vs =>
    have := length_itemsFrom_cons first v vs
    have := one_le_length_moreItems vs
    omega

theorem length_membersFrom_cons (first : Bool) (k : String) (v : Value)
    (ms : List (String × Value)) :
    v.chars.length + (moreMembersChars ms).length + 1 ≤
      (membersFrom first ((k, v) :: ms)).length := by
  cases first <;> simp only [membersFrom, membersChars, moreMembersChars, List.length_append,
    List.length_cons] <;> omega

theorem one_le_length_membersFrom (first : Bool) (ms : List (String × Value)) :
    1 ≤ (membersFrom first ms).length := by
  cases ms with
  | nil => cases first <;> simp [membersFrom, membersChars, moreMembersChars]
  | cons m ms =>
    obtain ⟨k, v⟩ := m
    have := length_membersFrom_cons first k v ms
    omega

-- By recursion on the value. The fuel needed is the length of the text, since every step that takes
-- fuel also takes a character.
mutual

theorem readValue_chars : ∀ (v : Value) (fuel d : Nat) (rest : List Char), v.Readable d →
    v.chars.length ≤ fuel → Delimited rest → readValue fuel d (v.chars ++ rest) = .ok (v, rest)
  | v, 0, d, rest, h, hf, _ => absurd (Nat.le_trans (one_le_length_chars h.whole) hf) (by decide)
  | .null, fuel + 1, d, rest, _, _, _ => by
    simp [Value.chars, readValue, skipSpace_cons, isSpace, readIdent, bind, Except.bind]
  | .bool b, fuel + 1, d, rest, _, _, _ => by
    cases b <;> simp [Value.chars, readValue, skipSpace_cons, isSpace, readIdent, bind, Except.bind]
  | .num (.float x), fuel + 1, d, rest, h, _, _ => by
    have := h.whole
    simp [Value.Whole] at this
  | .num (.int n), fuel + 1, d, rest, h, _, hr => by
    rw [Value.chars]
    exact readValue_intDigits h.whole hr fuel d
  | .str s, fuel + 1, d, rest, _, _, _ => by
    simp [Value.chars, stringChars, readValue, skipSpace_cons, isSpace, readString_escaped, bind,
      Except.bind]
  | .arr items, fuel + 1, d, rest, h, hf, _ => by
    obtain ⟨hd, hitems⟩ := h.items
    rw [Value.chars, List.length_cons] at hf
    have hread := readItems_chars items true [] fuel (d - 1) rest hitems (Nat.le_of_succ_le_succ hf)
    rw [itemsFrom] at hread
    simp [Value.chars, readValue, skipSpace_cons, isSpace, enter_of_lt hd, hread, bind, Except.bind]
  | .obj members, fuel + 1, d, rest, h, hf, _ => by
    obtain ⟨hd, ha, hmembers⟩ := h.members
    rw [Value.chars, List.length_cons] at hf
    have hread := readMembers_chars members true [] fuel (d - 1) rest hmembers
      (Nat.le_of_succ_le_succ hf)
    rw [membersFrom, ← Object.ofList, Object.ofList_eq_self ha] at hread
    exact readValue_obj hd hread

theorem readItems_chars : ∀ (vs : List Value) (first : Bool) (acc : List Value) (fuel d : Nat)
    (rest : List Char), (∀ v ∈ vs, v.Readable d) → (itemsFrom first vs).length ≤ fuel →
    readItems fuel d first acc (itemsFrom first vs ++ rest) = .ok (acc.reverse ++ vs, rest)
  | vs, first, acc, 0, d, rest, _, hf =>
    absurd (Nat.le_trans (one_le_length_itemsFrom first vs) hf) (by decide)
  | [], first, acc, fuel + 1, d, rest, _, _ => by
    simp [readItems, nextItem_nil, bind, Except.bind]
  | v :: vs, first, acc, fuel + 1, d, rest, h, hf => by
    have hr := h v List.mem_cons_self
    have hlen : v.chars.length ≤ fuel ∧ (moreItemsChars vs).length ≤ fuel := by
      have := length_itemsFrom_cons first v vs
      have := one_le_length_moreItems vs
      have := one_le_length_chars hr.whole
      omega
    have hv := readValue_chars v fuel d _ hr hlen.1 (delimited_moreItems vs rest)
    have hvs := readItems_chars vs false (v :: acc) fuel d rest
      (fun w hw => h w (List.mem_cons_of_mem _ hw)) hlen.2
    rw [itemsFrom] at hvs
    simp [readItems, nextItem_cons first hr.whole, hv, hvs, bind, Except.bind]

theorem readMembers_chars : ∀ (ms : List (String × Value)) (first : Bool) (acc : Object)
    (fuel d : Nat) (rest : List Char), (∀ m ∈ ms, m.2.Readable d) →
    (membersFrom first ms).length ≤ fuel →
    readMembers fuel d first acc (membersFrom first ms ++ rest) =
      .ok (ms.foldl (fun o m => o.insert m.1 m.2) acc, rest)
  | ms, first, acc, 0, d, rest, _, hf =>
    absurd (Nat.le_trans (one_le_length_membersFrom first ms) hf) (by decide)
  | [], first, acc, fuel + 1, d, rest, _, _ => by
    simp [readMembers, nextKey_nil, bind, Except.bind]
  | (k, v) :: ms, first, acc, fuel + 1, d, rest, h, hf => by
    have hlen : v.chars.length ≤ fuel ∧ (moreMembersChars ms).length ≤ fuel := by
      have := length_membersFrom_cons first k v ms
      omega
    have hv := readValue_chars v fuel d _ (h (k, v) List.mem_cons_self) hlen.1
      (delimited_moreMembers ms rest)
    have hms := readMembers_chars ms false (acc.insert k v) fuel d rest
      (fun m hm => h m (List.mem_cons_of_mem _ hm)) hlen.2
    rw [membersFrom] at hms
    simp [readMembers, nextKey_cons, readString_escaped, readColon_cons, hv, hms, bind, Except.bind]

end

/-- Members are read back, in key order, in whatever order they were written. -/
theorem parse_renderMembers {ms : List (String × Value)}
    (h : ∀ m ∈ ms, m.2.Readable (depthLimit - 1)) :
    Value.parse (renderMembers ms) = .ok (.obj (Object.ofList ms)) := by
  have hmembers := readMembers_chars ms true [] (2 * (Value.obj ms).chars.length + 1)
    (depthLimit - 1) [] h (by rw [Value.chars, membersFrom, List.length_cons]; omega)
  have hread := readValue_obj (by decide) hmembers
  rw [List.append_nil] at hread
  rw [Value.parse, renderMembers, Value.render, String.toList_ofList, Value.ofChars, fuelFor, hread]
  rfl

end Fanout.Json
