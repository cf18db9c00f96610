import Fanout.Filter
import Mathlib.Tactic.SplitIfs
import Mathlib.Data.List.Infix

/-!
Filters and their written form. Main statements: a filter that was read writes what it was read from,
with a lone star left out, and is read again from what it writes; of the filters put together by hand,
those come back whose pattern is free of stars and of empty parts below a wildcard.
-/
namespace Fanout

theorem Text.beforeSuffix?_eq_some_iff {tail cs before : List Char} :
    Text.beforeSuffix? tail cs = some before ↔ cs = before ++ tail := by
  unfold Text.beforeSuffix?
  constructor
  · intro h
    split_ifs at h with hs
    obtain ⟨front, rfl⟩ := List.isSuffixOf_iff_suffix.mp hs
    have hf : front = before := by simpa using h
    rw [hf]
  · rintro rfl
    have hs : tail.isSuffixOf (before ++ tail) := List.isSuffixOf_iff_suffix.mpr ⟨before, rfl⟩
    rw [if_pos hs]
    simp

/-- A name without a star and without empty parts. -/
structure IsName (t : String) : Prop where
  no_star : '*' ∉ t.toList
  no_empty : Text.hasEmptySegment t.toList = false

theorem IsName.toList_ne_nil {t : String} (h : IsName t) : t.toList ≠ [] := by
  intro hnil
  have hempty := h.no_empty
  rw [hnil] at hempty
  cases hempty

namespace TypePattern

/-- The texts that a pattern is read from. -/
def IsReadFrom : TypePattern → Option String → Prop
  | .any, raw => raw = none ∨ raw = some "*"
  | .exact t, raw => raw = some t ∧ t.toList ≠ [] ∧ '*' ∉ t.toList
  | .below p, raw => raw = some (p ++ ".*") ∧ IsName p

theorem parse_exact {t : String} (hne : t.toList ≠ []) (hstar : '*' ∉ t.toList) :
    parse (some t) = .ok (.exact t) := by
  have hlone : t.toList ≠ ['*'] := by
    intro h
    rw [h] at hstar
    simp at hstar
  have htail : Text.beforeSuffix? wildcardTail t.toList = none := by
    rw [Option.eq_none_iff_forall_ne_some]
    intro before h
    rw [Text.beforeSuffix?_eq_some_iff.mp h] at hstar
    simp [wildcardTail] at hstar
  simp [parse, hne, hlone, htail, hstar]

theorem parse_below {p : String} (hp : IsName p) : parse (some (p ++ ".*")) = .ok (.below p) := by
  have htext : (p ++ ".*").toList = p.toList ++ wildcardTail := String.toList_append
  have hlone : p.toList ++ wildcardTail ≠ ['*'] := by
    intro h
    have := congrArg List.length h
    simp [wildcardTail] at this
  have htail : Text.beforeSuffix? wildcardTail (p.toList ++ wildcardTail) = some p.toList :=
    Text.beforeSuffix?_eq_some_iff.mpr rfl
  simp only [parse, htext, htail]
  rw [if_neg (by simp [wildcardTail]), if_neg hlone, if_neg, String.ofList_toList]
  simp [hp.toList_ne_nil, hp.no_star, hp.no_empty]

theorem isReadFrom_of_parse {raw : Option String} {p : TypePattern} (h : parse raw = .ok p) :
    p.IsReadFrom raw := by
  cases raw with
  | none =>
    obtain rfl := Except.ok.inj h
    exact .inl rfl
  | some raw =>
    simp only [parse] at h
    by_cases hempty : raw.toList.isEmpty = true
    · rw [if_pos hempty] at h
      cases h
    rw [if_neg hempty] at h
    by_cases hlone : raw.toList = ['*']
    · rw [if_pos hlone] at h
      obtain rfl := Except.ok.inj h
      exact .inr (congrArg some (String.toList_inj.mp hlone))
    rw [if_neg hlone] at h
    cases htail : Text.beforeSuffix? wildcardTail raw.toList with
    | none =>
      simp only [htail] at h
      split_ifs at h with hstar
      obtain rfl := Except.ok.inj h
      exact ⟨rfl, by simpa using hempty, by simpa using hstar⟩
    | some parent =>
      simp only [htail] at h
      split_ifs at h with hp
      obtain rfl := Except.ok.inj h
      have hraw : raw = String.ofList parent ++ ".*" := by
        rw [← String.toList_inj, Text.beforeSuffix?_eq_some_iff.mp htail, String.toList_append,
          String.toList_ofList]
        rfl
      simp only [Bool.or_eq_true, not_or, Bool.not_eq_true] at hp
      exact ⟨congrArg some hraw, by simpa using hp.1.2, by simpa using hp.2⟩

theorem parse_eq_ok_iff {raw : Option String} {p : TypePattern} :
    parse raw = .ok p ↔ p.IsReadFrom raw := by
  refine ⟨isReadFrom_of_parse, fun h => ?_⟩
  cases p with
  | any => rcases h with rfl | rfl <;> rfl
  | exact t =>
    obtain ⟨rfl, hne, hstar⟩ := h
    exact parse_exact hne hstar
  | below p =>
    obtain ⟨rfl, hp⟩ := h
    exact parse_below hp

/-- A pattern that was read is what is read again when it is written. -/
theorem parse_write? {raw : Option String} {p : TypePattern} (h : parse raw = .ok p) :
    parse p.write? = .ok p := by
  rw [parse_eq_ok_iff] at h ⊢
  cases p with
  | any => exact .inl rfl
  | exact t | below p => exact ⟨rfl, h.2⟩

end TypePattern

namespace Filter

theorem ofSpec_eq_ok_iff {s : FilterSpec} {f : Filter} :
    ofSpec s = .ok f ↔ TypePattern.parse s.typePattern = .ok f.pattern ∧
      s.organization = f.organization ∧ s.domain = f.domain ∧ f.check = .ok () := by
  constructor
  · intro h
    cases hp : TypePattern.parse s.typePattern with
    | error e => simp [ofSpec, hp, bind, Except.bind] at h
    | ok p =>
      simp only [ofSpec, hp, bind, Except.bind, make] at h
      split at h
      · cases h
      · rename_i hcheck
        obtain rfl := Except.ok.inj h
        exact ⟨rfl, rfl, rfl, hcheck⟩
  · rintro ⟨hp, ho, hd, hcheck⟩
    have hsame : (⟨f.pattern, s.organization, s.domain⟩ : Filter) = f := by rw [ho, hd]
    simp only [ofSpec, hp, bind, Except.bind, make, hsame, hcheck]

/-- A filter that can be asked for in writing. -/
def Accepted (f : Filter) : Prop := ∃ s, ofSpec s = .ok f

theorem Accepted.parts {f : Filter} (h : f.Accepted) :
    (∃ raw, TypePattern.parse raw = .ok f.pattern) ∧ f.check = .ok () := by
  obtain ⟨s, hs⟩ := h
  obtain ⟨hparse, -, -, hcheck⟩ := ofSpec_eq_ok_iff.mp hs
  exact ⟨⟨s.typePattern, hparse⟩, hcheck⟩

theorem Accepted.check {f : Filter} (h : f.Accepted) : f.check = .ok () := h.parts.2

/-- What an accepted filter writes is read as that filter. -/
theorem Accepted.ofSpec_toSpec {f : Filter} (h : f.Accepted) : ofSpec f.toSpec = .ok f := by
  obtain ⟨⟨raw, hraw⟩, hcheck⟩ := h.parts
  exact ofSpec_eq_ok_iff.mpr ⟨TypePattern.parse_write? hraw, rfl, rfl, hcheck⟩

end Filter

theorem Text.hasEmptySegment_eq_false_iff {cs : List Char} :
    Text.hasEmptySegment cs = false ↔ [] ∉ Text.segments cs := by
  rw [Text.hasEmptySegment, List.any_eq_false]
  constructor
  · intro h hnil
    exact h [] hnil rfl
  · intro h part hpart hempty
    rw [List.isEmpty_iff.mp hempty] at hpart
    exact h hpart

/-- The same filter with a pattern for any type left out. -/
def FilterSpec.canonical (s : FilterSpec) : FilterSpec :=
  { s with typePattern := if s.typePattern = some "*" then none else s.typePattern }

namespace TypePattern

variable {p : TypePattern}

/-- Stars are kept for the wildcard, which stands below a name. -/
def IsPlain : TypePattern → Prop
  | .any => True
  | .exact t => '*' ∉ t.toList
  | .below p => '*' ∉ p.toList ∧ [] ∉ Text.segments p.toList

theorem wildcard_ne_star (p : String) : p ++ ".*" ≠ "*" := by
  intro h
  have hlength := congrArg (fun s => s.toList.length) h
  simp at hlength

theorem write?_of_isReadFrom {raw : Option String} (h : p.IsReadFrom raw) :
    p.write? = if raw = some "*" then none else raw := by
  cases p with
  | any =>
    rcases h with rfl | rfl
    · rfl
    · rfl
  | exact t =>
    obtain ⟨rfl, -, hstar⟩ := h
    have hne : some t ≠ some "*" := by
      intro he
      rw [Option.some.inj he] at hstar
      exact hstar (by decide)
    rw [if_neg hne, write?]
  | below p =>
    obtain ⟨rfl, -⟩ := h
    have hne : some (p ++ ".*") ≠ some "*" := fun he => wildcard_ne_star p (Option.some.inj he)
    rw [if_neg hne, write?]

theorem parse_write?_iff (hexact : p ≠ .exact "") : parse p.write? = .ok p ↔ p.IsPlain := by
  rw [parse_eq_ok_iff]
  cases p with
  | any => exact ⟨fun _ => trivial, fun _ => .inl rfl⟩
  | exact t =>
    have hne : t.toList ≠ [] := by
      intro hnil
      rw [String.toList_eq_nil_iff.mp hnil] at hexact
      exact hexact rfl
    exact ⟨fun h => h.2.2, fun hstar => ⟨rfl, hne, hstar⟩⟩
  | below p =>
    have hempty : Text.hasEmptySegment p.toList = false ↔ [] ∉ Text.segments p.toList :=
      Text.hasEmptySegment_eq_false_iff
    constructor
    · rintro ⟨-, hname⟩
      exact ⟨hname.no_star, hempty.mp hname.no_empty⟩
    · rintro ⟨hstar, hparts⟩
      exact ⟨rfl, hstar, hempty.mpr hparts⟩

end TypePattern

namespace Filter

theorem pattern_ne_of_check {f : Filter} (h : f.check = .ok ()) : f.pattern ≠ .exact "" := by
  intro hempty
  simp [check, hempty] at h

theorem toSpec_eq_canonical {s : FilterSpec} {f : Filter} (h : ofSpec s = .ok f) :
    f.toSpec = s.canonical := by
  obtain ⟨hparse, ho, hd, -⟩ := ofSpec_eq_ok_iff.mp h
  have hwrite := TypePattern.write?_of_isReadFrom (TypePattern.parse_eq_ok_iff.mp hparse)
  rw [toSpec, FilterSpec.canonical, hwrite, ho, hd]

theorem ofSpec_toSpec_iff {f : Filter} (h : f.check = .ok ()) :
    ofSpec f.toSpec = .ok f ↔ f.pattern.IsPlain := by
  have hpattern := TypePattern.parse_write?_iff (pattern_ne_of_check h)
  rw [ofSpec_eq_ok_iff, ← hpattern]
  exact ⟨fun hread => hread.1, fun hread => ⟨hread, rfl, rfl, h⟩⟩

/-- Reading a filter and writing it again leaves out a lone star and changes nothing else, and what
is written is read as that filter. A filter that keeps the rules, however it came about, is read
from what it writes just when its pattern is plain. -/
theorem toSpec_canonical :
    (∀ s f, ofSpec s = .ok f → f.toSpec = s.canonical ∧ ofSpec f.toSpec = .ok f) ∧
      ∀ f, f.check = .ok () → (ofSpec f.toSpec = .ok f ↔ f.pattern.IsPlain) := by
  constructor
  · intro s f h
    exact ⟨toSpec_eq_canonical h, Accepted.ofSpec_toSpec ⟨s, h⟩⟩
  · intro f h
    exact ofSpec_toSpec_iff h

/-- A lone star is left out. A type that ends like a wildcard keeps the rules, but what it writes is
read as the wildcard; a wildcard below an empty part is not read at all. -/
theorem toSpec_canonical_lookalikes :
    let s : FilterSpec := ⟨some "*", some "north", none⟩
    let lookalike : Filter := ⟨.exact "agent.*", none, none⟩
    let hollow : Filter := ⟨.below "agent.", some "north", some "hall"⟩
    let all : Filter := ⟨.any, some "north", none⟩
    ofSpec s = .ok all ∧ all.toSpec = ⟨none, some "north", none⟩ ∧
      lookalike.check = .ok () ∧ ofSpec lookalike.toSpec ≠ .ok lookalike ∧
      hollow.check = .ok () ∧ ofSpec hollow.toSpec ≠ .ok hollow := by
  intro s lookalike hollow all
  have hs : ofSpec s = .ok all := by decide +kernel
  have hlookalike : lookalike.check = .ok () := by decide
  have hhollow : hollow.check = .ok () := by decide
  refine ⟨hs, (toSpec_canonical.1 s all hs).1, hlookalike, ?_, hhollow, ?_⟩
  · rw [Ne, toSpec_canonical.2 lookalike hlookalike]
    exact fun hplain => hplain (by decide)
  · rw [Ne, toSpec_canonical.2 hollow hhollow]
    exact fun hplain => hplain.2 (by decide)

end Filter

end Fanout
