import Fanout.Bus.Table
import Fanout.Proofs.Keyed
import Fanout.Proofs.Matching

/-!
Filters that let the same events through are the same. Main statement: two filters that can be asked
for are equal just when no event tells them apart, so the bus evaluates no two filters that always
agree.
-/
namespace Fanout

variable {p q t : String}

def childType (p : String) : String := p ++ ".x"

theorem toList_childType (p : String) : (childType p).toList = p.toList ++ '.' :: ['x'] :=
  String.toList_append

theorem segments_childType (p : String) :
    Text.segments (childType p).toList = Text.segments p.toList ++ [['x']] := by
  rw [toList_childType, Text.segments_append]
  rfl

theorem isAbove_childType (p : String) : Text.IsAbove p.toList (childType p).toList :=
  Text.isAbove_iff_exists.mpr ⟨['x'], toList_childType p⟩

theorem childType_ne (p : String) : childType p ≠ p := by
  intro h
  have hlength := congrArg (fun s => s.toList.length) h
  simp [toList_childType] at hlength

/-- No reserved type has a dot. -/
theorem dot_not_mem_reserved (h : t ∈ reservedTypes) : '.' ∉ t.toList := by
  revert t
  decide

theorem checkEventType_childType (hp : IsName p) : checkEventType (childType p) = .ok () := by
  have hstar : '*' ∉ (childType p).toList := by
    rw [toList_childType]
    simpa using hp.no_star
  have hempty : Text.hasEmptySegment (childType p).toList = false := by
    rw [toList_childType, Text.hasEmptySegment_append, hp.no_empty]
    rfl
  refine checkEventType_eq_ok_iff.mpr ⟨⟨hstar, hempty⟩, fun hreserved => ?_⟩
  apply dot_not_mem_reserved hreserved
  simp [toList_childType]

namespace TypePattern

variable {P Q : TypePattern}

/-- Some event can have a type that the pattern wants. -/
def IsMeetable : TypePattern → Prop
  | .any => True
  | .exact t => checkEventType t = .ok ()
  | .below p => IsName p

/-- Every type that `Q` lets through gets through `P`. -/
def Covers (P Q : TypePattern) : Prop :=
  ∀ t, checkEventType t = .ok () → Q.accepts t = true → P.accepts t = true

theorem isName_of_check (ht : checkEventType t = .ok ()) : IsName t :=
  (checkEventType_eq_ok_iff.mp ht).1

theorem accepts_childType (hp : IsName p) : (below p).accepts (childType p) = true :=
  (accepts_below_iff (isName_of_check (checkEventType_childType hp))).mpr (isAbove_childType p)

theorem IsMeetable.exists_accepts (h : P.IsMeetable) :
    ∃ t, checkEventType t = .ok () ∧ P.accepts t = true := by
  cases P with
  | any => exact ⟨"x", by decide, rfl⟩
  | exact t => exact ⟨t, h, by simp [accepts]⟩
  | below p => exact ⟨childType p, checkEventType_childType h, accepts_childType h⟩

/-- A type of one part is below no name. -/
theorem not_accepts_below_single : ¬ (below p).accepts "x" = true := by
  have hx : IsName "x" := isName_of_check (by decide)
  rw [accepts_below_iff hx, Text.isAbove_iff_exists]
  rintro ⟨q, hq⟩
  have hdot : '.' ∈ "x".toList := by
    rw [hq]
    simp
  exact absurd hdot (by decide)

theorem eq_any_of_covers (hP : P.IsMeetable) (h : P.Covers any) : P = any := by
  cases P with
  | any => rfl
  | exact t =>
    have hchild := h _ (checkEventType_childType (isName_of_check hP)) rfl
    have hsame : t = childType t := by simpa [accepts] using hchild
    exact absurd hsame.symm (childType_ne t)
  | below p => exact absurd (h "x" (by decide) rfl) not_accepts_below_single

/-- Below a name there are two types at least. -/
theorem not_exact_covers_below (hp : IsName p) : ¬ (exact t).Covers (below p) := by
  intro h
  have hname := isName_of_check (checkEventType_childType hp)
  have hname' := isName_of_check (checkEventType_childType hname)
  have habove : Text.IsAbove p.toList (childType (childType p)).toList := by
    refine Text.isAbove_iff_exists.mpr ⟨"x.x".toList, ?_⟩
    rw [toList_childType, toList_childType, List.append_assoc]
    rfl
  have hone := h _ (checkEventType_childType hp) (accepts_childType hp)
  have htwo := h _ (checkEventType_childType hname) ((accepts_below_iff hname').mpr habove)
  simp only [accepts, beq_iff_eq] at hone htwo
  exact childType_ne (childType p) (htwo.symm.trans hone)

theorem segments_prefix_of_covers (hp : IsName p) (h : (below q).Covers (below p)) :
    Text.segments q.toList <+: Text.segments p.toList := by
  have hchild := checkEventType_childType hp
  have haccepts := h _ hchild (accepts_childType hp)
  obtain ⟨hfront, hne⟩ := (accepts_below_iff (isName_of_check hchild)).mp haccepts
  rw [segments_childType] at hfront hne
  -- The parts of `q` stop before the last part of the child.
  rcases List.prefix_concat_iff.mp hfront with hall | hless
  · exact absurd hall hne
  · exact hless

theorem eq_of_covers (hP : P.IsMeetable) (hQ : Q.IsMeetable) (hPQ : P.Covers Q)
    (hQP : Q.Covers P) : P = Q := by
  cases P with
  | any => exact (eq_any_of_covers hQ hQP).symm
  | exact t =>
    cases Q with
    | any => exact eq_any_of_covers hP hPQ
    | exact u =>
      have hu : t = u := by simpa [accepts] using hPQ u hQ (by simp [accepts])
      rw [hu]
    | below q => exact absurd hPQ (not_exact_covers_below hQ)
  | below p =>
    cases Q with
    | any => exact eq_any_of_covers hP hPQ
    | exact u => exact absurd hQP (not_exact_covers_below hP)
    | below q =>
      have hqp := segments_prefix_of_covers hP hQP
      have hpq := segments_prefix_of_covers hQ hPQ
      have hsame := hpq.eq_of_length (Nat.le_antisymm hpq.length_le hqp.length_le)
      rw [String.toList_inj.mp (Text.segments_inj.mp hsame)]

end TypePattern

namespace Filter

variable {f g : Filter}

/-- No event that can be made tells the filters apart. -/
def SameEvents (f g : Filter) : Prop :=
  ∀ now type payload organization domain e,
    Event.make now type payload organization domain = .ok e → f.accepts e = g.accepts e

theorem SameEvents.symm (h : SameEvents f g) : SameEvents g f := by
  intro now type payload organization domain e he
  exact (h now type payload organization domain e he).symm

def plainEvent (t : String) (organization domain : Option String) : Event :=
  ⟨t, ⟨⟨1970, 1, 1⟩, 0, 0⟩, [], organization, domain⟩

theorem SameEvents.accepts_plainEvent (h : SameEvents f g) (ht : checkEventType t = .ok ())
    {organization domain : Option String} :
    f.accepts (plainEvent t organization domain) = g.accepts (plainEvent t organization domain) := by
  refine h ⟨⟨1970, 1, 1⟩, 0, 0⟩ t .null organization domain _ ?_
  simp [Event.make, ht, bind, Except.bind, plainEvent]

theorem accepts_own_scopes (ht : f.pattern.accepts t = true) :
    f.accepts (plainEvent t f.organization f.domain) = true :=
  accepts_iff.mpr ⟨ht, fun _ ho => ho, fun _ hd => hd⟩

theorem SameEvents.accepts_own_scopes (h : SameEvents f g) (hcheck : checkEventType t = .ok ())
    (ht : f.pattern.accepts t = true) :
    g.pattern.accepts t = true ∧ (∀ o, g.organization = some o → f.organization = some o) ∧
      ∀ d, g.domain = some d → f.domain = some d := by
  have hf := Filter.accepts_own_scopes ht
  rw [h.accepts_plainEvent hcheck] at hf
  exact accepts_iff.mp hf

theorem SameEvents.scopes (h : SameEvents f g) (hf : f.pattern.IsMeetable) :
    (∀ o, g.organization = some o → f.organization = some o) ∧
      ∀ d, g.domain = some d → f.domain = some d := by
  obtain ⟨t, hcheck, ht⟩ := hf.exists_accepts
  exact (h.accepts_own_scopes hcheck ht).2

theorem eq_of_sameEvents (hf : f.pattern.IsMeetable) (hg : g.pattern.IsMeetable)
    (h : SameEvents f g) : f = g := by
  have hpattern : f.pattern = g.pattern := by
    refine TypePattern.eq_of_covers hf hg ?_ ?_
    · intro t hcheck ht
      exact (h.symm.accepts_own_scopes hcheck ht).1
    · intro t hcheck ht
      exact (h.accepts_own_scopes hcheck ht).1
  have hto := h.scopes hf
  have hfrom := h.symm.scopes hg
  have horganization : f.organization = g.organization :=
    Option.ext fun o => ⟨hfrom.1 o, hto.1 o⟩
  have hdomain : f.domain = g.domain := Option.ext fun d => ⟨hfrom.2 d, hto.2 d⟩
  obtain ⟨p, o, d⟩ := f
  obtain ⟨p', o', d'⟩ := g
  obtain ⟨rfl, rfl, rfl⟩ : p = p' ∧ o = o' ∧ d = d' := ⟨hpattern, horganization, hdomain⟩
  rfl

theorem Accepted.isMeetable (hf : f.Accepted)
    (hexact : ∀ t, f.pattern = .exact t → checkEventType t = .ok ()) : f.pattern.IsMeetable := by
  obtain ⟨⟨raw, hraw⟩, -⟩ := hf.parts
  have hread := TypePattern.parse_eq_ok_iff.mp hraw
  cases hp : f.pattern with
  | any => trivial
  | exact t => exact hexact t hp
  | below p =>
    rw [hp] at hread
    exact hread.2

end Filter

theorem SubscriptionTable.distinctFilters_insert {H : Type} (table : SubscriptionTable H)
    (f : Filter) (s : Subscriber H) :
    (table.insert f s).distinctFilters =
      if f ∈ Keyed.keys table.entries then table.distinctFilters else table.distinctFilters + 1 := by
  have hlength : ∀ entries : List (Filter × List (Subscriber H)),
      entries.length = (Keyed.keys entries).length := fun entries => by simp [Keyed.keys]
  unfold distinctFilters insert
  rw [hlength, hlength table.entries, Keyed.keys_put]
  split_ifs <;> simp

namespace Filter

/-- Filters that can be asked for, for types that events can have, are equal just when they let the
same events through. The bus keeps a filter once for all that agree with it on every event. -/
theorem eq_iff_sameEvents {f g : Filter} (hf : f.Accepted) (hg : g.Accepted)
    (hft : ∀ t, f.pattern = .exact t → checkEventType t = .ok ())
    (hgt : ∀ t, g.pattern = .exact t → checkEventType t = .ok ()) :
    (f = g ↔ SameEvents f g) ∧
      ∀ {H : Type} (table : SubscriptionTable H) (s s' : Subscriber H),
        g ∉ Keyed.keys table.entries →
        (((table.insert f s).insert g s').distinctFilters = (table.insert f s).distinctFilters ↔
          SameEvents f g) := by
  have hiff : f = g ↔ SameEvents f g := by
    constructor
    · rintro rfl
      intro now type payload organization domain e _
      rfl
    · exact eq_of_sameEvents (hf.isMeetable hft) (hg.isMeetable hgt)
  refine ⟨hiff, ?_⟩
  intro H table s s' hnew
  have hkey : g ∈ Keyed.keys (table.insert f s).entries ↔ f = g := by
    rw [SubscriptionTable.insert, Keyed.keys_put]
    split_ifs with hf
    · exact ⟨fun hg => absurd hg hnew, fun he => he ▸ hf⟩
    · simp [hnew, eq_comm]
  rw [SubscriptionTable.distinctFilters_insert, ← hiff, ← hkey]
  split_ifs with hheld
  · simp [hheld]
  · simp [hheld]

/-- A wildcard and one type below it. -/
theorem eq_iff_sameEvents_nested :
    let f : Filter := ⟨.below "agent", some "north", none⟩
    let g : Filter := ⟨.exact "agent.run", some "north", none⟩
    f.Accepted ∧ g.Accepted ∧ checkEventType "agent.run" = .ok () ∧ f ≠ g ∧ ¬ SameEvents f g := by
  intro f g
  have hf : f.Accepted := ⟨⟨some "agent.*", some "north", none⟩, by decide +kernel⟩
  have hg : g.Accepted := ⟨⟨some "agent.run", some "north", none⟩, by decide +kernel⟩
  have ht : checkEventType "agent.run" = .ok () := by decide +kernel
  have hne : f ≠ g := by decide
  refine ⟨hf, hg, ht, hne, fun hsame => hne ?_⟩
  refine (eq_iff_sameEvents hf hg (fun t h => ?_) (fun t h => ?_)).1.mpr hsame
  · cases h
  · rw [← TypePattern.exact.inj h]
    exact ht

end Filter

end Fanout
