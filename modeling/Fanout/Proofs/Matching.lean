import Fanout.Proofs.Filter
import Fanout.Proofs.Text

/-!
Which events a filter lets through. Main statement: a filter compares the parts of its pattern with
the parts of an event's type.
-/
namespace Fanout

theorem checkEventType_eq_ok_iff {t : String} :
    checkEventType t = .ok () ↔ IsName t ∧ t ∉ reservedTypes := by
  constructor
  · intro h
    unfold checkEventType at h
    split_ifs at h with hempty hstar hparts hreserved
    exact ⟨⟨by simpa using hstar, by simpa using hparts⟩, by simpa using hreserved⟩
  · rintro ⟨hname, hreserved⟩
    have hne := hname.toList_ne_nil
    have hstar := hname.no_star
    simp [checkEventType, hne, hstar, hname.no_empty, hreserved]

variable {p t : String}

/-- What stands above a name is a name. -/
theorem IsName.of_isAbove (ht : IsName t) (h : Text.IsAbove p.toList t.toList) : IsName p := by
  obtain ⟨q, hq⟩ := Text.isAbove_iff_exists.mp h
  have hstar := ht.no_star
  have hempty := ht.no_empty
  rw [hq] at hstar hempty
  rw [Text.hasEmptySegment_append, Bool.or_eq_false_iff] at hempty
  exact ⟨fun hp => hstar (List.mem_append_left _ hp), hempty.1⟩

namespace TypePattern

theorem star_mem_wildcard (p : String) : '*' ∈ (p ++ ".*").toList := by
  rw [String.toList_append]
  exact List.mem_append_right _ (by decide)

theorem accepts_below_iff (ht : IsName t) :
    (below p).accepts t = true ↔ Text.IsAbove p.toList t.toList := by
  rw [Text.isAbove_iff_exists]
  constructor
  · intro h
    simp only [accepts] at h
    split at h
    · rename_i c rest hrest
      exact ⟨c :: rest, Text.afterHead?_eq_some_iff.mp hrest⟩
    · cases h
  · rintro ⟨q, hq⟩
    -- A type that ended in this dot would have an empty part.
    have hempty := ht.no_empty
    rw [hq, Text.hasEmptySegment_append, Bool.or_eq_false_iff] at hempty
    cases q with
    | nil => cases hempty.2
    | cons c rest =>
      have hafter := Text.afterHead?_eq_some_iff.mpr hq
      simp only [accepts, hafter]

theorem accepts_iff_of_isReadFrom {raw : Option String} {pattern : TypePattern} (ht : IsName t)
    (h : pattern.IsReadFrom raw) :
    pattern.accepts t = true ↔ raw = none ∨ raw = some "*" ∨ raw = some t ∨
      ∃ p, raw = some (p ++ ".*") ∧ Text.IsAbove p.toList t.toList := by
  cases pattern with
  | any =>
    have hraw : raw = none ∨ raw = some "*" := h
    simp only [accepts, true_iff]
    exact hraw.imp_right .inl
  | exact s =>
    obtain ⟨rfl, -, hstar⟩ := h
    simp only [accepts, beq_iff_eq]
    constructor
    · rintro rfl
      exact .inr (.inr (.inl rfl))
    · rintro (hnone | hlone | hsame | ⟨p, hp, -⟩)
      · cases hnone
      · rw [Option.some.inj hlone] at hstar
        exact absurd (by decide) hstar
      · exact Option.some.inj hsame
      · rw [Option.some.inj hp] at hstar
        exact absurd (star_mem_wildcard p) hstar
  | below q =>
    obtain ⟨rfl, hq⟩ := h
    rw [accepts_below_iff ht]
    constructor
    · intro habove
      exact .inr (.inr (.inr ⟨q, rfl, habove⟩))
    · rintro (hnone | hlone | hsame | ⟨p, hp, habove⟩)
      · cases hnone
      · exact absurd (Option.some.inj hlone) (wildcard_ne_star q)
      · have hstar := ht.no_star
        rw [← Option.some.inj hsame] at hstar
        exact absurd (star_mem_wildcard q) hstar
      · obtain rfl : q = p := String.append_left_inj ".*" |>.mp (Option.some.inj hp)
        exact habove

end TypePattern

namespace Filter

theorem acceptsScope_iff {wanted actual : Option String} :
    acceptsScope wanted actual = true ↔ ∀ s, wanted = some s → actual = some s := by
  cases wanted with
  | none => simp [acceptsScope]
  | some w =>
    simp only [acceptsScope, Option.isNone_some, Bool.false_or, beq_iff_eq]
    exact ⟨fun h s hs => h ▸ hs, fun h => (h w rfl).symm⟩

theorem accepts_iff {f : Filter} {e : Event} :
    f.accepts e = true ↔ f.pattern.accepts e.type = true ∧
      (∀ o, f.organization = some o → e.organization = some o) ∧
      ∀ d, f.domain = some d → e.domain = some d := by
  rw [accepts, Bool.and_eq_true, Bool.and_eq_true, acceptsScope_iff, acceptsScope_iff, and_assoc]

/-- A filter lets an event through if the event has every scope that the filter names, and if its
pattern is left out, a star, the type of the event, or a wildcard below a name above that type. Each
type, and each wildcard below a name above it, is a pattern. -/
theorem accepts_iff_parts {t : String} (ht : checkEventType t = .ok ()) :
    (∀ raw pattern organization domain (e : Event), TypePattern.parse raw = .ok pattern →
      e.type = t →
      ((⟨pattern, organization, domain⟩ : Filter).accepts e = true ↔
        (∀ o, organization = some o → e.organization = some o) ∧
        (∀ d, domain = some d → e.domain = some d) ∧
        (raw = none ∨ raw = some "*" ∨ raw = some t ∨
          ∃ p, raw = some (p ++ ".*") ∧ Text.IsAbove p.toList t.toList))) ∧
    (∀ p : String, Text.IsAbove p.toList t.toList ↔ (p ++ ".").toList <+: t.toList) ∧
    TypePattern.parse (some t) = .ok (.exact t) ∧
    ∀ p : String, Text.IsAbove p.toList t.toList →
      ∃ pattern, TypePattern.parse (some (p ++ ".*")) = .ok pattern ∧ pattern.accepts t = true := by
  obtain ⟨hname, -⟩ := checkEventType_eq_ok_iff.mp ht
  refine ⟨?_, ?_, ?_, ?_⟩
  · rintro raw pattern organization domain e hraw rfl
    have hpattern := TypePattern.accepts_iff_of_isReadFrom hname
      (TypePattern.parse_eq_ok_iff.mp hraw)
    rw [accepts_iff, hpattern, and_comm, and_assoc]
  · intro p
    rw [String.toList_append]
    exact Text.isAbove_iff_prefix
  · exact TypePattern.parse_exact hname.toList_ne_nil hname.no_star
  · intro p habove
    refine ⟨.below p, TypePattern.parse_below (hname.of_isAbove habove), ?_⟩
    exact (TypePattern.accepts_below_iff hname).mpr habove

/-- A wildcard below a name stops at the dot: it takes the types below `größe`, which
`größen.neu` is not. -/
theorem accepts_iff_parts_wildcard :
    let pattern : TypePattern := .below "lager.größe"
    let e : String → Event := fun t => ⟨t, ⟨⟨2024, 1, 1⟩, 0, 0⟩, [], some "nord", none⟩
    (⟨pattern, some "nord", none⟩ : Filter).accepts (e "lager.größe.neu") = true ∧
      ¬ (⟨pattern, some "nord", none⟩ : Filter).accepts (e "lager.größen.neu") = true := by
  intro pattern e
  have hread : TypePattern.parse (some "lager.größe.*") = .ok pattern := by decide +kernel
  constructor
  · have ht : checkEventType "lager.größe.neu" = .ok () := by decide +kernel
    have habove := ((accepts_iff_parts ht).2.1 "lager.größe").mpr (by decide +kernel)
    refine ((accepts_iff_parts ht).1 _ pattern _ _ (e "lager.größe.neu") hread rfl).mpr
      ⟨fun _ ho => ho, fun _ hd => hd, .inr (.inr (.inr ⟨_, rfl, habove⟩))⟩
  · have ht : checkEventType "lager.größen.neu" = .ok () := by decide +kernel
    rw [(accepts_iff_parts ht).1 _ pattern _ _ (e "lager.größen.neu") hread rfl]
    rintro ⟨-, -, hnone | hlone | hsame | ⟨p, hp, habove⟩⟩
    · cases hnone
    · exact absurd hlone (by decide +kernel)
    · exact absurd hsame (by decide +kernel)
    · obtain rfl : "lager.größe" = p := String.append_left_inj ".*" |>.mp (Option.some.inj hp)
      exact absurd (((accepts_iff_parts ht).2.1 _).mp habove) (by decide +kernel)

end Filter

end Fanout
