import Fanout.Client.Wire
import Mathlib.Data.List.Induction
import Mathlib.Data.List.Nodup
import Mathlib.Tactic.SplitIfs

/-! Requests about filters, and the filters that someone holds whose requests are all granted. -/
namespace Fanout

structure Wish where
  action : SubscriptionAction
  filter : Filter
  deriving DecidableEq

namespace Wish

def written (q : Wish) : SubscriptionAction × FilterSpec := (q.action, q.filter.toSpec)

def grant (fs : List Filter) (q : Wish) : List Filter :=
  match q.action with
  | .subscribe => if q.filter ∈ fs then fs else fs ++ [q.filter]
  | .unsubscribe => fs.filter (· ≠ q.filter)

/-- The filters held after some requests. -/
def held (qs : List Wish) : List Filter := qs.foldl grant []

def matters (fs : List Filter) (q : Wish) : Bool :=
  match q.action with
  | .subscribe => q.filter ∉ fs
  | .unsubscribe => q.filter ∈ fs

/-- What was last asked about a filter. -/
def last? (f : Filter) (qs : List Wish) : Option SubscriptionAction :=
  (qs.filter fun q => q.filter = f).getLast?.map action

theorem held_append (qs rest : List Wish) : held (qs ++ rest) = rest.foldl grant (held qs) :=
  List.foldl_append

theorem held_concat (qs : List Wish) (q : Wish) : held (qs ++ [q]) = grant (held qs) q :=
  held_append qs [q]

theorem grant_of_not_matters {fs : List Filter} {q : Wish} (h : q.matters fs = false) :
    grant fs q = fs := by
  unfold grant
  unfold matters at h
  split at h
  · rw [if_pos (by simpa using h)]
  · refine List.filter_eq_self.mpr fun g hg => ?_
    have hne : g ≠ q.filter := by
      rintro rfl
      simp [hg] at h
    simpa using hne

theorem nodup_grant {fs : List Filter} (h : fs.Nodup) (q : Wish) : (grant fs q).Nodup := by
  unfold grant
  split
  · split_ifs with hq
    · exact h
    · simpa using List.Nodup.concat hq h
  · exact h.filter _

theorem nodup_held (qs : List Wish) : (held qs).Nodup := by
  induction qs using List.reverseRecOn with
  | nil => exact List.nodup_nil
  | append_singleton qs q ih =>
    rw [held_concat]
    exact nodup_grant ih q

theorem mem_grant {fs : List Filter} {q : Wish} {f : Filter} :
    f ∈ grant fs q ↔ if q.filter = f then q.action = .subscribe else f ∈ fs := by
  obtain ⟨a, g⟩ := q
  cases a with
  | subscribe =>
    by_cases hg : g ∈ fs
    · by_cases hf : g = f
      · simp [grant, hg, ← hf]
      · simp [grant, hg, hf]
    · by_cases hf : g = f
      · simp [grant, hg, ← hf]
      · simp [grant, hg, hf, Ne.symm hf]
  | unsubscribe =>
    by_cases hf : g = f
    · simp [grant, hf]
    · simp [grant, hf, Ne.symm hf]

theorem last?_concat (f : Filter) (qs : List Wish) (q : Wish) :
    last? f (qs ++ [q]) = if q.filter = f then some q.action else last? f qs := by
  by_cases h : q.filter = f
  · simp [last?, h]
  · simp [last?, h]

/-- Held are the filters for which the last request was to subscribe. -/
theorem mem_held_iff {qs : List Wish} {f : Filter} :
    f ∈ held qs ↔ last? f qs = some .subscribe := by
  induction qs using List.reverseRecOn with
  | nil => simp [held, last?]
  | append_singleton qs q ih =>
    rw [held_concat, mem_grant, last?_concat]
    split_ifs
    · rw [Option.some_inj]
    · exact ih

theorem exists_of_mem_held {qs : List Wish} {f : Filter} (h : f ∈ held qs) :
    ∃ q ∈ qs, q.filter = f := by
  obtain ⟨q, hq, -⟩ := Option.map_eq_some_iff.mp (mem_held_iff.mp h)
  obtain ⟨hm, hf⟩ := List.mem_filter.mp (List.mem_of_getLast? hq)
  exact ⟨q, hm, by simpa using hf⟩

/-- Asking for distinct filters one by one. -/
theorem held_subscribe {fs : List Filter} (h : fs.Nodup) :
    held (fs.map fun f => ⟨.subscribe, f⟩) = fs := by
  induction fs using List.reverseRecOn with
  | nil => rfl
  | append_singleton fs f ih =>
    obtain ⟨hfs, -, hf⟩ := List.nodup_append.mp h
    have hnew : f ∉ fs := fun hm => hf f hm f (List.mem_singleton_self f) rfl
    rw [List.map_append, List.map_cons, List.map_nil, held_concat, ih hfs]
    simp [grant, hnew]

end Wish

end Fanout
