import Fanout.Proofs.Client.Run
import Mathlib.Logic.Relation

/-! Runs of a session under the eyes of someone who takes notes. -/
namespace Fanout.Session

def Occasion.isHandshake : Occasion → Bool
  | .accepted _ => true
  | _ => false

/-- What is noted of an occasion, given the session before and after it. -/
structure Observer (ν : Type) where
  blank : ν
  note : Occasion → (before after : Session) → ν → ν

structure Observed (ν : Type) where
  session : Session
  wire : Wire := {}
  notes : ν

namespace Observer

variable {ν : Type}

def start (ob : Observer ν) (config : SessionConfig) : Observed ν :=
  { session := .new config, notes := ob.blank }

/-- What comes of an occasion. One that cannot arise changes nothing. -/
def step (ob : Observer ν) (o : Occasion) (now : Nat) (random : Float) (t : Observed ν) :
    Observed ν :=
  match respond o now random t.session t.wire with
  | some (s, w) => ⟨s, w, ob.note o t.session s t.notes⟩
  | none => t

def Later (ob : Observer ν) : Observed ν → Observed ν → Prop :=
  Relation.ReflTransGen fun t t' => ∃ o now random, t' = ob.step o now random t

def Reachable (ob : Observer ν) (config : SessionConfig) : Observed ν → Prop :=
  ob.Later (ob.start config)

/-- What comes of occasions one after the other, each with the time at which it arises. -/
def follow (ob : Observer ν) (random : Float) (os : List (Occasion × Nat)) (t : Observed ν) :
    Observed ν :=
  os.foldl (fun t o => ob.step o.1 o.2 random t) t

variable {ob : Observer ν}

theorem Later.step {t t' : Observed ν} (h : ob.Later t t') (o : Occasion) (now : Nat)
    (random : Float) : ob.Later t (ob.step o now random t') :=
  h.tail ⟨o, now, random, rfl⟩

theorem later_follow (ob : Observer ν) (random : Float) (os : List (Occasion × Nat))
    (t : Observed ν) : ob.Later t (ob.follow random os t) := by
  induction os generalizing t with
  | nil => exact .refl
  | cons o os ih => exact .head ⟨o.1, o.2, random, rfl⟩ (ih _)

/-- What every answer to an occasion keeps holds from then on. -/
theorem Later.keeps {t t' : Observed ν} {P : Observed ν → Prop} (h : ob.Later t t') (ht : P t)
    (hstep : ∀ t o now random s w, P t → respond o now random t.session t.wire = some (s, w) →
      P ⟨s, w, ob.note o t.session s t.notes⟩) : P t' := by
  induction h with
  | refl => exact ht
  | @tail t₁ t₂ _ hnext ih =>
    obtain ⟨o, now, random, rfl⟩ := hnext
    unfold Observer.step
    split
    · rename_i s w hr
      exact hstep t₁ o now random s w ih hr
    · exact ih

end Observer

end Fanout.Session
