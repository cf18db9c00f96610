import Fanout.Proofs.Settings.Parts
import Fanout.Proofs.Settings.Variables

/-!
Settings in layers. Main statement: each setting comes from its variable if that has a usable value,
else from the file if that names it, and else is the default.
-/
namespace Fanout

open Json

namespace Setting

variable {α : Type}

end Setting

/-- The object that a settings file holds. One that is missing holds the empty one. -/
def SettingsFile.Holds : SettingsFile → Object → Prop
  | .missing, o => o = []
  | .unreadable _, _ => False
  | .text content, o => Value.parse content = .ok (.obj o)

theorem SettingsFile.Holds.ordered {file : SettingsFile} {o : Object} (h : file.Holds o) :
    (Value.obj o).Ordered := by
  cases file with
  | missing =>
    rw [show o = [] from h]
    exact Value.ordered_nil
  | unreadable cause => cases h
  | text content => exact Value.ordered_of_parse h

end Fanout
