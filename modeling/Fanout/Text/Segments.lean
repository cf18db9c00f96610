/-! Dot-separated names. -/
namespace Fanout.Text

/-- The parts of a name between its dots. A name without a dot is one part. -/
def segments : List Char → List (List Char)
  | [] => [[]]
  | c :: cs =>
    if c = '.' then [] :: segments cs
    else match segments cs with
      | [] => [[c]]
      | s :: rest => (c :: s) :: rest

theorem segments_ne_nil (cs : List Char) : segments cs ≠ [] := by
  cases cs with
  | nil => simp [segments]
  | cons c cs =>
    unfold segments
    split
    · simp
    · split <;> simp

/-- Two dots in a row, or a dot at either end, leave an empty part. -/
def hasEmptySegment (cs : List Char) : Bool := (segments cs).any List.isEmpty

/-- What follows the last dot, or the whole name. -/
def lastSegment (cs : List Char) : List Char := (segments cs).getLast (segments_ne_nil cs)

end Fanout.Text
