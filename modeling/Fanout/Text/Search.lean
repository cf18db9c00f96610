/-! Looking for one text in another. -/
namespace Fanout.Text

/-- The text before `tail`, when the text ends in it. -/
def beforeSuffix? (tail cs : List Char) : Option (List Char) :=
  if tail.isSuffixOf cs then some (cs.take (cs.length - tail.length)) else none

/-- The text after `head`, when the text starts with it. -/
def afterHead? : List Char → List Char → Option (List Char)
  | [], cs => some cs
  | _ :: _, [] => none
  | h :: hs, c :: cs => if h = c then afterHead? hs cs else none

/-- Whether the text holds `part` somewhere. -/
def holds (part : List Char) : List Char → Bool
  | [] => part.isEmpty
  | c :: cs => part.isPrefixOf (c :: cs) || holds part cs

end Fanout.Text
