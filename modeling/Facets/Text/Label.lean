namespace Facets
namespace Text

/-- The text up to the first pair of closing brackets on the same line. -/
def beforeClosing? : List Char → Option (List Char)
  | [] => none
  | c :: cs =>
    if c = ']' ∧ cs.head? = some ']' then some []
    else if c = '\n' then none
    else (beforeClosing? cs).map (c :: ·)

/-- The label that stands between a pair of opening and a pair of closing
brackets: the leftmost opening that is closed on its line counts, with the first
closing after it. -/
def label? : List Char → Option (List Char)
  | [] => none
  | c :: cs =>
    let here := if c = '[' ∧ cs.head? = some '[' then beforeClosing? cs.tail else none
    here.or (label? cs)

/-- The label in a text, or the text itself when it holds none. -/
def label (cs : List Char) : List Char := (label? cs).getD cs

/-- The first text is a contiguous part of the second. -/
def isPart (part : List Char) : List Char → Bool
  | [] => part.isEmpty
  | c :: cs => part.isPrefixOf (c :: cs) || isPart part cs

end Text
end Facets
