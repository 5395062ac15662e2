/-!
# Sets of characters as ranges of code points

The character classes of the Unicode standard are finite unions of ranges. A class is kept as
the list of its ranges, lowest first, and membership is a search of that list.
-/
namespace JavaLauncher.Text

/-- A set of characters: the first and last code point of each of its ranges, lowest first. -/
abbrev CodeRanges := List (Nat × Nat)

/-- A character lies in one of the ranges. -/
def CodeRanges.contains (ranges : CodeRanges) (c : Char) : Bool :=
  ranges.any fun range => range.1 ≤ c.toNat && c.toNat ≤ range.2

end JavaLauncher.Text
