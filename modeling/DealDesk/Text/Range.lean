/-!
# Ranges of characters

A set of characters as the list of its ranges, each given by the numbers of its
first and its last character.
-/

namespace DealDesk
namespace Text

/-- The character is in one of the ranges. -/
def isAmong (ranges : List (Nat × Nat)) (c : Char) : Bool :=
  ranges.any fun r => r.1 ≤ c.toNat && c.toNat ≤ r.2

end Text
end DealDesk
