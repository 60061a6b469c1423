namespace Courier.Text

/-! Sets of characters as ascending lists of closed code point ranges. -/

/-- Closed code point ranges, ascending and apart. -/
abbrev Ranges := List (Nat × Nat)

/-- The ranges hold a code point. -/
def Ranges.holds (ranges : Ranges) (codePoint : Nat) : Bool :=
  ranges.any fun range => range.1 ≤ codePoint && codePoint ≤ range.2

end Courier.Text
