/-!
# Character classes given by ranges

A class of characters beyond ASCII is a table: closed ranges of code points, in ascending order.
Membership is a plain search, so a class is decided by evaluation and needs no invariant of its
table; ASCII is never looked up here but decided by each class itself, which is what its lemmas
are about.

## Main definitions

* `Text.Ranges` — a table of closed ranges
* `Text.Ranges.covers` — membership of a code point
-/

namespace Introspection.Text

/-- A table of closed ranges of code points. -/
abbrev Ranges := List (Nat × Nat)

/-- Whether a code point lies in one of the ranges. -/
def Ranges.covers (table : Ranges) (point : Nat) : Bool :=
  table.any fun range => range.1 ≤ point && point ≤ range.2

/-- The empty table covers nothing. -/
@[simp] theorem Ranges.covers_nil (point : Nat) : Ranges.covers [] point = false := rfl

end Introspection.Text
