import TagIndex.Text.LowercaseRanges

/-! Lowercase characters. -/

namespace TagIndex.Text

def isLowercase (c : Char) : Bool :=
  lowercaseRanges.any fun (lo, hi) => lo ≤ c.toNat && c.toNat ≤ hi

end TagIndex.Text
