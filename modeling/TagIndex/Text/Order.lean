import TagIndex.Text.Utf8

/-! The order of texts by their bytes. -/

namespace TagIndex.Text

/-- The first text does not come after the second when both are compared byte by byte. -/
def bytesLe (a b : String) : Bool := Utf8.encode a.toList ≤ Utf8.encode b.toList

end TagIndex.Text
