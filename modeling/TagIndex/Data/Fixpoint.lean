/-! Repeating a step until it changes nothing. -/

namespace TagIndex

/-- Repeat a step until it changes nothing. The fuel bounds the number of repetitions. -/
def settleBy {α : Type} [BEq α] (step : α → α) : Nat → α → α
  | 0, x => x
  | fuel + 1, x =>
    let y := step x
    if y == x then x else settleBy step fuel y

end TagIndex
