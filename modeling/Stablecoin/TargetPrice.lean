import Stablecoin.FixedPoint

set_option autoImplicit false

/-! # The crawling target price

Over a period the target price crawls in a straight line from one anchor to the next, and rests on
the next one after that. -/

namespace Stablecoin

/-- The price at time `now` of a crawl from `current` to `next` that starts at `start` and takes
    `length` seconds. A crawl that takes no time is over. -/
def targetPriceAt (current next : Amount) (start length now : Nat) : Except Fault Amount :=
  let elapsed := now - start
  if length = 0 ∨ length ≤ elapsed then .ok next
  else if current ≤ next then do
    let distance ← next.minus current
    let way ← mulDiv distance elapsed length
    current.plus way
  else do
    let distance ← current.minus next
    let way ← mulDiv distance elapsed length
    current.minus way

end Stablecoin
