import RegisterAssembly.Fault
import RegisterAssembly.Listing

/-!
# Selecting tokens by position

Positions count from zero, and negative ones from the end.  A stretch runs from `start` up to, but
not including, `stop` in steps of `step`, backwards if the step is negative; ends that lie outside
are moved to the nearest place inside, and an absent end is the one that the step comes from or
goes to.
-/

namespace RegisterAssembly
namespace Listing

/-- The index that a position counted from either end denotes. -/
def index? (size : Nat) (position : Int) : Option Nat :=
  let index := if position < 0 then position + size else position
  if 0 ≤ index ∧ index < size then some index.toNat else none

/-- The token at a position. -/
def token? (listing : Listing) (position : Int) : Option Token :=
  (index? listing.tokens.length position).bind (listing.tokens[·]?)

/-- The token at a position, or why there is none. -/
def tokenAt (listing : Listing) (position : Int) : Except Fault Token :=
  match listing.token? position with
  | some token => .ok token
  | none =>
      if -positionMax - 1 ≤ position ∧ position ≤ positionMax then .error .outside
      else .error .positionOverflow

/-- Change the token at a position. -/
def modify (listing : Listing) (position : Int) (change : Token → Token) : Listing :=
  match index? listing.tokens.length position with
  | some index => { listing with tokens := listing.tokens.modify index change }
  | none => listing

/-- An end of a stretch, moved between the bounds `low` and `high`. -/
def clampEnd (size : Nat) (low high : Int) (position : Int) : Int :=
  let index := if position < 0 then position + size else position
  max low (min high index)

/-- The `count` integers from `start` on in steps of `step`. -/
def progression (start step : Int) : Nat → List Int
  | 0 => []
  | count + 1 => start :: progression (start + step) step count

/-- The indices of a stretch of a sequence of `size` elements; a step of zero denotes none. -/
def stretch (size : Nat) (start stop : Option Int) (step : Int) : List Int :=
  if 0 < step then
    let first := (start.map (clampEnd size 0 size)).getD 0
    let last := (stop.map (clampEnd size 0 size)).getD size
    progression first step ((last - first + step - 1) / step).toNat
  else if step < 0 then
    let first := (start.map (clampEnd size (-1) (size - 1))).getD (size - 1)
    let last := (stop.map (clampEnd size (-1) (size - 1))).getD (-1)
    progression first step ((first - last - step - 1) / (-step)).toNat
  else
    []

/-- The tokens of a stretch, or `none` if the step is zero. -/
def select? (listing : Listing) (start stop : Option Int) (step : Int) : Option (List Token) :=
  if step = 0 then none
  else
    some ((stretch listing.tokens.length start stop step).filterMap
      fun index => listing.tokens[index.toNat]?)

end Listing
end RegisterAssembly
