import Bookmarks.Number.Basic
import Bookmarks.Number.Numeral

/-!
# Settings of relevance

`RelevanceConfig` holds the weights and the decay of usage relevance, with their usual values in
`RelevanceConfig.standard`.
-/

namespace Bookmarks

/-- The weights and the decay of relevance. -/
structure RelevanceConfig where
  /-- The weight of the clicks. -/
  clickWeight : Number
  /-- The weight of the last visit. -/
  recencyWeight : Number
  /-- The days after which a visit fades twice as fast. -/
  decayDays : Number
  /-- How much of a visit fades in a day. -/
  decayRate : Number
  /-- The least score, before a bonus. -/
  minScore : Number
  /-- The bonus of a bookmark that has just been added. -/
  newItemBoost : Number
  /-- The days in which the bonus fades to nothing. -/
  newItemDays : Number
deriving DecidableEq

/-- The number of 64 bits nearest to `digits * 10 ^ -places`. -/
def decimal (digits places : Nat) : Number :=
  .real (Numeral.ofDecimal false digits (-places))

/-- The usual settings. -/
def RelevanceConfig.standard : RelevanceConfig where
  clickWeight := decimal 7 1
  recencyWeight := decimal 3 1
  decayDays := .int 30
  decayRate := decimal 2 2
  minScore := decimal 1 1
  newItemBoost := decimal 2 1
  newItemDays := .int 7

end Bookmarks
