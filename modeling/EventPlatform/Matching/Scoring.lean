import Mathlib

/-! # Pairwise match scores

`computeMatchScore` is the Jaccard similarity of two tag sets scaled by the
event's tag weight and clamped to `[0, 1]`.  Scores are exact rationals here;
the source computes them in floating point. -/

namespace EventPlatform.Matching

/-- Normalized participant data: only set membership of the tag ids matters. -/
structure ParticipantProfile where
  tagIds : Finset String

/-- Event-level scoring configuration.  `nonneg` is what `__post_init__` checks:
    a weight that is not a non-negative finite number is never constructed. -/
structure ScoringWeights where
  tagWeight : ℚ
  nonneg : 0 ≤ tagWeight

/-- `weights.tag_weight` defaults to `1.0`, the raw Jaccard similarity. -/
def ScoringWeights.default : ScoringWeights := ⟨1, zero_le_one⟩

def computeMatchScore (profileA profileB : ParticipantProfile) (weights : ScoringWeights) : ℚ :=
  let union := profileA.tagIds ∪ profileB.tagIds
  if union = ∅ then 0
  else
    let intersection := profileA.tagIds ∩ profileB.tagIds
    let jaccard : ℚ := intersection.card / union.card
    let raw := weights.tagWeight * jaccard
    min 1 (max 0 raw)

theorem computeMatchScore_nonneg (profileA profileB : ParticipantProfile)
    (weights : ScoringWeights) : 0 ≤ computeMatchScore profileA profileB weights := by
  simp only [computeMatchScore]
  split
  · exact le_refl 0
  · exact le_min zero_le_one (le_max_left 0 _)

theorem computeMatchScore_le_one (profileA profileB : ParticipantProfile)
    (weights : ScoringWeights) : computeMatchScore profileA profileB weights ≤ 1 := by
  simp only [computeMatchScore]
  split
  · exact zero_le_one
  · exact min_le_left 1 _

end EventPlatform.Matching
