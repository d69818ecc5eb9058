import Mathlib
import TopicBridge.Ingest.Lanes

/-!
# The lane of a partition

The fetcher puts a record on the lane of its partition (`TopicBridge.Ingest.laneOf`): the
absolute value of the partition modulo the number of lanes. The absolute value is a 64-bit
negation, and 64-bit negation has one fixed point besides zero: the least partition
`-2⁶³` is its own negation. The remainder then keeps the sign of that negative dividend.

`TopicBridge.Ingest.partition_lane`: for every 64-bit partition `p` and every number `n` of
lanes, `laneOf p n` is `|p| mod n`, except at `p = -2⁶³`, where it is `-(2⁶³ mod n)`. So the
lane is in range for every partition but the least one, and for that one exactly when `n`
divides `2⁶³`, that is, when `n` is a power of two. With three lanes the least partition
goes to lane `-2`, and the fetcher cannot hand the record to any lane
(`TopicBridge.Ingest.least_partition_negative_lane`).
-/

namespace TopicBridge.Ingest

open TopicBridge.Num

/-! ### 64-bit negation -/

/-- Negation of a partition above the least one is exact. -/
theorem neg64_of_gt_minInt64 {p : Int} (hp : minInt64 < p) (hp0 : p < 0) : neg64 p = -p :=
  wrap64_small (-p) (by omega) (by unfold minInt64 at hp; omega)

/-- The least 64-bit integer is its own negation. -/
theorem neg64_minInt64 : neg64 minInt64 = minInt64 := by decide

/-! ### The lane -/

/-- The remainder of a partition that is not negative. -/
theorem tmod_of_nonneg {p : Int} (hp : 0 ≤ p) (n : Nat) :
    p.tmod n = ((p.natAbs % n : Nat) : Int) := by
  rw [Int.tmod_eq_emod_of_nonneg hp, Int.natCast_mod, Int.natAbs_of_nonneg hp]

/-- **The lane of a partition**: `|p| mod n`, except for the least partition, whose
negation is itself and whose remainder keeps its sign. -/
theorem laneOf_eq {p : Int} (hp : minInt64 ≤ p) {n : Nat} (hn : 0 < n) :
    laneOf p n = some (if p = minInt64 then -((2 ^ 63 % n : Nat) : Int)
      else ((p.natAbs % n : Nat) : Int)) := by
  have hn' : (n : Int) ≠ 0 := by omega
  simp only [laneOf, hn', if_false, Option.some.injEq]
  by_cases hmin : p = minInt64
  · -- the least partition: `-2⁶³` divided with the remainder taking its sign
    subst hmin
    have h : (minInt64 : Int) = -((2 ^ 63 : Nat) : Int) := by decide
    rw [if_pos (by decide), neg64_minInt64, if_pos rfl, h, Int.neg_tmod,
      tmod_of_nonneg (by positivity) n, Int.natAbs_natCast]
  · rw [if_neg hmin]
    by_cases hneg : p < 0
    · rw [if_pos hneg, neg64_of_gt_minInt64 (lt_of_le_of_ne hp (Ne.symm hmin)) hneg,
        tmod_of_nonneg (by omega) n, Int.natAbs_neg]
    · rw [if_neg hneg, tmod_of_nonneg (by omega) n]

/-- The lane is in range exactly when the partition is not the least one, or the number
of lanes divides `2⁶³`. -/
theorem laneOf_mem_range_iff {p : Int} (hp : minInt64 ≤ p) {n : Nat} (hn : 0 < n) :
    (∃ l, laneOf p n = some l ∧ 0 ≤ l ∧ l < n) ↔ (p ≠ minInt64 ∨ n ∣ 2 ^ 63) := by
  rw [laneOf_eq hp hn]
  have hlt : p.natAbs % n < n := Nat.mod_lt _ hn
  by_cases hmin : p = minInt64
  · -- `-(2⁶³ mod n)` is in range only when it is zero
    simp only [hmin, if_true, Option.some.injEq, exists_eq_left', ne_eq, not_true_eq_false,
      false_or, Nat.dvd_iff_mod_eq_zero]
    have := Nat.mod_lt (2 ^ 63) hn
    omega
  · simp only [hmin, if_false, Option.some.injEq, exists_eq_left', ne_eq, not_false_eq_true,
      true_or, iff_true]
    omega

/-- The lane a record is put on among `n` lanes: `|p| mod n`, and none for the least
partition unless `n` divides `2⁶³`. -/
theorem laneIndex_eq {r : Record} (hp : minInt64 ≤ r.partition) {n : Nat} (hn : 0 < n) :
    Lanes.laneIndex n r = if r.partition = minInt64 ∧ ¬ n ∣ 2 ^ 63 then none
      else some (r.partition.natAbs % n) := by
  unfold Lanes.laneIndex
  rw [laneOf_eq hp hn]
  dsimp only
  by_cases hmin : r.partition = minInt64
  · have habs : r.partition.natAbs = 2 ^ 63 := by rw [hmin]; decide
    rw [if_pos hmin, habs]
    by_cases hdvd : n ∣ 2 ^ 63
    · -- a power of two divides `2⁶³`: the remainder is zero, so the lane is the first
      rw [Nat.mod_eq_zero_of_dvd hdvd,
        if_neg (show ¬(r.partition = minInt64 ∧ ¬n ∣ 2 ^ 63) from fun h => h.2 hdvd)]
      simp [hn]
    · -- otherwise the lane is negative
      have hz : 0 < 2 ^ 63 % n := Nat.pos_of_ne_zero fun h => hdvd (Nat.dvd_of_mod_eq_zero h)
      have hz' : (0 : Int) < ((2 ^ 63 % n : Nat) : Int) := by exact_mod_cast hz
      rw [if_pos (And.intro hmin hdvd),
        if_neg (show ¬(0 ≤ -((2 ^ 63 % n : Nat) : Int) ∧ _) from fun h => by omega)]
  · have hlt : ((r.partition.natAbs % n : Nat) : Int) < n := by
      exact_mod_cast Nat.mod_lt _ hn
    rw [if_neg hmin, if_neg (show ¬(r.partition = minInt64 ∧ ¬n ∣ 2 ^ 63) from fun h => hmin h.1),
      if_pos (And.intro (by omega) hlt), Int.toNat_natCast]

/-! ### Every partition -/

/-- **The lane of every partition.** For every 64-bit partition `p` and every positive
number `n` of lanes, `laneOf p n` is `|p| mod n`, except at the least partition `-2⁶³`,
where it is `-(2⁶³ mod n)`. The lane is in range for every partition but the least one, and
for that one exactly when `n` divides `2⁶³`; the fetcher puts a record of partition `p` on
lane `|p| mod n`, and a record of the least partition on no lane when `n` does not divide
`2⁶³`. -/
theorem partition_lane (p : Int) (hp : minInt64 ≤ p) (n : Nat) (hn : 0 < n) :
    laneOf p n = some (if p = minInt64 then -((2 ^ 63 % n : Nat) : Int)
        else ((p.natAbs % n : Nat) : Int)) ∧
      ((∃ l, laneOf p n = some l ∧ 0 ≤ l ∧ l < n) ↔ (p ≠ minInt64 ∨ n ∣ 2 ^ 63)) ∧
      ∀ r : Record, r.partition = p →
        Lanes.laneIndex n r = if p = minInt64 ∧ ¬ n ∣ 2 ^ 63 then none
          else some (p.natAbs % n) := by
  refine ⟨laneOf_eq hp hn, laneOf_mem_range_iff hp hn, ?_⟩
  rintro r rfl
  exact laneIndex_eq hp hn

/-- With the default eight lanes even the least partition has a lane: the first. -/
theorem least_partition_default_lanes :
    minInt64 ≤ minInt64 ∧ 0 < 8 ∧ Lanes.laneIndex 8 { partition := minInt64 } = some 0 := by
  have h := (partition_lane minInt64 le_rfl 8 (by decide)).2.2 { partition := minInt64 } rfl
  refine ⟨le_rfl, by decide, ?_⟩
  rw [h, if_neg (by decide)]
  rfl

/-- With three lanes the least partition goes to lane `-2`, out of range, and its records
go on no lane. -/
theorem least_partition_negative_lane :
    laneOf minInt64 3 = some (-2) ∧ Lanes.laneIndex 3 { partition := minInt64 } = none := by
  decide

end TopicBridge.Ingest
