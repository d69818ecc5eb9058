/-!
# Machine integers

Counts and durations are 64-bit signed integers: arithmetic on them wraps around modulo
`2⁶⁴` into the range `[-2⁶³, 2⁶³)`.

* `TopicBridge.Num.wrap64`, `TopicBridge.Num.mul64`.
-/

namespace TopicBridge.Num

/-- The least 64-bit signed integer, `-2⁶³`. -/
def minInt64 : Int := -9223372036854775808

/-- The greatest 64-bit signed integer, `2⁶³ - 1`. -/
def maxInt64 : Int := 9223372036854775807

/-- The 64-bit signed integer congruent to `x` modulo `2⁶⁴ = 18446744073709551616`. -/
def wrap64 (x : Int) : Int :=
  let m := x % 18446744073709551616
  if m ≥ 9223372036854775808 then m - 18446744073709551616 else m

/-- A product of 64-bit integers, wrapped. -/
def mul64 (a b : Int) : Int := wrap64 (a * b)

/-- A negation of a 64-bit integer, wrapped: the least one is its own negation. -/
def neg64 (a : Int) : Int := wrap64 (-a)

theorem wrap64_small (x : Int) (h0 : 0 ≤ x) (h1 : x < 9223372036854775808) : wrap64 x = x := by
  unfold wrap64
  have h2 : x % 18446744073709551616 = x := Int.emod_eq_of_lt h0 (by omega)
  simp only [h2]
  split <;> omega

end TopicBridge.Num
