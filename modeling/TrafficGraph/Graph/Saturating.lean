/-!
# Saturating words

Sums and differences of words of 64 bits that stop at the ends of the range
instead of wrapping around.
-/

namespace TrafficGraph

/-- The largest word of 64 bits. -/
def largestWord : Nat := 18446744073709551615

/-- The sum of two words, at most the largest word. -/
def saturatingAdd (first second : UInt64) : UInt64 :=
  UInt64.ofNat (min (first.toNat + second.toNat) largestWord)

/-- The difference of two words, at least zero. -/
def saturatingSub (first second : UInt64) : UInt64 :=
  if second ≤ first then first - second else 0

@[simp] theorem toNat_saturatingAdd (first second : UInt64) :
    (saturatingAdd first second).toNat = min (first.toNat + second.toNat) largestWord := by
  rw [saturatingAdd, UInt64.toNat_ofNat_of_lt']
  rw [largestWord, UInt64.size]
  omega

@[simp] theorem toNat_saturatingSub (first second : UInt64) :
    (saturatingSub first second).toNat = first.toNat - second.toNat := by
  rw [saturatingSub]
  split
  · next ordered => exact UInt64.toNat_sub_of_le _ _ ordered
  · next unordered =>
    rw [UInt64.le_iff_toNat_le] at unordered
    simp
    omega

end TrafficGraph
