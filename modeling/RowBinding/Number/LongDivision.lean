import RowBinding.Number.Power

/-!
# Long division by words

The remainder of one natural number by another, worked out as on paper with
words of 32 bits for digits.

A divisor of at most two words leaves the usual remainder. A divisor of three
words is first shifted to the left until its leading bit is set, and the
dividend is shifted with it. The words of the dividend are then brought down
one by one. Each digit of the quotient is estimated from the leading words
alone, and an estimate has to fit in one word. It does not fit when the number
to be reduced and the divisor lead with the same word: the number then loses
that word instead of being reduced by a full digit.

So the result always lies below the divisor. It is the usual remainder for
every dividend of three words, and for a longer one as long as no two leading
words meet.
-/

namespace RowBinding
namespace LongDivision

/-- The digits of a long division stay below this base. -/
def wordBase : Nat :=
  4294967296

/-- Numbers of two words stay below this bound. -/
def twoWords : Nat :=
  18446744073709551616

/-- Numbers of three words stay below this bound. -/
def threeWords : Nat :=
  79228162514264337593543950336

/-- Bring the next word down to what is left so far, and reduce. -/
def bringDown (divisor left word : Nat) : Nat :=
  let number := left * wordBase + word
  if number / threeWords = divisor / twoWords then
    number % threeWords % divisor
  else
    number % divisor

/-- What a divisor of three full words leaves of a dividend of some words. -/
def reduceWords (divisor : Nat) : Nat → Nat → Nat
  | 0, _ => 0
  | words + 1, dividend =>
      bringDown divisor (reduceWords divisor words (dividend / wordBase)) (dividend % wordBase)

/-- How many words a number takes. -/
def wordCount (number : Nat) : Nat :=
  number.log2 / 32 + 1

/-- The factor that shifts a number of three words to its full length. -/
def fillFactor (divisor : Nat) : Nat :=
  twoPow (95 - divisor.log2)

/-- The remainder by a divisor of at most three words. -/
def remainder (dividend divisor : Nat) : Nat :=
  if divisor < twoWords then
    dividend % divisor
  else
    let factor := fillFactor divisor
    let filled := dividend * factor
    reduceWords (divisor * factor) (wordCount filled) filled / factor

theorem bringDown_lt (divisor left word : Nat) (positive : 0 < divisor) :
    bringDown divisor left word < divisor := by
  unfold bringDown
  dsimp only
  split <;> exact Nat.mod_lt _ positive

theorem reduceWords_lt (divisor words dividend : Nat) (positive : 0 < divisor) :
    reduceWords divisor words dividend < divisor := by
  cases words with
  | zero => exact positive
  | succ words => exact bringDown_lt _ _ _ positive

theorem fillFactor_pos (divisor : Nat) : 0 < fillFactor divisor :=
  twoPow_pos _

theorem remainder_lt (dividend divisor : Nat) (positive : 0 < divisor) :
    remainder dividend divisor < divisor := by
  unfold remainder
  split
  · exact Nat.mod_lt _ positive
  · exact Nat.div_lt_of_lt_mul (Nat.mul_comm divisor _ ▸
      reduceWords_lt _ _ _ (Nat.mul_pos positive (fillFactor_pos _)))

theorem remainder_of_lt_twoWords (dividend divisor : Nat) (short : divisor < twoWords) :
    remainder dividend divisor = dividend % divisor := by
  simp [remainder, short]

theorem bringDown_eq_mod
    (divisor number : Nat)
    (full : 39614081257132168796771975168 ≤ divisor)
    (small : number < 170141183460469231731687303715884105728) :
    bringDown divisor (number / wordBase) (number % wordBase) = number % divisor := by
  have rejoined : number / wordBase * wordBase + number % wordBase = number := by
    unfold wordBase; omega
  have apart : ¬number / threeWords = divisor / twoWords := by
    unfold threeWords twoWords; omega
  simp [bringDown, rejoined, apart]

theorem reduceWords_eq_self
    (divisor words number : Nat)
    (full : 39614081257132168796771975168 ≤ divisor)
    (small : number < 39614081257132168796771975168)
    (fits : number < twoPow (32 * words)) :
    reduceWords divisor words number = number := by
  induction words generalizing number with
  | zero => simp [twoPow] at fits; simp [reduceWords, fits]
  | succ words inductionHypothesis =>
      have power : twoPow (32 * (words + 1)) = twoPow (32 * words) * wordBase :=
        Nat.pow_add 2 (32 * words) 32
      have fewer : number / wordBase < twoPow (32 * words) :=
        Nat.div_lt_of_lt_mul (by rw [Nat.mul_comm, ← power]; exact fits)
      have smaller : number / wordBase < 39614081257132168796771975168 :=
        Nat.lt_of_le_of_lt (Nat.div_le_self _ _) small
      rw [reduceWords, inductionHypothesis _ smaller fewer,
        bringDown_eq_mod _ _ full (by omega), Nat.mod_eq_of_lt (by omega)]

theorem lt_twoPow_wordCount (number : Nat) : number < twoPow (32 * wordCount number) := by
  refine Nat.lt_of_lt_of_le Nat.lt_log2_self ?_
  exact Nat.pow_le_pow_right (by decide) (by unfold wordCount; omega)

theorem le_mul_fillFactor (divisor : Nat) (positive : divisor ≠ 0) :
    39614081257132168796771975168 ≤ divisor * fillFactor divisor := by
  have below : twoPow divisor.log2 ≤ divisor := Nat.log2_self_le positive
  have power : twoPow divisor.log2 * fillFactor divisor =
      twoPow (divisor.log2 + (95 - divisor.log2)) :=
    (Nat.pow_add 2 _ _).symm
  have grown : twoPow 95 ≤ twoPow (divisor.log2 + (95 - divisor.log2)) :=
    Nat.pow_le_pow_right (by decide) (by omega)
  exact Nat.le_trans (power ▸ grown) (Nat.mul_le_mul_right _ below)

theorem fillFactor_le (divisor : Nat) (long : twoWords ≤ divisor) :
    fillFactor divisor ≤ 2147483648 := by
  have leading : 64 ≤ divisor.log2 :=
    (Nat.le_log2 (by unfold twoWords at long; omega)).mpr long
  exact Nat.pow_le_pow_right (by decide) (by omega : 95 - divisor.log2 ≤ 31)

/-- A dividend of three words leaves the usual remainder. -/
theorem remainder_of_lt_threeWords (dividend divisor : Nat) (small : dividend < threeWords) :
    remainder dividend divisor = dividend % divisor := by
  by_cases short : divisor < twoWords
  · exact remainder_of_lt_twoWords _ _ short
  · have long : twoWords ≤ divisor := Nat.le_of_not_lt short
    have full := le_mul_fillFactor divisor (by unfold twoWords at long; omega)
    have factorLe := fillFactor_le divisor long
    have factorPos := fillFactor_pos divisor
    generalize hFactor : fillFactor divisor = factor at full factorLe factorPos
    have filledSmall : dividend * factor < 170141183460469231731687303715884105728 :=
      Nat.lt_of_le_of_lt (Nat.mul_le_mul_left _ factorLe) (by unfold threeWords at small; omega)
    have count := lt_twoPow_wordCount (dividend * factor)
    have reduced : reduceWords (divisor * factor) (wordCount (dividend * factor))
        (dividend * factor) = dividend * factor % (divisor * factor) := by
      unfold wordCount at count ⊢
      rw [reduceWords, reduceWords_eq_self _ _ _ full, bringDown_eq_mod _ _ full filledSmall]
      · unfold wordBase; omega
      · refine Nat.div_lt_of_lt_mul (Nat.lt_of_lt_of_le count (Nat.le_of_eq ?_))
        rw [Nat.mul_comm wordBase]
        exact Nat.pow_add 2 (32 * _) 32
    simp only [remainder, short, if_false, hFactor, reduced]
    rw [Nat.mul_mod_mul_right, Nat.mul_div_cancel _ factorPos]

end LongDivision
end RowBinding
