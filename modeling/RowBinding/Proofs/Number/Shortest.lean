import RowBinding.Number.Shortest
import RowBinding.Proofs.Number.Ranks

/-!
# Shortest digits that read back

On every decimal grid the numbers that read back as a float surround it, so if
any point of the grid reads back one of the two neighbours of the float does.
The search therefore stops at the coarsest grid with such a point, and at the
nearest of its points. The finest grid that it tries has such a point, because
its unit is smaller than the spacing below the float.
-/

namespace RowBinding
namespace FloatFormat

variable {format : FloatFormat} {rank : Nat}

/--
A coefficient at a place gives the shortest digits of a float.

It reads back, no point of a coarser grid does up to the grid of the leading digit,
and no point of its own grid that reads back is nearer to the float.
-/
structure IsShortest
    (format : FloatFormat)
    (rank coefficient : Nat)
    (place : Int) : Prop where
  place_le : place ≤ decimalExponent (format.magnitude rank)
  readsBack : format.nearestRank (coefficient * (10 : Rat) ^ place) = rank
  coarsest : ∀ {other : Nat} {higher : Int}, place < higher →
    higher ≤ decimalExponent (format.magnitude rank) →
      format.nearestRank (other * (10 : Rat) ^ higher) ≠ rank
  nearest : ∀ {other : Nat}, format.nearestRank (other * (10 : Rat) ^ place) = rank →
    |format.magnitude rank - coefficient * (10 : Rat) ^ place| ≤
      |format.magnitude rank - other * (10 : Rat) ^ place|

/-! ## The neighbours on one grid -/

section Grid

/-- The number of units of a grid below a float. -/
def unitsBelow (format : FloatFormat) (rank : Nat) (place : Int) : Nat :=
  (format.magnitude rank / (10 : Rat) ^ place).floor.toNat

variable {place : Int}

theorem unit_pos (place : Int) : (0 : Rat) < (10 : Rat) ^ place :=
  zpow_pos (by norm_num) place

theorem unitsBelow_mul_le (format : FloatFormat) (rank : Nat) (place : Int) :
    format.unitsBelow rank place * (10 : Rat) ^ place ≤ format.magnitude rank := by
  rw [← le_div_iff₀ (unit_pos place)]
  exact Nat.floor_le (div_nonneg (format.magnitude_nonneg rank) (unit_pos place).le)

theorem lt_unitsBelow_add_one_mul (format : FloatFormat) (rank : Nat) (place : Int) :
    format.magnitude rank <
      ((format.unitsBelow rank place + 1 : Nat) : Rat) * (10 : Rat) ^ place := by
  rw [← div_lt_iff₀ (unit_pos place), Nat.cast_succ]
  exact Nat.lt_floor_add_one _

/-- A point below the float reads back only if the neighbour below does. -/
theorem readsBack_unitsBelow
    {count : Nat}
    (finite : rank < format.infinityRank)
    (isBelow : count ≤ format.unitsBelow rank place)
    (readsBack : format.nearestRank (count * (10 : Rat) ^ place) = rank) :
    format.nearestRank (format.unitsBelow rank place * (10 : Rat) ^ place) = rank ∧
      |format.magnitude rank - format.unitsBelow rank place * (10 : Rat) ^ place| ≤
        |format.magnitude rank - count * (10 : Rat) ^ place| := by
  have isLess : (count : Rat) * (10 : Rat) ^ place ≤
      format.unitsBelow rank place * (10 : Rat) ^ place :=
    mul_le_mul_of_nonneg_right (Nat.cast_le.mpr isBelow) (unit_pos place).le
  have isLower := format.unitsBelow_mul_le rank place
  constructor
  · refine le_antisymm ?_ ?_
    · exact (format.nearestRank_mono isLower).trans_eq (format.nearestRank_magnitude finite.le)
    · exact readsBack.symm.trans_le (format.nearestRank_mono isLess)
  · rw [abs_of_nonneg (by linarith), abs_of_nonneg (by linarith)]
    linarith

/-- A point above the float reads back only if the neighbour above does. -/
theorem readsBack_unitsBelow_add_one
    {count : Nat}
    (finite : rank < format.infinityRank)
    (isAbove : format.unitsBelow rank place < count)
    (readsBack : format.nearestRank (count * (10 : Rat) ^ place) = rank) :
    format.nearestRank
        (((format.unitsBelow rank place + 1 : Nat) : Rat) * (10 : Rat) ^ place) = rank ∧
      |format.magnitude rank -
          ((format.unitsBelow rank place + 1 : Nat) : Rat) * (10 : Rat) ^ place| ≤
        |format.magnitude rank - count * (10 : Rat) ^ place| := by
  have isLess : ((format.unitsBelow rank place + 1 : Nat) : Rat) * (10 : Rat) ^ place ≤
      count * (10 : Rat) ^ place :=
    mul_le_mul_of_nonneg_right (Nat.cast_le.mpr isAbove) (unit_pos place).le
  have isUpper := format.lt_unitsBelow_add_one_mul rank place
  constructor
  · refine le_antisymm ?_ ?_
    · exact (format.nearestRank_mono isLess).trans_eq readsBack
    · exact (format.nearestRank_magnitude finite.le).symm.trans_le
        (format.nearestRank_mono isUpper.le)
  · rw [abs_of_nonpos (by linarith), abs_of_nonpos (by linarith)]
    linarith

/-- The neighbour below is the nearest point that reads back, if the one above does not
or is no nearer. -/
theorem abs_sub_unitsBelow_le
    (finite : rank < format.infinityRank)
    (noNearer : format.nearestRank
        (((format.unitsBelow rank place + 1 : Nat) : Rat) * (10 : Rat) ^ place) = rank →
      |format.magnitude rank - format.unitsBelow rank place * (10 : Rat) ^ place| ≤
        |format.magnitude rank -
          ((format.unitsBelow rank place + 1 : Nat) : Rat) * (10 : Rat) ^ place|)
    (other : Nat)
    (readsBack : format.nearestRank (other * (10 : Rat) ^ place) = rank) :
    |format.magnitude rank - format.unitsBelow rank place * (10 : Rat) ^ place| ≤
      |format.magnitude rank - other * (10 : Rat) ^ place| := by
  rcases Nat.lt_or_ge (format.unitsBelow rank place) other with above | below
  · obtain ⟨hits, nearer⟩ := readsBack_unitsBelow_add_one finite above readsBack
    exact (noNearer hits).trans nearer
  · exact (readsBack_unitsBelow finite below readsBack).2

/-- The neighbour above is the nearest point that reads back, if the one below does not
or is no nearer. -/
theorem abs_sub_unitsBelow_add_one_le
    (finite : rank < format.infinityRank)
    (noNearer :
      format.nearestRank (format.unitsBelow rank place * (10 : Rat) ^ place) = rank →
        |format.magnitude rank -
            ((format.unitsBelow rank place + 1 : Nat) : Rat) * (10 : Rat) ^ place| ≤
          |format.magnitude rank - format.unitsBelow rank place * (10 : Rat) ^ place|)
    (other : Nat)
    (readsBack : format.nearestRank (other * (10 : Rat) ^ place) = rank) :
    |format.magnitude rank -
        ((format.unitsBelow rank place + 1 : Nat) : Rat) * (10 : Rat) ^ place| ≤
      |format.magnitude rank - other * (10 : Rat) ^ place| := by
  rcases Nat.lt_or_ge (format.unitsBelow rank place) other with above | below
  · exact (readsBack_unitsBelow_add_one finite above readsBack).2
  · obtain ⟨hits, nearer⟩ := readsBack_unitsBelow finite below readsBack
    exact (noNearer hits).trans nearer

end Grid

/-! ## The search -/

theorem searchGrids_eq_ite
    (format : FloatFormat)
    (tie : TieRule)
    (rank grids : Nat)
    (place : Int) :
    let value := format.magnitude rank
    let below := format.unitsBelow rank place
    let lower := (below : Rat) * (10 : Rat) ^ place
    let upper := ((below + 1 : Nat) : Rat) * (10 : Rat) ^ place
    format.searchGrids tie rank value (grids + 1) place =
      if format.nearestRank lower = rank then
        if format.nearestRank upper = rank ∧
            (upper - value < value - lower ∨
              upper - value = value - lower ∧ tie.goesUp below = true) then
          .ofCoefficient (below + 1) place
        else .ofCoefficient below place
      else if format.nearestRank upper = rank then .ofCoefficient (below + 1) place
      else format.searchGrids tie rank value grids (place - 1) := by
  intro value below lower upper
  have isUpper : upper = lower + (10 : Rat) ^ place := by
    rw [← add_one_mul, ← Nat.cast_succ]
  rw [searchGrids, isUpper]
  simp only [readsBack, beq_iff_eq, Bool.and_eq_true, Bool.or_eq_true, decide_eq_true_eq]
  rfl

/-- The search takes the nearest point of a grid that reads back, or goes on if none does. -/
theorem searchGrids_succ
    (finite : rank < format.infinityRank)
    (tie : TieRule)
    (grids : Nat)
    (place : Int) :
    ((∀ other : Nat, format.nearestRank (other * (10 : Rat) ^ place) ≠ rank) ∧
        format.searchGrids tie rank (format.magnitude rank) (grids + 1) place =
          format.searchGrids tie rank (format.magnitude rank) grids (place - 1)) ∨
      ∃ coefficient : Nat,
        format.searchGrids tie rank (format.magnitude rank) (grids + 1) place =
            .ofCoefficient coefficient place ∧
          format.nearestRank (coefficient * (10 : Rat) ^ place) = rank ∧
          ∀ other : Nat, format.nearestRank (other * (10 : Rat) ^ place) = rank →
            |format.magnitude rank - coefficient * (10 : Rat) ^ place| ≤
              |format.magnitude rank - other * (10 : Rat) ^ place| := by
  have isLower := abs_of_nonneg (sub_nonneg.mpr (format.unitsBelow_mul_le rank place))
  have isUpper := abs_of_nonpos
    (sub_nonpos.mpr (format.lt_unitsBelow_add_one_mul rank place).le)
  have nearestBelow := @abs_sub_unitsBelow_le format rank place finite
  have nearestAbove := @abs_sub_unitsBelow_add_one_le format rank place finite
  rw [isLower, isUpper] at nearestBelow nearestAbove
  rw [searchGrids_eq_ite]
  split_ifs with hitsBelow isNearer hitsAbove
  · obtain ⟨hitsAbove, nearer⟩ := isNearer
    refine .inr ⟨_, rfl, hitsAbove, fun other hits => isUpper.trans_le
      (nearestAbove (fun _ => ?_) other hits)⟩
    rcases nearer with nearer | ⟨same, _⟩ <;> linarith
  · refine .inr ⟨_, rfl, hitsBelow, fun other hits => isLower.trans_le
      (nearestBelow (fun hitsAbove => ?_) other hits)⟩
    have notNearer := not_lt.mp fun nearer => isNearer ⟨hitsAbove, .inl nearer⟩
    linarith
  · exact .inr ⟨_, rfl, hitsAbove, fun other hits => isUpper.trans_le
      (nearestAbove (fun hits => absurd hits hitsBelow) other hits)⟩
  · refine .inl ⟨fun other hits => ?_, rfl⟩
    rcases Nat.lt_or_ge (format.unitsBelow rank place) other with above | below
    · exact hitsAbove (readsBack_unitsBelow_add_one finite above hits).1
    · exact hitsBelow (readsBack_unitsBelow finite below hits).1

/-- The search finds the shortest digits if some grid that it tries has a point that
reads back. -/
theorem exists_isShortest_of_searchGrids
    (finite : rank < format.infinityRank)
    (tie : TieRule)
    {grids : Nat} :
    ∀ {place : Int},
      place ≤ decimalExponent (format.magnitude rank) →
      (∀ {other : Nat} {higher : Int}, place < higher →
        higher ≤ decimalExponent (format.magnitude rank) →
          format.nearestRank (other * (10 : Rat) ^ higher) ≠ rank) →
      ∀ {last : Int} {count : Nat}, place - grids < last → last ≤ place →
        format.nearestRank (count * (10 : Rat) ^ last) = rank →
          ∃ coefficient found,
            format.searchGrids tie rank (format.magnitude rank) grids place =
              .ofCoefficient coefficient found ∧
            format.IsShortest rank coefficient found := by
  induction grids with
  | zero =>
      intro place _ _ last _ after before
      omega
  | succ grids inductionHypothesis =>
      intro place isPlace coarser last count after before readsBack
      rcases format.searchGrids_succ finite tie grids place with
        ⟨misses, goesOn⟩ | ⟨coefficient, stops, hits, nearest⟩
      · have notHere : last ≠ place := by
          rintro rfl
          exact misses count readsBack
        rw [goesOn]
        refine inductionHypothesis (by omega) (fun {other higher} above isHigher => ?_)
          (by omega) (by omega) readsBack
        rcases (show higher = place ∨ place < higher by omega) with rfl | above
        · exact misses other
        · exact coarser above isHigher
      · exact ⟨coefficient, place, stops, isPlace, hits, coarser, fun {other} => nearest other⟩

/-! ## The finest grid -/

/-- The digits that a format is given tell apart more numbers than one binade and the
one below it hold. -/
def SeparatesDigits (format : FloatFormat) : Prop :=
  2 * twoPow format.fractionBits < tenPow (format.roundTripDigits - 1)

theorem separatesDigits_binary32 : binary32.SeparatesDigits := by
  unfold SeparatesDigits
  decide

theorem separatesDigits_binary64 : binary64.SeparatesDigits := by
  unfold SeparatesDigits
  decide

/-- The finest place that the search tries for the digits of a float. -/
def finestPlace (format : FloatFormat) (rank : Nat) : Int :=
  decimalExponent (format.magnitude rank) - (format.roundTripDigits - 1 : Nat)

/-- The unit of the finest grid is smaller than the spacing below the float. -/
theorem unit_finestPlace_lt (separates : format.SeparatesDigits) (rank : Nat) :
    (10 : Rat) ^ format.finestPlace (rank + 1) < format.spacing rank := by
  have positive : 0 < format.magnitude (rank + 1) := format.magnitude_pos (Nat.succ_pos rank)
  have isLeading : (tenPow (format.roundTripDigits - 1) : Rat) *
      (10 : Rat) ^ format.finestPlace (rank + 1) ≤ format.magnitude (rank + 1) := by
    rw [natCast_tenPow, ← zpow_add₀ (by norm_num), finestPlace, add_sub_cancel,
      decimalExponent_eq_log positive]
    exact_mod_cast Int.zpow_log_le_self (b := 10) (by norm_num) positive
  have isMore : 2 * (twoPow format.fractionBits : Rat) <
      tenPow (format.roundTripDigits - 1) := by
    exact_mod_cast separates
  have isLess := format.magnitude_succ_le rank
  have binadePositive : (0 : Rat) < 2 * twoPow format.fractionBits := by
    have binadePositive := twoPow_pos format.fractionBits
    positivity
  refine lt_of_mul_lt_mul_left ?_ binadePositive.le
  calc 2 * (twoPow format.fractionBits : Rat) * (10 : Rat) ^ format.finestPlace (rank + 1)
      < tenPow (format.roundTripDigits - 1) * (10 : Rat) ^ format.finestPlace (rank + 1) :=
        mul_lt_mul_of_pos_right isMore (unit_pos _)
    _ ≤ format.magnitude (rank + 1) := isLeading
    _ ≤ 2 * twoPow format.fractionBits * format.spacing rank := isLess

/-- On the finest grid that the search tries some point reads back. -/
theorem exists_nearestRank_eq_of_separatesDigits
    (separates : format.SeparatesDigits)
    (finite : rank + 1 < format.infinityRank) :
    ∃ count : Nat, format.nearestRank (count * (10 : Rat) ^ format.finestPlace (rank + 1)) =
      rank + 1 := by
  have isFine := unit_finestPlace_lt separates rank
  set place := format.finestPlace (rank + 1)
  have isLower := format.unitsBelow_mul_le (rank + 1) place
  have isUpper := format.lt_unitsBelow_add_one_mul (rank + 1) place
  have isNext : ((format.unitsBelow (rank + 1) place + 1 : Nat) : Rat) * (10 : Rat) ^ place =
      format.unitsBelow (rank + 1) place * (10 : Rat) ^ place + (10 : Rat) ^ place := by
    rw [Nat.cast_succ, add_one_mul]
  rcases lt_or_ge
      (format.magnitude (rank + 1) - format.unitsBelow (rank + 1) place * (10 : Rat) ^ place)
      (format.spacing rank / 2) with near | far
  · refine ⟨format.unitsBelow (rank + 1) place, nearestRank_eq_of_abs_lt finite ?_⟩
    rwa [abs_of_nonneg (sub_nonneg.mpr isLower)]
  · refine ⟨format.unitsBelow (rank + 1) place + 1, nearestRank_eq_of_abs_lt finite ?_⟩
    rw [abs_of_nonpos (sub_nonpos.mpr isUpper.le)]
    linarith

/-- The digits that a positive finite float is written with are the shortest ones. -/
theorem exists_isShortest
    (separates : format.SeparatesDigits)
    (positive : 0 < rank)
    (finite : rank < format.infinityRank)
    (tie : TieRule) :
    ∃ coefficient place,
      format.shortest tie rank = .ofCoefficient coefficient place ∧
        format.IsShortest rank coefficient place := by
  cases rank with
  | zero => exact absurd positive (Nat.lt_irrefl 0)
  | succ below =>
      obtain ⟨count, readsBack⟩ := exists_nearestRank_eq_of_separatesDigits separates finite
      have hasDigits : 0 < format.roundTripDigits := Nat.succ_pos _
      have isFinest : format.finestPlace (below + 1) =
          decimalExponent (format.magnitude (below + 1)) - (format.roundTripDigits - 1 : Nat) :=
        rfl
      exact exists_isShortest_of_searchGrids finite tie le_rfl
        (fun above isHigher => absurd (above.trans_le isHigher) (lt_irrefl _))
        (by omega) (by omega) readsBack

end FloatFormat
end RowBinding
