import StakingIncome.Proofs.OperatorAccuracy

/-!
What the pool keeps of a reward that is split. The operator's part is never more than the reward,
and it is all of it only where the bond is the full stake or the fee is one hundred per cent: below
these limits dropping the fractions takes one unit at least from any reward.
-/

namespace StakingIncome

/-- Of an amount that is not zero, a portion at less than the full rate lacks something, and the
fraction that is dropped cannot make up for it. -/
theorem portion_eq_iff (amount : Nat) {rate whole : Nat} (positive : 0 < whole)
    (within : rate ≤ whole) :
    amount * rate / whole = amount ↔ amount = 0 ∨ rate = whole := by
  constructor
  · intro full
    rcases Nat.eq_zero_or_pos amount with nothing | something
    · exact .inl nothing
    · have reached : amount * whole ≤ amount * rate := (Nat.le_div_iff_mul_le positive).mp full.ge
      exact .inr (Nat.le_antisymm within (Nat.le_of_mul_le_mul_left reached something))
  · intro limit
    rcases limit with rfl | rfl
    · simp
    · exact Nat.mul_div_cancel amount positive

section Parts

variable {bond fee : Nat}

theorem operatorPart_le (amount : Nat) (bonded : bond ≤ fullStake) (charged : fee ≤ fullFee) :
    operatorPart bond fee amount ≤ amount := by
  have bondPortion : amount * bond / fullStake ≤ amount := portion_le bonded
  have feePortion : (amount - amount * bond / fullStake) * fee / fullFee ≤
      amount - amount * bond / fullStake := portion_le charged
  calc operatorPart bond fee amount
      = amount * bond / fullStake + (amount - amount * bond / fullStake) * fee / fullFee := rfl
    _ ≤ amount * bond / fullStake + (amount - amount * bond / fullStake) :=
        Nat.add_le_add_left feePortion _
    _ = amount := Nat.add_sub_cancel' bondPortion

/-- The fee on what the bond leaves reaches all of it only if the bond leaves nothing or the fee
takes everything. -/
theorem operatorPart_eq_iff (amount : Nat) (bonded : bond ≤ fullStake) (charged : fee ≤ fullFee) :
    operatorPart bond fee amount = amount ↔ amount = 0 ∨ bond = fullStake ∨ fee = fullFee := by
  have bondPortion : amount * bond / fullStake ≤ amount := portion_le bonded
  have allOfBond := portion_eq_iff amount (by decide) bonded
  have allOfRest := portion_eq_iff (amount - amount * bond / fullStake) (by decide) charged
  have whole : operatorPart bond fee amount = amount ↔
      (amount - amount * bond / fullStake) * fee / fullFee =
        amount - amount * bond / fullStake := by
    rw [operatorPart]
    omega
  have nothingLeft : amount - amount * bond / fullStake = 0 ↔
      amount * bond / fullStake = amount := by
    omega
  rw [whole, allOfRest, nothingLeft, allOfBond, or_assoc]

end Parts

/-- How a reward and its operator's part stand to one another under the bond and the fee of its
date. -/
structure IncomeEntry.Conserves (entry part : IncomeEntry) (bond fee : Nat) : Prop where
  date_eq : part.date = entry.date
  bondPortion_le : entry.amount * bond / fullStake ≤ entry.amount
  amount_le : part.amount ≤ entry.amount
  amount_eq_iff : part.amount = entry.amount ↔
    entry.amount = 0 ∨ bond = fullStake ∨ fee = fullFee
  keeps : 0 < entry.amount → bond < fullStake → fee < fullFee → 1 ≤ entry.amount - part.amount

namespace OperatorSchedule

variable {schedule : OperatorSchedule} {entry part : IncomeEntry}

/-- Whatever is split is split under the bond and the fee in effect on its date, with nothing gained
and nothing left to the pool exactly at the limits. -/
theorem share_conserves (split : schedule.share entry = .ok part) :
    ∃ bond fee, schedule.bonds.valueOn .bond entry.date = .ok bond ∧
      schedule.fees.valueOn .fee entry.date = .ok fee ∧ entry.Conserves part bond fee := by
  rcases share_eq_ok_iff.mp split with ⟨bond, fee, bondValue, feeValue, rfl⟩
  rcases Schedule.boundedValueOn_eq_ok_iff.mp bondValue with ⟨bondValue, bonded⟩
  rcases Schedule.boundedValueOn_eq_ok_iff.mp feeValue with ⟨feeValue, charged⟩
  have atMost := operatorPart_le entry.amount bonded charged
  have limits := operatorPart_eq_iff entry.amount bonded charged
  refine ⟨bond, fee, bondValue, feeValue, rfl, portion_le bonded, atMost, limits, ?_⟩
  intro something belowStake belowFee
  have short : operatorPart bond fee entry.amount ≠ entry.amount := by
    intro full
    rcases limits.mp full with nothing | atStake | atFee
    · exact something.ne' nothing
    · exact belowStake.ne atStake
    · exact belowFee.ne atFee
  exact Nat.sub_pos_of_lt (Nat.lt_of_le_of_ne atMost short)

/-- The least reward under a bond and a fee that are one unit below their limits. -/
theorem share_conserves_least :
    let date : Date := ⟨2024, 1, 1, by decide⟩
    let schedule : OperatorSchedule :=
      { bonds := [⟨date, fullStake - 1⟩], fees := [⟨date, fullFee - 1⟩] }
    schedule.share ⟨date, 1⟩ = .ok ⟨date, 0⟩ ∧
      ∃ bond fee, schedule.bonds.valueOn .bond date = .ok bond ∧
        schedule.fees.valueOn .fee date = .ok fee ∧
        IncomeEntry.Conserves ⟨date, 1⟩ ⟨date, 0⟩ bond fee :=
  ⟨rfl, @share_conserves _ ⟨⟨2024, 1, 1, by decide⟩, 1⟩ _ rfl⟩

end OperatorSchedule

end StakingIncome
