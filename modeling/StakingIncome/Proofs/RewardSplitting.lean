import StakingIncome.Proofs.ShareConservation

/-!
Rewards that are split in parts or under other rates. What a portion leaves of an amount, with the
fraction of the portion dropped, is never more for a sum than for its parts, grows with the amount
and shrinks with the rate. The pool keeps what two portions leave one after the other, so all this
holds of the pool as well, and the operator gets the rest.
-/

namespace StakingIncome

/-! ### One portion -/

/-- What a portion of an amount leaves of it. -/
def leftover (rate whole amount : Nat) : Nat :=
  amount - amount * rate / whole

section Leftover

variable {rate raised whole : Nat}

theorem leftover_add_portion (within : rate ≤ whole) (amount : Nat) :
    leftover rate whole amount + amount * rate / whole = amount :=
  Nat.sub_add_cancel (portion_le within)

theorem leftover_le (amount : Nat) : leftover rate whole amount ≤ amount :=
  Nat.sub_le _ _

/-- The fractions dropped from two portions may make up one more unit. -/
theorem portion_add_bounds (rate : Nat) (positive : 0 < whole) (left right : Nat) :
    left * rate / whole + right * rate / whole ≤ (left + right) * rate / whole ∧
      (left + right) * rate / whole ≤ left * rate / whole + right * rate / whole + 1 := by
  rw [Nat.add_mul, Nat.add_div positive]
  split <;> omega

theorem leftover_add_bounds (positive : 0 < whole) (within : rate ≤ whole) (left right : Nat) :
    leftover rate whole (left + right) ≤ leftover rate whole left + leftover rate whole right ∧
      leftover rate whole left + leftover rate whole right ≤
        leftover rate whole (left + right) + 1 := by
  have portions := portion_add_bounds rate positive left right
  have ofLeft := leftover_add_portion within left
  have ofRight := leftover_add_portion within right
  have ofBoth := leftover_add_portion within (left + right)
  omega

/-- A portion grows by no more than its amount does. -/
theorem leftover_mono (positive : 0 < whole) (within : rate ≤ whole) {smaller larger : Nat}
    (grows : smaller ≤ larger) : leftover rate whole smaller ≤ leftover rate whole larger := by
  rcases Nat.exists_eq_add_of_le grows with ⟨growth, rfl⟩
  have portion : (smaller + growth) * rate / whole ≤ smaller * rate / whole + growth := by
    rw [← Nat.add_mul_div_right _ _ positive, Nat.add_mul]
    exact Nat.div_le_div_right (Nat.add_le_add_left (Nat.mul_le_mul_left growth within) _)
  have ofSmaller := leftover_add_portion within smaller
  have ofLarger := leftover_add_portion within (smaller + growth)
  omega

theorem leftover_anti (higher : rate ≤ raised) (amount : Nat) :
    leftover raised whole amount ≤ leftover rate whole amount :=
  Nat.sub_le_sub_left (Nat.div_le_div_right (Nat.mul_le_mul_left amount higher)) amount

end Leftover

/-! ### What the pool keeps -/

theorem fullStake_pos : 0 < fullStake := by decide

theorem fullFee_pos : 0 < fullFee := by decide

/-- The pool's part of an amount: what the fee leaves of what the bond leaves. -/
def poolPart (bond fee amount : Nat) : Nat :=
  leftover fee fullFee (leftover bond fullStake amount)

section Parts

variable {bond fee raisedBond raisedFee : Nat}

theorem poolPart_add_operatorPart (bonded : bond ≤ fullStake) (charged : fee ≤ fullFee)
    (amount : Nat) : poolPart bond fee amount + operatorPart bond fee amount = amount := by
  have ofBond := leftover_add_portion bonded amount
  have ofFee := leftover_add_portion charged (leftover bond fullStake amount)
  have parts : operatorPart bond fee amount =
      amount * bond / fullStake + leftover bond fullStake amount * fee / fullFee := rfl
  rw [poolPart, parts]
  omega

theorem poolPart_add_le (bonded : bond ≤ fullStake) (charged : fee ≤ fullFee) (left right : Nat) :
    poolPart bond fee (left + right) ≤ poolPart bond fee left + poolPart bond fee right :=
  calc leftover fee fullFee (leftover bond fullStake (left + right))
      ≤ leftover fee fullFee (leftover bond fullStake left + leftover bond fullStake right) :=
        leftover_mono fullFee_pos charged (leftover_add_bounds fullStake_pos bonded left right).1
    _ ≤ poolPart bond fee left + poolPart bond fee right :=
        (leftover_add_bounds fullFee_pos charged _ _).1

/-- Either division may leave one unit more of two amounts than of their sum. The fee does not take
more of the unit from the first division than the unit itself. -/
theorem le_poolPart_add (bonded : bond ≤ fullStake) (charged : fee ≤ fullFee) (left right : Nat) :
    poolPart bond fee left + poolPart bond fee right ≤ poolPart bond fee (left + right) + 2 :=
  calc poolPart bond fee left + poolPart bond fee right
      ≤ leftover fee fullFee (leftover bond fullStake left + leftover bond fullStake right) + 1 :=
        (leftover_add_bounds fullFee_pos charged _ _).2
    _ ≤ leftover fee fullFee (leftover bond fullStake (left + right) + 1) + 1 :=
        Nat.succ_le_succ
          (leftover_mono fullFee_pos charged (leftover_add_bounds fullStake_pos bonded left right).2)
    _ ≤ poolPart bond fee (left + right) + leftover fee fullFee 1 + 1 :=
        Nat.succ_le_succ (leftover_add_bounds fullFee_pos charged _ _).1
    _ ≤ poolPart bond fee (left + right) + 2 :=
        Nat.succ_le_succ (Nat.add_le_add_left (leftover_le 1) _)

/-- A larger bond leaves less for the fee to be taken from, but what is then left is less as well. -/
theorem poolPart_anti (higherBond : bond ≤ raisedBond) (higherFee : fee ≤ raisedFee)
    (charged : raisedFee ≤ fullFee) (amount : Nat) :
    poolPart raisedBond raisedFee amount ≤ poolPart bond fee amount :=
  calc leftover raisedFee fullFee (leftover raisedBond fullStake amount)
      ≤ leftover raisedFee fullFee (leftover bond fullStake amount) :=
        leftover_mono fullFee_pos charged (leftover_anti higherBond amount)
    _ ≤ leftover fee fullFee (leftover bond fullStake amount) := leftover_anti higherFee _

/-! ### What the operator gets -/

theorem operatorPart_add_bounds (bonded : bond ≤ fullStake) (charged : fee ≤ fullFee)
    (left right : Nat) :
    operatorPart bond fee left + operatorPart bond fee right ≤
        operatorPart bond fee (left + right) ∧
      operatorPart bond fee (left + right) ≤
        operatorPart bond fee left + operatorPart bond fee right + 2 := by
  have atMost := poolPart_add_le bonded charged left right
  have atLeast := le_poolPart_add bonded charged left right
  have ofLeft := poolPart_add_operatorPart bonded charged left
  have ofRight := poolPart_add_operatorPart bonded charged right
  have ofBoth := poolPart_add_operatorPart bonded charged (left + right)
  omega

theorem operatorPart_mono (bonded : bond ≤ fullStake) (charged : fee ≤ fullFee)
    {smaller larger : Nat} (grows : smaller ≤ larger) :
    operatorPart bond fee smaller ≤ operatorPart bond fee larger := by
  rcases Nat.exists_eq_add_of_le grows with ⟨growth, rfl⟩
  exact (Nat.le_add_right _ _).trans (operatorPart_add_bounds bonded charged smaller growth).1

theorem operatorPart_mono_rates (higherBond : bond ≤ raisedBond) (bonded : raisedBond ≤ fullStake)
    (higherFee : fee ≤ raisedFee) (charged : raisedFee ≤ fullFee) (amount : Nat) :
    operatorPart bond fee amount ≤ operatorPart raisedBond raisedFee amount := by
  have kept := poolPart_anti higherBond higherFee charged amount
  have before := poolPart_add_operatorPart (higherBond.trans bonded) (higherFee.trans charged) amount
  have after := poolPart_add_operatorPart bonded charged amount
  omega

/-- Splitting one by one never gives the operator more than splitting all at once. -/
theorem total_operatorPart_le_operatorPart (bonded : bond ≤ fullStake) (charged : fee ≤ fullFee)
    (amounts : List Nat) :
    total (amounts.map (operatorPart bond fee)) ≤ operatorPart bond fee (total amounts) := by
  induction amounts with
  | nil => exact Nat.zero_le _
  | cons amount rest induction =>
      rw [List.map_cons, total, total]
      exact (Nat.add_le_add_left induction _).trans
        (operatorPart_add_bounds bonded charged amount (total rest)).1

/-- Each amount after the first one may cost the operator two units. -/
theorem operatorPart_total_le (bonded : bond ≤ fullStake) (charged : fee ≤ fullFee) (first : Nat)
    (rest : List Nat) :
    operatorPart bond fee (total (first :: rest)) ≤
      total ((first :: rest).map (operatorPart bond fee)) + 2 * rest.length := by
  induction rest generalizing first with
  | nil => simp [total]
  | cons second rest induction =>
      have split := (operatorPart_add_bounds bonded charged first (total (second :: rest))).2
      calc operatorPart bond fee (first + total (second :: rest))
          ≤ operatorPart bond fee first + operatorPart bond fee (total (second :: rest)) + 2 := split
        _ ≤ operatorPart bond fee first +
              (total ((second :: rest).map (operatorPart bond fee)) + 2 * rest.length) + 2 :=
            Nat.add_le_add_right (Nat.add_le_add_left (induction second) _) 2
        _ = operatorPart bond fee first +
              total ((second :: rest).map (operatorPart bond fee)) + 2 * (rest.length + 1) := by
            omega

end Parts

/-! ### Shares under a schedule -/

namespace OperatorSchedule

/-- The bond and the fee in effect on a date, both within their limits. -/
structure RatesOn (schedule : OperatorSchedule) (date : Date) (bond fee : Nat) : Prop where
  bondValue : schedule.bonds.valueOn .bond date = .ok bond
  feeValue : schedule.fees.valueOn .fee date = .ok fee
  bonded : bond ≤ fullStake
  charged : fee ≤ fullFee

variable {schedule raised : OperatorSchedule} {date : Date} {bond fee raisedBond raisedFee : Nat}

theorem RatesOn.share_eq (rates : schedule.RatesOn date bond fee) (amount : Nat) :
    schedule.share ⟨date, amount⟩ = .ok ⟨date, operatorPart bond fee amount⟩ :=
  share_eq_ok_iff.mpr ⟨bond, fee,
    Schedule.boundedValueOn_eq_ok_iff.mpr ⟨rates.bondValue, rates.bonded⟩,
    Schedule.boundedValueOn_eq_ok_iff.mpr ⟨rates.feeValue, rates.charged⟩, rfl⟩

theorem exists_ratesOn_of_share {amount : Nat} {part : IncomeEntry}
    (split : schedule.share ⟨date, amount⟩ = .ok part) :
    ∃ bond fee, schedule.RatesOn date bond fee := by
  rcases share_eq_ok_iff.mp split with ⟨bond, fee, bondValue, feeValue, -⟩
  rcases Schedule.boundedValueOn_eq_ok_iff.mp bondValue with ⟨bondValue, bonded⟩
  rcases Schedule.boundedValueOn_eq_ok_iff.mp feeValue with ⟨feeValue, charged⟩
  exact ⟨bond, fee, bondValue, feeValue, bonded, charged⟩

theorem RatesOn.mapM_share_eq (rates : schedule.RatesOn date bond fee) (amounts : List Nat) :
    amounts.mapM (fun amount => schedule.share ⟨date, amount⟩) =
      .ok (amounts.map fun amount => ⟨date, operatorPart bond fee amount⟩) := by
  simp only [rates.share_eq]
  exact List.mapM_pure

/-- Where any amount can be split, all amounts can. The parts of several amounts make up no more
than the part of their sum, and less by two units at most for each amount but the first one. The
part grows with the amount, with the bond and with the fee. -/
theorem share_of_split (splits : ∃ amount part, schedule.share ⟨date, amount⟩ = .ok part) :
    (∀ amounts : List Nat, amounts ≠ [] →
      ∃ parts whole, amounts.mapM (fun amount => schedule.share ⟨date, amount⟩) = .ok parts ∧
        schedule.share ⟨date, total amounts⟩ = .ok whole ∧
        total (parts.map (·.amount)) ≤ whole.amount ∧
        whole.amount ≤ total (parts.map (·.amount)) + 2 * (amounts.length - 1)) ∧
      (∀ smaller larger : Nat, smaller ≤ larger →
        ∃ part largerPart, schedule.share ⟨date, smaller⟩ = .ok part ∧
          schedule.share ⟨date, larger⟩ = .ok largerPart ∧ part.amount ≤ largerPart.amount) ∧
      ∀ (raised : OperatorSchedule) (bond fee raisedBond raisedFee : Nat),
        schedule.RatesOn date bond fee → raised.RatesOn date raisedBond raisedFee →
        bond ≤ raisedBond → fee ≤ raisedFee → ∀ amount : Nat,
        ∃ part raisedPart, schedule.share ⟨date, amount⟩ = .ok part ∧
          raised.share ⟨date, amount⟩ = .ok raisedPart ∧ part.amount ≤ raisedPart.amount := by
  rcases splits with ⟨some, part, split⟩
  rcases exists_ratesOn_of_share split with ⟨bond, fee, rates⟩
  refine ⟨?_, ?_, ?_⟩
  · intro amounts something
    refine ⟨_, _, rates.mapM_share_eq amounts, rates.share_eq _, ?_⟩
    rw [List.map_map]
    rcases List.exists_cons_of_ne_nil something with ⟨first, rest, rfl⟩
    exact ⟨total_operatorPart_le_operatorPart rates.bonded rates.charged _,
      operatorPart_total_le rates.bonded rates.charged first rest⟩
  · intro smaller larger grows
    exact ⟨_, _, rates.share_eq smaller, rates.share_eq larger,
      operatorPart_mono rates.bonded rates.charged grows⟩
  · intro raised bond fee raisedBond raisedFee rates raisedRates higherBond higherFee amount
    exact ⟨_, _, rates.share_eq amount, raisedRates.share_eq amount,
      operatorPart_mono_rates higherBond raisedRates.bonded higherFee raisedRates.charged amount⟩

/-- A quarter of the full stake as bond. -/
def quarterBond (date : Date) (fee : Nat) : OperatorSchedule where
  bonds := [⟨date, 8 * weiPerEth⟩]
  fees := [⟨date, fee⟩]

/-- Two amounts for which both divisions lose a unit to splitting, and a higher fee on their sum. -/
theorem share_of_split_nine :
    let date : Date := ⟨2024, 1, 1, by decide⟩
    let schedule := quarterBond date (15 * weiPerEth / 100)
    let raised := quarterBond date (50 * weiPerEth / 100)
    schedule.share ⟨date, 6⟩ = .ok ⟨date, 1⟩ ∧ schedule.share ⟨date, 3⟩ = .ok ⟨date, 0⟩ ∧
      schedule.share ⟨date, 9⟩ = .ok ⟨date, 3⟩ ∧ raised.share ⟨date, 9⟩ = .ok ⟨date, 5⟩ ∧
      (∃ parts whole, [6, 3].mapM (fun amount => schedule.share ⟨date, amount⟩) = .ok parts ∧
        schedule.share ⟨date, total [6, 3]⟩ = .ok whole ∧
        total (parts.map (·.amount)) ≤ whole.amount ∧
        whole.amount ≤ total (parts.map (·.amount)) + 2 * ([6, 3].length - 1)) ∧
      (∃ part largerPart, schedule.share ⟨date, 3⟩ = .ok part ∧
        schedule.share ⟨date, 6⟩ = .ok largerPart ∧ part.amount ≤ largerPart.amount) ∧
      ∃ part raisedPart, schedule.share ⟨date, 9⟩ = .ok part ∧
        raised.share ⟨date, 9⟩ = .ok raisedPart ∧ part.amount ≤ raisedPart.amount := by
  intro date schedule raised
  have rates : schedule.RatesOn date (8 * weiPerEth) (15 * weiPerEth / 100) :=
    ⟨rfl, rfl, by decide, by decide⟩
  have raisedRates : raised.RatesOn date (8 * weiPerEth) (50 * weiPerEth / 100) :=
    ⟨rfl, rfl, by decide, by decide⟩
  rcases share_of_split ⟨9, _, rates.share_eq 9⟩ with ⟨together, larger, higher⟩
  exact ⟨rates.share_eq 6, rates.share_eq 3, rates.share_eq 9, raisedRates.share_eq 9,
    together [6, 3] (List.cons_ne_nil _ _), larger 3 6 (by decide),
    higher raised _ _ _ _ rates raisedRates (Nat.le_refl _) (by decide) 9⟩

end OperatorSchedule

end StakingIncome
