import StakingIncome.Units
import StakingIncome.Proofs.Numerals

/-!
What is lost of an amount on its way to the display unit. The two parts that it is shown by make up
all of its intermediate units, so that no more than what lies below one of them is cut off. They
come from the intermediate units alone, and so does the float that is made of them.
-/

namespace StakingIncome.UnitLadder

variable {ladder other : UnitLadder}

/-! ### Word-sized rests -/

/-- The step to the display unit is a word, so that the rest of a division by it always is one. -/
theorem word?_rest (displayPositive : 0 < ladder.intermediatePerDisplay) (amount : Nat) :
    Text.word?
        (amount / ladder.basePerIntermediate.toNat % ladder.intermediatePerDisplay.toNat) =
      some (ladder.rest amount) := by
  have below : amount / ladder.basePerIntermediate.toNat % ladder.intermediatePerDisplay.toNat <
      Text.wordLimit :=
    (Nat.mod_lt _ displayPositive).trans ladder.intermediatePerDisplay.toNat_lt
  rw [rest, Text.word?, if_pos below, Option.getD_some]

theorem toNat_rest (displayPositive : 0 < ladder.intermediatePerDisplay) (amount : Nat) :
    (ladder.rest amount).toNat =
      amount / ladder.basePerIntermediate.toNat % ladder.intermediatePerDisplay.toNat :=
  Text.toNat_of_word? (word?_rest displayPositive amount)

/-! ### What the parts make up -/

/-- The amount of so many whole display units and so many intermediate units. -/
def amountOf (ladder : UnitLadder) (whole : Nat) (rest : UInt64) : Nat :=
  (whole * ladder.intermediatePerDisplay.toNat + rest.toNat) * ladder.basePerIntermediate.toNat

/-- Parts that show an amount but for less than one intermediate unit. -/
structure Shows (ladder : UnitLadder) (amount whole : Nat) (rest : UInt64) : Prop where
  rest_lt : rest < ladder.intermediatePerDisplay
  amountOf_le : ladder.amountOf whole rest ≤ amount
  lost_lt : amount - ladder.amountOf whole rest < ladder.basePerIntermediate.toNat

theorem amountOf_parts (displayPositive : 0 < ladder.intermediatePerDisplay) (amount : Nat) :
    ladder.amountOf (ladder.whole amount) (ladder.rest amount) =
      amount / ladder.basePerIntermediate.toNat * ladder.basePerIntermediate.toNat := by
  rw [amountOf, whole, toNat_rest displayPositive, Nat.div_add_mod']

theorem shows_parts (basePositive : 0 < ladder.basePerIntermediate)
    (displayPositive : 0 < ladder.intermediatePerDisplay) (amount : Nat) :
    ladder.Shows amount (ladder.whole amount) (ladder.rest amount) := by
  have shown := amountOf_parts displayPositive amount
  refine ⟨?_, ?_, ?_⟩
  · rw [UInt64.lt_iff_toNat_lt, toNat_rest displayPositive]
    exact Nat.mod_lt _ displayPositive
  · rw [shown]
    exact Nat.div_mul_le_self amount _
  · rw [shown, ← Nat.mod_eq_sub_div_mul]
    exact Nat.mod_lt amount basePositive

/-! ### Amounts with the same intermediate units -/

/-- Amounts that two ladders show by the same parts and as the same float. -/
structure ShownAlike (ladder other : UnitLadder) (amount counterpart : Nat) : Prop where
  whole_eq : ladder.whole amount = other.whole counterpart
  rest_eq : ladder.rest amount = other.rest counterpart
  display_eq : ladder.display amount = other.display counterpart

/-- Base units have no part in what is shown, except in how many intermediate units they make. -/
theorem shownAlike_of_div_eq {amount counterpart : Nat}
    (steps : ladder.intermediatePerDisplay = other.intermediatePerDisplay)
    (units : amount / ladder.basePerIntermediate.toNat =
      counterpart / other.basePerIntermediate.toNat) :
    ladder.ShownAlike other amount counterpart := by
  have whole_eq : ladder.whole amount = other.whole counterpart := by
    rw [whole, whole, units, steps]
  have rest_eq : ladder.rest amount = other.rest counterpart := by
    rw [rest, rest, units, steps]
  have display_eq : ladder.display amount = other.display counterpart := by
    rw [display, display, whole_eq, rest_eq, steps]
  exact ⟨whole_eq, rest_eq, display_eq⟩

/-- The ladder for amounts that are counted in intermediate units already. -/
def fromIntermediate (ladder : UnitLadder) : UnitLadder :=
  { ladder with basePerIntermediate := 1 }

/-! ### Both stages -/

/-- However large the steps and the amount are, the conversion loses what lies below one
intermediate unit and nothing else. The rest is never replaced by zero, and floats are made of the
same parts for all amounts that differ below the intermediate unit only. -/
theorem display_truncates_below_intermediate (amount : Nat)
    (basePositive : 0 < ladder.basePerIntermediate)
    (displayPositive : 0 < ladder.intermediatePerDisplay) :
    let base := ladder.basePerIntermediate.toNat
    let step := ladder.intermediatePerDisplay.toNat
    ladder.Shows amount (ladder.whole amount) (ladder.rest amount) ∧
      ladder.whole amount = amount / (base * step) ∧
      Text.word? (amount / base % step) = some (ladder.rest amount) ∧
      ladder.ShownAlike ladder.fromIntermediate amount (amount / base) ∧
      ∀ counterpart, amount / base = counterpart / base →
        ladder.ShownAlike ladder amount counterpart := by
  intro base step
  have counted : amount / base = amount / base / 1 := (Nat.div_one _).symm
  refine ⟨shows_parts basePositive displayPositive amount, ?_, word?_rest displayPositive amount,
    shownAlike_of_div_eq rfl counted, ?_⟩
  · exact Nat.div_div_eq_div_mul amount base step
  · intro counterpart units
    exact shownAlike_of_div_eq rfl units

/-- The largest steps there are, with the largest rest and the largest loss, under a whole part that
is too large for a word. -/
theorem steepest_display_truncates :
    let ladder : UnitLadder := ⟨0xffffffffffffffff, 0xffffffffffffffff⟩
    let step := Text.wordLimit - 1
    let amount := ladder.amountOf Text.wordLimit 0xfffffffffffffffe + (step - 1)
    0 < ladder.basePerIntermediate ∧ 0 < ladder.intermediatePerDisplay ∧
      ladder.Shows amount Text.wordLimit 0xfffffffffffffffe ∧
      amount - ladder.amountOf Text.wordLimit 0xfffffffffffffffe = step - 1 ∧
      Text.wordLimit = amount / (step * step) ∧
      Text.word? (amount / step % step) = some 0xfffffffffffffffe ∧
      ladder.ShownAlike ladder.fromIntermediate amount (amount / step) ∧
      amount / step = (amount - (step - 1)) / step ∧
      ladder.ShownAlike ladder amount (amount - (step - 1)) := by
  intro ladder step amount
  have basePositive : 0 < ladder.basePerIntermediate := by decide
  have displayPositive : 0 < ladder.intermediatePerDisplay := by decide
  have wholeOf : ladder.whole amount = Text.wordLimit := by decide
  have restOf : ladder.rest amount = 0xfffffffffffffffe := by decide
  have units : amount / step = (amount - (step - 1)) / step := by decide
  rcases display_truncates_below_intermediate amount basePositive displayPositive with
    ⟨shown, quotient, word, counted, alike⟩
  rw [wholeOf, restOf] at shown
  rw [wholeOf] at quotient
  rw [restOf] at word
  exact ⟨basePositive, displayPositive, shown, by decide, quotient, word, counted, units,
    alike _ units⟩

end StakingIncome.UnitLadder
