import StakingIncome.Income
import Std.Data.TreeMap.Lemmas

/-!
The income of each date, added up over all entries for it. A date without entries has no income.
-/

namespace StakingIncome

/-- Amounts added up. -/
def total : List Nat → Nat
  | [] => 0
  | amount :: rest => amount + total rest

theorem total_append (left right : List Nat) :
    total (left ++ right) = total left + total right := by
  induction left with
  | nil => simp [total]
  | cons amount rest induction => simp [total, induction, Nat.add_assoc]

abbrev DailyTotals := Std.TreeMap Date Nat

namespace DailyTotals

def amountOn (totals : DailyTotals) (date : Date) : Nat :=
  totals.getD date 0

def add (totals : DailyTotals) (entry : IncomeEntry) : DailyTotals :=
  totals.insert entry.date (totals.amountOn entry.date + entry.amount)

def ofEntries (entries : List IncomeEntry) : DailyTotals :=
  entries.foldl add {}

@[simp] theorem amountOn_empty (date : Date) : amountOn {} date = 0 :=
  Std.TreeMap.getD_emptyc

theorem amountOn_add (totals : DailyTotals) (entry : IncomeEntry) (date : Date) :
    (totals.add entry).amountOn date =
      totals.amountOn date + if entry.date = date then entry.amount else 0 := by
  unfold add amountOn
  rw [Std.TreeMap.getD_insert]
  by_cases equal : entry.date = date
  · simp [equal]
  · simp [equal]

end DailyTotals

end StakingIncome
