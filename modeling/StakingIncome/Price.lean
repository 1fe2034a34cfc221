import StakingIncome.Fault
import Std.Data.TreeMap.Basic

/-!
Prices of a token in a currency, one for each date at most.
-/

namespace StakingIncome

structure PriceEntry where
  date : Date
  price : Float

structure PriceSeries where
  currency : String
  entries : List PriceEntry

/-- The prices of a series by date. -/
structure PriceIndex where
  currency : String
  prices : Std.TreeMap Date Float

namespace PriceIndex

def empty (currency : String) : PriceIndex where
  currency
  prices := {}

/-- Add a price for a date that has none yet. -/
def add (index : PriceIndex) (entry : PriceEntry) : Except Fault PriceIndex :=
  if index.prices.contains entry.date then
    .error (.duplicatePrice index.currency entry.date)
  else
    .ok { index with prices := index.prices.insert entry.date entry.price }

def priceOn (index : PriceIndex) (date : Date) : Except Fault Float :=
  match index.prices[date]? with
  | some price => .ok price
  | none => .error (.priceNotFound index.currency date)

end PriceIndex

def PriceSeries.index (series : PriceSeries) : Except Fault PriceIndex :=
  series.entries.foldlM PriceIndex.add (.empty series.currency)

end StakingIncome
