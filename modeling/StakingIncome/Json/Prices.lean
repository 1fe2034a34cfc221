import StakingIncome.Json.Decoder
import StakingIncome.Price

/-!
Price series in JSON.
-/

namespace StakingIncome.Json.Decoder

structure PriceDraft where
  date : Option Date
  price : Option Float

def PriceDraft.finish (draft : PriceDraft) : Except DecodeFault PriceEntry := do
  return { date := ← required "date" draft.date, price := ← required "price" draft.price }

def priceEntry : Decoder PriceEntry :=
  record
    [field "date" (·.date) (fun date draft => { draft with date := some date }) date,
      field "price" (·.price) (fun price draft => { draft with price := some price }) price]
    { date := none, price := none } PriceDraft.finish

structure SeriesDraft where
  currency : Option String
  entries : Option (List PriceEntry)

def SeriesDraft.finish (draft : SeriesDraft) : Except DecodeFault PriceSeries := do
  return {
    currency := ← required "currency" draft.currency
    entries := ← required "prices" draft.entries }

def priceSeries : Decoder PriceSeries :=
  record
    [field "currency" (·.currency)
        (fun currency draft => { draft with currency := some currency }) string,
      field "prices" (·.entries) (fun entries draft => { draft with entries := some entries })
        (array priceEntry)]
    { currency := none, entries := none } SeriesDraft.finish

end StakingIncome.Json.Decoder

namespace StakingIncome

/-- Read a price series from a JSON text. -/
def PriceSeries.ofJson (text : List Char) : Except Json.DecodeFault PriceSeries :=
  Json.decode Json.Decoder.priceSeries text

end StakingIncome
