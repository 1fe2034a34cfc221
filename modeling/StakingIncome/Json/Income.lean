import StakingIncome.Income
import StakingIncome.Json.Decoder

/-!
Income in JSON. A validator with bonds or with fees is one of a pool, and the list that it lacks
counts as empty.
-/

namespace StakingIncome.Json.Decoder

/-! ### Dated values -/

/-- What was read of a record that gives a value for a date. -/
structure DatedDraft where
  date : Option Date
  value : Option Nat

def datedAmount {α : Type} (valueName : String) (make : Date → Nat → α) : Decoder α :=
  record
    [field "date" (·.date) (fun date draft => { draft with date := some date }) date,
      field valueName (·.value) (fun value draft => { draft with value := some value }) amount]
    ({ date := none, value := none } : DatedDraft)
    fun draft => do return make (← required "date" draft.date) (← required valueName draft.value)

def incomeEntry : Decoder IncomeEntry :=
  datedAmount "amount_wei" fun date amount => { date, amount }

def bond : Decoder ScheduleEntry :=
  datedAmount "bond_value_wei" fun effective value => { effective, value }

def fee : Decoder ScheduleEntry :=
  datedAmount "fee_value_wei" fun effective value => { effective, value }

/-! ### Node income -/

structure NodeDraft where
  date : Option Date
  address : Option String
  smoothingPool : Option Nat
  rpl : Option Nat

def NodeDraft.empty : NodeDraft where
  date := none
  address := none
  smoothingPool := none
  rpl := none

def NodeDraft.finish (draft : NodeDraft) : Except DecodeFault NodeIncome := do
  let date ← required "date" draft.date
  let address ← required "node_address" draft.address
  let smoothingPool ← required "amount_wei" draft.smoothingPool
  let rpl ← required "amount_rpl" draft.rpl
  return { date, address, smoothingPool, rpl }

def nodeIncome : Decoder NodeIncome :=
  record
    [field "date" (·.date) (fun date draft => { draft with date := some date }) date,
      field "node_address" (·.address)
        (fun address draft => { draft with address := some address }) string,
      field "amount_wei" (·.smoothingPool)
        (fun amount draft => { draft with smoothingPool := some amount }) amount,
      field "amount_rpl" (·.rpl) (fun amount draft => { draft with rpl := some amount }) amount]
    NodeDraft.empty NodeDraft.finish

/-! ### Validators -/

/-- What was read of a validator. Fields that may be null hold an inner option. -/
structure ValidatorDraft where
  index : Option UInt64
  consensus : Option (Option (List IncomeEntry))
  execution : Option (List IncomeEntry)
  withdrawals : Option (List IncomeEntry)
  bonds : Option (Option Schedule)
  fees : Option (Option Schedule)

namespace ValidatorDraft

def empty : ValidatorDraft where
  index := none
  consensus := none
  execution := none
  withdrawals := none
  bonds := none
  fees := none

def finish (draft : ValidatorDraft) : Except DecodeFault Validator := do
  let income : ValidatorIncome := {
    index := ← required "validator_index" draft.index
    consensus := draft.consensus.join
    execution := draft.execution.getD []
    withdrawals := draft.withdrawals.getD [] }
  match draft.bonds.join, draft.fees.join with
  | none, none => return .plain income
  | bonds, fees => return .pooled income { bonds := bonds.getD [], fees := fees.getD [] }

end ValidatorDraft

def validator : Decoder Validator :=
  record
    [field "validator_index" (·.index)
        (fun index draft => { draft with index := some index }) word,
      field "consensus_layer_rewards" (·.consensus)
        (fun entries draft => { draft with consensus := some entries })
        (nullable (array incomeEntry)),
      field "execution_layer_rewards" (·.execution)
        (fun entries draft => { draft with execution := some entries }) (array incomeEntry),
      field "withdrawals" (·.withdrawals)
        (fun entries draft => { draft with withdrawals := some entries }) (array incomeEntry),
      field "bonds" (·.bonds) (fun bonds draft => { draft with bonds := some bonds })
        (nullable (array bond)),
      field "fees" (·.fees) (fun fees draft => { draft with fees := some fees })
        (nullable (array fee))]
    ValidatorDraft.empty ValidatorDraft.finish

/-! ### All income -/

structure IncomeDraft where
  validators : Option (List Validator)
  nodes : Option (List NodeIncome)

def IncomeDraft.finish (draft : IncomeDraft) : Except DecodeFault IncomeData := do
  let validators ← required "validator_rewards" draft.validators
  return { validators, nodes := draft.nodes.getD [] }

def incomeData : Decoder IncomeData :=
  record
    [field "validator_rewards" (·.validators)
        (fun validators draft => { draft with validators := some validators }) (array validator),
      field "rocket_pool_node_rewards" (·.nodes)
        (fun nodes draft => { draft with nodes := some nodes }) (array nodeIncome)]
    { validators := none, nodes := none } IncomeDraft.finish

end StakingIncome.Json.Decoder

namespace StakingIncome

/-- Read all income from a JSON text. -/
def IncomeData.ofJson (text : List Char) : Except Json.DecodeFault IncomeData :=
  Json.decode Json.Decoder.incomeData text

end StakingIncome
