import StakingIncome.Json.Income
import StakingIncome.Proofs.DateNotation
import StakingIncome.Proofs.RecordDecoding

/-!
Income is read back from JSON as it was written. The writer has choices: the order of the members,
numbers or strings for amounts, null or nothing for a series that is missing, nothing for a list
that is empty. None of them shows in what is read.
-/

namespace StakingIncome

namespace Json

namespace Decoder

/-! ### The forms of income -/

/-- Digits alone, as a number or in quotes, where zeros may stand in front. -/
inductive AmountForm (amount : Nat) : Value → Prop
  | number : AmountForm amount (.number (.ofNatural amount))
  | quoted {digits : List Char} (numeral : Text.isNumeral digits = true)
      (denotes : Text.digitsValue digits = amount) :
      AmountForm amount (.string (String.ofList digits))

inductive IndexForm (index : UInt64) : Value → Prop
  | number : IndexForm index (.number (.ofNatural index.toNat))

inductive DateForm (date : Date) : Value → Prop
  | written : DateForm date (.string (String.ofList date.written))

inductive TextForm (text : String) : Value → Prop
  | string : TextForm text (.string text)

/-- A date and an amount, in either order. -/
inductive DatedForm (valueName : String) (date : Date) (amount : Nat) : Value → Prop
  | object {dateValue amountValue : Value} {members : List (String × Value)}
      (dated : DateForm date dateValue) (counted : AmountForm amount amountValue)
      (order : members.Perm [("date", dateValue), (valueName, amountValue)]) :
      DatedForm valueName date amount (.object members)

def EntryForm (entry : IncomeEntry) : Value → Prop :=
  DatedForm "amount_wei" entry.date entry.amount

def BondForm (bond : ScheduleEntry) : Value → Prop :=
  DatedForm "bond_value_wei" bond.effective bond.value

def FeeForm (fee : ScheduleEntry) : Value → Prop :=
  DatedForm "fee_value_wei" fee.effective fee.value

inductive NodeForm (income : NodeIncome) : Value → Prop
  | object {dateValue addressValue poolValue rplValue : Value} {members : List (String × Value)}
      (dated : DateForm income.date dateValue) (addressed : TextForm income.address addressValue)
      (pooled : AmountForm income.smoothingPool poolValue) (staked : AmountForm income.rpl rplValue)
      (order : members.Perm [("date", dateValue), ("node_address", addressValue),
        ("amount_wei", poolValue), ("amount_rpl", rplValue)]) :
      NodeForm income (.object members)

/-- The member for a list, which may be left out when the list is empty. -/
inductive ListMember {α : Type} (name : String) (form : α → Value → Prop) :
    List α → List (String × Value) → Prop
  | given {items : List α} {value : Value} (written : ListForm form items value) :
      ListMember name form items [(name, value)]
  | omitted : ListMember name form [] []

/-- The member for a list that may be missing, which is told by null or by leaving it out. -/
inductive NullableMember {α : Type} (name : String) (form : α → Value → Prop) :
    Option (List α) → List (String × Value) → Prop
  | given {items : List α} {value : Value} (written : ListForm form items value) :
      NullableMember name form (some items) [(name, value)]
  | null : NullableMember name form none [(name, .null)]
  | omitted : NullableMember name form none []

inductive ValidatorMembers (income : ValidatorIncome) (bonds fees : Option Schedule) :
    List (String × Value) → Prop
  | of {indexValue : Value}
      {consensusMember executionMember withdrawalsMember bondsMember feesMember members :
        List (String × Value)}
      (indexed : IndexForm income.index indexValue)
      (consensus : NullableMember "consensus_layer_rewards" EntryForm income.consensus
        consensusMember)
      (execution : ListMember "execution_layer_rewards" EntryForm income.execution executionMember)
      (withdrawals : ListMember "withdrawals" EntryForm income.withdrawals withdrawalsMember)
      (bonded : NullableMember "bonds" BondForm bonds bondsMember)
      (charged : NullableMember "fees" FeeForm fees feesMember)
      (order : members.Perm ([("validator_index", indexValue)] ++ (consensusMember ++
        (executionMember ++ (withdrawalsMember ++ (bondsMember ++ feesMember)))))) :
      ValidatorMembers income bonds fees members

/-- A validator of a pool has bonds or fees, and the list that is missing counts as empty. -/
inductive ValidatorForm : Validator → Value → Prop
  | plain {income : ValidatorIncome} {members : List (String × Value)}
      (written : ValidatorMembers income none none members) :
      ValidatorForm (.plain income) (.object members)
  | pooled {income : ValidatorIncome} {bonds fees : Option Schedule}
      {members : List (String × Value)} (scheduled : bonds.isSome ∨ fees.isSome)
      (written : ValidatorMembers income bonds fees members) :
      ValidatorForm (.pooled income { bonds := bonds.getD [], fees := fees.getD [] })
        (.object members)

inductive IncomeForm (data : IncomeData) : Value → Prop
  | object {validatorsValue : Value} {nodesMember members : List (String × Value)}
      (validators : ListForm ValidatorForm data.validators validatorsValue)
      (nodes : ListMember "rocket_pool_node_rewards" NodeForm data.nodes nodesMember)
      (order : members.Perm ([("validator_rewards", validatorsValue)] ++ nodesMember)) :
      IncomeForm data (.object members)

/-! ### Values without parts -/

theorem written_ofNatural (value : Nat) :
    (Decimal.Literal.ofNatural value).written = Text.decimal value := by
  simp [Decimal.Literal.ofNatural, Decimal.Literal.written]

theorem amountOfText_of_isNumeral {digits : List Char} (numeral : Text.isNumeral digits = true) :
    amountOfText digits = .ok (Text.digitsValue digits) := by
  rw [amountOfText, Text.trimmed_of_isNumeral numeral]
  simp only [if_pos numeral, Text.readNatural_of_isNumeral numeral]
  rfl

theorem amount_reads : amount.Reads 0 AmountForm := by
  intro value written levels form _
  cases form with
  | number =>
      change amountOfText (Decimal.Literal.ofNatural value).written = _
      rw [written_ofNatural, amountOfText_of_isNumeral (Text.isNumeral_decimal value),
        Text.digitsValue_decimal]
  | quoted numeral denotes =>
      rename_i digits
      change amountOfText (String.ofList digits).toList = _
      rw [String.toList_ofList, amountOfText_of_isNumeral numeral, denotes]

theorem word_reads : word.Reads 0 IndexForm := by
  intro index value levels form _
  cases form with
  | number =>
      have found : (Decimal.Literal.ofNatural index.toNat).word? = some index := by
        rw [Decimal.Literal.word?, Decimal.Literal.ofNatural]
        simp only [Text.digitsValue_decimal, Text.word?_toNat]
        rfl
      rw [Value.node, word]
      simp only [found]

theorem date_reads : date.Reads 0 DateForm := by
  intro day value levels form _
  cases form with
  | written =>
      rw [Value.node, date, string, Node.text]
      simp only [bind, Except.bind, String.toList_ofList, Date.readLoose_written]
      rfl

theorem string_reads : string.Reads 0 TextForm := by
  intro text value levels form _
  cases form with
  | string => rfl

/-! ### Records -/

theorem datedAmount_object {α : Type} {valueName : String} (different : "date" ≠ valueName)
    {make : Date → Nat → α} {day : Date} {count levels : Nat} {value : Value}
    (written : DatedForm valueName day count value) (fits : 1 ≤ levels) :
    datedAmount valueName make levels value.node = .ok (make day count) := by
  rcases Nat.exists_eq_add_of_le' fits with ⟨levels, rfl⟩
  cases written with
  | object dated counted order =>
      rw [datedAmount]
      exact record_object ⟨by simp, by simp⟩ order
        ((fills_of_fieldForm (.given dated) date_reads (Nat.zero_le _) DatedDraft.date
          (fun slot draft => { draft with date := slot }) rfl rfl rfl).append
        (fills_of_fieldForm (.given counted) amount_reads (Nat.zero_le _) DatedDraft.value
          (fun slot draft => { draft with value := slot }) (by simp [field, different]) rfl rfl))

theorem incomeEntry_reads : incomeEntry.Reads 1 EntryForm :=
  datedAmount_object (by decide)

theorem bond_reads : bond.Reads 1 BondForm :=
  datedAmount_object (by decide)

theorem fee_reads : fee.Reads 1 FeeForm :=
  datedAmount_object (by decide)

theorem nodeIncome_reads : nodeIncome.Reads 1 NodeForm := by
  intro income value levels written fits
  rcases Nat.exists_eq_add_of_le' fits with ⟨levels, rfl⟩
  cases written with
  | object dated addressed pooled staked order =>
      exact record_object ⟨by simp, by simp⟩ order
        ((fills_of_fieldForm (.given dated) date_reads (Nat.zero_le _) NodeDraft.date
          (fun slot draft => { draft with date := slot }) rfl rfl rfl).append <|
        (fills_of_fieldForm (.given addressed) string_reads (Nat.zero_le _) NodeDraft.address
          (fun slot draft => { draft with address := slot }) rfl rfl rfl).append <|
        (fills_of_fieldForm (.given pooled) amount_reads (Nat.zero_le _) NodeDraft.smoothingPool
          (fun slot draft => { draft with smoothingPool := slot }) rfl rfl rfl).append <|
        fills_of_fieldForm (.given staked) amount_reads (Nat.zero_le _) NodeDraft.rpl
          (fun slot draft => { draft with rpl := slot }) rfl rfl rfl)

/-! ### Fields that may be missing -/

theorem ListMember.exists_slot {α : Type} {name : String} {form : α → Value → Prop}
    {items : List α} {members : List (String × Value)}
    (written : ListMember name form items members) :
    ∃ slot : Option (List α), slot.getD [] = items ∧
      FieldForm name (ListForm form) slot members := by
  cases written with
  | given written => exact ⟨some items, rfl, .given written⟩
  | omitted => exact ⟨none, rfl, .omitted⟩

theorem NullableMember.exists_slot {α : Type} {name : String} {form : α → Value → Prop}
    {items : Option (List α)} {members : List (String × Value)}
    (written : NullableMember name form items members) :
    ∃ slot : Option (Option (List α)), slot.join = items ∧
      FieldForm name (NullableForm (ListForm form)) slot members := by
  cases written with
  | given written => exact ⟨some (some _), rfl, .given (.given written)⟩
  | null => exact ⟨some none, rfl, .given .null⟩
  | omitted => exact ⟨none, rfl, .omitted⟩

/-- The two lists decide alone whether a validator is one of a pool. -/
theorem validator_object {income : ValidatorIncome} {bonds fees : Option Schedule}
    {members : List (String × Value)} (written : ValidatorMembers income bonds fees members)
    {levels : Nat} (fits : 2 ≤ levels) :
    validator (levels + 1) (Value.object members).node =
      match bonds, fees with
      | none, none => .ok (.plain income)
      | bonds, fees => .ok (.pooled income { bonds := bonds.getD [], fees := fees.getD [] }) := by
  rcases income with ⟨index, _, _, _⟩
  cases written with
  | of indexed consensus execution withdrawals bonded charged order =>
      rcases consensus.exists_slot with ⟨consensusSlot, rfl, consensusForm⟩
      rcases execution.exists_slot with ⟨executionSlot, rfl, executionForm⟩
      rcases withdrawals.exists_slot with ⟨withdrawalsSlot, rfl, withdrawalsForm⟩
      rcases bonded.exists_slot with ⟨bondsSlot, rfl, bondsForm⟩
      rcases charged.exists_slot with ⟨feesSlot, rfl, feesForm⟩
      -- The draft is worked out for one order of the members and then holds for all.
      rw [validator]
      refine Eq.trans (record_object ⟨by simp, by simp⟩ order <|
        Fills.append (fills_of_fieldForm (.given indexed) word_reads (Nat.zero_le _)
          ValidatorDraft.index (fun slot draft => { draft with index := slot }) rfl rfl rfl) <|
        Fills.append (fills_of_fieldForm consensusForm incomeEntry_reads.nullableArray fits
          ValidatorDraft.consensus (fun slot draft => { draft with consensus := slot })
          rfl rfl rfl) <|
        Fills.append (fills_of_fieldForm executionForm incomeEntry_reads.array fits
          ValidatorDraft.execution (fun slot draft => { draft with execution := slot })
          rfl rfl rfl) <|
        Fills.append (fills_of_fieldForm withdrawalsForm incomeEntry_reads.array fits
          ValidatorDraft.withdrawals (fun slot draft => { draft with withdrawals := slot })
          rfl rfl rfl) <|
        Fills.append (fills_of_fieldForm bondsForm bond_reads.nullableArray fits
          ValidatorDraft.bonds (fun slot draft => { draft with bonds := slot }) rfl rfl rfl) <|
        fills_of_fieldForm feesForm fee_reads.nullableArray fits ValidatorDraft.fees
          (fun slot draft => { draft with fees := slot }) rfl rfl rfl) ?_
      rcases bondsSlot with _ | _ | bonds <;> rcases feesSlot with _ | _ | fees <;> rfl

theorem validator_reads : validator.Reads 3 ValidatorForm := by
  intro read value levels written fits
  rcases Nat.exists_eq_add_of_le' fits with ⟨levels, rfl⟩
  cases written with
  | plain written => exact validator_object written (by omega)
  | pooled scheduled written =>
      rw [validator_object written (by omega)]
      split
      · simp at scheduled
      · rfl

theorem incomeData_reads : incomeData.Reads 5 IncomeForm := by
  intro data value levels written fits
  rcases Nat.exists_eq_add_of_le' fits with ⟨levels, rfl⟩
  rcases data with ⟨validators, _⟩
  cases written with
  | object validatorsForm nodes order =>
      rcases nodes.exists_slot with ⟨nodesSlot, rfl, nodesForm⟩
      rw [incomeData]
      exact record_object ⟨by simp, by simp⟩ order <|
        Fills.append (fills_of_fieldForm (.given validatorsForm) validator_reads.array (by omega)
          IncomeDraft.validators (fun slot draft => { draft with validators := slot })
          rfl rfl rfl) <|
        fills_of_fieldForm nodesForm nodeIncome_reads.array (by omega) IncomeDraft.nodes
          (fun slot draft => { draft with nodes := slot }) rfl rfl rfl

end Decoder

end Json

/-- Whatever income is written, in whichever of its forms and texts, is read back. -/
theorem IncomeData.ofJson_written {data : IncomeData} {value : Json.Value} {text : List Char}
    (written : Json.Decoder.IncomeForm data value) (spelled : Json.ElementText value text) :
    IncomeData.ofJson text = .ok data :=
  Json.Decoder.decode_of_reads Json.Decoder.incomeData_reads (by decide) written spelled


/-! ### An unusual text -/

/-- A day before the first year. -/
def earlyDate : Date where
  year := -1
  month := 2
  day := 28
  exists_day := by decide

/-- A pool without entries, bonds and fees, and a node with income. -/
def sparseIncome : IncomeData where
  validators := [.pooled
    { index := 0xffffffffffffffff, consensus := none, execution := [], withdrawals := [] }
    { bonds := [], fees := [] }]
  nodes := [{ date := earlyDate, address := "é🚀\"", smoothingPool := 0, rpl := 7 }]

def sparseText : List Char :=
  "\x7b\"rocket_pool_node_rewards\":[\x7b\"amount_wei\":0,\"amount_rpl\":\"007\",".toList ++
    "\"date\":\"-0001-02-28\",\"node_address\":\"\\u00e9\\ud83d\\uDE80\\\"\"\x7d], ".toList ++
    "\"validator_rewards\":[\x7b\"bonds\":[\t],\"fees\":null,".toList ++
    "\"validator_index\":18446744073709551615,".toList ++
    "\"consensus_layer_rewards\":null\x7d]\x7d\n".toList

section sparseText

open Json Decoder

def sparseNode : Value :=
  .object [("amount_wei", .number (.ofNatural 0)), ("amount_rpl", .string "007"),
    ("date", .string "-0001-02-28"), ("node_address", .string "é🚀\"")]

def sparseValidator : Value :=
  .object [("bonds", .array []), ("fees", .null),
    ("validator_index", .number (.ofNatural 0xffffffffffffffff)),
    ("consensus_layer_rewards", .null)]

def sparseValue : Value :=
  .object [("rocket_pool_node_rewards", .array [sparseNode]),
    ("validator_rewards", .array [sparseValidator])]

theorem sparseValue_form : IncomeForm sparseIncome sparseValue := by
  have dated : DateForm earlyDate (.string "-0001-02-28") := .written
  have staked : AmountForm 7 (.string (String.ofList "007".toList)) :=
    .quoted (by decide) (by decide)
  have node : NodeForm ⟨earlyDate, "é🚀\"", 0, 7⟩ sparseNode :=
    .object dated .string .number staked (@List.perm_append_comm _ [_, _] [_, _])
  have bonded : NullableMember "bonds" BondForm (some []) [("bonds", .array [])] :=
    .given (.array .nil)
  have members : ValidatorMembers ⟨0xffffffffffffffff, none, [], []⟩ (some []) none _ :=
    .of .number .null .omitted .omitted bonded .null (@List.perm_append_comm _ [_, _] [_, _])
  have validator : ValidatorForm _ sparseValidator := .pooled (.inl rfl) members
  exact .object (.array (.cons validator .nil)) (.given (.array (.cons node .nil))) (.swap _ _ _)

theorem stringText_address :
    StringText "é🚀\"" ('"' :: "\\u00e9\\ud83d\\uDE80\\\"".toList ++ ['"']) := by
  have accented : UnitEscape 0xe9 ['\\', 'u', '0', '0', 'e', '9'] :=
    .digits (by decide : IsHexDigit 0 '0') (by decide : IsHexDigit 0 '0')
      (by decide : IsHexDigit 0xe 'e') (by decide : IsHexDigit 9 '9')
  have high : UnitEscape 0xd83d ['\\', 'u', 'd', '8', '3', 'd'] :=
    .digits (by decide : IsHexDigit 0xd 'd') (by decide : IsHexDigit 8 '8')
      (by decide : IsHexDigit 3 '3') (by decide : IsHexDigit 0xd 'd')
  have low : UnitEscape 0xde80 ['\\', 'u', 'D', 'E', '8', '0'] :=
    .digits (by decide : IsHexDigit 0xd 'D') (by decide : IsHexDigit 0xe 'E')
      (by decide : IsHexDigit 8 '8') (by decide : IsHexDigit 0 '0')
  have letter : CharacterText 'é' _ := .unit accented
  have rocket : CharacterText '🚀' _ := .pair (by decide) (by decide) (by decide) high low
  have quote : CharacterText '"' _ := .short (by decide : ('"', '"') ∈ shortEscapes)
  exact .quoted (.cons letter (.cons rocket (.cons quote .nil)))

theorem sparseText_elementText : ElementText sparseValue sparseText := by
  have plain (string : String) (visible : string.toList.all isVisible = true) :
      StringText string ('"' :: string.toList ++ ['"']) :=
    .quoted (contentText_of_visible visible)
  have number (value : Nat) := (ValueText.number (literalText_ofNatural value)).element
  have quoted {string text} (spelled : StringText string text) := (ValueText.string spelled).element
  have node := ValueText.object <|
    .cons ((number 0).member (plain "amount_wei" (by decide))) <|
    .cons ((quoted (plain "007" (by decide))).member (plain "amount_rpl" (by decide))) <|
    .cons ((quoted (plain "-0001-02-28" (by decide))).member (plain "date" (by decide))) <|
    .last ((quoted stringText_address).member (plain "node_address" (by decide)))
  have validator := ValueText.object <|
    .cons ((ValueText.emptyArray (by decide : IsGap ['\t'])).element.member
      (plain "bonds" (by decide))) <|
    .cons (ValueText.null.element.member (plain "fees" (by decide))) <|
    .cons ((number 0xffffffffffffffff).member (plain "validator_index" (by decide))) <|
    .last (ValueText.null.element.member (plain "consensus_layer_rewards" (by decide)))
  have spelled := ElementText.padded (by decide : IsGap []) (.object <|
    .cons ((ValueText.array (.last node.element)).element.member
      (plain "rocket_pool_node_rewards" (by decide))) <|
    .last (.named (by decide : IsGap [' ']) (plain "validator_rewards" (by decide))
      (by decide : IsGap []) (ValueText.array (.last validator.element)).element))
    (by decide : IsGap ['\n'])
  refine (congrArg (ElementText sparseValue) ?_).mp spelled
  decide +kernel

theorem ofJson_sparseText :
    IncomeForm sparseIncome sparseValue ∧ ElementText sparseValue sparseText ∧
      IncomeData.ofJson sparseText = .ok sparseIncome :=
  ⟨sparseValue_form, sparseText_elementText,
    IncomeData.ofJson_written sparseValue_form sparseText_elementText⟩

end sparseText

end StakingIncome
