import StakingIncome.Proofs.IncomeTexts

/-!
All income can be written in JSON, so nothing that the types allow is out of reach of a file.
-/

namespace StakingIncome

namespace Json

/-! ### Every string has a text -/

theorem exists_unitEscape {unit : Nat} (small : unit < 0x100) :
    ∃ text, UnitEscape unit text := by
  have isHexDigit (value : Nat) (fits : value < 16) : IsHexDigit value (Nat.digitChar value) :=
    ⟨fits, .inl rfl⟩
  have escape := UnitEscape.digits (isHexDigit 0 (by decide)) (isHexDigit 0 (by decide))
    (isHexDigit (unit / 16) (by omega)) (isHexDigit (unit % 16) (by omega))
  have value : 16 * (16 * (16 * 0 + 0) + unit / 16) + unit % 16 = unit := by omega
  rw [value] at escape
  exact ⟨_, escape⟩

/-- What cannot stand for itself has one of the first numbers, and an escape for it. -/
theorem exists_characterText (character : Char) : ∃ text, CharacterText character text := by
  by_cases visible : 0x20 ≤ character.toNat
  · by_cases quote : character = '"'
    · subst quote
      exact ⟨_, .short (by decide : ('"', '"') ∈ shortEscapes)⟩
    · by_cases backslash : character = '\\'
      · subst backslash
        exact ⟨_, .short (by decide : ('\\', '\\') ∈ shortEscapes)⟩
      · exact ⟨_, .plain visible quote backslash⟩
  · rcases exists_unitEscape (by omega : character.toNat < 0x100) with ⟨text, escape⟩
    exact ⟨text, .unit escape⟩

theorem exists_stringText (string : String) : ∃ text, StringText string text := by
  have content (content : List Char) : ∃ text, ContentText content text := by
    induction content with
    | nil => exact ⟨_, .nil⟩
    | cons character _ induction =>
        rcases exists_characterText character with ⟨_, first⟩
        rcases induction with ⟨_, rest⟩
        exact ⟨_, .cons first rest⟩
  rcases content string.toList with ⟨_, content⟩
  exact ⟨_, .quoted content⟩

/-! ### Values made of parts with texts -/

def HasText (value : Value) : Prop :=
  ∃ text, ValueText value text

theorem hasText_string (content : String) : HasText (.string content) := by
  rcases exists_stringText content with ⟨_, spelled⟩
  exact ⟨_, .string spelled⟩

theorem hasText_ofNatural (value : Nat) : HasText (.number (.ofNatural value)) :=
  ⟨_, .number (literalText_ofNatural value)⟩

theorem exists_elementsText {first : Value} {items : List Value} (front : HasText first)
    (each : ∀ item ∈ items, HasText item) : ∃ text, ElementsText (first :: items) text := by
  induction items generalizing first with
  | nil =>
      rcases front with ⟨_, front⟩
      exact ⟨_, .last front.element⟩
  | cons second items induction =>
      rcases List.forall_mem_cons.mp each with ⟨next, others⟩
      rcases front with ⟨_, front⟩
      rcases induction next others with ⟨_, rest⟩
      exact ⟨_, .cons front.element rest⟩

theorem hasText_array {items : List Value} (each : ∀ item ∈ items, HasText item) :
    HasText (.array items) := by
  cases items with
  | nil => exact ⟨_, .emptyArray (List.forall_mem_nil _)⟩
  | cons first items =>
      rcases List.forall_mem_cons.mp each with ⟨front, others⟩
      rcases exists_elementsText front others with ⟨_, spelled⟩
      exact ⟨_, .array spelled⟩

theorem exists_memberText {member : String × Value} (written : HasText member.2) :
    ∃ text, MemberText member text := by
  rcases written with ⟨_, written⟩
  rcases exists_stringText member.1 with ⟨_, name⟩
  exact ⟨_, written.element.member name⟩

theorem exists_membersText {first : String × Value} {members : List (String × Value)}
    (front : HasText first.2) (each : ∀ member ∈ members, HasText member.2) :
    ∃ text, MembersText (first :: members) text := by
  induction members generalizing first with
  | nil =>
      rcases exists_memberText front with ⟨_, front⟩
      exact ⟨_, .last front⟩
  | cons second members induction =>
      rcases List.forall_mem_cons.mp each with ⟨next, others⟩
      rcases exists_memberText front with ⟨_, front⟩
      rcases induction next others with ⟨_, rest⟩
      exact ⟨_, .cons front rest⟩

theorem hasText_object {members : List (String × Value)}
    (each : ∀ member ∈ members, HasText member.2) : HasText (.object members) := by
  cases members with
  | nil => exact ⟨_, .emptyObject (List.forall_mem_nil _)⟩
  | cons first members =>
      rcases List.forall_mem_cons.mp each with ⟨front, others⟩
      rcases exists_membersText front others with ⟨_, spelled⟩
      exact ⟨_, .object spelled⟩

/-! ### Forms with texts -/

namespace Decoder

/-- Everything has this form in some value with a text. -/
def Writable {α : Type} (form : α → Value → Prop) : Prop :=
  ∀ item, ∃ value, form item value ∧ HasText value

theorem writable_amount : Writable AmountForm := fun amount =>
  ⟨_, .number, hasText_ofNatural amount⟩

theorem writable_index : Writable IndexForm := fun index =>
  ⟨_, .number, hasText_ofNatural index.toNat⟩

theorem writable_date : Writable DateForm := fun _ =>
  ⟨_, .written, hasText_string _⟩

theorem writable_text : Writable TextForm := fun text =>
  ⟨_, .string, hasText_string text⟩

theorem Writable.list {α : Type} {form : α → Value → Prop} (writable : Writable form) :
    Writable (ListForm form) := by
  intro items
  have each : ∃ values, List.Forall₂ form items values ∧ ∀ value ∈ values, HasText value := by
    induction items with
    | nil => exact ⟨[], .nil, List.forall_mem_nil _⟩
    | cons item items induction =>
        rcases writable item with ⟨value, written, hasText⟩
        rcases induction with ⟨values, each, haveTexts⟩
        exact ⟨value :: values, .cons written each, List.forall_mem_cons.mpr ⟨hasText, haveTexts⟩⟩
  rcases each with ⟨values, each, haveTexts⟩
  exact ⟨_, .array each, hasText_array haveTexts⟩

theorem exists_datedForm (valueName : String) (date : Date) (amount : Nat) :
    ∃ value, DatedForm valueName date amount value ∧ HasText value := by
  rcases writable_date date with ⟨_, dated, dateText⟩
  rcases writable_amount amount with ⟨_, counted, amountText⟩
  exact ⟨_, .object dated counted (.refl _), hasText_object (by simp [dateText, amountText])⟩

theorem writable_entry : Writable EntryForm := fun _ => exists_datedForm _ _ _

theorem writable_bond : Writable BondForm := fun _ => exists_datedForm _ _ _

theorem writable_fee : Writable FeeForm := fun _ => exists_datedForm _ _ _

theorem writable_node : Writable NodeForm := by
  intro income
  rcases writable_date income.date with ⟨_, dated, dateText⟩
  rcases writable_text income.address with ⟨_, addressed, addressText⟩
  rcases writable_amount income.smoothingPool with ⟨_, pooled, poolText⟩
  rcases writable_amount income.rpl with ⟨_, staked, rplText⟩
  exact ⟨_, .object dated addressed pooled staked (.refl _),
    hasText_object (by simp [dateText, addressText, poolText, rplText])⟩

theorem exists_nullableMember {α : Type} {form : α → Value → Prop} (writable : Writable form)
    (name : String) (items : Option (List α)) :
    ∃ members, NullableMember name form items members ∧ ∀ member ∈ members, HasText member.2 := by
  cases items with
  | none => exact ⟨_, .omitted, List.forall_mem_nil _⟩
  | some items =>
      rcases writable.list items with ⟨_, written, hasText⟩
      exact ⟨_, .given written, List.forall_mem_singleton.mpr hasText⟩

theorem exists_validatorMembers (income : ValidatorIncome) (bonds fees : Option Schedule) :
    ∃ members, ValidatorMembers income bonds fees members ∧ HasText (.object members) := by
  rcases writable_index income.index with ⟨_, indexed, indexText⟩
  rcases exists_nullableMember writable_entry "consensus_layer_rewards" income.consensus
    with ⟨_, consensus, consensusText⟩
  rcases writable_entry.list income.execution with ⟨_, execution, executionText⟩
  rcases writable_entry.list income.withdrawals with ⟨_, withdrawals, withdrawalsText⟩
  rcases exists_nullableMember writable_bond "bonds" bonds with ⟨_, bonded, bondsText⟩
  rcases exists_nullableMember writable_fee "fees" fees with ⟨_, charged, feesText⟩
  refine ⟨_, .of indexed consensus (.given execution) (.given withdrawals) bonded charged (.refl _),
    hasText_object ?_⟩
  simp only [List.forall_mem_append, List.forall_mem_singleton]
  exact ⟨indexText, consensusText, executionText, withdrawalsText, bondsText, feesText⟩

theorem writable_validator : Writable ValidatorForm := by
  rintro (income | ⟨income, bonds, fees⟩)
  · rcases exists_validatorMembers income none none with ⟨_, written, hasText⟩
    exact ⟨_, .plain written, hasText⟩
  · rcases exists_validatorMembers income (some bonds) (some fees) with ⟨_, written, hasText⟩
    exact ⟨_, .pooled (.inl rfl) written, hasText⟩

theorem writable_income : Writable IncomeForm := by
  intro data
  rcases writable_validator.list data.validators with ⟨_, validators, validatorsText⟩
  rcases writable_node.list data.nodes with ⟨_, nodes, nodesText⟩
  exact ⟨_, .object validators (.given nodes) (.refl _),
    hasText_object (by simp [validatorsText, nodesText])⟩

end Decoder

end Json

theorem IncomeData.exists_ofJson_eq (data : IncomeData) :
    ∃ text, IncomeData.ofJson text = .ok data := by
  rcases Json.Decoder.writable_income data with ⟨_, written, _, spelled⟩
  exact ⟨_, Json.Decoder.decode_of_reads Json.Decoder.incomeData_reads (by decide) written
    spelled.element⟩

end StakingIncome
