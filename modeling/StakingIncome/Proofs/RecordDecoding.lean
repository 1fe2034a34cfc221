import Mathlib.Data.List.Forall2
import Mathlib.Data.List.Pairwise
import StakingIncome.Json.Decoder
import StakingIncome.Proofs.Passes
import StakingIncome.Proofs.ValueTexts

/-!
Decoders give back what was written. For each kind of decoder this is told of the forms that a value
may be written in: a list item by item, and a record with its members in any order, since each field
fills its own part of a draft.
-/

namespace StakingIncome.Json

namespace Decoder

variable {α δ : Type}

/-- Whatever has the form is read from each of its values, if brackets to that depth may be
opened. -/
def Reads (decoder : Decoder α) (depth : Nat) (form : α → Value → Prop) : Prop :=
  ∀ {item value levels}, form item value → depth ≤ levels → decoder levels value.node = .ok item

theorem decode_elementText (decoder : Decoder α) {value : Value} {text : List Char}
    (spelled : ElementText value text) :
    decode decoder text = decoder mostLevels value.node := by
  rw [decode, Document.read_elementText spelled]
  cases decoder mostLevels value.node <;> rfl

theorem decode_of_reads {decoder : Decoder α} {depth : Nat} {form : α → Value → Prop}
    (reads : decoder.Reads depth form) (fits : depth ≤ mostLevels) {item : α} {value : Value}
    (written : form item value) {text : List Char} (spelled : ElementText value text) :
    decode decoder text = .ok item := by
  rw [decode_elementText decoder spelled, reads written fits]

/-! ### Lists -/

inductive ListForm (form : α → Value → Prop) (items : List α) : Value → Prop
  | array {values : List Value} (each : List.Forall₂ form items values) :
      ListForm form items (.array values)

inductive NullableForm (form : α → Value → Prop) : Option α → Value → Prop
  | null : NullableForm form none .null
  | given {item : α} {value : Value} (written : form item value) :
      NullableForm form (some item) value

theorem mapM_nodes {decoder : Decoder α} {depth levels : Nat} {form : α → Value → Prop}
    (reads : decoder.Reads depth form) (fits : depth ≤ levels) {items : List α}
    {values : List Value} (each : List.Forall₂ form items values) :
    (Value.nodes values).mapM (decoder levels) = .ok items := by
  induction each with
  | nil => rfl
  | cons written _ induction =>
      rw [Value.nodes, List.mapM_cons, reads written fits, induction]
      rfl

theorem Reads.array {decoder : Decoder α} {depth : Nat} {form : α → Value → Prop}
    (reads : decoder.Reads depth form) :
    (Decoder.array decoder).Reads (depth + 1) (ListForm form) := by
  intro items value levels written fits
  cases written with
  | array each =>
      cases levels with
      | zero => exact absurd fits (Nat.not_succ_le_zero depth)
      | succ levels =>
          rw [Value.node, Decoder.array, mapM_nodes reads (Nat.le_of_succ_le_succ fits) each]
          rfl

theorem Reads.nullableArray {decoder : Decoder α} {depth : Nat} {form : α → Value → Prop}
    (reads : decoder.Reads depth form) :
    (nullable (Decoder.array decoder)).Reads (depth + 1) (NullableForm (ListForm form)) := by
  intro items value levels written fits
  cases written with
  | null => rfl
  | given written =>
      have found := reads.array written fits
      cases written with
      | array each =>
          rw [nullable, found]
          · rfl
          · nofun

/-! ### The fields of a record -/

/-- A value of the field that is put into drafts. -/
def Field.Sets (field : Field δ) (set : δ → δ) : Prop :=
  ∃ levels node, field.fill levels node = .ok set

theorem Field.sets_of_fill {field : Field δ} {levels : Nat} {node : Node} {set : δ → δ}
    (read : field.fill levels node = .ok set) : field.Sets set :=
  ⟨levels, node, read⟩

/-- A draft shows that the field was filled. -/
def Field.Marks (field : Field δ) : Prop :=
  ∀ {set}, field.Sets set → ∀ draft, field.isFilled (set draft) = true

/-- Filling one field neither shows in the other nor depends on it. -/
structure Field.Independent (one other : Field δ) : Prop where
  commute : ∀ {set otherSet}, one.Sets set → other.Sets otherSet →
    ∀ draft, set (otherSet draft) = otherSet (set draft)
  keepsOther : ∀ {set}, one.Sets set → ∀ draft, other.isFilled (set draft) = other.isFilled draft
  keepsOne : ∀ {set}, other.Sets set → ∀ draft, one.isFilled (set draft) = one.isFilled draft

instance : Std.Symm (Field.Independent (δ := δ)) where
  symm _ _ independent := {
    commute otherSets sets draft := (independent.commute sets otherSets draft).symm
    keepsOther := independent.keepsOne
    keepsOne := independent.keepsOther }

/-- Each field has a part of the draft to itself. -/
structure Separate (fields : List (Field δ)) : Prop where
  marked : ∀ field ∈ fields, field.Marks
  independent : fields.Pairwise Field.Independent

section field

variable {β : Type} {name otherName : String} {value? : δ → Option α} {otherValue? : δ → Option β}
  {set : α → δ → δ} {otherSet : β → δ → δ} {decoder : Decoder α} {otherDecoder : Decoder β}

theorem exists_of_sets {change : δ → δ} (sets : (field name value? set decoder).Sets change) :
    ∃ item, change = set item := by
  rcases sets with ⟨levels, node, filled⟩
  rcases Pass.map_eq_ok_iff.mp filled with ⟨item, _, same⟩
  exact ⟨item, same.symm⟩

@[simp] theorem marks_field (marks : ∀ item draft, (value? (set item draft)).isSome = true) :
    (field name value? set decoder).Marks := by
  intro change sets draft
  rcases exists_of_sets sets with ⟨item, rfl⟩
  exact marks item draft

@[simp] theorem independent_field (commute : ∀ item other draft,
      set item (otherSet other draft) = otherSet other (set item draft))
    (keepsOther : ∀ item draft, otherValue? (set item draft) = otherValue? draft)
    (keepsOne : ∀ other draft, value? (otherSet other draft) = value? draft) :
    (field name value? set decoder).Independent
      (field otherName otherValue? otherSet otherDecoder) where
  commute sets otherSets draft := by
    rcases exists_of_sets sets with ⟨item, rfl⟩
    rcases exists_of_sets otherSets with ⟨other, rfl⟩
    exact commute item other draft
  keepsOther sets draft := by
    rcases exists_of_sets sets with ⟨item, rfl⟩
    exact congrArg Option.isSome (keepsOther item draft)
  keepsOne sets draft := by
    rcases exists_of_sets sets with ⟨other, rfl⟩
    exact congrArg Option.isSome (keepsOne other draft)

end field

/-! ### Members in any order -/

/-- What one member does to a draft, unless its field was filled before. -/
inductive Effect (fields : List (Field δ)) (levels : Nat) : Member → (δ → Bool) → (δ → δ) → Prop
  | skipped {name : String} {value : Node}
      (unknown : fields.find? (fun field => field.name == name) = none)
      (passed : value.skip = .ok ()) : Effect fields levels (.ok name, value) (fun _ => false) id
  | filled {name : String} {value : Node} {field : Field δ} {set : δ → δ}
      (found : fields.find? (fun field => field.name == name) = some field)
      (read : field.fill levels value = .ok set) :
      Effect fields levels (.ok name, value) field.isFilled set

theorem Effect.fillMembers_cons {fields : List (Field δ)} {levels : Nat} {member : Member}
    {isFilled : δ → Bool} {set : δ → δ} (effect : Effect fields levels member isFilled set)
    {draft : δ} (unfilled : isFilled draft = false) (rest : List Member) :
    fillMembers fields levels draft (member :: rest) =
      fillMembers fields levels (set draft) rest := by
  cases effect with
  | skipped unknown passed =>
      simp only [fillMembers, Node.key, Except.mapError, bind, Except.bind, unknown, passed]
      rfl
  | filled found read =>
      simp only [fillMembers, Node.key, Except.mapError, bind, Except.bind, found, unfilled, read]
      rfl

theorem exists_effect {fields : List (Field δ)} {levels : Nat} {draft filled : δ}
    {member : Member} {rest : List Member}
    (success : fillMembers fields levels draft (member :: rest) = .ok filled) :
    ∃ isFilled set, Effect fields levels member isFilled set ∧ isFilled draft = false := by
  rcases member with ⟨key, value⟩
  rw [fillMembers] at success
  rcases Pass.bind_eq_ok_iff.mp success with ⟨name, named, matched⟩
  cases key with
  | error flaw => cases named
  | ok key =>
      cases named
      split at matched
      · rename_i unknown
        rcases Pass.bind_eq_ok_iff.mp matched with ⟨_, passed, _⟩
        exact ⟨_, _, .skipped unknown passed, rfl⟩
      · rename_i field found
        split at matched
        · cases matched
        · rename_i unfilled
          rcases Pass.bind_eq_ok_iff.mp matched with ⟨set, read, _⟩
          exact ⟨_, _, .filled found read, by simpa using unfilled⟩

theorem fillMembers_cons_eq_ok_iff {fields : List (Field δ)} {levels : Nat} {draft filled : δ}
    {member : Member} {rest : List Member} :
    fillMembers fields levels draft (member :: rest) = .ok filled ↔
      ∃ isFilled set, Effect fields levels member isFilled set ∧ isFilled draft = false ∧
        fillMembers fields levels (set draft) rest = .ok filled := by
  constructor
  · intro success
    rcases exists_effect success with ⟨isFilled, set, effect, unfilled⟩
    rw [effect.fillMembers_cons unfilled] at success
    exact ⟨isFilled, set, effect, unfilled, success⟩
  · rintro ⟨isFilled, set, effect, unfilled, success⟩
    rw [effect.fillMembers_cons unfilled, success]

/-- Two members that fill a draft one after the other do so in either order. -/
theorem Separate.swap {fields : List (Field δ)} (separate : Separate fields) {levels : Nat}
    {first second : Member} {firstFilled secondFilled : δ → Bool} {firstSet secondSet : δ → δ}
    (one : Effect fields levels first firstFilled firstSet)
    (other : Effect fields levels second secondFilled secondSet) {draft : δ}
    (unfilled : firstFilled draft = false) (stillUnfilled : secondFilled (firstSet draft) = false) :
    secondFilled draft = false ∧ firstFilled (secondSet draft) = false ∧
      firstSet (secondSet draft) = secondSet (firstSet draft) := by
  cases one with
  | skipped _ _ => exact ⟨stillUnfilled, rfl, rfl⟩
  | filled found read =>
      cases other with
      | skipped _ _ => exact ⟨rfl, unfilled, rfl⟩
      | filled otherFound otherRead =>
          rename_i field _ _ otherField
          have sets := Field.sets_of_fill read
          have otherSets := Field.sets_of_fill otherRead
          have member := List.mem_of_find?_eq_some found
          have otherMember := List.mem_of_find?_eq_some otherFound
          -- One field for both members would have been filled when the second one came.
          have different : field ≠ otherField := by
            rintro rfl
            rw [separate.marked _ member sets] at stillUnfilled
            cases stillUnfilled
          have independent := separate.independent.forall member otherMember different
          rw [independent.keepsOther sets] at stillUnfilled
          exact ⟨stillUnfilled, (independent.keepsOne otherSets draft).trans unfilled,
            independent.commute sets otherSets draft⟩

theorem Separate.fillMembers_perm {fields : List (Field δ)} (separate : Separate fields)
    {levels : Nat} {members ordered : List Member} (order : members.Perm ordered) :
    ∀ {draft filled}, fillMembers fields levels draft members = .ok filled →
      fillMembers fields levels draft ordered = .ok filled := by
  induction order with
  | nil => exact id
  | cons member _ induction =>
      intro draft filled success
      rw [fillMembers_cons_eq_ok_iff] at success ⊢
      rcases success with ⟨isFilled, set, effect, unfilled, success⟩
      exact ⟨isFilled, set, effect, unfilled, induction success⟩
  | swap first second rest =>
      intro draft filled success
      simp only [fillMembers_cons_eq_ok_iff] at success ⊢
      rcases success with ⟨_, _, one, unfilled, _, _, other, stillUnfilled, success⟩
      rcases separate.swap one other unfilled stillUnfilled with ⟨before, after, commute⟩
      exact ⟨_, _, other, before, _, _, one, after, commute ▸ success⟩
  | trans _ _ first second =>
      intro draft filled success
      exact second (first success)

/-! ### Reading a record -/

/-- The members of an object that hold a field, or that leave it out. -/
inductive FieldForm (name : String) (form : α → Value → Prop) :
    Option α → List (String × Value) → Prop
  | given {item : α} {value : Value} (written : form item value) :
      FieldForm name form (some item) [(name, value)]
  | omitted : FieldForm name form none []

/-- The members turn one draft into another, and the rest is read from there. -/
def Fills (fields : List (Field δ)) (levels : Nat) (members : List (String × Value))
    (before after : δ) : Prop :=
  ∀ rest, fillMembers fields levels before (Value.memberNodes (members ++ rest)) =
    fillMembers fields levels after (Value.memberNodes rest)

theorem Fills.append {fields : List (Field δ)} {levels : Nat}
    {members others : List (String × Value)} {before between after : δ}
    (first : Fills fields levels members before between)
    (second : Fills fields levels others between after) :
    Fills fields levels (members ++ others) before after := by
  intro rest
  rw [List.append_assoc, first, second]

theorem fills_of_fieldForm {fields : List (Field δ)} {name : String} {decoder : Decoder α}
    {depth levels : Nat} {form : α → Value → Prop} {slot : Option α}
    {members : List (String × Value)} {draft : δ} (written : FieldForm name form slot members)
    (reads : decoder.Reads depth form) (fits : depth ≤ levels) (value? : δ → Option α)
    (assign : Option α → δ → δ) (found : fields.find? (fun field => field.name == name) =
      some (field name value? (fun item => assign (some item)) decoder))
    (unfilled : value? draft = none) (keeps : assign none draft = draft) :
    Fills fields levels members draft (assign slot draft) := by
  intro rest
  cases written with
  | omitted => rw [List.nil_append, keeps]
  | given written =>
      have read := congrArg (Except.map fun item => assign (some item)) (reads written fits)
      have effect := Effect.filled found read
      have isFilled : (value? draft).isSome = false := congrArg Option.isSome unfilled
      rw [List.singleton_append, Value.memberNodes, effect.fillMembers_cons isFilled]

/-- An object with these members in any order gives the draft that they fill in theirs. -/
theorem record_object {fields : List (Field δ)} (separate : Separate fields) {empty filled : δ}
    {finish : δ → Except DecodeFault α} {levels : Nat} {members ordered : List (String × Value)}
    (order : members.Perm ordered)
    (fills : Fills fields levels ordered empty filled) :
    record fields empty finish (levels + 1) (Value.object members).node = finish filled := by
  have success := fills []
  rw [List.append_nil, Value.memberNodes_eq_map] at success
  rw [Value.node, Value.memberNodes_eq_map, record]
  simp only [bind, Except.bind, separate.fillMembers_perm (order.symm.map _) success]
  rfl

end Decoder

end StakingIncome.Json
