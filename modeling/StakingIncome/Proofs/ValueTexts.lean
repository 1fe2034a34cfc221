import StakingIncome.Json.Document
import StakingIncome.Json.Value
import StakingIncome.Proofs.NumberTexts
import StakingIncome.Proofs.StringTexts

/-!
JSON texts. A value may be written in many ways, with spaces between its parts and with a choice of
spellings for what has no parts. From each of its texts the same tree is read.
-/

namespace StakingIncome.Json

/-! ### The texts of a value -/

def IsGap (text : List Char) : Prop :=
  ∀ character ∈ text, character ∈ [' ', '\t', '\n', '\r']

instance (text : List Char) : Decidable (IsGap text) :=
  List.decidableBAll _ text

mutual

/-- A value from its first character to its last. -/
inductive ValueText : Value → List Char → Prop
  | null : ValueText .null "null".toList
  | true : ValueText (.bool true) "true".toList
  | false : ValueText (.bool false) "false".toList
  | number {literal : Decimal.Literal} {text : List Char} (spelled : LiteralText literal text) :
      ValueText (.number literal) text
  | string {content : String} {text : List Char} (spelled : StringText content text) :
      ValueText (.string content) text
  | emptyArray {gap : List Char} (spaces : IsGap gap) : ValueText (.array []) ('[' :: gap ++ [']'])
  | array {items : List Value} {text : List Char} (spelled : ElementsText items text) :
      ValueText (.array items) ('[' :: text ++ [']'])
  | emptyObject {gap : List Char} (spaces : IsGap gap) :
      ValueText (.object []) ('\x7b' :: gap ++ ['\x7d'])
  | object {members : List (String × Value)} {text : List Char}
      (spelled : MembersText members text) :
      ValueText (.object members) ('\x7b' :: text ++ ['\x7d'])

/-- A value with spaces around it. -/
inductive ElementText : Value → List Char → Prop
  | padded {before after text : List Char} {value : Value} (spacesBefore : IsGap before)
      (spelled : ValueText value text) (spacesAfter : IsGap after) :
      ElementText value (before ++ text ++ after)

inductive ElementsText : List Value → List Char → Prop
  | last {value : Value} {text : List Char} (element : ElementText value text) :
      ElementsText [value] text
  | cons {value : Value} {items : List Value} {text more : List Char}
      (first : ElementText value text) (rest : ElementsText items more) :
      ElementsText (value :: items) (text ++ ',' :: more)

inductive MemberText : String × Value → List Char → Prop
  | named {before after name text : List Char} {key : String} {value : Value}
      (spacesBefore : IsGap before) (spelled : StringText key name) (spacesAfter : IsGap after)
      (element : ElementText value text) :
      MemberText (key, value) (before ++ name ++ after ++ ':' :: text)

inductive MembersText : List (String × Value) → List Char → Prop
  | last {member : String × Value} {text : List Char} (spelled : MemberText member text) :
      MembersText [member] text
  | cons {member : String × Value} {members : List (String × Value)} {text more : List Char}
      (first : MemberText member text) (rest : MembersText members more) :
      MembersText (member :: members) (text ++ ',' :: more)

end

theorem ValueText.element {value : Value} {text : List Char} (spelled : ValueText value text) :
    ElementText value text := by
  have padded := ElementText.padded (List.forall_mem_nil _) spelled (List.forall_mem_nil _)
  rwa [List.nil_append, List.append_nil] at padded

theorem ElementText.member {key : String} {value : Value} {name text : List Char}
    (element : ElementText value text) (spelled : StringText key name) :
    MemberText (key, value) (name ++ ':' :: text) := by
  have named := MemberText.named (List.forall_mem_nil _) spelled (List.forall_mem_nil _) element
  rwa [List.nil_append, List.append_nil] at named

/-! ### The tree of a value -/

namespace Value

mutual

def node : Value → Node
  | null => .scalar .null
  | bool value => .scalar (.bool value)
  | number literal => .scalar (.number literal)
  | string content => .scalar (.string (some content))
  | array items => .array (nodes items) none
  | object members => .object (memberNodes members) none

def nodes : List Value → List Node
  | [] => []
  | item :: rest => node item :: nodes rest

def memberNodes : List (String × Value) → List Member
  | [] => []
  | (name, value) :: rest => (.ok name, node value) :: memberNodes rest

end

theorem memberNodes_eq_map (members : List (String × Value)) :
    memberNodes members = members.map fun member => (.ok member.1, member.2.node) := by
  induction members with
  | nil => rfl
  | cons member rest induction => rw [memberNodes, induction, List.map_cons]

end Value

/-! ### Reading token by token -/

/-- The character of a token that has only one. -/
def Token.mark? : Token → Option Char
  | openArray => some '['
  | closeArray => some ']'
  | openObject => some '\x7b'
  | closeObject => some '\x7d'
  | comma => some ','
  | colon => some ':'
  | scalar _ | brokenString _ | brokenValue _ => none

theorem endsNumber_mark (token : Token) {mark : Char} (written : token.mark? = some mark)
    (rest : List Char) : EndsNumber (mark :: rest) := by
  cases token <;> cases written <;> rfl

theorem EndsNumber.append_of_isGap {gap rest : List Char} (spaces : IsGap gap)
    (ends : EndsNumber rest) : EndsNumber (gap ++ rest) := by
  cases gap with
  | nil => exact ends
  | cons space gap =>
      have listed := spaces space List.mem_cons_self
      simp only [List.mem_cons, List.not_mem_nil, or_false] at listed
      rcases listed with rfl | rfl | rfl | rfl <;> rfl

namespace Progress

theorem run_eq (progress : Progress) (text : List Char) :
    progress.run text = match nextToken? (text.dropWhile isSpace) with
      | none => progress
      | some (token, rest) => (progress.step token).run rest := by
  rw [run]
  split <;> simp_all

theorem run_gap {gap : List Char} (spaces : IsGap gap) (progress : Progress) (text : List Char) :
    progress.run (gap ++ text) = progress.run text := by
  have isSpace : ∀ character ∈ gap, isSpace character = true := by
    intro character member
    have listed := spaces character member
    simp only [List.mem_cons, List.not_mem_nil, or_false] at listed
    rcases listed with rfl | rfl | rfl | rfl <;> rfl
  rw [run_eq, List.dropWhile_append_of_pos isSpace, ← run_eq]

/-- No sound token starts with a space. -/
theorem nextToken?_of_isSpace {first : Char} (space : isSpace first = true) (rest : List Char) :
    nextToken? (first :: rest) = some (.brokenValue (.of .malformed), []) := by
  simp only [isSpace, Bool.or_eq_true, beq_iff_eq] at space
  rcases space with ((rfl | rfl) | rfl) | rfl <;> rfl

theorem run_of_nextToken? {text rest : List Char} {token : Token}
    (found : nextToken? text = some (token, rest)) (sound : ∀ breach, token ≠ .brokenValue breach)
    (progress : Progress) : progress.run text = (progress.step token).run rest := by
  cases text with
  | nil => cases found
  | cons first more =>
      have solid : ¬ isSpace first = true := by
        intro space
        rw [nextToken?_of_isSpace space] at found
        cases found
        exact sound _ rfl
      rw [run_eq, List.dropWhile_cons_of_neg solid, found]

theorem run_mark (token : Token) {mark : Char} (written : token.mark? = some mark)
    (progress : Progress) (text : List Char) :
    progress.run (mark :: text) = (progress.step token).run text := by
  have found : nextToken? (mark :: text) = some (token, text) := by
    cases token <;> cases written <;> rfl
  have sound : ∀ breach, token ≠ .brokenValue breach := by
    rintro breach rfl
    cases written
  exact run_of_nextToken? found sound progress

/-! ### Reading a value

What reading a text does is told for each kind of text by itself: in every place where it may stand,
it puts what was written there. -/

/-- The text is read as the value, in front of anything that could not belong to it. -/
def PutsValue (value : Value) (text : List Char) : Prop :=
  ∀ place, place = .value ∨ place = .firstItem → ∀ frames rest, EndsNumber rest →
    (inside place frames).run (text ++ rest) = (put value.node frames).run rest

/-- The text is read as the items that are left in an array. -/
def PutsItems (items : List Value) (text : List Char) : Prop :=
  ∀ place, place = .value ∨ place = .firstItem → ∀ done frames rest,
    (inside place (.array done :: frames)).run (text ++ ']' :: rest) =
      (put (.array (done.reverse ++ Value.nodes items) none) frames).run rest

def PutsMember (member : String × Value) (text : List Char) : Prop :=
  ∀ place, place = .key ∨ place = .firstKey → ∀ done frames rest, EndsNumber rest →
    (inside place (.object done none :: frames)).run (text ++ rest) =
      (inside .afterMember
        (.object ((.ok member.1, member.2.node) :: done) none :: frames)).run rest

/-- The text is read as the members that are left in an object. -/
def PutsMembers (members : List (String × Value)) (text : List Char) : Prop :=
  ∀ place, place = .key ∨ place = .firstKey → ∀ done frames rest,
    (inside place (.object done none :: frames)).run (text ++ '\x7d' :: rest) =
      (put (.object (done.reverse ++ Value.memberNodes members) none) frames).run rest

theorem putsValue_of_scalar {value : Value} {scalar : Scalar} {text : List Char}
    (leaf : value.node = .scalar scalar)
    (found : ∀ rest, EndsNumber rest → nextToken? (text ++ rest) = some (.scalar scalar, rest)) :
    PutsValue value text := by
  intro place due frames rest ends
  rw [run_of_nextToken? (found rest ends) nofun, leaf]
  rcases due with rfl | rfl <;> rfl

theorem run_openArray {place : Place} (due : place = .value ∨ place = .firstItem)
    (frames : List Frame) (text : List Char) : (inside place frames).run ('[' :: text) =
      (inside .firstItem (.array [] :: frames)).run text := by
  rw [run_mark .openArray rfl]
  rcases due with rfl | rfl <;> rfl

theorem run_openObject {place : Place} (due : place = .value ∨ place = .firstItem)
    (frames : List Frame) (text : List Char) : (inside place frames).run ('\x7b' :: text) =
      (inside .firstKey (.object [] none :: frames)).run text := by
  rw [run_mark .openObject rfl]
  rcases due with rfl | rfl <;> rfl

theorem putsValue_emptyArray {gap : List Char} (spaces : IsGap gap) :
    PutsValue (.array []) ('[' :: gap ++ [']']) := by
  intro place due frames rest _
  rw [List.cons_append, List.cons_append, List.append_assoc, run_openArray due, run_gap spaces,
    List.singleton_append, run_mark .closeArray rfl]
  rfl

theorem PutsItems.array {items : List Value} {text : List Char} (inner : PutsItems items text) :
    PutsValue (.array items) ('[' :: text ++ [']']) := by
  intro place due frames rest _
  rw [List.cons_append, List.cons_append, List.append_assoc, run_openArray due]
  exact inner .firstItem (.inr rfl) [] frames rest

theorem putsValue_emptyObject {gap : List Char} (spaces : IsGap gap) :
    PutsValue (.object []) ('\x7b' :: gap ++ ['\x7d']) := by
  intro place due frames rest _
  rw [List.cons_append, List.cons_append, List.append_assoc, run_openObject due, run_gap spaces,
    List.singleton_append, run_mark .closeObject rfl]
  rfl

theorem PutsMembers.object {members : List (String × Value)} {text : List Char}
    (inner : PutsMembers members text) :
    PutsValue (.object members) ('\x7b' :: text ++ ['\x7d']) := by
  intro place due frames rest _
  rw [List.cons_append, List.cons_append, List.append_assoc, run_openObject due]
  exact inner .firstKey (.inr rfl) [] frames rest

theorem PutsValue.padded {value : Value} {before text after : List Char}
    (spacesBefore : IsGap before) (inner : PutsValue value text) (spacesAfter : IsGap after) :
    PutsValue value (before ++ text ++ after) := by
  intro place due frames rest ends
  rw [List.append_assoc, List.append_assoc, run_gap spacesBefore,
    inner place due frames _ (ends.append_of_isGap spacesAfter), run_gap spacesAfter]

theorem PutsValue.last {value : Value} {text : List Char} (element : PutsValue value text) :
    PutsItems [value] text := by
  intro place due done frames rest
  rw [element place due _ _ (endsNumber_mark .closeArray rfl rest), put, run_mark .closeArray rfl,
    step, commaToken, List.reverse_cons]
  rfl

theorem PutsValue.cons {value : Value} {items : List Value} {text more : List Char}
    (first : PutsValue value text) (others : PutsItems items more) :
    PutsItems (value :: items) (text ++ ',' :: more) := by
  intro place due done frames rest
  rw [List.append_assoc, List.cons_append, first place due _ _ (endsNumber_mark .comma rfl _), put,
    run_mark .comma rfl, step, commaToken, others .value (.inl rfl), List.reverse_cons,
    List.append_assoc]
  rfl

theorem PutsValue.named {key : String} {value : Value} {before name after text : List Char}
    (spacesBefore : IsGap before) (spelled : StringText key name) (spacesAfter : IsGap after)
    (element : PutsValue value text) :
    PutsMember (key, value) (before ++ name ++ after ++ ':' :: text) := by
  intro place due done frames rest ends
  have keyRead (text : List Char) : (inside place (.object done none :: frames)).run
      (name ++ text) = (inside .colon (.object done (some (.ok key)) :: frames)).run text := by
    rw [run_of_nextToken? (nextToken?_stringText spelled text) nofun]
    rcases due with rfl | rfl <;> rfl
  rw [List.append_assoc, List.append_assoc, List.append_assoc, List.cons_append,
    run_gap spacesBefore, keyRead, run_gap spacesAfter, run_mark .colon rfl, step]
  exact element .value (.inl rfl) _ rest ends

theorem PutsMember.last {member : String × Value} {text : List Char}
    (spelled : PutsMember member text) : PutsMembers [member] text := by
  intro place due done frames rest
  rw [spelled place due _ _ _ (endsNumber_mark .closeObject rfl rest),
    run_mark .closeObject rfl, step, commaToken, List.reverse_cons]
  rfl

theorem PutsMember.cons {member : String × Value} {members : List (String × Value)}
    {text more : List Char} (first : PutsMember member text) (others : PutsMembers members more) :
    PutsMembers (member :: members) (text ++ ',' :: more) := by
  intro place due done frames rest
  rw [List.append_assoc, List.cons_append, first place due _ _ _ (endsNumber_mark .comma rfl _),
    run_mark .comma rfl, step, commaToken, others .key (.inl rfl), List.reverse_cons,
    List.append_assoc]
  · rfl
  · nofun

mutual

theorem putsValue {value : Value} {text : List Char} : ValueText value text → PutsValue value text
  | .null => putsValue_of_scalar rfl fun _ _ => rfl
  | .true => putsValue_of_scalar rfl fun _ _ => rfl
  | .false => putsValue_of_scalar rfl fun _ _ => rfl
  | .number spelled => putsValue_of_scalar rfl fun _ => nextToken?_literalText spelled
  | .string spelled => putsValue_of_scalar rfl fun rest _ => nextToken?_stringText spelled rest
  | .emptyArray spaces => putsValue_emptyArray spaces
  | .array spelled => (putsItems spelled).array
  | .emptyObject spaces => putsValue_emptyObject spaces
  | .object spelled => (putsMembers spelled).object

theorem putsElement {value : Value} {text : List Char} :
    ElementText value text → PutsValue value text
  | .padded spacesBefore spelled spacesAfter =>
      .padded spacesBefore (putsValue spelled) spacesAfter

theorem putsItems {items : List Value} {text : List Char} :
    ElementsText items text → PutsItems items text
  | .last element => (putsElement element).last
  | .cons first rest => (putsElement first).cons (putsItems rest)

theorem putsMember {member : String × Value} {text : List Char} :
    MemberText member text → PutsMember member text
  | .named spacesBefore spelled spacesAfter element =>
      (putsElement element).named spacesBefore spelled spacesAfter

theorem putsMembers {members : List (String × Value)} {text : List Char} :
    MembersText members text → PutsMembers members text
  | .last spelled => (putsMember spelled).last
  | .cons first rest => (putsMember first).cons (putsMembers rest)

end

end Progress

theorem Document.read_elementText {value : Value} {text : List Char}
    (spelled : ElementText value text) :
    Document.read text = { root := value.node, trailing := false } := by
  have done := Progress.putsElement spelled .value (.inl rfl) [] [] rfl
  rw [List.append_nil] at done
  rw [Document.read, Progress.start, done, Progress.run_eq]
  rfl

end StakingIncome.Json
