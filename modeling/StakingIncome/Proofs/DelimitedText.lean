import StakingIncome.Ledger.Rows

/-!
Reading a delimited text back. Nothing in a report is quoted, so a text gives its fields back only
where the delimiter has no character in common with them, and then it does: the lines of the text
and the fields of each line are those of the table, with the empty ones.
-/

namespace StakingIncome

namespace Text

/-! ### Splitting what was joined -/

section Splitting

variable {α : Type} [BEq α] {delimiter : List α}

/-- A character that the delimiter does not have belongs to a field. -/
theorem splitFrom_append [LawfulBEq α] (field read rest : List α)
    (apart : ∀ character ∈ field, character ∉ delimiter) :
    splitFrom delimiter 0 read (field ++ rest) =
      splitFrom delimiter 0 (field.reverse ++ read) rest := by
  induction field generalizing read with
  | nil => rfl
  | cons head tail induction =>
      have elsewhere : (!delimiter.isEmpty && delimiter.isPrefixOf (head :: (tail ++ rest))) =
          false := by
        cases delimiter with
        | nil => rfl
        | cons first more =>
            have different : first ≠ head := by
              rintro rfl
              exact apart first List.mem_cons_self List.mem_cons_self
            simp [List.isPrefixOf, different]
      rw [List.cons_append, splitFrom, if_neg (Nat.lt_irrefl 0), elsewhere,
        if_neg Bool.false_ne_true,
        induction _ fun character member => apart character (List.mem_cons_of_mem _ member)]
      simp

/-- The rest of a delimiter that was found is passed over. -/
theorem splitFrom_pending (passed read rest : List α) :
    splitFrom delimiter passed.length read (passed ++ rest) = splitFrom delimiter 0 read rest := by
  induction passed with
  | nil => rfl
  | cons head tail induction =>
      rw [List.cons_append, List.length_cons, splitFrom, if_pos (Nat.succ_pos _),
        Nat.add_sub_cancel, induction]

theorem splitFrom_delimiter [LawfulBEq α] (separates : delimiter ≠ []) (read rest : List α) :
    splitFrom delimiter 0 read (delimiter ++ rest) =
      read.reverse :: splitFrom delimiter 0 [] rest := by
  cases delimiter with
  | nil => exact absurd rfl separates
  | cons first more =>
      have found : (!(first :: more).isEmpty &&
          (first :: more).isPrefixOf (first :: (more ++ rest))) = true := by
        simp
      rw [List.cons_append, splitFrom, if_neg (Nat.lt_irrefl 0), if_pos found, List.length_cons,
        Nat.add_sub_cancel, splitFrom_pending]

end Splitting

section Joining

variable {delimiter : List Char}

theorem joined_singleton (field : List Char) : joined delimiter [field] = field := by
  simp [joined, List.intercalate]

theorem joined_cons_cons (first second : List Char) (rest : List (List Char)) :
    joined delimiter (first :: second :: rest) =
      first ++ (delimiter ++ joined delimiter (second :: rest)) := by
  simp [joined, List.intercalate]

theorem mem_of_mem_joined {fields : List (List Char)} {character : Char}
    (member : character ∈ joined delimiter fields) :
    character ∈ delimiter ∨ ∃ field ∈ fields, character ∈ field := by
  induction fields with
  | nil => cases member
  | cons first rest induction =>
      cases rest with
      | nil =>
          rw [joined_singleton] at member
          exact .inr ⟨first, List.mem_cons_self, member⟩
      | cons second more =>
          rw [joined_cons_cons, List.mem_append, List.mem_append] at member
          rcases member with inFirst | inDelimiter | inRest
          · exact .inr ⟨first, List.mem_cons_self, inFirst⟩
          · exact .inl inDelimiter
          · rcases induction inRest with inDelimiter | ⟨field, among, inField⟩
            · exact .inl inDelimiter
            · exact .inr ⟨field, List.mem_cons_of_mem _ among, inField⟩

/-- Fields that share no character with the delimiter between them are read back, whether they are
empty or not. -/
theorem split_joined (separates : delimiter ≠ []) {fields : List (List Char)}
    (something : fields ≠ [])
    (apart : ∀ field ∈ fields, ∀ character ∈ field, character ∉ delimiter) :
    split delimiter (joined delimiter fields) = fields := by
  induction fields with
  | nil => exact absurd rfl something
  | cons first rest induction =>
      have firstApart := apart first List.mem_cons_self
      cases rest with
      | nil =>
          rw [joined_singleton, split, ← List.append_nil first, splitFrom_append _ _ _ firstApart]
          simp [splitFrom]
      | cons second more =>
          have others := induction (List.cons_ne_nil _ _) fun field member =>
            apart field (List.mem_cons_of_mem _ member)
          rw [split] at others
          rw [joined_cons_cons, split, splitFrom_append _ _ _ firstApart,
            splitFrom_delimiter separates, others]
          simp

end Joining

end Text

namespace Report

variable {report : Report} {delimiter : String}

/-- The table that a text is read back to: its lines, and in each line the fields. -/
def readTable (delimiter text : String) : List (List (List Char)) :=
  (Text.split ['\n'] text.toList).map (Text.split delimiter.toList)

/-- When a report can be told from its text: it has columns, and none of its labels and cells holds
a line feed or a character of the delimiter. -/
structure Legible (report : Report) (delimiter : String) : Prop where
  shown : report.columns ≠ []
  separates : delimiter ≠ ""
  oneLine : '\n' ∉ delimiter.toList
  apart : ∀ line ∈ report.table, ∀ field ∈ line,
    '\n' ∉ field ∧ ∀ character ∈ delimiter.toList, character ∉ field

theorem length_of_mem_table {line : List (List Char)} (member : line ∈ report.table) :
    line.length = report.columns.length := by
  rcases List.mem_cons.mp member with rfl | member
  · exact List.length_map _
  · rcases List.mem_map.mp member with ⟨row, -, rfl⟩
    exact List.length_map _

namespace Legible

theorem split_lines (legible : report.Legible delimiter) :
    Text.split ['\n'] (report.toDelimited delimiter).toList =
      report.table.map (Text.joined delimiter.toList) := by
  have someLine : report.table.map (Text.joined delimiter.toList) ≠ [] := by simp [table]
  rw [toDelimited, String.toList_ofList]
  apply Text.split_joined (List.cons_ne_nil _ _) someLine
  intro text written character member
  rcases List.mem_map.mp written with ⟨line, among, rfl⟩
  rw [List.mem_singleton]
  rintro rfl
  rcases Text.mem_of_mem_joined member with inDelimiter | ⟨field, inLine, inField⟩
  · exact legible.oneLine inDelimiter
  · exact (legible.apart line among field inLine).1 inField

theorem split_fields (legible : report.Legible delimiter) {line : List (List Char)}
    (among : line ∈ report.table) :
    Text.split delimiter.toList (Text.joined delimiter.toList line) = line := by
  have separates : delimiter.toList ≠ [] := by
    intro empty
    exact legible.separates (String.toList_eq_nil_iff.mp empty)
  have someField : line ≠ [] := by
    rintro rfl
    exact legible.shown (List.length_eq_zero_iff.mp (length_of_mem_table among).symm)
  apply Text.split_joined separates someField
  intro field inLine character inField inDelimiter
  exact (legible.apart line among field inLine).2 character inDelimiter inField

theorem readTable_toDelimited (legible : report.Legible delimiter) :
    readTable delimiter (report.toDelimited delimiter) = report.table := by
  rw [readTable, legible.split_lines, List.map_map]
  exact (List.map_congr_left fun line among => legible.split_fields among).trans (List.map_id _)

end Legible

/-- The text of a legible report has one line for the labels and one for each row, and a field for
each column in each of them, and these are its labels and cells. Reports with the same text
therefore have the same cells, and the same header too. -/
theorem toDelimited_reads_back (legible : report.Legible delimiter) :
    (Text.split ['\n'] (report.toDelimited delimiter).toList).length = report.rows.length + 1 ∧
      readTable delimiter (report.toDelimited delimiter) =
        report.labels :: report.rows.map report.cells ∧
      (∀ line ∈ readTable delimiter (report.toDelimited delimiter),
        line.length = report.columns.length) ∧
      ∀ other : Report, other.Legible delimiter →
        other.toDelimited delimiter = report.toDelimited delimiter →
        other.labels = report.labels ∧
          other.rows.map other.cells = report.rows.map report.cells := by
  refine ⟨?_, legible.readTable_toDelimited, ?_, ?_⟩
  · rw [legible.split_lines, List.length_map, table, List.length_cons, List.length_map]
  · intro line among
    rw [legible.readTable_toDelimited] at among
    exact length_of_mem_table among
  · intro other otherLegible same
    have tables := otherLegible.readTable_toDelimited
    rw [same, legible.readTable_toDelimited] at tables
    exact List.cons.inj tables.symm

/-- A delimiter that overlaps with itself, between runs of empty cells. -/
theorem toDelimited_reads_back_gaps :
    let date : Date := ⟨2024, 1, 1, by decide⟩
    let row : Row := { Row.new date 0 with nodeAddress := some "0xa" }
    let report : Report := {
      columns := [.validatorIndex, .nodeAddress, .withdrawals, .rplPrice]
      ethCurrency := "USD", rplCurrency := "EUR", ladder := .wei, rows := [row, Row.new date 0] }
    report.Legible ";;" ∧ report.toDelimited ";;" =
        "Validator Index;;Node Address;;Withdrawals [ETH];;Price [EUR/RPL]\n;;0xa;;;;\n;;;;;;" ∧
      (Text.split ['\n'] (report.toDelimited ";;").toList).length = 3 ∧
      readTable ";;" (report.toDelimited ";;") =
        ["Validator Index", "Node Address", "Withdrawals [ETH]", "Price [EUR/RPL]"].map
            String.toList ::
          [["", "0xa", "", ""].map String.toList, ["", "", "", ""].map String.toList] := by
  intro date row report
  have apart : ∀ line ∈ report.table, ∀ field ∈ line, '\n' ∉ field ∧ ';' ∉ field := by decide
  have legible : report.Legible ";;" := {
    shown := by decide
    separates := by decide
    oneLine := by decide
    apart line among field member := by
      rcases apart line among field member with ⟨noLineEnd, noSemicolon⟩
      exact ⟨noLineEnd, by simpa using noSemicolon⟩ }
  have readBack := toDelimited_reads_back legible
  exact ⟨legible, by decide, readBack.1, readBack.2.1.trans (by decide)⟩

end Report

end StakingIncome
