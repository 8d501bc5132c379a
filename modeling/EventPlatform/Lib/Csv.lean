import Mathlib

/-! # Comma-separated values

The default dialect of Python's `csv`: the writer quotes a field only where it must, and the
reader goes through the text one character at a time, with a signal at the end of every line.
Its limit on the length of a field is left out. -/

namespace EventPlatform.Lib

/-! ## The writer -/

/-- The characters that make the writer quote a field. -/
def csvSpecial (c : Char) : Bool := c = ',' || c = '"' || c = '\r' || c = '\n'

def csvEscape (c : Char) : List Char := if c = '"' then ['"', '"'] else [c]

def csvQuote (field : List Char) : List Char := '"' :: field.flatMap csvEscape ++ ['"']

/-- A field of a row; an empty field is quoted when it is the whole row. -/
def csvField (alone : Bool) (field : List Char) : List Char :=
  if field.any csvSpecial || (alone && field.isEmpty) then csvQuote field else field

def csvFields (alone : Bool) : List (List Char) → List Char
  | [] => []
  | [field] => csvField alone field
  | field :: row => csvField alone field ++ ',' :: csvFields alone row

/-- `writer.writerow` -/
def csvRow (row : List (List Char)) : List Char := csvFields (row.length = 1) row ++ ['\r', '\n']

/-! ## The reader -/

inductive CsvState where
  | startRecord
  | startField
  | inField
  | inQuotedField
  | quoteInQuotedField
  | eatCrnl
  | failed
deriving DecidableEq

/-- `records` are those that have been returned. -/
structure CsvReader where
  state : CsvState
  field : List Char
  fields : List (List Char)
  records : List (List (List Char))
deriving DecidableEq

namespace CsvReader

def start : CsvReader := ⟨.startRecord, [], [], []⟩

def addChar (r : CsvReader) (c : Char) (state : CsvState) : CsvReader :=
  { r with field := r.field ++ [c], state := state }

def saveField (r : CsvReader) (state : CsvState) : CsvReader :=
  { r with fields := r.fields ++ [r.field], field := [], state := state }

/-- The first character of a field. -/
def beginField (r : CsvReader) (c : Char) : CsvReader :=
  if c = '\n' ∨ c = '\r' then r.saveField .eatCrnl
  else if c = '"' then { r with state := .inQuotedField }
  else if c = ',' then r.saveField .startField
  else r.addChar c .inField

/-- `parse_process_char` for a character of a line. -/
def step (r : CsvReader) (c : Char) : CsvReader :=
  match r.state with
  | .startRecord => if c = '\n' ∨ c = '\r' then { r with state := .eatCrnl } else r.beginField c
  | .startField => r.beginField c
  | .inField =>
    if c = '\n' ∨ c = '\r' then r.saveField .eatCrnl
    else if c = ',' then r.saveField .startField
    else r.addChar c .inField
  | .inQuotedField => if c = '"' then { r with state := .quoteInQuotedField } else r.addChar c .inQuotedField
  | .quoteInQuotedField =>
    if c = '"' then r.addChar c .inQuotedField
    else if c = ',' then r.saveField .startField
    else if c = '\n' ∨ c = '\r' then r.saveField .eatCrnl
    else r.addChar c .inField
  | .eatCrnl => if c = '\n' ∨ c = '\r' then r else { r with state := .failed }
  | .failed => r

/-- `parse_process_char` at the end of a line. -/
def endOfLine (r : CsvReader) : CsvReader :=
  match r.state with
  | .startRecord | .eatCrnl => { r with state := .startRecord }
  | .startField | .inField | .quoteInQuotedField => r.saveField .startRecord
  | .inQuotedField | .failed => r

/-- A record is returned when a line ends outside of a quoted field. -/
def finishLine (r : CsvReader) : CsvReader :=
  let r := r.endOfLine
  if r.state = .startRecord then ⟨.startRecord, [], [], r.records ++ [r.fields]⟩ else r

/-- A character of the text; the lines end behind their line feeds. -/
def feed (r : CsvReader) (c : Char) : CsvReader :=
  let r := r.step c
  if c = '\n' then r.finishLine else r

/-- The end of the input: a last line without a line feed, or a quoted field that is open. -/
def finish (r : CsvReader) : CsvReader :=
  match r.state with
  | .startRecord | .failed => r
  | .inQuotedField => { r.saveField .startRecord with records := r.records ++ [r.fields ++ [r.field]] }
  | .startField | .inField | .quoteInQuotedField | .eatCrnl => r.finishLine

end CsvReader

/-- `list(csv.reader(...))`; `none` is a `csv.Error`. -/
def csvRead (text : List Char) : Option (List (List (List Char))) :=
  let r := (text.foldl CsvReader.feed .start).finish
  if r.state = .failed then none else some r.records

/-! ## The round trip -/

namespace CsvReader

variable {r : CsvReader} {field : List Char} {records : List (List (List Char))} {fields : List (List Char)}

theorem feed_of_ne {c : Char} (inLine : c ≠ '\n') : r.feed c = r.step c := by simp [feed, inLine]

/-- The rest of a field that is not quoted. -/
theorem foldl_plain (plain : ∀ c ∈ field, csvSpecial c = false) (read : List Char) :
    field.foldl feed ⟨.inField, read, fields, records⟩ = ⟨.inField, read ++ field, fields, records⟩ := by
  induction field generalizing read with
  | nil => simp
  | cons c field ih =>
    have ordinary := plain c List.mem_cons_self
    simp only [csvSpecial, Bool.or_eq_false_iff, decide_eq_false_iff_not] at ordinary
    obtain ⟨⟨⟨noComma, _⟩, noReturn⟩, noFeed⟩ := ordinary
    rw [List.foldl_cons, feed_of_ne noFeed]
    simp only [step, noFeed, noReturn, noComma, or_self, if_false, addChar]
    rw [ih (fun d member => plain d (List.mem_cons_of_mem _ member))]
    simp

/-- The rest of a quoted field, up to the closing quote: what is doubled is read once, and a
    line may end in it. -/
theorem foldl_quoted (field read : List Char) :
    (field.flatMap csvEscape).foldl feed ⟨.inQuotedField, read, fields, records⟩ =
      ⟨.inQuotedField, read ++ field, fields, records⟩ := by
  induction field generalizing read with
  | nil => simp
  | cons c field ih =>
    have one : (csvEscape c).foldl feed ⟨.inQuotedField, read, fields, records⟩ =
        ⟨.inQuotedField, read ++ [c], fields, records⟩ := by
      by_cases quote : c = '"'
      · subst quote
        rfl
      · by_cases line : c = '\n'
        · subst line
          rfl
        · simp [csvEscape, quote, feed_of_ne line, step, addChar]
    rw [List.flatMap_cons, List.foldl_append, one, ih]
    simp

/-- The reader before a field: nothing of the field has been read. -/
def Before (fields : List (List Char)) (records : List (List (List Char))) (r : CsvReader) : Prop :=
  r = ⟨.startField, [], fields, records⟩ ∨ r = ⟨.startRecord, [], fields, records⟩

theorem before_step {c : Char} (before : Before fields records r) (inLine : c ≠ '\n' ∧ c ≠ '\r') :
    r.feed c = beginField ⟨r.state, [], fields, records⟩ c := by
  rw [feed_of_ne inLine.1]
  cases before with
  | inl here => simp [here, step]
  | inr here => simp [here, step, inLine.1, inLine.2]

/-- A quoted field has been read, or an ordinary one, or nothing. -/
theorem foldl_csvField (before : Before fields records r) (alone : Bool) (field : List Char) :
    (csvField alone field).foldl feed r = ⟨.quoteInQuotedField, field, fields, records⟩ ∨
      (csvField alone field).foldl feed r = ⟨.inField, field, fields, records⟩ ∨
      field = [] ∧ alone = false ∧ (csvField alone field).foldl feed r = r := by
  by_cases quoted : field.any csvSpecial || (alone && field.isEmpty)
  · left
    rw [csvField, if_pos quoted, csvQuote, List.cons_append, List.foldl_cons,
      before_step before (by decide)]
    have opened : beginField ⟨r.state, [], fields, records⟩ '"' = ⟨.inQuotedField, [], fields, records⟩ := rfl
    rw [opened, List.foldl_append, foldl_quoted]
    rfl
  · right
    rw [csvField, if_neg quoted]
    simp only [Bool.or_eq_true, Bool.and_eq_true, not_or, not_and, Bool.not_eq_true] at quoted
    cases field with
    | nil => exact .inr ⟨rfl, by simpa using quoted.2, rfl⟩
    | cons c field =>
      left
      have plain : ∀ d ∈ c :: field, csvSpecial d = false := by
        have none_ := quoted.1
        rw [List.any_eq_false] at none_
        exact fun d member => by simpa using none_ d member
      have ordinary := plain c List.mem_cons_self
      simp only [csvSpecial, Bool.or_eq_false_iff, decide_eq_false_iff_not] at ordinary
      obtain ⟨⟨⟨noComma, noQuote⟩, noReturn⟩, noFeed⟩ := ordinary
      rw [List.foldl_cons, before_step before ⟨noFeed, noReturn⟩]
      simp only [beginField, noFeed, noReturn, noQuote, noComma, or_self, if_false, addChar, List.nil_append]
      exact foldl_plain (fun d member => plain d (List.mem_cons_of_mem _ member)) [c]

/-- The comma behind a field saves it. -/
theorem comma_behind (before : Before fields records r) (alone : Bool) (field : List Char) :
    ((csvField alone field).foldl feed r).feed ',' = ⟨.startField, [], fields ++ [field], records⟩ := by
  obtain quoted | plain | ⟨rfl, _, unread⟩ := foldl_csvField before alone field
  · rw [quoted]
    rfl
  · rw [plain]
    rfl
  · rw [unread, before_step before (by decide)]
    rfl

/-- So does the line end, unless the row would be taken for an empty line. -/
theorem return_behind (before : Before fields records r) (alone : Bool) (field : List Char)
    (seen : alone = true ∨ r.state = .startField) :
    ((csvField alone field).foldl feed r).feed '\r' = ⟨.eatCrnl, [], fields ++ [field], records⟩ := by
  obtain quoted | plain | ⟨rfl, notAlone, unread⟩ := foldl_csvField before alone field
  · rw [quoted]
    rfl
  · rw [plain]
    rfl
  · have begun : r = ⟨.startField, [], fields, records⟩ := by
      cases before with
      | inl here => exact here
      | inr here => simp [here, notAlone] at seen
    rw [unread, begun]
    rfl

theorem foldl_csvFields (row : List (List Char)) (nonempty : row ≠ []) (alone : Bool) (before : Before fields records r)
    (seen : alone = true ∨ r.state = .startField ∨ 2 ≤ row.length) :
    ((csvFields alone row).foldl feed r).feed '\r' = ⟨.eatCrnl, [], fields ++ row, records⟩ := by
  induction row generalizing r fields with
  | nil => exact absurd rfl nonempty
  | cons field row ih =>
    cases row with
    | nil =>
      have seen' : alone = true ∨ r.state = .startField := by simpa using seen
      exact return_behind before alone field seen'
    | cons next row =>
      rw [csvFields, List.foldl_append, List.foldl_cons, comma_behind before,
        ih (by simp) (.inl rfl) (.inr (.inl rfl))]
      · simp
      · simp

/-- A row is read back as a record. -/
theorem foldl_csvRow (row : List (List Char)) (nonempty : row ≠ []) :
    (csvRow row).foldl feed ⟨.startRecord, [], [], records⟩ = ⟨.startRecord, [], [], records ++ [row]⟩ := by
  have length : 1 ≤ row.length := List.length_pos_of_ne_nil nonempty
  have seen : decide (row.length = 1) = true ∨ CsvState.startRecord = .startField ∨ 2 ≤ row.length := by
    simp only [decide_eq_true_eq]
    omega
  have fresh : Before [] records ⟨.startRecord, [], [], records⟩ := .inr rfl
  have read := foldl_csvFields row nonempty (row.length = 1) fresh seen
  rw [csvRow, List.foldl_append, List.foldl_cons, List.foldl_cons, List.foldl_nil, read]
  rfl

end CsvReader

/-- Rows that are written are read back, whatever characters are in their fields. -/
theorem csvRead_csvRow (rows : List (List (List Char))) (nonempty : ∀ row ∈ rows, row ≠ []) :
    csvRead (rows.flatMap csvRow) = some rows := by
  suffices run : ∀ records, (rows.flatMap csvRow).foldl CsvReader.feed ⟨.startRecord, [], [], records⟩ =
      ⟨.startRecord, [], [], records ++ rows⟩ by
    simp [csvRead, CsvReader.start, run, CsvReader.finish]
  induction rows with
  | nil => simp
  | cons row rows ih =>
    intro records
    rw [List.flatMap_cons, List.foldl_append, CsvReader.foldl_csvRow row (nonempty row List.mem_cons_self),
      ih (fun row member => nonempty row (List.mem_cons_of_mem _ member))]
    simp

example : csvRow [['a', ',', '"'], ['b', '\n'], []] = "\"a,\"\"\",\"b\n\",\r\n".toList := by decide

end EventPlatform.Lib
