import EventPlatform.Lib.Csv
import EventPlatform.Presence.Status

/-! # The export of participants

`export_as_csv` writes a header and one row for each selected participant.  A spreadsheet shows
what a CSV reader makes of the file, so the export is right when reading gives the rows back. -/

namespace EventPlatform.Operator

open EventPlatform.Lib EventPlatform.Presence

/-- `get_status_display()` -/
def ParticipantStatus.display : ParticipantStatus → String
  | .waiting => "Waiting"
  | .ready => "Ready"
  | .active => "Active"
  | .disconnected => "Disconnected"
  | .completed => "Completed"

/-- The date and the time of a `datetime`. -/
structure DateTime where
  year : Nat
  month : Nat
  day : Nat
  hour : Nat
  minute : Nat
  second : Nat
deriving DecidableEq

def twoDigits (n : Nat) : String := if n < 10 then s!"0{n}" else toString n

/-- `strftime("%Y-%m-%d %H:%M:%S")` -/
def DateTime.strftime (t : DateTime) : String :=
  s!"{t.year}-{twoDigits t.month}-{twoDigits t.day} {twoDigits t.hour}:{twoDigits t.minute}:{twoDigits t.second}"

/-- What the export reads of a participant, its event and its tags. -/
structure ExportedParticipant where
  id : String
  displayName : String
  email : String
  status : ParticipantStatus
  eventName : Option String
  tags : List String
  createdAt : Option DateTime
deriving DecidableEq

def exportHeader : List String :=
  ["شناسه", "نام و نام خانوادگی", "ایمیل", "وضعیت", "رویداد", "تگ\u200cها", "تاریخ ثبت\u200cنام"]

def ExportedParticipant.row (p : ExportedParticipant) : List String :=
  [p.id, p.displayName, p.email, ParticipantStatus.display p.status, p.eventName.getD "",
    ", ".intercalate p.tags, (p.createdAt.map DateTime.strftime).getD ""]

def byteOrderMark : Char := '\uFEFF'

/-- The name of the file and its text. -/
def exportAsCsv (now : DateTime) (participants : List ExportedParticipant) : String × String :=
  (s!"participants_{now.year}{twoDigits now.month}{twoDigits now.day}_{twoDigits now.hour}" ++
      s!"{twoDigits now.minute}{twoDigits now.second}.csv",
    String.ofList (byteOrderMark ::
      ((exportHeader :: participants.map (·.row)).map fun row => row.map String.toList).flatMap csvRow))

/-- A reader of `utf-8-sig` drops the mark at the beginning. -/
def readExport (text : String) : Option (List (List String)) :=
  let text := if text.toList.head? = some byteOrderMark then text.toList.tail else text.toList
  (csvRead text).map fun rows => rows.map fun row => row.map String.ofList

theorem readExport_rows (rows : List (List String)) (nonempty : ∀ row ∈ rows, row ≠ []) :
    readExport (String.ofList (byteOrderMark :: (rows.map fun row => row.map String.toList).flatMap csvRow)) =
      some rows := by
  have nonempty' : ∀ row ∈ rows.map fun row => row.map String.toList, row ≠ [] := by
    intro row member
    obtain ⟨texts, inRows, rfl⟩ := List.mem_map.mp member
    simpa using nonempty texts inRows
  have back : (rows.map fun row => row.map String.toList).map (fun row => row.map String.ofList) = rows := by
    simp [List.map_map, Function.comp_def, String.ofList_toList]
  simp only [readExport, String.toList_ofList, List.head?_cons, if_true, List.tail_cons]
  rw [csvRead_csvRow _ nonempty', Option.map_some, back]

/-- Whatever names, addresses and tags the participants have, with commas, quotes or line ends
    in them, the file reads back as the header and one row for each participant, in order. -/
theorem readExport_exportAsCsv (now : DateTime) (participants : List ExportedParticipant) :
    readExport (exportAsCsv now participants).2 = some (exportHeader :: participants.map (·.row)) := by
  apply readExport_rows
  intro row member
  cases List.mem_cons.mp member with
  | inl header =>
    rw [header]
    exact List.cons_ne_nil _ _
  | inr listed =>
    obtain ⟨p, _, rfl⟩ := List.mem_map.mp listed
    exact List.cons_ne_nil _ _

end EventPlatform.Operator
