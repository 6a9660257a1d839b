import FeatureDocs.Proofs.Loops

/-!
# Reading a document by descent

A second reader of documents. It walks over the lines with a cursor, one production for each part of
a feature, and looks ahead before it goes on. Nothing here is total by its form: asking for a line
behind the last one fails, so do a row that does not fit its table and a marker line without a
marker, and no loop is known to end.
-/

namespace FeatureDocs

noncomputable section

namespace Descent

/-! ### The cursor -/

/-- Whether there is no next line. -/
def atEnd : Descent Bool := do return (← get).cursor.atEnd

/-- The next line. -/
def peek : Descent Text := do
  match (← get).cursor.peek with
  | .ok line => return line
  | .error e => throw (.exhausted e)

/-- The next line, which is read. -/
def next : Descent Text := do
  match (← get).cursor.next with
  | .ok (line, c) =>
    modify fun s => { s with cursor := c, visited := c.position :: s.visited }
    return line
  | .error e => throw (.exhausted e)

/-- The next line, trimmed, which is read. -/
def command : Descent Text := do return Text.trim (← next)

/-- The number of the last line that was read. -/
def line : Descent Nat := do return (← get).cursor.position

/-- The document is rejected for the last line that was read. -/
def reject {α : Type} (fault : Fault) : Descent α := do throw (.rejected (.fault fault (← line)))

/-- The document is rejected if there is no next line. -/
def needLine : Descent Unit := do
  if ← atEnd then throw (.rejected .endOfInput)

/-- Read the blank lines that come next. -/
def skipBlanks : Descent Unit :=
  loop (fun _ => do
    if ← atEnd then return .done ()
    if Text.isBlank (← peek) then
      let _ ← next
      return .again ()
    else return .done ()) ()

/-- The loop over blank lines, without the number of its rounds. -/
lemma skipBlanks_eq :
    skipBlanks = (do
      if ← atEnd then return
      if Text.isBlank (← peek) then
        let _ ← next
        skipBlanks) := by
  conv_lhs => rw [skipBlanks, loop_eq]
  simp only [bind_assoc, ite_bind, pure_bind]
  rfl

/-! ### Tables and doc strings -/

/-- Whether the next line is a row. -/
def atRow : Descent Bool := do
  if ← atEnd then return false
  return DataTable.isRow (← peek)

/-- The cells of the next line, which is read. -/
def row : Descent (List Text) := do return DataTable.cells (← next)

/-- Add a row to a table that is as wide. -/
def addRow (t : DataTable) (row : List Text) : Descent DataTable :=
  match t.addRow row with
  | .ok t => return t
  | .error e => throw (.rowWidth e)

/-- Read the rows that come next. -/
def rows (t : DataTable) : Descent DataTable :=
  loop (fun t => do
    if ← atRow then
      let row ← row
      if row.length ≠ t.width then reject (.rowWidth ⟨row.length, t.width⟩)
      else return .again (← addRow t row)
    else return .done t) t

/-- The loop over the rows of a table. -/
lemma rows_eq (t : DataTable) :
    rows t = (do
      if ← atRow then
        let row ← row
        if row.length ≠ t.width then reject (.rowWidth ⟨row.length, t.width⟩)
        else rows (← addRow t row)
      else return t) := by
  conv_lhs => rw [rows, loop_eq]
  simp only [bind_assoc, ite_bind, pure_bind]
  rfl

/-- Read a table, if one comes next. -/
def table? : Descent (Option DataTable) := do
  skipBlanks
  if ← atRow then
    let header ← row
    return some (← rows { header })
  else return none

/-- Read the lines of a doc string up to its closing marker. -/
def body (indentation : Text) (ls : List Text) : Descent (List Text) :=
  loop (fun ls => do
    needLine
    if Text.trim (← peek) = docStringMarker then return .done ls
    else
      let text ← next
      if indentation.isPrefixOf text then
        return .again (ls ++ [text.drop indentation.length])
      else reject .docStringLine) ls

/-- The loop over the lines of a doc string, which ends at the marker. -/
lemma body_eq (indentation : Text) (ls : List Text) :
    body indentation ls = (do
      needLine
      if Text.trim (← peek) = docStringMarker then return ls
      else
        let text ← next
        if indentation.isPrefixOf text then body indentation (ls ++ [text.drop indentation.length])
        else reject .docStringLine) := by
  conv_lhs => rw [body, loop_eq]
  simp only [bind_assoc, ite_bind, pure_bind]
  rfl

/-- Whether the next line is the marker of a doc string. -/
def atMarker : Descent Bool := do
  if ← atEnd then return false
  return Text.trim (← peek) = docStringMarker

/-- Read a doc string, if one comes next. -/
def docString? : Descent (Option Text) := do
  skipBlanks
  if ← atMarker then
    match Text.cut? docStringMarker (← next) with
    | none => throw .noMarker
    | some (indentation, _) =>
      let ls ← body indentation []
      if indentation.isPrefixOf (← next) then return some (Text.join "\n" ls)
      else reject .docStringEnd
  else return none

variable (k : KeywordTable)

/-! ### Steps -/

/-- The text of a step in a section. -/
def stepText? (kind : StepKind) (text : Text) : Option Text :=
  if k.Matches text kind.category then some (k.strip text kind.category)
  else if k.Matches text .conjunction then some (k.strip text .conjunction)
  else none

/-- Read a step of a section, and the blank lines behind it. -/
def step (kind : StepKind) : Descent Step := do
  match stepText? k kind (← command) with
  | none => reject (.expectedStep kind)
  | some text =>
    let n ← line
    let table ← table?
    let docString ← docString?
    skipBlanks
    return { kind, text, table, docString, line := n }

/-- Read the steps of a section, behind those that were read. All but the last section of a
scenario have to be followed by a line. -/
def steps (kind : StepKind) (done : List Step) : Descent (List Step) :=
  loop (fun done => do
    let s ← step k kind
    if ← atEnd then
      if kind = .outcome then return .done (done ++ [s]) else throw (.rejected .endOfInput)
    else if k.Matches (← peek) .conjunction then return .again (done ++ [s])
    else return .done (done ++ [s])) done

/-- The loop over the steps of a section, which goes on as long as a conjunction follows. -/
lemma steps_eq (kind : StepKind) (done : List Step) :
    steps k kind done = (do
      let s ← step k kind
      if ← atEnd then
        if kind = .outcome then return done ++ [s] else throw (.rejected .endOfInput)
      else if k.Matches (← peek) .conjunction then steps k kind (done ++ [s])
      else return done ++ [s]) := by
  conv_lhs => rw [steps, loop_eq]
  simp only [bind_assoc, ite_bind, pure_bind]
  rfl

/-! ### Blocks -/

/-- Read the steps of a background. -/
def background : Descent (List Step) := do
  skipBlanks
  needLine
  steps k .context []

/-- Read the steps of a scenario. -/
def sections : Descent (List Step) := do
  skipBlanks
  needLine
  let context ← steps k .context []
  let action ← steps k .action context
  steps k .outcome action

/-- Read the examples of an outline. -/
def examples : Descent DataTable := do
  skipBlanks
  needLine
  if k.Matches (← command) .examples then
    match ← table? with
    | some t => return t
    | none => reject .examplesWithoutTable
  else reject .expectedExamples

/-! ### Features -/

/-- Read the rest of a feature. Lines that begin no block belong to the description as long as there
was no block. -/
def feature (f : Feature) (describing : Bool) : Descent Feature :=
  loop (fun (f, describing) => do
    skipBlanks
    if ← atEnd then return .done f
    if k.Matches (← peek) .feature then return .done f
    let text ← command
    let n ← line
    if k.Matches text .background then
      if f.background.isSome then reject .duplicateBackground
      else
        let done ← background k
        return .again
          ({ f with background := some (.scenario { name := [], steps := done, line := n }) }, false)
    else if k.Matches text .outline then
      let done ← sections k
      let t ← examples k
      return .again
        ({ f with
            outlines := f.outlines ++
              [{ name := k.strip text .outline, steps := done, line := n, examples := some t }] },
          false)
    else if k.Matches text .scenario then
      let done ← sections k
      return .again
        ({ f with
            scenarios := f.scenarios ++
              [.scenario { name := k.strip text .scenario, steps := done, line := n }] },
          false)
    else if describing then
      return .again ({ f with description := f.description ++ [text] }, true)
    else reject .unexpectedLine) (f, describing)

/-- The loop over the lines of a feature behind its head. -/
lemma feature_eq (f : Feature) (describing : Bool) :
    feature k f describing = (do
      skipBlanks
      if ← atEnd then return f
      if k.Matches (← peek) .feature then return f
      let text ← command
      let n ← line
      if k.Matches text .background then
        if f.background.isSome then reject .duplicateBackground
        else
          let done ← background k
          feature k { f with background := some (.scenario { name := [], steps := done, line := n }) } false
      else if k.Matches text .outline then
        let done ← sections k
        let t ← examples k
        feature k
          { f with
            outlines := f.outlines ++
              [{ name := k.strip text .outline, steps := done, line := n, examples := some t }] }
          false
      else if k.Matches text .scenario then
        let done ← sections k
        feature k
          { f with
            scenarios := f.scenarios ++
              [.scenario { name := k.strip text .scenario, steps := done, line := n }] }
          false
      else if describing then feature k { f with description := f.description ++ [text] } true
      else reject .unexpectedLine) := by
  conv_lhs => rw [feature, loop_eq]
  simp only [bind_assoc, ite_bind, pure_bind]
  rfl

/-- Look for the implementation of a feature. A search that fails is logged and finds nothing. -/
def resolve (resolver : Option Resolver) (name : Text) : Descent Lookup := do
  match resolver with
  | none => return .ok none
  | some find =>
    let s ← get
    let found := find s.asked.length name
    set { s with asked := s.asked ++ [name], log := s.log ++ found.log name }
    return found

/-- Read the features that come next, and collect each one that is complete. -/
def document (resolver : Option Resolver) (source : Text) : Descent Unit :=
  loop (fun _ => do
    skipBlanks
    if ← atEnd then return .done ()
    let text ← command
    if k.Matches text .feature then
      let n ← line
      let found ← resolve resolver (k.strip text .feature)
      let f ← feature k { name := k.strip text .feature, line := n } true
      modify fun s =>
        { s with features := s.features ++ [f.bind source found], log := s.log ++ f.log }
      return .again ()
    else reject .expectedFeature) ()

/-- The loop over the features of a document. -/
lemma document_eq (resolver : Option Resolver) (source : Text) :
    document k resolver source = (do
      skipBlanks
      if ← atEnd then return
      let text ← command
      if k.Matches text .feature then
        let n ← line
        let found ← resolve resolver (k.strip text .feature)
        let f ← feature k { name := k.strip text .feature, line := n } true
        modify fun s =>
          { s with features := s.features ++ [f.bind source found], log := s.log ++ f.log }
        document k resolver source
      else reject .expectedFeature) := by
  conv_lhs => rw [document, loop_eq]
  simp only [bind_assoc, ite_bind, pure_bind]
  rfl

end Descent

/-- Parse a document by descent. The result is nothing if the descent does not end, and a failure if
anything but a rejection stops it; else it is the outcome and the positions of the cursor, the last
one first. -/
def KeywordTable.descend (k : KeywordTable) (resolver : Option Resolver) (document : Source)
    (source : Text) : Option (Except Stop (Parsing × List Nat)) :=
  match Descent.document k resolver source { cursor := Cursor.ofSource document } with
  | none => none
  | some (.ok (), s) =>
    some (.ok ({ outcome := { features := s.features, source }, asked := s.asked, log := s.log },
      s.visited))
  | some (.error (.rejected r), s) =>
    some (.ok
      ({ outcome := { features := s.features, rejection := some r, source }
         asked := s.asked
         log := s.log ++ r.log source },
        s.visited))
  | some (.error stop, _) => some (.error stop)

end

end FeatureDocs
