/-!
# Aligned columns

Text is laid out in **columns**: a tab (or a vertical tab) ends a cell, a newline (or a
form feed) ends a line, and the text after the last tab of a line is its **tail**, which
belongs to no column. Column `k` is aligned separately in each **block**: a run of
consecutive lines that all have a cell in column `k`. Within a block every cell of the
column is padded with spaces to the width of the widest one plus the padding, widths
counted in characters.

A line without any tab, and a form feed, close the blocks of every column: the lines
before them are laid out on their own. The last line of the text keeps no newline of its
own.

* `TopicBridge.Text.alignColumns`.
-/

namespace TopicBridge.Text

/-- A line of cells: the cells of its columns, then its tail. -/
abbrev CellLine := List String

/-- Whether a line has a cell in a column (its tail does not count). -/
def hasColumn (column : Nat) (line : CellLine) : Bool := column + 1 < line.length

/-- A line laid out with the widths of the columns known so far. -/
def layoutLine (widths : List Nat) (line : CellLine) : String :=
  String.join (line.zipIdx.map fun (cell, j) =>
    match widths[j]? with
    | some w => cell ++ String.ofList (List.replicate (w - cell.length) ' ')
    | none => cell)

/-- Lays out lines whose first columns have known widths, finding the width of the next
column block by block; within `fuel` nested or successive blocks. -/
def layoutBlocks (padding : Nat) : Nat → List Nat → List CellLine → List String
  | 0, widths, lines => lines.map (layoutLine widths)
  | fuel + 1, widths, lines =>
    let column := widths.length
    let before := lines.takeWhile fun l => !hasColumn column l
    let rest := lines.dropWhile fun l => !hasColumn column l
    let block := rest.takeWhile (hasColumn column)
    let after := rest.dropWhile (hasColumn column)
    if block.isEmpty then lines.map (layoutLine widths)
    else
      let width := block.foldl (fun w l => max w ((l.getD column "").length + padding)) 0
      before.map (layoutLine widths) ++ layoutBlocks padding fuel (widths ++ [width]) block ++
        layoutBlocks padding fuel widths after

/-- The state of splitting text into cells. -/
structure CellSplit where
  /-- The sections closed so far, each a list of lines. -/
  sections : List (List CellLine) := []
  /-- The lines of the open section. -/
  lines : List CellLine := []
  /-- The cells of the open line. -/
  cells : CellLine := []
  /-- The characters of the open cell. -/
  cell : List Char := []

/-- Takes one character of the text. -/
def CellSplit.step (s : CellSplit) (c : Char) : CellSplit :=
  if c == '\t' || c == '\x0b' then
    { s with cells := s.cells ++ [String.ofList s.cell], cell := [] }
  else if c == '\n' || c == '\x0c' then
    let line := s.cells ++ [String.ofList s.cell]
    if c == '\x0c' || line.length == 1 then
      { sections := s.sections ++ [s.lines ++ [line, []]], lines := [], cells := [], cell := [] }
    else { s with lines := s.lines ++ [line], cells := [], cell := [] }
  else { s with cell := s.cell ++ [c] }

/-- The sections of a text, each laid out on its own; the open cell ends the text when it
is not empty. -/
def CellSplit.finish (s : CellSplit) : List (List CellLine) :=
  let last := if s.cell.isEmpty then s.cells else s.cells ++ [String.ofList s.cell]
  s.sections ++ [s.lines ++ [last]]

/-- Lays out text in aligned columns with the given padding. -/
def alignColumns (padding : Nat) (text : String) : String :=
  let sections := (text.toList.foldl CellSplit.step {}).finish
  String.join (sections.map fun lines =>
    let fuel := lines.length + (lines.map List.length).foldl max 0 + 1
    "\n".intercalate (layoutBlocks padding fuel [] lines))

example : alignColumns 2 "a\tbb\nccc\td\n" = "a    bb\nccc  d\n" := by
  decide

end TopicBridge.Text
