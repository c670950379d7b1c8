import GoScaffold.Text.Blank
import GoScaffold.Text.Line
import GoScaffold.Go.Token

/-! Blank space of generated code in its normal form: no blanks at the end of a line, no two blank
lines in a row, none at either end of the file. Rows that continue a raw string are left alone,
and the row that opens one keeps the blanks at its end. -/

namespace GoScaffold.Whitespace

open Go (RowSpan)

def continuesRaw (spans : List RowSpan) (row : Nat) : Bool :=
  spans.any fun s => s.first < row && row ≤ s.last

def opensRaw (spans : List RowSpan) (row : Nat) : Bool := spans.any fun s => s.first == row

/-- The lines that are kept. The flags tell whether a line was kept before, and whether the last
one kept was a blank line outside raw strings. -/
def keptLines (spans : List RowSpan) (row : Nat) (started blankRun : Bool) :
    List String → List String
  | [] => []
  | line :: rest =>
    if continuesRaw spans row then line :: keptLines spans (row + 1) true false rest
    else
      let line := if opensRaw spans row then line else Text.trimEnd line
      if Text.isBlankText line then
        if blankRun || !started then keptLines spans (row + 1) started blankRun rest
        else "" :: keptLines spans (row + 1) started true rest
      else line :: keptLines spans (row + 1) true false rest

/-- Empty lines at the end go, but the first line stays. -/
def dropTrailingEmpty (lines : List String) : List String :=
  match (lines.reverse.dropWhile String.isEmpty).reverse with
  | [] => lines.take 1
  | kept => kept

def normalize (text : String) (spans : List RowSpan) : String :=
  Text.unlines (dropTrailingEmpty (keptLines spans 0 false false (Text.lines text)))

end GoScaffold.Whitespace
