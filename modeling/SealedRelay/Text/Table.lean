import SealedRelay.Text.Width
/-!
# Tables

A table of text cells in a frame of box-drawing characters. Every column is as wide as its widest
cell, in the places that the characters take on a terminal.
-/
namespace SealedRelay.Text

/-- Rows of cells under a header. -/
structure Table where
  header : List String
  rows : List (List String)

namespace Table

def lines (cell : String) : List String := cell.splitOn "\n"

def cellWidth (cell : String) : Nat := ((lines cell).map width).foldl max 0

def columns (t : Table) : List Nat :=
  t.rows.foldl (fun ws row => List.zipWith max ws (row.map cellWidth)) (t.header.map cellWidth)

/-- A horizontal line: its left end, its dash, its crossings and its right end. -/
def rule (widths : List Nat) (left dash cross right : String) : String :=
  let part (w : Nat) : String := String.join (List.replicate (w + 2) dash)
  left ++ cross.intercalate (widths.map part) ++ right

def line (widths : List Nat) (cells : List String) : String :=
  let part (w : Nat) (cell : String) : String :=
    " " ++ cell ++ String.ofList (List.replicate (w - width cell) ' ') ++ " "
  "│" ++ "┆".intercalate (List.zipWith part widths cells) ++ "│"

def rowLines (widths : List Nat) (row : List String) : List String :=
  let cells := row.map lines
  let height := (cells.map List.length).foldl max 0
  (List.range height).map fun i => line widths (cells.map (·.getD i ""))

def text (t : Table) : String :=
  let ws := t.columns
  let body := t.rows.map (rowLines ws)
  "\n".intercalate
    ([rule ws "┌" "─" "┬" "┐"] ++ rowLines ws t.header ++ [rule ws "╞" "═" "╪" "╡"] ++
      [rule ws "├" "╌" "┼" "┤"].intercalate body ++ [rule ws "└" "─" "┴" "┘"])

end Table

end SealedRelay.Text
