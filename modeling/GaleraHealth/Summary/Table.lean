import GaleraHealth.Text.Width

/-!
# Tables in plain text

A table is drawn with ASCII lines. Every column is as wide as its widest line and one space on each
side; a cell may span several lines; rows are parted by a line, and the header by a line of its
own.
-/

namespace GaleraHealth.Summary

/-- A header and rows of as many cells. -/
structure Table where
  header : List String
  rows : List (List String)

namespace Table

/-- Splits a list at every element that satisfies `p`, which is dropped. -/
def splitAt {α : Type} (p : α → Bool) : List α → List (List α)
  | [] => [[]]
  | a :: rest =>
    if p a then [] :: splitAt p rest
    else
      match splitAt p rest with
      | [] => [[a]]
      | l :: ls => (a :: l) :: ls

/-- The lines of a cell: the parts between line ends, each of which may have a carriage return in
front. Nothing after the last line end is no line. -/
def cellLines (s : String) : List String :=
  let parts := splitAt (· == '\n') s.toList
  let ended := parts.dropLast.map fun l =>
    if l.getLast? = some '\r' then l.dropLast else l
  let last := parts.getLast?.getD []
  (ended ++ if last.isEmpty then [] else [last]).map String.ofList

def cellWidth (s : String) : Nat :=
  ((cellLines s).map Text.width).foldl max 0

/-- The widths of the columns, without the spaces at their sides. -/
def columnWidths (t : Table) : List Nat :=
  t.rows.foldl (fun ws row => List.zipWith (fun w c => max w (cellWidth c)) ws row)
    (t.header.map cellWidth)

/-- A line across the table. -/
def rule (left fill cross right : Char) (widths : List Nat) : String :=
  String.ofList ([left] ++
    List.intercalate [cross] (widths.map fun w => List.replicate (w + 2) fill) ++ [right])

/-- A line of a cell, filled up to the width of its column. -/
def padded (width : Nat) (line : String) : String :=
  " " ++ line ++ String.ofList (List.replicate (width - Text.width line) ' ') ++ " "

def rowLines (widths : List Nat) (row : List String) : List String :=
  let cells := row.map cellLines
  let height := (cells.map List.length).foldl max 0
  (List.range height).map fun i =>
    "|" ++ "|".intercalate (List.zipWith (fun w c => padded w (c.getD i "")) widths cells) ++ "|"

def lines (t : Table) : List String :=
  let widths := t.columnWidths
  let frame := rule '+' '-' '+' '+' widths
  let body := (t.rows.map (rowLines widths)).intersperse [rule '|' '-' '+' '|' widths]
  [frame] ++ rowLines widths t.header ++ [rule '+' '=' '=' '+' widths] ++ body.flatten ++ [frame]

/-- The text of a table, without a line end. -/
def render (t : Table) : String :=
  "\n".intercalate t.lines

end Table

end GaleraHealth.Summary
