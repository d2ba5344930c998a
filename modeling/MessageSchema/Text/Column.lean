/-! Columns of a text table. Widths count characters; a text that is too wide is kept whole. -/
namespace MessageSchema.Text

inductive Side where
  | left | right
deriving DecidableEq, Repr

/-- A column: its heading, its least width, and the side on which its texts stand. -/
structure Column where
  heading : String
  width : Nat
  side : Side
deriving DecidableEq, Repr

namespace Column

/-- A text filled up with spaces to the width of the column. -/
def fill (column : Column) (text : String) : String :=
  let blanks := String.ofList (List.replicate (column.width - text.toList.length) ' ')
  match column.side with
  | .left => text ++ blanks
  | .right => blanks ++ text

/-- A line of a table: one text for each column, with a space between two. -/
def line (columns : List Column) (texts : List String) : String :=
  " ".intercalate (List.zipWith fill columns texts) ++ "\n"

end Column

end MessageSchema.Text
