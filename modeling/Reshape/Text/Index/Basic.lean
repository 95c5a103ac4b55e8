/-!
# Numbered characters

* `indexed?`: the character at a place of a table with gaps, which is written in rows of 64.
-/

namespace Reshape.Text.Index

/-- The character at a place of a table. A low line stands for a gap, and so does the end of a row
that is cut short. -/
def indexed? (rows : Array String) (place : Nat) : Option Char :=
  match (rows.getD (place / 64) "").toList[place % 64]? with
  | some '_' => none
  | c => c

end Reshape.Text.Index
