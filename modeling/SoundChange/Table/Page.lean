import SoundChange.Table

/-!
The table as an HTML element that stands on its own: one line for the headings and one line for each
row, every text escaped.
-/
namespace SoundChange.Table

def headingMarkup (heading : String) : String :=
  "<th>" ++ Text.Markup.escaped heading ++ "</th>"

def cellMarkup (cell : Cell) : String :=
  "<td>" ++ cell.markup ++ "</td>"

def rowMarkup (row : List Cell) : String :=
  "    <tr>" ++ String.join (row.map cellMarkup) ++ "</tr>\n"

/-- `to_html`: the table as a page element. -/
def page (table : Table) : String :=
  "<table>\n  <thead>\n    <tr>" ++ String.join (table.headings.map headingMarkup) ++
    "</tr>\n  </thead>\n  <tbody>\n" ++ String.join (table.rows.map rowMarkup) ++
    "  </tbody>\n</table>\n"

end SoundChange.Table
