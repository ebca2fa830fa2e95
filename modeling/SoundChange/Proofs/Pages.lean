import SoundChange.Proofs.MarkupReading
import SoundChange.Table.Page

/-! What a page tells of its table. A page is read as tags and characters: the tags go by the number of
headings and by the kinds of the cells, and the characters are those of the texts, whatever they are.
So the table can be told from its page, but for one thing: a cell that is unchanged reads as a word that
is the marker of unchanged cells. -/
namespace SoundChange.Pages
open Text.Markup MarkupReading

/-- The cell as a page shows it: unchanged cells are words. -/
def shown : Cell → Cell
  | .unchanged => .word Cell.unchangedMarker
  | cell => cell

/-- The tags around the text of a cell. -/
def emphasis : Cell → Option (String × String)
  | .changed _ => some ("b style=\"color: red\"", "/b")
  | .final _ => some ("b", "/b")
  | .ipa _ => some ("i", "/i")
  | .word _ => none
  | .unchanged => none

def contentPieces (cell : Cell) : List Piece :=
  (emphasis cell).elim (chars cell.plain) fun (opening, closing) =>
    .tag opening :: (chars cell.plain ++ [.tag closing])

def headingPieces (heading : String) : List Piece :=
  .tag "th" :: (chars heading ++ [.tag "/th"])

def cellPieces (cell : Cell) : List Piece :=
  .tag "td" :: (contentPieces cell ++ [.tag "/td"])

def rowPieces (row : List Cell) : List Piece :=
  chars "    " ++ .tag "tr" :: (row.flatMap cellPieces ++ .tag "/tr" :: chars "\n")

/-- What stands on a page before the headings, between headings and rows, and after the rows. -/
def opening : List Piece :=
  .tag "table" :: (chars "\n  " ++ .tag "thead" :: (chars "\n    " ++ [.tag "tr"]))

def middle : List Piece :=
  .tag "/tr" :: (chars "\n  " ++ .tag "/thead" :: (chars "\n  " ++ .tag "tbody" :: chars "\n"))

def closing : List Piece :=
  chars "  " ++ .tag "/tbody" :: (chars "\n" ++ .tag "/table" :: chars "\n")

def pagePieces (table : Table) : List Piece :=
  opening ++ (table.headings.flatMap headingPieces ++
    (middle ++ (table.rows.flatMap rowPieces ++ closing)))

/-- The tags around a text with some emphasis. -/
def emphasisTags (around : Option (String × String)) : List String :=
  around.elim [] fun (opening, closing) => [opening, closing]

def cellTags (around : Option (String × String)) : List String :=
  "td" :: (emphasisTags around ++ ["/td"])

/-- The tags of a page with some number of headings and some emphasis for each cell. -/
def outline (headings : Nat) (rows : List (List (Option (String × String)))) : List String :=
  ["table", "thead", "tr"] ++ ((List.replicate headings ["th", "/th"]).flatten ++
    (["/tr", "/thead", "tbody"] ++
      (rows.flatMap (fun row => "tr" :: (row.flatMap cellTags ++ ["/tr"])) ++ ["/tbody", "/table"])))

/-! Reading a page. -/

/-- Markup that is written around a text is read around what the text is read as. -/
theorem read_around {before inside after : String} {opens pieces closes : List Piece}
    (opened : read before.toList = some opens) (reads : read inside.toList = some pieces)
    (closed : read after.toList = some closes) :
    read (before ++ inside ++ after).toList = some (opens ++ (pieces ++ closes)) := by
  rw [String.toList_append, String.toList_append, List.append_assoc]
  exact read_append opened (read_append reads closed)

/-- The content of a cell is read as its tags and, between them, the characters of its text. -/
theorem read_content (cell : Cell) : read cell.markup.toList = some (contentPieces cell) := by
  cases cell with
  | word text => exact read_escaped text
  | unchanged =>
    have reads : read Cell.unchangedMarker.toList = some (chars Cell.unchangedMarker) := by rfl
    exact reads
  | changed text =>
    have opens : read "<b style=\"color: red\">".toList = some [.tag "b style=\"color: red\""] := by rfl
    have closes : read "</b>".toList = some [.tag "/b"] := by rfl
    exact read_around opens (read_escaped text) closes
  | final text =>
    have opens : read "<b>".toList = some [.tag "b"] := by rfl
    have closes : read "</b>".toList = some [.tag "/b"] := by rfl
    exact read_around opens (read_escaped text) closes
  | ipa text =>
    -- The slashes around a pronunciation are written with its tags.
    have opens : read "<i>/".toList = some [.tag "i", .char '/'] := by rfl
    have closes : read "/</i>".toList = some [.char '/', .tag "/i"] := by rfl
    have pieces : contentPieces (.ipa text) =
        [.tag "i", .char '/'] ++ (chars text ++ [.char '/', .tag "/i"]) := by
      change .tag "i" :: (chars ("/" ++ text ++ "/") ++ [.tag "/i"]) = _
      simp [chars]
    rw [pieces]
    exact read_around opens (read_escaped text) closes

example : read (Cell.word "<b>&amp;").markup.toList =
    some [.char '<', .char 'b', .char '>', .char '&', .char 'a', .char 'm', .char 'p', .char ';'] := by
  decide

theorem read_heading (heading : String) :
    read (Table.headingMarkup heading).toList = some (headingPieces heading) := by
  have opens : read "<th>".toList = some [.tag "th"] := by rfl
  have closes : read "</th>".toList = some [.tag "/th"] := by rfl
  exact read_around opens (read_escaped heading) closes

theorem read_cell (cell : Cell) : read (Table.cellMarkup cell).toList = some (cellPieces cell) := by
  have opens : read "<td>".toList = some [.tag "td"] := by rfl
  have closes : read "</td>".toList = some [.tag "/td"] := by rfl
  exact read_around opens (read_content cell) closes

/-- Items written one after the other are read one after the other. -/
theorem read_join {item : Type} {write : item → String} {pieces : item → List Piece}
    (reads : ∀ a, read (write a).toList = some (pieces a)) (items : List item) :
    read (String.join (items.map write)).toList = some (items.flatMap pieces) := by
  rw [String.toList_join, List.flatMap_map]
  exact read_flatMap reads items

theorem read_row (row : List Cell) : read (Table.rowMarkup row).toList = some (rowPieces row) := by
  have opens : read "    <tr>".toList = some (chars "    " ++ [.tag "tr"]) := by rfl
  have closes : read "</tr>\n".toList = some (.tag "/tr" :: chars "\n") := by rfl
  have reads := read_around opens (read_join read_cell row) closes
  rwa [List.append_assoc] at reads

theorem read_page (table : Table) : read table.page.toList = some (pagePieces table) := by
  have opens : read "<table>\n  <thead>\n    <tr>".toList = some opening := by rfl
  have turns : read "</tr>\n  </thead>\n  <tbody>\n".toList = some middle := by rfl
  have closes : read "  </tbody>\n</table>\n".toList = some closing := by rfl
  have headings := read_join read_heading table.headings
  have rows := read_join read_row table.rows
  have reads := read_append opens (read_append headings (read_append turns (read_append rows closes)))
  unfold Table.page pagePieces
  simpa only [String.toList_append, List.append_assoc] using reads

/-! The tags and the characters of a page. -/

theorem tags_chars (text : String) : (chars text).filterMap Piece.tag? = [] := by
  simp [chars, List.filterMap_map, Function.comp_def, Piece.tag?]

theorem texts_chars (text : String) : (chars text).filterMap Piece.char? = text.toList := by
  simp [chars, List.filterMap_map, Function.comp_def, Piece.char?]

/-- The only tags of a cell are those of its emphasis, whatever its text is. -/
theorem tags_content (cell : Cell) :
    (contentPieces cell).filterMap Piece.tag? = emphasisTags (emphasis cell) := by
  cases around : emphasis cell with
  | none => simp [contentPieces, around, emphasisTags, tags_chars]
  | some tags => simp [contentPieces, around, emphasisTags, tags_chars, Piece.tag?]

/-- The characters of a cell are those that it has without any emphasis. -/
theorem texts_content (cell : Cell) :
    (contentPieces cell).filterMap Piece.char? = cell.plain.toList := by
  cases around : emphasis cell with
  | none => simp [contentPieces, around, texts_chars]
  | some tags => simp [contentPieces, around, texts_chars, Piece.char?, List.filterMap_cons]

theorem tags_heading (heading : String) :
    (headingPieces heading).filterMap Piece.tag? = ["th", "/th"] := by
  simp [headingPieces, tags_chars, Piece.tag?]

theorem tags_cell (cell : Cell) :
    (cellPieces cell).filterMap Piece.tag? = cellTags (emphasis cell) := by
  simp [cellPieces, cellTags, tags_content, Piece.tag?]

theorem tags_row (row : List Cell) :
    (rowPieces row).filterMap Piece.tag? =
      "tr" :: ((row.map emphasis).flatMap cellTags ++ ["/tr"]) := by
  simp [rowPieces, tags_chars, tags_cell, Piece.tag?, List.filterMap_flatMap, List.flatMap_map]

/-- The tags of a page go by the number of headings and the emphasis of the cells. -/
theorem tags_page (table : Table) :
    (pagePieces table).filterMap Piece.tag? =
      outline table.headings.length (table.rows.map (·.map emphasis)) := by
  have headings : table.headings.flatMap (fun _ => ["th", "/th"]) =
      (List.replicate table.headings.length ["th", "/th"]).flatten := by
    rw [List.flatMap_def, List.map_const']
  simp [pagePieces, outline, opening, middle, closing, tags_chars, tags_heading, tags_row,
    Piece.tag?, List.filterMap_flatMap, List.flatMap_map, headings]

/-! What the pieces tell of the table. -/

/-- The pieces of an item tell how it is seen, whatever comes after them. -/
def Tells {item sight : Type} (write : item → List Piece) (view : item → sight) : Prop :=
  ∀ a b r s, write a ++ r = write b ++ s → view a = view b ∧ r = s

/-- Items that are told one by one are told in a row, up to a stop that is not taken for an item. -/
theorem Tells.flatMap {item sight : Type} {write : item → List Piece} {view : item → sight}
    (tells : Tells write view) {stop : List Piece} (apart : ∀ a r s, write a ++ r ≠ stop ++ s) :
    Tells (fun items => items.flatMap write ++ stop) (List.map view) := by
  intro items
  induction items with
  | nil =>
    intro others r s same
    cases others with
    | nil => exact ⟨rfl, List.append_cancel_left same⟩
    | cons b others => exact absurd (by simpa using same.symm) (apart b _ _)
  | cons a items ih =>
    intro others r s same
    cases others with
    | nil => exact absurd (by simpa using same) (apart a _ _)
    | cons b others =>
      simp only [List.flatMap_cons, List.append_assoc] at same
      obtain ⟨same_first, same_rest⟩ := tells a b _ _ same
      obtain ⟨same_others, same_end⟩ := ih others r s (by simpa using same_rest)
      exact ⟨by simp [same_first, same_others], same_end⟩

/-- Characters end where the first tag stands. -/
theorem before_tag_eq {left right : List Char} {x y : String} {r s : List Piece}
    (same : left.map .char ++ .tag x :: r = right.map .char ++ .tag y :: s) :
    left = right ∧ x = y ∧ r = s := by
  induction left generalizing right with
  | nil => cases right <;> simp_all
  | cons c left ih =>
    cases right with
    | nil => simp at same
    | cons d right =>
      obtain ⟨same_char, same_others⟩ := List.cons.inj same
      obtain ⟨same_left, same_rest⟩ := ih same_others
      exact ⟨by rw [Piece.char.inj same_char, same_left], same_rest⟩

/-- Two texts before a tag that are read alike are the same text, before the same tag. -/
theorem chars_tag_eq {first second : String} {x y : String} {r s : List Piece}
    (same : chars first ++ .tag x :: r = chars second ++ .tag y :: s) :
    first = second ∧ x = y ∧ r = s := by
  obtain ⟨same_text, same_rest⟩ := before_tag_eq same
  exact ⟨String.toList_inj.mp same_text, same_rest⟩

/-- Cells with the same emphasis and the same text are shown alike. -/
theorem shown_eq {a b : Cell} (same_around : emphasis a = emphasis b)
    (same_text : a.plain = b.plain) : shown a = shown b := by
  cases a <;> cases b <;> simp_all [emphasis, shown, Cell.plain]

theorem tells_heading : Tells headingPieces id := by
  intro a b r s same
  simp only [headingPieces, List.cons_append, List.append_assoc, List.nil_append, List.cons.injEq,
    true_and] at same
  obtain ⟨same_text, -, same_rest⟩ := chars_tag_eq same
  exact ⟨same_text, same_rest⟩

/-- The tag that ends a cell does not begin an emphasis. -/
theorem opening_ne {cell : Cell} {tags : String × String} (around : emphasis cell = some tags) :
    tags.1 ≠ "/td" := by
  cases cell <;> cases around <;> decide

theorem plain_ne_emphasised {text : String} {cell : Cell} {tags : String × String}
    (around : emphasis cell = some tags) {r s : List Piece} :
    chars text ++ .tag "/td" :: r ≠ .tag tags.1 :: s := by
  intro same
  obtain ⟨-, same_tag, -⟩ := @chars_tag_eq text "" _ _ _ _ same
  exact opening_ne around same_tag.symm

theorem plain_cell {cell : Cell} (around : emphasis cell = none) (rest : List Piece) :
    cellPieces cell ++ rest = .tag "td" :: (chars cell.plain ++ .tag "/td" :: rest) := by
  simp [cellPieces, contentPieces, around]

theorem emphasised_cell {cell : Cell} {tags : String × String} (around : emphasis cell = some tags)
    (rest : List Piece) :
    cellPieces cell ++ rest =
      .tag "td" :: .tag tags.1 :: (chars cell.plain ++ .tag tags.2 :: .tag "/td" :: rest) := by
  simp [cellPieces, contentPieces, around]

/-- What a cell shows is told by its pieces, whatever comes behind them: the tag behind the first
one is that of an emphasis or of the end. -/
theorem tells_cell : Tells cellPieces shown := by
  intro a b r s same
  suffices told : emphasis a = emphasis b ∧ a.plain = b.plain ∧ r = s from
    ⟨shown_eq told.1 told.2.1, told.2.2⟩
  cases around_a : emphasis a with
  | none =>
    rw [plain_cell around_a] at same
    cases around_b : emphasis b with
    | none =>
      rw [plain_cell around_b] at same
      obtain ⟨same_text, -, same_rest⟩ := chars_tag_eq (List.cons.inj same).2
      exact ⟨rfl, same_text, same_rest⟩
    | some tags =>
      rw [emphasised_cell around_b] at same
      exact absurd (List.cons.inj same).2 (plain_ne_emphasised around_b)
  | some tags =>
    rw [emphasised_cell around_a] at same
    cases around_b : emphasis b with
    | none =>
      rw [plain_cell around_b] at same
      exact absurd (List.cons.inj same).2.symm (plain_ne_emphasised around_a)
    | some others =>
      rw [emphasised_cell around_b] at same
      obtain ⟨same_opening, same⟩ := List.cons.inj (List.cons.inj same).2
      obtain ⟨same_text, same_closing, same_rest⟩ := chars_tag_eq same
      have same_tags := Prod.ext (Piece.tag.inj same_opening) same_closing
      exact ⟨congrArg some same_tags, same_text, (List.cons.inj same_rest).2⟩

theorem tells_cells : Tells (fun row => row.flatMap cellPieces ++ [.tag "/tr"]) (List.map shown) :=
  tells_cell.flatMap fun _ _ _ same => by simp [cellPieces] at same

theorem tells_headings :
    Tells (fun headings => headings.flatMap headingPieces ++ [.tag "/tr"]) (List.map id) :=
  tells_heading.flatMap fun _ _ _ same => by simp [headingPieces] at same

/-- A row is told by its pieces cell by cell, up to the end of the row. -/
theorem tells_row : Tells rowPieces (List.map shown) := by
  intro a b r s same
  simp only [rowPieces, List.cons_append, List.append_assoc] at same
  have same_row := (List.cons.inj (List.append_cancel_left same)).2
  obtain ⟨same_cells, same_rest⟩ := tells_cells a b (chars "\n" ++ r) (chars "\n" ++ s)
    (by simpa using same_row)
  exact ⟨same_cells, List.append_cancel_left same_rest⟩

theorem tells_rows :
    Tells (fun rows => rows.flatMap rowPieces ++ closing) (List.map (List.map shown)) :=
  tells_row.flatMap fun _ _ _ same => by simp [rowPieces, closing, chars] at same

/-- Pages that are read alike come from tables with the same headings, whose cells show the same. -/
theorem tells_page {a b : Table} (same : pagePieces a = pagePieces b) :
    a.headings = b.headings ∧ a.rows.map (·.map shown) = b.rows.map (·.map shown) := by
  have same_body := List.append_cancel_left same
  obtain ⟨same_headings, same_rest⟩ := tells_headings a.headings b.headings
    (middle.tail ++ (a.rows.flatMap rowPieces ++ closing))
    (middle.tail ++ (b.rows.flatMap rowPieces ++ closing)) (by simpa [middle] using same_body)
  have same_rows := List.append_cancel_left same_rest
  obtain ⟨same_cells, -⟩ := tells_rows a.rows b.rows [] [] (by simpa using same_rows)
  exact ⟨by simpa using same_headings, same_cells⟩

/-- What is shown of a cell is written as the cell is. -/
theorem markup_shown (cell : Cell) : (shown cell).markup = cell.markup := by
  cases cell <;> rfl

/-- A page shows no more than the headings and what is shown of the cells. -/
theorem page_shown (table : Table) :
    Table.page ⟨table.headings, table.rows.map (·.map shown)⟩ = table.page := by
  have same_cell : Table.cellMarkup ∘ shown = Table.cellMarkup :=
    funext fun cell => by rw [Function.comp_apply, Table.cellMarkup, markup_shown, Table.cellMarkup]
  have same_row : Table.rowMarkup ∘ List.map shown = Table.rowMarkup :=
    funext fun row => by
      rw [Function.comp_apply, Table.rowMarkup, List.map_map, same_cell, Table.rowMarkup]
  unfold Table.page
  rw [List.map_map, same_row]

/-- The page of a table determines the table, but for unchanged cells that read as words, and no text can
stand in for markup: a page is read as `pagePieces`, whose tags go by the number of headings and the kinds
of the cells alone; the characters in the content of a cell are those of its plain text; and an escaped
text, which has no bracket and no quote, is read back by unescaping it. -/
theorem page_determines_table :
    (∀ a b : Table, a.page = b.page ↔
      a.headings = b.headings ∧ a.rows.map (·.map shown) = b.rows.map (·.map shown)) ∧
    (∀ table : Table, read table.page.toList = some (pagePieces table) ∧
      (pagePieces table).filterMap Piece.tag? =
        outline table.headings.length (table.rows.map (·.map emphasis))) ∧
    (∀ cell : Cell, read cell.markup.toList = some (contentPieces cell) ∧
      (contentPieces cell).filterMap Piece.tag? = emphasisTags (emphasis cell) ∧
      (contentPieces cell).filterMap Piece.char? = cell.plain.toList) ∧
    (∀ text : List Char, unescape? (escape text) = some text ∧
      ∀ c ∈ escape text, c ≠ '<' ∧ c ≠ '>' ∧ c ≠ '"') := by
  refine ⟨fun a b => ⟨fun same => ?_, fun same => ?_⟩, ?_, ?_, ?_⟩
  · apply tells_page
    have same_reading := congrArg (fun page => read page.toList) same
    simpa [read_page] using same_reading
  · rw [← page_shown a, ← page_shown b, same.1, same.2]
  · exact fun table => ⟨read_page table, tags_page table⟩
  · exact fun cell => ⟨read_content cell, tags_content cell, texts_content cell⟩
  · exact fun text => ⟨unescape?_escape text, fun _ => no_delimiter_of_mem_escape⟩

end SoundChange.Pages
