import NovelScript.Proofs.Sheet.Wrap
import NovelScript.Proofs.Text.Split
import NovelScript.Sheet.Layout

/-!
# Printed scripts are whole

A print with numbers passes two cells to the page for each row, the number in front of it and its
text. Where pages end is a matter of measures. Nothing here depends on it:

* **Any breaks** (`Passes.shows`): cells are passed one after the other, and before each of them a
  new page may be started for whatever reason. Every page then has its title in front and its number
  behind, and between them the pages have exactly the cells that were passed, in order.
* **A print is such a run** (`passes_rows`), over the rows of the script.
* **The rows are the script** (`showsLines_rowsFrom`): each line has its number once, in front of its
  first row, numbers go up from one, and the rows of a line without their padding are the line.

**`print_shows_script`** puts the three together.
-/

namespace NovelScript.Sheet

open Text (newline encode decode)

/-! ## Cells -/

/-- A cell that is passed to the page. -/
inductive Cell where
  /-- The number in front of a row, empty behind the first row of a line. -/
  | number (n : Option Nat)
  /-- The text of a row. -/
  | text (t : Text) (face : Face) (color : Color)

/-- The cells of a row, in the order in which they are passed. -/
def Row.cells (r : Row) : List Cell :=
  [.number r.number, .text r.text r.face r.color]

/-- What is written into the cell of a number. -/
def numberLabel : Option Nat → Text
  | some n => Text.ofNat n
  | none => []

/-- What a cell draws at a height. -/
def Cell.items (m : Measures) (rule : Bool) (y : Double) : Cell → List Item
  | .number n =>
    let x := (m.margin.add m.gutter).sub (m.char.div (points 4 0))
    cellItem .plain m.size numberColor .right m.margin y (m.gutter.sub (m.char.div (points 2 0))) m.row
        (numberLabel n) ++
      if rule then [.line x (pageHeight.sub y) x (pageHeight.sub (y.add m.row))] else []
  | .text t face color =>
    cellItem face m.size color .left (m.margin.add m.gutter) y m.column m.row (coded t)

/-- The items of cells at their heights. -/
def cellItems (m : Measures) (rule : Bool) (cells : List (Cell × Double)) : List Item :=
  cells.flatMap fun c => c.1.items m rule c.2

/-- A page: the title, cells at their heights, and the number of the page. -/
def pageItems (m : Measures) (rule : Bool) (title : List UInt8) (page : Nat)
    (cells : List (Cell × Double)) : List Item :=
  headItems m title ++ cellItems m rule cells ++ footItems m page

/-- Pages with these cells, the first of them with the number one. -/
def pagesOf (m : Measures) (rule : Bool) (title : List UInt8)
    (placed : List (List (Cell × Double))) : List (List Item) :=
  placed.mapIdx fun i cells => pageItems m rule title (i + 1) cells

/-! ## Any breaks -/

section

variable {m : Measures} {rule : Bool} {title : List UInt8}

/-- Cells are passed to a press one after the other. Before each of them a new page may be started,
and behind it the press may go on at any height. -/
inductive Passes (m : Measures) (rule : Bool) (title : List UInt8) :
    Press → List Cell → Press → Prop where
  /-- No cell is left. -/
  | done (p : Press) : Passes m rule title p [] p
  /-- A cell is drawn on the page at hand or on a new one. -/
  | cell {p room q : Press} {c : Cell} {cells : List Cell} (y : Double)
      (hroom : room = p ∨ room = Press.start m title (p.finish m))
      (rest : Passes m rule title { room.draw (c.items m rule room.y) with y } cells q) :
      Passes m rule title p (c :: cells) q

/-- A press that has pages with the cells `before` behind it and the cells `here` on its page. -/
structure Press.Shows (m : Measures) (rule : Bool) (title : List UInt8) (p : Press)
    (before : List (List (Cell × Double))) (here : List (Cell × Double)) : Prop where
  done : p.done.reverse = pagesOf m rule title before
  items : p.items = headItems m title ++ cellItems m rule here

/-- The first page starts with nothing on it. -/
theorem Press.shows_start (m : Measures) (rule : Bool) (title : List UInt8) :
    Press.Shows m rule title (Press.start m title []) [] [] where
  done := rfl
  items := by simp [Press.start, cellItems]

/-- A page that is added is numbered behind those before it. -/
theorem pagesOf_append (before : List (List (Cell × Double))) (here : List (Cell × Double)) :
    pagesOf m rule title (before ++ [here]) =
      pagesOf m rule title before ++ [pageItems m rule title (before.length + 1) here] := by
  simp [pagesOf]

/-- A finished page is one more page. -/
theorem Press.Shows.finish {p : Press} {before : List (List (Cell × Double))}
    {here : List (Cell × Double)} (h : p.Shows m rule title before here) :
    (p.finish m).reverse = pagesOf m rule title (before ++ [here]) := by
  have hlength : p.done.length = before.length := by
    have hlist := congrArg List.length h.done
    simpa [pagesOf] using hlist
  unfold Press.finish
  rw [List.reverse_cons, h.done, pagesOf_append, h.items, hlength]
  rfl

/-- Where a page is finished and a new one started, all that was on it is on its page. -/
theorem Press.Shows.start {p : Press} {before : List (List (Cell × Double))}
    {here : List (Cell × Double)} (h : p.Shows m rule title before here) :
    (Press.start m title (p.finish m)).Shows m rule title (before ++ [here]) [] where
  done := h.finish
  items := by simp [Press.start, cellItems]

/-- A cell that is drawn is on the page that is open. -/
theorem Press.Shows.draw {p : Press} {before : List (List (Cell × Double))}
    {here : List (Cell × Double)} (h : p.Shows m rule title before here) (c : Cell) (y : Double) :
    Press.Shows m rule title { p.draw (c.items m rule p.y) with y } before (here ++ [(c, p.y)]) where
  done := h.done
  items := by
    have hitems : p.items ++ c.items m rule p.y =
        headItems m title ++ cellItems m rule (here ++ [(c, p.y)]) := by
      simp [h.items, cellItems]
    exact hitems

/-- Wherever pages end, they have the cells that were there and the cells that are passed, in
order. -/
theorem Passes.shows {p q : Press} {cells : List Cell} (h : Passes m rule title p cells q)
    {before : List (List (Cell × Double))} {here : List (Cell × Double)}
    (hp : p.Shows m rule title before here) :
    ∃ before' here', q.Shows m rule title before' here' ∧
      (before' ++ [here']).flatten.map Prod.fst =
        (before ++ [here]).flatten.map Prod.fst ++ cells := by
  induction h generalizing before here with
  | done p => exact ⟨before, here, hp, by simp⟩
  | @cell p room q c cells y hroom rest ih =>
    rcases hroom with rfl | rfl
    · obtain ⟨before', here', hq, hcells⟩ := ih (hp.draw c y)
      refine ⟨before', here', hq, ?_⟩
      rw [hcells]
      simp
    · obtain ⟨before', here', hq, hcells⟩ := ih (hp.start.draw c y)
      refine ⟨before', here', hq, ?_⟩
      rw [hcells]
      simp

/-- From an empty first page on, the pages have exactly the cells that are passed. -/
theorem Passes.pages {q : Press} {cells : List Cell}
    (h : Passes m rule title (Press.start m title []) cells q) :
    ∃ placed, (q.finish m).reverse = pagesOf m rule title placed ∧
      placed.flatten.map Prod.fst = cells := by
  obtain ⟨before, here, hshows, hcells⟩ := h.shows (Press.shows_start m rule title)
  exact ⟨before ++ [here], hshows.finish, by simpa using hcells⟩

/-! ## A print is such a run -/

/-- To make room is to do nothing or to start a new page. -/
theorem Press.makeRoom_cases (m : Measures) (title : List UInt8) (p : Press) :
    p.makeRoom m title = p ∨ p.makeRoom m title = Press.start m title (p.finish m) := by
  unfold Press.makeRoom
  split
  · exact .inr rfl
  · exact .inl rfl

/-- A row with a number passes its two cells. -/
theorem passes_row {l : Look} (hnumbers : l.numbers = true) {p q : Press} (r : Row)
    {cells : List Cell} (h : Passes m l.rule title (p.row m l title r) cells q) :
    Passes m l.rule title p (r.cells ++ cells) q := by
  have hnumber : p.number m l.rule title r =
      { (p.makeRoom m title).draw
          ((Cell.number r.number).items m l.rule (p.makeRoom m title).y) with
        y := (p.makeRoom m title).y } := by
    unfold Press.number
    cases r.number <;> rfl
  unfold Press.row at h
  rw [if_pos hnumbers, if_pos hnumbers, hnumber] at h
  exact .cell _ (p.makeRoom_cases m title) (.cell _ (Press.makeRoom_cases m title _) h)

/-- **All cells of some rows are drawn, in their order**, whatever pages are started in between. By
induction on the rows. -/
theorem passes_rows {l : Look} (hnumbers : l.numbers = true) (rows : List Row) (p : Press) :
    Passes m l.rule title p (rows.flatMap Row.cells) (rows.foldl (Press.row m l title) p) := by
  induction rows generalizing p with
  | nil => exact .done p
  | cons r rows ih =>
    rw [List.flatMap_cons, List.foldl_cons]
    exact passes_row hnumbers r (ih _)

end

/-! ## The rows are the script -/

/-- Rows with a number in front of the first. -/
def labelled (n : Nat) : List Text → List (Option Nat × Text)
  | [] => []
  | first :: more => (some n, first) :: more.map fun t => (none, t)

/-- Rows that show a script when `columns` characters fit into a row. -/
structure ShowsLines (columns : Nat) (script : Text) (rows : List Row) : Prop where
  /-- The rows are those of the lines, in order. -/
  content : rows.map (fun r => (r.number, r.text)) =
    ((scriptLines script).zipIdx 1).flatMap fun x => labelled x.2 (wrap columns x.1)
  /-- Each number is there once, and they go up from one. -/
  numbers : rows.filterMap Row.number = List.range' 1 (scriptLines script).length
  /-- The lines are those of the script; a line break at its end does not count. -/
  lines : Text.join [newline] (scriptLines script) = Text.dropEnd [newline] script
  /-- A line has no line break. -/
  unbroken : ∀ line ∈ scriptLines script, newline ∉ line
  /-- What stands in front of the rows of a line after its first are blanks. -/
  padded : ∀ line ∈ scriptLines script, ∀ row ∈ (wrap columns line).tail,
    List.replicate (lead columns (decode line)) Text.blank <+: row
  /-- The rows of a line without these blanks are the line, character by character. -/
  whole : ∀ line ∈ scriptLines script,
    unwrapped (lead columns (decode line)) (wrap columns line) =
      if (decode line).length ≤ columns then line else encode (decode line)
  /-- So a well-formed line is there byte by byte. -/
  valid : ∀ line ∈ scriptLines script, Text.isValid line = true →
    unwrapped (lead columns (decode line)) (wrap columns line) = line

/-- The rows of a line are the line, wrapped, with its number at the first row. -/
theorem map_lineRows (columns : Nat) (comment : Color) (n : Nat) (line : Text) :
    (lineRows columns comment n line).map (fun r => (r.number, r.text)) =
      labelled n (wrap columns line) := by
  unfold lineRows
  cases wrap columns line with
  | nil => rfl
  | cons first more => simp [labelled]

/-- A line has its number once. -/
theorem filterMap_lineRows (columns : Nat) (comment : Color) (n : Nat) (line : Text) :
    (lineRows columns comment n line).filterMap Row.number = [n] := by
  unfold lineRows
  cases hwrap : wrap columns line with
  | nil => exact absurd hwrap (wrap_ne_nil columns line)
  | cons first more => simp

/-- The rows of all lines are those of each line, one after the other. -/
theorem map_rowsFrom (columns : Nat) (comment : Color) (n : Nat) (lines : List Text) :
    (rowsFrom columns comment n lines).map (fun r => (r.number, r.text)) =
      (lines.zipIdx n).flatMap fun x => labelled x.2 (wrap columns x.1) := by
  induction lines generalizing n with
  | nil => rfl
  | cons line lines ih =>
    rw [rowsFrom, List.map_append, map_lineRows, ih, List.zipIdx_cons, List.flatMap_cons]

/-- The lines are numbered one after the other. -/
theorem filterMap_rowsFrom (columns : Nat) (comment : Color) (n : Nat) (lines : List Text) :
    (rowsFrom columns comment n lines).filterMap Row.number = List.range' n lines.length := by
  induction lines generalizing n with
  | nil => rfl
  | cons line lines ih =>
    rw [rowsFrom, List.filterMap_append, filterMap_lineRows, ih, List.length_cons,
      List.range'_succ, List.singleton_append]

/-- The rows of a script show its lines. -/
theorem showsLines_rowsFrom (columns : Nat) (comment : Color) (script : Text) :
    ShowsLines columns script (rowsFrom columns comment 1 (scriptLines script)) where
  content := map_rowsFrom columns comment 1 _
  numbers := filterMap_rowsFrom columns comment 1 _
  lines := Text.join_splitAt newline _
  unbroken := fun _ hline => Text.not_mem_of_mem_splitAt hline
  padded := fun _ _ _ hrow => isPrefix_of_mem_tail_wrap hrow
  whole := fun line _ => unwrapped_wrap columns line
  valid := fun _ _ hvalid => unwrapped_wrap_of_isValid columns hvalid

/-! ## Prints -/

/-- The measures of the print of a script. -/
def Look.measuresFor (l : Look) (script : Text) : Measures :=
  l.measures (scriptLines script).length

/-- The press when all rows of a script are drawn. -/
def pressed (l : Look) (title script : Text) (columns : Nat) : Press :=
  (rowsFrom columns l.commentColor 1 (scriptLines script)).foldl
    (Press.row (l.measuresFor script) l (coded title)) (Press.start (l.measuresFor script) (coded title) [])

/-- When a script can be printed, at least eight characters fit into a row, and the pages are those
of the press behind its last row. -/
theorem print_eq_ok {l : Look} {title script : Text} {pages : List (List Item)}
    (h : print l title script = .ok pages) :
    ∃ columns : Nat, (l.measuresFor script).columns? = some (columns : Int) ∧ 8 ≤ columns ∧
      ∃ drawn, ((pressed l title script columns).finish (l.measuresFor script)).reverse = drawn ∧
        pages = drawn.map (List.map (Item.counted drawn.length)) := by
  unfold print at h
  dsimp only at h
  split at h
  · cases h
  · rename_i hwide
    cases h
    change ¬ (l.measuresFor script).columns?.getD 0 < 8 at hwide
    cases hcolumns : (l.measuresFor script).columns? with
    | none =>
      rw [hcolumns] at hwide
      exact absurd (by decide) hwide
    | some columns =>
      rw [hcolumns, Option.getD_some] at hwide
      refine ⟨columns.toNat, ?_, by omega, _, rfl, ?_⟩
      · rw [Int.toNat_of_nonneg (by omega)]
      · unfold Look.measuresFor at hcolumns
        rw [hcolumns]
        rfl

/-- Pages that show a script in these rows. -/
structure ShowsScript (l : Look) (title script : Text) (pages : List (List Item)) (columns : Nat)
    (rows : List Row) : Prop where
  /-- So many characters fit into a row. -/
  width : (l.measuresFor script).columns? = some (columns : Int)
  /-- The rows show the script line by line. -/
  lines : ShowsLines columns script rows
  /-- Every page has its title, then cells, then its number, and the cells of all pages in order are
  those of the rows. At last the number of pages is put in for its mark. -/
  drawn : ∃ placed,
    pages = (pagesOf (l.measuresFor script) l.rule (coded title) placed).map
      (List.map (Item.counted placed.length)) ∧
    placed.flatten.map Prod.fst = rows.flatMap Row.cells
  /-- The same would hold if pages ended anywhere else. -/
  breaks : ∀ q, Passes (l.measuresFor script) l.rule (coded title)
      (Press.start (l.measuresFor script) (coded title) []) (rows.flatMap Row.cells) q →
    ∃ placed,
      (q.finish (l.measuresFor script)).reverse =
        pagesOf (l.measuresFor script) l.rule (coded title) placed ∧
      placed.flatten.map Prod.fst = rows.flatMap Row.cells

/-- **A print with numbers shows the whole script once.** Whatever the title, the script and the
look, if the script can be printed at all: in order over all pages, and wherever pages end, the cells
between titles and page numbers are a number and a text for each row; each line has its number in
front of its first row only, numbers go up from one, and the rows of a line without their padding are
the line, byte by byte where it fits into a row or is well formed, else character by character. -/
theorem print_shows_script {l : Look} {title script : Text} {pages : List (List Item)}
    (hnumbers : l.numbers = true) (h : print l title script = .ok pages) :
    ∃ columns rows, ShowsScript l title script pages columns rows := by
  obtain ⟨columns, hcolumns, -, drawn, hdrawn, rfl⟩ := print_eq_ok h
  refine ⟨columns, _, hcolumns, showsLines_rowsFrom columns l.commentColor script, ?_, ?_⟩
  · have hpasses : Passes (l.measuresFor script) l.rule (coded title) _ _
        (pressed l title script columns) := passes_rows hnumbers _ _
    obtain ⟨placed, hpages, hcells⟩ := hpasses.pages
    have hdrawn' : drawn = pagesOf (l.measuresFor script) l.rule (coded title) placed :=
      hdrawn.symm.trans hpages
    have hlength : drawn.length = placed.length := by
      rw [hdrawn', pagesOf, List.length_mapIdx]
    exact ⟨placed, by rw [hlength, hdrawn'], hcells⟩
  · intro q hq
    exact hq.pages

namespace Sample

/-- A type so large that eight characters fit into a row, and five rows on a page. -/
def large : Look where
  numbers := true
  size := points 80 0

/-- Six lines, the first of which takes two rows. -/
def script : Text := Text.lit "    label start:\na\nb\nc\nd\ne\n"

/-- A line that takes two rows and starts with a byte that belongs to no character. -/
def illFormed : Text := 0xFF :: Text.lit "abcdefgh"

/-- A sheet that is printed has pages. -/
theorem exists_print {l : Look} {title script : Text}
    (h : (print l title script).toOption.isSome = true) :
    ∃ pages, print l title script = .ok pages := by
  cases hprint : print l title script with
  | error e =>
    rw [hprint] at h
    cases h
  | ok pages => exact ⟨pages, rfl⟩

end Sample

/-- A script in so large a type that its first line takes two rows and its lines two pages, with
numbers. -/
theorem print_shows_script_of_large :
    ∃ pages, Sample.large.numbers = true ∧
      print Sample.large (Text.lit "t") Sample.script = .ok pages ∧
      ∃ columns rows,
        ShowsScript Sample.large (Text.lit "t") Sample.script pages columns rows := by
  obtain ⟨pages, hpages⟩ :=
    Sample.exists_print (show (print Sample.large (Text.lit "t") Sample.script).toOption.isSome = true by
      decide +kernel)
  exact ⟨pages, rfl, hpages, print_shows_script rfl hpages⟩

/-- Bytes that belong to no character do not come back from a line that takes several rows. -/
theorem unwrapped_of_illFormed :
    (print Sample.large [] Sample.illFormed).toOption.isSome = true ∧
      (Sample.large.measuresFor Sample.illFormed).columns? = some 8 ∧
      scriptLines Sample.illFormed = [Sample.illFormed] ∧
      unwrapped (lead 8 (decode Sample.illFormed)) (wrap 8 Sample.illFormed) ≠
        Sample.illFormed := by
  refine ⟨by decide +kernel, by decide +kernel, by decide, ?_⟩
  rw [unwrapped_wrap]
  decide

end NovelScript.Sheet
