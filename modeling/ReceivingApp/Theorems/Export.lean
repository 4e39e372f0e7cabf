import Mathlib.Logic.Basic
import ReceivingApp.Adapters.Source

namespace ReceivingApp

-- ### What an export says

-- The rows of a table, as `csv.DictReader` reads them.
def csvRows (table : List (List String)) : List CsvRow :=
  ((table.drop 1).filter (fun cells => cells ≠ [])).map (.read (table.headD []))

namespace CsvRow

-- The text of a cell without the blanks around it. A column or a cell that is not there has none.
def text (row : CsvRow) (column : String) : String :=
  strip (orEmpty (row.get? column).join)

-- What a row says, unless its inventory_id is blank.
def lineItem (row : CsvRow) : Option LineItem :=
  if row.text "Inventory Id" = "" then none
  else some {
    inventoryId   := some (some (row.text "Inventory Id"))
    purchaseOrder := some (some (row.text "PO #"))
    modelNumber   := some (some (row.text "Model"))
    description   := [row.text "Category", row.text "Product Group"].find? (· ≠ "")
    brand         := orNone (row.text "Brand")
    vendor        := none
    tags          := orNone (row.text "Tags")
  }

-- A category of nothing but blanks stands before a product group.
def HidesGroup (row : CsvRow) : Prop :=
  row.cell "Category" ≠ "" ∧ row.text "Category" = "" ∧ row.text "Product Group" ≠ ""

variable {row : CsvRow}

theorem strip_cell (column : String) : strip (row.cell column) = row.text column := by
  apply congrArg strip
  rw [cell]
  rcases row.get? column with _ | _ | s <;> rfl

theorem text_of_cell_eq {column : String} (h : row.cell column = "") : row.text column = "" := by
  rw [← strip_cell, h]
  simp [strip]

-- ### Rows

theorem isSome_parseRow : (parseRow row).isSome = row.lineItem.isSome := by
  simp only [parseRow, lineItem, strip_cell]
  split
  case isTrue  => rfl
  case isFalse => simp only [Option.isSome_some]

theorem description_eq_iff :
    orNone (strip (if row.cell "Category" = "" then row.cell "Product Group"
      else row.cell "Category")) = [row.text "Category", row.text "Product Group"].find? (· ≠ "") ↔
      ¬row.HidesGroup := by
  by_cases hc : row.cell "Category" = ""
  case pos =>
    rw [if_pos hc, strip_cell]
    by_cases hg : row.text "Product Group" = "" <;>
      simp [orNone, HidesGroup, hc, text_of_cell_eq hc, hg]
  case neg =>
    rw [if_neg hc, strip_cell]
    by_cases ht : row.text "Category" = "" <;> by_cases hg : row.text "Product Group" = "" <;>
      simp [orNone, HidesGroup, hc, ht, hg]

theorem parseRow_eq_iff :
    parseRow row = row.lineItem ↔ (row.text "Inventory Id" ≠ "" → ¬row.HidesGroup) := by
  rw [← description_eq_iff]
  simp only [parseRow, lineItem, strip_cell]
  split
  case isTrue h  => simp [h]
  case isFalse h => simp [h]

end CsvRow

-- ### Tables

-- Where two functions skip the same members, they agree on the list exactly if they agree on each.
theorem filterMap_eq_filterMap_iff {α β : Type} {f g : α → Option β} {l : List α}
    (h : ∀ a, (f a).isSome = (g a).isSome) :
    l.filterMap f = l.filterMap g ↔ ∀ a ∈ l, f a = g a := by
  induction l
  case nil => simp
  case cons a l ih =>
    have ha := h a
    cases hf : f a <;> cases hg : g a
    case none.none => simp [hf, hg, ih]
    case some.some => simp [hf, hg, ih]
    all_goals simp [hf, hg] at ha

-- All columns that are required are there.
def HasColumns (table : List (List String)) : Prop :=
  ∀ column ∈ requiredCsvColumns, column ∈ table.headD []

variable {table : List (List String)}

theorem hasColumns_iff :
    HasColumns table ↔
      requiredCsvColumns.filter (fun column => column ∉ table.headD []) = [] := by
  simp only [HasColumns, List.filter_eq_nil_iff, decide_eq_true_eq, not_not]

theorem parseOnOrderCsv_of_hasColumns (h : HasColumns table) :
    parseOnOrderCsv table = .ok ((csvRows table).filterMap parseRow) := by
  unfold parseOnOrderCsv
  simp only [hasColumns_iff.mp h, ne_eq, not_true_eq_false, if_false, csvRows, List.filterMap_map,
    Function.comp_def]

theorem parseOnOrderCsv_of_not_hasColumns (h : ¬HasColumns table) :
    ∃ msg, parseOnOrderCsv table = .error ⟨.sourceError, msg⟩ := by
  unfold parseOnOrderCsv
  exact ⟨_, if_pos (mt hasColumns_iff.mpr h)⟩

-- The parser refuses exactly the tables without a required column, and reads each of the others
-- for what it says exactly if no category of blanks hides a product group in a row that counts.
theorem parseOnOrderCsv_exactly_iff :
    (((∃ e, parseOnOrderCsv table = .error e ∧ e.cls = .sourceError) ↔
        ∃ column ∈ requiredCsvColumns, column ∉ table.headD []) ∧
      ((∀ column ∈ requiredCsvColumns, column ∈ table.headD []) →
        parseOnOrderCsv table = .ok ((csvRows table).filterMap CsvRow.lineItem))) ↔
      ((∀ column ∈ requiredCsvColumns, column ∈ table.headD []) →
        ∀ row ∈ csvRows table, row.text "Inventory Id" ≠ "" → ¬row.HidesGroup) := by
  have hex : (∃ column ∈ requiredCsvColumns, column ∉ table.headD []) ↔ ¬HasColumns table := by
    simp only [HasColumns, not_forall, exists_prop]
  rw [hex]
  change (_ ∧ (HasColumns table → _)) ↔ (HasColumns table → _)
  by_cases h : HasColumns table
  case neg =>
    have ⟨msg, he⟩ := parseOnOrderCsv_of_not_hasColumns h
    exact iff_of_true ⟨iff_of_true ⟨_, he, rfl⟩ h, fun h' => absurd h' h⟩ fun h' => absurd h' h
  case pos =>
    rw [parseOnOrderCsv_of_hasColumns h, Except.ok.injEq,
      filterMap_eq_filterMap_iff fun _ => CsvRow.isSome_parseRow]
    simp only [CsvRow.parseRow_eq_iff]
    exact and_iff_right (iff_of_false (fun ⟨_, he, _⟩ => nomatch he) (not_not.mpr h))

-- The category is one blank.
theorem not_parseOnOrderCsv_exactly :
    let header := ["Inventory Id", "PO #", "Model", "Category", "Product Group"]
    ¬∀ rows : List (List String),
      parseOnOrderCsv (header :: rows) =
        .ok ((csvRows (header :: rows)).filterMap CsvRow.lineItem) := by
  intro header h
  have hr := h [["1", "P", "A", " ", "Ranges"]]
  revert hr
  decide +kernel

end ReceivingApp
