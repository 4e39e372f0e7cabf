import ReceivingApp.Theorems.Polling

open Interaction Except

namespace ReceivingApp

-- ### Well-formed pages

def Json.ofOption : Option String → Json
  | none   => null
  | some s => str s

-- The JSON value says what the item says. Where there are no column values, they may be missing.
structure Json.Encodes (v : Json) (item : ApiItem) : Prop where
  isDict : v.IsDict
  id     : v.field? "id" = some (.str item.id)
  name   : v.field? "name" = some (.str item.name)
  values : ∃ cvs, (v.field? "column_values").getD (.list []) = .list cvs ∧
    List.Forall₂ (fun cv column => cv.field? "id" = some (.str column.id) ∧
      cv.field? "text" = some (.ofOption column.text)) cvs item.columnValues

-- The cursor of a page that has none may be null or missing.
def Response.ShowsPage (page? : Json → Option Json) (r : Response) (page : Page) : Prop :=
  ∃ items, r.Shows page? items (.ofOption page.cursor) ∧ List.Forall₂ Json.Encodes items page.items

-- The pages that follow after a cursor: all but the last one name the next by one that is not
-- empty.
inductive Linked : Option String → List Page → Prop
  | last {cursor : Option String} : orEmpty cursor = "" → Linked cursor []
  | next {cursor : Option String} {page : Page} {pages : List Page} :
      orEmpty cursor ≠ "" → Linked page.cursor pages → Linked cursor (page :: pages)

-- The item as `poll_ready` returns it.
def ReadyItem.fields (item : ReadyItem) : List (String × Json) := [
  ("item_id",      .ofOption item.itemId),
  ("po_number",    .ofOption item.poNumber),
  ("inventory_id", .ofOption item.inventoryId),
  ("model",        .ofOption item.model),
  ("serial",       .ofOption item.serial)
]

-- The requests for the pages that the cursors name.
def nextRequests (cursors : List (Option String)) : List Request :=
  cursors.map fun cursor => BoardPolling.nextRequest (.ofOption cursor)

namespace BoardPolling

variable {fmt : Formats} {board : BoardApiAdapter} {cols : Columns}

theorem truthy_ofOption {o : Option String} : (Json.ofOption o).truthy ↔ orEmpty o ≠ "" := by
  cases o <;> simp [Json.ofOption, Json.truthy, orEmpty]

-- ### Items

theorem columnTexts_of_forall₂ {cvs : List Json} {columns : List ColumnText}
    (h : List.Forall₂ (fun cv column => cv.field? "id" = some (Json.str column.id) ∧
      cv.field? "text" = some (Json.ofOption column.text)) cvs columns) :
    columnTexts cvs =
      .ok (columns.map fun column => (.str column.id, .ofOption column.text)) := by
  rw [columnTexts, mapM_eq_ok_iff]
  induction h
  case nil => rfl
  case cons hcv _ ih =>
    have hid := Json.getItem_eq_ok_iff.mpr hcv.1
    have ht := Json.getItem_eq_ok_iff.mpr hcv.2
    rw [List.map_cons, ih, hid, ht]
    rfl

theorem textOf_map {columns : List ColumnText} {col : String} :
    textOf (columns.map fun column => (.str column.id, .ofOption column.text)) col =
      .ofOption (match columns.reverse.find? (·.id = col) with
        | some cv => cv.text
        | none    => some "") := by
  simp only [textOf, ← List.map_reverse, List.find?_map]
  have hp : (fun column : ColumnText => decide (column.id = col)) =
      (fun entry : Json × Json => entry.1.isStr col) ∘
        fun column : ColumnText => (Json.str column.id, Json.ofOption column.text) := by
    funext column
    simp [Json.isStr, eq_comm]
  rw [hp]
  cases columns.reverse.find? _ <;> rfl

-- The parser on JSON values is the one on items.
theorem parseItem_of_encodes {v : Json} {item : ApiItem} (h : v.Encodes item) :
    parseItem cols v = .ok (BoardApi.parseItem cols item).fields := by
  have ⟨cvs, hc, hcvs⟩ := h.values
  have hd : v.get "column_values" = .ok (v.field? "column_values") :=
    Json.get_eq_ok_iff.mpr ⟨h.isDict, rfl⟩
  have hid := Json.getItem_eq_ok_iff.mpr h.id
  have hn := Json.getItem_eq_ok_iff.mpr h.name
  have hm := columnTexts_of_forall₂ hcvs
  simp only [parseItem, bind_eq_ok]
  refine ⟨_, hd, cvs, by rw [hc]; rfl, _, hm, _, hid, _, hn, ?_⟩
  simp only [textOf_map]
  rfl

theorem mapM_parseItem {vs : List Json} {items : List ApiItem}
    (h : List.Forall₂ Json.Encodes vs items) :
    vs.mapM (parseItem cols) =
      .ok (items.map fun item => (BoardApi.parseItem cols item).fields) := by
  rw [mapM_eq_ok_iff]
  induction h
  case nil => rfl
  case cons hv _ ih => rw [List.map_cons, parseItem_of_encodes hv, ih]; rfl

-- ### Pages

-- Before each page, the items so far are those of the pages before it, and the cursor is that of
-- the last one.
theorem loop_pages {rs rest : List Response} {pages : List Page} {cursor : Option String}
    {vs : List Json} {items : List ApiItem} (hl : Linked cursor pages)
    (hrs : List.Forall₂ (Response.ShowsPage Json.nextPage?) rs pages)
    (hvs : List.Forall₂ Json.Encodes vs items) :
    loop fmt cols (rs ++ rest) vs (.ofOption cursor) =
      ⟨nextRequests (cursor :: pages.map (·.cursor)).dropLast,
        some (.ok ((items ++ pages.flatMap (·.items)).map fun item =>
          (BoardApi.parseItem cols item).fields))⟩ := by
  induction hl generalizing rs vs items
  case last hc =>
    cases hrs
    rw [loop_of_not_truthy (mt truthy_ofOption.mp (not_not.mpr hc)), mapM_parseItem hvs]
    simp [nextRequests]
  case next cursor page pages hc hl ih =>
    cases hrs
    case cons r rs hr hrs =>
      have ⟨more, hs, hmore⟩ := hr
      have hrel := List.rel_append hvs hmore
      rw [List.cons_append, loop_cons_of_ok (truthy_ofOption.mpr hc) (next_eq_ok_iff.mpr hs),
        ih hrs hrel]
      simp [Polled.after, nextRequests]

theorem pollReady_of_pages {r : Response} {rs rest : List Response} {page : Page}
    {pages : List Page} (hr : r.ShowsPage Json.firstPage? page)
    (hrs : List.Forall₂ (Response.ShowsPage Json.nextPage?) rs pages)
    (hl : Linked page.cursor pages) :
    pollReady fmt board (r :: rs ++ rest) =
      ⟨firstRequest board :: nextRequests ((page :: pages).map (·.cursor)).dropLast,
        some (.ok (((page :: pages).flatMap (·.items)).map fun item =>
          (BoardApi.parseItem board.columns item).fields))⟩ := by
  have ⟨items, hs, hi⟩ := hr
  rw [List.cons_append, pollReady_cons_of_ok (first_eq_ok_iff.mpr hs), loop_pages hl hrs hi]
  rfl

-- ### Failures

theorem loop_of_failure {rs rest : List Response} {r : Response} {items : List Json} {cursor : Json}
    {s : Reading} (h : Trace Reading.Step (.read items cursor) rs s) (hs : s.Awaits)
    (hr : ∀ s', ¬s.Step r s') :
    ∃ e, (loop fmt cols (rs ++ r :: rest) items cursor).result = some (.error e) ∧
      (r.Readable → e.cls = .boardError) := by
  generalize hs₀ : Reading.read items cursor = s₀ at h
  induction h generalizing items cursor
  case nil =>
    subst hs₀
    cases ha : post fmt r >>= readNext fmt
    case ok answer => exact absurd (.next hs (next_eq_ok_iff.mp ha)) (hr _)
    case error e =>
      refine ⟨e, ?_, fun hw => within_next_iff.mpr hw e ha⟩
      rw [List.nil_append, loop_cons_of_error hs ha]
  case cons hstep _ ih =>
    subst hs₀
    obtain ⟨more, ha, rfl⟩ := (Reading.step_read_iff hstep.awaits).mp hstep
    rw [List.cons_append, loop_cons_of_ok hstep.awaits ha]
    exact ih hs hr rfl

theorem pollReady_of_failure {rs rest : List Response} {r : Response} {s : Reading}
    (h : Trace Reading.Step .start rs s) (hs : s.Awaits) (hr : ∀ s', ¬s.Step r s') :
    ∃ e, (pollReady fmt board (rs ++ r :: rest)).result = some (.error e) ∧
      (r.Readable → e.cls = .boardError) := by
  rcases h with _ | ⟨hstep, h⟩
  case nil =>
    cases ha : post fmt r >>= readFirst fmt
    case ok answer => exact absurd (.first (first_eq_ok_iff.mp ha)) (hr _)
    case error e =>
      refine ⟨e, ?_, fun hw => within_first_iff.mpr hw e ha⟩
      rw [List.nil_append, pollReady_cons_of_error ha]
  case cons =>
    obtain ⟨first, ha, rfl⟩ := Reading.step_start_iff.mp hstep
    rw [List.cons_append, pollReady_cons_of_ok ha]
    exact loop_of_failure h hs hr

end BoardPolling

open BoardPolling

-- One request for each page of a chain, with the cursor of the page before it, yields the items of
-- all pages in order. A response that does not show the page it was asked for yields none.
theorem pollReady_paginates {fmt : Formats} {board : BoardApiAdapter} :
    (∀ {r : Response} {rs rest : List Response} {page : Page} {pages : List Page},
      r.ShowsPage Json.firstPage? page →
      List.Forall₂ (Response.ShowsPage Json.nextPage?) rs pages → Linked page.cursor pages →
      (pollReady fmt board (r :: rs ++ rest)).requests =
        firstRequest board :: nextRequests ((page :: pages).map (·.cursor)).dropLast ∧
      (pollReady fmt board (r :: rs ++ rest)).result =
        some (.ok (((page :: pages).flatMap (·.items)).map fun item =>
          (BoardApi.parseItem board.columns item).fields))) ∧
    ∀ {rs rest : List Response} {r : Response} {s : Reading},
      Trace Reading.Step .start rs s → s.Awaits → (∀ s', ¬s.Step r s') →
      ∃ e, (pollReady fmt board (rs ++ r :: rest)).result = some (.error e) ∧
        (r.Readable → e.cls = .boardError) := by
  refine ⟨fun hr hrs hl => ?_, pollReady_of_failure⟩
  rw [pollReady_of_pages hr hrs hl]
  exact ⟨rfl, rfl⟩

-- An answer to the second query.
def nextAnswer (items : Json) : Json :=
  .dict [("data", .dict [("next_items_page", .dict [("items", items)])])]

-- An item without column values on a first page that names a second one, which is empty.
theorem pollReady_paginates_sample :
    let first := firstAnswer (.list [.dict [("id", .str "1"), ("name", .str "P")]]) (.str "next")
    (pollReady .plain .sample [.json first, .json (nextAnswer (.list []))]).requests =
      [firstRequest .sample, nextRequest (.str "next")] ∧
    ∃ e, (pollReady .plain .sample [.json first, .failed "timeout"]).result = some (.error e) ∧
      e.cls = .boardError := by
  intro first
  have hitem : Json.Encodes (.dict [("id", .str "1"), ("name", .str "P")]) ⟨"1", "P", []⟩ :=
    ⟨trivial, rfl, rfl, [], rfl, .nil⟩
  have hfirst : (Response.json first).ShowsPage Json.firstPage? ⟨[⟨"1", "P", []⟩], some "next"⟩ :=
    ⟨_, ⟨_, _, rfl, rfl, rfl, _, rfl, rfl, rfl⟩, .cons hitem .nil⟩
  have hnext : (Response.json (nextAnswer (.list []))).ShowsPage Json.nextPage? ⟨[], none⟩ :=
    ⟨_, ⟨_, _, rfl, rfl, rfl, _, rfl, rfl, rfl⟩, .nil⟩
  constructor
  case left =>
    have hl : Linked (some "next") [⟨[], none⟩] := .next (by decide) (.last rfl)
    have h : (pollReady .plain .sample
        (.json first :: [.json (nextAnswer (.list []))] ++ [])).requests = _ :=
      (pollReady_paginates.1 hfirst (.cons hnext .nil) hl).1
    exact h
  case right =>
    have ⟨items, hs, _⟩ := hfirst
    have hfail s' : ¬Reading.Step (.read items (.str "next")) (.failed "timeout") s' := by
      rintro (_ | ⟨_, _, _, hr, _⟩)
      cases hr
    have h : ∃ e, (pollReady .plain .sample ([.json first] ++ .failed "timeout" :: [])).result =
        some (.error e) ∧ _ := pollReady_paginates.2 (.single (.first hs)) rfl hfail
    have ⟨e, he, hb⟩ := h
    exact ⟨e, he, hb trivial⟩

end ReceivingApp
