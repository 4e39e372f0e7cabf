import ReceivingApp.Theorems.Runs

open Interaction

namespace ReceivingApp

variable {py : PyStd} {w w' : World} {tr : List (Scan py × ReceivingRecord)}

-- A completed scan of a unit that is not in the catalog.
def Discrepancy (t : Scan py × ReceivingRecord) : Prop :=
  t.2.matchStatus = .noMatch ∧ t.1.serial ≠ ""

namespace Scan

variable {s : Scan py} {r : ReceivingRecord} {board : List CreatedItem}

-- There is an item for the scanned unit on the board.
def Surfaced (s : Scan py) (board : List CreatedItem) : Prop :=
  ∃ item ∈ board, item.itemName = s.poNumber ∧ item.model = s.barcode ∧ item.serial = s.serial

instance (s : Scan py) (board : List CreatedItem) : Decidable (s.Surfaced board) :=
  inferInstanceAs (Decidable (∃ _ ∈ _, _))

-- Nothing keeps the scan from posting an item, unless there is one already.
def Unsuppressed (s : Scan py) (w : World) : Prop :=
  (w.db.wasEmitted s.noMatch.receivingId = false ∧ s.noMatch.receivingId ∉ w.seen s.sink) ∨
    s.Surfaced w.board

theorem Surfaced.append {items : List CreatedItem} (h : s.Surfaced board) :
    s.Surfaced (board ++ items) := by
  have ⟨item, hi, h⟩ := h
  exact ⟨item, List.mem_append_left _ hi, h⟩

theorem board_emit {sink : SinkId} :
    (w.emit sink r).board =
      if r.receivingId ∈ w.seen sink then w.board else w.board ++ [emittedItem r] := by
  simp only [World.emit, World.post]
  split <;> rfl

theorem board_settle :
    (s.settle r w).board =
      if w.db.wasEmitted r.receivingId then w.board else (w.emit s.sink r).board := by
  rw [settle]
  split <;> rfl

-- Items stay on the board.
theorem Completes.board_append (h : Completes s w w' r) : ∃ items, w'.board = w.board ++ items := by
  cases h
  case alreadyScanned => exact ⟨[], by simp⟩
  case saved =>
    rw [board_settle]
    split
    · exact ⟨[], by simp⟩
    · rw [board_emit]
      split
      · exact ⟨[], by simp⟩
      · exact ⟨_, rfl⟩

theorem surfaced_noMatch : s.Surfaced (board ++ [emittedItem s.noMatch]) :=
  ⟨emittedItem s.noMatch, by simp, rfl, rfl, rfl⟩

theorem Completes.surfaced_iff (h : Completes s w w' r) (hr : r.matchStatus = .noMatch) :
    s.Surfaced w'.board ↔ s.Unsuppressed w := by
  cases h
  case alreadyScanned => cases hr
  case saved hs =>
    cases hs
    case claim => cases hr
    case miss =>
      have he : (s.missed w.db).wasEmitted s.noMatch.receivingId =
          w.db.wasEmitted s.noMatch.receivingId := Db.wasEmitted_saveRecord
      rw [board_settle, he, Unsuppressed]
      cases hw : w.db.wasEmitted s.noMatch.receivingId
      case true => simp
      case false =>
        rw [if_neg Bool.false_ne_true, board_emit]
        by_cases hs : s.noMatch.receivingId ∈ w.seen s.sink
        case pos => simp [hs]
        case neg => simp [hs, surfaced_noMatch]

end Scan

-- ### Runs

theorem Scans.board_append (h : Scans py w tr w') : ∃ items, w'.board = w.board ++ items := by
  refine Trace.invariant (I := fun w' => ∃ items, w'.board = w.board ++ items)
    (fun hs ⟨items, hi⟩ => ?_) h ⟨[], by simp⟩
  have ⟨items', hi'⟩ := (Scan.returns_iff.mp hs).board_append
  exact ⟨items ++ items', by rw [hi', hi, List.append_assoc]⟩

-- A run in which no discrepancy is suppressed.
abbrev Unsuppressed (py : PyStd) : World → List (Scan py × ReceivingRecord) → World → Prop :=
  Trace fun w t w' => Program.Returns World.env w t.1.program w' t.2 ∧
    (Discrepancy t → t.1.Unsuppressed w)

-- All discrepancies so far are on the board.
def AllSurfaced (tr : List (Scan py × ReceivingRecord)) (w : World) : Prop :=
  ∀ t ∈ tr, Discrepancy t → t.1.Surfaced w.board

theorem Unsuppressed.allSurfaced (h : Unsuppressed py w tr w') : AllSurfaced tr w' := by
  induction h
  case nil => exact fun _ ht => absurd ht List.not_mem_nil
  case cons w w₁ w' t tr hs h ih =>
    refine List.forall_mem_cons.mpr ⟨fun hd => ?_, ih⟩
    have hs₁ := ((Scan.returns_iff.mp hs.1).surfaced_iff hd.1).mpr (hs.2 hd)
    have ⟨items, hi⟩ := Scans.board_append (Trace.mono And.left h)
    exact hi ▸ hs₁.append

theorem Scans.unsuppressed (h : Scans py w tr w')
    (ha : ∀ tr₁ tr₂ w₁, tr = tr₁ ++ tr₂ → Scans py w tr₁ w₁ → AllSurfaced tr₁ w₁) :
    Unsuppressed py w tr w' := by
  induction h
  case nil => exact .nil _
  case cons w w₁ w' t tr hs _ ih =>
    refine .cons ⟨hs, fun hd => ?_⟩ (ih fun tr₁ tr₂ w₂ he h₁ => ?_)
    · have hsurf := ha [t] tr w₁ rfl (.single hs) t (.head _) hd
      exact ((Scan.returns_iff.mp hs).surfaced_iff hd.1).mp hsurf
    · have h₂ := ha (t :: tr₁) tr₂ w₂ (by rw [he]; rfl) (.cons hs h₁)
      exact fun t' ht' => h₂ t' (.tail _ ht')

-- A run shows all its discrepancies all the time exactly if it never suppresses one.
theorem unsuppressed_iff (h : Scans py w tr w') :
    (∀ tr₁ tr₂ w₁, tr = tr₁ ++ tr₂ → Scans py w tr₁ w₁ → AllSurfaced tr₁ w₁) ↔
      Unsuppressed py w tr w' := by
  constructor
  case mp => exact h.unsuppressed
  case mpr =>
    rintro hu tr₁ tr₂ w₁ rfl h₁
    have ⟨w₂, hu₁, _⟩ := Trace.append_iff.mp hu
    rw [h₁.unique (Trace.mono And.left hu₁)]
    exact Unsuppressed.allSurfaced hu₁

-- Two units of a purchase order that is not in the catalog.
def overCount (barcode serial : String) : Scan .ascii := ⟨barcode, "P", serial, 0, .sample⟩

theorem returns_overCount (w : World) (barcode serial : String)
    (h : (overCount barcode serial).answer w = some .noMatch) :
    ∃ r, Program.Returns World.env w (overCount barcode serial).program
      ((overCount barcode serial).after w) r ∧ r.matchStatus = .noMatch := by
  have ⟨r, hr, hm⟩ := Scan.completes_of_answer h
  exact ⟨r, Scan.returns_iff.mpr hr, hm⟩

-- Two barcodes give two items.
theorem unsuppressed_overCount :
    ∃ r r' w', Scans .ascii .init [(overCount "A" "S1", r), (overCount "B" "S2", r')] w' ∧
      ∀ tr₁ tr₂ w₁, [(overCount "A" "S1", r), (overCount "B" "S2", r')] = tr₁ ++ tr₂ →
        Scans .ascii .init tr₁ w₁ → AllSurfaced tr₁ w₁ := by
  have ⟨r, h₁, _⟩ := returns_overCount .init "A" "S1" (by decide +kernel)
  have ⟨r', h₂, _⟩ := returns_overCount ((overCount "A" "S1").after .init) "B" "S2"
    (by decide +kernel)
  have h : Scans .ascii .init [(overCount "A" "S1", r), (overCount "B" "S2", r')] _ :=
    .cons h₁ (.cons h₂ (.nil _))
  refine ⟨r, r', _, h, (unsuppressed_iff h).mpr ?_⟩
  have hu₁ : (overCount "A" "S1").Unsuppressed .init := .inl (by decide +kernel)
  have hu₂ : (overCount "B" "S2").Unsuppressed ((overCount "A" "S1").after .init) :=
    .inl (by decide +kernel)
  exact .cons ⟨h₁, fun _ => hu₁⟩ (.cons ⟨h₂, fun _ => hu₂⟩ (.nil _))

-- The second unit of one barcode gives none.
theorem not_allSurfaced :
    ¬∀ (w w' : World) (tr : List (Scan .ascii × ReceivingRecord)),
      Scans .ascii w tr w' → AllSurfaced tr w' := by
  intro ha
  have ⟨r, h₁, _⟩ := returns_overCount .init "A" "S1" (by decide +kernel)
  have ⟨r', h₂, hm⟩ := returns_overCount ((overCount "A" "S1").after .init) "A" "S2"
    (by decide +kernel)
  have h : Scans .ascii .init [(overCount "A" "S1", r), (overCount "A" "S2", r')] _ :=
    .cons h₁ (.cons h₂ (.nil _))
  have hd : Discrepancy (overCount "A" "S2", r') := ⟨hm, by simp [overCount]⟩
  have hs : (overCount "A" "S2").Surfaced _ := ha _ _ _ h _ (.tail _ (.head _)) hd
  exact absurd hs (by decide +kernel)

end ReceivingApp
