import ReceivingApp.Adapters.Scanner
import ReceivingApp.Theorems.PoLabels

open Interaction

namespace ReceivingApp

-- ### Lines

-- What is typed at the desk.
def DeskEvent.typed : DeskEvent → List Char
  | key c => [c]
  | enter => ['\n']
  | ui _  => []

def DeskEvent.uiEvent? : DeskEvent → Option UiEvent
  | ui e => some e
  | _    => none

-- The barcodes in a text: its lines but the one that is not ended, stripped, and without blank
-- ones.
def barcodes (text : List Char) : List String :=
  ((text.splitOn '\n').dropLast.map fun line => strip (String.ofList line)).filter (· ≠ "")

theorem barcodes_of_line {line : List Char} (h : '\n' ∉ line) : barcodes line = [] := by
  simp [barcodes, List.splitOn_eq_singleton h]

theorem barcodes_append_line {line : List Char} (h : '\n' ∉ line) (text : List Char) :
    barcodes (line ++ '\n' :: text) =
      [strip (String.ofList line)].filter (· ≠ "") ++ barcodes text := by
  rw [barcodes, List.splitOn_append_cons_self, List.splitOn_eq_singleton h, List.singleton_append,
    List.dropLast_cons_of_ne_nil (List.splitOn_ne_nil _ _), List.map_cons, ← List.singleton_append,
    List.filter_append]
  rfl

theorem barcodes_append_text {text : String} (h : '\n' ∉ text.toList) (rest : List Char) :
    barcodes (text.toList ++ '\n' :: rest) =
      if strip text = "" then barcodes rest else strip text :: barcodes rest := by
  rw [barcodes_append_line h, String.ofList_toList]
  split
  case isTrue hs  => simp [hs]
  case isFalse hs => simp [hs]

-- What is left of a text that is stripped ends in a character that is no space.
theorem isBlank_strip {s : String} (h : strip s ≠ "") : isBlank (strip s) = false := by
  have hne : (s.toList.dropWhile isSpace).reverse.dropWhile isSpace ≠ [] := by
    intro hnil
    exact h (by rw [strip, hnil]; rfl)
  have hlast := List.head_dropWhile_not isSpace hne
  rw [isBlank, List.all_eq_false]
  refine ⟨_, ?_, by rw [hlast]; exact Bool.false_ne_true⟩
  rw [strip, String.toList_ofList]
  exact List.mem_reverse.mpr (List.head_mem hne)

namespace ScanDesk

variable {py : PyStd} {isDigit : Char → Bool} {kind : ScannerKind} {d d' : ScanDesk}
  {es : List DeskEvent}

theorem deliver_eq (s : Scanner) : kind.deliver s = s.deliver := by
  cases kind
  case wedge | manual => rfl

theorem step_scan {ui : Ui} {barcode : String} (h : isBlank barcode = false) :
    Ui.Step py isDigit ui (.scan barcode) (ui.onScan barcode) :=
  ⟨h, rfl⟩

-- The events of the UI in a run at a desk whose entry holds the given line.
theorem scans_of_trace (h : Trace (Step py isDigit kind) d es d') (hon : d.scanner.onScan)
    (hline : '\n' ∉ d.scanner.text.toList) :
    ∃ us, Trace (Ui.Step py isDigit) d.ui us d'.ui ∧
      us.filterMap UiEvent.barcode? =
        barcodes (d.scanner.text.toList ++ es.flatMap DeskEvent.typed) ∧
      us.filter (·.barcode?.isNone) = es.filterMap DeskEvent.uiEvent? := by
  induction h
  case nil d => exact ⟨[], .nil _, by simpa using (barcodes_of_line hline).symm, rfl⟩
  case cons d d₁ d₂ e es hs _ ih =>
    cases e
    case key c =>
      obtain ⟨hc, rfl⟩ := hs
      have htext : (d.scanner.type c).text.toList = d.scanner.text.toList ++ [c] := by
        simp [Scanner.type]
      obtain ⟨us, hus, hscans, hrest⟩ := ih hon (by rw [htext]; simp [hline, Ne.symm hc])
      exact ⟨us, hus, by simpa [htext, DeskEvent.typed] using hscans, hrest⟩
    case ui e =>
      obtain ⟨he, hscanner, hstep⟩ := hs
      obtain ⟨us, hus, hscans, hrest⟩ := ih (hscanner ▸ hon) (hscanner ▸ hline)
      refine ⟨e :: us, .cons hstep hus, ?_, ?_⟩
      · simpa [he, hscanner, DeskEvent.typed] using hscans
      · simp [he, hrest, DeskEvent.uiEvent?]
    case enter =>
      obtain rfl := hs
      rw [deliver_eq] at ih
      obtain ⟨us, hus, hscans, hrest⟩ := ih hon List.not_mem_nil
      have hscans : us.filterMap UiEvent.barcode? = barcodes (es.flatMap DeskEvent.typed) := by
        simpa [Scanner.deliver] using hscans
      have hlines := barcodes_append_text hline (es.flatMap DeskEvent.typed)
      by_cases hs : strip d.scanner.text = ""
      case pos =>
        rw [if_pos hs, ← hscans] at hlines
        exact ⟨us, by simpa [Scanner.deliver, hs] using hus, hlines.symm, hrest⟩
      case neg =>
        rw [if_neg hs, ← hscans] at hlines
        have hdeliver : d.scanner.deliver.2 = some (strip d.scanner.text) := if_pos ⟨hs, hon⟩
        rw [hdeliver] at hus
        exact ⟨.scan (strip d.scanner.text) :: us,
          .cons (step_scan (isBlank_strip hs)) hus, hlines.symm, hrest⟩

-- Every run at the desk is one of the UI, in which the lines that are typed arrive as scans, in
-- order and none of them blank.
theorem keystrokes_scan (h : Trace (Step py isDigit kind) .init es d) :
    ∃ us, Trace (Ui.Step py isDigit) .init us d.ui ∧
      us.filterMap UiEvent.barcode? = barcodes (es.flatMap DeskEvent.typed) ∧
      us.filter (·.barcode?.isNone) = es.filterMap DeskEvent.uiEvent? :=
  scans_of_trace h rfl List.not_mem_nil

-- Two lines are typed, one of them blank, and then a line that is not ended.
theorem keystrokes_scan_sample :
    ∃ (d : ScanDesk) (us : List UiEvent),
      Trace (Step .ascii Char.isDigit .manual) .init
        [.key ' ', .key 'A', .ui .showManual, .enter, .key ' ', .enter, .key 'B'] d ∧
      Trace (Ui.Step .ascii Char.isDigit) .init us d.ui ∧ d.scanner.text = "B" ∧
      us.filterMap UiEvent.barcode? = ["A"] := by
  have hrun : Trace (Step .ascii Char.isDigit .manual) .init
      [.key ' ', .key 'A', .ui .showManual, .enter, .key ' ', .enter, .key 'B']
      ⟨⟨"B", true⟩, Ui.init.showManualEntry⟩ := by
    refine .cons ⟨by decide, rfl⟩ <| .cons ⟨by decide, rfl⟩ <| .cons ⟨rfl, rfl, trivial, rfl⟩ ?_
    exact .cons rfl <| .cons ⟨by decide, rfl⟩ <| .cons rfl <| .cons ⟨by decide, rfl⟩ <| .nil _
  have ⟨us, hus, hscans, _⟩ := keystrokes_scan hrun
  exact ⟨_, us, hrun, hus, rfl, hscans.trans (by decide +kernel)⟩

end ScanDesk
end ReceivingApp
