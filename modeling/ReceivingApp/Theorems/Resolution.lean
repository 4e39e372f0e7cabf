import ReceivingApp.Services.ModelResolution
import ReceivingApp.Theorems.Runs

open Interaction

namespace ReceivingApp

variable {py : PyStd}

-- ### Rows that match

-- The rows that a barcode matches are all spelled alike.
def SpelledAlike (py : PyStd) (barcode : String) (candidates : List PoRow) : Prop :=
  ∀ r₁ ∈ candidates, ∀ r₂ ∈ candidates, exactModelMatch py barcode r₁.modelNumber →
    exactModelMatch py barcode r₂.modelNumber → r₁.modelNumber = r₂.modelNumber

-- The first of the rows that a barcode matches, if there is one, has an inventory_id.
def FirstIdentified (py : PyStd) (barcode : String) (candidates : List PoRow) : Prop :=
  ∀ row, candidates.find? (fun c => exactModelMatch py barcode c.modelNumber) = some row →
    row.inventoryId ≠ none

section Candidates

variable {barcode m : String} {candidates : List PoRow} {row : PoRow}

theorem exactModelMatch_of_find?
    (h : candidates.find? (fun c => exactModelMatch py barcode c.modelNumber) = some row) :
    exactModelMatch py barcode row.modelNumber :=
  List.find?_some (p := fun c : PoRow => exactModelMatch py barcode c.modelNumber) h

theorem exists_find?_of_match (hr : row ∈ candidates)
    (hm : exactModelMatch py barcode row.modelNumber) :
    ∃ row', candidates.find? (fun c => exactModelMatch py barcode c.modelNumber) = some row' :=
  Option.isSome_iff_exists.mp (List.find?_isSome.mpr ⟨row, hr, hm⟩)

theorem find?_congr {p q : PoRow → Bool} (h : ∀ r ∈ candidates, p r ↔ q r) :
    candidates.find? p = candidates.find? q := by
  rw [← List.head?_filter, ← List.head?_filter]
  exact congrArg _ (List.filter_congr fun r hr => Bool.eq_iff_iff.mpr (h r hr))

-- A barcode that matches one spelling only is resolved to the first row it matches.
theorem resolveRow_eq_some_iff_alike :
    resolveRow py barcode candidates = some row ↔
      SpelledAlike py barcode candidates ∧
        candidates.find? (fun c => exactModelMatch py barcode c.modelNumber) = some row := by
  rw [resolveRow_eq_some_iff, bestModel_eq_some_iff]
  constructor
  case mp =>
    intro ⟨⟨_, hm, hu⟩, hf⟩
    have ha : SpelledAlike py barcode candidates := fun r₁ hr₁ r₂ hr₂ h₁ h₂ =>
      (hu r₁ hr₁ h₁).trans (hu r₂ hr₂ h₂).symm
    refine ⟨ha, (find?_congr fun r hr => ?_).trans hf⟩
    rw [decide_eq_true_iff]
    exact ⟨hu r hr, fun he => he ▸ hm⟩
  case mpr =>
    intro ⟨ha, hf⟩
    have hr := List.mem_of_find?_eq_some hf
    have hm := exactModelMatch_of_find? hf
    have hu : ∀ r ∈ candidates, exactModelMatch py barcode r.modelNumber →
        r.modelNumber = row.modelNumber := fun r hr' hm' => ha r hr' row hr hm' hm
    refine ⟨⟨⟨row, hr, rfl⟩, hm, hu⟩, (find?_congr fun r hr' => ?_).trans hf⟩
    rw [decide_eq_true_iff]
    exact ⟨fun he => he ▸ hm, hu r hr'⟩

end Candidates

-- ### The claim path

namespace Scan

variable {s : Scan py} {w w' : World} {r : ReceivingRecord}

-- A scan is answered with received.
def IsReceived (s : Scan py) (w : World) : Prop :=
  ∃ r w', s.program.run World.handle w = (.ok r, w') ∧ r.matchStatus = .received

-- It is received for a unit of the scanned purchase order that is listed under the model.
def ReceivesModel (s : Scan py) (m : String) (w : World) : Prop :=
  ∃ r w', s.program.run World.handle w = (.ok r, w') ∧ r.matchStatus = .received ∧
    ∃ row ∈ w.db.poInventory.rows, row.inventoryId = some r.inventoryId ∧
      row.purchaseOrder = s.poNumber ∧ row.modelNumber = m

theorem run_eq_ok_iff : s.program.run World.handle w = (.ok r, w') ↔ s.Completes w w' r := by
  rw [← returns_iff, World.env, Program.returns_iff_run s.propagates]

theorem isReceived_iff_target :
    s.IsReceived w ↔ ∃ row, s.target w.db = some row ∧ row.inventoryId ≠ none := by
  constructor
  case mp =>
    intro ⟨r, w', hr, hm⟩
    cases run_eq_ok_iff.mp hr
    case alreadyScanned => cases hm
    case saved hs =>
      cases hs
      case claim ht hid => exact ⟨_, ht, by simp [hid]⟩
      case miss         => cases hm
  case mpr =>
    intro ⟨row, ht, hid⟩
    have ⟨id, hid⟩ := Option.ne_none_iff_exists'.mp hid
    exact ⟨_, _, run_eq_ok_iff.mpr (.saved (.claim ht hid)), rfl⟩

-- What a scan receives is listed under the model of the row it resolves to.
theorem receivesModel_iff_target {m : String} :
    s.ReceivesModel m w ↔
      ∃ row, s.target w.db = some row ∧ row.inventoryId ≠ none ∧ row.modelNumber = m := by
  constructor
  case mp =>
    intro ⟨r, w', hr, hm, row, hrow, hid, _, hmodel⟩
    cases run_eq_ok_iff.mp hr
    case alreadyScanned => cases hm
    case saved hs =>
      cases hs
      case miss => cases hm
      case claim row' id ht hid' =>
        have hrow' := (Db.mem_unclaimedForPo.mp (mem_of_resolveRow ht)).1
        have he : row = row' := Relational.Table.eq_of_key_eq hrow hrow' hid hid'
        exact ⟨row', ht, by simp [hid'], he ▸ hmodel⟩
  case mpr =>
    intro ⟨row, ht, hid, hm⟩
    have ⟨id, hid⟩ := Option.ne_none_iff_exists'.mp hid
    have ⟨hrow, hpo, _⟩ := Db.mem_unclaimedForPo.mp (mem_of_resolveRow ht)
    exact ⟨_, _, run_eq_ok_iff.mpr (.saved (.claim ht hid)), rfl, row, hrow, hid, hpo, hm⟩

theorem isReceived_iff :
    s.IsReceived w ↔
      (∃ row ∈ w.db.unclaimedForPo s.poNumber, exactModelMatch py s.barcode row.modelNumber) ∧
      SpelledAlike py s.barcode (w.db.unclaimedForPo s.poNumber) ∧
      FirstIdentified py s.barcode (w.db.unclaimedForPo s.poNumber) := by
  simp only [isReceived_iff_target, target, resolveRow_eq_some_iff_alike]
  constructor
  case mp =>
    intro ⟨row, ⟨ha, hf⟩, hid⟩
    refine ⟨⟨row, List.mem_of_find?_eq_some hf, exactModelMatch_of_find? hf⟩, ha, fun row' hf' => ?_⟩
    cases hf.symm.trans hf'
    exact hid
  case mpr =>
    intro ⟨⟨row, hr, hm⟩, ha, hf⟩
    have ⟨row', hf'⟩ := exists_find?_of_match hr hm
    exact ⟨row', ⟨ha, hf'⟩, hf row' hf'⟩

end Scan

-- ### The typed path

theorem run_checkModelOnPo {model po : String} {w : World} :
    (checkModelOnPo py model po).run World.handle w =
      (.ok ((w.db.unclaimedForPo po).any (fun c => exactModelMatch py model c.modelNumber)), w) :=
  rfl

-- The check of a typed model says what the scan of it will be answered with.
def Scan.ChecksOut (s : Scan py) (w : World) : Prop :=
  (checkModelOnPo py s.barcode s.poNumber).run World.handle w = (.ok true, w) ↔ s.IsReceived w

-- It does exactly where nothing matches, or a single spelling whose first row has an inventory_id.
theorem Scan.checksOut_iff {s : Scan py} {w : World} :
    s.ChecksOut w ↔
      SpelledAlike py s.barcode (w.db.unclaimedForPo s.poNumber) ∧
      FirstIdentified py s.barcode (w.db.unclaimedForPo s.poNumber) := by
  have hc : (checkModelOnPo py s.barcode s.poNumber).run World.handle w = (.ok true, w) ↔
      ∃ row ∈ w.db.unclaimedForPo s.poNumber, exactModelMatch py s.barcode row.modelNumber := by
    rw [run_checkModelOnPo]
    simp
  rw [Scan.ChecksOut, hc, Scan.isReceived_iff]
  constructor
  case mpr => exact fun h => ⟨fun hm => ⟨hm, h⟩, And.left⟩
  case mp =>
    intro h
    by_cases hm : ∃ row ∈ w.db.unclaimedForPo s.poNumber,
        exactModelMatch py s.barcode row.modelNumber
    case pos => exact (h.mp hm).2
    case neg =>
      constructor
      · exact fun r₁ hr₁ _ _ h₁ _ => absurd ⟨r₁, hr₁, h₁⟩ hm
      · exact fun row hf => absurd ⟨row, List.mem_of_find?_eq_some hf, exactModelMatch_of_find? hf⟩ hm

-- A purchase order with two spellings of one model.
def twoSpellings : World := .loaded [.unit "1" "P" "AB1", .unit "2" "P" "AB-1"]

def typedScan : Scan .ascii := ⟨"AB1", "P", "S1", 0, .sample⟩

-- Typed as AB1, the model is on the purchase order, but it is not received.
theorem not_checksOut : ¬∀ (s : Scan .ascii) (w : World), s.ChecksOut w := by
  intro h
  have ⟨r, w', hr, hm⟩ := (h typedScan twoSpellings).mp rfl
  have hn : typedScan.answer twoSpellings = some .noMatch := by decide +kernel
  simp [Scan.answer, Scan.returned, hr, hm] at hn

-- ### The scanned path

-- What the resolver makes of a raw barcode without a learned mapping.
def verdictOn (py : PyStd) (db : Db) (po raw : String) : ModelScanResult :=
  resolveScan py raw (fromkeys ((db.unclaimedForPo po).map (·.modelNumber))) none

theorem run_resolveModelBarcode {raw po : String} {w : World}
    (hl : w.db.lookupBarcodeMapping raw = none) :
    (resolveModelBarcode py raw po).run World.handle w = (.ok (verdictOn py w.db po raw), w) := by
  rw [verdictOn, ← hl]
  rfl

theorem mem_of_resolveModel {raw m : String} {models : List String}
    (h : (resolveModel py raw models).model = some m) : m ∈ models := by
  simp only [resolveModel] at h
  split at h
  case h_1 hf => cases h; exact (List.mem_filter.mp (hf ▸ List.mem_singleton_self m)).1
  case h_2    => cases h
  case h_3 =>
    split at h
    case h_1 hf => cases h; exact (List.mem_filter.mp (hf ▸ List.mem_singleton_self m)).1
    case h_2    => cases h

-- Whatever the resolver offers is a model of the list.
theorem mem_of_resolveScan {raw m : String} {models : List String}
    (h : (resolveScan py raw models none).model = some m) : m ∈ models := by
  simp only [resolveScan] at h
  split at h
  case h_1 he =>
    cases h
    have hf := resolveExact_eq_some_iff.mp he
    exact (List.mem_filter.mp (hf ▸ List.mem_singleton_self m)).1
  case h_2 =>
    split at h
    case h_1 | h_2 => exact mem_of_resolveModel h
    case h_3       => cases h

-- The model has a key, no other open unit of that key is spelled in another way, and the first of
-- the units has an inventory_id.
structure Claimable (py : PyStd) (m : String) (candidates : List PoRow) : Prop where
  keyed      : normalizeKey py m ≠ ""
  spelled    : ∀ row ∈ candidates, normalizeKey py row.modelNumber = normalizeKey py m →
    row.modelNumber = m
  identified : FirstIdentified py m candidates

theorem Claimable.alike {m : String} {candidates : List PoRow} (h : Claimable py m candidates) :
    SpelledAlike py m candidates := by
  intro r₁ hr₁ r₂ hr₂ h₁ h₂
  have he₁ := h.spelled r₁ hr₁ (exactModelMatch_iff.mp h₁).2.symm
  have he₂ := h.spelled r₂ hr₂ (exactModelMatch_iff.mp h₂).2.symm
  exact he₁.trans he₂.symm

-- A model that the resolver offers is received, for a unit of that model, exactly if it is
-- claimable.
theorem Scan.receivesModel_iff {s : Scan py} {w : World} {raw : String} {v : ScanVerdict}
    (hl : w.db.lookupBarcodeMapping raw = none)
    (hv : (resolveModelBarcode py raw s.poNumber).run World.handle w =
      (.ok ⟨v, some s.barcode⟩, w)) :
    s.ReceivesModel s.barcode w ↔ Claimable py s.barcode (w.db.unclaimedForPo s.poNumber) := by
  rw [receivesModel_iff_target]
  constructor
  case mp =>
    intro ⟨row, ht, hid, hm⟩
    have ⟨ha, hf⟩ := resolveRow_eq_some_iff_alike.mp ht
    have hr := List.mem_of_find?_eq_some hf
    have hk := exactModelMatch_iff.mp (exactModelMatch_of_find? hf)
    refine ⟨hk.1, fun row' hr' hk' => ?_, fun row' hf' => ?_⟩
    · have hm' := exactModelMatch_iff.mpr ⟨hk.1, hk'.symm⟩
      exact (ha row' hr' row hr hm' (exactModelMatch_of_find? hf)).trans hm
    · cases hf.symm.trans hf'
      exact hid
  case mpr =>
    intro h
    have hmodel : (verdictOn py w.db s.poNumber raw).model = some s.barcode := by
      rw [run_resolveModelBarcode hl] at hv
      simp [(Except.ok.inj (Prod.mk.inj hv).1)]
    -- The offered model is that of an open unit, which the scan of it matches.
    have ⟨row, hr, hm⟩ := List.mem_map.mp (mem_fromkeys.mp (mem_of_resolveScan hmodel))
    have hself : exactModelMatch py s.barcode row.modelNumber :=
      exactModelMatch_iff.mpr ⟨h.keyed, by rw [hm]⟩
    have ⟨row', hf⟩ := exists_find?_of_match hr hself
    have hk := exactModelMatch_iff.mp (exactModelMatch_of_find? hf)
    exact ⟨row', resolveRow_eq_some_iff_alike.mpr ⟨h.alike, hf⟩, h.identified row' hf,
      h.spelled row' (List.mem_of_find?_eq_some hf) hk.2.symm⟩

theorem run_resolveModelBarcode_loaded {items : List LineItem} {raw po m : String}
    (v : ScanVerdict) (hl : (World.loaded items).db.lookupBarcodeMapping raw = none)
    (hv : verdictOn .ascii (World.loaded items).db po raw = ⟨v, some m⟩) :
    (resolveModelBarcode .ascii raw po).run World.handle (.loaded items) =
      (.ok ⟨v, some m⟩, .loaded items) := by
  rw [run_resolveModelBarcode hl, hv]

-- The only unit is offered for a barcode that its model runs through, and received.
theorem receivesModel_sample : typedScan.ReceivesModel "AB1" (.loaded [.unit "1" "P" "AB1"]) := by
  have hl : (World.loaded [.unit "1" "P" "AB1"]).db.lookupBarcodeMapping "XAB1Y" = none := rfl
  have hv := run_resolveModelBarcode_loaded .propose hl
    (show verdictOn .ascii _ "P" "XAB1Y" = ⟨.propose, some "AB1"⟩ by decide +kernel)
  refine (Scan.receivesModel_iff hl hv).mpr ⟨by decide +kernel, by decide +kernel, ?_⟩
  intro row hf
  have hr : row ∈ _ := List.mem_of_find?_eq_some hf
  revert hr
  revert row
  decide +kernel

-- Offered for a barcode that only this spelling runs through, the model is not received.
theorem not_receivesModel :
    ¬∀ (s : Scan .ascii) (w : World) (raw : String) (v : ScanVerdict),
      w.db.lookupBarcodeMapping raw = none →
      (resolveModelBarcode .ascii raw s.poNumber).run World.handle w =
        (.ok ⟨v, some s.barcode⟩, w) →
      s.ReceivesModel s.barcode w := by
  intro h
  have hl : twoSpellings.db.lookupBarcodeMapping "XAB1Y" = none := rfl
  have hv := run_resolveModelBarcode_loaded .propose hl
    (show verdictOn .ascii _ "P" "XAB1Y" = ⟨.propose, some "AB1"⟩ by decide +kernel)
  have ⟨r, w', hr, hm, _⟩ := h typedScan twoSpellings "XAB1Y" .propose hl hv
  have hn : typedScan.answer twoSpellings = some .noMatch := by decide +kernel
  simp [Scan.answer, Scan.returned, hr, hm] at hn

end ReceivingApp
