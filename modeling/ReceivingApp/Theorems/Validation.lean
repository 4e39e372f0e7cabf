import Mathlib.Algebra.Order.Ring.Unbundled.Rat
import ReceivingApp.Core.Schema

namespace ReceivingApp

variable {py : PyStd} {data : Dict}

-- ### The contract of a record

-- The numbers that are at least zero.
def PyVal.IsNonneg : PyVal → Prop
  | .int n          => 0 ≤ n
  | .float (.fin q) => 0 ≤ q
  | .float .inf     => True
  | _               => False

-- What the fields of a record have to be, where `validTime` says which timestamps are valid.
structure Contract (validTime : String → Prop) (data : Dict) : Prop where
  strings    : ∀ f ∈ strFields, ∃ s, data.get? f = some (.str s)
  identified : ∀ s, data.get? "receiving_id" = some (.str s) → isBlank s = false
  status     : ∀ s, data.get? "match_status" = some (.str s) →
    s ∈ ["received", "no_match", "needs_attention", "already_scanned"]
  timestamp  : ∀ s, data.get? "timestamp" = some (.str s) → validTime s
  optional   : ∀ f ∈ optionalStrFields,
    data.get? f = none ∨ data.get? f = some .none ∨ ∃ s, data.get? f = some (.str s)
  quantity   : ∃ n : Int, data.get? "quantity" = some (.int n) ∧ 1 ≤ n
  size       : ∃ ps : Dict, data.get? "product_size" = some (.dict ps) ∧
    ∀ dim ∈ dims, ∃ x, ps.get? dim = some x ∧ x.IsNonneg

-- No dimension is a nan.
def NoNan (data : Dict) : Prop :=
  ∀ ps : Dict, data.get? "product_size" = some (.dict ps) →
    ∀ dim ∈ dims, ps.get? dim ≠ some (.float .nan)

-- The timestamps that `validate_record` lets through.
def BlankOrIso (py : PyStd) (ts : String) : Prop :=
  isBlank ts ∨ py.isIsoFormat ts

theorem MatchStatus.ofValue?_ne_none_iff {s : String} :
    ofValue? s ≠ none ↔ s ∈ ["received", "no_match", "needs_attention", "already_scanned"] := by
  rw [Ne, ofValue?, List.find?_eq_none]
  simp only [List.mem_cons, List.not_mem_nil, or_false, forall_eq_or_imp, forall_eq,
    decide_eq_true_eq, value, eq_comm (b := s)]
  grind

-- A nan passes for a number that is not negative.
theorem dimOk_iff {v : Option PyVal} (hn : v ≠ some (.float .nan)) :
    dimOk v ↔ ∃ x, v = some x ∧ x.IsNonneg := by
  rcases v with _ | x
  case none => simp [dimOk]
  case some =>
    cases x
    case int   => simp [dimOk, PyVal.IsNonneg]
    case float x =>
      cases x
      case fin q        => simp [dimOk, PyVal.IsNonneg, PyFloat.isNeg]
      case inf | negInf => simp [dimOk, PyVal.IsNonneg, PyFloat.isNeg]
      case nan          => exact absurd rfl hn
    all_goals simp [dimOk, PyVal.IsNonneg]

theorem strFields_iff :
    (∀ f ∈ strFields, strFieldProblems data f = []) ↔
      (∀ f ∈ strFields, ∃ s, data.get? f = some (.str s)) ∧
      (∀ s, data.get? "receiving_id" = some (.str s) → isBlank s = false) ∧
      (∀ s, data.get? "match_status" = some (.str s) → MatchStatus.ofValue? s ≠ none) := by
  constructor
  case mp =>
    intro h
    refine ⟨fun f hf => ?_, fun s hs => ?_, fun s hs => ?_⟩
    · obtain ⟨s, hs, _⟩ := strFieldProblems_eq_nil_iff.mp (h f hf)
      exact ⟨s, hs⟩
    · obtain ⟨s', hs', hb, _⟩ := strFieldProblems_eq_nil_iff.mp (h "receiving_id" (by decide))
      cases hs.symm.trans hs'
      exact hb rfl
    · obtain ⟨s', hs', _, hm⟩ := strFieldProblems_eq_nil_iff.mp (h "match_status" (by decide))
      cases hs.symm.trans hs'
      exact hm rfl
  case mpr =>
    rintro ⟨hs, hb, hm⟩ f hf
    obtain ⟨s, hs⟩ := hs f hf
    refine strFieldProblems_eq_nil_iff.mpr ⟨s, hs, fun he => hb s (he ▸ hs), ?_⟩
    exact fun he => hm s (he ▸ hs)

-- Without a nan the validator accepts exactly the contract, with blank timestamps.
theorem validateRecord_eq_nil_iff_contract (hn : NoNan data) :
    validateRecord py data = [] ↔ Contract (BlankOrIso py) data := by
  have hsize : productSizeProblems py data = [] ↔
      ∃ ps : Dict, data.get? "product_size" = some (.dict ps) ∧
        ∀ dim ∈ dims, ∃ x, ps.get? dim = some x ∧ x.IsNonneg := by
    rw [productSizeProblems_eq_nil_iff]
    refine exists_congr fun ps => and_congr_right fun hps => ?_
    rw [sizeOk, List.all_eq_true]
    exact forall₂_congr fun dim hd => dimOk_iff (hn ps hps dim hd)
  rw [validateRecord_eq_nil_iff, strFields_iff, hsize]
  simp only [MatchStatus.ofValue?_ne_none_iff, optionalStrFieldProblems_eq_nil_iff,
    timestampProblems_eq_nil_iff, quantityProblems_eq_nil_iff]
  constructor
  · rintro ⟨⟨h₁, h₂, h₃⟩, h₄, h₅, h₆, h₇⟩
    exact ⟨h₁, h₂, h₃, h₅, h₄, h₆, h₇⟩
  · intro h
    exact ⟨⟨h.strings, h.identified, h.status⟩, h.optional, h.timestamp, h.quantity, h.size⟩

-- ### Out of bounds

theorem formats_of_validateRecord (h : validateRecord py data = []) : formats data := by
  have ⟨_, _, _, hq, hp⟩ := validateRecord_eq_nil_iff.mp h
  have ⟨n, hg, hn⟩ := quantityProblems_eq_nil_iff.mp hq
  have ⟨ps, hps, hd⟩ := productSizeProblems_eq_nil_iff.mp hp
  have hdims : dims.all (dimFormats ps) := by
    refine List.all_eq_true.mpr fun dim hdim => ?_
    have ho : dimOk (Dict.get? ps dim) := List.all_eq_true.mp hd dim hdim
    rw [dimFormats]
    split
    case h_1 hg => simp_all [dimOk]
    case h_2    => rfl
  simp [formats, quantityFormats, hg, hn, productSizeFormats, hps, hdims]

theorem formats_migrate : formats (migrate data) = formats data := by
  have hq : (migrate data).get? "quantity" = data.get? "quantity" := get?_migrate (by decide)
  have hp : (migrate data).get? "product_size" = data.get? "product_size" :=
    get?_migrate (by decide)
  unfold formats quantityFormats productSizeFormats
  rw [hq, hp]

theorem runValidateRecord_eq_nil_iff :
    runValidateRecord py data = .ok [] ↔ validateRecord py data = [] := by
  rw [runValidateRecord]
  constructor
  case mp =>
    intro h
    split at h
    case isTrue  => exact Except.ok.inj h
    case isFalse => cases h
  case mpr => exact fun h => by rw [if_pos (formats_of_validateRecord h), h]

theorem runFromDict_eq :
    runFromDict py data = if formats data then fromDict py data else .error tooManyDigits := by
  rw [runFromDict, runValidateRecord, formats_migrate]
  generalize fromDict py data = r
  split <;> rfl

theorem fromDict_error (h : validateRecord py (migrate data) ≠ []) :
    ∃ msg, fromDict py data = .error ⟨.validationError, msg⟩ := by
  unfold fromDict
  exact ⟨_, dif_neg h⟩

theorem validateRecord_of_fromDict {r : ReceivingRecord} (h : fromDict py data = .ok r) :
    validateRecord py (migrate data) = [] := by
  refine Decidable.of_not_not fun hv => ?_
  have ⟨msg, he⟩ := fromDict_error hv
  cases h.symm.trans he

theorem cls_of_fromDict {e : PyExc} (h : fromDict py data = .error e) :
    e.cls = .validationError := by
  by_cases hv : validateRecord py (migrate data) = []
  case neg =>
    have ⟨msg, he⟩ := fromDict_error hv
    cases h.symm.trans he
    rfl
  case pos =>
    unfold fromDict at h
    rw [dif_pos hv] at h
    cases h

-- What is accepted is the contract with blank timestamps, and what is not is answered with a
-- ValidationError.
theorem validateRecord_exactly :
    (NoNan data →
      (runValidateRecord py data = .ok [] ↔ Contract (BlankOrIso py) data)) ∧
    (formats data → runValidateRecord py (migrate data) ≠ .ok [] →
      ∃ msg, runFromDict py data = .error ⟨.validationError, msg⟩) := by
  rw [runValidateRecord_eq_nil_iff, Ne, runValidateRecord_eq_nil_iff]
  refine ⟨validateRecord_eq_nil_iff_contract, fun hf h => ?_⟩
  rw [runFromDict_eq, if_pos hf]
  exact fromDict_error h

-- A dict with all the required fields.
def sampleData (timestamp : String) (quantity : Int) (width : PyVal) : Dict := [
  ("truck", .str ""), ("stop", .str ""), ("sales_order", .str ""), ("model_number", .str "AB1"),
  ("product_category", .str ""), ("receiving_id", .str "id"), ("timestamp", .str timestamp),
  ("match_status", .str "received"), ("purchase_order", .str "P"), ("inventory_id", .str "1"),
  ("product_size", .dict [("w", width), ("d", .int 0), ("h", .int 0)]), ("quantity", .int quantity)
]

theorem noNan_sampleData : NoNan (sampleData sampleTime 1 (.int 3)) := by
  intro ps hps dim hd
  have hp : ps = [("w", .int 3), ("d", .int 0), ("h", .int 0)] := by
    simpa [sampleData, eq_comm] using hps
  simp only [dims, List.mem_cons, List.not_mem_nil, or_false] at hd
  rcases hd with rfl | rfl | rfl <;> simp [hp]

theorem validateRecord_exactly_sample :
    (runValidateRecord .ascii (sampleData sampleTime 1 (.int 3)) = .ok [] ↔
      Contract (BlankOrIso .ascii) (sampleData sampleTime 1 (.int 3))) ∧
    ∃ msg, runFromDict .ascii (sampleData sampleTime 0 (.int 3)) = .error ⟨.validationError, msg⟩ :=
  ⟨validateRecord_exactly.1 noNan_sampleData,
    validateRecord_exactly.2 (by decide +kernel)
      (mt runValidateRecord_eq_nil_iff.mp (by decide +kernel))⟩

-- A blank timestamp and a width that is a nan are accepted, and a quantity of too many digits is
-- answered with a ValueError.
theorem not_validateRecord_exactly :
    (¬∀ data, runValidateRecord .ascii data = .ok [] ↔
      Contract (PyStd.ascii.isIsoFormat · = true) data) ∧
    (¬∀ data, runValidateRecord .ascii data = .ok [] ↔ Contract (BlankOrIso .ascii) data) ∧
    ¬∀ data, runValidateRecord .ascii (migrate data) ≠ .ok [] →
      ∃ msg, runFromDict .ascii data = .error ⟨.validationError, msg⟩ := by
  refine ⟨fun h => ?_, fun h => ?_, fun h => ?_⟩
  case refine_1 =>
    have hv : runValidateRecord .ascii (sampleData "" 1 (.int 3)) = .ok [] :=
      runValidateRecord_eq_nil_iff.mpr (by decide +kernel)
    have hc := (h (sampleData "" 1 (.int 3))).mp hv
    exact absurd (hc.timestamp "" (by rfl)) (by decide +kernel)
  case refine_2 =>
    obtain ⟨ps, hps, hd⟩ := ((h (sampleData sampleTime 1 (.float .nan))).mp
      (runValidateRecord_eq_nil_iff.mpr (by decide +kernel))).size
    have hp : ps = [("w", .float .nan), ("d", .int 0), ("h", .int 0)] := by
      simpa [sampleData, eq_comm] using hps
    obtain ⟨x, hx, hn⟩ := hd "w" (by decide)
    cases (show some (PyVal.float .nan) = some x by simpa [hp] using hx)
    exact hn
  case refine_3 =>
    have hf : ¬formats (sampleData sampleTime (-10 ^ 4300) (.int 3)) := by decide +kernel
    have hn : validateRecord .ascii (migrate (sampleData sampleTime (-10 ^ 4300) (.int 3))) ≠ [] :=
      fun hv => hf (formats_migrate ▸ formats_of_validateRecord hv)
    obtain ⟨msg, hm⟩ := h _ (mt runValidateRecord_eq_nil_iff.mp hn)
    rw [runFromDict_eq, if_neg hf] at hm
    cases (PyExc.mk.inj (Except.error.inj hm)).1

end ReceivingApp
