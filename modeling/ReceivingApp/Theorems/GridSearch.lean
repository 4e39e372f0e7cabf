import ReceivingApp.Adapters.Receiver

open Interaction Program

namespace ReceivingApp

variable {py : PyStd} {model : String}

-- ### Rows

-- The model cell is of the model, and the cell of the quantity to be received is a positive number.
def Selectable (py : PyStd) (model : String) (row : GridRow) : Prop :=
  (∃ cell, row.cells[modelCol]? = some cell ∧ exactModelMatch py model (strip cell.text)) ∧
    ∃ cell tbr, row.cells[tbrCol]? = some cell ∧ py.parseInt (strip cell.text) = some tbr ∧ 0 < tbr

theorem tbrOf_pos_iff {row : GridRow} :
    0 < tbrOf py row ↔ ∃ cell tbr, row.cells[tbrCol]? = some cell ∧
      py.parseInt (strip cell.text) = some tbr ∧ 0 < tbr := by
  unfold tbrOf
  cases row.cells[tbrCol]?
  case none => simp
  case some cell => cases hp : py.parseInt (strip cell.text) <;> simp [hp]

theorem isCandidate_iff {row : GridRow} :
    isCandidate py model row ↔ Selectable py model row := by
  rw [Selectable, ← tbrOf_pos_iff, isCandidate]
  cases row.cells[modelCol]? <;> simp

-- ### Pages

-- A page of the grid with its button for the next one. `none` is a check that raises.
structure GridPage where
  rows             : List GridRow
  nextVisible      : Option Bool
  nextClass        : Option String
  nextAriaDisabled : Option String

def GridPage.nextEnabled (py : PyStd) (page : GridPage) : Bool :=
  page.nextVisible = some true && !inText "k-disabled" (orEmpty page.nextClass) &&
    py.lower (orEmpty page.nextAriaDisabled) ≠ "true"

-- A grid shows one of its pages at a time. Whether rows appear in time is left to `appear`.
def grid (pages : Nat → GridPage) (appear : Bool) : Handler PageCall PyExc Nat
  | _, .rows, i             => (.ok (pages i).rows, i)
  | _, .nextClass, i        => (.ok (pages i).nextClass, i)
  | _, .nextAriaDisabled, i => (.ok (pages i).nextAriaDisabled, i)
  | _, .clickNext, i        => (.ok (), i + 1)
  | _, .waitForRows, i      => (if appear then .ok () else .error ⟨.playwrightError, "Timeout"⟩, i)
  | _, .nextIsVisible, i    =>
    match (pages i).nextVisible with
    | some visible => (.ok visible, i)
    | none         => (.error ⟨.playwrightError, "Error"⟩, i)
  | _, _, i => (.error ⟨.playwrightError, "Error"⟩, i)

section Search

variable {pages : Nat → GridPage} {appear : Bool} {n i k : Nat} {row : GridRow}

theorem run_findFrom_succ :
    (findFrom py model (n + 1)).run (grid pages appear) i =
      match (pages i).rows.find? (isCandidate py model) with
      | some row => (.ok (some row), i)
      | none     =>
        if (pages i).nextEnabled py then (findFrom py model n).run (grid pages appear) (i + 1)
        else (.ok none, i) := by
  simp only [findFrom, run_bind, run_perform, grid]
  cases hf : (pages i).rows.find? (isCandidate py model)
  case some row => simp
  case none =>
    simp only [run_bind, run_tryCatch, run_perform, grid]
    cases hv : (pages i).nextVisible
    case none => simp [GridPage.nextEnabled, hv, PyExc.isException]
    case some visible =>
      cases visible
      case false => simp [GridPage.nextEnabled, hv]
      case true  =>
        by_cases hc : inText "k-disabled" (orEmpty (pages i).nextClass)
        case pos => simp [GridPage.nextEnabled, hv, hc, run_bind, grid]
        case neg =>
          by_cases ha : py.lower (orEmpty (pages i).nextAriaDisabled) = "true" <;>
            simp [GridPage.nextEnabled, hv, hc, ha, run_bind, grid]

-- ### The first row

-- The page `k` is one of `n` pages from the page `i` on, and can be reached from that by clicks on
-- enabled buttons.
structure ReachablePage (py : PyStd) (pages : Nat → GridPage) (i n k : Nat) : Prop where
  first   : i ≤ k
  limit   : k < i + n
  enabled : ∀ j, i ≤ j → j < k → (pages j).nextEnabled py

-- On the page `k`, the row is the first one that can be selected.
def IsFirst (py : PyStd) (model : String) (rows : List GridRow) (row : GridRow) : Prop :=
  Selectable py model row ∧ ∃ before after, rows = before ++ row :: after ∧
    ∀ r ∈ before, ¬Selectable py model r

theorem find?_isCandidate_iff {rows : List GridRow} :
    rows.find? (isCandidate py model) = some row ↔ IsFirst py model rows row := by
  simp only [List.find?_eq_some_iff_append, IsFirst, ← isCandidate_iff, Bool.not_eq_true,
    Bool.not_eq_true']

theorem reachable_succ_iff :
    ReachablePage py pages i (n + 1) k ↔
      k = i ∨ (pages i).nextEnabled py ∧ ReachablePage py pages (i + 1) n k := by
  constructor
  case mp =>
    rintro ⟨hi, hn, he⟩
    rcases hi.eq_or_lt with rfl | hlt
    · exact .inl rfl
    · exact .inr ⟨he i le_rfl hlt, by omega, by omega, fun j hj hk => he j (by omega) hk⟩
  case mpr =>
    rintro (rfl | ⟨hi, h⟩)
    · exact ⟨le_rfl, by omega, fun j hj hk => by omega⟩
    · refine ⟨by have := h.first; omega, by have := h.limit; omega, fun j hj hk => ?_⟩
      rcases hj.eq_or_lt with rfl | hlt
      · exact hi
      · exact h.enabled j hlt hk

theorem forall_reachable_succ_iff {P : Nat → Prop} :
    (∀ k, ReachablePage py pages i (n + 1) k → P k) ↔
      P i ∧ ((pages i).nextEnabled py → ∀ k, ReachablePage py pages (i + 1) n k → P k) := by
  simp only [reachable_succ_iff, or_imp, forall_and, forall_eq, and_imp]
  exact and_congr_right fun _ => forall_comm

-- No page before the page `k` has a row that can be selected.
def NoneBefore (py : PyStd) (model : String) (pages : Nat → GridPage) (i k : Nat) : Prop :=
  ∀ j, i ≤ j → j < k → ∀ row ∈ (pages j).rows, ¬Selectable py model row

theorem noneBefore_self : NoneBefore py model pages i i :=
  fun _ hj hk => absurd hk (by omega)

theorem NoneBefore.of_succ (hi : ∀ row ∈ (pages i).rows, ¬Selectable py model row)
    (h : NoneBefore py model pages (i + 1) k) : NoneBefore py model pages i k := by
  intro j hj hk
  rcases hj.eq_or_lt with rfl | hlt
  · exact hi
  · exact h j hlt hk

theorem run_findFrom :
    ∃ result s, (findFrom py model n).run (grid pages appear) i = (.ok result, s) ∧
      match result with
      | some row => ∃ k, ReachablePage py pages i n k ∧ IsFirst py model (pages k).rows row ∧
          NoneBefore py model pages i k
      | none => ∀ k, ReachablePage py pages i n k → ∀ row ∈ (pages k).rows,
          ¬Selectable py model row := by
  induction n generalizing i
  case zero =>
    refine ⟨none, i, rfl, fun k h => ?_⟩
    have h₁ := h.first
    have h₂ := h.limit
    omega
  case succ n ih =>
    rw [run_findFrom_succ]
    cases hf : (pages i).rows.find? (isCandidate py model)
    case some row =>
      have hi : ReachablePage py pages i (n + 1) i := reachable_succ_iff.mpr (.inl rfl)
      exact ⟨some row, i, rfl, i, hi, find?_isCandidate_iff.mp hf, noneBefore_self⟩
    case none =>
      have hi : ∀ row ∈ (pages i).rows, ¬Selectable py model row := by
        simpa only [List.find?_eq_none, isCandidate_iff] using hf
      dsimp only
      split
      case isFalse hn =>
        exact ⟨none, i, rfl, forall_reachable_succ_iff.mpr ⟨hi, fun he => absurd he hn⟩⟩
      case isTrue he =>
        have ⟨result, s, hr, h⟩ := ih (i := i + 1)
        refine ⟨result, s, hr, ?_⟩
        cases result
        case some row =>
          have ⟨k, hk, hrow, hb⟩ := h
          exact ⟨k, reachable_succ_iff.mpr (.inr ⟨he, hk⟩), hrow, hb.of_succ hi⟩
        case none => exact forall_reachable_succ_iff.mpr ⟨hi, fun _ => h⟩

theorem IsFirst.mem {rows : List GridRow} (h : IsFirst py model rows row) : row ∈ rows := by
  obtain ⟨-, before, after, rfl, -⟩ := h
  simp

-- The row that the search is for, and the page it is on.
structure IsFound (py : PyStd) (model : String) (pages : Nat → GridPage) (k : Nat) (row : GridRow) :
    Prop where
  reachable : ReachablePage py pages 0 maxGridPages k
  first     : IsFirst py model (pages k).rows row
  before    : NoneBefore py model pages 0 k

theorem IsFound.unique {k' : Nat} {row' : GridRow} (h : IsFound py model pages k row)
    (h' : IsFound py model pages k' row') : row = row' := by
  rcases lt_trichotomy k k' with hlt | rfl | hlt
  · exact absurd h.first.1 (h'.before k k.zero_le hlt row h.first.mem)
  · have hf := (find?_isCandidate_iff.mpr h.first).symm.trans (find?_isCandidate_iff.mpr h'.first)
    exact Option.some.inj hf
  · exact absurd h'.first.1 (h.before k' k'.zero_le hlt row' h'.first.mem)

-- Whatever the pages hold, the search returns the first row that can be selected on the pages that
-- can be reached, and nothing exactly if there is none.
theorem run_findModelRow (py : PyStd) (model : String) (pages : Nat → GridPage) (appear : Bool) :
    ∃ result s, (findModelRow py model).run (grid pages appear) 0 = (.ok result, s) ∧
      (∀ row, result = some row ↔ ∃ k, IsFound py model pages k row) ∧
      (result = none ↔ ∀ k, ReachablePage py pages 0 maxGridPages k → ∀ row ∈ (pages k).rows,
        ¬Selectable py model row) := by
  have hwait : ∃ b, (succeeds (.perform .waitForRows)).run (grid pages appear) 0 = (.ok b, 0) := by
    cases appear <;> exact ⟨_, rfl⟩
  have ⟨b, hb⟩ := hwait
  have ⟨result, s, hr, h⟩ := @run_findFrom py model pages appear maxGridPages 0
  refine ⟨result, s, (run_bind_of_ok hb).trans hr, ?_⟩
  cases result
  case some row =>
    have ⟨k, hk, hrow, hbefore⟩ := h
    have hfound : IsFound py model pages k row := ⟨hk, hrow, hbefore⟩
    refine ⟨fun row' => ⟨?_, fun ⟨k', h'⟩ => ?_⟩, iff_of_false nofun fun hn => ?_⟩
    · rintro ⟨⟩
      exact ⟨k, hfound⟩
    · exact congrArg some (hfound.unique h')
    · exact hn k hk row hrow.mem hrow.1
  case none =>
    refine ⟨fun row => iff_of_false nofun ?_, iff_of_true rfl h⟩
    rintro ⟨k, hf⟩
    exact h k hf.reachable row hf.first.mem hf.first.1

end Search

end ReceivingApp
