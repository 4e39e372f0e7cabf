import Mathlib.Data.List.NodupEquivFin
import ReceivingApp.Core.ModelResolution

namespace ReceivingApp

variable {py : PyStd}

-- ### The walk

namespace Matching

variable {c : Char} {ms bs : List Char} {pos : Nat}

-- Taking the first place of a character leaves the longest rest.
theorem walk_iff_sublist : walk ms bs ↔ ms.Sublist bs := by
  induction bs generalizing ms
  case nil => cases ms <;> simp [walk]
  case cons b bs hi =>
    cases ms
    case nil => simp [walk]
    case cons m ms =>
      by_cases h : b = m
      case pos => subst h; simp [walk, hi, List.cons_sublist_cons]
      case neg =>
        have h' : m ≠ b := (h ·.symm)
        simp [walk, h, hi, List.sublist_cons_iff, h']

theorem subscript_eq_ok (h : pos < bs.length) : subscript bs pos = .ok bs[pos] := by
  simp [subscript, List.getElem?_eq_getElem h]

theorem scanForward_of_lt (h : pos < bs.length) :
    scanForward bs c pos = if bs[pos] = c then .ok pos else scanForward bs c (pos + 1) := by
  rw [scanForward, if_pos h, subscript_eq_ok h]
  by_cases hc : bs[pos] = c <;> simp [hc, bind, Except.bind, pure, Except.pure]

-- The inner loop stops at the end or at the character, and passes over nothing that the walk could
-- take.
theorem scanForward_spec (h : pos ≤ bs.length) :
    ∃ q, scanForward bs c pos = .ok q ∧ q ≤ bs.length ∧ (∀ hq : q < bs.length, bs[q] = c) ∧
      ∀ ms, walk (c :: ms) (bs.drop pos) = walk (c :: ms) (bs.drop q) := by
  induction h using Nat.decreasingInduction
  case self =>
    have hs : scanForward bs c bs.length = .ok bs.length := by
      rw [scanForward, if_neg (Nat.lt_irrefl _)]; rfl
    exact ⟨_, hs, Nat.le_refl _, fun hq => absurd hq (Nat.lt_irrefl _), fun _ => rfl⟩
  case of_succ pos hlt hi =>
    rw [scanForward_of_lt hlt]
    by_cases hc : bs[pos] = c
    case pos => exact ⟨pos, if_pos hc, Nat.le_of_lt hlt, fun _ => hc, fun _ => rfl⟩
    case neg =>
      have ⟨q, hs, hq, hb, hw⟩ := hi
      refine ⟨q, by rw [if_neg hc, hs], hq, hb, fun ms => ?_⟩
      rw [List.drop_eq_getElem_cons hlt, walk, if_neg hc, hw ms]

-- The loops are the walk over what the cursor has not passed.
theorem walkFrom_eq_walk (h : pos ≤ bs.length) :
    walkFrom bs ms pos = .ok (walk ms (bs.drop pos)) := by
  induction ms generalizing pos
  case nil => simp [walkFrom, walk]; rfl
  case cons c ms hi =>
    have ⟨q, hs, hq, hb, hw⟩ := scanForward_spec (c := c) h
    simp only [walkFrom, hs, hw ms, bind, Except.bind]
    rcases Nat.lt_or_eq_of_le hq with hlt | rfl
    case inl =>
      rw [if_neg (Nat.not_le_of_lt hlt), hi hlt, List.drop_eq_getElem_cons hlt, walk,
        if_pos (hb hlt)]
    case inr => simp [walk]; rfl

end Matching

theorem modelMatchesBarcodeLoop_eq {model barcode : String} :
    modelMatchesBarcodeLoop py model barcode = .ok (modelMatchesBarcode py model barcode) := by
  rw [modelMatchesBarcodeLoop, modelMatchesBarcode]
  split
  case isTrue  => rfl
  case isFalse => exact Matching.walkFrom_eq_walk (Nat.zero_le _)

theorem modelMatchesBarcode_iff {model barcode : String} :
    modelMatchesBarcode py model barcode ↔
      model ≠ "" ∧ barcode ≠ "" ∧ (py.lower model).toList.Sublist (py.lower barcode).toList := by
  rw [modelMatchesBarcode, ← Matching.walk_iff_sublist]
  split
  case isTrue h  => simp; tauto
  case isFalse h => simp at h; simp [h]

-- A choice of a place in ys for each place of xs, in the same order.
structure Subsequence (xs ys : List Char) where
  pos    : Fin xs.length → Fin ys.length
  ordered : StrictMono pos
  same   : ∀ i, ys.get (pos i) = xs.get i

theorem Subsequence.nonempty_iff {xs ys : List Char} :
    Nonempty (Subsequence xs ys) ↔ xs.Sublist ys := by
  rw [List.sublist_iff_exists_fin_orderEmbedding_get_eq]
  constructor
  · exact fun ⟨s⟩ => ⟨.ofStrictMono s.pos s.ordered, fun i => (s.same i).symm⟩
  · exact fun ⟨f, h⟩ => ⟨⟨f, f.strictMono, fun i => (h i).symm⟩⟩

-- The loops always return, never with a subscript out of range, and accept a barcode exactly if
-- some choice of places does.
theorem modelMatchesBarcodeLoop_exactly (model barcode : String) :
    (∃ b, modelMatchesBarcodeLoop py model barcode = .ok b) ∧
      (modelMatchesBarcodeLoop py model barcode = .ok true ↔
        model ≠ "" ∧ barcode ≠ "" ∧
          Nonempty (Subsequence (py.lower model).toList (py.lower barcode).toList)) := by
  rw [modelMatchesBarcodeLoop_eq, Except.ok.injEq, modelMatchesBarcode_iff,
    Subsequence.nonempty_iff]
  exact ⟨⟨_, rfl⟩, Iff.rfl⟩

-- ### Automatic verdicts

section Auto

variable {raw m : String} {models : List String}

-- The model is the only one of the list that the barcode matches exactly.
def OnlyExact (py : PyStd) (raw : String) (models : List String) (m : String) : Prop :=
  (m ∈ models ∧ exactModelMatch py raw m) ∧ ∀ m' ∈ models, exactModelMatch py raw m' → m' = m

-- The model is the only one of the list with that key.
def OnlyKeyed (py : PyStd) (key : String) (models : List String) (m : String) : Prop :=
  (m ∈ models ∧ normalizeKey py m = key) ∧ ∀ m' ∈ models, normalizeKey py m' = key → m' = m

theorem onlyExact_iff_onlyKeyed (hk : normalizeKey py raw ≠ "") :
    OnlyExact py raw models m ↔ OnlyKeyed py (normalizeKey py raw) models m := by
  have h {m'} : exactModelMatch py raw m' ↔ normalizeKey py m' = normalizeKey py raw := by
    rw [exactModelMatch_iff]
    exact ⟨fun h => h.2.symm, fun h => ⟨hk, h.symm⟩⟩
  simp only [OnlyExact, OnlyKeyed, h]

-- The first tier has no guard against empty keys.
theorem resolveModel_auto_iff (hn : models.Nodup) :
    resolveModel py raw models = ⟨.auto, some m, []⟩ ↔
      OnlyKeyed py (normalizeKey py raw) models m := by
  have hf := filter_eq_singleton_iff (p := fun m => normalizeKey py m = normalizeKey py raw)
    (x := m) hn
  simp only [decide_eq_true_eq] at hf
  rw [OnlyKeyed, ← hf, resolveModel]
  split
  case h_1 h => simp [h]
  case h_2 h => simp [h]
  case h_3 h =>
    rw [h]
    split <;> simp

theorem resolveModel_of_auto (h : (resolveModel py raw models).status = .auto) :
    ∃ m, resolveModel py raw models = ⟨.auto, some m, []⟩ := by
  simp only [resolveModel] at h ⊢
  split at h
  case h_1 m _ => exact ⟨m, rfl⟩
  case h_2     => cases h
  case h_3     => split at h <;> cases h

theorem OnlyKeyed.unique {key m' : String} (h : OnlyKeyed py key models m) :
    OnlyKeyed py key models m' ↔ m = m' :=
  ⟨fun h' => h'.2 m h.1.1 h.1.2, fun he => he ▸ h⟩

-- What both tiers make of a list: the one model with the key of the barcode.
theorem resolveScan_auto_iff (hn : models.Nodup) :
    resolveScan py raw models none = ⟨.auto, some m⟩ ↔
      OnlyKeyed py (normalizeKey py raw) models m := by
  simp only [resolveScan]
  split
  case h_1 exact he =>
    have ho : OnlyExact py raw models exact := (resolveExact_eq_some_iff_of_nodup hn).mp he
    have hk := (exactModelMatch_iff.mp ho.1.2).1
    rw [((onlyExact_iff_onlyKeyed hk).mp ho).unique]
    simp
  case h_2 =>
    rw [← resolveModel_auto_iff hn]
    split
    case h_1 h =>
      have ⟨m', hm⟩ := resolveModel_of_auto h
      simp [hm]
    case h_2 h | h_3 h =>
      constructor
      · exact fun h' => nomatch h'
      · exact fun h' => by rw [h'] at h; cases h

-- Where the exact step finds nothing, the walk step answers with no automatic match either.
theorem not_auto_of_resolveExact (hn : models.Nodup) (hk : normalizeKey py raw ≠ "")
    (he : resolveExact py raw models = none) : (resolveModel py raw models).status ≠ .auto := by
  intro h
  have ⟨m, hm⟩ := resolveModel_of_auto h
  have ho := (onlyExact_iff_onlyKeyed hk).mpr ((resolveModel_auto_iff hn).mp hm)
  have he' := (resolveExact_eq_some_iff_of_nodup hn).mpr ho
  cases he.symm.trans he'

-- A barcode with a key is resolved automatically exactly to the only model that it matches, in the
-- exact step already, and one that normalizes to nothing to the only model that does too.
theorem resolveScan_auto_exactly (hn : models.Nodup) :
    (normalizeKey py raw ≠ "" →
      (resolveScan py raw models none = ⟨.auto, some m⟩ ↔ OnlyExact py raw models m) ∧
      (resolveExact py raw models = none → (resolveModel py raw models).status ≠ .auto)) ∧
    (normalizeKey py raw = "" →
      (resolveScan py raw models none = ⟨.auto, some m⟩ ↔ OnlyKeyed py "" models m)) := by
  refine ⟨fun hk => ⟨?_, not_auto_of_resolveExact hn hk⟩, fun hk => ?_⟩
  case refine_1 => rw [resolveScan_auto_iff hn, onlyExact_iff_onlyKeyed hk]
  case refine_2 => rw [resolveScan_auto_iff hn, hk]

theorem resolveScan_auto_exactly_sample :
    ["AB-1", "AB2"].Nodup ∧
      (resolveScan .ascii "ab1" ["AB-1", "AB2"] none = ⟨.auto, some "AB-1"⟩ ↔
        OnlyExact .ascii "ab1" ["AB-1", "AB2"] "AB-1") :=
  ⟨by decide, ((resolveScan_auto_exactly (by decide)).1 (by decide +kernel)).1⟩

-- The empty barcode is resolved to a hyphen, which it does not match.
theorem not_resolveScan_auto :
    ¬∀ (raw : String) (models : List String) (m : String), models.Nodup →
      (resolveScan .ascii raw models none = ⟨.auto, some m⟩ ↔ OnlyExact .ascii raw models m) := by
  intro h
  have ha : resolveScan .ascii "" ["-"] none = ⟨.auto, some "-"⟩ := by decide +kernel
  have ho := (h "" ["-"] "-" (by decide)).mp ha
  exact absurd ho.1.2 (by decide +kernel)

end Auto

-- ### The order of the models

section Order

variable {raw : String} {models models' : List String}

-- Two orders of one list are both empty, the same single element, or both longer.
theorem perm_cases {α : Type} {l l' : List α} (h : l.Perm l') :
    (l = [] ∧ l' = []) ∨ (∃ a, l = [a] ∧ l' = [a]) ∨
      ∃ a b t a' b' t', l = a :: b :: t ∧ l' = a' :: b' :: t' := by
  have hl := h.length_eq
  rcases l with _ | ⟨a, _ | ⟨b, t⟩⟩
  case nil       => exact .inl ⟨rfl, h.nil_eq.symm⟩
  case cons.nil  => exact .inr <| .inl ⟨a, rfl, (List.singleton_perm.mp h).symm⟩
  case cons.cons =>
    rcases l' with _ | ⟨a', _ | ⟨b', t'⟩⟩
    case nil | cons.nil => simp at hl
    case cons.cons      => exact .inr <| .inr ⟨a, b, t, a', b', t', rfl, rfl⟩

theorem resolveExact_perm (h : models.Perm models') :
    resolveExact py raw models = resolveExact py raw models' := by
  simp only [resolveExact]
  rcases perm_cases (h.filter (exactModelMatch py raw)) with
    ⟨hl, hl'⟩ | ⟨a, hl, hl'⟩ | ⟨a, b, t, a', b', t', hl, hl'⟩ <;>
    rw [hl, hl']

theorem resolveModel_perm (h : models.Perm models') :
    (resolveModel py raw models).status = (resolveModel py raw models').status ∧
      (resolveModel py raw models).model = (resolveModel py raw models').model := by
  simp only [resolveModel]
  rcases perm_cases (h.filter (fun m => normalizeKey py m = normalizeKey py raw)) with
    ⟨hl, hl'⟩ | ⟨a, hl, hl'⟩ | ⟨a, b, t, a', b', t', hl, hl'⟩ <;>
    rw [hl, hl']
  case inr.inl | inr.inr => exact ⟨rfl, rfl⟩
  case inl =>
    rcases perm_cases (h.filter (fun m => modelMatchesBarcode py m raw)) with
      ⟨hl, hl'⟩ | ⟨a, hl, hl'⟩ | ⟨a, b, t, a', b', t', hl, hl'⟩ <;>
      rw [hl, hl'] <;> exact ⟨rfl, rfl⟩

-- The resolver never picks a model by its position.
theorem resolveScan_perm {learned : Option String} (h : models.Perm models') :
    resolveScan py raw models learned = resolveScan py raw models' learned := by
  have ⟨hs, hm⟩ : (resolveModel py raw models).status = (resolveModel py raw models').status ∧ _ :=
    resolveModel_perm h
  simp only [resolveScan, resolveExact_perm h, hs, hm]

end Order

end ReceivingApp
