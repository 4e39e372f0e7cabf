import ReceivingApp.Theorems.Ledger

open Interaction

namespace ReceivingApp

variable {py : PyStd}

namespace Scan

variable {s : Scan py} {w w' : World} {r : ReceivingRecord}

-- A completed scan receives the row it has resolved to and claims it, or leaves all claims alone.
theorem Completes.claims (h : Completes s w w' r) :
    (∃ row id, s.target w.db = some row ∧ row.inventoryId = some id ∧ r = s.received row id ∧
      w'.db.poInventory = (w.db.claim (some id) s.clock.claimedAt).poInventory) ∨
    (s.target w.db = none ∧ (r.matchStatus = .noMatch ∨ r.matchStatus = .alreadyScanned) ∧
      w'.db.poInventory = w.db.poInventory) := by
  cases h
  case alreadyScanned ht _ => exact .inr ⟨ht, .inr rfl, rfl⟩
  case saved hs =>
    rw [poInventory_settles .settled]
    cases hs
    case claim ht hid => exact .inl ⟨_, _, ht, hid, rfl, rfl⟩
    case miss ht _    => exact .inr ⟨ht, .inl rfl, rfl⟩

end Scan

-- ### Open units

-- The number of unclaimed units of a purchase order whose model has the key.
def openUnits (py : PyStd) (db : Db) (po key : String) : Nat :=
  (db.unclaimedForPo po).countP (fun row => normalizeKey py row.modelNumber = key)

-- All models of the purchase order that have the key are spelled alike.
def OneSpelling (py : PyStd) (db : Db) (po key : String) : Prop :=
  ∀ r₁ ∈ db.poInventory.rows, ∀ r₂ ∈ db.poInventory.rows,
    r₁.purchaseOrder = po → r₂.purchaseOrder = po →
    normalizeKey py r₁.modelNumber = key → normalizeKey py r₂.modelNumber = key →
    r₁.modelNumber = r₂.modelNumber

-- Whether a scan is for a unit of the purchase order with the key.
def Scan.isFor (po key : String) (s : Scan py) : Bool :=
  s.poNumber = po ∧ normalizeKey py s.barcode = key

section OpenUnits

variable {s : Scan py} {db db' : Db} {po key id claimedAt : String} {row : PoRow}

theorem openUnits_congr (h : db'.poInventory = db.poInventory) :
    openUnits py db' po key = openUnits py db po key := by
  simp only [openUnits, Db.unclaimedForPo, h]

theorem unclaimed_nodup : ((db.unclaimedForPo po).filterMap (·.inventoryId)).Nodup :=
  db.poInventory.nodup.sublist (List.filter_sublist.filterMap _)

theorem openUnits_claim_of_isFor (claimedAt : String) (ht : s.target db = some row)
    (hid : row.inventoryId = some id) (h : s.isFor po key) :
    openUnits py (db.claim (some id) claimedAt) po key + 1 = openUnits py db po key := by
  simp only [Scan.isFor, decide_eq_true_eq] at h
  obtain ⟨rfl, rfl⟩ := h
  have hk := (exactModelMatch_iff.mp (exactModelMatch_of_resolveRow ht)).2
  rw [openUnits, Db.unclaimedForPo_claim]
  exact Relational.Table.countP_filter_ne unclaimed_nodup (mem_of_resolveRow ht) hid
    (decide_eq_true hk.symm)

-- A scan of another model, or on another purchase order, takes no unit away.
theorem openUnits_claim_of_not_isFor (ht : s.target db = some row) (hid : row.inventoryId = some id)
    (h : ¬s.isFor po key) :
    openUnits py (db.claim (some id) claimedAt) po key = openUnits py db po key := by
  rw [openUnits, Db.unclaimedForPo_claim, List.countP_filter]
  apply List.countP_congr
  intro row' hr'
  have hk := (exactModelMatch_iff.mp (exactModelMatch_of_resolveRow ht)).2
  have hne : normalizeKey py row'.modelNumber = key → row'.inventoryId ≠ some id := by
    rintro rfl hid'
    have hm := Scan.mem_of_target ht
    have hm' := Db.mem_unclaimedForPo.mp hr'
    have he := Relational.Table.eq_of_key_eq hm.1 hm'.1 hid hid'
    exact h (by simp [Scan.isFor, ← hm.2.1, he, hm'.2.1, hk])
  simp only [decide_eq_true_eq, Bool.and_eq_true]
  exact ⟨And.left, fun h => ⟨h, hne h⟩⟩

theorem OneSpelling.congr (h : OneSpelling py db po key) (hp : db'.poInventory = db.poInventory) :
    OneSpelling py db' po key := by
  rw [OneSpelling, hp]
  exact h

theorem OneSpelling.claim (h : OneSpelling py db po key) (id claimedAt : String) :
    OneSpelling py (db.claim (some id) claimedAt) po key := by
  have hm {row : PoRow} (hr : row ∈ (db.claim (some id) claimedAt).poInventory.rows) :
      ∃ row' ∈ db.poInventory.rows, row'.purchaseOrder = row.purchaseOrder ∧
        row'.modelNumber = row.modelNumber := by
    obtain ⟨row', hr', rfl⟩ := Db.mem_claim.mp hr
    refine ⟨row', hr', ?_⟩
    split <;> exact ⟨rfl, rfl⟩
  intro r₁ hr₁ r₂ hr₂
  have ⟨r₁', hr₁', hp₁, hm₁⟩ := hm hr₁
  have ⟨r₂', hr₂', hp₂, hm₂⟩ := hm hr₂
  have ho := h r₁' hr₁' r₂' hr₂'
  rwa [hp₁, hp₂, hm₁, hm₂] at ho

-- A scan finds a unit as long as there are open ones.
theorem target_isSome_iff (hk : key ≠ "") (ho : OneSpelling py db po key) (h : s.isFor po key) :
    (s.target db).isSome ↔ 0 < openUnits py db po key := by
  simp only [Scan.isFor, decide_eq_true_eq] at h
  obtain ⟨rfl, rfl⟩ := h
  have hm {row : PoRow} : exactModelMatch py s.barcode row.modelNumber ↔
      normalizeKey py row.modelNumber = normalizeKey py s.barcode := by
    rw [exactModelMatch_iff]
    exact ⟨fun h => h.2.symm, fun h => ⟨hk, h.symm⟩⟩
  have hs : ∀ r₁ ∈ db.unclaimedForPo s.poNumber, ∀ r₂ ∈ db.unclaimedForPo s.poNumber,
      exactModelMatch py s.barcode r₁.modelNumber → exactModelMatch py s.barcode r₂.modelNumber →
      r₁.modelNumber = r₂.modelNumber := by
    intro r₁ hr₁ r₂ hr₂ h₁ h₂
    have hr₁ := Db.mem_unclaimedForPo.mp hr₁
    have hr₂ := Db.mem_unclaimedForPo.mp hr₂
    exact ho r₁ hr₁.1 r₂ hr₂.1 hr₁.2.1 hr₂.2.1 (hm.mp h₁) (hm.mp h₂)
  rw [Scan.target, resolveRow_isSome_iff hs]
  simp [openUnits, List.countP_pos_iff, hm]

end OpenUnits

-- ### Runs

section Runs

variable {w w' : World} {tr : List (Scan py × ReceivingRecord)}

-- What has been received stays claimed, and what is claimed is not received again.
theorem Scans.distinct (h : Scans py w tr w') :
    tr.Pairwise (fun t t' => t.2.matchStatus = .received → t'.2.matchStatus = .received →
      t.2.inventoryId ≠ t'.2.inventoryId) := by
  refine Trace.pairwise
    (I := fun t w => t.2.matchStatus = .received → t.2.inventoryId ∈ w.db.ledger.claimed)
    (fun {w t w'} hs hr => ?_) (fun {w t t' w'} hs hi => ?_) h
  · rcases (Scan.returns_iff.mp hs).claims with ⟨row, id, ht, hid, hr', hp⟩ | ⟨_, hn, _⟩
    · rw [hr', Db.mem_claimed_iff, hp]
      exact Db.claimOf_claim.mpr (.inr ⟨Scan.listed_of_target ht hid, rfl⟩)
    · simp [hr] at hn
  · rcases (Scan.returns_iff.mp hs).claims with ⟨row, id, ht, hid, hr', hp⟩ | ⟨_, hn, hp⟩
    · refine ⟨fun hr => ?_, fun hr _ he => ?_⟩
      · rw [Db.mem_claimed_iff, hp]
        exact Db.claimOf_claim.mpr (.inl (hi hr))
      · have hid' : t.2.inventoryId = id := by rw [he, hr']; rfl
        exact Scan.not_claimed_of_target ht hid (hid' ▸ hi hr)
    · refine ⟨fun hr => ?_, fun _ hr => by simp [hr] at hn⟩
      rw [Db.mem_claimed_iff, hp]
      exact hi hr

-- The first scans for the open units receive them, and the others receive nothing.
theorem Scans.exact {po key : String} (hk : key ≠ "") (h : Scans py w tr w')
    (ho : OneSpelling py w.db po key) :
    (∀ t ∈ (tr.filter (fun t => t.1.isFor po key)).take (openUnits py w.db po key),
      t.2.matchStatus = .received) ∧
    (∀ t ∈ (tr.filter (fun t => t.1.isFor po key)).drop (openUnits py w.db po key),
      t.2.matchStatus = .noMatch ∨ t.2.matchStatus = .alreadyScanned) := by
  induction h
  case nil => simp
  case cons w w₁ w' t tr hs _ ih =>
    have hc := Scan.returns_iff.mp hs
    by_cases hf : t.1.isFor po key
    case neg =>
      rw [List.filter_cons, if_neg hf]
      rcases hc.claims with ⟨row, id, ht, hid, _, hp⟩ | ⟨_, _, hp⟩
      · have h₁ := ih (OneSpelling.congr (ho.claim id _) hp)
        rwa [openUnits_congr hp, openUnits_claim_of_not_isFor ht hid hf] at h₁
      · have h₁ := ih (ho.congr hp)
        rwa [openUnits_congr hp] at h₁
    case pos =>
      rw [List.filter_cons, if_pos hf]
      rcases hc.claims with ⟨row, id, ht, hid, hr, hp⟩ | ⟨ht, hr, hp⟩
      · have h₁ := ih (OneSpelling.congr (ho.claim id _) hp)
        rw [openUnits_congr hp] at h₁
        rw [← openUnits_claim_of_isFor t.1.clock.claimedAt ht hid hf,
          List.take_succ_cons, List.drop_succ_cons, List.forall_mem_cons]
        exact ⟨⟨by rw [hr]; rfl, h₁.1⟩, h₁.2⟩
      · have hz : openUnits py w.db po key = 0 := by
          have hn := (target_isSome_iff hk ho hf).not.mp (by simp [ht])
          omega
        have h₁ := ih (ho.congr hp)
        rw [openUnits_congr hp, hz] at h₁
        rw [hz, List.drop_zero, List.forall_mem_cons]
        exact ⟨by simp, hr, h₁.2⟩

-- Sequential claiming is exact: no unit is received twice, every unit that is received was open and
-- has the scanned model, and of the scans for one key as many succeed as there are units.
theorem Scans.claim_exactly (h : Scans py w tr w') :
    tr.Pairwise (fun t t' => t.2.matchStatus = .received → t'.2.matchStatus = .received →
      t.2.inventoryId ≠ t'.2.inventoryId) ∧
    (∀ tr₁ t tr₂, tr = tr₁ ++ t :: tr₂ → t.2.matchStatus = .received →
      ∃ w₁, Scans py w tr₁ w₁ ∧ Scans py w₁ (t :: tr₂) w' ∧
        ∃ row ∈ w₁.db.poInventory.rows, row.inventoryId = some t.2.inventoryId ∧
          row.purchaseOrder = t.1.poNumber ∧ row.claimedAt = none ∧
          exactModelMatch py t.1.barcode row.modelNumber) ∧
    (∀ po key, key ≠ "" → OneSpelling py w.db po key →
      (∀ t ∈ (tr.filter (fun t => t.1.isFor po key)).take (openUnits py w.db po key),
        t.2.matchStatus = .received) ∧
      (∀ t ∈ (tr.filter (fun t => t.1.isFor po key)).drop (openUnits py w.db po key),
        t.2.matchStatus = .noMatch ∨ t.2.matchStatus = .alreadyScanned)) := by
  refine ⟨h.distinct, fun tr₁ t tr₂ he hr => ?_, fun po key hk ho => h.exact hk ho⟩
  have ⟨w₁, w₂, h₁, hs, h₂⟩ := Trace.cons_append_iff.mp (he ▸ h)
  refine ⟨w₁, h₁, .cons hs h₂, ?_⟩
  rcases (Scan.returns_iff.mp hs).claims with ⟨row, id, ht, hid, hr', _⟩ | ⟨_, hn, _⟩
  · have ⟨hm, hpo, hc⟩ := Scan.mem_of_target ht
    have hi : row.inventoryId = some t.2.inventoryId := by rw [hid, hr']; rfl
    exact ⟨row, hm, hi, hpo, hc, exactModelMatch_of_resolveRow ht⟩
  · simp [hr] at hn

end Runs

-- Two different units of a model are scanned, but the catalog has one.
theorem claim_exactly_sample :
    ∃ r r' w', Scans .ascii .oneUnit [(.sample, r), ({ Scan.sample with serial := "S2" }, r')] w' ∧
      r.matchStatus = .received ∧
      (r'.matchStatus = .noMatch ∨ r'.matchStatus = .alreadyScanned) := by
  have ha : Scan.sample.answer .oneUnit = some .received := by decide +kernel
  have ⟨r, hr, _⟩ := Scan.completes_of_answer ha
  have ha' : { Scan.sample with serial := "S2" }.answer (Scan.sample.after .oneUnit) =
      some .noMatch := by decide +kernel
  have ⟨r', hr', _⟩ := Scan.completes_of_answer ha'
  have h : Scans .ascii .oneUnit [(.sample, r), ({ Scan.sample with serial := "S2" }, r')] _ :=
    .cons (Scan.returns_iff.mpr hr) (.cons (Scan.returns_iff.mpr hr') (.nil _))
  have ho : OneSpelling .ascii World.oneUnit.db "P" "a" := by
    unfold OneSpelling
    decide +kernel
  have hf : Scan.sample.isFor "P" "a" := by decide +kernel
  have hf' : { Scan.sample with serial := "S2" }.isFor "P" "a" := by decide +kernel
  have hn : openUnits .ascii World.oneUnit.db "P" "a" = 1 := by decide +kernel
  have ⟨ht, hd⟩ := h.claim_exactly.2.2 "P" "a" (by decide) ho
  rw [hn] at ht hd
  simp only [List.filter_cons, hf, hf', if_true, List.take_succ_cons, List.drop_succ_cons,
    List.drop_zero, List.forall_mem_cons] at ht hd
  exact ⟨r, r', _, h, ht.1, hd.1⟩

end ReceivingApp
