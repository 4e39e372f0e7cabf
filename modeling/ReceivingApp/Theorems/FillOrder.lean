import ReceivingApp.Lib.Allocation
import ReceivingApp.Theorems.Claiming

open Interaction Allocation

namespace ReceivingApp

variable {py : PyStd} {db db' : Db} {po m : String}

-- ### Numbers

def PoRow.number (py : PyStd) (row : PoRow) : Option Int :=
  row.inventoryId.bind py.parseInt

-- The numbers of those rows of a list that are of the model.
def numbersOf (py : PyStd) (m : String) (rows : List PoRow) : Finset Int :=
  ((rows.filter (fun row => row.modelNumber = m)).filterMap (·.number py)).toFinset

-- The numbers that a purchase order still has open for a model, and those that are claimed.
def openNumbers (py : PyStd) (db : Db) (po m : String) : Finset Int :=
  numbersOf py m (db.unclaimedForPo po)

def claimedNumbers (py : PyStd) (db : Db) (po m : String) : Finset Int :=
  numbersOf py m (db.claimedForPo po)

-- All rows of the purchase order and the model have numbers, and no two of them the same.
structure Numbered (py : PyStd) (db : Db) (po m : String) : Prop where
  numeric  : ∀ row ∈ db.poInventory.rows, row.purchaseOrder = po → row.modelNumber = m →
    (row.number py).isSome
  distinct : ∀ row ∈ db.poInventory.rows, ∀ row' ∈ db.poInventory.rows,
    row.purchaseOrder = po → row'.purchaseOrder = po → row.modelNumber = m → row'.modelNumber = m →
    row.number py = row'.number py → row = row'

section

variable {n : Int} {rows : List PoRow} {row : PoRow} {id t : String}

theorem mem_numbersOf :
    n ∈ numbersOf py m rows ↔ ∃ row ∈ rows, row.modelNumber = m ∧ row.number py = some n := by
  simp [numbersOf, and_assoc]

theorem mem_claimedForPo :
    row ∈ db.claimedForPo po ↔
      row ∈ db.poInventory.rows ∧ row.purchaseOrder = po ∧ row.claimedAt ≠ none := by
  simp [Db.claimedForPo]

-- A unit is open, or claimed, under its number.
theorem mem_openNumbers :
    n ∈ openNumbers py db po m ↔ ∃ row ∈ db.poInventory.rows, row.purchaseOrder = po ∧
      row.modelNumber = m ∧ row.number py = some n ∧ row.claimedAt = none := by
  simp only [openNumbers, mem_numbersOf, Db.mem_unclaimedForPo]
  exact exists_congr fun row => by tauto

theorem mem_claimedNumbers :
    n ∈ claimedNumbers py db po m ↔ ∃ row ∈ db.poInventory.rows, row.purchaseOrder = po ∧
      row.modelNumber = m ∧ row.number py = some n ∧ row.claimedAt ≠ none := by
  simp only [claimedNumbers, mem_numbersOf, mem_claimedForPo]
  exact exists_congr fun row => by tauto

theorem Numbered.disjoint (h : Numbered py db po m) :
    Disjoint (openNumbers py db po m) (claimedNumbers py db po m) := by
  refine Finset.disjoint_left.mpr fun n ho hc => ?_
  have ⟨row, hr, hp, hm, hn, hopen⟩ := mem_openNumbers.mp ho
  have ⟨row', hr', hp', hm', hn', hclaimed⟩ := mem_claimedNumbers.mp hc
  obtain rfl := h.distinct row hr row' hr' hp hp' hm hm' (hn.trans hn'.symm)
  exact hclaimed hopen

theorem number_congr (py : PyStd) {row' : PoRow} (h : row.inventoryId = row'.inventoryId) :
    row.number py = row'.number py := by
  rw [PoRow.number, PoRow.number, h]

-- ### Claims

theorem Numbered.claim (h : Numbered py db po m) : Numbered py (db.claim (some id) t) po m := by
  have hrow {row : PoRow} (hr : row ∈ (db.claim (some id) t).poInventory.rows) :
      ∃ row₀ ∈ db.poInventory.rows, row₀.inventoryId = row.inventoryId ∧
        row₀.purchaseOrder = row.purchaseOrder ∧ row₀.modelNumber = row.modelNumber ∧
        (if row₀.inventoryId = some id ∧ row₀.claimedAt = none then
          { row₀ with claimedAt := some t } else row₀) = row := by
    have ⟨row₀, hr₀, he⟩ := Db.mem_claim.mp hr
    refine ⟨row₀, hr₀, ?_⟩
    subst he
    split <;> exact ⟨rfl, rfl, rfl, rfl⟩
  constructor
  case numeric =>
    intro row hr hp hm
    have ⟨row₀, hr₀, hi₀, hp₀, hm₀, _⟩ := hrow hr
    exact number_congr py hi₀ ▸ h.numeric row₀ hr₀ (hp₀.trans hp) (hm₀.trans hm)
  case distinct =>
    intro row hr row' hr' hp hp' hm hm' hn
    have ⟨row₀, hr₀, hi₀, hp₀, hm₀, he₀⟩ := hrow hr
    have ⟨row₁, hr₁, hi₁, hp₁, hm₁, he₁⟩ := hrow hr'
    have hn₀ : row₀.number py = row₁.number py := by
      rw [number_congr py hi₀, hn, number_congr py hi₁]
    obtain rfl := h.distinct row₀ hr₀ row₁ hr₁ (hp₀.trans hp) (hp₁.trans hp') (hm₀.trans hm)
      (hm₁.trans hm') hn₀
    exact he₀.symm.trans he₁

theorem mem_openNumbers_claim :
    n ∈ openNumbers py (db.claim (some id) t) po m ↔ ∃ row ∈ db.poInventory.rows,
      row.purchaseOrder = po ∧ row.modelNumber = m ∧ row.number py = some n ∧
        row.claimedAt = none ∧ row.inventoryId ≠ some id := by
  simp only [openNumbers, mem_numbersOf, Db.unclaimedForPo_claim, List.mem_filter,
    Db.mem_unclaimedForPo, decide_eq_true_eq]
  exact exists_congr fun row => by tauto

theorem mem_claimedNumbers_claim :
    n ∈ claimedNumbers py (db.claim (some id) t) po m ↔ ∃ row ∈ db.poInventory.rows,
      row.purchaseOrder = po ∧ row.modelNumber = m ∧ row.number py = some n ∧
        (row.claimedAt ≠ none ∨ row.inventoryId = some id) := by
  simp only [mem_claimedNumbers, Db.mem_claim]
  constructor
  case mp =>
    rintro ⟨_, ⟨row, hr, rfl⟩, h⟩
    refine ⟨row, hr, ?_⟩
    split at h
    case isTrue hi => exact ⟨h.1, h.2.1, h.2.2.1, .inr hi.1⟩
    case isFalse   => exact ⟨h.1, h.2.1, h.2.2.1, .inl h.2.2.2⟩
  case mpr =>
    rintro ⟨row, hr, hp, hm, hn, hc⟩
    refine ⟨_, ⟨row, hr, rfl⟩, ?_⟩
    split
    case isTrue    => exact ⟨hp, hm, hn, Option.some_ne_none _⟩
    case isFalse h => exact ⟨hp, hm, hn, hc.elim (fun hc => hc) fun hi hn => h ⟨hi, hn⟩⟩

end

-- ### Scans

section

variable {s : Scan py} {w w' : World} {r : ReceivingRecord} {row : PoRow} {id t : String} {k : Int}

-- A claim of an open unit of the model moves its number from the open ones to the claimed ones.
theorem numbers_claim (h : Numbered py db po m) (hr : row ∈ db.unclaimedForPo po)
    (hm : row.modelNumber = m) (hid : row.inventoryId = some id) (hk : row.number py = some k) :
    openNumbers py (db.claim (some id) t) po m = (openNumbers py db po m).erase k ∧
      claimedNumbers py (db.claim (some id) t) po m = insert k (claimedNumbers py db po m) := by
  have ⟨hmem, hp, hopen⟩ := Db.mem_unclaimedForPo.mp hr
  have hiff {row' : PoRow} (hr' : row' ∈ db.poInventory.rows) (hp' : row'.purchaseOrder = po)
      (hm' : row'.modelNumber = m) : row'.number py = some k ↔ row'.inventoryId = some id := by
    constructor
    case mp  => exact fun hk' => h.distinct row' hr' row hmem hp' hp hm' hm (hk'.trans hk.symm) ▸ hid
    case mpr => exact fun hi => (number_congr py (hi.trans hid.symm)).trans hk
  constructor
  · ext n
    rw [mem_openNumbers_claim, Finset.mem_erase, mem_openNumbers]
    constructor
    case mp =>
      rintro ⟨row', hr', hp', hm', hn, hc, hi⟩
      refine ⟨?_, row', hr', hp', hm', hn, hc⟩
      rintro rfl
      exact hi ((hiff hr' hp' hm').mp hn)
    case mpr =>
      rintro ⟨hne, row', hr', hp', hm', hn, hc⟩
      refine ⟨row', hr', hp', hm', hn, hc, fun hi => hne ?_⟩
      exact Option.some.inj (hn.symm.trans ((hiff hr' hp' hm').mpr hi))
  · ext n
    rw [mem_claimedNumbers_claim, Finset.mem_insert, mem_claimedNumbers]
    constructor
    case mp =>
      rintro ⟨row', hr', hp', hm', hn, hc | hi⟩
      · exact .inr ⟨row', hr', hp', hm', hn, hc⟩
      · exact .inl (Option.some.inj (hn.symm.trans ((hiff hr' hp' hm').mpr hi)))
    case mpr =>
      rintro (rfl | ⟨row', hr', hp', hm', hn, hc⟩)
      · exact ⟨row, hmem, hp, hm, hk, .inr hid⟩
      · exact ⟨row', hr', hp', hm', hn, .inl hc⟩

-- A claim of a unit of another model, or another purchase order, does not.
theorem numbers_claim_of_not (py : PyStd) (hr : row ∈ db.poInventory.rows)
    (hn : ¬(row.purchaseOrder = po ∧ row.modelNumber = m)) (hid : row.inventoryId = some id) :
    openNumbers py (db.claim (some id) t) po m = openNumbers py db po m ∧
      claimedNumbers py (db.claim (some id) t) po m = claimedNumbers py db po m := by
  have hne {row' : PoRow} (hr' : row' ∈ db.poInventory.rows) (hp' : row'.purchaseOrder = po)
      (hm' : row'.modelNumber = m) : row'.inventoryId ≠ some id := by
    intro hi
    obtain rfl := Relational.Table.eq_of_key_eq hr' hr hi hid
    exact hn ⟨hp', hm'⟩
  constructor
  · ext n
    rw [mem_openNumbers_claim, mem_openNumbers]
    constructor
    case mp  => exact fun ⟨row', hr', hp', hm', hk, hc, _⟩ => ⟨row', hr', hp', hm', hk, hc⟩
    case mpr => exact fun ⟨row', hr', hp', hm', hk, hc⟩ =>
      ⟨row', hr', hp', hm', hk, hc, hne hr' hp' hm'⟩
  · ext n
    rw [mem_claimedNumbers_claim, mem_claimedNumbers]
    constructor
    case mp => exact fun ⟨row', hr', hp', hm', hk, hc⟩ =>
      ⟨row', hr', hp', hm', hk, hc.resolve_right (hne hr' hp' hm')⟩
    case mpr => exact fun ⟨row', hr', hp', hm', hk, hc⟩ => ⟨row', hr', hp', hm', hk, .inl hc⟩

-- The number of the row that the next scan of the model is given: the first open one in the table.
def firstOpen (py : PyStd) (db : Db) (po m : String) : Option Int :=
  ((db.unclaimedForPo po).find? (fun row => row.modelNumber = m)).bind (·.number py)

-- Where the barcode of a scan resolves to the model, the first open row of the model has the lowest
-- of its open numbers.
def LowestFirst (po m : String) (w : World) (t : Scan py × ReceivingRecord) : Prop :=
  t.1.poNumber = po → bestModel py t.1.barcode (w.db.unclaimedForPo po) = some m →
    firstOpen py w.db po m = next (openNumbers py w.db po m)

-- What a completed scan does to the numbers of a model.
inductive Serves (po m : String) (s : Scan py) (w w' : World) : Prop
  | taken {k : Int} : s.poNumber = po → bestModel py s.barcode (w.db.unclaimedForPo po) = some m →
      firstOpen py w.db po m = some k → k ∈ openNumbers py w.db po m →
      openNumbers py w'.db po m = (openNumbers py w.db po m).erase k →
      claimedNumbers py w'.db po m = insert k (claimedNumbers py w.db po m) → Serves po m s w w'
  | kept : ¬(s.poNumber = po ∧ bestModel py s.barcode (w.db.unclaimedForPo po) = some m) →
      openNumbers py w'.db po m = openNumbers py w.db po m →
      claimedNumbers py w'.db po m = claimedNumbers py w.db po m → Serves po m s w w'

theorem numbers_congr (py : PyStd) (po m : String) (h : db'.poInventory = db.poInventory) :
    openNumbers py db' po m = openNumbers py db po m ∧
      claimedNumbers py db' po m = claimedNumbers py db po m := by
  simp only [openNumbers, claimedNumbers, Db.unclaimedForPo, Db.claimedForPo, h, and_self]

theorem Numbered.completes (h : Numbered py w.db po m) (hc : s.Completes w w' r) :
    Numbered py w'.db po m := by
  have hcongr {db db' : Db} (he : db'.poInventory = db.poInventory) (h : Numbered py db po m) :
      Numbered py db' po m :=
    ⟨he ▸ h.numeric, he ▸ h.distinct⟩
  rcases hc.claims with ⟨row, id, _, _, _, hp⟩ | ⟨_, _, hp⟩
  · exact hcongr hp h.claim
  · exact hcongr hp h

theorem serves_of_completes (h : Numbered py w.db po m) (hc : s.Completes w w' r) :
    Serves po m s w w' := by
  rcases hc.claims with ⟨row, id, ht, hid, _, hp⟩ | ⟨ht, _, hp⟩
  · have ⟨ho, hcl⟩ := numbers_congr py po m hp
    have ⟨hb, hf⟩ := resolveRow_eq_some_iff.mp ht
    have hr := Scan.mem_of_target ht
    by_cases hours : s.poNumber = po ∧ row.modelNumber = m
    case pos =>
      obtain ⟨rfl, rfl⟩ := hours
      have ⟨k, hk⟩ := Option.isSome_iff_exists.mp (h.numeric row hr.1 hr.2.1 rfl)
      have ⟨ho', hcl'⟩ := numbers_claim (t := s.clock.claimedAt) h (mem_of_resolveRow ht) rfl hid hk
      refine .taken rfl hb ?_ ?_ (ho.trans ho') (hcl.trans hcl')
      · rw [firstOpen, hf]
        exact hk
      · exact mem_openNumbers.mpr ⟨row, hr.1, hr.2.1, rfl, hk, hr.2.2⟩
    case neg =>
      have hn : ¬(row.purchaseOrder = po ∧ row.modelNumber = m) := hr.2.1.symm ▸ hours
      have ⟨ho', hcl'⟩ := numbers_claim_of_not py (t := s.clock.claimedAt) hr.1 hn hid
      refine .kept (fun ⟨hpo, hb'⟩ => hours ⟨hpo, ?_⟩) (ho.trans ho') (hcl.trans hcl')
      rw [← hpo] at hb'
      exact Option.some.inj (hb.symm.trans hb')
  · have ⟨ho, hcl⟩ := numbers_congr py po m hp
    refine .kept ?_ ho hcl
    rintro ⟨rfl, hb⟩
    have ⟨⟨row, hr, hm⟩, _, _⟩ := bestModel_eq_some_iff.mp hb
    have hf : ∃ row', (w.db.unclaimedForPo s.poNumber).find? (fun c => c.modelNumber = m) =
        some row' :=
      Option.isSome_iff_exists.mp (List.find?_isSome.mpr ⟨row, hr, decide_eq_true hm⟩)
    obtain ⟨row', hf⟩ := hf
    have hm' : row'.modelNumber = m := by simpa using List.find?_some hf
    have ht' : s.target w.db = some row' :=
      resolveRow_eq_some_iff.mpr ⟨hm'.symm ▸ hb, hm'.symm ▸ hf⟩
    cases ht.symm.trans ht'

-- ### Runs

-- What has been claimed since `w` is, of the numbers that were open then, the lowest ones.
def FillsLowest (po m : String) (py : PyStd) (w w' : World) : Prop :=
  Head (claimedNumbers py w'.db po m \ claimedNumbers py w.db po m) (openNumbers py w.db po m)

-- The numbers in the course of a run that begins in `w`.
structure Serving (py : PyStd) (po m : String) (w w' : World) : Prop where
  numbered : Numbered py w'.db po m
  disjoint : Disjoint (openNumbers py w.db po m) (claimedNumbers py w.db po m)
  subset   : openNumbers py w'.db po m ⊆ openNumbers py w.db po m
  claimed  : claimedNumbers py w'.db po m \ claimedNumbers py w.db po m =
    openNumbers py w.db po m \ openNumbers py w'.db po m

namespace Serving

variable {w₁ : World}

theorem refl (h : Numbered py w.db po m) : Serving py po m w w where
  numbered := h
  disjoint := h.disjoint
  subset   := Finset.Subset.refl _
  claimed  := by rw [Finset.sdiff_self, Finset.sdiff_self]

theorem step (h : Serving py po m w w₁) (hc : s.Completes w₁ w' r) : Serving py po m w w' := by
  refine ⟨h.numbered.completes hc, h.disjoint, ?_, ?_⟩
  all_goals cases serves_of_completes h.numbered hc
  case refine_1.taken ho _ => exact ho ▸ (Finset.erase_subset _ _).trans h.subset
  case refine_1.kept ho _  => exact ho ▸ h.subset
  case refine_2.kept ho hcl => rw [hcl, ho, h.claimed]
  case refine_2.taken k _ _ _ hk ho hcl =>
    have hk₀ := Finset.disjoint_left.mp h.disjoint (h.subset hk)
    rw [hcl, ho, Finset.insert_sdiff_of_notMem _ hk₀, h.claimed,
      Finset.sdiff_erase (h.subset hk)]

theorem inOrder_iff (h : Serving py po m w w₁) :
    FillsLowest po m py w w₁ ↔ Tail (openNumbers py w₁.db po m) (openNumbers py w.db po m) := by
  rw [FillsLowest, h.claimed, Tail.head_sdiff_iff h.subset]

-- A scan keeps to the order exactly if the row that it is given is the lowest.
theorem step_iff (h : Serving py po m w w₁) (hc : s.Completes w₁ w' r)
    (hf : FillsLowest po m py w w₁) : FillsLowest po m py w w' ↔ LowestFirst po m w₁ (s, r) := by
  have ht := h.inOrder_iff.mp hf
  rw [(h.step hc).inOrder_iff]
  cases serves_of_completes h.numbered hc
  case kept hn ho _ => exact iff_of_true (ho ▸ ht) fun hpo hb => absurd ⟨hpo, hb⟩ hn
  case taken k hpo hb hk hmem ho _ =>
    rw [ho, ht.erase_iff hmem, LowestFirst, hk]
    exact ⟨fun h _ _ => h.symm, fun h => (h hpo hb).symm⟩

end Serving

-- In a run of completed scans the claims of a model follow its numbers exactly if every scan that
-- resolves to the model finds its open rows headed by the lowest one.
theorem fillsLowest_iff {tr : List (Scan py × ReceivingRecord)} (h : Numbered py w.db po m) :
    Trace.Always (fun w t w' => Program.Returns World.env w t.1.program w' t.2)
      (FillsLowest po m py w) w tr ↔
    Trace.Each (fun w t w' => Program.Returns World.env w t.1.program w' t.2)
      (LowestFirst po m) w tr := by
  have hw : Serving py po m w w := .refl h
  refine Trace.always_iff_each (I := Serving py po m w) (fun hs hI => ?_) (fun hs hI hf => ?_) hw ?_
  · exact hI.step (Scan.returns_iff.mp hs)
  · exact hI.step_iff (Scan.returns_iff.mp hs) hf
  · exact hw.inOrder_iff.mpr .refl

-- ### Catalogs in order

-- The open rows of the model, as they lie in the table.
def openRows (db : Db) (po m : String) : List PoRow :=
  (db.unclaimedForPo po).filter (fun row => row.modelNumber = m)

-- Row by row, the numbers go up.
def RowsAscend (py : PyStd) (rows : List PoRow) : Prop :=
  rows.Pairwise (fun r r' => ∀ n n', r.number py = some n → r'.number py = some n' → n < n')

theorem openRows_completes (hc : s.Completes w w' r) :
    (openRows w'.db po m).Sublist (openRows w.db po m) := by
  rcases hc.claims with ⟨row, id, _, _, _, hp⟩ | ⟨_, _, hp⟩
  · have hu : w'.db.unclaimedForPo po =
        (w.db.claim (some id) s.clock.claimedAt).unclaimedForPo po := by
      rw [Db.unclaimedForPo, hp, Db.unclaimedForPo]
    rw [openRows, hu, Db.unclaimedForPo_claim]
    exact List.filter_sublist.filter _
  · rw [openRows, Db.unclaimedForPo, hp]
    exact List.Sublist.refl _

theorem firstOpen_eq_next (h : Numbered py db po m) (ha : RowsAscend py (openRows db po m)) :
    firstOpen py db po m = next (openNumbers py db po m) := by
  have hopen : openNumbers py db po m = ((openRows db po m).filterMap (·.number py)).toFinset := rfl
  have hfirst : firstOpen py db po m = (openRows db po m).head?.bind (·.number py) := by
    rw [firstOpen, openRows, List.head?_filter]
  have hnum : ∀ row ∈ openRows db po m, (row.number py).isSome := fun row hr =>
    have ⟨hr, hm⟩ := List.mem_filter.mp hr
    have ⟨hr, hp, _⟩ := Db.mem_unclaimedForPo.mp hr
    h.numeric row hr hp (by simpa using hm)
  rw [hopen, hfirst]
  generalize openRows db po m = rows at ha hnum
  cases rows
  case nil => rfl
  case cons row rows =>
    have ⟨k, hk⟩ := Option.isSome_iff_exists.mp (hnum row List.mem_cons_self)
    have hbelow := (List.pairwise_cons.mp ha).1
    rw [List.head?_cons, Option.bind_some, hk, eq_comm, next_eq_some_iff,
      List.filterMap_cons_some hk, List.toFinset_cons]
    refine le_antisymm (Finset.min_le (Finset.mem_insert_self k _)) (Finset.le_min fun n hn => ?_)
    rw [Finset.mem_insert, List.mem_toFinset, List.mem_filterMap] at hn
    rcases hn with rfl | ⟨row', hr', hn⟩
    · exact le_rfl
    · exact WithTop.coe_le_coe.mpr (hbelow row' hr' k n hk hn).le

-- Where the catalog lists the units of the model in the order of their numbers, every run of scans
-- keeps to it.
theorem fillsLowest_of_ascending {tr : List (Scan py × ReceivingRecord)}
    (h : Numbered py w.db po m) (ha : RowsAscend py (openRows w.db po m)) :
    Trace.Always (fun w t w' => Program.Returns World.env w t.1.program w' t.2)
      (FillsLowest po m py w) w tr := by
  refine (fillsLowest_iff h).mpr fun tr₁ t tr₂ w₁ w₂ _ htr _ _ _ => ?_
  have hI : Numbered py w₁.db po m ∧ (openRows w₁.db po m).Sublist (openRows w.db po m) := by
    refine Trace.invariant (I := fun w₁ => Numbered py w₁.db po m ∧
      (openRows w₁.db po m).Sublist (openRows w.db po m)) (fun hs ⟨hn, hsub⟩ => ?_) htr
      ⟨h, List.Sublist.refl _⟩
    have hc := Scan.returns_iff.mp hs
    exact ⟨hn.completes hc, (openRows_completes hc).trans hsub⟩
  exact firstOpen_eq_next hI.1 (ha.sublist hI.2)

end

-- ### A catalog out of order

def World.descending : World := .loaded [.unit "2" "P" "A", .unit "1" "P" "A"]

theorem numbered_descending : Numbered .ascii World.descending.db "P" "A" where
  numeric  := by decide +kernel
  distinct := by decide +kernel

theorem scans_descending :
    ∃ r, Scans .ascii .descending [(.sample, r)] (Scan.sample.after .descending) := by
  have ha : Scan.sample.answer .descending = some .received := by decide +kernel
  have ⟨r, hc, _⟩ := Scan.completes_of_answer ha
  exact ⟨r, .single (Scan.returns_iff.mpr hc)⟩

-- Of two units in the order of their numbers, the lower one is claimed first.
theorem fillsLowest_sample :
    FillsLowest "P" "A" .ascii .twoUnits (Scan.sample.after .twoUnits) := by
  have ha : Scan.sample.answer .twoUnits = some .received := by decide +kernel
  have ⟨r, hc, _⟩ := Scan.completes_of_answer ha
  have hn : Numbered .ascii World.twoUnits.db "P" "A" := ⟨by decide +kernel, by decide +kernel⟩
  have hl : LowestFirst "P" "A" .twoUnits (Scan.sample, r) := fun _ _ => by decide +kernel
  have hs := Scan.returns_iff.mpr hc
  exact (fillsLowest_iff hn).mpr (.single hl) [(Scan.sample, r)] [] _ rfl (.single hs)

theorem not_fillsLowest :
    ¬∀ (w w' : World) (tr : List (Scan .ascii × ReceivingRecord)) (po m : String),
      Numbered .ascii w.db po m → Scans .ascii w tr w' → FillsLowest po m .ascii w w' := by
  intro h
  have ⟨r, hs⟩ := scans_descending
  have hf := h _ _ _ "P" "A" numbered_descending hs
  have hd := hf.downward (x := 2) (y := 1) (by decide +kernel) (by decide +kernel) (by decide)
  revert hd
  decide +kernel

end ReceivingApp
