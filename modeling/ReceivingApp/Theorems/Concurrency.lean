import ReceivingApp.Theorems.Ledger

open Interaction

namespace ReceivingApp

variable {py : PyStd}

-- ### The stages of a scan

namespace Scan

-- What may be left of a scan that has saved nothing.
inductive Pending (s : Scan py) : ServiceM ReceivingRecord → Prop
  | throw (e : PyExc) : Pending s (.throw e)
  | alreadyScanned (dup : ClaimedRow) : Pending s (.pure (s.alreadyScanned dup))
  | query {β : Type} {op : Port β} {k : Except PyExc β → ServiceM ReceivingRecord} :
      Port.KeepsLedger β op → (∀ x, Pending s (k x)) → Pending s (.call op k)
  | claim (row : PoRow) (id : String) : Pending s (s.claim row id)
  | miss : Pending s s.miss

-- What may be left of a scan that has saved the record.
inductive Settling (r : ReceivingRecord) : ServiceM ReceivingRecord → Prop
  | pure : Settling r (.pure r)
  | throw (e : PyExc) : Settling r (.throw e)
  | call {β : Type} {op : Port β} {k : Except PyExc β → ServiceM ReceivingRecord} :
      Port.KeepsLedger β op → (∀ x, Settling r (k x)) → Settling r (.call op k)

theorem Settling.perform_bind {r : ReceivingRecord} {β : Type} {op : Port β}
    {f : β → ServiceM ReceivingRecord} (hop : Port.KeepsLedger β op) (hf : ∀ b, Settling r (f b)) :
    Settling r (Program.perform op >>= f) := by
  apply Settling.call hop
  intro x
  cases x
  case ok b    => exact hf b
  case error e => exact .throw e

theorem Pending.perform_bind {s : Scan py} {β : Type} {op : Port β}
    {f : β → ServiceM ReceivingRecord} (hop : Port.KeepsLedger β op) (hf : ∀ b, Pending s (f b)) :
    Pending s (Program.perform op >>= f) := by
  apply Pending.query hop
  intro x
  cases x
  case ok b    => exact hf b
  case error e => exact .throw e

theorem settling_emitOnce (clock : Clock py) (sink : SinkId) (r : ReceivingRecord) :
    Settling r (emitOnce clock sink r) := by
  simp only [emitOnce]
  refine .perform_bind trivial fun e => ?_
  split
  case isTrue => exact .pure
  case isFalse =>
    split <;> exact .perform_bind trivial fun _ => .perform_bind trivial fun _ => .pure

theorem pending_program (s : Scan py) : Pending s s.program := by
  rw [program_eq]
  refine .perform_bind trivial fun candidates => ?_
  cases h : resolveRow py s.barcode candidates
  case none =>
    by_cases hs : s.serial = ""
    case pos =>
      rw [afterRead_of_blank h hs]
      exact .miss
    case neg =>
      rw [afterRead_of_none h hs]
      refine .perform_bind trivial fun dup => ?_
      cases dup
      case none     => exact .miss
      case some dup => exact .alreadyScanned dup
  case some row =>
    cases hid : row.inventoryId
    case none =>
      have hm := afterRead_of_null h hid
      exact hm ▸ .throw _
    case some id =>
      rw [afterRead_of_some h hid]
      exact .claim row id

end Scan

-- ### The guard

-- No receipt with another serial is stored under the receiving_id of the record.
def NoOverwrite (r : ReceivingRecord) (db : Db) : Prop :=
  ∀ ri ∈ db.receivingItems.rows, ri.matchStatus = .received → ri.receivingId = r.receivingId →
    ri.serial = r.serial

instance (r : ReceivingRecord) (db : Db) : Decidable (NoOverwrite r db) :=
  inferInstanceAs (Decidable (∀ _ ∈ _, _))

-- The row of the inventory_id is there, and nobody has claimed it.
def StillOpen (id : Option String) (db : Db) : Prop :=
  ∃ row ∈ db.poInventory.rows, row.inventoryId = id ∧ row.claimedAt = none

instance (id : Option String) (db : Db) : Decidable (StillOpen id db) :=
  inferInstanceAs (Decidable (∃ _ ∈ _, _))

-- A claim finds its row as open as it was when the scan read it, and no save overwrites a receipt.
def careful : ∀ β, Port β → World → Bool
  | _, .claimAndSave id _ _ r, w => StillOpen id w.db ∧ NoOverwrite r w.db
  | _, .saveRecord _ r, w        => NoOverwrite r w.db
  | _, _, _                      => true

def carefulEnv : Program.Env Port PyExc World :=
  Program.Guarded World.env (fun β op w => careful β op w)

-- ### The invariant

-- What is left of a scan and the record it has saved, if it has.
def Stage (s : Scan py) (q : ServiceM ReceivingRecord) : Option ReceivingRecord → Prop
  | none   => s.Pending q
  | some r => Scan.Settling r q ∧ r.serial = s.serial

variable {ι : Type} {S : ι → Scan py} {w w' : World}
  {Q : ι → ServiceM ReceivingRecord}

-- `D` tells which scans have saved which record. What was received has its receipt and its claim,
-- and no two scans have received the same unit.
structure Ordered (S : ι → Scan py) (D : ι → Option ReceivingRecord) (w : World)
    (Q : ι → ServiceM ReceivingRecord) : Prop where
  stage    : ∀ i, Stage (S i) (Q i) (D i)
  receipt  : ∀ i r, D i = some r → r.matchStatus = .received → r.receipt ∈ w.db.ledger.receipts
  claimed  : ∀ i r, D i = some r → r.matchStatus = .received → r.inventoryId ∈ w.db.ledger.claimed
  distinct : ∀ i j r r', i ≠ j → D i = some r → D j = some r' → r.matchStatus = .received →
    r'.matchStatus = .received → r.inventoryId ≠ r'.inventoryId

theorem noOverwrite_iff {r : ReceivingRecord} {db : Db} :
    NoOverwrite r db ↔
      ∀ c ∈ db.ledger.receipts, c.receivingId = r.receivingId → c.serial = r.serial := by
  constructor
  case mp  => rintro h _ ⟨row, hr, hs, rfl⟩ hrid; exact h row hr hs hrid
  case mpr => exact fun h row hr hs hrid => h row.receipt ⟨row, hr, hs, rfl⟩ hrid

theorem stillOpen_iff {id : String} {db : Db} :
    StillOpen (some id) db ↔ id ∈ db.ledger.listed ∧ id ∉ db.ledger.claimed := by
  simp only [Db.mem_listed_iff, Db.mem_claimed_iff, Db.claimOf]
  constructor
  case mp =>
    rintro ⟨row, hr, hid, hc⟩
    have hf : db.poInventory.find id = some row := Relational.Table.find_eq_some_iff.mpr ⟨hr, hid⟩
    simp [hf, hc]
  case mpr =>
    rintro ⟨hl, hc⟩
    obtain ⟨row, hf⟩ := Option.isSome_iff_exists.mp hl
    obtain ⟨hr, hid⟩ := Relational.Table.find_eq_some_iff.mp hf
    exact ⟨row, hr, hid, by simpa [hf] using hc⟩

namespace Ordered

variable {D : ι → Option ReceivingRecord}

theorem init (S : ι → Scan py) (w : World) :
    Ordered S (fun _ => none) w fun i => (S i).program where
  stage i := (S i).pending_program
  receipt _ _ h            := absurd h (Option.some_ne_none _).symm
  claimed _ _ h            := absurd h (Option.some_ne_none _).symm
  distinct _ _ _ _ _ h _ _ := absurd h (Option.some_ne_none _).symm

theorem saved_of_pure (h : Ordered S D w Q) {i : ι} {r : ReceivingRecord} (hi : Q i = .pure r)
    (hr : r.matchStatus = .received) : D i = some r := by
  have hs := h.stage i
  rw [hi] at hs
  cases hD : D i
  case none =>
    rw [hD] at hs
    generalize hq : Program.pure r = q at hs
    cases hs <;> cases hq
    cases hr
  case some r' =>
    rw [hD] at hs
    obtain ⟨⟨⟩, _⟩ := hs
    rfl

variable [DecidableEq ι]

-- A call that leaves the ledger alone.
theorem keep (h : Ordered S D w Q) (hl : w'.db.ledger = w.db.ledger) {i : ι}
    {q : ServiceM ReceivingRecord} (hq : Stage (S i) q (D i)) :
    Ordered S D w' (Function.update Q i q) where
  stage j := by
    by_cases hj : j = i
    case pos => subst hj; rwa [Function.update_self]
    case neg => rw [Function.update_of_ne hj]; exact h.stage j
  receipt  := hl ▸ h.receipt
  claimed  := hl ▸ h.claimed
  distinct := h.distinct

-- A call that fails while nothing has been saved.
theorem fail {β : Type} {op : Port β} {e : PyExc} (h : Ordered S D w Q) {i : ι} (hD : D i = none)
    (hE : World.env β op w (.error e) w') : Ordered S D w' (Function.update Q i (.throw e)) := by
  refine h.keep (by rw [World.env_error hE]) ?_
  rw [hD]
  exact .throw e

-- A save that overwrites none of the receipts.
theorem save (hinj : Function.Injective fun i => (S i).serial) (h : Ordered S D w Q) {i : ι}
    {r : ReceivingRecord} {q : ServiceM ReceivingRecord} (hq : Stage (S i) q (some r))
    (hno : NoOverwrite r w.db) {l : Ledger} (hl : w'.db.ledger = l)
    (hreceipts : (w.db.ledger.void r.receivingId).receipts ⊆ l.receipts)
    (hclaimed : w.db.ledger.claimed ⊆ l.claimed)
    (hr : r.matchStatus = .received →
      r.receipt ∈ l.receipts ∧ r.inventoryId ∈ l.claimed ∧ r.inventoryId ∉ w.db.ledger.claimed) :
    Ordered S (Function.update D i (some r)) w' (Function.update Q i q) := by
  subst hl
  have hserial {j : ι} {r' : ReceivingRecord} (hj : D j = some r') : r'.serial = (S j).serial := by
    have hs := h.stage j
    rw [hj] at hs
    exact hs.2
  have hcases {j : ι} {r' : ReceivingRecord} (hj : Function.update D i (some r) j = some r') :
      (j = i ∧ r' = r) ∨ (j ≠ i ∧ D j = some r') := by
    by_cases hji : j = i
    case pos =>
      subst hji
      rw [Function.update_self] at hj
      exact .inl ⟨rfl, (Option.some.inj hj).symm⟩
    case neg => rw [Function.update_of_ne hji] at hj; exact .inr ⟨hji, hj⟩
  constructor
  case stage =>
    intro j
    by_cases hj : j = i
    case pos => subst hj; rwa [Function.update_self, Function.update_self]
    case neg => rw [Function.update_of_ne hj, Function.update_of_ne hj]; exact h.stage j
  case receipt =>
    intro j r' hj hr'
    rcases hcases hj with ⟨rfl, rfl⟩ | ⟨hji, hj⟩
    · exact (hr hr').1
    · have hc := h.receipt j r' hj hr'
      refine hreceipts ⟨hc, fun hrid => hji (hinj ?_)⟩
      have he : r'.serial = r.serial := noOverwrite_iff.mp hno _ hc hrid
      exact (hserial hj).symm.trans (he.trans hq.2)
  case claimed =>
    intro j r' hj hr'
    rcases hcases hj with ⟨rfl, rfl⟩ | ⟨_, hj⟩
    · exact (hr hr').2.1
    · exact hclaimed (h.claimed j r' hj hr')
  case distinct =>
    intro j k r₁ r₂ hjk hj hk hr₁ hr₂
    rcases hcases hj with ⟨hji, rfl⟩ | ⟨_, hj'⟩ <;> rcases hcases hk with ⟨hki, rfl⟩ | ⟨_, hk'⟩
    · exact absurd (hji.trans hki.symm) hjk
    · exact fun he => (hr hr₁).2.2 (he ▸ h.claimed k r₂ hk' hr₂)
    · exact fun he => (hr hr₂).2.2 (he ▸ h.claimed j r₁ hj' hr₁)
    · exact h.distinct j k r₁ r₂ hjk hj' hk' hr₁ hr₂

theorem step (hinj : Function.Injective fun i => (S i).serial)
    {c c' : World × (ι → ServiceM ReceivingRecord)}
    (hstep : Program.Pool.Step carefulEnv c c') (h : ∃ D, Ordered S D c.1 c.2) :
    ∃ D, Ordered S D c'.1 c'.2 := by
  obtain ⟨D, h⟩ := h
  cases hstep
  case mk w w' Q β op k x i hQ hE =>
    obtain ⟨hE, hguard⟩ := hE
    have hstage := h.stage i
    simp only at hstage
    rw [hQ] at hstage
    cases hD : D i
    case some r =>
      rw [hD] at hstage
      have ⟨hs, hserial⟩ := hstage
      cases hs
      case call hop hk =>
        refine ⟨D, h.keep (World.env_keepsLedger hop hE).2 ?_⟩
        rw [hD]
        exact ⟨hk x, hserial⟩
    case none =>
      rw [hD] at hstage
      generalize hq : Program.call op k = q at hstage
      cases hstage
      case throw          => cases hq
      case alreadyScanned => cases hq
      case query hop hk   =>
        cases hq
        exact ⟨D, h.keep (World.env_keepsLedger hop hE).2 (by rw [hD]; exact hk x)⟩
      case claim row id =>
        change Program.call op k = Program.call _ _ at hq
        cases hq
        cases x
        case error e => exact ⟨D, h.fail hD hE⟩
        case ok b =>
          cases World.env_ok_iff.mp hE
          simp only [careful, decide_eq_true_eq] at hguard
          have ⟨hopen, hno⟩ := hguard
          have ⟨hlisted, hn⟩ := stillOpen_iff.mp hopen
          exact ⟨_, h.save hinj ⟨Scan.settling_emitOnce .., rfl⟩ hno Scan.ledger_claimed
            (Set.subset_insert _ _) Set.subset_union_left
            fun _ => ⟨.inl rfl, .inr ⟨hlisted, rfl⟩, hn⟩⟩
      case miss =>
        change Program.call op k = Program.call _ _ at hq
        cases hq
        cases x
        case error e => exact ⟨D, h.fail hD hE⟩
        case ok b =>
          cases World.env_ok_iff.mp hE
          simp only [careful, decide_eq_true_eq] at hguard
          exact ⟨_, h.save hinj ⟨Scan.settling_emitOnce .., rfl⟩ hguard Scan.ledger_missed
            subset_rfl subset_rfl nofun⟩

end Ordered

-- No unit is received twice, and no receipt is overwritten.
structure ReceivesOnce (S : ι → Scan py) (w : World) (Q : ι → ServiceM ReceivingRecord) : Prop where
  distinct : ∀ i j r r', i ≠ j → Q i = .pure r → Q j = .pure r' → r.matchStatus = .received →
    r'.matchStatus = .received → r.inventoryId ≠ r'.inventoryId
  kept     : ∀ i r, Q i = .pure r → r.matchStatus = .received →
    ∃ row, w.db.receivingItems.find r.receivingId = some row ∧ row.serial = (S i).serial

-- Scanners with different serials never get in each other's way as long as their calls are careful.
theorem receivesOnce_of_careful [DecidableEq ι] (hinj : Function.Injective fun i => (S i).serial)
    {w₀ : World} (h : Program.Pool.Steps carefulEnv (w₀, fun i => (S i).program) (w, Q)) :
    ReceivesOnce S w Q := by
  have ⟨D, hD⟩ := h.invariant (I := fun c => ∃ D, Ordered S D c.1 c.2) (Ordered.step hinj)
    ⟨_, Ordered.init S w₀⟩
  constructor
  case distinct =>
    intro i j r r' hij hi hj hr hr'
    exact hD.distinct i j r r' hij (hD.saved_of_pure hi hr) (hD.saved_of_pure hj hr') hr hr'
  case kept =>
    intro i r hi hr
    have hs := hD.saved_of_pure hi hr
    have ⟨row, hrow, _, he⟩ := hD.receipt i r hs hr
    have hserial := hD.stage i
    rw [hs] at hserial
    refine ⟨row, ?_, (congrArg Receipt.serial he).trans hserial.2⟩
    have hrid : row.receivingId = r.receivingId := congrArg Receipt.receivingId he
    exact hrid ▸ ItemRow.mem_iff_find.mp hrow

-- ### Two scanners

-- Two scanners at one model, each with a unit of its own in hand.
def scanners (i : Bool) : Scan .ascii := ⟨"A", "P", if i then "S1" else "S2", 0, .sample⟩

theorem scanners_injective : Function.Injective fun i => (scanners i).serial := by
  unfold Function.Injective
  decide

def schedule₁ : List Bool := List.replicate 5 true ++ List.replicate 5 false

def schedule₂ : List Bool := [true, false] ++ List.replicate 4 true ++ List.replicate 4 false

def played (guard : ∀ β, Port β → World → Bool) (w : World) (schedule : List Bool) :
    Option (World × (Bool → ServiceM ReceivingRecord)) :=
  Program.Pool.play World.handle guard schedule (w, fun i => (scanners i).program)

-- What a scanner has come to.
def outcome (q : ServiceM ReceivingRecord) : Option (MatchStatus × String) :=
  q.value.map fun r => (r.matchStatus, r.inventoryId)

-- One after the other they receive two units.
theorem receivesOnce_scanners :
    ∃ w Q, ReceivesOnce scanners w Q ∧ outcome (Q true) = some (.received, "1") ∧
      outcome (Q false) = some (.received, "2") := by
  have hp : (played careful .twoUnits schedule₁).map
      (fun c => (outcome (c.2 true), outcome (c.2 false))) =
      some (some (.received, "1"), some (.received, "2")) := by decide +kernel
  have ⟨⟨w, Q⟩, hplay, ho⟩ := Option.map_eq_some_iff.mp hp
  have h : Program.Pool.Steps carefulEnv (.twoUnits, fun i => (scanners i).program) (w, Q) :=
    Program.Pool.steps_play (fun _ op s => .done op s) hplay
  exact ⟨w, Q, receivesOnce_of_careful scanners_injective h, Prod.mk.inj ho⟩

-- Where both read before one of them claims, both receive the same unit.
theorem not_receivesOnce :
    ¬∀ (S : Bool → Scan .ascii) (w₀ w : World) (Q : Bool → ServiceM ReceivingRecord),
      Function.Injective (fun i => (S i).serial) → (∀ i, (S i).serial ≠ "") →
      Program.Pool.Steps World.env (w₀, fun i => (S i).program) (w, Q) → ReceivesOnce S w Q := by
  intro hall
  have hp : (played (fun _ _ _ => true) .oneUnit schedule₂).map
      (fun c => (outcome (c.2 true), outcome (c.2 false))) =
      some (some (.received, "1"), some (.received, "1")) := by decide +kernel
  have ⟨⟨w, Q⟩, hplay, ho⟩ := Option.map_eq_some_iff.mp hp
  have hsteps : Program.Pool.Steps World.env (.oneUnit, fun i => (scanners i).program) (w, Q) :=
    (Program.Pool.steps_play (fun _ op s => .done op s) hplay).mono And.left
  have ⟨ho₁, ho₂⟩ := Prod.mk.inj ho
  have ⟨r₁, hv₁, h₁⟩ := Option.map_eq_some_iff.mp ho₁
  have ⟨r₂, hv₂, h₂⟩ := Option.map_eq_some_iff.mp ho₂
  have ⟨hr₁, hid₁⟩ := Prod.mk.inj h₁
  have ⟨hr₂, hid₂⟩ := Prod.mk.inj h₂
  have honce := hall scanners _ w Q scanners_injective (by decide) hsteps
  exact honce.distinct true false r₁ r₂ (by decide) (Program.eq_pure_of_value hv₁)
    (Program.eq_pure_of_value hv₂) hr₁ hr₂ (hid₁.trans hid₂.symm)

end ReceivingApp
