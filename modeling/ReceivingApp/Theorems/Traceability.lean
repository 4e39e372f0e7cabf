import ReceivingApp.Services.ModelResolution
import ReceivingApp.Theorems.Delivery
import ReceivingApp.Theorems.Passes

open Interaction

namespace ReceivingApp

-- ### What the processes expect of each other

inductive Fact
  | posted (receivingId : String)
  | saved (t : Ticket)
  | ready (u : UnitTexts)

namespace Site

def Holds : Fact → Site → Prop
  | .posted id, s => id ∈ s.shop.posted
  | .saved t, s   => t ∈ s.shop.saved
  | .ready u, s   => s.shop.Receives u

-- A record is marked once it is posted, and emitted once it is saved. What is saved can be read
-- back.
def serviceDiscipline (py : PyStd) : Program.Discipline Port PyExc Fact where
  allows
    | _, .markEmitted _ id, F           => .posted id ∈ F
    | _, .emit _ record, F              => .saved record.ticket ∈ F
    | _, .saveRecord _ record, _        => BlankOrIso py record.timestamp
    | _, .claimAndSave _ _ _ record, _  => BlankOrIso py record.timestamp
    | _, _, _                           => True
  teaches
    | _, .emit _ record, .ok _             => {.posted record.receivingId}
    | _, .surfaceAttention _ record, .ok _ => {.posted record.receivingId}
    | _, .saveRecord _ record, .ok _       => {.saved record.ticket}
    | _, .claimAndSave _ _ _ record, .ok _ => {.saved record.ticket}
    | _, .getPending, .ok rows             => {f | ∃ row ∈ rows, f = .saved row.ticket}
    | _, _, _                              => ∅
  mono {β op F F'} hF h := by
    cases op
    case markEmitted | emit => exact hF h
    all_goals exact h

-- An adapter creates an item for the robot for a saved record only, and adds to its set what it has
-- posted. The robot receives what it has found on the board, and puts nothing into the READY group.
def Allows (py : PyStd) : ∀ β, SiteCall β → Set Fact → Prop
  | _, .repository op _, F                 => (serviceDiscipline py).allows _ op F
  | _, .adapter (.create _ _ item), F      => item.group = .ready →
    ∃ t, .saved t ∈ F ∧ t.matchStatus = .received ∧ t.texts = item.texts
  | _, .adapter (.remember _ id), F        => .posted id ∈ F
  | _, .robot (.receiveItem call), F       => .ready call.texts ∈ F
  | _, .robot (.mutate m), _               =>
    ∀ item : BoardItem, (item.mutate m).group = .ready → item.group = .ready
  | _, _, _ => True

def Teaches (py : PyStd) : ∀ β, SiteCall β → Except PyExc β → Set Fact
  | _, .repository op _, r                  => (serviceDiscipline py).teaches _ op r
  | _, .adapter (.isSeen _ id), .ok isSeen  => {f | isSeen ∧ f = .posted id}
  | _, .adapter (.create _ id _), .ok _     => {.posted id}
  | _, .robot .pollReady, .ok items         => {f | ∃ item ∈ items, f = .ready item.call.texts}
  | _, _, _                                 => ∅

def discipline (py : PyStd) : Program.Discipline SiteCall PyExc Fact where
  allows  := Allows py
  teaches := Teaches py
  mono {β op F F'} hF h := by
    rcases op with ⟨op, _⟩ | op | op | op
    case repository => exact (serviceDiscipline py).mono hF h
    all_goals cases op
    case adapter.create =>
      intro hg
      have ⟨t, ht, hr⟩ := h hg
      exact ⟨t, hF ht, hr⟩
    case adapter.remember | robot.receiveItem => exact hF h
    all_goals exact h

-- ### What every call keeps

-- What stands in the READY group and what the robot has attempted to receive are saved records.
structure Kept (s : Site) : Prop where
  shop   : s.shop.Kept
  ready  : ∀ item ∈ s.robot.board.rows, item.group = .ready → s.shop.Receives item.texts
  traced : ∀ a ∈ s.robot.attempts, s.shop.Receives a.call.texts

theorem onBoard_group {item : CreatedItem} {itemId : String}
    (h : (item.onBoard itemId).group = .ready) : item.group = .ready := by
  simp only [CreatedItem.onBoard] at h
  cases hg : item.group <;> simp [hg, SinkGroup.onBoard] at h ⊢

section Steps

variable {py : PyStd} {s s' : Site} {β : Type} {r : Except PyExc β}

-- An item that an adapter creates is on the list of all created items.
theorem kept_adapts {op : AdapterCall β} {sh : Shop} {created : Option CreatedItem}
    (hk : s.shop.Kept) (ha : (discipline py).allows β (.adapter op) {f | Holds f s})
    (h : Adapts β op s.shop r created sh) :
    sh.Kept ∧ s.shop.Grows sh ∧ ∀ item ∈ created, item ∈ sh.world.board := by
  cases op
  case isSeen =>
    obtain ⟨-, rfl, rfl⟩ := h
    exact ⟨hk, .refl _, nofun⟩
  case create sink id item =>
    refine ⟨hk.creates h ha, h.grows, ?_⟩
    rintro item ⟨⟩
    cases h <;> simp [Shop.create]
  case remember sink id =>
    obtain ⟨-, rfl, rfl⟩ := h
    exact ⟨hk.remember ha, Shop.grows_remember, nofun⟩

theorem kept_adapter {op : AdapterCall β} (hk : s.Kept)
    (ha : (discipline py).allows β (.adapter op) {f | Holds f s})
    (h : Answers β (.adapter op) s r s') : s'.Kept ∧ s.shop.Grows s'.shop := by
  obtain ⟨created, board, hadapts, hlists, hrobot⟩ := h
  have ⟨hshop, hgrows, hcreated⟩ := kept_adapts hk.shop ha hadapts
  refine ⟨⟨hshop, ?ready, ?traced⟩, hgrows⟩
  case traced => rw [hrobot]; exact fun a h => hgrows.receives (hk.traced a h)
  case ready =>
    rw [hrobot]
    intro item hi hg
    cases created
    case none =>
      cases hlists
      exact hgrows.receives (hk.ready item hi hg)
    case some new =>
      obtain ⟨itemId, -, hrows⟩ := hlists
      simp only [hrows, List.mem_append, List.mem_singleton] at hi
      rcases hi with hi | rfl
      · exact hgrows.receives (hk.ready item hi hg)
      · exact hshop.listed new (hcreated new rfl) (onBoard_group hg)

theorem kept_repository {op : Port β} {hop : op.isSink = false} (hk : s.Kept)
    (ha : (discipline py).allows β (.repository op hop) {f | Holds f s})
    (h : Answers β (.repository op hop) s r s') : s'.Kept ∧ s.shop.Grows s'.shop := by
  obtain ⟨hstep, hrobot⟩ := h
  have hgrows := hstep.grows hop
  have hpermits : s.shop.Permits β op := by
    cases op
    case markEmitted => exact ha
    all_goals trivial
  refine ⟨⟨hk.shop.repository hstep hop hpermits, ?ready, ?traced⟩, hgrows⟩
  case ready  => rw [hrobot]; exact fun item hi hg => hgrows.receives (hk.ready item hi hg)
  case traced => rw [hrobot]; exact fun a h => hgrows.receives (hk.traced a h)

theorem kept_edited (hk : s.Kept) (h : Edited s s') : s'.Kept ∧ s.shop.Grows s'.shop := by
  obtain ⟨board, rfl, hready⟩ := h
  refine ⟨⟨hk.shop, fun item hi hg => ?_, hk.traced⟩, .refl _⟩
  have ⟨created, hc, hg', ht⟩ := hready item hi hg
  exact ht ▸ hk.shop.listed created hc hg'

-- Mutations that put nothing into the READY group change no texts there.
theorem ready_of_mutate {m : Mutation} {board : Board} {item : BoardItem}
    (hm : ∀ item : BoardItem, (item.mutate m).group = .ready → item.group = .ready)
    (hi : item ∈ (board.mutate m).rows) (hg : item.group = .ready) :
    ∃ item₀ ∈ board.rows, item₀.group = .ready ∧ item₀.texts = item.texts := by
  have ⟨item₀, hi₀, he⟩ := Relational.Table.mem_modify.mp hi
  refine ⟨item₀, hi₀, ?_⟩
  split at he
  case isFalse => subst he; exact ⟨hg, rfl⟩
  case isTrue =>
    subst he
    refine ⟨hm item₀ hg, ?_⟩
    cases m <;> rfl

-- What a robot does to the board and to the log of its attempts.
theorem Kept.of_robot {shop : Shop} {w w' : RobotWorld} (hk : Kept ⟨shop, w⟩)
    (hready : ∀ item ∈ w'.board.rows, item.group = .ready →
      ∃ item₀ ∈ w.board.rows, item₀.group = .ready ∧ item₀.texts = item.texts)
    (htraced : ∀ a ∈ w'.attempts, a ∈ w.attempts ∨ shop.Receives a.call.texts) :
    Kept ⟨shop, w'⟩ where
  shop := hk.shop
  ready item hi hg := by
    have ⟨item₀, hi₀, hg₀, ht⟩ := hready item hi hg
    exact ht ▸ hk.ready item₀ hi₀ hg₀
  traced a ha := (htraced a ha).elim (hk.traced a) id

theorem kept_robot {op : RobotCall β} (hk : s.Kept)
    (ha : (discipline py).allows β (.robot op) {f | Holds f s})
    (h : Answers β (.robot op) s r s') : s'.Kept ∧ s.shop.Grows s'.shop := by
  obtain ⟨shop, w⟩ := s
  obtain ⟨shop', w'⟩ := s'
  have hsame {w' : RobotWorld} (hb : w'.board = w.board) (ht : w'.attempts = w.attempts) :
      Kept ⟨shop, w'⟩ :=
    hk.of_robot (fun item hi hg => ⟨item, hb ▸ hi, hg, rfl⟩) (fun a h => .inl (ht ▸ h))
  cases op
  case sleep => exact kept_edited hk h
  all_goals
    obtain ⟨h, hs⟩ := h
    obtain rfl : shop = shop' := hs.symm
    simp only at h
    refine ⟨?_, .refl _⟩
  case pollReady => exact h.1 ▸ hk
  case close     => exact h ▸ hk
  case utcNow    => exact h.2 ▸ hk
  case writeSyncStatus =>
    rcases h with ⟨-, rfl⟩ | ⟨-, rfl⟩
    · exact hsame rfl rfl
    · exact hk
  case mutate m =>
    have hm {w' : RobotWorld} (hb : w'.board = w.board.mutate m) (ht : w'.attempts = w.attempts) :
        Kept ⟨shop, w'⟩ :=
      hk.of_robot (fun item hi hg => ready_of_mutate ha (hb ▸ hi) hg) (fun a h => .inl (ht ▸ h))
    rcases h with ⟨-, rfl⟩ | ⟨-, applied, rfl⟩
    case inl => exact hm rfl rfl
    case inr =>
      cases applied
      case false => exact hsame rfl rfl
      case true  => exact hm rfl rfl
  case receiveItem rc =>
    have hadd {w' : RobotWorld} {a : Attempt} (hb : w'.board = w.board)
        (hl : w'.attempts = w.attempts ++ [a]) (hc : a.call = rc) : Kept ⟨shop, w'⟩ := by
      refine hk.of_robot (fun item hi hg => ⟨item, hb ▸ hi, hg, rfl⟩) fun a' h => ?_
      rcases List.mem_append.mp (hl ▸ h) with h | h
      · exact .inl h
      · cases List.mem_singleton.mp h
        exact .inr (hc ▸ ha)
    rcases h with ⟨outcome, -, rfl⟩ | ⟨e, -, rfl⟩
    case inl => cases outcome <;> exact hadd rfl rfl rfl
    case inr => exact hadd rfl rfl rfl

theorem kept_step {op : SiteCall β} (hk : s.Kept)
    (ha : (discipline py).allows β op {f | Holds f s}) (h : Answers β op s r s') :
    s'.Kept ∧ s.shop.Grows s'.shop := by
  rcases op with ⟨op, hop⟩ | op | op | op
  case repository => exact kept_repository hk ha h
  case adapter    => exact kept_adapter hk ha h
  case robot      => exact kept_robot hk ha h
  case people     => cases op; exact kept_edited hk h

theorem Holds.grows {f : Fact} (hf : Holds f s) (h : s.shop.Grows s'.shop) : Holds f s' := by
  cases f
  case posted => exact h.posted hf
  case saved  => exact h.saved hf
  case ready  => exact h.receives hf

-- What an adapter knows has been posted, and what it has created an item for.
theorem taught_adapter {op : AdapterCall β} {f : Fact} (hk : s.Kept)
    (h : Answers β (.adapter op) s r s') (hf : f ∈ (discipline py).teaches β (.adapter op) r) :
    Holds f s' := by
  obtain ⟨created, board, hadapts, -⟩ := h
  cases op
  case isSeen sink id =>
    obtain ⟨rfl, -, hs⟩ := hadapts
    obtain ⟨hseen, rfl⟩ := hf
    show id ∈ s'.shop.posted
    exact hs ▸ hk.shop.known sink id (of_decide_eq_true hseen)
  case create sink id item =>
    cases r
    case error => cases hf
    case ok =>
      cases hf
      exact hadapts.mem_posted
  case remember => cases r <;> cases hf

theorem taught_repository {op : Port β} {hop : op.isSink = false} {f : Fact} (hk : s.Kept)
    (h : Answers β (.repository op hop) s r s')
    (hf : f ∈ (discipline py).teaches β (.repository op hop) r) : Holds f s' := by
  obtain ⟨hstep, -⟩ := h
  cases r
  case error => cases op <;> cases hf
  case ok b =>
    cases op
    case emit | surfaceAttention => cases hop
    case saveRecord | claimAndSave =>
      cases hf
      obtain ⟨world, -, -, he⟩ := hstep
      show _ ∈ s'.shop.saved
      simp [he, Shop.saves]
    case getPending =>
      obtain ⟨row, hr, rfl⟩ := hf
      obtain ⟨world, hw, -, he⟩ := hstep
      cases World.env_ok_iff.mp hw
      have hm : row ∈ s.shop.world.db.receivingItems.rows := List.mem_of_mem_filter hr
      show row.ticket ∈ s'.shop.saved
      rw [he]
      exact List.mem_append.mpr (.inl (hk.shop.stored row hm))
    all_goals cases hf

theorem taught_robot {op : RobotCall β} {f : Fact} (hk : s.Kept)
    (h : Answers β (.robot op) s r s') (hf : f ∈ (discipline py).teaches β (.robot op) r) :
    Holds f s' := by
  cases op
  case pollReady =>
    cases r
    case error => cases hf
    case ok items =>
      obtain ⟨item, hi, rfl⟩ := hf
      obtain ⟨⟨hw, hr | ⟨e, he, -⟩⟩, hsh⟩ := h
      case inr => cases he
      case inl =>
        cases hr
        have ⟨b, hb, hp⟩ := List.mem_map.mp hi
        have ⟨hb, hg⟩ := List.mem_filter.mp hb
        subst hp
        show s'.shop.Receives b.texts
        exact hsh ▸ hk.ready b hb (of_decide_eq_true hg)
  all_goals cases r <;> cases hf

theorem taught {op : SiteCall β} {f : Fact} (hk : s.Kept) (h : Answers β op s r s')
    (hf : f ∈ (discipline py).teaches β op r) : Holds f s' := by
  rcases op with ⟨op, hop⟩ | op | op | op
  case repository => exact taught_repository hk h hf
  case adapter    => exact taught_adapter hk h hf
  case robot      => exact taught_robot hk h hf
  case people     => cases op; cases r <;> cases hf

theorem sound : (discipline py).Sound Answers Kept Holds where
  kept h ha hk        := (kept_step hk ha h).1
  stable h ha hk hf   := hf.grows (kept_step hk ha h).2
  taught h _ hk hf    := taught hk h hf

end Steps

-- ### The processes

section Jobs

variable {py : PyStd} {F : Set Fact}

def robotDiscipline (py : PyStd) : Program.Discipline RobotCall PyExc Fact :=
  (discipline py).comap .robot

theorem follows_emitOnce {clock : Clock py} {sink : SinkId} {record : ReceivingRecord}
    (h : .saved record.ticket ∈ F) :
    (serviceDiscipline py).Follows (emitOnce clock sink record) F := by
  refine .performBind trivial fun emitted => ?_
  split
  case isTrue => trivial
  case isFalse =>
    split
    case isTrue  => exact .performBind trivial fun _ => .performBind (.inr rfl) fun _ => trivial
    case isFalse => exact .performBind (.inl h) fun _ => .performBind (.inr rfl) fun _ => trivial

theorem follows_scan (s : Scan py) : (serviceDiscipline py).Follows s.program F := by
  have hmiss {F : Set Fact} : (serviceDiscipline py).Follows s.miss F :=
    .performBind (.inr s.clock.timestamp_iso) fun _ => follows_emitOnce (.inr rfl)
  rw [Scan.program_eq]
  refine .performBind trivial fun candidates => ?_
  cases h : resolveRow py s.barcode candidates
  case some row =>
    cases hid : row.inventoryId
    case none =>
      have hm := Scan.afterRead_of_null h hid
      exact hm ▸ trivial
    case some id =>
      rw [Scan.afterRead_of_some h hid]
      exact .performBind (.inr s.clock.timestamp_iso) fun _ => follows_emitOnce (.inr rfl)
  case none =>
    by_cases hb : s.serial = ""
    case pos =>
      rw [Scan.afterRead_of_blank h hb]
      exact hmiss
    case neg =>
      rw [Scan.afterRead_of_none h hb]
      refine .performBind trivial fun dup => ?_
      cases dup
      case none     => exact hmiss
      case some dup => trivial

theorem ticket_record (row : ItemRow) : row.record.ticket = row.ticket :=
  rfl

-- The validation of a row is not to be evaluated.
attribute [local irreducible] fromDict

theorem follows_syncItem {markedAt : String} {sink : SinkId} {result : SyncResult} {row : ItemRow}
    (h : .saved row.ticket ∈ F) :
    (serviceDiscipline py).Follows (syncItem py markedAt sink result row) F := by
  have hticket (record : ReceivingRecord) (hr : fromDict py row.toDict = .ok record) :
      .saved record.ticket ∈ F := by
    rw [(fromDict_row_iff.mp hr).2, ticket_record]
    exact h
  have hitem : (serviceDiscipline py).Follows (processItem py markedAt sink row.toDict) F := by
    cases hr : fromDict py row.toDict
    case error e =>
      simp only [processItem, hr]
      trivial
    case ok record =>
      simp only [processItem, hr, Program.ofExcept_ok, Program.pure_bind]
      split
      case isTrue  => exact .performBind trivial fun _ => .performBind (.inr rfl) fun _ => trivial
      case isFalse =>
        exact .performBind (hticket record hr) fun _ => .performBind (.inr rfl) fun _ => trivial
  unfold syncItem
  refine .tryCatch (hitem.bind fun status => ?_) fun e => ?_
  all_goals split <;> trivial

theorem follows_sync {markedAt : Nat → String} {sink : SinkId} :
    (serviceDiscipline py).Follows (syncPending py markedAt sink) F := by
  refine .performBind trivial fun pending => ?_
  have hloop := Program.Discipline.Follows.foldlM (D := serviceDiscipline py)
    (f := fun result (x : ItemRow × Nat) => syncItem py (markedAt x.2) sink result x.1)
    (l := pending.zipIdx)
    (fun result x hx => follows_syncItem (F := F ∪ (serviceDiscipline py).teaches _ .getPending
      (.ok pending)) (.inr ⟨x.1, (List.mem_zipIdx' hx).2 ▸ List.getElem_mem _, rfl⟩))
    ⟨pending.length, 0, 0, 0⟩
  refine hloop.bind fun result => ?_
  dsimp only
  split <;> trivial

-- ### The robot

theorem follows_of_marks {α : Type} {p : RobotM α} (h : p.Uses RobotCall.IsMark) :
    (robotDiscipline py).Follows p F := by
  induction h generalizing F
  case pure | throw => trivial
  case call op k ha _ ih =>
    refine ⟨?_, fun r => ih r⟩
    cases op
    case mutate => exact ha
    all_goals trivial

theorem follows_receiveNext {c : Counters} {item : ReadyItem} (h : .ready item.call.texts ∈ F) :
    (robotDiscipline py).Follows (receiveNext boardApi c item) F := by
  unfold receiveNext
  split
  case isTrue =>
    refine .tryCatch (.performBind h fun outcome => ?_) fun e => ?_
    case refine_1 =>
      have hroute : (routeOutcome boardApi c item.call.itemId outcome).Uses RobotCall.IsMark := by
        cases outcome
        case received => exact uses_markReceived.bind fun _ => .pure _
        case notFound | finalizeError => exact uses_markNoMatch.bind fun _ => .pure _
      exact (follows_of_marks hroute).bind fun c =>
        (follows_of_marks uses_writeStatus).bind fun _ => trivial
    case refine_2 =>
      split
      case isTrue  => exact follows_of_marks uses_escalate
      case isFalse => trivial
  case isFalse =>
    apply follows_of_marks
    split
    case isTrue  => exact uses_markNoMatch.bind fun _ => .pure _
    case isFalse => exact .bind (.pure _) fun _ => .pure _

theorem follows_receivePending : (robotDiscipline py).Follows (receivePending py boardApi) F := by
  refine .performBind trivial fun items => ?_
  refine (follows_of_marks uses_writeStatus).bind fun _ => ?_
  refine Program.Discipline.Follows.bind (.foldlM (fun c item hi => ?_) _) fun c => ?_
  case refine_1 =>
    have hm : item ∈ items := (List.perm_insertionSort _ items).mem_iff.mp hi
    exact follows_receiveNext (.inr ⟨item, hm, rfl⟩)
  case refine_2 => exact (follows_of_marks uses_writeStatus).bind fun _ => trivial

theorem follows_pollLoop (n : Nat) : (robotDiscipline py).Follows (pollLoop py boardApi n) F := by
  induction n
  case zero => trivial
  case succ n ih =>
    have hpass : (robotDiscipline py).Follows (runPass py boardApi) F := by
      refine .withFinally (.tryCatch (follows_receivePending.bind fun _ => trivial) fun e => ?_)
        (.perform trivial)
      split <;> trivial
    refine hpass.bind fun goesOn => ?_
    cases goesOn
    case false => trivial
    case true =>
      refine Program.Discipline.Follows.bind (.tryCatch
        (.performBind trivial fun _ => trivial) fun e => ?_) fun goesOn => ?_
      case refine_1 => split <;> trivial
      case refine_2 =>
        cases goesOn
        case false => trivial
        case true  => exact ih

theorem follows_people (n : Nat) : (discipline py).Follows (people n) F := by
  induction n generalizing F
  case zero      => trivial
  case succ n ih => exact .performBind trivial fun _ => ih

-- What a process may be running: a call of one of the services that the scanners make, a robot, or
-- somebody at the board.
inductive Job (py : PyStd) : SiteM Unit → Prop
  | scan (s : Scan py) : Job py (service s.program)
  | sync (markedAt : Nat → String) (sink : SinkId) : Job py (service (syncPending py markedAt sink))
  | populate (fetchOrder : String → Except PyExc (List LineItem)) (now po : String) :
      Job py (service (populatePo fetchOrder now po))
  | refresh (fetched : Except PyExc (List LineItem)) (now : String) (confirmed : Bool) :
      Job py (service (refreshAll fetched now confirmed))
  | resolve (raw po : String) : Job py (service (resolveModelBarcode py raw po))
  | check (model po : String) : Job py (service (checkModelOnPo py model po))
  | learn (now raw model source : String) (score : PyFloat) :
      Job py (service (.perform (.saveBarcodeMapping now raw model score source)))
  | robot (n : Nat) : Job py (robotJob (pollLoop py boardApi n))
  | people (n : Nat) : Job py (people n)

-- A post that returns has posted its item, or has found that it was posted before.
theorem follows_post {α : Type} {sink : SinkId} {id : String} {item : CreatedItem}
    {k : Except PyExc Unit → SiteM α}
    (hi : (discipline py).allows Unit (.adapter (.create sink id item)) F)
    (hok : (discipline py).Follows (k (.ok ())) (F ∪ {.posted id}))
    (herr : ∀ e, (discipline py).Follows (k (.error e)) F) :
    (discipline py).Follows ((post sink id item).andThen k) F := by
  refine ⟨trivial, fun seen => ?_⟩
  cases seen
  case error e => exact (herr e).mono Set.subset_union_left
  case ok seen =>
    cases seen
    case true =>
      have hposted : ({.posted id} : Set Fact) ⊆ {f | true ∧ f = .posted id} := by simp
      exact hok.mono (Set.union_subset_union_right F hposted)
    case false =>
      refine ⟨(discipline py).mono Set.subset_union_left hi, fun created => ?_⟩
      cases created
      case error e => exact ((herr e).mono Set.subset_union_left).mono Set.subset_union_left
      case ok =>
        refine ⟨.inr rfl, fun added => ?_⟩
        cases added
        case error e =>
          exact (((herr e).mono Set.subset_union_left).mono Set.subset_union_left).mono
            Set.subset_union_left
        case ok =>
          have hF : F ∪ {.posted id} ⊆ F ∪ (discipline py).teaches Bool
              (.adapter (.isSeen sink id)) (.ok false) ∪ {.posted id} :=
            Set.union_subset_union_left _ Set.subset_union_left
          exact (hok.mono hF).mono Set.subset_union_left

-- What a service expects of its calls, it may expect of what it does in their place.
theorem follows_calls {α β : Type} {op : Port β} {F : Set Fact} {k : Except PyExc β → SiteM α}
    (h : (serviceDiscipline py).allows β op F)
    (hk : ∀ r, (discipline py).Follows (k r) (F ∪ (serviceDiscipline py).teaches β op r)) :
    (discipline py).Follows ((calls op).andThen k) F := by
  cases op
  case emit sink record =>
    have hbacked : (emittedItem record).group = .ready → ∃ t, .saved t ∈ F ∧
        t.matchStatus = .received ∧ t.texts = (emittedItem record).texts :=
      fun hg => ⟨record.ticket, h, emittedItem_group hg, (emittedItem_texts record).symm⟩
    refine follows_post hbacked (hk (.ok ())) fun e => ?_
    exact (hk (.error e)).mono (Set.union_subset (Set.Subset.refl F) (Set.empty_subset F))
  case surfaceAttention sink record =>
    refine follows_post nofun (hk (.ok ())) fun e => ?_
    exact (hk (.error e)).mono (Set.union_subset (Set.Subset.refl F) (Set.empty_subset F))
  all_goals
    rw [calls_of_not_isSink rfl, Program.perform_andThen]
    exact ⟨h, hk⟩

theorem follows_service {α : Type} {p : ServiceM α} (h : (serviceDiscipline py).Follows p F) :
    (discipline py).Follows (service p) F :=
  (Program.Discipline.Follows.refine follows_calls h).bind fun _ => trivial

theorem Job.follows {p : SiteM Unit} (h : Job py p) : (discipline py).Follows p F := by
  cases h
  case scan s => exact follows_service (follows_scan s)
  case sync   => exact follows_service follows_sync
  case populate =>
    refine follows_service (.performBind trivial fun existing => ?_)
    split
    case isTrue  => exact (Program.Discipline.Follows.ofExcept _).bind fun _ => .perform trivial
    case isFalse => trivial
  case refresh confirmed =>
    apply follows_service
    cases confirmed
    case false => trivial
    case true =>
      refine (Program.Discipline.Follows.ofExcept _).bind fun items => ?_
      split
      case isTrue  => trivial
      case isFalse =>
        exact .performBind trivial fun _ => .performBind trivial fun _ =>
          .performBind trivial fun _ => trivial
  case resolve =>
    exact follows_service (.performBind trivial fun _ => .performBind trivial fun _ => trivial)
  case check  => exact follows_service (.performBind trivial fun _ => trivial)
  case learn  => exact follows_service (.perform trivial)
  case robot n =>
    exact (Program.Discipline.Follows.lift (follows_pollLoop n)).bind fun _ => trivial
  case people n => exact follows_people n

end Jobs

-- ### Runs of all processes

-- Where the processes start: there is a catalog, and nothing else has happened yet.
structure IsFresh (s : Site) : Prop where
  records  : s.shop.world.db.receivingItems.rows = []
  seen     : ∀ k, s.shop.world.seen k = []
  created  : s.shop.world.board = []
  posts    : s.shop.posts = []
  lost     : s.shop.lost = []
  repeats  : s.shop.repeats = []
  board    : s.robot.board.rows = []
  attempts : s.robot.attempts = []

theorem IsFresh.kept {s : Site} (h : s.IsFresh) : s.Kept where
  shop := {
    known  := by simp [h.seen]
    marked := by simp [Db.wasEmitted, Relational.Table.find, h.records]
    stored := by simp [h.records]
    listed := by simp [h.created]
  }
  ready  := by simp [h.board]
  traced := by simp [h.attempts]

section Runs

variable {py : PyStd} {ι : Type} [DecidableEq ι] {P Q : ι → SiteM Unit} {s s' : Site}

theorem kept_of_steps (hs : s.IsFresh) (hP : ∀ i, Job py (P i))
    (h : Program.Pool.Steps Answers (s, P) (s', Q)) : s'.Kept :=
  (sound.steps h hs.kept fun i => (hP i).follows).1

-- No record is ever marked as emitted for which nothing was posted.
theorem posted_of_emitted (hs : s.IsFresh) (hP : ∀ i, Job py (P i))
    (h : Program.Pool.Steps Answers (s, P) (s', Q)) :
    ∀ row ∈ s'.shop.world.db.receivingItems.rows, row.emitted →
      row.receivingId ∈ s'.shop.posted := by
  intro row hr he
  exact (kept_of_steps hs hP h).shop.marked _ (Db.wasEmitted_of_mem hr ▸ he)

-- No robot ever attempts to receive anything but a unit of a saved receipt: with the purchase
-- order, the inventory_id, the model and the serial that a scan or a manual entry has recorded for
-- it.

end Runs

-- ### A lost response

-- An item_id that no item has.
def freshId (board : Board) : String :=
  String.ofList ('+' :: board.rows.flatMap (·.itemId.toList))

theorem ne_freshId {board : Board} {item : BoardItem} (h : item ∈ board.rows) :
    item.itemId ≠ freshId board := by
  intro he
  have hl : item.itemId.toList.length ≤ (board.rows.flatMap (·.itemId.toList)).length := by
    rw [List.flatMap_def]
    have hm := List.mem_map_of_mem (f := fun item : BoardItem => item.itemId.toList) h
    exact (List.sublist_flatten_of_mem hm).length_le
  have he := congrArg (fun s => s.toList.length) he
  simp only [freshId, String.toList_ofList, List.length_cons] at he
  omega

def list (item : CreatedItem) (board : Board) : Board where
  rows  := board.rows ++ [item.onBoard (freshId board)]
  nodup := by
    simp only [List.filterMap_append, List.filterMap_cons, BoardItem.key, List.filterMap_nil]
    refine List.nodup_append.mpr ⟨board.nodup, by simp, ?_⟩
    intro a ha b hb
    obtain ⟨item', hi, rfl⟩ := by simpa [BoardItem.key] using ha
    exact List.mem_singleton.mp hb ▸ ne_freshId hi

def clearReady (s : Site) : Site := { s with
  robot := { s.robot with
    board := s.robot.board.modify (fun item => item.group = .ready)
      ({ · with group := .attention }) (fun _ => rfl)
  }
}

def playService {β : Type} (op : Port β) (s : Site) : Except PyExc β × Site :=
  let (r, world) := World.handle _ op s.shop.world
  (r, { s with shop := { s.shop with world, saved := s.shop.saved ++ Shop.saves op r } })

-- A robot that receives all it attempts to.
abbrev willing : Program.Handler RobotCall PyExc RobotWorld :=
  RobotWorld.play (fun _ => .ok .received) (fun _ _ => false)

def playRobot {β : Type} (op : RobotCall β) (s : Site) : Except PyExc β × Site :=
  let (r, robot) := willing _ op s.robot
  (r, { s with robot })

-- The steps of an adapter. The request is carried out, and its response gets lost where `loses` says
-- so.
def playAdapter (loses : Shop → Bool) : ∀ {β : Type}, AdapterCall β → Site → Except PyExc β × Site
  | _, .isSeen sink id, s => (.ok (decide (id ∈ s.shop.world.seen sink)), s)
  | _, .remember sink id, s => (.ok (), { s with shop := s.shop.remember sink id })
  | _, .create sink id item, s =>
    let robot := { s.robot with board := list item s.robot.board }
    let shop := s.shop.create sink id item
    if loses s.shop then
      (.error ⟨.sinkError, "Result sink API request failed"⟩,
        { shop := { shop with lost := s.shop.lost ++ [(sink, id)] }, robot })
    else (.ok (), { shop, robot })

-- The surroundings in which nothing fails but these requests.
def play (loses : Shop → Bool) : Program.Handler SiteCall PyExc Site := fun
  | _, .repository op _, s    => playService op s
  | _, .adapter op, s         => playAdapter loses op s
  | _, .robot .sleep, s       => (.ok (), s.clearReady)
  | _, .robot op, s           => playRobot op s
  | _, .people .edit, s       => (.ok (), s.clearReady)

theorem lists_list (item : CreatedItem) (board : Board) :
    Lists (some item) board (list item board) :=
  ⟨freshId board, fun _ => ne_freshId, rfl⟩

theorem edited_clearReady (s : Site) : Edited s s.clearReady := by
  refine ⟨_, rfl, fun item hi hg => ?_⟩
  obtain ⟨item₀, -, rfl⟩ := Relational.Table.mem_modify.mp hi
  split at hg
  case isTrue    => cases hg
  case isFalse h => exact absurd (decide_eq_true hg) h

theorem answers_play {loses : Shop → Bool} (β : Type) (op : SiteCall β) (s : Site) :
    Answers β op s (play loses β op s).1 (play loses β op s).2 := by
  rcases op with ⟨op, hop⟩ | op | op | op
  case people => cases op; exact edited_clearReady s
  case repository =>
    cases op
    case emit | surfaceAttention => cases hop
    all_goals exact ⟨⟨_, .done _ _, rfl, rfl⟩, rfl⟩
  case adapter =>
    cases op
    case isSeen | remember => exact ⟨none, s.robot.board, ⟨rfl, rfl, rfl⟩, rfl, rfl⟩
    case create sink id item =>
      refine ⟨some item, _, ?_, lists_list item s.robot.board, ?_⟩
      all_goals
        simp only [play, playAdapter]
        split
      · exact .lost _
      · exact .created
      · rfl
      · rfl
  case robot =>
    cases op
    case sleep => exact edited_clearReady s
    all_goals
      refine ⟨?_, rfl⟩
      exact @RobotWorld.answers_play (fun _ => .ok .received) (fun _ _ => false) _ _ s.robot

-- A unit is scanned, and the response of the post gets lost. The record is still pending, so that
-- the next sync posts it again. A robot finds both items.
def jobs : Nat → SiteM Unit
  | 0 => service Scan.sample.program
  | 1 => service (syncPending .ascii (fun _ => sampleTime) 0)
  | 2 => robotJob (pollLoop .ascii boardApi 1)
  | _ => people 0

theorem job_jobs (i : Nat) : Job .ascii (jobs i) := by
  match i with
  | 0     => exact .scan _
  | 1     => exact .sync _ _
  | 2     => exact .robot 1
  | i + 3 => exact .people 0

def fresh : Site where
  shop  := ⟨.oneUnit, [], [], [], []⟩
  robot := .init .empty fun _ _ => ∅

theorem isFresh_fresh : fresh.IsFresh where
  records  := List.isEmpty_iff.mp (by decide +kernel)
  seen _   := rfl
  created  := rfl
  posts    := rfl
  lost     := rfl
  repeats  := rfl
  board    := rfl
  attempts := rfl

def schedule : List Nat := List.replicate 5 0 ++ List.replicate 5 1 ++ List.replicate 20 2

-- The response of the first request gets lost.
def losesFirst (shop : Shop) : Bool :=
  shop.posts.isEmpty

def played : Option (Site × (Nat → SiteM Unit)) :=
  Program.Pool.play (play losesFirst) (fun _ _ _ => true) schedule (fresh, jobs)

-- What is seen of the run that is played.
theorem steps_of_played {α : Type} {f : Site → α} {a : α}
    (h : played.map (fun c => f c.1) = some a) :
    ∃ s' Q, Program.Pool.Steps Answers (fresh, jobs) (s', Q) ∧ f s' = a := by
  have ⟨⟨s', Q⟩, hplay, hf⟩ := Option.map_eq_some_iff.mp h
  exact ⟨s', Q, (Program.Pool.steps_play answers_play hplay).mono And.left, hf⟩

theorem posted_of_emitted_sample : ∃ s' : Site,
    (s'.shop.world.db.receivingItems.rows.map (·.emitted)) = [true] ∧
      ∀ row ∈ s'.shop.world.db.receivingItems.rows, row.emitted →
        row.receivingId ∈ s'.shop.posted := by
  obtain ⟨s', Q, h, hf⟩ := steps_of_played
    (f := fun s => s.shop.world.db.receivingItems.rows.map (·.emitted)) (a := [true])
    (by decide +kernel)
  exact ⟨s', hf, posted_of_emitted isFresh_fresh job_jobs h⟩

end Site
end ReceivingApp
