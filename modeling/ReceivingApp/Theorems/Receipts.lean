import ReceivingApp.Theorems.GridSearch
import ReceivingApp.Theorems.Navigation

open Interaction Program

namespace ReceivingApp

variable {self : PortalReceiver} {py : PyStd} {poNumber inventoryId model serial : String}
variable {l : List PageEvent}

-- ### What a receipt stands for

-- Some value is set, and every value that is set is that of an option with the label.
structure LabelApplied (select label : String) (l : List PageEvent) : Prop where
  set    : ∃ value, .valueSet select value ∈ l
  listed : ∀ value, .valueSet select value ∈ l → value ≠ "" ∧ ∃ options opt,
    .optionsRead select options ∈ l ∧ opt ∈ options ∧ opt.value = value ∧ inText label opt.text

structure Completed (receiver : PortalReceiver) (py : PyStd) (model serial : String)
    (l : List PageEvent) : Prop where
  location : LabelApplied "select.apply-all-location" receiver.locationLabel l
  whse     : LabelApplied "select.apply-all-whse" receiver.whseLabel l
  row      : ∃ rows row, .rowsRead rows ∈ l ∧ row ∈ rows ∧ .quantitySet row ∈ l ∧
    Selectable py model row
  serial   : .serialFilled serial ∈ l
  finished : [.clicked "a[href='#finish']" (.ok ()), .finalizeChecked ""] <:+ l

-- The first option with the label has a value.
def Listed (select label : String) (l : List PageEvent) : Prop :=
  ∀ options, .optionsRead select options ∈ l →
    ∃ opt, options.find? (fun opt => inText label opt.text) = some opt ∧ opt.value ≠ ""

theorem valueOf_ne_empty_iff {label : String} {options : List SelectOption} :
    PortalReceiver.valueOf label options ≠ "" ↔
      ∃ opt, options.find? (fun opt => inText label opt.text) = some opt ∧ opt.value ≠ "" := by
  unfold PortalReceiver.valueOf
  cases options.find? (fun opt => inText label opt.text) <;> simp

-- ### The selects in a journal

def PageEvent.select? : PageEvent → Option String
  | optionsRead select _ => some select
  | valueSet select _    => some select
  | _                    => none

def NoSelect (l : List PageEvent) : Prop :=
  ∀ x ∈ l, x.select? = none

def selectJournal (select button label : String) (options : List SelectOption) : List PageEvent :=
  [.optionsRead select options, .valueSet select (PortalReceiver.valueOf label options),
    .clicked button (.ok ())]

-- The journal sets the select once, to the value of the label.
structure Sets (select label : String) (options : List SelectOption) (l : List PageEvent) :
    Prop where
  read : ∀ o, .optionsRead select o ∈ l ↔ o = options
  set  : ∀ v, .valueSet select v ∈ l ↔ v = PortalReceiver.valueOf label options

theorem Sets.applied_iff {select label : String} {options : List SelectOption}
    (h : Sets select label options l) : LabelApplied select label l ↔ Listed select label l := by
  constructor
  case mp =>
    intro ha o ho
    cases (h.read o).mp ho
    exact valueOf_ne_empty_iff.mp (ha.listed _ ((h.set _).mpr rfl)).1
  case mpr =>
    intro hl
    refine ⟨⟨_, (h.set _).mpr rfl⟩, fun v hv => ?_⟩
    cases (h.set v).mp hv
    have hread := (h.read options).mpr rfl
    have ⟨opt, hf, hv⟩ := hl options hread
    refine ⟨valueOf_ne_empty_iff.mpr ⟨opt, hf, hv⟩, options, opt, hread,
      List.mem_of_find?_eq_some hf, ?_, by simpa using List.find?_some hf⟩
    simp only [PortalReceiver.valueOf, hf]

-- ### The journal of a receipt

-- What a run of the wizard has met where it comes to a receipt.
structure WizardRun (py : PyStd) (model : String) where
  before    : List PageEvent
  locations : List SelectOption
  whses     : List SelectOption
  search    : List PageEvent
  rows      : List GridRow
  row       : GridRow
  noSelect_before : NoSelect before
  noSelect_search : NoSelect search
  read       : .rowsRead rows ∈ search
  mem        : row ∈ rows
  selectable : Selectable py model row

def WizardRun.journal (r : WizardRun py model) (self : PortalReceiver) (serial : String) :
    List PageEvent :=
  r.before ++
    selectJournal "select.apply-all-location" "button[onclick='onApplyAllLocation(0)']"
      self.locationLabel r.locations ++
    selectJournal "select.apply-all-whse" "button[onclick='onApplyAllWhseLocation(0)']"
      self.whseLabel r.whses ++
    r.search ++
    [.quantitySet r.row, .clicked "a[href='#next']" (.ok ()), .serialFilled serial,
      .clicked "a[href='#next']" (.ok ()), .clicked "a[href='#finish']" (.ok ()),
      .finalizeChecked ""]

theorem NoSelect.optionsRead_not_mem (h : NoSelect l) {select : String}
    {options : List SelectOption} : .optionsRead select options ∉ l :=
  fun hm => nomatch h _ hm

theorem NoSelect.valueSet_not_mem (h : NoSelect l) {select value : String} :
    .valueSet select value ∉ l :=
  fun hm => nomatch h _ hm

-- The selects are read and set in steps 2 and 3 only.
theorem WizardRun.optionsRead_mem_iff (r : WizardRun py model) {select : String}
    {options : List SelectOption} :
    .optionsRead select options ∈ r.journal self serial ↔
      select = "select.apply-all-location" ∧ options = r.locations ∨
        select = "select.apply-all-whse" ∧ options = r.whses := by
  simp [journal, selectJournal, r.noSelect_before.optionsRead_not_mem,
    r.noSelect_search.optionsRead_not_mem]

theorem WizardRun.valueSet_mem_iff (r : WizardRun py model) {select value : String} :
    .valueSet select value ∈ r.journal self serial ↔
      select = "select.apply-all-location" ∧
          value = PortalReceiver.valueOf self.locationLabel r.locations ∨
        select = "select.apply-all-whse" ∧
          value = PortalReceiver.valueOf self.whseLabel r.whses := by
  simp [journal, selectJournal, r.noSelect_before.valueSet_not_mem,
    r.noSelect_search.valueSet_not_mem]

theorem WizardRun.sets_location (r : WizardRun py model) :
    Sets "select.apply-all-location" self.locationLabel r.locations (r.journal self serial) where
  read o := by simp [r.optionsRead_mem_iff]
  set v  := by simp [r.valueSet_mem_iff]

theorem WizardRun.sets_whse (r : WizardRun py model) :
    Sets "select.apply-all-whse" self.whseLabel r.whses (r.journal self serial) where
  read o := by simp [r.optionsRead_mem_iff]
  set v  := by simp [r.valueSet_mem_iff]

theorem WizardRun.completed_iff (r : WizardRun py model) :
    Completed self py model serial (r.journal self serial) ↔
      Listed "select.apply-all-location" self.locationLabel (r.journal self serial) ∧
        Listed "select.apply-all-whse" self.whseLabel (r.journal self serial) := by
  rw [← r.sets_location.applied_iff, ← r.sets_whse.applied_iff]
  constructor
  case mp  => exact fun h => ⟨h.location, h.whse⟩
  case mpr =>
    rintro ⟨hloc, hwhse⟩
    refine ⟨hloc, hwhse, ⟨r.rows, r.row, ?_, r.mem, ?_, r.selectable⟩, ?_, ?_⟩
    · simp [journal, r.read]
    · simp [journal]
    · simp [journal]
    · exact .trans ⟨[_, _, _, _], rfl⟩ (List.suffix_append _ _)

-- ### The steps of the wizard

-- Where the program returns, it has left the journal so.
def Leaves {α : Type} (p : ReceiverM α) (Q : α → List PageEvent → Prop) (l : List PageEvent) :
    Prop :=
  p.wp portalEnv (fun _ => True) Q (fun _ _ => True) l

namespace Leaves

variable {α β : Type} {Q Q' : α → List PageEvent → Prop}

theorem pure {a : α} (h : Q a l) : Leaves (.pure a) Q l :=
  ⟨trivial, h⟩

theorem bind {p : ReceiverM α} {f : α → ReceiverM β} {Q : β → List PageEvent → Prop}
    (h : Leaves p (fun a => Leaves (f a) Q) l) : Leaves (p >>= f) Q l :=
  wp.bind h

theorem mono {p : ReceiverM α} (h : Leaves p Q l) (hQ : ∀ a l, Q a l → Q' a l) : Leaves p Q' l :=
  wp.mono h (fun a l _ => hQ a l) (fun _ _ _ h => h)

theorem call {op : PageCall α} (h : ∀ a, Q a (l ++ PageEvent.note α op (.ok a))) :
    Leaves (.perform op) Q l :=
  .performNoted (fun a _ => h a) (fun _ _ => trivial)

theorem quiet {p : ReceiverM α} (hp : Uses (Quiet PageEvent.note) p) (h : ∀ a, Q a l) :
    Leaves p Q l :=
  wp.quiet hp trivial h (fun _ => trivial)

end Leaves

def PageCall.select? : ∀ {β : Type}, PageCall β → Option String
  | _, readOptions select => some select
  | _, setValue select _  => some select
  | _, _                  => none

theorem noSelect_note {β : Type} (op : PageCall β) (h : op.select? = none) (r : Except PyExc β) :
    NoSelect (PageEvent.note β op r) := by
  intro x hx
  cases op <;> cases r <;> simp_all [PageEvent.note, PageEvent.select?, PageCall.select?]

theorem NoSelect.append {l' : List PageEvent} (h : NoSelect l) (h' : NoSelect l') :
    NoSelect (l ++ l') := by
  intro x hx
  rcases List.mem_append.mp hx with hx | hx
  · exact h x hx
  · exact h' x hx

-- What sets no select leaves no trace of one.
theorem leaves_noSelect {α : Type} {p : ReceiverM α} (hp : Uses (fun _ op => op.select? = none) p)
    (h : NoSelect l) : Leaves p (fun _ => NoSelect) l := by
  refine (wp.frame ?_ (fun _ _ => trivial) hp h).mono (fun _ _ _ h => h) (fun _ _ _ _ => trivial)
  rintro β op l r _ ho ⟨-, rfl⟩ hl
  exact hl.append (noSelect_note op ho r)

section Steps

open PortalReceiver

theorem approach_noSelect : Leaves (self.approach poNumber) (fun _ => NoSelect) [] := by
  refine leaves_noSelect ?_ (by simp [NoSelect])
  have hopen : Uses (fun _ op => op.select? = none) (self.openPo poNumber) :=
    (Uses.perform rfl).bind fun _ => .perform rfl
  have hlogin : Uses (fun _ op => op.select? = none) self.login :=
    (Uses.perform rfl).bind fun _ => (Uses.perform rfl).bind fun _ => (Uses.perform rfl).bind
      fun _ => (Uses.perform rfl).bind fun _ => (Uses.perform rfl).bind fun _ => .perform rfl
  refine hopen.bind fun _ => (Uses.perform rfl).bind fun url₁ => ?_
  have hlast : Uses (fun _ op => op.select? = none) (do
      if inText "/login" (← .perform .url) then
        self.openPo poNumber : ReceiverM Unit) := by
    refine (Uses.perform rfl).bind fun url₂ => ?_
    split
    case isTrue  => exact hopen
    case isFalse => exact .pure _
  split
  case isTrue  => exact hlogin.bind fun _ => hlast
  case isFalse => exact hlast

theorem step1Navigate_leaves :
    Leaves (self.step1Navigate poNumber inventoryId)
      (fun outcome l => outcome ≠ some .received ∧ NoSelect l) [] := by
  refine .bind <| approach_noSelect.mono fun _ l hl => .bind <| .call fun _ => ?_
  have hl := hl.append (noSelect_note (.click "a#receive-btn") rfl (.ok ()))
  refine .bind <| .quiet (quiet_succeeds (.perform fun _ => rfl)) fun arrived => ?_
  split
  case isTrue  => exact .pure ⟨by decide, hl⟩
  case isFalse =>
    refine .bind <| .quiet (.perform fun _ => rfl) fun _ => ?_
    exact .bind <| .quiet quiet_screenshot fun _ => .pure ⟨nofun, hl⟩

theorem setSelect_leaves {label select button shot : String} :
    Leaves (setSelect label select button shot inventoryId)
      (fun _ l' => ∃ options, l' = l ++ selectJournal select button label options) l := by
  refine .bind <| .call fun options => .bind <| .call fun _ => .bind <| .call fun _ => ?_
  exact .quiet quiet_screenshot fun _ => ⟨options, by simp [PageEvent.note, selectJournal]⟩

-- What the search for a row leaves.
def Searched (py : PyStd) (model : String) (l : List PageEvent) (found : Option GridRow)
    (l' : List PageEvent) : Prop :=
  ∃ search, l' = l ++ search ∧ NoSelect search ∧ ∀ row, found = some row →
    ∃ rows, .rowsRead rows ∈ search ∧ row ∈ rows ∧ Selectable py model row

theorem findFrom_leaves {n : Nat} : Leaves (findFrom py model n) (Searched py model l) l := by
  induction n generalizing l
  case zero => exact .pure ⟨[], by simp, nofun, nofun⟩
  case succ n ih =>
    refine .bind <| .call fun rows => ?_
    have hread : NoSelect [.rowsRead rows] := noSelect_note .rows rfl (.ok rows)
    have hnone : Searched py model l none (l ++ [.rowsRead rows]) := ⟨_, rfl, hread, nofun⟩
    split
    case h_1 row hf =>
      refine .pure ⟨_, rfl, hread, ?_⟩
      rintro _ ⟨⟩
      have hs := List.find?_some hf
      exact ⟨rows, List.mem_singleton_self _, List.mem_of_find?_eq_some hf, isCandidate_iff.mp hs⟩
    case h_2 =>
      refine .bind <| .quiet ?_ fun visible => ?_
      · refine (Uses.perform fun _ => rfl).tryCatch fun e => ?_
        split
        case isTrue  => exact .pure _
        case isFalse => exact .throw _
      split
      case isTrue => exact .pure hnone
      refine .bind <| .quiet (.perform fun _ => rfl) fun class? => ?_
      split
      case isTrue => exact .pure hnone
      refine .bind <| .quiet (.perform fun _ => rfl) fun aria? => ?_
      split
      case isTrue => exact .pure hnone
      refine .bind <| .quiet (.perform fun _ => rfl) fun _ => ih.mono ?_
      rintro found _ ⟨search, rfl, hs, hrow⟩
      refine ⟨.rowsRead rows :: search, by simp [PageEvent.note], hread.append hs, ?_⟩
      intro row hr
      obtain ⟨rows', hm, h⟩ := hrow row hr
      exact ⟨rows', List.mem_cons_of_mem _ hm, h⟩

theorem step4FindRow_leaves :
    Leaves (step4FindRow py inventoryId model)
      (fun outcome l' => outcome ≠ some .received ∧ (outcome = none → ∃ search rows row,
        l' = l ++ (search ++ [.quantitySet row]) ∧ NoSelect search ∧ .rowsRead rows ∈ search ∧
          row ∈ rows ∧ Selectable py model row)) l := by
  refine .bind <| .quiet quiet_screenshot fun _ => .bind ?_
  have hfind : Leaves (findModelRow py model) (Searched py model l) l :=
    .bind <| .quiet (quiet_succeeds (.perform fun _ => rfl)) fun _ => findFrom_leaves
  refine hfind.mono ?_
  rintro found _ ⟨search, rfl, hs, hrow⟩
  cases found
  case none => exact .pure ⟨by decide, nofun⟩
  case some row =>
    dsimp only
    split
    case isTrue => exact .pure ⟨by decide, nofun⟩
    refine .bind <| .call fun _ => .bind <| .quiet quiet_screenshot fun _ => .pure ⟨nofun, ?_⟩
    intro _
    have ⟨rows, hread, hmem, hsel⟩ := hrow row rfl
    exact ⟨search, rows, row, List.append_assoc _ _ _, hs, hread, hmem, hsel⟩

theorem step6EnterSerial_leaves :
    Leaves (step6EnterSerial inventoryId serial)
      (fun outcome l' => outcome ≠ some .received ∧
        (outcome = none → l' = l ++ [.serialFilled serial])) l := by
  refine .bind <| .quiet (.perform fun _ => rfl) fun _ => ?_
  split
  case isTrue => exact .pure ⟨by decide, nofun⟩
  refine .bind <| .call fun _ => .bind <| .quiet quiet_screenshot fun _ => ?_
  exact .pure ⟨nofun, fun _ => rfl⟩

theorem step8Finalize_leaves :
    Leaves (step8Finalize inventoryId)
      (fun outcome l' => outcome = .received →
        l' = l ++ [.clicked "a[href='#finish']" (.ok ()), .finalizeChecked ""]) l := by
  refine .bind <| .call fun _ => .bind <| .quiet quiet_screenshot fun _ => .bind <| .call ?_
  intro error
  split
  case isTrue => exact .pure nofun
  case isFalse he =>
    cases not_not.mp he
    exact .pure fun _ => List.append_assoc _ _ _

-- A receipt has gone through all steps.
theorem runWizard_leaves :
    Leaves (self.runWizard py poNumber inventoryId model serial)
      (fun outcome l => outcome = .received → ∃ r : WizardRun py model, l = r.journal self serial)
      [] := by
  refine .bind <| step1Navigate_leaves.mono ?_
  rintro outcome before ⟨ho, hbefore⟩
  rcases outcome with _ | outcome
  case some => exact .pure fun h => absurd (congrArg some h) ho
  refine .bind <| setSelect_leaves.mono ?_
  rintro _ _ ⟨locations, rfl⟩
  refine .bind <| setSelect_leaves.mono ?_
  rintro _ _ ⟨whses, rfl⟩
  refine .bind <| step4FindRow_leaves.mono ?_
  rintro outcome _ ⟨ho, hrow⟩
  rcases outcome with _ | outcome
  case some => exact .pure fun h => absurd (congrArg some h) ho
  obtain ⟨search, rows, row, rfl, hsearch, hread, hmem, hsel⟩ := hrow rfl
  refine .bind <| .call fun _ => .bind <| .quiet quiet_screenshot fun _ => ?_
  refine .bind <| step6EnterSerial_leaves.mono ?_
  rintro outcome _ ⟨ho, hserial⟩
  rcases outcome with _ | outcome
  case some => exact .pure fun h => absurd (congrArg some h) ho
  cases hserial rfl
  refine .bind <| .call fun _ => .bind <| .quiet quiet_screenshot fun _ => ?_
  refine step8Finalize_leaves.mono fun outcome l hl h => ?_
  let r : WizardRun py model :=
    ⟨before, locations, whses, search, rows, row, hbefore, hsearch, hread, hmem, hsel⟩
  exact ⟨r, (hl h).trans (by simp [WizardRun.journal, PageEvent.note, r])⟩

end Steps

-- An item that is received has been given its location and warehouse exactly if the first option
-- with the label has a value, in both selects.
theorem runWizard_completed_iff
    (hs : Returns portalEnv [] (self.runWizard py poNumber inventoryId model serial) l .received) :
    Completed self py model serial l ↔
      Listed "select.apply-all-location" self.locationLabel l ∧
        Listed "select.apply-all-whse" self.whseLabel l := by
  obtain ⟨r, rfl⟩ := runWizard_leaves.returns hs rfl
  exact r.completed_iff

-- ### Receipts of a sample portal

def GridRow.sample : GridRow :=
  ⟨["", "", "", "WF45", "", "", "", "2", ""].map (⟨·, false⟩), true⟩

-- A portal that lists nothing for the selects of the wizard.
def Portal.unlisted : Portal where
  url _ := "https://portal/purchase-orders"
  rows  := [.sample]

def Portal.listed : Portal where
  url _ := "https://portal/purchase-orders"
  options select :=
    if select = "select.apply-all-location" then [⟨"", "Pick"⟩, ⟨"7", "Main Store"⟩]
    else [⟨"3", "Whse 3"⟩]
  rows  := [.sample]

def Portal.receive (portal : Portal) : Except PyExc ReceiveOutcome × List PageEvent :=
  portal.play (PortalReceiver.sample.runWizard .ascii "PO-1" "INV-1" "WF45" "S1")

theorem Portal.returns_receive {portal : Portal} (h : portal.receive.1 = .ok .received) :
    Returns portalEnv [] (PortalReceiver.sample.runWizard .ascii "PO-1" "INV-1" "WF45" "S1")
      portal.receive.2 .received := by
  have hs : Steps portalEnv [] _ portal.receive.2 (ofExcept portal.receive.1) := steps_play
  rwa [h] at hs

theorem runWizard_completed_listed :
    Completed .sample .ascii "WF45" "S1" Portal.listed.receive.2 ↔
      Listed "select.apply-all-location" "Main" Portal.listed.receive.2 ∧
        Listed "select.apply-all-whse" "Whse" Portal.listed.receive.2 :=
  runWizard_completed_iff (Portal.returns_receive (by decide +kernel))

theorem not_runWizard_completed :
    ¬∀ (self : PortalReceiver) (py : PyStd) (poNumber inventoryId model serial : String)
      (l : List PageEvent),
      Returns portalEnv [] (self.runWizard py poNumber inventoryId model serial) l .received →
        Completed self py model serial l := by
  intro h
  have hreceived : Portal.unlisted.receive.1 = .ok .received := by decide +kernel
  have hc := h _ _ _ _ _ _ _ (Portal.returns_receive hreceived)
  exact (hc.location.listed "" (by decide +kernel)).1 rfl

end ReceivingApp
