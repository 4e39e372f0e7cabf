import ReceivingApp.Adapters.Factories
import ReceivingApp.Adapters.PortalDom

open Interaction

namespace ReceivingApp

-- `try: …; return True`, `except Exception: return False`
def succeeds (p : ReceiverM Unit) : ReceiverM Bool :=
  (p >>= fun _ => .pure true).tryCatch fun e => if e.isException then .pure false else .throw e

-- ### The grid

-- `tbr` of a row, which is 0 for a cell that is missing or is no number.
def tbrOf (py : PyStd) (row : GridRow) : Int :=
  match row.cells[tbrCol]? with
  | some cell => (py.parseInt (strip cell.text)).getD 0
  | none      => 0

-- Whether `_find_model_row` returns the row.
def isCandidate (py : PyStd) (model : String) (row : GridRow) : Bool :=
  match row.cells[modelCol]? with
  | some cell => exactModelMatch py model (strip cell.text) && 0 < tbrOf py row
  | none      => false

def findFrom (py : PyStd) (model : String) : Nat → ReceiverM (Option GridRow)
  | 0     => return none
  | n + 1 => do
    let rows ← .perform .rows
    match rows.find? (isCandidate py model) with
    | some row => return some row
    | none =>
      let visible ← Program.tryCatch (.perform .nextIsVisible)
        (fun e => if e.isException then .pure false else .throw e)
      if !visible then return none
      if inText "k-disabled" (orEmpty (← .perform .nextClass)) then return none
      if py.lower (orEmpty (← .perform .nextAriaDisabled)) = "true" then return none
      .perform .clickNext
      findFrom py model n

def findModelRow (py : PyStd) (model : String) : ReceiverM (Option GridRow) := do
  let _ ← succeeds (.perform .waitForRows)
  findFrom py model maxGridPages

namespace PortalReceiver

-- ### The steps of the wizard

variable (self : PortalReceiver)

def screenshot (step inventoryId : String) : ReceiverM Unit := do
  .perform .mkdir
  let _ ← succeeds (.perform (.screenshot s!"{inventoryId}_{step}.png"))
  return

def login : ReceiverM Unit := do
  .perform (.goto (self.baseUrl ++ "/login"))
  .perform .waitForLoadState
  .perform (.fill "input[name='email']" self.username)
  .perform (.fill "input[name='password']" self.password)
  .perform (.press "input[name='password']" "Enter")
  .perform .waitForLoadState

def openPo (poNumber : String) : ReceiverM Unit := do
  .perform (.goto s!"{self.baseUrl}/purchase-orders?id={poNumber}")
  .perform .waitForLoadState

-- `_step1_navigate` up to the click.
def approach (poNumber : String) : ReceiverM Unit := do
  self.openPo poNumber
  if inText "/login" (← .perform .url) then
    self.login
  if inText "/login" (← .perform .url) then
    self.openPo poNumber

def step1Navigate (poNumber inventoryId : String) : ReceiverM (Option ReceiveOutcome) := do
  self.approach poNumber
  .perform (.click "a#receive-btn")
  let arrived ← succeeds (.perform (.waitForUrl s!"**/purchase-orders/{poNumber}/receiving**"))
  if !arrived then return some .notFound
  .perform .waitForLoadState
  screenshot "01_receiving_page" inventoryId
  return none

-- The value of the first option whose text contains the label.
def valueOf (label : String) (options : List SelectOption) : String :=
  match options.find? (fun opt => inText label opt.text) with
  | some opt => opt.value
  | none     => ""

-- A step that sets a select to a label for all rows. Where no option has the label, it goes on with
-- an empty value.
def setSelect (label selector button shot inventoryId : String) : ReceiverM Unit := do
  let options ← .perform (.readOptions selector)
  .perform (.setValue selector (valueOf label options))
  .perform (.click button)
  screenshot shot inventoryId

def step2SetLocation (inventoryId : String) : ReceiverM Unit :=
  setSelect self.locationLabel "select.apply-all-location"
    "button[onclick='onApplyAllLocation(0)']" "02_location_applied" inventoryId

def step3SetWhse (inventoryId : String) : ReceiverM Unit :=
  setSelect self.whseLabel "select.apply-all-whse"
    "button[onclick='onApplyAllWhseLocation(0)']" "03_whse_applied" inventoryId

-- Whether the row has an input for the quantity, of its own or in its cell.
def hasInput (row : GridRow) : Bool :=
  row.hasQtyInput || match row.cells[qtyCol]? with
    | some cell => cell.hasInput
    | none      => false

def step4FindRow (py : PyStd) (inventoryId model : String) : ReceiverM (Option ReceiveOutcome) := do
  screenshot "04a_grid_before_search" inventoryId
  match ← findModelRow py model with
  | none     => return some .notFound
  | some row =>
    if !hasInput row then return some .notFound
    .perform (.setQty row)
    screenshot "04_qty_set" inventoryId
    return none

def step6EnterSerial (inventoryId serial : String) : ReceiverM (Option ReceiveOutcome) := do
  if !(← .perform .hasSerialInput) then return some .notFound
  .perform (.fillSerial serial)
  screenshot "06_serial_entered" inventoryId
  return none

def step8Finalize (inventoryId : String) : ReceiverM ReceiveOutcome := do
  .perform (.click "a[href='#finish']")
  screenshot "08_finalized" inventoryId
  if (← .perform .finalizeCheck) ≠ "" then return .finalizeError
  return .received

def runWizard (py : PyStd) (poNumber inventoryId model serial : String) :
    ReceiverM ReceiveOutcome := do
  if let some outcome ← self.step1Navigate poNumber inventoryId then return outcome
  self.step2SetLocation inventoryId
  self.step3SetWhse inventoryId
  if let some outcome ← step4FindRow py inventoryId model then return outcome
  .perform (.click "a[href='#next']")
  screenshot "05_serial_page" inventoryId
  if let some outcome ← step6EnterSerial inventoryId serial then return outcome
  .perform (.click "a[href='#next']")
  screenshot "07_review_page" inventoryId
  step8Finalize inventoryId

end PortalReceiver
end ReceivingApp
