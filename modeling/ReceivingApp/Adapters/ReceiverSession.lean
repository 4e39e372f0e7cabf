import ReceivingApp.Core.Robot

namespace ReceivingApp

-- ### The browser

-- The attributes of a receiver that hold on to something of Playwright.
inductive Handle
  | pw
  | browser
  | context
  | page
  deriving DecidableEq, Repr

-- What is asked of Playwright to open a session and to close it.
inductive BrowserOp
  | start
  | launch
  | newContext
  | newPage
  | login
  | closePage
  | closeContext
  | closeBrowser
  | stop
  deriving DecidableEq, Repr

def Handle.acquireOp : Handle → BrowserOp
  | pw      => .start
  | browser => .launch
  | context => .newContext
  | page    => .newPage

def Handle.releaseOp : Handle → BrowserOp
  | pw      => .stop
  | browser => .closeBrowser
  | context => .closeContext
  | page    => .closePage

-- What each operation raises. A call of a method comes to each of them at most once.
abbrev Faults := BrowserOp → Option PyExc

-- The handles are numbers, in the order in which their objects are made. `loggedIn` has the pages on
-- which a login has completed, which is not known to the code.
structure BrowserSession where
  handles  : Handle → Option Nat
  made     : Nat
  loggedIn : List Nat

namespace BrowserSession

def init : BrowserSession where
  handles _ := none
  made      := 0
  loggedIn  := []

def assign (s : BrowserSession) (h : Handle) (value : Option Nat) : BrowserSession where
  handles  := fun h' => if h' = h then value else s.handles h'
  made     := s.made
  loggedIn := s.loggedIn

end BrowserSession

-- An exception leaves the attributes as they are.
abbrev SessionM := EStateM PyExc BrowserSession

-- ### The methods

namespace ReceiverSession

variable (faults : Faults)

def attempt (op : BrowserOp) : SessionM Unit :=
  match faults op with
  | some e => throw e
  | none   => return

def acquire (h : Handle) : SessionM Nat := do
  attempt faults h.acquireOp
  modifyGet fun s => (s.made, { s.assign h (some s.made) with made := s.made + 1 })

def release (h : Handle) : SessionM Unit := do
  if (← get).handles h ≠ none then
    attempt faults h.releaseOp
    modify (·.assign h none)

def close : SessionM Unit :=
  forM [.page, .context, .browser, .pw] (release faults)

def login (page : Nat) : SessionM Unit := do
  attempt faults .login
  modify fun s => { s with loggedIn := page :: s.loggedIn }

-- The `try` block of `_ensure_session`.
def openPage : SessionM Nat := do
  let _ ← acquire faults .browser
  let _ ← acquire faults .context
  let page ← acquire faults .page
  login faults page
  return page

-- Its handler.
def abandon (e : PyExc) : SessionM Nat := do
  if e.isException then close faults
  throw e

def ensureSession : SessionM Nat := do
  match (← get).handles .page with
  | some page => return page
  | none =>
    let _ ← acquire faults .pw
    tryCatch (openPage faults) (abandon faults)

-- What `_run_wizard` comes to on the page is given.
def receiveItem (reprStr : String → String) (reprExc : PyExc → String) (inventoryId : String)
    (runWizard : Nat → Except PyExc ReceiveOutcome) : SessionM ReceiveOutcome :=
  tryCatch
    (do
      let page ← ensureSession faults
      match runWizard page with
      | .ok outcome => return outcome
      | .error e    => throw e)
    fun exc =>
      if exc.cls = .executorError then throw exc
      else if exc.isException then
        throw ⟨.executorError,
          s!"Unexpected failure receiving inv={reprStr inventoryId}: {reprExc exc}"⟩
      else throw exc

end ReceiverSession
end ReceivingApp
