import ReceivingApp.Adapters.Factories
import ReceivingApp.Adapters.PortalDom
import ReceivingApp.Adapters.Source
import ReceivingApp.Lib.Program

open Interaction

namespace ReceivingApp

inductive SourceExc
  | sourceError (msg : String)
  | osError
  | csvError
  | timeoutException
  | other
  | exit
  deriving DecidableEq, Repr

-- ### Paths

-- An absolute path without links: its drive, what separates its parts, and these.
structure ResolvedPath where
  drive : String
  sep   : String
  parts : List String
  deriving DecidableEq, Repr

namespace ResolvedPath

def str (p : ResolvedPath) : String :=
  p.drive ++ p.sep ++ p.sep.intercalate p.parts

-- The root of a drive is its own parent.
def parent (p : ResolvedPath) : ResolvedPath :=
  { p with parts := p.parts.dropLast }

end ResolvedPath

-- `name.suffix`: what starts at the last dot, unless that is the first or the last character.
def pathSuffix (name : String) : String :=
  let ext := (name.toList.reverse.takeWhile (· ≠ '.')).reverse
  let stem := name.toList.take (name.toList.length - ext.length - 1)
  if ext = [] ∨ stem = [] then "" else String.ofList ('.' :: ext)

-- ### Calls

inductive Element
  | byName (value : String)
  | byXpath (value : String)
  | byId (value : String)
  deriving DecidableEq, Repr

-- The calls on a browser, and through `WebDriverWait` and `execute_script`, that answer nothing.
inductive DriverCall
  | get (url : String)
  | await (element : Element) (timeoutSecs : Nat)
  | find (element : Element)
  | sendKeys (element : Element) (text : String)
  | click (element : Element)
  | executeClick (element : Element)
  | quit
  deriving DecidableEq, Repr

inductive SourceCall : Type → Type
  | resolve (path : Path) : SourceCall ResolvedPath
  | home : SourceCall ResolvedPath
  | root : SourceCall ResolvedPath
  | mkdir (dl : ResolvedPath) : SourceCall Unit
  | iterdir (dl : ResolvedPath) : SourceCall (List String)
  | isFile (dl : ResolvedPath) (name : String) : SourceCall Bool
  | unlink (dl : ResolvedPath) (name : String) : SourceCall Unit
  | readCsv (dl : ResolvedPath) (name : String) : SourceCall (List (List String))
  | buildDriver (dl : ResolvedPath) : SourceCall Nat
  | drive (driver : Nat) (c : DriverCall) : SourceCall Unit
  | isSelected (driver : Nat) (element : Element) : SourceCall Bool
  | sleep (secs : Nat) : SourceCall Unit

abbrev SourceM := Program SourceCall SourceExc

-- `except SourceError: raise` and then `except Exception as exc: raise SourceError(msg) from exc`.
def wrapSource {α : Type} (msg : String) (p : SourceM α) : SourceM α :=
  p.tryCatch fun
    | .sourceError text => .throw (.sourceError text)
    | .exit             => .throw .exit
    | _                 => .throw (.sourceError msg)

-- ### The portal

def waitTimeoutSecs      : Nat := 40
def loginSettleSecs      : Nat := 8
def postLoginSecs        : Nat := 4
def popupDismissSecs     : Nat := 3
def filterSettleSecs     : Nat := 8
def navSettleSecs        : Nat := 5
def filterUncheckSecs    : Nat := 2
def downloadTimeoutSecs  : Nat := 60
def downloadFallbackSecs : Nat := 20

def openFilter     : Element := .byId "OpenFilter"
def onOrderFilter  : Element := .byId "OnOrderFilter"
def exportButton   : Element := .byXpath "//i[contains(@class,'fa-file-excel-o')]/.."

namespace PortalSource

-- The prompt may be absent.
def dismissPrompt (driver : Nat) : SourceM Unit :=
  Program.tryCatch
    (do
      let saveBtn := Element.byId "save-current-location"
      .perform (.drive driver (.await saveBtn 5))
      .perform (.drive driver (.executeClick saveBtn))
      .perform (.sleep popupDismissSecs))
    fun
      | .timeoutException => .pure ()
      | e                 => .throw e

def login (source : PortalSource) (driver : Nat) : SourceM Unit :=
  wrapSource "portal login failed" do
    .perform (.drive driver (.get (source.baseUrl ++ "/login")))
    .perform (.sleep loginSettleSecs)
    .perform (.drive driver (.await (.byName "email") waitTimeoutSecs))
    .perform (.drive driver (.sendKeys (.byName "email") source.username))
    .perform (.drive driver (.sendKeys (.byName "password") source.password))
    .perform (.drive driver (.click (.byXpath "//button[@type='submit']")))
    .perform (.sleep postLoginSecs)
    dismissPrompt driver

-- A checkbox is clicked if it does not show the value it is to show.
def setFilter (driver : Nat) (checkbox : Element) (value : Bool) (settleSecs : Nat) :
    SourceM Unit := do
  .perform (.drive driver (.await checkbox waitTimeoutSecs))
  if (← .perform (.isSelected driver checkbox)) ≠ value then
    .perform (.drive driver (.executeClick checkbox))
    .perform (.sleep settleSecs)

def applyOnOrderFilter (source : PortalSource) (driver : Nat) : SourceM Unit :=
  wrapSource "failed to apply on-order filter" do
    .perform (.drive driver (.get (source.baseUrl ++ "/inventory/serial")))
    .perform (.sleep navSettleSecs)
    setFilter driver openFilter false filterUncheckSecs
    setFilter driver onOrderFilter true filterSettleSecs

def triggerExport (driver : Nat) : SourceM Unit :=
  wrapSource "failed to trigger export" do
    .perform (.drive driver (.find exportButton))
    .perform (.drive driver (.executeClick exportButton))

-- ### The download directory

def guardDownloadDir (repr : String → String) (path : ResolvedPath) : SourceM Unit := do
  let home ← .perform .home
  let root ← .perform .root
  if path = home ∨ path = root ∨ path.parent = path then
    .throw (.sourceError (s!"DOWNLOAD_DIR {repr path.str} failed the safety check — " ++
      "it must not be the home directory or filesystem root. " ++
      "Configure a dedicated download subdirectory."))

-- `f.suffix.lower() in {".csv", ".crdownload"}`
def isExport (py : PyStd) (name : String) : Bool :=
  py.lower (pathSuffix name) ∈ [".csv", ".crdownload"]

def clear (py : PyStd) (dl : ResolvedPath) (name : String) : SourceM Unit := do
  if (← .perform (.isFile dl name)) ∧ isExport py name then
    Program.tryCatch (.perform (.unlink dl name)) fun
      | .osError => .pure ()
      | e        => .throw e

-- `keyword in f.name.lower() and not f.name.endswith(".crdownload")`
def isDownload (py : PyStd) (keyword name : String) : Bool :=
  inText keyword (py.lower name) ∧ ¬".crdownload".toList.isSuffixOf name.toList

def listDir (dl : ResolvedPath) : SourceM (List String) :=
  Program.tryCatch (.perform (.iterdir dl)) fun
    | .osError => .throw (.sourceError s!"download directory unreadable — {dl.str}")
    | e        => .throw e

-- The directory is looked at once a second for the given time.
def pollDir (py : PyStd) (dl : ResolvedPath) (keyword : String) : Nat → SourceM (Option String)
  | 0     => .pure none
  | n + 1 => do
    let names ← listDir dl
    match names.filter (isDownload py keyword) with
    | name :: _ => return some name
    | []        =>
      .perform (.sleep 1)
      pollDir py dl keyword n

def waitForCsv (py : PyStd) (dl : ResolvedPath) : SourceM String := do
  match ← pollDir py dl "serial-number-inventory" downloadTimeoutSecs with
  | some name => return name
  | none      =>
    match ← pollDir py dl ".csv" downloadFallbackSecs with
    | some name => return name
    | none      => .throw (.sourceError s!"export timed out — no CSV found in {dl.str}")

-- The table is read at once.
def parseCsv (dl : ResolvedPath) (name : String) : SourceM (List LineItem) :=
  Program.tryCatch
    (do
      let table ← .perform (.readCsv dl name)
      match parseOnOrderCsv table with
      | .ok rows => return rows
      | .error e => .throw (.sourceError e.msg))
    fun
      | .osError | .csvError => .throw (.sourceError s!"failed to parse inventory CSV — {name}")
      | e                    => .throw e

-- ### Fetching

-- What is done while the browser runs.
def scrape (py : PyStd) (source : PortalSource) (dl : ResolvedPath) (driver : Nat) :
    SourceM (List LineItem) :=
  wrapSource "order portal scrape failed" do
    source.login driver
    source.applyOnOrderFilter driver
    triggerExport driver
    let csvPath ← waitForCsv py dl
    parseCsv dl csvPath

def launch (dl : ResolvedPath) : SourceM Nat :=
  Program.tryCatch (.perform (.buildDriver dl)) fun
    | .exit => .throw .exit
    | _     => .throw (.sourceError "failed to launch browser")

def fetchAll (py : PyStd) (repr : String → String) (source : PortalSource) :
    SourceM (List LineItem) := do
  let dl ← .perform (.resolve source.downloadDir)
  guardDownloadDir repr dl
  .perform (.mkdir dl)
  let names ← .perform (.iterdir dl)
  names.foldlM (fun _ name => clear py dl name) ()
  let driver ← launch dl
  (source.scrape py dl driver).withFinally (.perform (.drive driver .quit))

def fetchOrder (py : PyStd) (repr : String → String) (source : PortalSource) (poNumber : String) :
    SourceM (List LineItem) := do
  let allRows ← source.fetchAll py repr
  return allRows.filter (fun row => row.purchaseOrder = some (some poNumber))

end PortalSource

-- ### The surroundings

-- What is in a directory, with the cells of the table that a file is read as. The code does not know
-- of `fresh`, which says of an entry that it has not been there from the beginning.
structure DirEntry where
  name   : String
  isFile : Bool
  table  : List (List String)
  fresh  : Bool
  deriving DecidableEq, Repr

inductive BrowserState
  | running
  | quit
  | stuck
  deriving DecidableEq, Repr

-- A browser is stuck if it has failed to quit. Of the page there are the two checkboxes.
structure Browser where
  state     : BrowserState
  openItems : Bool
  onOrder   : Bool
  deriving DecidableEq, Repr

namespace Browser

def selected (b : Browser) (element : Element) : Bool :=
  if element = openFilter then b.openItems
  else if element = onOrderFilter then b.onOrder
  else false

def toggle (b : Browser) (element : Element) : Browser :=
  if element = openFilter then { b with openItems := !b.openItems }
  else if element = onOrderFilter then { b with onOrder := !b.onOrder }
  else b

-- How a call leaves a running browser. A page that is opened shows anything, and a click that raises
-- may have been carried out.
def After (b : Browser) : DriverCall → Except SourceExc Unit → Browser → Prop
  | .get _, _, b' | .click _, _, b'     => b'.state = .running
  | .executeClick element, .ok _, b'    => b' = b.toggle element
  | .executeClick element, .error _, b' => b' = b ∨ b' = b.toggle element
  | .quit, .ok _, b'                    => b' = { b with state := .quit }
  | .quit, .error _, b'                 => b' = { b with state := .stuck }
  | _, _, b'                            => b' = b

end Browser

-- Drivers count the browsers that have been launched. Three logs tell which files have been deleted,
-- which could not be, and what has been read.
structure Downloads where
  resolve   : Path → ResolvedPath
  home      : ResolvedPath
  root      : ResolvedPath
  dir       : ResolvedPath → List DirEntry
  browsers  : List Browser
  deleted   : List (ResolvedPath × String)
  undeleted : List (ResolvedPath × String)
  read      : List DirEntry

namespace Downloads

-- What others make of the directories meanwhile. They may delete whatever they like, and all that
-- they add is fresh.
def Drift (dir dir' : ResolvedPath → List DirEntry) : Prop :=
  ∀ dl, ∀ entry ∈ dir' dl, entry.fresh ∨ entry ∈ dir dl

def Quiet (w w' : Downloads) : Prop :=
  ∃ dir, Drift w.dir dir ∧ w' = { w with dir }

-- How the surroundings may answer. Any call may raise anything. Calls on a browser that does not run
-- may do anything to browsers.
def Answers : Program.Env SourceCall SourceExc Downloads := fun
  | _, .resolve path, w, r, w'        => (∀ p, r = .ok p → p = w.resolve path) ∧ Quiet w w'
  | _, .home, w, r, w'                => (∀ p, r = .ok p → p = w.home) ∧ Quiet w w'
  | _, .root, w, r, w'                => (∀ p, r = .ok p → p = w.root) ∧ Quiet w w'
  | _, .mkdir _, w, _, w'             => Quiet w w'
  | _, .iterdir dl, w, r, w'          =>
    (∀ names, r = .ok names → names.Perm ((w.dir dl).map (·.name))) ∧ Quiet w w'
  | _, .isFile dl name, w, r, w'      =>
    (∀ b, r = .ok b → b = (w.dir dl).any (fun entry => entry.name = name ∧ entry.isFile)) ∧
      Quiet w w'
  | _, .unlink dl name, w, .ok _, w'  => ∃ dir, Drift w.dir dir ∧
    (∀ entry ∈ dir dl, entry.fresh ∨ entry.name ≠ name) ∧
    w' = { w with dir, deleted := w.deleted ++ [(dl, name)] }
  | _, .unlink dl name, w, .error _, w' =>
    Quiet { w with undeleted := w.undeleted ++ [(dl, name)] } w'
  | _, .readCsv dl name, w, .ok table, w' => ∃ entry ∈ w.dir dl, entry.name = name ∧
    entry.table = table ∧ Quiet { w with read := w.read ++ [entry] } w'
  | _, .readCsv _ _, w, .error _, w'  => Quiet w w'
  | _, .buildDriver _, w, .ok driver, w' => driver = w.browsers.length ∧
    ∃ b : Browser, b.state = .running ∧ Quiet { w with browsers := w.browsers ++ [b] } w'
  | _, .buildDriver _, w, .error _, w' => Quiet w w'
  | _, .drive driver c, w, r, w'      => ∃ browsers, Quiet { w with browsers } w' ∧
    ∀ b ∈ w.browsers[driver]?, b.state = .running →
      ∃ b', b.After c r b' ∧ browsers = w.browsers.set driver b'
  | _, .isSelected driver element, w, r, w' => Quiet w w' ∧
    ∀ b ∈ w.browsers[driver]?, b.state = .running → ∀ v, r = .ok v → v = b.selected element
  | _, .sleep _, w, _, w'             => Quiet w w'

end Downloads
end ReceivingApp
