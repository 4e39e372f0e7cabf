import ReceivingApp.Adapters.Printer
import ReceivingApp.Lib.Program

open Interaction

namespace ReceivingApp

-- What the driver of the printer, or its import, may raise. An exit is no `Exception`.
inductive SpoolExc
  | printerError (msg : String)
  | importError (msg : String)
  | other (msg : String)
  | exit
  deriving DecidableEq, Repr

-- `str(exc)`
def SpoolExc.str : SpoolExc → String
  | printerError msg | importError msg | other msg => msg
  | exit                                           => ""

-- ### win32print

-- The entry `pPrinterName` of an enumerated printer, if there is one.
structure PrinterInfo where
  pPrinterName : Option (Option String)
  deriving DecidableEq, Repr

-- The calls on a printer that has been opened.
inductive HandleCall
  | startDocPrinter (name : String)
  | startPagePrinter
  | writePrinter (zpl : String)
  | endPagePrinter
  | endDocPrinter
  | closePrinter
  deriving DecidableEq, Repr

-- The name of the printer is looked up, and kept, in the global variable `_zebra_printer_name`.
inductive SpoolCall : Type → Type
  | zebraPrinterName : SpoolCall (Option String)
  | setZebraPrinterName (name : String) : SpoolCall Unit
  | importWin32print : SpoolCall Unit
  | enumPrinters : SpoolCall (List PrinterInfo)
  | openPrinter (name : String) : SpoolCall Nat
  | use (h : Nat) (c : HandleCall) : SpoolCall Unit

abbrev SpoolM := Program SpoolCall SpoolExc

-- ### The search for a printer

def searchTerms : List String := [
  "ZD421-203dpi ZPL",
  "UPS Thermal 2844",
  "ZP 450",
  "ZDesigner ZP",
  "Zebra",
  "ZDesigner"
]

-- `term.lower() in name.lower()`
def InName (py : PyStd) (term name : String) : Prop :=
  (py.lower term).toList <:+: (py.lower name).toList

instance (py : PyStd) (term name : String) : Decidable (InName py term name) :=
  inferInstanceAs (Decidable (_ <:+: _))

-- The first of the names that a term is in.
def findName (py : PyStd) (term : String) : List (Option String) → Except SpoolExc (Option String)
  | []                 => .ok none
  | some name :: names => if InName py term name then .ok (some name) else findName py term names
  | none :: _          => .error (.other "'NoneType' object has no attribute 'lower'")

def searchNames (py : PyStd) (names : List (Option String)) :
    List String → Except SpoolExc (Option String)
  | []            => .ok none
  | term :: terms => do
    match ← findName py term names with
    | some name => return name
    | none      => searchNames py names terms

def enumerate (py : PyStd) : SpoolM String := do
  let printers ← .perform .enumPrinters
  let names := printers.map (fun p => p.pPrinterName.getD (some ""))
  match ← .ofExcept (searchNames py names searchTerms) with
  | some name =>
    .perform (.setZebraPrinterName name)
    return name
  | none      =>
    .perform (.setZebraPrinterName "")
    return ""

-- Whether there is a driver to import.
def win32printImported : SpoolM Bool :=
  Program.tryCatch (.perform .importWin32print >>= fun _ => .pure true) fun
    | .importError _ => .pure false
    | e              => .throw e

def findZebraPrinter (py : PyStd) : SpoolM String := do
  match ← .perform .zebraPrinterName with
  | some name => return name
  | none      =>
    if ← win32printImported then
      Program.tryCatch (enumerate py) fun
        | .exit => .throw .exit
        | e     => .throw (.printerError s!"Zebra printer enumeration failed — {e.str}")
    else
      .perform (.setZebraPrinterName "")
      return ""

-- ### ZebraPrinter

def spoolPage (h : Nat) (zpl : String) : SpoolM Unit := do
  .perform (.use h .startPagePrinter)
  .perform (.use h (.writePrinter zpl))
  .perform (.use h .endPagePrinter)

def spoolDoc (h : Nat) (docName zpl : String) : SpoolM Unit := do
  .perform (.use h (.startDocPrinter docName))
  (spoolPage h zpl).withFinally (.perform (.use h .endDocPrinter))

def spool (docName printerName zpl : String) : SpoolM Unit := do
  .perform .importWin32print
  let h ← .perform (.openPrinter printerName)
  (spoolDoc h docName zpl).withFinally (.perform (.use h .closePrinter))

-- What both kinds of labels are printed by.
def ZebraPrinter.print (py : PyStd) (docName zpl failure : String) : SpoolM Unit := do
  let printerName ← findZebraPrinter py
  if printerName = "" then
    .throw (.printerError "No Zebra printer found — install a ZPL-capable Zebra driver and retry.")
  else
    Program.tryCatch (spool docName printerName zpl) fun
      | .importError _ => .throw (.printerError
        "win32print not available — ZebraPrinter requires Windows with pywin32 installed.")
      | .exit          => .throw .exit
      | e              => .throw (.printerError s!"{failure} — {e.str}")

def ZebraPrinter.printLabel (py : PyStd) (repr : String → String) (today : Date)
    (record : ReceivingRecord) : SpoolM Unit :=
  print py "ZPL Label" (buildZpl today record)
    s!"ZPL spool failed for inventory_id={repr record.inventoryId}"

def ZebraPrinter.printPoLabel (py : PyStd) (repr : String → String) (today : Date)
    (poNumber : String) : SpoolM Unit :=
  print py "PO Label" (buildPoZpl today poNumber)
    s!"PO label spool failed for po_number={repr poNumber}"

-- ### The spooler

inductive Phase
  | opened
  | inDoc
  | inPage
  | closed
  deriving DecidableEq, Repr

-- A printer that has been opened, with the documents that have been started on it, the latest one
-- first: the name of each and what has been written to it.
structure Opening where
  printer   : String
  phase     : Phase
  documents : List (String × List String)
  deriving DecidableEq, Repr

namespace Opening

-- In which phases a call belongs.
def Ready (o : Opening) : HandleCall → Prop
  | .startDocPrinter _ | .closePrinter       => o.phase = .opened
  | .startPagePrinter                        => o.phase = .inDoc
  | .writePrinter _ | .endPagePrinter        => o.phase = .inPage
  | .endDocPrinter                           => o.phase = .inDoc ∨ o.phase = .inPage

def write (zpl : String) (o : Opening) : Opening :=
  { o with documents := o.documents.modifyHead fun (name, texts) => (name, texts ++ [zpl]) }

def apply (o : Opening) : HandleCall → Opening
  | .startDocPrinter name => { o with phase := .inDoc, documents := (name, []) :: o.documents }
  | .startPagePrinter     => { o with phase := .inPage }
  | .writePrinter zpl     => o.write zpl
  | .endPagePrinter       => { o with phase := .inDoc }
  | .endDocPrinter        => { o with phase := .opened }
  | .closePrinter         => { o with phase := .closed }

-- What a call that raises leaves behind. A document that could not be started is none, and what is
-- ended or closed is not used any more. The other calls may have been carried out.
def Fails (o : Opening) : HandleCall → Opening → Prop
  | .startDocPrinter _, o'               => o' = o
  | .endDocPrinter, o'                   => o' = o.apply .endDocPrinter
  | .closePrinter, o'                    => o' = o.apply .closePrinter
  | c, o'                                => o' = o ∨ o' = o.apply c

end Opening

-- Handles count the printers that have been opened.
structure Spooler where
  printerName : Option String
  openings    : List Opening

-- How the surroundings may answer. Anything but the global variable may raise anything. Nothing is
-- said of calls that do not belong in the phase of the handle, and of those on no handle at all.
def Spooler.Answers : Program.Env SpoolCall SpoolExc Spooler := fun
  | _, .zebraPrinterName, w, r, w'         => r = .ok w.printerName ∧ w' = w
  | _, .setZebraPrinterName name, w, r, w' => r = .ok () ∧ w' = { w with printerName := some name }
  | _, .importWin32print, w, _, w'         => w' = w
  | _, .enumPrinters, w, _, w'             => w' = w
  | _, .openPrinter name, w, r, w'         =>
    (r = .ok w.openings.length ∧ w' = { w with openings := w.openings ++ [⟨name, .opened, []⟩] }) ∨
    (∃ e, r = .error e ∧ w' = w)
  | _, .use h c, w, r, w'                  =>
    ∀ o ∈ w.openings[h]?, o.Ready c →
      ∃ o', w' = { w with openings := w.openings.set h o' } ∧
        ((r = .ok () ∧ o' = o.apply c) ∨ (∃ e, r = .error e ∧ o.Fails c o'))

end ReceivingApp
