import ReceivingApp.Core.Schema
import ReceivingApp.Lib.Program

open Interaction

namespace ReceivingApp

-- ### `html.escape`

-- `s.replace(old, new)` for a single character.
def replaceChar (old : Char) (new : String) (s : String) : String :=
  String.ofList (s.toList.flatMap fun c => if c = old then new.toList else [c])

def doubleQuote : Char := Char.ofNat 34

def singleQuote : Char := Char.ofNat 39

-- The ampersand comes first, as all other replacements have one.
def escape (s : String) : String :=
  let s := replaceChar '&' "&amp;" s
  let s := replaceChar '<' "&lt;" s
  let s := replaceChar '>' "&gt;" s
  let s := replaceChar doubleQuote "&quot;" s
  replaceChar singleQuote "&#x27;" s

-- ### Documents

-- What an f-string writes for the value of a dimension is given.
def renderLabel (str : PyVal → String) (record : ReceivingRecord) : String :=
  let size := record.productSize
  let dims := str (size.getD "w" (.int 0)) ++ " x " ++ str (size.getD "d" (.int 0)) ++ " x " ++
    str (size.getD "h" (.int 0))
  "<!DOCTYPE html>\n" ++
  "<html><head><meta charset='utf-8'>" ++
  "<title>Receiving Label</title></head><body>\n" ++
  "<h1>Receiving Label</h1><dl>\n" ++
  ("<dt>PO</dt><dd>" ++ escape record.purchaseOrder ++ "</dd>\n") ++
  ("<dt>Model</dt><dd>" ++ escape record.modelNumber ++ "</dd>\n") ++
  ("<dt>Inventory ID</dt><dd>" ++ escape record.inventoryId ++ "</dd>\n") ++
  ("<dt>Serial</dt><dd>" ++ escape record.serial ++ "</dd>\n") ++
  ("<dt>Brand</dt><dd>" ++ escape record.brand ++ "</dd>\n") ++
  ("<dt>Vendor</dt><dd>" ++ escape record.vendor ++ "</dd>\n") ++
  ("<dt>Tags</dt><dd>" ++ escape record.tags ++ "</dd>\n") ++
  ("<dt>Status</dt><dd>" ++ escape record.matchStatus.value ++ "</dd>\n") ++
  ("<dt>Truck</dt><dd>" ++ escape record.truck ++ "</dd>\n") ++
  ("<dt>Stop</dt><dd>" ++ escape record.stop ++ "</dd>\n") ++
  ("<dt>Sales Order</dt><dd>" ++ escape record.salesOrder ++ "</dd>\n") ++
  ("<dt>Size</dt><dd>" ++ escape dims ++ "</dd>\n") ++
  ("<dt>Qty</dt><dd>" ++ toString record.quantity ++ "</dd>\n") ++
  ("<dt>Timestamp</dt><dd>" ++ escape record.timestamp ++ "</dd>\n") ++
  "</dl></body></html>"

def renderPoLabel (poNumber : String) : String :=
  let poEscaped := escape poNumber
  "<!DOCTYPE html><html><head><meta charset='utf-8'>" ++
  "<title>PO Label</title></head><body>" ++
  ("<h1>Purchase Order</h1><p style='font-size:3em'>" ++ poEscaped ++ "</p>") ++
  ("<p>Barcode: PO:" ++ poEscaped ++ "</p>") ++
  "</body></html>"

-- ### The printer

-- A temporary file is known by its URI. `webbrowser.open` says whether a browser was launched.
inductive PreviewCall : Type → Type
  | writeTemp (content : String) : PreviewCall String
  | openUri (uri : String) : PreviewCall Bool

abbrev PreviewM := Program PreviewCall PyExc

namespace PreviewPrinter

-- `f"{exc}"` is given.
variable (fmt : PyExc → String)

-- `try: … except Exception as exc: raise PrinterError(…) from exc`
def openPage (text content : String) : PreviewM Unit :=
  Program.tryCatch
    (do
      let tmp ← .perform (.writeTemp content)
      let _ ← .perform (.openUri tmp))
    (fun e => .throw (if e.isException then ⟨.printerError, text ++ fmt e⟩ else e))

def printLabel (str : PyVal → String) (record : ReceivingRecord) : PreviewM Unit :=
  openPage fmt "preview label failed — " (renderLabel str record)

def printPoLabel (poNumber : String) : PreviewM Unit :=
  openPage fmt "preview PO label failed — " (renderPoLabel poNumber)

end PreviewPrinter

-- The temporary files with what they hold, the pages that have been opened, and those for which no
-- browser could be launched.
structure PreviewWorld where
  files   : List (String × String)
  opened  : List String
  refused : List String

-- A file has a name of its own. What is left of one that could not be written is not looked at. A
-- call that raises may have opened its page.
def PreviewWorld.Answers : Program.Env PreviewCall PyExc PreviewWorld := fun
  | _, .writeTemp content, w, r, w' =>
    (∃ uri, uri ∉ w.files.map Prod.fst ∧ r = .ok uri ∧
      w' = { w with files := w.files ++ [(uri, content)] }) ∨
    ∃ e uri rest, uri ∉ w.files.map Prod.fst ∧ r = .error e ∧
      w' = { w with files := w.files ++ [(uri, rest)] }
  | _, .openUri uri, w, r, w' =>
    (r = .ok true ∧ w' = { w with opened := w.opened ++ [uri] }) ∨
    (r = .ok false ∧ w' = { w with refused := w.refused ++ [uri] }) ∨
    (∃ e, r = .error e) ∧ (w' = w ∨ w' = { w with opened := w.opened ++ [uri] })

end ReceivingApp
