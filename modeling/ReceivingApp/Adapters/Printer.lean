import ReceivingApp.Core.Schema

namespace ReceivingApp

structure Date where
  year  : Nat
  month : Nat
  day   : Nat
  deriving DecidableEq, Repr

def zeroPad (width n : Nat) : String :=
  String.ofList ((Nat.toDigits 10 n).leftpad width '0')

-- `strftime("%m/%d/%Y")`
def Date.strftime (d : Date) : String :=
  s!"{zeroPad 2 d.month}/{zeroPad 2 d.day}/{zeroPad 4 d.year}"

-- ### ZPL helpers

def zplSafe (s : Option String) : String :=
  String.ofList <| (((orEmpty s).toList.filter (· ≠ '^')).filter (· ≠ '~')).map
    fun c => if c = '&' then '+' else c

-- The day on which the label is printed is given.
def buildZpl (today : Date) (record : ReceivingRecord) : String :=
  let description := zplSafe s!"{record.modelNumber} - {record.productCategory}"
  let inv := zplSafe record.inventoryId
  let po  := zplSafe record.purchaseOrder
  let mod := zplSafe record.modelNumber
  let br  := zplSafe record.brand
  let ser := zplSafe record.serial
  let tg  := zplSafe record.tags
  let tod := zplSafe today.strftime
  "^XA\n" ++
  "^PW812\n" ++
  "^LL609\n" ++
  "^CI28\n" ++
  s!"^FO10,20^A0N,28,28^FB790,3,0,L^FD{description}^FS\n" ++
  s!"^FO10,118^A0N,24,24^FDBrand: {br}^FS\n" ++
  s!"^FO10,154^A0N,22,22^FDPurchase Order: {po}^FS\n" ++
  s!"^FO10,182^A0N,28,28^FDModel: {mod}^FS\n" ++
  s!"^FO430,182^A0N,28,28^FDSN#: {ser}^FS\n" ++
  s!"^FO10,246^A0N,20,20^FDTags: {tg}^FS\n" ++
  s!"^FO10,270^A0N,20,20^FDInventory ID: {inv}^FS\n" ++
  s!"^FO10,296^BY4^BCN,80,N,N,N^FD%{inv}%^FS\n" ++
  s!"^FO0,412^A0N,80,80^FB812,1,0,C^FD{inv}^FS\n" ++
  "^FO10,498^GB790,2,2^FS\n" ++
  s!"^FO10,504^A0N,20,20^FDReceived: {tod}^FS\n" ++
  s!"^FO500,504^A0N,20,20^FDPrinted: {tod}^FS\n" ++
  "^XZ\n"

def buildPoZpl (today : Date) (poNumber : String) : String :=
  let po := zplSafe poNumber
  let bc := zplSafe s!"PO:{poNumber}"
  "^XA\n" ++
  "^PW812\n" ++
  "^LL406\n" ++
  "^CI28\n" ++
  "^FO10,15^A0N,28,28^FDPURCHASE ORDER^FS\n" ++
  s!"^FO10,55^A0N,80,80^FD{po}^FS\n" ++
  s!"^FO10,152^BY3^BCN,80,N,N,N^FD{bc}^FS\n" ++
  s!"^FO0,266^A0N,28,28^FB812,1,0,C^FD{bc}^FS\n" ++
  s!"^FO10,316^A0N,22,22^FDPrinted: {today.strftime}^FS\n" ++
  "^XZ\n"

end ReceivingApp
