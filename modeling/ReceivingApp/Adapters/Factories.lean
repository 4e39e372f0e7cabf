import ReceivingApp.Config
import ReceivingApp.Core.Robot

namespace ReceivingApp

-- ### Adapters, as they are constructed

structure PortalSource where
  baseUrl     : String
  username    : String
  password    : String
  downloadDir : Path
  deriving DecidableEq

inductive PurchaseOrderSource
  | portal (source : PortalSource)
  | fake (dataPath : Path)
  deriving DecidableEq

structure ResultSinkAdapter where
  baseUrl          : String
  apiToken         : String
  boardId          : String
  readyGroupId     : String
  noMatchGroupId   : String
  attentionGroupId : String
  inventoryIdCol   : String
  modelCol         : String
  serialCol        : String
  statusCol        : String
  deriving DecidableEq

inductive ResultSink
  | graphql (sink : ResultSinkAdapter)
  | null
  deriving DecidableEq

structure BoardApiAdapter where
  apiUrl          : String
  token           : String
  boardId         : String
  readyGroupId    : String
  receivedGroupId : String
  noMatchGroupId  : String
  inventoryIdCol  : String
  modelCol        : String
  serialCol       : String
  statusCol       : String
  deriving DecidableEq

inductive BoardAdapter
  | graphql (board : BoardApiAdapter)
  | fake (readyItems : Option (List ReadyItem))
  deriving DecidableEq

structure PortalReceiver where
  baseUrl       : String
  username      : String
  password      : String
  locationLabel : String
  whseLabel     : String
  screenshotDir : Path
  headless      : Bool
  deriving DecidableEq

structure FakeReceiver where
  outcomes       : List (String × String)
  defaultOutcome : ReceiveOutcome
  deriving DecidableEq

inductive ReceivingExecutor
  | portal (receiver : PortalReceiver)
  | fake (receiver : FakeReceiver)
  deriving DecidableEq

inductive PrinterKind
  | preview
  | zebra
  deriving DecidableEq

inductive ScannerKind
  | wedge
  | manual
  deriving DecidableEq

-- ### Factories

def makeSource (sourceType baseUrl username password : String) (downloadDir : Path)
    (fakeDataPath : Option Path) : Except PyExc PurchaseOrderSource :=
  if sourceType = "portal" then .ok (.portal ⟨baseUrl, username, password, downloadDir⟩)
  else if sourceType = "fake" then .ok (.fake (fakeDataPath.getD (.of "test_data/pos.json")))
  else .error ⟨.sourceError,
    s!"Unknown SOURCE_TYPE '{sourceType}' — supported values: portal, fake. " ++
      "Set SOURCE_TYPE in .env and restart."⟩

def makeSink (sinkType : String) (sink : ResultSinkAdapter) : Except PyExc ResultSink :=
  if sinkType = "null" then .ok .null
  else if sinkType = "graphql" then .ok (.graphql sink)
  else .error ⟨.sinkError,
    s!"Unknown SINK_TYPE '{sinkType}' — supported values: graphql, null. " ++
      "Set SINK_TYPE in .env and restart."⟩

def makeBoard (boardType : String) (board : BoardApiAdapter)
    (readyItems : Option (List ReadyItem)) : Except PyExc BoardAdapter :=
  if boardType = "fake" then .ok (.fake readyItems)
  else if boardType = "graphql" then .ok (.graphql board)
  else .error ⟨.boardError,
    s!"Unknown board_type '{boardType}' — supported values: graphql, fake. " ++
      "Set BOARD_TYPE in .env and restart."⟩

-- The message quotes the type as `repr` does.
def makeReceiver (repr : String → String) (receiverType baseUrl username password : String)
    (locationLabel whseLabel : String) (screenshotDir : Option Path) (headless : Bool)
    (outcomes : Option (List (String × String))) (defaultOutcome : ReceiveOutcome) :
    Except PyExc ReceivingExecutor :=
  if receiverType = "fake" then .ok (.fake ⟨outcomes.getD [], defaultOutcome⟩)
  else if receiverType = "portal" then .ok <| .portal {
    baseUrl
    username
    password
    locationLabel
    whseLabel
    screenshotDir := screenshotDir.getD (.of "screenshots")
    headless
  }
  else .error ⟨.executorError,
    s!"Unknown RECEIVER_TYPE {repr receiverType} — supported values: portal, fake. " ++
      "Set RECEIVER_TYPE in .env and restart."⟩

def makePrinter (printerType : String) : Except PyExc PrinterKind :=
  if printerType = "preview" then .ok .preview
  else if printerType = "zebra" then .ok .zebra
  else .error ⟨.printerError,
    s!"Unknown PRINTER_TYPE '{printerType}' — supported values: preview, zebra."⟩

def makeScanner (scannerType : String) : Except PyExc ScannerKind :=
  if scannerType = "wedge" then .ok .wedge
  else if scannerType = "manual" then .ok .manual
  else .error ⟨.scannerError,
    s!"Unknown SCANNER_TYPE '{scannerType}' — supported values: wedge, manual."⟩

end ReceivingApp
