import ReceivingApp.Adapters.Factories

namespace ReceivingApp

-- What the factories construct.
inductive Adapter
  | source (source : PurchaseOrderSource)
  | sink (sink : ResultSink)
  | board (board : BoardAdapter)
  | receiver (receiver : ReceivingExecutor)
  | printer (printer : PrinterKind)
  | scanner (scanner : ScannerKind)
  deriving DecidableEq

-- The three entry points: scanner_runner.py, refresh_runner.py and robot_runner.py.
inductive Runner
  | scanner
  | refresh
  | robot
  deriving DecidableEq

-- The factory calls of an entry point after `config.validate()`, in their order. The scanner is
-- made when the UI is run, and the robot makes its receiver anew for each turn of the poll loop.
def Runner.factoryCalls (repr : String → String) (c : Config) :
    Runner → List (Except PyExc Adapter)
  | scanner => [
      (makeSink c.sinkType {
        baseUrl          := c.sinkBaseUrl
        apiToken         := c.sinkApiToken
        boardId          := c.sinkBoardId
        readyGroupId     := c.sinkReadyGroupId
        noMatchGroupId   := c.sinkNoMatchGroupId
        attentionGroupId := c.sinkAttentionGroupId
        inventoryIdCol   := c.sinkInventoryIdCol
        modelCol         := c.sinkModelCol
        serialCol        := c.sinkSerialCol
        statusCol        := c.sinkStatusCol
      }).map .sink,
      (makeSource c.sourceType c.sourceBaseUrl c.sourceUsername c.sourcePassword c.downloadDir
        (some c.fakeSourceData)).map .source,
      (makePrinter c.printerType).map .printer,
      (makeScanner c.scannerType).map .scanner
    ]
  | refresh => [
      (makeSource c.sourceType c.sourceBaseUrl c.sourceUsername c.sourcePassword c.downloadDir
        (some c.fakeSourceData)).map .source
    ]
  | robot => [
      (makeBoard c.sinkType {
        apiUrl          := c.sinkBaseUrl
        token           := c.sinkApiToken
        boardId         := c.sinkBoardId
        readyGroupId    := c.sinkReadyGroupId
        receivedGroupId := c.sinkReceivedGroupId
        noMatchGroupId  := c.sinkNoMatchGroupId
        inventoryIdCol  := c.sinkInventoryIdCol
        modelCol        := c.sinkModelCol
        serialCol       := c.sinkSerialCol
        statusCol       := c.sinkStatusCol
      } none).map .board,
      (makeReceiver repr c.receiverType c.sourceBaseUrl c.sourceUsername c.sourcePassword
        c.receiveLocation c.receiveWhseLocation (some c.receiveScreenshotDir) true none
        .received).map .receiver
    ]

-- What has been constructed when a factory raises, or when all of them have been called.
def constructed : List (Except PyExc Adapter) → List Adapter
  | []               => []
  | .error _ :: _    => []
  | .ok a :: factoryCalls => a :: constructed factoryCalls

-- The adapters a runner gets to construct.
def Runner.adapters (repr : String → String) (c : Config) (runner : Runner) : List Adapter :=
  constructed (runner.factoryCalls repr c)

end ReceivingApp
