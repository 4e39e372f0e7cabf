import ReceivingApp.Core.Python

namespace ReceivingApp

-- `pathlib.Path(s)` and `path / part`.
inductive Path
  | of (s : String)
  | join (path : Path) (part : String)
  deriving DecidableEq, Repr

-- What the code looks at of a URL that `urllib.parse.urlparse` has parsed.
structure ParseResult where
  scheme   : String
  hostname : Option String
  deriving DecidableEq, Repr

-- `os.environ`, once the .env file has been loaded.
abbrev Environ := String → Option String

-- The module-level accessors, which `validate` sets.
structure Config where
  dbPath              : Path
  logDir              : Path
  downloadDir         : Path
  pollIntervalSecs    : Int
  sourceBaseUrl       : String
  sourceUsername      : String
  sourcePassword      : String
  sinkBaseUrl         : String
  sinkApiToken        : String
  sinkBoardId         : String
  sinkReceivedGroupId : String
  sinkNoMatchGroupId  : String
  sinkAttentionGroupId : String
  sinkReadyGroupId    : String
  sinkInventoryIdCol  : String
  sinkModelCol        : String
  sinkSerialCol       : String
  sinkStatusCol       : String
  scannerType         : String
  printerType         : String
  sourceType          : String
  sinkType            : String
  fakeSourceData      : Path
  receiverType        : String
  receiveLocation     : String
  receiveWhseLocation : String
  receiveScreenshotDir : Path
  deriving DecidableEq, Repr

namespace Config

-- A value that has been read, with the problems that were found.
structure Checked (α : Type) where
  val      : α
  problems : List String

-- `os.environ.get(name, "").strip()`. No proof looks into the text.
@[irreducible]
def read (env : Environ) (name : String) : String :=
  strip ((env name).getD "")

-- `raw if raw else default`
def readOptionalStr (env : Environ) (name default : String) : String :=
  if read env name = "" then default else read env name

def require (env : Environ) (name : String) : Checked String where
  val      := read env name
  problems :=
    if read env name = "" then
      [s!"  {name} — required but not set. See .env.example for description."]
    else []

def readPollInterval (py : PyStd) (env : Environ) : Checked Int :=
  let raw := read env "POLL_INTERVAL_SECS"
  if raw = "" then ⟨10, []⟩
  else match py.parseInt raw with
    | some n => ⟨n, []⟩
    | none   => ⟨10, [s!"  POLL_INTERVAL_SECS — must be an integer, got '{raw}'."]⟩

-- A list of plain strings as Python writes it.
def reprList (xs : List String) : String :=
  "[" ++ ", ".intercalate (xs.map (fun x => s!"'{x}'")) ++ "]"

-- The allowed values are given in the order of `sorted(allowed)`.
def validateChoice (env : Environ) (name default : String) (allowed : List String) :
    Checked String :=
  let val := readOptionalStr env name default
  {
    val
    problems :=
      if val ∈ allowed then []
      else [s!"  {name} — got '{val}', must be one of {reprList allowed}."]
  }

structure SinkGroupIds where
  received  : String
  noMatch   : String
  attention : String
  ready     : String

def readSinkGroupIds (env : Environ) : Checked SinkGroupIds :=
  let received := require env "SINK_RECEIVED_GROUP_ID"
  let noMatch := require env "SINK_NO_MATCH_GROUP_ID"
  let attention := require env "SINK_ATTENTION_GROUP_ID"
  let ready := require env "SINK_READY_GROUP_ID"
  {
    val      := ⟨received.val, noMatch.val, attention.val, ready.val⟩
    problems := received.problems ++ noMatch.problems ++ attention.problems ++ ready.problems
  }

structure BoardColumns where
  inventoryId : String
  model       : String
  serial      : String
  status      : String

def readBoardColumns (env : Environ) : Checked BoardColumns :=
  let inventoryId := require env "SINK_INVENTORY_ID_COL"
  let model := require env "SINK_MODEL_COL"
  let serial := require env "SINK_SERIAL_COL"
  let status := require env "SINK_STATUS_COL"
  {
    val      := ⟨inventoryId.val, model.val, serial.val, status.val⟩
    problems := inventoryId.problems ++ model.problems ++ serial.problems ++ status.problems
  }

-- The hosts that need no https.
def isLocal (hostname : Option String) : Bool :=
  hostname = some "localhost" ∨ hostname = some "127.0.0.1"

def checkHttpsScheme (urlparse : String → Except PyExc ParseResult) (url varName : String) :
    Except PyExc (List String) := do
  if url = "" then
    return []
  let parsed ← urlparse url
  if parsed.scheme = "https" then
    return []
  if isLocal parsed.hostname then
    return []
  return [s!"  {varName} — HTTPS is required for credentialed endpoints;" ++
    s!" got scheme '{parsed.scheme}'."]

def checkCredentialedUrlSchemes (urlparse : String → Except PyExc ParseResult)
    (sourceBaseUrl sourceType sinkBaseUrl sinkType : String) : Except PyExc (List String) := do
  let source ← (
    if sourceType ≠ "fake" then checkHttpsScheme urlparse sourceBaseUrl "SOURCE_BASE_URL"
    else .ok [])
  let sink ← (
    if sinkType ≠ "null" then checkHttpsScheme urlparse sinkBaseUrl "SINK_BASE_URL"
    else .ok [])
  return source ++ sink

structure SourceConfig where
  baseUrl  : String
  username : String
  password : String

def readSourceConfig (env : Environ) (sourceType : String) : Checked SourceConfig :=
  if sourceType = "portal" then
    let baseUrl := require env "SOURCE_BASE_URL"
    let username := require env "SOURCE_USERNAME"
    let password := require env "SOURCE_PASSWORD"
    {
      val      := ⟨baseUrl.val, username.val, password.val⟩
      problems := baseUrl.problems ++ username.problems ++ password.problems
    }
  else {
    val      := ⟨readOptionalStr env "SOURCE_BASE_URL" "", readOptionalStr env "SOURCE_USERNAME" "",
      readOptionalStr env "SOURCE_PASSWORD" ""⟩
    problems := []
  }

structure SinkCredentials where
  baseUrl  : String
  apiToken : String

def readSinkCredentials (env : Environ) (sinkType : String) : Checked SinkCredentials :=
  if sinkType = "graphql" then
    let baseUrl := require env "SINK_BASE_URL"
    let apiToken := require env "SINK_API_TOKEN"
    {
      val      := ⟨baseUrl.val, apiToken.val⟩
      problems := baseUrl.problems ++ apiToken.problems
    }
  else {
    val      := ⟨readOptionalStr env "SINK_BASE_URL" "", readOptionalStr env "SINK_API_TOKEN" ""⟩
    problems := []
  }

structure ReceiverConfig where
  type          : String
  location      : String
  whseLocation  : String
  screenshotDir : String

def readReceiverConfig (env : Environ) : Checked ReceiverConfig :=
  let type := validateChoice env "RECEIVER_TYPE" "portal" ["fake", "portal"]
  let screenshotDir := readOptionalStr env "RECEIVE_SCREENSHOT_DIR" ""
  if type.val = "portal" then
    let location := require env "RECEIVE_LOCATION"
    let whseLocation := require env "RECEIVE_WHSE_LOCATION"
    {
      val      := ⟨type.val, location.val, whseLocation.val, screenshotDir⟩
      problems := type.problems ++ location.problems ++ whseLocation.problems
    }
  else {
    val      := ⟨type.val, readOptionalStr env "RECEIVE_LOCATION" "",
      readOptionalStr env "RECEIVE_WHSE_LOCATION" "", screenshotDir⟩
    problems := type.problems
  }

-- The values `validate` reads, as it assigns them to the accessors in the end.
def accessors (py : PyStd) (env : Environ) : Config :=
  let sourceType := (validateChoice env "SOURCE_TYPE" "portal" ["fake", "portal"]).val
  let sinkType := (validateChoice env "SINK_TYPE" "graphql" ["graphql", "null"]).val
  let source := (readSourceConfig env sourceType).val
  let sink := (readSinkCredentials env sinkType).val
  let groupIds := (readSinkGroupIds env).val
  let columns := (readBoardColumns env).val
  let receiver := (readReceiverConfig env).val
  {
    dbPath               := .of (require env "DB_PATH").val
    logDir               := .of (require env "LOG_DIR").val
    downloadDir          := .of (require env "DOWNLOAD_DIR").val
    pollIntervalSecs     := (readPollInterval py env).val
    sourceBaseUrl        := source.baseUrl
    sourceUsername       := source.username
    sourcePassword       := source.password
    sinkBaseUrl          := sink.baseUrl
    sinkApiToken         := sink.apiToken
    sinkBoardId          := (require env "SINK_BOARD_ID").val
    sinkReceivedGroupId  := groupIds.received
    sinkNoMatchGroupId   := groupIds.noMatch
    sinkAttentionGroupId := groupIds.attention
    sinkReadyGroupId     := groupIds.ready
    sinkInventoryIdCol   := columns.inventoryId
    sinkModelCol         := columns.model
    sinkSerialCol        := columns.serial
    sinkStatusCol        := columns.status
    scannerType          := (validateChoice env "SCANNER_TYPE" "wedge" ["manual", "wedge"]).val
    printerType          := (validateChoice env "PRINTER_TYPE" "preview" ["preview", "zebra"]).val
    sourceType
    sinkType
    fakeSourceData       := .of (readOptionalStr env "FAKE_SOURCE_DATA" "test_data/pos.json")
    receiverType         := receiver.type
    receiveLocation      := receiver.location
    receiveWhseLocation  := receiver.whseLocation
    receiveScreenshotDir :=
      if receiver.screenshotDir = "" then .join (.of (require env "LOG_DIR").val) "screenshots"
      else .of receiver.screenshotDir
  }

-- All problems, in the order in which `validate` comes upon them.
def problems (py : PyStd) (env : Environ) (schemes : List String) : List String :=
  (require env "DB_PATH").problems ++
  (require env "LOG_DIR").problems ++
  (require env "DOWNLOAD_DIR").problems ++
  (validateChoice env "SOURCE_TYPE" "portal" ["fake", "portal"]).problems ++
  (validateChoice env "SINK_TYPE" "graphql" ["graphql", "null"]).problems ++
  (readSourceConfig env (accessors py env).sourceType).problems ++
  (readSinkCredentials env (accessors py env).sinkType).problems ++
  (require env "SINK_BOARD_ID").problems ++
  (readSinkGroupIds env).problems ++
  (readBoardColumns env).problems ++
  (readPollInterval py env).problems ++
  (validateChoice env "SCANNER_TYPE" "wedge" ["manual", "wedge"]).problems ++
  (validateChoice env "PRINTER_TYPE" "preview" ["preview", "zebra"]).problems ++
  schemes ++
  (readReceiverConfig env).problems

def validate (py : PyStd) (urlparse : String → Except PyExc ParseResult) (env : Environ) :
    Except PyExc Config := do
  let c := accessors py env
  let schemes ← checkCredentialedUrlSchemes urlparse c.sourceBaseUrl c.sourceType c.sinkBaseUrl
    c.sinkType
  let problems := problems py env schemes
  if problems = [] then
    .ok c
  else
    .error ⟨.configError, "Configuration invalid — fix these in .env before starting:\n" ++
      "\n".intercalate problems⟩

end Config
end ReceivingApp
