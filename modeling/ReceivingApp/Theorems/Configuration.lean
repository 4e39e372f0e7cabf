import ReceivingApp.Lib.Except
import ReceivingApp.Runners
import ReceivingApp.Theorems.Database

namespace ReceivingApp.Config

variable {py : PyStd} {urlparse : String → Except PyExc ParseResult} {env : Environ} {c : Config}

-- ### Values and their problems

theorem require_problems_eq_nil_iff {name : String} :
    (require env name).problems = [] ↔ read env name ≠ "" := by
  by_cases h : read env name = "" <;> simp [require, h]

theorem validateChoice_problems_eq_nil_iff {name default : String} {allowed : List String} :
    (validateChoice env name default allowed).problems = [] ↔
      readOptionalStr env name default ∈ allowed := by
  by_cases h : readOptionalStr env name default ∈ allowed <;> simp [validateChoice, h]

@[simp]
theorem readOptionalStr_empty {name : String} : readOptionalStr env name "" = read env name := by
  by_cases h : read env name = "" <;> simp [readOptionalStr, h]

theorem readSourceConfig_val {sourceType : String} :
    (readSourceConfig env sourceType).val =
      ⟨read env "SOURCE_BASE_URL", read env "SOURCE_USERNAME", read env "SOURCE_PASSWORD"⟩ := by
  by_cases h : sourceType = "portal" <;> simp [readSourceConfig, require, h]

theorem readSourceConfig_problems_eq_nil_iff {sourceType : String} :
    (readSourceConfig env sourceType).problems = [] ↔ (sourceType = "portal" →
      read env "SOURCE_BASE_URL" ≠ "" ∧ read env "SOURCE_USERNAME" ≠ "" ∧
        read env "SOURCE_PASSWORD" ≠ "") := by
  by_cases h : sourceType = "portal" <;>
    simp [readSourceConfig, require_problems_eq_nil_iff, h]

theorem readSinkCredentials_val {sinkType : String} :
    (readSinkCredentials env sinkType).val =
      ⟨read env "SINK_BASE_URL", read env "SINK_API_TOKEN"⟩ := by
  by_cases h : sinkType = "graphql" <;> simp [readSinkCredentials, require, h]

theorem readSinkCredentials_problems_eq_nil_iff {sinkType : String} :
    (readSinkCredentials env sinkType).problems = [] ↔ (sinkType = "graphql" →
      read env "SINK_BASE_URL" ≠ "" ∧ read env "SINK_API_TOKEN" ≠ "") := by
  by_cases h : sinkType = "graphql" <;>
    simp [readSinkCredentials, require_problems_eq_nil_iff, h]

theorem readReceiverConfig_type :
    (readReceiverConfig env).val.type = readOptionalStr env "RECEIVER_TYPE" "portal" := by
  unfold readReceiverConfig
  dsimp only
  split <;> rfl

theorem readReceiverConfig_choice (h : (readReceiverConfig env).problems = []) :
    readOptionalStr env "RECEIVER_TYPE" "portal" ∈ ["fake", "portal"] := by
  unfold readReceiverConfig at h
  dsimp only at h
  refine validateChoice_problems_eq_nil_iff.mp ?_
  split at h
  case isTrue  => exact (List.append_eq_nil_iff.mp (List.append_eq_nil_iff.mp h).1).1
  case isFalse => exact h

-- ### URLs

-- A URL that credentials may be sent to.
def SafeUrl (urlparse : String → Except PyExc ParseResult) (url : String) : Prop :=
  ∃ parsed, urlparse url = .ok parsed ∧ (parsed.scheme = "https" ∨ isLocal parsed.hostname)

theorem checkHttpsScheme_eq_ok_nil {url varName : String}
    (h : checkHttpsScheme urlparse url varName = .ok []) (hu : url ≠ "") :
    SafeUrl urlparse url := by
  rw [checkHttpsScheme, if_neg hu] at h
  have ⟨parsed, hp, h⟩ := Except.bind_eq_ok.mp h
  refine ⟨parsed, hp, ?_⟩
  by_cases hs : parsed.scheme = "https"
  case pos => exact .inl hs
  case neg =>
    rw [if_neg hs] at h
    by_cases hl : isLocal parsed.hostname
    case pos => exact .inr hl
    case neg =>
      rw [if_neg hl] at h
      cases h

theorem checkCredentialedUrlSchemes_eq_ok_nil {sourceUrl sourceType sinkUrl sinkType : String}
    (h : checkCredentialedUrlSchemes urlparse sourceUrl sourceType sinkUrl sinkType = .ok []) :
    (sourceType ≠ "fake" → sourceUrl ≠ "" → SafeUrl urlparse sourceUrl) ∧
      (sinkType ≠ "null" → sinkUrl ≠ "" → SafeUrl urlparse sinkUrl) := by
  have ⟨source, hsource, h⟩ := Except.bind_eq_ok.mp h
  have ⟨sink, hsink, h⟩ := Except.bind_eq_ok.mp h
  obtain ⟨rfl, rfl⟩ := List.append_eq_nil_iff.mp (Except.ok.inj h)
  constructor
  · intro ht hu
    rw [if_pos ht] at hsource
    exact checkHttpsScheme_eq_ok_nil hsource hu
  · intro ht hu
    rw [if_pos ht] at hsink
    exact checkHttpsScheme_eq_ok_nil hsink hu

-- ### Validated configurations

-- What is known of the accessors when `validate` has returned.
structure Validated (py : PyStd) (urlparse : String → Except PyExc ParseResult) (env : Environ)
    (c : Config) : Prop where
  sourceType   : c.sourceType = readOptionalStr env "SOURCE_TYPE" "portal"
  sinkType     : c.sinkType = readOptionalStr env "SINK_TYPE" "graphql"
  receiverType : c.receiverType = readOptionalStr env "RECEIVER_TYPE" "portal"
  source       : c.sourceType ∈ ["fake", "portal"]
  sink         : c.sinkType ∈ ["graphql", "null"]
  receiver     : c.receiverType ∈ ["fake", "portal"]
  scanner      : c.scannerType ∈ ["manual", "wedge"]
  printer      : c.printerType ∈ ["preview", "zebra"]
  interval     : c.pollIntervalSecs = (readPollInterval py env).val
  intervalOk   : (readPollInterval py env).problems = []
  sourceConfig : (⟨c.sourceBaseUrl, c.sourceUsername, c.sourcePassword⟩ : SourceConfig) =
    ⟨read env "SOURCE_BASE_URL", read env "SOURCE_USERNAME", read env "SOURCE_PASSWORD"⟩
  portal       : c.sourceType = "portal" → SafeUrl urlparse c.sourceBaseUrl ∧
    c.sourceUsername ≠ "" ∧ c.sourcePassword ≠ ""
  graphql      : c.sinkType = "graphql" → SafeUrl urlparse c.sinkBaseUrl ∧ c.sinkApiToken ≠ ""

theorem accessors_source (py : PyStd) (env : Environ) :
    (⟨(accessors py env).sourceBaseUrl, (accessors py env).sourceUsername,
      (accessors py env).sourcePassword⟩ : SourceConfig) =
    ⟨read env "SOURCE_BASE_URL", read env "SOURCE_USERNAME", read env "SOURCE_PASSWORD"⟩ :=
  readSourceConfig_val

theorem accessors_sink (py : PyStd) (env : Environ) :
    (⟨(accessors py env).sinkBaseUrl, (accessors py env).sinkApiToken⟩ : SinkCredentials) =
    ⟨read env "SINK_BASE_URL", read env "SINK_API_TOKEN"⟩ :=
  readSinkCredentials_val

theorem validate_eq_ok (h : validate py urlparse env = .ok c) :
    c = accessors py env ∧ problems py env [] = [] ∧
      checkCredentialedUrlSchemes urlparse c.sourceBaseUrl c.sourceType c.sinkBaseUrl
        c.sinkType = .ok [] := by
  have ⟨schemes, hschemes, h⟩ := Except.bind_eq_ok.mp h
  dsimp only at h
  split at h
  case isFalse => cases h
  case isTrue hp =>
    cases h
    have hn : schemes = [] := by
      simp only [problems, List.append_eq_nil_iff] at hp
      exact hp.1.2
    exact ⟨rfl, hn ▸ hp, hn ▸ hschemes⟩

theorem validated_of_validate (h : validate py urlparse env = .ok c) :
    Validated py urlparse env c := by
  obtain ⟨rfl, hp, hs⟩ := validate_eq_ok h
  have ⟨hsourceUrl, hsinkUrl⟩ := checkCredentialedUrlSchemes_eq_ok_nil hs
  simp only [problems, List.append_eq_nil_iff, and_assoc, validateChoice_problems_eq_nil_iff,
    readSourceConfig_problems_eq_nil_iff, readSinkCredentials_problems_eq_nil_iff] at hp
  obtain ⟨_, _, _, htype, hsink, hsource, hcredentials, _, _, _, hpoll, hscanner, hprinter, _,
    hreceiver⟩ := hp
  have hsourceConfig := accessors_source py env
  have hsinkConfig := accessors_sink py env
  simp only [SourceConfig.mk.injEq] at hsourceConfig
  simp only [SinkCredentials.mk.injEq] at hsinkConfig
  have hreceiverType : (accessors py env).receiverType = _ := readReceiverConfig_type
  constructor
  case sourceType | sinkType | interval => rfl
  case receiverType => exact hreceiverType
  case source       => exact htype
  case sink         => exact hsink
  case receiver     => exact hreceiverType ▸ readReceiverConfig_choice hreceiver
  case scanner      => exact hscanner
  case printer      => exact hprinter
  case intervalOk   => exact hpoll
  case sourceConfig => exact accessors_source py env
  case portal =>
    intro hp
    have ⟨hu, hn, hw⟩ := hsource hp
    rw [← hsourceConfig.1] at hu
    rw [← hsourceConfig.2.1] at hn
    rw [← hsourceConfig.2.2] at hw
    exact ⟨hsourceUrl (by rw [hp]; decide) hu, hn, hw⟩
  case graphql =>
    intro hg
    have ⟨hu, ht⟩ := hcredentials hg
    rw [← hsinkConfig.1] at hu
    rw [← hsinkConfig.2] at ht
    exact ⟨hsinkUrl (by rw [hg]; decide) hu, ht⟩

end Config

open Config

-- ### Adapters

section

variable {py : PyStd} {urlparse : String → Except PyExc ParseResult} {env : Environ} {c : Config}
variable {repr : String → String} {a : Adapter}

-- Where an adapter sends credentials, and which.
structure Endpoint where
  url         : String
  credentials : List String

def Adapter.endpoint? : Adapter → Option Endpoint
  | source (.portal s)   => some ⟨s.baseUrl, [s.username, s.password]⟩
  | sink (.graphql s)    => some ⟨s.baseUrl, [s.apiToken]⟩
  | board (.graphql b)   => some ⟨b.apiUrl, [b.token]⟩
  | receiver (.portal r) => some ⟨r.baseUrl, [r.username, r.password]⟩
  | _                    => none

-- Credentials are there, and do not travel over plain http.
structure Endpoint.Secure (urlparse : String → Except PyExc ParseResult) (e : Endpoint) : Prop where
  url         : SafeUrl urlparse e.url
  credentials : ∀ s ∈ e.credentials, s ≠ ""

-- Every adapter with credentials that an entry point constructs is secure.
def KeepsCredentials (urlparse : String → Except PyExc ParseResult) (repr : String → String)
    (c : Config) : Prop :=
  ∀ runner, ∀ a ∈ Runner.adapters repr c runner, ∀ e, a.endpoint? = some e → e.Secure urlparse

-- The endpoint of the portal, as it stands in the environment.
def portalEndpoint (env : Environ) : Endpoint :=
  ⟨read env "SOURCE_BASE_URL", [read env "SOURCE_USERNAME", read env "SOURCE_PASSWORD"]⟩

theorem mem_constructed_cons {call : Except PyExc Adapter} {calls : List (Except PyExc Adapter)} :
    a ∈ constructed (call :: calls) ↔
      call = .ok a ∨ (∃ b, call = .ok b) ∧ a ∈ constructed calls := by
  cases call <;> simp [constructed, eq_comm]

@[simp]
theorem not_mem_constructed_nil : a ∉ constructed [] :=
  List.not_mem_nil

-- ### Factories

section Factories

variable {α : Type} {e : Endpoint} {t x y url username password location whse : String}
variable {b b₁ b₂ : α} {error : PyExc} {f : α → Adapter} {dir : Path}
variable {path screenshots : Option Path} {sink : ResultSinkAdapter} {board : BoardApiAdapter}
variable {items : Option (List ReadyItem)} {headless : Bool}
variable {outcomes : Option (List (String × String))} {outcome : ReceiveOutcome}

-- All factories are of one form: they know two types, and raise for any other.
def choose (t x y : String) (b₁ b₂ : α) (error : PyExc) : Except PyExc α :=
  if t = x then .ok b₁ else if t = y then .ok b₂ else .error error

theorem choose_eq_ok (h : choose t x y b₁ b₂ error = .ok b) :
    (t = x ∧ b₁ = b) ∨ (t = y ∧ b₂ = b) := by
  unfold choose at h
  split at h
  case isTrue ht => exact .inl ⟨ht, Except.ok.inj h⟩
  case isFalse =>
    split at h
    case isTrue ht => exact .inr ⟨ht, Except.ok.inj h⟩
    case isFalse   => cases h

theorem choose_isOk_iff : (choose t x y b₁ b₂ error).isOk ↔ t = x ∨ t = y := by
  unfold choose
  by_cases hx : t = x
  case pos => exact iff_of_true (by rw [if_pos hx]; rfl) (.inl hx)
  case neg =>
    by_cases hy : t = y
    case pos => exact iff_of_true (by rw [if_neg hx, if_pos hy]; rfl) (.inr hy)
    case neg => simp [hx, hy, Except.isOk, Except.toBool]

theorem map_eq_ok_iff {r : Except PyExc α} : r.map f = .ok a ↔ ∃ b, r = .ok b ∧ f b = a := by
  cases r <;> simp [Except.map]

theorem endpoint_choose (h : (choose t x y b₁ b₂ error).map f = .ok a) (he : a.endpoint? = some e) :
    (t = x ∧ (f b₁).endpoint? = some e) ∨ (t = y ∧ (f b₂).endpoint? = some e) := by
  have ⟨b, hb, ha⟩ := map_eq_ok_iff.mp h
  subst ha
  exact (choose_eq_ok hb).imp (fun ⟨ht, hb⟩ => ⟨ht, hb ▸ he⟩) (fun ⟨ht, hb⟩ => ⟨ht, hb ▸ he⟩)

theorem endpoint_makeSource
    (h : (makeSource t url username password dir path).map .source = .ok a)
    (he : a.endpoint? = some e) : t = "portal" ∧ e = ⟨url, [username, password]⟩ := by
  rcases endpoint_choose h he with ⟨ht, he⟩ | ⟨_, he⟩
  · exact ⟨ht, (Option.some.inj he).symm⟩
  · cases he

theorem endpoint_makeSink (h : (makeSink t sink).map .sink = .ok a) (he : a.endpoint? = some e) :
    t = "graphql" ∧ e = ⟨sink.baseUrl, [sink.apiToken]⟩ := by
  rcases endpoint_choose h he with ⟨_, he⟩ | ⟨ht, he⟩
  · cases he
  · exact ⟨ht, (Option.some.inj he).symm⟩

theorem endpoint_makeBoard (h : (makeBoard t board items).map .board = .ok a)
    (he : a.endpoint? = some e) : t = "graphql" ∧ e = ⟨board.apiUrl, [board.token]⟩ := by
  rcases endpoint_choose h he with ⟨_, he⟩ | ⟨ht, he⟩
  · cases he
  · exact ⟨ht, (Option.some.inj he).symm⟩

theorem endpoint_makeReceiver
    (h : (makeReceiver repr t url username password location whse screenshots headless outcomes
      outcome).map .receiver = .ok a)
    (he : a.endpoint? = some e) : t = "portal" ∧ e = ⟨url, [username, password]⟩ := by
  rcases endpoint_choose h he with ⟨_, he⟩ | ⟨ht, he⟩
  · cases he
  · exact ⟨ht, (Option.some.inj he).symm⟩

end Factories

-- ### Credentials

-- An entry point connects to the board where the sink type is that of one, and to the portal where
-- the source is the portal or, behind a board of any kind, the receiver is.
theorem endpoint_of_mem_adapters {runner : Runner} {e : Endpoint}
    (ha : a ∈ runner.adapters repr c) (he : a.endpoint? = some e) :
    (c.sinkType = "graphql" ∧ e = ⟨c.sinkBaseUrl, [c.sinkApiToken]⟩) ∨
    ((c.sourceType = "portal" ∨ c.receiverType = "portal" ∧ c.sinkType ∈ ["fake", "graphql"]) ∧
      e = ⟨c.sourceBaseUrl, [c.sourceUsername, c.sourcePassword]⟩) := by
  cases runner
  all_goals
    simp only [Runner.adapters, Runner.factoryCalls, mem_constructed_cons,
      not_mem_constructed_nil, and_false, or_false] at ha
  case scanner =>
    rcases ha with ha | ⟨_, ha | ⟨_, ha | ⟨_, ha⟩⟩⟩
    · exact .inl (endpoint_makeSink ha he)
    · exact .inr ((endpoint_makeSource ha he).imp_left .inl)
    · obtain ⟨b, _, rfl⟩ := map_eq_ok_iff.mp ha
      cases he
    · obtain ⟨b, _, rfl⟩ := map_eq_ok_iff.mp ha
      cases he
  case refresh => exact .inr ((endpoint_makeSource ha he).imp_left .inl)
  case robot =>
    rcases ha with ha | ⟨⟨b, hb⟩, ha⟩
    · exact .inl (endpoint_makeBoard ha he)
    · have ⟨b', hb', _⟩ := map_eq_ok_iff.mp hb
      have hsink : c.sinkType ∈ ["fake", "graphql"] := by
        simpa using (choose_eq_ok hb').imp And.left And.left
      exact .inr ((endpoint_makeReceiver ha he).imp_left fun ht => .inr ⟨ht, hsink⟩)

theorem Config.Validated.secure_graphql (h : Validated py urlparse env c)
    (ht : c.sinkType = "graphql") : Endpoint.Secure urlparse ⟨c.sinkBaseUrl, [c.sinkApiToken]⟩ :=
  ⟨(h.graphql ht).1, by simpa using (h.graphql ht).2⟩

theorem Config.Validated.secure_portal (h : Validated py urlparse env c)
    (ht : c.sourceType = "portal") :
    Endpoint.Secure urlparse ⟨c.sourceBaseUrl, [c.sourceUsername, c.sourcePassword]⟩ :=
  ⟨(h.portal ht).1, by simpa using (h.portal ht).2⟩

theorem Config.Validated.portalEndpoint_eq (h : Validated py urlparse env c) :
    portalEndpoint env = ⟨c.sourceBaseUrl, [c.sourceUsername, c.sourcePassword]⟩ := by
  have hs := h.sourceConfig
  simp only [SourceConfig.mk.injEq] at hs
  rw [portalEndpoint, hs.1, hs.2.1, hs.2.2]

-- The receiver of the robot is at the endpoint of the portal.
theorem KeepsCredentials.secure (hk : KeepsCredentials urlparse repr c)
    (h : Validated py urlparse env c) (hsink : c.sinkType = "graphql")
    (hreceiver : c.receiverType = "portal") : (portalEndpoint env).Secure urlparse := by
  rw [h.portalEndpoint_eq]
  refine hk .robot (.receiver (.portal {
    baseUrl       := c.sourceBaseUrl
    username      := c.sourceUsername
    password      := c.sourcePassword
    locationLabel := c.receiveLocation
    whseLabel     := c.receiveWhseLocation
    screenshotDir := c.receiveScreenshotDir
    headless      := true
  })) ?_ _ rfl
  simp [Runner.adapters, Runner.factoryCalls, makeBoard, makeReceiver, constructed, Except.map,
    hsink, hreceiver]

-- Credentials are kept exactly if the portal is secure where the robot uses it although the source
-- does not.
theorem keepsCredentials_iff (h : validate py urlparse env = .ok c) :
    KeepsCredentials urlparse repr c ↔
      (readOptionalStr env "SINK_TYPE" "graphql" = "graphql" →
        readOptionalStr env "RECEIVER_TYPE" "portal" = "portal" →
        readOptionalStr env "SOURCE_TYPE" "portal" = "fake" →
        (portalEndpoint env).Secure urlparse) := by
  have hv := validated_of_validate h
  rw [← hv.sinkType, ← hv.receiverType, ← hv.sourceType]
  constructor
  case mp => exact fun hk hsink hreceiver _ => hk.secure hv hsink hreceiver
  case mpr =>
    intro hp runner a ha e he
    rcases endpoint_of_mem_adapters ha he with ⟨ht, rfl⟩ | ⟨hs, rfl⟩
    case inl => exact hv.secure_graphql ht
    case inr =>
      by_cases hportal : c.sourceType = "portal"
      case pos => exact hv.secure_portal hportal
      case neg =>
        -- The source is a fake, so it is the receiver that goes to the portal.
        have ⟨hreceiver, hsink⟩ := hs.resolve_left hportal
        have hfake : c.sourceType = "fake" := by simpa [hportal] using hv.source
        have hgraphql : c.sinkType = "graphql" := by
          have hall := hv.sink
          simp only [List.mem_cons, List.not_mem_nil, or_false] at hall hsink
          rcases hsink with hf | hg
          · rw [hf] at hall
            exact absurd hall (by decide)
          · exact hg
        exact hv.portalEndpoint_eq ▸ hp hgraphql hreceiver hfake

-- ### Starting up

-- The whole numbers of seconds that `time.sleep` accepts. It raises a ValueError below them, and an
-- OverflowError where the nanoseconds do not fit into 64 bits.
def SleepAccepts (secs : Int) : Prop :=
  0 ≤ secs ∧ secs * 10 ^ 9 < 2 ^ 63

instance : DecidablePred SleepAccepts := fun _ => inferInstanceAs (Decidable (_ ∧ _))

-- No factory raises, and the pause of the poll loop is one that `time.sleep` accepts.
def Starts (repr : String → String) (c : Config) : Prop :=
  (∀ runner, ∀ call ∈ Runner.factoryCalls repr c runner, call.isOk) ∧
    SleepAccepts c.pollIntervalSecs

theorem isOk_map_iff {α : Type} {f : α → Adapter} {r : Except PyExc α} :
    (r.map f).isOk ↔ r.isOk := by
  cases r <;> rfl

theorem isOk_factoryCalls_iff (h : Validated py urlparse env c) :
    (∀ runner, ∀ call ∈ Runner.factoryCalls repr c runner, call.isOk) ↔ c.sinkType ≠ "null" := by
  have hsink : c.sinkType = "null" ∨ c.sinkType = "graphql" := by simpa [or_comm] using h.sink
  have hsource : c.sourceType = "portal" ∨ c.sourceType = "fake" := by
    simpa [or_comm] using h.source
  have hreceiver : c.receiverType = "fake" ∨ c.receiverType = "portal" := by simpa using h.receiver
  have hprinter : c.printerType = "preview" ∨ c.printerType = "zebra" := by simpa using h.printer
  have hscanner : c.scannerType = "wedge" ∨ c.scannerType = "manual" := by
    simpa [or_comm] using h.scanner
  constructor
  case mp =>
    intro hall hn
    have hb := isOk_map_iff.mp (hall .robot _ List.mem_cons_self)
    rw [hn] at hb
    rcases choose_isOk_iff.mp hb with hf | hg
    · exact absurd hf (by decide)
    · exact absurd hg (by decide)
  case mpr =>
    intro hn runner call hcall
    cases runner
    all_goals simp only [Runner.factoryCalls, List.mem_cons, List.not_mem_nil, or_false] at hcall
    case scanner =>
      rcases hcall with rfl | rfl | rfl | rfl
      · exact isOk_map_iff.mpr (choose_isOk_iff.mpr hsink)
      · exact isOk_map_iff.mpr (choose_isOk_iff.mpr hsource)
      · exact isOk_map_iff.mpr (choose_isOk_iff.mpr hprinter)
      · exact isOk_map_iff.mpr (choose_isOk_iff.mpr hscanner)
    case refresh =>
      subst hcall
      exact isOk_map_iff.mpr (choose_isOk_iff.mpr hsource)
    case robot =>
      rcases hcall with rfl | rfl
      · exact isOk_map_iff.mpr (choose_isOk_iff.mpr (.inr (hsink.resolve_left hn)))
      · exact isOk_map_iff.mpr (choose_isOk_iff.mpr hreceiver)

-- The interval is not negative exactly if it is left out, or stands there as such a number.
theorem sleepAccepts_iff (h : Validated py urlparse env c) :
    SleepAccepts c.pollIntervalSecs ↔ read env "POLL_INTERVAL_SECS" = "" ∨
      ∃ n, py.parseInt (read env "POLL_INTERVAL_SECS") = some n ∧ SleepAccepts n := by
  have hok := h.intervalOk
  rw [h.interval]
  unfold readPollInterval at hok ⊢
  by_cases hb : read env "POLL_INTERVAL_SECS" = ""
  case pos =>
    have hdefault : SleepAccepts 10 := by decide
    simp [hb, hdefault]
  case neg =>
    cases hn : py.parseInt (read env "POLL_INTERVAL_SECS")
    case none   => simp [hb, hn] at hok
    case some n => simp [hb, hn]

-- A validated configuration runs exactly if it has a board and a pause that is neither negative nor
-- too long.

end

-- ### Environments

-- All that is required for a portal and a board, with the given variables set otherwise.
def Environ.sample (vars : List (String × String)) : Environ := fun name =>
  (vars ++ [
    ("DB_PATH", "app.db"),
    ("LOG_DIR", "logs"),
    ("DOWNLOAD_DIR", "downloads"),
    ("SOURCE_BASE_URL", "https://portal.example"),
    ("SOURCE_USERNAME", "user"),
    ("SOURCE_PASSWORD", "secret"),
    ("SINK_BASE_URL", "https://board.example"),
    ("SINK_API_TOKEN", "token"),
    ("SINK_BOARD_ID", "1"),
    ("SINK_RECEIVED_GROUP_ID", "received"),
    ("SINK_NO_MATCH_GROUP_ID", "no_match"),
    ("SINK_ATTENTION_GROUP_ID", "attention"),
    ("SINK_READY_GROUP_ID", "ready"),
    ("SINK_INVENTORY_ID_COL", "c1"),
    ("SINK_MODEL_COL", "c2"),
    ("SINK_SERIAL_COL", "c3"),
    ("SINK_STATUS_COL", "c4"),
    ("RECEIVE_LOCATION", "dock"),
    ("RECEIVE_WHSE_LOCATION", "main")
  ]).lookup name

-- `urlparse` for the URLs of the samples.
def urlparseSample (url : String) : Except PyExc ParseResult :=
  if url = "http://portal.example" then .ok ⟨"http", some "portal.example"⟩
  else if url = "https://portal.example" then .ok ⟨"https", some "portal.example"⟩
  else if url = "https://board.example" then .ok ⟨"https", some "board.example"⟩
  else .ok ⟨"", none⟩

theorem validate_sample (vars : List (String × String))
    (h : (validate .ascii urlparseSample (.sample vars)).isOk) :
    ∃ c, validate .ascii urlparseSample (.sample vars) = .ok c := by
  cases hv : validate .ascii urlparseSample (.sample vars)
  case ok c  => exact ⟨c, rfl⟩
  case error => simp [hv, Except.isOk, Except.toBool] at h

-- Everything is set as it should be.
theorem keepsCredentials_sample : ∃ c, KeepsCredentials urlparseSample id c := by
  have ⟨c, hc⟩ := validate_sample [] (by decide +kernel)
  exact ⟨c, (keepsCredentials_iff hc).mpr fun _ _ hf => absurd hf (by decide +kernel)⟩

-- The source is a fake, so nobody looks at the URL of the portal, where the robot logs in.
theorem not_keepsCredentials :
    ¬∀ (py : PyStd) (urlparse : String → Except PyExc ParseResult) (env : Environ) (c : Config),
      validate py urlparse env = .ok c → KeepsCredentials urlparse id c := by
  intro h
  have ⟨c, hc⟩ := validate_sample
    [("SOURCE_TYPE", "fake"), ("SOURCE_BASE_URL", "http://portal.example")]
    (by decide +kernel)
  have hv := validated_of_validate hc
  have hsink : c.sinkType = "graphql" := hv.sinkType.trans (by decide +kernel)
  have hreceiver : c.receiverType = "portal" := hv.receiverType.trans (by decide +kernel)
  have ⟨⟨parsed, hp, hs⟩, _⟩ := (h _ _ _ _ hc).secure hv hsink hreceiver
  have hu : (portalEndpoint (.sample [("SOURCE_TYPE", "fake"),
      ("SOURCE_BASE_URL", "http://portal.example")])).url = "http://portal.example" := by
    decide +kernel
  rw [hu] at hp
  cases hp
  revert hs
  decide

-- A null sink is allowed, but there is no board of that type.

end ReceivingApp
