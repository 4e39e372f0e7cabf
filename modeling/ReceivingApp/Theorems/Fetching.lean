import ReceivingApp.Lib.Custody
import ReceivingApp.Theorems.Freshness

open Interaction Program

namespace ReceivingApp

-- What a fetch raises once its browser has been launched, unless the browser fails to quit.
def SourceExc.Escapes : SourceExc → Prop
  | sourceError _ | exit => True
  | _                    => False

-- The browsers that have been launched by one fetch, by their drivers.
abbrev Browsers := Cells Nat Browser

namespace Browser

variable {b : Browser} {element : Element}

@[simp]
theorem state_toggle : (b.toggle element).state = b.state := by
  unfold toggle
  split
  case isTrue => rfl
  case isFalse =>
    split
    case isTrue | isFalse => rfl

-- A call that does not quit leaves the browser running.
theorem After.running {c : DriverCall} {r : Except SourceExc Unit} {b' : Browser}
    (h : b.After c r b') (hb : b.state = .running) (hc : c ≠ .quit) : b'.state = .running := by
  cases c
  case quit        => exact absurd rfl hc
  case get | click => exact h
  case executeClick =>
    cases r
    case ok    => exact h ▸ state_toggle.trans hb
    case error =>
      obtain rfl | rfl := h
      · exact hb
      · exact state_toggle.trans hb
  case await | find | sendKeys =>
    obtain rfl : b' = b := h
    exact hb

end Browser

namespace Downloads

-- ### The custody of browsers

-- A browser is only used by the fetch that has launched it, while it runs, and exports nothing but
-- what is on order.
def custody : Custody SourceCall SourceExc Nat Browser where
  allows := fun
    | _, .drive driver c, H      => ∃ b, H driver = some b ∧ b.state = .running ∧
      (c = .executeClick exportButton → b.openItems = false ∧ b.onOrder = true)
    | _, .isSelected driver _, H => ∃ b, H driver = some b ∧ b.state = .running
    | _, _, _                    => True
  after := fun
    | _, .buildDriver _, r, H, H'              =>
      (∃ driver b, r = .ok driver ∧ H driver = none ∧ b.state = .running ∧
        H' = Function.update H driver (some b)) ∨
      (∃ e, r = .error e ∧ H' = H)
    | _, .drive driver c, r, H, H'             =>
      ∃ b, H driver = some b ∧ ∃ b', b.After c r b' ∧ H' = Function.update H driver (some b')
    | _, .isSelected driver element, r, H, H'  =>
      H' = H ∧ ∃ b, H driver = some b ∧ ∀ v, r = .ok v → v = b.selected element
    | _, _, _, H, H'                           => H' = H

def cells (w : Downloads) : Browsers :=
  .ofList w.browsers

theorem Quiet.browsers_eq {w w' : Downloads} (h : Quiet w w') : w'.browsers = w.browsers := by
  obtain ⟨dir, -, rfl⟩ := h
  rfl

theorem sound : custody.Sound Answers (fun _ => True) cells where
  kept _ _ _ _ := trivial
  change {β op w r w' H} he ha hH _ := by
    have hsame (hq : w'.browsers = w.browsers) : Custody.Local H H w.cells w'.cells := by
      rw [cells, cells, hq]
      exact .refl hH
    cases op
    case resolve | home | root | iterdir | isFile => exact ⟨H, rfl, hsame he.2.browsers_eq⟩
    case mkdir | sleep => exact ⟨H, rfl, hsame (Quiet.browsers_eq he)⟩
    case unlink =>
      cases r
      case ok =>
        obtain ⟨dir, -, -, rfl⟩ := he
        exact ⟨H, rfl, hsame rfl⟩
      case error =>
        have hq : Quiet { w with undeleted := _ } w' := he
        exact ⟨H, rfl, hsame hq.browsers_eq⟩
    case readCsv =>
      cases r
      case ok =>
        obtain ⟨entry, -, -, -, hq⟩ := he
        exact ⟨H, rfl, hsame hq.browsers_eq⟩
      case error => exact ⟨H, rfl, hsame (Quiet.browsers_eq he)⟩
    case buildDriver =>
      cases r
      case ok driver =>
        obtain ⟨rfl, b, hb, hq⟩ := he
        have ⟨hn, hl⟩ := Custody.Local.append (t := b) hH
        refine ⟨_, .inl ⟨_, b, rfl, hn, hb, rfl⟩, ?_⟩
        rwa [cells, cells, hq.browsers_eq]
      case error e => exact ⟨H, .inr ⟨e, rfl, rfl⟩, hsame (Quiet.browsers_eq he)⟩
    case drive driver c =>
      obtain ⟨b, hb, hrun, -⟩ := ha
      obtain ⟨browsers, hq, hafter⟩ := he
      obtain ⟨b', hb', rfl⟩ := hafter b (hH hb) hrun
      refine ⟨_, ⟨b, hb, b', hb', rfl⟩, ?_⟩
      rw [cells, cells, hq.browsers_eq]
      exact .set hH hb
    case isSelected driver element =>
      obtain ⟨b, hb, hrun⟩ := ha
      exact ⟨H, ⟨rfl, b, hb, he.2 b (hH hb) hrun⟩, hsame he.1.browsers_eq⟩

-- ### What a fetch does with its browser

section Browsing

variable {py : PyStd} {source : PortalSource} {dl : ResolvedPath} {driver : Nat} {b : Browser}
variable {H : Browsers}

-- Calls that have nothing to do with browsers.
def IsOffline (β : Type) : SourceCall β → Prop
  | .buildDriver _ | .drive _ _ | .isSelected _ _ => False
  | _                                             => True

theorem keeps_offline {α : Type} {p : SourceM α} (hu : p.Uses IsOffline) :
    custody.Keeps p (fun _ H' => H' = H) (fun _ H' => H' = H) H := by
  refine .uses (fun {β op H'} ha hH => ?_) hu rfl
  cases op
  case buildDriver | drive | isSelected => cases ha
  all_goals exact ⟨trivial, fun r H₁ h => h.trans hH⟩

-- Exactly one browser is held, of which the given property holds.
def Holds (driver : Nat) (P : Browser → Prop) (H : Browsers) : Prop :=
  ∃ b, H = .one driver b ∧ P b

abbrev Runs (driver : Nat) : Browsers → Prop :=
  Holds driver (·.state = .running)

theorem Holds.mono {P P' : Browser → Prop} (h : Holds driver P H) (hP : ∀ b, P b → P' b) :
    Holds driver P' H := by
  obtain ⟨b, rfl, hb⟩ := h
  exact ⟨b, rfl, hP b hb⟩

-- Calls on a browser that neither quit nor export, and those that are no calls on browsers.
def IsBrowsing (driver : Nat) (β : Type) : SourceCall β → Prop
  | .buildDriver _     => False
  | .drive driver' c   => driver' = driver ∧ c ≠ .quit ∧ c ≠ .executeClick exportButton
  | .isSelected _ _    => False
  | _                  => True

theorem keeps_browsing {α : Type} {p : SourceM α} (hu : p.Uses (IsBrowsing driver))
    (h : Runs driver H) : custody.Keeps p (fun _ => Runs driver) (fun _ => Runs driver) H := by
  refine .uses (fun {β op H'} ha hH => ?_) hu h
  cases op
  case buildDriver | isSelected => cases ha
  case drive driver' c =>
    obtain ⟨rfl, hquit, hexport⟩ := ha
    obtain ⟨b, rfl, hb⟩ := hH
    refine ⟨⟨b, Cells.one_self, hb, fun hc => absurd hc hexport⟩, ?_⟩
    rintro r _ ⟨b₁, hb₁, b', hafter, rfl⟩
    obtain rfl : b = b₁ := Option.some.inj (Cells.one_self.symm.trans hb₁)
    exact ⟨b', Cells.update_one, hafter.running hb hquit⟩
  all_goals
    refine ⟨trivial, fun r H₁ h => ?_⟩
    obtain rfl := h
    exact hH

theorem keeps_drive {c : DriverCall} {Q : Unit → Browsers → Prop} {X : SourceExc → Browsers → Prop}
    (hb : b.state = .running)
    (hc : c = .executeClick exportButton → b.openItems = false ∧ b.onOrder = true)
    (hok : ∀ b', b.After c (.ok ()) b' → Q () (.one driver b'))
    (herr : ∀ e b', b.After c (.error e) b' → X e (.one driver b')) :
    custody.Keeps (perform (.drive driver c)) Q X (.one driver b) := by
  refine .perform ⟨b, Cells.one_self, hb, hc⟩ ?ok ?err
  case ok =>
    rintro _ _ ⟨b₁, hb₁, b', hafter, rfl⟩
    obtain rfl : b = b₁ := Option.some.inj (Cells.one_self.symm.trans hb₁)
    rw [Cells.update_one]
    exact hok b' hafter
  case err =>
    rintro e _ ⟨b₁, hb₁, b', hafter, rfl⟩
    obtain rfl : b = b₁ := Option.some.inj (Cells.one_self.symm.trans hb₁)
    rw [Cells.update_one]
    exact herr e b' hafter

theorem keeps_wrapSource {α : Type} {p : SourceM α} {msg : String} {Q : α → Browsers → Prop}
    {P : Browsers → Prop} (h : custody.Keeps p Q (fun _ => P) H) :
    custody.Keeps (wrapSource msg p) Q (fun e H => P H ∧ e.Escapes) H := by
  refine .tryCatch <| h.mono (fun _ _ h => h) (fun e H hP => ?_)
  cases e
  all_goals exact ⟨hP, trivial⟩

-- A checkbox that does not show the value is clicked.
def IsSet (checkbox : Element) (value : Bool) (b b' : Browser) : Prop :=
  b'.state = .running ∧
    ((b.selected checkbox = value ∧ b' = b) ∨
      (b.selected checkbox ≠ value ∧ b' = b.toggle checkbox))

theorem keeps_setFilter {checkbox : Element} {value : Bool} {settleSecs : Nat}
    (hb : b.state = .running) (hc : checkbox ≠ exportButton) :
    custody.Keeps (PortalSource.setFilter driver checkbox value settleSecs)
      (fun _ => Holds driver (IsSet checkbox value b)) (fun _ => Runs driver) (.one driver b) := by
  have hruns : Runs driver (.one driver b) := ⟨b, rfl, hb⟩
  refine .bind <| keeps_drive hb nofun ?await fun e b' h => ?noAwait
  case noAwait =>
    obtain rfl : b' = b := h
    exact hruns
  case await =>
    rintro b' h
    obtain rfl : b' = b := h
    refine .bind <| .perform ⟨b', Cells.one_self, hb⟩ ?selected ?noSelected
    case noSelected =>
      rintro e _ ⟨rfl, -⟩
      exact hruns
    case selected =>
      rintro shown _ ⟨rfl, b₁, hb₁, hshown⟩
      obtain rfl : b' = b₁ := Option.some.inj (Cells.one_self.symm.trans hb₁)
      obtain rfl := hshown shown rfl
      split
      case isFalse h => exact ⟨b', rfl, hb, .inl ⟨not_not.mp h, rfl⟩⟩
      case isTrue h =>
        refine .bind <| keeps_drive hb (fun he => ?_) (fun b₁ h₁ => ?_) (fun e b₁ h₁ => ?_)
        · exact absurd (DriverCall.executeClick.inj he) hc
        · obtain rfl : b₁ = b'.toggle checkbox := h₁
          have hset : IsSet checkbox value b' (b'.toggle checkbox) :=
            ⟨Browser.state_toggle.trans hb, .inr ⟨h, rfl⟩⟩
          have hsleep : Uses IsOffline (perform (.sleep settleSecs) : SourceM Unit) :=
            .perform trivial
          refine (keeps_offline hsleep).mono ?_ ?_
          · rintro _ _ rfl
            exact ⟨_, rfl, hset⟩
          · rintro _ _ rfl
            exact ⟨_, rfl, hset.1⟩
        · exact ⟨b₁, rfl, h₁.running hb nofun⟩

-- In the end only what is on order is shown.
def ShowsOnOrder (b : Browser) : Prop :=
  b.state = .running ∧ b.openItems = false ∧ b.onOrder = true

theorem IsSet.openItems {b' : Browser} (h : IsSet openFilter false b b') :
    b'.openItems = false := by
  obtain ⟨-, ⟨hs, rfl⟩ | ⟨hs, rfl⟩⟩ := h
  · exact hs
  · simpa [Browser.toggle, Browser.selected] using hs

theorem IsSet.showsOnOrder {b' : Browser} (h : IsSet onOrderFilter true b b')
    (hb : b.openItems = false) : ShowsOnOrder b' := by
  obtain ⟨hrun, ⟨hs, rfl⟩ | ⟨hs, rfl⟩⟩ := h
  · exact ⟨hrun, hb, hs⟩
  · exact ⟨hrun, hb, by simpa [Browser.toggle, Browser.selected, openFilter, onOrderFilter] using hs⟩

theorem keeps_login (h : Runs driver H) :
    custody.Keeps (source.login driver) (fun _ => Runs driver)
      (fun e H => Runs driver H ∧ e.Escapes) H := by
  have hdrive {c : DriverCall} (hc : c ≠ .quit ∧ c ≠ .executeClick exportButton) :
      Uses (IsBrowsing driver) (perform (.drive driver c) : SourceM Unit) :=
    .perform ⟨rfl, hc⟩
  have hsleep {secs : Nat} : Uses (IsBrowsing driver) (perform (.sleep secs) : SourceM Unit) :=
    .perform trivial
  have hprompt : Uses (IsBrowsing driver) (PortalSource.dismissPrompt driver) := by
    refine .tryCatch (.bind (hdrive ⟨nofun, nofun⟩) fun _ =>
      .bind (hdrive ⟨nofun, by decide⟩) fun _ => hsleep) fun e => ?_
    cases e
    case timeoutException => exact .pure _
    all_goals exact .throw _
  refine keeps_wrapSource (keeps_browsing ?_ h)
  refine .bind (hdrive ⟨nofun, nofun⟩) fun _ => .bind hsleep fun _ =>
    .bind (hdrive ⟨nofun, nofun⟩) fun _ => .bind (hdrive ⟨nofun, nofun⟩) fun _ =>
    .bind (hdrive ⟨nofun, nofun⟩) fun _ => .bind (hdrive ⟨nofun, by decide⟩) fun _ =>
    .bind hsleep fun _ => hprompt

theorem keeps_applyOnOrderFilter (h : Runs driver H) :
    custody.Keeps (source.applyOnOrderFilter driver) (fun _ => Holds driver ShowsOnOrder)
      (fun e H => Runs driver H ∧ e.Escapes) H := by
  have hget : Uses (IsBrowsing driver)
      (perform (.drive driver (.get (source.baseUrl ++ "/inventory/serial"))) : SourceM Unit) :=
    .perform ⟨rfl, nofun, nofun⟩
  have hsleep {secs : Nat} : Uses (IsBrowsing driver) (perform (.sleep secs) : SourceM Unit) :=
    .perform trivial
  refine keeps_wrapSource <| .bind <| (keeps_browsing hget h).mono (fun _ H h => ?_) fun _ _ h => h
  refine .bind <| (keeps_browsing hsleep h).mono (fun _ H h => ?_) fun _ _ h => h
  obtain ⟨b, rfl, hb⟩ := h
  refine .bind <| (keeps_setFilter hb (by decide)).mono (fun _ H h => ?_) fun _ _ h => h
  obtain ⟨b₁, rfl, h₁⟩ := h
  refine (keeps_setFilter h₁.1 (by decide)).mono (fun _ H h => ?_) fun _ _ h => h
  exact h.mono fun b₂ h₂ => h₂.showsOnOrder h₁.openItems

theorem keeps_triggerExport (h : Holds driver ShowsOnOrder H) :
    custody.Keeps (PortalSource.triggerExport driver) (fun _ => Runs driver)
      (fun e H => Runs driver H ∧ e.Escapes) H := by
  obtain ⟨b, rfl, hb⟩ := h
  refine keeps_wrapSource <| .bind <| keeps_drive hb.1 nofun (fun b' h => ?_) fun e b' h => ?_
  · obtain rfl : b' = b := h
    exact keeps_drive hb.1 (fun _ => hb.2) (fun b₁ h₁ => ⟨b₁, rfl, h₁.running hb.1 nofun⟩)
      fun e b₁ h₁ => ⟨b₁, rfl, h₁.running hb.1 nofun⟩
  · exact ⟨b', rfl, h.running hb.1 nofun⟩

theorem uses_listDir : Uses IsOffline (PortalSource.listDir dl) := by
  refine .tryCatch (.perform trivial) fun e => ?_
  cases e <;> exact .throw _

theorem uses_pollDir {keyword : String} {n : Nat} :
    Uses IsOffline (PortalSource.pollDir py dl keyword n) := by
  induction n
  case zero => exact .pure _
  case succ n ih =>
    refine .bind uses_listDir fun names => ?_
    split
    · exact .pure _
    · exact .bind (.perform trivial) fun _ => ih

theorem uses_waitForCsv : Uses IsOffline (PortalSource.waitForCsv py dl) := by
  refine .bind uses_pollDir fun found => ?_
  split
  · exact .pure _
  · refine .bind uses_pollDir fun found => ?_
    split
    · exact .pure _
    · exact .throw _

theorem uses_parseCsv {name : String} : Uses IsOffline (PortalSource.parseCsv dl name) := by
  refine .tryCatch (.bind (.perform trivial) fun table => ?_) fun e => ?_
  · split
    · exact .pure _
    · exact .throw _
  · cases e <;> exact .throw _

theorem keeps_scrape (h : Runs driver H) :
    custody.Keeps (source.scrape py dl driver) (fun _ => Runs driver)
      (fun e H => Runs driver H ∧ e.Escapes) H := by
  refine keeps_wrapSource <| .bind <| (keeps_login h).mono (fun _ H h => ?_) fun _ _ h => h.1
  refine .bind <| (keeps_applyOnOrderFilter h).mono (fun _ H h => ?_) fun _ _ h => h.1
  refine .bind <| (keeps_triggerExport h).mono (fun _ H h => ?_) fun _ _ h => h.1
  have huses : Uses IsOffline (PortalSource.waitForCsv py dl >>= PortalSource.parseCsv dl) :=
    .bind uses_waitForCsv fun _ => uses_parseCsv
  refine (keeps_offline huses).mono ?_ ?_
  · rintro _ _ rfl
    exact h
  · rintro _ _ rfl
    exact h

theorem uses_guardDownloadDir {repr : String → String} :
    Uses IsOffline (PortalSource.guardDownloadDir repr dl) := by
  refine .bind (.perform trivial) fun home => .bind (.perform trivial) fun root => ?_
  split
  · exact .throw _
  · exact .pure _

theorem uses_clear {name : String} : Uses IsOffline (PortalSource.clear py dl name) := by
  refine .bind (.perform trivial) fun isFile => ?_
  split
  · refine .tryCatch (.perform trivial) fun e => ?_
    cases e
    case osError => exact .pure _
    all_goals exact .throw _
  · exact .pure _

-- The browser has quit in the end. A fetch that has launched none may raise anything.
def HasQuit (e : SourceExc) (H : Browsers) : Prop :=
  H = .none ∨ ∃ driver b, H = .one driver b ∧
    (b.state = .stuck ∨ (b.state = .quit ∧ e.Escapes))

theorem keeps_quit {Q : Unit → Browsers → Prop} {X : SourceExc → Browsers → Prop}
    (h : Runs driver H) (hok : ∀ b, b.state = .quit → Q () (.one driver b))
    (herr : ∀ e b, b.state = .stuck → X e (.one driver b)) :
    custody.Keeps (perform (.drive driver .quit)) Q X H := by
  obtain ⟨b, rfl, hb⟩ := h
  refine keeps_drive hb nofun (fun b' h => ?_) (fun e b' h => ?_)
  · obtain rfl : b' = { b with state := .quit } := h
    exact hok _ rfl
  · obtain rfl : b' = { b with state := .stuck } := h
    exact herr e _ rfl

theorem keeps_launch :
    custody.Keeps (PortalSource.launch dl)
      (fun driver H => Runs driver H) (fun e H => HasQuit e H) .none := by
  refine .tryCatch <| .perform trivial ?_ ?_
  · rintro driver _ (⟨_, b, ⟨⟩, -, hb, rfl⟩ | ⟨_, ⟨⟩, _⟩)
    exact ⟨b, rfl, hb⟩
  · rintro e _ (⟨_, _, ⟨⟩, _⟩ | ⟨_, ⟨⟩, rfl⟩)
    cases e
    all_goals exact .inl rfl

theorem keeps_fetchAll {repr : String → String} :
    custody.Keeps (source.fetchAll py repr)
      (fun _ H => ∃ driver b, H = .one driver b ∧ b.state = .quit) HasQuit .none := by
  have hoffline {α : Type} {p : SourceM α} {f : α → SourceM (List LineItem)}
      (hu : p.Uses IsOffline) (hf : ∀ a, custody.Keeps (f a)
        (fun _ H => ∃ driver b, H = .one driver b ∧ b.state = .quit) HasQuit .none) :
      custody.Keeps (p >>= f)
        (fun _ H => ∃ driver b, H = .one driver b ∧ b.state = .quit) HasQuit .none := by
    refine .bind <| (keeps_offline hu).mono ?_ ?_
    · rintro a _ rfl
      exact hf a
    · rintro e _ rfl
      exact .inl rfl
  refine hoffline (.perform trivial) fun dl => hoffline uses_guardDownloadDir fun _ =>
    hoffline (.perform trivial) fun _ => hoffline (.perform trivial) fun names =>
    hoffline (.foldlM (fun _ _ => uses_clear) names ()) fun _ => ?_
  refine .bind <| keeps_launch.mono (fun driver H h => ?_) (fun _ _ h => h)
  refine .withFinally <| (keeps_scrape h).mono (fun rows H h => ?_) (fun e H h => ?_)
  · exact keeps_quit h (fun b hb => ⟨driver, b, rfl, hb⟩)
      fun e b hb => .inr ⟨driver, b, rfl, .inl hb⟩
  · exact keeps_quit h.1 (fun b hb => .inr ⟨driver, b, rfl, .inr ⟨hb, h.2⟩⟩)
      fun e b hb => .inr ⟨driver, b, rfl, .inl hb⟩

end Browsing

-- ### All fetches

-- Whichever calls fail, and however the fetches interleave: every browser has been launched by one
-- of them, which alone uses it, and only while it runs. It exports nothing unless the page shows
-- what is on order and nothing else. When a fetch is over, it has asked its browser to quit, and
-- what it raises is a SourceError, unless it has not launched a browser or that has failed to quit.
theorem browsers_quit {ι : Type} [DecidableEq ι] (py : PyStd) (repr : String → String)
    (sources : ι → PortalSource) {w w' : Downloads} {P : ι → SourceM (List LineItem)}
    (hb : w.browsers = [])
    (hs : Pool.Steps Answers (w, fun i => (sources i).fetchAll py repr) (w', P)) :
    ∃ launched : ι → Browsers,
      (∀ driver b, w'.browsers[driver]? = some b ↔ ∃ i, launched i driver = some b) ∧
      (∀ i j driver, (launched i driver).isSome → (launched j driver).isSome → i = j) ∧
      ∀ i, match P i with
        | .pure _                     => ∃ driver b, launched i = .one driver b ∧ b.state = .quit
        | .throw e                    => HasQuit e (launched i)
        | .call (.drive driver c) _   => ∃ b, launched i driver = some b ∧ b.state = .running ∧
          (c = .executeClick exportButton → b.openItems = false ∧ b.onOrder = true)
        | .call (.isSelected driver _) _ => ∃ b, launched i driver = some b ∧ b.state = .running
        | .call _ _                   => True := by
  have hfresh : Custody.Shared w.cells (fun _ : ι => Cells.none) := by
    rw [cells, hb]
    exact ⟨nofun, nofun, nofun⟩
  have ⟨_, launched, hshared, hQ⟩ := sound.steps hs trivial hfresh fun i => keeps_fetchAll
  refine ⟨launched, fun _ _ => hshared.eq_some_iff, fun _ _ _ => hshared.apart, fun i => ?_⟩
  have hi : custody.Keeps (P i) _ _ (launched i) := hQ i
  generalize P i = q at hi ⊢
  cases q
  case pure | throw => exact hi
  case call op k =>
    cases op
    case drive | isSelected => exact hi.1
    all_goals trivial

-- ### Two fetches at a time

-- The second fetch has no name to log in with.
def sampleSources (second : Bool) : PortalSource :=
  sampleSource (if second then "" else "clerk")

def twoPlayed : Option (Downloads × (Bool → SourceM (List LineItem))) :=
  Pool.play play (fun _ _ _ => true) (List.replicate 40 [false, true]).flatten
    (sample, fun second => (sampleSources second).fetchAll .ascii id)

def seen (c : Downloads × (Bool → SourceM (List LineItem))) :
    List BrowserState × Option (List String) × Bool :=
  (c.1.browsers.map (·.state), (c.2 false).value.map (·.map (formatOpt ·.inventoryId.join)),
    (c.2 true).value.isSome)

theorem browsers_quit_sample :
    ∃ (w : Downloads) (P : Bool → SourceM (List LineItem)) (launched : Bool → Browsers),
      seen (w, P) = ([.quit, .quit], some ["8"], false) ∧
      (∀ driver b, w.browsers[driver]? = some b ↔ ∃ i, launched i driver = some b) ∧
      ∃ driver b, launched false = .one driver b ∧ b.state = .quit := by
  have hplayed : twoPlayed.map seen =
      some ([.quit, .quit], some ["8"], false) := by
    decide +kernel
  have ⟨⟨w, P⟩, hplay, hseen⟩ := Option.map_eq_some_iff.mp hplayed
  have hs := (Pool.steps_play answers_play hplay).mono And.left
  have ⟨launched, hall, _, hi⟩ := browsers_quit .ascii id sampleSources (w := sample) rfl hs
  have ⟨rows, hrows, _⟩ := Option.map_eq_some_iff.mp (congrArg (fun s => s.2.1) hseen)
  have hP : P false = .pure rows := eq_pure_of_value hrows
  have hfirst := hi false
  rw [hP] at hfirst
  exact ⟨w, P, launched, hseen, hall, hfirst⟩

end Downloads
end ReceivingApp
