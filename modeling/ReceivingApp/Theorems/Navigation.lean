import ReceivingApp.Adapters.Receiver
import ReceivingApp.Lib.Journal

open Interaction Program

namespace ReceivingApp

-- ### The journal of a page

-- What moves the page or presses something on it is written down with its answer. What reads or
-- sets something is written down if it succeeds.
inductive PageEvent
  | opened (url : String) (r : Except PyExc Unit)
  | pressed (key : String) (r : Except PyExc Unit)
  | clicked (selector : String) (r : Except PyExc Unit)
  | urlRead (url : String)
  | optionsRead (selector : String) (options : List SelectOption)
  | valueSet (selector value : String)
  | rowsRead (rows : List GridRow)
  | quantitySet (row : GridRow)
  | serialFilled (serial : String)
  | finalizeChecked (error : String)
  deriving DecidableEq

def PageEvent.note : ∀ β, PageCall β → Except PyExc β → List PageEvent
  | _, .goto url, r                         => [opened url r]
  | _, .press _ key, r                      => [pressed key r]
  | _, .click selector, r                   => [clicked selector r]
  | _, .url, .ok url                        => [urlRead url]
  | _, .readOptions selector, .ok options   => [optionsRead selector options]
  | _, .setValue selector value, .ok _      => [valueSet selector value]
  | _, .rows, .ok rows                      => [rowsRead rows]
  | _, .setQty row, .ok _                   => [quantitySet row]
  | _, .fillSerial serial, .ok _            => [serialFilled serial]
  | _, .finalizeCheck, .ok error            => [finalizeChecked error]
  | _, _, _                                 => []

-- The surroundings of the receiver: the page may answer a call with anything.
def portalEnv : Program.Env PageCall PyExc (List PageEvent) :=
  Journaled (fun _ _ _ => True) PageEvent.note

-- ### Navigations

inductive Navigation
  | goto (url : String)
  | login
  deriving DecidableEq

-- The only key that is pressed submits the form of the login.
def PageEvent.navigation? : PageEvent → Option Navigation
  | opened url _ => some (.goto url)
  | pressed _ _  => some .login
  | _            => none

def PageEvent.url? : PageEvent → Option String
  | urlRead url => some url
  | _           => none

-- The click on the receive button.
def PageEvent.Receives : PageEvent → Prop
  | clicked selector _ => selector = "a#receive-btn"
  | _                  => False

def lastNavigation (l : List PageEvent) : Option Navigation :=
  (l.filterMap PageEvent.navigation?).getLast?

def urlsRead (l : List PageEvent) : List String :=
  l.filterMap PageEvent.url?

section Events

variable {l : List PageEvent} {x : PageEvent}

theorem lastNavigation_concat :
    lastNavigation (l ++ [x]) = x.navigation?.or (lastNavigation l) := by
  rw [lastNavigation, List.filterMap_append, lastNavigation]
  cases hn : x.navigation? <;> simp [hn]

theorem urlsRead_concat : urlsRead (l ++ [x]) = urlsRead l ++ x.url?.toList := by
  rw [urlsRead, List.filterMap_append, urlsRead]
  cases hu : x.url? <;> simp [hu]

end Events

variable {self : PortalReceiver} {poNumber inventoryId : String} {l : List PageEvent}

def PortalReceiver.poUrl (self : PortalReceiver) (poNumber : String) : String :=
  s!"{self.baseUrl}/purchase-orders?id={poNumber}"

-- Wherever the receive button is clicked, the page was last sent to the purchase order.
def OnPoPage (self : PortalReceiver) (poNumber : String) (l : List PageEvent) : Prop :=
  ∀ l₁ x l₂, l = l₁ ++ x :: l₂ → x.Receives →
    lastNavigation l₁ = some (.goto (self.poUrl poNumber))

-- The page was sent to the login instead, and it had left the login after it.
def Relogs (urls : List String) : Prop :=
  ∃ url₁ url₂, urls = [url₁, url₂] ∧ inText "/login" url₁ ∧ ¬inText "/login" url₂

-- ### Before the click

-- The button is not clicked so far.
structure At (urls : List String) (nav : Option Navigation) (l : List PageEvent) : Prop where
  urls      : urlsRead l = urls
  nav       : lastNavigation l = nav
  unclicked : ∀ x ∈ l, ¬x.Receives

variable {urls : List String} {nav : Option Navigation}

theorem At.onPoPage (h : At urls nav l) : OnPoPage self poNumber l := by
  rintro l₁ x l₂ rfl hx
  exact absurd hx (h.unclicked x (by simp))

theorem At.concat (h : At urls nav l) {x : PageEvent} (hx : ¬x.Receives) :
    At (urls ++ x.url?.toList) (x.navigation?.or nav) (l ++ [x]) where
  urls      := by rw [urlsRead_concat, h.urls]
  nav       := by rw [lastNavigation_concat, h.nav]
  unclicked := by
    intro y hy
    rcases List.mem_append.mp hy with hy | hy
    · exact h.unclicked y hy
    · rwa [List.mem_singleton.mp hy]

theorem At.moved (h : At urls nav l) {x : PageEvent} {n : Navigation} (hx : ¬x.Receives)
    (hu : x.url? = none) (hn : x.navigation? = some n) : At urls (some n) (l ++ [x]) := by
  simpa [hu, hn] using h.concat hx

-- What holds at every moment of a run. The other direction holds once the run has ended.
def Sound (self : PortalReceiver) (poNumber : String) (l : List PageEvent) : Prop :=
  ¬Relogs (urlsRead l) → OnPoPage self poNumber l

def Exact (self : PortalReceiver) (poNumber : String) (l : List PageEvent) : Prop :=
  OnPoPage self poNumber l ↔ ¬Relogs (urlsRead l)

theorem At.sound (h : At urls nav l) : Sound self poNumber l :=
  fun _ => h.onPoPage

section Calls

variable {Q : Unit → List PageEvent → Prop} {X : PyExc → List PageEvent → Prop}

-- A call that moves the page.
theorem At.move_wp (h : At urls nav l) {op : PageCall Unit} {n : Navigation}
    {x : Except PyExc Unit → PageEvent}
    (hnote : ∀ r, PageEvent.note _ op r = [x r]) (hx : ∀ r, ¬(x r).Receives)
    (hu : ∀ r, (x r).url? = none) (hn : ∀ r, (x r).navigation? = some n)
    (hQ : ∀ l', At urls (some n) l' → Q () l') (hX : ∀ e l', At urls (some n) l' → X e l') :
    (perform op : ReceiverM Unit).wp portalEnv (Sound self poNumber) Q X l := by
  have hmoved (r) : At urls (some n) (l ++ PageEvent.note _ op r) := by
    rw [hnote r]
    exact h.moved (hx r) (hu r) (hn r)
  exact .noted h.sound (fun _ _ => ⟨(hmoved _).sound, hQ _ (hmoved _)⟩)
    (fun e _ => ⟨(hmoved _).sound, hX e _ (hmoved _)⟩)

theorem At.goto_wp (h : At urls nav l) {url : String}
    (hQ : ∀ l', At urls (some (.goto url)) l' → Q () l')
    (hX : ∀ e l', At urls (some (.goto url)) l' → X e l') :
    (perform (.goto url) : ReceiverM Unit).wp portalEnv (Sound self poNumber) Q X l :=
  h.move_wp (fun _ => rfl) (fun _ h => h) (fun _ => rfl) (fun _ => rfl) hQ hX

theorem At.press_wp (h : At urls nav l) {selector key : String}
    (hQ : ∀ l', At urls (some .login) l' → Q () l')
    (hX : ∀ e l', At urls (some .login) l' → X e l') :
    (perform (.press selector key) : ReceiverM Unit).wp portalEnv (Sound self poNumber) Q X l :=
  h.move_wp (fun _ => rfl) (fun _ h => h) (fun _ => rfl) (fun _ => rfl) hQ hX

theorem At.url_wp (h : At urls nav l) {Q : String → List PageEvent → Prop}
    (hQ : ∀ url l', At (urls ++ [url]) nav l' → Q url l') (hX : ∀ e, X e l) :
    (perform .url : ReceiverM String).wp portalEnv (Sound self poNumber) Q X l := by
  refine .noted h.sound (fun url _ => ?_) (fun e _ => ?_)
  case refine_1 =>
    have hread : At (urls ++ [url]) nav (l ++ [.urlRead url]) :=
      h.concat (x := .urlRead url) (fun h => h)
    exact ⟨hread.sound, hQ url _ hread⟩
  case refine_2 =>
    simp only [PageEvent.note, List.append_nil]
    exact ⟨h.sound, hX e⟩

theorem At.quiet_wp (h : At urls nav l) {p : ReceiverM Unit} (hp : Uses (Quiet PageEvent.note) p)
    (hQ : Q () l) (hX : ∀ e, X e l) : p.wp portalEnv (Sound self poNumber) Q X l :=
  .quiet hp h.sound (fun _ => hQ) hX

end Calls

-- ### The approach

section Approach

variable {Q : Unit → List PageEvent → Prop} {X : PyExc → List PageEvent → Prop}

theorem At.openPo_wp (h : At urls nav l)
    (hQ : ∀ l', At urls (some (.goto (self.poUrl poNumber))) l' → Q () l')
    (hX : ∀ e n l', At urls n l' → X e l') :
    (self.openPo poNumber).wp portalEnv (Sound self poNumber) Q X l := by
  refine .bind <| h.goto_wp (fun l' h => ?_) (fun e l' h => hX e _ l' h)
  exact h.quiet_wp (.perform fun _ => rfl) (hQ l' h) (fun e => hX e _ l' h)

theorem At.login_wp (h : At urls nav l) (hQ : ∀ l', At urls (some .login) l' → Q () l')
    (hX : ∀ e n l', At urls n l' → X e l') :
    self.login.wp portalEnv (Sound self poNumber) Q X l := by
  have hquiet {n l} {op : PageCall Unit} (h : At urls n l) (ho : Quiet PageEvent.note Unit op)
      {f : Unit → ReceiverM Unit} (hf : (f ()).wp portalEnv (Sound self poNumber) Q X l) :
      (perform op >>= f).wp portalEnv (Sound self poNumber) Q X l :=
    .bind <| h.quiet_wp (.perform ho) hf (fun e => hX e _ l h)
  refine .bind <| h.goto_wp (fun l h => ?_) (fun e l' h => hX e _ l' h)
  refine hquiet h (fun _ => rfl) <| hquiet h (fun _ => rfl) <| hquiet h (fun _ => rfl) <| ?_
  refine .bind <| h.press_wp (fun l h => ?_) (fun e l' h => hX e _ l' h)
  exact h.quiet_wp (.perform fun _ => rfl) (hQ l h) (fun e => hX e _ l h)

end Approach

-- Where the click is made, the page was last sent to the purchase order exactly if it had not been
-- logged in with success. Where an exception comes before the click, there was no such login.
theorem approach_wp :
    (self.approach poNumber).wp portalEnv (Sound self poNumber)
      (fun _ l => ∃ urls nav, At urls nav l ∧
        (nav = some (.goto (self.poUrl poNumber)) ↔ ¬Relogs urls))
      (fun _ l => ∃ urls nav, At urls nav l ∧ ¬Relogs urls) [] := by
  have hnil : At [] none [] := ⟨rfl, rfl, by simp⟩
  have hfew {urls : List String} (h : urls.length < 2) : ¬Relogs urls := by
    rintro ⟨_, _, rfl, _⟩
    simp at h
  have hstays (url₁ url₂ : String) (h : inText "/login" url₁ → inText "/login" url₂) :
      ¬Relogs [url₁, url₂] := by
    rintro ⟨_, _, ⟨⟩, h₁, h₂⟩
    exact h₂ (h h₁)
  refine .bind <| hnil.openPo_wp (fun l h => ?_) (fun _ n l h => ⟨_, n, h, hfew (by simp)⟩)
  refine .bind <| h.url_wp (fun url₁ l h => ?_) (fun _ => ⟨_, _, h, hfew (by simp)⟩)
  by_cases h₁ : inText "/login" url₁
  case pos =>
    simp only [h₁]
    refine .bind <| h.login_wp (fun l h => ?_) (fun _ n l h => ⟨_, n, h, hfew (by simp)⟩)
    refine .bind <| h.url_wp (fun url₂ l h => ?_) (fun _ => ⟨_, _, h, hfew (by simp)⟩)
    by_cases h₂ : inText "/login" url₂
    case pos =>
      simp only [h₂]
      have hn := hstays url₁ _ (fun _ => h₂)
      exact h.openPo_wp (fun l h => ⟨_, _, h, iff_of_true rfl hn⟩) (fun _ n l h => ⟨_, n, h, hn⟩)
    case neg =>
      simp only [h₂]
      exact ⟨h.sound, _, _, h, iff_of_false nofun (not_not.mpr ⟨_, _, rfl, h₁, h₂⟩)⟩
  case neg =>
    simp only [h₁]
    refine .bind <| h.url_wp (fun url₂ l h => ?_) (fun _ => ⟨_, _, h, hfew (by simp)⟩)
    have hn := hstays url₁ url₂ (fun h => absurd h h₁)
    split
    case isTrue  =>
      exact h.openPo_wp (fun l h => ⟨_, _, h, iff_of_true rfl hn⟩) (fun _ n l h => ⟨_, n, h, hn⟩)
    case isFalse => exact ⟨h.sound, _, _, h, iff_of_true rfl hn⟩

-- ### The click

theorem At.onPoPage_click_iff (h : At urls nav l) {r : Except PyExc Unit} :
    OnPoPage self poNumber (l ++ [.clicked "a#receive-btn" r]) ↔
      nav = some (.goto (self.poUrl poNumber)) := by
  rw [OnPoPage, forall_entry_concat_iff, h.nav]
  exact ⟨fun hp => hp.2 rfl, fun hn => ⟨h.onPoPage, fun _ => hn⟩⟩

theorem quiet_succeeds {p : ReceiverM Unit} (h : Uses (Quiet PageEvent.note) p) :
    Uses (Quiet PageEvent.note) (succeeds p) := by
  refine (h.bind fun _ => .pure _).tryCatch fun e => ?_
  split
  case isTrue  => exact .pure _
  case isFalse => exact .throw _

theorem quiet_screenshot {step : String} :
    Uses (Quiet PageEvent.note) (PortalReceiver.screenshot step inventoryId) :=
  (Uses.perform fun _ => rfl).bind fun _ =>
    (quiet_succeeds (.perform fun _ => rfl)).bind fun _ => .pure _

theorem step1Navigate_wp :
    (self.step1Navigate poNumber inventoryId).wp portalEnv (Sound self poNumber)
      (fun _ => Exact self poNumber) (fun _ => Exact self poNumber) [] := by
  refine .bind <| approach_wp.mono ?_ ?_
  case refine_2 =>
    rintro e l - ⟨urls, nav, h, hn⟩
    exact iff_of_true h.onPoPage (h.urls ▸ hn)
  rintro - l - ⟨urls, nav, h, hn⟩
  have hexact (r) : Exact self poNumber (l ++ [.clicked "a#receive-btn" r]) := by
    have hurls : urlsRead (l ++ [.clicked "a#receive-btn" r]) = urls := by
      rw [urlsRead_concat, h.urls]
      exact List.append_nil urls
    rw [Exact, h.onPoPage_click_iff, hurls, hn]
  refine .bind <| .noted h.sound (fun _ _ => ⟨(hexact _).mpr, ?_⟩)
    fun _ _ => ⟨(hexact _).mpr, hexact _⟩
  -- Nothing of what follows is written down.
  refine .quiet ?_ (hexact _).mpr (fun _ => hexact _) (fun _ => hexact _)
  refine (quiet_succeeds (.perform fun _ => rfl)).bind fun arrived => ?_
  split
  case isTrue  => exact .pure _
  case isFalse =>
    exact (Uses.perform fun _ => rfl).bind fun _ => quiet_screenshot.bind fun _ => .pure _

theorem step1Navigate_exact {q : ReceiverM (Option ReceiveOutcome)}
    (hs : Steps portalEnv [] (self.step1Navigate poNumber inventoryId) l q) (hq : q.Ended) :
    Exact self poNumber l := by
  rcases step1Navigate_wp.ended hs hq with ⟨_, _, h⟩ | ⟨_, _, h⟩
  · exact h
  · exact h

-- The receive button is clicked on the page of the purchase order, unless the portal asks for a
-- login that succeeds. Then it never is.
theorem step1Navigate_onPoPage_iff {q : ReceiverM (Option ReceiveOutcome)}
    (hs : Steps portalEnv [] (self.step1Navigate poNumber inventoryId) l q) :
    (¬Relogs (urlsRead l) → OnPoPage self poNumber l) ∧
      (q.Ended → (OnPoPage self poNumber l ↔ ¬Relogs (urlsRead l))) :=
  ⟨step1Navigate_wp.invariant hs, step1Navigate_exact hs⟩

-- ### A sample portal

-- A portal whose pages are addressed as the journal says, with the contents of its wizard.
structure Portal where
  url     : List PageEvent → String
  options : String → List SelectOption := fun _ => []
  rows    : List GridRow := []

namespace Portal

def answer (portal : Portal) : ∀ β, PageCall β → List PageEvent → Except PyExc β
  | _, .url, l                => .ok (portal.url l)
  | _, .readOptions select, _ => .ok (portal.options select)
  | _, .rows, _               => .ok portal.rows
  | _, .nextIsVisible, _      => .ok false
  | _, .nextClass, _          => .ok none
  | _, .nextAriaDisabled, _   => .ok none
  | _, .hasSerialInput, _     => .ok true
  | _, .finalizeCheck, _      => .ok ""
  | _, .goto _, _ | _, .waitForLoadState, _ | _, .fill _ _, _ | _, .press _ _, _
  | _, .click _, _ | _, .waitForUrl _, _ | _, .mkdir, _ | _, .screenshot _, _
  | _, .setValue _ _, _ | _, .waitForRows, _ | _, .clickNext, _ | _, .setQty _, _
  | _, .fillSerial _, _       => .ok ()

def play {α : Type} (portal : Portal) (p : ReceiverM α) : Except PyExc α × List PageEvent :=
  p.run (recounting portal.answer PageEvent.note) []

theorem steps_play {α : Type} {portal : Portal} {p : ReceiverM α} :
    Steps portalEnv [] p (portal.play p).2 (ofExcept (portal.play p).1) :=
  steps_recounting (fun _ _ _ => trivial) p []

-- A portal where the session has expired. After a login it shows its start page.
def expired : Portal where
  url l := if lastNavigation l = some .login then "https://portal/home" else "https://portal/login"

-- A portal that never gets past its login.
def locked : Portal where
  url _ := "https://portal/login"

end Portal

def PortalReceiver.sample : PortalReceiver :=
  ⟨"https://portal", "robot", "secret", "Main", "Whse", .of "screenshots", true⟩

theorem step1Navigate_onPoPage_locked :
    let l := (Portal.locked.play (PortalReceiver.sample.step1Navigate "PO-1" "INV-1")).2
    (¬Relogs (urlsRead l) → OnPoPage .sample "PO-1" l) ∧
      (OnPoPage .sample "PO-1" l ↔ ¬Relogs (urlsRead l)) :=
  have h := step1Navigate_onPoPage_iff Portal.steps_play
  ⟨h.1, h.2 ⟨_, rfl⟩⟩

-- After the login, the button is clicked on the start page.
theorem not_step1Navigate_onPoPage :
    ¬∀ (self : PortalReceiver) (poNumber inventoryId : String) (l : List PageEvent)
      (q : ReceiverM (Option ReceiveOutcome)),
      Steps portalEnv [] (self.step1Navigate poNumber inventoryId) l q →
        OnPoPage self poNumber l := by
  intro h
  have hs := @Portal.steps_play _ .expired (PortalReceiver.sample.step1Navigate "PO-1" "INV-1")
  refine (step1Navigate_exact hs ⟨_, rfl⟩).mp (h _ _ _ _ _ hs) ?_
  exact ⟨"https://portal/login", "https://portal/home", by decide +kernel, by decide +kernel,
    by decide +kernel⟩

end ReceivingApp
