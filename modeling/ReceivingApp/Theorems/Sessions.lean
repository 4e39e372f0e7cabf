import ReceivingApp.Adapters.ReceiverSession
import ReceivingApp.Lib.Trace

open Interaction

namespace ReceivingApp

variable {α β : Type} {faults : Faults} {s s' : BrowserSession} {h h' : Handle}

-- ### Runs of a method

section Runs

theorem SessionM.run_tryCatch (m : SessionM α) (f : PyExc → SessionM α) :
    (tryCatch m f).run s =
      match m.run s with
      | .ok a s'    => .ok a s'
      | .error e s' => (f e).run s' := by
  simp only [tryCatch, tryCatchThe, MonadExceptOf.tryCatch, EStateM.tryCatch, EStateM.run]
  cases m s <;> rfl

def sessionAfter : EStateM.Result PyExc BrowserSession α → BrowserSession
  | .ok _ s    => s
  | .error _ s => s

def raises : EStateM.Result PyExc BrowserSession α → Bool
  | .ok _ _    => false
  | .error _ _ => true

end Runs

@[simp]
theorem BrowserSession.handles_assign {value : Option Nat} :
    (s.assign h value).handles h' = if h' = h then value else s.handles h' :=
  rfl

@[simp]
theorem BrowserSession.loggedIn_assign {value : Option Nat} :
    (s.assign h value).loggedIn = s.loggedIn :=
  rfl

namespace ReceiverSession

-- ### Releases

theorem run_release :
    (release faults h).run s =
      if s.handles h = none then .ok () s else
        match faults h.releaseOp with
        | some e => .error e s
        | none   => .ok () (s.assign h none) := by
  by_cases hh : s.handles h = none
  · simp [release, hh]
  · cases hf : faults h.releaseOp <;> simp [release, attempt, hh, hf]

-- What the releases leave behind is what they found, less what was released.
structure Released (faults : Faults) (hs : List Handle) (s s' : BrowserSession) : Prop where
  loggedIn : s'.loggedIn = s.loggedIn
  handles  : ∀ h, s'.handles h = none ∨ s'.handles h = s.handles h
  all_iff  : (∀ h ∈ hs, s'.handles h = none) ↔
    ∀ h ∈ hs, s.handles h ≠ none → faults h.releaseOp = none

-- After the first handle is gone, the others are released.
theorem Released.cons {hs : List Handle} {s₁ : BrowserSession} (hr : Released faults hs s₁ s')
    (hl : s₁.loggedIn = s.loggedIn) (hh : s₁.handles h = none)
    (hframe : ∀ h', h' ≠ h → s₁.handles h' = s.handles h')
    (hf : s.handles h ≠ none → faults h.releaseOp = none) : Released faults (h :: hs) s s' where
  loggedIn := hr.loggedIn.trans hl
  handles h' := by
    by_cases he : h' = h
    case pos =>
      cases he
      rcases hr.handles h with hn | hn
      · exact .inl hn
      · exact .inl (hn.trans hh)
    case neg => exact hframe h' he ▸ hr.handles h'
  all_iff := by
    have hnone : s'.handles h = none := (hr.handles h).elim id (·.trans hh)
    rw [List.forall_mem_cons, List.forall_mem_cons, and_iff_right hnone, and_iff_right hf,
      hr.all_iff]
    refine forall₂_congr fun h' _ => ?_
    by_cases he : h' = h
    case pos => exact he ▸ iff_of_true (fun hn => absurd hh hn) hf
    case neg => rw [hframe h' he]

theorem released_forM (hs : List Handle) :
    Released faults hs s (sessionAfter ((forM hs (release faults)).run s)) := by
  induction hs generalizing s
  case nil => exact ⟨rfl, fun _ => .inr rfl, by simp⟩
  case cons h hs ih =>
    rw [List.forM_cons, EStateM.run_bind, run_release]
    by_cases hh : s.handles h = none
    case pos =>
      rw [if_pos hh]
      exact ih.cons rfl hh (fun _ _ => rfl) (fun hn => absurd hh hn)
    case neg =>
      rw [if_neg hh]
      cases hf : faults h.releaseOp
      case some e =>
        refine ⟨rfl, fun _ => .inr rfl, iff_of_false ?_ ?_⟩
        · exact fun hall => hh (hall h List.mem_cons_self)
        · exact fun hall => nomatch hf.symm.trans (hall h List.mem_cons_self hh)
      case none =>
        exact ih.cons rfl (by simp) (fun h' he => by simp [he]) (fun _ => hf)

-- All handles are gone exactly if nothing that is released raises.
theorem close_released :
    Released faults [.page, .context, .browser, .pw] s (sessionAfter ((close faults).run s)) :=
  released_forM _

-- ### The setup

-- The calls that come before the handle is there.
def setupOps : Handle → List BrowserOp
  | .pw      => []
  | .browser => [.launch]
  | .context => [.launch, .newContext]
  | .page    => [.launch, .newContext, .newPage]

def Acquired (faults : Faults) (h : Handle) : Prop :=
  ∀ op ∈ setupOps h, faults op = none

-- The first exception in the `try` block of the setup.
def setupFault (faults : Faults) : Option PyExc :=
  [BrowserOp.launch, .newContext, .newPage, .login].findSome? faults

theorem run_acquire :
    (acquire faults h).run s =
      match faults h.acquireOp with
      | some e => .error e s
      | none   => .ok s.made { s.assign h (some s.made) with made := s.made + 1 } := by
  cases hf : faults h.acquireOp <;> simp [acquire, attempt, hf]

theorem run_login {page : Nat} :
    (login faults page).run s =
      match faults .login with
      | some e => .error e s
      | none   => .ok () { s with loggedIn := page :: s.loggedIn } := by
  cases hf : faults .login <;> simp [login, attempt, hf]

theorem run_openPage (hpage : s.handles .page = none) (hpw : s.handles .pw ≠ none) :
    match setupFault faults with
    | none   => ∃ page s', (openPage faults).run s = .ok page s' ∧ s'.handles .page = some page ∧
        page ∈ s'.loggedIn
    | some e => ∃ s', (openPage faults).run s = .error e s' ∧
        ∀ h, s'.handles h ≠ none ↔ s.handles h ≠ none ∨ Acquired faults h := by
  simp only [setupFault, List.findSome?_cons, openPage, EStateM.run_bind, run_acquire, run_login,
    Handle.acquireOp]
  cases hlaunch : faults .launch
  case some e =>
    refine ⟨s, rfl, fun h => ?_⟩
    cases h <;> simp [Acquired, setupOps, hpw, hlaunch]
  cases hcontext : faults .newContext
  case some e =>
    refine ⟨_, rfl, fun h => ?_⟩
    cases h <;> simp [Acquired, setupOps, hpw, hlaunch, hcontext]
  cases hnew : faults .newPage
  case some e =>
    refine ⟨_, rfl, fun h => ?_⟩
    cases h <;> simp [Acquired, setupOps, hpw, hpage, hlaunch, hcontext, hnew]
  cases hlogin : faults .login
  case some e =>
    refine ⟨_, rfl, fun h => ?_⟩
    cases h <;> simp [Acquired, setupOps, hpw, hlaunch, hcontext, hnew]
  case none => exact ⟨_, _, rfl, rfl, List.mem_cons_self⟩

-- A page that is there is used as it is.
theorem run_ensureSession_of_some {page : Nat} (hpage : s.handles .page = some page) :
    (ensureSession faults).run s = .ok page s := by
  simp [ensureSession, hpage]

theorem run_ensureSession_of_start {e : PyExc} (hpage : s.handles .page = none)
    (hstart : faults .start = some e) : (ensureSession faults).run s = .error e s := by
  simp [ensureSession, hpage, run_acquire, Handle.acquireOp, hstart]

-- The session once Playwright has started.
def started (s : BrowserSession) : BrowserSession :=
  { s.assign .pw (some s.made) with made := s.made + 1 }

theorem run_ensureSession (hpage : s.handles .page = none) (hstart : faults .start = none) :
    (ensureSession faults).run s =
      match (openPage faults).run (started s) with
      | .ok page s' => .ok page s'
      | .error e s' => (abandon faults e).run s' := by
  simp only [ensureSession, EStateM.run_bind, EStateM.run_get, hpage, run_acquire, Handle.acquireOp,
    hstart, SessionM.run_tryCatch, started]
  cases (openPage faults).run { s.assign .pw (some s.made) with made := s.made + 1 } <;> rfl

-- Where nothing raises, the page that is returned has been logged in on.
theorem run_ensureSession_of_setup (hpage : s.handles .page = none) (hstart : faults .start = none)
    (hsetup : setupFault faults = none) :
    ∃ page s', (ensureSession faults).run s = .ok page s' ∧ s'.handles .page = some page ∧
      page ∈ s'.loggedIn := by
  have hopen := @run_openPage faults (started s) (by simpa [started] using hpage)
    (by simp [started])
  rw [hsetup] at hopen
  obtain ⟨page, s', hrun, h⟩ := hopen
  exact ⟨page, s', by rw [run_ensureSession hpage hstart, hrun], h⟩

theorem sessionAfter_abandon {e : PyExc} :
    raises ((abandon faults e).run s) ∧ sessionAfter ((abandon faults e).run s) =
      if e.isException then sessionAfter ((close faults).run s) else s := by
  rw [abandon]
  by_cases he : e.isException
  case pos =>
    rw [if_pos he, if_pos he, EStateM.run_bind]
    cases (close faults).run s
    case ok | error => exact ⟨rfl, rfl⟩
  case neg =>
    rw [if_neg he, if_neg he]
    exact ⟨rfl, rfl⟩

end ReceiverSession

-- ### Calls of a receiver

inductive ReceiverCall
  | receiveItem (inventoryId : String) (runWizard : Nat → Except PyExc ReceiveOutcome)
  | close

-- A receiver after a call, and whether the call failed to set up a session.
structure ReceiverState where
  session     : BrowserSession
  setupFailed : Bool

namespace ReceiverState

def init : ReceiverState where
  session     := .init
  setupFailed := false

def next (reprStr : String → String) (reprExc : PyExc → String) (r : ReceiverState) :
    ReceiverCall × Faults → ReceiverState
  | (.receiveItem inventoryId runWizard, faults) => {
      session     := sessionAfter <|
        (ReceiverSession.receiveItem faults reprStr reprExc inventoryId runWizard).run r.session
      setupFailed := raises ((ReceiverSession.ensureSession faults).run r.session)
    }
  | (.close, faults) => {
      session     := sessionAfter ((ReceiverSession.close faults).run r.session)
      setupFailed := false
    }

-- No handle is left after a setup that failed, and a page has been logged in on.
structure Consistent (r : ReceiverState) : Prop where
  failed : r.setupFailed → ∀ h, r.session.handles h = none
  page   : ∀ page, r.session.handles .page = some page → page ∈ r.session.loggedIn

-- The handles that are there when the setup fails.
def Held (s : BrowserSession) (faults : Faults) (h : Handle) : Prop :=
  s.handles h ≠ none ∨ ReceiverSession.Acquired faults h

-- A call that finds no page either starts nothing, or it can let go of all that it has started.
def Clean (r : ReceiverState) : ReceiverCall × Faults → Prop
  | (.close, _) => True
  | (.receiveItem _ _, faults) =>
    r.session.handles .page = none →
      match faults .start with
      | some _ => ∀ h, r.session.handles h = none
      | none   => ∀ e, ReceiverSession.setupFault faults = some e →
          e.isException ∧ ∀ h, Held r.session faults h → faults h.releaseOp = none

variable {reprStr : String → String} {reprExc : PyExc → String} {r : ReceiverState}

theorem forall_handle_iff {P : Handle → Prop} :
    (∀ h, P h) ↔ ∀ h ∈ [Handle.page, .context, .browser, .pw], P h :=
  ⟨fun h x _ => h x, fun h x => h x (by cases x <;> simp)⟩

open ReceiverSession

-- What is left of a session where its setup fails.
theorem allNone_ensureSession_iff (hpage : s.handles .page = none) (hstart : faults .start = none)
    {e : PyExc} (he : setupFault faults = some e) :
    raises ((ensureSession faults).run s) ∧
      ((∀ h, (sessionAfter ((ensureSession faults).run s)).handles h = none) ↔
        e.isException ∧ ∀ h, Held s faults h → faults h.releaseOp = none) := by
  have hopen := @run_openPage faults (started s) (by simpa [started] using hpage)
    (by simp [started])
  rw [he] at hopen
  obtain ⟨s', hrun, hheld⟩ := hopen
  rw [run_ensureSession hpage hstart, hrun]
  refine ⟨sessionAfter_abandon.1, ?_⟩
  dsimp only
  rw [sessionAfter_abandon.2]
  have hheld (h) : s'.handles h ≠ none ↔ Held s faults h := by
    rw [hheld, Held]
    cases h <;> simp [started, Acquired, setupOps]
  split
  case isTrue hexc =>
    rw [and_iff_right hexc, forall_handle_iff, close_released.all_iff, ← forall_handle_iff]
    exact forall_congr' fun h => by rw [hheld h]
  case isFalse hexc =>
    refine iff_of_false (fun hall => ?_) (fun h => hexc h.1)
    exact (hheld .pw).mpr (.inr (by simp [Acquired, setupOps])) (hall .pw)

-- The wizard leaves the handles alone.
theorem sessionAfter_receiveItem {inventoryId : String}
    {runWizard : Nat → Except PyExc ReceiveOutcome} :
    sessionAfter ((receiveItem faults reprStr reprExc inventoryId runWizard).run s) =
      sessionAfter ((ensureSession faults).run s) := by
  have hthrow (exc : PyExc) (s' : BrowserSession) :
      sessionAfter ((if exc.cls = .executorError then throw exc
        else if exc.isException then
          throw ⟨.executorError,
            s!"Unexpected failure receiving inv={reprStr inventoryId}: {reprExc exc}"⟩
        else throw exc : SessionM ReceiveOutcome).run s') = s' := by
    split
    case isTrue => rfl
    split
    case isTrue | isFalse => rfl
  rw [receiveItem, SessionM.run_tryCatch, EStateM.run_bind]
  cases (ensureSession faults).run s
  case error e s' => exact hthrow e s'
  case ok page s' =>
    dsimp only
    cases runWizard page
    case ok      => rfl
    case error e => exact hthrow e s'

theorem next_receiveItem {inventoryId : String} {runWizard : Nat → Except PyExc ReceiveOutcome} :
    r.next reprStr reprExc (.receiveItem inventoryId runWizard, faults) =
      ⟨sessionAfter ((ensureSession faults).run r.session),
        raises ((ensureSession faults).run r.session)⟩ := by
  rw [next, sessionAfter_receiveItem]

theorem consistent_close (h : r.Consistent) :
    (r.next reprStr reprExc (.close, faults)).Consistent := by
  refine ⟨nofun, fun page hp => ?_⟩
  have hr := @close_released faults r.session
  have hpage : (sessionAfter ((close faults).run r.session)).handles .page = some page := hp
  rcases hr.handles .page with hn | hn
  · exact nomatch hn.symm.trans hpage
  · exact hr.loggedIn.symm ▸ h.page page (hn.symm.trans hpage)

theorem consistent_receiveItem_iff (h : r.Consistent) {inventoryId : String}
    {runWizard : Nat → Except PyExc ReceiveOutcome} :
    (r.next reprStr reprExc (.receiveItem inventoryId runWizard, faults)).Consistent ↔
      r.Clean (.receiveItem inventoryId runWizard, faults) := by
  rw [next_receiveItem]
  cases hpage : r.session.handles .page
  case some page =>
    rw [run_ensureSession_of_some hpage]
    exact iff_of_true ⟨nofun, h.page⟩ fun hn => nomatch hn.symm.trans hpage
  case none =>
    cases hstart : faults .start
    case some e =>
      rw [run_ensureSession_of_start hpage hstart]
      simp only [Clean, hpage, hstart, forall_const]
      exact ⟨fun hc => hc.failed rfl, fun hn => ⟨fun _ => hn, h.page⟩⟩
    case none =>
      simp only [Clean, hpage, hstart, forall_const]
      cases hsetup : setupFault faults
      case none =>
        have ⟨page, s', hrun, hp, hmem⟩ := run_ensureSession_of_setup hpage hstart hsetup
        rw [hrun]
        exact iff_of_true ⟨nofun, fun p hp' => Option.some.inj (hp.symm.trans hp') ▸ hmem⟩ nofun
      case some e =>
        have ⟨hraises, hall⟩ := allNone_ensureSession_iff hpage hstart hsetup
        have hclean : (∀ e', some e = some e' → e'.isException ∧
            ∀ h, Held r.session faults h → faults h.releaseOp = none) ↔ _ :=
          ⟨fun hc => hc e rfl, fun hc e' he => Option.some.inj he ▸ hc⟩
        rw [hclean, ← hall]
        refine ⟨fun hc => hc.failed hraises, fun hn => ⟨fun _ => hn, fun page hp => ?_⟩⟩
        exact nomatch (hn .page).symm.trans hp

-- Out of a consistent state, a call comes to a consistent one exactly under the condition.
theorem consistent_next_iff {e : ReceiverCall × Faults} (h : r.Consistent) :
    (r.next reprStr reprExc e).Consistent ↔ r.Clean e := by
  obtain ⟨call, faults⟩ := e
  cases call
  case close       => exact iff_of_true (consistent_close h) trivial
  case receiveItem => exact consistent_receiveItem_iff h

abbrev Step (reprStr : String → String) (reprExc : PyExc → String) (r : ReceiverState)
    (e : ReceiverCall × Faults) (r' : ReceiverState) : Prop :=
  r' = r.next reprStr reprExc e

theorem consistent_init : init.Consistent :=
  ⟨nofun, nofun⟩

end ReceiverState

open ReceiverState

-- In every sequence of calls, the handles stay consistent exactly if every call without a page can
-- let go of what it has started.
theorem always_consistent_iff (reprStr : String → String) (reprExc : PyExc → String)
    (calls : List (ReceiverCall × Faults)) :
    Trace.Always (Step reprStr reprExc) Consistent .init calls ↔
      Trace.Each (Step reprStr reprExc) Clean .init calls :=
  Trace.always_iff_each (I := fun _ => True) (fun _ _ => trivial)
    (by rintro r e _ rfl - h; exact consistent_next_iff h) trivial consistent_init

-- The login raises, and so does the page when it is closed.
def Faults.sample : Faults
  | .login     => some ⟨.playwrightError, "Timeout"⟩
  | .closePage => some ⟨.playwrightError, "Target closed"⟩
  | _          => none

theorem not_always_consistent :
    ¬∀ (reprStr : String → String) (reprExc : PyExc → String)
      (calls : List (ReceiverCall × Faults)),
      Trace.Always (Step reprStr reprExc) Consistent .init calls := by
  intro h
  let call : ReceiverCall × Faults := (.receiveItem "INV-1" (fun _ => .ok .received), .sample)
  have hc := h id PyExc.msg [call] [call] [] _ rfl (.single rfl)
  exact List.not_mem_nil (hc.page 3 rfl)

end ReceivingApp
