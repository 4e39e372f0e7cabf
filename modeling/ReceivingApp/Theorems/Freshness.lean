import ReceivingApp.Adapters.PortalSource
import ReceivingApp.Lib.Hoare

open Interaction Program

namespace ReceivingApp.Downloads

section Fetch

variable (py : PyStd) (source : PortalSource) (w₀ : Downloads)

-- ### What has happened since the fetch began

abbrev target : ResolvedPath :=
  w₀.resolve source.downloadDir

-- The guard lets the directory pass.
def Accepted (dl : ResolvedPath) : Prop :=
  dl ≠ w₀.home ∧ dl ≠ w₀.root ∧ dl.parent ≠ dl

-- Nothing but exports has been deleted, and only in the download directory.
structure Since (w : Downloads) : Prop where
  resolve : w.resolve = w₀.resolve
  home    : w.home = w₀.home
  root    : w.root = w₀.root
  old     : Drift w₀.dir w.dir
  deleted : ∀ x ∈ w.deleted, x ∈ w₀.deleted ∨
    (x.1 = w₀.target source ∧ w₀.Accepted x.1 ∧ PortalSource.isExport py x.2)

-- The entry is new, or the fetch was not to delete it, or it could not.
def Excused (w : Downloads) (entry : DirEntry) : Prop :=
  entry.fresh ∨ ¬(entry.isFile ∧ PortalSource.isExport py entry.name) ∨
    (w₀.target source, entry.name) ∈ w.undeleted

-- The directory has been cleared, but for the given names.
structure Cleared (names : List String) (w : Downloads) : Prop where
  since : Since py source w₀ w
  clear : ∀ entry ∈ w.dir (w₀.target source), Excused py source w₀ w entry ∨ entry.name ∈ names

-- The rows are those of an entry that has been read.
structure Fetched (rows : List LineItem) (w : Downloads) : Prop where
  since : Since py source w₀ w
  entry : ∃ entry ∈ w.read, parseOnOrderCsv entry.table = .ok rows ∧ Excused py source w₀ w entry ∧
    (entry.fresh ∨ entry ∈ w₀.dir (w₀.target source)) ∧
    ∃ keyword ∈ ["serial-number-inventory", ".csv"], PortalSource.isDownload py keyword entry.name

variable {py source w₀} {w w' : Downloads} {names : List String} {name : String}

-- ### Calls that leave the files alone

-- Others have changed directories, and something has been done to browsers.
def Aside (w w' : Downloads) : Prop :=
  ∃ dir browsers, Drift w.dir dir ∧ w' = { w with dir, browsers }

def IsAside (β : Type) : SourceCall β → Prop
  | .unlink _ _ | .readCsv _ _ => False
  | _                          => True

theorem Quiet.aside {browsers : List Browser} (h : Quiet { w with browsers } w') : Aside w w' := by
  obtain ⟨dir, hd, rfl⟩ := h
  exact ⟨dir, browsers, hd, rfl⟩

theorem aside_of_answers {β : Type} {op : SourceCall β} {r : Except SourceExc β}
    (ha : IsAside β op) (he : Answers β op w r w') : Aside w w' := by
  cases op
  case unlink | readCsv => cases ha
  case resolve | home | root | iterdir | isFile => exact he.2.aside
  case mkdir | sleep => exact Quiet.aside he
  case buildDriver =>
    cases r
    case ok    => have ⟨_, _, _, hq⟩ := he; exact hq.aside
    case error => exact Quiet.aside he
  case drive =>
    have ⟨_, hq, _⟩ := he
    exact hq.aside
  case isSelected => exact he.1.aside

theorem Drift.trans {dir₁ dir₂ dir₃ : ResolvedPath → List DirEntry} (h : Drift dir₁ dir₂)
    (h' : Drift dir₂ dir₃) : Drift dir₁ dir₃ := by
  intro dl entry he
  rcases h' dl entry he with hf | he
  case inl => exact .inl hf
  case inr => exact h dl entry he

theorem Since.aside (h : Since py source w₀ w) (ha : Aside w w') : Since py source w₀ w' := by
  obtain ⟨dir, browsers, hd, rfl⟩ := ha
  exact { h with old := h.old.trans hd }

theorem Cleared.aside (h : Cleared py source w₀ names w) (ha : Aside w w') :
    Cleared py source w₀ names w' := by
  refine ⟨h.since.aside ha, ?_⟩
  obtain ⟨dir, browsers, hd, rfl⟩ := ha
  intro entry he
  rcases hd _ entry he with hf | he
  case inl => exact .inl (.inl hf)
  case inr => exact h.clear entry he

theorem Fetched.aside {rows : List LineItem} (h : Fetched py source w₀ rows w) (ha : Aside w w') :
    Fetched py source w₀ rows w' := by
  refine ⟨h.since.aside ha, ?_⟩
  obtain ⟨dir, browsers, hd, rfl⟩ := ha
  exact h.entry

-- What such calls keep, programs of such calls keep.
theorem wp_aside {α : Type} {p : SourceM α} {F : Downloads → Prop} (hu : p.Uses IsAside)
    (hF : ∀ {w w'}, F w → Aside w w' → F w') (hI : ∀ w, F w → Since py source w₀ w) (h : F w) :
    p.wp Answers (Since py source w₀) (fun _ => F) (fun _ => F) w :=
  wp.frame (fun ha he h => hF h (aside_of_answers ha he)) hI hu h

-- ### Clearing

-- The next name is done with, where the entries of this name are excused.
theorem Cleared.skip (h : Cleared py source w₀ (name :: names) w)
    (hn : ∀ entry ∈ w.dir (w₀.target source), entry.name = name → Excused py source w₀ w entry) :
    Cleared py source w₀ names w where
  since := h.since
  clear entry he := by
    rcases h.clear entry he with hx | hm
    case inl => exact .inl hx
    case inr =>
      rcases List.mem_cons.mp hm with heq | hm
      case inl => exact .inl (hn entry he heq)
      case inr => exact .inr hm

theorem Since.delete {dir : ResolvedPath → List DirEntry} (h : Since py source w₀ w)
    (hd : Drift w.dir dir) (hdl : w₀.Accepted (w₀.target source))
    (hx : PortalSource.isExport py name) :
    Since py source w₀
      { w with dir, deleted := w.deleted ++ [(w₀.target source, name)] } := by
  refine { h with old := h.old.trans hd, deleted := fun x hm => ?_ }
  rcases List.mem_append.mp hm with hm | hm
  case inl => exact h.deleted x hm
  case inr =>
    obtain rfl := List.mem_singleton.mp hm
    exact .inr ⟨rfl, hdl, hx⟩

theorem Cleared.delete {dir : ResolvedPath → List DirEntry}
    (h : Cleared py source w₀ (name :: names) w) (hdl : w₀.Accepted (w₀.target source))
    (hx : PortalSource.isExport py name) (hd : Drift w.dir dir)
    (hgone : ∀ entry ∈ dir (w₀.target source), entry.fresh ∨ entry.name ≠ name) :
    Cleared py source w₀ names
      { w with dir, deleted := w.deleted ++ [(w₀.target source, name)] } := by
  have hlogged : Cleared py source w₀ (name :: names)
      { w with dir, deleted := w.deleted ++ [(w₀.target source, name)] } := by
    refine ⟨h.since.delete hd hdl hx, fun entry he => ?_⟩
    rcases hd _ entry he with hf | he
    case inl => exact .inl (.inl hf)
    case inr => exact h.clear entry he
  exact hlogged.skip fun entry he hn => .inl ((hgone entry he).resolve_right (not_not.mpr hn))

theorem Cleared.giveUp (h : Cleared py source w₀ (name :: names) w) :
    Cleared py source w₀ names
      { w with undeleted := w.undeleted ++ [(w₀.target source, name)] } := by
  have hlogged : Cleared py source w₀ (name :: names)
      { w with undeleted := w.undeleted ++ [(w₀.target source, name)] } :=
    ⟨{ h.since with }, fun entry he => (h.clear entry he).imp_left fun hx =>
      hx.imp_right fun hx => hx.imp_right (List.mem_append_left _)⟩
  exact hlogged.skip fun _ _ hn => .inr (.inr (by simp [hn]))

theorem clear_wp (hdl : w₀.Accepted (w₀.target source))
    (h : Cleared py source w₀ (name :: names) w) :
    (PortalSource.clear py (w₀.target source) name).wp Answers (Since py source w₀)
      (fun _ => Cleared py source w₀ names) (fun _ => Since py source w₀) w := by
  refine .bind <| .perform h.since ?isFile ?noAnswer
  case noAnswer =>
    intro e w' he
    exact ⟨h.since.aside he.2.aside, h.since.aside he.2.aside⟩
  case isFile =>
    intro isFile w' he
    have ha : Aside w w' := he.2.aside
    refine ⟨h.since.aside ha, ?_⟩
    split
    case isFalse hc =>
      -- What goes by the name in `w` is no export, or no file.
      have hskipped : Cleared py source w₀ names w := by
        refine h.skip fun entry hm hn => .inr (.inl fun ⟨hf, hx⟩ => hc ⟨?_, hn ▸ hx⟩)
        rw [he.1 isFile rfl, List.any_eq_true]
        exact ⟨entry, hm, decide_eq_true ⟨hn, hf⟩⟩
      have hdone : Cleared py source w₀ names w' := hskipped.aside ha
      exact ⟨hdone.since, hdone⟩
    case isTrue hc =>
      have h' : Cleared py source w₀ (name :: names) w' := h.aside ha
      refine .tryCatch <| .perform h'.since ?deleted ?kept
      case deleted =>
        rintro _ _ ⟨dir, hd, hgone, rfl⟩
        have hdone := h'.delete hdl hc.2 hd hgone
        exact ⟨hdone.since, hdone⟩
      case kept =>
        intro e w'' hq
        have hdone : Cleared py source w₀ names w'' := h'.giveUp.aside (Quiet.aside hq)
        refine ⟨hdone.since, ?_⟩
        cases e
        case osError => exact ⟨hdone.since, hdone⟩
        all_goals exact ⟨hdone.since, hdone.since⟩

-- ### The steps of a fetch

theorem uses_wrapSource {α : Type} {p : SourceM α} {msg : String} (h : p.Uses IsAside) :
    (wrapSource msg p).Uses IsAside := by
  refine .tryCatch h fun e => ?_
  cases e <;> exact .throw _

theorem uses_drive {driver : Nat} {c : DriverCall} :
    Uses IsAside (perform (.drive driver c) : SourceM Unit) :=
  .perform trivial

theorem uses_sleep {secs : Nat} : Uses IsAside (perform (.sleep secs) : SourceM Unit) :=
  .perform trivial

theorem uses_login {driver : Nat} : (source.login driver).Uses IsAside := by
  have hprompt : Uses IsAside (PortalSource.dismissPrompt driver) := by
    refine .tryCatch (.bind uses_drive fun _ => .bind uses_drive fun _ => uses_sleep) fun e => ?_
    cases e
    case timeoutException => exact .pure _
    all_goals exact .throw _
  exact uses_wrapSource <| .bind uses_drive fun _ => .bind uses_sleep fun _ =>
    .bind uses_drive fun _ => .bind uses_drive fun _ => .bind uses_drive fun _ =>
    .bind uses_drive fun _ => .bind uses_sleep fun _ => hprompt

theorem uses_setFilter {driver : Nat} {checkbox : Element} {value : Bool} {settleSecs : Nat} :
    Uses IsAside (PortalSource.setFilter driver checkbox value settleSecs) := by
  refine .bind uses_drive fun _ => .bind (.perform trivial) fun selected => ?_
  split
  · exact .bind uses_drive fun _ => uses_sleep
  · exact .pure _

theorem uses_applyOnOrderFilter {driver : Nat} :
    (source.applyOnOrderFilter driver).Uses IsAside :=
  uses_wrapSource <| .bind uses_drive fun _ => .bind uses_sleep fun _ =>
    .bind uses_setFilter fun _ => uses_setFilter

theorem uses_triggerExport {driver : Nat} : Uses IsAside (PortalSource.triggerExport driver) :=
  uses_wrapSource <| .bind uses_drive fun _ => uses_drive

theorem guardDownloadDir_wp {repr : String → String} {dl : ResolvedPath}
    (h : Since py source w₀ w) :
    (PortalSource.guardDownloadDir repr dl).wp Answers (Since py source w₀)
      (fun _ w => Since py source w₀ w ∧ w₀.Accepted dl) (fun _ => Since py source w₀) w := by
  refine .bind <| .perform h (fun home w' he => ?_) (fun e w' he => ?_)
  case refine_2 => exact ⟨h.aside he.2.aside, h.aside he.2.aside⟩
  have h₁ := h.aside he.2.aside
  refine ⟨h₁, .bind <| .perform h₁ (fun root w'' he' => ?_) (fun e w'' he' => ?_)⟩
  case refine_2 => exact ⟨h₁.aside he'.2.aside, h₁.aside he'.2.aside⟩
  have h₂ := h₁.aside he'.2.aside
  refine ⟨h₂, ?_⟩
  obtain rfl : home = w₀.home := (he.1 home rfl).trans h.home
  obtain rfl : root = w₀.root := (he'.1 root rfl).trans h₁.root
  split
  case isTrue => exact ⟨h₂, h₂⟩
  case isFalse hc =>
    have ⟨hhome, hrest⟩ := not_or.mp hc
    have ⟨hroot, hparent⟩ := not_or.mp hrest
    exact ⟨h₂, h₂, hhome, hroot, hparent⟩

theorem listDir_wp {dl : ResolvedPath} (h : Cleared py source w₀ names w) :
    (PortalSource.listDir dl).wp Answers (Since py source w₀)
      (fun _ => Cleared py source w₀ names) (fun _ => Cleared py source w₀ names) w := by
  refine wp_aside (.tryCatch (.perform trivial) fun e => ?_) Cleared.aside (fun _ h => h.since) h
  cases e <;> exact .throw _

-- What is found has been looked for.
theorem pollDir_wp {dl : ResolvedPath} {keyword : String} {n : Nat}
    (h : Cleared py source w₀ names w) :
    (PortalSource.pollDir py dl keyword n).wp Answers (Since py source w₀)
      (fun found w => Cleared py source w₀ names w ∧
        ∀ name ∈ found, PortalSource.isDownload py keyword name)
      (fun _ => Cleared py source w₀ names) w := by
  induction n generalizing w
  case zero => exact ⟨h.since, h, nofun⟩
  case succ n ih =>
    refine .bind <| (listDir_wp h).mono (fun listed w _ h => ?_) (fun _ _ _ h => h)
    split
    case h_1 name _ hf =>
      have hm : name ∈ listed.filter (PortalSource.isDownload py keyword) := by simp [hf]
      refine ⟨h.since, h, fun name' hn => ?_⟩
      obtain rfl := Option.some.inj hn
      exact (List.mem_filter.mp hm).2
    case h_2 =>
      refine .bind <| (wp_aside uses_sleep Cleared.aside (fun _ h => h.since) h).mono
        (fun _ w _ h => ih h) (fun _ _ _ h => h)

theorem waitForCsv_wp {dl : ResolvedPath} (h : Cleared py source w₀ names w) :
    (PortalSource.waitForCsv py dl).wp Answers (Since py source w₀)
      (fun name w => Cleared py source w₀ names w ∧
        ∃ keyword ∈ ["serial-number-inventory", ".csv"], PortalSource.isDownload py keyword name)
      (fun _ => Cleared py source w₀ names) w := by
  refine .bind <| (pollDir_wp h).mono (fun found w _ h => ?_) (fun _ _ _ h => h)
  cases found
  case some name => exact ⟨h.1.since, h.1, _, by simp, h.2 name rfl⟩
  case none =>
    refine .bind <| (pollDir_wp h.1).mono (fun found w _ h => ?_) (fun _ _ _ h => h)
    cases found
    case some name => exact ⟨h.1.since, h.1, _, by simp, h.2 name rfl⟩
    case none      => exact ⟨h.1.since, h.1⟩

theorem parseCsv_wp (h : Cleared py source w₀ [] w)
    (hn : ∃ keyword ∈ ["serial-number-inventory", ".csv"],
      PortalSource.isDownload py keyword name) :
    (PortalSource.parseCsv (w₀.target source) name).wp Answers (Since py source w₀)
      (Fetched py source w₀) (fun _ => Since py source w₀) w := by
  refine .tryCatch <| .bind <| .perform h.since ?read ?noAnswer
  case noAnswer =>
    intro e w' hq
    have h' := h.since.aside (Quiet.aside hq)
    refine ⟨h', ?_⟩
    cases e <;> exact ⟨h', h'⟩
  case read =>
    rintro table w' ⟨entry, he, rfl, rfl, hq⟩
    have hread : Since py source w₀ { w with read := w.read ++ [entry] } := { h.since with }
    have h' := hread.aside (Quiet.aside hq)
    refine ⟨h', ?_⟩
    split
    case h_2 => exact ⟨h', h', h'⟩
    case h_1 rows hrows =>
      have hfetched : Fetched py source w₀ rows { w with read := w.read ++ [entry] } := by
        refine ⟨hread, entry, by simp, hrows, ?_, h.since.old _ entry he, hn⟩
        exact (h.clear entry he).resolve_right (List.not_mem_nil)
      exact ⟨h', hfetched.aside (Quiet.aside hq)⟩

theorem scrape_wp {driver : Nat} (h : Cleared py source w₀ [] w) :
    (source.scrape py (w₀.target source) driver).wp Answers (Since py source w₀)
      (Fetched py source w₀) (fun _ => Since py source w₀) w := by
  have haside {α : Type} {p : SourceM α} {f : α → SourceM (List LineItem)} {w : Downloads}
      (hu : p.Uses IsAside) (h : Cleared py source w₀ [] w)
      (hf : ∀ a w, Cleared py source w₀ [] w → (f a).wp Answers (Since py source w₀)
        (Fetched py source w₀) (fun _ => Since py source w₀) w) :
      (p >>= f).wp Answers (Since py source w₀) (Fetched py source w₀)
        (fun _ => Since py source w₀) w :=
    .bind <| (wp_aside hu Cleared.aside (fun _ h => h.since) h).mono (fun a w _ h => hf a w h)
      (fun _ _ _ h => h.since)
  refine .tryCatch <| (haside uses_login h fun _ w h =>
    haside uses_applyOnOrderFilter h fun _ w h =>
      haside uses_triggerExport h fun _ w h => ?_).mono (fun _ _ _ h => h) (fun e w _ h => ?_)
  · exact .bind <| (waitForCsv_wp h).mono (fun _ w _ h => parseCsv_wp h.1 h.2)
      (fun _ _ _ h => h.since)
  · cases e <;> exact ⟨h, h⟩

theorem fetchAll_wp {repr : String → String} :
    (source.fetchAll py repr).wp Answers (Since py source w₀) (Fetched py source w₀)
      (fun _ => Since py source w₀) w₀ := by
  have hstart : Since py source w₀ w₀ := ⟨rfl, rfl, rfl, fun _ _ => .inr, fun _ => .inl⟩
  refine .bind <| .perform hstart (fun dl w he => ?_) (fun e w he => ?_)
  case refine_2 => exact ⟨hstart.aside he.2.aside, hstart.aside he.2.aside⟩
  have h := hstart.aside he.2.aside
  obtain rfl : dl = w₀.target source := he.1 dl rfl
  refine ⟨h, .bind <| (guardDownloadDir_wp h).mono (fun _ w _ h => ?_) (fun _ _ _ h => h)⟩
  have ⟨h, hdl⟩ := h
  have hmkdir : Uses IsAside (perform (.mkdir (w₀.target source)) : SourceM Unit) :=
    .perform trivial
  refine .bind <| (wp_aside hmkdir Since.aside (fun _ => id) h).mono (fun _ w _ h => ?_)
    (fun _ _ _ h => h)
  refine .bind <| .perform h (fun names w' he => ?_) (fun e w' he => ?_)
  case refine_2 => exact ⟨h.aside he.2.aside, h.aside he.2.aside⟩
  have hlisted : Cleared py source w₀ names w := by
    refine ⟨h, fun entry hm => .inr ?_⟩
    exact (he.1 names rfl).mem_iff.mpr (List.mem_map_of_mem hm)
  have h := hlisted.aside he.2.aside
  refine ⟨h.since, .bind <| (wp.foldlM (J := fun names _ => Cleared py source w₀ names)
    (fun name names _ w h => clear_wp hdl h) h (fun _ _ h => h.since)).mono
    (fun _ w _ h => ?_) (fun _ _ _ h => h)⟩
  have hlaunch : Uses IsAside (PortalSource.launch (w₀.target source)) := by
    refine .tryCatch (.perform trivial) fun e => ?_
    cases e <;> exact .throw _
  refine .bind <| (wp_aside hlaunch Cleared.aside (fun _ h => h.since) h).mono
    (fun driver w _ h => ?_) (fun _ _ _ h => h.since)
  refine .withFinally <| (scrape_wp h).mono (fun rows w _ h => ?_) (fun e w _ h => ?_)
  · exact (wp_aside uses_drive Fetched.aside (fun _ h => h.since) h).mono (fun _ _ _ h => h)
      (fun _ _ _ h => h.since)
  · exact wp_aside uses_drive Since.aside (fun _ => id) h

end Fetch

-- Whatever else goes on in the directories, and whichever calls fail: a fetch deletes nothing but
-- exports, and only in a download directory that the guard accepts. The rows it returns are those
-- of a file that has appeared since it began, or of one that it was not to delete or could not.
theorem rows_fresh {py : PyStd} {repr : String → String} {source : PortalSource}
    {w w' : Downloads} {q : SourceM (List LineItem)}
    (hs : Steps Answers w (source.fetchAll py repr) w' q) :
    (∀ x ∈ w'.deleted, x ∈ w.deleted ∨ (x.1 = w.resolve source.downloadDir ∧
      x.1 ≠ w.home ∧ x.1 ≠ w.root ∧ x.1.parent ≠ x.1 ∧ PortalSource.isExport py x.2)) ∧
    ∀ rows, q = .pure rows → ∃ entry ∈ w'.read, parseOnOrderCsv entry.table = .ok rows ∧
      (entry.fresh ∨ (entry ∈ w.dir (w.resolve source.downloadDir) ∧
        (¬(entry.isFile ∧ PortalSource.isExport py entry.name) ∨
          (w.resolve source.downloadDir, entry.name) ∈ w'.undeleted))) ∧
      ∃ keyword ∈ ["serial-number-inventory", ".csv"],
        PortalSource.isDownload py keyword entry.name := by
  refine ⟨fun x hx => ?_, ?_⟩
  · exact ((fetchAll_wp.invariant hs).deleted x hx).imp_right fun ⟨he, ⟨hh, hr, hp⟩, hx⟩ =>
      ⟨he, hh, hr, hp, hx⟩
  · rintro rows rfl
    obtain ⟨entry, hm, hrows, hx, hold, hname⟩ := (fetchAll_wp.returns hs).entry
    refine ⟨entry, hm, hrows, ?_, hname⟩
    rcases hold with hf | hold
    case inl => exact .inl hf
    case inr => exact hx.imp_right fun hx => ⟨hold, hx⟩

-- ### A fetch in a directory with an old export

def sampleDir : ResolvedPath := ⟨"", "/", ["data", "downloads"]⟩

def sampleTable (inventoryId : String) : List (List String) :=
  [["Inventory Id", "PO #", "Model"], [inventoryId, "101", "A"]]

def sampleExport (inventoryId : String) (fresh : Bool) : DirEntry :=
  ⟨"serial-number-inventory-" ++ inventoryId ++ ".csv", true, sampleTable inventoryId, fresh⟩

def sample : Downloads where
  resolve _ := sampleDir
  home      := ⟨"", "/", ["home"]⟩
  root      := ⟨"", "/", []⟩
  dir dl    :=
    if dl = sampleDir then [sampleExport "7" false, ⟨"notes.txt", true, [], false⟩] else []
  browsers  := []
  deleted   := []
  undeleted := []
  read      := []

-- The portal shows open items until they are unchecked, and no prompt. It knows a user of any name
-- but the empty one.
def answer (w : Downloads) (driver : Nat) (b : Browser) (c : DriverCall) :
    Except SourceExc Unit × Downloads :=
  let put (b : Browser) := { w with browsers := w.browsers.set driver b }
  match c with
  | .get _          => (.ok (), put { b with openItems := true, onOrder := false })
  | .await _ 5      => (.error .timeoutException, w)
  | .sendKeys _ ""  => (.error .other, w)
  | .quit           => (.ok (), put { b with state := .quit })
  | .executeClick e =>
    let w := put (b.toggle e)
    (.ok (), if e = exportButton then
      { w with dir := fun dl => w.dir dl ++ [sampleExport "8" true] } else w)
  | _               => (.ok (), w)

def play : Handler SourceCall SourceExc Downloads := fun
  | _, .resolve path, w              => (.ok (w.resolve path), w)
  | _, .home, w                      => (.ok w.home, w)
  | _, .root, w                      => (.ok w.root, w)
  | _, .mkdir _, w                   => (.ok (), w)
  | _, .iterdir dl, w                => (.ok ((w.dir dl).map (·.name)), w)
  | _, .isFile dl name, w            =>
    (.ok ((w.dir dl).any (fun entry => entry.name = name ∧ entry.isFile)), w)
  | _, .unlink dl name, w            => (.ok (), { w with
      dir dl'  := if dl' = dl then (w.dir dl).filter (fun entry => entry.name ≠ name) else w.dir dl'
      deleted := w.deleted ++ [(dl, name)]
    })
  | _, .readCsv dl name, w           =>
    match (w.dir dl).find? (fun entry => entry.name = name) with
    | some entry => (.ok entry.table, { w with read := w.read ++ [entry] })
    | none       => (.error .osError, w)
  | _, .buildDriver _, w             =>
    (.ok w.browsers.length, { w with browsers := w.browsers ++ [⟨.running, true, false⟩] })
  | _, .drive driver c, w            =>
    match w.browsers[driver]? with
    | some b => w.answer driver b c
    | none   => (.ok (), w)
  | _, .isSelected driver element, w =>
    (.ok ((w.browsers[driver]?).any (·.selected element)), w)
  | _, .sleep _, w                   => (.ok (), w)

theorem drift_refl (dir : ResolvedPath → List DirEntry) : Drift dir dir :=
  fun _ _ => .inr

theorem quiet_refl (w : Downloads) : Quiet w w :=
  ⟨w.dir, drift_refl _, rfl⟩

theorem drift_append (dir : ResolvedPath → List DirEntry) {entry : DirEntry}
    (h : entry.fresh) : Drift dir (fun dl => dir dl ++ [entry]) := by
  intro dl entry' he
  rcases List.mem_append.mp he with he | he
  case inl => exact .inr he
  case inr => exact .inl (List.mem_singleton.mp he ▸ h)

theorem answers_answer {w : Downloads} {driver : Nat} {b : Browser} (c : DriverCall)
    (hb : w.browsers[driver]? = some b) :
    Answers Unit (.drive driver c) w (w.answer driver b c).1 (w.answer driver b c).2 := by
  have hsome {b₁ : Browser} (h : b₁ ∈ w.browsers[driver]?) : b = b₁ :=
    Option.some.inj (hb.symm.trans h)
  have hset : w.browsers.set driver b = w.browsers := by
    obtain ⟨hlt, rfl⟩ := List.getElem?_eq_some_iff.mp hb
    exact List.set_getElem_self hlt
  unfold answer
  dsimp only
  split
  case h_1 =>
    refine ⟨_, quiet_refl _, fun b₁ h₁ hrun => ?_⟩
    obtain rfl := hsome h₁
    exact ⟨{ b with openItems := true, onOrder := false }, hrun, rfl⟩
  case h_4 =>
    refine ⟨_, quiet_refl _, fun b₁ h₁ _ => ?_⟩
    obtain rfl := hsome h₁
    exact ⟨_, rfl, rfl⟩
  case h_5 e =>
    have hafter {r : Except SourceExc Unit} (hr : r = .ok ()) : ∀ b₁ ∈ w.browsers[driver]?,
        b₁.state = .running → ∃ b', b₁.After (.executeClick e) r b' ∧
          w.browsers.set driver (b.toggle e) = w.browsers.set driver b' := by
      intro b₁ h₁ _
      obtain rfl := hsome h₁
      subst hr
      exact ⟨_, rfl, rfl⟩
    split
    case isTrue  => exact ⟨_, ⟨_, drift_append _ rfl, rfl⟩, hafter rfl⟩
    case isFalse => exact ⟨_, quiet_refl _, hafter rfl⟩
  case h_2 | h_3 =>
    refine ⟨_, quiet_refl _, fun b₁ h₁ hrun => ?_⟩
    obtain rfl := hsome h₁
    exact ⟨b, rfl, hset.symm⟩
  case h_6 hget hawait hkeys hquit hclick =>
    refine ⟨_, quiet_refl _, fun b₁ h₁ hrun => ?_⟩
    obtain rfl := hsome h₁
    cases c
    case get          => exact absurd rfl (hget _)
    case executeClick => exact absurd rfl (hclick _)
    case quit         => exact absurd rfl hquit
    case click        => exact ⟨b, hrun, hset.symm⟩
    all_goals exact ⟨b, rfl, hset.symm⟩

theorem answers_play (β : Type) (op : SourceCall β) (w : Downloads) :
    Answers β op w (play β op w).1 (play β op w).2 := by
  cases op
  case drive driver c =>
    simp only [play]
    split
    case h_1 b hb => exact answers_answer c hb
    case h_2 hn =>
      refine ⟨w.browsers, quiet_refl w, fun b hb => ?_⟩
      rw [hn] at hb
      cases hb
  case resolve | home | root =>
    exact ⟨fun _ h => (Except.ok.inj h).symm, quiet_refl w⟩
  case mkdir | sleep => exact quiet_refl w
  case iterdir => exact ⟨fun names h => Except.ok.inj h ▸ .refl _, quiet_refl w⟩
  case isFile => exact ⟨fun _ h => (Except.ok.inj h).symm, quiet_refl w⟩
  case unlink dl name =>
    refine ⟨_, fun dl' entry he => ?_, fun entry he => ?_, rfl⟩
    · split at he
      case isTrue hd => exact .inr (hd ▸ List.mem_of_mem_filter he)
      case isFalse   => exact .inr he
    · rw [if_pos rfl] at he
      exact .inr (by simpa using (List.mem_filter.mp he).2)
  case readCsv dl name =>
    simp only [play]
    split
    case h_2 => exact quiet_refl w
    case h_1 entry he =>
      exact ⟨entry, List.mem_of_find?_eq_some he, by simpa using List.find?_some he, rfl,
        quiet_refl _⟩
  case buildDriver => exact ⟨rfl, ⟨.running, true, false⟩, rfl, quiet_refl _⟩
  case isSelected driver element =>
    refine ⟨quiet_refl w, fun b hb _ v hv => ?_⟩
    have hb : w.browsers[driver]? = some b := hb
    rw [← Except.ok.inj hv, hb]
    rfl

def sampleSource (username : String) : PortalSource :=
  ⟨"https://portal", username, "secret", .of "downloads"⟩

def sampleRun : Except SourceExc (List LineItem) × Downloads :=
  ((sampleSource "clerk").fetchAll .ascii id).run play sample

theorem rows_fresh_sample :
    sampleRun.2.deleted = [(sampleDir, "serial-number-inventory-7.csv")] ∧
    ∃ rows, rows.map (·.inventoryId) = [some (some "8")] ∧
      ∃ entry ∈ sampleRun.2.read, parseOnOrderCsv entry.table = .ok rows ∧
        (entry.fresh ∨ (entry ∈ sample.dir sampleDir ∧
          (¬(entry.isFile ∧ PortalSource.isExport .ascii entry.name) ∨
            (sampleDir, entry.name) ∈ sampleRun.2.undeleted))) := by
  have hfetched : sampleRun.1.toOption.map (·.map (·.inventoryId)) = some [some (some "8")] := by
    decide +kernel
  have hs : Steps Answers sample ((sampleSource "clerk").fetchAll .ascii id) sampleRun.2
      (.ofExcept sampleRun.1) :=
    steps_run answers_play _ _
  obtain ⟨rows, hrows, hids⟩ := Option.map_eq_some_iff.mp hfetched
  have hok : sampleRun.1 = .ok rows := by
    generalize sampleRun.1 = r at hrows
    cases r
    case ok    => exact congrArg _ (Option.some.inj hrows)
    case error => cases hrows
  have ⟨entry, hm, hparse, hfresh, _⟩ := (rows_fresh hs).2 rows (congrArg Program.ofExcept hok)
  exact ⟨by decide +kernel, rows, hids, entry, hm, hparse, hfresh⟩

end ReceivingApp.Downloads
