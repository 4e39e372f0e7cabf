import ReceivingApp.Adapters.Spooler
import ReceivingApp.Lib.Custody

open Interaction Program

namespace ReceivingApp

-- ### What a call to print is to leave behind

inductive LabelJob
  | label (today : Date) (record : ReceivingRecord)
  | poLabel (today : Date) (poNumber : String)

namespace LabelJob

def docName : LabelJob → String
  | label _ _   => "ZPL Label"
  | poLabel _ _ => "PO Label"

def zpl : LabelJob → String
  | label today record     => buildZpl today record
  | poLabel today poNumber => buildPoZpl today poNumber

def program (py : PyStd) (repr : String → String) : LabelJob → SpoolM Unit
  | label today record     => ZebraPrinter.printLabel py repr today record
  | poLabel today poNumber => ZebraPrinter.printPoLabel py repr today poNumber

end LabelJob

-- The name of a printer that is searched for.
def IsZebra (py : PyStd) (name : String) : Prop :=
  ∃ term ∈ searchTerms, InName py term name

-- The printers that have been opened by one call to print, by their handles.
abbrev Openings := Cells Nat Opening

namespace Openings

variable {py : PyStd} {job : LabelJob} {H : Openings}

-- One printer has been opened, the label has been written to it once, as one document, and it has
-- been closed.
def Printed (py : PyStd) (job : LabelJob) (H : Openings) : Prop :=
  ∃ h printer, IsZebra py printer ∧ H = .one h ⟨printer, .closed, [(job.docName, [job.zpl])]⟩

-- At most one printer has been opened, and it has been closed. At most the label has been written
-- to it.
def GivenUp (py : PyStd) (job : LabelJob) (H : Openings) : Prop :=
  H = .none ∨ ∃ h printer documents, IsZebra py printer ∧ H = .one h ⟨printer, .closed, documents⟩ ∧
    documents ∈ [[], [(job.docName, [])], [(job.docName, [job.zpl])]]

end Openings

-- The call to print raises nothing but a PrinterError, unless it is told to exit, or the import of
-- the driver fails otherwise than with an ImportError. Then it has not opened a printer.
def SpoolExc.Escapes (H : Openings) : SpoolExc → Prop
  | printerError _ => True
  | importError _  => False
  | other _        => H = Cells.none
  | exit           => True

-- ### The custody of handles

namespace Spooler

-- A printer is only used by the call to print that has opened it, and in the order of the phases.
def custody (py : PyStd) : Custody SpoolCall SpoolExc Nat Opening where
  allows := fun
    | _, .setZebraPrinterName name, _ => name = "" ∨ IsZebra py name
    | _, .openPrinter name, _         => IsZebra py name
    | _, .use h c, H                  => ∃ o, H h = some o ∧ o.Ready c
    | _, _, _                         => True
  after := fun
    | _, .zebraPrinterName, r, H, H'      =>
      H' = H ∧ ∃ found, r = .ok found ∧ ∀ name ∈ found, name = "" ∨ IsZebra py name
    | _, .setZebraPrinterName _, r, H, H' => H' = H ∧ r = .ok ()
    | _, .openPrinter name, r, H, H'      =>
      (∃ h, r = .ok h ∧ H h = none ∧ H' = Function.update H h (some ⟨name, .opened, []⟩)) ∨
      (∃ e, r = .error e ∧ H' = H)
    | _, .use h c, r, H, H'               =>
      ∃ o, H h = some o ∧ ∃ o', H' = Function.update H h (some o') ∧
        ((r = .ok () ∧ o' = o.apply c) ∨ (∃ e, r = .error e ∧ o.Fails c o'))
    | _, _, _, H, H'                      => H' = H

-- The name that is kept is that of a printer that is searched for.
def Named (py : PyStd) (w : Spooler) : Prop :=
  ∀ name ∈ w.printerName, name = "" ∨ IsZebra py name

def cells (w : Spooler) : Openings :=
  .ofList w.openings

variable {py : PyStd}

theorem sound (py : PyStd) : (custody py).Sound Answers (Named py) cells where
  kept {β op w r w' H} he ha hH hI := by
    cases op
    case zebraPrinterName => exact he.2 ▸ hI
    case setZebraPrinterName name =>
      obtain ⟨-, rfl⟩ := he
      intro name' hm
      exact Option.some.inj hm ▸ ha
    case importWin32print | enumPrinters => exact he ▸ hI
    case openPrinter name =>
      obtain ⟨-, rfl⟩ | ⟨e, -, rfl⟩ := he
      case inl | inr => exact hI
    case use h c =>
      obtain ⟨o, ho, hr⟩ := ha
      obtain ⟨o', rfl, -⟩ := he o (hH ho) hr
      exact hI
  change {β op w r w' H} he ha hH hI := by
    cases op
    case zebraPrinterName =>
      obtain ⟨rfl, rfl⟩ := he
      exact ⟨H, ⟨rfl, _, rfl, hI⟩, Custody.Local.refl hH⟩
    case setZebraPrinterName name =>
      obtain ⟨rfl, rfl⟩ := he
      exact ⟨H, ⟨rfl, rfl⟩, Custody.Local.refl hH⟩
    case importWin32print | enumPrinters =>
      obtain rfl : w' = w := he
      exact ⟨H, rfl, Custody.Local.refl hH⟩
    case openPrinter name =>
      obtain ⟨rfl, rfl⟩ | ⟨e, rfl, rfl⟩ := he
      case inl =>
        have ⟨hn, hl⟩ := Custody.Local.append (t := ⟨name, .opened, []⟩) hH
        exact ⟨_, .inl ⟨_, rfl, hn, rfl⟩, hl⟩
      case inr => exact ⟨H, .inr ⟨e, rfl, rfl⟩, Custody.Local.refl hH⟩
    case use h c =>
      obtain ⟨o, ho, hready⟩ := ha
      obtain ⟨o', rfl, hr⟩ := he o (hH ho) hready
      exact ⟨_, ⟨o, ho, o', rfl, hr⟩, Custody.Local.set hH ho⟩

-- ### Calls to print

section Printing

variable {py : PyStd} {name zpl printer : String} {h : Nat} {o : Opening}

theorem keeps_use {c : HandleCall} {Q : Unit → Openings → Prop} {X : SpoolExc → Openings → Prop}
    (hr : o.Ready c) (hok : Q () (Cells.one h (o.apply c)))
    (herr : ∀ e o', o.Fails c o' → X e (Cells.one h o')) :
    (custody py).Keeps (perform (.use h c)) Q X (Cells.one h o) := by
  refine .perform ⟨o, Cells.one_self, hr⟩ ?ok ?err
  case ok =>
    rintro _ _ ⟨o₁, ho, o', rfl, ⟨-, rfl⟩ | ⟨_, ⟨⟩, _⟩⟩
    obtain rfl : o = o₁ := Option.some.inj (Cells.one_self.symm.trans ho)
    rwa [Cells.update_one]
  case err =>
    rintro e _ ⟨o₁, ho, o', rfl, ⟨⟨⟩, _⟩ | ⟨_, ⟨⟩, hf⟩⟩
    obtain rfl : o = o₁ := Option.some.inj (Cells.one_self.symm.trans ho)
    rw [Cells.update_one]
    exact herr e o' hf

-- A page is begun, and at most the label is written to it.
def Partly (name zpl printer : String) (o : Opening) : Prop :=
  (o.phase = .inDoc ∨ o.phase = .inPage) ∧ o.printer = printer ∧
    o.documents ∈ [[], [(name, [])], [(name, [zpl])]]

theorem keeps_spoolPage :
    (custody py).Keeps (spoolPage h zpl)
      (fun _ H => H = Cells.one h ⟨printer, .inDoc, [(name, [zpl])]⟩)
      (fun _ H => ∃ o, H = Cells.one h o ∧ Partly name zpl printer o)
      (Cells.one h ⟨printer, .inDoc, [(name, [])]⟩) := by
  have hpart {o : Opening} (hp : o.phase = .inDoc ∨ o.phase = .inPage) (hn : o.printer = printer)
      (hd : o.documents ∈ [[], [(name, [])], [(name, [zpl])]]) :
      ∃ o', Cells.one h o = Cells.one h o' ∧ Partly name zpl printer o' :=
    ⟨o, rfl, hp, hn, hd⟩
  refine .bind <| keeps_use rfl (.bind <| keeps_use rfl (keeps_use rfl rfl ?endPage) ?write) ?start
  case start =>
    rintro e o' (rfl | rfl)
    · exact hpart (.inl rfl) rfl (by simp)
    · exact hpart (.inr rfl) rfl (by simp [Opening.apply])
  case write =>
    rintro e o' (rfl | rfl)
    · exact hpart (.inr rfl) rfl (by simp [Opening.apply])
    · exact hpart (.inr rfl) rfl (by simp [Opening.apply, Opening.write])
  case endPage =>
    rintro e o' (rfl | rfl)
    · exact hpart (.inr rfl) rfl (by simp [Opening.apply, Opening.write])
    · exact hpart (.inl rfl) rfl (by simp [Opening.apply, Opening.write])

-- The document is ended whatever happens to its page.
theorem keeps_spoolDoc :
    (custody py).Keeps (spoolDoc h name zpl)
      (fun _ H => H = Cells.one h ⟨printer, .opened, [(name, [zpl])]⟩)
      (fun _ H => ∃ documents ∈ [[], [(name, [])], [(name, [zpl])]],
        H = Cells.one h ⟨printer, .opened, documents⟩)
      (Cells.one h ⟨printer, .opened, []⟩) := by
  refine .bind <| keeps_use rfl (.withFinally <| keeps_spoolPage.mono ?page ?noPage) ?start
  case start =>
    rintro e o' rfl
    exact ⟨[], by simp, rfl⟩
  case page =>
    rintro _ _ rfl
    refine keeps_use (.inl rfl) rfl ?_
    rintro e o' rfl
    exact ⟨_, by simp, rfl⟩
  case noPage =>
    rintro _ _ ⟨o, rfl, hp, rfl, hd⟩
    refine keeps_use hp ⟨_, hd, rfl⟩ ?_
    rintro e o' rfl
    exact ⟨_, hd, rfl⟩

theorem keeps_spool {job : LabelJob} (hp : IsZebra py printer) :
    (custody py).Keeps (spool job.docName printer job.zpl)
      (fun _ => Openings.Printed py job) (fun _ => Openings.GivenUp py job) Cells.none := by
  refine .bind <| .perform trivial ?imported fun e H hH => .inl hH
  rintro _ _ rfl
  refine .bind <| .perform hp ?opened ?notOpened
  case notOpened =>
    rintro e H (⟨_, ⟨⟩, _⟩ | ⟨_, _, rfl⟩)
    exact .inl rfl
  case opened =>
    rintro h _ (⟨_, ⟨⟩, -, rfl⟩ | ⟨_, ⟨⟩, _⟩)
    have hclosed {documents : List (String × List String)}
        (hd : documents ∈ [[], [(job.docName, [])], [(job.docName, [job.zpl])]]) :
        Openings.GivenUp py job (Cells.one h ⟨printer, .closed, documents⟩) :=
      .inr ⟨h, printer, documents, hp, rfl, hd⟩
    refine .withFinally <| keeps_spoolDoc.mono ?doc ?noDoc
    case doc =>
      rintro _ _ rfl
      refine keeps_use rfl ⟨h, printer, hp, rfl⟩ ?_
      rintro e o' rfl
      exact hclosed (by simp)
    case noDoc =>
      rintro _ _ ⟨documents, hd, rfl⟩
      refine keeps_use rfl (hclosed hd) ?_
      rintro e o' rfl
      exact hclosed hd

-- ### The search

theorem inName_of_findName {term : String} {names : List (Option String)}
    (h : findName py term names = .ok (some name)) : InName py term name := by
  induction names
  case nil => cases h
  case cons n names ih =>
    cases n
    case none => cases h
    case some n =>
      simp only [findName] at h
      split at h
      case isTrue hin => cases h; exact hin
      case isFalse    => exact ih h

theorem mem_of_searchNames {names : List (Option String)} {terms : List String}
    (h : searchNames py names terms = .ok (some name)) : ∃ term ∈ terms, InName py term name := by
  induction terms
  case nil => cases h
  case cons term terms ih =>
    simp only [searchNames] at h
    cases hf : findName py term names
    case error e => rw [hf] at h; cases h
    case ok found =>
      rw [hf] at h
      cases found
      case some n =>
        cases h
        exact ⟨term, List.mem_cons_self, inName_of_findName hf⟩
      case none =>
        have ⟨t, ht, hn⟩ := ih h
        exact ⟨t, List.mem_cons_of_mem _ ht, hn⟩

theorem keeps_setZebraPrinterName (hn : name = "" ∨ IsZebra py name) :
    (custody py).Keeps (perform (.setZebraPrinterName name) >>= fun _ => .pure name)
      (fun name H => H = Cells.none ∧ (name = "" ∨ IsZebra py name))
      (fun e H => H = Cells.none ∧ e.Escapes H) Cells.none := by
  refine .bind <| .perform hn ?_ ?_
  · rintro _ _ ⟨rfl, -⟩
    exact ⟨rfl, hn⟩
  · rintro e _ ⟨_, ⟨⟩⟩

theorem keeps_enumerate :
    (custody py).Keeps (enumerate py)
      (fun name H => H = Cells.none ∧ (name = "" ∨ IsZebra py name))
      (fun _ H => H = Cells.none) Cells.none := by
  refine .bind <| .perform trivial ?_ (fun e H hH => hH)
  rintro printers _ rfl
  dsimp only
  cases hs : searchNames py (printers.map fun p => p.pPrinterName.getD (some "")) searchTerms
  case error e => exact rfl
  case ok found =>
    cases found
    case none => exact (keeps_setZebraPrinterName (.inl rfl)).mono (fun _ _ h => h) fun _ _ h => h.1
    case some name =>
      exact (keeps_setZebraPrinterName (.inr (mem_of_searchNames hs))).mono (fun _ _ h => h)
        fun _ _ h => h.1

theorem keeps_win32printImported :
    (custody py).Keeps win32printImported (fun _ H => H = Cells.none)
      (fun e H => H = Cells.none ∧ e.Escapes H) Cells.none := by
  refine .tryCatch <| .bind <| .perform trivial (fun _ H hH => hH) (fun e H hH => ?_)
  obtain rfl : H = Cells.none := hH
  cases e
  case importError  => exact rfl
  case printerError => exact ⟨rfl, trivial⟩
  case other        => exact ⟨rfl, rfl⟩
  case exit         => exact ⟨rfl, trivial⟩

theorem keeps_findZebraPrinter :
    (custody py).Keeps (findZebraPrinter py)
      (fun name H => H = Cells.none ∧ (name = "" ∨ IsZebra py name))
      (fun e H => H = Cells.none ∧ e.Escapes H) Cells.none := by
  refine .bind <| .perform trivial ?kept ?noName
  case noName =>
    rintro e _ ⟨_, _, ⟨⟩, _⟩
  case kept =>
    rintro found _ ⟨rfl, _, ⟨⟩, hfound⟩
    cases found
    case some name => exact ⟨rfl, hfound name rfl⟩
    case none =>
      refine .bind <| keeps_win32printImported.mono (fun imported H hH => ?_) (fun _ _ h => h)
      subst hH
      cases imported
      case false => exact keeps_setZebraPrinterName (.inl rfl)
      case true =>
        refine .tryCatch <| keeps_enumerate.mono (fun _ _ h => h) (fun e H hH => ?_)
        cases e
        case printerError | importError | other | exit => exact ⟨hH, trivial⟩

theorem keeps_print {job : LabelJob} {failure : String} :
    (custody py).Keeps (ZebraPrinter.print py job.docName job.zpl failure)
      (fun _ => Openings.Printed py job) (fun e H => Openings.GivenUp py job H ∧ e.Escapes H)
      Cells.none := by
  refine .bind <| keeps_findZebraPrinter.mono (fun printer H hH => ?_)
    (fun e H hH => ⟨.inl hH.1, hH.2⟩)
  obtain ⟨rfl, hp⟩ := hH
  split
  case isTrue => exact ⟨.inl rfl, trivial⟩
  case isFalse hne =>
    refine .tryCatch <| (keeps_spool (hp.resolve_left hne)).mono (fun _ _ h => h) (fun e H hH => ?_)
    cases e
    case printerError | importError | other | exit => exact ⟨hH, trivial⟩

end Printing

-- ### All calls to print

-- Whichever calls of the driver fail, and however the calls to print interleave: every printer has
-- been opened by one of them, which alone uses it, in the order of the phases. A call that returns
-- has printed its label as a document of its own. One that raises has printed no more than that,
-- and has left nothing open.
theorem labels_spooled {ι : Type} [DecidableEq ι] (py : PyStd) (repr : String → String)
    (jobs : ι → LabelJob) {w : Spooler} {P : ι → SpoolM Unit}
    (hs : Pool.Steps Answers (⟨none, []⟩, fun i => (jobs i).program py repr) (w, P)) :
    ∃ opened : ι → Openings,
      (∀ h o, w.openings[h]? = some o ↔ ∃ i, opened i h = some o) ∧
      (∀ i j h, (opened i h).isSome → (opened j h).isSome → i = j) ∧
      ∀ i, match P i with
        | .pure _            => (opened i).Printed py (jobs i)
        | .throw e           => (opened i).GivenUp py (jobs i) ∧ e.Escapes (opened i)
        | .call (.use h c) _ => ∃ o, opened i h = some o ∧ o.Ready c
        | .call _ _          => True := by
  have hfresh : Custody.Shared (cells ⟨none, []⟩) (fun _ : ι => Cells.none) :=
    ⟨nofun, nofun, nofun⟩
  have hkeeps (i : ι) : (custody py).Keeps ((jobs i).program py repr)
      (fun _ => Openings.Printed py (jobs i))
      (fun e H => Openings.GivenUp py (jobs i) H ∧ e.Escapes H) Cells.none := by
    cases jobs i
    case label today record     => exact @keeps_print py (.label today record) _
    case poLabel today poNumber => exact @keeps_print py (.poLabel today poNumber) _
  have ⟨_, opened, hshared, hQ⟩ := (sound py).steps hs nofun hfresh hkeeps
  refine ⟨opened, fun _ _ => hshared.eq_some_iff, fun _ _ _ => hshared.apart, fun i => ?_⟩
  have hi : (custody py).Keeps (P i) _ _ (opened i) := hQ i
  generalize P i = q at hi ⊢
  cases q
  case pure | throw => exact hi
  case call op k =>
    cases op
    case use h c => exact hi.1
    all_goals trivial

-- ### Two labels at a time

-- The surroundings in which the first page of the second printer that is opened gets stuck.
def play : Handler SpoolCall SpoolExc Spooler := fun
  | _, .zebraPrinterName, w         => (.ok w.printerName, w)
  | _, .setZebraPrinterName name, w => (.ok (), { w with printerName := some name })
  | _, .importWin32print, w         => (.ok (), w)
  | _, .enumPrinters, w             => (.ok [⟨none⟩, ⟨some (some "Zebra ZP 450-200dpi")⟩], w)
  | _, .openPrinter name, w         =>
    (.ok w.openings.length, { w with openings := w.openings ++ [⟨name, .opened, []⟩] })
  | _, .use h c, w                  =>
    match w.openings[h]? with
    | none   => (.ok (), w)
    | some o =>
      if h = 1 ∧ c = .endPagePrinter then (.error (.other "out of paper"), w)
      else (.ok (), { w with openings := w.openings.set h (o.apply c) })

theorem answers_play (β : Type) (op : SpoolCall β) (w : Spooler) :
    Answers β op w (play β op w).1 (play β op w).2 := by
  cases op
  case zebraPrinterName | setZebraPrinterName => exact ⟨rfl, rfl⟩
  case importWin32print | enumPrinters        => rfl
  case openPrinter                            => exact .inl ⟨rfl, rfl⟩
  case use h c =>
    intro o ho _
    have ho : w.openings[h]? = some o := ho
    simp only [play, ho]
    split
    case isTrue hc =>
      obtain ⟨hlt, rfl⟩ := List.getElem?_eq_some_iff.mp ho
      refine ⟨_, by rw [List.set_getElem_self hlt], .inr ⟨_, rfl, ?_⟩⟩
      rw [hc.2]
      exact .inl rfl
    case isFalse => exact ⟨_, rfl, .inl ⟨rfl, rfl⟩⟩

def twoLabels (second : Bool) : LabelJob :=
  .poLabel ⟨2026, 6, 19⟩ (if second then "102" else "101")

-- The two calls take turns. Both find that no printer has been searched for yet.
def twoPlayed : Option (Spooler × (Bool → SpoolM Unit)) :=
  Pool.play play (fun _ _ _ => true) (List.replicate 12 [false, true]).flatten
    (⟨none, []⟩, fun second => (twoLabels second).program .ascii id)

def seen (c : Spooler × (Bool → SpoolM Unit)) : List Opening × Option Unit × Option Unit :=
  (c.1.openings, (c.2 false).value, (c.2 true).value)

theorem labels_spooled_sample :
    ∃ (w : Spooler) (P : Bool → SpoolM Unit) (opened : Bool → Openings),
      seen (w, P) =
        ([⟨"Zebra ZP 450-200dpi", .closed, [("PO Label", [(twoLabels false).zpl])]⟩,
          ⟨"Zebra ZP 450-200dpi", .closed, [("PO Label", [(twoLabels true).zpl])]⟩],
          some (), none) ∧
      (∀ h o, w.openings[h]? = some o ↔ ∃ i, opened i h = some o) ∧
      (opened false).Printed .ascii (twoLabels false) := by
  have hplayed : twoPlayed.map seen = some
      ([⟨"Zebra ZP 450-200dpi", .closed, [("PO Label", [(twoLabels false).zpl])]⟩,
        ⟨"Zebra ZP 450-200dpi", .closed, [("PO Label", [(twoLabels true).zpl])]⟩],
        some (), none) := by
    decide +kernel
  have ⟨⟨w, P⟩, hplay, hseen⟩ := Option.map_eq_some_iff.mp hplayed
  have hs := (Pool.steps_play answers_play hplay).mono And.left
  have ⟨opened, hall, _, hi⟩ := labels_spooled .ascii id twoLabels hs
  have hP : P false = .pure () := eq_pure_of_value (congrArg (fun s => s.2.1) hseen)
  have hfirst := hi false
  rw [hP] at hfirst
  exact ⟨w, P, opened, hseen, hall, hfirst⟩

end Spooler
end ReceivingApp
