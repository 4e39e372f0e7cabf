import ReceivingApp.Adapters.World

open Interaction

namespace ReceivingApp

-- The world the scanner application works on, and the labels its printer has put out.
structure Desk where
  world    : World
  labels   : List ReceivingRecord
  poLabels : List String

namespace Desk

def print {β : Type} : PrinterCall β → Desk → Desk
  | .printLabel record, d     => { d with labels := d.labels ++ [record] }
  | .printPoLabel poNumber, d => { d with poLabels := d.poLabels ++ [poNumber] }

def printed : ∀ {β : Type}, PrinterCall β → β
  | _, .printLabel _   => ()
  | _, .printPoLabel _ => ()

-- A printer may fail with the given exceptions. Where it does, the label may be out or not.
def Answers (fails : PyExc → Prop) : Program.Env ScannerCall PyExc Desk := fun
  | _, .inl op, d, r, d' => ∃ w, World.env _ op d.world r w ∧ d' = { d with world := w }
  | _, .inr op, d, r, d' =>
    (r = .ok (printed op) ∧ d' = d.print op) ∨
    (∃ e, fails e ∧ r = .error e ∧ (d' = d ∨ d' = d.print op))

-- The surroundings in which nothing fails but the printer, unless it works.
def handle (works : Bool) : Program.Handler ScannerCall PyExc Desk := fun
  | _, .inl op, d =>
    let (r, w) := World.handle _ op d.world
    (r, { d with world := w })
  | _, .inr op, d =>
    if works then (.ok (printed op), d.print op)
    else (.error ⟨.printerError, "printer not found"⟩, d)

theorem answers_handle (works : Bool) (fails : PyExc → Prop)
    (h : works = false → ∀ msg, fails ⟨.printerError, msg⟩) (β : Type) (op : ScannerCall β)
    (d : Desk) : Answers fails β op d (handle works β op d).1 (handle works β op d).2 := by
  cases op
  case inl op => exact ⟨_, .done op d.world, rfl⟩
  case inr op =>
    cases works
    case true  => exact .inl ⟨rfl, rfl⟩
    case false => exact .inr ⟨_, h rfl _, rfl, .inl rfl⟩

end Desk
end ReceivingApp
