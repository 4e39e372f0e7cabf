import ReceivingApp.Adapters.Factories
import ReceivingApp.Adapters.Ui.ScannerUi

namespace ReceivingApp

-- A scanner is an entry with its text, and whether a callback is registered.
structure Scanner where
  text   : String
  onScan : Bool
  deriving DecidableEq, Repr

namespace Scanner

def init : Scanner :=
  ⟨"", false⟩

def start (s : Scanner) : Scanner :=
  { s with onScan := true }

def stop (s : Scanner) : Scanner :=
  { s with onScan := false }

-- A character that is typed into the entry.
def type (c : Char) (s : Scanner) : Scanner :=
  { s with text := s.text.push c }

-- The text is cleared, and delivered to the callback if anything is left of it.
def deliver (s : Scanner) : Scanner × Option String :=
  let text := strip s.text
  ({ s with text := "" }, if text ≠ "" ∧ s.onScan then some text else none)

end Scanner

-- `_on_return`
def WedgeScanner.onReturn (s : Scanner) : Scanner × Option String :=
  s.deliver

-- `_submit`, which the button calls as well
def ManualScanner.submit (s : Scanner) : Scanner × Option String :=
  s.deliver

-- ### The UI with its scanner

def ScannerKind.deliver : ScannerKind → Scanner → Scanner × Option String
  | .wedge  => WedgeScanner.onReturn
  | .manual => ManualScanner.submit

-- What happens at the desk. The entry takes one line, and a key appends to it: the keys that edit a
-- line (cursor keys, deletions) are left out, as a scanner sends none.
inductive DeskEvent
  | key (c : Char)
  | enter
  | ui (e : UiEvent)

def UiEvent.barcode? : UiEvent → Option String
  | .scan barcode => some barcode
  | _             => none

structure ScanDesk where
  scanner : Scanner
  ui      : Ui

namespace ScanDesk

-- `run` starts the scanner.
def init : ScanDesk :=
  ⟨Scanner.init.start, .init⟩

-- The UI gets its scans from the scanner only.
def Step (py : PyStd) (isDigit : Char → Bool) (kind : ScannerKind) (d : ScanDesk) (e : DeskEvent)
    (d' : ScanDesk) : Prop :=
  match e with
  | .key c => c ≠ '\n' ∧ d' = { d with scanner := d.scanner.type c }
  | .enter => d' = {
      scanner := (kind.deliver d.scanner).1
      ui      := (kind.deliver d.scanner).2.elim d.ui d.ui.onScan
    }
  | .ui e  => e.barcode? = none ∧ d'.scanner = d.scanner ∧ Ui.Step py isDigit d.ui e d'.ui

end ScanDesk
end ReceivingApp
