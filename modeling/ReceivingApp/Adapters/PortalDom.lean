import ReceivingApp.Core.Matching
import ReceivingApp.Lib.Program
import Mathlib.Data.List.Infix

open Interaction

namespace ReceivingApp

-- ### Positions and limits

def modelCol : Nat := 3
def tbrCol   : Nat := 7
def qtyCol   : Nat := 8

def maxGridPages : Nat := 10

-- ### Contents of a page

-- An option as the inline script of `READ_OPTIONS_JS` returns it.
structure SelectOption where
  value : String
  text  : String
  deriving DecidableEq, Repr

structure GridCell where
  text     : String
  hasInput : Bool := false
  deriving DecidableEq, Repr

structure GridRow where
  cells       : List GridCell
  hasQtyInput : Bool
  deriving DecidableEq, Repr

-- `t in s`
def inText (t s : String) : Bool :=
  t.toList <:+: s.toList

-- ### Calls

-- What the receiver does with the page of its browser, named for what is called and on what.
inductive PageCall : Type → Type
  | goto (url : String) : PageCall Unit
  | waitForLoadState : PageCall Unit
  | url : PageCall String
  | fill (selector value : String) : PageCall Unit
  | press (selector key : String) : PageCall Unit
  | click (selector : String) : PageCall Unit
  | waitForUrl (pattern : String) : PageCall Unit
  | mkdir : PageCall Unit
  | screenshot (name : String) : PageCall Unit
  | readOptions (selector : String) : PageCall (List SelectOption)
  | setValue (selector value : String) : PageCall Unit
  | waitForRows : PageCall Unit
  | rows : PageCall (List GridRow)
  | nextIsVisible : PageCall Bool
  | nextClass : PageCall (Option String)
  | nextAriaDisabled : PageCall (Option String)
  | clickNext : PageCall Unit
  | setQty (row : GridRow) : PageCall Unit
  | hasSerialInput : PageCall Bool
  | fillSerial (serial : String) : PageCall Unit
  | finalizeCheck : PageCall String

abbrev ReceiverM := Program PageCall PyExc

end ReceivingApp
