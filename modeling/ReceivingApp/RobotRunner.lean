import ReceivingApp.Services.ReceiveSync

open Interaction

namespace ReceivingApp

-- One turn of the poll loop up to its pause, which says whether the loop goes on.
def runPass (py : PyStd) (board : ReceivingBoard) : RobotM Bool :=
  Program.withFinally
    (Program.tryCatch
      (receivePending py board >>= fun _ => .pure true)
      (fun e =>
        if e.cls = .syncKillError ∨ e.cls = .keyboardInterrupt then .pure false else .throw e))
    (.perform .close)

-- The first `n` turns of the poll loop.
def pollLoop (py : PyStd) (board : ReceivingBoard) : Nat → RobotM Unit
  | 0     => .pure ()
  | n + 1 => do
    if ← runPass py board then
      let goesOn ← Program.tryCatch
        (.perform .sleep >>= fun _ => .pure true)
        (fun e => if e.cls = .keyboardInterrupt then .pure false else .throw e)
      if goesOn then
        pollLoop py board n

end ReceivingApp
