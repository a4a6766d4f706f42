/-! How a child process ended, and the exit code that stands for it. -/
namespace RuntimeLauncher

structure WaitStatus where
  raw : UInt32
  deriving DecidableEq, Repr

namespace WaitStatus

/-- The low seven bits: zero for an exit, 127 for a stop, otherwise a signal. -/
def low (s : WaitStatus) : Nat := s.raw.toNat % 128

def code? (s : WaitStatus) : Option Nat :=
  if s.low = 0 then some (s.raw.toNat / 256 % 256) else none

def signal? (s : WaitStatus) : Option Nat :=
  if 1 ≤ s.low ∧ s.low ≤ 126 then some s.low else none

/-- The code itself, 128 and the signal, or 1 for a child that did not end. -/
def exitCode (s : WaitStatus) : Nat :=
  match s.code? with
  | some code => code
  | none =>
    match s.signal? with
    | some signal => 128 + signal
    | none => 1

def ofCode (code : Nat) : WaitStatus := ⟨UInt32.ofNat (code % 256 * 256)⟩

def ofSignal (signal : Nat) : WaitStatus := ⟨UInt32.ofNat (signal % 128)⟩

end WaitStatus

/-- The code a launcher exits with after a child's. One that does not fit in a byte is a failure. -/
def forwardedCode (code : Int) : Nat := if 0 ≤ code ∧ code ≤ 255 then code.toNat else 1

end RuntimeLauncher
