/-!
# How a program ends

A program ends by itself and leaves a code, or a signal ends it. Signals are numbered from 1 to 64,
and the first half of them have names.
-/

namespace StaticMulticast.Host

/-! ## Signals -/

/-- The signals with a name of their own, by number. -/
def signalNames : List (Nat × String) :=
  [(1, "HUP"), (2, "INT"), (3, "QUIT"), (4, "ILL"), (5, "TRAP"), (6, "ABRT"), (7, "BUS"),
    (8, "FPE"), (9, "KILL"), (10, "USR1"), (11, "SEGV"), (12, "USR2"), (13, "PIPE"), (14, "ALRM"),
    (15, "TERM"), (16, "STKFLT"), (17, "CHLD"), (18, "CONT"), (19, "STOP"), (20, "TSTP"),
    (21, "TTIN"), (22, "TTOU"), (23, "URG"), (24, "XCPU"), (25, "XFSZ"), (26, "VTALRM"),
    (27, "PROF"), (28, "WINCH"), (29, "IO"), (30, "PWR"), (31, "SYS")]

/-- The highest number of a signal. -/
def lastSignal : Nat := 64

/-- The signals that a program survives which makes no provision for them: they are passed over, or
they suspend it. -/
def survivedSignals : List Nat := [17, 18, 19, 20, 21, 22, 23, 28]

/-- The signal ends a program that makes no provision for it. -/
def signalIsFatal (number : Nat) : Bool :=
  0 < number && number ≤ lastSignal && !survivedSignals.contains number

/-! ## The status of a program that has ended -/

/-- How a program ended. -/
inductive ExitStatus where
  | code (number : Nat)
  | signal (number : Nat)
deriving DecidableEq, Repr

namespace ExitStatus

/-- The status in words. -/
def text : ExitStatus → String
  | .code number => "exit status: " ++ toString number
  | .signal number =>
      match signalNames.lookup number with
      | some name => "signal: " ++ toString number ++ " (SIG" ++ name ++ ")"
      | none => "signal: " ++ toString number

/-- The program was successful. -/
def isSuccess : ExitStatus → Bool
  | .code 0 => true
  | _ => false

end ExitStatus

end StaticMulticast.Host
