import StaticMulticast.Interface.System
import StaticMulticast.Program.Run

/-!
# The command line program

The daemon on the real host. It learns its interfaces from the kernel's device table, and reads the
names of signals from standard input, whose end terminates it. Programs cannot be started from here,
so a script fails as if the host had no means to run it.
-/

namespace StaticMulticast.Main

open Host (Fault Environment)

/-- The fault that an error of input or output stands for. -/
def fault (error : IO.Error) : Fault :=
  match error with
  | .noFileOrDirectory _ code _ => .system code.toNat
  | .alreadyExists _ code _ => .system code.toNat
  | .permissionDenied _ code _ => .system code.toNat
  | .inappropriateType _ code _ => .system code.toNat
  | .invalidArgument _ code _ => .system code.toNat
  | .interrupted _ code _ => .system code.toNat
  | .resourceExhausted _ code _ => .system code.toNat
  | .resourceBusy code _ => .system code.toNat
  | .resourceVanished code _ => .system code.toNat
  | .hardwareFault code _ => .system code.toNat
  | .illegalOperation code _ => .system code.toNat
  | .protocolError code _ => .system code.toNat
  | .timeExpired code _ => .system code.toNat
  | .noSuchThing _ code _ => .system code.toNat
  | .otherError code _ => .system code.toNat
  | .unsatisfiedConstraints code _ => .system code.toNat
  | .unsupportedOperation code _ => .system code.toNat
  | .unexpectedEof => .reader .unexpectedEof "unexpected end of file"
  | .userError message => .reader .other message

/-- What the host offers at this moment. -/
def environment (setup : Setup) : IO Environment := do
  let reads ← try
      let octets ← IO.FS.readBinFile setup.configFile
      pure (.ok [.data octets.toList])
    catch error =>
      let fault := fault error
      pure (if fault = .directory then .ok [.failure fault] else .error fault)
  pure ⟨fun _ => reads, fun _ => .error .unavailable⟩

/-- The interfaces of the system. -/
def systemAnswer : IO Interface.SystemAnswer := do
  try
    let names := Interface.deviceNames (← IO.FS.readFile "/proc/net/dev")
    let entries ← names.mapM fun name => do
      let index ← IO.FS.readFile ("/sys/class/net/" ++ name ++ "/ifindex")
      let digits := index.toList.takeWhile Char.isDigit
      pure ⟨some name.toUTF8.toList, (Text.Decimal.digits? digits).getD 0⟩
    pure (.ok entries)
  catch error => pure (.error (fault error))

/-- Writes events to the log. -/
def write (log : IO.FS.Stream) (setup : Setup) (events : List Event) : IO Unit := do
  for event in events do
    log.putStrLn (event.record.line setup.logFormat)
  log.flush

/-- The next signal. Words that name none are passed over. -/
partial def nextSignal (input : IO.FS.Stream) : IO Signal := do
  let line ← input.getLine
  if line.isEmpty then pure .terminate
  else match Signal.ofName? (String.ofList (line.toList.takeWhile Char.isAlpha)) with
    | some signal => pure signal
    | none => nextSignal input

/-- Serves signals until the main thread has ended. -/
partial def serve (log input : IO.FS.Stream) (setup : Setup) (machine : Signal.Machine) :
    IO Unit := do
  let worked := machine.workAll (← environment setup)
  write log setup worked.events
  if worked.state.phase != .exited then
    let handled := (worked.state.deliver (← nextSignal input)).handleAll
    write log setup handled.events
    serve log input setup handled.state

/-- Ends the program before it has done anything. -/
def refuse (fault : Program.StartFault) : IO UInt32 := do
  match fault with
  | .usage usage =>
      if fault.isQuestion then
        IO.println Program.banner
        IO.println usage.message
      else IO.eprintln usage.message
  | _ => IO.eprint (fault.report?.getD "")
  pure (UInt32.ofNat fault.exitCode)

/-- Runs the daemon. -/
def run (setup : Setup) (log : IO.FS.Stream) : IO UInt32 := do
  let prepared := Program.prepare setup (← systemAnswer)
  write log setup prepared.events
  serve log (← IO.getStdin) setup (.start prepared.state)
  pure 0

end StaticMulticast.Main

open StaticMulticast in
/-- Reads the command line, opens the log, and runs the daemon. -/
def main (arguments : List String) : IO UInt32 := do
  match Program.configure arguments with
  | .error fault => Main.refuse fault
  | .ok setup =>
      match setup.logFile with
      | none => Main.run setup (← IO.getStdout)
      | some path =>
          let opened : Except Host.Fault IO.FS.Stream ← try
              let file ← IO.FS.Handle.mk path .append
              pure (.ok (IO.FS.Stream.ofHandle file))
            catch error => pure (.error (Main.fault error))
          match opened with
          | .ok log => Main.run setup log
          | .error fault => Main.refuse (.log ⟨path, fault⟩)
