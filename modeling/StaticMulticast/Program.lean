import StaticMulticast.Host.Programs
import StaticMulticast.Program.Run

/-!
# The program on a small computer

The computer that scripts can be tried on does for the daemon what its host must do.
-/

namespace StaticMulticast.Program

open Host (Computer Platform)

instance : Platform Computer Host.Opened where
  openFile := Computer.openFile
  run := Computer.run
  change := Computer.change
  openLog computer path :=
    let fresh : Host.Node := { mode := Host.Node.ordinary, time := computer.now }
    (computer.files.openToWrite computer.working path fresh).map fun (opened, files) =>
      (opened, { computer with files })
  append computer opened octets :=
    { computer with files := computer.files.append opened octets }
  print computer octets := { computer with output := computer.output ++ octets }
  takeSignals computer := (computer.signals, { computer with signals := [] })

end StaticMulticast.Program
