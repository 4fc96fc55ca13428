import StaticMulticast.Host.Process.Task
import StaticMulticast.Host.Utility.Argument
import StaticMulticast.Host.Utility.Arrangement
import StaticMulticast.Host.Utility.Lines
import StaticMulticast.Host.Utility.Calculation
import StaticMulticast.Host.Utility.Encoding
import StaticMulticast.Host.Utility.Column
import StaticMulticast.Host.Utility.Comparison
import StaticMulticast.Host.Utility.Copy
import StaticMulticast.Host.Utility.Date
import StaticMulticast.Host.Utility.Editor
import StaticMulticast.Host.Utility.Find
import StaticMulticast.Host.Utility.Format
import StaticMulticast.Host.Utility.Gathering
import StaticMulticast.Host.Utility.Machine
import StaticMulticast.Host.Utility.Make
import StaticMulticast.Host.Utility.File
import StaticMulticast.Host.Utility.Rule.Run
import StaticMulticast.Host.Utility.Search
import StaticMulticast.Host.Utility.Sequence
import StaticMulticast.Host.Utility.Sorting
import StaticMulticast.Host.Utility.Splitting
import StaticMulticast.Host.Utility.Start
import StaticMulticast.Host.Utility.Statement.Run

/-!
# The programs of the system

What runs for the name of a program of the system, apart from the shells.
-/

namespace StaticMulticast.Host.Utility

open Action
open StaticMulticast.Text (Regular)

/-! ## Programs that shells have as commands too -/

/-- Writes words as `echo` does that is no command of a shell. -/
def runEchoProgram (arguments : List String) : Action Nat :=
  answer (echoText .program false arguments)

/-- Writes arguments in a format. -/
def runPrintfProgram (arguments : List String) : Action Nat := do
  match if arguments.head? = some "--" then arguments.tail else arguments with
  | [] => refuseUse 1 "missing operand"
  | format :: rest =>
      let (outcomes, status) := formatted .program 0 0 format rest
      outcomes.forM fun outcome => match outcome with
        | .text text => do
            let _ ← finish 0 text
        | .message text => complain text
      pure status

/-- Writes the paths of programs. -/
def runWhich (arguments : List String) : Action Nat := do
  let (_, names) := Shell.leadingOptions arguments
  if names.isEmpty then pure 1
  else forEach names fun name => do
    match ← Shell.programPath? name with
    | some path => answer (path ++ "\n")
    | none => pure 1

/-- A line has a match of an expression. -/
def hasMatch (expression line : String) : Bool :=
  (Regular.ofText? .basic expression).any fun regular =>
    (Regular.search regular { text := line.toList } 0).isSome

/-! ## The table -/

/-- What a program does with its arguments. What carries out tasks is given first. -/
abbrev Body := Runner → List String → Action Nat

/-- A program that starts no other one. -/
def alone (body : List String → Action Nat) : Body :=
  fun _ => body

/-- Programs that start other ones. -/
def startingPrograms : List (String × Body) :=
  [("env", runEnv), ("nice", runNice), ("timeout", runTimeout), ("xargs", runXargs),
    ("sleep", runSleep), ("kill", runKillProgram), ("find", runFind), ("flock", runFlock),
    ("perl", runPerl), ("mawk", runAwk), ("yes", runYes),
    ("nohup", runBehind reportFailed 125 []), ("setsid", runSetsid), ("stdbuf", runStdbuf),
    ("split", runSplit), ("run-parts", runParts), ("ionice", runIonice),
    ("chrt", runSetter chrtSetter), ("taskset", runTaskset), ("setpriv", runSetter setprivSetter),
    ("prlimit", runPrlimit), ("choom", runSetter choomSetter), ("setarch", runSetarch),
    ("linux32", fun again => runSetarch again ∘ ("linux32" :: ·)),
    ("linux64", fun again => runSetarch again ∘ ("linux64" :: ·)),
    ("i386", fun again => runSetarch again ∘ ("i386" :: ·)),
    ("x86_64", fun again => runSetarch again ∘ ("x86_64" :: ·)),
    ("unshare", runSetter unshareSetter), ("nsenter", runSetter nsenterSetter),
    ("sed", fun again => runSed fun command => do
      pure (← Rule.captureCommand again command).1)]

/-- Programs for texts. -/
def textPrograms : List (String × Body) :=
  [("cat", alone runCat), ("tee", alone runTee), ("head", alone (runExtract true)),
    ("tail", alone (runExtract false)), ("wc", alone runWc), ("sort", alone runSort),
    ("uniq", alone runUniq), ("comm", alone runComm), ("join", alone runJoin),
    ("tsort", alone runTsort), ("shuf", alone runShuf), ("tac", alone runTac),
    ("rev", alone runRev), ("cut", alone runCut), ("paste", alone runPaste), ("tr", alone runTr),
    ("fold", alone runFold), ("expand", alone runExpand), ("unexpand", alone runUnexpand),
    ("nl", alone (runNl hasMatch)),
    ("grep", alone (runGrep .basic)), ("egrep", alone (runGrep .extended)),
    ("fgrep", alone (runGrep .fixed)), ("rgrep", alone (runGrep .basic ∘ ("-r" :: ·))),
    ("cmp", alone runCmp), ("diff", alone runDiff), ("od", alone runOd),
    ("base64", alone (runCode (some "base64"))), ("base32", alone (runCode (some "base32"))),
    ("basenc", alone (runCode none)), ("sum", alone runSum), ("cksum", alone runCksum),
    ("md5sum", alone (runDigest "md5")), ("sha1sum", alone (runDigest "sha1")),
    ("sha224sum", alone (runDigest "sha224")), ("sha256sum", alone (runDigest "sha256")),
    ("sha384sum", alone (runDigest "sha384")), ("sha512sum", alone (runDigest "sha512")),
    ("b2sum", alone (runDigest "blake2b")), ("csplit", alone runCsplit)]

/-- Programs for files and directories. -/
def filePrograms : List (String × Body) :=
  [("rm", alone runRm), ("unlink", alone runUnlink), ("rmdir", alone runRmdir),
    ("mkdir", alone runMkdir), ("touch", alone runTouch), ("mktemp", alone runMktemp),
    ("truncate", alone runTruncate), ("mkfifo", alone runMkfifo), ("mknod", alone runMknod),
    ("chmod", alone runChmod), ("chown", alone (runChown false)),
    ("chgrp", alone (runChown true)), ("mv", alone runMv), ("cp", alone runCp), ("ln", alone runLn),
    ("link", alone runLink), ("install", alone runInstall), ("dd", alone runDd),
    ("basename", alone runBasename), ("dirname", alone runDirname),
    ("readlink", alone runReadlink), ("realpath", alone runRealpath),
    ("ls", alone (runLs '1')), ("dir", alone (runLs 'C')), ("vdir", alone (runLs 'l')),
    ("stat", alone runStat), ("du", alone runDu), ("which", alone runWhich),
    ("fallocate", alone runFallocate), ("shred", alone runShred), ("sync", alone runSync),
    ("pathchk", alone runPathchk), ("namei", alone runNamei), ("whereis", alone runWhereis),
    ("mountpoint", alone runMountpoint), ("df", alone runDf)]

/-- Programs that calculate and that tell about the system. -/
def tellingPrograms : List (String × Body) :=
  [("true", fun _ _ => pure 0), ("false", fun _ _ => pure 1),
    ("test", alone (Shell.runCheck .program "test")),
    ("[", alone (Shell.runCheck .program "[")), ("echo", alone runEchoProgram),
    ("printf", alone runPrintfProgram), ("expr", alone runExpr), ("printenv", alone runPrintenv),
    ("pwd", alone runPwdProgram), ("seq", alone runSeq), ("factor", alone runFactor),
    ("numfmt", alone runNumfmt), ("date", alone runDate), ("id", alone runId),
    ("whoami", alone runWhoami), ("logname", alone runWhoami), ("groups", alone runGroups),
    ("getent", alone runGetent), ("uname", alone runUname),
    ("hostname", fun _ _ => answer "localhost\n"), ("nproc", alone runNproc),
    ("arch", fun _ _ => answer "x86_64\n"), ("tty", alone runTty), ("getopt", alone runGetopt),
    ("getconf", alone runGetconf), ("tput", alone runTput)]

/-- The programs with what they do. -/
def programs : List (String × Body) :=
  startingPrograms ++ textPrograms ++ filePrograms ++ tellingPrograms

/-- Programs of which only the status is known that they have when they are run without arguments
and without input. -/
def bareStatuses : List (String × Nat) :=
  [("chcon", 1), ("diff3", 2), ("dircolors", 1), ("dmesg", 0), ("dnsdomainname", 0),
    ("domainname", 0), ("findmnt", 0), ("fmt", 0), ("gunzip", 1), ("gzip", 0), ("hostid", 0),
    ("iconv", 0), ("ipcmk", 1), ("ipcrm", 0), ("ipcs", 0), ("ischroot", 1), ("last", 0),
    ("ldd", 1), ("locale", 0), ("logger", 0), ("lsblk", 0), ("lscpu", 0), ("mcookie", 0),
    ("mesg", 2), ("pinky", 0), ("pr", 0), ("ptx", 0), ("renice", 1), ("runcon", 125),
    ("sdiff", 2), ("stty", 1), ("tar", 2), ("tempfile", 0), ("users", 0), ("who", 0),
    ("zcat", 1), ("zgrep", 2)]

/-- The programs that read what their arguments name. -/
def readingPrograms : List String :=
  ["sed", "perl", "mawk", "cp"] ++ (textPrograms.map fun row => row.1).filter (· != "tee")

/-- Runs a program of the system, and gives its status. One that reads a queue waits until it is
written to. -/
def run (again : Runner) (name : String) (arguments : List String) : Action Nat := do
  match programs.lookup name with
  | some body => do
      if readingPrograms.contains name then
        arguments.forM fun argument => meetAtPath again argument true
      body again arguments
  | none => pure (if arguments.isEmpty then (bareStatuses.lookup name).getD 0 else 0)

/-- The names of the programs in the first directory of programs. -/
def names : List String :=
  ["bash", "dash"] ++ (programs.map fun row => row.1) ++ bareStatuses.map fun row => row.1

end StaticMulticast.Host.Utility
