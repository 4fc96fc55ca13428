import StaticMulticast.CommandLine.Options
import StaticMulticast.Configuration.Settings
import StaticMulticast.Failure

/-!
# The daemon's own configuration

What the command line decides for the whole run of the daemon.
-/

namespace StaticMulticast

open CommandLine (Options)

/-- The path of the configuration file that is read unless another is given. -/
def defaultConfigFile : String := "/etc/smcroute.conf"

/-- The choices for a run: which file and script to use, where and how to log, whether interfaces
are enabled by default, and whether IPv6 is used. -/
structure Setup where
  configFile : String
  script : Option String
  logFile : Option String
  logFormat : Log.Format
  enablesByDefault : Bool
  ipv6 : Bool
deriving DecidableEq, Repr

namespace Setup

/-- The choices that options make. A script must have a path. -/
def ofOptions (options : Options) : Except Failure Setup :=
  if options.script = some "" then .error (.invalid "empty script path")
  else .ok {
    configFile := options.configFile.getD defaultConfigFile
    script := options.script
    logFile := options.logFile
    logFormat := options.logFormat.getD .human
    enablesByDefault := !options.noVifs
    ipv6 := !options.noIPv6 }

/-- What each pass over the configuration file takes as given. -/
def settings (setup : Setup) : Configuration.Settings :=
  ⟨setup.enablesByDefault, defaultThreshold, setup.ipv6⟩

end Setup

end StaticMulticast
