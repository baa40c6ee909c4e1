import ServletRoutes.Config.Basic

/-!
# `ServletRoutes.CommandLine.Invocation`: what is asked for on the command line

An invocation names a web application, what to do with it and the settings that go before those
of the configuration file. A command line that makes none has a usage fault.
-/

set_option autoImplicit false

namespace ServletRoutes.CommandLine

/-- What to do with a web application. -/
inductive Command
  /-- Bring its descriptors up to date. -/
  | generate
  /-- Print what would be declared. -/
  | inspect
deriving DecidableEq

/-- The name of a command. -/
def Command.name : Command → String
  | generate => "generate"
  | inspect => "inspect"

/-- The command with a name. -/
def Command.ofName? (name : Text) : Option Command :=
  [generate, inspect].find? fun c => c.name.toList = name

/-- Why a command line is not carried out. -/
inductive UsageFault
  /-- There are no arguments at all. -/
  | noArguments
  /-- There are options but no command. -/
  | commandMissing
  /-- The first argument is no command. -/
  | unknownCommand
  /-- The web application is not named. -/
  | webappMissing
  /-- An option is not known, or there is an argument too many. -/
  | unknownArgument
  /-- An argument is given twice that may be given once. -/
  | repeated
  /-- An option lacks its value, or a path is empty. -/
  | valueMissing
  /-- The value of an option cannot be read. -/
  | malformedValue
  /-- A flag has a value. -/
  | unwantedValue
  /-- Help is asked for. -/
  | help
  /-- The version is asked for. -/
  | version
deriving DecidableEq

/-- The wording of a fault. -/
def UsageFault.message : UsageFault → Text
  | noArguments => "no arguments".toList
  | commandMissing => "no command".toList
  | unknownCommand => "unknown command".toList
  | webappMissing => "no web application".toList
  | unknownArgument => "unknown argument".toList
  | repeated => "argument given twice".toList
  | valueMissing => "no value for an argument".toList
  | malformedValue => "malformed number".toList
  | unwantedValue => "value for a flag".toList
  | help => "help".toList
  | version => "servlet-routes 0.3.0".toList

/-- How to call the program. -/
def usageText : Text :=
  "Usage: servlet-routes [-v] [--log-dir DIR] (generate|inspect) WEBAPP_DIR\n".toList ++
  "  [--classes DIR]... [--artifact PATH]... [--config FILE] [--parallel] [--threads N]\n".toList ++
  "  [--include-exclude EXPR] [--exclude-class NAME]... [--web-xml PATH]\n".toList ++
  "  [--appengine-web-xml PATH] [--security-constraints]\n".toList

/-- A command with its arguments. -/
structure Invocation where
  command : Command
  /-- Log more. -/
  verbose : Bool
  /-- Where to keep a log. -/
  logDirectory : Option Text
  /-- The directory of the web application. -/
  webapp : Text
  /-- Class directories to scan in place of the usual one. -/
  classes : List Text
  /-- Further artifacts to scan. -/
  artifacts : List Text
  /-- The configuration file. -/
  config : Option Text
  parallel : Bool
  threads : Option Nat
  includeExclude : Option Text
  excludeClasses : List Text
  webXml : Option Text
  appengineWebXml : Option Text
  securityConstraints : Bool
deriving DecidableEq

/-- The paths that an invocation reads from. -/
def Invocation.paths (i : Invocation) : List Text :=
  i.webapp :: i.config.toList ++ i.classes ++ i.artifacts

/-- A configuration with the settings of the command line put over it. Excluded classes are added
to those of the configuration, and flags can only turn something on. -/
def Invocation.applyTo (i : Invocation) (config : Config) : Config :=
  { config with
    parallel := config.parallel || i.parallel || i.threads.isSome
    threads := i.threads.or config.threads
    includeExclude := i.includeExclude.getD config.includeExclude
    excludeClasses := config.excludeClasses ++ i.excludeClasses
    webXml := i.webXml.or config.webXml
    appengineWebXml := i.appengineWebXml.or config.appengineWebXml
    securityConstraints := config.securityConstraints || i.securityConstraints }

end ServletRoutes.CommandLine
