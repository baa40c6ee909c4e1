import ServletRoutes.CommandLine.Reading
import ServletRoutes.Config.Reading
import ServletRoutes.Generate.Stepwise

/-!
# `ServletRoutes.CommandLine.Session`: carrying out a command line

A session takes the arguments and the file tree and gives the tree afterwards together with what
is printed. The directory for the log comes first, and without it nothing is done. A web
application that is no directory is nothing to work on, which is no fault.
-/

set_option autoImplicit false

namespace ServletRoutes.CommandLine

/-- How a session ends. -/
inductive Outcome
  | done (output : Text)
  | failed (message : Text)
  /-- No log can be kept. -/
  | logMissing
  | misused (fault : UsageFault)
deriving DecidableEq

/-- The exit code; help and the version are given without fault. -/
def Outcome.exitCode : Outcome → Nat
  | done _ => 0
  | failed _ => 1
  | logMissing => 101
  | misused .help | misused .version => 0
  | misused _ => 2

/-- The wording of a configuration that cannot be loaded. -/
def configMessage (path : Text) : Text := "failed to load config ".toList ++ path

/-- The configuration for an invocation, or the path of the file that gives none. -/
def Invocation.loadConfig (i : Invocation) (tree : FileTree) : Except Text Config :=
  match i.config with
  | none => .ok (i.applyTo {})
  | some path =>
    match Config.load tree path with
    | .error _ => .error path
    | .ok config => .ok (i.applyTo config)

/-! ### Artifacts -/

/-- A path with the extension of Java archives. -/
def isJar (path : Text) : Bool :=
  (Path.extension? path).any fun extension => Text.lowerAscii extension = "jar".toList

/-- The archives of a library directory, by name. -/
def jarsIn (tree : FileTree) (library : Text) : List Text :=
  match tree.locate library with
  | .error _ => []
  | .ok place =>
    if tree.isDirectory library then
      ((tree.filesIn place).map (Path.join library)).filter isJar
    else []

/-- The class directories: those that are asked for, or the usual one if it is there. -/
def Invocation.classDirectories (i : Invocation) (tree : FileTree) : List Text :=
  if i.classes = [] then
    [Config.privatePath i.webapp "classes"].filter fun path => tree.isDirectory path
  else i.classes

/-- The artifacts to scan: libraries, class directories and further ones. -/
def Invocation.allArtifacts (i : Invocation) (tree : FileTree) : List Text :=
  jarsIn tree (Config.privatePath i.webapp "lib") ++ i.classDirectories tree ++ i.artifacts

/-! ### Output -/

/-- The line about a document. -/
def documentLine (d : Generate.DocumentReport) : Text :=
  d.path ++ ": ".toList ++ (if d.changed then "updated" else "unchanged").toList ++
    " (".toList ++ Text.decimal d.mappings ++ " mappings)\n".toList

/-- A line with a total. -/
def totalLine (label : String) (total : Nat) : Text :=
  label.toList ++ ": ".toList ++ Text.decimal total ++ ['\n']

/-- What is printed about a run. -/
def summaryText (s : Generate.Summary) : Text :=
  s.documents.flatMap documentLine ++
    totalLine "Servlet mappings generated" s.mappingsGenerated ++
    totalLine "Servlet mappings skipped" s.skipped ++
    totalLine "Security constraints generated" s.elevated

/-- What is printed about an inspection. -/
def reportText (reports : List Generate.TargetReport) : Text :=
  (Json.Report.list (reports.map Generate.TargetReport.json)).print ++ ['\n']

/-! ### Sessions -/

/-- The outcome of a run that fails. -/
def failure (message : Text) : Outcome := .failed ("Error: ".toList ++ message)

/-- Carries out an invocation with its configuration. -/
def Invocation.perform (i : Invocation) (config : Config) (tree : FileTree) : FileTree × Outcome :=
  let artifacts := i.allArtifacts tree
  let targets := Generate.Target.defaults config i.webapp
  match i.command with
  | .generate =>
    match (Generate.perform config FileTree.reader artifacts targets).on tree with
    | (.error fault, tree) => (tree, failure fault.message)
    | (.ok summary, tree) => (tree, .done (summaryText summary))
  | .inspect =>
    match (Generate.examine config FileTree.reader artifacts targets).on tree with
    | (.error fault, tree) => (tree, failure fault.message)
    | (.ok reports, tree) => (tree, .done (reportText reports))

/-- Carries out an invocation, if its web application is a directory. -/
def Invocation.session (i : Invocation) (tree : FileTree) : FileTree × Outcome :=
  if !tree.isDirectory i.webapp then (tree, .done [])
  else
    match i.loadConfig tree with
    | .error path => (tree, failure (configMessage path))
    | .ok config => i.perform config tree

/-- Makes the directory for the log. -/
def Invocation.prepare (i : Invocation) (tree : FileTree) : FileTree :=
  match i.logDirectory with
  | none => tree
  | some path => tree.makePath path

/-- A log can be kept: none is asked for, or its directory is there. -/
def Invocation.canLog (i : Invocation) (tree : FileTree) : Bool :=
  i.logDirectory.all tree.isDirectory

/-- Carries out the arguments of a command line. -/
def session (tree : FileTree) (arguments : List Text) : FileTree × Outcome :=
  match Invocation.ofArguments arguments with
  | .error fault => (tree, .misused fault)
  | .ok i =>
    let tree := i.prepare tree
    if i.canLog tree then i.session tree else (tree, .logMissing)

end ServletRoutes.CommandLine
