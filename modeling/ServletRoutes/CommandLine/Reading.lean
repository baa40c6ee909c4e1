import ServletRoutes.CommandLine.Invocation

/-!
# `ServletRoutes.CommandLine.Reading`: invocations from arguments

Arguments are read from left to right on two levels: the general ones up to the command, then
those of the command. An option's value follows it as the next argument or after `=`; after `--`
there are no options. A value that stands alone is looked at only when the next option or the end
shows that it is complete, so a fault further right may come first.
-/

set_option autoImplicit false

namespace ServletRoutes.CommandLine

/-- Options without a value. -/
inductive Flag
  | verbose
  | help
  | version
  | parallel
  | securityConstraints
deriving DecidableEq

/-- What takes a value: the options that have one, and the web application. -/
inductive Slot
  | webapp
  | logDirectory
  | classes
  | artifact
  | config
  | threads
  | includeExclude
  | excludeClass
  | webXml
  | appengineWebXml
deriving DecidableEq

/-- The number of 64 bits that a text writes in decimal, with or without a plus sign. -/
def count? (text : Text) : Option Nat :=
  let digits := if text.head? = some '+' then text.tail else text
  if digits = [] || !digits.all Char.isDigit then none
  else
    let n := digits.foldl (fun n d => 10 * n + (d.toNat - 48)) 0
    if n < Config.threadLimit then some n else none

namespace Slot

/-- The slot may be filled more than once. -/
def repeats : Slot → Bool
  | classes | artifact | excludeClass => true
  | _ => false

/-- Checks a value for a slot: paths must not be empty and counts must be numbers. -/
def check (value : Text) : Slot → Except UsageFault Unit
  | includeExclude | excludeClass => .ok ()
  | threads => if (count? value).isSome then .ok () else .error .malformedValue
  | _ => if value = [] then .error .valueMissing else .ok ()

end Slot

/-- The options of a level by name. -/
structure Level where
  flags : List (String × Flag)
  /-- The flags that have a letter too. -/
  letters : List (Char × Flag)
  slots : List (String × Slot)

namespace Level

/-- The options before the command. -/
def general : Level where
  flags := [("verbose", .verbose), ("help", .help), ("version", .version)]
  letters := [('v', .verbose), ('h', .help), ('V', .version)]
  slots := [("log-dir", .logDirectory)]

/-- The options after the command. -/
def command : Level where
  flags := [("verbose", .verbose), ("help", .help), ("parallel", .parallel),
    ("security-constraints", .securityConstraints)]
  letters := [('v', .verbose), ('h', .help)]
  slots := [("log-dir", .logDirectory), ("classes", .classes), ("artifact", .artifact),
    ("config", .config), ("threads", .threads), ("include-exclude", .includeExclude),
    ("exclude-class", .excludeClass), ("web-xml", .webXml),
    ("appengine-web-xml", .appengineWebXml)]

end Level

/-- The thing with a name. -/
def named? {α : Type} (name : Text) (table : List (String × α)) : Option α :=
  (table.find? fun e => e.1.toList = name).map (·.2)

/-- A slot that is being filled. -/
inductive Pending
  | nothing
  /-- The value is the next argument. -/
  | waiting (slot : Slot)
  /-- The value is there but has not been looked at. -/
  | filled (slot : Slot) (value : Text)
deriving DecidableEq

/-- What was read so far on a level. -/
structure Given where
  flags : List Flag := []
  /-- The values that were looked at, in order. -/
  values : List (Slot × Text) := []
  pending : Pending := .nothing
  /-- The options have been ended. -/
  ended : Bool := false

namespace Given

/-- A slot has a value. -/
def has (g : Given) (slot : Slot) : Bool := g.values.any fun v => v.1 = slot

/-- The values of a slot, in order. -/
def all (g : Given) (slot : Slot) : List Text :=
  (g.values.filter fun v => v.1 = slot).map (·.2)

/-- The value of a slot. -/
def value? (g : Given) (slot : Slot) : Option Text := (g.all slot).head?

/-- Fills a slot. -/
def fill (g : Given) (slot : Slot) (value : Text) : Except UsageFault Given :=
  if !slot.repeats && g.has slot then .error .repeated
  else
    match slot.check value with
    | .error fault => .error fault
    | .ok () => .ok { g with values := g.values ++ [(slot, value)], pending := .nothing }

/-- Fills the slot that is being filled. -/
def settle (g : Given) : Except UsageFault Given :=
  match g.pending with
  | .nothing => .ok g
  | .waiting _ => .error .valueMissing
  | .filled slot value => g.fill slot value

/-- Sets a flag. -/
def set (flag : Flag) (g : Given) : Except UsageFault Given :=
  match g.settle with
  | .error fault => .error fault
  | .ok g =>
    match flag with
    | .help => .error .help
    | .version => .error .version
    | flag => if flag ∈ g.flags then .error .repeated else .ok { g with flags := flag :: g.flags }

/-- Sets flags by their letters. -/
def setLetters (level : Level) : Text → Given → Except UsageFault Given
  | [], g => .ok g
  | c :: cs, g =>
    match level.letters.find? fun e => e.1 = c with
    | none => .error .unknownArgument
    | some (_, flag) =>
      match g.set flag with
      | .error fault => .error fault
      | .ok g => g.setLetters level cs

/-- Takes an option by its name, with the value after `=` if there is one. -/
def option (level : Level) (name : Text) (value? : Option Text) (g : Given) :
    Except UsageFault Given :=
  match named? name level.flags, named? name level.slots, value? with
  -- a value for a flag and an unknown name come before any fault of the slot being filled
  | some _, _, some _ => .error .unwantedValue
  | some flag, _, none => g.set flag
  | none, none, _ => .error .unknownArgument
  | none, some slot, value? =>
    match g.settle, value? with
    | .error fault, _ => .error fault
    | .ok g, some value => g.fill slot value
    | .ok g, none => .ok { g with pending := .waiting slot }

end Given

/-- The kinds of arguments by their beginning. -/
inductive Argument
  /-- The end of the options. -/
  | separator
  | option (name : Text) (value? : Option Text)
  | letters (letters : Text)
  | plain (text : Text)

/-- The kind of an argument. A single dash is a plain one. -/
def Argument.ofText : Text → Argument
  | ['-', '-'] => .separator
  | '-' :: '-' :: rest =>
    match Text.cut? ['='] rest with
    | some (name, value) => .option name (some value)
    | none => .option rest none
  | '-' :: c :: cs => .letters (c :: cs)
  | text => .plain text

/-! ### The level of the command -/

/-- Takes an argument that is no option, as the web application. -/
def Given.plain (text : Text) (g : Given) : Except UsageFault Given :=
  if g.has .webapp then .error .unknownArgument
  else
    match g.pending with
    | .filled .webapp _ => .error .unknownArgument
    | _ =>
      match g.settle with
      | .error fault => .error fault
      | .ok g => .ok { g with pending := .filled .webapp text }

/-- Takes an argument after the command. -/
def Given.argument (text : Text) (g : Given) : Except UsageFault Given :=
  if g.ended then g.plain text
  else
    match Argument.ofText text with
    -- a slot that waits for its value gets none after the separator
    | .separator => .ok { g with ended := true }
    | .option name value? => g.option .command name value?
    | .letters letters => g.setLetters .command letters
    | .plain text =>
      match g.pending with
      | .waiting slot => .ok { g with pending := .filled slot text }
      | _ => g.plain text

/-- The arguments after the command. -/
def Given.arguments : List Text → Given → Except UsageFault Given
  | [], g =>
    match g.settle with
    | .error fault => .error fault
    | .ok g => if g.has .webapp then .ok g else .error .webappMissing
  | text :: texts, g =>
    match g.argument text with
    | .error fault => .error fault
    | .ok g => g.arguments texts

/-! ### The level before the command -/

/-- The invocation that the two levels make together. What stands after the command goes before
what stands in front of it. -/
def invocation (command : Command) (general specific : Given) : Invocation where
  command := command
  verbose := .verbose ∈ general.flags || .verbose ∈ specific.flags
  logDirectory := (specific.value? .logDirectory).or (general.value? .logDirectory)
  webapp := (specific.value? .webapp).getD []
  classes := specific.all .classes
  artifacts := specific.all .artifact
  config := specific.value? .config
  parallel := .parallel ∈ specific.flags
  threads := (specific.value? .threads).bind count?
  includeExclude := specific.value? .includeExclude
  excludeClasses := specific.all .excludeClass
  webXml := specific.value? .webXml
  appengineWebXml := specific.value? .appengineWebXml
  securityConstraints := .securityConstraints ∈ specific.flags

/-- The name of the command that asks for help. -/
def helpName : Text := "help".toList

/-- The fault for a request for help on a command. Commands have none of their own. -/
def helpOn : List Text → UsageFault
  | [] => .help
  | [name] =>
    if (Command.ofName? name).isSome || name = helpName then .help else .unknownCommand
  | _ => .unknownCommand

/-- The invocation for a command, its arguments and what stands before it. -/
def ofCommand (command : Command) (general : Given) (arguments : List Text) :
    Except UsageFault Invocation :=
  match Given.arguments arguments {} with
  | .error fault => .error fault
  | .ok specific =>
    -- what is pending in front of the command is looked at last
    match general.settle with
    | .error fault => .error fault
    | .ok general => .ok (invocation command general specific)

/-- The fault at the end of the arguments, before which no command stands. -/
def commandFault (g : Given) : UsageFault :=
  match g.settle with
  | .error fault => fault
  | .ok g => if g.flags = [] && g.values = [] then .noArguments else .commandMissing

/-- The arguments up to the command and after it. -/
def ofGeneral : List Text → Given → Except UsageFault Invocation
  | [], g => .error (commandFault g)
  | text :: texts, g =>
    if g.ended then
      if (Command.ofName? text).isSome || text = helpName then .error .unknownArgument
      else .error .unknownCommand
    else
      match Argument.ofText text with
      | .separator => ofGeneral texts { g with ended := true }
      | .option name value? =>
        match g.option .general name value? with
        | .error fault => .error fault
        | .ok g => ofGeneral texts g
      | .letters letters =>
        match g.setLetters .general letters with
        | .error fault => .error fault
        | .ok g => ofGeneral texts g
      | .plain text =>
        match g.pending with
        | .waiting slot => ofGeneral texts { g with pending := .filled slot text }
        | _ =>
          if text = helpName then .error (helpOn texts)
          else
            match Command.ofName? text with
            | some command => ofCommand command g texts
            | none => .error .unknownCommand

/-- The invocation that arguments make. -/
def Invocation.ofArguments (arguments : List Text) : Except UsageFault Invocation :=
  ofGeneral arguments {}

end ServletRoutes.CommandLine
