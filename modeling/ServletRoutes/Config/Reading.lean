import ServletRoutes.Config.Basic
import ServletRoutes.Json.Reader

/-!
# `ServletRoutes.Config.Reading`: configurations from JSON

A configuration is an object whose members are settings by name, or a list of settings in the
order of the table `settings`. Settings that are not given keep their defaults; unknown members
are skipped, and a setting given twice is refused.
-/

set_option autoImplicit false

namespace ServletRoutes.Config

open Json (Reader)
open Json.Reader

/-! ### Values of settings -/

/-- A string. -/
def stringValue : Reader Text := do
  if (← next) = '"' then
    advance
    string false
  else refuse

/-- `true` or `false`. -/
def boolValue : Reader Bool := do
  match ← next with
  | 't' => do advance; word "rue".toList; return true
  | 'f' => do advance; word "alse".toList; return false
  | _ => refuse

/-- Nothing, written `null`, or a value. -/
def optionValue {α : Type} (value : Reader α) : Reader (Option α) := do
  if (← next?) = some 'n' then
    advance
    word "ull".toList
    return none
  else return some (← value)

/-- A count of 64 bits, written without sign, fraction and exponent. -/
def countValue : Reader Nat := do
  let c ← next
  if c = '-' || c.isDigit then
    let n ← number false
    if n.negative || !n.isInteger then fail .unsuitable else return n.significand
  else refuse

/-- The items of a list up to its closing bracket, at most `fuel` of them. -/
def items {α : Type} (item : Reader α) : Nat → Bool → Reader (List α)
  | 0, _ => fail .unfinished
  | fuel + 1, isFirst => do
    if ← hasItem isFirst then
      let a ← item
      return a :: (← items item fuel false)
    else
      advance
      return []

/-- A list. -/
def listValue {α : Type} (item : Reader α) : Reader (List α) := do
  if (← next) = '[' then
    advance
    let n ← remaining
    items item (n + 1) true
  else refuse

/-- The name of a scanner. -/
def scannerName : Reader ScannerKind := do
  let name ← stringValue
  if name = "subtypes".toList then return .subtypes
  else if name = "annotations".toList then return .annotations
  else fail .unsuitable

/-- A scanner, by its name or as an object whose only member has the name and is `null`. -/
def scannerValue : Reader ScannerKind := do
  match ← next with
  | '"' => scannerName
  | '\x7b' => do
    advance
    let kind ← scannerName
    expect ':'
    if (← next) = 'n' then
      advance
      word "ull".toList
    else refuse
    expect '\x7d'
    return kind
  | _ => fail .malformed

/-! ### Settings -/

/-- The settings by name, in their order. -/
def settings : List (String × (Config → Reader Config)) := [
  ("include_exclude", fun c => return { c with includeExclude := ← stringValue }),
  ("handler_base", fun c => return { c with handlerBase := ← stringValue }),
  ("servlet_base", fun c => return { c with servletBase := ← stringValue }),
  ("route_annotation", fun c => return { c with routeAnnotationType := ← stringValue }),
  ("role_annotation", fun c => return { c with roleAnnotationType := ← stringValue }),
  ("elevated_role", fun c => return { c with elevatedRole := ← stringValue }),
  ("marker_segment", fun c => return { c with markerSegment := ← stringValue }),
  ("route_root", fun c => return { c with routeRoot := ← stringValue }),
  ("exclude_classes", fun c => return { c with excludeClasses := ← listValue stringValue }),
  ("parallel", fun c => return { c with parallel := ← boolValue }),
  ("threads", fun c => return { c with threads := ← optionValue countValue }),
  ("scanners", fun c => return { c with scanners := ← listValue scannerValue }),
  ("web_xml", fun c => return { c with webXml := ← optionValue stringValue }),
  ("appengine_web_xml", fun c => return { c with appengineWebXml := ← optionValue stringValue }),
  ("security_constraints", fun c => return { c with securityConstraints := ← boolValue })]

/-- The members of an object up to its closing brace, at most `fuel` of them; `seen` are the
settings given so far. -/
def members : Nat → Bool → List Text → Config → Reader Config
  | 0, _, _, _ => fail .unfinished
  | fuel + 1, isFirst, seen, config => do
    if ← hasMember isFirst then
      let name ← string false
      match settings.find? fun (n, _) => n.toList = name with
      | some (_, value) => do
        -- refused at its name, whatever follows
        if seen.contains name then fail .unsuitable
        expect ':'
        members fuel false (name :: seen) (← value config)
      | none => do
        expect ':'
        skip
        members fuel false seen config
    else
      advance
      return config

/-- Settings in their order, up to the closing bracket. -/
def inOrder : Bool → List (String × (Config → Reader Config)) → Config → Reader Config
  | _, [], config => do
    expect ']'
    return config
  | isFirst, (_, value) :: rest, config => do
    if ← hasItem isFirst then inOrder false rest (← value config)
    else
      advance
      return config

/-- A configuration. -/
def value : Reader Config := do
  match ← next with
  | '\x7b' => do
    advance
    let n ← remaining
    members (n + 1) true [] {}
  | '[' => do
    advance
    inOrder true settings {}
  | _ => refuse

/-- The configuration of a whole text. -/
def ofJson (text : Text) : Except Json.Fault Config :=
  match value text with
  | .error fault => .error fault
  | .ok (config, rest) =>
    if rest.all isBlank then .ok config else .error .malformed

/-- Why a configuration cannot be loaded. -/
inductive LoadFault
  | file (fault : FileFault)
  | json (fault : Json.Fault)
deriving DecidableEq

/-- The configuration in a file. -/
def load (tree : FileTree) (path : Text) : Except LoadFault Config :=
  match tree.textAt path with
  | .error fault => .error (.file fault)
  | .ok text =>
    match ofJson text with
    | .error fault => .error (.json fault)
    | .ok config => .ok config

end ServletRoutes.Config
