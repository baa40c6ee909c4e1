import ServletRoutes.Total

/-!
# `ServletRoutes.Text.Basic`: text as a sequence of code points

Every string of this library is a `Text`, a list of Unicode code points. The module holds the
operations the rest needs: cutting a text at the first occurrence of another, splitting and
replacing. `cut?_eq_some` says that a cut loses nothing. Texts are ordered as lists: by the first
code point that differs, a proper beginning first.
-/

set_option autoImplicit false

namespace ServletRoutes

/-- Text is a sequence of Unicode code points. -/
abbrev Text := List Char

/-- Comparing texts decides whether they are equal. -/
instance : LawfulBEq Text := inferInstance

/-- A file's content is a sequence of bytes. -/
abbrev Bytes := List UInt8

namespace Text

/-! ### Cutting -/

/-- What follows `start` in a text that begins with it. -/
def stripStart? : Text → Text → Option Text
  | [], t => some t
  | _ :: _, [] => none
  | s :: start, c :: t => if s = c then stripStart? start t else none

/-- The text before and the text after the first occurrence of `needle`. -/
def cut? (needle : Text) : Text → Option (Text × Text)
  | [] => if needle = [] then some ([], []) else none
  | c :: t =>
    match stripStart? needle (c :: t) with
    | some after => some ([], after)
    | none => (cut? needle t).map fun (before, after) => (c :: before, after)

/-- `needle` occurs somewhere in `t`. -/
def contains (needle t : Text) : Bool := (cut? needle t).isSome

/-- `t` begins with `start`. -/
def startsWith (start t : Text) : Bool := (stripStart? start t).isSome

/-- `t` ends with `tail`. -/
def endsWith (tail t : Text) : Bool := startsWith tail.reverse t.reverse

/-- What is stripped of its start is the start with the rest behind it. -/
theorem stripStart?_eq_some {start t rest : Text} (h : stripStart? start t = some rest) :
    t = start ++ rest := by
  fun_induction stripStart? start t with
  | case1 => simp_all
  | case2 => simp at h
  | case3 start c t ih => simp_all
  | case4 => simp at h

/-- A cut loses nothing but the needle. -/
theorem cut?_eq_some {needle t before after : Text} (h : cut? needle t = some (before, after)) :
    t = before ++ needle ++ after := by
  induction t generalizing before with
  | nil =>
    simp only [cut?] at h
    split at h <;> simp_all
  | cons c t ih =>
    simp only [cut?] at h
    split at h
    case h_1 rest hrest =>
      have := stripStart?_eq_some hrest
      simp_all
    case h_2 =>
      obtain ⟨⟨b, a⟩, hcut, hba⟩ := Option.map_eq_some_iff.1 h
      simp only [Prod.mk.injEq] at hba
      obtain ⟨rfl, rfl⟩ := hba
      simp [ih hcut]

/-! ### Pieces -/

/-- Replaces every `old` by `new`. -/
def replace (old new : Char) (t : Text) : Text := t.map fun c => if c = old then new else c

/-- The pieces between the separators; a text without one is a single piece. -/
def splitOn (separator : Char) : Text → List Text
  | [] => [[]]
  | c :: t =>
    if c = separator then [] :: splitOn separator t
    else
      match splitOn separator t with
      | [] => [[c]]
      | piece :: pieces => (c :: piece) :: pieces

/-- The texts one after the other with `separator` between them. -/
def join (separator : Text) : List Text → Text
  | [] => []
  | [t] => t
  | t :: ts => t ++ separator ++ join separator ts

/-- The first line without its ending: a line feed with the carriage return right before it. -/
def firstLine (t : Text) : Text :=
  match cut? ['\n'] t with
  | none => t
  | some (line, _) => if line.getLast? = some '\r' then line.dropLast else line

/-- The decimal digits of a number. -/
def decimal (n : Nat) : Text := Nat.toDigits 10 n

/-- The lower-case hexadecimal digits of a number. -/
def hexadecimal (n : Nat) : Text := Nat.toDigits 16 n

/-- The upper-case ASCII letters as lower-case ones, all else as it is. -/
def lowerAscii (t : Text) : Text := t.map Char.toLower

/-! ### Sizes -/

/-- The number of bytes of a text in UTF-8, which is the unit of all reported offsets. -/
def byteSize (t : Text) : Nat := total Char.utf8Size t

/-- The empty text takes no bytes. -/
@[simp] theorem byteSize_nil : byteSize [] = 0 := rfl

/-- Texts one after the other take the bytes of both. -/
@[simp] theorem byteSize_append (s t : Text) : byteSize (s ++ t) = byteSize s + byteSize t := by
  simp [byteSize]

end Text

end ServletRoutes
