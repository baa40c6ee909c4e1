import ServletRoutes.Text.Basic

/-!
# `ServletRoutes.Archive.Basic`: archives

An archive is a sequence of named entries. Entries are written one after the other, and a name may
be written again: the archive then holds what was written last, where the name was written first.
-/

set_option autoImplicit false

namespace ServletRoutes

/-- What opening and reading an archive entry gives. -/
inductive EntryContent
  | intact (bytes : Bytes)
  /-- The entry opens, but its bytes cannot be read. -/
  | damaged
  /-- The entry does not open. -/
  | sealed
deriving DecidableEq

/-- A named entry of an archive. -/
structure ArchiveEntry where
  name : Text
  content : EntryContent
deriving DecidableEq

/-- The entries of an archive; each name stands once. -/
abbrev Archive := List ArchiveEntry

namespace Archive

/-- Adds an entry; one of the same name loses its content to it, but not its position. -/
def put (entry : ArchiveEntry) : Archive → Archive
  | [] => [entry]
  | e :: es => if e.name = entry.name then entry :: es else e :: put entry es

/-- The archive into which entries were written one after the other. -/
def ofEntries (entries : List ArchiveEntry) : Archive := entries.foldl (fun a e => a.put e) []

end Archive

end ServletRoutes
