import DeviceScript.Proofs.Command.ExitCode

/-! Paths on the console. The messages about a translation put them between the tags of a style, and
the title of the table of problems holds one as well, but nothing escapes them: a path is shown as
it is only if it reads as plain text there. What stops a translation is escaped before it is told.
-/

namespace DeviceScript

namespace Command

open Markup
open Terminal (Fits)

section Words

end Words

-----------------------------------------------------------------------------------------
-- What the outcome of a translation shows of its paths
-----------------------------------------------------------------------------------------

section Conversions

variable (terminal : Terminal) (size : Terminal.Size) (settings : Settings)
  (conversion : Conversion) (trace : Option Path)

end Conversions

-----------------------------------------------------------------------------------------
-- A line shows plain text as it is, and no other
-----------------------------------------------------------------------------------------

section Lines

variable {terminal : Terminal} {size : Terminal.Size} {words text : Text}
  {parts : List (Text × Text)} {level : LogLevel}

end Lines

-----------------------------------------------------------------------------------------
-- The title of a table of problems shows a plain path as it is, and no other
-----------------------------------------------------------------------------------------

section Titles

variable {terminal : Terminal} {size : Terminal.Size}

end Titles

-----------------------------------------------------------------------------------------
-- The outcome of a translation is told with plain paths as they are, and with no others so
-----------------------------------------------------------------------------------------

section Telling

variable {terminal : Terminal} {size : Terminal.Size} {settings : Settings}
  {conversion : Conversion} {trace : Option Path}

end Telling

-----------------------------------------------------------------------------------------
-- What the command shows, however it ends
-----------------------------------------------------------------------------------------

section Endings

variable {libraries : Libraries} {size : Terminal.Size} {stamps : Nat → Stamp}
  {settings : Settings} {conversion : Conversion} {trace : Option Path}
  {files after : FileSystem}

end Endings

section Brackets

/-- Empty scripts at paths with brackets in them. -/
def bracketed : FileSystem where
  entries :=
    [([("[b].ts" : Text)], .file []), ([("a[" : Text)], .directory),
      ([("a[" : Text), ("].ts" : Text)], .file [])]
  working := []

end Brackets

end Command

end DeviceScript
