import LoginGate.Diagnostics.Event

namespace LoginGate

/-!
# The append-only trace file

Each event adds one line to the file at the trace path. The file is created
when nothing is there and its directory exists. A symbolic link at the path is
never followed when writing, so that nobody can redirect the lines. Whatever
keeps a line from being written is passed over in silence.
-/

/-- What is found at the trace path. Files hold any bytes. -/
inductive TracePlace where
  /-- Nothing, in a directory where files can be created. -/
  | absent
  /-- A regular file that can be written. -/
  | file (content : List UInt8)
  | directory
  /-- The directory of the path does not exist. -/
  | unreachable
  /-- A symbolic link, to a file with this content or to nothing. -/
  | link (target : Option (List UInt8))
  deriving Repr, DecidableEq

namespace TracePlace

/-- What reading the trace path gives, links followed. -/
def content? : TracePlace → Option (List UInt8)
  | .file content =>
      some content
  | .link target =>
      target
  | _ =>
      none

/-- The content of the file that a symbolic link at the trace path leads to. -/
def linkTarget? : TracePlace → Option (List UInt8)
  | .link target =>
      target
  | _ =>
      none

/-- Whether a line can be written at the trace path. -/
def writable : TracePlace → Bool
  | .absent =>
      true
  | .file _ =>
      true
  | _ =>
      false

/-- The trace path after a text was appended to it, if it could be. -/
def append (place : TracePlace) (text : String) : TracePlace :=
  match place with
  | .absent =>
      .file text.toUTF8.data.toList
  | .file content =>
      .file (content ++ text.toUTF8.data.toList)
  | _ =>
      place

end TracePlace

/-- The trace path, and how often the clock was read for it. -/
structure TraceFile where
  place : TracePlace
  readings : Nat
  deriving Repr, DecidableEq

/-- The successive readings of a clock, as time stamps. -/
abbrev Clock :=
  Nat → String

/-- The line that an event adds: time stamp, severity and one-line form. -/
def Event.traceLine (event : Event) (stamp : String) : String :=
  stamp ++ " " ++ event.severity.label ++ " " ++ event.display ++ "\n"

/-- Append an event; the clock is read only when the file could be opened. -/
def TraceFile.record (clock : Clock) (event : Event) (file : TraceFile) : TraceFile :=
  if file.place.writable then
    ⟨file.place.append (event.traceLine (clock file.readings)), file.readings + 1⟩
  else
    file

end LoginGate
