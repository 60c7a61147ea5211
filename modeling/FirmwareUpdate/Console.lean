import FirmwareUpdate.Duration
import FirmwareUpdate.Log
import FirmwareUpdate.Text.Split

/-!
# Console

The device writes its notes to a serial console: one line each with a colour for the severity,
the time since the boot, the severity's letter, the part the note comes from, and the text.
-/

namespace FirmwareUpdate.Console

/-- The sequence that starts a bright colour of the given number. -/
def color (n : Nat) : String :=
  s!"\x1b[{n}m"

/-- The sequence that ends a colour. -/
def reset : String := color 0

/-- The number of the colour of a severity. -/
def colorOf : Severity → Nat
  | .error => 91
  | .warn => 93
  | .info => 92
  | .debug => 94
  | .trace => 90

/-- The time since the boot: seconds and milliseconds within the first minute, then minutes
and seconds, and from an hour on hours and minutes. -/
def stamp (uptime : Duration) : String :=
  let seconds := uptime.seconds
  let two (n : Nat) := Text.padded 10 2 n
  let right (width n : Nat) := Text.rightAligned width (toString n)
  if seconds < 60 then
    s!"{right 3 seconds}.{Text.padded 10 3 (uptime.milliseconds % 1000)}s"
  else if seconds < 3600 then s!"{right 2 (seconds / 60)}m{two (seconds % 60)}s"
  else s!"{right 2 (seconds / 3600)}h{two (seconds % 3600 / 60)}m"

/-- The number of bytes of a part's name that are shown. -/
def originWidth : Nat := 12

/-- The name of a part cut to the shown width, unless the cut would split a character. -/
def cutOrigin? (origin : String) : Option String :=
  if origin.utf8ByteSize ≤ originWidth then some origin
  else go originWidth origin.toList
where
  /-- The first characters that fill exactly the given number of bytes. -/
  go : Nat → List Char → Option String
    | 0, _ => some ""
    | _, [] => none
    | room + 1, c :: rest =>
      if c.utf8Size ≤ room + 1 then
        (go (room + 1 - c.utf8Size) rest).map (String.singleton c ++ ·)
      else none
  termination_by _ cs => cs.length

/-- The name of the part that a module path names: its last segment. -/
def originOfPath (path : String) : String :=
  (path.splitOn "::").getLast?.getD path

/-- The line for a note, except for the time, which goes after the colour. -/
def lineParts? (note : Note) : Option (String × String) := do
  let origin ← cutOrigin? note.origin
  let head := color (colorOf note.severity)
  let letter := String.singleton note.severity.letter
  let shown := Text.rightAligned originWidth origin
  return (head, s!" [{letter}] {shown} | {note.text}{reset}")

/-- The line for a note, where `time` is the stamp. -/
def line? (time : String) (note : Note) : Option String :=
  (lineParts? note).map fun (head, tail) => head ++ time ++ tail

/-- The lines written when the console is opened. -/
def banner : List String :=
  let bar := String.ofList (List.replicate 41 '─')
  [s!"┌{bar}┐", "│        ESP32 HTTPS OTA Updater          │", s!"└{bar}┘"].map
    fun row => color 92 ++ row ++ reset

/-- What notes look like on the console, line by line, where `time` is the stamp of all of
them; nothing if one of them cannot be written. -/
def transcript? (time : String) (notes : List Note) : Option (List String) :=
  (notes.mapM (line? time)).map fun texts =>
    texts.flatMap fun text => (Text.lines (text.toList ++ ['\n'])).map String.ofList

/-- The limit that is in force when the console is opened. -/
def initialLimit : LogLimit := .upTo .debug

/-- The limit after a word has been given for it, and whether the word was understood. -/
def setLimit (limit : LogLimit) (word : String) : LogLimit × Bool :=
  match LogLimit.ofName? word with
  | some chosen => (chosen, true)
  | none => (limit, false)

end FirmwareUpdate.Console
