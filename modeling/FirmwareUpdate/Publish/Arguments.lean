import FirmwareUpdate.Text.Decimal
import FirmwareUpdate.Text.Split

/-!
# Command line

The words after the name of the program name a command and give its options, each at most once
and in any order. An option is written in full after two dashes or as a letter after one; its
value follows it, either in the same word or as the next one.
-/

namespace FirmwareUpdate.Publish

/-- What is to be published. -/
structure Release where
  firmware : String
  version : UInt32
  root : String
  imageDirectory : String
  metadata : String
  interval : Option UInt32
deriving DecidableEq, Repr

/-- What the program is asked to do. -/
inductive Command
  | metadata (version : UInt32) (file : String) (interval : Option UInt32)
      (output : Option String)
  | pin (certificate : String)
  | digest (firmware : String)
  | release (release : Release)
deriving DecidableEq, Repr

/-- Why the words are not understood, or what is shown instead of running a command. -/
inductive Usage
  | wrong (reason : String)
  | help (text : String)
deriving DecidableEq, Repr

/-- What the value of an option has to be. -/
inductive ValueKind
  | text
  | path
  | number
deriving DecidableEq, Repr

/-- An option. -/
structure Switch where
  name : String
  letter : Option Char
  kind : ValueKind
deriving DecidableEq, Repr

namespace Arguments

/-- The number that a value denotes, where a sign is allowed in front of it. -/
def number? (value : String) : Option UInt32 :=
  match value.toList with
  | '-' :: digits => if Text.readDigits? digits = some 0 then some 0 else none
  | digits => (Text.readBelow? UInt32.size digits).map UInt32.ofNat

/-- Whether a value is one of its kind. -/
def fits : ValueKind → String → Bool
  | .text, _ => true
  | .path, value => !value.isEmpty
  | .number, value => (number? value).isSome

/-- Whether a word gives an option rather than a value. A single dash is a value. -/
def isOption (word : String) : Bool :=
  match word.toList with
  | '-' :: _ :: _ => true
  | _ => false

/-- What a word is. -/
inductive Word
  | separator
  | named (name : String) (value : Option String)
  | lettered (letter : Char) (value : Option String)
  | plain (text : String)
deriving DecidableEq, Repr

/-- The value in the same word as a letter. A sign of equality in front of it is left out. -/
def attached : List Char → Option String
  | [] => none
  | '=' :: value => some (String.ofList value)
  | value => some (String.ofList value)

/-- Reads a word. -/
def readWord (word : String) : Word :=
  match word.toList with
  | ['-', '-'] => .separator
  | '-' :: '-' :: rest =>
    match Text.splitOnce '=' rest with
    | some (name, value) => .named (String.ofList name) (some (String.ofList value))
    | none => .named (String.ofList rest) none
  | '-' :: letter :: rest => .lettered letter (attached rest)
  | _ => .plain word

/-- The option that a word gives, and the value in it. -/
def switchOf? (switches : List Switch) : Word → Option (Switch × Option String)
  | .named name value => (switches.find? (·.name == name)).map (·, value)
  | .lettered letter value => (switches.find? (·.letter == some letter)).map (·, value)
  | _ => none

/-- Whether a word asks for help. -/
def asksHelp : Word → Bool
  | .named "help" none => true
  | .lettered 'h' _ => true
  | _ => false

/-- The values of options by their names. -/
abbrev Values := List (String × String)

/-- The values with one more, which has to be of its kind and the first of its option. -/
def accept (values : Values) (switch : Switch) (value : String) : Except Usage Values :=
  if (values.lookup switch.name).isSome then
    .error (.wrong s!"the argument '--{switch.name}' cannot be used multiple times")
  else if fits switch.kind value then .ok (values ++ [(switch.name, value)])
  else .error (.wrong s!"invalid value '{value}' for '--{switch.name}'")

/-- Reads the options of a command, which come after those that gave `values`. -/
def readValues (switches : List Switch) (help : String) (values : Values) :
    List String → Except Usage Values
  | [] => .ok values
  | word :: rest =>
    match readWord word with
    | .separator =>
      match rest with
      | [] => .ok values
      | extra :: _ => .error (.wrong s!"unexpected argument '{extra}' found")
    | read =>
      if asksHelp read then .error (.help help)
      else
        match switchOf? switches read with
        | none => .error (.wrong s!"unexpected argument '{word}' found")
        | some (switch, some value) => do
          readValues switches help (← accept values switch value) rest
        | some (switch, none) =>
          match rest with
          | [] => .error (.wrong s!"a value is required for '--{switch.name}'")
          | value :: rest =>
            if isOption value then
              .error (.wrong s!"a value is required for '--{switch.name}'")
            else do readValues switches help (← accept values switch value) rest

/-- The value of an option that has to be there. -/
def required (values : Values) (name : String) : Except Usage String :=
  match values.lookup name with
  | some value => .ok value
  | none => .error (.wrong s!"the argument '--{name}' was not provided")

/-- The number that is the value of an option that has to be there. -/
def requiredNumber (values : Values) (name : String) : Except Usage UInt32 := do
  match number? (← required values name) with
  | some n => .ok n
  | none => .error (.wrong s!"invalid value for '--{name}'")

/-- The number that is the value of an option. -/
def optionalNumber (values : Values) (name : String) : Option UInt32 :=
  (values.lookup name).bind number?

/-- The options of the command that prints metadata. -/
def metadataSwitches : List Switch :=
  [⟨"version", none, .number⟩, ⟨"file", 'f', .text⟩, ⟨"interval", 'i', .number⟩,
    ⟨"output", 'o', .path⟩]

/-- The option of the command that shows a pin. -/
def pinSwitches : List Switch := [⟨"cert", 'c', .path⟩]

/-- The option of the command that shows a digest. -/
def digestSwitches : List Switch := [⟨"firmware", 'f', .path⟩]

/-- The options of the command that releases an image. -/
def releaseSwitches : List Switch :=
  [⟨"firmware", none, .path⟩, ⟨"version", none, .number⟩, ⟨"root", 'r', .path⟩,
    ⟨"image-dir", none, .text⟩, ⟨"metadata", 'm', .text⟩, ⟨"interval", 'i', .number⟩]

/-- What the program is for. -/
def programHelp : String :=
  "Prepare firmware images and metadata for the HTTPS OTA server\n\n"
    ++ "Usage: ota-publish <COMMAND>\n\n"
    ++ "Commands:\n"
    ++ "  metadata  Print the metadata file announcing a firmware version\n"
    ++ "  pin       Show the public key devices pin for a server certificate\n"
    ++ "  digest    Size and SHA-256 of a firmware image\n"
    ++ "  release   Copy an image into a server directory and write its metadata next to it\n"
    ++ "  help      Print this message or the help of the given subcommand(s)\n\n"
    ++ "Options:\n"
    ++ "  -h, --help  Print help\n"

/-- What the command that prints metadata is for. -/
def metadataHelp : String :=
  "Print the metadata file announcing a firmware version\n\n"
    ++ "Usage: ota-publish metadata [OPTIONS] --version <VERSION> --file <FILE>\n\n"
    ++ "Options:\n"
    ++ "      --version <VERSION>    Firmware version number (VERSION=)\n"
    ++ "  -f, --file <FILE>          Server path of the image (FILE=)\n"
    ++ "  -i, --interval <INTERVAL>  Polling interval for devices in seconds, "
    ++ "0 disables polling (INTERVAL=)\n"
    ++ "  -o, --output <OUTPUT>      Write to this file instead of stdout\n"
    ++ "  -h, --help                 Print help\n"

/-- What the command that shows a pin is for. -/
def pinHelp : String :=
  "Show the public key devices pin for a server certificate\n\n"
    ++ "Usage: ota-publish pin --cert <CERT>\n\n"
    ++ "Options:\n"
    ++ "  -c, --cert <CERT>  PEM encoded server certificate\n"
    ++ "  -h, --help         Print help\n"

/-- What the command that shows a digest is for. -/
def digestHelp : String :=
  "Size and SHA-256 of a firmware image\n\n"
    ++ "Usage: ota-publish digest --firmware <FIRMWARE>\n\n"
    ++ "Options:\n"
    ++ "  -f, --firmware <FIRMWARE>  \n"
    ++ "  -h, --help                 Print help\n"

/-- What the command that releases an image is for. -/
def releaseHelp : String :=
  "Copy an image into a server directory and write its metadata next to it\n\n"
    ++ "Usage: ota-publish release [OPTIONS] --firmware <FIRMWARE> "
    ++ "--version <VERSION> --root <ROOT>\n\n"
    ++ "Options:\n"
    ++ "      --firmware <FIRMWARE>    Firmware image (.bin)\n"
    ++ "      --version <VERSION>      \n"
    ++ "  -r, --root <ROOT>            Document root of the update server\n"
    ++ "      --image-dir <IMAGE_DIR>  Directory below the root for images [default: /fw]\n"
    ++ "  -m, --metadata <METADATA>    Metadata path below the root [default: /ota.txt]\n"
    ++ "  -i, --interval <INTERVAL>    \n"
    ++ "  -h, --help                   Print help\n"

/-- What the command that shows help is for. -/
def helpHelp : String :=
  "Print this message or the help of the given subcommand(s)\n\n"
    ++ "Usage: ota-publish help [COMMAND]...\n\n"
    ++ "Arguments:\n"
    ++ "  [COMMAND]...  Print help for the subcommand(s)\n"

/-- The command that the values of its options describe. -/
def readMetadata (words : List String) : Except Usage Command := do
  let values ← readValues metadataSwitches metadataHelp [] words
  return .metadata (← requiredNumber values "version") (← required values "file")
    (optionalNumber values "interval") (values.lookup "output")

/-- The release that the values of its options describe. -/
def readRelease (words : List String) : Except Usage Command := do
  let values ← readValues releaseSwitches releaseHelp [] words
  return .release {
    firmware := ← required values "firmware"
    version := ← requiredNumber values "version"
    root := ← required values "root"
    imageDirectory := (values.lookup "image-dir").getD "/fw"
    metadata := (values.lookup "metadata").getD "/ota.txt"
    interval := optionalNumber values "interval" }

/-- The help about a command. -/
def helpOf : List String → Usage
  | [] => .help programHelp
  | ["metadata"] => .help metadataHelp
  | ["pin"] => .help pinHelp
  | ["digest"] => .help digestHelp
  | ["release"] => .help releaseHelp
  | ["help"] => .help helpHelp
  | word :: _ => .wrong s!"unrecognized subcommand '{word}'"

/-- Reads the words of a command line. -/
def read : List String → Except Usage Command
  | [] => .error (.wrong "a subcommand is required")
  | "metadata" :: words => readMetadata words
  | "pin" :: words => do
    return .pin (← required (← readValues pinSwitches pinHelp [] words) "cert")
  | "digest" :: words => do
    return .digest (← required (← readValues digestSwitches digestHelp [] words) "firmware")
  | "release" :: words => readRelease words
  | "help" :: words => .error (helpOf words)
  | word :: _ =>
    if asksHelp (readWord word) then .error (.help programHelp)
    else .error (.wrong s!"unrecognized subcommand '{word}'")

end Arguments

end FirmwareUpdate.Publish
