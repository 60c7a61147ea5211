import FirmwareUpdate.Files.Disk
import FirmwareUpdate.Pin
import FirmwareUpdate.Publish.Announcement
import FirmwareUpdate.Publish.Arguments

/-!
# The publisher

The publisher prints metadata, shows the pin of a certificate or the digest of an image, and
releases an image: it copies the image below the root of a server and writes the metadata that
announce it there.
-/

namespace FirmwareUpdate.Publish

variable {m : Type → Type} [Monad m]

/-- Why a command fails: a cause, and what was being done. -/
structure Failure where
  cause : String
  context : Option String := none
deriving DecidableEq, Repr

/-- The text of a failure. -/
def Failure.text (failure : Failure) : String :=
  match failure.context with
  | none => s!"Error: {failure.cause}\n"
  | some context => s!"Error: {context}\n\nCaused by:\n    {failure.cause}\n"

/-- The text that a command prints, or its failure. -/
abbrev Printed := Except Failure String

/-- An operation on files during a command. -/
def onDisk {α : Type} (context : Option String) (operation : m (Except FileFault α)) :
    ExceptT Failure m α :=
  ExceptT.mk do return (← operation).mapError fun fault => ⟨fault.message, context⟩

/-- A step of a command that does not touch any files. -/
def orFail {ε α : Type} (message : ε → String) (result : Except ε α) : ExceptT Failure m α :=
  ExceptT.mk (return result.mapError fun error => ⟨message error, none⟩)

/-- A text of lines. -/
def unlines (lines : List String) : String :=
  String.join (lines.map (· ++ "\n"))

/-- A number of bytes in units of 2²⁰ with two decimal places, where a half goes to the even
neighbour. -/
def megabytes (size : Nat) : String :=
  let unit := 1024 * 1024
  let whole := size * 100 / unit
  let rest := size * 100 % unit
  let isUp := unit < 2 * rest || (2 * rest == unit && whole % 2 == 1)
  let hundredths := if isUp then whole + 1 else whole
  s!"{hundredths / 100}.{Text.padded 10 2 (hundredths % 100)}"

/-- Prints metadata, or writes them to a file. -/
def publishMetadata (disk : Disk m) (version : UInt32) (file : String)
    (interval : Option UInt32) (output : Option String) : ExceptT Failure m String := do
  let metadata ← orFail Refusal.message (announce version file interval)
  match output with
  | none => return metadata.render
  | some path =>
    onDisk (some s!"writing {path}") (disk.write path (utf8 metadata.render))
    return s!"✓ Metadata written to {path}\n"

/-- Shows the key in a certificate. -/
def showPin (disk : Disk m) (certificate : String) : ExceptT Failure m String := do
  let pem ← onDisk (some s!"reading {certificate}") (disk.readText certificate)
  let pin ← orFail Fault.message (Pin.ofPem pem)
  return unlines ([s!"🔑 Pinned public key of {certificate} ({pin.key.length} bytes)"]
    ++ (Hex.dump pin.key).map ("   " ++ ·) ++ [s!"SHA-256: {pin.fingerprint}"])

/-- The size and the digest of an image. -/
def digestImage (disk : Disk m) (firmware : String) : ExceptT Failure m (Nat × String) := do
  onDisk (some s!"opening {firmware}") (disk.openFile firmware)
  let image ← onDisk none (disk.read firmware)
  return (image.length, Sha256.hex image)

/-- Shows the size and the digest of an image. -/
def showDigest (disk : Disk m) (firmware : String) : ExceptT Failure m String := do
  let (size, digest) ← digestImage disk firmware
  return unlines [s!"File: {firmware}", s!"Size: {size} bytes ({megabytes size} MB)",
    s!"SHA-256: {digest}"]

/-- The path by which devices ask for the image of a release. -/
def Release.serverPath (release : Release) : String :=
  s!"{Path.trimEnd release.imageDirectory}/v{release.version}.bin"

/-- The file that the image of a release is copied to. -/
def Release.imageTarget (release : Release) : String :=
  Path.join release.root (Path.trimStart release.serverPath)

/-- The file that the metadata of a release are written to. -/
def Release.metadataTarget (release : Release) : String :=
  Path.join release.root (Path.trimStart release.metadata)

/-- What is printed about a release. -/
def Release.summary (release : Release) (size : Nat) (digest : String) : String :=
  unlines [s!"🚀 Released firmware version {release.version}",
    s!"   Image: {release.imageTarget} ({size} bytes)", s!"   SHA-256: {digest}",
    s!"   Metadata: {release.metadataTarget}"]

/-- Accepts the image of a release and what is said about it, before any file is changed. -/
def checkRelease (disk : Disk m) (release : Release) :
    ExceptT Failure m (Nat × String × Metadata) := do
  let isThere : Bool ← ExceptT.lift (disk.isThere release.firmware)
  if !isThere then throw ⟨s!"firmware not found: {release.firmware}", none⟩
  let (size, digest) ← digestImage disk release.firmware
  if size = 0 then throw ⟨"firmware image is empty", none⟩
  let metadata ←
    orFail Refusal.message (announce release.version release.serverPath release.interval)
  return (size, digest, metadata)

/-- Copies an image below the root of a server, and writes the metadata that announce it. -/
def publishRelease (disk : Disk m) (release : Release) : ExceptT Failure m String := do
  let (size, digest, metadata) ← checkRelease disk release
  let image := release.imageTarget
  let announcement := release.metadataTarget
  onDisk none (disk.createDirectories (Path.directories image))
  onDisk (some s!"copying to {image}") (disk.copy release.firmware image)
  onDisk none (disk.createDirectories (Path.directories announcement))
  onDisk none (disk.write announcement (utf8 metadata.render))
  return release.summary size digest

/-- Runs a command. -/
def Command.run (disk : Disk m) : Command → m Printed
  | .metadata version file interval output =>
    (publishMetadata disk version file interval output).run
  | .pin certificate => (showPin disk certificate).run
  | .digest firmware => (showDigest disk firmware).run
  | .release announced => (publishRelease disk announced).run

/-- What a run leaves on the terminal, and its exit code. -/
structure Ending where
  code : UInt8
  output : String := ""
  errors : String := ""
deriving DecidableEq, Repr

/-- The ending of a command. -/
def Ending.ofPrinted : Printed → Ending
  | .ok output => { code := 0, output }
  | .error failure => { code := 1, errors := failure.text }

/-- The ending of a run whose words do not name a command. -/
def Ending.ofUsage : Usage → Ending
  | .help output => { code := 0, output }
  | .wrong reason => { code := 2, errors := s!"error: {reason}\n" }

/-- Does what the words of a command line ask for. -/
def run (disk : Disk m) (words : List String) : m Ending := do
  match Arguments.read words with
  | .error usage => return .ofUsage usage
  | .ok command => return .ofPrinted (← command.run disk)

end FirmwareUpdate.Publish
