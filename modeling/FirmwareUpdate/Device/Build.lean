import FirmwareUpdate.Files.Disk

/-!
# Building an image

Before an image is compiled, directives tell the build what goes into it: the network from a
header file that is kept out of the repository, the settings of the updater from the
environment, and the certificates of the server. What is missing is replaced by a default or
warned about.
-/

namespace FirmwareUpdate.Device.Build

variable {m : Type → Type} [Monad m]

/-- A directive to the build. -/
inductive Directive
  | link (argument : String)
  | watchFile (path : String)
  | watchVariable (name : String)
  | define (name value : String)
  | warn (text : String)
deriving DecidableEq, Repr

/-- The text of a directive. -/
def Directive.text : Directive → String
  | link argument => s!"cargo:rustc-link-arg={argument}"
  | watchFile path => s!"cargo:rerun-if-changed={path}"
  | watchVariable name => s!"cargo:rerun-if-env-changed={name}"
  | define name value => s!"cargo:rustc-env={name}={value}"
  | warn text => s!"cargo:warning={text}"

/-- The lines that directives are printed as. -/
def printed (directives : List Directive) : List String :=
  directives.flatMap fun directive =>
    (Text.lines (directive.text.toList ++ ['\n'])).map String.ofList

/-- The settings of the updater and their defaults. -/
def settings : List (String × String) :=
  [("OTA_SERVER_HOST", "updates.example.com"), ("OTA_SERVER_PORT", "443"),
    ("OTA_METADATA_PATH", "/ota/esp32.txt"), ("OTA_POLLING_INTERVAL_S", "3600"),
    ("OTA_AUTO_REBOOT", "true")]

/-- The files with the certificates of the server. -/
def certificates : List String := ["certs/root_ca.pem", "certs/peer.pem"]

/-- The header file with the network. -/
def headerPath : String := "wifi_config.h"

/-- The values that the header file may define. -/
def headerNames : List String := ["WIFI_SSID", "WIFI_PASSWORD"]

/-- The value that a header file defines: what stands between the first two quotes of the first
line with the definition. -/
def defined? (name : String) (header : String) : Option String := do
  let mark := ("#define " ++ name).toList
  let line ← (Text.lines header.toList).find? (Text.holds mark)
  (Text.splitOn '"' line)[1]?.map String.ofList

/-- The directives for a header file. -/
def ofHeader (header : String) : List Directive :=
  headerNames.filterMap fun name => (defined? name header).map (.define name)

/-- The directives without a header file. -/
def withoutHeader : List Directive :=
  headerNames.map (.define · "") ++
    [.warn ("wifi_config.h not found! Copy wifi_config.h.example to wifi_config.h "
      ++ "and add your credentials.")]

/-- The directives for the network, or the fault that keeps the header file from being
read. -/
def network (disk : Disk m) : m (Except FileFault (List Directive)) := do
  if ← disk.isThere headerPath then
    match ← disk.readText headerPath with
    | .error fault => return .error fault
    | .ok header => return .ok (ofHeader header)
  else return .ok withoutHeader

/-- The directives for the settings of the updater. -/
def ofEnvironment (environment : String → Option String) : List Directive :=
  settings.flatMap fun (name, default) =>
    [.watchVariable name, .define name ((environment name).getD default)]

/-- The directives for a file with a certificate. -/
def certificate (disk : Disk m) (path : String) : m (List Directive) := do
  if ← disk.isThere path then return [.watchFile path]
  else
    return [.watchFile path,
      .warn s!"{path} not found! The updater cannot connect without it."]

/-- The directives that come first. -/
def preamble : List Directive :=
  [.link "-Wl,--undefined=esp_backtrace_print_app_description", .watchFile headerPath]

/-- The directives for an image, and the fault that has ended them early. -/
def prepare (disk : Disk m) (environment : String → Option String) :
    m (List Directive × Option FileFault) := do
  match ← network disk with
  | .error fault => return (preamble, some fault)
  | .ok directives =>
    let files ← certificates.mapM (certificate disk)
    return (preamble ++ directives ++ ofEnvironment environment ++ files.flatten, none)

end FirmwareUpdate.Device.Build
