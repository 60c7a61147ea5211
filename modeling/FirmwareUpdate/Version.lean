import FirmwareUpdate.Text.Utf8

/-!
# Versions

The number that the updater compares with the announced one, and the version of the package
that the image was built from.
-/

namespace FirmwareUpdate.Version

/-- The version number of this firmware. -/
def software : UInt32 := 3

/-- The version of the package. -/
def package : String := "0.3.0"

/-- Both versions as they are shown to operators. -/
def full : String := s!"v{software} ({package})"

end FirmwareUpdate.Version
