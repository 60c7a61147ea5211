import FirmwareUpdate.Metadata

/-!
# Announcements

The publisher announces a version only with a path that devices read back as it stands: an
absolute path without blanks that is not too long.
-/

namespace FirmwareUpdate.Publish

/-- Why a version cannot be announced. -/
inductive Refusal
  | relativePath (path : String)
  | blankInPath (path : String)
  | overlongPath
deriving DecidableEq, Repr

/-- The sentence for a refusal. -/
def Refusal.message : Refusal → String
  | relativePath path => s!"image path must start with '/': {path}"
  | blankInPath path => s!"image path must not contain whitespace: {path}"
  | overlongPath => s!"image path longer than {maxPathSize} bytes"

/-- The metadata that announce a version. -/
def announce (version : UInt32) (path : String) (interval : Option UInt32) :
    Except Refusal Metadata :=
  if path.toList.head? ≠ some '/' then .error (.relativePath path)
  else if path.toList.any Text.isBlank then .error (.blankInPath path)
  else
    match ImagePath.ofString? path with
    | none => .error .overlongPath
    | some file => .ok ⟨some version, some file, interval⟩

end FirmwareUpdate.Publish
