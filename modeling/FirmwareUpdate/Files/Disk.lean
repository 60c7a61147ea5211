import FirmwareUpdate.Files.Path
import FirmwareUpdate.Text.Utf8

/-!
# Disks

What can be done with files, and how it fails. The operations are those of any monad, so that
what is written against them runs on the files of a system and on a tree of files alike.
-/

namespace FirmwareUpdate

/-- Why an operation on files fails. -/
inductive FileFault
  | missing
  | present
  | notDirectory
  | isDirectory
  | nameTooLong
  | notText
  | other (message : String)
deriving DecidableEq, Repr

/-- The sentence for a fault. -/
def FileFault.message : FileFault → String
  | missing => "No such file or directory (os error 2)"
  | present => "File exists (os error 17)"
  | notDirectory => "Not a directory (os error 20)"
  | isDirectory => "Is a directory (os error 21)"
  | nameTooLong => "File name too long (os error 36)"
  | notText => "stream did not contain valid UTF-8"
  | other message => message

/-- The operations on files. Writing creates a file or replaces its content; copying empties
the target before it reads the source; a directory is created in one that is there. -/
structure Disk (m : Type → Type) where
  isThere : (path : String) → m Bool
  isDirectory : (path : String) → m Bool
  openFile : (path : String) → m (Except FileFault Unit)
  read : (path : String) → m (Except FileFault Bytes)
  write : (path : String) → Bytes → m (Except FileFault Unit)
  copy : (source target : String) → m (Except FileFault Unit)
  createDirectory : (path : String) → m (Except FileFault Unit)

namespace Disk

variable {m : Type → Type} [Monad m]

/-- Reads a file that holds a text. -/
def readText (disk : Disk m) (path : String) : m (Except FileFault String) := do
  match ← disk.read path with
  | .error fault => return .error fault
  | .ok bytes =>
    match Utf8.decode? bytes with
    | some text => return .ok (String.ofList text)
    | none => return .error .notText

/-- Creates the first of some directories of which each lies in the next one, and before it
those that are missing. -/
def createDirectories (disk : Disk m) : (directories : List String) → m (Except FileFault Unit)
  | [] => return .ok ()
  | directory :: above => do
    match ← disk.createDirectory directory with
    | .ok () => return .ok ()
    | .error .missing =>
      match ← createDirectories disk above with
      | .error fault => return .error fault
      | .ok () =>
        match ← disk.createDirectory directory with
        | .ok () => return .ok ()
        | .error fault =>
          if ← disk.isDirectory directory then return .ok () else return .error fault
    | .error fault =>
      if ← disk.isDirectory directory then return .ok () else return .error fault

end Disk

end FirmwareUpdate
