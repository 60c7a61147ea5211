import FirmwareUpdate.Publish.Publisher

/-!
# The publisher's program

Runs the publisher on the files of the system.
-/

namespace FirmwareUpdate.Publish

/-- The fault that an error of the system is. -/
def faultOf : IO.Error → FileFault
  | .noFileOrDirectory _ _ _ => .missing
  | .alreadyExists _ _ _ => .present
  | .inappropriateType _ code _ => if code = 21 then .isDirectory else .notDirectory
  | error => .other (toString error)

/-- An action, with its error as a fault. -/
def attempt {α : Type} (action : IO α) : IO (Except FileFault α) := do
  try
    return .ok (← action)
  catch error => return .error (faultOf error)

/-- Everything that a file still has to give. -/
def drain (handle : IO.FS.Handle) : IO Bytes :=
  return (← handle.readBinToEnd).toList

/-- The files of the system. -/
def systemDisk : Disk IO where
  isThere path := do
    match ← attempt (IO.FS.Handle.mk path .read) with
    | .error .missing | .error .notDirectory => return false
    | _ => return true
  isDirectory path := do
    match ← attempt (IO.FS.Handle.mk (path ++ "/.") .read) with
    | .ok _ => return true
    | .error _ => return false
  openFile path := attempt do
    let _ ← IO.FS.Handle.mk path .read
    return ()
  read path := attempt do
    drain (← IO.FS.Handle.mk path .read)
  write path content := attempt do
    IO.FS.writeBinFile path ⟨content.toArray⟩
  copy source target := attempt do
    let reader ← IO.FS.Handle.mk source .read
    let writer ← IO.FS.Handle.mk target .write
    writer.write ⟨(← drain reader).toArray⟩
  createDirectory path := attempt (IO.FS.createDir path)

end FirmwareUpdate.Publish

/-- Runs the publisher. -/
def main (words : List String) : IO UInt32 := do
  let ending ← FirmwareUpdate.Publish.run FirmwareUpdate.Publish.systemDisk words
  (← IO.getStdout).putStr ending.output
  (← IO.getStderr).putStr ending.errors
  return ending.code.toUInt32
