import FirmwareUpdate.Text.Decimal
import FirmwareUpdate.Text.Invisible

/-!
# Texts shown in messages

A text that a message quotes is written so that every character can be seen: control
characters, characters without a shape of their own and characters that attach to others are
replaced by escapes.
-/

namespace FirmwareUpdate.Text

/-- How a character is shown between quotes. -/
def shownChar (c : Char) : List Char :=
  match c with
  | '\x00' => ['\\', '0']
  | '\t' => ['\\', 't']
  | '\n' => ['\\', 'n']
  | '\r' => ['\\', 'r']
  | '\"' => ['\\', '\"']
  | '\\' => ['\\', '\\']
  | c =>
    if isInvisible c then ['\\', 'u', '\x7b'] ++ Nat.toDigits 16 c.toNat ++ ['\x7d'] else [c]

/-- How a text is shown. -/
def shown (text : String) : String :=
  String.ofList ('\"' :: text.toList.flatMap shownChar ++ ['\"'])

end FirmwareUpdate.Text
