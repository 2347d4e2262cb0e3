import PeerLink.Text.Visible

/-!
A text as a diagnostic quotes it: between double quotes, with an escape for what would not be seen.
-/

set_option autoImplicit false
set_option relaxedAutoImplicit false

namespace PeerLink.Text

def inspectChar (char : Char) : List Char :=
  match char with
  | '\x00' => ['\\', '0']
  | '\t' => ['\\', 't']
  | '\n' => ['\\', 'n']
  | '\r' => ['\\', 'r']
  | '"' => ['\\', '"']
  | '\\' => ['\\', '\\']
  | char =>
    if isVisible char then [char]
    else "\\u\x7b".toList ++ Nat.toDigits 16 char.toNat ++ ['\x7d']

def inspect (text : String) : String :=
  String.ofList ('"' :: text.toList.flatMap inspectChar ++ ['"'])

end PeerLink.Text
