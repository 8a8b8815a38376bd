import StyleAudit.Text.HiddenRanges

/-!
# Quoted text in messages

A text between double quotes, as error messages show it: quotes and backslashes are escaped, the
common controls have short names, and other characters that do not show are spelled by number.
-/

namespace StyleAudit.Text

set_option autoImplicit false

def hexDigits (n : Nat) : List Char :=
  Nat.toDigits 16 n

def isHidden (c : Char) : Bool :=
  hiddenRanges.any fun range => range.1 ≤ c.toNat && c.toNat ≤ range.2

def quoteChar (c : Char) : List Char :=
  match c with
  | '\x00' => ['\\', '0']
  | '\t' => ['\\', 't']
  | '\n' => ['\\', 'n']
  | '\r' => ['\\', 'r']
  | '"' => ['\\', '"']
  | '\\' => ['\\', '\\']
  | c => if isHidden c then ['\\', 'u', '\x7b'] ++ hexDigits c.toNat ++ ['\x7d'] else [c]

def quote (s : String) : String :=
  String.ofList ('"' :: s.toList.flatMap quoteChar ++ ['"'])

end StyleAudit.Text
