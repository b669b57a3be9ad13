import CompletionGateway.Text.Unprintable

/-! Quoted text as a diagnostic shows it: between quotes, with a backslash before a quote or a backslash,
the usual letters for tab, line feed, carriage return and NUL, and the hexadecimal code point of any
other character that does not show by itself. -/
namespace CompletionGateway.Text

def hexDigit (n : Nat) : Char := (Nat.toDigits 16 n).getD 0 '0'

/-- Lower-case hexadecimal digits without leading zeros. -/
def hexText (n : Nat) : String := String.ofList (Nat.toDigits 16 n)

def quotedChar (c : Char) : String :=
  if c = '\x00' then "\\0"
  else if c = '\t' then "\\t"
  else if c = '\r' then "\\r"
  else if c = '\n' then "\\n"
  else if c = '"' then "\\\""
  else if c = '\\' then "\\\\"
  else if isUnprintable c then "\\u\x7b" ++ hexText c.toNat ++ "\x7d"
  else c.toString

/-- A text between quotes with its characters written so that each is visible. -/
def quoted (s : String) : String := "\"" ++ String.join (s.toList.map quotedChar) ++ "\""

end CompletionGateway.Text
