import TegraGpu.Text.Radix
import TegraGpu.Text.Visible
/-!
# Quoted texts

The printed form of a text in messages: in double quotes, with quotes and backslashes escaped
by a backslash, the line breaks, returns and tabs as `\n`, `\r` and `\t`, and the null character
as `\0`.  Every other character that does not show on its own, and every character that extends
the one before it, is written by its code: in lower-case hexadecimal, in braces after `\u`.
So a combining accent is written by its code even after a letter.

* `quotedChar` : the printed form of one character.
* `quoted` : the printed form.
-/

namespace TegraGpu.Text

/-- The printed form of one character inside quotes. -/
def quotedChar (c : Char) : String :=
  if c = '"' then "\\\"" else if c = '\\' then "\\\\"
  else if c = '\n' then "\\n" else if c = '\r' then "\\r" else if c = '\t' then "\\t"
  else if c = '\x00' then "\\0"
  else if isGraphemeExtend c || !isPrintable c then
    "\\u" ++ "\x7b" ++ hexLower 1 c.toNat ++ "\x7d"
  else c.toString

/-- The printed form of a text: in double quotes, with quotes, backslashes and the characters
that do not show on their own escaped. -/
def quoted (s : String) : String :=
  "\"" ++ String.join (s.toList.map quotedChar) ++ "\""

end TegraGpu.Text
