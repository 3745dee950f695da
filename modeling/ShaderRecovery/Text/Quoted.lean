import ShaderRecovery.Text.Hex
import ShaderRecovery.Text.GraphemeExtend
import ShaderRecovery.Text.Printable

/-!
# Quoted text

A quoted string is written between double quotes. A quote, a backslash and
the controls NUL, tab, line feed and carriage return get a backslash escape;
every other character that is not printable is written `\u{h}` with its code
point in lower-case hexadecimal; all else stands as it is.

Escaped this way are the grapheme extenders, which would otherwise combine
with the character before them (a quote, at the start), and the characters
without a glyph of their own (`Unicode.isGraphemeExtend`, `Unicode.isPrintable`).

Principal result: `escape_printable` (a printable character that extends
nothing, other than a quote or backslash, is written as itself).
-/

namespace ShaderRecovery

namespace Quoted

open Unicode

/-- The escape form of a character, its code point in hexadecimal. -/
def codeEscape (c : Char) : List Char :=
  ['\\', 'u', '\x7b'] ++ NumText.hexDigits c.toNat ++ ['\x7d']

/-- The written form of one character inside double quotes. -/
def escape (c : Char) : List Char :=
  if c = '"' then ['\\', '"']
  else if c = '\\' then ['\\', '\\']
  else if c = '\n' then ['\\', 'n']
  else if c = '\r' then ['\\', 'r']
  else if c = '\t' then ['\\', 't']
  else if c = '\x00' then ['\\', '0']
  else if isGraphemeExtend c then codeEscape c
  else if isPrintable c then [c]
  else codeEscape c

/-- The text between double quotes. -/
def quote (s : String) : String :=
  "\"" ++ String.ofList (s.toList.flatMap escape) ++ "\""

theorem escape_printable (c : Char) (hq : c ≠ '"') (hb : c ≠ '\\')
    (hg : isGraphemeExtend c = false) (hp : isPrintable c = true) : escape c = [c] := by
  have hn : c ≠ '\n' := by
    rintro rfl
    rw [isPrintable_of_control _ (by decide)] at hp
    cases hp
  have hr : c ≠ '\r' := by
    rintro rfl
    rw [isPrintable_of_control _ (by decide)] at hp
    cases hp
  have ht : c ≠ '\t' := by
    rintro rfl
    rw [isPrintable_of_control _ (by decide)] at hp
    cases hp
  have hz : c ≠ '\x00' := by
    rintro rfl
    rw [isPrintable_of_control _ (by decide)] at hp
    cases hp
  simp [escape, hq, hb, hn, hr, ht, hz, hg, hp]

end Quoted

end ShaderRecovery
