import ThreatMatrix.Text.Printable

/-!
# Quoted texts

How a text or a run of octets is shown inside a message: between quotes, on one line, with nothing
hidden. Single quotes are used unless the content holds a single quote and no double quote.
-/

namespace ThreatMatrix

/-- The quote that stands around a content. -/
def quoteFor (holdsSingle holdsDouble : Bool) : CodePoint :=
  if holdsSingle && !holdsDouble then '"' else '\''

namespace CodePoint

/-- A code point inside quotes. -/
def quoted (quote c : CodePoint) : Text :=
  if c = quote ∨ c = '\\' then ['\\', c]
  else if c = '\n' then "\\n"
  else if c = '\r' then "\\r"
  else if c = '\t' then "\\t"
  else if c.isPrintable then [c]
  else if c.val < 0x100 then "\\x" ++ Text.hex 2 c.val
  else if c.val < 0x10000 then "\\u" ++ Text.hex 4 c.val
  else "\\U" ++ Text.hex 8 c.val

end CodePoint

/-- A text between quotes. -/
def Text.quoted (text : Text) : Text :=
  let quote := quoteFor (text.contains '\'') (text.contains '"')
  quote :: text.flatMap (CodePoint.quoted quote) ++ [quote]

/-- An octet inside quotes. -/
def quotedByte (quote : CodePoint) (b : Byte) : Text :=
  let c := CodePoint.ofNat b.toNat
  if c = quote ∨ c = '\\' then ['\\', c]
  else if c = '\n' then "\\n"
  else if c = '\r' then "\\r"
  else if c = '\t' then "\\t"
  else if 0x20 ≤ c.val ∧ c.val < 0x7F then [c]
  else "\\x" ++ Text.hex 2 c.val

/-- Octets between quotes, behind the mark that tells them from a text. -/
def quotedBytes (bytes : List Byte) : Text :=
  let quote := quoteFor (bytes.contains 0x27) (bytes.contains 0x22)
  ('b' : CodePoint) :: quote :: bytes.flatMap (quotedByte quote) ++ [quote]

end ThreatMatrix
