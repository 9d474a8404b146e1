import ServiceRegistry.Text.Span

/-!
# Blanks

Three notions of white space: the separators and the bidirectional classes WS, B and S
(`isBlank`), the property White_Space (`isWhite`), which leaves out the four information
separators, and the six blanks of ASCII (`isAsciiBlank`).
-/

namespace ServiceRegistry.Text

/-- The blanks of Unicode, the information separators included. -/
def blankSpans : List Span :=
  [(0x9, 0xD), (0x1C, 0x20), (0x85, 0x85), (0xA0, 0xA0), (0x1680, 0x1680), (0x2000, 0x200A),
   (0x2028, 0x2029), (0x202F, 0x202F), (0x205F, 0x205F), (0x3000, 0x3000)]

/-- A blank of any script, or an information separator. -/
def isBlank (c : Char) : Bool :=
  inSpans blankSpans c.toNat

/-- A character with the property White_Space. -/
def isWhite (c : Char) : Bool :=
  isBlank c && !(0x1C ≤ c.toNat && c.toNat ≤ 0x1F)

/-- A space, a tab, a line feed, a carriage return, a form feed or a vertical tab. -/
def isAsciiBlank (c : Char) : Bool :=
  c == ' ' || (0x09 ≤ c.toNat && c.toNat ≤ 0x0D)

end ServiceRegistry.Text
