-- SUMMARY: The characters with the Unicode property `White_Space`.
/-!
# Blank characters

A character is blank when it has the Unicode property `White_Space`. The class is wider than
`Char.isWhitespace`, which knows four ASCII characters only.
-/

/-- The Unicode property `White_Space`: the ASCII controls from tab to carriage return, the space,
the next-line control, the no-break space and the typographic spaces and separators. -/
def Char.isBlank (c : Char) : Bool :=
  let n := c.toNat
  (9 ≤ n && n ≤ 13) || n == 0x20 || n == 0x85 || n == 0xA0 || n == 0x1680
    || (0x2000 ≤ n && n ≤ 0x200A) || n == 0x2028 || n == 0x2029 || n == 0x202F || n == 0x205F
    || n == 0x3000
