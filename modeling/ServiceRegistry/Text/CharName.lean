import ServiceRegistry.Text.LetterCase

/-!
# Character names

The Unicode names of the characters in the blocks that patterns are written in: Latin, Greek and
Cyrillic, punctuation, currency, arrows, operators, symbols and faces, with the common aliases of
the control characters. Unified ideographs are named by their code point.

Results:

* `codePointOfName?`: the code point that a name stands for, without regard to letter case.
-/

namespace ServiceRegistry.Text

/-- The names of Latin letters, digits and the signs among them. -/
def latinNames : List (String × Nat) :=
  [("SPACE", 0x20), ("EXCLAMATION MARK", 0x21), ("QUOTATION MARK", 0x22), ("NUMBER SIGN", 0x23),
   ("DOLLAR SIGN", 0x24), ("PERCENT SIGN", 0x25), ("AMPERSAND", 0x26), ("APOSTROPHE", 0x27),
   ("LEFT PARENTHESIS", 0x28), ("RIGHT PARENTHESIS", 0x29), ("ASTERISK", 0x2A),
   ("PLUS SIGN", 0x2B), ("COMMA", 0x2C), ("HYPHEN-MINUS", 0x2D), ("FULL STOP", 0x2E),
   ("SOLIDUS", 0x2F), ("DIGIT ZERO", 0x30), ("DIGIT ONE", 0x31), ("DIGIT TWO", 0x32),
   ("DIGIT THREE", 0x33), ("DIGIT FOUR", 0x34), ("DIGIT FIVE", 0x35), ("DIGIT SIX", 0x36),
   ("DIGIT SEVEN", 0x37), ("DIGIT EIGHT", 0x38), ("DIGIT NINE", 0x39), ("COLON", 0x3A),
   ("SEMICOLON", 0x3B), ("LESS-THAN SIGN", 0x3C), ("EQUALS SIGN", 0x3D),
   ("GREATER-THAN SIGN", 0x3E), ("QUESTION MARK", 0x3F), ("COMMERCIAL AT", 0x40),
   ("LATIN CAPITAL LETTER A", 0x41), ("LATIN CAPITAL LETTER B", 0x42),
   ("LATIN CAPITAL LETTER C", 0x43), ("LATIN CAPITAL LETTER D", 0x44),
   ("LATIN CAPITAL LETTER E", 0x45), ("LATIN CAPITAL LETTER F", 0x46),
   ("LATIN CAPITAL LETTER G", 0x47), ("LATIN CAPITAL LETTER H", 0x48),
   ("LATIN CAPITAL LETTER I", 0x49), ("LATIN CAPITAL LETTER J", 0x4A),
   ("LATIN CAPITAL LETTER K", 0x4B), ("LATIN CAPITAL LETTER L", 0x4C),
   ("LATIN CAPITAL LETTER M", 0x4D), ("LATIN CAPITAL LETTER N", 0x4E),
   ("LATIN CAPITAL LETTER O", 0x4F), ("LATIN CAPITAL LETTER P", 0x50),
   ("LATIN CAPITAL LETTER Q", 0x51), ("LATIN CAPITAL LETTER R", 0x52),
   ("LATIN CAPITAL LETTER S", 0x53), ("LATIN CAPITAL LETTER T", 0x54),
   ("LATIN CAPITAL LETTER U", 0x55), ("LATIN CAPITAL LETTER V", 0x56),
   ("LATIN CAPITAL LETTER W", 0x57), ("LATIN CAPITAL LETTER X", 0x58),
   ("LATIN CAPITAL LETTER Y", 0x59), ("LATIN CAPITAL LETTER Z", 0x5A),
   ("LEFT SQUARE BRACKET", 0x5B), ("REVERSE SOLIDUS", 0x5C), ("RIGHT SQUARE BRACKET", 0x5D),
   ("CIRCUMFLEX ACCENT", 0x5E), ("LOW LINE", 0x5F), ("GRAVE ACCENT", 0x60),
   ("LATIN SMALL LETTER A", 0x61), ("LATIN SMALL LETTER B", 0x62), ("LATIN SMALL LETTER C", 0x63),
   ("LATIN SMALL LETTER D", 0x64), ("LATIN SMALL LETTER E", 0x65), ("LATIN SMALL LETTER F", 0x66),
   ("LATIN SMALL LETTER G", 0x67), ("LATIN SMALL LETTER H", 0x68), ("LATIN SMALL LETTER I", 0x69),
   ("LATIN SMALL LETTER J", 0x6A), ("LATIN SMALL LETTER K", 0x6B), ("LATIN SMALL LETTER L", 0x6C),
   ("LATIN SMALL LETTER M", 0x6D), ("LATIN SMALL LETTER N", 0x6E), ("LATIN SMALL LETTER O", 0x6F),
   ("LATIN SMALL LETTER P", 0x70), ("LATIN SMALL LETTER Q", 0x71), ("LATIN SMALL LETTER R", 0x72),
   ("LATIN SMALL LETTER S", 0x73), ("LATIN SMALL LETTER T", 0x74), ("LATIN SMALL LETTER U", 0x75),
   ("LATIN SMALL LETTER V", 0x76), ("LATIN SMALL LETTER W", 0x77), ("LATIN SMALL LETTER X", 0x78),
   ("LATIN SMALL LETTER Y", 0x79), ("LATIN SMALL LETTER Z", 0x7A), ("LEFT CURLY BRACKET", 0x7B),
   ("VERTICAL LINE", 0x7C), ("RIGHT CURLY BRACKET", 0x7D), ("TILDE", 0x7E),
   ("NO-BREAK SPACE", 0xA0), ("INVERTED EXCLAMATION MARK", 0xA1), ("CENT SIGN", 0xA2),
   ("POUND SIGN", 0xA3), ("CURRENCY SIGN", 0xA4), ("YEN SIGN", 0xA5), ("BROKEN BAR", 0xA6),
   ("SECTION SIGN", 0xA7), ("DIAERESIS", 0xA8), 
   ("FEMININE ORDINAL INDICATOR", 0xAA), ("LEFT-POINTING DOUBLE ANGLE QUOTATION MARK", 0xAB),
   ("NOT SIGN", 0xAC), ("SOFT HYPHEN", 0xAD), ("REGISTERED SIGN", 0xAE), ("MACRON", 0xAF),
   ("DEGREE SIGN", 0xB0), ("PLUS-MINUS SIGN", 0xB1), ("SUPERSCRIPT TWO", 0xB2),
   ("SUPERSCRIPT THREE", 0xB3), ("ACUTE ACCENT", 0xB4), ("MICRO SIGN", 0xB5),
   ("PILCROW SIGN", 0xB6), ("MIDDLE DOT", 0xB7), ("CEDILLA", 0xB8), ("SUPERSCRIPT ONE", 0xB9),
   ("MASCULINE ORDINAL INDICATOR", 0xBA), ("RIGHT-POINTING DOUBLE ANGLE QUOTATION MARK", 0xBB),
   ("VULGAR FRACTION ONE QUARTER", 0xBC), ("VULGAR FRACTION ONE HALF", 0xBD),
   ("VULGAR FRACTION THREE QUARTERS", 0xBE), ("INVERTED QUESTION MARK", 0xBF),
   ("LATIN CAPITAL LETTER A WITH GRAVE", 0xC0), ("LATIN CAPITAL LETTER A WITH ACUTE", 0xC1),
   ("LATIN CAPITAL LETTER A WITH CIRCUMFLEX", 0xC2), ("LATIN CAPITAL LETTER A WITH TILDE", 0xC3),
   ("LATIN CAPITAL LETTER A WITH DIAERESIS", 0xC4),
   ("LATIN CAPITAL LETTER A WITH RING ABOVE", 0xC5), ("LATIN CAPITAL LETTER AE", 0xC6),
   ("LATIN CAPITAL LETTER C WITH CEDILLA", 0xC7), ("LATIN CAPITAL LETTER E WITH GRAVE", 0xC8),
   ("LATIN CAPITAL LETTER E WITH ACUTE", 0xC9), ("LATIN CAPITAL LETTER E WITH CIRCUMFLEX", 0xCA),
   ("LATIN CAPITAL LETTER E WITH DIAERESIS", 0xCB), ("LATIN CAPITAL LETTER I WITH GRAVE", 0xCC),
   ("LATIN CAPITAL LETTER I WITH ACUTE", 0xCD), ("LATIN CAPITAL LETTER I WITH CIRCUMFLEX", 0xCE),
   ("LATIN CAPITAL LETTER I WITH DIAERESIS", 0xCF), ("LATIN CAPITAL LETTER ETH", 0xD0),
   ("LATIN CAPITAL LETTER N WITH TILDE", 0xD1), ("LATIN CAPITAL LETTER O WITH GRAVE", 0xD2),
   ("LATIN CAPITAL LETTER O WITH ACUTE", 0xD3), ("LATIN CAPITAL LETTER O WITH CIRCUMFLEX", 0xD4),
   ("LATIN CAPITAL LETTER O WITH TILDE", 0xD5), ("LATIN CAPITAL LETTER O WITH DIAERESIS", 0xD6),
   ("MULTIPLICATION SIGN", 0xD7), ("LATIN CAPITAL LETTER O WITH STROKE", 0xD8),
   ("LATIN CAPITAL LETTER U WITH GRAVE", 0xD9), ("LATIN CAPITAL LETTER U WITH ACUTE", 0xDA),
   ("LATIN CAPITAL LETTER U WITH CIRCUMFLEX", 0xDB),
   ("LATIN CAPITAL LETTER U WITH DIAERESIS", 0xDC), ("LATIN CAPITAL LETTER Y WITH ACUTE", 0xDD),
   ("LATIN CAPITAL LETTER THORN", 0xDE), ("LATIN SMALL LETTER SHARP S", 0xDF),
   ("LATIN SMALL LETTER A WITH GRAVE", 0xE0), ("LATIN SMALL LETTER A WITH ACUTE", 0xE1),
   ("LATIN SMALL LETTER A WITH CIRCUMFLEX", 0xE2), ("LATIN SMALL LETTER A WITH TILDE", 0xE3),
   ("LATIN SMALL LETTER A WITH DIAERESIS", 0xE4), ("LATIN SMALL LETTER A WITH RING ABOVE", 0xE5),
   ("LATIN SMALL LETTER AE", 0xE6), ("LATIN SMALL LETTER C WITH CEDILLA", 0xE7),
   ("LATIN SMALL LETTER E WITH GRAVE", 0xE8), ("LATIN SMALL LETTER E WITH ACUTE", 0xE9),
   ("LATIN SMALL LETTER E WITH CIRCUMFLEX", 0xEA), ("LATIN SMALL LETTER E WITH DIAERESIS", 0xEB),
   ("LATIN SMALL LETTER I WITH GRAVE", 0xEC), ("LATIN SMALL LETTER I WITH ACUTE", 0xED),
   ("LATIN SMALL LETTER I WITH CIRCUMFLEX", 0xEE), ("LATIN SMALL LETTER I WITH DIAERESIS", 0xEF),
   ("LATIN SMALL LETTER ETH", 0xF0), ("LATIN SMALL LETTER N WITH TILDE", 0xF1),
   ("LATIN SMALL LETTER O WITH GRAVE", 0xF2), ("LATIN SMALL LETTER O WITH ACUTE", 0xF3),
   ("LATIN SMALL LETTER O WITH CIRCUMFLEX", 0xF4), ("LATIN SMALL LETTER O WITH TILDE", 0xF5),
   ("LATIN SMALL LETTER O WITH DIAERESIS", 0xF6), ("DIVISION SIGN", 0xF7),
   ("LATIN SMALL LETTER O WITH STROKE", 0xF8), ("LATIN SMALL LETTER U WITH GRAVE", 0xF9),
   ("LATIN SMALL LETTER U WITH ACUTE", 0xFA), ("LATIN SMALL LETTER U WITH CIRCUMFLEX", 0xFB),
   ("LATIN SMALL LETTER U WITH DIAERESIS", 0xFC), ("LATIN SMALL LETTER Y WITH ACUTE", 0xFD),
   ("LATIN SMALL LETTER THORN", 0xFE), ("LATIN SMALL LETTER Y WITH DIAERESIS", 0xFF),
   ("LATIN CAPITAL LETTER A WITH MACRON", 0x100), ("LATIN SMALL LETTER A WITH MACRON", 0x101),
   ("LATIN CAPITAL LETTER A WITH BREVE", 0x102), ("LATIN SMALL LETTER A WITH BREVE", 0x103),
   ("LATIN CAPITAL LETTER A WITH OGONEK", 0x104), ("LATIN SMALL LETTER A WITH OGONEK", 0x105),
   ("LATIN CAPITAL LETTER C WITH ACUTE", 0x106), ("LATIN SMALL LETTER C WITH ACUTE", 0x107),
   ("LATIN CAPITAL LETTER C WITH CIRCUMFLEX", 0x108),
   ("LATIN SMALL LETTER C WITH CIRCUMFLEX", 0x109),
   ("LATIN CAPITAL LETTER C WITH DOT ABOVE", 0x10A),
   ("LATIN SMALL LETTER C WITH DOT ABOVE", 0x10B), ("LATIN CAPITAL LETTER C WITH CARON", 0x10C),
   ("LATIN SMALL LETTER C WITH CARON", 0x10D), ("LATIN CAPITAL LETTER D WITH CARON", 0x10E),
   ("LATIN SMALL LETTER D WITH CARON", 0x10F), ("LATIN CAPITAL LETTER D WITH STROKE", 0x110),
   ("LATIN SMALL LETTER D WITH STROKE", 0x111), ("LATIN CAPITAL LETTER E WITH MACRON", 0x112),
   ("LATIN SMALL LETTER E WITH MACRON", 0x113), ("LATIN CAPITAL LETTER E WITH BREVE", 0x114),
   ("LATIN SMALL LETTER E WITH BREVE", 0x115), ("LATIN CAPITAL LETTER E WITH DOT ABOVE", 0x116),
   ("LATIN SMALL LETTER E WITH DOT ABOVE", 0x117), ("LATIN CAPITAL LETTER E WITH OGONEK", 0x118),
   ("LATIN SMALL LETTER E WITH OGONEK", 0x119), ("LATIN CAPITAL LETTER E WITH CARON", 0x11A),
   ("LATIN SMALL LETTER E WITH CARON", 0x11B), ("LATIN CAPITAL LETTER G WITH CIRCUMFLEX", 0x11C),
   ("LATIN SMALL LETTER G WITH CIRCUMFLEX", 0x11D), ("LATIN CAPITAL LETTER G WITH BREVE", 0x11E),
   ("LATIN SMALL LETTER G WITH BREVE", 0x11F), ("LATIN CAPITAL LETTER G WITH DOT ABOVE", 0x120),
   ("LATIN SMALL LETTER G WITH DOT ABOVE", 0x121), ("LATIN CAPITAL LETTER G WITH CEDILLA", 0x122),
   ("LATIN SMALL LETTER G WITH CEDILLA", 0x123),
   ("LATIN CAPITAL LETTER H WITH CIRCUMFLEX", 0x124),
   ("LATIN SMALL LETTER H WITH CIRCUMFLEX", 0x125), ("LATIN CAPITAL LETTER H WITH STROKE", 0x126),
   ("LATIN SMALL LETTER H WITH STROKE", 0x127), ("LATIN CAPITAL LETTER I WITH TILDE", 0x128),
   ("LATIN SMALL LETTER I WITH TILDE", 0x129), ("LATIN CAPITAL LETTER I WITH MACRON", 0x12A),
   ("LATIN SMALL LETTER I WITH MACRON", 0x12B), ("LATIN CAPITAL LETTER I WITH BREVE", 0x12C),
   ("LATIN SMALL LETTER I WITH BREVE", 0x12D), ("LATIN CAPITAL LETTER I WITH OGONEK", 0x12E),
   ("LATIN SMALL LETTER I WITH OGONEK", 0x12F), ("LATIN CAPITAL LETTER I WITH DOT ABOVE", 0x130),
   ("LATIN SMALL LETTER DOTLESS I", 0x131), ("LATIN CAPITAL LIGATURE IJ", 0x132),
   ("LATIN SMALL LIGATURE IJ", 0x133), ("LATIN CAPITAL LETTER J WITH CIRCUMFLEX", 0x134),
   ("LATIN SMALL LETTER J WITH CIRCUMFLEX", 0x135),
   ("LATIN CAPITAL LETTER K WITH CEDILLA", 0x136), ("LATIN SMALL LETTER K WITH CEDILLA", 0x137),
   ("LATIN SMALL LETTER KRA", 0x138), ("LATIN CAPITAL LETTER L WITH ACUTE", 0x139),
   ("LATIN SMALL LETTER L WITH ACUTE", 0x13A), ("LATIN CAPITAL LETTER L WITH CEDILLA", 0x13B),
   ("LATIN SMALL LETTER L WITH CEDILLA", 0x13C), ("LATIN CAPITAL LETTER L WITH CARON", 0x13D),
   ("LATIN SMALL LETTER L WITH CARON", 0x13E), ("LATIN CAPITAL LETTER L WITH MIDDLE DOT", 0x13F),
   ("LATIN SMALL LETTER L WITH MIDDLE DOT", 0x140), ("LATIN CAPITAL LETTER L WITH STROKE", 0x141),
   ("LATIN SMALL LETTER L WITH STROKE", 0x142), ("LATIN CAPITAL LETTER N WITH ACUTE", 0x143),
   ("LATIN SMALL LETTER N WITH ACUTE", 0x144), ("LATIN CAPITAL LETTER N WITH CEDILLA", 0x145),
   ("LATIN SMALL LETTER N WITH CEDILLA", 0x146), ("LATIN CAPITAL LETTER N WITH CARON", 0x147),
   ("LATIN SMALL LETTER N WITH CARON", 0x148),
   ("LATIN SMALL LETTER N PRECEDED BY APOSTROPHE", 0x149), ("LATIN CAPITAL LETTER ENG", 0x14A),
   ("LATIN SMALL LETTER ENG", 0x14B), ("LATIN CAPITAL LETTER O WITH MACRON", 0x14C),
   ("LATIN SMALL LETTER O WITH MACRON", 0x14D), ("LATIN CAPITAL LETTER O WITH BREVE", 0x14E),
   ("LATIN SMALL LETTER O WITH BREVE", 0x14F),
   ("LATIN CAPITAL LETTER O WITH DOUBLE ACUTE", 0x150),
   ("LATIN SMALL LETTER O WITH DOUBLE ACUTE", 0x151), ("LATIN CAPITAL LIGATURE OE", 0x152),
   ("LATIN SMALL LIGATURE OE", 0x153), ("LATIN CAPITAL LETTER R WITH ACUTE", 0x154),
   ("LATIN SMALL LETTER R WITH ACUTE", 0x155), ("LATIN CAPITAL LETTER R WITH CEDILLA", 0x156),
   ("LATIN SMALL LETTER R WITH CEDILLA", 0x157), ("LATIN CAPITAL LETTER R WITH CARON", 0x158),
   ("LATIN SMALL LETTER R WITH CARON", 0x159), ("LATIN CAPITAL LETTER S WITH ACUTE", 0x15A),
   ("LATIN SMALL LETTER S WITH ACUTE", 0x15B), ("LATIN CAPITAL LETTER S WITH CIRCUMFLEX", 0x15C),
   ("LATIN SMALL LETTER S WITH CIRCUMFLEX", 0x15D),
   ("LATIN CAPITAL LETTER S WITH CEDILLA", 0x15E), ("LATIN SMALL LETTER S WITH CEDILLA", 0x15F),
   ("LATIN CAPITAL LETTER S WITH CARON", 0x160), ("LATIN SMALL LETTER S WITH CARON", 0x161),
   ("LATIN CAPITAL LETTER T WITH CEDILLA", 0x162), ("LATIN SMALL LETTER T WITH CEDILLA", 0x163),
   ("LATIN CAPITAL LETTER T WITH CARON", 0x164), ("LATIN SMALL LETTER T WITH CARON", 0x165),
   ("LATIN CAPITAL LETTER T WITH STROKE", 0x166), ("LATIN SMALL LETTER T WITH STROKE", 0x167),
   ("LATIN CAPITAL LETTER U WITH TILDE", 0x168), ("LATIN SMALL LETTER U WITH TILDE", 0x169),
   ("LATIN CAPITAL LETTER U WITH MACRON", 0x16A), ("LATIN SMALL LETTER U WITH MACRON", 0x16B),
   ("LATIN CAPITAL LETTER U WITH BREVE", 0x16C), ("LATIN SMALL LETTER U WITH BREVE", 0x16D),
   ("LATIN CAPITAL LETTER U WITH RING ABOVE", 0x16E),
   ("LATIN SMALL LETTER U WITH RING ABOVE", 0x16F),
   ("LATIN CAPITAL LETTER U WITH DOUBLE ACUTE", 0x170),
   ("LATIN SMALL LETTER U WITH DOUBLE ACUTE", 0x171),
   ("LATIN CAPITAL LETTER U WITH OGONEK", 0x172), ("LATIN SMALL LETTER U WITH OGONEK", 0x173),
   ("LATIN CAPITAL LETTER W WITH CIRCUMFLEX", 0x174),
   ("LATIN SMALL LETTER W WITH CIRCUMFLEX", 0x175),
   ("LATIN CAPITAL LETTER Y WITH CIRCUMFLEX", 0x176),
   ("LATIN SMALL LETTER Y WITH CIRCUMFLEX", 0x177),
   ("LATIN CAPITAL LETTER Y WITH DIAERESIS", 0x178), ("LATIN CAPITAL LETTER Z WITH ACUTE", 0x179),
   ("LATIN SMALL LETTER Z WITH ACUTE", 0x17A), ("LATIN CAPITAL LETTER Z WITH DOT ABOVE", 0x17B),
   ("LATIN SMALL LETTER Z WITH DOT ABOVE", 0x17C), ("LATIN CAPITAL LETTER Z WITH CARON", 0x17D),
   ("LATIN SMALL LETTER Z WITH CARON", 0x17E), ("LATIN SMALL LETTER LONG S", 0x17F)]

/-- The names of Greek and Coptic letters. -/
def greekNames : List (String × Nat) :=
  [("GREEK CAPITAL LETTER HETA", 0x370), ("GREEK SMALL LETTER HETA", 0x371),
   ("GREEK CAPITAL LETTER ARCHAIC SAMPI", 0x372), ("GREEK SMALL LETTER ARCHAIC SAMPI", 0x373),
   ("GREEK NUMERAL SIGN", 0x374), ("GREEK LOWER NUMERAL SIGN", 0x375),
   ("GREEK CAPITAL LETTER PAMPHYLIAN DIGAMMA", 0x376),
   ("GREEK SMALL LETTER PAMPHYLIAN DIGAMMA", 0x377), ("GREEK YPOGEGRAMMENI", 0x37A),
   ("GREEK SMALL REVERSED LUNATE SIGMA SYMBOL", 0x37B),
   ("GREEK SMALL DOTTED LUNATE SIGMA SYMBOL", 0x37C),
   ("GREEK SMALL REVERSED DOTTED LUNATE SIGMA SYMBOL", 0x37D), ("GREEK QUESTION MARK", 0x37E),
   ("GREEK CAPITAL LETTER YOT", 0x37F), ("GREEK TONOS", 0x384), ("GREEK DIALYTIKA TONOS", 0x385),
   ("GREEK CAPITAL LETTER ALPHA WITH TONOS", 0x386), ("GREEK ANO TELEIA", 0x387),
   ("GREEK CAPITAL LETTER EPSILON WITH TONOS", 0x388),
   ("GREEK CAPITAL LETTER ETA WITH TONOS", 0x389),
   ("GREEK CAPITAL LETTER IOTA WITH TONOS", 0x38A),
   ("GREEK CAPITAL LETTER OMICRON WITH TONOS", 0x38C),
   ("GREEK CAPITAL LETTER UPSILON WITH TONOS", 0x38E),
   ("GREEK CAPITAL LETTER OMEGA WITH TONOS", 0x38F),
   ("GREEK SMALL LETTER IOTA WITH DIALYTIKA AND TONOS", 0x390),
   ("GREEK CAPITAL LETTER ALPHA", 0x391), ("GREEK CAPITAL LETTER BETA", 0x392),
   ("GREEK CAPITAL LETTER GAMMA", 0x393), ("GREEK CAPITAL LETTER DELTA", 0x394),
   ("GREEK CAPITAL LETTER EPSILON", 0x395), ("GREEK CAPITAL LETTER ZETA", 0x396),
   ("GREEK CAPITAL LETTER ETA", 0x397), ("GREEK CAPITAL LETTER THETA", 0x398),
   ("GREEK CAPITAL LETTER IOTA", 0x399), ("GREEK CAPITAL LETTER KAPPA", 0x39A),
   ("GREEK CAPITAL LETTER LAMDA", 0x39B), ("GREEK CAPITAL LETTER MU", 0x39C),
   ("GREEK CAPITAL LETTER NU", 0x39D), ("GREEK CAPITAL LETTER XI", 0x39E),
   ("GREEK CAPITAL LETTER OMICRON", 0x39F), ("GREEK CAPITAL LETTER PI", 0x3A0),
   ("GREEK CAPITAL LETTER RHO", 0x3A1), ("GREEK CAPITAL LETTER SIGMA", 0x3A3),
   ("GREEK CAPITAL LETTER TAU", 0x3A4), ("GREEK CAPITAL LETTER UPSILON", 0x3A5),
   ("GREEK CAPITAL LETTER PHI", 0x3A6), ("GREEK CAPITAL LETTER CHI", 0x3A7),
   ("GREEK CAPITAL LETTER PSI", 0x3A8), ("GREEK CAPITAL LETTER OMEGA", 0x3A9),
   ("GREEK CAPITAL LETTER IOTA WITH DIALYTIKA", 0x3AA),
   ("GREEK CAPITAL LETTER UPSILON WITH DIALYTIKA", 0x3AB),
   ("GREEK SMALL LETTER ALPHA WITH TONOS", 0x3AC),
   ("GREEK SMALL LETTER EPSILON WITH TONOS", 0x3AD), ("GREEK SMALL LETTER ETA WITH TONOS", 0x3AE),
   ("GREEK SMALL LETTER IOTA WITH TONOS", 0x3AF),
   ("GREEK SMALL LETTER UPSILON WITH DIALYTIKA AND TONOS", 0x3B0),
   ("GREEK SMALL LETTER ALPHA", 0x3B1), ("GREEK SMALL LETTER BETA", 0x3B2),
   ("GREEK SMALL LETTER GAMMA", 0x3B3), ("GREEK SMALL LETTER DELTA", 0x3B4),
   ("GREEK SMALL LETTER EPSILON", 0x3B5), ("GREEK SMALL LETTER ZETA", 0x3B6),
   ("GREEK SMALL LETTER ETA", 0x3B7), ("GREEK SMALL LETTER THETA", 0x3B8),
   ("GREEK SMALL LETTER IOTA", 0x3B9), ("GREEK SMALL LETTER KAPPA", 0x3BA),
   ("GREEK SMALL LETTER LAMDA", 0x3BB), ("GREEK SMALL LETTER MU", 0x3BC),
   ("GREEK SMALL LETTER NU", 0x3BD), ("GREEK SMALL LETTER XI", 0x3BE),
   ("GREEK SMALL LETTER OMICRON", 0x3BF), ("GREEK SMALL LETTER PI", 0x3C0),
   ("GREEK SMALL LETTER RHO", 0x3C1), ("GREEK SMALL LETTER FINAL SIGMA", 0x3C2),
   ("GREEK SMALL LETTER SIGMA", 0x3C3), ("GREEK SMALL LETTER TAU", 0x3C4),
   ("GREEK SMALL LETTER UPSILON", 0x3C5), ("GREEK SMALL LETTER PHI", 0x3C6),
   ("GREEK SMALL LETTER CHI", 0x3C7), ("GREEK SMALL LETTER PSI", 0x3C8),
   ("GREEK SMALL LETTER OMEGA", 0x3C9), ("GREEK SMALL LETTER IOTA WITH DIALYTIKA", 0x3CA),
   ("GREEK SMALL LETTER UPSILON WITH DIALYTIKA", 0x3CB),
   ("GREEK SMALL LETTER OMICRON WITH TONOS", 0x3CC),
   ("GREEK SMALL LETTER UPSILON WITH TONOS", 0x3CD),
   ("GREEK SMALL LETTER OMEGA WITH TONOS", 0x3CE), ("GREEK CAPITAL KAI SYMBOL", 0x3CF),
   ("GREEK BETA SYMBOL", 0x3D0), ("GREEK THETA SYMBOL", 0x3D1),
   ("GREEK UPSILON WITH HOOK SYMBOL", 0x3D2), ("GREEK UPSILON WITH ACUTE AND HOOK SYMBOL", 0x3D3),
   ("GREEK UPSILON WITH DIAERESIS AND HOOK SYMBOL", 0x3D4), ("GREEK PHI SYMBOL", 0x3D5),
   ("GREEK PI SYMBOL", 0x3D6), ("GREEK KAI SYMBOL", 0x3D7), ("GREEK LETTER ARCHAIC KOPPA", 0x3D8),
   ("GREEK SMALL LETTER ARCHAIC KOPPA", 0x3D9), ("GREEK LETTER STIGMA", 0x3DA),
   ("GREEK SMALL LETTER STIGMA", 0x3DB), ("GREEK LETTER DIGAMMA", 0x3DC),
   ("GREEK SMALL LETTER DIGAMMA", 0x3DD), ("GREEK LETTER KOPPA", 0x3DE),
   ("GREEK SMALL LETTER KOPPA", 0x3DF), ("GREEK LETTER SAMPI", 0x3E0),
   ("GREEK SMALL LETTER SAMPI", 0x3E1), ("COPTIC CAPITAL LETTER SHEI", 0x3E2),
   ("COPTIC SMALL LETTER SHEI", 0x3E3), ("COPTIC CAPITAL LETTER FEI", 0x3E4),
   ("COPTIC SMALL LETTER FEI", 0x3E5), ("COPTIC CAPITAL LETTER KHEI", 0x3E6),
   ("COPTIC SMALL LETTER KHEI", 0x3E7), ("COPTIC CAPITAL LETTER HORI", 0x3E8),
   ("COPTIC SMALL LETTER HORI", 0x3E9), ("COPTIC CAPITAL LETTER GANGIA", 0x3EA),
   ("COPTIC SMALL LETTER GANGIA", 0x3EB), ("COPTIC CAPITAL LETTER SHIMA", 0x3EC),
   ("COPTIC SMALL LETTER SHIMA", 0x3ED), ("COPTIC CAPITAL LETTER DEI", 0x3EE),
   ("COPTIC SMALL LETTER DEI", 0x3EF), ("GREEK KAPPA SYMBOL", 0x3F0), ("GREEK RHO SYMBOL", 0x3F1),
   ("GREEK LUNATE SIGMA SYMBOL", 0x3F2), ("GREEK LETTER YOT", 0x3F3),
   ("GREEK CAPITAL THETA SYMBOL", 0x3F4), ("GREEK LUNATE EPSILON SYMBOL", 0x3F5),
   ("GREEK REVERSED LUNATE EPSILON SYMBOL", 0x3F6), ("GREEK CAPITAL LETTER SHO", 0x3F7),
   ("GREEK SMALL LETTER SHO", 0x3F8), ("GREEK CAPITAL LUNATE SIGMA SYMBOL", 0x3F9),
   ("GREEK CAPITAL LETTER SAN", 0x3FA), ("GREEK SMALL LETTER SAN", 0x3FB),
   ("GREEK RHO WITH STROKE SYMBOL", 0x3FC), ("GREEK CAPITAL REVERSED LUNATE SIGMA SYMBOL", 0x3FD),
   ("GREEK CAPITAL DOTTED LUNATE SIGMA SYMBOL", 0x3FE),
   ("GREEK CAPITAL REVERSED DOTTED LUNATE SIGMA SYMBOL", 0x3FF)]

/-- The names of Cyrillic letters. -/
def cyrillicNames : List (String × Nat) :=
  [("CYRILLIC CAPITAL LETTER IE WITH GRAVE", 0x400), ("CYRILLIC CAPITAL LETTER IO", 0x401),
   ("CYRILLIC CAPITAL LETTER DJE", 0x402), ("CYRILLIC CAPITAL LETTER GJE", 0x403),
   ("CYRILLIC CAPITAL LETTER UKRAINIAN IE", 0x404), ("CYRILLIC CAPITAL LETTER DZE", 0x405),
   ("CYRILLIC CAPITAL LETTER BYELORUSSIAN-UKRAINIAN I", 0x406),
   ("CYRILLIC CAPITAL LETTER YI", 0x407), ("CYRILLIC CAPITAL LETTER JE", 0x408),
   ("CYRILLIC CAPITAL LETTER LJE", 0x409), ("CYRILLIC CAPITAL LETTER NJE", 0x40A),
   ("CYRILLIC CAPITAL LETTER TSHE", 0x40B), ("CYRILLIC CAPITAL LETTER KJE", 0x40C),
   ("CYRILLIC CAPITAL LETTER I WITH GRAVE", 0x40D), ("CYRILLIC CAPITAL LETTER SHORT U", 0x40E),
   ("CYRILLIC CAPITAL LETTER DZHE", 0x40F), ("CYRILLIC CAPITAL LETTER A", 0x410),
   ("CYRILLIC CAPITAL LETTER BE", 0x411), ("CYRILLIC CAPITAL LETTER VE", 0x412),
   ("CYRILLIC CAPITAL LETTER GHE", 0x413), ("CYRILLIC CAPITAL LETTER DE", 0x414),
   ("CYRILLIC CAPITAL LETTER IE", 0x415), ("CYRILLIC CAPITAL LETTER ZHE", 0x416),
   ("CYRILLIC CAPITAL LETTER ZE", 0x417), ("CYRILLIC CAPITAL LETTER I", 0x418),
   ("CYRILLIC CAPITAL LETTER SHORT I", 0x419), ("CYRILLIC CAPITAL LETTER KA", 0x41A),
   ("CYRILLIC CAPITAL LETTER EL", 0x41B), ("CYRILLIC CAPITAL LETTER EM", 0x41C),
   ("CYRILLIC CAPITAL LETTER EN", 0x41D), ("CYRILLIC CAPITAL LETTER O", 0x41E),
   ("CYRILLIC CAPITAL LETTER PE", 0x41F), ("CYRILLIC CAPITAL LETTER ER", 0x420),
   ("CYRILLIC CAPITAL LETTER ES", 0x421), ("CYRILLIC CAPITAL LETTER TE", 0x422),
   ("CYRILLIC CAPITAL LETTER U", 0x423), ("CYRILLIC CAPITAL LETTER EF", 0x424),
   ("CYRILLIC CAPITAL LETTER HA", 0x425), ("CYRILLIC CAPITAL LETTER TSE", 0x426),
   ("CYRILLIC CAPITAL LETTER CHE", 0x427), ("CYRILLIC CAPITAL LETTER SHA", 0x428),
   ("CYRILLIC CAPITAL LETTER SHCHA", 0x429), ("CYRILLIC CAPITAL LETTER HARD SIGN", 0x42A),
   ("CYRILLIC CAPITAL LETTER YERU", 0x42B), ("CYRILLIC CAPITAL LETTER SOFT SIGN", 0x42C),
   ("CYRILLIC CAPITAL LETTER E", 0x42D), ("CYRILLIC CAPITAL LETTER YU", 0x42E),
   ("CYRILLIC CAPITAL LETTER YA", 0x42F), ("CYRILLIC SMALL LETTER A", 0x430),
   ("CYRILLIC SMALL LETTER BE", 0x431), ("CYRILLIC SMALL LETTER VE", 0x432),
   ("CYRILLIC SMALL LETTER GHE", 0x433), ("CYRILLIC SMALL LETTER DE", 0x434),
   ("CYRILLIC SMALL LETTER IE", 0x435), ("CYRILLIC SMALL LETTER ZHE", 0x436),
   ("CYRILLIC SMALL LETTER ZE", 0x437), ("CYRILLIC SMALL LETTER I", 0x438),
   ("CYRILLIC SMALL LETTER SHORT I", 0x439), ("CYRILLIC SMALL LETTER KA", 0x43A),
   ("CYRILLIC SMALL LETTER EL", 0x43B), ("CYRILLIC SMALL LETTER EM", 0x43C),
   ("CYRILLIC SMALL LETTER EN", 0x43D), ("CYRILLIC SMALL LETTER O", 0x43E),
   ("CYRILLIC SMALL LETTER PE", 0x43F), ("CYRILLIC SMALL LETTER ER", 0x440),
   ("CYRILLIC SMALL LETTER ES", 0x441), ("CYRILLIC SMALL LETTER TE", 0x442),
   ("CYRILLIC SMALL LETTER U", 0x443), ("CYRILLIC SMALL LETTER EF", 0x444),
   ("CYRILLIC SMALL LETTER HA", 0x445), ("CYRILLIC SMALL LETTER TSE", 0x446),
   ("CYRILLIC SMALL LETTER CHE", 0x447), ("CYRILLIC SMALL LETTER SHA", 0x448),
   ("CYRILLIC SMALL LETTER SHCHA", 0x449), ("CYRILLIC SMALL LETTER HARD SIGN", 0x44A),
   ("CYRILLIC SMALL LETTER YERU", 0x44B), ("CYRILLIC SMALL LETTER SOFT SIGN", 0x44C),
   ("CYRILLIC SMALL LETTER E", 0x44D), ("CYRILLIC SMALL LETTER YU", 0x44E),
   ("CYRILLIC SMALL LETTER YA", 0x44F), ("CYRILLIC SMALL LETTER IE WITH GRAVE", 0x450),
   ("CYRILLIC SMALL LETTER IO", 0x451), ("CYRILLIC SMALL LETTER DJE", 0x452),
   ("CYRILLIC SMALL LETTER GJE", 0x453), ("CYRILLIC SMALL LETTER UKRAINIAN IE", 0x454),
   ("CYRILLIC SMALL LETTER DZE", 0x455),
   ("CYRILLIC SMALL LETTER BYELORUSSIAN-UKRAINIAN I", 0x456), ("CYRILLIC SMALL LETTER YI", 0x457),
   ("CYRILLIC SMALL LETTER JE", 0x458), ("CYRILLIC SMALL LETTER LJE", 0x459),
   ("CYRILLIC SMALL LETTER NJE", 0x45A), ("CYRILLIC SMALL LETTER TSHE", 0x45B),
   ("CYRILLIC SMALL LETTER KJE", 0x45C), ("CYRILLIC SMALL LETTER I WITH GRAVE", 0x45D),
   ("CYRILLIC SMALL LETTER SHORT U", 0x45E), ("CYRILLIC SMALL LETTER DZHE", 0x45F)]

/-- The names of punctuation and currency signs. -/
def punctuationNames : List (String × Nat) :=
  [("HYPHEN", 0x2010), ("NON-BREAKING HYPHEN", 0x2011), ("FIGURE DASH", 0x2012),
   ("EN DASH", 0x2013), ("EM DASH", 0x2014), ("HORIZONTAL BAR", 0x2015),
   ("DOUBLE VERTICAL LINE", 0x2016), ("DOUBLE LOW LINE", 0x2017),
   ("LEFT SINGLE QUOTATION MARK", 0x2018), ("RIGHT SINGLE QUOTATION MARK", 0x2019),
   ("SINGLE LOW-9 QUOTATION MARK", 0x201A), ("SINGLE HIGH-REVERSED-9 QUOTATION MARK", 0x201B),
   ("LEFT DOUBLE QUOTATION MARK", 0x201C), ("RIGHT DOUBLE QUOTATION MARK", 0x201D),
   ("DOUBLE LOW-9 QUOTATION MARK", 0x201E), ("DOUBLE HIGH-REVERSED-9 QUOTATION MARK", 0x201F),
   ("DAGGER", 0x2020), ("DOUBLE DAGGER", 0x2021), ("BULLET", 0x2022),
   ("TRIANGULAR BULLET", 0x2023), ("ONE DOT LEADER", 0x2024), ("TWO DOT LEADER", 0x2025),
   ("HORIZONTAL ELLIPSIS", 0x2026), ("HYPHENATION POINT", 0x2027), ("PER MILLE SIGN", 0x2030),
   ("PER TEN THOUSAND SIGN", 0x2031), ("PRIME", 0x2032), ("DOUBLE PRIME", 0x2033),
   ("TRIPLE PRIME", 0x2034), ("REVERSED PRIME", 0x2035), ("REVERSED DOUBLE PRIME", 0x2036),
   ("REVERSED TRIPLE PRIME", 0x2037), ("CARET", 0x2038),
   ("SINGLE LEFT-POINTING ANGLE QUOTATION MARK", 0x2039),
   ("SINGLE RIGHT-POINTING ANGLE QUOTATION MARK", 0x203A), ("REFERENCE MARK", 0x203B),
   ("DOUBLE EXCLAMATION MARK", 0x203C), ("INTERROBANG", 0x203D), ("OVERLINE", 0x203E),
   ("UNDERTIE", 0x203F), ("CHARACTER TIE", 0x2040), ("CARET INSERTION POINT", 0x2041),
   ("ASTERISM", 0x2042), ("HYPHEN BULLET", 0x2043), ("FRACTION SLASH", 0x2044),
   ("LEFT SQUARE BRACKET WITH QUILL", 0x2045), ("RIGHT SQUARE BRACKET WITH QUILL", 0x2046),
   ("DOUBLE QUESTION MARK", 0x2047), ("QUESTION EXCLAMATION MARK", 0x2048),
   ("EXCLAMATION QUESTION MARK", 0x2049), ("TIRONIAN SIGN ET", 0x204A),
   ("REVERSED PILCROW SIGN", 0x204B), ("BLACK LEFTWARDS BULLET", 0x204C),
   ("BLACK RIGHTWARDS BULLET", 0x204D), ("LOW ASTERISK", 0x204E), ("REVERSED SEMICOLON", 0x204F),
   ("CLOSE UP", 0x2050), ("TWO ASTERISKS ALIGNED VERTICALLY", 0x2051),
   ("COMMERCIAL MINUS SIGN", 0x2052), ("SWUNG DASH", 0x2053), ("INVERTED UNDERTIE", 0x2054),
   ("FLOWER PUNCTUATION MARK", 0x2055), ("THREE DOT PUNCTUATION", 0x2056),
   ("QUADRUPLE PRIME", 0x2057), ("FOUR DOT PUNCTUATION", 0x2058),
   ("FIVE DOT PUNCTUATION", 0x2059), ("TWO DOT PUNCTUATION", 0x205A), ("FOUR DOT MARK", 0x205B),
   ("DOTTED CROSS", 0x205C), ("TRICOLON", 0x205D), ("VERTICAL FOUR DOTS", 0x205E),
   ("EURO-CURRENCY SIGN", 0x20A0), ("COLON SIGN", 0x20A1), ("CRUZEIRO SIGN", 0x20A2),
   ("FRENCH FRANC SIGN", 0x20A3), ("LIRA SIGN", 0x20A4), ("MILL SIGN", 0x20A5),
   ("NAIRA SIGN", 0x20A6), ("PESETA SIGN", 0x20A7), ("RUPEE SIGN", 0x20A8), ("WON SIGN", 0x20A9),
   ("NEW SHEQEL SIGN", 0x20AA), ("DONG SIGN", 0x20AB), ("EURO SIGN", 0x20AC),
   ("KIP SIGN", 0x20AD), ("TUGRIK SIGN", 0x20AE), ("DRACHMA SIGN", 0x20AF),
   ("GERMAN PENNY SIGN", 0x20B0), ("PESO SIGN", 0x20B1), ("GUARANI SIGN", 0x20B2),
   ("AUSTRAL SIGN", 0x20B3), ("HRYVNIA SIGN", 0x20B4), ("CEDI SIGN", 0x20B5),
   ("LIVRE TOURNOIS SIGN", 0x20B6), ("SPESMILO SIGN", 0x20B7), ("TENGE SIGN", 0x20B8),
   ("INDIAN RUPEE SIGN", 0x20B9), ("TURKISH LIRA SIGN", 0x20BA), ("NORDIC MARK SIGN", 0x20BB),
   ("MANAT SIGN", 0x20BC), ("RUBLE SIGN", 0x20BD), ("LARI SIGN", 0x20BE),
   ("BITCOIN SIGN", 0x20BF)]

/-- The names of arrows and operators. -/
def arrowNames : List (String × Nat) :=
  [("LEFTWARDS ARROW", 0x2190), ("UPWARDS ARROW", 0x2191), ("RIGHTWARDS ARROW", 0x2192),
   ("DOWNWARDS ARROW", 0x2193), ("LEFT RIGHT ARROW", 0x2194), ("UP DOWN ARROW", 0x2195),
   ("NORTH WEST ARROW", 0x2196), ("NORTH EAST ARROW", 0x2197), ("SOUTH EAST ARROW", 0x2198),
   ("SOUTH WEST ARROW", 0x2199), ("LEFTWARDS ARROW WITH STROKE", 0x219A),
   ("RIGHTWARDS ARROW WITH STROKE", 0x219B), ("LEFTWARDS WAVE ARROW", 0x219C),
   ("RIGHTWARDS WAVE ARROW", 0x219D), ("LEFTWARDS TWO HEADED ARROW", 0x219E),
   ("UPWARDS TWO HEADED ARROW", 0x219F), ("RIGHTWARDS TWO HEADED ARROW", 0x21A0),
   ("DOWNWARDS TWO HEADED ARROW", 0x21A1), ("LEFTWARDS ARROW WITH TAIL", 0x21A2),
   ("RIGHTWARDS ARROW WITH TAIL", 0x21A3), ("LEFTWARDS ARROW FROM BAR", 0x21A4),
   ("UPWARDS ARROW FROM BAR", 0x21A5), ("RIGHTWARDS ARROW FROM BAR", 0x21A6),
   ("DOWNWARDS ARROW FROM BAR", 0x21A7), ("UP DOWN ARROW WITH BASE", 0x21A8),
   ("LEFTWARDS ARROW WITH HOOK", 0x21A9), ("RIGHTWARDS ARROW WITH HOOK", 0x21AA),
   ("LEFTWARDS ARROW WITH LOOP", 0x21AB), ("RIGHTWARDS ARROW WITH LOOP", 0x21AC),
   ("LEFT RIGHT WAVE ARROW", 0x21AD), ("LEFT RIGHT ARROW WITH STROKE", 0x21AE),
   ("DOWNWARDS ZIGZAG ARROW", 0x21AF), ("UPWARDS ARROW WITH TIP LEFTWARDS", 0x21B0),
   ("UPWARDS ARROW WITH TIP RIGHTWARDS", 0x21B1), ("DOWNWARDS ARROW WITH TIP LEFTWARDS", 0x21B2),
   ("DOWNWARDS ARROW WITH TIP RIGHTWARDS", 0x21B3),
   ("RIGHTWARDS ARROW WITH CORNER DOWNWARDS", 0x21B4),
   ("DOWNWARDS ARROW WITH CORNER LEFTWARDS", 0x21B5),
   ("ANTICLOCKWISE TOP SEMICIRCLE ARROW", 0x21B6), ("CLOCKWISE TOP SEMICIRCLE ARROW", 0x21B7),
   ("NORTH WEST ARROW TO LONG BAR", 0x21B8),
   ("LEFTWARDS ARROW TO BAR OVER RIGHTWARDS ARROW TO BAR", 0x21B9),
   ("ANTICLOCKWISE OPEN CIRCLE ARROW", 0x21BA), ("CLOCKWISE OPEN CIRCLE ARROW", 0x21BB),
   ("LEFTWARDS HARPOON WITH BARB UPWARDS", 0x21BC),
   ("LEFTWARDS HARPOON WITH BARB DOWNWARDS", 0x21BD),
   ("UPWARDS HARPOON WITH BARB RIGHTWARDS", 0x21BE),
   ("UPWARDS HARPOON WITH BARB LEFTWARDS", 0x21BF),
   ("RIGHTWARDS HARPOON WITH BARB UPWARDS", 0x21C0),
   ("RIGHTWARDS HARPOON WITH BARB DOWNWARDS", 0x21C1),
   ("DOWNWARDS HARPOON WITH BARB RIGHTWARDS", 0x21C2),
   ("DOWNWARDS HARPOON WITH BARB LEFTWARDS", 0x21C3),
   ("RIGHTWARDS ARROW OVER LEFTWARDS ARROW", 0x21C4),
   ("UPWARDS ARROW LEFTWARDS OF DOWNWARDS ARROW", 0x21C5),
   ("LEFTWARDS ARROW OVER RIGHTWARDS ARROW", 0x21C6), ("LEFTWARDS PAIRED ARROWS", 0x21C7),
   ("UPWARDS PAIRED ARROWS", 0x21C8), ("RIGHTWARDS PAIRED ARROWS", 0x21C9),
   ("DOWNWARDS PAIRED ARROWS", 0x21CA), ("LEFTWARDS HARPOON OVER RIGHTWARDS HARPOON", 0x21CB),
   ("RIGHTWARDS HARPOON OVER LEFTWARDS HARPOON", 0x21CC),
   ("LEFTWARDS DOUBLE ARROW WITH STROKE", 0x21CD),
   ("LEFT RIGHT DOUBLE ARROW WITH STROKE", 0x21CE),
   ("RIGHTWARDS DOUBLE ARROW WITH STROKE", 0x21CF), ("LEFTWARDS DOUBLE ARROW", 0x21D0),
   ("UPWARDS DOUBLE ARROW", 0x21D1), ("RIGHTWARDS DOUBLE ARROW", 0x21D2),
   ("DOWNWARDS DOUBLE ARROW", 0x21D3), ("LEFT RIGHT DOUBLE ARROW", 0x21D4),
   ("UP DOWN DOUBLE ARROW", 0x21D5), ("NORTH WEST DOUBLE ARROW", 0x21D6),
   ("NORTH EAST DOUBLE ARROW", 0x21D7), ("SOUTH EAST DOUBLE ARROW", 0x21D8),
   ("SOUTH WEST DOUBLE ARROW", 0x21D9), ("LEFTWARDS TRIPLE ARROW", 0x21DA),
   ("RIGHTWARDS TRIPLE ARROW", 0x21DB), ("LEFTWARDS SQUIGGLE ARROW", 0x21DC),
   ("RIGHTWARDS SQUIGGLE ARROW", 0x21DD), ("UPWARDS ARROW WITH DOUBLE STROKE", 0x21DE),
   ("DOWNWARDS ARROW WITH DOUBLE STROKE", 0x21DF), ("LEFTWARDS DASHED ARROW", 0x21E0),
   ("UPWARDS DASHED ARROW", 0x21E1), ("RIGHTWARDS DASHED ARROW", 0x21E2),
   ("DOWNWARDS DASHED ARROW", 0x21E3), ("LEFTWARDS ARROW TO BAR", 0x21E4),
   ("RIGHTWARDS ARROW TO BAR", 0x21E5), ("LEFTWARDS WHITE ARROW", 0x21E6),
   ("UPWARDS WHITE ARROW", 0x21E7), ("RIGHTWARDS WHITE ARROW", 0x21E8),
   ("DOWNWARDS WHITE ARROW", 0x21E9), ("UPWARDS WHITE ARROW FROM BAR", 0x21EA),
   ("UPWARDS WHITE ARROW ON PEDESTAL", 0x21EB),
   ("UPWARDS WHITE ARROW ON PEDESTAL WITH HORIZONTAL BAR", 0x21EC),
   ("UPWARDS WHITE ARROW ON PEDESTAL WITH VERTICAL BAR", 0x21ED),
   ("UPWARDS WHITE DOUBLE ARROW", 0x21EE), ("UPWARDS WHITE DOUBLE ARROW ON PEDESTAL", 0x21EF),
   ("RIGHTWARDS WHITE ARROW FROM WALL", 0x21F0), ("NORTH WEST ARROW TO CORNER", 0x21F1),
   ("SOUTH EAST ARROW TO CORNER", 0x21F2), ("UP DOWN WHITE ARROW", 0x21F3),
   ("RIGHT ARROW WITH SMALL CIRCLE", 0x21F4),
   ("DOWNWARDS ARROW LEFTWARDS OF UPWARDS ARROW", 0x21F5), ("THREE RIGHTWARDS ARROWS", 0x21F6),
   ("LEFTWARDS ARROW WITH VERTICAL STROKE", 0x21F7),
   ("RIGHTWARDS ARROW WITH VERTICAL STROKE", 0x21F8),
   ("LEFT RIGHT ARROW WITH VERTICAL STROKE", 0x21F9),
   ("LEFTWARDS ARROW WITH DOUBLE VERTICAL STROKE", 0x21FA),
   ("RIGHTWARDS ARROW WITH DOUBLE VERTICAL STROKE", 0x21FB),
   ("LEFT RIGHT ARROW WITH DOUBLE VERTICAL STROKE", 0x21FC),
   ("LEFTWARDS OPEN-HEADED ARROW", 0x21FD), ("RIGHTWARDS OPEN-HEADED ARROW", 0x21FE),
   ("LEFT RIGHT OPEN-HEADED ARROW", 0x21FF), ("FOR ALL", 0x2200), ("COMPLEMENT", 0x2201),
   ("PARTIAL DIFFERENTIAL", 0x2202), ("THERE EXISTS", 0x2203), ("THERE DOES NOT EXIST", 0x2204),
   ("EMPTY SET", 0x2205), ("INCREMENT", 0x2206), ("NABLA", 0x2207), ("ELEMENT OF", 0x2208),
   ("NOT AN ELEMENT OF", 0x2209), ("SMALL ELEMENT OF", 0x220A), ("CONTAINS AS MEMBER", 0x220B),
   ("DOES NOT CONTAIN AS MEMBER", 0x220C), ("SMALL CONTAINS AS MEMBER", 0x220D),
   ("END OF PROOF", 0x220E), ("N-ARY PRODUCT", 0x220F), ("N-ARY COPRODUCT", 0x2210),
   ("N-ARY SUMMATION", 0x2211), ("MINUS SIGN", 0x2212), ("MINUS-OR-PLUS SIGN", 0x2213),
   ("DOT PLUS", 0x2214), ("DIVISION SLASH", 0x2215), ("SET MINUS", 0x2216),
   ("ASTERISK OPERATOR", 0x2217), ("RING OPERATOR", 0x2218), ("BULLET OPERATOR", 0x2219),
   ("SQUARE ROOT", 0x221A), ("CUBE ROOT", 0x221B), ("FOURTH ROOT", 0x221C),
   ("PROPORTIONAL TO", 0x221D), ("INFINITY", 0x221E), ("RIGHT ANGLE", 0x221F), ("ANGLE", 0x2220),
   ("MEASURED ANGLE", 0x2221), ("SPHERICAL ANGLE", 0x2222), ("DIVIDES", 0x2223),
   ("DOES NOT DIVIDE", 0x2224), ("PARALLEL TO", 0x2225), ("NOT PARALLEL TO", 0x2226),
   ("LOGICAL AND", 0x2227), ("LOGICAL OR", 0x2228), ("INTERSECTION", 0x2229), ("UNION", 0x222A),
   ("INTEGRAL", 0x222B), ("DOUBLE INTEGRAL", 0x222C), ("TRIPLE INTEGRAL", 0x222D),
   ("CONTOUR INTEGRAL", 0x222E), ("SURFACE INTEGRAL", 0x222F), ("VOLUME INTEGRAL", 0x2230),
   ("CLOCKWISE INTEGRAL", 0x2231), ("CLOCKWISE CONTOUR INTEGRAL", 0x2232),
   ("ANTICLOCKWISE CONTOUR INTEGRAL", 0x2233), ("THEREFORE", 0x2234), ("BECAUSE", 0x2235),
   ("RATIO", 0x2236), ("PROPORTION", 0x2237), ("DOT MINUS", 0x2238), ("EXCESS", 0x2239),
   ("GEOMETRIC PROPORTION", 0x223A), ("HOMOTHETIC", 0x223B), ("TILDE OPERATOR", 0x223C),
   ("REVERSED TILDE", 0x223D), ("INVERTED LAZY S", 0x223E), ("SINE WAVE", 0x223F),
   ("WREATH PRODUCT", 0x2240), ("NOT TILDE", 0x2241), ("MINUS TILDE", 0x2242),
   ("ASYMPTOTICALLY EQUAL TO", 0x2243), ("NOT ASYMPTOTICALLY EQUAL TO", 0x2244),
   ("APPROXIMATELY EQUAL TO", 0x2245), ("APPROXIMATELY BUT NOT ACTUALLY EQUAL TO", 0x2246),
   ("NEITHER APPROXIMATELY NOR ACTUALLY EQUAL TO", 0x2247), ("ALMOST EQUAL TO", 0x2248),
   ("NOT ALMOST EQUAL TO", 0x2249), ("ALMOST EQUAL OR EQUAL TO", 0x224A),
   ("TRIPLE TILDE", 0x224B), ("ALL EQUAL TO", 0x224C), ("EQUIVALENT TO", 0x224D),
   ("GEOMETRICALLY EQUIVALENT TO", 0x224E), ("DIFFERENCE BETWEEN", 0x224F),
   ("APPROACHES THE LIMIT", 0x2250), ("GEOMETRICALLY EQUAL TO", 0x2251),
   ("APPROXIMATELY EQUAL TO OR THE IMAGE OF", 0x2252),
   ("IMAGE OF OR APPROXIMATELY EQUAL TO", 0x2253), ("COLON EQUALS", 0x2254),
   ("EQUALS COLON", 0x2255), ("RING IN EQUAL TO", 0x2256), ("RING EQUAL TO", 0x2257),
   ("CORRESPONDS TO", 0x2258), ("ESTIMATES", 0x2259), ("EQUIANGULAR TO", 0x225A),
   ("STAR EQUALS", 0x225B), ("DELTA EQUAL TO", 0x225C), ("EQUAL TO BY DEFINITION", 0x225D),
   ("MEASURED BY", 0x225E), ("QUESTIONED EQUAL TO", 0x225F), ("NOT EQUAL TO", 0x2260),
   ("IDENTICAL TO", 0x2261), ("NOT IDENTICAL TO", 0x2262), ("STRICTLY EQUIVALENT TO", 0x2263),
   ("LESS-THAN OR EQUAL TO", 0x2264), ("GREATER-THAN OR EQUAL TO", 0x2265),
   ("LESS-THAN OVER EQUAL TO", 0x2266), ("GREATER-THAN OVER EQUAL TO", 0x2267),
   ("LESS-THAN BUT NOT EQUAL TO", 0x2268), ("GREATER-THAN BUT NOT EQUAL TO", 0x2269),
   ("MUCH LESS-THAN", 0x226A), ("MUCH GREATER-THAN", 0x226B), ("BETWEEN", 0x226C),
   ("NOT EQUIVALENT TO", 0x226D), ("NOT LESS-THAN", 0x226E), ("NOT GREATER-THAN", 0x226F),
   ("NEITHER LESS-THAN NOR EQUAL TO", 0x2270), ("NEITHER GREATER-THAN NOR EQUAL TO", 0x2271),
   ("LESS-THAN OR EQUIVALENT TO", 0x2272), ("GREATER-THAN OR EQUIVALENT TO", 0x2273),
   ("NEITHER LESS-THAN NOR EQUIVALENT TO", 0x2274),
   ("NEITHER GREATER-THAN NOR EQUIVALENT TO", 0x2275), ("LESS-THAN OR GREATER-THAN", 0x2276),
   ("GREATER-THAN OR LESS-THAN", 0x2277), ("NEITHER LESS-THAN NOR GREATER-THAN", 0x2278),
   ("NEITHER GREATER-THAN NOR LESS-THAN", 0x2279), ("PRECEDES", 0x227A), ("SUCCEEDS", 0x227B),
   ("PRECEDES OR EQUAL TO", 0x227C), ("SUCCEEDS OR EQUAL TO", 0x227D),
   ("PRECEDES OR EQUIVALENT TO", 0x227E), ("SUCCEEDS OR EQUIVALENT TO", 0x227F),
   ("DOES NOT PRECEDE", 0x2280), ("DOES NOT SUCCEED", 0x2281), ("SUBSET OF", 0x2282),
   ("SUPERSET OF", 0x2283), ("NOT A SUBSET OF", 0x2284), ("NOT A SUPERSET OF", 0x2285),
   ("SUBSET OF OR EQUAL TO", 0x2286), ("SUPERSET OF OR EQUAL TO", 0x2287),
   ("NEITHER A SUBSET OF NOR EQUAL TO", 0x2288), ("NEITHER A SUPERSET OF NOR EQUAL TO", 0x2289),
   ("SUBSET OF WITH NOT EQUAL TO", 0x228A), ("SUPERSET OF WITH NOT EQUAL TO", 0x228B),
   ("MULTISET", 0x228C), ("MULTISET MULTIPLICATION", 0x228D), ("MULTISET UNION", 0x228E),
   ("SQUARE IMAGE OF", 0x228F), ("SQUARE ORIGINAL OF", 0x2290),
   ("SQUARE IMAGE OF OR EQUAL TO", 0x2291), ("SQUARE ORIGINAL OF OR EQUAL TO", 0x2292),
   ("SQUARE CAP", 0x2293), ("SQUARE CUP", 0x2294), ("CIRCLED PLUS", 0x2295),
   ("CIRCLED MINUS", 0x2296), ("CIRCLED TIMES", 0x2297), ("CIRCLED DIVISION SLASH", 0x2298),
   ("CIRCLED DOT OPERATOR", 0x2299), ("CIRCLED RING OPERATOR", 0x229A),
   ("CIRCLED ASTERISK OPERATOR", 0x229B), ("CIRCLED EQUALS", 0x229C), ("CIRCLED DASH", 0x229D),
   ("SQUARED PLUS", 0x229E), ("SQUARED MINUS", 0x229F), ("SQUARED TIMES", 0x22A0),
   ("SQUARED DOT OPERATOR", 0x22A1), ("RIGHT TACK", 0x22A2), ("LEFT TACK", 0x22A3),
   ("DOWN TACK", 0x22A4), ("UP TACK", 0x22A5), ("ASSERTION", 0x22A6), ("MODELS", 0x22A7),
   ("TRUE", 0x22A8), ("FORCES", 0x22A9), ("TRIPLE VERTICAL BAR RIGHT TURNSTILE", 0x22AA),
   ("DOUBLE VERTICAL BAR DOUBLE RIGHT TURNSTILE", 0x22AB), ("DOES NOT PROVE", 0x22AC),
   ("NOT TRUE", 0x22AD), ("DOES NOT FORCE", 0x22AE),
   ("NEGATED DOUBLE VERTICAL BAR DOUBLE RIGHT TURNSTILE", 0x22AF),
   ("PRECEDES UNDER RELATION", 0x22B0), ("SUCCEEDS UNDER RELATION", 0x22B1),
   ("NORMAL SUBGROUP OF", 0x22B2), ("CONTAINS AS NORMAL SUBGROUP", 0x22B3),
   ("NORMAL SUBGROUP OF OR EQUAL TO", 0x22B4),
   ("CONTAINS AS NORMAL SUBGROUP OR EQUAL TO", 0x22B5), ("ORIGINAL OF", 0x22B6),
   ("IMAGE OF", 0x22B7), ("MULTIMAP", 0x22B8), ("HERMITIAN CONJUGATE MATRIX", 0x22B9),
   ("INTERCALATE", 0x22BA), ("XOR", 0x22BB), ("NAND", 0x22BC), ("NOR", 0x22BD),
   ("RIGHT ANGLE WITH ARC", 0x22BE), ("RIGHT TRIANGLE", 0x22BF), ("N-ARY LOGICAL AND", 0x22C0),
   ("N-ARY LOGICAL OR", 0x22C1), ("N-ARY INTERSECTION", 0x22C2), ("N-ARY UNION", 0x22C3),
   ("DIAMOND OPERATOR", 0x22C4), ("DOT OPERATOR", 0x22C5), ("STAR OPERATOR", 0x22C6),
   ("DIVISION TIMES", 0x22C7), ("BOWTIE", 0x22C8),
   ("LEFT NORMAL FACTOR SEMIDIRECT PRODUCT", 0x22C9),
   ("RIGHT NORMAL FACTOR SEMIDIRECT PRODUCT", 0x22CA), ("LEFT SEMIDIRECT PRODUCT", 0x22CB),
   ("RIGHT SEMIDIRECT PRODUCT", 0x22CC), ("REVERSED TILDE EQUALS", 0x22CD),
   ("CURLY LOGICAL OR", 0x22CE), ("CURLY LOGICAL AND", 0x22CF), ("DOUBLE SUBSET", 0x22D0),
   ("DOUBLE SUPERSET", 0x22D1), ("DOUBLE INTERSECTION", 0x22D2), ("DOUBLE UNION", 0x22D3),
   ("PITCHFORK", 0x22D4), ("EQUAL AND PARALLEL TO", 0x22D5), ("LESS-THAN WITH DOT", 0x22D6),
   ("GREATER-THAN WITH DOT", 0x22D7), ("VERY MUCH LESS-THAN", 0x22D8),
   ("VERY MUCH GREATER-THAN", 0x22D9), ("LESS-THAN EQUAL TO OR GREATER-THAN", 0x22DA),
   ("GREATER-THAN EQUAL TO OR LESS-THAN", 0x22DB), ("EQUAL TO OR LESS-THAN", 0x22DC),
   ("EQUAL TO OR GREATER-THAN", 0x22DD), ("EQUAL TO OR PRECEDES", 0x22DE),
   ("EQUAL TO OR SUCCEEDS", 0x22DF), ("DOES NOT PRECEDE OR EQUAL", 0x22E0),
   ("DOES NOT SUCCEED OR EQUAL", 0x22E1), ("NOT SQUARE IMAGE OF OR EQUAL TO", 0x22E2),
   ("NOT SQUARE ORIGINAL OF OR EQUAL TO", 0x22E3), ("SQUARE IMAGE OF OR NOT EQUAL TO", 0x22E4),
   ("SQUARE ORIGINAL OF OR NOT EQUAL TO", 0x22E5), ("LESS-THAN BUT NOT EQUIVALENT TO", 0x22E6),
   ("GREATER-THAN BUT NOT EQUIVALENT TO", 0x22E7), ("PRECEDES BUT NOT EQUIVALENT TO", 0x22E8),
   ("SUCCEEDS BUT NOT EQUIVALENT TO", 0x22E9), ("NOT NORMAL SUBGROUP OF", 0x22EA),
   ("DOES NOT CONTAIN AS NORMAL SUBGROUP", 0x22EB),
   ("NOT NORMAL SUBGROUP OF OR EQUAL TO", 0x22EC),
   ("DOES NOT CONTAIN AS NORMAL SUBGROUP OR EQUAL", 0x22ED), ("VERTICAL ELLIPSIS", 0x22EE),
   ("MIDLINE HORIZONTAL ELLIPSIS", 0x22EF), ("UP RIGHT DIAGONAL ELLIPSIS", 0x22F0),
   ("DOWN RIGHT DIAGONAL ELLIPSIS", 0x22F1), ("ELEMENT OF WITH LONG HORIZONTAL STROKE", 0x22F2),
   ("ELEMENT OF WITH VERTICAL BAR AT END OF HORIZONTAL STROKE", 0x22F3),
   ("SMALL ELEMENT OF WITH VERTICAL BAR AT END OF HORIZONTAL STROKE", 0x22F4),
   ("ELEMENT OF WITH DOT ABOVE", 0x22F5), ("ELEMENT OF WITH OVERBAR", 0x22F6),
   ("SMALL ELEMENT OF WITH OVERBAR", 0x22F7), ("ELEMENT OF WITH UNDERBAR", 0x22F8),
   ("ELEMENT OF WITH TWO HORIZONTAL STROKES", 0x22F9),
   ("CONTAINS WITH LONG HORIZONTAL STROKE", 0x22FA),
   ("CONTAINS WITH VERTICAL BAR AT END OF HORIZONTAL STROKE", 0x22FB),
   ("SMALL CONTAINS WITH VERTICAL BAR AT END OF HORIZONTAL STROKE", 0x22FC),
   ("CONTAINS WITH OVERBAR", 0x22FD), ("SMALL CONTAINS WITH OVERBAR", 0x22FE),
   ("Z NOTATION BAG MEMBERSHIP", 0x22FF)]

/-- The names of box drawings and shapes. -/
def shapeNames : List (String × Nat) :=
  [("BOX DRAWINGS LIGHT HORIZONTAL", 0x2500), ("BOX DRAWINGS HEAVY HORIZONTAL", 0x2501),
   ("BOX DRAWINGS LIGHT VERTICAL", 0x2502), ("BOX DRAWINGS HEAVY VERTICAL", 0x2503),
   ("BOX DRAWINGS LIGHT TRIPLE DASH HORIZONTAL", 0x2504),
   ("BOX DRAWINGS HEAVY TRIPLE DASH HORIZONTAL", 0x2505),
   ("BOX DRAWINGS LIGHT TRIPLE DASH VERTICAL", 0x2506),
   ("BOX DRAWINGS HEAVY TRIPLE DASH VERTICAL", 0x2507),
   ("BOX DRAWINGS LIGHT QUADRUPLE DASH HORIZONTAL", 0x2508),
   ("BOX DRAWINGS HEAVY QUADRUPLE DASH HORIZONTAL", 0x2509),
   ("BOX DRAWINGS LIGHT QUADRUPLE DASH VERTICAL", 0x250A),
   ("BOX DRAWINGS HEAVY QUADRUPLE DASH VERTICAL", 0x250B),
   ("BOX DRAWINGS LIGHT DOWN AND RIGHT", 0x250C),
   ("BOX DRAWINGS DOWN LIGHT AND RIGHT HEAVY", 0x250D),
   ("BOX DRAWINGS DOWN HEAVY AND RIGHT LIGHT", 0x250E),
   ("BOX DRAWINGS HEAVY DOWN AND RIGHT", 0x250F), ("BOX DRAWINGS LIGHT DOWN AND LEFT", 0x2510),
   ("BOX DRAWINGS DOWN LIGHT AND LEFT HEAVY", 0x2511),
   ("BOX DRAWINGS DOWN HEAVY AND LEFT LIGHT", 0x2512),
   ("BOX DRAWINGS HEAVY DOWN AND LEFT", 0x2513), ("BOX DRAWINGS LIGHT UP AND RIGHT", 0x2514),
   ("BOX DRAWINGS UP LIGHT AND RIGHT HEAVY", 0x2515),
   ("BOX DRAWINGS UP HEAVY AND RIGHT LIGHT", 0x2516), ("BOX DRAWINGS HEAVY UP AND RIGHT", 0x2517),
   ("BOX DRAWINGS LIGHT UP AND LEFT", 0x2518), ("BOX DRAWINGS UP LIGHT AND LEFT HEAVY", 0x2519),
   ("BOX DRAWINGS UP HEAVY AND LEFT LIGHT", 0x251A), ("BOX DRAWINGS HEAVY UP AND LEFT", 0x251B),
   ("BOX DRAWINGS LIGHT VERTICAL AND RIGHT", 0x251C),
   ("BOX DRAWINGS VERTICAL LIGHT AND RIGHT HEAVY", 0x251D),
   ("BOX DRAWINGS UP HEAVY AND RIGHT DOWN LIGHT", 0x251E),
   ("BOX DRAWINGS DOWN HEAVY AND RIGHT UP LIGHT", 0x251F),
   ("BOX DRAWINGS VERTICAL HEAVY AND RIGHT LIGHT", 0x2520),
   ("BOX DRAWINGS DOWN LIGHT AND RIGHT UP HEAVY", 0x2521),
   ("BOX DRAWINGS UP LIGHT AND RIGHT DOWN HEAVY", 0x2522),
   ("BOX DRAWINGS HEAVY VERTICAL AND RIGHT", 0x2523),
   ("BOX DRAWINGS LIGHT VERTICAL AND LEFT", 0x2524),
   ("BOX DRAWINGS VERTICAL LIGHT AND LEFT HEAVY", 0x2525),
   ("BOX DRAWINGS UP HEAVY AND LEFT DOWN LIGHT", 0x2526),
   ("BOX DRAWINGS DOWN HEAVY AND LEFT UP LIGHT", 0x2527),
   ("BOX DRAWINGS VERTICAL HEAVY AND LEFT LIGHT", 0x2528),
   ("BOX DRAWINGS DOWN LIGHT AND LEFT UP HEAVY", 0x2529),
   ("BOX DRAWINGS UP LIGHT AND LEFT DOWN HEAVY", 0x252A),
   ("BOX DRAWINGS HEAVY VERTICAL AND LEFT", 0x252B),
   ("BOX DRAWINGS LIGHT DOWN AND HORIZONTAL", 0x252C),
   ("BOX DRAWINGS LEFT HEAVY AND RIGHT DOWN LIGHT", 0x252D),
   ("BOX DRAWINGS RIGHT HEAVY AND LEFT DOWN LIGHT", 0x252E),
   ("BOX DRAWINGS DOWN LIGHT AND HORIZONTAL HEAVY", 0x252F),
   ("BOX DRAWINGS DOWN HEAVY AND HORIZONTAL LIGHT", 0x2530),
   ("BOX DRAWINGS RIGHT LIGHT AND LEFT DOWN HEAVY", 0x2531),
   ("BOX DRAWINGS LEFT LIGHT AND RIGHT DOWN HEAVY", 0x2532),
   ("BOX DRAWINGS HEAVY DOWN AND HORIZONTAL", 0x2533),
   ("BOX DRAWINGS LIGHT UP AND HORIZONTAL", 0x2534),
   ("BOX DRAWINGS LEFT HEAVY AND RIGHT UP LIGHT", 0x2535),
   ("BOX DRAWINGS RIGHT HEAVY AND LEFT UP LIGHT", 0x2536),
   ("BOX DRAWINGS UP LIGHT AND HORIZONTAL HEAVY", 0x2537),
   ("BOX DRAWINGS UP HEAVY AND HORIZONTAL LIGHT", 0x2538),
   ("BOX DRAWINGS RIGHT LIGHT AND LEFT UP HEAVY", 0x2539),
   ("BOX DRAWINGS LEFT LIGHT AND RIGHT UP HEAVY", 0x253A),
   ("BOX DRAWINGS HEAVY UP AND HORIZONTAL", 0x253B),
   ("BOX DRAWINGS LIGHT VERTICAL AND HORIZONTAL", 0x253C),
   ("BOX DRAWINGS LEFT HEAVY AND RIGHT VERTICAL LIGHT", 0x253D),
   ("BOX DRAWINGS RIGHT HEAVY AND LEFT VERTICAL LIGHT", 0x253E),
   ("BOX DRAWINGS VERTICAL LIGHT AND HORIZONTAL HEAVY", 0x253F),
   ("BOX DRAWINGS UP HEAVY AND DOWN HORIZONTAL LIGHT", 0x2540),
   ("BOX DRAWINGS DOWN HEAVY AND UP HORIZONTAL LIGHT", 0x2541),
   ("BOX DRAWINGS VERTICAL HEAVY AND HORIZONTAL LIGHT", 0x2542),
   ("BOX DRAWINGS LEFT UP HEAVY AND RIGHT DOWN LIGHT", 0x2543),
   ("BOX DRAWINGS RIGHT UP HEAVY AND LEFT DOWN LIGHT", 0x2544),
   ("BOX DRAWINGS LEFT DOWN HEAVY AND RIGHT UP LIGHT", 0x2545),
   ("BOX DRAWINGS RIGHT DOWN HEAVY AND LEFT UP LIGHT", 0x2546),
   ("BOX DRAWINGS DOWN LIGHT AND UP HORIZONTAL HEAVY", 0x2547),
   ("BOX DRAWINGS UP LIGHT AND DOWN HORIZONTAL HEAVY", 0x2548),
   ("BOX DRAWINGS RIGHT LIGHT AND LEFT VERTICAL HEAVY", 0x2549),
   ("BOX DRAWINGS LEFT LIGHT AND RIGHT VERTICAL HEAVY", 0x254A),
   ("BOX DRAWINGS HEAVY VERTICAL AND HORIZONTAL", 0x254B),
   ("BOX DRAWINGS LIGHT DOUBLE DASH HORIZONTAL", 0x254C),
   ("BOX DRAWINGS HEAVY DOUBLE DASH HORIZONTAL", 0x254D),
   ("BOX DRAWINGS LIGHT DOUBLE DASH VERTICAL", 0x254E),
   ("BOX DRAWINGS HEAVY DOUBLE DASH VERTICAL", 0x254F),
   ("BOX DRAWINGS DOUBLE HORIZONTAL", 0x2550), ("BOX DRAWINGS DOUBLE VERTICAL", 0x2551),
   ("BOX DRAWINGS DOWN SINGLE AND RIGHT DOUBLE", 0x2552),
   ("BOX DRAWINGS DOWN DOUBLE AND RIGHT SINGLE", 0x2553),
   ("BOX DRAWINGS DOUBLE DOWN AND RIGHT", 0x2554),
   ("BOX DRAWINGS DOWN SINGLE AND LEFT DOUBLE", 0x2555),
   ("BOX DRAWINGS DOWN DOUBLE AND LEFT SINGLE", 0x2556),
   ("BOX DRAWINGS DOUBLE DOWN AND LEFT", 0x2557),
   ("BOX DRAWINGS UP SINGLE AND RIGHT DOUBLE", 0x2558),
   ("BOX DRAWINGS UP DOUBLE AND RIGHT SINGLE", 0x2559),
   ("BOX DRAWINGS DOUBLE UP AND RIGHT", 0x255A),
   ("BOX DRAWINGS UP SINGLE AND LEFT DOUBLE", 0x255B),
   ("BOX DRAWINGS UP DOUBLE AND LEFT SINGLE", 0x255C),
   ("BOX DRAWINGS DOUBLE UP AND LEFT", 0x255D),
   ("BOX DRAWINGS VERTICAL SINGLE AND RIGHT DOUBLE", 0x255E),
   ("BOX DRAWINGS VERTICAL DOUBLE AND RIGHT SINGLE", 0x255F),
   ("BOX DRAWINGS DOUBLE VERTICAL AND RIGHT", 0x2560),
   ("BOX DRAWINGS VERTICAL SINGLE AND LEFT DOUBLE", 0x2561),
   ("BOX DRAWINGS VERTICAL DOUBLE AND LEFT SINGLE", 0x2562),
   ("BOX DRAWINGS DOUBLE VERTICAL AND LEFT", 0x2563),
   ("BOX DRAWINGS DOWN SINGLE AND HORIZONTAL DOUBLE", 0x2564),
   ("BOX DRAWINGS DOWN DOUBLE AND HORIZONTAL SINGLE", 0x2565),
   ("BOX DRAWINGS DOUBLE DOWN AND HORIZONTAL", 0x2566),
   ("BOX DRAWINGS UP SINGLE AND HORIZONTAL DOUBLE", 0x2567),
   ("BOX DRAWINGS UP DOUBLE AND HORIZONTAL SINGLE", 0x2568),
   ("BOX DRAWINGS DOUBLE UP AND HORIZONTAL", 0x2569),
   ("BOX DRAWINGS VERTICAL SINGLE AND HORIZONTAL DOUBLE", 0x256A),
   ("BOX DRAWINGS VERTICAL DOUBLE AND HORIZONTAL SINGLE", 0x256B),
   ("BOX DRAWINGS DOUBLE VERTICAL AND HORIZONTAL", 0x256C),
   ("BOX DRAWINGS LIGHT ARC DOWN AND RIGHT", 0x256D),
   ("BOX DRAWINGS LIGHT ARC DOWN AND LEFT", 0x256E),
   ("BOX DRAWINGS LIGHT ARC UP AND LEFT", 0x256F),
   ("BOX DRAWINGS LIGHT ARC UP AND RIGHT", 0x2570),
   ("BOX DRAWINGS LIGHT DIAGONAL UPPER RIGHT TO LOWER LEFT", 0x2571),
   ("BOX DRAWINGS LIGHT DIAGONAL UPPER LEFT TO LOWER RIGHT", 0x2572),
   ("BOX DRAWINGS LIGHT DIAGONAL CROSS", 0x2573), ("BOX DRAWINGS LIGHT LEFT", 0x2574),
   ("BOX DRAWINGS LIGHT UP", 0x2575), ("BOX DRAWINGS LIGHT RIGHT", 0x2576),
   ("BOX DRAWINGS LIGHT DOWN", 0x2577), ("BOX DRAWINGS HEAVY LEFT", 0x2578),
   ("BOX DRAWINGS HEAVY UP", 0x2579), ("BOX DRAWINGS HEAVY RIGHT", 0x257A),
   ("BOX DRAWINGS HEAVY DOWN", 0x257B), ("BOX DRAWINGS LIGHT LEFT AND HEAVY RIGHT", 0x257C),
   ("BOX DRAWINGS LIGHT UP AND HEAVY DOWN", 0x257D),
   ("BOX DRAWINGS HEAVY LEFT AND LIGHT RIGHT", 0x257E),
   ("BOX DRAWINGS HEAVY UP AND LIGHT DOWN", 0x257F), ("BLACK SQUARE", 0x25A0),
   ("WHITE SQUARE", 0x25A1), ("WHITE SQUARE WITH ROUNDED CORNERS", 0x25A2),
   ("WHITE SQUARE CONTAINING BLACK SMALL SQUARE", 0x25A3),
   ("SQUARE WITH HORIZONTAL FILL", 0x25A4), ("SQUARE WITH VERTICAL FILL", 0x25A5),
   ("SQUARE WITH ORTHOGONAL CROSSHATCH FILL", 0x25A6),
   ("SQUARE WITH UPPER LEFT TO LOWER RIGHT FILL", 0x25A7),
   ("SQUARE WITH UPPER RIGHT TO LOWER LEFT FILL", 0x25A8),
   ("SQUARE WITH DIAGONAL CROSSHATCH FILL", 0x25A9), ("BLACK SMALL SQUARE", 0x25AA),
   ("WHITE SMALL SQUARE", 0x25AB), ("BLACK RECTANGLE", 0x25AC), ("WHITE RECTANGLE", 0x25AD),
   ("BLACK VERTICAL RECTANGLE", 0x25AE), ("WHITE VERTICAL RECTANGLE", 0x25AF),
   ("BLACK PARALLELOGRAM", 0x25B0), ("WHITE PARALLELOGRAM", 0x25B1),
   ("BLACK UP-POINTING TRIANGLE", 0x25B2), ("WHITE UP-POINTING TRIANGLE", 0x25B3),
   ("BLACK UP-POINTING SMALL TRIANGLE", 0x25B4), ("WHITE UP-POINTING SMALL TRIANGLE", 0x25B5),
   ("BLACK RIGHT-POINTING TRIANGLE", 0x25B6), ("WHITE RIGHT-POINTING TRIANGLE", 0x25B7),
   ("BLACK RIGHT-POINTING SMALL TRIANGLE", 0x25B8),
   ("WHITE RIGHT-POINTING SMALL TRIANGLE", 0x25B9), ("BLACK RIGHT-POINTING POINTER", 0x25BA),
   ("WHITE RIGHT-POINTING POINTER", 0x25BB), ("BLACK DOWN-POINTING TRIANGLE", 0x25BC),
   ("WHITE DOWN-POINTING TRIANGLE", 0x25BD), ("BLACK DOWN-POINTING SMALL TRIANGLE", 0x25BE),
   ("WHITE DOWN-POINTING SMALL TRIANGLE", 0x25BF), ("BLACK LEFT-POINTING TRIANGLE", 0x25C0),
   ("WHITE LEFT-POINTING TRIANGLE", 0x25C1), ("BLACK LEFT-POINTING SMALL TRIANGLE", 0x25C2),
   ("WHITE LEFT-POINTING SMALL TRIANGLE", 0x25C3), ("BLACK LEFT-POINTING POINTER", 0x25C4),
   ("WHITE LEFT-POINTING POINTER", 0x25C5), ("BLACK DIAMOND", 0x25C6), ("WHITE DIAMOND", 0x25C7),
   ("WHITE DIAMOND CONTAINING BLACK SMALL DIAMOND", 0x25C8), ("FISHEYE", 0x25C9),
   ("LOZENGE", 0x25CA), ("WHITE CIRCLE", 0x25CB), ("DOTTED CIRCLE", 0x25CC),
   ("CIRCLE WITH VERTICAL FILL", 0x25CD), ("BULLSEYE", 0x25CE), ("BLACK CIRCLE", 0x25CF),
   ("CIRCLE WITH LEFT HALF BLACK", 0x25D0), ("CIRCLE WITH RIGHT HALF BLACK", 0x25D1),
   ("CIRCLE WITH LOWER HALF BLACK", 0x25D2), ("CIRCLE WITH UPPER HALF BLACK", 0x25D3),
   ("CIRCLE WITH UPPER RIGHT QUADRANT BLACK", 0x25D4),
   ("CIRCLE WITH ALL BUT UPPER LEFT QUADRANT BLACK", 0x25D5), ("LEFT HALF BLACK CIRCLE", 0x25D6),
   ("RIGHT HALF BLACK CIRCLE", 0x25D7), ("INVERSE BULLET", 0x25D8),
   ("INVERSE WHITE CIRCLE", 0x25D9), ("UPPER HALF INVERSE WHITE CIRCLE", 0x25DA),
   ("LOWER HALF INVERSE WHITE CIRCLE", 0x25DB), ("UPPER LEFT QUADRANT CIRCULAR ARC", 0x25DC),
   ("UPPER RIGHT QUADRANT CIRCULAR ARC", 0x25DD), ("LOWER RIGHT QUADRANT CIRCULAR ARC", 0x25DE),
   ("LOWER LEFT QUADRANT CIRCULAR ARC", 0x25DF), ("UPPER HALF CIRCLE", 0x25E0),
   ("LOWER HALF CIRCLE", 0x25E1), ("BLACK LOWER RIGHT TRIANGLE", 0x25E2),
   ("BLACK LOWER LEFT TRIANGLE", 0x25E3), ("BLACK UPPER LEFT TRIANGLE", 0x25E4),
   ("BLACK UPPER RIGHT TRIANGLE", 0x25E5), ("WHITE BULLET", 0x25E6),
   ("SQUARE WITH LEFT HALF BLACK", 0x25E7), ("SQUARE WITH RIGHT HALF BLACK", 0x25E8),
   ("SQUARE WITH UPPER LEFT DIAGONAL HALF BLACK", 0x25E9),
   ("SQUARE WITH LOWER RIGHT DIAGONAL HALF BLACK", 0x25EA),
   ("WHITE SQUARE WITH VERTICAL BISECTING LINE", 0x25EB),
   ("WHITE UP-POINTING TRIANGLE WITH DOT", 0x25EC),
   ("UP-POINTING TRIANGLE WITH LEFT HALF BLACK", 0x25ED),
   ("UP-POINTING TRIANGLE WITH RIGHT HALF BLACK", 0x25EE), ("LARGE CIRCLE", 0x25EF),
   ("WHITE SQUARE WITH UPPER LEFT QUADRANT", 0x25F0),
   ("WHITE SQUARE WITH LOWER LEFT QUADRANT", 0x25F1),
   ("WHITE SQUARE WITH LOWER RIGHT QUADRANT", 0x25F2),
   ("WHITE SQUARE WITH UPPER RIGHT QUADRANT", 0x25F3),
   ("WHITE CIRCLE WITH UPPER LEFT QUADRANT", 0x25F4),
   ("WHITE CIRCLE WITH LOWER LEFT QUADRANT", 0x25F5),
   ("WHITE CIRCLE WITH LOWER RIGHT QUADRANT", 0x25F6),
   ("WHITE CIRCLE WITH UPPER RIGHT QUADRANT", 0x25F7), ("UPPER LEFT TRIANGLE", 0x25F8),
   ("UPPER RIGHT TRIANGLE", 0x25F9), ("LOWER LEFT TRIANGLE", 0x25FA),
   ("WHITE MEDIUM SQUARE", 0x25FB), ("BLACK MEDIUM SQUARE", 0x25FC),
   ("WHITE MEDIUM SMALL SQUARE", 0x25FD), ("BLACK MEDIUM SMALL SQUARE", 0x25FE),
   ("LOWER RIGHT TRIANGLE", 0x25FF)]

/-- The names of symbols and faces. -/
def symbolNames : List (String × Nat) :=
  [("BLACK SUN WITH RAYS", 0x2600), ("CLOUD", 0x2601), ("UMBRELLA", 0x2602), ("SNOWMAN", 0x2603),
   ("COMET", 0x2604), ("BLACK STAR", 0x2605), ("WHITE STAR", 0x2606), ("LIGHTNING", 0x2607),
   ("THUNDERSTORM", 0x2608), ("SUN", 0x2609), ("ASCENDING NODE", 0x260A),
   ("DESCENDING NODE", 0x260B), ("CONJUNCTION", 0x260C), ("OPPOSITION", 0x260D),
   ("BLACK TELEPHONE", 0x260E), ("WHITE TELEPHONE", 0x260F), ("BALLOT BOX", 0x2610),
   ("BALLOT BOX WITH CHECK", 0x2611), ("BALLOT BOX WITH X", 0x2612), ("SALTIRE", 0x2613),
   ("UMBRELLA WITH RAIN DROPS", 0x2614), ("HOT BEVERAGE", 0x2615), ("WHITE SHOGI PIECE", 0x2616),
   ("BLACK SHOGI PIECE", 0x2617), ("SHAMROCK", 0x2618),
   ("REVERSED ROTATED FLORAL HEART BULLET", 0x2619), ("BLACK LEFT POINTING INDEX", 0x261A),
   ("BLACK RIGHT POINTING INDEX", 0x261B), ("WHITE LEFT POINTING INDEX", 0x261C),
   ("WHITE UP POINTING INDEX", 0x261D), ("WHITE RIGHT POINTING INDEX", 0x261E),
   ("WHITE DOWN POINTING INDEX", 0x261F), ("SKULL AND CROSSBONES", 0x2620),
   ("CAUTION SIGN", 0x2621), ("RADIOACTIVE SIGN", 0x2622), ("BIOHAZARD SIGN", 0x2623),
   ("CADUCEUS", 0x2624), ("ANKH", 0x2625), ("ORTHODOX CROSS", 0x2626), ("CHI RHO", 0x2627),
   ("CROSS OF LORRAINE", 0x2628), ("CROSS OF JERUSALEM", 0x2629), ("STAR AND CRESCENT", 0x262A),
   ("FARSI SYMBOL", 0x262B), ("ADI SHAKTI", 0x262C), ("HAMMER AND SICKLE", 0x262D),
   ("PEACE SYMBOL", 0x262E), ("YIN YANG", 0x262F), ("TRIGRAM FOR HEAVEN", 0x2630),
   ("TRIGRAM FOR LAKE", 0x2631), ("TRIGRAM FOR FIRE", 0x2632), ("TRIGRAM FOR THUNDER", 0x2633),
   ("TRIGRAM FOR WIND", 0x2634), ("TRIGRAM FOR WATER", 0x2635), ("TRIGRAM FOR MOUNTAIN", 0x2636),
   ("TRIGRAM FOR EARTH", 0x2637), ("WHEEL OF DHARMA", 0x2638), ("WHITE FROWNING FACE", 0x2639),
   ("WHITE SMILING FACE", 0x263A), ("BLACK SMILING FACE", 0x263B),
   ("WHITE SUN WITH RAYS", 0x263C), ("FIRST QUARTER MOON", 0x263D), ("LAST QUARTER MOON", 0x263E),
   ("MERCURY", 0x263F), ("FEMALE SIGN", 0x2640), ("EARTH", 0x2641), ("MALE SIGN", 0x2642),
   ("JUPITER", 0x2643), ("SATURN", 0x2644), ("URANUS", 0x2645), ("NEPTUNE", 0x2646),
   ("PLUTO", 0x2647), ("ARIES", 0x2648), ("TAURUS", 0x2649), ("GEMINI", 0x264A),
   ("CANCER", 0x264B), ("LEO", 0x264C), ("VIRGO", 0x264D), ("LIBRA", 0x264E),
   ("SCORPIUS", 0x264F), ("SAGITTARIUS", 0x2650), ("CAPRICORN", 0x2651), ("AQUARIUS", 0x2652),
   ("PISCES", 0x2653), ("WHITE CHESS KING", 0x2654), ("WHITE CHESS QUEEN", 0x2655),
   ("WHITE CHESS ROOK", 0x2656), ("WHITE CHESS BISHOP", 0x2657), ("WHITE CHESS KNIGHT", 0x2658),
   ("WHITE CHESS PAWN", 0x2659), ("BLACK CHESS KING", 0x265A), ("BLACK CHESS QUEEN", 0x265B),
   ("BLACK CHESS ROOK", 0x265C), ("BLACK CHESS BISHOP", 0x265D), ("BLACK CHESS KNIGHT", 0x265E),
   ("BLACK CHESS PAWN", 0x265F), ("BLACK SPADE SUIT", 0x2660), ("WHITE HEART SUIT", 0x2661),
   ("WHITE DIAMOND SUIT", 0x2662), ("BLACK CLUB SUIT", 0x2663), ("WHITE SPADE SUIT", 0x2664),
   ("BLACK HEART SUIT", 0x2665), ("BLACK DIAMOND SUIT", 0x2666), ("WHITE CLUB SUIT", 0x2667),
   ("HOT SPRINGS", 0x2668), ("QUARTER NOTE", 0x2669), ("EIGHTH NOTE", 0x266A),
   ("BEAMED EIGHTH NOTES", 0x266B), ("BEAMED SIXTEENTH NOTES", 0x266C),
   ("MUSIC FLAT SIGN", 0x266D), ("MUSIC NATURAL SIGN", 0x266E), ("MUSIC SHARP SIGN", 0x266F),
   ("WEST SYRIAC CROSS", 0x2670), ("EAST SYRIAC CROSS", 0x2671),
   ("UNIVERSAL RECYCLING SYMBOL", 0x2672), ("RECYCLING SYMBOL FOR TYPE-1 PLASTICS", 0x2673),
   ("RECYCLING SYMBOL FOR TYPE-2 PLASTICS", 0x2674),
   ("RECYCLING SYMBOL FOR TYPE-3 PLASTICS", 0x2675),
   ("RECYCLING SYMBOL FOR TYPE-4 PLASTICS", 0x2676),
   ("RECYCLING SYMBOL FOR TYPE-5 PLASTICS", 0x2677),
   ("RECYCLING SYMBOL FOR TYPE-6 PLASTICS", 0x2678),
   ("RECYCLING SYMBOL FOR TYPE-7 PLASTICS", 0x2679),
   ("RECYCLING SYMBOL FOR GENERIC MATERIALS", 0x267A),
   ("BLACK UNIVERSAL RECYCLING SYMBOL", 0x267B), ("RECYCLED PAPER SYMBOL", 0x267C),
   ("PARTIALLY-RECYCLED PAPER SYMBOL", 0x267D), ("PERMANENT PAPER SIGN", 0x267E),
   ("WHEELCHAIR SYMBOL", 0x267F), ("DIE FACE-1", 0x2680), ("DIE FACE-2", 0x2681),
   ("DIE FACE-3", 0x2682), ("DIE FACE-4", 0x2683), ("DIE FACE-5", 0x2684), ("DIE FACE-6", 0x2685),
   ("WHITE CIRCLE WITH DOT RIGHT", 0x2686), ("WHITE CIRCLE WITH TWO DOTS", 0x2687),
   ("BLACK CIRCLE WITH WHITE DOT RIGHT", 0x2688), ("BLACK CIRCLE WITH TWO WHITE DOTS", 0x2689),
   ("MONOGRAM FOR YANG", 0x268A), ("MONOGRAM FOR YIN", 0x268B),
   ("DIGRAM FOR GREATER YANG", 0x268C), ("DIGRAM FOR LESSER YIN", 0x268D),
   ("DIGRAM FOR LESSER YANG", 0x268E), ("DIGRAM FOR GREATER YIN", 0x268F), ("WHITE FLAG", 0x2690),
   ("BLACK FLAG", 0x2691), ("HAMMER AND PICK", 0x2692), ("ANCHOR", 0x2693),
   ("CROSSED SWORDS", 0x2694), ("STAFF OF AESCULAPIUS", 0x2695), ("SCALES", 0x2696),
   ("ALEMBIC", 0x2697), ("FLOWER", 0x2698), ("GEAR", 0x2699), ("STAFF OF HERMES", 0x269A),
   ("ATOM SYMBOL", 0x269B), ("FLEUR-DE-LIS", 0x269C), ("OUTLINED WHITE STAR", 0x269D),
   ("THREE LINES CONVERGING RIGHT", 0x269E), ("THREE LINES CONVERGING LEFT", 0x269F),
   ("WARNING SIGN", 0x26A0), ("HIGH VOLTAGE SIGN", 0x26A1), ("DOUBLED FEMALE SIGN", 0x26A2),
   ("DOUBLED MALE SIGN", 0x26A3), ("INTERLOCKED FEMALE AND MALE SIGN", 0x26A4),
   ("MALE AND FEMALE SIGN", 0x26A5), ("MALE WITH STROKE SIGN", 0x26A6),
   ("MALE WITH STROKE AND MALE AND FEMALE SIGN", 0x26A7),
   ("VERTICAL MALE WITH STROKE SIGN", 0x26A8), ("HORIZONTAL MALE WITH STROKE SIGN", 0x26A9),
   ("MEDIUM WHITE CIRCLE", 0x26AA), ("MEDIUM BLACK CIRCLE", 0x26AB),
   ("MEDIUM SMALL WHITE CIRCLE", 0x26AC), ("MARRIAGE SYMBOL", 0x26AD), ("DIVORCE SYMBOL", 0x26AE),
   ("UNMARRIED PARTNERSHIP SYMBOL", 0x26AF), ("COFFIN", 0x26B0), ("FUNERAL URN", 0x26B1),
   ("NEUTER", 0x26B2), ("CERES", 0x26B3), ("PALLAS", 0x26B4), ("JUNO", 0x26B5), ("VESTA", 0x26B6),
   ("CHIRON", 0x26B7), ("BLACK MOON LILITH", 0x26B8), ("SEXTILE", 0x26B9),
   ("SEMISEXTILE", 0x26BA), ("QUINCUNX", 0x26BB), ("SESQUIQUADRATE", 0x26BC),
   ("SOCCER BALL", 0x26BD), ("BASEBALL", 0x26BE), ("SQUARED KEY", 0x26BF),
   ("WHITE DRAUGHTS MAN", 0x26C0), ("WHITE DRAUGHTS KING", 0x26C1),
   ("BLACK DRAUGHTS MAN", 0x26C2), ("BLACK DRAUGHTS KING", 0x26C3),
   ("SNOWMAN WITHOUT SNOW", 0x26C4), ("SUN BEHIND CLOUD", 0x26C5), ("RAIN", 0x26C6),
   ("BLACK SNOWMAN", 0x26C7), ("THUNDER CLOUD AND RAIN", 0x26C8),
   ("TURNED WHITE SHOGI PIECE", 0x26C9), ("TURNED BLACK SHOGI PIECE", 0x26CA),
   ("WHITE DIAMOND IN SQUARE", 0x26CB), ("CROSSING LANES", 0x26CC), ("DISABLED CAR", 0x26CD),
   ("OPHIUCHUS", 0x26CE), ("PICK", 0x26CF), ("CAR SLIDING", 0x26D0),
   ("HELMET WITH WHITE CROSS", 0x26D1), ("CIRCLED CROSSING LANES", 0x26D2), ("CHAINS", 0x26D3),
   ("NO ENTRY", 0x26D4), ("ALTERNATE ONE-WAY LEFT WAY TRAFFIC", 0x26D5),
   ("BLACK TWO-WAY LEFT WAY TRAFFIC", 0x26D6), ("WHITE TWO-WAY LEFT WAY TRAFFIC", 0x26D7),
   ("BLACK LEFT LANE MERGE", 0x26D8), ("WHITE LEFT LANE MERGE", 0x26D9),
   ("DRIVE SLOW SIGN", 0x26DA), ("HEAVY WHITE DOWN-POINTING TRIANGLE", 0x26DB),
   ("LEFT CLOSED ENTRY", 0x26DC), ("SQUARED SALTIRE", 0x26DD),
   ("FALLING DIAGONAL IN WHITE CIRCLE IN BLACK SQUARE", 0x26DE), ("BLACK TRUCK", 0x26DF),
   ("RESTRICTED LEFT ENTRY-1", 0x26E0), ("RESTRICTED LEFT ENTRY-2", 0x26E1),
   ("ASTRONOMICAL SYMBOL FOR URANUS", 0x26E2),
   ("HEAVY CIRCLE WITH STROKE AND TWO DOTS ABOVE", 0x26E3), ("PENTAGRAM", 0x26E4),
   ("RIGHT-HANDED INTERLACED PENTAGRAM", 0x26E5), ("LEFT-HANDED INTERLACED PENTAGRAM", 0x26E6),
   ("INVERTED PENTAGRAM", 0x26E7), ("BLACK CROSS ON SHIELD", 0x26E8), ("SHINTO SHRINE", 0x26E9),
   ("CHURCH", 0x26EA), ("CASTLE", 0x26EB), ("HISTORIC SITE", 0x26EC),
   ("GEAR WITHOUT HUB", 0x26ED), ("GEAR WITH HANDLES", 0x26EE),
   ("MAP SYMBOL FOR LIGHTHOUSE", 0x26EF), ("MOUNTAIN", 0x26F0), ("UMBRELLA ON GROUND", 0x26F1),
   ("FOUNTAIN", 0x26F2), ("FLAG IN HOLE", 0x26F3), ("FERRY", 0x26F4), ("SAILBOAT", 0x26F5),
   ("SQUARE FOUR CORNERS", 0x26F6), ("SKIER", 0x26F7), ("ICE SKATE", 0x26F8),
   ("PERSON WITH BALL", 0x26F9), ("TENT", 0x26FA), ("JAPANESE BANK SYMBOL", 0x26FB),
   ("HEADSTONE GRAVEYARD SYMBOL", 0x26FC), ("FUEL PUMP", 0x26FD), ("CUP ON BLACK SQUARE", 0x26FE),
   ("WHITE FLAG WITH HORIZONTAL MIDDLE BLACK STRIPE", 0x26FF), ("GRINNING FACE", 0x1F600),
   ("GRINNING FACE WITH SMILING EYES", 0x1F601), ("FACE WITH TEARS OF JOY", 0x1F602),
   ("SMILING FACE WITH OPEN MOUTH", 0x1F603),
   ("SMILING FACE WITH OPEN MOUTH AND SMILING EYES", 0x1F604),
   ("SMILING FACE WITH OPEN MOUTH AND COLD SWEAT", 0x1F605),
   ("SMILING FACE WITH OPEN MOUTH AND TIGHTLY-CLOSED EYES", 0x1F606),
   ("SMILING FACE WITH HALO", 0x1F607), ("SMILING FACE WITH HORNS", 0x1F608),
   ("WINKING FACE", 0x1F609), ("SMILING FACE WITH SMILING EYES", 0x1F60A),
   ("FACE SAVOURING DELICIOUS FOOD", 0x1F60B), ("RELIEVED FACE", 0x1F60C),
   ("SMILING FACE WITH HEART-SHAPED EYES", 0x1F60D), ("SMILING FACE WITH SUNGLASSES", 0x1F60E),
   ("SMIRKING FACE", 0x1F60F), ("NEUTRAL FACE", 0x1F610), ("EXPRESSIONLESS FACE", 0x1F611),
   ("UNAMUSED FACE", 0x1F612), ("FACE WITH COLD SWEAT", 0x1F613), ("PENSIVE FACE", 0x1F614),
   ("CONFUSED FACE", 0x1F615), ("CONFOUNDED FACE", 0x1F616), ("KISSING FACE", 0x1F617),
   ("FACE THROWING A KISS", 0x1F618), ("KISSING FACE WITH SMILING EYES", 0x1F619),
   ("KISSING FACE WITH CLOSED EYES", 0x1F61A), ("FACE WITH STUCK-OUT TONGUE", 0x1F61B),
   ("FACE WITH STUCK-OUT TONGUE AND WINKING EYE", 0x1F61C),
   ("FACE WITH STUCK-OUT TONGUE AND TIGHTLY-CLOSED EYES", 0x1F61D),
   ("DISAPPOINTED FACE", 0x1F61E), ("WORRIED FACE", 0x1F61F), ("ANGRY FACE", 0x1F620),
   ("POUTING FACE", 0x1F621), ("CRYING FACE", 0x1F622), ("PERSEVERING FACE", 0x1F623),
   ("FACE WITH LOOK OF TRIUMPH", 0x1F624), ("DISAPPOINTED BUT RELIEVED FACE", 0x1F625),
   ("FROWNING FACE WITH OPEN MOUTH", 0x1F626), ("ANGUISHED FACE", 0x1F627),
   ("FEARFUL FACE", 0x1F628), ("WEARY FACE", 0x1F629), ("SLEEPY FACE", 0x1F62A),
   ("TIRED FACE", 0x1F62B), ("GRIMACING FACE", 0x1F62C), ("LOUDLY CRYING FACE", 0x1F62D),
   ("FACE WITH OPEN MOUTH", 0x1F62E), ("HUSHED FACE", 0x1F62F),
   ("FACE WITH OPEN MOUTH AND COLD SWEAT", 0x1F630), ("FACE SCREAMING IN FEAR", 0x1F631),
   ("ASTONISHED FACE", 0x1F632), ("FLUSHED FACE", 0x1F633), ("SLEEPING FACE", 0x1F634),
   ("DIZZY FACE", 0x1F635), ("FACE WITHOUT MOUTH", 0x1F636), ("FACE WITH MEDICAL MASK", 0x1F637),
   ("GRINNING CAT FACE WITH SMILING EYES", 0x1F638), ("CAT FACE WITH TEARS OF JOY", 0x1F639),
   ("SMILING CAT FACE WITH OPEN MOUTH", 0x1F63A),
   ("SMILING CAT FACE WITH HEART-SHAPED EYES", 0x1F63B), ("CAT FACE WITH WRY SMILE", 0x1F63C),
   ("KISSING CAT FACE WITH CLOSED EYES", 0x1F63D), ("POUTING CAT FACE", 0x1F63E),
   ("CRYING CAT FACE", 0x1F63F), ("WEARY CAT FACE", 0x1F640), ("SLIGHTLY FROWNING FACE", 0x1F641),
   ("SLIGHTLY SMILING FACE", 0x1F642), ("UPSIDE-DOWN FACE", 0x1F643),
   ("FACE WITH ROLLING EYES", 0x1F644), ("FACE WITH NO GOOD GESTURE", 0x1F645),
   ("FACE WITH OK GESTURE", 0x1F646), ("PERSON BOWING DEEPLY", 0x1F647),
   ("SEE-NO-EVIL MONKEY", 0x1F648), ("HEAR-NO-EVIL MONKEY", 0x1F649),
   ("SPEAK-NO-EVIL MONKEY", 0x1F64A), ("HAPPY PERSON RAISING ONE HAND", 0x1F64B),
   ("PERSON RAISING BOTH HANDS IN CELEBRATION", 0x1F64C), ("PERSON FROWNING", 0x1F64D),
   ("PERSON WITH POUTING FACE", 0x1F64E), ("PERSON WITH FOLDED HANDS", 0x1F64F)]

/-- The names of separators, marks and control characters, with their aliases. -/
def aliasNames : List (String × Nat) :=
  [("ZERO WIDTH SPACE", 0x200B), ("ZERO WIDTH NON-JOINER", 0x200C), ("ZERO WIDTH JOINER", 0x200D),
   ("LEFT-TO-RIGHT MARK", 0x200E), ("RIGHT-TO-LEFT MARK", 0x200F), ("LINE SEPARATOR", 0x2028),
   ("PARAGRAPH SEPARATOR", 0x2029), ("IDEOGRAPHIC SPACE", 0x3000),
   ("REPLACEMENT CHARACTER", 0xFFFD), ("ZERO WIDTH NO-BREAK SPACE", 0xFEFF),
   ("COMBINING ACUTE ACCENT", 0x301), ("COMBINING GRAVE ACCENT", 0x300),
   ("COMBINING DIAERESIS", 0x308), ("LATIN CAPITAL LETTER SHARP S", 0x1E9E),
   ("KELVIN SIGN", 0x212A), ("ANGSTROM SIGN", 0x212B), ("OHM SIGN", 0x2126),
   ("TRADE MARK SIGN", 0x2122), ("NULL", 0x0), ("START OF HEADING", 0x1), ("START OF TEXT", 0x2),
   ("END OF TEXT", 0x3), ("END OF TRANSMISSION", 0x4), ("ENQUIRY", 0x5), ("ACKNOWLEDGE", 0x6),
   ("ALERT", 0x7), ("BACKSPACE", 0x8), ("CHARACTER TABULATION", 0x9),
   ("HORIZONTAL TABULATION", 0x9), ("LINE FEED", 0xA), ("NEW LINE", 0xA), ("END OF LINE", 0xA),
   ("LINE TABULATION", 0xB), ("VERTICAL TABULATION", 0xB), ("FORM FEED", 0xC),
   ("CARRIAGE RETURN", 0xD), ("ESCAPE", 0x1B), ("DELETE", 0x7F), ("NEXT LINE", 0x85),
   ("NUL", 0x0), ("BEL", 0x7), ("BS", 0x8), ("TAB", 0x9), ("HT", 0x9), ("LF", 0xA), ("NL", 0xA),
   ("EOL", 0xA), ("VT", 0xB), ("FF", 0xC), ("CR", 0xD), ("ESC", 0x1B), ("SP", 0x20),
   ("DEL", 0x7F), ("NEL", 0x85), ("NBSP", 0xA0), ("SHY", 0xAD), ("ZWSP", 0x200B),
   ("ZWNJ", 0x200C), ("ZWJ", 0x200D), ("BOM", 0xFEFF), ("BYTE ORDER MARK", 0xFEFF),
   ("LRM", 0x200E), ("RLM", 0x200F)]

/-- Names in capital letters with their code points. -/
def characterNames : List (String × Nat) :=
  latinNames ++ greekNames ++ cyrillicNames ++ punctuationNames ++ arrowNames ++ shapeNames ++
    symbolNames ++ aliasNames

/-- The spans of the unified ideographs. -/
def ideographSpans : List (Nat × Nat) :=
  [(0x3400, 0x4DBF), (0x4E00, 0x9FFF), (0x20000, 0x2A6DF), (0x2A700, 0x2B738), (0x2B740, 0x2B81D),
   (0x2B820, 0x2CEA1), (0x2CEB0, 0x2EBE0), (0x30000, 0x3134A)]

/-- The value of a capital hexadecimal digit. -/
def capitalHexValue? (c : Char) : Option Nat :=
  if c.isDigit then some (c.toNat - 48)
  else if 'A' ≤ c && c ≤ 'F' then some (c.toNat - 55)
  else none

/-- The code point of a unified ideograph by the four or five digits of its name. -/
def ideographOfDigits? (digits : List Char) : Option Nat := do
  if digits.length != 4 && digits.length != 5 then none else
  let n ← digits.foldlM (fun n c => (capitalHexValue? c).map (16 * n + ·)) 0
  if ideographSpans.any fun span => span.1 ≤ n && n ≤ span.2 then some n else none

/-- The code point that a character name stands for. -/
def codePointOfName? (name : String) : Option Nat :=
  let start := "CJK UNIFIED IDEOGRAPH-".toList
  if start.isPrefixOf name.toList then ideographOfDigits? (name.toList.drop start.length)
  else characterNames.lookup (name.map Char.toUpper)

end ServiceRegistry.Text
