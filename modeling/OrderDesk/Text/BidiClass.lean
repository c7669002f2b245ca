/-!
# Bidirectional classes

The bidirectional class of a character tells how it takes part in laying out text that mixes
left-to-right and right-to-left writing: it has a strong direction of its own, is a digit or a
sign of numbers, is a mark that takes the direction of the character it follows, or is neutral.
Domains read the classes to refuse labels whose display could be mistaken for another's.

The classes are those of the Unicode Character Database, version 17.0. The explicit embedding,
override and isolate controls share one class here, since no rule that reads the classes tells
them apart.
-/

namespace OrderDesk.Text

/-- The bidirectional class of a character. -/
inductive BidiClass where
  /-- A strong left-to-right character (L). -/
  | leftToRight
  /-- A strong right-to-left character of a script other than Arabic (R). -/
  | rightToLeft
  /-- A strong right-to-left character of the Arabic kind (AL). -/
  | arabicLetter
  /-- A European digit (EN). -/
  | europeanNumber
  /-- A plus or minus sign (ES). -/
  | europeanSeparator
  /-- A sign that ends a number, such as a currency or degree sign (ET). -/
  | europeanTerminator
  /-- An Arabic-Indic digit (AN). -/
  | arabicNumber
  /-- A separator within numbers, such as a comma, colon or full stop (CS). -/
  | commonSeparator
  /-- A mark that takes the direction of the character before it (NSM). -/
  | nonspacingMark
  /-- A character that does not take part in the layout, such as a control or joiner (BN). -/
  | boundaryNeutral
  /-- A separator of paragraphs (B). -/
  | paragraphSeparator
  /-- A separator of segments, such as a tab (S). -/
  | segmentSeparator
  /-- A space (WS). -/
  | whiteSpace
  /-- Any other neutral character (ON). -/
  | otherNeutral
  /-- An explicit embedding, override or isolate control, or the end of one (LRE, LRO, RLE,
  RLO, PDF, LRI, RLI, FSI, PDI). -/
  | explicitControl
  deriving DecidableEq, Repr

/-- The code points whose class is not left-to-right, as inclusive ranges in increasing order
with their class. -/
def bidiRanges : List (Nat × Nat × BidiClass) :=
  [(0x0, 0x8, .boundaryNeutral), (0x9, 0x9, .segmentSeparator), (0xa, 0xa, .paragraphSeparator),
    (0xb, 0xb, .segmentSeparator), (0xc, 0xc, .whiteSpace), (0xd, 0xd, .paragraphSeparator),
    (0xe, 0x1b, .boundaryNeutral), (0x1c, 0x1e, .paragraphSeparator),
    (0x1f, 0x1f, .segmentSeparator), (0x20, 0x20, .whiteSpace), (0x21, 0x22, .otherNeutral),
    (0x23, 0x25, .europeanTerminator), (0x26, 0x2a, .otherNeutral),
    (0x2b, 0x2b, .europeanSeparator), (0x2c, 0x2c, .commonSeparator),
    (0x2d, 0x2d, .europeanSeparator), (0x2e, 0x2f, .commonSeparator),
    (0x30, 0x39, .europeanNumber), (0x3a, 0x3a, .commonSeparator), (0x3b, 0x40, .otherNeutral),
    (0x5b, 0x60, .otherNeutral), (0x7b, 0x7e, .otherNeutral), (0x7f, 0x84, .boundaryNeutral),
    (0x85, 0x85, .paragraphSeparator), (0x86, 0x9f, .boundaryNeutral),
    (0xa0, 0xa0, .commonSeparator), (0xa1, 0xa1, .otherNeutral),
    (0xa2, 0xa5, .europeanTerminator), (0xa6, 0xa9, .otherNeutral), (0xab, 0xac, .otherNeutral),
    (0xad, 0xad, .boundaryNeutral), (0xae, 0xaf, .otherNeutral),
    (0xb0, 0xb1, .europeanTerminator), (0xb2, 0xb3, .europeanNumber), (0xb4, 0xb4, .otherNeutral),
    (0xb6, 0xb8, .otherNeutral), (0xb9, 0xb9, .europeanNumber), (0xbb, 0xbf, .otherNeutral),
    (0xd7, 0xd7, .otherNeutral), (0xf7, 0xf7, .otherNeutral), (0x2b9, 0x2ba, .otherNeutral),
    (0x2c2, 0x2cf, .otherNeutral), (0x2d2, 0x2df, .otherNeutral), (0x2e5, 0x2ed, .otherNeutral),
    (0x2ef, 0x2ff, .otherNeutral), (0x300, 0x36f, .nonspacingMark), (0x374, 0x375, .otherNeutral),
    (0x37e, 0x37e, .otherNeutral), (0x384, 0x385, .otherNeutral), (0x387, 0x387, .otherNeutral),
    (0x3f6, 0x3f6, .otherNeutral), (0x483, 0x489, .nonspacingMark), (0x58a, 0x58a, .otherNeutral),
    (0x58d, 0x58e, .otherNeutral), (0x58f, 0x58f, .europeanTerminator),
    (0x590, 0x590, .rightToLeft), (0x591, 0x5bd, .nonspacingMark), (0x5be, 0x5be, .rightToLeft),
    (0x5bf, 0x5bf, .nonspacingMark), (0x5c0, 0x5c0, .rightToLeft),
    (0x5c1, 0x5c2, .nonspacingMark), (0x5c3, 0x5c3, .rightToLeft),
    (0x5c4, 0x5c5, .nonspacingMark), (0x5c6, 0x5c6, .rightToLeft),
    (0x5c7, 0x5c7, .nonspacingMark), (0x5c8, 0x5ff, .rightToLeft), (0x600, 0x605, .arabicNumber),
    (0x606, 0x607, .otherNeutral), (0x608, 0x608, .arabicLetter),
    (0x609, 0x60a, .europeanTerminator), (0x60b, 0x60b, .arabicLetter),
    (0x60c, 0x60c, .commonSeparator), (0x60d, 0x60d, .arabicLetter),
    (0x60e, 0x60f, .otherNeutral), (0x610, 0x61a, .nonspacingMark), (0x61b, 0x64a, .arabicLetter),
    (0x64b, 0x65f, .nonspacingMark), (0x660, 0x669, .arabicNumber),
    (0x66a, 0x66a, .europeanTerminator), (0x66b, 0x66c, .arabicNumber),
    (0x66d, 0x66f, .arabicLetter), (0x670, 0x670, .nonspacingMark), (0x671, 0x6d5, .arabicLetter),
    (0x6d6, 0x6dc, .nonspacingMark), (0x6dd, 0x6dd, .arabicNumber), (0x6de, 0x6de, .otherNeutral),
    (0x6df, 0x6e4, .nonspacingMark), (0x6e5, 0x6e6, .arabicLetter),
    (0x6e7, 0x6e8, .nonspacingMark), (0x6e9, 0x6e9, .otherNeutral),
    (0x6ea, 0x6ed, .nonspacingMark), (0x6ee, 0x6ef, .arabicLetter),
    (0x6f0, 0x6f9, .europeanNumber), (0x6fa, 0x710, .arabicLetter),
    (0x711, 0x711, .nonspacingMark), (0x712, 0x72f, .arabicLetter),
    (0x730, 0x74a, .nonspacingMark), (0x74b, 0x7a5, .arabicLetter),
    (0x7a6, 0x7b0, .nonspacingMark), (0x7b1, 0x7bf, .arabicLetter), (0x7c0, 0x7ea, .rightToLeft),
    (0x7eb, 0x7f3, .nonspacingMark), (0x7f4, 0x7f5, .rightToLeft), (0x7f6, 0x7f9, .otherNeutral),
    (0x7fa, 0x7fc, .rightToLeft), (0x7fd, 0x7fd, .nonspacingMark), (0x7fe, 0x815, .rightToLeft),
    (0x816, 0x819, .nonspacingMark), (0x81a, 0x81a, .rightToLeft),
    (0x81b, 0x823, .nonspacingMark), (0x824, 0x824, .rightToLeft),
    (0x825, 0x827, .nonspacingMark), (0x828, 0x828, .rightToLeft),
    (0x829, 0x82d, .nonspacingMark), (0x82e, 0x858, .rightToLeft),
    (0x859, 0x85b, .nonspacingMark), (0x85c, 0x85f, .rightToLeft), (0x860, 0x88f, .arabicLetter),
    (0x890, 0x891, .arabicNumber), (0x892, 0x896, .arabicLetter), (0x897, 0x89f, .nonspacingMark),
    (0x8a0, 0x8c9, .arabicLetter), (0x8ca, 0x8e1, .nonspacingMark), (0x8e2, 0x8e2, .arabicNumber),
    (0x8e3, 0x902, .nonspacingMark), (0x93a, 0x93a, .nonspacingMark),
    (0x93c, 0x93c, .nonspacingMark), (0x941, 0x948, .nonspacingMark),
    (0x94d, 0x94d, .nonspacingMark), (0x951, 0x957, .nonspacingMark),
    (0x962, 0x963, .nonspacingMark), (0x981, 0x981, .nonspacingMark),
    (0x9bc, 0x9bc, .nonspacingMark), (0x9c1, 0x9c4, .nonspacingMark),
    (0x9cd, 0x9cd, .nonspacingMark), (0x9e2, 0x9e3, .nonspacingMark),
    (0x9f2, 0x9f3, .europeanTerminator), (0x9fb, 0x9fb, .europeanTerminator),
    (0x9fe, 0x9fe, .nonspacingMark), (0xa01, 0xa02, .nonspacingMark),
    (0xa3c, 0xa3c, .nonspacingMark), (0xa41, 0xa42, .nonspacingMark),
    (0xa47, 0xa48, .nonspacingMark), (0xa4b, 0xa4d, .nonspacingMark),
    (0xa51, 0xa51, .nonspacingMark), (0xa70, 0xa71, .nonspacingMark),
    (0xa75, 0xa75, .nonspacingMark), (0xa81, 0xa82, .nonspacingMark),
    (0xabc, 0xabc, .nonspacingMark), (0xac1, 0xac5, .nonspacingMark),
    (0xac7, 0xac8, .nonspacingMark), (0xacd, 0xacd, .nonspacingMark),
    (0xae2, 0xae3, .nonspacingMark), (0xaf1, 0xaf1, .europeanTerminator),
    (0xafa, 0xaff, .nonspacingMark), (0xb01, 0xb01, .nonspacingMark),
    (0xb3c, 0xb3c, .nonspacingMark), (0xb3f, 0xb3f, .nonspacingMark),
    (0xb41, 0xb44, .nonspacingMark), (0xb4d, 0xb4d, .nonspacingMark),
    (0xb55, 0xb56, .nonspacingMark), (0xb62, 0xb63, .nonspacingMark),
    (0xb82, 0xb82, .nonspacingMark), (0xbc0, 0xbc0, .nonspacingMark),
    (0xbcd, 0xbcd, .nonspacingMark), (0xbf3, 0xbf8, .otherNeutral),
    (0xbf9, 0xbf9, .europeanTerminator), (0xbfa, 0xbfa, .otherNeutral),
    (0xc00, 0xc00, .nonspacingMark), (0xc04, 0xc04, .nonspacingMark),
    (0xc3c, 0xc3c, .nonspacingMark), (0xc3e, 0xc40, .nonspacingMark),
    (0xc46, 0xc48, .nonspacingMark), (0xc4a, 0xc4d, .nonspacingMark),
    (0xc55, 0xc56, .nonspacingMark), (0xc62, 0xc63, .nonspacingMark),
    (0xc78, 0xc7e, .otherNeutral), (0xc81, 0xc81, .nonspacingMark),
    (0xcbc, 0xcbc, .nonspacingMark), (0xccc, 0xccd, .nonspacingMark),
    (0xce2, 0xce3, .nonspacingMark), (0xd00, 0xd01, .nonspacingMark),
    (0xd3b, 0xd3c, .nonspacingMark), (0xd41, 0xd44, .nonspacingMark),
    (0xd4d, 0xd4d, .nonspacingMark), (0xd62, 0xd63, .nonspacingMark),
    (0xd81, 0xd81, .nonspacingMark), (0xdca, 0xdca, .nonspacingMark),
    (0xdd2, 0xdd4, .nonspacingMark), (0xdd6, 0xdd6, .nonspacingMark),
    (0xe31, 0xe31, .nonspacingMark), (0xe34, 0xe3a, .nonspacingMark),
    (0xe3f, 0xe3f, .europeanTerminator), (0xe47, 0xe4e, .nonspacingMark),
    (0xeb1, 0xeb1, .nonspacingMark), (0xeb4, 0xebc, .nonspacingMark),
    (0xec8, 0xece, .nonspacingMark), (0xf18, 0xf19, .nonspacingMark),
    (0xf35, 0xf35, .nonspacingMark), (0xf37, 0xf37, .nonspacingMark),
    (0xf39, 0xf39, .nonspacingMark), (0xf3a, 0xf3d, .otherNeutral),
    (0xf71, 0xf7e, .nonspacingMark), (0xf80, 0xf84, .nonspacingMark),
    (0xf86, 0xf87, .nonspacingMark), (0xf8d, 0xf97, .nonspacingMark),
    (0xf99, 0xfbc, .nonspacingMark), (0xfc6, 0xfc6, .nonspacingMark),
    (0x102d, 0x1030, .nonspacingMark), (0x1032, 0x1037, .nonspacingMark),
    (0x1039, 0x103a, .nonspacingMark), (0x103d, 0x103e, .nonspacingMark),
    (0x1058, 0x1059, .nonspacingMark), (0x105e, 0x1060, .nonspacingMark),
    (0x1071, 0x1074, .nonspacingMark), (0x1082, 0x1082, .nonspacingMark),
    (0x1085, 0x1086, .nonspacingMark), (0x108d, 0x108d, .nonspacingMark),
    (0x109d, 0x109d, .nonspacingMark), (0x135d, 0x135f, .nonspacingMark),
    (0x1390, 0x1399, .otherNeutral), (0x1400, 0x1400, .otherNeutral),
    (0x1680, 0x1680, .whiteSpace), (0x169b, 0x169c, .otherNeutral),
    (0x1712, 0x1714, .nonspacingMark), (0x1732, 0x1733, .nonspacingMark),
    (0x1752, 0x1753, .nonspacingMark), (0x1772, 0x1773, .nonspacingMark),
    (0x17b4, 0x17b5, .nonspacingMark), (0x17b7, 0x17bd, .nonspacingMark),
    (0x17c6, 0x17c6, .nonspacingMark), (0x17c9, 0x17d3, .nonspacingMark),
    (0x17db, 0x17db, .europeanTerminator), (0x17dd, 0x17dd, .nonspacingMark),
    (0x17f0, 0x17f9, .otherNeutral), (0x1800, 0x180a, .otherNeutral),
    (0x180b, 0x180d, .nonspacingMark), (0x180e, 0x180e, .boundaryNeutral),
    (0x180f, 0x180f, .nonspacingMark), (0x1885, 0x1886, .nonspacingMark),
    (0x18a9, 0x18a9, .nonspacingMark), (0x1920, 0x1922, .nonspacingMark),
    (0x1927, 0x1928, .nonspacingMark), (0x1932, 0x1932, .nonspacingMark),
    (0x1939, 0x193b, .nonspacingMark), (0x1940, 0x1940, .otherNeutral),
    (0x1944, 0x1945, .otherNeutral), (0x19de, 0x19ff, .otherNeutral),
    (0x1a17, 0x1a18, .nonspacingMark), (0x1a1b, 0x1a1b, .nonspacingMark),
    (0x1a56, 0x1a56, .nonspacingMark), (0x1a58, 0x1a5e, .nonspacingMark),
    (0x1a60, 0x1a60, .nonspacingMark), (0x1a62, 0x1a62, .nonspacingMark),
    (0x1a65, 0x1a6c, .nonspacingMark), (0x1a73, 0x1a7c, .nonspacingMark),
    (0x1a7f, 0x1a7f, .nonspacingMark), (0x1ab0, 0x1add, .nonspacingMark),
    (0x1ae0, 0x1aeb, .nonspacingMark), (0x1b00, 0x1b03, .nonspacingMark),
    (0x1b34, 0x1b34, .nonspacingMark), (0x1b36, 0x1b3a, .nonspacingMark),
    (0x1b3c, 0x1b3c, .nonspacingMark), (0x1b42, 0x1b42, .nonspacingMark),
    (0x1b6b, 0x1b73, .nonspacingMark), (0x1b80, 0x1b81, .nonspacingMark),
    (0x1ba2, 0x1ba5, .nonspacingMark), (0x1ba8, 0x1ba9, .nonspacingMark),
    (0x1bab, 0x1bad, .nonspacingMark), (0x1be6, 0x1be6, .nonspacingMark),
    (0x1be8, 0x1be9, .nonspacingMark), (0x1bed, 0x1bed, .nonspacingMark),
    (0x1bef, 0x1bf1, .nonspacingMark), (0x1c2c, 0x1c33, .nonspacingMark),
    (0x1c36, 0x1c37, .nonspacingMark), (0x1cd0, 0x1cd2, .nonspacingMark),
    (0x1cd4, 0x1ce0, .nonspacingMark), (0x1ce2, 0x1ce8, .nonspacingMark),
    (0x1ced, 0x1ced, .nonspacingMark), (0x1cf4, 0x1cf4, .nonspacingMark),
    (0x1cf8, 0x1cf9, .nonspacingMark), (0x1dc0, 0x1dff, .nonspacingMark),
    (0x1fbd, 0x1fbd, .otherNeutral), (0x1fbf, 0x1fc1, .otherNeutral),
    (0x1fcd, 0x1fcf, .otherNeutral), (0x1fdd, 0x1fdf, .otherNeutral),
    (0x1fed, 0x1fef, .otherNeutral), (0x1ffd, 0x1ffe, .otherNeutral),
    (0x2000, 0x200a, .whiteSpace), (0x200b, 0x200d, .boundaryNeutral),
    (0x200f, 0x200f, .rightToLeft), (0x2010, 0x2027, .otherNeutral),
    (0x2028, 0x2028, .whiteSpace), (0x2029, 0x2029, .paragraphSeparator),
    (0x202a, 0x202e, .explicitControl), (0x202f, 0x202f, .commonSeparator),
    (0x2030, 0x2034, .europeanTerminator), (0x2035, 0x2043, .otherNeutral),
    (0x2044, 0x2044, .commonSeparator), (0x2045, 0x205e, .otherNeutral),
    (0x205f, 0x205f, .whiteSpace), (0x2060, 0x2065, .boundaryNeutral),
    (0x2066, 0x2069, .explicitControl), (0x206a, 0x206f, .boundaryNeutral),
    (0x2070, 0x2070, .europeanNumber), (0x2074, 0x2079, .europeanNumber),
    (0x207a, 0x207b, .europeanSeparator), (0x207c, 0x207e, .otherNeutral),
    (0x2080, 0x2089, .europeanNumber), (0x208a, 0x208b, .europeanSeparator),
    (0x208c, 0x208e, .otherNeutral), (0x20a0, 0x20cf, .europeanTerminator),
    (0x20d0, 0x20f0, .nonspacingMark), (0x2100, 0x2101, .otherNeutral),
    (0x2103, 0x2106, .otherNeutral), (0x2108, 0x2109, .otherNeutral),
    (0x2114, 0x2114, .otherNeutral), (0x2116, 0x2118, .otherNeutral),
    (0x211e, 0x2123, .otherNeutral), (0x2125, 0x2125, .otherNeutral),
    (0x2127, 0x2127, .otherNeutral), (0x2129, 0x2129, .otherNeutral),
    (0x212e, 0x212e, .europeanTerminator), (0x213a, 0x213b, .otherNeutral),
    (0x2140, 0x2144, .otherNeutral), (0x214a, 0x214d, .otherNeutral),
    (0x2150, 0x215f, .otherNeutral), (0x2189, 0x218b, .otherNeutral),
    (0x2190, 0x2211, .otherNeutral), (0x2212, 0x2212, .europeanSeparator),
    (0x2213, 0x2213, .europeanTerminator), (0x2214, 0x2335, .otherNeutral),
    (0x237b, 0x2394, .otherNeutral), (0x2396, 0x2429, .otherNeutral),
    (0x2440, 0x244a, .otherNeutral), (0x2460, 0x2487, .otherNeutral),
    (0x2488, 0x249b, .europeanNumber), (0x24ea, 0x26ab, .otherNeutral),
    (0x26ad, 0x27ff, .otherNeutral), (0x2900, 0x2b73, .otherNeutral),
    (0x2b76, 0x2bff, .otherNeutral), (0x2ce5, 0x2cea, .otherNeutral),
    (0x2cef, 0x2cf1, .nonspacingMark), (0x2cf9, 0x2cff, .otherNeutral),
    (0x2d7f, 0x2d7f, .nonspacingMark), (0x2de0, 0x2dff, .nonspacingMark),
    (0x2e00, 0x2e5d, .otherNeutral), (0x2e80, 0x2e99, .otherNeutral),
    (0x2e9b, 0x2ef3, .otherNeutral), (0x2f00, 0x2fd5, .otherNeutral),
    (0x2ff0, 0x2fff, .otherNeutral), (0x3000, 0x3000, .whiteSpace),
    (0x3001, 0x3004, .otherNeutral), (0x3008, 0x3020, .otherNeutral),
    (0x302a, 0x302d, .nonspacingMark), (0x3030, 0x3030, .otherNeutral),
    (0x3036, 0x3037, .otherNeutral), (0x303d, 0x303f, .otherNeutral),
    (0x3099, 0x309a, .nonspacingMark), (0x309b, 0x309c, .otherNeutral),
    (0x30a0, 0x30a0, .otherNeutral), (0x30fb, 0x30fb, .otherNeutral),
    (0x31c0, 0x31e5, .otherNeutral), (0x31ef, 0x31ef, .otherNeutral),
    (0x321d, 0x321e, .otherNeutral), (0x3250, 0x325f, .otherNeutral),
    (0x327c, 0x327e, .otherNeutral), (0x32b1, 0x32bf, .otherNeutral),
    (0x32cc, 0x32cf, .otherNeutral), (0x3377, 0x337a, .otherNeutral),
    (0x33de, 0x33df, .otherNeutral), (0x33ff, 0x33ff, .otherNeutral),
    (0x4dc0, 0x4dff, .otherNeutral), (0xa490, 0xa4c6, .otherNeutral),
    (0xa60d, 0xa60f, .otherNeutral), (0xa66f, 0xa672, .nonspacingMark),
    (0xa673, 0xa673, .otherNeutral), (0xa674, 0xa67d, .nonspacingMark),
    (0xa67e, 0xa67f, .otherNeutral), (0xa69e, 0xa69f, .nonspacingMark),
    (0xa6f0, 0xa6f1, .nonspacingMark), (0xa700, 0xa721, .otherNeutral),
    (0xa788, 0xa788, .otherNeutral), (0xa802, 0xa802, .nonspacingMark),
    (0xa806, 0xa806, .nonspacingMark), (0xa80b, 0xa80b, .nonspacingMark),
    (0xa825, 0xa826, .nonspacingMark), (0xa828, 0xa82b, .otherNeutral),
    (0xa82c, 0xa82c, .nonspacingMark), (0xa838, 0xa839, .europeanTerminator),
    (0xa874, 0xa877, .otherNeutral), (0xa8c4, 0xa8c5, .nonspacingMark),
    (0xa8e0, 0xa8f1, .nonspacingMark), (0xa8ff, 0xa8ff, .nonspacingMark),
    (0xa926, 0xa92d, .nonspacingMark), (0xa947, 0xa951, .nonspacingMark),
    (0xa980, 0xa982, .nonspacingMark), (0xa9b3, 0xa9b3, .nonspacingMark),
    (0xa9b6, 0xa9b9, .nonspacingMark), (0xa9bc, 0xa9bd, .nonspacingMark),
    (0xa9e5, 0xa9e5, .nonspacingMark), (0xaa29, 0xaa2e, .nonspacingMark),
    (0xaa31, 0xaa32, .nonspacingMark), (0xaa35, 0xaa36, .nonspacingMark),
    (0xaa43, 0xaa43, .nonspacingMark), (0xaa4c, 0xaa4c, .nonspacingMark),
    (0xaa7c, 0xaa7c, .nonspacingMark), (0xaab0, 0xaab0, .nonspacingMark),
    (0xaab2, 0xaab4, .nonspacingMark), (0xaab7, 0xaab8, .nonspacingMark),
    (0xaabe, 0xaabf, .nonspacingMark), (0xaac1, 0xaac1, .nonspacingMark),
    (0xaaec, 0xaaed, .nonspacingMark), (0xaaf6, 0xaaf6, .nonspacingMark),
    (0xab6a, 0xab6b, .otherNeutral), (0xabe5, 0xabe5, .nonspacingMark),
    (0xabe8, 0xabe8, .nonspacingMark), (0xabed, 0xabed, .nonspacingMark),
    (0xfb1d, 0xfb1d, .rightToLeft), (0xfb1e, 0xfb1e, .nonspacingMark),
    (0xfb1f, 0xfb28, .rightToLeft), (0xfb29, 0xfb29, .europeanSeparator),
    (0xfb2a, 0xfb4f, .rightToLeft), (0xfb50, 0xfbc2, .arabicLetter),
    (0xfbc3, 0xfbd2, .otherNeutral), (0xfbd3, 0xfd3d, .arabicLetter),
    (0xfd3e, 0xfd4f, .otherNeutral), (0xfd50, 0xfd8f, .arabicLetter),
    (0xfd90, 0xfd91, .otherNeutral), (0xfd92, 0xfdc7, .arabicLetter),
    (0xfdc8, 0xfdcf, .otherNeutral), (0xfdd0, 0xfdef, .boundaryNeutral),
    (0xfdf0, 0xfdfc, .arabicLetter), (0xfdfd, 0xfdff, .otherNeutral),
    (0xfe00, 0xfe0f, .nonspacingMark), (0xfe10, 0xfe19, .otherNeutral),
    (0xfe20, 0xfe2f, .nonspacingMark), (0xfe30, 0xfe4f, .otherNeutral),
    (0xfe50, 0xfe50, .commonSeparator), (0xfe51, 0xfe51, .otherNeutral),
    (0xfe52, 0xfe52, .commonSeparator), (0xfe54, 0xfe54, .otherNeutral),
    (0xfe55, 0xfe55, .commonSeparator), (0xfe56, 0xfe5e, .otherNeutral),
    (0xfe5f, 0xfe5f, .europeanTerminator), (0xfe60, 0xfe61, .otherNeutral),
    (0xfe62, 0xfe63, .europeanSeparator), (0xfe64, 0xfe66, .otherNeutral),
    (0xfe68, 0xfe68, .otherNeutral), (0xfe69, 0xfe6a, .europeanTerminator),
    (0xfe6b, 0xfe6b, .otherNeutral), (0xfe70, 0xfefe, .arabicLetter),
    (0xfeff, 0xfeff, .boundaryNeutral), (0xff01, 0xff02, .otherNeutral),
    (0xff03, 0xff05, .europeanTerminator), (0xff06, 0xff0a, .otherNeutral),
    (0xff0b, 0xff0b, .europeanSeparator), (0xff0c, 0xff0c, .commonSeparator),
    (0xff0d, 0xff0d, .europeanSeparator), (0xff0e, 0xff0f, .commonSeparator),
    (0xff10, 0xff19, .europeanNumber), (0xff1a, 0xff1a, .commonSeparator),
    (0xff1b, 0xff20, .otherNeutral), (0xff3b, 0xff40, .otherNeutral),
    (0xff5b, 0xff65, .otherNeutral), (0xffe0, 0xffe1, .europeanTerminator),
    (0xffe2, 0xffe4, .otherNeutral), (0xffe5, 0xffe6, .europeanTerminator),
    (0xffe8, 0xffee, .otherNeutral), (0xfff0, 0xfff8, .boundaryNeutral),
    (0xfff9, 0xfffd, .otherNeutral), (0xfffe, 0xffff, .boundaryNeutral),
    (0x10101, 0x10101, .otherNeutral), (0x10140, 0x1018c, .otherNeutral),
    (0x10190, 0x1019c, .otherNeutral), (0x101a0, 0x101a0, .otherNeutral),
    (0x101fd, 0x101fd, .nonspacingMark), (0x102e0, 0x102e0, .nonspacingMark),
    (0x102e1, 0x102fb, .europeanNumber), (0x10376, 0x1037a, .nonspacingMark),
    (0x10800, 0x1091e, .rightToLeft), (0x1091f, 0x1091f, .otherNeutral),
    (0x10920, 0x10a00, .rightToLeft), (0x10a01, 0x10a03, .nonspacingMark),
    (0x10a04, 0x10a04, .rightToLeft), (0x10a05, 0x10a06, .nonspacingMark),
    (0x10a07, 0x10a0b, .rightToLeft), (0x10a0c, 0x10a0f, .nonspacingMark),
    (0x10a10, 0x10a37, .rightToLeft), (0x10a38, 0x10a3a, .nonspacingMark),
    (0x10a3b, 0x10a3e, .rightToLeft), (0x10a3f, 0x10a3f, .nonspacingMark),
    (0x10a40, 0x10ae4, .rightToLeft), (0x10ae5, 0x10ae6, .nonspacingMark),
    (0x10ae7, 0x10b38, .rightToLeft), (0x10b39, 0x10b3f, .otherNeutral),
    (0x10b40, 0x10cff, .rightToLeft), (0x10d00, 0x10d23, .arabicLetter),
    (0x10d24, 0x10d27, .nonspacingMark), (0x10d28, 0x10d2f, .arabicLetter),
    (0x10d30, 0x10d39, .arabicNumber), (0x10d3a, 0x10d3f, .arabicLetter),
    (0x10d40, 0x10d49, .arabicNumber), (0x10d4a, 0x10d68, .rightToLeft),
    (0x10d69, 0x10d6d, .nonspacingMark), (0x10d6e, 0x10d6e, .otherNeutral),
    (0x10d6f, 0x10d8d, .rightToLeft), (0x10d8e, 0x10d8f, .otherNeutral),
    (0x10d90, 0x10e5f, .rightToLeft), (0x10e60, 0x10e7e, .arabicNumber),
    (0x10e7f, 0x10eaa, .rightToLeft), (0x10eab, 0x10eac, .nonspacingMark),
    (0x10ead, 0x10ebf, .rightToLeft), (0x10ec0, 0x10ed0, .arabicLetter),
    (0x10ed1, 0x10ed8, .otherNeutral), (0x10ed9, 0x10ef9, .arabicLetter),
    (0x10efa, 0x10eff, .nonspacingMark), (0x10f00, 0x10f2f, .rightToLeft),
    (0x10f30, 0x10f45, .arabicLetter), (0x10f46, 0x10f50, .nonspacingMark),
    (0x10f51, 0x10f6f, .arabicLetter), (0x10f70, 0x10f81, .rightToLeft),
    (0x10f82, 0x10f85, .nonspacingMark), (0x10f86, 0x10fff, .rightToLeft),
    (0x11001, 0x11001, .nonspacingMark), (0x11038, 0x11046, .nonspacingMark),
    (0x11052, 0x11065, .otherNeutral), (0x11070, 0x11070, .nonspacingMark),
    (0x11073, 0x11074, .nonspacingMark), (0x1107f, 0x11081, .nonspacingMark),
    (0x110b3, 0x110b6, .nonspacingMark), (0x110b9, 0x110ba, .nonspacingMark),
    (0x110c2, 0x110c2, .nonspacingMark), (0x11100, 0x11102, .nonspacingMark),
    (0x11127, 0x1112b, .nonspacingMark), (0x1112d, 0x11134, .nonspacingMark),
    (0x11173, 0x11173, .nonspacingMark), (0x11180, 0x11181, .nonspacingMark),
    (0x111b6, 0x111be, .nonspacingMark), (0x111c9, 0x111cc, .nonspacingMark),
    (0x111cf, 0x111cf, .nonspacingMark), (0x1122f, 0x11231, .nonspacingMark),
    (0x11234, 0x11234, .nonspacingMark), (0x11236, 0x11237, .nonspacingMark),
    (0x1123e, 0x1123e, .nonspacingMark), (0x11241, 0x11241, .nonspacingMark),
    (0x112df, 0x112df, .nonspacingMark), (0x112e3, 0x112ea, .nonspacingMark),
    (0x11300, 0x11301, .nonspacingMark), (0x1133b, 0x1133c, .nonspacingMark),
    (0x11340, 0x11340, .nonspacingMark), (0x11366, 0x1136c, .nonspacingMark),
    (0x11370, 0x11374, .nonspacingMark), (0x113bb, 0x113c0, .nonspacingMark),
    (0x113ce, 0x113ce, .nonspacingMark), (0x113d0, 0x113d0, .nonspacingMark),
    (0x113d2, 0x113d2, .nonspacingMark), (0x113e1, 0x113e2, .nonspacingMark),
    (0x11438, 0x1143f, .nonspacingMark), (0x11442, 0x11444, .nonspacingMark),
    (0x11446, 0x11446, .nonspacingMark), (0x1145e, 0x1145e, .nonspacingMark),
    (0x114b3, 0x114b8, .nonspacingMark), (0x114ba, 0x114ba, .nonspacingMark),
    (0x114bf, 0x114c0, .nonspacingMark), (0x114c2, 0x114c3, .nonspacingMark),
    (0x115b2, 0x115b5, .nonspacingMark), (0x115bc, 0x115bd, .nonspacingMark),
    (0x115bf, 0x115c0, .nonspacingMark), (0x115dc, 0x115dd, .nonspacingMark),
    (0x11633, 0x1163a, .nonspacingMark), (0x1163d, 0x1163d, .nonspacingMark),
    (0x1163f, 0x11640, .nonspacingMark), (0x11660, 0x1166c, .otherNeutral),
    (0x116ab, 0x116ab, .nonspacingMark), (0x116ad, 0x116ad, .nonspacingMark),
    (0x116b0, 0x116b5, .nonspacingMark), (0x116b7, 0x116b7, .nonspacingMark),
    (0x1171d, 0x1171f, .nonspacingMark), (0x11722, 0x11725, .nonspacingMark),
    (0x11727, 0x1172b, .nonspacingMark), (0x1182f, 0x11837, .nonspacingMark),
    (0x11839, 0x1183a, .nonspacingMark), (0x1193b, 0x1193c, .nonspacingMark),
    (0x1193e, 0x1193e, .nonspacingMark), (0x11943, 0x11943, .nonspacingMark),
    (0x119d4, 0x119d7, .nonspacingMark), (0x119da, 0x119db, .nonspacingMark),
    (0x119e0, 0x119e0, .nonspacingMark), (0x11a01, 0x11a06, .nonspacingMark),
    (0x11a09, 0x11a0a, .nonspacingMark), (0x11a33, 0x11a38, .nonspacingMark),
    (0x11a3b, 0x11a3e, .nonspacingMark), (0x11a47, 0x11a47, .nonspacingMark),
    (0x11a51, 0x11a56, .nonspacingMark), (0x11a59, 0x11a5b, .nonspacingMark),
    (0x11a8a, 0x11a96, .nonspacingMark), (0x11a98, 0x11a99, .nonspacingMark),
    (0x11b60, 0x11b60, .nonspacingMark), (0x11b62, 0x11b64, .nonspacingMark),
    (0x11b66, 0x11b66, .nonspacingMark), (0x11c30, 0x11c36, .nonspacingMark),
    (0x11c38, 0x11c3d, .nonspacingMark), (0x11c92, 0x11ca7, .nonspacingMark),
    (0x11caa, 0x11cb0, .nonspacingMark), (0x11cb2, 0x11cb3, .nonspacingMark),
    (0x11cb5, 0x11cb6, .nonspacingMark), (0x11d31, 0x11d36, .nonspacingMark),
    (0x11d3a, 0x11d3a, .nonspacingMark), (0x11d3c, 0x11d3d, .nonspacingMark),
    (0x11d3f, 0x11d45, .nonspacingMark), (0x11d47, 0x11d47, .nonspacingMark),
    (0x11d90, 0x11d91, .nonspacingMark), (0x11d95, 0x11d95, .nonspacingMark),
    (0x11d97, 0x11d97, .nonspacingMark), (0x11ef3, 0x11ef4, .nonspacingMark),
    (0x11f00, 0x11f01, .nonspacingMark), (0x11f36, 0x11f3a, .nonspacingMark),
    (0x11f40, 0x11f40, .nonspacingMark), (0x11f42, 0x11f42, .nonspacingMark),
    (0x11f5a, 0x11f5a, .nonspacingMark), (0x11fd5, 0x11fdc, .otherNeutral),
    (0x11fdd, 0x11fe0, .europeanTerminator), (0x11fe1, 0x11ff1, .otherNeutral),
    (0x13440, 0x13440, .nonspacingMark), (0x13447, 0x13455, .nonspacingMark),
    (0x1611e, 0x16129, .nonspacingMark), (0x1612d, 0x1612f, .nonspacingMark),
    (0x16af0, 0x16af4, .nonspacingMark), (0x16b30, 0x16b36, .nonspacingMark),
    (0x16f4f, 0x16f4f, .nonspacingMark), (0x16f8f, 0x16f92, .nonspacingMark),
    (0x16fe2, 0x16fe2, .otherNeutral), (0x16fe4, 0x16fe4, .nonspacingMark),
    (0x1bc9d, 0x1bc9e, .nonspacingMark), (0x1bca0, 0x1bca3, .boundaryNeutral),
    (0x1cc00, 0x1ccef, .otherNeutral), (0x1ccf0, 0x1ccf9, .europeanNumber),
    (0x1ccfa, 0x1ccfc, .otherNeutral), (0x1cd00, 0x1ceb3, .otherNeutral),
    (0x1ceba, 0x1ced0, .otherNeutral), (0x1cee0, 0x1cef0, .otherNeutral),
    (0x1cf00, 0x1cf2d, .nonspacingMark), (0x1cf30, 0x1cf46, .nonspacingMark),
    (0x1d167, 0x1d169, .nonspacingMark), (0x1d173, 0x1d17a, .boundaryNeutral),
    (0x1d17b, 0x1d182, .nonspacingMark), (0x1d185, 0x1d18b, .nonspacingMark),
    (0x1d1aa, 0x1d1ad, .nonspacingMark), (0x1d1e9, 0x1d1ea, .otherNeutral),
    (0x1d200, 0x1d241, .otherNeutral), (0x1d242, 0x1d244, .nonspacingMark),
    (0x1d245, 0x1d245, .otherNeutral), (0x1d300, 0x1d356, .otherNeutral),
    (0x1d6db, 0x1d6db, .otherNeutral), (0x1d715, 0x1d715, .otherNeutral),
    (0x1d74f, 0x1d74f, .otherNeutral), (0x1d789, 0x1d789, .otherNeutral),
    (0x1d7c3, 0x1d7c3, .otherNeutral), (0x1d7ce, 0x1d7ff, .europeanNumber),
    (0x1da00, 0x1da36, .nonspacingMark), (0x1da3b, 0x1da6c, .nonspacingMark),
    (0x1da75, 0x1da75, .nonspacingMark), (0x1da84, 0x1da84, .nonspacingMark),
    (0x1da9b, 0x1da9f, .nonspacingMark), (0x1daa1, 0x1daaf, .nonspacingMark),
    (0x1e000, 0x1e006, .nonspacingMark), (0x1e008, 0x1e018, .nonspacingMark),
    (0x1e01b, 0x1e021, .nonspacingMark), (0x1e023, 0x1e024, .nonspacingMark),
    (0x1e026, 0x1e02a, .nonspacingMark), (0x1e08f, 0x1e08f, .nonspacingMark),
    (0x1e130, 0x1e136, .nonspacingMark), (0x1e2ae, 0x1e2ae, .nonspacingMark),
    (0x1e2ec, 0x1e2ef, .nonspacingMark), (0x1e2ff, 0x1e2ff, .europeanTerminator),
    (0x1e4ec, 0x1e4ef, .nonspacingMark), (0x1e5ee, 0x1e5ef, .nonspacingMark),
    (0x1e6e3, 0x1e6e3, .nonspacingMark), (0x1e6e6, 0x1e6e6, .nonspacingMark),
    (0x1e6ee, 0x1e6ef, .nonspacingMark), (0x1e6f5, 0x1e6f5, .nonspacingMark),
    (0x1e800, 0x1e8cf, .rightToLeft), (0x1e8d0, 0x1e8d6, .nonspacingMark),
    (0x1e8d7, 0x1e943, .rightToLeft), (0x1e944, 0x1e94a, .nonspacingMark),
    (0x1e94b, 0x1ec6f, .rightToLeft), (0x1ec70, 0x1ecbf, .arabicLetter),
    (0x1ecc0, 0x1ecff, .rightToLeft), (0x1ed00, 0x1ed4f, .arabicLetter),
    (0x1ed50, 0x1edff, .rightToLeft), (0x1ee00, 0x1eeef, .arabicLetter),
    (0x1eef0, 0x1eef1, .otherNeutral), (0x1eef2, 0x1eeff, .arabicLetter),
    (0x1ef00, 0x1efff, .rightToLeft), (0x1f000, 0x1f02b, .otherNeutral),
    (0x1f030, 0x1f093, .otherNeutral), (0x1f0a0, 0x1f0ae, .otherNeutral),
    (0x1f0b1, 0x1f0bf, .otherNeutral), (0x1f0c1, 0x1f0cf, .otherNeutral),
    (0x1f0d1, 0x1f0f5, .otherNeutral), (0x1f100, 0x1f10a, .europeanNumber),
    (0x1f10b, 0x1f10f, .otherNeutral), (0x1f12f, 0x1f12f, .otherNeutral),
    (0x1f16a, 0x1f16f, .otherNeutral), (0x1f1ad, 0x1f1ad, .otherNeutral),
    (0x1f260, 0x1f265, .otherNeutral), (0x1f300, 0x1f6d8, .otherNeutral),
    (0x1f6dc, 0x1f6ec, .otherNeutral), (0x1f6f0, 0x1f6fc, .otherNeutral),
    (0x1f700, 0x1f7d9, .otherNeutral), (0x1f7e0, 0x1f7eb, .otherNeutral),
    (0x1f7f0, 0x1f7f0, .otherNeutral), (0x1f800, 0x1f80b, .otherNeutral),
    (0x1f810, 0x1f847, .otherNeutral), (0x1f850, 0x1f859, .otherNeutral),
    (0x1f860, 0x1f887, .otherNeutral), (0x1f890, 0x1f8ad, .otherNeutral),
    (0x1f8b0, 0x1f8bb, .otherNeutral), (0x1f8c0, 0x1f8c1, .otherNeutral),
    (0x1f8d0, 0x1f8d8, .otherNeutral), (0x1f900, 0x1fa57, .otherNeutral),
    (0x1fa60, 0x1fa6d, .otherNeutral), (0x1fa70, 0x1fa7c, .otherNeutral),
    (0x1fa80, 0x1fa8a, .otherNeutral), (0x1fa8e, 0x1fac6, .otherNeutral),
    (0x1fac8, 0x1fac8, .otherNeutral), (0x1facd, 0x1fadc, .otherNeutral),
    (0x1fadf, 0x1faea, .otherNeutral), (0x1faef, 0x1faf8, .otherNeutral),
    (0x1fb00, 0x1fb92, .otherNeutral), (0x1fb94, 0x1fbef, .otherNeutral),
    (0x1fbf0, 0x1fbf9, .europeanNumber), (0x1fbfa, 0x1fbfa, .otherNeutral),
    (0x1fffe, 0x1ffff, .boundaryNeutral), (0x2fffe, 0x2ffff, .boundaryNeutral),
    (0x3fffe, 0x3ffff, .boundaryNeutral), (0x4fffe, 0x4ffff, .boundaryNeutral),
    (0x5fffe, 0x5ffff, .boundaryNeutral), (0x6fffe, 0x6ffff, .boundaryNeutral),
    (0x7fffe, 0x7ffff, .boundaryNeutral), (0x8fffe, 0x8ffff, .boundaryNeutral),
    (0x9fffe, 0x9ffff, .boundaryNeutral), (0xafffe, 0xaffff, .boundaryNeutral),
    (0xbfffe, 0xbffff, .boundaryNeutral), (0xcfffe, 0xcffff, .boundaryNeutral),
    (0xdfffe, 0xe00ff, .boundaryNeutral), (0xe0100, 0xe01ef, .nonspacingMark),
    (0xe01f0, 0xe0fff, .boundaryNeutral), (0xefffe, 0xeffff, .boundaryNeutral),
    (0xffffe, 0xfffff, .boundaryNeutral), (0x10fffe, 0x10ffff, .boundaryNeutral)]

/-- The bidirectional class of a character: that of the range holding it, and left-to-right
outside every range. -/
def bidiClass (c : Char) : BidiClass :=
  match bidiRanges.find? fun r => r.1 ≤ c.toNat && c.toNat ≤ r.2.1 with
  | some r => r.2.2
  | none => .leftToRight

end OrderDesk.Text
