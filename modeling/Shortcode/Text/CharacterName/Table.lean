/-!
# The table of the names of characters

The names of a row are those of characters that follow each other.  Each name starts with a digit,
which tells how many of its first words are those of the name before it, in the row or in the row
before.
-/

namespace Shortcode.Text

/-- The names of Latin letters, digits and common marks, each row behind its first character. -/
def latinNames : List (Nat × String) := [
  (0x20, "0SPACE,0EXCLAMATION MARK,0QUOTATION MARK,0NUMBER SIGN,0DOLLAR SIGN,0PERCENT SIGN"),
  (0x26, "0AMPERSAND,0APOSTROPHE,0LEFT PARENTHESIS,0RIGHT PARENTHESIS,0ASTERISK,0PLUS SIGN"),
  (0x2c, "0COMMA,0HYPHEN-MINUS,0FULL STOP,0SOLIDUS,0DIGIT ZERO,1ONE,1TWO,1THREE,1FOUR,1FIVE"),
  (0x36, "1SIX,1SEVEN,1EIGHT,1NINE,0COLON,0SEMICOLON,0LESS-THAN SIGN,0EQUALS SIGN"),
  (0x3e, "0GREATER-THAN SIGN,0QUESTION MARK,0COMMERCIAL AT,0LATIN CAPITAL LETTER A,3B,3C,3D,3E"),
  (0x46, "3F,3G,3H,3I,3J,3K,3L,3M,3N,3O,3P,3Q,3R,3S,3T,3U,3V,3W,3X,3Y,3Z,0LEFT SQUARE BRACKET"),
  (0x5c, "0REVERSE SOLIDUS,0RIGHT SQUARE BRACKET,0CIRCUMFLEX ACCENT,0LOW LINE,0GRAVE ACCENT"),
  (0x61, "0LATIN SMALL LETTER A,3B,3C,3D,3E,3F,3G,3H,3I,3J,3K,3L,3M,3N,3O,3P,3Q,3R,3S,3T,3U,3V"),
  (0x77, "3W,3X,3Y,3Z,0LEFT CURLY BRACKET,0VERTICAL LINE,0RIGHT CURLY BRACKET,0TILDE"),
  (0xa0, "0NO-BREAK SPACE,0INVERTED EXCLAMATION MARK,0CENT SIGN,0POUND SIGN,0CURRENCY SIGN"),
  (0xa5, "0YEN SIGN,0BROKEN BAR,0SECTION SIGN,0DIAERESIS,0COPYRIGHT SIGN"),
  (0xaa, "0FEMININE ORDINAL INDICATOR,0LEFT-POINTING DOUBLE ANGLE QUOTATION MARK,0NOT SIGN"),
  (0xad, "0SOFT HYPHEN,0REGISTERED SIGN,0MACRON,0DEGREE SIGN,0PLUS-MINUS SIGN,0SUPERSCRIPT TWO"),
  (0xb3, "1THREE,0ACUTE ACCENT,0MICRO SIGN,0PILCROW SIGN,0MIDDLE DOT,0CEDILLA,0SUPERSCRIPT ONE"),
  (0xba, "0MASCULINE ORDINAL INDICATOR,0RIGHT-POINTING DOUBLE ANGLE QUOTATION MARK"),
  (0xbc, "0VULGAR FRACTION ONE QUARTER,3HALF,2THREE QUARTERS,0INVERTED QUESTION MARK"),
  (0xc0, "0LATIN CAPITAL LETTER A WITH GRAVE,5ACUTE,5CIRCUMFLEX,5TILDE,5DIAERESIS,5RING ABOVE"),
  (0xc6, "3AE,3C WITH CEDILLA,3E WITH GRAVE,5ACUTE,5CIRCUMFLEX,5DIAERESIS,3I WITH GRAVE,5ACUTE"),
  (0xce, "5CIRCUMFLEX,5DIAERESIS,3ETH,3N WITH TILDE,3O WITH GRAVE,5ACUTE,5CIRCUMFLEX,5TILDE"),
  (0xd6, "5DIAERESIS,0MULTIPLICATION SIGN,0LATIN CAPITAL LETTER O WITH STROKE,3U WITH GRAVE"),
  (0xda, "5ACUTE,5CIRCUMFLEX,5DIAERESIS,3Y WITH ACUTE,3THORN,1SMALL LETTER SHARP S"),
  (0xe0, "3A WITH GRAVE,5ACUTE,5CIRCUMFLEX,5TILDE,5DIAERESIS,5RING ABOVE,3AE,3C WITH CEDILLA"),
  (0xe8, "3E WITH GRAVE,5ACUTE,5CIRCUMFLEX,5DIAERESIS,3I WITH GRAVE,5ACUTE,5CIRCUMFLEX"),
  (0xef, "5DIAERESIS,3ETH,3N WITH TILDE,3O WITH GRAVE,5ACUTE,5CIRCUMFLEX,5TILDE,5DIAERESIS"),
  (0xf7, "0DIVISION SIGN,0LATIN SMALL LETTER O WITH STROKE,3U WITH GRAVE,5ACUTE,5CIRCUMFLEX"),
  (0xfc, "5DIAERESIS,3Y WITH ACUTE,3THORN,3Y WITH DIAERESIS,1CAPITAL LETTER A WITH MACRON"),
  (0x101, "1SMALL LETTER A WITH MACRON,1CAPITAL LETTER A WITH BREVE,1SMALL LETTER A WITH BREVE"),
  (0x104, "1CAPITAL LETTER A WITH OGONEK,1SMALL LETTER A WITH OGONEK"),
  (0x106, "1CAPITAL LETTER C WITH ACUTE,1SMALL LETTER C WITH ACUTE"),
  (0x108, "1CAPITAL LETTER C WITH CIRCUMFLEX,1SMALL LETTER C WITH CIRCUMFLEX"),
  (0x10a, "1CAPITAL LETTER C WITH DOT ABOVE,1SMALL LETTER C WITH DOT ABOVE"),
  (0x10c, "1CAPITAL LETTER C WITH CARON,1SMALL LETTER C WITH CARON,1CAPITAL LETTER D WITH CARON"),
  (0x10f, "1SMALL LETTER D WITH CARON,1CAPITAL LETTER D WITH STROKE,1SMALL LETTER D WITH STROKE"),
  (0x112, "1CAPITAL LETTER E WITH MACRON,1SMALL LETTER E WITH MACRON"),
  (0x114, "1CAPITAL LETTER E WITH BREVE,1SMALL LETTER E WITH BREVE"),
  (0x116, "1CAPITAL LETTER E WITH DOT ABOVE,1SMALL LETTER E WITH DOT ABOVE"),
  (0x118, "1CAPITAL LETTER E WITH OGONEK,1SMALL LETTER E WITH OGONEK"),
  (0x11a, "1CAPITAL LETTER E WITH CARON,1SMALL LETTER E WITH CARON"),
  (0x11c, "1CAPITAL LETTER G WITH CIRCUMFLEX,1SMALL LETTER G WITH CIRCUMFLEX"),
  (0x11e, "1CAPITAL LETTER G WITH BREVE,1SMALL LETTER G WITH BREVE"),
  (0x120, "1CAPITAL LETTER G WITH DOT ABOVE,1SMALL LETTER G WITH DOT ABOVE"),
  (0x122, "1CAPITAL LETTER G WITH CEDILLA,1SMALL LETTER G WITH CEDILLA"),
  (0x124, "1CAPITAL LETTER H WITH CIRCUMFLEX,1SMALL LETTER H WITH CIRCUMFLEX"),
  (0x126, "1CAPITAL LETTER H WITH STROKE,1SMALL LETTER H WITH STROKE"),
  (0x128, "1CAPITAL LETTER I WITH TILDE,1SMALL LETTER I WITH TILDE"),
  (0x12a, "1CAPITAL LETTER I WITH MACRON,1SMALL LETTER I WITH MACRON"),
  (0x12c, "1CAPITAL LETTER I WITH BREVE,1SMALL LETTER I WITH BREVE"),
  (0x12e, "1CAPITAL LETTER I WITH OGONEK,1SMALL LETTER I WITH OGONEK"),
  (0x130, "1CAPITAL LETTER I WITH DOT ABOVE,1SMALL LETTER DOTLESS I,1CAPITAL LIGATURE IJ"),
  (0x133, "1SMALL LIGATURE IJ,1CAPITAL LETTER J WITH CIRCUMFLEX,1SMALL LETTER J WITH CIRCUMFLEX"),
  (0x136, "1CAPITAL LETTER K WITH CEDILLA,1SMALL LETTER K WITH CEDILLA,3KRA"),
  (0x139, "1CAPITAL LETTER L WITH ACUTE,1SMALL LETTER L WITH ACUTE"),
  (0x13b, "1CAPITAL LETTER L WITH CEDILLA,1SMALL LETTER L WITH CEDILLA"),
  (0x13d, "1CAPITAL LETTER L WITH CARON,1SMALL LETTER L WITH CARON"),
  (0x13f, "1CAPITAL LETTER L WITH MIDDLE DOT,1SMALL LETTER L WITH MIDDLE DOT"),
  (0x141, "1CAPITAL LETTER L WITH STROKE,1SMALL LETTER L WITH STROKE"),
  (0x143, "1CAPITAL LETTER N WITH ACUTE,1SMALL LETTER N WITH ACUTE"),
  (0x145, "1CAPITAL LETTER N WITH CEDILLA,1SMALL LETTER N WITH CEDILLA"),
  (0x147, "1CAPITAL LETTER N WITH CARON,1SMALL LETTER N WITH CARON,4PRECEDED BY APOSTROPHE"),
  (0x14a, "1CAPITAL LETTER ENG,1SMALL LETTER ENG,1CAPITAL LETTER O WITH MACRON"),
  (0x14d, "1SMALL LETTER O WITH MACRON,1CAPITAL LETTER O WITH BREVE,1SMALL LETTER O WITH BREVE"),
  (0x150, "1CAPITAL LETTER O WITH DOUBLE ACUTE,1SMALL LETTER O WITH DOUBLE ACUTE"),
  (0x152, "1CAPITAL LIGATURE OE,1SMALL LIGATURE OE,1CAPITAL LETTER R WITH ACUTE"),
  (0x155, "1SMALL LETTER R WITH ACUTE,1CAPITAL LETTER R WITH CEDILLA"),
  (0x157, "1SMALL LETTER R WITH CEDILLA,1CAPITAL LETTER R WITH CARON,1SMALL LETTER R WITH CARON"),
  (0x15a, "1CAPITAL LETTER S WITH ACUTE,1SMALL LETTER S WITH ACUTE"),
  (0x15c, "1CAPITAL LETTER S WITH CIRCUMFLEX,1SMALL LETTER S WITH CIRCUMFLEX"),
  (0x15e, "1CAPITAL LETTER S WITH CEDILLA,1SMALL LETTER S WITH CEDILLA"),
  (0x160, "1CAPITAL LETTER S WITH CARON,1SMALL LETTER S WITH CARON"),
  (0x162, "1CAPITAL LETTER T WITH CEDILLA,1SMALL LETTER T WITH CEDILLA"),
  (0x164, "1CAPITAL LETTER T WITH CARON,1SMALL LETTER T WITH CARON"),
  (0x166, "1CAPITAL LETTER T WITH STROKE,1SMALL LETTER T WITH STROKE"),
  (0x168, "1CAPITAL LETTER U WITH TILDE,1SMALL LETTER U WITH TILDE"),
  (0x16a, "1CAPITAL LETTER U WITH MACRON,1SMALL LETTER U WITH MACRON"),
  (0x16c, "1CAPITAL LETTER U WITH BREVE,1SMALL LETTER U WITH BREVE"),
  (0x16e, "1CAPITAL LETTER U WITH RING ABOVE,1SMALL LETTER U WITH RING ABOVE"),
  (0x170, "1CAPITAL LETTER U WITH DOUBLE ACUTE,1SMALL LETTER U WITH DOUBLE ACUTE"),
  (0x172, "1CAPITAL LETTER U WITH OGONEK,1SMALL LETTER U WITH OGONEK"),
  (0x174, "1CAPITAL LETTER W WITH CIRCUMFLEX,1SMALL LETTER W WITH CIRCUMFLEX"),
  (0x176, "1CAPITAL LETTER Y WITH CIRCUMFLEX,1SMALL LETTER Y WITH CIRCUMFLEX"),
  (0x178, "1CAPITAL LETTER Y WITH DIAERESIS,3Z WITH ACUTE,1SMALL LETTER Z WITH ACUTE"),
  (0x17b, "1CAPITAL LETTER Z WITH DOT ABOVE,1SMALL LETTER Z WITH DOT ABOVE"),
  (0x17d, "1CAPITAL LETTER Z WITH CARON,1SMALL LETTER Z WITH CARON,3LONG S,3B WITH STROKE"),
  (0x181, "1CAPITAL LETTER B WITH HOOK,5TOPBAR,1SMALL LETTER B WITH TOPBAR"),
  (0x184, "1CAPITAL LETTER TONE SIX,1SMALL LETTER TONE SIX,1CAPITAL LETTER OPEN O,3C WITH HOOK"),
  (0x188, "1SMALL LETTER C WITH HOOK,1CAPITAL LETTER AFRICAN D,3D WITH HOOK,5TOPBAR"),
  (0x18c, "1SMALL LETTER D WITH TOPBAR,3TURNED DELTA,1CAPITAL LETTER REVERSED E,3SCHWA,3OPEN E"),
  (0x191, "3F WITH HOOK,1SMALL LETTER F WITH HOOK,1CAPITAL LETTER G WITH HOOK,3GAMMA"),
  (0x195, "1SMALL LETTER HV,1CAPITAL LETTER IOTA,3I WITH STROKE,3K WITH HOOK"),
  (0x199, "1SMALL LETTER K WITH HOOK,3L WITH BAR,3LAMBDA WITH STROKE,1CAPITAL LETTER TURNED M"),
  (0x19d, "3N WITH LEFT HOOK,1SMALL LETTER N WITH LONG RIGHT LEG"),
  (0x19f, "1CAPITAL LETTER O WITH MIDDLE TILDE,5HORN,1SMALL LETTER O WITH HORN"),
  (0x1a2, "1CAPITAL LETTER OI,1SMALL LETTER OI,1CAPITAL LETTER P WITH HOOK"),
  (0x1a5, "1SMALL LETTER P WITH HOOK,1LETTER YR,1CAPITAL LETTER TONE TWO,1SMALL LETTER TONE TWO"),
  (0x1a9, "1CAPITAL LETTER ESH,1LETTER REVERSED ESH LOOP,1SMALL LETTER T WITH PALATAL HOOK"),
  (0x1ac, "1CAPITAL LETTER T WITH HOOK,1SMALL LETTER T WITH HOOK"),
  (0x1ae, "1CAPITAL LETTER T WITH RETROFLEX HOOK,3U WITH HORN,1SMALL LETTER U WITH HORN"),
  (0x1b1, "1CAPITAL LETTER UPSILON,3V WITH HOOK,3Y WITH HOOK,1SMALL LETTER Y WITH HOOK"),
  (0x1b5, "1CAPITAL LETTER Z WITH STROKE,1SMALL LETTER Z WITH STROKE,1CAPITAL LETTER EZH"),
  (0x1b8, "4REVERSED,1SMALL LETTER EZH REVERSED,4WITH TAIL,1LETTER TWO WITH STROKE"),
  (0x1bc, "1CAPITAL LETTER TONE FIVE,1SMALL LETTER TONE FIVE"),
  (0x1be, "1LETTER INVERTED GLOTTAL STOP WITH STROKE,2WYNN,2DENTAL CLICK,2LATERAL CLICK"),
  (0x1c2, "2ALVEOLAR CLICK,2RETROFLEX CLICK,1CAPITAL LETTER DZ WITH CARON"),
  (0x1c5, "3D WITH SMALL LETTER Z WITH CARON,1SMALL LETTER DZ WITH CARON,1CAPITAL LETTER LJ"),
  (0x1c8, "3L WITH SMALL LETTER J,1SMALL LETTER LJ,1CAPITAL LETTER NJ,3N WITH SMALL LETTER J"),
  (0x1cc, "1SMALL LETTER NJ,1CAPITAL LETTER A WITH CARON,1SMALL LETTER A WITH CARON"),
  (0x1cf, "1CAPITAL LETTER I WITH CARON,1SMALL LETTER I WITH CARON,1CAPITAL LETTER O WITH CARON"),
  (0x1d2, "1SMALL LETTER O WITH CARON,1CAPITAL LETTER U WITH CARON,1SMALL LETTER U WITH CARON"),
  (0x1d5, "1CAPITAL LETTER U WITH DIAERESIS AND MACRON"),
  (0x1d6, "1SMALL LETTER U WITH DIAERESIS AND MACRON,1CAPITAL LETTER U WITH DIAERESIS AND ACUTE"),
  (0x1d8, "1SMALL LETTER U WITH DIAERESIS AND ACUTE,1CAPITAL LETTER U WITH DIAERESIS AND CARON"),
  (0x1da, "1SMALL LETTER U WITH DIAERESIS AND CARON,1CAPITAL LETTER U WITH DIAERESIS AND GRAVE"),
  (0x1dc, "1SMALL LETTER U WITH DIAERESIS AND GRAVE,3TURNED E"),
  (0x1de, "1CAPITAL LETTER A WITH DIAERESIS AND MACRON"),
  (0x1df, "1SMALL LETTER A WITH DIAERESIS AND MACRON"),
  (0x1e0, "1CAPITAL LETTER A WITH DOT ABOVE AND MACRON"),
  (0x1e1, "1SMALL LETTER A WITH DOT ABOVE AND MACRON,1CAPITAL LETTER AE WITH MACRON"),
  (0x1e3, "1SMALL LETTER AE WITH MACRON,1CAPITAL LETTER G WITH STROKE"),
  (0x1e5, "1SMALL LETTER G WITH STROKE,1CAPITAL LETTER G WITH CARON,1SMALL LETTER G WITH CARON"),
  (0x1e8, "1CAPITAL LETTER K WITH CARON,1SMALL LETTER K WITH CARON"),
  (0x1ea, "1CAPITAL LETTER O WITH OGONEK,1SMALL LETTER O WITH OGONEK"),
  (0x1ec, "1CAPITAL LETTER O WITH OGONEK AND MACRON,1SMALL LETTER O WITH OGONEK AND MACRON"),
  (0x1ee, "1CAPITAL LETTER EZH WITH CARON,1SMALL LETTER EZH WITH CARON,3J WITH CARON"),
  (0x1f1, "1CAPITAL LETTER DZ,3D WITH SMALL LETTER Z,1SMALL LETTER DZ"),
  (0x1f4, "1CAPITAL LETTER G WITH ACUTE,1SMALL LETTER G WITH ACUTE,1CAPITAL LETTER HWAIR,3WYNN"),
  (0x1f8, "3N WITH GRAVE,1SMALL LETTER N WITH GRAVE,1CAPITAL LETTER A WITH RING ABOVE AND ACUTE"),
  (0x1fb, "1SMALL LETTER A WITH RING ABOVE AND ACUTE,1CAPITAL LETTER AE WITH ACUTE"),
  (0x1fd, "1SMALL LETTER AE WITH ACUTE,1CAPITAL LETTER O WITH STROKE AND ACUTE"),
  (0x1ff, "1SMALL LETTER O WITH STROKE AND ACUTE,1CAPITAL LETTER A WITH DOUBLE GRAVE"),
  (0x201, "1SMALL LETTER A WITH DOUBLE GRAVE,1CAPITAL LETTER A WITH INVERTED BREVE"),
  (0x203, "1SMALL LETTER A WITH INVERTED BREVE,1CAPITAL LETTER E WITH DOUBLE GRAVE"),
  (0x205, "1SMALL LETTER E WITH DOUBLE GRAVE,1CAPITAL LETTER E WITH INVERTED BREVE"),
  (0x207, "1SMALL LETTER E WITH INVERTED BREVE,1CAPITAL LETTER I WITH DOUBLE GRAVE"),
  (0x209, "1SMALL LETTER I WITH DOUBLE GRAVE,1CAPITAL LETTER I WITH INVERTED BREVE"),
  (0x20b, "1SMALL LETTER I WITH INVERTED BREVE,1CAPITAL LETTER O WITH DOUBLE GRAVE"),
  (0x20d, "1SMALL LETTER O WITH DOUBLE GRAVE,1CAPITAL LETTER O WITH INVERTED BREVE"),
  (0x20f, "1SMALL LETTER O WITH INVERTED BREVE,1CAPITAL LETTER R WITH DOUBLE GRAVE"),
  (0x211, "1SMALL LETTER R WITH DOUBLE GRAVE,1CAPITAL LETTER R WITH INVERTED BREVE"),
  (0x213, "1SMALL LETTER R WITH INVERTED BREVE,1CAPITAL LETTER U WITH DOUBLE GRAVE"),
  (0x215, "1SMALL LETTER U WITH DOUBLE GRAVE,1CAPITAL LETTER U WITH INVERTED BREVE"),
  (0x217, "1SMALL LETTER U WITH INVERTED BREVE,1CAPITAL LETTER S WITH COMMA BELOW"),
  (0x219, "1SMALL LETTER S WITH COMMA BELOW,1CAPITAL LETTER T WITH COMMA BELOW"),
  (0x21b, "1SMALL LETTER T WITH COMMA BELOW,1CAPITAL LETTER YOGH,1SMALL LETTER YOGH"),
  (0x21e, "1CAPITAL LETTER H WITH CARON,1SMALL LETTER H WITH CARON"),
  (0x220, "1CAPITAL LETTER N WITH LONG RIGHT LEG,1SMALL LETTER D WITH CURL,1CAPITAL LETTER OU"),
  (0x223, "1SMALL LETTER OU,1CAPITAL LETTER Z WITH HOOK,1SMALL LETTER Z WITH HOOK"),
  (0x226, "1CAPITAL LETTER A WITH DOT ABOVE,1SMALL LETTER A WITH DOT ABOVE"),
  (0x228, "1CAPITAL LETTER E WITH CEDILLA,1SMALL LETTER E WITH CEDILLA"),
  (0x22a, "1CAPITAL LETTER O WITH DIAERESIS AND MACRON"),
  (0x22b, "1SMALL LETTER O WITH DIAERESIS AND MACRON,1CAPITAL LETTER O WITH TILDE AND MACRON"),
  (0x22d, "1SMALL LETTER O WITH TILDE AND MACRON,1CAPITAL LETTER O WITH DOT ABOVE"),
  (0x22f, "1SMALL LETTER O WITH DOT ABOVE,1CAPITAL LETTER O WITH DOT ABOVE AND MACRON"),
  (0x231, "1SMALL LETTER O WITH DOT ABOVE AND MACRON,1CAPITAL LETTER Y WITH MACRON"),
  (0x233, "1SMALL LETTER Y WITH MACRON,3L WITH CURL,3N WITH CURL,3T WITH CURL,3DOTLESS J"),
  (0x238, "3DB DIGRAPH,3QP DIGRAPH,1CAPITAL LETTER A WITH STROKE,3C WITH STROKE"),
  (0x23c, "1SMALL LETTER C WITH STROKE,1CAPITAL LETTER L WITH BAR,3T WITH DIAGONAL STROKE"),
  (0x23f, "1SMALL LETTER S WITH SWASH TAIL,3Z WITH SWASH TAIL,1CAPITAL LETTER GLOTTAL STOP"),
  (0x242, "1SMALL LETTER GLOTTAL STOP,1CAPITAL LETTER B WITH STROKE,3U BAR,3TURNED V"),
  (0x246, "3E WITH STROKE,1SMALL LETTER E WITH STROKE,1CAPITAL LETTER J WITH STROKE"),
  (0x249, "1SMALL LETTER J WITH STROKE,1CAPITAL LETTER SMALL Q WITH HOOK TAIL"),
  (0x24b, "1SMALL LETTER Q WITH HOOK TAIL,1CAPITAL LETTER R WITH STROKE"),
  (0x24d, "1SMALL LETTER R WITH STROKE,1CAPITAL LETTER Y WITH STROKE"),
  (0x24f, "1SMALL LETTER Y WITH STROKE"),
  (0x1e00, "1CAPITAL LETTER A WITH RING BELOW,1SMALL LETTER A WITH RING BELOW"),
  (0x1e02, "1CAPITAL LETTER B WITH DOT ABOVE,1SMALL LETTER B WITH DOT ABOVE"),
  (0x1e04, "1CAPITAL LETTER B WITH DOT BELOW,1SMALL LETTER B WITH DOT BELOW"),
  (0x1e06, "1CAPITAL LETTER B WITH LINE BELOW,1SMALL LETTER B WITH LINE BELOW"),
  (0x1e08, "1CAPITAL LETTER C WITH CEDILLA AND ACUTE,1SMALL LETTER C WITH CEDILLA AND ACUTE"),
  (0x1e0a, "1CAPITAL LETTER D WITH DOT ABOVE,1SMALL LETTER D WITH DOT ABOVE"),
  (0x1e0c, "1CAPITAL LETTER D WITH DOT BELOW,1SMALL LETTER D WITH DOT BELOW"),
  (0x1e0e, "1CAPITAL LETTER D WITH LINE BELOW,1SMALL LETTER D WITH LINE BELOW"),
  (0x1e10, "1CAPITAL LETTER D WITH CEDILLA,1SMALL LETTER D WITH CEDILLA"),
  (0x1e12, "1CAPITAL LETTER D WITH CIRCUMFLEX BELOW,1SMALL LETTER D WITH CIRCUMFLEX BELOW"),
  (0x1e14, "1CAPITAL LETTER E WITH MACRON AND GRAVE,1SMALL LETTER E WITH MACRON AND GRAVE"),
  (0x1e16, "1CAPITAL LETTER E WITH MACRON AND ACUTE,1SMALL LETTER E WITH MACRON AND ACUTE"),
  (0x1e18, "1CAPITAL LETTER E WITH CIRCUMFLEX BELOW,1SMALL LETTER E WITH CIRCUMFLEX BELOW"),
  (0x1e1a, "1CAPITAL LETTER E WITH TILDE BELOW,1SMALL LETTER E WITH TILDE BELOW"),
  (0x1e1c, "1CAPITAL LETTER E WITH CEDILLA AND BREVE,1SMALL LETTER E WITH CEDILLA AND BREVE"),
  (0x1e1e, "1CAPITAL LETTER F WITH DOT ABOVE,1SMALL LETTER F WITH DOT ABOVE"),
  (0x1e20, "1CAPITAL LETTER G WITH MACRON,1SMALL LETTER G WITH MACRON"),
  (0x1e22, "1CAPITAL LETTER H WITH DOT ABOVE,1SMALL LETTER H WITH DOT ABOVE"),
  (0x1e24, "1CAPITAL LETTER H WITH DOT BELOW,1SMALL LETTER H WITH DOT BELOW"),
  (0x1e26, "1CAPITAL LETTER H WITH DIAERESIS,1SMALL LETTER H WITH DIAERESIS"),
  (0x1e28, "1CAPITAL LETTER H WITH CEDILLA,1SMALL LETTER H WITH CEDILLA"),
  (0x1e2a, "1CAPITAL LETTER H WITH BREVE BELOW,1SMALL LETTER H WITH BREVE BELOW"),
  (0x1e2c, "1CAPITAL LETTER I WITH TILDE BELOW,1SMALL LETTER I WITH TILDE BELOW"),
  (0x1e2e, "1CAPITAL LETTER I WITH DIAERESIS AND ACUTE,1SMALL LETTER I WITH DIAERESIS AND ACUTE"),
  (0x1e30, "1CAPITAL LETTER K WITH ACUTE,1SMALL LETTER K WITH ACUTE"),
  (0x1e32, "1CAPITAL LETTER K WITH DOT BELOW,1SMALL LETTER K WITH DOT BELOW"),
  (0x1e34, "1CAPITAL LETTER K WITH LINE BELOW,1SMALL LETTER K WITH LINE BELOW"),
  (0x1e36, "1CAPITAL LETTER L WITH DOT BELOW,1SMALL LETTER L WITH DOT BELOW"),
  (0x1e38, "1CAPITAL LETTER L WITH DOT BELOW AND MACRON"),
  (0x1e39, "1SMALL LETTER L WITH DOT BELOW AND MACRON,1CAPITAL LETTER L WITH LINE BELOW"),
  (0x1e3b, "1SMALL LETTER L WITH LINE BELOW,1CAPITAL LETTER L WITH CIRCUMFLEX BELOW"),
  (0x1e3d, "1SMALL LETTER L WITH CIRCUMFLEX BELOW,1CAPITAL LETTER M WITH ACUTE"),
  (0x1e3f, "1SMALL LETTER M WITH ACUTE,1CAPITAL LETTER M WITH DOT ABOVE"),
  (0x1e41, "1SMALL LETTER M WITH DOT ABOVE,1CAPITAL LETTER M WITH DOT BELOW"),
  (0x1e43, "1SMALL LETTER M WITH DOT BELOW,1CAPITAL LETTER N WITH DOT ABOVE"),
  (0x1e45, "1SMALL LETTER N WITH DOT ABOVE,1CAPITAL LETTER N WITH DOT BELOW"),
  (0x1e47, "1SMALL LETTER N WITH DOT BELOW,1CAPITAL LETTER N WITH LINE BELOW"),
  (0x1e49, "1SMALL LETTER N WITH LINE BELOW,1CAPITAL LETTER N WITH CIRCUMFLEX BELOW"),
  (0x1e4b, "1SMALL LETTER N WITH CIRCUMFLEX BELOW,1CAPITAL LETTER O WITH TILDE AND ACUTE"),
  (0x1e4d, "1SMALL LETTER O WITH TILDE AND ACUTE,1CAPITAL LETTER O WITH TILDE AND DIAERESIS"),
  (0x1e4f, "1SMALL LETTER O WITH TILDE AND DIAERESIS,1CAPITAL LETTER O WITH MACRON AND GRAVE"),
  (0x1e51, "1SMALL LETTER O WITH MACRON AND GRAVE,1CAPITAL LETTER O WITH MACRON AND ACUTE"),
  (0x1e53, "1SMALL LETTER O WITH MACRON AND ACUTE,1CAPITAL LETTER P WITH ACUTE"),
  (0x1e55, "1SMALL LETTER P WITH ACUTE,1CAPITAL LETTER P WITH DOT ABOVE"),
  (0x1e57, "1SMALL LETTER P WITH DOT ABOVE,1CAPITAL LETTER R WITH DOT ABOVE"),
  (0x1e59, "1SMALL LETTER R WITH DOT ABOVE,1CAPITAL LETTER R WITH DOT BELOW"),
  (0x1e5b, "1SMALL LETTER R WITH DOT BELOW,1CAPITAL LETTER R WITH DOT BELOW AND MACRON"),
  (0x1e5d, "1SMALL LETTER R WITH DOT BELOW AND MACRON,1CAPITAL LETTER R WITH LINE BELOW"),
  (0x1e5f, "1SMALL LETTER R WITH LINE BELOW,1CAPITAL LETTER S WITH DOT ABOVE"),
  (0x1e61, "1SMALL LETTER S WITH DOT ABOVE,1CAPITAL LETTER S WITH DOT BELOW"),
  (0x1e63, "1SMALL LETTER S WITH DOT BELOW,1CAPITAL LETTER S WITH ACUTE AND DOT ABOVE"),
  (0x1e65, "1SMALL LETTER S WITH ACUTE AND DOT ABOVE,1CAPITAL LETTER S WITH CARON AND DOT ABOVE"),
  (0x1e67, "1SMALL LETTER S WITH CARON AND DOT ABOVE"),
  (0x1e68, "1CAPITAL LETTER S WITH DOT BELOW AND DOT ABOVE"),
  (0x1e69, "1SMALL LETTER S WITH DOT BELOW AND DOT ABOVE,1CAPITAL LETTER T WITH DOT ABOVE"),
  (0x1e6b, "1SMALL LETTER T WITH DOT ABOVE,1CAPITAL LETTER T WITH DOT BELOW"),
  (0x1e6d, "1SMALL LETTER T WITH DOT BELOW,1CAPITAL LETTER T WITH LINE BELOW"),
  (0x1e6f, "1SMALL LETTER T WITH LINE BELOW,1CAPITAL LETTER T WITH CIRCUMFLEX BELOW"),
  (0x1e71, "1SMALL LETTER T WITH CIRCUMFLEX BELOW,1CAPITAL LETTER U WITH DIAERESIS BELOW"),
  (0x1e73, "1SMALL LETTER U WITH DIAERESIS BELOW,1CAPITAL LETTER U WITH TILDE BELOW"),
  (0x1e75, "1SMALL LETTER U WITH TILDE BELOW,1CAPITAL LETTER U WITH CIRCUMFLEX BELOW"),
  (0x1e77, "1SMALL LETTER U WITH CIRCUMFLEX BELOW,1CAPITAL LETTER U WITH TILDE AND ACUTE"),
  (0x1e79, "1SMALL LETTER U WITH TILDE AND ACUTE,1CAPITAL LETTER U WITH MACRON AND DIAERESIS"),
  (0x1e7b, "1SMALL LETTER U WITH MACRON AND DIAERESIS,1CAPITAL LETTER V WITH TILDE"),
  (0x1e7d, "1SMALL LETTER V WITH TILDE,1CAPITAL LETTER V WITH DOT BELOW"),
  (0x1e7f, "1SMALL LETTER V WITH DOT BELOW,1CAPITAL LETTER W WITH GRAVE"),
  (0x1e81, "1SMALL LETTER W WITH GRAVE,1CAPITAL LETTER W WITH ACUTE,1SMALL LETTER W WITH ACUTE"),
  (0x1e84, "1CAPITAL LETTER W WITH DIAERESIS,1SMALL LETTER W WITH DIAERESIS"),
  (0x1e86, "1CAPITAL LETTER W WITH DOT ABOVE,1SMALL LETTER W WITH DOT ABOVE"),
  (0x1e88, "1CAPITAL LETTER W WITH DOT BELOW,1SMALL LETTER W WITH DOT BELOW"),
  (0x1e8a, "1CAPITAL LETTER X WITH DOT ABOVE,1SMALL LETTER X WITH DOT ABOVE"),
  (0x1e8c, "1CAPITAL LETTER X WITH DIAERESIS,1SMALL LETTER X WITH DIAERESIS"),
  (0x1e8e, "1CAPITAL LETTER Y WITH DOT ABOVE,1SMALL LETTER Y WITH DOT ABOVE"),
  (0x1e90, "1CAPITAL LETTER Z WITH CIRCUMFLEX,1SMALL LETTER Z WITH CIRCUMFLEX"),
  (0x1e92, "1CAPITAL LETTER Z WITH DOT BELOW,1SMALL LETTER Z WITH DOT BELOW"),
  (0x1e94, "1CAPITAL LETTER Z WITH LINE BELOW,1SMALL LETTER Z WITH LINE BELOW,3H WITH LINE BELOW"),
  (0x1e97, "3T WITH DIAERESIS,3W WITH RING ABOVE,3Y WITH RING ABOVE,3A WITH RIGHT HALF RING"),
  (0x1e9b, "3LONG S WITH DOT ABOVE,6DIAGONAL STROKE,6HIGH STROKE,1CAPITAL LETTER SHARP S"),
  (0x1e9f, "1SMALL LETTER DELTA,1CAPITAL LETTER A WITH DOT BELOW,1SMALL LETTER A WITH DOT BELOW"),
  (0x1ea2, "1CAPITAL LETTER A WITH HOOK ABOVE,1SMALL LETTER A WITH HOOK ABOVE"),
  (0x1ea4, "1CAPITAL LETTER A WITH CIRCUMFLEX AND ACUTE"),
  (0x1ea5, "1SMALL LETTER A WITH CIRCUMFLEX AND ACUTE"),
  (0x1ea6, "1CAPITAL LETTER A WITH CIRCUMFLEX AND GRAVE"),
  (0x1ea7, "1SMALL LETTER A WITH CIRCUMFLEX AND GRAVE"),
  (0x1ea8, "1CAPITAL LETTER A WITH CIRCUMFLEX AND HOOK ABOVE"),
  (0x1ea9, "1SMALL LETTER A WITH CIRCUMFLEX AND HOOK ABOVE"),
  (0x1eaa, "1CAPITAL LETTER A WITH CIRCUMFLEX AND TILDE"),
  (0x1eab, "1SMALL LETTER A WITH CIRCUMFLEX AND TILDE"),
  (0x1eac, "1CAPITAL LETTER A WITH CIRCUMFLEX AND DOT BELOW"),
  (0x1ead, "1SMALL LETTER A WITH CIRCUMFLEX AND DOT BELOW,1CAPITAL LETTER A WITH BREVE AND ACUTE"),
  (0x1eaf, "1SMALL LETTER A WITH BREVE AND ACUTE,1CAPITAL LETTER A WITH BREVE AND GRAVE"),
  (0x1eb1, "1SMALL LETTER A WITH BREVE AND GRAVE,1CAPITAL LETTER A WITH BREVE AND HOOK ABOVE"),
  (0x1eb3, "1SMALL LETTER A WITH BREVE AND HOOK ABOVE,1CAPITAL LETTER A WITH BREVE AND TILDE"),
  (0x1eb5, "1SMALL LETTER A WITH BREVE AND TILDE,1CAPITAL LETTER A WITH BREVE AND DOT BELOW"),
  (0x1eb7, "1SMALL LETTER A WITH BREVE AND DOT BELOW,1CAPITAL LETTER E WITH DOT BELOW"),
  (0x1eb9, "1SMALL LETTER E WITH DOT BELOW,1CAPITAL LETTER E WITH HOOK ABOVE"),
  (0x1ebb, "1SMALL LETTER E WITH HOOK ABOVE,1CAPITAL LETTER E WITH TILDE"),
  (0x1ebd, "1SMALL LETTER E WITH TILDE,1CAPITAL LETTER E WITH CIRCUMFLEX AND ACUTE"),
  (0x1ebf, "1SMALL LETTER E WITH CIRCUMFLEX AND ACUTE"),
  (0x1ec0, "1CAPITAL LETTER E WITH CIRCUMFLEX AND GRAVE"),
  (0x1ec1, "1SMALL LETTER E WITH CIRCUMFLEX AND GRAVE"),
  (0x1ec2, "1CAPITAL LETTER E WITH CIRCUMFLEX AND HOOK ABOVE"),
  (0x1ec3, "1SMALL LETTER E WITH CIRCUMFLEX AND HOOK ABOVE"),
  (0x1ec4, "1CAPITAL LETTER E WITH CIRCUMFLEX AND TILDE"),
  (0x1ec5, "1SMALL LETTER E WITH CIRCUMFLEX AND TILDE"),
  (0x1ec6, "1CAPITAL LETTER E WITH CIRCUMFLEX AND DOT BELOW"),
  (0x1ec7, "1SMALL LETTER E WITH CIRCUMFLEX AND DOT BELOW,1CAPITAL LETTER I WITH HOOK ABOVE"),
  (0x1ec9, "1SMALL LETTER I WITH HOOK ABOVE,1CAPITAL LETTER I WITH DOT BELOW"),
  (0x1ecb, "1SMALL LETTER I WITH DOT BELOW,1CAPITAL LETTER O WITH DOT BELOW"),
  (0x1ecd, "1SMALL LETTER O WITH DOT BELOW,1CAPITAL LETTER O WITH HOOK ABOVE"),
  (0x1ecf, "1SMALL LETTER O WITH HOOK ABOVE,1CAPITAL LETTER O WITH CIRCUMFLEX AND ACUTE"),
  (0x1ed1, "1SMALL LETTER O WITH CIRCUMFLEX AND ACUTE"),
  (0x1ed2, "1CAPITAL LETTER O WITH CIRCUMFLEX AND GRAVE"),
  (0x1ed3, "1SMALL LETTER O WITH CIRCUMFLEX AND GRAVE"),
  (0x1ed4, "1CAPITAL LETTER O WITH CIRCUMFLEX AND HOOK ABOVE"),
  (0x1ed5, "1SMALL LETTER O WITH CIRCUMFLEX AND HOOK ABOVE"),
  (0x1ed6, "1CAPITAL LETTER O WITH CIRCUMFLEX AND TILDE"),
  (0x1ed7, "1SMALL LETTER O WITH CIRCUMFLEX AND TILDE"),
  (0x1ed8, "1CAPITAL LETTER O WITH CIRCUMFLEX AND DOT BELOW"),
  (0x1ed9, "1SMALL LETTER O WITH CIRCUMFLEX AND DOT BELOW,1CAPITAL LETTER O WITH HORN AND ACUTE"),
  (0x1edb, "1SMALL LETTER O WITH HORN AND ACUTE,1CAPITAL LETTER O WITH HORN AND GRAVE"),
  (0x1edd, "1SMALL LETTER O WITH HORN AND GRAVE,1CAPITAL LETTER O WITH HORN AND HOOK ABOVE"),
  (0x1edf, "1SMALL LETTER O WITH HORN AND HOOK ABOVE,1CAPITAL LETTER O WITH HORN AND TILDE"),
  (0x1ee1, "1SMALL LETTER O WITH HORN AND TILDE,1CAPITAL LETTER O WITH HORN AND DOT BELOW"),
  (0x1ee3, "1SMALL LETTER O WITH HORN AND DOT BELOW,1CAPITAL LETTER U WITH DOT BELOW"),
  (0x1ee5, "1SMALL LETTER U WITH DOT BELOW,1CAPITAL LETTER U WITH HOOK ABOVE"),
  (0x1ee7, "1SMALL LETTER U WITH HOOK ABOVE,1CAPITAL LETTER U WITH HORN AND ACUTE"),
  (0x1ee9, "1SMALL LETTER U WITH HORN AND ACUTE,1CAPITAL LETTER U WITH HORN AND GRAVE"),
  (0x1eeb, "1SMALL LETTER U WITH HORN AND GRAVE,1CAPITAL LETTER U WITH HORN AND HOOK ABOVE"),
  (0x1eed, "1SMALL LETTER U WITH HORN AND HOOK ABOVE,1CAPITAL LETTER U WITH HORN AND TILDE"),
  (0x1eef, "1SMALL LETTER U WITH HORN AND TILDE,1CAPITAL LETTER U WITH HORN AND DOT BELOW"),
  (0x1ef1, "1SMALL LETTER U WITH HORN AND DOT BELOW,1CAPITAL LETTER Y WITH GRAVE"),
  (0x1ef3, "1SMALL LETTER Y WITH GRAVE,1CAPITAL LETTER Y WITH DOT BELOW"),
  (0x1ef5, "1SMALL LETTER Y WITH DOT BELOW,1CAPITAL LETTER Y WITH HOOK ABOVE"),
  (0x1ef7, "1SMALL LETTER Y WITH HOOK ABOVE,1CAPITAL LETTER Y WITH TILDE"),
  (0x1ef9, "1SMALL LETTER Y WITH TILDE,1CAPITAL LETTER MIDDLE-WELSH LL"),
  (0x1efb, "1SMALL LETTER MIDDLE-WELSH LL,1CAPITAL LETTER MIDDLE-WELSH V"),
  (0x1efd, "1SMALL LETTER MIDDLE-WELSH V,1CAPITAL LETTER Y WITH LOOP,1SMALL LETTER Y WITH LOOP"),
  (0xfb00, "2LIGATURE FF,3FI,3FL,3FFI,3FFL,3LONG S T,3ST")]

/-- The names of phonetic, Greek, Cyrillic, Armenian and Georgian letters, and of combining marks, each row behind its first character. -/
def europeanNames : List (Nat × String) := [
  (0x250, "0LATIN SMALL LETTER TURNED A,3ALPHA,3TURNED ALPHA,3B WITH HOOK,3OPEN O,3C WITH CURL"),
  (0x256, "3D WITH TAIL,5HOOK,3REVERSED E,3SCHWA,4WITH HOOK,3OPEN E,3REVERSED OPEN E,6WITH HOOK"),
  (0x25e, "3CLOSED REVERSED OPEN E,3DOTLESS J WITH STROKE,3G WITH HOOK,3SCRIPT G"),
  (0x262, "1LETTER SMALL CAPITAL G,1SMALL LETTER GAMMA,3RAMS HORN,3TURNED H,3H WITH HOOK"),
  (0x267, "3HENG WITH HOOK,3I WITH STROKE,3IOTA,1LETTER SMALL CAPITAL I"),
  (0x26b, "1SMALL LETTER L WITH MIDDLE TILDE,5BELT,5RETROFLEX HOOK,3LEZH,3TURNED M"),
  (0x270, "5WITH LONG LEG,3M WITH HOOK,3N WITH LEFT HOOK,5RETROFLEX HOOK"),
  (0x274, "1LETTER SMALL CAPITAL N,1SMALL LETTER BARRED O,1LETTER SMALL CAPITAL OE"),
  (0x277, "1SMALL LETTER CLOSED OMEGA,3PHI,3TURNED R,5WITH LONG LEG,6HOOK,3R WITH LONG LEG"),
  (0x27d, "5TAIL,5FISHHOOK,3REVERSED R WITH FISHHOOK,1LETTER SMALL CAPITAL R,4INVERTED R"),
  (0x282, "1SMALL LETTER S WITH HOOK,3ESH,3DOTLESS J WITH STROKE AND HOOK,3SQUAT REVERSED ESH"),
  (0x286, "3ESH WITH CURL,3TURNED T,3T WITH RETROFLEX HOOK,3U BAR,3UPSILON,3V WITH HOOK"),
  (0x28c, "3TURNED V,4W,4Y,1LETTER SMALL CAPITAL Y,1SMALL LETTER Z WITH RETROFLEX HOOK,5CURL"),
  (0x292, "3EZH,4WITH CURL,1LETTER GLOTTAL STOP,2PHARYNGEAL VOICED FRICATIVE"),
  (0x296, "2INVERTED GLOTTAL STOP,2STRETCHED C,2BILABIAL CLICK,2SMALL CAPITAL B"),
  (0x29a, "1SMALL LETTER CLOSED OPEN E,1LETTER SMALL CAPITAL G WITH HOOK,4H"),
  (0x29d, "1SMALL LETTER J WITH CROSSED-TAIL,3TURNED K,1LETTER SMALL CAPITAL L"),
  (0x2a0, "1SMALL LETTER Q WITH HOOK,1LETTER GLOTTAL STOP WITH STROKE"),
  (0x2a2, "2REVERSED GLOTTAL STOP WITH STROKE,1SMALL LETTER DZ DIGRAPH,3DEZH DIGRAPH"),
  (0x2a5, "3DZ DIGRAPH WITH CURL,3TS DIGRAPH,3TESH DIGRAPH,3TC DIGRAPH WITH CURL,3FENG DIGRAPH"),
  (0x2aa, "3LS DIGRAPH,3LZ DIGRAPH,1LETTER BILABIAL PERCUSSIVE,2BIDENTAL PERCUSSIVE"),
  (0x2ae, "1SMALL LETTER TURNED H WITH FISHHOOK,7AND TAIL,0MODIFIER LETTER SMALL H,4WITH HOOK"),
  (0x2b2, "3J,3R,3TURNED R,5WITH HOOK,3CAPITAL INVERTED R,3W,3Y,2PRIME,2DOUBLE PRIME"),
  (0x2bb, "2TURNED COMMA,2APOSTROPHE,2REVERSED COMMA,2RIGHT HALF RING,2LEFT HALF RING"),
  (0x2c0, "2GLOTTAL STOP,2REVERSED GLOTTAL STOP,2LEFT ARROWHEAD,2RIGHT ARROWHEAD,2UP ARROWHEAD"),
  (0x2c5, "2DOWN ARROWHEAD,2CIRCUMFLEX ACCENT,0CARON,0MODIFIER LETTER VERTICAL LINE,2MACRON"),
  (0x2ca, "2ACUTE ACCENT,2GRAVE ACCENT,2LOW VERTICAL LINE,3MACRON,3GRAVE ACCENT,3ACUTE ACCENT"),
  (0x2d0, "2TRIANGULAR COLON,2HALF TRIANGULAR COLON,2CENTRED RIGHT HALF RING,3LEFT HALF RING"),
  (0x2d4, "2UP TACK,2DOWN TACK,2PLUS SIGN,2MINUS SIGN,0BREVE,0DOT ABOVE,0RING ABOVE,0OGONEK"),
  (0x2dc, "0SMALL TILDE,0DOUBLE ACUTE ACCENT,0MODIFIER LETTER RHOTIC HOOK,2CROSS ACCENT"),
  (0x2e0, "2SMALL GAMMA,3L,3S,3X,3REVERSED GLOTTAL STOP,2EXTRA-HIGH TONE BAR,2HIGH TONE BAR"),
  (0x2e7, "2MID TONE BAR,2LOW TONE BAR,2EXTRA-LOW TONE BAR,2YIN DEPARTING TONE MARK"),
  (0x2eb, "2YANG DEPARTING TONE MARK,2VOICING,2UNASPIRATED,2DOUBLE APOSTROPHE"),
  (0x2ef, "2LOW DOWN ARROWHEAD,3UP ARROWHEAD,3LEFT ARROWHEAD,3RIGHT ARROWHEAD,3RING"),
  (0x2f4, "2MIDDLE GRAVE ACCENT,3DOUBLE GRAVE ACCENT,4ACUTE ACCENT,2LOW TILDE,2RAISED COLON"),
  (0x2f9, "2BEGIN HIGH TONE,2END HIGH TONE,2BEGIN LOW TONE,2END LOW TONE,2SHELF,2OPEN SHELF"),
  (0x2ff, "2LOW LEFT ARROW,0COMBINING GRAVE ACCENT,1ACUTE ACCENT,1CIRCUMFLEX ACCENT,1TILDE"),
  (0x304, "1MACRON,1OVERLINE,1BREVE,1DOT ABOVE,1DIAERESIS,1HOOK ABOVE,1RING ABOVE"),
  (0x30b, "1DOUBLE ACUTE ACCENT,1CARON,1VERTICAL LINE ABOVE,1DOUBLE VERTICAL LINE ABOVE"),
  (0x30f, "2GRAVE ACCENT,1CANDRABINDU,1INVERTED BREVE,1TURNED COMMA ABOVE,1COMMA ABOVE"),
  (0x314, "1REVERSED COMMA ABOVE,1COMMA ABOVE RIGHT,1GRAVE ACCENT BELOW,1ACUTE ACCENT BELOW"),
  (0x318, "1LEFT TACK BELOW,1RIGHT TACK BELOW,1LEFT ANGLE ABOVE,1HORN,1LEFT HALF RING BELOW"),
  (0x31d, "1UP TACK BELOW,1DOWN TACK BELOW,1PLUS SIGN BELOW,1MINUS SIGN BELOW"),
  (0x321, "1PALATALIZED HOOK BELOW,1RETROFLEX HOOK BELOW,1DOT BELOW,1DIAERESIS BELOW"),
  (0x325, "1RING BELOW,1COMMA BELOW,1CEDILLA,1OGONEK,1VERTICAL LINE BELOW,1BRIDGE BELOW"),
  (0x32b, "1INVERTED DOUBLE ARCH BELOW,1CARON BELOW,1CIRCUMFLEX ACCENT BELOW,1BREVE BELOW"),
  (0x32f, "1INVERTED BREVE BELOW,1TILDE BELOW,1MACRON BELOW,1LOW LINE,1DOUBLE LOW LINE"),
  (0x334, "1TILDE OVERLAY,1SHORT STROKE OVERLAY,1LONG STROKE OVERLAY,1SHORT SOLIDUS OVERLAY"),
  (0x338, "1LONG SOLIDUS OVERLAY,1RIGHT HALF RING BELOW,1INVERTED BRIDGE BELOW,1SQUARE BELOW"),
  (0x33c, "1SEAGULL BELOW,1X ABOVE,1VERTICAL TILDE,1DOUBLE OVERLINE,1GRAVE TONE MARK"),
  (0x341, "1ACUTE TONE MARK,1GREEK PERISPOMENI,2KORONIS,2DIALYTIKA TONOS,2YPOGEGRAMMENI"),
  (0x346, "1BRIDGE ABOVE,1EQUALS SIGN BELOW,1DOUBLE VERTICAL LINE BELOW,1LEFT ANGLE BELOW"),
  (0x34a, "1NOT TILDE ABOVE,1HOMOTHETIC ABOVE,1ALMOST EQUAL TO ABOVE,1LEFT RIGHT ARROW BELOW"),
  (0x34e, "1UPWARDS ARROW BELOW,1GRAPHEME JOINER,1RIGHT ARROWHEAD ABOVE,1LEFT HALF RING ABOVE"),
  (0x352, "1FERMATA,1X BELOW,1LEFT ARROWHEAD BELOW,1RIGHT ARROWHEAD BELOW"),
  (0x356, "3AND UP ARROWHEAD BELOW,2HALF RING ABOVE,1DOT ABOVE RIGHT,1ASTERISK BELOW"),
  (0x35a, "1DOUBLE RING BELOW,1ZIGZAG ABOVE,1DOUBLE BREVE BELOW,2BREVE,2MACRON,3BELOW,2TILDE"),
  (0x361, "2INVERTED BREVE,2RIGHTWARDS ARROW BELOW,1LATIN SMALL LETTER A,4E,4I,4O,4U,4C,4D,4H"),
  (0x36b, "4M,4R,4T,4V,4X,0GREEK CAPITAL LETTER HETA,1SMALL LETTER HETA"),
  (0x372, "1CAPITAL LETTER ARCHAIC SAMPI,1SMALL LETTER ARCHAIC SAMPI,1NUMERAL SIGN"),
  (0x375, "1LOWER NUMERAL SIGN,1CAPITAL LETTER PAMPHYLIAN DIGAMMA"),
  (0x377, "1SMALL LETTER PAMPHYLIAN DIGAMMA"),
  (0x37a, "1YPOGEGRAMMENI,1SMALL REVERSED LUNATE SIGMA SYMBOL,2DOTTED LUNATE SIGMA SYMBOL"),
  (0x37d, "2REVERSED DOTTED LUNATE SIGMA SYMBOL,1QUESTION MARK,1CAPITAL LETTER YOT"),
  (0x384, "1TONOS,1DIALYTIKA TONOS,1CAPITAL LETTER ALPHA WITH TONOS,1ANO TELEIA"),
  (0x388, "1CAPITAL LETTER EPSILON WITH TONOS,3ETA WITH TONOS,3IOTA WITH TONOS"),
  (0x38c, "3OMICRON WITH TONOS"),
  (0x38e, "3UPSILON WITH TONOS,3OMEGA WITH TONOS,1SMALL LETTER IOTA WITH DIALYTIKA AND TONOS"),
  (0x391, "1CAPITAL LETTER ALPHA,3BETA,3GAMMA,3DELTA,3EPSILON,3ZETA,3ETA,3THETA,3IOTA,3KAPPA"),
  (0x39b, "3LAMDA,3MU,3NU,3XI,3OMICRON,3PI,3RHO"),
  (0x3a3, "3SIGMA,3TAU,3UPSILON,3PHI,3CHI,3PSI,3OMEGA,3IOTA WITH DIALYTIKA"),
  (0x3ab, "3UPSILON WITH DIALYTIKA,1SMALL LETTER ALPHA WITH TONOS,3EPSILON WITH TONOS"),
  (0x3ae, "3ETA WITH TONOS,3IOTA WITH TONOS,3UPSILON WITH DIALYTIKA AND TONOS,3ALPHA,3BETA"),
  (0x3b3, "3GAMMA,3DELTA,3EPSILON,3ZETA,3ETA,3THETA,3IOTA,3KAPPA,3LAMDA,3MU,3NU,3XI,3OMICRON"),
  (0x3c0, "3PI,3RHO,3FINAL SIGMA,3SIGMA,3TAU,3UPSILON,3PHI,3CHI,3PSI,3OMEGA"),
  (0x3ca, "3IOTA WITH DIALYTIKA,3UPSILON WITH DIALYTIKA,3OMICRON WITH TONOS,3UPSILON WITH TONOS"),
  (0x3ce, "3OMEGA WITH TONOS,1CAPITAL KAI SYMBOL,1BETA SYMBOL,1THETA SYMBOL"),
  (0x3d2, "1UPSILON WITH HOOK SYMBOL,3ACUTE AND HOOK SYMBOL,3DIAERESIS AND HOOK SYMBOL"),
  (0x3d5, "1PHI SYMBOL,1PI SYMBOL,1KAI SYMBOL,1LETTER ARCHAIC KOPPA,1SMALL LETTER ARCHAIC KOPPA"),
  (0x3da, "1LETTER STIGMA,1SMALL LETTER STIGMA,1LETTER DIGAMMA,1SMALL LETTER DIGAMMA"),
  (0x3de, "1LETTER KOPPA,1SMALL LETTER KOPPA,1LETTER SAMPI,1SMALL LETTER SAMPI"),
  (0x3e2, "0COPTIC CAPITAL LETTER SHEI,1SMALL LETTER SHEI,1CAPITAL LETTER FEI,1SMALL LETTER FEI"),
  (0x3e6, "1CAPITAL LETTER KHEI,1SMALL LETTER KHEI,1CAPITAL LETTER HORI,1SMALL LETTER HORI"),
  (0x3ea, "1CAPITAL LETTER GANGIA,1SMALL LETTER GANGIA,1CAPITAL LETTER SHIMA"),
  (0x3ed, "1SMALL LETTER SHIMA,1CAPITAL LETTER DEI,1SMALL LETTER DEI,0GREEK KAPPA SYMBOL"),
  (0x3f1, "1RHO SYMBOL,1LUNATE SIGMA SYMBOL,1LETTER YOT,1CAPITAL THETA SYMBOL"),
  (0x3f5, "1LUNATE EPSILON SYMBOL,1REVERSED LUNATE EPSILON SYMBOL,1CAPITAL LETTER SHO"),
  (0x3f8, "1SMALL LETTER SHO,1CAPITAL LUNATE SIGMA SYMBOL,2LETTER SAN,1SMALL LETTER SAN"),
  (0x3fc, "1RHO WITH STROKE SYMBOL,1CAPITAL REVERSED LUNATE SIGMA SYMBOL"),
  (0x3fe, "2DOTTED LUNATE SIGMA SYMBOL,2REVERSED DOTTED LUNATE SIGMA SYMBOL"),
  (0x400, "0CYRILLIC CAPITAL LETTER IE WITH GRAVE,3IO,3DJE,3GJE,3UKRAINIAN IE,3DZE"),
  (0x406, "3BYELORUSSIAN-UKRAINIAN I,3YI,3JE,3LJE,3NJE,3TSHE,3KJE,3I WITH GRAVE,3SHORT U,3DZHE"),
  (0x410, "3A,3BE,3VE,3GHE,3DE,3IE,3ZHE,3ZE,3I,3SHORT I,3KA,3EL,3EM,3EN,3O,3PE,3ER,3ES,3TE,3U"),
  (0x424, "3EF,3HA,3TSE,3CHE,3SHA,3SHCHA,3HARD SIGN,3YERU,3SOFT SIGN,3E,3YU,3YA,1SMALL LETTER A"),
  (0x431, "3BE,3VE,3GHE,3DE,3IE,3ZHE,3ZE,3I,3SHORT I,3KA,3EL,3EM,3EN,3O,3PE,3ER,3ES,3TE,3U,3EF"),
  (0x445, "3HA,3TSE,3CHE,3SHA,3SHCHA,3HARD SIGN,3YERU,3SOFT SIGN,3E,3YU,3YA,3IE WITH GRAVE,3IO"),
  (0x452, "3DJE,3GJE,3UKRAINIAN IE,3DZE,3BYELORUSSIAN-UKRAINIAN I,3YI,3JE,3LJE,3NJE,3TSHE,3KJE"),
  (0x45d, "3I WITH GRAVE,3SHORT U,3DZHE,1CAPITAL LETTER OMEGA,1SMALL LETTER OMEGA"),
  (0x462, "1CAPITAL LETTER YAT,1SMALL LETTER YAT,1CAPITAL LETTER IOTIFIED E"),
  (0x465, "1SMALL LETTER IOTIFIED E,1CAPITAL LETTER LITTLE YUS,1SMALL LETTER LITTLE YUS"),
  (0x468, "1CAPITAL LETTER IOTIFIED LITTLE YUS,1SMALL LETTER IOTIFIED LITTLE YUS"),
  (0x46a, "1CAPITAL LETTER BIG YUS,1SMALL LETTER BIG YUS,1CAPITAL LETTER IOTIFIED BIG YUS"),
  (0x46d, "1SMALL LETTER IOTIFIED BIG YUS,1CAPITAL LETTER KSI,1SMALL LETTER KSI"),
  (0x470, "1CAPITAL LETTER PSI,1SMALL LETTER PSI,1CAPITAL LETTER FITA,1SMALL LETTER FITA"),
  (0x474, "1CAPITAL LETTER IZHITSA,1SMALL LETTER IZHITSA"),
  (0x476, "1CAPITAL LETTER IZHITSA WITH DOUBLE GRAVE ACCENT"),
  (0x477, "1SMALL LETTER IZHITSA WITH DOUBLE GRAVE ACCENT,1CAPITAL LETTER UK,1SMALL LETTER UK"),
  (0x47a, "1CAPITAL LETTER ROUND OMEGA,1SMALL LETTER ROUND OMEGA"),
  (0x47c, "1CAPITAL LETTER OMEGA WITH TITLO,1SMALL LETTER OMEGA WITH TITLO,1CAPITAL LETTER OT"),
  (0x47f, "1SMALL LETTER OT,1CAPITAL LETTER KOPPA,1SMALL LETTER KOPPA,1THOUSANDS SIGN"),
  (0x483, "0COMBINING CYRILLIC TITLO,2PALATALIZATION,2DASIA PNEUMATA,2PSILI PNEUMATA,2POKRYTIE"),
  (0x488, "2HUNDRED THOUSANDS SIGN,2MILLIONS SIGN,0CYRILLIC CAPITAL LETTER SHORT I WITH TAIL"),
  (0x48b, "1SMALL LETTER SHORT I WITH TAIL,1CAPITAL LETTER SEMISOFT SIGN"),
  (0x48d, "1SMALL LETTER SEMISOFT SIGN,1CAPITAL LETTER ER WITH TICK,1SMALL LETTER ER WITH TICK"),
  (0x490, "1CAPITAL LETTER GHE WITH UPTURN,1SMALL LETTER GHE WITH UPTURN"),
  (0x492, "1CAPITAL LETTER GHE WITH STROKE,1SMALL LETTER GHE WITH STROKE"),
  (0x494, "1CAPITAL LETTER GHE WITH MIDDLE HOOK,1SMALL LETTER GHE WITH MIDDLE HOOK"),
  (0x496, "1CAPITAL LETTER ZHE WITH DESCENDER,1SMALL LETTER ZHE WITH DESCENDER"),
  (0x498, "1CAPITAL LETTER ZE WITH DESCENDER,1SMALL LETTER ZE WITH DESCENDER"),
  (0x49a, "1CAPITAL LETTER KA WITH DESCENDER,1SMALL LETTER KA WITH DESCENDER"),
  (0x49c, "1CAPITAL LETTER KA WITH VERTICAL STROKE,1SMALL LETTER KA WITH VERTICAL STROKE"),
  (0x49e, "1CAPITAL LETTER KA WITH STROKE,1SMALL LETTER KA WITH STROKE"),
  (0x4a0, "1CAPITAL LETTER BASHKIR KA,1SMALL LETTER BASHKIR KA"),
  (0x4a2, "1CAPITAL LETTER EN WITH DESCENDER,1SMALL LETTER EN WITH DESCENDER"),
  (0x4a4, "1CAPITAL LIGATURE EN GHE,1SMALL LIGATURE EN GHE,1CAPITAL LETTER PE WITH MIDDLE HOOK"),
  (0x4a7, "1SMALL LETTER PE WITH MIDDLE HOOK,1CAPITAL LETTER ABKHASIAN HA"),
  (0x4a9, "1SMALL LETTER ABKHASIAN HA,1CAPITAL LETTER ES WITH DESCENDER"),
  (0x4ab, "1SMALL LETTER ES WITH DESCENDER,1CAPITAL LETTER TE WITH DESCENDER"),
  (0x4ad, "1SMALL LETTER TE WITH DESCENDER,1CAPITAL LETTER STRAIGHT U,1SMALL LETTER STRAIGHT U"),
  (0x4b0, "1CAPITAL LETTER STRAIGHT U WITH STROKE,1SMALL LETTER STRAIGHT U WITH STROKE"),
  (0x4b2, "1CAPITAL LETTER HA WITH DESCENDER,1SMALL LETTER HA WITH DESCENDER"),
  (0x4b4, "1CAPITAL LIGATURE TE TSE,1SMALL LIGATURE TE TSE,1CAPITAL LETTER CHE WITH DESCENDER"),
  (0x4b7, "1SMALL LETTER CHE WITH DESCENDER,1CAPITAL LETTER CHE WITH VERTICAL STROKE"),
  (0x4b9, "1SMALL LETTER CHE WITH VERTICAL STROKE,1CAPITAL LETTER SHHA,1SMALL LETTER SHHA"),
  (0x4bc, "1CAPITAL LETTER ABKHASIAN CHE,1SMALL LETTER ABKHASIAN CHE"),
  (0x4be, "1CAPITAL LETTER ABKHASIAN CHE WITH DESCENDER"),
  (0x4bf, "1SMALL LETTER ABKHASIAN CHE WITH DESCENDER,1LETTER PALOCHKA"),
  (0x4c1, "1CAPITAL LETTER ZHE WITH BREVE,1SMALL LETTER ZHE WITH BREVE"),
  (0x4c3, "1CAPITAL LETTER KA WITH HOOK,1SMALL LETTER KA WITH HOOK,1CAPITAL LETTER EL WITH TAIL"),
  (0x4c6, "1SMALL LETTER EL WITH TAIL,1CAPITAL LETTER EN WITH HOOK,1SMALL LETTER EN WITH HOOK"),
  (0x4c9, "1CAPITAL LETTER EN WITH TAIL,1SMALL LETTER EN WITH TAIL"),
  (0x4cb, "1CAPITAL LETTER KHAKASSIAN CHE,1SMALL LETTER KHAKASSIAN CHE"),
  (0x4cd, "1CAPITAL LETTER EM WITH TAIL,1SMALL LETTER EM WITH TAIL,3PALOCHKA"),
  (0x4d0, "1CAPITAL LETTER A WITH BREVE,1SMALL LETTER A WITH BREVE"),
  (0x4d2, "1CAPITAL LETTER A WITH DIAERESIS,1SMALL LETTER A WITH DIAERESIS"),
  (0x4d4, "1CAPITAL LIGATURE A IE,1SMALL LIGATURE A IE,1CAPITAL LETTER IE WITH BREVE"),
  (0x4d7, "1SMALL LETTER IE WITH BREVE,1CAPITAL LETTER SCHWA,1SMALL LETTER SCHWA"),
  (0x4da, "1CAPITAL LETTER SCHWA WITH DIAERESIS,1SMALL LETTER SCHWA WITH DIAERESIS"),
  (0x4dc, "1CAPITAL LETTER ZHE WITH DIAERESIS,1SMALL LETTER ZHE WITH DIAERESIS"),
  (0x4de, "1CAPITAL LETTER ZE WITH DIAERESIS,1SMALL LETTER ZE WITH DIAERESIS"),
  (0x4e0, "1CAPITAL LETTER ABKHASIAN DZE,1SMALL LETTER ABKHASIAN DZE"),
  (0x4e2, "1CAPITAL LETTER I WITH MACRON,1SMALL LETTER I WITH MACRON"),
  (0x4e4, "1CAPITAL LETTER I WITH DIAERESIS,1SMALL LETTER I WITH DIAERESIS"),
  (0x4e6, "1CAPITAL LETTER O WITH DIAERESIS,1SMALL LETTER O WITH DIAERESIS"),
  (0x4e8, "1CAPITAL LETTER BARRED O,1SMALL LETTER BARRED O"),
  (0x4ea, "1CAPITAL LETTER BARRED O WITH DIAERESIS,1SMALL LETTER BARRED O WITH DIAERESIS"),
  (0x4ec, "1CAPITAL LETTER E WITH DIAERESIS,1SMALL LETTER E WITH DIAERESIS"),
  (0x4ee, "1CAPITAL LETTER U WITH MACRON,1SMALL LETTER U WITH MACRON"),
  (0x4f0, "1CAPITAL LETTER U WITH DIAERESIS,1SMALL LETTER U WITH DIAERESIS"),
  (0x4f2, "1CAPITAL LETTER U WITH DOUBLE ACUTE,1SMALL LETTER U WITH DOUBLE ACUTE"),
  (0x4f4, "1CAPITAL LETTER CHE WITH DIAERESIS,1SMALL LETTER CHE WITH DIAERESIS"),
  (0x4f6, "1CAPITAL LETTER GHE WITH DESCENDER,1SMALL LETTER GHE WITH DESCENDER"),
  (0x4f8, "1CAPITAL LETTER YERU WITH DIAERESIS,1SMALL LETTER YERU WITH DIAERESIS"),
  (0x4fa, "1CAPITAL LETTER GHE WITH STROKE AND HOOK,1SMALL LETTER GHE WITH STROKE AND HOOK"),
  (0x4fc, "1CAPITAL LETTER HA WITH HOOK,1SMALL LETTER HA WITH HOOK"),
  (0x4fe, "1CAPITAL LETTER HA WITH STROKE,1SMALL LETTER HA WITH STROKE,1CAPITAL LETTER KOMI DE"),
  (0x501, "1SMALL LETTER KOMI DE,1CAPITAL LETTER KOMI DJE,1SMALL LETTER KOMI DJE"),
  (0x504, "1CAPITAL LETTER KOMI ZJE,1SMALL LETTER KOMI ZJE,1CAPITAL LETTER KOMI DZJE"),
  (0x507, "1SMALL LETTER KOMI DZJE,1CAPITAL LETTER KOMI LJE,1SMALL LETTER KOMI LJE"),
  (0x50a, "1CAPITAL LETTER KOMI NJE,1SMALL LETTER KOMI NJE,1CAPITAL LETTER KOMI SJE"),
  (0x50d, "1SMALL LETTER KOMI SJE,1CAPITAL LETTER KOMI TJE,1SMALL LETTER KOMI TJE"),
  (0x510, "1CAPITAL LETTER REVERSED ZE,1SMALL LETTER REVERSED ZE,1CAPITAL LETTER EL WITH HOOK"),
  (0x513, "1SMALL LETTER EL WITH HOOK,1CAPITAL LETTER LHA,1SMALL LETTER LHA,1CAPITAL LETTER RHA"),
  (0x517, "1SMALL LETTER RHA,1CAPITAL LETTER YAE,1SMALL LETTER YAE,1CAPITAL LETTER QA"),
  (0x51b, "1SMALL LETTER QA,1CAPITAL LETTER WE,1SMALL LETTER WE,1CAPITAL LETTER ALEUT KA"),
  (0x51f, "1SMALL LETTER ALEUT KA,1CAPITAL LETTER EL WITH MIDDLE HOOK"),
  (0x521, "1SMALL LETTER EL WITH MIDDLE HOOK,1CAPITAL LETTER EN WITH MIDDLE HOOK"),
  (0x523, "1SMALL LETTER EN WITH MIDDLE HOOK,1CAPITAL LETTER PE WITH DESCENDER"),
  (0x525, "1SMALL LETTER PE WITH DESCENDER,1CAPITAL LETTER SHHA WITH DESCENDER"),
  (0x527, "1SMALL LETTER SHHA WITH DESCENDER,1CAPITAL LETTER EN WITH LEFT HOOK"),
  (0x529, "1SMALL LETTER EN WITH LEFT HOOK,1CAPITAL LETTER DZZHE,1SMALL LETTER DZZHE"),
  (0x52c, "1CAPITAL LETTER DCHE,1SMALL LETTER DCHE,1CAPITAL LETTER EL WITH DESCENDER"),
  (0x52f, "1SMALL LETTER EL WITH DESCENDER"),
  (0x531, "0ARMENIAN CAPITAL LETTER AYB,3BEN,3GIM,3DA,3ECH,3ZA,3EH,3ET,3TO,3ZHE,3INI,3LIWN,3XEH"),
  (0x53e, "3CA,3KEN,3HO,3JA,3GHAD,3CHEH,3MEN,3YI,3NOW,3SHA,3VO,3CHA,3PEH,3JHEH,3RA,3SEH,3VEW"),
  (0x54f, "3TIWN,3REH,3CO,3YIWN,3PIWR,3KEH,3OH,3FEH"),
  (0x559, "1MODIFIER LETTER LEFT HALF RING,1APOSTROPHE,1EMPHASIS MARK,1EXCLAMATION MARK,1COMMA"),
  (0x55e, "1QUESTION MARK,1ABBREVIATION MARK,1SMALL LETTER TURNED AYB,3AYB,3BEN,3GIM,3DA,3ECH"),
  (0x566, "3ZA,3EH,3ET,3TO,3ZHE,3INI,3LIWN,3XEH,3CA,3KEN,3HO,3JA,3GHAD,3CHEH,3MEN,3YI,3NOW,3SHA"),
  (0x578, "3VO,3CHA,3PEH,3JHEH,3RA,3SEH,3VEW,3TIWN,3REH,3CO,3YIWN,3PIWR,3KEH,3OH,3FEH"),
  (0x587, "2LIGATURE ECH YIWN,2LETTER YI WITH STROKE,1FULL STOP,1HYPHEN"),
  (0x58d, "0RIGHT-FACING ARMENIAN ETERNITY SIGN,0LEFT-FACING ARMENIAN ETERNITY SIGN"),
  (0x58f, "0ARMENIAN DRAM SIGN"),
  (0x10a0, "0GEORGIAN CAPITAL LETTER AN,3BAN,3GAN,3DON,3EN,3VIN,3ZEN,3TAN,3IN,3KAN,3LAS,3MAN"),
  (0x10ac, "3NAR,3ON,3PAR,3ZHAR,3RAE,3SAN,3TAR,3UN,3PHAR,3KHAR,3GHAN,3QAR,3SHIN,3CHIN,3CAN,3JIL"),
  (0x10bc, "3CIL,3CHAR,3XAN,3JHAN,3HAE,3HE,3HIE,3WE,3HAR,3HOE"),
  (0x10c7, "3YN"),
  (0x10cd, "3AEN"),
  (0x10d0, "1LETTER AN,2BAN,2GAN,2DON,2EN,2VIN,2ZEN,2TAN,2IN,2KAN,2LAS,2MAN,2NAR,2ON,2PAR,2ZHAR"),
  (0x10e0, "2RAE,2SAN,2TAR,2UN,2PHAR,2KHAR,2GHAN,2QAR,2SHIN,2CHIN,2CAN,2JIL,2CIL,2CHAR,2XAN"),
  (0x10ef, "2JHAN,2HAE,2HE,2HIE,2WE,2HAR,2HOE,2FI,2YN,2ELIFI,2TURNED GAN,2AIN"),
  (0x10fb, "1PARAGRAPH SEPARATOR,0MODIFIER LETTER GEORGIAN NAR,0GEORGIAN LETTER AEN,2HARD SIGN"),
  (0x10ff, "2LABIAL SIGN"),
  (0x1f00, "0GREEK SMALL LETTER ALPHA WITH PSILI,5DASIA,5PSILI AND VARIA,5DASIA AND VARIA"),
  (0x1f04, "5PSILI AND OXIA,5DASIA AND OXIA,5PSILI AND PERISPOMENI,5DASIA AND PERISPOMENI"),
  (0x1f08, "1CAPITAL LETTER ALPHA WITH PSILI,5DASIA,5PSILI AND VARIA,5DASIA AND VARIA"),
  (0x1f0c, "5PSILI AND OXIA,5DASIA AND OXIA,5PSILI AND PERISPOMENI,5DASIA AND PERISPOMENI"),
  (0x1f10, "1SMALL LETTER EPSILON WITH PSILI,5DASIA,5PSILI AND VARIA,5DASIA AND VARIA"),
  (0x1f14, "5PSILI AND OXIA,5DASIA AND OXIA"),
  (0x1f18, "1CAPITAL LETTER EPSILON WITH PSILI,5DASIA,5PSILI AND VARIA,5DASIA AND VARIA"),
  (0x1f1c, "5PSILI AND OXIA,5DASIA AND OXIA"),
  (0x1f20, "1SMALL LETTER ETA WITH PSILI,5DASIA,5PSILI AND VARIA,5DASIA AND VARIA"),
  (0x1f24, "5PSILI AND OXIA,5DASIA AND OXIA,5PSILI AND PERISPOMENI,5DASIA AND PERISPOMENI"),
  (0x1f28, "1CAPITAL LETTER ETA WITH PSILI,5DASIA,5PSILI AND VARIA,5DASIA AND VARIA"),
  (0x1f2c, "5PSILI AND OXIA,5DASIA AND OXIA,5PSILI AND PERISPOMENI,5DASIA AND PERISPOMENI"),
  (0x1f30, "1SMALL LETTER IOTA WITH PSILI,5DASIA,5PSILI AND VARIA,5DASIA AND VARIA"),
  (0x1f34, "5PSILI AND OXIA,5DASIA AND OXIA,5PSILI AND PERISPOMENI,5DASIA AND PERISPOMENI"),
  (0x1f38, "1CAPITAL LETTER IOTA WITH PSILI,5DASIA,5PSILI AND VARIA,5DASIA AND VARIA"),
  (0x1f3c, "5PSILI AND OXIA,5DASIA AND OXIA,5PSILI AND PERISPOMENI,5DASIA AND PERISPOMENI"),
  (0x1f40, "1SMALL LETTER OMICRON WITH PSILI,5DASIA,5PSILI AND VARIA,5DASIA AND VARIA"),
  (0x1f44, "5PSILI AND OXIA,5DASIA AND OXIA"),
  (0x1f48, "1CAPITAL LETTER OMICRON WITH PSILI,5DASIA,5PSILI AND VARIA,5DASIA AND VARIA"),
  (0x1f4c, "5PSILI AND OXIA,5DASIA AND OXIA"),
  (0x1f50, "1SMALL LETTER UPSILON WITH PSILI,5DASIA,5PSILI AND VARIA,5DASIA AND VARIA"),
  (0x1f54, "5PSILI AND OXIA,5DASIA AND OXIA,5PSILI AND PERISPOMENI,5DASIA AND PERISPOMENI"),
  (0x1f59, "1CAPITAL LETTER UPSILON WITH DASIA"),
  (0x1f5b, "6AND VARIA"),
  (0x1f5d, "7OXIA"),
  (0x1f5f, "7PERISPOMENI,1SMALL LETTER OMEGA WITH PSILI,5DASIA,5PSILI AND VARIA,5DASIA AND VARIA"),
  (0x1f64, "5PSILI AND OXIA,5DASIA AND OXIA,5PSILI AND PERISPOMENI,5DASIA AND PERISPOMENI"),
  (0x1f68, "1CAPITAL LETTER OMEGA WITH PSILI,5DASIA,5PSILI AND VARIA,5DASIA AND VARIA"),
  (0x1f6c, "5PSILI AND OXIA,5DASIA AND OXIA,5PSILI AND PERISPOMENI,5DASIA AND PERISPOMENI"),
  (0x1f70, "1SMALL LETTER ALPHA WITH VARIA,5OXIA,3EPSILON WITH VARIA,5OXIA,3ETA WITH VARIA,5OXIA"),
  (0x1f76, "3IOTA WITH VARIA,5OXIA,3OMICRON WITH VARIA,5OXIA,3UPSILON WITH VARIA,5OXIA"),
  (0x1f7c, "3OMEGA WITH VARIA,5OXIA"),
  (0x1f80, "3ALPHA WITH PSILI AND YPOGEGRAMMENI,5DASIA AND YPOGEGRAMMENI"),
  (0x1f82, "5PSILI AND VARIA AND YPOGEGRAMMENI,5DASIA AND VARIA AND YPOGEGRAMMENI"),
  (0x1f84, "5PSILI AND OXIA AND YPOGEGRAMMENI,5DASIA AND OXIA AND YPOGEGRAMMENI"),
  (0x1f86, "5PSILI AND PERISPOMENI AND YPOGEGRAMMENI,5DASIA AND PERISPOMENI AND YPOGEGRAMMENI"),
  (0x1f88, "1CAPITAL LETTER ALPHA WITH PSILI AND PROSGEGRAMMENI,5DASIA AND PROSGEGRAMMENI"),
  (0x1f8a, "5PSILI AND VARIA AND PROSGEGRAMMENI,5DASIA AND VARIA AND PROSGEGRAMMENI"),
  (0x1f8c, "5PSILI AND OXIA AND PROSGEGRAMMENI,5DASIA AND OXIA AND PROSGEGRAMMENI"),
  (0x1f8e, "5PSILI AND PERISPOMENI AND PROSGEGRAMMENI,5DASIA AND PERISPOMENI AND PROSGEGRAMMENI"),
  (0x1f90, "1SMALL LETTER ETA WITH PSILI AND YPOGEGRAMMENI,5DASIA AND YPOGEGRAMMENI"),
  (0x1f92, "5PSILI AND VARIA AND YPOGEGRAMMENI,5DASIA AND VARIA AND YPOGEGRAMMENI"),
  (0x1f94, "5PSILI AND OXIA AND YPOGEGRAMMENI,5DASIA AND OXIA AND YPOGEGRAMMENI"),
  (0x1f96, "5PSILI AND PERISPOMENI AND YPOGEGRAMMENI,5DASIA AND PERISPOMENI AND YPOGEGRAMMENI"),
  (0x1f98, "1CAPITAL LETTER ETA WITH PSILI AND PROSGEGRAMMENI,5DASIA AND PROSGEGRAMMENI"),
  (0x1f9a, "5PSILI AND VARIA AND PROSGEGRAMMENI,5DASIA AND VARIA AND PROSGEGRAMMENI"),
  (0x1f9c, "5PSILI AND OXIA AND PROSGEGRAMMENI,5DASIA AND OXIA AND PROSGEGRAMMENI"),
  (0x1f9e, "5PSILI AND PERISPOMENI AND PROSGEGRAMMENI,5DASIA AND PERISPOMENI AND PROSGEGRAMMENI"),
  (0x1fa0, "1SMALL LETTER OMEGA WITH PSILI AND YPOGEGRAMMENI,5DASIA AND YPOGEGRAMMENI"),
  (0x1fa2, "5PSILI AND VARIA AND YPOGEGRAMMENI,5DASIA AND VARIA AND YPOGEGRAMMENI"),
  (0x1fa4, "5PSILI AND OXIA AND YPOGEGRAMMENI,5DASIA AND OXIA AND YPOGEGRAMMENI"),
  (0x1fa6, "5PSILI AND PERISPOMENI AND YPOGEGRAMMENI,5DASIA AND PERISPOMENI AND YPOGEGRAMMENI"),
  (0x1fa8, "1CAPITAL LETTER OMEGA WITH PSILI AND PROSGEGRAMMENI,5DASIA AND PROSGEGRAMMENI"),
  (0x1faa, "5PSILI AND VARIA AND PROSGEGRAMMENI,5DASIA AND VARIA AND PROSGEGRAMMENI"),
  (0x1fac, "5PSILI AND OXIA AND PROSGEGRAMMENI,5DASIA AND OXIA AND PROSGEGRAMMENI"),
  (0x1fae, "5PSILI AND PERISPOMENI AND PROSGEGRAMMENI,5DASIA AND PERISPOMENI AND PROSGEGRAMMENI"),
  (0x1fb0, "1SMALL LETTER ALPHA WITH VRACHY,5MACRON,5VARIA AND YPOGEGRAMMENI,5YPOGEGRAMMENI"),
  (0x1fb4, "5OXIA AND YPOGEGRAMMENI"),
  (0x1fb6, "5PERISPOMENI,6AND YPOGEGRAMMENI,1CAPITAL LETTER ALPHA WITH VRACHY,5MACRON,5VARIA"),
  (0x1fbb, "5OXIA,5PROSGEGRAMMENI,1KORONIS,1PROSGEGRAMMENI,1PSILI,1PERISPOMENI"),
  (0x1fc1, "1DIALYTIKA AND PERISPOMENI,1SMALL LETTER ETA WITH VARIA AND YPOGEGRAMMENI"),
  (0x1fc3, "5YPOGEGRAMMENI,5OXIA AND YPOGEGRAMMENI"),
  (0x1fc6, "5PERISPOMENI,6AND YPOGEGRAMMENI,1CAPITAL LETTER EPSILON WITH VARIA,5OXIA"),
  (0x1fca, "3ETA WITH VARIA,5OXIA,5PROSGEGRAMMENI,1PSILI AND VARIA,3OXIA,3PERISPOMENI"),
  (0x1fd0, "1SMALL LETTER IOTA WITH VRACHY,5MACRON,5DIALYTIKA AND VARIA,7OXIA"),
  (0x1fd6, "5PERISPOMENI,5DIALYTIKA AND PERISPOMENI,1CAPITAL LETTER IOTA WITH VRACHY,5MACRON"),
  (0x1fda, "5VARIA,5OXIA"),
  (0x1fdd, "1DASIA AND VARIA,3OXIA,3PERISPOMENI,1SMALL LETTER UPSILON WITH VRACHY,5MACRON"),
  (0x1fe2, "5DIALYTIKA AND VARIA,7OXIA,3RHO WITH PSILI,5DASIA,3UPSILON WITH PERISPOMENI"),
  (0x1fe7, "5DIALYTIKA AND PERISPOMENI,1CAPITAL LETTER UPSILON WITH VRACHY,5MACRON,5VARIA,5OXIA"),
  (0x1fec, "3RHO WITH DASIA,1DIALYTIKA AND VARIA,3OXIA,1VARIA"),
  (0x1ff2, "1SMALL LETTER OMEGA WITH VARIA AND YPOGEGRAMMENI,5YPOGEGRAMMENI"),
  (0x1ff4, "5OXIA AND YPOGEGRAMMENI"),
  (0x1ff6, "5PERISPOMENI,6AND YPOGEGRAMMENI,1CAPITAL LETTER OMICRON WITH VARIA,5OXIA"),
  (0x1ffa, "3OMEGA WITH VARIA,5OXIA,5PROSGEGRAMMENI,1OXIA,1DASIA")]

/-- The names of Hebrew, Arabic, Devanagari and Thai letters, and of kana, each row behind its first character. -/
def asianNames : List (Nat × String) := [
  (0x591, "0HEBREW ACCENT ETNAHTA,2SEGOL,2SHALSHELET,2ZAQEF QATAN,3GADOL,2TIPEHA,2REVIA,2ZARQA"),
  (0x599, "2PASHTA,2YETIV,2TEVIR,2GERESH,3MUQDAM,2GERSHAYIM,2QARNEY PARA,2TELISHA GEDOLA,2PAZER"),
  (0x5a2, "2ATNAH HAFUKH,2MUNAH,2MAHAPAKH,2MERKHA,3KEFULA,2DARGA,2QADMA,2TELISHA QETANA"),
  (0x5aa, "2YERAH BEN YOMO,2OLE,2ILUY,2DEHI,2ZINOR,1MARK MASORA CIRCLE,1POINT SHEVA"),
  (0x5b1, "2HATAF SEGOL,3PATAH,3QAMATS,2HIRIQ,2TSERE,2SEGOL,2PATAH,2QAMATS,2HOLAM"),
  (0x5ba, "3HASER FOR VAV,2QUBUTS,2DAGESH OR MAPIQ,2METEG,1PUNCTUATION MAQAF,1POINT RAFE"),
  (0x5c0, "1PUNCTUATION PASEQ,1POINT SHIN DOT,2SIN DOT,1PUNCTUATION SOF PASUQ,1MARK UPPER DOT"),
  (0x5c5, "2LOWER DOT,1PUNCTUATION NUN HAFUKHA,1POINT QAMATS QATAN"),
  (0x5d0, "1LETTER ALEF,2BET,2GIMEL,2DALET,2HE,2VAV,2ZAYIN,2HET,2TET,2YOD,2FINAL KAF,2KAF"),
  (0x5dc, "2LAMED,2FINAL MEM,2MEM,2FINAL NUN,2NUN,2SAMEKH,2AYIN,2FINAL PE,2PE,2FINAL TSADI"),
  (0x5e6, "2TSADI,2QOF,2RESH,2SHIN,2TAV"),
  (0x5ef, "1YOD TRIANGLE,1LIGATURE YIDDISH DOUBLE VAV,3VAV YOD,3DOUBLE YOD,1PUNCTUATION GERESH"),
  (0x5f4, "2GERSHAYIM"),
  (0x600, "0ARABIC NUMBER SIGN,1SIGN SANAH,1FOOTNOTE MARKER,1SIGN SAFHA,2SAMVAT"),
  (0x605, "1NUMBER MARK ABOVE,0ARABIC-INDIC CUBE ROOT,1FOURTH ROOT,0ARABIC RAY"),
  (0x609, "0ARABIC-INDIC PER MILLE SIGN,2TEN THOUSAND SIGN,0AFGHANI SIGN,0ARABIC COMMA"),
  (0x60d, "1DATE SEPARATOR,1POETIC VERSE SIGN,1SIGN MISRA,2SALLALLAHOU ALAYHE WASSALLAM"),
  (0x611, "2ALAYHE ASSALLAM,2RAHMATULLAH ALAYHE,2RADI ALLAHOU ANHU,2TAKHALLUS,1SMALL HIGH TAH"),
  (0x616, "3LIGATURE ALEF WITH LAM WITH YEH,3ZAIN,2FATHA,2DAMMA,2KASRA,1SEMICOLON,1LETTER MARK"),
  (0x61d, "1END OF TEXT MARK,1TRIPLE DOT PUNCTUATION MARK,1QUESTION MARK,1LETTER KASHMIRI YEH"),
  (0x621, "2HAMZA,2ALEF WITH MADDA ABOVE,4HAMZA ABOVE,2WAW WITH HAMZA ABOVE"),
  (0x625, "2ALEF WITH HAMZA BELOW,2YEH WITH HAMZA ABOVE,2ALEF,2BEH,2TEH MARBUTA,2TEH,2THEH"),
  (0x62c, "2JEEM,2HAH,2KHAH,2DAL,2THAL,2REH,2ZAIN,2SEEN,2SHEEN,2SAD,2DAD,2TAH,2ZAH,2AIN,2GHAIN"),
  (0x63b, "2KEHEH WITH TWO DOTS ABOVE,4THREE DOTS BELOW,2FARSI YEH WITH INVERTED V"),
  (0x63e, "5TWO DOTS ABOVE,5THREE DOTS ABOVE,1TATWEEL,1LETTER FEH,2QAF,2KAF,2LAM,2MEEM,2NOON"),
  (0x647, "2HEH,2WAW,2ALEF MAKSURA,2YEH,1FATHATAN,1DAMMATAN,1KASRATAN,1FATHA,1DAMMA,1KASRA"),
  (0x651, "1SHADDA,1SUKUN,1MADDAH ABOVE,1HAMZA ABOVE,2BELOW,1SUBSCRIPT ALEF,1INVERTED DAMMA"),
  (0x658, "1MARK NOON GHUNNA,1ZWARAKAY,1VOWEL SIGN SMALL V ABOVE,3INVERTED SMALL V ABOVE"),
  (0x65c, "3DOT BELOW,1REVERSED DAMMA,1FATHA WITH TWO DOTS,1WAVY HAMZA BELOW"),
  (0x660, "0ARABIC-INDIC DIGIT ZERO,2ONE,2TWO,2THREE,2FOUR,2FIVE,2SIX,2SEVEN,2EIGHT,2NINE"),
  (0x66a, "0ARABIC PERCENT SIGN,1DECIMAL SEPARATOR,1THOUSANDS SEPARATOR,1FIVE POINTED STAR"),
  (0x66e, "1LETTER DOTLESS BEH,3QAF,2SUPERSCRIPT ALEF,2ALEF WASLA,3WITH WAVY HAMZA ABOVE,6BELOW"),
  (0x674, "2HIGH HAMZA,4ALEF,4WAW,2U WITH HAMZA ABOVE,2HIGH HAMZA YEH,2TTEH,2TTEHEH,2BEEH"),
  (0x67c, "2TEH WITH RING,4THREE DOTS ABOVE DOWNWARDS,2PEH,2TEHEH,2BEHEH,2HAH WITH HAMZA ABOVE"),
  (0x682, "4TWO DOTS VERTICAL ABOVE,2NYEH,2DYEH,2HAH WITH THREE DOTS ABOVE,2TCHEH,2TCHEHEH"),
  (0x688, "2DDAL,2DAL WITH RING,4DOT BELOW,6AND SMALL TAH,2DAHAL,2DDAHAL,2DUL"),
  (0x68f, "2DAL WITH THREE DOTS ABOVE DOWNWARDS,4FOUR DOTS ABOVE,2RREH,2REH WITH SMALL V,4RING"),
  (0x694, "4DOT BELOW,4SMALL V BELOW,4DOT BELOW AND DOT ABOVE,4TWO DOTS ABOVE,2JEH"),
  (0x699, "2REH WITH FOUR DOTS ABOVE,2SEEN WITH DOT BELOW AND DOT ABOVE,4THREE DOTS BELOW"),
  (0x69c, "7AND THREE DOTS ABOVE,2SAD WITH TWO DOTS BELOW,4THREE DOTS ABOVE"),
  (0x69f, "2TAH WITH THREE DOTS ABOVE,2AIN WITH THREE DOTS ABOVE,2DOTLESS FEH"),
  (0x6a2, "2FEH WITH DOT MOVED BELOW,5BELOW,2VEH,2FEH WITH THREE DOTS BELOW,2PEHEH"),
  (0x6a7, "2QAF WITH DOT ABOVE,4THREE DOTS ABOVE,2KEHEH,2SWASH KAF,2KAF WITH RING,4DOT ABOVE"),
  (0x6ad, "2NG,2KAF WITH THREE DOTS BELOW,2GAF,3WITH RING,2NGOEH,2GAF WITH TWO DOTS BELOW,2GUEH"),
  (0x6b4, "2GAF WITH THREE DOTS ABOVE,2LAM WITH SMALL V,4DOT ABOVE,4THREE DOTS ABOVE,6BELOW"),
  (0x6b9, "2NOON WITH DOT BELOW,3GHUNNA,2RNOON,2NOON WITH RING,4THREE DOTS ABOVE"),
  (0x6be, "2HEH DOACHASHMEE,2TCHEH WITH DOT ABOVE,2HEH WITH YEH ABOVE,3GOAL,4WITH HAMZA ABOVE"),
  (0x6c3, "2TEH MARBUTA GOAL,2WAW WITH RING,2KIRGHIZ OE,2OE,2U,2YU,2KIRGHIZ YU"),
  (0x6ca, "2WAW WITH TWO DOTS ABOVE,2VE,2FARSI YEH,2YEH WITH TAIL,4SMALL V,2WAW WITH DOT ABOVE"),
  (0x6d0, "2E,2YEH WITH THREE DOTS BELOW,3BARREE,4WITH HAMZA ABOVE,1FULL STOP,1LETTER AE"),
  (0x6d6, "1SMALL HIGH LIGATURE SAD WITH LAM WITH ALEF MAKSURA,4QAF WITH LAM WITH ALEF MAKSURA"),
  (0x6d8, "3MEEM INITIAL FORM,3LAM ALEF,3JEEM,3THREE DOTS,3SEEN,1END OF AYAH"),
  (0x6de, "1START OF RUB EL HIZB,1SMALL HIGH ROUNDED ZERO,3UPRIGHT RECTANGULAR ZERO"),
  (0x6e1, "3DOTLESS HEAD OF KHAH,3MEEM ISOLATED FORM,2LOW SEEN,2HIGH MADDA,2WAW,2YEH,2HIGH YEH"),
  (0x6e8, "3NOON,1PLACE OF SAJDAH,1EMPTY CENTRE LOW STOP,3HIGH STOP"),
  (0x6ec, "1ROUNDED HIGH STOP WITH FILLED CENTRE,1SMALL LOW MEEM,1LETTER DAL WITH INVERTED V"),
  (0x6ef, "2REH WITH INVERTED V,0EXTENDED ARABIC-INDIC DIGIT ZERO,3ONE,3TWO,3THREE,3FOUR,3FIVE"),
  (0x6f6, "3SIX,3SEVEN,3EIGHT,3NINE,0ARABIC LETTER SHEEN WITH DOT BELOW,2DAD WITH DOT BELOW"),
  (0x6fc, "2GHAIN WITH DOT BELOW,1SIGN SINDHI AMPERSAND,3POSTPOSITION MEN"),
  (0x6ff, "1LETTER HEH WITH INVERTED V"),
  (0x900, "0DEVANAGARI SIGN INVERTED CANDRABINDU,2CANDRABINDU,2ANUSVARA,2VISARGA"),
  (0x904, "1LETTER SHORT A,2A,2AA,2I,2II,2U,2UU,2VOCALIC R,3L,2CANDRA E,2SHORT E,2E,2AI"),
  (0x911, "2CANDRA O,2SHORT O,2O,2AU,2KA,2KHA,2GA,2GHA,2NGA,2CA,2CHA,2JA,2JHA,2NYA,2TTA,2TTHA"),
  (0x921, "2DDA,2DDHA,2NNA,2TA,2THA,2DA,2DHA,2NA,2NNNA,2PA,2PHA,2BA,2BHA,2MA,2YA,2RA,2RRA,2LA"),
  (0x933, "2LLA,2LLLA,2VA,2SHA,2SSA,2SA,2HA,1VOWEL SIGN OE,3OOE,1SIGN NUKTA,2AVAGRAHA"),
  (0x93e, "1VOWEL SIGN AA,3I,3II,3U,3UU,3VOCALIC R,4RR,3CANDRA E,3SHORT E,3E,3AI,3CANDRA O"),
  (0x94a, "3SHORT O,3O,3AU,1SIGN VIRAMA,1VOWEL SIGN PRISHTHAMATRA E,3AW,1OM,1STRESS SIGN UDATTA"),
  (0x952, "3ANUDATTA,1GRAVE ACCENT,1ACUTE ACCENT,1VOWEL SIGN CANDRA LONG E,3UE,3UUE,1LETTER QA"),
  (0x959, "2KHHA,2GHHA,2ZA,2DDDHA,2RHA,2FA,2YYA,2VOCALIC RR,3LL,1VOWEL SIGN VOCALIC L,4LL"),
  (0x964, "1DANDA,1DOUBLE DANDA,1DIGIT ZERO,2ONE,2TWO,2THREE,2FOUR,2FIVE,2SIX,2SEVEN,2EIGHT"),
  (0x96f, "2NINE,1ABBREVIATION SIGN,1SIGN HIGH SPACING DOT,1LETTER CANDRA A,2OE,2OOE,2AW,2UE"),
  (0x977, "2UUE,2MARWARI DDA,2ZHA,2HEAVY YA,2GGA,2JJA,2GLOTTAL STOP,2DDDA,2BBA"),
  (0xe01, "0THAI CHARACTER KO KAI,2KHO KHAI,3KHUAT,3KHWAI,3KHON,3RAKHANG,2NGO NGU,2CHO CHAN"),
  (0xe09, "3CHING,3CHANG,2SO SO,2CHO CHOE,2YO YING,2DO CHADA,2TO PATAK,2THO THAN,3NANGMONTHO"),
  (0xe12, "3PHUTHAO,2NO NEN,2DO DEK,2TO TAO,2THO THUNG,3THAHAN,3THONG,2NO NU,2BO BAIMAI,2PO PLA"),
  (0xe1c, "2PHO PHUNG,2FO FA,2PHO PHAN,2FO FAN,2PHO SAMPHAO,2MO MA,2YO YAK,2RO RUA,2RU,2LO LING"),
  (0xe26, "2LU,2WO WAEN,2SO SALA,3RUSI,3SUA,2HO HIP,2LO CHULA,2O ANG,2HO NOKHUK,2PAIYANNOI"),
  (0xe30, "2SARA A,2MAI HAN-AKAT,2SARA AA,3AM,3I,3II,3UE,3UEE,3U,3UU,2PHINTHU"),
  (0xe3f, "1CURRENCY SYMBOL BAHT,1CHARACTER SARA E,3AE,3O,3AI MAIMUAN,4MAIMALAI,2LAKKHANGYAO"),
  (0xe46, "2MAIYAMOK,2MAITAIKHU,2MAI EK,3THO,3TRI,3CHATTAWA,2THANTHAKHAT,2NIKHAHIT,2YAMAKKAN"),
  (0xe4f, "2FONGMAN,1DIGIT ZERO,2ONE,2TWO,2THREE,2FOUR,2FIVE,2SIX,2SEVEN,2EIGHT,2NINE"),
  (0xe5a, "1CHARACTER ANGKHANKHU,2KHOMUT"),
  (0x3000, "0IDEOGRAPHIC SPACE,1COMMA,1FULL STOP,0DITTO MARK"),
  (0x3004, "0JAPANESE INDUSTRIAL STANDARD SYMBOL,0IDEOGRAPHIC ITERATION MARK,1CLOSING MARK"),
  (0x3007, "1NUMBER ZERO,0LEFT ANGLE BRACKET,0RIGHT ANGLE BRACKET,0LEFT DOUBLE ANGLE BRACKET"),
  (0x300b, "0RIGHT DOUBLE ANGLE BRACKET,0LEFT CORNER BRACKET,0RIGHT CORNER BRACKET"),
  (0x300e, "0LEFT WHITE CORNER BRACKET,0RIGHT WHITE CORNER BRACKET"),
  (0x3010, "0LEFT BLACK LENTICULAR BRACKET,0RIGHT BLACK LENTICULAR BRACKET,0POSTAL MARK"),
  (0x3013, "0GETA MARK,0LEFT TORTOISE SHELL BRACKET,0RIGHT TORTOISE SHELL BRACKET"),
  (0x3016, "0LEFT WHITE LENTICULAR BRACKET,0RIGHT WHITE LENTICULAR BRACKET"),
  (0x3018, "0LEFT WHITE TORTOISE SHELL BRACKET,0RIGHT WHITE TORTOISE SHELL BRACKET"),
  (0x301a, "0LEFT WHITE SQUARE BRACKET,0RIGHT WHITE SQUARE BRACKET,0WAVE DASH"),
  (0x301d, "0REVERSED DOUBLE PRIME QUOTATION MARK,0DOUBLE PRIME QUOTATION MARK"),
  (0x301f, "0LOW DOUBLE PRIME QUOTATION MARK,0POSTAL MARK FACE,0HANGZHOU NUMERAL ONE,2TWO,2THREE"),
  (0x3024, "2FOUR,2FIVE,2SIX,2SEVEN,2EIGHT,2NINE,0IDEOGRAPHIC LEVEL TONE MARK,1RISING TONE MARK"),
  (0x302c, "1DEPARTING TONE MARK,1ENTERING TONE MARK,0HANGUL SINGLE DOT TONE MARK"),
  (0x302f, "1DOUBLE DOT TONE MARK,0WAVY DASH,0VERTICAL KANA REPEAT MARK,3WITH VOICED SOUND MARK"),
  (0x3033, "3MARK UPPER HALF,3WITH VOICED SOUND MARK UPPER HALF,3MARK LOWER HALF"),
  (0x3036, "0CIRCLED POSTAL MARK,0IDEOGRAPHIC TELEGRAPH LINE FEED SEPARATOR SYMBOL"),
  (0x3038, "0HANGZHOU NUMERAL TEN,2TWENTY,2THIRTY,0VERTICAL IDEOGRAPHIC ITERATION MARK"),
  (0x303c, "0MASU MARK,0PART ALTERNATION MARK,0IDEOGRAPHIC VARIATION INDICATOR,1HALF FILL SPACE"),
  (0x3041, "0HIRAGANA LETTER SMALL A,2A,2SMALL I,2I,2SMALL U,2U,2SMALL E,2E,2SMALL O,2O,2KA,2GA"),
  (0x304d, "2KI,2GI,2KU,2GU,2KE,2GE,2KO,2GO,2SA,2ZA,2SI,2ZI,2SU,2ZU,2SE,2ZE,2SO,2ZO,2TA,2DA,2TI"),
  (0x3062, "2DI,2SMALL TU,2TU,2DU,2TE,2DE,2TO,2DO,2NA,2NI,2NU,2NE,2NO,2HA,2BA,2PA,2HI,2BI,2PI"),
  (0x3075, "2HU,2BU,2PU,2HE,2BE,2PE,2HO,2BO,2PO,2MA,2MI,2MU,2ME,2MO,2SMALL YA,2YA,2SMALL YU,2YU"),
  (0x3087, "2SMALL YO,2YO,2RA,2RI,2RU,2RE,2RO,2SMALL WA,2WA,2WI,2WE,2WO,2N,2VU,2SMALL KA,3KE"),
  (0x3099, "0COMBINING KATAKANA-HIRAGANA VOICED SOUND MARK,2SEMI-VOICED SOUND MARK"),
  (0x309b, "0KATAKANA-HIRAGANA VOICED SOUND MARK,1SEMI-VOICED SOUND MARK"),
  (0x309d, "0HIRAGANA ITERATION MARK,1VOICED ITERATION MARK,1DIGRAPH YORI"),
  (0x30a0, "0KATAKANA-HIRAGANA DOUBLE HYPHEN,0KATAKANA LETTER SMALL A,2A,2SMALL I,2I,2SMALL U,2U"),
  (0x30a7, "2SMALL E,2E,2SMALL O,2O,2KA,2GA,2KI,2GI,2KU,2GU,2KE,2GE,2KO,2GO,2SA,2ZA,2SI,2ZI,2SU"),
  (0x30ba, "2ZU,2SE,2ZE,2SO,2ZO,2TA,2DA,2TI,2DI,2SMALL TU,2TU,2DU,2TE,2DE,2TO,2DO,2NA,2NI,2NU"),
  (0x30cd, "2NE,2NO,2HA,2BA,2PA,2HI,2BI,2PI,2HU,2BU,2PU,2HE,2BE,2PE,2HO,2BO,2PO,2MA,2MI,2MU,2ME"),
  (0x30e2, "2MO,2SMALL YA,2YA,2SMALL YU,2YU,2SMALL YO,2YO,2RA,2RI,2RU,2RE,2RO,2SMALL WA,2WA,2WI"),
  (0x30f1, "2WE,2WO,2N,2VU,2SMALL KA,3KE,2VA,2VI,2VE,2VO,1MIDDLE DOT"),
  (0x30fc, "0KATAKANA-HIRAGANA PROLONGED SOUND MARK,0KATAKANA ITERATION MARK"),
  (0x30fe, "1VOICED ITERATION MARK,1DIGRAPH KOTO")]

/-- The names of punctuation, letter-like signs, numerals and arrows, each row behind its first character. -/
def punctuationNames : List (Nat × String) := [
  (0x2000, "0EN QUAD,0EM QUAD,0EN SPACE,0EM SPACE,0THREE-PER-EM SPACE,0FOUR-PER-EM SPACE"),
  (0x2006, "0SIX-PER-EM SPACE,0FIGURE SPACE,0PUNCTUATION SPACE,0THIN SPACE,0HAIR SPACE"),
  (0x200b, "0ZERO WIDTH SPACE,2NON-JOINER,2JOINER,0LEFT-TO-RIGHT MARK,0RIGHT-TO-LEFT MARK"),
  (0x2010, "0HYPHEN,0NON-BREAKING HYPHEN,0FIGURE DASH,0EN DASH,0EM DASH,0HORIZONTAL BAR"),
  (0x2016, "0DOUBLE VERTICAL LINE,1LOW LINE,0LEFT SINGLE QUOTATION MARK"),
  (0x2019, "0RIGHT SINGLE QUOTATION MARK,0SINGLE LOW-9 QUOTATION MARK"),
  (0x201b, "1HIGH-REVERSED-9 QUOTATION MARK,0LEFT DOUBLE QUOTATION MARK"),
  (0x201d, "0RIGHT DOUBLE QUOTATION MARK,0DOUBLE LOW-9 QUOTATION MARK"),
  (0x201f, "1HIGH-REVERSED-9 QUOTATION MARK,0DAGGER,0DOUBLE DAGGER,0BULLET,0TRIANGULAR BULLET"),
  (0x2024, "0ONE DOT LEADER,0TWO DOT LEADER,0HORIZONTAL ELLIPSIS,0HYPHENATION POINT"),
  (0x2028, "0LINE SEPARATOR,0PARAGRAPH SEPARATOR,0LEFT-TO-RIGHT EMBEDDING"),
  (0x202b, "0RIGHT-TO-LEFT EMBEDDING,0POP DIRECTIONAL FORMATTING,0LEFT-TO-RIGHT OVERRIDE"),
  (0x202e, "0RIGHT-TO-LEFT OVERRIDE,0NARROW NO-BREAK SPACE,0PER MILLE SIGN,1TEN THOUSAND SIGN"),
  (0x2032, "0PRIME,0DOUBLE PRIME,0TRIPLE PRIME,0REVERSED PRIME,1DOUBLE PRIME,1TRIPLE PRIME"),
  (0x2038, "0CARET,0SINGLE LEFT-POINTING ANGLE QUOTATION MARK"),
  (0x203a, "1RIGHT-POINTING ANGLE QUOTATION MARK,0REFERENCE MARK,0DOUBLE EXCLAMATION MARK"),
  (0x203d, "0INTERROBANG,0OVERLINE,0UNDERTIE,0CHARACTER TIE,0CARET INSERTION POINT,0ASTERISM"),
  (0x2043, "0HYPHEN BULLET,0FRACTION SLASH,0LEFT SQUARE BRACKET WITH QUILL"),
  (0x2046, "0RIGHT SQUARE BRACKET WITH QUILL,0DOUBLE QUESTION MARK,0QUESTION EXCLAMATION MARK"),
  (0x2049, "0EXCLAMATION QUESTION MARK,0TIRONIAN SIGN ET,0REVERSED PILCROW SIGN"),
  (0x204c, "0BLACK LEFTWARDS BULLET,1RIGHTWARDS BULLET,0LOW ASTERISK,0REVERSED SEMICOLON"),
  (0x2050, "0CLOSE UP,0TWO ASTERISKS ALIGNED VERTICALLY,0COMMERCIAL MINUS SIGN,0SWUNG DASH"),
  (0x2054, "0INVERTED UNDERTIE,0FLOWER PUNCTUATION MARK,0THREE DOT PUNCTUATION,0QUADRUPLE PRIME"),
  (0x2058, "0FOUR DOT PUNCTUATION,0FIVE DOT PUNCTUATION,0TWO DOT PUNCTUATION,0FOUR DOT MARK"),
  (0x205c, "0DOTTED CROSS,0TRICOLON,0VERTICAL FOUR DOTS,0MEDIUM MATHEMATICAL SPACE,0WORD JOINER"),
  (0x2061, "0FUNCTION APPLICATION,0INVISIBLE TIMES,1SEPARATOR,1PLUS"),
  (0x2066, "0LEFT-TO-RIGHT ISOLATE,0RIGHT-TO-LEFT ISOLATE,0FIRST STRONG ISOLATE"),
  (0x2069, "0POP DIRECTIONAL ISOLATE,0INHIBIT SYMMETRIC SWAPPING,0ACTIVATE SYMMETRIC SWAPPING"),
  (0x206c, "0INHIBIT ARABIC FORM SHAPING,0ACTIVATE ARABIC FORM SHAPING,0NATIONAL DIGIT SHAPES"),
  (0x206f, "0NOMINAL DIGIT SHAPES,0SUPERSCRIPT ZERO,1LATIN SMALL LETTER I"),
  (0x2074, "1FOUR,1FIVE,1SIX,1SEVEN,1EIGHT,1NINE,1PLUS SIGN,1MINUS,1EQUALS SIGN"),
  (0x207d, "1LEFT PARENTHESIS,1RIGHT PARENTHESIS,1LATIN SMALL LETTER N,0SUBSCRIPT ZERO,1ONE,1TWO"),
  (0x2083, "1THREE,1FOUR,1FIVE,1SIX,1SEVEN,1EIGHT,1NINE,1PLUS SIGN,1MINUS,1EQUALS SIGN"),
  (0x208d, "1LEFT PARENTHESIS,1RIGHT PARENTHESIS"),
  (0x2090, "0LATIN SUBSCRIPT SMALL LETTER A,4E,4O,4X,4SCHWA,4H,4K,4L,4M,4N,4P,4S,4T"),
  (0x20a0, "0EURO-CURRENCY SIGN,0COLON SIGN,0CRUZEIRO SIGN,0FRENCH FRANC SIGN,0LIRA SIGN"),
  (0x20a5, "0MILL SIGN,0NAIRA SIGN,0PESETA SIGN,0RUPEE SIGN,0WON SIGN,0NEW SHEQEL SIGN"),
  (0x20ab, "0DONG SIGN,0EURO SIGN,0KIP SIGN,0TUGRIK SIGN,0DRACHMA SIGN,0GERMAN PENNY SIGN"),
  (0x20b1, "0PESO SIGN,0GUARANI SIGN,0AUSTRAL SIGN,0HRYVNIA SIGN,0CEDI SIGN,0LIVRE TOURNOIS SIGN"),
  (0x20b7, "0SPESMILO SIGN,0TENGE SIGN,0INDIAN RUPEE SIGN,0TURKISH LIRA SIGN,0NORDIC MARK SIGN"),
  (0x20bc, "0MANAT SIGN,0RUBLE SIGN,0LARI SIGN,0BITCOIN SIGN,0SOM SIGN"),
  (0x20d0, "0COMBINING LEFT HARPOON ABOVE,1RIGHT HARPOON ABOVE,1LONG VERTICAL LINE OVERLAY"),
  (0x20d3, "1SHORT VERTICAL LINE OVERLAY,1ANTICLOCKWISE ARROW ABOVE,1CLOCKWISE ARROW ABOVE"),
  (0x20d6, "1LEFT ARROW ABOVE,1RIGHT ARROW ABOVE,1RING OVERLAY,1CLOCKWISE RING OVERLAY"),
  (0x20da, "1ANTICLOCKWISE RING OVERLAY,1THREE DOTS ABOVE,1FOUR DOTS ABOVE,1ENCLOSING CIRCLE"),
  (0x20de, "2SQUARE,2DIAMOND,2CIRCLE BACKSLASH,1LEFT RIGHT ARROW ABOVE,1ENCLOSING SCREEN,2KEYCAP"),
  (0x20e4, "2UPWARD POINTING TRIANGLE,1REVERSE SOLIDUS OVERLAY,1DOUBLE VERTICAL STROKE OVERLAY"),
  (0x20e7, "1ANNUITY SYMBOL,1TRIPLE UNDERDOT,1WIDE BRIDGE ABOVE,1LEFTWARDS ARROW OVERLAY"),
  (0x20eb, "1LONG DOUBLE SOLIDUS OVERLAY,1RIGHTWARDS HARPOON WITH BARB DOWNWARDS"),
  (0x20ed, "1LEFTWARDS HARPOON WITH BARB DOWNWARDS,1LEFT ARROW BELOW,1RIGHT ARROW BELOW"),
  (0x20f0, "1ASTERISK ABOVE"),
  (0x2100, "0ACCOUNT OF,0ADDRESSED TO THE SUBJECT,0DOUBLE-STRUCK CAPITAL C,0DEGREE CELSIUS"),
  (0x2104, "0CENTRE LINE SYMBOL,0CARE OF,0CADA UNA,0EULER CONSTANT,0SCRUPLE,0DEGREE FAHRENHEIT"),
  (0x210a, "0SCRIPT SMALL G,1CAPITAL H,0BLACK-LETTER CAPITAL H,0DOUBLE-STRUCK CAPITAL H"),
  (0x210e, "0PLANCK CONSTANT,2OVER TWO PI,0SCRIPT CAPITAL I,0BLACK-LETTER CAPITAL I"),
  (0x2112, "0SCRIPT CAPITAL L,1SMALL L,0L B BAR SYMBOL,0DOUBLE-STRUCK CAPITAL N,0NUMERO SIGN"),
  (0x2117, "0SOUND RECORDING COPYRIGHT,0SCRIPT CAPITAL P,0DOUBLE-STRUCK CAPITAL P,2Q"),
  (0x211b, "0SCRIPT CAPITAL R,0BLACK-LETTER CAPITAL R,0DOUBLE-STRUCK CAPITAL R"),
  (0x211e, "0PRESCRIPTION TAKE,0RESPONSE,0SERVICE MARK,0TELEPHONE SIGN,0TRADE MARK SIGN"),
  (0x2123, "0VERSICLE,0DOUBLE-STRUCK CAPITAL Z,0OUNCE SIGN,0OHM SIGN,0INVERTED OHM SIGN"),
  (0x2128, "0BLACK-LETTER CAPITAL Z,0TURNED GREEK SMALL LETTER IOTA,0KELVIN SIGN,0ANGSTROM SIGN"),
  (0x212c, "0SCRIPT CAPITAL B,0BLACK-LETTER CAPITAL C,0ESTIMATED SYMBOL,0SCRIPT SMALL E"),
  (0x2130, "1CAPITAL E,2F,0TURNED CAPITAL F,0SCRIPT CAPITAL M,1SMALL O,0ALEF SYMBOL,0BET SYMBOL"),
  (0x2137, "0GIMEL SYMBOL,0DALET SYMBOL,0INFORMATION SOURCE,0ROTATED CAPITAL Q,0FACSIMILE SIGN"),
  (0x213c, "0DOUBLE-STRUCK SMALL PI,2GAMMA,1CAPITAL GAMMA,2PI,1N-ARY SUMMATION"),
  (0x2141, "0TURNED SANS-SERIF CAPITAL G,3L,0REVERSED SANS-SERIF CAPITAL L"),
  (0x2144, "0TURNED SANS-SERIF CAPITAL Y,0DOUBLE-STRUCK ITALIC CAPITAL D,2SMALL D,3E,3I,3J"),
  (0x214a, "0PROPERTY LINE,0TURNED AMPERSAND,0PER SIGN,0AKTIESELSKAB,0TURNED SMALL F"),
  (0x214f, "0SYMBOL FOR SAMARITAN SOURCE,0VULGAR FRACTION ONE SEVENTH,3NINTH,3TENTH,3THIRD"),
  (0x2154, "2TWO THIRDS,2ONE FIFTH,2TWO FIFTHS,2THREE FIFTHS,2FOUR FIFTHS,2ONE SIXTH"),
  (0x215a, "2FIVE SIXTHS,2ONE EIGHTH,2THREE EIGHTHS,2FIVE EIGHTHS,2SEVEN EIGHTHS"),
  (0x215f, "0FRACTION NUMERATOR ONE,0ROMAN NUMERAL ONE,2TWO,2THREE,2FOUR,2FIVE,2SIX,2SEVEN"),
  (0x2167, "2EIGHT,2NINE,2TEN,2ELEVEN,2TWELVE,2FIFTY,2ONE HUNDRED,2FIVE HUNDRED,2ONE THOUSAND"),
  (0x2170, "0SMALL ROMAN NUMERAL ONE,3TWO,3THREE,3FOUR,3FIVE,3SIX,3SEVEN,3EIGHT,3NINE,3TEN"),
  (0x217a, "3ELEVEN,3TWELVE,3FIFTY,3ONE HUNDRED,3FIVE HUNDRED,3ONE THOUSAND"),
  (0x2180, "0ROMAN NUMERAL ONE THOUSAND C D,2FIVE THOUSAND,2TEN THOUSAND,2REVERSED ONE HUNDRED"),
  (0x2184, "0LATIN SMALL LETTER REVERSED C,0ROMAN NUMERAL SIX LATE FORM,2FIFTY EARLY FORM"),
  (0x2187, "3THOUSAND,2ONE HUNDRED THOUSAND,0VULGAR FRACTION ZERO THIRDS,0TURNED DIGIT TWO"),
  (0x218b, "2THREE"),
  (0x2190, "0LEFTWARDS ARROW,0UPWARDS ARROW,0RIGHTWARDS ARROW,0DOWNWARDS ARROW,0LEFT RIGHT ARROW"),
  (0x2195, "0UP DOWN ARROW,0NORTH WEST ARROW,1EAST ARROW,0SOUTH EAST ARROW,1WEST ARROW"),
  (0x219a, "0LEFTWARDS ARROW WITH STROKE,0RIGHTWARDS ARROW WITH STROKE,0LEFTWARDS WAVE ARROW"),
  (0x219d, "0RIGHTWARDS WAVE ARROW,0LEFTWARDS TWO HEADED ARROW,0UPWARDS TWO HEADED ARROW"),
  (0x21a0, "0RIGHTWARDS TWO HEADED ARROW,0DOWNWARDS TWO HEADED ARROW,0LEFTWARDS ARROW WITH TAIL"),
  (0x21a3, "0RIGHTWARDS ARROW WITH TAIL,0LEFTWARDS ARROW FROM BAR,0UPWARDS ARROW FROM BAR"),
  (0x21a6, "0RIGHTWARDS ARROW FROM BAR,0DOWNWARDS ARROW FROM BAR,0UP DOWN ARROW WITH BASE"),
  (0x21a9, "0LEFTWARDS ARROW WITH HOOK,0RIGHTWARDS ARROW WITH HOOK,0LEFTWARDS ARROW WITH LOOP"),
  (0x21ac, "0RIGHTWARDS ARROW WITH LOOP,0LEFT RIGHT WAVE ARROW,2ARROW WITH STROKE"),
  (0x21af, "0DOWNWARDS ZIGZAG ARROW,0UPWARDS ARROW WITH TIP LEFTWARDS,4RIGHTWARDS"),
  (0x21b2, "0DOWNWARDS ARROW WITH TIP LEFTWARDS,4RIGHTWARDS"),
  (0x21b4, "0RIGHTWARDS ARROW WITH CORNER DOWNWARDS,0DOWNWARDS ARROW WITH CORNER LEFTWARDS"),
  (0x21b6, "0ANTICLOCKWISE TOP SEMICIRCLE ARROW,0CLOCKWISE TOP SEMICIRCLE ARROW"),
  (0x21b8, "0NORTH WEST ARROW TO LONG BAR,0LEFTWARDS ARROW TO BAR OVER RIGHTWARDS ARROW TO BAR"),
  (0x21ba, "0ANTICLOCKWISE OPEN CIRCLE ARROW,0CLOCKWISE OPEN CIRCLE ARROW"),
  (0x21bc, "0LEFTWARDS HARPOON WITH BARB UPWARDS,4DOWNWARDS"),
  (0x21be, "0UPWARDS HARPOON WITH BARB RIGHTWARDS,4LEFTWARDS"),
  (0x21c0, "0RIGHTWARDS HARPOON WITH BARB UPWARDS,4DOWNWARDS"),
  (0x21c2, "0DOWNWARDS HARPOON WITH BARB RIGHTWARDS,4LEFTWARDS"),
  (0x21c4, "0RIGHTWARDS ARROW OVER LEFTWARDS ARROW,0UPWARDS ARROW LEFTWARDS OF DOWNWARDS ARROW"),
  (0x21c6, "0LEFTWARDS ARROW OVER RIGHTWARDS ARROW,1PAIRED ARROWS,0UPWARDS PAIRED ARROWS"),
  (0x21c9, "0RIGHTWARDS PAIRED ARROWS,0DOWNWARDS PAIRED ARROWS"),
  (0x21cb, "0LEFTWARDS HARPOON OVER RIGHTWARDS HARPOON"),
  (0x21cc, "0RIGHTWARDS HARPOON OVER LEFTWARDS HARPOON,0LEFTWARDS DOUBLE ARROW WITH STROKE"),
  (0x21ce, "0LEFT RIGHT DOUBLE ARROW WITH STROKE,0RIGHTWARDS DOUBLE ARROW WITH STROKE"),
  (0x21d0, "0LEFTWARDS DOUBLE ARROW,0UPWARDS DOUBLE ARROW,0RIGHTWARDS DOUBLE ARROW"),
  (0x21d3, "0DOWNWARDS DOUBLE ARROW,0LEFT RIGHT DOUBLE ARROW,0UP DOWN DOUBLE ARROW"),
  (0x21d6, "0NORTH WEST DOUBLE ARROW,1EAST DOUBLE ARROW,0SOUTH EAST DOUBLE ARROW"),
  (0x21d9, "1WEST DOUBLE ARROW,0LEFTWARDS TRIPLE ARROW,0RIGHTWARDS TRIPLE ARROW"),
  (0x21dc, "0LEFTWARDS SQUIGGLE ARROW,0RIGHTWARDS SQUIGGLE ARROW"),
  (0x21de, "0UPWARDS ARROW WITH DOUBLE STROKE,0DOWNWARDS ARROW WITH DOUBLE STROKE"),
  (0x21e0, "0LEFTWARDS DASHED ARROW,0UPWARDS DASHED ARROW,0RIGHTWARDS DASHED ARROW"),
  (0x21e3, "0DOWNWARDS DASHED ARROW,0LEFTWARDS ARROW TO BAR,0RIGHTWARDS ARROW TO BAR"),
  (0x21e6, "0LEFTWARDS WHITE ARROW,0UPWARDS WHITE ARROW,0RIGHTWARDS WHITE ARROW"),
  (0x21e9, "0DOWNWARDS WHITE ARROW,0UPWARDS WHITE ARROW FROM BAR,3ON PEDESTAL"),
  (0x21ec, "5WITH HORIZONTAL BAR,6VERTICAL BAR,2DOUBLE ARROW,4ON PEDESTAL"),
  (0x21f0, "0RIGHTWARDS WHITE ARROW FROM WALL,0NORTH WEST ARROW TO CORNER"),
  (0x21f2, "0SOUTH EAST ARROW TO CORNER,0UP DOWN WHITE ARROW,0RIGHT ARROW WITH SMALL CIRCLE"),
  (0x21f5, "0DOWNWARDS ARROW LEFTWARDS OF UPWARDS ARROW,0THREE RIGHTWARDS ARROWS"),
  (0x21f7, "0LEFTWARDS ARROW WITH VERTICAL STROKE,0RIGHTWARDS ARROW WITH VERTICAL STROKE"),
  (0x21f9, "0LEFT RIGHT ARROW WITH VERTICAL STROKE,0LEFTWARDS ARROW WITH DOUBLE VERTICAL STROKE"),
  (0x21fb, "0RIGHTWARDS ARROW WITH DOUBLE VERTICAL STROKE"),
  (0x21fc, "0LEFT RIGHT ARROW WITH DOUBLE VERTICAL STROKE,0LEFTWARDS OPEN-HEADED ARROW"),
  (0x21fe, "0RIGHTWARDS OPEN-HEADED ARROW,0LEFT RIGHT OPEN-HEADED ARROW"),
  (0x2e00, "0RIGHT ANGLE SUBSTITUTION MARKER,2DOTTED SUBSTITUTION MARKER"),
  (0x2e02, "0LEFT SUBSTITUTION BRACKET,0RIGHT SUBSTITUTION BRACKET"),
  (0x2e04, "0LEFT DOTTED SUBSTITUTION BRACKET,0RIGHT DOTTED SUBSTITUTION BRACKET"),
  (0x2e06, "0RAISED INTERPOLATION MARKER,1DOTTED INTERPOLATION MARKER"),
  (0x2e08, "0DOTTED TRANSPOSITION MARKER,0LEFT TRANSPOSITION BRACKET"),
  (0x2e0a, "0RIGHT TRANSPOSITION BRACKET,0RAISED SQUARE,0LEFT RAISED OMISSION BRACKET"),
  (0x2e0d, "0RIGHT RAISED OMISSION BRACKET,0EDITORIAL CORONIS,0PARAGRAPHOS,0FORKED PARAGRAPHOS"),
  (0x2e11, "0REVERSED FORKED PARAGRAPHOS,0HYPODIASTOLE,0DOTTED OBELOS,0DOWNWARDS ANCORA"),
  (0x2e15, "0UPWARDS ANCORA,0DOTTED RIGHT-POINTING ANGLE,0DOUBLE OBLIQUE HYPHEN"),
  (0x2e18, "0INVERTED INTERROBANG,0PALM BRANCH,0HYPHEN WITH DIAERESIS,0TILDE WITH RING ABOVE"),
  (0x2e1c, "0LEFT LOW PARAPHRASE BRACKET,0RIGHT LOW PARAPHRASE BRACKET,0TILDE WITH DOT ABOVE"),
  (0x2e1f, "3BELOW,0LEFT VERTICAL BAR WITH QUILL,0RIGHT VERTICAL BAR WITH QUILL"),
  (0x2e22, "0TOP LEFT HALF BRACKET,1RIGHT HALF BRACKET,0BOTTOM LEFT HALF BRACKET"),
  (0x2e25, "1RIGHT HALF BRACKET,0LEFT SIDEWAYS U BRACKET,0RIGHT SIDEWAYS U BRACKET"),
  (0x2e28, "0LEFT DOUBLE PARENTHESIS,0RIGHT DOUBLE PARENTHESIS"),
  (0x2e2a, "0TWO DOTS OVER ONE DOT PUNCTUATION,0ONE DOT OVER TWO DOTS PUNCTUATION"),
  (0x2e2c, "0SQUARED FOUR DOT PUNCTUATION,0FIVE DOT MARK,0REVERSED QUESTION MARK,0VERTICAL TILDE"),
  (0x2e30, "0RING POINT,0WORD SEPARATOR MIDDLE DOT,0TURNED COMMA,0RAISED DOT,1COMMA"),
  (0x2e35, "0TURNED SEMICOLON,0DAGGER WITH LEFT GUARD,2RIGHT GUARD,0TURNED DAGGER"),
  (0x2e39, "0TOP HALF SECTION SIGN,0TWO-EM DASH,0THREE-EM DASH,0STENOGRAPHIC FULL STOP"),
  (0x2e3d, "0VERTICAL SIX DOTS,0WIGGLY VERTICAL LINE,0CAPITULUM,0DOUBLE HYPHEN,0REVERSED COMMA"),
  (0x2e42, "0DOUBLE LOW-REVERSED-9 QUOTATION MARK,0DASH WITH LEFT UPTURN,0DOUBLE SUSPENSION MARK"),
  (0x2e45, "0INVERTED LOW KAVYKA,3WITH KAVYKA ABOVE,0LOW KAVYKA,2WITH DOT,0DOUBLE STACKED COMMA"),
  (0x2e4a, "0DOTTED SOLIDUS,0TRIPLE DAGGER,0MEDIEVAL COMMA,0PARAGRAPHUS MARK"),
  (0x2e4e, "0PUNCTUS ELEVATUS MARK,0CORNISH VERSE DIVIDER,0CROSS PATTY WITH RIGHT CROSSBAR"),
  (0x2e51, "3LEFT CROSSBAR,0TIRONIAN SIGN CAPITAL ET,0MEDIEVAL EXCLAMATION MARK,1QUESTION MARK"),
  (0x2e55, "0LEFT SQUARE BRACKET WITH STROKE,0RIGHT SQUARE BRACKET WITH STROKE"),
  (0x2e57, "0LEFT SQUARE BRACKET WITH DOUBLE STROKE,0RIGHT SQUARE BRACKET WITH DOUBLE STROKE"),
  (0x2e59, "0TOP HALF LEFT PARENTHESIS,2RIGHT PARENTHESIS,0BOTTOM HALF LEFT PARENTHESIS"),
  (0x2e5c, "2RIGHT PARENTHESIS,0OBLIQUE HYPHEN"),
  (0xfe00, "0VARIATION SELECTOR-1,1SELECTOR-2,1SELECTOR-3,1SELECTOR-4,1SELECTOR-5,1SELECTOR-6"),
  (0xfe06, "1SELECTOR-7,1SELECTOR-8,1SELECTOR-9,1SELECTOR-10,1SELECTOR-11,1SELECTOR-12"),
  (0xfe0c, "1SELECTOR-13,1SELECTOR-14,1SELECTOR-15,1SELECTOR-16")]

/-- The names of mathematical and technical signs, boxes and shapes, each row behind its first character. -/
def technicalNames : List (Nat × String) := [
  (0x2200, "0FOR ALL,0COMPLEMENT,0PARTIAL DIFFERENTIAL,0THERE EXISTS,1DOES NOT EXIST,0EMPTY SET"),
  (0x2206, "0INCREMENT,0NABLA,0ELEMENT OF,0NOT AN ELEMENT OF,0SMALL ELEMENT OF"),
  (0x220b, "0CONTAINS AS MEMBER,0DOES NOT CONTAIN AS MEMBER,0SMALL CONTAINS AS MEMBER"),
  (0x220e, "0END OF PROOF,0N-ARY PRODUCT,1COPRODUCT,1SUMMATION,0MINUS SIGN,0MINUS-OR-PLUS SIGN"),
  (0x2214, "0DOT PLUS,0DIVISION SLASH,0SET MINUS,0ASTERISK OPERATOR,0RING OPERATOR"),
  (0x2219, "0BULLET OPERATOR,0SQUARE ROOT,0CUBE ROOT,0FOURTH ROOT,0PROPORTIONAL TO,0INFINITY"),
  (0x221f, "0RIGHT ANGLE,0ANGLE,0MEASURED ANGLE,0SPHERICAL ANGLE,0DIVIDES,0DOES NOT DIVIDE"),
  (0x2225, "0PARALLEL TO,0NOT PARALLEL TO,0LOGICAL AND,1OR,0INTERSECTION,0UNION,0INTEGRAL"),
  (0x222c, "0DOUBLE INTEGRAL,0TRIPLE INTEGRAL,0CONTOUR INTEGRAL,0SURFACE INTEGRAL"),
  (0x2230, "0VOLUME INTEGRAL,0CLOCKWISE INTEGRAL,1CONTOUR INTEGRAL"),
  (0x2233, "0ANTICLOCKWISE CONTOUR INTEGRAL,0THEREFORE,0BECAUSE,0RATIO,0PROPORTION,0DOT MINUS"),
  (0x2239, "0EXCESS,0GEOMETRIC PROPORTION,0HOMOTHETIC,0TILDE OPERATOR,0REVERSED TILDE"),
  (0x223e, "0INVERTED LAZY S,0SINE WAVE,0WREATH PRODUCT,0NOT TILDE,0MINUS TILDE"),
  (0x2243, "0ASYMPTOTICALLY EQUAL TO,0NOT ASYMPTOTICALLY EQUAL TO,0APPROXIMATELY EQUAL TO"),
  (0x2246, "1BUT NOT ACTUALLY EQUAL TO,0NEITHER APPROXIMATELY NOR ACTUALLY EQUAL TO"),
  (0x2248, "0ALMOST EQUAL TO,0NOT ALMOST EQUAL TO,0ALMOST EQUAL OR EQUAL TO,0TRIPLE TILDE"),
  (0x224c, "0ALL EQUAL TO,0EQUIVALENT TO,0GEOMETRICALLY EQUIVALENT TO,0DIFFERENCE BETWEEN"),
  (0x2250, "0APPROACHES THE LIMIT,0GEOMETRICALLY EQUAL TO"),
  (0x2252, "0APPROXIMATELY EQUAL TO OR THE IMAGE OF,0IMAGE OF OR APPROXIMATELY EQUAL TO"),
  (0x2254, "0COLON EQUALS,0EQUALS COLON,0RING IN EQUAL TO,1EQUAL TO,0CORRESPONDS TO,0ESTIMATES"),
  (0x225a, "0EQUIANGULAR TO,0STAR EQUALS,0DELTA EQUAL TO,0EQUAL TO BY DEFINITION,0MEASURED BY"),
  (0x225f, "0QUESTIONED EQUAL TO,0NOT EQUAL TO,0IDENTICAL TO,0NOT IDENTICAL TO"),
  (0x2263, "0STRICTLY EQUIVALENT TO,0LESS-THAN OR EQUAL TO,0GREATER-THAN OR EQUAL TO"),
  (0x2266, "0LESS-THAN OVER EQUAL TO,0GREATER-THAN OVER EQUAL TO,0LESS-THAN BUT NOT EQUAL TO"),
  (0x2269, "0GREATER-THAN BUT NOT EQUAL TO,0MUCH LESS-THAN,1GREATER-THAN,0BETWEEN"),
  (0x226d, "0NOT EQUIVALENT TO,1LESS-THAN,1GREATER-THAN,0NEITHER LESS-THAN NOR EQUAL TO"),
  (0x2271, "1GREATER-THAN NOR EQUAL TO,0LESS-THAN OR EQUIVALENT TO"),
  (0x2273, "0GREATER-THAN OR EQUIVALENT TO,0NEITHER LESS-THAN NOR EQUIVALENT TO"),
  (0x2275, "1GREATER-THAN NOR EQUIVALENT TO,0LESS-THAN OR GREATER-THAN"),
  (0x2277, "0GREATER-THAN OR LESS-THAN,0NEITHER LESS-THAN NOR GREATER-THAN"),
  (0x2279, "1GREATER-THAN NOR LESS-THAN,0PRECEDES,0SUCCEEDS,0PRECEDES OR EQUAL TO"),
  (0x227d, "0SUCCEEDS OR EQUAL TO,0PRECEDES OR EQUIVALENT TO,0SUCCEEDS OR EQUIVALENT TO"),
  (0x2280, "0DOES NOT PRECEDE,2SUCCEED,0SUBSET OF,0SUPERSET OF,0NOT A SUBSET OF,2SUPERSET OF"),
  (0x2286, "0SUBSET OF OR EQUAL TO,0SUPERSET OF OR EQUAL TO,0NEITHER A SUBSET OF NOR EQUAL TO"),
  (0x2289, "2SUPERSET OF NOR EQUAL TO,0SUBSET OF WITH NOT EQUAL TO"),
  (0x228b, "0SUPERSET OF WITH NOT EQUAL TO,0MULTISET,1MULTIPLICATION,1UNION,0SQUARE IMAGE OF"),
  (0x2290, "1ORIGINAL OF,1IMAGE OF OR EQUAL TO,1ORIGINAL OF OR EQUAL TO,1CAP,1CUP,0CIRCLED PLUS"),
  (0x2296, "1MINUS,1TIMES,1DIVISION SLASH,1DOT OPERATOR,1RING OPERATOR,1ASTERISK OPERATOR"),
  (0x229c, "1EQUALS,1DASH,0SQUARED PLUS,1MINUS,1TIMES,1DOT OPERATOR,0RIGHT TACK,0LEFT TACK"),
  (0x22a4, "0DOWN TACK,0UP TACK,0ASSERTION,0MODELS,0TRUE,0FORCES"),
  (0x22aa, "0TRIPLE VERTICAL BAR RIGHT TURNSTILE,0DOUBLE VERTICAL BAR DOUBLE RIGHT TURNSTILE"),
  (0x22ac, "0DOES NOT PROVE,0NOT TRUE,0DOES NOT FORCE"),
  (0x22af, "0NEGATED DOUBLE VERTICAL BAR DOUBLE RIGHT TURNSTILE,0PRECEDES UNDER RELATION"),
  (0x22b1, "0SUCCEEDS UNDER RELATION,0NORMAL SUBGROUP OF,0CONTAINS AS NORMAL SUBGROUP"),
  (0x22b4, "0NORMAL SUBGROUP OF OR EQUAL TO,0CONTAINS AS NORMAL SUBGROUP OR EQUAL TO"),
  (0x22b6, "0ORIGINAL OF,0IMAGE OF,0MULTIMAP,0HERMITIAN CONJUGATE MATRIX,0INTERCALATE,0XOR,0NAND"),
  (0x22bd, "0NOR,0RIGHT ANGLE WITH ARC,1TRIANGLE,0N-ARY LOGICAL AND,2OR,1INTERSECTION,1UNION"),
  (0x22c4, "0DIAMOND OPERATOR,0DOT OPERATOR,0STAR OPERATOR,0DIVISION TIMES,0BOWTIE"),
  (0x22c9, "0LEFT NORMAL FACTOR SEMIDIRECT PRODUCT,0RIGHT NORMAL FACTOR SEMIDIRECT PRODUCT"),
  (0x22cb, "0LEFT SEMIDIRECT PRODUCT,0RIGHT SEMIDIRECT PRODUCT,0REVERSED TILDE EQUALS"),
  (0x22ce, "0CURLY LOGICAL OR,2AND,0DOUBLE SUBSET,1SUPERSET,1INTERSECTION,1UNION,0PITCHFORK"),
  (0x22d5, "0EQUAL AND PARALLEL TO,0LESS-THAN WITH DOT,0GREATER-THAN WITH DOT"),
  (0x22d8, "0VERY MUCH LESS-THAN,2GREATER-THAN,0LESS-THAN EQUAL TO OR GREATER-THAN"),
  (0x22db, "0GREATER-THAN EQUAL TO OR LESS-THAN,0EQUAL TO OR LESS-THAN,3GREATER-THAN,3PRECEDES"),
  (0x22df, "3SUCCEEDS,0DOES NOT PRECEDE OR EQUAL,2SUCCEED OR EQUAL"),
  (0x22e2, "0NOT SQUARE IMAGE OF OR EQUAL TO,2ORIGINAL OF OR EQUAL TO"),
  (0x22e4, "0SQUARE IMAGE OF OR NOT EQUAL TO,1ORIGINAL OF OR NOT EQUAL TO"),
  (0x22e6, "0LESS-THAN BUT NOT EQUIVALENT TO,0GREATER-THAN BUT NOT EQUIVALENT TO"),
  (0x22e8, "0PRECEDES BUT NOT EQUIVALENT TO,0SUCCEEDS BUT NOT EQUIVALENT TO"),
  (0x22ea, "0NOT NORMAL SUBGROUP OF,0DOES NOT CONTAIN AS NORMAL SUBGROUP"),
  (0x22ec, "0NOT NORMAL SUBGROUP OF OR EQUAL TO,0DOES NOT CONTAIN AS NORMAL SUBGROUP OR EQUAL"),
  (0x22ee, "0VERTICAL ELLIPSIS,0MIDLINE HORIZONTAL ELLIPSIS,0UP RIGHT DIAGONAL ELLIPSIS"),
  (0x22f1, "0DOWN RIGHT DIAGONAL ELLIPSIS,0ELEMENT OF WITH LONG HORIZONTAL STROKE"),
  (0x22f3, "3VERTICAL BAR AT END OF HORIZONTAL STROKE"),
  (0x22f4, "0SMALL ELEMENT OF WITH VERTICAL BAR AT END OF HORIZONTAL STROKE"),
  (0x22f5, "0ELEMENT OF WITH DOT ABOVE,3OVERBAR,0SMALL ELEMENT OF WITH OVERBAR"),
  (0x22f8, "0ELEMENT OF WITH UNDERBAR,3TWO HORIZONTAL STROKES"),
  (0x22fa, "0CONTAINS WITH LONG HORIZONTAL STROKE,2VERTICAL BAR AT END OF HORIZONTAL STROKE"),
  (0x22fc, "0SMALL CONTAINS WITH VERTICAL BAR AT END OF HORIZONTAL STROKE,0CONTAINS WITH OVERBAR"),
  (0x22fe, "0SMALL CONTAINS WITH OVERBAR,0Z NOTATION BAG MEMBERSHIP,0DIAMETER SIGN"),
  (0x2301, "0ELECTRIC ARROW,0HOUSE,0UP ARROWHEAD,0DOWN ARROWHEAD,0PROJECTIVE,0PERSPECTIVE"),
  (0x2307, "0WAVY LINE,0LEFT CEILING,0RIGHT CEILING,0LEFT FLOOR,0RIGHT FLOOR,0BOTTOM RIGHT CROP"),
  (0x230d, "1LEFT CROP,0TOP RIGHT CROP,1LEFT CROP,0REVERSED NOT SIGN,0SQUARE LOZENGE,0ARC"),
  (0x2313, "0SEGMENT,0SECTOR,0TELEPHONE RECORDER,0POSITION INDICATOR,0VIEWDATA SQUARE"),
  (0x2318, "0PLACE OF INTEREST SIGN,0TURNED NOT SIGN,0WATCH,0HOURGLASS,0TOP LEFT CORNER"),
  (0x231d, "1RIGHT CORNER,0BOTTOM LEFT CORNER,1RIGHT CORNER,0TOP HALF INTEGRAL"),
  (0x2321, "0BOTTOM HALF INTEGRAL,0FROWN,0SMILE,0UP ARROWHEAD BETWEEN TWO HORIZONTAL BARS"),
  (0x2325, "0OPTION KEY,0ERASE TO THE RIGHT,0X IN A RECTANGLE BOX,0KEYBOARD"),
  (0x2329, "0LEFT-POINTING ANGLE BRACKET,0RIGHT-POINTING ANGLE BRACKET,0ERASE TO THE LEFT"),
  (0x232c, "0BENZENE RING,0CYLINDRICITY,0ALL AROUND-PROFILE,0SYMMETRY,0TOTAL RUNOUT"),
  (0x2331, "0DIMENSION ORIGIN,0CONICAL TAPER,0SLOPE,0COUNTERBORE,0COUNTERSINK"),
  (0x2336, "0APL FUNCTIONAL SYMBOL I-BEAM,3SQUISH QUAD,3QUAD EQUAL,4DIVIDE,4DIAMOND,4JOT,4CIRCLE"),
  (0x233d, "3CIRCLE STILE,4JOT,3SLASH BAR,3BACKSLASH BAR,3QUAD SLASH,4BACKSLASH,4LESS-THAN"),
  (0x2344, "4GREATER-THAN,3LEFTWARDS VANE,3RIGHTWARDS VANE,3QUAD LEFTWARDS ARROW"),
  (0x2348, "4RIGHTWARDS ARROW,3CIRCLE BACKSLASH,3DOWN TACK UNDERBAR,3DELTA STILE"),
  (0x234c, "3QUAD DOWN CARET,4DELTA,3DOWN TACK JOT,3UPWARDS VANE,3QUAD UPWARDS ARROW"),
  (0x2351, "3UP TACK OVERBAR,3DEL STILE,3QUAD UP CARET,4DEL,3UP TACK JOT,3DOWNWARDS VANE"),
  (0x2357, "3QUAD DOWNWARDS ARROW,3QUOTE UNDERBAR,3DELTA UNDERBAR,3DIAMOND UNDERBAR"),
  (0x235b, "3JOT UNDERBAR,3CIRCLE UNDERBAR,3UP SHOE JOT,3QUOTE QUAD,3CIRCLE STAR,3QUAD COLON"),
  (0x2361, "3UP TACK DIAERESIS,3DEL DIAERESIS,3STAR DIAERESIS,3JOT DIAERESIS,3CIRCLE DIAERESIS"),
  (0x2366, "3DOWN SHOE STILE,3LEFT SHOE STILE,3TILDE DIAERESIS,3GREATER-THAN DIAERESIS"),
  (0x236a, "3COMMA BAR,3DEL TILDE,3ZILDE,3STILE TILDE,3SEMICOLON UNDERBAR,3QUAD NOT EQUAL"),
  (0x2370, "4QUESTION,3DOWN CARET TILDE,3UP CARET TILDE,3IOTA,3RHO,3OMEGA,3ALPHA UNDERBAR"),
  (0x2377, "3EPSILON UNDERBAR,3IOTA UNDERBAR,3OMEGA UNDERBAR,3ALPHA,0NOT CHECK MARK"),
  (0x237c, "0RIGHT ANGLE WITH DOWNWARDS ZIGZAG ARROW,0SHOULDERED OPEN BOX,0BELL SYMBOL"),
  (0x237f, "0VERTICAL LINE WITH MIDDLE DOT,0INSERTION SYMBOL,0CONTINUOUS UNDERLINE SYMBOL"),
  (0x2382, "0DISCONTINUOUS UNDERLINE SYMBOL,0EMPHASIS SYMBOL,0COMPOSITION SYMBOL"),
  (0x2385, "0WHITE SQUARE WITH CENTRE VERTICAL LINE,0ENTER SYMBOL,0ALTERNATIVE KEY SYMBOL"),
  (0x2388, "0HELM SYMBOL,0CIRCLED HORIZONTAL BAR WITH NOTCH,1TRIANGLE DOWN"),
  (0x238b, "0BROKEN CIRCLE WITH NORTHWEST ARROW,0UNDO SYMBOL,0MONOSTABLE SYMBOL"),
  (0x238e, "0HYSTERESIS SYMBOL,0OPEN-CIRCUIT-OUTPUT H-TYPE SYMBOL,1L-TYPE SYMBOL"),
  (0x2391, "0PASSIVE-PULL-DOWN-OUTPUT SYMBOL,0PASSIVE-PULL-UP-OUTPUT SYMBOL"),
  (0x2393, "0DIRECT CURRENT SYMBOL FORM TWO,0SOFTWARE-FUNCTION SYMBOL"),
  (0x2395, "0APL FUNCTIONAL SYMBOL QUAD,0DECIMAL SEPARATOR KEY SYMBOL,0PREVIOUS PAGE,0NEXT PAGE"),
  (0x2399, "0PRINT SCREEN SYMBOL,0CLEAR SCREEN SYMBOL,0LEFT PARENTHESIS UPPER HOOK,2EXTENSION"),
  (0x239d, "2LOWER HOOK,0RIGHT PARENTHESIS UPPER HOOK,2EXTENSION,2LOWER HOOK"),
  (0x23a1, "0LEFT SQUARE BRACKET UPPER CORNER,3EXTENSION,3LOWER CORNER"),
  (0x23a4, "0RIGHT SQUARE BRACKET UPPER CORNER,3EXTENSION,3LOWER CORNER"),
  (0x23a7, "0LEFT CURLY BRACKET UPPER HOOK,3MIDDLE PIECE,3LOWER HOOK,0CURLY BRACKET EXTENSION"),
  (0x23ab, "0RIGHT CURLY BRACKET UPPER HOOK,3MIDDLE PIECE,3LOWER HOOK,0INTEGRAL EXTENSION"),
  (0x23af, "0HORIZONTAL LINE EXTENSION,0UPPER LEFT OR LOWER RIGHT CURLY BRACKET SECTION"),
  (0x23b1, "1RIGHT OR LOWER LEFT CURLY BRACKET SECTION,0SUMMATION TOP,1BOTTOM"),
  (0x23b4, "0TOP SQUARE BRACKET,0BOTTOM SQUARE BRACKET,3OVER TOP SQUARE BRACKET"),
  (0x23b7, "0RADICAL SYMBOL BOTTOM,0LEFT VERTICAL BOX LINE,0RIGHT VERTICAL BOX LINE"),
  (0x23ba, "0HORIZONTAL SCAN LINE-1,2LINE-3,2LINE-7,2LINE-9"),
  (0x23be, "0DENTISTRY SYMBOL LIGHT VERTICAL AND TOP RIGHT,5BOTTOM RIGHT,4WITH CIRCLE"),
  (0x23c1, "3DOWN AND HORIZONTAL WITH CIRCLE,3UP AND HORIZONTAL WITH CIRCLE"),
  (0x23c3, "3VERTICAL WITH TRIANGLE,3DOWN AND HORIZONTAL WITH TRIANGLE"),
  (0x23c5, "3UP AND HORIZONTAL WITH TRIANGLE,3VERTICAL AND WAVE,3DOWN AND HORIZONTAL WITH WAVE"),
  (0x23c8, "3UP AND HORIZONTAL WITH WAVE,3DOWN AND HORIZONTAL,3UP AND HORIZONTAL"),
  (0x23cb, "3VERTICAL AND TOP LEFT,5BOTTOM LEFT,0SQUARE FOOT,0RETURN SYMBOL,0EJECT SYMBOL"),
  (0x23d0, "0VERTICAL LINE EXTENSION,0METRICAL BREVE,1LONG OVER SHORT,1SHORT OVER LONG"),
  (0x23d4, "1LONG OVER TWO SHORTS,1TWO SHORTS OVER LONG,3JOINED,1TRISEME,1TETRASEME,1PENTASEME"),
  (0x23da, "0EARTH GROUND,0FUSE,0TOP PARENTHESIS,0BOTTOM PARENTHESIS,0TOP CURLY BRACKET"),
  (0x23df, "0BOTTOM CURLY BRACKET,0TOP TORTOISE SHELL BRACKET,0BOTTOM TORTOISE SHELL BRACKET"),
  (0x23e2, "0WHITE TRAPEZIUM,0BENZENE RING WITH CIRCLE,0STRAIGHTNESS,0FLATNESS,0AC CURRENT"),
  (0x23e7, "0ELECTRICAL INTERSECTION,0DECIMAL EXPONENT SYMBOL"),
  (0x23e9, "0BLACK RIGHT-POINTING DOUBLE TRIANGLE,1LEFT-POINTING DOUBLE TRIANGLE"),
  (0x23eb, "1UP-POINTING DOUBLE TRIANGLE,1DOWN-POINTING DOUBLE TRIANGLE"),
  (0x23ed, "1RIGHT-POINTING DOUBLE TRIANGLE WITH VERTICAL BAR"),
  (0x23ee, "1LEFT-POINTING DOUBLE TRIANGLE WITH VERTICAL BAR"),
  (0x23ef, "1RIGHT-POINTING TRIANGLE WITH DOUBLE VERTICAL BAR,0ALARM CLOCK,0STOPWATCH"),
  (0x23f2, "0TIMER CLOCK,0HOURGLASS WITH FLOWING SAND,0BLACK MEDIUM LEFT-POINTING TRIANGLE"),
  (0x23f5, "2RIGHT-POINTING TRIANGLE,2UP-POINTING TRIANGLE,2DOWN-POINTING TRIANGLE"),
  (0x23f8, "0DOUBLE VERTICAL BAR,0BLACK SQUARE FOR STOP,1CIRCLE FOR RECORD,0POWER SYMBOL"),
  (0x23fc, "1ON-OFF SYMBOL,1ON SYMBOL,1SLEEP SYMBOL,0OBSERVER EYE SYMBOL,0SYMBOL FOR NULL"),
  (0x2401, "2START OF HEADING,4TEXT,2END OF TEXT,4TRANSMISSION,2ENQUIRY,2ACKNOWLEDGE,2BELL"),
  (0x2408, "2BACKSPACE,2HORIZONTAL TABULATION,2LINE FEED,2VERTICAL TABULATION,2FORM FEED"),
  (0x240d, "2CARRIAGE RETURN,2SHIFT OUT,3IN,2DATA LINK ESCAPE,2DEVICE CONTROL ONE,4TWO,4THREE"),
  (0x2414, "4FOUR,2NEGATIVE ACKNOWLEDGE,2SYNCHRONOUS IDLE,2END OF TRANSMISSION BLOCK,2CANCEL"),
  (0x2419, "2END OF MEDIUM,2SUBSTITUTE,2ESCAPE,2FILE SEPARATOR,2GROUP SEPARATOR"),
  (0x241e, "2RECORD SEPARATOR,2UNIT SEPARATOR,2SPACE,2DELETE,0BLANK SYMBOL,0OPEN BOX"),
  (0x2424, "0SYMBOL FOR NEWLINE,2DELETE FORM TWO,2SUBSTITUTE FORM TWO"),
  (0x2440, "0OCR HOOK,1CHAIR,1FORK,1INVERTED FORK,1BELT BUCKLE,1BOW TIE"),
  (0x2446, "1BRANCH BANK IDENTIFICATION,1AMOUNT OF CHECK,1DASH,1CUSTOMER ACCOUNT NUMBER"),
  (0x244a, "1DOUBLE BACKSLASH"),
  (0x2460, "0CIRCLED DIGIT ONE,2TWO,2THREE,2FOUR,2FIVE,2SIX,2SEVEN,2EIGHT,2NINE,1NUMBER TEN"),
  (0x246a, "2ELEVEN,2TWELVE,2THIRTEEN,2FOURTEEN,2FIFTEEN,2SIXTEEN,2SEVENTEEN,2EIGHTEEN,2NINETEEN"),
  (0x2473, "2TWENTY,0PARENTHESIZED DIGIT ONE,2TWO,2THREE,2FOUR,2FIVE,2SIX,2SEVEN,2EIGHT,2NINE"),
  (0x247d, "1NUMBER TEN,2ELEVEN,2TWELVE,2THIRTEEN,2FOURTEEN,2FIFTEEN,2SIXTEEN,2SEVENTEEN"),
  (0x2485, "2EIGHTEEN,2NINETEEN,2TWENTY,0DIGIT ONE FULL STOP,1TWO FULL STOP,1THREE FULL STOP"),
  (0x248b, "1FOUR FULL STOP,1FIVE FULL STOP,1SIX FULL STOP,1SEVEN FULL STOP,1EIGHT FULL STOP"),
  (0x2490, "1NINE FULL STOP,0NUMBER TEN FULL STOP,1ELEVEN FULL STOP,1TWELVE FULL STOP"),
  (0x2494, "1THIRTEEN FULL STOP,1FOURTEEN FULL STOP,1FIFTEEN FULL STOP,1SIXTEEN FULL STOP"),
  (0x2498, "1SEVENTEEN FULL STOP,1EIGHTEEN FULL STOP,1NINETEEN FULL STOP,1TWENTY FULL STOP"),
  (0x249c, "0PARENTHESIZED LATIN SMALL LETTER A,4B,4C,4D,4E,4F,4G,4H,4I,4J,4K,4L,4M,4N,4O,4P,4Q"),
  (0x24ad, "4R,4S,4T,4U,4V,4W,4X,4Y,4Z,0CIRCLED LATIN CAPITAL LETTER A,4B,4C,4D,4E,4F,4G,4H,4I"),
  (0x24bf, "4J,4K,4L,4M,4N,4O,4P,4Q,4R,4S,4T,4U,4V,4W,4X,4Y,4Z,2SMALL LETTER A,4B,4C,4D,4E,4F,4G"),
  (0x24d7, "4H,4I,4J,4K,4L,4M,4N,4O,4P,4Q,4R,4S,4T,4U,4V,4W,4X,4Y,4Z,1DIGIT ZERO"),
  (0x24eb, "0NEGATIVE CIRCLED NUMBER ELEVEN,3TWELVE,3THIRTEEN,3FOURTEEN,3FIFTEEN,3SIXTEEN"),
  (0x24f1, "3SEVENTEEN,3EIGHTEEN,3NINETEEN,3TWENTY,0DOUBLE CIRCLED DIGIT ONE,3TWO,3THREE,3FOUR"),
  (0x24f9, "3FIVE,3SIX,3SEVEN,3EIGHT,3NINE,2NUMBER TEN,0NEGATIVE CIRCLED DIGIT ZERO"),
  (0x2500, "0BOX DRAWINGS LIGHT HORIZONTAL,2HEAVY HORIZONTAL,2LIGHT VERTICAL,2HEAVY VERTICAL"),
  (0x2504, "2LIGHT TRIPLE DASH HORIZONTAL,2HEAVY TRIPLE DASH HORIZONTAL"),
  (0x2506, "2LIGHT TRIPLE DASH VERTICAL,2HEAVY TRIPLE DASH VERTICAL"),
  (0x2508, "2LIGHT QUADRUPLE DASH HORIZONTAL,2HEAVY QUADRUPLE DASH HORIZONTAL"),
  (0x250a, "2LIGHT QUADRUPLE DASH VERTICAL,2HEAVY QUADRUPLE DASH VERTICAL,2LIGHT DOWN AND RIGHT"),
  (0x250d, "2DOWN LIGHT AND RIGHT HEAVY,3HEAVY AND RIGHT LIGHT,2HEAVY DOWN AND RIGHT"),
  (0x2510, "2LIGHT DOWN AND LEFT,2DOWN LIGHT AND LEFT HEAVY,3HEAVY AND LEFT LIGHT"),
  (0x2513, "2HEAVY DOWN AND LEFT,2LIGHT UP AND RIGHT,2UP LIGHT AND RIGHT HEAVY"),
  (0x2516, "3HEAVY AND RIGHT LIGHT,2HEAVY UP AND RIGHT,2LIGHT UP AND LEFT"),
  (0x2519, "2UP LIGHT AND LEFT HEAVY,3HEAVY AND LEFT LIGHT,2HEAVY UP AND LEFT"),
  (0x251c, "2LIGHT VERTICAL AND RIGHT,2VERTICAL LIGHT AND RIGHT HEAVY"),
  (0x251e, "2UP HEAVY AND RIGHT DOWN LIGHT,2DOWN HEAVY AND RIGHT UP LIGHT"),
  (0x2520, "2VERTICAL HEAVY AND RIGHT LIGHT,2DOWN LIGHT AND RIGHT UP HEAVY"),
  (0x2522, "2UP LIGHT AND RIGHT DOWN HEAVY,2HEAVY VERTICAL AND RIGHT,2LIGHT VERTICAL AND LEFT"),
  (0x2525, "2VERTICAL LIGHT AND LEFT HEAVY,2UP HEAVY AND LEFT DOWN LIGHT"),
  (0x2527, "2DOWN HEAVY AND LEFT UP LIGHT,2VERTICAL HEAVY AND LEFT LIGHT"),
  (0x2529, "2DOWN LIGHT AND LEFT UP HEAVY,2UP LIGHT AND LEFT DOWN HEAVY,2HEAVY VERTICAL AND LEFT"),
  (0x252c, "2LIGHT DOWN AND HORIZONTAL,2LEFT HEAVY AND RIGHT DOWN LIGHT"),
  (0x252e, "2RIGHT HEAVY AND LEFT DOWN LIGHT,2DOWN LIGHT AND HORIZONTAL HEAVY"),
  (0x2530, "3HEAVY AND HORIZONTAL LIGHT,2RIGHT LIGHT AND LEFT DOWN HEAVY"),
  (0x2532, "2LEFT LIGHT AND RIGHT DOWN HEAVY,2HEAVY DOWN AND HORIZONTAL,2LIGHT UP AND HORIZONTAL"),
  (0x2535, "2LEFT HEAVY AND RIGHT UP LIGHT,2RIGHT HEAVY AND LEFT UP LIGHT"),
  (0x2537, "2UP LIGHT AND HORIZONTAL HEAVY,3HEAVY AND HORIZONTAL LIGHT"),
  (0x2539, "2RIGHT LIGHT AND LEFT UP HEAVY,2LEFT LIGHT AND RIGHT UP HEAVY"),
  (0x253b, "2HEAVY UP AND HORIZONTAL,2LIGHT VERTICAL AND HORIZONTAL"),
  (0x253d, "2LEFT HEAVY AND RIGHT VERTICAL LIGHT,2RIGHT HEAVY AND LEFT VERTICAL LIGHT"),
  (0x253f, "2VERTICAL LIGHT AND HORIZONTAL HEAVY,2UP HEAVY AND DOWN HORIZONTAL LIGHT"),
  (0x2541, "2DOWN HEAVY AND UP HORIZONTAL LIGHT,2VERTICAL HEAVY AND HORIZONTAL LIGHT"),
  (0x2543, "2LEFT UP HEAVY AND RIGHT DOWN LIGHT,2RIGHT UP HEAVY AND LEFT DOWN LIGHT"),
  (0x2545, "2LEFT DOWN HEAVY AND RIGHT UP LIGHT,2RIGHT DOWN HEAVY AND LEFT UP LIGHT"),
  (0x2547, "2DOWN LIGHT AND UP HORIZONTAL HEAVY,2UP LIGHT AND DOWN HORIZONTAL HEAVY"),
  (0x2549, "2RIGHT LIGHT AND LEFT VERTICAL HEAVY,2LEFT LIGHT AND RIGHT VERTICAL HEAVY"),
  (0x254b, "2HEAVY VERTICAL AND HORIZONTAL,2LIGHT DOUBLE DASH HORIZONTAL"),
  (0x254d, "2HEAVY DOUBLE DASH HORIZONTAL,2LIGHT DOUBLE DASH VERTICAL"),
  (0x254f, "2HEAVY DOUBLE DASH VERTICAL,2DOUBLE HORIZONTAL,3VERTICAL"),
  (0x2552, "2DOWN SINGLE AND RIGHT DOUBLE,3DOUBLE AND RIGHT SINGLE,2DOUBLE DOWN AND RIGHT"),
  (0x2555, "2DOWN SINGLE AND LEFT DOUBLE,3DOUBLE AND LEFT SINGLE,2DOUBLE DOWN AND LEFT"),
  (0x2558, "2UP SINGLE AND RIGHT DOUBLE,3DOUBLE AND RIGHT SINGLE,2DOUBLE UP AND RIGHT"),
  (0x255b, "2UP SINGLE AND LEFT DOUBLE,3DOUBLE AND LEFT SINGLE,2DOUBLE UP AND LEFT"),
  (0x255e, "2VERTICAL SINGLE AND RIGHT DOUBLE,3DOUBLE AND RIGHT SINGLE"),
  (0x2560, "2DOUBLE VERTICAL AND RIGHT,2VERTICAL SINGLE AND LEFT DOUBLE,3DOUBLE AND LEFT SINGLE"),
  (0x2563, "2DOUBLE VERTICAL AND LEFT,2DOWN SINGLE AND HORIZONTAL DOUBLE"),
  (0x2565, "3DOUBLE AND HORIZONTAL SINGLE,2DOUBLE DOWN AND HORIZONTAL"),
  (0x2567, "2UP SINGLE AND HORIZONTAL DOUBLE,3DOUBLE AND HORIZONTAL SINGLE"),
  (0x2569, "2DOUBLE UP AND HORIZONTAL,2VERTICAL SINGLE AND HORIZONTAL DOUBLE"),
  (0x256b, "3DOUBLE AND HORIZONTAL SINGLE,2DOUBLE VERTICAL AND HORIZONTAL"),
  (0x256d, "2LIGHT ARC DOWN AND RIGHT,6LEFT,4UP AND LEFT,6RIGHT"),
  (0x2571, "3DIAGONAL UPPER RIGHT TO LOWER LEFT,5LEFT TO LOWER RIGHT,4CROSS,3LEFT,3UP,3RIGHT"),
  (0x2577, "3DOWN,2HEAVY LEFT,3UP,3RIGHT,3DOWN,2LIGHT LEFT AND HEAVY RIGHT,3UP AND HEAVY DOWN"),
  (0x257e, "2HEAVY LEFT AND LIGHT RIGHT,3UP AND LIGHT DOWN,0UPPER HALF BLOCK"),
  (0x2581, "0LOWER ONE EIGHTH BLOCK,2QUARTER BLOCK,1THREE EIGHTHS BLOCK,1HALF BLOCK"),
  (0x2585, "1FIVE EIGHTHS BLOCK,1THREE QUARTERS BLOCK,1SEVEN EIGHTHS BLOCK,0FULL BLOCK"),
  (0x2589, "0LEFT SEVEN EIGHTHS BLOCK,1THREE QUARTERS BLOCK,1FIVE EIGHTHS BLOCK,1HALF BLOCK"),
  (0x258d, "1THREE EIGHTHS BLOCK,1ONE QUARTER BLOCK,2EIGHTH BLOCK,0RIGHT HALF BLOCK,0LIGHT SHADE"),
  (0x2592, "0MEDIUM SHADE,0DARK SHADE,0UPPER ONE EIGHTH BLOCK,0RIGHT ONE EIGHTH BLOCK"),
  (0x2596, "0QUADRANT LOWER LEFT,2RIGHT,1UPPER LEFT,3AND LOWER LEFT AND LOWER RIGHT,5RIGHT"),
  (0x259b, "4UPPER RIGHT AND LOWER LEFT,8RIGHT,2RIGHT,3AND LOWER LEFT,6AND LOWER RIGHT"),
  (0x25a0, "0BLACK SQUARE,0WHITE SQUARE,2WITH ROUNDED CORNERS,2CONTAINING BLACK SMALL SQUARE"),
  (0x25a4, "0SQUARE WITH HORIZONTAL FILL,2VERTICAL FILL,2ORTHOGONAL CROSSHATCH FILL"),
  (0x25a7, "2UPPER LEFT TO LOWER RIGHT FILL,3RIGHT TO LOWER LEFT FILL,2DIAGONAL CROSSHATCH FILL"),
  (0x25aa, "0BLACK SMALL SQUARE,0WHITE SMALL SQUARE,0BLACK RECTANGLE,0WHITE RECTANGLE"),
  (0x25ae, "0BLACK VERTICAL RECTANGLE,0WHITE VERTICAL RECTANGLE,0BLACK PARALLELOGRAM"),
  (0x25b1, "0WHITE PARALLELOGRAM,0BLACK UP-POINTING TRIANGLE,0WHITE UP-POINTING TRIANGLE"),
  (0x25b4, "0BLACK UP-POINTING SMALL TRIANGLE,0WHITE UP-POINTING SMALL TRIANGLE"),
  (0x25b6, "0BLACK RIGHT-POINTING TRIANGLE,0WHITE RIGHT-POINTING TRIANGLE"),
  (0x25b8, "0BLACK RIGHT-POINTING SMALL TRIANGLE,0WHITE RIGHT-POINTING SMALL TRIANGLE"),
  (0x25ba, "0BLACK RIGHT-POINTING POINTER,0WHITE RIGHT-POINTING POINTER"),
  (0x25bc, "0BLACK DOWN-POINTING TRIANGLE,0WHITE DOWN-POINTING TRIANGLE"),
  (0x25be, "0BLACK DOWN-POINTING SMALL TRIANGLE,0WHITE DOWN-POINTING SMALL TRIANGLE"),
  (0x25c0, "0BLACK LEFT-POINTING TRIANGLE,0WHITE LEFT-POINTING TRIANGLE"),
  (0x25c2, "0BLACK LEFT-POINTING SMALL TRIANGLE,0WHITE LEFT-POINTING SMALL TRIANGLE"),
  (0x25c4, "0BLACK LEFT-POINTING POINTER,0WHITE LEFT-POINTING POINTER,0BLACK DIAMOND"),
  (0x25c7, "0WHITE DIAMOND,2CONTAINING BLACK SMALL DIAMOND,0FISHEYE,0LOZENGE,0WHITE CIRCLE"),
  (0x25cc, "0DOTTED CIRCLE,0CIRCLE WITH VERTICAL FILL,0BULLSEYE,0BLACK CIRCLE"),
  (0x25d0, "0CIRCLE WITH LEFT HALF BLACK,2RIGHT HALF BLACK,2LOWER HALF BLACK,2UPPER HALF BLACK"),
  (0x25d4, "3RIGHT QUADRANT BLACK,2ALL BUT UPPER LEFT QUADRANT BLACK,0LEFT HALF BLACK CIRCLE"),
  (0x25d7, "0RIGHT HALF BLACK CIRCLE,0INVERSE BULLET,1WHITE CIRCLE"),
  (0x25da, "0UPPER HALF INVERSE WHITE CIRCLE,0LOWER HALF INVERSE WHITE CIRCLE"),
  (0x25dc, "0UPPER LEFT QUADRANT CIRCULAR ARC,1RIGHT QUADRANT CIRCULAR ARC"),
  (0x25de, "0LOWER RIGHT QUADRANT CIRCULAR ARC,1LEFT QUADRANT CIRCULAR ARC,0UPPER HALF CIRCLE"),
  (0x25e1, "0LOWER HALF CIRCLE,0BLACK LOWER RIGHT TRIANGLE,2LEFT TRIANGLE,1UPPER LEFT TRIANGLE"),
  (0x25e5, "2RIGHT TRIANGLE,0WHITE BULLET,0SQUARE WITH LEFT HALF BLACK,2RIGHT HALF BLACK"),
  (0x25e9, "2UPPER LEFT DIAGONAL HALF BLACK,2LOWER RIGHT DIAGONAL HALF BLACK"),
  (0x25eb, "0WHITE SQUARE WITH VERTICAL BISECTING LINE,1UP-POINTING TRIANGLE WITH DOT"),
  (0x25ed, "0UP-POINTING TRIANGLE WITH LEFT HALF BLACK,3RIGHT HALF BLACK,0LARGE CIRCLE"),
  (0x25f0, "0WHITE SQUARE WITH UPPER LEFT QUADRANT,3LOWER LEFT QUADRANT,4RIGHT QUADRANT"),
  (0x25f3, "3UPPER RIGHT QUADRANT,1CIRCLE WITH UPPER LEFT QUADRANT,3LOWER LEFT QUADRANT"),
  (0x25f6, "4RIGHT QUADRANT,3UPPER RIGHT QUADRANT,0UPPER LEFT TRIANGLE,1RIGHT TRIANGLE"),
  (0x25fa, "0LOWER LEFT TRIANGLE,0WHITE MEDIUM SQUARE,0BLACK MEDIUM SQUARE"),
  (0x25fd, "0WHITE MEDIUM SMALL SQUARE,0BLACK MEDIUM SMALL SQUARE,0LOWER RIGHT TRIANGLE")]

/-- The names of ornaments and further signs, each row behind its first character. -/
def ornamentNames : List (Nat × String) := [
  (0x2600, "0BLACK SUN WITH RAYS,0CLOUD,0UMBRELLA,0SNOWMAN,0COMET,0BLACK STAR,0WHITE STAR"),
  (0x2607, "0LIGHTNING,0THUNDERSTORM,0SUN,0ASCENDING NODE,0DESCENDING NODE,0CONJUNCTION"),
  (0x260d, "0OPPOSITION,0BLACK TELEPHONE,0WHITE TELEPHONE,0BALLOT BOX,2WITH CHECK,3X,0SALTIRE"),
  (0x2614, "0UMBRELLA WITH RAIN DROPS,0HOT BEVERAGE,0WHITE SHOGI PIECE,0BLACK SHOGI PIECE"),
  (0x2618, "0SHAMROCK,0REVERSED ROTATED FLORAL HEART BULLET,0BLACK LEFT POINTING INDEX"),
  (0x261b, "1RIGHT POINTING INDEX,0WHITE LEFT POINTING INDEX,1UP POINTING INDEX"),
  (0x261e, "1RIGHT POINTING INDEX,1DOWN POINTING INDEX,0SKULL AND CROSSBONES,0CAUTION SIGN"),
  (0x2622, "0RADIOACTIVE SIGN,0BIOHAZARD SIGN,0CADUCEUS,0ANKH,0ORTHODOX CROSS,0CHI RHO"),
  (0x2628, "0CROSS OF LORRAINE,2JERUSALEM,0STAR AND CRESCENT,0FARSI SYMBOL,0ADI SHAKTI"),
  (0x262d, "0HAMMER AND SICKLE,0PEACE SYMBOL,0YIN YANG,0TRIGRAM FOR HEAVEN,2LAKE,2FIRE,2THUNDER"),
  (0x2634, "2WIND,2WATER,2MOUNTAIN,2EARTH,0WHEEL OF DHARMA,0WHITE FROWNING FACE,1SMILING FACE"),
  (0x263b, "0BLACK SMILING FACE,0WHITE SUN WITH RAYS,0FIRST QUARTER MOON,0LAST QUARTER MOON"),
  (0x263f, "0MERCURY,0FEMALE SIGN,0EARTH,0MALE SIGN,0JUPITER,0SATURN,0URANUS,0NEPTUNE,0PLUTO"),
  (0x2648, "0ARIES,0TAURUS,0GEMINI,0CANCER,0LEO,0VIRGO,0LIBRA,0SCORPIUS,0SAGITTARIUS,0CAPRICORN"),
  (0x2652, "0AQUARIUS,0PISCES,0WHITE CHESS KING,2QUEEN,2ROOK,2BISHOP,2KNIGHT,2PAWN"),
  (0x265a, "0BLACK CHESS KING,2QUEEN,2ROOK,2BISHOP,2KNIGHT,2PAWN,1SPADE SUIT,0WHITE HEART SUIT"),
  (0x2662, "1DIAMOND SUIT,0BLACK CLUB SUIT,0WHITE SPADE SUIT,0BLACK HEART SUIT,1DIAMOND SUIT"),
  (0x2667, "0WHITE CLUB SUIT,0HOT SPRINGS,0QUARTER NOTE,0EIGHTH NOTE,0BEAMED EIGHTH NOTES"),
  (0x266c, "1SIXTEENTH NOTES,0MUSIC FLAT SIGN,1NATURAL SIGN,1SHARP SIGN,0WEST SYRIAC CROSS"),
  (0x2671, "0EAST SYRIAC CROSS,0UNIVERSAL RECYCLING SYMBOL,0RECYCLING SYMBOL FOR TYPE-1 PLASTICS"),
  (0x2674, "3TYPE-2 PLASTICS,3TYPE-3 PLASTICS,3TYPE-4 PLASTICS,3TYPE-5 PLASTICS,3TYPE-6 PLASTICS"),
  (0x2679, "3TYPE-7 PLASTICS,3GENERIC MATERIALS,0BLACK UNIVERSAL RECYCLING SYMBOL"),
  (0x267c, "0RECYCLED PAPER SYMBOL,0PARTIALLY-RECYCLED PAPER SYMBOL,0PERMANENT PAPER SIGN"),
  (0x267f, "0WHEELCHAIR SYMBOL,0DIE FACE-1,1FACE-2,1FACE-3,1FACE-4,1FACE-5,1FACE-6"),
  (0x2686, "0WHITE CIRCLE WITH DOT RIGHT,3TWO DOTS,0BLACK CIRCLE WITH WHITE DOT RIGHT"),
  (0x2689, "3TWO WHITE DOTS,0MONOGRAM FOR YANG,2YIN,0DIGRAM FOR GREATER YANG,2LESSER YIN,3YANG"),
  (0x268f, "2GREATER YIN,0WHITE FLAG,0BLACK FLAG,0HAMMER AND PICK,0ANCHOR,0CROSSED SWORDS"),
  (0x2695, "0STAFF OF AESCULAPIUS,0SCALES,0ALEMBIC,0FLOWER,0GEAR,0STAFF OF HERMES,0ATOM SYMBOL"),
  (0x269c, "0FLEUR-DE-LIS,0OUTLINED WHITE STAR,0THREE LINES CONVERGING RIGHT,3LEFT,0WARNING SIGN"),
  (0x26a1, "0HIGH VOLTAGE SIGN,0DOUBLED FEMALE SIGN,1MALE SIGN,0INTERLOCKED FEMALE AND MALE SIGN"),
  (0x26a5, "0MALE AND FEMALE SIGN,1WITH STROKE SIGN,3AND MALE AND FEMALE SIGN"),
  (0x26a8, "0VERTICAL MALE WITH STROKE SIGN,0HORIZONTAL MALE WITH STROKE SIGN"),
  (0x26aa, "0MEDIUM WHITE CIRCLE,1BLACK CIRCLE,1SMALL WHITE CIRCLE,0MARRIAGE SYMBOL"),
  (0x26ae, "0DIVORCE SYMBOL,0UNMARRIED PARTNERSHIP SYMBOL,0COFFIN,0FUNERAL URN,0NEUTER,0CERES"),
  (0x26b4, "0PALLAS,0JUNO,0VESTA,0CHIRON,0BLACK MOON LILITH,0SEXTILE,0SEMISEXTILE,0QUINCUNX"),
  (0x26bc, "0SESQUIQUADRATE,0SOCCER BALL,0BASEBALL,0SQUARED KEY,0WHITE DRAUGHTS MAN,2KING"),
  (0x26c2, "0BLACK DRAUGHTS MAN,2KING,0SNOWMAN WITHOUT SNOW,0SUN BEHIND CLOUD,0RAIN"),
  (0x26c7, "0BLACK SNOWMAN,0THUNDER CLOUD AND RAIN,0TURNED WHITE SHOGI PIECE,1BLACK SHOGI PIECE"),
  (0x26cb, "0WHITE DIAMOND IN SQUARE,0CROSSING LANES,0DISABLED CAR,0OPHIUCHUS,0PICK,0CAR SLIDING"),
  (0x26d1, "0HELMET WITH WHITE CROSS,0CIRCLED CROSSING LANES,0CHAINS,0NO ENTRY"),
  (0x26d5, "0ALTERNATE ONE-WAY LEFT WAY TRAFFIC,0BLACK TWO-WAY LEFT WAY TRAFFIC"),
  (0x26d7, "0WHITE TWO-WAY LEFT WAY TRAFFIC,0BLACK LEFT LANE MERGE,0WHITE LEFT LANE MERGE"),
  (0x26da, "0DRIVE SLOW SIGN,0HEAVY WHITE DOWN-POINTING TRIANGLE,0LEFT CLOSED ENTRY"),
  (0x26dd, "0SQUARED SALTIRE,0FALLING DIAGONAL IN WHITE CIRCLE IN BLACK SQUARE,0BLACK TRUCK"),
  (0x26e0, "0RESTRICTED LEFT ENTRY-1,2ENTRY-2,0ASTRONOMICAL SYMBOL FOR URANUS"),
  (0x26e3, "0HEAVY CIRCLE WITH STROKE AND TWO DOTS ABOVE,0PENTAGRAM"),
  (0x26e5, "0RIGHT-HANDED INTERLACED PENTAGRAM,0LEFT-HANDED INTERLACED PENTAGRAM"),
  (0x26e7, "0INVERTED PENTAGRAM,0BLACK CROSS ON SHIELD,0SHINTO SHRINE,0CHURCH,0CASTLE"),
  (0x26ec, "0HISTORIC SITE,0GEAR WITHOUT HUB,1WITH HANDLES,0MAP SYMBOL FOR LIGHTHOUSE,0MOUNTAIN"),
  (0x26f1, "0UMBRELLA ON GROUND,0FOUNTAIN,0FLAG IN HOLE,0FERRY,0SAILBOAT,0SQUARE FOUR CORNERS"),
  (0x26f7, "0SKIER,0ICE SKATE,0PERSON WITH BALL,0TENT,0JAPANESE BANK SYMBOL"),
  (0x26fc, "0HEADSTONE GRAVEYARD SYMBOL,0FUEL PUMP,0CUP ON BLACK SQUARE"),
  (0x26ff, "0WHITE FLAG WITH HORIZONTAL MIDDLE BLACK STRIPE,0BLACK SAFETY SCISSORS"),
  (0x2701, "0UPPER BLADE SCISSORS,0BLACK SCISSORS,0LOWER BLADE SCISSORS,0WHITE SCISSORS"),
  (0x2705, "1HEAVY CHECK MARK,0TELEPHONE LOCATION SIGN,0TAPE DRIVE,0AIRPLANE,0ENVELOPE"),
  (0x270a, "0RAISED FIST,1HAND,0VICTORY HAND,0WRITING HAND,0LOWER RIGHT PENCIL,0PENCIL"),
  (0x2710, "0UPPER RIGHT PENCIL,0WHITE NIB,0BLACK NIB,0CHECK MARK,0HEAVY CHECK MARK"),
  (0x2715, "0MULTIPLICATION X,0HEAVY MULTIPLICATION X,0BALLOT X,0HEAVY BALLOT X"),
  (0x2719, "0OUTLINED GREEK CROSS,0HEAVY GREEK CROSS,0OPEN CENTRE CROSS,0HEAVY OPEN CENTRE CROSS"),
  (0x271d, "0LATIN CROSS,0SHADOWED WHITE LATIN CROSS,0OUTLINED LATIN CROSS,0MALTESE CROSS"),
  (0x2721, "0STAR OF DAVID,0FOUR TEARDROP-SPOKED ASTERISK,1BALLOON-SPOKED ASTERISK"),
  (0x2724, "0HEAVY FOUR BALLOON-SPOKED ASTERISK,0FOUR CLUB-SPOKED ASTERISK"),
  (0x2726, "0BLACK FOUR POINTED STAR,0WHITE FOUR POINTED STAR,0SPARKLES"),
  (0x2729, "0STRESS OUTLINED WHITE STAR,0CIRCLED WHITE STAR,0OPEN CENTRE BLACK STAR"),
  (0x272c, "0BLACK CENTRE WHITE STAR,0OUTLINED BLACK STAR,0HEAVY OUTLINED BLACK STAR"),
  (0x272f, "0PINWHEEL STAR,0SHADOWED WHITE STAR,0HEAVY ASTERISK,0OPEN CENTRE ASTERISK"),
  (0x2733, "0EIGHT SPOKED ASTERISK,1POINTED BLACK STAR,2PINWHEEL STAR,0SIX POINTED BLACK STAR"),
  (0x2737, "0EIGHT POINTED RECTILINEAR BLACK STAR,0HEAVY EIGHT POINTED RECTILINEAR BLACK STAR"),
  (0x2739, "0TWELVE POINTED BLACK STAR,0SIXTEEN POINTED ASTERISK,0TEARDROP-SPOKED ASTERISK"),
  (0x273c, "0OPEN CENTRE TEARDROP-SPOKED ASTERISK,0HEAVY TEARDROP-SPOKED ASTERISK"),
  (0x273e, "0SIX PETALLED BLACK AND WHITE FLORETTE,0BLACK FLORETTE,0WHITE FLORETTE"),
  (0x2741, "0EIGHT PETALLED OUTLINED BLACK FLORETTE,0CIRCLED OPEN CENTRE EIGHT POINTED STAR"),
  (0x2743, "0HEAVY TEARDROP-SPOKED PINWHEEL ASTERISK,0SNOWFLAKE,0TIGHT TRIFOLIATE SNOWFLAKE"),
  (0x2746, "0HEAVY CHEVRON SNOWFLAKE,0SPARKLE,0HEAVY SPARKLE,0BALLOON-SPOKED ASTERISK"),
  (0x274a, "0EIGHT TEARDROP-SPOKED PROPELLER ASTERISK"),
  (0x274b, "0HEAVY EIGHT TEARDROP-SPOKED PROPELLER ASTERISK,0CROSS MARK,0SHADOWED WHITE CIRCLE"),
  (0x274e, "0NEGATIVE SQUARED CROSS MARK,0LOWER RIGHT DROP-SHADOWED WHITE SQUARE"),
  (0x2750, "0UPPER RIGHT DROP-SHADOWED WHITE SQUARE,0LOWER RIGHT SHADOWED WHITE SQUARE"),
  (0x2752, "0UPPER RIGHT SHADOWED WHITE SQUARE,0BLACK QUESTION MARK ORNAMENT"),
  (0x2754, "0WHITE QUESTION MARK ORNAMENT,1EXCLAMATION MARK ORNAMENT"),
  (0x2756, "0BLACK DIAMOND MINUS WHITE X,0HEAVY EXCLAMATION MARK SYMBOL,0LIGHT VERTICAL BAR"),
  (0x2759, "0MEDIUM VERTICAL BAR,0HEAVY VERTICAL BAR"),
  (0x275b, "1SINGLE TURNED COMMA QUOTATION MARK ORNAMENT,2COMMA QUOTATION MARK ORNAMENT"),
  (0x275d, "1DOUBLE TURNED COMMA QUOTATION MARK ORNAMENT,2COMMA QUOTATION MARK ORNAMENT"),
  (0x275f, "1LOW SINGLE COMMA QUOTATION MARK ORNAMENT,2DOUBLE COMMA QUOTATION MARK ORNAMENT"),
  (0x2761, "0CURVED STEM PARAGRAPH SIGN ORNAMENT,0HEAVY EXCLAMATION MARK ORNAMENT"),
  (0x2763, "1HEART EXCLAMATION MARK ORNAMENT,1BLACK HEART,0ROTATED HEAVY BLACK HEART BULLET"),
  (0x2766, "0FLORAL HEART,0ROTATED FLORAL HEART BULLET,0MEDIUM LEFT PARENTHESIS ORNAMENT"),
  (0x2769, "1RIGHT PARENTHESIS ORNAMENT,1FLATTENED LEFT PARENTHESIS ORNAMENT"),
  (0x276b, "2RIGHT PARENTHESIS ORNAMENT,1LEFT-POINTING ANGLE BRACKET ORNAMENT"),
  (0x276d, "1RIGHT-POINTING ANGLE BRACKET ORNAMENT"),
  (0x276e, "0HEAVY LEFT-POINTING ANGLE QUOTATION MARK ORNAMENT"),
  (0x276f, "1RIGHT-POINTING ANGLE QUOTATION MARK ORNAMENT,1LEFT-POINTING ANGLE BRACKET ORNAMENT"),
  (0x2771, "1RIGHT-POINTING ANGLE BRACKET ORNAMENT,0LIGHT LEFT TORTOISE SHELL BRACKET ORNAMENT"),
  (0x2773, "1RIGHT TORTOISE SHELL BRACKET ORNAMENT,0MEDIUM LEFT CURLY BRACKET ORNAMENT"),
  (0x2775, "1RIGHT CURLY BRACKET ORNAMENT,0DINGBAT NEGATIVE CIRCLED DIGIT ONE,4TWO,4THREE,4FOUR"),
  (0x277a, "4FIVE,4SIX,4SEVEN,4EIGHT,4NINE,3NUMBER TEN,1CIRCLED SANS-SERIF DIGIT ONE,4TWO,4THREE"),
  (0x2783, "4FOUR,4FIVE,4SIX,4SEVEN,4EIGHT,4NINE,3NUMBER TEN"),
  (0x278a, "1NEGATIVE CIRCLED SANS-SERIF DIGIT ONE,5TWO,5THREE,5FOUR,5FIVE,5SIX,5SEVEN,5EIGHT"),
  (0x2792, "5NINE,4NUMBER TEN,0HEAVY WIDE-HEADED RIGHTWARDS ARROW,1PLUS SIGN,1MINUS SIGN"),
  (0x2797, "1DIVISION SIGN,1SOUTH EAST ARROW,1RIGHTWARDS ARROW,1NORTH EAST ARROW"),
  (0x279b, "0DRAFTING POINT RIGHTWARDS ARROW,0HEAVY ROUND-TIPPED RIGHTWARDS ARROW"),
  (0x279d, "0TRIANGLE-HEADED RIGHTWARDS ARROW,0HEAVY TRIANGLE-HEADED RIGHTWARDS ARROW"),
  (0x279f, "0DASHED TRIANGLE-HEADED RIGHTWARDS ARROW"),
  (0x27a0, "0HEAVY DASHED TRIANGLE-HEADED RIGHTWARDS ARROW,0BLACK RIGHTWARDS ARROW"),
  (0x27a2, "0THREE-D TOP-LIGHTED RIGHTWARDS ARROWHEAD,1BOTTOM-LIGHTED RIGHTWARDS ARROWHEAD"),
  (0x27a4, "0BLACK RIGHTWARDS ARROWHEAD,0HEAVY BLACK CURVED DOWNWARDS AND RIGHTWARDS ARROW"),
  (0x27a6, "3UPWARDS AND RIGHTWARDS ARROW,0SQUAT BLACK RIGHTWARDS ARROW"),
  (0x27a8, "0HEAVY CONCAVE-POINTED BLACK RIGHTWARDS ARROW,0RIGHT-SHADED WHITE RIGHTWARDS ARROW"),
  (0x27aa, "0LEFT-SHADED WHITE RIGHTWARDS ARROW,0BACK-TILTED SHADOWED WHITE RIGHTWARDS ARROW"),
  (0x27ac, "0FRONT-TILTED SHADOWED WHITE RIGHTWARDS ARROW"),
  (0x27ad, "0HEAVY LOWER RIGHT-SHADOWED WHITE RIGHTWARDS ARROW"),
  (0x27ae, "1UPPER RIGHT-SHADOWED WHITE RIGHTWARDS ARROW"),
  (0x27af, "0NOTCHED LOWER RIGHT-SHADOWED WHITE RIGHTWARDS ARROW,0CURLY LOOP"),
  (0x27b1, "0NOTCHED UPPER RIGHT-SHADOWED WHITE RIGHTWARDS ARROW"),
  (0x27b2, "0CIRCLED HEAVY WHITE RIGHTWARDS ARROW,0WHITE-FEATHERED RIGHTWARDS ARROW"),
  (0x27b4, "0BLACK-FEATHERED SOUTH EAST ARROW,1RIGHTWARDS ARROW,1NORTH EAST ARROW"),
  (0x27b7, "0HEAVY BLACK-FEATHERED SOUTH EAST ARROW,2RIGHTWARDS ARROW,2NORTH EAST ARROW"),
  (0x27ba, "0TEARDROP-BARBED RIGHTWARDS ARROW,0HEAVY TEARDROP-SHANKED RIGHTWARDS ARROW"),
  (0x27bc, "0WEDGE-TAILED RIGHTWARDS ARROW,0HEAVY WEDGE-TAILED RIGHTWARDS ARROW"),
  (0x27be, "0OPEN-OUTLINED RIGHTWARDS ARROW,0DOUBLE CURLY LOOP,0THREE DIMENSIONAL ANGLE"),
  (0x27c1, "0WHITE TRIANGLE CONTAINING SMALL WHITE TRIANGLE,0PERPENDICULAR,0OPEN SUBSET"),
  (0x27c4, "1SUPERSET,0LEFT S-SHAPED BAG DELIMITER,0RIGHT S-SHAPED BAG DELIMITER"),
  (0x27c7, "0OR WITH DOT INSIDE,0REVERSE SOLIDUS PRECEDING SUBSET,0SUPERSET PRECEDING SOLIDUS"),
  (0x27ca, "0VERTICAL BAR WITH HORIZONTAL STROKE,0MATHEMATICAL RISING DIAGONAL,0LONG DIVISION"),
  (0x27cd, "0MATHEMATICAL FALLING DIAGONAL,0SQUARED LOGICAL AND,2OR"),
  (0x27d0, "0WHITE DIAMOND WITH CENTRED DOT,0AND WITH DOT,0ELEMENT OF OPENING UPWARDS"),
  (0x27d3, "0LOWER RIGHT CORNER WITH DOT,0UPPER LEFT CORNER WITH DOT,0LEFT OUTER JOIN"),
  (0x27d6, "0RIGHT OUTER JOIN,0FULL OUTER JOIN,0LARGE UP TACK,1DOWN TACK"),
  (0x27da, "0LEFT AND RIGHT DOUBLE TURNSTILE,3TACK,1MULTIMAP,0LONG RIGHT TACK,1LEFT TACK"),
  (0x27df, "0UP TACK WITH CIRCLE ABOVE,0LOZENGE DIVIDED BY HORIZONTAL RULE"),
  (0x27e1, "0WHITE CONCAVE-SIDED DIAMOND,3WITH LEFTWARDS TICK,4RIGHTWARDS TICK"),
  (0x27e4, "1SQUARE WITH LEFTWARDS TICK,3RIGHTWARDS TICK,0MATHEMATICAL LEFT WHITE SQUARE BRACKET"),
  (0x27e7, "1RIGHT WHITE SQUARE BRACKET,1LEFT ANGLE BRACKET,1RIGHT ANGLE BRACKET"),
  (0x27ea, "1LEFT DOUBLE ANGLE BRACKET,1RIGHT DOUBLE ANGLE BRACKET"),
  (0x27ec, "1LEFT WHITE TORTOISE SHELL BRACKET,1RIGHT WHITE TORTOISE SHELL BRACKET"),
  (0x27ee, "1LEFT FLATTENED PARENTHESIS,1RIGHT FLATTENED PARENTHESIS,0UPWARDS QUADRUPLE ARROW"),
  (0x27f1, "0DOWNWARDS QUADRUPLE ARROW,0ANTICLOCKWISE GAPPED CIRCLE ARROW"),
  (0x27f3, "0CLOCKWISE GAPPED CIRCLE ARROW,0RIGHT ARROW WITH CIRCLED PLUS,0LONG LEFTWARDS ARROW"),
  (0x27f6, "1RIGHTWARDS ARROW,1LEFT RIGHT ARROW,1LEFTWARDS DOUBLE ARROW,1RIGHTWARDS DOUBLE ARROW"),
  (0x27fa, "1LEFT RIGHT DOUBLE ARROW,1LEFTWARDS ARROW FROM BAR,1RIGHTWARDS ARROW FROM BAR"),
  (0x27fd, "1LEFTWARDS DOUBLE ARROW FROM BAR,1RIGHTWARDS DOUBLE ARROW FROM BAR,2SQUIGGLE ARROW"),
  (0x2800, "0BRAILLE PATTERN BLANK,2DOTS-1,2DOTS-2,2DOTS-12,2DOTS-3,2DOTS-13,2DOTS-23,2DOTS-123"),
  (0x2808, "2DOTS-4,2DOTS-14,2DOTS-24,2DOTS-124,2DOTS-34,2DOTS-134,2DOTS-234,2DOTS-1234,2DOTS-5"),
  (0x2811, "2DOTS-15,2DOTS-25,2DOTS-125,2DOTS-35,2DOTS-135,2DOTS-235,2DOTS-1235,2DOTS-45"),
  (0x2819, "2DOTS-145,2DOTS-245,2DOTS-1245,2DOTS-345,2DOTS-1345,2DOTS-2345,2DOTS-12345,2DOTS-6"),
  (0x2821, "2DOTS-16,2DOTS-26,2DOTS-126,2DOTS-36,2DOTS-136,2DOTS-236,2DOTS-1236,2DOTS-46"),
  (0x2829, "2DOTS-146,2DOTS-246,2DOTS-1246,2DOTS-346,2DOTS-1346,2DOTS-2346,2DOTS-12346,2DOTS-56"),
  (0x2831, "2DOTS-156,2DOTS-256,2DOTS-1256,2DOTS-356,2DOTS-1356,2DOTS-2356,2DOTS-12356,2DOTS-456"),
  (0x2839, "2DOTS-1456,2DOTS-2456,2DOTS-12456,2DOTS-3456,2DOTS-13456,2DOTS-23456,2DOTS-123456"),
  (0x2840, "2DOTS-7,2DOTS-17,2DOTS-27,2DOTS-127,2DOTS-37,2DOTS-137,2DOTS-237,2DOTS-1237,2DOTS-47"),
  (0x2849, "2DOTS-147,2DOTS-247,2DOTS-1247,2DOTS-347,2DOTS-1347,2DOTS-2347,2DOTS-12347,2DOTS-57"),
  (0x2851, "2DOTS-157,2DOTS-257,2DOTS-1257,2DOTS-357,2DOTS-1357,2DOTS-2357,2DOTS-12357,2DOTS-457"),
  (0x2859, "2DOTS-1457,2DOTS-2457,2DOTS-12457,2DOTS-3457,2DOTS-13457,2DOTS-23457,2DOTS-123457"),
  (0x2860, "2DOTS-67,2DOTS-167,2DOTS-267,2DOTS-1267,2DOTS-367,2DOTS-1367,2DOTS-2367,2DOTS-12367"),
  (0x2868, "2DOTS-467,2DOTS-1467,2DOTS-2467,2DOTS-12467,2DOTS-3467,2DOTS-13467,2DOTS-23467"),
  (0x286f, "2DOTS-123467,2DOTS-567,2DOTS-1567,2DOTS-2567,2DOTS-12567,2DOTS-3567,2DOTS-13567"),
  (0x2876, "2DOTS-23567,2DOTS-123567,2DOTS-4567,2DOTS-14567,2DOTS-24567,2DOTS-124567,2DOTS-34567"),
  (0x287d, "2DOTS-134567,2DOTS-234567,2DOTS-1234567,2DOTS-8,2DOTS-18,2DOTS-28,2DOTS-128,2DOTS-38"),
  (0x2885, "2DOTS-138,2DOTS-238,2DOTS-1238,2DOTS-48,2DOTS-148,2DOTS-248,2DOTS-1248,2DOTS-348"),
  (0x288d, "2DOTS-1348,2DOTS-2348,2DOTS-12348,2DOTS-58,2DOTS-158,2DOTS-258,2DOTS-1258,2DOTS-358"),
  (0x2895, "2DOTS-1358,2DOTS-2358,2DOTS-12358,2DOTS-458,2DOTS-1458,2DOTS-2458,2DOTS-12458"),
  (0x289c, "2DOTS-3458,2DOTS-13458,2DOTS-23458,2DOTS-123458,2DOTS-68,2DOTS-168,2DOTS-268"),
  (0x28a3, "2DOTS-1268,2DOTS-368,2DOTS-1368,2DOTS-2368,2DOTS-12368,2DOTS-468,2DOTS-1468"),
  (0x28aa, "2DOTS-2468,2DOTS-12468,2DOTS-3468,2DOTS-13468,2DOTS-23468,2DOTS-123468,2DOTS-568"),
  (0x28b1, "2DOTS-1568,2DOTS-2568,2DOTS-12568,2DOTS-3568,2DOTS-13568,2DOTS-23568,2DOTS-123568"),
  (0x28b8, "2DOTS-4568,2DOTS-14568,2DOTS-24568,2DOTS-124568,2DOTS-34568,2DOTS-134568"),
  (0x28be, "2DOTS-234568,2DOTS-1234568,2DOTS-78,2DOTS-178,2DOTS-278,2DOTS-1278,2DOTS-378"),
  (0x28c5, "2DOTS-1378,2DOTS-2378,2DOTS-12378,2DOTS-478,2DOTS-1478,2DOTS-2478,2DOTS-12478"),
  (0x28cc, "2DOTS-3478,2DOTS-13478,2DOTS-23478,2DOTS-123478,2DOTS-578,2DOTS-1578,2DOTS-2578"),
  (0x28d3, "2DOTS-12578,2DOTS-3578,2DOTS-13578,2DOTS-23578,2DOTS-123578,2DOTS-4578,2DOTS-14578"),
  (0x28da, "2DOTS-24578,2DOTS-124578,2DOTS-34578,2DOTS-134578,2DOTS-234578,2DOTS-1234578"),
  (0x28e0, "2DOTS-678,2DOTS-1678,2DOTS-2678,2DOTS-12678,2DOTS-3678,2DOTS-13678,2DOTS-23678"),
  (0x28e7, "2DOTS-123678,2DOTS-4678,2DOTS-14678,2DOTS-24678,2DOTS-124678,2DOTS-34678"),
  (0x28ed, "2DOTS-134678,2DOTS-234678,2DOTS-1234678,2DOTS-5678,2DOTS-15678,2DOTS-25678"),
  (0x28f3, "2DOTS-125678,2DOTS-35678,2DOTS-135678,2DOTS-235678,2DOTS-1235678,2DOTS-45678"),
  (0x28f9, "2DOTS-145678,2DOTS-245678,2DOTS-1245678,2DOTS-345678,2DOTS-1345678,2DOTS-2345678"),
  (0x28ff, "2DOTS-12345678")]

/-- The names of further arrows and operators, each row behind its first character. -/
def operatorNames : List (Nat × String) := [
  (0x2900, "0RIGHTWARDS TWO-HEADED ARROW WITH VERTICAL STROKE,4DOUBLE VERTICAL STROKE"),
  (0x2902, "0LEFTWARDS DOUBLE ARROW WITH VERTICAL STROKE"),
  (0x2903, "0RIGHTWARDS DOUBLE ARROW WITH VERTICAL STROKE"),
  (0x2904, "0LEFT RIGHT DOUBLE ARROW WITH VERTICAL STROKE,0RIGHTWARDS TWO-HEADED ARROW FROM BAR"),
  (0x2906, "0LEFTWARDS DOUBLE ARROW FROM BAR,0RIGHTWARDS DOUBLE ARROW FROM BAR"),
  (0x2908, "0DOWNWARDS ARROW WITH HORIZONTAL STROKE,0UPWARDS ARROW WITH HORIZONTAL STROKE"),
  (0x290a, "1TRIPLE ARROW,0DOWNWARDS TRIPLE ARROW,0LEFTWARDS DOUBLE DASH ARROW"),
  (0x290d, "0RIGHTWARDS DOUBLE DASH ARROW,0LEFTWARDS TRIPLE DASH ARROW"),
  (0x290f, "0RIGHTWARDS TRIPLE DASH ARROW,1TWO-HEADED TRIPLE DASH ARROW,1ARROW WITH DOTTED STEM"),
  (0x2912, "0UPWARDS ARROW TO BAR,0DOWNWARDS ARROW TO BAR"),
  (0x2914, "0RIGHTWARDS ARROW WITH TAIL WITH VERTICAL STROKE,5DOUBLE VERTICAL STROKE"),
  (0x2916, "1TWO-HEADED ARROW WITH TAIL,5WITH VERTICAL STROKE,6DOUBLE VERTICAL STROKE"),
  (0x2919, "0LEFTWARDS ARROW-TAIL,0RIGHTWARDS ARROW-TAIL,0LEFTWARDS DOUBLE ARROW-TAIL"),
  (0x291c, "0RIGHTWARDS DOUBLE ARROW-TAIL,0LEFTWARDS ARROW TO BLACK DIAMOND"),
  (0x291e, "0RIGHTWARDS ARROW TO BLACK DIAMOND,0LEFTWARDS ARROW FROM BAR TO BLACK DIAMOND"),
  (0x2920, "0RIGHTWARDS ARROW FROM BAR TO BLACK DIAMOND,0NORTH WEST AND SOUTH EAST ARROW"),
  (0x2922, "1EAST AND SOUTH WEST ARROW,1WEST ARROW WITH HOOK,1EAST ARROW WITH HOOK"),
  (0x2925, "0SOUTH EAST ARROW WITH HOOK,1WEST ARROW WITH HOOK"),
  (0x2927, "0NORTH WEST ARROW AND NORTH EAST ARROW,1EAST ARROW AND SOUTH EAST ARROW"),
  (0x2929, "0SOUTH EAST ARROW AND SOUTH WEST ARROW,1WEST ARROW AND NORTH WEST ARROW"),
  (0x292b, "0RISING DIAGONAL CROSSING FALLING DIAGONAL"),
  (0x292c, "0FALLING DIAGONAL CROSSING RISING DIAGONAL"),
  (0x292d, "0SOUTH EAST ARROW CROSSING NORTH EAST ARROW"),
  (0x292e, "0NORTH EAST ARROW CROSSING SOUTH EAST ARROW"),
  (0x292f, "0FALLING DIAGONAL CROSSING NORTH EAST ARROW"),
  (0x2930, "0RISING DIAGONAL CROSSING SOUTH EAST ARROW"),
  (0x2931, "0NORTH EAST ARROW CROSSING NORTH WEST ARROW,1WEST ARROW CROSSING NORTH EAST ARROW"),
  (0x2933, "0WAVE ARROW POINTING DIRECTLY RIGHT,0ARROW POINTING RIGHTWARDS THEN CURVING UPWARDS"),
  (0x2935, "5DOWNWARDS,2DOWNWARDS THEN CURVING LEFTWARDS,5RIGHTWARDS"),
  (0x2938, "0RIGHT-SIDE ARC CLOCKWISE ARROW,0LEFT-SIDE ARC ANTICLOCKWISE ARROW"),
  (0x293a, "0TOP ARC ANTICLOCKWISE ARROW,0BOTTOM ARC ANTICLOCKWISE ARROW"),
  (0x293c, "0TOP ARC CLOCKWISE ARROW WITH MINUS,2ANTICLOCKWISE ARROW WITH PLUS"),
  (0x293e, "0LOWER RIGHT SEMICIRCULAR CLOCKWISE ARROW,1LEFT SEMICIRCULAR ANTICLOCKWISE ARROW"),
  (0x2940, "0ANTICLOCKWISE CLOSED CIRCLE ARROW,0CLOCKWISE CLOSED CIRCLE ARROW"),
  (0x2942, "0RIGHTWARDS ARROW ABOVE SHORT LEFTWARDS ARROW"),
  (0x2943, "0LEFTWARDS ARROW ABOVE SHORT RIGHTWARDS ARROW"),
  (0x2944, "0SHORT RIGHTWARDS ARROW ABOVE LEFTWARDS ARROW,0RIGHTWARDS ARROW WITH PLUS BELOW"),
  (0x2946, "0LEFTWARDS ARROW WITH PLUS BELOW,0RIGHTWARDS ARROW THROUGH X"),
  (0x2948, "0LEFT RIGHT ARROW THROUGH SMALL CIRCLE,0UPWARDS TWO-HEADED ARROW FROM SMALL CIRCLE"),
  (0x294a, "0LEFT BARB UP RIGHT BARB DOWN HARPOON,2DOWN RIGHT BARB UP HARPOON"),
  (0x294c, "0UP BARB RIGHT DOWN BARB LEFT HARPOON,2LEFT DOWN BARB RIGHT HARPOON"),
  (0x294e, "0LEFT BARB UP RIGHT BARB UP HARPOON,0UP BARB RIGHT DOWN BARB RIGHT HARPOON"),
  (0x2950, "0LEFT BARB DOWN RIGHT BARB DOWN HARPOON,0UP BARB LEFT DOWN BARB LEFT HARPOON"),
  (0x2952, "0LEFTWARDS HARPOON WITH BARB UP TO BAR,0RIGHTWARDS HARPOON WITH BARB UP TO BAR"),
  (0x2954, "0UPWARDS HARPOON WITH BARB RIGHT TO BAR,0DOWNWARDS HARPOON WITH BARB RIGHT TO BAR"),
  (0x2956, "0LEFTWARDS HARPOON WITH BARB DOWN TO BAR,0RIGHTWARDS HARPOON WITH BARB DOWN TO BAR"),
  (0x2958, "0UPWARDS HARPOON WITH BARB LEFT TO BAR,0DOWNWARDS HARPOON WITH BARB LEFT TO BAR"),
  (0x295a, "0LEFTWARDS HARPOON WITH BARB UP FROM BAR,0RIGHTWARDS HARPOON WITH BARB UP FROM BAR"),
  (0x295c, "0UPWARDS HARPOON WITH BARB RIGHT FROM BAR"),
  (0x295d, "0DOWNWARDS HARPOON WITH BARB RIGHT FROM BAR"),
  (0x295e, "0LEFTWARDS HARPOON WITH BARB DOWN FROM BAR"),
  (0x295f, "0RIGHTWARDS HARPOON WITH BARB DOWN FROM BAR,0UPWARDS HARPOON WITH BARB LEFT FROM BAR"),
  (0x2961, "0DOWNWARDS HARPOON WITH BARB LEFT FROM BAR"),
  (0x2962, "0LEFTWARDS HARPOON WITH BARB UP ABOVE LEFTWARDS HARPOON WITH BARB DOWN"),
  (0x2963, "0UPWARDS HARPOON WITH BARB LEFT BESIDE UPWARDS HARPOON WITH BARB RIGHT"),
  (0x2964, "0RIGHTWARDS HARPOON WITH BARB UP ABOVE RIGHTWARDS HARPOON WITH BARB DOWN"),
  (0x2965, "0DOWNWARDS HARPOON WITH BARB LEFT BESIDE DOWNWARDS HARPOON WITH BARB RIGHT"),
  (0x2966, "0LEFTWARDS HARPOON WITH BARB UP ABOVE RIGHTWARDS HARPOON WITH BARB UP"),
  (0x2967, "4DOWN ABOVE RIGHTWARDS HARPOON WITH BARB DOWN"),
  (0x2968, "0RIGHTWARDS HARPOON WITH BARB UP ABOVE LEFTWARDS HARPOON WITH BARB UP"),
  (0x2969, "4DOWN ABOVE LEFTWARDS HARPOON WITH BARB DOWN"),
  (0x296a, "0LEFTWARDS HARPOON WITH BARB UP ABOVE LONG DASH,4DOWN BELOW LONG DASH"),
  (0x296c, "0RIGHTWARDS HARPOON WITH BARB UP ABOVE LONG DASH,4DOWN BELOW LONG DASH"),
  (0x296e, "0UPWARDS HARPOON WITH BARB LEFT BESIDE DOWNWARDS HARPOON WITH BARB RIGHT"),
  (0x296f, "0DOWNWARDS HARPOON WITH BARB LEFT BESIDE UPWARDS HARPOON WITH BARB RIGHT"),
  (0x2970, "0RIGHT DOUBLE ARROW WITH ROUNDED HEAD,0EQUALS SIGN ABOVE RIGHTWARDS ARROW"),
  (0x2972, "0TILDE OPERATOR ABOVE RIGHTWARDS ARROW,0LEFTWARDS ARROW ABOVE TILDE OPERATOR"),
  (0x2974, "0RIGHTWARDS ARROW ABOVE TILDE OPERATOR,3ALMOST EQUAL TO"),
  (0x2976, "0LESS-THAN ABOVE LEFTWARDS ARROW,0LEFTWARDS ARROW THROUGH LESS-THAN"),
  (0x2978, "0GREATER-THAN ABOVE RIGHTWARDS ARROW,0SUBSET ABOVE RIGHTWARDS ARROW"),
  (0x297a, "0LEFTWARDS ARROW THROUGH SUBSET,0SUPERSET ABOVE LEFTWARDS ARROW,0LEFT FISH TAIL"),
  (0x297d, "0RIGHT FISH TAIL,0UP FISH TAIL,0DOWN FISH TAIL,0TRIPLE VERTICAL BAR DELIMITER"),
  (0x2981, "0Z NOTATION SPOT,2TYPE COLON,0LEFT WHITE CURLY BRACKET,0RIGHT WHITE CURLY BRACKET"),
  (0x2985, "0LEFT WHITE PARENTHESIS,0RIGHT WHITE PARENTHESIS,0Z NOTATION LEFT IMAGE BRACKET"),
  (0x2988, "2RIGHT IMAGE BRACKET,2LEFT BINDING BRACKET,2RIGHT BINDING BRACKET"),
  (0x298b, "0LEFT SQUARE BRACKET WITH UNDERBAR,0RIGHT SQUARE BRACKET WITH UNDERBAR"),
  (0x298d, "0LEFT SQUARE BRACKET WITH TICK IN TOP CORNER"),
  (0x298e, "0RIGHT SQUARE BRACKET WITH TICK IN BOTTOM CORNER"),
  (0x298f, "0LEFT SQUARE BRACKET WITH TICK IN BOTTOM CORNER"),
  (0x2990, "0RIGHT SQUARE BRACKET WITH TICK IN TOP CORNER,0LEFT ANGLE BRACKET WITH DOT"),
  (0x2992, "0RIGHT ANGLE BRACKET WITH DOT,0LEFT ARC LESS-THAN BRACKET"),
  (0x2994, "0RIGHT ARC GREATER-THAN BRACKET,0DOUBLE LEFT ARC GREATER-THAN BRACKET"),
  (0x2996, "1RIGHT ARC LESS-THAN BRACKET,0LEFT BLACK TORTOISE SHELL BRACKET"),
  (0x2998, "0RIGHT BLACK TORTOISE SHELL BRACKET,0DOTTED FENCE,0VERTICAL ZIGZAG LINE"),
  (0x299b, "0MEASURED ANGLE OPENING LEFT,0RIGHT ANGLE VARIANT WITH SQUARE"),
  (0x299d, "0MEASURED RIGHT ANGLE WITH DOT,0ANGLE WITH S INSIDE,0ACUTE ANGLE"),
  (0x29a0, "0SPHERICAL ANGLE OPENING LEFT,3UP,0TURNED ANGLE,0REVERSED ANGLE,0ANGLE WITH UNDERBAR"),
  (0x29a5, "0REVERSED ANGLE WITH UNDERBAR,0OBLIQUE ANGLE OPENING UP,3DOWN"),
  (0x29a8, "0MEASURED ANGLE WITH OPEN ARM ENDING IN ARROW POINTING UP AND RIGHT,9UP AND LEFT"),
  (0x29aa, "9DOWN AND RIGHT,9DOWN AND LEFT,9RIGHT AND UP,9LEFT AND UP,9RIGHT AND DOWN"),
  (0x29af, "9LEFT AND DOWN,0REVERSED EMPTY SET,0EMPTY SET WITH OVERBAR,3SMALL CIRCLE ABOVE"),
  (0x29b3, "3RIGHT ARROW ABOVE,3LEFT ARROW ABOVE,0CIRCLE WITH HORIZONTAL BAR"),
  (0x29b6, "0CIRCLED VERTICAL BAR,1PARALLEL,1REVERSE SOLIDUS,1PERPENDICULAR"),
  (0x29ba, "0CIRCLE DIVIDED BY HORIZONTAL BAR AND TOP HALF DIVIDED BY VERTICAL BAR"),
  (0x29bb, "1WITH SUPERIMPOSED X,0CIRCLED ANTICLOCKWISE-ROTATED DIVISION SIGN"),
  (0x29bd, "0UP ARROW THROUGH CIRCLE,0CIRCLED WHITE BULLET,1BULLET,1LESS-THAN,1GREATER-THAN"),
  (0x29c2, "0CIRCLE WITH SMALL CIRCLE TO THE RIGHT,2TWO HORIZONTAL STROKES TO THE RIGHT"),
  (0x29c4, "0SQUARED RISING DIAGONAL SLASH,1FALLING DIAGONAL SLASH,1ASTERISK,1SMALL CIRCLE"),
  (0x29c8, "1SQUARE,0TWO JOINED SQUARES,0TRIANGLE WITH DOT ABOVE,2UNDERBAR,0S IN TRIANGLE"),
  (0x29cd, "0TRIANGLE WITH SERIFS AT BOTTOM,0RIGHT TRIANGLE ABOVE LEFT TRIANGLE"),
  (0x29cf, "0LEFT TRIANGLE BESIDE VERTICAL BAR,0VERTICAL BAR BESIDE RIGHT TRIANGLE"),
  (0x29d1, "0BOWTIE WITH LEFT HALF BLACK,2RIGHT HALF BLACK,0BLACK BOWTIE"),
  (0x29d4, "0TIMES WITH LEFT HALF BLACK,2RIGHT HALF BLACK,0WHITE HOURGLASS,0BLACK HOURGLASS"),
  (0x29d8, "0LEFT WIGGLY FENCE,0RIGHT WIGGLY FENCE,0LEFT DOUBLE WIGGLY FENCE"),
  (0x29db, "0RIGHT DOUBLE WIGGLY FENCE,0INCOMPLETE INFINITY,0TIE OVER INFINITY"),
  (0x29de, "0INFINITY NEGATED WITH VERTICAL BAR,0DOUBLE-ENDED MULTIMAP"),
  (0x29e0, "0SQUARE WITH CONTOURED OUTLINE,0INCREASES AS,0SHUFFLE PRODUCT"),
  (0x29e3, "0EQUALS SIGN AND SLANTED PARALLEL,5WITH TILDE ABOVE"),
  (0x29e5, "0IDENTICAL TO AND SLANTED PARALLEL,0GLEICH STARK,0THERMODYNAMIC"),
  (0x29e8, "0DOWN-POINTING TRIANGLE WITH LEFT HALF BLACK,3RIGHT HALF BLACK"),
  (0x29ea, "0BLACK DIAMOND WITH DOWN ARROW,1LOZENGE,0WHITE CIRCLE WITH DOWN ARROW"),
  (0x29ed, "0BLACK CIRCLE WITH DOWN ARROW,0ERROR-BARRED WHITE SQUARE,1BLACK SQUARE"),
  (0x29f0, "1WHITE DIAMOND,1BLACK DIAMOND,1WHITE CIRCLE,1BLACK CIRCLE,0RULE-DELAYED"),
  (0x29f5, "0REVERSE SOLIDUS OPERATOR,0SOLIDUS WITH OVERBAR"),
  (0x29f7, "0REVERSE SOLIDUS WITH HORIZONTAL STROKE,0BIG SOLIDUS,1REVERSE SOLIDUS,0DOUBLE PLUS"),
  (0x29fb, "0TRIPLE PLUS,0LEFT-POINTING CURVED ANGLE BRACKET"),
  (0x29fd, "0RIGHT-POINTING CURVED ANGLE BRACKET,0TINY,0MINY,0N-ARY CIRCLED DOT OPERATOR"),
  (0x2a01, "2PLUS OPERATOR,2TIMES OPERATOR,1UNION OPERATOR WITH DOT,4PLUS"),
  (0x2a05, "1SQUARE INTERSECTION OPERATOR,2UNION OPERATOR,0TWO LOGICAL AND OPERATOR,2OR OPERATOR"),
  (0x2a09, "0N-ARY TIMES OPERATOR,0MODULO TWO SUM,0SUMMATION WITH INTEGRAL"),
  (0x2a0c, "0QUADRUPLE INTEGRAL OPERATOR,0FINITE PART INTEGRAL,0INTEGRAL WITH DOUBLE STROKE"),
  (0x2a0f, "1AVERAGE WITH SLASH,0CIRCULATION FUNCTION,0ANTICLOCKWISE INTEGRATION"),
  (0x2a12, "0LINE INTEGRATION WITH RECTANGULAR PATH AROUND POLE,3SEMICIRCULAR PATH AROUND POLE"),
  (0x2a14, "2NOT INCLUDING THE POLE,0INTEGRAL AROUND A POINT OPERATOR"),
  (0x2a16, "0QUATERNION INTEGRAL OPERATOR,0INTEGRAL WITH LEFTWARDS ARROW WITH HOOK,2TIMES SIGN"),
  (0x2a19, "2INTERSECTION,2UNION,2OVERBAR,2UNDERBAR,0JOIN,0LARGE LEFT TRIANGLE OPERATOR"),
  (0x2a1f, "0Z NOTATION SCHEMA COMPOSITION,3PIPING,3PROJECTION"),
  (0x2a22, "0PLUS SIGN WITH SMALL CIRCLE ABOVE,3CIRCUMFLEX ACCENT ABOVE,3TILDE ABOVE,3DOT BELOW"),
  (0x2a26, "3TILDE BELOW,3SUBSCRIPT TWO,3BLACK TRIANGLE,0MINUS SIGN WITH COMMA ABOVE,3DOT BELOW"),
  (0x2a2b, "3FALLING DOTS,3RISING DOTS,0PLUS SIGN IN LEFT HALF CIRCLE,3RIGHT HALF CIRCLE"),
  (0x2a2f, "0VECTOR OR CROSS PRODUCT,0MULTIPLICATION SIGN WITH DOT ABOVE,3UNDERBAR"),
  (0x2a32, "0SEMIDIRECT PRODUCT WITH BOTTOM CLOSED,0SMASH PRODUCT"),
  (0x2a34, "0MULTIPLICATION SIGN IN LEFT HALF CIRCLE,3RIGHT HALF CIRCLE"),
  (0x2a36, "0CIRCLED MULTIPLICATION SIGN WITH CIRCUMFLEX ACCENT"),
  (0x2a37, "0MULTIPLICATION SIGN IN DOUBLE CIRCLE,0CIRCLED DIVISION SIGN,0PLUS SIGN IN TRIANGLE"),
  (0x2a3a, "0MINUS SIGN IN TRIANGLE,0MULTIPLICATION SIGN IN TRIANGLE,0INTERIOR PRODUCT"),
  (0x2a3d, "0RIGHTHAND INTERIOR PRODUCT,0Z NOTATION RELATIONAL COMPOSITION"),
  (0x2a3f, "0AMALGAMATION OR COPRODUCT,0INTERSECTION WITH DOT,0UNION WITH MINUS SIGN,2OVERBAR"),
  (0x2a43, "0INTERSECTION WITH OVERBAR,2LOGICAL AND,0UNION WITH LOGICAL OR,1ABOVE INTERSECTION"),
  (0x2a47, "0INTERSECTION ABOVE UNION,0UNION ABOVE BAR ABOVE INTERSECTION"),
  (0x2a49, "0INTERSECTION ABOVE BAR ABOVE UNION,0UNION BESIDE AND JOINED WITH UNION"),
  (0x2a4b, "0INTERSECTION BESIDE AND JOINED WITH INTERSECTION,0CLOSED UNION WITH SERIFS"),
  (0x2a4d, "1INTERSECTION WITH SERIFS,0DOUBLE SQUARE INTERSECTION,2UNION"),
  (0x2a50, "0CLOSED UNION WITH SERIFS AND SMASH PRODUCT,0LOGICAL AND WITH DOT ABOVE"),
  (0x2a52, "1OR WITH DOT ABOVE,0DOUBLE LOGICAL AND,2OR,0TWO INTERSECTING LOGICAL AND,3OR"),
  (0x2a57, "0SLOPING LARGE OR,2AND,0LOGICAL OR OVERLAPPING LOGICAL AND,1AND WITH MIDDLE STEM"),
  (0x2a5b, "1OR WITH MIDDLE STEM,1AND WITH HORIZONTAL DASH,1OR WITH HORIZONTAL DASH"),
  (0x2a5e, "1AND WITH DOUBLE OVERBAR,3UNDERBAR,3DOUBLE UNDERBAR,0SMALL VEE WITH UNDERBAR"),
  (0x2a62, "0LOGICAL OR WITH DOUBLE OVERBAR,4UNDERBAR,0Z NOTATION DOMAIN ANTIRESTRICTION"),
  (0x2a65, "2RANGE ANTIRESTRICTION,0EQUALS SIGN WITH DOT BELOW,0IDENTICAL WITH DOT ABOVE"),
  (0x2a68, "0TRIPLE HORIZONTAL BAR WITH DOUBLE VERTICAL STROKE,4TRIPLE VERTICAL STROKE"),
  (0x2a6a, "0TILDE OPERATOR WITH DOT ABOVE,3RISING DOTS,0SIMILAR MINUS SIMILAR"),
  (0x2a6d, "0CONGRUENT WITH DOT ABOVE,0EQUALS WITH ASTERISK"),
  (0x2a6f, "0ALMOST EQUAL TO WITH CIRCUMFLEX ACCENT,0APPROXIMATELY EQUAL OR EQUAL TO"),
  (0x2a71, "0EQUALS SIGN ABOVE PLUS SIGN,0PLUS SIGN ABOVE EQUALS SIGN"),
  (0x2a73, "0EQUALS SIGN ABOVE TILDE OPERATOR,0DOUBLE COLON EQUAL,0TWO CONSECUTIVE EQUALS SIGNS"),
  (0x2a76, "0THREE CONSECUTIVE EQUALS SIGNS,0EQUALS SIGN WITH TWO DOTS ABOVE AND TWO DOTS BELOW"),
  (0x2a78, "0EQUIVALENT WITH FOUR DOTS ABOVE,0LESS-THAN WITH CIRCLE INSIDE"),
  (0x2a7a, "0GREATER-THAN WITH CIRCLE INSIDE,0LESS-THAN WITH QUESTION MARK ABOVE"),
  (0x2a7c, "0GREATER-THAN WITH QUESTION MARK ABOVE,0LESS-THAN OR SLANTED EQUAL TO"),
  (0x2a7e, "0GREATER-THAN OR SLANTED EQUAL TO,0LESS-THAN OR SLANTED EQUAL TO WITH DOT INSIDE"),
  (0x2a80, "0GREATER-THAN OR SLANTED EQUAL TO WITH DOT INSIDE"),
  (0x2a81, "0LESS-THAN OR SLANTED EQUAL TO WITH DOT ABOVE"),
  (0x2a82, "0GREATER-THAN OR SLANTED EQUAL TO WITH DOT ABOVE"),
  (0x2a83, "0LESS-THAN OR SLANTED EQUAL TO WITH DOT ABOVE RIGHT"),
  (0x2a84, "0GREATER-THAN OR SLANTED EQUAL TO WITH DOT ABOVE LEFT,0LESS-THAN OR APPROXIMATE"),
  (0x2a86, "0GREATER-THAN OR APPROXIMATE,0LESS-THAN AND SINGLE-LINE NOT EQUAL TO"),
  (0x2a88, "0GREATER-THAN AND SINGLE-LINE NOT EQUAL TO,0LESS-THAN AND NOT APPROXIMATE"),
  (0x2a8a, "0GREATER-THAN AND NOT APPROXIMATE"),
  (0x2a8b, "0LESS-THAN ABOVE DOUBLE-LINE EQUAL ABOVE GREATER-THAN"),
  (0x2a8c, "0GREATER-THAN ABOVE DOUBLE-LINE EQUAL ABOVE LESS-THAN"),
  (0x2a8d, "0LESS-THAN ABOVE SIMILAR OR EQUAL,0GREATER-THAN ABOVE SIMILAR OR EQUAL"),
  (0x2a8f, "0LESS-THAN ABOVE SIMILAR ABOVE GREATER-THAN"),
  (0x2a90, "0GREATER-THAN ABOVE SIMILAR ABOVE LESS-THAN"),
  (0x2a91, "0LESS-THAN ABOVE GREATER-THAN ABOVE DOUBLE-LINE EQUAL"),
  (0x2a92, "0GREATER-THAN ABOVE LESS-THAN ABOVE DOUBLE-LINE EQUAL"),
  (0x2a93, "0LESS-THAN ABOVE SLANTED EQUAL ABOVE GREATER-THAN ABOVE SLANTED EQUAL"),
  (0x2a94, "0GREATER-THAN ABOVE SLANTED EQUAL ABOVE LESS-THAN ABOVE SLANTED EQUAL"),
  (0x2a95, "0SLANTED EQUAL TO OR LESS-THAN,4GREATER-THAN,4LESS-THAN WITH DOT INSIDE"),
  (0x2a98, "4GREATER-THAN WITH DOT INSIDE,0DOUBLE-LINE EQUAL TO OR LESS-THAN,4GREATER-THAN"),
  (0x2a9b, "1SLANTED EQUAL TO OR LESS-THAN,5GREATER-THAN,0SIMILAR OR LESS-THAN,2GREATER-THAN"),
  (0x2a9f, "1ABOVE LESS-THAN ABOVE EQUALS SIGN,2GREATER-THAN ABOVE EQUALS SIGN"),
  (0x2aa1, "0DOUBLE NESTED LESS-THAN,2GREATER-THAN,2LESS-THAN WITH UNDERBAR"),
  (0x2aa4, "0GREATER-THAN OVERLAPPING LESS-THAN,1BESIDE LESS-THAN,0LESS-THAN CLOSED BY CURVE"),
  (0x2aa7, "0GREATER-THAN CLOSED BY CURVE,0LESS-THAN CLOSED BY CURVE ABOVE SLANTED EQUAL"),
  (0x2aa9, "0GREATER-THAN CLOSED BY CURVE ABOVE SLANTED EQUAL,0SMALLER THAN,0LARGER THAN"),
  (0x2aac, "0SMALLER THAN OR EQUAL TO,0LARGER THAN OR EQUAL TO,0EQUALS SIGN WITH BUMPY ABOVE"),
  (0x2aaf, "0PRECEDES ABOVE SINGLE-LINE EQUALS SIGN,0SUCCEEDS ABOVE SINGLE-LINE EQUALS SIGN"),
  (0x2ab1, "0PRECEDES ABOVE SINGLE-LINE NOT EQUAL TO,0SUCCEEDS ABOVE SINGLE-LINE NOT EQUAL TO"),
  (0x2ab3, "0PRECEDES ABOVE EQUALS SIGN,0SUCCEEDS ABOVE EQUALS SIGN,0PRECEDES ABOVE NOT EQUAL TO"),
  (0x2ab6, "0SUCCEEDS ABOVE NOT EQUAL TO,0PRECEDES ABOVE ALMOST EQUAL TO"),
  (0x2ab8, "0SUCCEEDS ABOVE ALMOST EQUAL TO,0PRECEDES ABOVE NOT ALMOST EQUAL TO"),
  (0x2aba, "0SUCCEEDS ABOVE NOT ALMOST EQUAL TO,0DOUBLE PRECEDES,1SUCCEEDS,0SUBSET WITH DOT"),
  (0x2abe, "0SUPERSET WITH DOT,0SUBSET WITH PLUS SIGN BELOW,0SUPERSET WITH PLUS SIGN BELOW"),
  (0x2ac1, "0SUBSET WITH MULTIPLICATION SIGN BELOW,0SUPERSET WITH MULTIPLICATION SIGN BELOW"),
  (0x2ac3, "0SUBSET OF OR EQUAL TO WITH DOT ABOVE,0SUPERSET OF OR EQUAL TO WITH DOT ABOVE"),
  (0x2ac5, "0SUBSET OF ABOVE EQUALS SIGN,0SUPERSET OF ABOVE EQUALS SIGN"),
  (0x2ac7, "0SUBSET OF ABOVE TILDE OPERATOR,0SUPERSET OF ABOVE TILDE OPERATOR"),
  (0x2ac9, "0SUBSET OF ABOVE ALMOST EQUAL TO,0SUPERSET OF ABOVE ALMOST EQUAL TO"),
  (0x2acb, "0SUBSET OF ABOVE NOT EQUAL TO,0SUPERSET OF ABOVE NOT EQUAL TO"),
  (0x2acd, "0SQUARE LEFT OPEN BOX OPERATOR,1RIGHT OPEN BOX OPERATOR,0CLOSED SUBSET,1SUPERSET"),
  (0x2ad1, "1SUBSET OR EQUAL TO,1SUPERSET OR EQUAL TO,0SUBSET ABOVE SUPERSET"),
  (0x2ad4, "0SUPERSET ABOVE SUBSET,0SUBSET ABOVE SUBSET,0SUPERSET ABOVE SUPERSET,1BESIDE SUBSET"),
  (0x2ad8, "2AND JOINED BY DASH WITH SUBSET,0ELEMENT OF OPENING DOWNWARDS"),
  (0x2ada, "0PITCHFORK WITH TEE TOP,0TRANSVERSAL INTERSECTION,0FORKING,0NONFORKING"),
  (0x2ade, "0SHORT LEFT TACK,1DOWN TACK,1UP TACK,0PERPENDICULAR WITH S"),
  (0x2ae2, "0VERTICAL BAR TRIPLE RIGHT TURNSTILE,0DOUBLE VERTICAL BAR LEFT TURNSTILE"),
  (0x2ae4, "0VERTICAL BAR DOUBLE LEFT TURNSTILE,0DOUBLE VERTICAL BAR DOUBLE LEFT TURNSTILE"),
  (0x2ae6, "0LONG DASH FROM LEFT MEMBER OF DOUBLE VERTICAL,0SHORT DOWN TACK WITH OVERBAR"),
  (0x2ae8, "1UP TACK WITH UNDERBAR,3ABOVE SHORT DOWN TACK,0DOUBLE DOWN TACK,1UP TACK"),
  (0x2aec, "1STROKE NOT SIGN,0REVERSED DOUBLE STROKE NOT SIGN"),
  (0x2aee, "0DOES NOT DIVIDE WITH REVERSED NEGATION SLASH,0VERTICAL LINE WITH CIRCLE ABOVE"),
  (0x2af0, "4BELOW,0DOWN TACK WITH CIRCLE BELOW,0PARALLEL WITH HORIZONTAL STROKE,2TILDE OPERATOR"),
  (0x2af4, "0TRIPLE VERTICAL BAR BINARY RELATION,3WITH HORIZONTAL STROKE,1COLON OPERATOR"),
  (0x2af7, "1NESTED LESS-THAN,2GREATER-THAN,0DOUBLE-LINE SLANTED LESS-THAN OR EQUAL TO"),
  (0x2afa, "2GREATER-THAN OR EQUAL TO,0TRIPLE SOLIDUS BINARY RELATION"),
  (0x2afc, "0LARGE TRIPLE VERTICAL BAR OPERATOR,0DOUBLE SOLIDUS OPERATOR,0WHITE VERTICAL BAR"),
  (0x2aff, "0N-ARY WHITE VERTICAL BAR,0NORTH EAST WHITE ARROW,1WEST WHITE ARROW"),
  (0x2b02, "0SOUTH EAST WHITE ARROW,1WEST WHITE ARROW,0LEFT RIGHT WHITE ARROW"),
  (0x2b05, "0LEFTWARDS BLACK ARROW,0UPWARDS BLACK ARROW,0DOWNWARDS BLACK ARROW"),
  (0x2b08, "0NORTH EAST BLACK ARROW,1WEST BLACK ARROW,0SOUTH EAST BLACK ARROW,1WEST BLACK ARROW"),
  (0x2b0c, "0LEFT RIGHT BLACK ARROW,0UP DOWN BLACK ARROW,0RIGHTWARDS ARROW WITH TIP DOWNWARDS"),
  (0x2b0f, "4UPWARDS,0LEFTWARDS ARROW WITH TIP DOWNWARDS,4UPWARDS,0SQUARE WITH TOP HALF BLACK"),
  (0x2b13, "2BOTTOM HALF BLACK,2UPPER RIGHT DIAGONAL HALF BLACK,2LOWER LEFT DIAGONAL HALF BLACK"),
  (0x2b16, "0DIAMOND WITH LEFT HALF BLACK,2RIGHT HALF BLACK,2TOP HALF BLACK,2BOTTOM HALF BLACK"),
  (0x2b1a, "0DOTTED SQUARE,0BLACK LARGE SQUARE,0WHITE LARGE SQUARE,0BLACK VERY SMALL SQUARE"),
  (0x2b1e, "0WHITE VERY SMALL SQUARE,0BLACK PENTAGON,0WHITE PENTAGON,1HEXAGON,0BLACK HEXAGON"),
  (0x2b23, "0HORIZONTAL BLACK HEXAGON,0BLACK LARGE CIRCLE,1MEDIUM DIAMOND,0WHITE MEDIUM DIAMOND"),
  (0x2b27, "0BLACK MEDIUM LOZENGE,0WHITE MEDIUM LOZENGE,0BLACK SMALL DIAMOND,2LOZENGE"),
  (0x2b2b, "0WHITE SMALL LOZENGE,0BLACK HORIZONTAL ELLIPSE,0WHITE HORIZONTAL ELLIPSE"),
  (0x2b2e, "0BLACK VERTICAL ELLIPSE,0WHITE VERTICAL ELLIPSE,0LEFT ARROW WITH SMALL CIRCLE"),
  (0x2b31, "0THREE LEFTWARDS ARROWS,0LEFT ARROW WITH CIRCLED PLUS,0LONG LEFTWARDS SQUIGGLE ARROW"),
  (0x2b34, "0LEFTWARDS TWO-HEADED ARROW WITH VERTICAL STROKE,4DOUBLE VERTICAL STROKE,3FROM BAR"),
  (0x2b37, "2TRIPLE DASH ARROW,1ARROW WITH DOTTED STEM,3TAIL WITH VERTICAL STROKE"),
  (0x2b3a, "5DOUBLE VERTICAL STROKE,1TWO-HEADED ARROW WITH TAIL,5WITH VERTICAL STROKE"),
  (0x2b3d, "6DOUBLE VERTICAL STROKE,1ARROW THROUGH X,0WAVE ARROW POINTING DIRECTLY LEFT"),
  (0x2b40, "0EQUALS SIGN ABOVE LEFTWARDS ARROW,0REVERSE TILDE OPERATOR ABOVE LEFTWARDS ARROW"),
  (0x2b42, "0LEFTWARDS ARROW ABOVE REVERSE ALMOST EQUAL TO"),
  (0x2b43, "0RIGHTWARDS ARROW THROUGH GREATER-THAN,3SUPERSET,0LEFTWARDS QUADRUPLE ARROW"),
  (0x2b46, "0RIGHTWARDS QUADRUPLE ARROW,0REVERSE TILDE OPERATOR ABOVE RIGHTWARDS ARROW"),
  (0x2b48, "0RIGHTWARDS ARROW ABOVE REVERSE ALMOST EQUAL TO"),
  (0x2b49, "0TILDE OPERATOR ABOVE LEFTWARDS ARROW,0LEFTWARDS ARROW ABOVE ALMOST EQUAL TO"),
  (0x2b4b, "3REVERSE TILDE OPERATOR,0RIGHTWARDS ARROW ABOVE REVERSE TILDE OPERATOR"),
  (0x2b4d, "0DOWNWARDS TRIANGLE-HEADED ZIGZAG ARROW,0SHORT SLANTED NORTH ARROW"),
  (0x2b4f, "1BACKSLANTED SOUTH ARROW,0WHITE MEDIUM STAR,0BLACK SMALL STAR,0WHITE SMALL STAR"),
  (0x2b53, "0BLACK RIGHT-POINTING PENTAGON,0WHITE RIGHT-POINTING PENTAGON,0HEAVY LARGE CIRCLE"),
  (0x2b56, "1OVAL WITH OVAL INSIDE,1CIRCLE WITH CIRCLE INSIDE,1CIRCLE,1CIRCLED SALTIRE"),
  (0x2b5a, "0SLANTED NORTH ARROW WITH HOOKED HEAD,0BACKSLANTED SOUTH ARROW WITH HOOKED TAIL"),
  (0x2b5c, "0SLANTED NORTH ARROW WITH HORIZONTAL TAIL"),
  (0x2b5d, "0BACKSLANTED SOUTH ARROW WITH HORIZONTAL TAIL"),
  (0x2b5e, "0BENT ARROW POINTING DOWNWARDS THEN NORTH EAST"),
  (0x2b5f, "0SHORT BENT ARROW POINTING DOWNWARDS THEN NORTH EAST"),
  (0x2b60, "0LEFTWARDS TRIANGLE-HEADED ARROW,0UPWARDS TRIANGLE-HEADED ARROW"),
  (0x2b62, "0RIGHTWARDS TRIANGLE-HEADED ARROW,0DOWNWARDS TRIANGLE-HEADED ARROW"),
  (0x2b64, "0LEFT RIGHT TRIANGLE-HEADED ARROW,0UP DOWN TRIANGLE-HEADED ARROW"),
  (0x2b66, "0NORTH WEST TRIANGLE-HEADED ARROW,1EAST TRIANGLE-HEADED ARROW"),
  (0x2b68, "0SOUTH EAST TRIANGLE-HEADED ARROW,1WEST TRIANGLE-HEADED ARROW"),
  (0x2b6a, "0LEFTWARDS TRIANGLE-HEADED DASHED ARROW,0UPWARDS TRIANGLE-HEADED DASHED ARROW"),
  (0x2b6c, "0RIGHTWARDS TRIANGLE-HEADED DASHED ARROW,0DOWNWARDS TRIANGLE-HEADED DASHED ARROW"),
  (0x2b6e, "0CLOCKWISE TRIANGLE-HEADED OPEN CIRCLE ARROW"),
  (0x2b6f, "0ANTICLOCKWISE TRIANGLE-HEADED OPEN CIRCLE ARROW"),
  (0x2b70, "0LEFTWARDS TRIANGLE-HEADED ARROW TO BAR,0UPWARDS TRIANGLE-HEADED ARROW TO BAR"),
  (0x2b72, "0RIGHTWARDS TRIANGLE-HEADED ARROW TO BAR,0DOWNWARDS TRIANGLE-HEADED ARROW TO BAR"),
  (0x2b76, "0NORTH WEST TRIANGLE-HEADED ARROW TO BAR,1EAST TRIANGLE-HEADED ARROW TO BAR"),
  (0x2b78, "0SOUTH EAST TRIANGLE-HEADED ARROW TO BAR,1WEST TRIANGLE-HEADED ARROW TO BAR"),
  (0x2b7a, "0LEFTWARDS TRIANGLE-HEADED ARROW WITH DOUBLE HORIZONTAL STROKE"),
  (0x2b7b, "0UPWARDS TRIANGLE-HEADED ARROW WITH DOUBLE HORIZONTAL STROKE"),
  (0x2b7c, "0RIGHTWARDS TRIANGLE-HEADED ARROW WITH DOUBLE HORIZONTAL STROKE"),
  (0x2b7d, "0DOWNWARDS TRIANGLE-HEADED ARROW WITH DOUBLE HORIZONTAL STROKE,0HORIZONTAL TAB KEY"),
  (0x2b7f, "0VERTICAL TAB KEY"),
  (0x2b80, "0LEFTWARDS TRIANGLE-HEADED ARROW OVER RIGHTWARDS TRIANGLE-HEADED ARROW"),
  (0x2b81, "0UPWARDS TRIANGLE-HEADED ARROW LEFTWARDS OF DOWNWARDS TRIANGLE-HEADED ARROW"),
  (0x2b82, "0RIGHTWARDS TRIANGLE-HEADED ARROW OVER LEFTWARDS TRIANGLE-HEADED ARROW"),
  (0x2b83, "0DOWNWARDS TRIANGLE-HEADED ARROW LEFTWARDS OF UPWARDS TRIANGLE-HEADED ARROW"),
  (0x2b84, "0LEFTWARDS TRIANGLE-HEADED PAIRED ARROWS,0UPWARDS TRIANGLE-HEADED PAIRED ARROWS"),
  (0x2b86, "0RIGHTWARDS TRIANGLE-HEADED PAIRED ARROWS,0DOWNWARDS TRIANGLE-HEADED PAIRED ARROWS"),
  (0x2b88, "0LEFTWARDS BLACK CIRCLED WHITE ARROW,0UPWARDS BLACK CIRCLED WHITE ARROW"),
  (0x2b8a, "0RIGHTWARDS BLACK CIRCLED WHITE ARROW,0DOWNWARDS BLACK CIRCLED WHITE ARROW"),
  (0x2b8c, "0ANTICLOCKWISE TRIANGLE-HEADED RIGHT U-SHAPED ARROW,2BOTTOM U-SHAPED ARROW"),
  (0x2b8e, "2LEFT U-SHAPED ARROW,2TOP U-SHAPED ARROW,0RETURN LEFT,1RIGHT,0NEWLINE LEFT,1RIGHT"),
  (0x2b94, "0FOUR CORNER ARROWS CIRCLING ANTICLOCKWISE,0RIGHTWARDS BLACK ARROW"),
  (0x2b97, "0SYMBOL FOR TYPE A ELECTRONICS,0THREE-D TOP-LIGHTED LEFTWARDS EQUILATERAL ARROWHEAD"),
  (0x2b99, "1RIGHT-LIGHTED UPWARDS EQUILATERAL ARROWHEAD"),
  (0x2b9a, "1TOP-LIGHTED RIGHTWARDS EQUILATERAL ARROWHEAD"),
  (0x2b9b, "1LEFT-LIGHTED DOWNWARDS EQUILATERAL ARROWHEAD,0BLACK LEFTWARDS EQUILATERAL ARROWHEAD"),
  (0x2b9d, "1UPWARDS EQUILATERAL ARROWHEAD,1RIGHTWARDS EQUILATERAL ARROWHEAD"),
  (0x2b9f, "1DOWNWARDS EQUILATERAL ARROWHEAD"),
  (0x2ba0, "0DOWNWARDS TRIANGLE-HEADED ARROW WITH LONG TIP LEFTWARDS,6RIGHTWARDS"),
  (0x2ba2, "0UPWARDS TRIANGLE-HEADED ARROW WITH LONG TIP LEFTWARDS,6RIGHTWARDS"),
  (0x2ba4, "0LEFTWARDS TRIANGLE-HEADED ARROW WITH LONG TIP UPWARDS"),
  (0x2ba5, "0RIGHTWARDS TRIANGLE-HEADED ARROW WITH LONG TIP UPWARDS"),
  (0x2ba6, "0LEFTWARDS TRIANGLE-HEADED ARROW WITH LONG TIP DOWNWARDS"),
  (0x2ba7, "0RIGHTWARDS TRIANGLE-HEADED ARROW WITH LONG TIP DOWNWARDS"),
  (0x2ba8, "0BLACK CURVED DOWNWARDS AND LEFTWARDS ARROW,4RIGHTWARDS ARROW"),
  (0x2baa, "2UPWARDS AND LEFTWARDS ARROW,4RIGHTWARDS ARROW,2LEFTWARDS AND UPWARDS ARROW"),
  (0x2bad, "2RIGHTWARDS AND UPWARDS ARROW,2LEFTWARDS AND DOWNWARDS ARROW"),
  (0x2baf, "2RIGHTWARDS AND DOWNWARDS ARROW,0RIBBON ARROW DOWN LEFT,3RIGHT,2UP LEFT,3RIGHT"),
  (0x2bb4, "2LEFT UP,2RIGHT UP,2LEFT DOWN,2RIGHT DOWN"),
  (0x2bb8, "0UPWARDS WHITE ARROW FROM BAR WITH HORIZONTAL BAR,0UP ARROWHEAD IN A RECTANGLE BOX"),
  (0x2bba, "0OVERLAPPING WHITE SQUARES,2AND BLACK SQUARES,1BLACK SQUARES"),
  (0x2bbd, "0BALLOT BOX WITH LIGHT X,0CIRCLED X,1BOLD X,0BLACK SQUARE CENTRED,1DIAMOND CENTRED"),
  (0x2bc2, "0TURNED BLACK PENTAGON,0HORIZONTAL BLACK OCTAGON,0BLACK OCTAGON"),
  (0x2bc5, "1MEDIUM UP-POINTING TRIANGLE CENTRED,2DOWN-POINTING TRIANGLE CENTRED"),
  (0x2bc7, "2LEFT-POINTING TRIANGLE CENTRED,2RIGHT-POINTING TRIANGLE CENTRED,0NEPTUNE FORM TWO"),
  (0x2bca, "0TOP HALF BLACK CIRCLE,0BOTTOM HALF BLACK CIRCLE,0LIGHT FOUR POINTED BLACK CUSP"),
  (0x2bcd, "0ROTATED LIGHT FOUR POINTED BLACK CUSP,0WHITE FOUR POINTED CUSP"),
  (0x2bcf, "0ROTATED WHITE FOUR POINTED CUSP,0SQUARE POSITION INDICATOR,0UNCERTAINTY SIGN"),
  (0x2bd2, "0GROUP MARK,0PLUTO FORM TWO,2THREE,2FOUR,2FIVE,0TRANSPLUTO,0PROSERPINA,0ASTRAEA"),
  (0x2bda, "0HYGIEA,0PHOLUS,0NESSUS,0WHITE MOON SELENA,0BLACK DIAMOND ON CROSS"),
  (0x2bdf, "0TRUE LIGHT MOON ARTA,0CUPIDO,0HADES,0ZEUS,0KRONOS,0APOLLON,0ADMETOS,0VULCANUS"),
  (0x2be7, "0POSEIDON,0LEFT HALF BLACK STAR,0RIGHT HALF BLACK STAR,0STAR WITH LEFT HALF BLACK"),
  (0x2beb, "2RIGHT HALF BLACK,0LEFTWARDS TWO-HEADED ARROW WITH TRIANGLE ARROWHEADS"),
  (0x2bed, "0UPWARDS TWO-HEADED ARROW WITH TRIANGLE ARROWHEADS"),
  (0x2bee, "0RIGHTWARDS TWO-HEADED ARROW WITH TRIANGLE ARROWHEADS"),
  (0x2bef, "0DOWNWARDS TWO-HEADED ARROW WITH TRIANGLE ARROWHEADS,0ERIS FORM ONE,2TWO,0SEDNA"),
  (0x2bf3, "0RUSSIAN ASTROLOGICAL SYMBOL VIGINTILE,3NOVILE,3QUINTILE,3BINOVILE,3SENTAGON"),
  (0x2bf8, "3TREDECILE,0EQUALS SIGN WITH INFINITY BELOW,0UNITED SYMBOL,0SEPARATED SYMBOL"),
  (0x2bfc, "0DOUBLED SYMBOL,0PASSED SYMBOL,0REVERSED RIGHT ANGLE,0HELLSCHREIBER PAUSE SYMBOL")]

/-- The names of wide and narrow forms, each row behind its first character. -/
def wideNames : List (Nat × String) := [
  (0xff01, "0FULLWIDTH EXCLAMATION MARK,1QUOTATION MARK,1NUMBER SIGN,1DOLLAR SIGN,1PERCENT SIGN"),
  (0xff06, "1AMPERSAND,1APOSTROPHE,1LEFT PARENTHESIS,1RIGHT PARENTHESIS,1ASTERISK,1PLUS SIGN"),
  (0xff0c, "1COMMA,1HYPHEN-MINUS,1FULL STOP,1SOLIDUS,1DIGIT ZERO,2ONE,2TWO,2THREE,2FOUR,2FIVE"),
  (0xff16, "2SIX,2SEVEN,2EIGHT,2NINE,1COLON,1SEMICOLON,1LESS-THAN SIGN,1EQUALS SIGN"),
  (0xff1e, "1GREATER-THAN SIGN,1QUESTION MARK,1COMMERCIAL AT,1LATIN CAPITAL LETTER A,4B,4C,4D,4E"),
  (0xff26, "4F,4G,4H,4I,4J,4K,4L,4M,4N,4O,4P,4Q,4R,4S,4T,4U,4V,4W,4X,4Y,4Z,1LEFT SQUARE BRACKET"),
  (0xff3c, "1REVERSE SOLIDUS,1RIGHT SQUARE BRACKET,1CIRCUMFLEX ACCENT,1LOW LINE,1GRAVE ACCENT"),
  (0xff41, "1LATIN SMALL LETTER A,4B,4C,4D,4E,4F,4G,4H,4I,4J,4K,4L,4M,4N,4O,4P,4Q,4R,4S,4T,4U,4V"),
  (0xff57, "4W,4X,4Y,4Z,1LEFT CURLY BRACKET,1VERTICAL LINE,1RIGHT CURLY BRACKET,1TILDE"),
  (0xff5f, "1LEFT WHITE PARENTHESIS,1RIGHT WHITE PARENTHESIS,0HALFWIDTH IDEOGRAPHIC FULL STOP"),
  (0xff62, "1LEFT CORNER BRACKET,1RIGHT CORNER BRACKET,1IDEOGRAPHIC COMMA,1KATAKANA MIDDLE DOT"),
  (0xff66, "2LETTER WO,3SMALL A,4I,4U,4E,4O,4YA,4YU,4YO,4TU"),
  (0xff70, "1KATAKANA-HIRAGANA PROLONGED SOUND MARK,1KATAKANA LETTER A,3I,3U,3E,3O,3KA,3KI,3KU"),
  (0xff79, "3KE,3KO,3SA,3SI,3SU,3SE,3SO,3TA,3TI,3TU,3TE,3TO,3NA,3NI,3NU,3NE,3NO,3HA,3HI,3HU,3HE"),
  (0xff8e, "3HO,3MA,3MI,3MU,3ME,3MO,3YA,3YU,3YO,3RA,3RI,3RU,3RE,3RO,3WA,3N,2VOICED SOUND MARK"),
  (0xff9f, "2SEMI-VOICED SOUND MARK,1HANGUL FILLER,2LETTER KIYEOK,3SSANGKIYEOK,3KIYEOK-SIOS"),
  (0xffa4, "3NIEUN,3NIEUN-CIEUC,3NIEUN-HIEUH,3TIKEUT,3SSANGTIKEUT,3RIEUL,3RIEUL-KIYEOK"),
  (0xffab, "3RIEUL-MIEUM,3RIEUL-PIEUP,3RIEUL-SIOS,3RIEUL-THIEUTH,3RIEUL-PHIEUPH,3RIEUL-HIEUH"),
  (0xffb1, "3MIEUM,3PIEUP,3SSANGPIEUP,3PIEUP-SIOS,3SIOS,3SSANGSIOS,3IEUNG,3CIEUC,3SSANGCIEUC"),
  (0xffba, "3CHIEUCH,3KHIEUKH,3THIEUTH,3PHIEUPH,3HIEUH"),
  (0xffc2, "3A,3AE,3YA,3YAE,3EO,3E"),
  (0xffca, "3YEO,3YE,3O,3WA,3WAE,3OE"),
  (0xffd2, "3YO,3U,3WEO,3WE,3WI,3YU"),
  (0xffda, "3EU,3YI,3I"),
  (0xffe0, "0FULLWIDTH CENT SIGN,1POUND SIGN,1NOT SIGN,1MACRON,1BROKEN BAR,1YEN SIGN,1WON SIGN"),
  (0xffe8, "0HALFWIDTH FORMS LIGHT VERTICAL,1LEFTWARDS ARROW,1UPWARDS ARROW,1RIGHTWARDS ARROW"),
  (0xffec, "1DOWNWARDS ARROW,1BLACK SQUARE,1WHITE CIRCLE"),
  (0xfff9, "0INTERLINEAR ANNOTATION ANCHOR,2SEPARATOR,2TERMINATOR,0OBJECT REPLACEMENT CHARACTER"),
  (0xfffd, "0REPLACEMENT CHARACTER")]

/-- The names of pictures, each row behind its first character. -/
def pictureNames : List (Nat × String) := [
  (0x1f300, "0CYCLONE,0FOGGY,0CLOSED UMBRELLA,0NIGHT WITH STARS,0SUNRISE OVER MOUNTAINS,0SUNRISE"),
  (0x1f306, "0CITYSCAPE AT DUSK,0SUNSET OVER BUILDINGS,0RAINBOW,0BRIDGE AT NIGHT,0WATER WAVE"),
  (0x1f30b, "0VOLCANO,0MILKY WAY,0EARTH GLOBE EUROPE-AFRICA,2AMERICAS,2ASIA-AUSTRALIA"),
  (0x1f310, "0GLOBE WITH MERIDIANS,0NEW MOON SYMBOL,0WAXING CRESCENT MOON SYMBOL"),
  (0x1f313, "0FIRST QUARTER MOON SYMBOL,0WAXING GIBBOUS MOON SYMBOL,0FULL MOON SYMBOL"),
  (0x1f316, "0WANING GIBBOUS MOON SYMBOL,0LAST QUARTER MOON SYMBOL,0WANING CRESCENT MOON SYMBOL"),
  (0x1f319, "0CRESCENT MOON,0NEW MOON WITH FACE,0FIRST QUARTER MOON WITH FACE"),
  (0x1f31c, "0LAST QUARTER MOON WITH FACE,0FULL MOON WITH FACE,0SUN WITH FACE,0GLOWING STAR"),
  (0x1f320, "0SHOOTING STAR,0THERMOMETER,0BLACK DROPLET,0WHITE SUN,2WITH SMALL CLOUD"),
  (0x1f325, "2BEHIND CLOUD,4WITH RAIN,0CLOUD WITH RAIN,2SNOW,2LIGHTNING,2TORNADO,0FOG"),
  (0x1f32c, "0WIND BLOWING FACE,0HOT DOG,0TACO,0BURRITO,0CHESTNUT,0SEEDLING,0EVERGREEN TREE"),
  (0x1f333, "0DECIDUOUS TREE,0PALM TREE,0CACTUS,0HOT PEPPER,0TULIP,0CHERRY BLOSSOM,0ROSE"),
  (0x1f33a, "0HIBISCUS,0SUNFLOWER,0BLOSSOM,0EAR OF MAIZE,2RICE,0HERB,0FOUR LEAF CLOVER"),
  (0x1f341, "0MAPLE LEAF,0FALLEN LEAF,0LEAF FLUTTERING IN WIND,0MUSHROOM,0TOMATO,0AUBERGINE"),
  (0x1f347, "0GRAPES,0MELON,0WATERMELON,0TANGERINE,0LEMON,0BANANA,0PINEAPPLE,0RED APPLE"),
  (0x1f34f, "0GREEN APPLE,0PEAR,0PEACH,0CHERRIES,0STRAWBERRY,0HAMBURGER,0SLICE OF PIZZA"),
  (0x1f356, "0MEAT ON BONE,0POULTRY LEG,0RICE CRACKER,1BALL,0COOKED RICE,0CURRY AND RICE"),
  (0x1f35c, "0STEAMING BOWL,0SPAGHETTI,0BREAD,0FRENCH FRIES,0ROASTED SWEET POTATO,0DANGO,0ODEN"),
  (0x1f363, "0SUSHI,0FRIED SHRIMP,0FISH CAKE WITH SWIRL DESIGN,0SOFT ICE CREAM,0SHAVED ICE"),
  (0x1f368, "0ICE CREAM,0DOUGHNUT,0COOKIE,0CHOCOLATE BAR,0CANDY,0LOLLIPOP,0CUSTARD,0HONEY POT"),
  (0x1f370, "0SHORTCAKE,0BENTO BOX,0POT OF FOOD,0COOKING,0FORK AND KNIFE,0TEACUP WITHOUT HANDLE"),
  (0x1f376, "0SAKE BOTTLE AND CUP,0WINE GLASS,0COCKTAIL GLASS,0TROPICAL DRINK,0BEER MUG"),
  (0x1f37b, "0CLINKING BEER MUGS,0BABY BOTTLE,0FORK AND KNIFE WITH PLATE"),
  (0x1f37e, "0BOTTLE WITH POPPING CORK,0POPCORN,0RIBBON,0WRAPPED PRESENT,0BIRTHDAY CAKE"),
  (0x1f383, "0JACK-O-LANTERN,0CHRISTMAS TREE,0FATHER CHRISTMAS,0FIREWORKS,0FIREWORK SPARKLER"),
  (0x1f388, "0BALLOON,0PARTY POPPER,0CONFETTI BALL,0TANABATA TREE,0CROSSED FLAGS,0PINE DECORATION"),
  (0x1f38e, "0JAPANESE DOLLS,0CARP STREAMER,0WIND CHIME,0MOON VIEWING CEREMONY,0SCHOOL SATCHEL"),
  (0x1f393, "0GRADUATION CAP,0HEART WITH TIP ON THE LEFT,0BOUQUET OF FLOWERS,0MILITARY MEDAL"),
  (0x1f397, "0REMINDER RIBBON,0MUSICAL KEYBOARD WITH JACKS,0STUDIO MICROPHONE,0LEVEL SLIDER"),
  (0x1f39b, "0CONTROL KNOBS,0BEAMED ASCENDING MUSICAL NOTES,1DESCENDING MUSICAL NOTES"),
  (0x1f39e, "0FILM FRAMES,0ADMISSION TICKETS,0CAROUSEL HORSE,0FERRIS WHEEL,0ROLLER COASTER"),
  (0x1f3a3, "0FISHING POLE AND FISH,0MICROPHONE,0MOVIE CAMERA,0CINEMA,0HEADPHONE,0ARTIST PALETTE"),
  (0x1f3a9, "0TOP HAT,0CIRCUS TENT,0TICKET,0CLAPPER BOARD,0PERFORMING ARTS,0VIDEO GAME"),
  (0x1f3af, "0DIRECT HIT,0SLOT MACHINE,0BILLIARDS,0GAME DIE,0BOWLING,0FLOWER PLAYING CARDS"),
  (0x1f3b5, "0MUSICAL NOTE,0MULTIPLE MUSICAL NOTES,0SAXOPHONE,0GUITAR,0MUSICAL KEYBOARD,0TRUMPET"),
  (0x1f3bb, "0VIOLIN,0MUSICAL SCORE,0RUNNING SHIRT WITH SASH,0TENNIS RACQUET AND BALL"),
  (0x1f3bf, "0SKI AND SKI BOOT,0BASKETBALL AND HOOP,0CHEQUERED FLAG,0SNOWBOARDER,0RUNNER,0SURFER"),
  (0x1f3c5, "0SPORTS MEDAL,0TROPHY,0HORSE RACING,0AMERICAN FOOTBALL,0RUGBY FOOTBALL,0SWIMMER"),
  (0x1f3cb, "0WEIGHT LIFTER,0GOLFER,0RACING MOTORCYCLE,1CAR,0CRICKET BAT AND BALL,0VOLLEYBALL"),
  (0x1f3d1, "0FIELD HOCKEY STICK AND BALL,0ICE HOCKEY STICK AND PUCK"),
  (0x1f3d3, "0TABLE TENNIS PADDLE AND BALL,0SNOW CAPPED MOUNTAIN,0CAMPING,0BEACH WITH UMBRELLA"),
  (0x1f3d7, "0BUILDING CONSTRUCTION,0HOUSE BUILDINGS,0CITYSCAPE,0DERELICT HOUSE BUILDING"),
  (0x1f3db, "0CLASSICAL BUILDING,0DESERT,1ISLAND,0NATIONAL PARK,0STADIUM,0HOUSE BUILDING"),
  (0x1f3e1, "1WITH GARDEN,0OFFICE BUILDING,0JAPANESE POST OFFICE,0EUROPEAN POST OFFICE,0HOSPITAL"),
  (0x1f3e6, "0BANK,0AUTOMATED TELLER MACHINE,0HOTEL,0LOVE HOTEL,0CONVENIENCE STORE,0SCHOOL"),
  (0x1f3ec, "0DEPARTMENT STORE,0FACTORY,0IZAKAYA LANTERN,0JAPANESE CASTLE,0EUROPEAN CASTLE"),
  (0x1f3f1, "0WHITE PENNANT,0BLACK PENNANT,0WAVING WHITE FLAG,1BLACK FLAG,0ROSETTE,0BLACK ROSETTE"),
  (0x1f3f7, "0LABEL,0BADMINTON RACQUET AND SHUTTLECOCK,0BOW AND ARROW,0AMPHORA"),
  (0x1f3fb, "0EMOJI MODIFIER FITZPATRICK TYPE-1-2,3TYPE-3,3TYPE-4,3TYPE-5,3TYPE-6,0RAT,0MOUSE,0OX"),
  (0x1f403, "0WATER BUFFALO,0COW,0TIGER,0LEOPARD,0RABBIT,0CAT,0DRAGON,0CROCODILE,0WHALE,0SNAIL"),
  (0x1f40d, "0SNAKE,0HORSE,0RAM,0GOAT,0SHEEP,0MONKEY,0ROOSTER,0CHICKEN,0DOG,0PIG,0BOAR,0ELEPHANT"),
  (0x1f419, "0OCTOPUS,0SPIRAL SHELL,0BUG,0ANT,0HONEYBEE,0LADY BEETLE,0FISH,0TROPICAL FISH"),
  (0x1f421, "0BLOWFISH,0TURTLE,0HATCHING CHICK,0BABY CHICK,0FRONT-FACING BABY CHICK,0BIRD"),
  (0x1f427, "0PENGUIN,0KOALA,0POODLE,0DROMEDARY CAMEL,0BACTRIAN CAMEL,0DOLPHIN,0MOUSE FACE"),
  (0x1f42e, "0COW FACE,0TIGER FACE,0RABBIT FACE,0CAT FACE,0DRAGON FACE,0SPOUTING WHALE"),
  (0x1f434, "0HORSE FACE,0MONKEY FACE,0DOG FACE,0PIG FACE,0FROG FACE,0HAMSTER FACE,0WOLF FACE"),
  (0x1f43b, "0BEAR FACE,0PANDA FACE,0PIG NOSE,0PAW PRINTS,0CHIPMUNK,0EYES,0EYE,0EAR,0NOSE,0MOUTH"),
  (0x1f445, "0TONGUE,0WHITE UP POINTING BACKHAND INDEX,1DOWN POINTING BACKHAND INDEX"),
  (0x1f448, "1LEFT POINTING BACKHAND INDEX,1RIGHT POINTING BACKHAND INDEX,0FISTED HAND SIGN"),
  (0x1f44b, "0WAVING HAND SIGN,0OK HAND SIGN,0THUMBS UP SIGN,1DOWN SIGN,0CLAPPING HANDS SIGN"),
  (0x1f450, "0OPEN HANDS SIGN,0CROWN,0WOMANS HAT,0EYEGLASSES,0NECKTIE,0T-SHIRT,0JEANS,0DRESS"),
  (0x1f458, "0KIMONO,0BIKINI,0WOMANS CLOTHES,0PURSE,0HANDBAG,0POUCH,0MANS SHOE,0ATHLETIC SHOE"),
  (0x1f460, "0HIGH-HEELED SHOE,0WOMANS SANDAL,1BOOTS,0FOOTPRINTS,0BUST IN SILHOUETTE"),
  (0x1f465, "0BUSTS IN SILHOUETTE,0BOY,0GIRL,0MAN,0WOMAN,0FAMILY,0MAN AND WOMAN HOLDING HANDS"),
  (0x1f46c, "0TWO MEN HOLDING HANDS,1WOMEN HOLDING HANDS,0POLICE OFFICER,0WOMAN WITH BUNNY EARS"),
  (0x1f470, "0BRIDE WITH VEIL,0PERSON WITH BLOND HAIR,0MAN WITH GUA PI MAO,2TURBAN,0OLDER MAN"),
  (0x1f475, "1WOMAN,0BABY,0CONSTRUCTION WORKER,0PRINCESS,0JAPANESE OGRE,1GOBLIN,0GHOST"),
  (0x1f47c, "0BABY ANGEL,0EXTRATERRESTRIAL ALIEN,0ALIEN MONSTER,0IMP,0SKULL"),
  (0x1f481, "0INFORMATION DESK PERSON,0GUARDSMAN,0DANCER,0LIPSTICK,0NAIL POLISH,0FACE MASSAGE"),
  (0x1f487, "0HAIRCUT,0BARBER POLE,0SYRINGE,0PILL,0KISS MARK,0LOVE LETTER,0RING,0GEM STONE,0KISS"),
  (0x1f490, "0BOUQUET,0COUPLE WITH HEART,0WEDDING,0BEATING HEART,0BROKEN HEART,0TWO HEARTS"),
  (0x1f496, "0SPARKLING HEART,0GROWING HEART,0HEART WITH ARROW,0BLUE HEART,0GREEN HEART"),
  (0x1f49b, "0YELLOW HEART,0PURPLE HEART,0HEART WITH RIBBON,0REVOLVING HEARTS,0HEART DECORATION"),
  (0x1f4a0, "0DIAMOND SHAPE WITH A DOT INSIDE,0ELECTRIC LIGHT BULB,0ANGER SYMBOL,0BOMB"),
  (0x1f4a4, "0SLEEPING SYMBOL,0COLLISION SYMBOL,0SPLASHING SWEAT SYMBOL,0DROPLET,0DASH SYMBOL"),
  (0x1f4a9, "0PILE OF POO,0FLEXED BICEPS,0DIZZY SYMBOL,0SPEECH BALLOON,0THOUGHT BALLOON"),
  (0x1f4ae, "0WHITE FLOWER,0HUNDRED POINTS SYMBOL,0MONEY BAG,0CURRENCY EXCHANGE"),
  (0x1f4b2, "0HEAVY DOLLAR SIGN,0CREDIT CARD,0BANKNOTE WITH YEN SIGN,2DOLLAR SIGN,2EURO SIGN"),
  (0x1f4b7, "2POUND SIGN,0MONEY WITH WINGS,0CHART WITH UPWARDS TREND AND YEN SIGN,0SEAT"),
  (0x1f4bb, "0PERSONAL COMPUTER,0BRIEFCASE,0MINIDISC,0FLOPPY DISK,0OPTICAL DISC,0DVD,0FILE FOLDER"),
  (0x1f4c2, "0OPEN FILE FOLDER,0PAGE WITH CURL,1FACING UP,0CALENDAR,0TEAR-OFF CALENDAR"),
  (0x1f4c7, "0CARD INDEX,0CHART WITH UPWARDS TREND,2DOWNWARDS TREND,0BAR CHART,0CLIPBOARD"),
  (0x1f4cc, "0PUSHPIN,0ROUND PUSHPIN,0PAPERCLIP,0STRAIGHT RULER,0TRIANGULAR RULER,0BOOKMARK TABS"),
  (0x1f4d2, "0LEDGER,0NOTEBOOK,1WITH DECORATIVE COVER,0CLOSED BOOK,0OPEN BOOK,0GREEN BOOK"),
  (0x1f4d8, "0BLUE BOOK,0ORANGE BOOK,0BOOKS,0NAME BADGE,0SCROLL,0MEMO,0TELEPHONE RECEIVER,0PAGER"),
  (0x1f4e0, "0FAX MACHINE,0SATELLITE ANTENNA,0PUBLIC ADDRESS LOUDSPEAKER,0CHEERING MEGAPHONE"),
  (0x1f4e4, "0OUTBOX TRAY,0INBOX TRAY,0PACKAGE,0E-MAIL SYMBOL,0INCOMING ENVELOPE"),
  (0x1f4e9, "0ENVELOPE WITH DOWNWARDS ARROW ABOVE,0CLOSED MAILBOX WITH LOWERED FLAG,3RAISED FLAG"),
  (0x1f4ec, "0OPEN MAILBOX WITH RAISED FLAG,3LOWERED FLAG,0POSTBOX,0POSTAL HORN,0NEWSPAPER"),
  (0x1f4f1, "0MOBILE PHONE,2WITH RIGHTWARDS ARROW AT LEFT,0VIBRATION MODE,0MOBILE PHONE OFF"),
  (0x1f4f5, "0NO MOBILE PHONES,0ANTENNA WITH BARS,0CAMERA,1WITH FLASH,0VIDEO CAMERA,0TELEVISION"),
  (0x1f4fb, "0RADIO,0VIDEOCASSETTE,0FILM PROJECTOR,0PORTABLE STEREO,0PRAYER BEADS"),
  (0x1f500, "0TWISTED RIGHTWARDS ARROWS,0CLOCKWISE RIGHTWARDS AND LEFTWARDS OPEN CIRCLE ARROWS"),
  (0x1f502, "7WITH CIRCLED ONE OVERLAY,1DOWNWARDS AND UPWARDS OPEN CIRCLE ARROWS"),
  (0x1f504, "0ANTICLOCKWISE DOWNWARDS AND UPWARDS OPEN CIRCLE ARROWS,0LOW BRIGHTNESS SYMBOL"),
  (0x1f506, "0HIGH BRIGHTNESS SYMBOL,0SPEAKER WITH CANCELLATION STROKE,0SPEAKER"),
  (0x1f509, "1WITH ONE SOUND WAVE,2THREE SOUND WAVES,0BATTERY,0ELECTRIC PLUG"),
  (0x1f50d, "0LEFT-POINTING MAGNIFYING GLASS,0RIGHT-POINTING MAGNIFYING GLASS,0LOCK WITH INK PEN"),
  (0x1f510, "0CLOSED LOCK WITH KEY,0KEY,0LOCK,0OPEN LOCK,0BELL,1WITH CANCELLATION STROKE"),
  (0x1f516, "0BOOKMARK,0LINK SYMBOL,0RADIO BUTTON,0BACK WITH LEFTWARDS ARROW ABOVE"),
  (0x1f51a, "0END WITH LEFTWARDS ARROW ABOVE"),
  (0x1f51b, "0ON WITH EXCLAMATION MARK WITH LEFT RIGHT ARROW ABOVE"),
  (0x1f51c, "0SOON WITH RIGHTWARDS ARROW ABOVE,0TOP WITH UPWARDS ARROW ABOVE"),
  (0x1f51e, "0NO ONE UNDER EIGHTEEN SYMBOL,0KEYCAP TEN,0INPUT SYMBOL FOR LATIN CAPITAL LETTERS"),
  (0x1f521, "4SMALL LETTERS,3NUMBERS,3SYMBOLS,3LATIN LETTERS,0FIRE,0ELECTRIC TORCH,0WRENCH"),
  (0x1f528, "0HAMMER,0NUT AND BOLT,0HOCHO,0PISTOL,0MICROSCOPE,0TELESCOPE,0CRYSTAL BALL"),
  (0x1f52f, "0SIX POINTED STAR WITH MIDDLE DOT,0JAPANESE SYMBOL FOR BEGINNER,0TRIDENT EMBLEM"),
  (0x1f532, "0BLACK SQUARE BUTTON,0WHITE SQUARE BUTTON,0LARGE RED CIRCLE,1BLUE CIRCLE"),
  (0x1f536, "1ORANGE DIAMOND,1BLUE DIAMOND,0SMALL ORANGE DIAMOND,1BLUE DIAMOND"),
  (0x1f53a, "0UP-POINTING RED TRIANGLE,0DOWN-POINTING RED TRIANGLE"),
  (0x1f53c, "0UP-POINTING SMALL RED TRIANGLE,0DOWN-POINTING SMALL RED TRIANGLE"),
  (0x1f53e, "0LOWER RIGHT SHADOWED WHITE CIRCLE,0UPPER RIGHT SHADOWED WHITE CIRCLE"),
  (0x1f540, "0CIRCLED CROSS POMMEE,0CROSS POMMEE WITH HALF-CIRCLE BELOW,1POMMEE"),
  (0x1f543, "0NOTCHED LEFT SEMICIRCLE WITH THREE DOTS,1RIGHT SEMICIRCLE WITH THREE DOTS"),
  (0x1f545, "0SYMBOL FOR MARKS CHAPTER,0WHITE LATIN CROSS,0HEAVY LATIN CROSS,0CELTIC CROSS"),
  (0x1f549, "0OM SYMBOL,0DOVE OF PEACE,0KAABA,0MOSQUE,0SYNAGOGUE,0MENORAH WITH NINE BRANCHES"),
  (0x1f54f, "0BOWL OF HYGIEIA,0CLOCK FACE ONE OCLOCK,2TWO OCLOCK,2THREE OCLOCK,2FOUR OCLOCK"),
  (0x1f554, "2FIVE OCLOCK,2SIX OCLOCK,2SEVEN OCLOCK,2EIGHT OCLOCK,2NINE OCLOCK,2TEN OCLOCK"),
  (0x1f55a, "2ELEVEN OCLOCK,2TWELVE OCLOCK,2ONE-THIRTY,2TWO-THIRTY,2THREE-THIRTY,2FOUR-THIRTY"),
  (0x1f560, "2FIVE-THIRTY,2SIX-THIRTY,2SEVEN-THIRTY,2EIGHT-THIRTY,2NINE-THIRTY,2TEN-THIRTY"),
  (0x1f566, "2ELEVEN-THIRTY,2TWELVE-THIRTY,0RIGHT SPEAKER,2WITH ONE SOUND WAVE,3THREE SOUND WAVES"),
  (0x1f56b, "0BULLHORN,1WITH SOUND WAVES,0RINGING BELL,0BOOK,0CANDLE,0MANTELPIECE CLOCK"),
  (0x1f571, "0BLACK SKULL AND CROSSBONES,0NO PIRACY,0HOLE,0MAN IN BUSINESS SUIT LEVITATING"),
  (0x1f575, "0SLEUTH OR SPY,0DARK SUNGLASSES,0SPIDER,1WEB,0JOYSTICK,0MAN DANCING"),
  (0x1f57b, "0LEFT HAND TELEPHONE RECEIVER,0TELEPHONE RECEIVER WITH PAGE"),
  (0x1f57d, "0RIGHT HAND TELEPHONE RECEIVER,0WHITE TOUCHTONE TELEPHONE,0BLACK TOUCHTONE TELEPHONE"),
  (0x1f580, "0TELEPHONE ON TOP OF MODEM,0CLAMSHELL MOBILE PHONE,0BACK OF ENVELOPE"),
  (0x1f583, "0STAMPED ENVELOPE,0ENVELOPE WITH LIGHTNING,0FLYING ENVELOPE"),
  (0x1f586, "0PEN OVER STAMPED ENVELOPE,0LINKED PAPERCLIPS,0BLACK PUSHPIN,0LOWER LEFT PENCIL"),
  (0x1f58a, "2BALLPOINT PEN,2FOUNTAIN PEN,2PAINTBRUSH,2CRAYON,0LEFT WRITING HAND"),
  (0x1f58f, "0TURNED OK HAND SIGN,0RAISED HAND WITH FINGERS SPLAYED"),
  (0x1f591, "0REVERSED RAISED HAND WITH FINGERS SPLAYED,1THUMBS UP SIGN,2DOWN SIGN,1VICTORY HAND"),
  (0x1f595, "1HAND WITH MIDDLE FINGER EXTENDED"),
  (0x1f596, "0RAISED HAND WITH PART BETWEEN MIDDLE AND RING FINGERS"),
  (0x1f597, "0WHITE DOWN POINTING LEFT HAND INDEX,0SIDEWAYS WHITE LEFT POINTING INDEX"),
  (0x1f599, "2RIGHT POINTING INDEX,1BLACK LEFT POINTING INDEX,2RIGHT POINTING INDEX"),
  (0x1f59c, "0BLACK LEFT POINTING BACKHAND INDEX,1RIGHT POINTING BACKHAND INDEX"),
  (0x1f59e, "0SIDEWAYS WHITE UP POINTING INDEX,2DOWN POINTING INDEX,1BLACK UP POINTING INDEX"),
  (0x1f5a1, "2DOWN POINTING INDEX,0BLACK UP POINTING BACKHAND INDEX,1DOWN POINTING BACKHAND INDEX"),
  (0x1f5a4, "1HEART,0DESKTOP COMPUTER,0KEYBOARD AND MOUSE,0THREE NETWORKED COMPUTERS,0PRINTER"),
  (0x1f5a9, "0POCKET CALCULATOR,0BLACK HARD SHELL FLOPPY DISK,0WHITE HARD SHELL FLOPPY DISK"),
  (0x1f5ac, "0SOFT SHELL FLOPPY DISK,0TAPE CARTRIDGE,0WIRED KEYBOARD,0ONE BUTTON MOUSE"),
  (0x1f5b0, "0TWO BUTTON MOUSE,0THREE BUTTON MOUSE,0TRACKBALL,0OLD PERSONAL COMPUTER,0HARD DISK"),
  (0x1f5b5, "0SCREEN,0PRINTER ICON,0FAX ICON,0OPTICAL DISC ICON,0DOCUMENT WITH TEXT,3AND PICTURE"),
  (0x1f5bb, "2PICTURE,0FRAME WITH PICTURE,2TILES,2AN X,0BLACK FOLDER,0FOLDER,0OPEN FOLDER"),
  (0x1f5c2, "0CARD INDEX DIVIDERS,1FILE BOX,0FILE CABINET,0EMPTY NOTE,2PAGE,2PAD,0NOTE,1PAGE,1PAD"),
  (0x1f5cb, "0EMPTY DOCUMENT,1PAGE,1PAGES,0DOCUMENT,0PAGE,0PAGES,0WASTEBASKET,0SPIRAL NOTE PAD"),
  (0x1f5d3, "1CALENDAR PAD,0DESKTOP WINDOW,0MINIMIZE,0MAXIMIZE,0OVERLAP"),
  (0x1f5d8, "0CLOCKWISE RIGHT AND LEFT SEMICIRCLE ARROWS,0CANCELLATION X"),
  (0x1f5da, "0INCREASE FONT SIZE SYMBOL,0DECREASE FONT SIZE SYMBOL,0COMPRESSION,0OLD KEY"),
  (0x1f5de, "0ROLLED-UP NEWSPAPER,0PAGE WITH CIRCLED TEXT,0STOCK CHART,0DAGGER KNIFE,0LIPS"),
  (0x1f5e3, "0SPEAKING HEAD IN SILHOUETTE,0THREE RAYS ABOVE,2BELOW,2LEFT,2RIGHT"),
  (0x1f5e8, "0LEFT SPEECH BUBBLE,0RIGHT SPEECH BUBBLE,0TWO SPEECH BUBBLES,0THREE SPEECH BUBBLES"),
  (0x1f5ec, "0LEFT THOUGHT BUBBLE,0RIGHT THOUGHT BUBBLE,0LEFT ANGER BUBBLE,0RIGHT ANGER BUBBLE"),
  (0x1f5f0, "0MOOD BUBBLE,0LIGHTNING MOOD BUBBLE,1MOOD,0BALLOT BOX WITH BALLOT,1SCRIPT X"),
  (0x1f5f5, "1BOX WITH SCRIPT X,1BOLD SCRIPT X,1BOX WITH BOLD SCRIPT X,0LIGHT CHECK MARK"),
  (0x1f5f9, "0BALLOT BOX WITH BOLD CHECK,0WORLD MAP,0MOUNT FUJI,0TOKYO TOWER,0STATUE OF LIBERTY"),
  (0x1f5fe, "0SILHOUETTE OF JAPAN,0MOYAI,0GRINNING FACE,2WITH SMILING EYES"),
  (0x1f602, "0FACE WITH TEARS OF JOY,0SMILING FACE WITH OPEN MOUTH,5AND SMILING EYES,6COLD SWEAT"),
  (0x1f606, "6TIGHTLY-CLOSED EYES,3HALO,3HORNS,0WINKING FACE,0SMILING FACE WITH SMILING EYES"),
  (0x1f60b, "0FACE SAVOURING DELICIOUS FOOD,0RELIEVED FACE,0SMILING FACE WITH HEART-SHAPED EYES"),
  (0x1f60e, "3SUNGLASSES,0SMIRKING FACE,0NEUTRAL FACE,0EXPRESSIONLESS FACE,0UNAMUSED FACE"),
  (0x1f613, "0FACE WITH COLD SWEAT,0PENSIVE FACE,0CONFUSED FACE,0CONFOUNDED FACE,0KISSING FACE"),
  (0x1f618, "0FACE THROWING A KISS,0KISSING FACE WITH SMILING EYES,3CLOSED EYES"),
  (0x1f61b, "0FACE WITH STUCK-OUT TONGUE,4AND WINKING EYE,5TIGHTLY-CLOSED EYES,0DISAPPOINTED FACE"),
  (0x1f61f, "0WORRIED FACE,0ANGRY FACE,0POUTING FACE,0CRYING FACE,0PERSEVERING FACE"),
  (0x1f624, "0FACE WITH LOOK OF TRIUMPH,0DISAPPOINTED BUT RELIEVED FACE"),
  (0x1f626, "0FROWNING FACE WITH OPEN MOUTH,0ANGUISHED FACE,0FEARFUL FACE,0WEARY FACE"),
  (0x1f62a, "0SLEEPY FACE,0TIRED FACE,0GRIMACING FACE,0LOUDLY CRYING FACE,0FACE WITH OPEN MOUTH"),
  (0x1f62f, "0HUSHED FACE,0FACE WITH OPEN MOUTH AND COLD SWEAT,1SCREAMING IN FEAR"),
  (0x1f632, "0ASTONISHED FACE,0FLUSHED FACE,0SLEEPING FACE,0DIZZY FACE,0FACE WITHOUT MOUTH"),
  (0x1f637, "1WITH MEDICAL MASK,0GRINNING CAT FACE WITH SMILING EYES,0CAT FACE WITH TEARS OF JOY"),
  (0x1f63a, "0SMILING CAT FACE WITH OPEN MOUTH,4HEART-SHAPED EYES,0CAT FACE WITH WRY SMILE"),
  (0x1f63d, "0KISSING CAT FACE WITH CLOSED EYES,0POUTING CAT FACE,0CRYING CAT FACE"),
  (0x1f640, "0WEARY CAT FACE,0SLIGHTLY FROWNING FACE,1SMILING FACE,0UPSIDE-DOWN FACE"),
  (0x1f644, "0FACE WITH ROLLING EYES,2NO GOOD GESTURE,2OK GESTURE,0PERSON BOWING DEEPLY"),
  (0x1f648, "0SEE-NO-EVIL MONKEY,0HEAR-NO-EVIL MONKEY,0SPEAK-NO-EVIL MONKEY"),
  (0x1f64b, "0HAPPY PERSON RAISING ONE HAND,0PERSON RAISING BOTH HANDS IN CELEBRATION,1FROWNING"),
  (0x1f64e, "1WITH POUTING FACE,2FOLDED HANDS,0NORTH WEST POINTING LEAF,0SOUTH WEST POINTING LEAF"),
  (0x1f652, "0NORTH EAST POINTING LEAF,0SOUTH EAST POINTING LEAF,0TURNED NORTH WEST POINTING LEAF"),
  (0x1f655, "1SOUTH WEST POINTING LEAF,1NORTH EAST POINTING LEAF,1SOUTH EAST POINTING LEAF"),
  (0x1f658, "0NORTH WEST POINTING VINE LEAF,0SOUTH WEST POINTING VINE LEAF"),
  (0x1f65a, "0NORTH EAST POINTING VINE LEAF,0SOUTH EAST POINTING VINE LEAF"),
  (0x1f65c, "0HEAVY NORTH WEST POINTING VINE LEAF,1SOUTH WEST POINTING VINE LEAF"),
  (0x1f65e, "1NORTH EAST POINTING VINE LEAF,1SOUTH EAST POINTING VINE LEAF"),
  (0x1f660, "0NORTH WEST POINTING BUD,0SOUTH WEST POINTING BUD,0NORTH EAST POINTING BUD"),
  (0x1f663, "0SOUTH EAST POINTING BUD,0HEAVY NORTH WEST POINTING BUD,1SOUTH WEST POINTING BUD"),
  (0x1f666, "1NORTH EAST POINTING BUD,1SOUTH EAST POINTING BUD,0HOLLOW QUILT SQUARE ORNAMENT"),
  (0x1f669, "4IN BLACK SQUARE,0SOLID QUILT SQUARE ORNAMENT,4IN BLACK SQUARE,0LEFTWARDS ROCKET"),
  (0x1f66d, "0UPWARDS ROCKET,0RIGHTWARDS ROCKET,0DOWNWARDS ROCKET,0SCRIPT LIGATURE ET ORNAMENT"),
  (0x1f671, "0HEAVY SCRIPT LIGATURE ET ORNAMENT,0LIGATURE OPEN ET ORNAMENT"),
  (0x1f673, "0HEAVY LIGATURE OPEN ET ORNAMENT,1AMPERSAND ORNAMENT,0SWASH AMPERSAND ORNAMENT"),
  (0x1f676, "0SANS-SERIF HEAVY DOUBLE TURNED COMMA QUOTATION MARK ORNAMENT"),
  (0x1f677, "3COMMA QUOTATION MARK ORNAMENT,2LOW DOUBLE COMMA QUOTATION MARK ORNAMENT"),
  (0x1f679, "0HEAVY INTERROBANG ORNAMENT,0SANS-SERIF INTERROBANG ORNAMENT"),
  (0x1f67b, "0HEAVY SANS-SERIF INTERROBANG ORNAMENT,0VERY HEAVY SOLIDUS,2REVERSE SOLIDUS"),
  (0x1f67e, "0CHECKER BOARD,0REVERSE CHECKER BOARD,0ROCKET,0HELICOPTER,0STEAM LOCOMOTIVE"),
  (0x1f683, "0RAILWAY CAR,0HIGH-SPEED TRAIN,2WITH BULLET NOSE,0TRAIN,0METRO,0LIGHT RAIL,0STATION"),
  (0x1f68a, "0TRAM,1CAR,0BUS,0ONCOMING BUS,0TROLLEYBUS,0BUS STOP,0MINIBUS,0AMBULANCE,0FIRE ENGINE"),
  (0x1f693, "0POLICE CAR,0ONCOMING POLICE CAR,0TAXI,0ONCOMING TAXI,0AUTOMOBILE"),
  (0x1f698, "0ONCOMING AUTOMOBILE,0RECREATIONAL VEHICLE,0DELIVERY TRUCK,0ARTICULATED LORRY"),
  (0x1f69c, "0TRACTOR,0MONORAIL,0MOUNTAIN RAILWAY,0SUSPENSION RAILWAY,0MOUNTAIN CABLEWAY"),
  (0x1f6a1, "0AERIAL TRAMWAY,0SHIP,0ROWBOAT,0SPEEDBOAT,0HORIZONTAL TRAFFIC LIGHT"),
  (0x1f6a6, "0VERTICAL TRAFFIC LIGHT,0CONSTRUCTION SIGN,0POLICE CARS REVOLVING LIGHT"),
  (0x1f6a9, "0TRIANGULAR FLAG ON POST,0DOOR,0NO ENTRY SIGN,0SMOKING SYMBOL,0NO SMOKING SYMBOL"),
  (0x1f6ae, "0PUT LITTER IN ITS PLACE SYMBOL,0DO NOT LITTER SYMBOL,0POTABLE WATER SYMBOL"),
  (0x1f6b1, "0NON-POTABLE WATER SYMBOL,0BICYCLE,0NO BICYCLES,0BICYCLIST,0MOUNTAIN BICYCLIST"),
  (0x1f6b6, "0PEDESTRIAN,0NO PEDESTRIANS,0CHILDREN CROSSING,0MENS SYMBOL,0WOMENS SYMBOL,0RESTROOM"),
  (0x1f6bc, "0BABY SYMBOL,0TOILET,0WATER CLOSET,0SHOWER,0BATH,0BATHTUB,0PASSPORT CONTROL,0CUSTOMS"),
  (0x1f6c4, "0BAGGAGE CLAIM,0LEFT LUGGAGE,0TRIANGLE WITH ROUNDED CORNERS,0PROHIBITED SIGN"),
  (0x1f6c8, "0CIRCLED INFORMATION SOURCE,0BOYS SYMBOL,0GIRLS SYMBOL,0COUCH AND LAMP"),
  (0x1f6cc, "0SLEEPING ACCOMMODATION,0SHOPPING BAGS,0BELLHOP BELL,0BED,0PLACE OF WORSHIP"),
  (0x1f6d1, "0OCTAGONAL SIGN,0SHOPPING TROLLEY,0STUPA,0PAGODA,0HINDU TEMPLE,0HUT,0ELEVATOR"),
  (0x1f6dd, "0PLAYGROUND SLIDE,0WHEEL,0RING BUOY,0HAMMER AND WRENCH,0SHIELD,0OIL DRUM,0MOTORWAY"),
  (0x1f6e4, "0RAILWAY TRACK,0MOTOR BOAT,0UP-POINTING MILITARY AIRPLANE,1AIRPLANE,1SMALL AIRPLANE"),
  (0x1f6e9, "0SMALL AIRPLANE,0NORTHEAST-POINTING AIRPLANE,0AIRPLANE DEPARTURE,1ARRIVING"),
  (0x1f6f0, "0SATELLITE,0ONCOMING FIRE ENGINE,0DIESEL LOCOMOTIVE,0PASSENGER SHIP,0SCOOTER"),
  (0x1f6f5, "0MOTOR SCOOTER,0CANOE,0SLED,0FLYING SAUCER,0SKATEBOARD,0AUTO RICKSHAW,0PICKUP TRUCK"),
  (0x1f6fc, "0ROLLER SKATE")]

/-- The names of further pictures, each row behind its first character. -/
def furtherPictureNames : List (Nat × String) := [
  (0x1f000, "0MAHJONG TILE EAST WIND,2SOUTH WIND,2WEST WIND,2NORTH WIND,2RED DRAGON,2GREEN DRAGON"),
  (0x1f006, "2WHITE DRAGON,2ONE OF CHARACTERS,2TWO OF CHARACTERS,2THREE OF CHARACTERS"),
  (0x1f00a, "2FOUR OF CHARACTERS,2FIVE OF CHARACTERS,2SIX OF CHARACTERS,2SEVEN OF CHARACTERS"),
  (0x1f00e, "2EIGHT OF CHARACTERS,2NINE OF CHARACTERS,2ONE OF BAMBOOS,2TWO OF BAMBOOS"),
  (0x1f012, "2THREE OF BAMBOOS,2FOUR OF BAMBOOS,2FIVE OF BAMBOOS,2SIX OF BAMBOOS"),
  (0x1f016, "2SEVEN OF BAMBOOS,2EIGHT OF BAMBOOS,2NINE OF BAMBOOS,2ONE OF CIRCLES,2TWO OF CIRCLES"),
  (0x1f01b, "2THREE OF CIRCLES,2FOUR OF CIRCLES,2FIVE OF CIRCLES,2SIX OF CIRCLES"),
  (0x1f01f, "2SEVEN OF CIRCLES,2EIGHT OF CIRCLES,2NINE OF CIRCLES,2PLUM,2ORCHID,2BAMBOO"),
  (0x1f025, "2CHRYSANTHEMUM,2SPRING,2SUMMER,2AUTUMN,2WINTER,2JOKER,2BACK"),
  (0x1f030, "0DOMINO TILE HORIZONTAL BACK,2HORIZONTAL-00-00,2HORIZONTAL-00-01,2HORIZONTAL-00-02"),
  (0x1f034, "2HORIZONTAL-00-03,2HORIZONTAL-00-04,2HORIZONTAL-00-05,2HORIZONTAL-00-06"),
  (0x1f038, "2HORIZONTAL-01-00,2HORIZONTAL-01-01,2HORIZONTAL-01-02,2HORIZONTAL-01-03"),
  (0x1f03c, "2HORIZONTAL-01-04,2HORIZONTAL-01-05,2HORIZONTAL-01-06,2HORIZONTAL-02-00"),
  (0x1f040, "2HORIZONTAL-02-01,2HORIZONTAL-02-02,2HORIZONTAL-02-03,2HORIZONTAL-02-04"),
  (0x1f044, "2HORIZONTAL-02-05,2HORIZONTAL-02-06,2HORIZONTAL-03-00,2HORIZONTAL-03-01"),
  (0x1f048, "2HORIZONTAL-03-02,2HORIZONTAL-03-03,2HORIZONTAL-03-04,2HORIZONTAL-03-05"),
  (0x1f04c, "2HORIZONTAL-03-06,2HORIZONTAL-04-00,2HORIZONTAL-04-01,2HORIZONTAL-04-02"),
  (0x1f050, "2HORIZONTAL-04-03,2HORIZONTAL-04-04,2HORIZONTAL-04-05,2HORIZONTAL-04-06"),
  (0x1f054, "2HORIZONTAL-05-00,2HORIZONTAL-05-01,2HORIZONTAL-05-02,2HORIZONTAL-05-03"),
  (0x1f058, "2HORIZONTAL-05-04,2HORIZONTAL-05-05,2HORIZONTAL-05-06,2HORIZONTAL-06-00"),
  (0x1f05c, "2HORIZONTAL-06-01,2HORIZONTAL-06-02,2HORIZONTAL-06-03,2HORIZONTAL-06-04"),
  (0x1f060, "2HORIZONTAL-06-05,2HORIZONTAL-06-06,2VERTICAL BACK,2VERTICAL-00-00,2VERTICAL-00-01"),
  (0x1f065, "2VERTICAL-00-02,2VERTICAL-00-03,2VERTICAL-00-04,2VERTICAL-00-05,2VERTICAL-00-06"),
  (0x1f06a, "2VERTICAL-01-00,2VERTICAL-01-01,2VERTICAL-01-02,2VERTICAL-01-03,2VERTICAL-01-04"),
  (0x1f06f, "2VERTICAL-01-05,2VERTICAL-01-06,2VERTICAL-02-00,2VERTICAL-02-01,2VERTICAL-02-02"),
  (0x1f074, "2VERTICAL-02-03,2VERTICAL-02-04,2VERTICAL-02-05,2VERTICAL-02-06,2VERTICAL-03-00"),
  (0x1f079, "2VERTICAL-03-01,2VERTICAL-03-02,2VERTICAL-03-03,2VERTICAL-03-04,2VERTICAL-03-05"),
  (0x1f07e, "2VERTICAL-03-06,2VERTICAL-04-00,2VERTICAL-04-01,2VERTICAL-04-02,2VERTICAL-04-03"),
  (0x1f083, "2VERTICAL-04-04,2VERTICAL-04-05,2VERTICAL-04-06,2VERTICAL-05-00,2VERTICAL-05-01"),
  (0x1f088, "2VERTICAL-05-02,2VERTICAL-05-03,2VERTICAL-05-04,2VERTICAL-05-05,2VERTICAL-05-06"),
  (0x1f08d, "2VERTICAL-06-00,2VERTICAL-06-01,2VERTICAL-06-02,2VERTICAL-06-03,2VERTICAL-06-04"),
  (0x1f092, "2VERTICAL-06-05,2VERTICAL-06-06"),
  (0x1f0a0, "0PLAYING CARD BACK,2ACE OF SPADES,2TWO OF SPADES,2THREE OF SPADES,2FOUR OF SPADES"),
  (0x1f0a5, "2FIVE OF SPADES,2SIX OF SPADES,2SEVEN OF SPADES,2EIGHT OF SPADES,2NINE OF SPADES"),
  (0x1f0aa, "2TEN OF SPADES,2JACK OF SPADES,2KNIGHT OF SPADES,2QUEEN OF SPADES,2KING OF SPADES"),
  (0x1f0b1, "2ACE OF HEARTS,2TWO OF HEARTS,2THREE OF HEARTS,2FOUR OF HEARTS,2FIVE OF HEARTS"),
  (0x1f0b6, "2SIX OF HEARTS,2SEVEN OF HEARTS,2EIGHT OF HEARTS,2NINE OF HEARTS,2TEN OF HEARTS"),
  (0x1f0bb, "2JACK OF HEARTS,2KNIGHT OF HEARTS,2QUEEN OF HEARTS,2KING OF HEARTS,2RED JOKER"),
  (0x1f0c1, "2ACE OF DIAMONDS,2TWO OF DIAMONDS,2THREE OF DIAMONDS,2FOUR OF DIAMONDS"),
  (0x1f0c5, "2FIVE OF DIAMONDS,2SIX OF DIAMONDS,2SEVEN OF DIAMONDS,2EIGHT OF DIAMONDS"),
  (0x1f0c9, "2NINE OF DIAMONDS,2TEN OF DIAMONDS,2JACK OF DIAMONDS,2KNIGHT OF DIAMONDS"),
  (0x1f0cd, "2QUEEN OF DIAMONDS,2KING OF DIAMONDS,2BLACK JOKER"),
  (0x1f0d1, "2ACE OF CLUBS,2TWO OF CLUBS,2THREE OF CLUBS,2FOUR OF CLUBS,2FIVE OF CLUBS"),
  (0x1f0d6, "2SIX OF CLUBS,2SEVEN OF CLUBS,2EIGHT OF CLUBS,2NINE OF CLUBS,2TEN OF CLUBS"),
  (0x1f0db, "2JACK OF CLUBS,2KNIGHT OF CLUBS,2QUEEN OF CLUBS,2KING OF CLUBS,2WHITE JOKER,2FOOL"),
  (0x1f0e1, "2TRUMP-1,2TRUMP-2,2TRUMP-3,2TRUMP-4,2TRUMP-5,2TRUMP-6,2TRUMP-7,2TRUMP-8,2TRUMP-9"),
  (0x1f0ea, "2TRUMP-10,2TRUMP-11,2TRUMP-12,2TRUMP-13,2TRUMP-14,2TRUMP-15,2TRUMP-16,2TRUMP-17"),
  (0x1f0f2, "2TRUMP-18,2TRUMP-19,2TRUMP-20,2TRUMP-21"),
  (0x1f100, "0DIGIT ZERO FULL STOP,2COMMA,1ONE COMMA,1TWO COMMA,1THREE COMMA,1FOUR COMMA"),
  (0x1f106, "1FIVE COMMA,1SIX COMMA,1SEVEN COMMA,1EIGHT COMMA,1NINE COMMA"),
  (0x1f10b, "0DINGBAT CIRCLED SANS-SERIF DIGIT ZERO,1NEGATIVE CIRCLED SANS-SERIF DIGIT ZERO"),
  (0x1f10d, "0CIRCLED ZERO WITH SLASH,1ANTICLOCKWISE ARROW,1DOLLAR SIGN WITH OVERLAID BACKSLASH"),
  (0x1f110, "0PARENTHESIZED LATIN CAPITAL LETTER A,4B,4C,4D,4E,4F,4G,4H,4I,4J,4K,4L,4M,4N,4O,4P"),
  (0x1f120, "4Q,4R,4S,4T,4U,4V,4W,4X,4Y,4Z,0TORTOISE SHELL BRACKETED LATIN CAPITAL LETTER S"),
  (0x1f12b, "0CIRCLED ITALIC LATIN CAPITAL LETTER C,5R,1CD,1WZ,0COPYLEFT SYMBOL"),
  (0x1f130, "0SQUARED LATIN CAPITAL LETTER A,4B,4C,4D,4E,4F,4G,4H,4I,4J,4K,4L,4M,4N,4O,4P,4Q,4R"),
  (0x1f142, "4S,4T,4U,4V,4W,4X,4Y,4Z,1HV,1MV,1SD,1SS,1PPV,1WC"),
  (0x1f150, "0NEGATIVE CIRCLED LATIN CAPITAL LETTER A,5B,5C,5D,5E,5F,5G,5H,5I,5J,5K,5L,5M,5N,5O"),
  (0x1f15f, "5P,5Q,5R,5S,5T,5U,5V,5W,5X,5Y,5Z,0RAISED MC SIGN,1MD SIGN,1MR SIGN,0CIRCLED CC"),
  (0x1f16e, "1C WITH OVERLAID BACKSLASH,1HUMAN FIGURE,0NEGATIVE SQUARED LATIN CAPITAL LETTER A,5B"),
  (0x1f172, "5C,5D,5E,5F,5G,5H,5I,5J,5K,5L,5M,5N,5O,5P,5Q,5R,5S,5T,5U,5V,5W,5X,5Y,5Z"),
  (0x1f18a, "0CROSSED NEGATIVE SQUARED LATIN CAPITAL LETTER P,0NEGATIVE SQUARED IC,2PA,2SA,2AB"),
  (0x1f18f, "2WC,0SQUARE DJ,0SQUARED CL,1COOL,1FREE,1ID,1NEW,1NG,1OK,1SOS"),
  (0x1f199, "1UP WITH EXCLAMATION MARK,1VS,1THREE D,1SECOND SCREEN,1TWO K,1FOUR K,1EIGHT K"),
  (0x1f1a0, "1FIVE POINT ONE,1SEVEN POINT ONE,1TWENTY-TWO POINT TWO,1SIXTY P"),
  (0x1f1a4, "1ONE HUNDRED TWENTY P,1LATIN SMALL LETTER D,1HC,1HDR,1HI-RES,1LOSSLESS,1SHV,1UHD"),
  (0x1f1ac, "1VOD,0MASK WORK SYMBOL"),
  (0x1f1e6, "0REGIONAL INDICATOR SYMBOL LETTER A,4B,4C,4D,4E,4F,4G,4H,4I,4J,4K,4L,4M,4N,4O,4P,4Q"),
  (0x1f1f7, "4R,4S,4T,4U,4V,4W,4X,4Y,4Z,0SQUARE HIRAGANA HOKA,0SQUARED KATAKANA KOKO,2SA"),
  (0x1f210, "1CJK UNIFIED IDEOGRAPH-624B,3IDEOGRAPH-5B57,3IDEOGRAPH-53CC,1KATAKANA DE"),
  (0x1f214, "1CJK UNIFIED IDEOGRAPH-4E8C,3IDEOGRAPH-591A,3IDEOGRAPH-89E3,3IDEOGRAPH-5929"),
  (0x1f218, "3IDEOGRAPH-4EA4,3IDEOGRAPH-6620,3IDEOGRAPH-7121,3IDEOGRAPH-6599,3IDEOGRAPH-524D"),
  (0x1f21d, "3IDEOGRAPH-5F8C,3IDEOGRAPH-518D,3IDEOGRAPH-65B0,3IDEOGRAPH-521D,3IDEOGRAPH-7D42"),
  (0x1f222, "3IDEOGRAPH-751F,3IDEOGRAPH-8CA9,3IDEOGRAPH-58F0,3IDEOGRAPH-5439,3IDEOGRAPH-6F14"),
  (0x1f227, "3IDEOGRAPH-6295,3IDEOGRAPH-6355,3IDEOGRAPH-4E00,3IDEOGRAPH-4E09,3IDEOGRAPH-904A"),
  (0x1f22c, "3IDEOGRAPH-5DE6,3IDEOGRAPH-4E2D,3IDEOGRAPH-53F3,3IDEOGRAPH-6307,3IDEOGRAPH-8D70"),
  (0x1f231, "3IDEOGRAPH-6253,3IDEOGRAPH-7981,3IDEOGRAPH-7A7A,3IDEOGRAPH-5408,3IDEOGRAPH-6E80"),
  (0x1f236, "3IDEOGRAPH-6709,3IDEOGRAPH-6708,3IDEOGRAPH-7533,3IDEOGRAPH-5272,3IDEOGRAPH-55B6"),
  (0x1f23b, "3IDEOGRAPH-914D"),
  (0x1f240, "0TORTOISE SHELL BRACKETED CJK UNIFIED IDEOGRAPH-672C,5IDEOGRAPH-4E09,5IDEOGRAPH-4E8C"),
  (0x1f243, "5IDEOGRAPH-5B89,5IDEOGRAPH-70B9,5IDEOGRAPH-6253,5IDEOGRAPH-76D7,5IDEOGRAPH-52DD"),
  (0x1f248, "5IDEOGRAPH-6557"),
  (0x1f250, "0CIRCLED IDEOGRAPH ADVANTAGE,2ACCEPT"),
  (0x1f260, "0ROUNDED SYMBOL FOR FU,3LU,3SHOU,3XI,3SHUANGXI,3CAI"),
  (0x1f700, "0ALCHEMICAL SYMBOL FOR QUINTESSENCE,3AIR,3FIRE,3EARTH,3WATER,3AQUAFORTIS,3AQUA REGIA"),
  (0x1f707, "4REGIA-2,4VITAE,4VITAE-2,3VINEGAR,3VINEGAR-2,3VINEGAR-3,3SULFUR,3PHILOSOPHERS SULFUR"),
  (0x1f70f, "3BLACK SULFUR,3MERCURY SUBLIMATE,4SUBLIMATE-2,4SUBLIMATE-3,3CINNABAR,3SALT,3NITRE"),
  (0x1f716, "3VITRIOL,3VITRIOL-2,3ROCK SALT,4SALT-2,3GOLD,3SILVER,3IRON ORE,4ORE-2"),
  (0x1f71e, "3CROCUS OF IRON,3REGULUS OF IRON,3COPPER ORE,3IRON-COPPER ORE,3SUBLIMATE OF COPPER"),
  (0x1f723, "3CROCUS OF COPPER,5COPPER-2,3COPPER ANTIMONIATE,3SALT OF COPPER ANTIMONIATE"),
  (0x1f727, "3SUBLIMATE OF SALT OF COPPER,3VERDIGRIS,3TIN ORE,3LEAD ORE,3ANTIMONY ORE"),
  (0x1f72c, "3SUBLIMATE OF ANTIMONY,3SALT OF ANTIMONY,3SUBLIMATE OF SALT OF ANTIMONY"),
  (0x1f72f, "3VINEGAR OF ANTIMONY,3REGULUS OF ANTIMONY,5ANTIMONY-2,3REGULUS,3REGULUS-2,3REGULUS-3"),
  (0x1f735, "3REGULUS-4,3ALKALI,3ALKALI-2,3MARCASITE,3SAL-AMMONIAC,3ARSENIC,3REALGAR,3REALGAR-2"),
  (0x1f73d, "3AURIPIGMENT,3BISMUTH ORE,3TARTAR,3TARTAR-2,3QUICK LIME,3BORAX,3BORAX-2,3BORAX-3"),
  (0x1f745, "3ALUM,3OIL,3SPIRIT,3TINCTURE,3GUM,3WAX,3POWDER,3CALX,3TUTTY,3CAPUT MORTUUM"),
  (0x1f74f, "3SCEPTER OF JOVE,3CADUCEUS,3TRIDENT,3STARRED TRIDENT,3LODESTONE,3SOAP,3URINE"),
  (0x1f756, "3HORSE DUNG,3ASHES,3POT ASHES,3BRICK,3POWDERED BRICK,3AMALGAM,3STRATUM SUPER STRATUM"),
  (0x1f75d, "5STRATUM-2,3SUBLIMATION,3PRECIPITATE,3DISTILL,3DISSOLVE,3DISSOLVE-2,3PURIFY"),
  (0x1f764, "3PUTREFACTION,3CRUCIBLE,3CRUCIBLE-2,3CRUCIBLE-3,3CRUCIBLE-4,3CRUCIBLE-5,3ALEMBIC"),
  (0x1f76b, "3BATH OF MARY,5VAPOURS,3RETORT,3HOUR,3NIGHT,3DAY-NIGHT,3MONTH,3HALF DRAM,4OUNCE"),
  (0x1f780, "0BLACK LEFT-POINTING ISOSCELES RIGHT TRIANGLE,1UP-POINTING ISOSCELES RIGHT TRIANGLE"),
  (0x1f782, "1RIGHT-POINTING ISOSCELES RIGHT TRIANGLE,1DOWN-POINTING ISOSCELES RIGHT TRIANGLE"),
  (0x1f784, "1SLIGHTLY SMALL CIRCLE,0MEDIUM BOLD WHITE CIRCLE,0BOLD WHITE CIRCLE"),
  (0x1f787, "0HEAVY WHITE CIRCLE,0VERY HEAVY WHITE CIRCLE,0EXTREMELY HEAVY WHITE CIRCLE"),
  (0x1f78a, "0WHITE CIRCLE CONTAINING BLACK SMALL CIRCLE,0ROUND TARGET,0BLACK TINY SQUARE"),
  (0x1f78d, "1SLIGHTLY SMALL SQUARE,0LIGHT WHITE SQUARE,0MEDIUM WHITE SQUARE,0BOLD WHITE SQUARE"),
  (0x1f791, "0HEAVY WHITE SQUARE,0VERY HEAVY WHITE SQUARE,0EXTREMELY HEAVY WHITE SQUARE"),
  (0x1f794, "0WHITE SQUARE CONTAINING BLACK VERY SMALL SQUARE,4MEDIUM SQUARE,0SQUARE TARGET"),
  (0x1f797, "0BLACK TINY DIAMOND,1VERY SMALL DIAMOND,1MEDIUM SMALL DIAMOND"),
  (0x1f79a, "0WHITE DIAMOND CONTAINING BLACK VERY SMALL DIAMOND,4MEDIUM DIAMOND,0DIAMOND TARGET"),
  (0x1f79d, "0BLACK TINY LOZENGE,1VERY SMALL LOZENGE,1MEDIUM SMALL LOZENGE"),
  (0x1f7a0, "0WHITE LOZENGE CONTAINING BLACK SMALL LOZENGE,0THIN GREEK CROSS,0LIGHT GREEK CROSS"),
  (0x1f7a3, "0MEDIUM GREEK CROSS,0BOLD GREEK CROSS,0VERY BOLD GREEK CROSS,1HEAVY GREEK CROSS"),
  (0x1f7a7, "0EXTREMELY HEAVY GREEK CROSS,0THIN SALTIRE,0LIGHT SALTIRE,0MEDIUM SALTIRE"),
  (0x1f7ab, "0BOLD SALTIRE,0HEAVY SALTIRE,0VERY HEAVY SALTIRE,0EXTREMELY HEAVY SALTIRE"),
  (0x1f7af, "0LIGHT FIVE SPOKED ASTERISK,0MEDIUM FIVE SPOKED ASTERISK,0BOLD FIVE SPOKED ASTERISK"),
  (0x1f7b2, "0HEAVY FIVE SPOKED ASTERISK,0VERY HEAVY FIVE SPOKED ASTERISK"),
  (0x1f7b4, "0EXTREMELY HEAVY FIVE SPOKED ASTERISK,0LIGHT SIX SPOKED ASTERISK"),
  (0x1f7b6, "0MEDIUM SIX SPOKED ASTERISK,0BOLD SIX SPOKED ASTERISK,0HEAVY SIX SPOKED ASTERISK"),
  (0x1f7b9, "0VERY HEAVY SIX SPOKED ASTERISK,0EXTREMELY HEAVY SIX SPOKED ASTERISK"),
  (0x1f7bb, "0LIGHT EIGHT SPOKED ASTERISK,0MEDIUM EIGHT SPOKED ASTERISK"),
  (0x1f7bd, "0BOLD EIGHT SPOKED ASTERISK,0HEAVY EIGHT SPOKED ASTERISK"),
  (0x1f7bf, "0VERY HEAVY EIGHT SPOKED ASTERISK,0LIGHT THREE POINTED BLACK STAR"),
  (0x1f7c1, "0MEDIUM THREE POINTED BLACK STAR,0THREE POINTED BLACK STAR"),
  (0x1f7c3, "0MEDIUM THREE POINTED PINWHEEL STAR,0LIGHT FOUR POINTED BLACK STAR"),
  (0x1f7c5, "0MEDIUM FOUR POINTED BLACK STAR,0FOUR POINTED BLACK STAR"),
  (0x1f7c7, "0MEDIUM FOUR POINTED PINWHEEL STAR,0REVERSE LIGHT FOUR POINTED PINWHEEL STAR"),
  (0x1f7c9, "0LIGHT FIVE POINTED BLACK STAR,0HEAVY FIVE POINTED BLACK STAR"),
  (0x1f7cb, "0MEDIUM SIX POINTED BLACK STAR,0HEAVY SIX POINTED BLACK STAR"),
  (0x1f7cd, "0SIX POINTED PINWHEEL STAR,0MEDIUM EIGHT POINTED BLACK STAR"),
  (0x1f7cf, "0HEAVY EIGHT POINTED BLACK STAR,0VERY HEAVY EIGHT POINTED BLACK STAR"),
  (0x1f7d1, "0HEAVY EIGHT POINTED PINWHEEL STAR,0LIGHT TWELVE POINTED BLACK STAR"),
  (0x1f7d3, "0HEAVY TWELVE POINTED BLACK STAR,3PINWHEEL STAR,0CIRCLED TRIANGLE"),
  (0x1f7d6, "0NEGATIVE CIRCLED TRIANGLE,0CIRCLED SQUARE,0NEGATIVE CIRCLED SQUARE"),
  (0x1f7e0, "0LARGE ORANGE CIRCLE,1YELLOW CIRCLE,1GREEN CIRCLE,1PURPLE CIRCLE,1BROWN CIRCLE"),
  (0x1f7e5, "1RED SQUARE,1BLUE SQUARE,1ORANGE SQUARE,1YELLOW SQUARE,1GREEN SQUARE,1PURPLE SQUARE"),
  (0x1f7eb, "1BROWN SQUARE"),
  (0x1f7f0, "0HEAVY EQUALS SIGN"),
  (0x1f800, "0LEFTWARDS ARROW WITH SMALL TRIANGLE ARROWHEAD"),
  (0x1f801, "0UPWARDS ARROW WITH SMALL TRIANGLE ARROWHEAD"),
  (0x1f802, "0RIGHTWARDS ARROW WITH SMALL TRIANGLE ARROWHEAD"),
  (0x1f803, "0DOWNWARDS ARROW WITH SMALL TRIANGLE ARROWHEAD"),
  (0x1f804, "0LEFTWARDS ARROW WITH MEDIUM TRIANGLE ARROWHEAD"),
  (0x1f805, "0UPWARDS ARROW WITH MEDIUM TRIANGLE ARROWHEAD"),
  (0x1f806, "0RIGHTWARDS ARROW WITH MEDIUM TRIANGLE ARROWHEAD"),
  (0x1f807, "0DOWNWARDS ARROW WITH MEDIUM TRIANGLE ARROWHEAD"),
  (0x1f808, "0LEFTWARDS ARROW WITH LARGE TRIANGLE ARROWHEAD"),
  (0x1f809, "0UPWARDS ARROW WITH LARGE TRIANGLE ARROWHEAD"),
  (0x1f80a, "0RIGHTWARDS ARROW WITH LARGE TRIANGLE ARROWHEAD"),
  (0x1f80b, "0DOWNWARDS ARROW WITH LARGE TRIANGLE ARROWHEAD"),
  (0x1f810, "0LEFTWARDS ARROW WITH SMALL EQUILATERAL ARROWHEAD"),
  (0x1f811, "0UPWARDS ARROW WITH SMALL EQUILATERAL ARROWHEAD"),
  (0x1f812, "0RIGHTWARDS ARROW WITH SMALL EQUILATERAL ARROWHEAD"),
  (0x1f813, "0DOWNWARDS ARROW WITH SMALL EQUILATERAL ARROWHEAD"),
  (0x1f814, "0LEFTWARDS ARROW WITH EQUILATERAL ARROWHEAD"),
  (0x1f815, "0UPWARDS ARROW WITH EQUILATERAL ARROWHEAD"),
  (0x1f816, "0RIGHTWARDS ARROW WITH EQUILATERAL ARROWHEAD"),
  (0x1f817, "0DOWNWARDS ARROW WITH EQUILATERAL ARROWHEAD"),
  (0x1f818, "0HEAVY LEFTWARDS ARROW WITH EQUILATERAL ARROWHEAD"),
  (0x1f819, "1UPWARDS ARROW WITH EQUILATERAL ARROWHEAD"),
  (0x1f81a, "1RIGHTWARDS ARROW WITH EQUILATERAL ARROWHEAD"),
  (0x1f81b, "1DOWNWARDS ARROW WITH EQUILATERAL ARROWHEAD"),
  (0x1f81c, "1LEFTWARDS ARROW WITH LARGE EQUILATERAL ARROWHEAD"),
  (0x1f81d, "1UPWARDS ARROW WITH LARGE EQUILATERAL ARROWHEAD"),
  (0x1f81e, "1RIGHTWARDS ARROW WITH LARGE EQUILATERAL ARROWHEAD"),
  (0x1f81f, "1DOWNWARDS ARROW WITH LARGE EQUILATERAL ARROWHEAD"),
  (0x1f820, "0LEFTWARDS TRIANGLE-HEADED ARROW WITH NARROW SHAFT"),
  (0x1f821, "0UPWARDS TRIANGLE-HEADED ARROW WITH NARROW SHAFT"),
  (0x1f822, "0RIGHTWARDS TRIANGLE-HEADED ARROW WITH NARROW SHAFT"),
  (0x1f823, "0DOWNWARDS TRIANGLE-HEADED ARROW WITH NARROW SHAFT"),
  (0x1f824, "0LEFTWARDS TRIANGLE-HEADED ARROW WITH MEDIUM SHAFT"),
  (0x1f825, "0UPWARDS TRIANGLE-HEADED ARROW WITH MEDIUM SHAFT"),
  (0x1f826, "0RIGHTWARDS TRIANGLE-HEADED ARROW WITH MEDIUM SHAFT"),
  (0x1f827, "0DOWNWARDS TRIANGLE-HEADED ARROW WITH MEDIUM SHAFT"),
  (0x1f828, "0LEFTWARDS TRIANGLE-HEADED ARROW WITH BOLD SHAFT"),
  (0x1f829, "0UPWARDS TRIANGLE-HEADED ARROW WITH BOLD SHAFT"),
  (0x1f82a, "0RIGHTWARDS TRIANGLE-HEADED ARROW WITH BOLD SHAFT"),
  (0x1f82b, "0DOWNWARDS TRIANGLE-HEADED ARROW WITH BOLD SHAFT"),
  (0x1f82c, "0LEFTWARDS TRIANGLE-HEADED ARROW WITH HEAVY SHAFT"),
  (0x1f82d, "0UPWARDS TRIANGLE-HEADED ARROW WITH HEAVY SHAFT"),
  (0x1f82e, "0RIGHTWARDS TRIANGLE-HEADED ARROW WITH HEAVY SHAFT"),
  (0x1f82f, "0DOWNWARDS TRIANGLE-HEADED ARROW WITH HEAVY SHAFT"),
  (0x1f830, "0LEFTWARDS TRIANGLE-HEADED ARROW WITH VERY HEAVY SHAFT"),
  (0x1f831, "0UPWARDS TRIANGLE-HEADED ARROW WITH VERY HEAVY SHAFT"),
  (0x1f832, "0RIGHTWARDS TRIANGLE-HEADED ARROW WITH VERY HEAVY SHAFT"),
  (0x1f833, "0DOWNWARDS TRIANGLE-HEADED ARROW WITH VERY HEAVY SHAFT,0LEFTWARDS FINGER-POST ARROW"),
  (0x1f835, "0UPWARDS FINGER-POST ARROW,0RIGHTWARDS FINGER-POST ARROW"),
  (0x1f837, "0DOWNWARDS FINGER-POST ARROW,0LEFTWARDS SQUARED ARROW,0UPWARDS SQUARED ARROW"),
  (0x1f83a, "0RIGHTWARDS SQUARED ARROW,0DOWNWARDS SQUARED ARROW,0LEFTWARDS COMPRESSED ARROW"),
  (0x1f83d, "0UPWARDS COMPRESSED ARROW,0RIGHTWARDS COMPRESSED ARROW,0DOWNWARDS COMPRESSED ARROW"),
  (0x1f840, "0LEFTWARDS HEAVY COMPRESSED ARROW,0UPWARDS HEAVY COMPRESSED ARROW"),
  (0x1f842, "0RIGHTWARDS HEAVY COMPRESSED ARROW,0DOWNWARDS HEAVY COMPRESSED ARROW"),
  (0x1f844, "0LEFTWARDS HEAVY ARROW,0UPWARDS HEAVY ARROW,0RIGHTWARDS HEAVY ARROW"),
  (0x1f847, "0DOWNWARDS HEAVY ARROW"),
  (0x1f850, "0LEFTWARDS SANS-SERIF ARROW,0UPWARDS SANS-SERIF ARROW,0RIGHTWARDS SANS-SERIF ARROW"),
  (0x1f853, "0DOWNWARDS SANS-SERIF ARROW,0NORTH WEST SANS-SERIF ARROW,1EAST SANS-SERIF ARROW"),
  (0x1f856, "0SOUTH EAST SANS-SERIF ARROW,1WEST SANS-SERIF ARROW,0LEFT RIGHT SANS-SERIF ARROW"),
  (0x1f859, "0UP DOWN SANS-SERIF ARROW"),
  (0x1f860, "0WIDE-HEADED LEFTWARDS LIGHT BARB ARROW,1UPWARDS LIGHT BARB ARROW"),
  (0x1f862, "1RIGHTWARDS LIGHT BARB ARROW,1DOWNWARDS LIGHT BARB ARROW"),
  (0x1f864, "1NORTH WEST LIGHT BARB ARROW,2EAST LIGHT BARB ARROW,1SOUTH EAST LIGHT BARB ARROW"),
  (0x1f867, "2WEST LIGHT BARB ARROW,1LEFTWARDS BARB ARROW,1UPWARDS BARB ARROW"),
  (0x1f86a, "1RIGHTWARDS BARB ARROW,1DOWNWARDS BARB ARROW,1NORTH WEST BARB ARROW,2EAST BARB ARROW"),
  (0x1f86e, "1SOUTH EAST BARB ARROW,2WEST BARB ARROW,1LEFTWARDS MEDIUM BARB ARROW"),
  (0x1f871, "1UPWARDS MEDIUM BARB ARROW,1RIGHTWARDS MEDIUM BARB ARROW"),
  (0x1f873, "1DOWNWARDS MEDIUM BARB ARROW,1NORTH WEST MEDIUM BARB ARROW,2EAST MEDIUM BARB ARROW"),
  (0x1f876, "1SOUTH EAST MEDIUM BARB ARROW,2WEST MEDIUM BARB ARROW,1LEFTWARDS HEAVY BARB ARROW"),
  (0x1f879, "1UPWARDS HEAVY BARB ARROW,1RIGHTWARDS HEAVY BARB ARROW,1DOWNWARDS HEAVY BARB ARROW"),
  (0x1f87c, "1NORTH WEST HEAVY BARB ARROW,2EAST HEAVY BARB ARROW,1SOUTH EAST HEAVY BARB ARROW"),
  (0x1f87f, "2WEST HEAVY BARB ARROW,1LEFTWARDS VERY HEAVY BARB ARROW"),
  (0x1f881, "1UPWARDS VERY HEAVY BARB ARROW,1RIGHTWARDS VERY HEAVY BARB ARROW"),
  (0x1f883, "1DOWNWARDS VERY HEAVY BARB ARROW,1NORTH WEST VERY HEAVY BARB ARROW"),
  (0x1f885, "2EAST VERY HEAVY BARB ARROW,1SOUTH EAST VERY HEAVY BARB ARROW"),
  (0x1f887, "2WEST VERY HEAVY BARB ARROW"),
  (0x1f890, "0LEFTWARDS TRIANGLE ARROWHEAD,0UPWARDS TRIANGLE ARROWHEAD"),
  (0x1f892, "0RIGHTWARDS TRIANGLE ARROWHEAD,0DOWNWARDS TRIANGLE ARROWHEAD"),
  (0x1f894, "0LEFTWARDS WHITE ARROW WITHIN TRIANGLE ARROWHEAD"),
  (0x1f895, "0UPWARDS WHITE ARROW WITHIN TRIANGLE ARROWHEAD"),
  (0x1f896, "0RIGHTWARDS WHITE ARROW WITHIN TRIANGLE ARROWHEAD"),
  (0x1f897, "0DOWNWARDS WHITE ARROW WITHIN TRIANGLE ARROWHEAD,0LEFTWARDS ARROW WITH NOTCHED TAIL"),
  (0x1f899, "0UPWARDS ARROW WITH NOTCHED TAIL,0RIGHTWARDS ARROW WITH NOTCHED TAIL"),
  (0x1f89b, "0DOWNWARDS ARROW WITH NOTCHED TAIL,0HEAVY ARROW SHAFT WIDTH ONE,4TWO THIRDS"),
  (0x1f89e, "4ONE HALF,5THIRD,0LEFTWARDS BOTTOM-SHADED WHITE ARROW"),
  (0x1f8a1, "0RIGHTWARDS BOTTOM SHADED WHITE ARROW,0LEFTWARDS TOP SHADED WHITE ARROW"),
  (0x1f8a3, "0RIGHTWARDS TOP SHADED WHITE ARROW,0LEFTWARDS LEFT-SHADED WHITE ARROW"),
  (0x1f8a5, "0RIGHTWARDS RIGHT-SHADED WHITE ARROW,0LEFTWARDS RIGHT-SHADED WHITE ARROW"),
  (0x1f8a7, "0RIGHTWARDS LEFT-SHADED WHITE ARROW,0LEFTWARDS BACK-TILTED SHADOWED WHITE ARROW"),
  (0x1f8a9, "0RIGHTWARDS BACK-TILTED SHADOWED WHITE ARROW"),
  (0x1f8aa, "0LEFTWARDS FRONT-TILTED SHADOWED WHITE ARROW"),
  (0x1f8ab, "0RIGHTWARDS FRONT-TILTED SHADOWED WHITE ARROW,0WHITE ARROW SHAFT WIDTH ONE"),
  (0x1f8ad, "4TWO THIRDS"),
  (0x1f8b0, "0ARROW POINTING UPWARDS THEN NORTH WEST,2RIGHTWARDS THEN CURVING SOUTH WEST"),
  (0x1f900, "0CIRCLED CROSS FORMEE WITH FOUR DOTS,4TWO DOTS,2FORMEE"),
  (0x1f903, "0LEFT HALF CIRCLE WITH FOUR DOTS,4THREE DOTS,4TWO DOTS,4DOT,2CIRCLE"),
  (0x1f908, "0DOWNWARD FACING HOOK,2NOTCHED HOOK,2HOOK WITH DOT,2NOTCHED HOOK WITH DOT"),
  (0x1f90c, "0PINCHED FINGERS,0WHITE HEART,0BROWN HEART,0PINCHING HAND,0ZIPPER-MOUTH FACE"),
  (0x1f911, "0MONEY-MOUTH FACE,0FACE WITH THERMOMETER,0NERD FACE,0THINKING FACE"),
  (0x1f915, "0FACE WITH HEAD-BANDAGE,0ROBOT FACE,0HUGGING FACE,0SIGN OF THE HORNS,0CALL ME HAND"),
  (0x1f91a, "0RAISED BACK OF HAND,0LEFT-FACING FIST,0RIGHT-FACING FIST,0HANDSHAKE"),
  (0x1f91e, "0HAND WITH INDEX AND MIDDLE FINGERS CROSSED,0I LOVE YOU HAND SIGN"),
  (0x1f920, "0FACE WITH COWBOY HAT,0CLOWN FACE,0NAUSEATED FACE,0ROLLING ON THE FLOOR LAUGHING"),
  (0x1f924, "0DROOLING FACE,0LYING FACE,0FACE PALM,0SNEEZING FACE,0FACE WITH ONE EYEBROW RAISED"),
  (0x1f929, "0GRINNING FACE WITH STAR EYES,3ONE LARGE AND ONE SMALL EYE"),
  (0x1f92b, "0FACE WITH FINGER COVERING CLOSED LIPS,0SERIOUS FACE WITH SYMBOLS COVERING MOUTH"),
  (0x1f92d, "0SMILING FACE WITH SMILING EYES AND HAND COVERING MOUTH"),
  (0x1f92e, "0FACE WITH OPEN MOUTH VOMITING,0SHOCKED FACE WITH EXPLODING HEAD,0PREGNANT WOMAN"),
  (0x1f931, "0BREAST-FEEDING,0PALMS UP TOGETHER,0SELFIE,0PRINCE,0MAN IN TUXEDO,0MOTHER CHRISTMAS"),
  (0x1f937, "0SHRUG,0PERSON DOING CARTWHEEL,0JUGGLING,0FENCER,0MODERN PENTATHLON,0WRESTLERS"),
  (0x1f93d, "0WATER POLO,0HANDBALL,0DIVING MASK,0WILTED FLOWER,0DRUM WITH DRUMSTICKS"),
  (0x1f942, "0CLINKING GLASSES,0TUMBLER GLASS,0SPOON,0GOAL NET,0RIFLE,0FIRST PLACE MEDAL"),
  (0x1f948, "0SECOND PLACE MEDAL,0THIRD PLACE MEDAL,0BOXING GLOVE,0MARTIAL ARTS UNIFORM"),
  (0x1f94c, "0CURLING STONE,0LACROSSE STICK AND BALL,0SOFTBALL,0FLYING DISC,0CROISSANT,0AVOCADO"),
  (0x1f952, "0CUCUMBER,0BACON,0POTATO,0CARROT,0BAGUETTE BREAD,0GREEN SALAD,0SHALLOW PAN OF FOOD"),
  (0x1f959, "0STUFFED FLATBREAD,0EGG,0GLASS OF MILK,0PEANUTS,0KIWIFRUIT,0PANCAKES,0DUMPLING"),
  (0x1f960, "0FORTUNE COOKIE,0TAKEOUT BOX,0CHOPSTICKS,0BOWL WITH SPOON,0CUP WITH STRAW,0COCONUT"),
  (0x1f966, "0BROCCOLI,0PIE,0PRETZEL,0CUT OF MEAT,0SANDWICH,0CANNED FOOD,0LEAFY GREEN,0MANGO"),
  (0x1f96e, "0MOON CAKE,0BAGEL,0SMILING FACE WITH SMILING EYES AND THREE HEARTS,0YAWNING FACE"),
  (0x1f972, "0SMILING FACE WITH TEAR,0FACE WITH PARTY HORN AND PARTY HAT"),
  (0x1f974, "2UNEVEN EYES AND WAVY MOUTH,0OVERHEATED FACE,0FREEZING FACE,0NINJA,0DISGUISED FACE"),
  (0x1f979, "0FACE HOLDING BACK TEARS,1WITH PLEADING EYES,0SARI,0LAB COAT,0GOGGLES,0HIKING BOOT"),
  (0x1f97f, "0FLAT SHOE,0CRAB,0LION FACE,0SCORPION,0TURKEY,0UNICORN FACE,0EAGLE,0DUCK,0BAT,0SHARK"),
  (0x1f989, "0OWL,0FOX FACE,0BUTTERFLY,0DEER,0GORILLA,0LIZARD,0RHINOCEROS,0SHRIMP,0SQUID"),
  (0x1f992, "0GIRAFFE FACE,0ZEBRA FACE,0HEDGEHOG,0SAUROPOD,0T-REX,0CRICKET,0KANGAROO,0LLAMA"),
  (0x1f99a, "0PEACOCK,0HIPPOPOTAMUS,0PARROT,0RACCOON,0LOBSTER,0MOSQUITO,0MICROBE,0BADGER,0SWAN"),
  (0x1f9a3, "0MAMMOTH,0DODO,0SLOTH,0OTTER,0ORANGUTAN,0SKUNK,0FLAMINGO,0OYSTER,0BEAVER,0BISON"),
  (0x1f9ad, "0SEAL,0GUIDE DOG,0PROBING CANE,0EMOJI COMPONENT RED HAIR,2CURLY HAIR,2BALD"),
  (0x1f9b3, "2WHITE HAIR,0BONE,0LEG,0FOOT,0TOOTH,0SUPERHERO,0SUPERVILLAIN,0SAFETY VEST"),
  (0x1f9bb, "0EAR WITH HEARING AID,0MOTORIZED WHEELCHAIR,0MANUAL WHEELCHAIR,0MECHANICAL ARM,1LEG"),
  (0x1f9c0, "0CHEESE WEDGE,0CUPCAKE,0SALT SHAKER,0BEVERAGE BOX,0GARLIC,0ONION,0FALAFEL,0WAFFLE"),
  (0x1f9c8, "0BUTTER,0MATE DRINK,0ICE CUBE,0BUBBLE TEA,0TROLL,0STANDING PERSON,0KNEELING PERSON"),
  (0x1f9cf, "0DEAF PERSON,0FACE WITH MONOCLE,0ADULT,0CHILD,0OLDER ADULT,0BEARDED PERSON"),
  (0x1f9d5, "0PERSON WITH HEADSCARF,1IN STEAMY ROOM,1CLIMBING,1IN LOTUS POSITION,0MAGE,0FAIRY"),
  (0x1f9db, "0VAMPIRE,0MERPERSON,0ELF,0GENIE,0ZOMBIE,0BRAIN,0ORANGE HEART,0BILLED CAP,0SCARF"),
  (0x1f9e4, "0GLOVES,0COAT,0SOCKS,0RED GIFT ENVELOPE,0FIRECRACKER,0JIGSAW PUZZLE PIECE,0TEST TUBE"),
  (0x1f9eb, "0PETRI DISH,0DNA DOUBLE HELIX,0COMPASS,0ABACUS,0FIRE EXTINGUISHER,0TOOLBOX,0BRICK"),
  (0x1f9f2, "0MAGNET,0LUGGAGE,0LOTION BOTTLE,0SPOOL OF THREAD,0BALL OF YARN,0SAFETY PIN"),
  (0x1f9f8, "0TEDDY BEAR,0BROOM,0BASKET,0ROLL OF PAPER,0BAR OF SOAP,0SPONGE,0RECEIPT"),
  (0x1f9ff, "0NAZAR AMULET,0NEUTRAL CHESS KING,2QUEEN,2ROOK,2BISHOP,2KNIGHT,2PAWN"),
  (0x1fa06, "0WHITE CHESS KNIGHT ROTATED FORTY-FIVE DEGREES"),
  (0x1fa07, "0BLACK CHESS KNIGHT ROTATED FORTY-FIVE DEGREES"),
  (0x1fa08, "0NEUTRAL CHESS KNIGHT ROTATED FORTY-FIVE DEGREES"),
  (0x1fa09, "0WHITE CHESS KING ROTATED NINETY DEGREES,2QUEEN ROTATED NINETY DEGREES"),
  (0x1fa0b, "2ROOK ROTATED NINETY DEGREES,2BISHOP ROTATED NINETY DEGREES"),
  (0x1fa0d, "2KNIGHT ROTATED NINETY DEGREES,2PAWN ROTATED NINETY DEGREES"),
  (0x1fa0f, "0BLACK CHESS KING ROTATED NINETY DEGREES,2QUEEN ROTATED NINETY DEGREES"),
  (0x1fa11, "2ROOK ROTATED NINETY DEGREES,2BISHOP ROTATED NINETY DEGREES"),
  (0x1fa13, "2KNIGHT ROTATED NINETY DEGREES,2PAWN ROTATED NINETY DEGREES"),
  (0x1fa15, "0NEUTRAL CHESS KING ROTATED NINETY DEGREES,2QUEEN ROTATED NINETY DEGREES"),
  (0x1fa17, "2ROOK ROTATED NINETY DEGREES,2BISHOP ROTATED NINETY DEGREES"),
  (0x1fa19, "2KNIGHT ROTATED NINETY DEGREES,2PAWN ROTATED NINETY DEGREES"),
  (0x1fa1b, "0WHITE CHESS KNIGHT ROTATED ONE HUNDRED THIRTY-FIVE DEGREES"),
  (0x1fa1c, "0BLACK CHESS KNIGHT ROTATED ONE HUNDRED THIRTY-FIVE DEGREES"),
  (0x1fa1d, "0NEUTRAL CHESS KNIGHT ROTATED ONE HUNDRED THIRTY-FIVE DEGREES"),
  (0x1fa1e, "0WHITE CHESS TURNED KING,3QUEEN,3ROOK,3BISHOP,3KNIGHT,3PAWN,0BLACK CHESS TURNED KING"),
  (0x1fa25, "3QUEEN,3ROOK,3BISHOP,3KNIGHT,3PAWN,0NEUTRAL CHESS TURNED KING,3QUEEN,3ROOK,3BISHOP"),
  (0x1fa2e, "3KNIGHT,3PAWN,0WHITE CHESS KNIGHT ROTATED TWO HUNDRED TWENTY-FIVE DEGREES"),
  (0x1fa31, "0BLACK CHESS KNIGHT ROTATED TWO HUNDRED TWENTY-FIVE DEGREES"),
  (0x1fa32, "0NEUTRAL CHESS KNIGHT ROTATED TWO HUNDRED TWENTY-FIVE DEGREES"),
  (0x1fa33, "0WHITE CHESS KING ROTATED TWO HUNDRED SEVENTY DEGREES"),
  (0x1fa34, "2QUEEN ROTATED TWO HUNDRED SEVENTY DEGREES,2ROOK ROTATED TWO HUNDRED SEVENTY DEGREES"),
  (0x1fa36, "2BISHOP ROTATED TWO HUNDRED SEVENTY DEGREES"),
  (0x1fa37, "2KNIGHT ROTATED TWO HUNDRED SEVENTY DEGREES"),
  (0x1fa38, "2PAWN ROTATED TWO HUNDRED SEVENTY DEGREES"),
  (0x1fa39, "0BLACK CHESS KING ROTATED TWO HUNDRED SEVENTY DEGREES"),
  (0x1fa3a, "2QUEEN ROTATED TWO HUNDRED SEVENTY DEGREES,2ROOK ROTATED TWO HUNDRED SEVENTY DEGREES"),
  (0x1fa3c, "2BISHOP ROTATED TWO HUNDRED SEVENTY DEGREES"),
  (0x1fa3d, "2KNIGHT ROTATED TWO HUNDRED SEVENTY DEGREES"),
  (0x1fa3e, "2PAWN ROTATED TWO HUNDRED SEVENTY DEGREES"),
  (0x1fa3f, "0NEUTRAL CHESS KING ROTATED TWO HUNDRED SEVENTY DEGREES"),
  (0x1fa40, "2QUEEN ROTATED TWO HUNDRED SEVENTY DEGREES,2ROOK ROTATED TWO HUNDRED SEVENTY DEGREES"),
  (0x1fa42, "2BISHOP ROTATED TWO HUNDRED SEVENTY DEGREES"),
  (0x1fa43, "2KNIGHT ROTATED TWO HUNDRED SEVENTY DEGREES"),
  (0x1fa44, "2PAWN ROTATED TWO HUNDRED SEVENTY DEGREES"),
  (0x1fa45, "0WHITE CHESS KNIGHT ROTATED THREE HUNDRED FIFTEEN DEGREES"),
  (0x1fa46, "0BLACK CHESS KNIGHT ROTATED THREE HUNDRED FIFTEEN DEGREES"),
  (0x1fa47, "0NEUTRAL CHESS KNIGHT ROTATED THREE HUNDRED FIFTEEN DEGREES,0WHITE CHESS EQUIHOPPER"),
  (0x1fa49, "0BLACK CHESS EQUIHOPPER,0NEUTRAL CHESS EQUIHOPPER"),
  (0x1fa4b, "0WHITE CHESS EQUIHOPPER ROTATED NINETY DEGREES"),
  (0x1fa4c, "0BLACK CHESS EQUIHOPPER ROTATED NINETY DEGREES"),
  (0x1fa4d, "0NEUTRAL CHESS EQUIHOPPER ROTATED NINETY DEGREES,0WHITE CHESS KNIGHT-QUEEN"),
  (0x1fa4f, "2KNIGHT-ROOK,2KNIGHT-BISHOP,0BLACK CHESS KNIGHT-QUEEN,2KNIGHT-ROOK,2KNIGHT-BISHOP"),
  (0x1fa60, "0XIANGQI RED GENERAL,2MANDARIN,2ELEPHANT,2HORSE,2CHARIOT,2CANNON,2SOLDIER"),
  (0x1fa67, "1BLACK GENERAL,2MANDARIN,2ELEPHANT,2HORSE,2CHARIOT,2CANNON,2SOLDIER"),
  (0x1fa70, "0BALLET SHOES,0ONE-PIECE SWIMSUIT,0BRIEFS,0SHORTS,0THONG SANDAL"),
  (0x1fa78, "0DROP OF BLOOD,0ADHESIVE BANDAGE,0STETHOSCOPE,0X-RAY,0CRUTCH"),
  (0x1fa80, "0YO-YO,0KITE,0PARACHUTE,0BOOMERANG,0MAGIC WAND,0PINATA,0NESTING DOLLS"),
  (0x1fa90, "0RINGED PLANET,0CHAIR,0RAZOR,0AXE,0DIYA LAMP,0BANJO,0MILITARY HELMET,0ACCORDION"),
  (0x1fa98, "0LONG DRUM,0COIN,0CARPENTRY SAW,0SCREWDRIVER,0LADDER,0HOOK,0MIRROR,0WINDOW,0PLUNGER"),
  (0x1faa1, "0SEWING NEEDLE,0KNOT,0BUCKET,0MOUSE TRAP,0TOOTHBRUSH,0HEADSTONE,0PLACARD,0ROCK"),
  (0x1faa9, "0MIRROR BALL,0IDENTIFICATION CARD,0LOW BATTERY,0HAMSA"),
  (0x1fab0, "0FLY,0WORM,0BEETLE,0COCKROACH,0POTTED PLANT,0WOOD,0FEATHER,0LOTUS,0CORAL,0EMPTY NEST"),
  (0x1faba, "0NEST WITH EGGS"),
  (0x1fac0, "0ANATOMICAL HEART,0LUNGS,0PEOPLE HUGGING,0PREGNANT MAN,1PERSON,0PERSON WITH CROWN"),
  (0x1fad0, "0BLUEBERRIES,0BELL PEPPER,0OLIVE,0FLATBREAD,0TAMALE,0FONDUE,0TEAPOT,0POURING LIQUID"),
  (0x1fad8, "0BEANS,0JAR"),
  (0x1fae0, "0MELTING FACE,0SALUTING FACE,0FACE WITH OPEN EYES AND HAND OVER MOUTH,2PEEKING EYE"),
  (0x1fae4, "2DIAGONAL MOUTH,0DOTTED LINE FACE,0BITING LIP,0BUBBLES"),
  (0x1faf0, "0HAND WITH INDEX FINGER AND THUMB CROSSED,0RIGHTWARDS HAND,0LEFTWARDS HAND"),
  (0x1faf3, "0PALM DOWN HAND,1UP HAND,0INDEX POINTING AT THE VIEWER,0HEART HANDS")]

/-- Second names, and the names of control characters. -/
def furtherNames : List (Nat × String) := [
  (0x0, "0NUL"),
  (0x0, "0NULL,0SOH"),
  (0x1, "0START OF HEADING,2TEXT"),
  (0x2, "0STX,0END OF TEXT"),
  (0x3, "0ETX,0END OF TRANSMISSION"),
  (0x4, "0EOT,0ENQ"),
  (0x5, "0ENQUIRY,0ACK"),
  (0x6, "0ACKNOWLEDGE,0ALERT"),
  (0x7, "0BEL,0BACKSPACE"),
  (0x8, "0BS,0CHARACTER TABULATION"),
  (0x9, "0HORIZONTAL TABULATION"),
  (0x9, "0HT"),
  (0x9, "0TAB,0END OF LINE"),
  (0xa, "0EOL"),
  (0xa, "0LF"),
  (0xa, "0LINE FEED"),
  (0xa, "0NEW LINE"),
  (0xa, "0NL,0LINE TABULATION"),
  (0xb, "0VERTICAL TABULATION"),
  (0xb, "0VT,0FF"),
  (0xc, "0FORM FEED,0CARRIAGE RETURN"),
  (0xd, "0CR,0LOCKING-SHIFT ONE"),
  (0xe, "0SHIFT OUT"),
  (0xe, "0SO,0LOCKING-SHIFT ZERO"),
  (0xf, "0SHIFT IN"),
  (0xf, "0SI,0DATA LINK ESCAPE"),
  (0x10, "0DLE,0DC1"),
  (0x11, "0DEVICE CONTROL ONE,0DC2"),
  (0x12, "0DEVICE CONTROL TWO,0DC3"),
  (0x13, "0DEVICE CONTROL THREE,0DC4"),
  (0x14, "0DEVICE CONTROL FOUR,0NAK"),
  (0x15, "0NEGATIVE ACKNOWLEDGE,0SYN"),
  (0x16, "0SYNCHRONOUS IDLE,0END OF TRANSMISSION BLOCK"),
  (0x17, "0ETB,0CAN"),
  (0x18, "0CANCEL,0END OF MEDIUM"),
  (0x19, "0EOM,0SUB"),
  (0x1a, "0SUBSTITUTE,0ESC"),
  (0x1b, "0ESCAPE,0FILE SEPARATOR"),
  (0x1c, "0FS"),
  (0x1c, "0INFORMATION SEPARATOR FOUR,0GROUP SEPARATOR"),
  (0x1d, "0GS"),
  (0x1d, "0INFORMATION SEPARATOR THREE,2TWO"),
  (0x1e, "0RECORD SEPARATOR"),
  (0x1e, "0RS,0INFORMATION SEPARATOR ONE"),
  (0x1f, "0UNIT SEPARATOR"),
  (0x1f, "0US,0SP"),
  (0x7f, "0DEL"),
  (0x7f, "0DELETE,0PAD"),
  (0x80, "0PADDING CHARACTER,0HIGH OCTET PRESET"),
  (0x81, "0HOP,0BPH"),
  (0x82, "0BREAK PERMITTED HERE,0NBH"),
  (0x83, "0NO BREAK HERE,0IND"),
  (0x84, "0INDEX,0NEL"),
  (0x85, "0NEXT LINE,0SSA"),
  (0x86, "0START OF SELECTED AREA,0END OF SELECTED AREA"),
  (0x87, "0ESA,0CHARACTER TABULATION SET"),
  (0x88, "0HORIZONTAL TABULATION SET"),
  (0x88, "0HTS,0CHARACTER TABULATION WITH JUSTIFICATION"),
  (0x89, "0HORIZONTAL TABULATION WITH JUSTIFICATION"),
  (0x89, "0HTJ,0LINE TABULATION SET"),
  (0x8a, "0VERTICAL TABULATION SET"),
  (0x8a, "0VTS,0PARTIAL LINE DOWN"),
  (0x8b, "2FORWARD"),
  (0x8b, "0PLD,0PARTIAL LINE BACKWARD"),
  (0x8c, "2UP"),
  (0x8c, "0PLU,0REVERSE INDEX"),
  (0x8d, "1LINE FEED"),
  (0x8d, "0RI,0SINGLE SHIFT TWO"),
  (0x8e, "0SINGLE-SHIFT-2"),
  (0x8e, "0SS2,0SINGLE SHIFT THREE"),
  (0x8f, "0SINGLE-SHIFT-3"),
  (0x8f, "0SS3,0DCS"),
  (0x90, "0DEVICE CONTROL STRING,0PRIVATE USE ONE"),
  (0x91, "1USE-1"),
  (0x91, "0PU1,0PRIVATE USE TWO"),
  (0x92, "1USE-2"),
  (0x92, "0PU2,0SET TRANSMIT STATE"),
  (0x93, "0STS,0CANCEL CHARACTER"),
  (0x94, "0CCH,0MESSAGE WAITING"),
  (0x95, "0MW,0SPA"),
  (0x96, "0START OF GUARDED AREA"),
  (0x96, "2PROTECTED AREA,0END OF GUARDED AREA"),
  (0x97, "2PROTECTED AREA"),
  (0x97, "0EPA,0SOS"),
  (0x98, "0START OF STRING,0SGC"),
  (0x99, "0SINGLE GRAPHIC CHARACTER INTRODUCER,0SCI"),
  (0x9a, "0SINGLE CHARACTER INTRODUCER,0CONTROL SEQUENCE INTRODUCER"),
  (0x9b, "0CSI,0ST"),
  (0x9c, "0STRING TERMINATOR,0OPERATING SYSTEM COMMAND"),
  (0x9d, "0OSC,0PM"),
  (0x9e, "0PRIVACY MESSAGE,0APC"),
  (0x9f, "0APPLICATION PROGRAM COMMAND,0NBSP"),
  (0xad, "0SHY"),
  (0x1a2, "0LATIN CAPITAL LETTER GHA,1SMALL LETTER GHA"),
  (0x34f, "0CGJ"),
  (0x61c, "0ALM"),
  (0x180b, "0FVS1"),
  (0x180e, "0MVS"),
  (0x200b, "0ZWSP,0ZWNJ,0ZWJ,0LRM,0RLM"),
  (0x202a, "0LRE,0RLE,0PDF,0LRO,0RLO,0NNBSP"),
  (0x205f, "0MMSP,0WJ"),
  (0x2066, "0LRI,0RLI,0FSI,0PDI"),
  (0x2118, "0WEIERSTRASS ELLIPTIC FUNCTION"),
  (0x2448, "0MICR ON US SYMBOL,1DASH SYMBOL"),
  (0x2b7a, "0LEFTWARDS TRIANGLE-HEADED ARROW WITH DOUBLE VERTICAL STROKE"),
  (0x2b7c, "0RIGHTWARDS TRIANGLE-HEADED ARROW WITH DOUBLE VERTICAL STROKE"),
  (0xa015, "0YI SYLLABLE ITERATION MARK"),
  (0xfe00, "0VS1,0VS2,0VS3,0VS4,0VS5,0VS6,0VS7,0VS8,0VS9,0VS10,0VS11,0VS12,0VS13,0VS14,0VS15"),
  (0xfe0f, "0VS16"),
  (0xfe18, "0PRESENTATION FORM FOR VERTICAL RIGHT WHITE LENTICULAR BRACKET"),
  (0xfeff, "0BOM"),
  (0xfeff, "0BYTE ORDER MARK"),
  (0xfeff, "0ZWNBSP")]

end Shortcode.Text
