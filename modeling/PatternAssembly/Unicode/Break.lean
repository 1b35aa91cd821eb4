import PatternAssembly.Unicode.Binary

/-!
# Boundaries in text

The classes by which the Unicode standard finds the boundaries of grapheme clusters, words and
sentences.

## Main definitions

* `graphemeBreakNames`, `wordBreakNames`, `sentenceBreakNames`: the classes with their names
-/
namespace PatternAssembly.Unicode

/-- The class `Control`. -/
def clusterControl : CharSet :=
  .ranges
    [(0x0, 0x9), (0xB, 0xC), (0xE, 0x1F), (0x7F, 0x9F), (0xAD, 0xAD), (0x61C, 0x61C),
     (0x180E, 0x180E), (0x200B, 0x200B), (0x200E, 0x200F), (0x2028, 0x202E), (0x2060, 0x206F),
     (0xFEFF, 0xFEFF), (0xFFF0, 0xFFFB), (0x13430, 0x1343F), (0x1BCA0, 0x1BCA3),
     (0x1D173, 0x1D17A), (0xE0000, 0xE001F), (0xE0080, 0xE00FF), (0xE01F0, 0xE0FFF)]

/-- The class `CR`. -/
def clusterCR : CharSet :=
  .ranges
    [(0xD, 0xD)]

/-- The class `Extend`. -/
def clusterExtend : CharSet :=
  CharSet.union graphemeExtend emojiModifier

/-- The class `L`. -/
def clusterL : CharSet :=
  .ranges
    [(0x1100, 0x115F), (0xA960, 0xA97C)]

/-- The class `LF`. -/
def clusterLF : CharSet :=
  .ranges
    [(0xA, 0xA)]

/-- The class `LV`. -/
def clusterLV : CharSet :=
  .every 28 [(0xAC00, 0xD788)]

/-- The class `LVT`. -/
def clusterLVT : CharSet :=
  .diff (.ranges [(0xAC00, 0xD7A3)]) clusterLV

/-- The class `Prepend`. -/
def clusterPrepend : CharSet :=
  .ranges
    [(0x600, 0x605), (0x6DD, 0x6DD), (0x70F, 0x70F), (0x890, 0x891), (0x8E2, 0x8E2),
     (0xD4E, 0xD4E), (0x110BD, 0x110BD), (0x110CD, 0x110CD), (0x111C2, 0x111C3),
     (0x113D1, 0x113D1), (0x1193F, 0x1193F), (0x11941, 0x11941), (0x11A3A, 0x11A3A),
     (0x11A84, 0x11A89), (0x11D46, 0x11D46), (0x11F02, 0x11F02)]

/-- The class `Regional_Indicator`. -/
def clusterRegionalIndicator : CharSet :=
  .ranges
    [(0x1F1E6, 0x1F1FF)]

/-- The class `SpacingMark`. -/
def clusterSpacingMark : CharSet :=
  CharSet.union (CharSet.diff (CharSet.diff spacingMark graphemeExtend)
    (.ranges [(0x102B, 0x102C), (0x1038, 0x1038), (0x1062, 0x1064), (0x1067, 0x106D),
               (0x1083, 0x1083), (0x1087, 0x108C), (0x108F, 0x108F), (0x109A, 0x109C),
               (0x1A61, 0x1A61), (0x1A63, 0x1A64), (0xAA7B, 0xAA7B), (0xAA7D, 0xAA7D),
               (0x11720, 0x11721)]))
    (.ranges
       [(0xE33, 0xE33), (0xEB3, 0xEB3)])

/-- The class `T`. -/
def clusterT : CharSet :=
  .ranges
    [(0x11A8, 0x11FF), (0xD7CB, 0xD7FB)]

/-- The class `V`. -/
def clusterV : CharSet :=
  .ranges
    [(0x1160, 0x11A7), (0xD7B0, 0xD7C6), (0x16D63, 0x16D63), (0x16D67, 0x16D6A)]

/-- The class `ZWJ`. -/
def clusterZWJ : CharSet :=
  .ranges
    [(0x200D, 0x200D)]

/-- The classes of grapheme cluster boundaries. -/
def graphemeBreakNames : List (List String × CharSet) :=
  [(["cn", "control"], clusterControl),
   (["cr"], clusterCR),
   (["ex", "extend"], clusterExtend),
   (["l"], clusterL),
   (["lf"], clusterLF),
   (["lv"], clusterLV),
   (["lvt"], clusterLVT),
   (["pp", "prepend"], clusterPrepend),
   (["ri", "regionalindicator"], clusterRegionalIndicator),
   (["sm", "spacingmark"], clusterSpacingMark),
   (["t"], clusterT),
   (["v"], clusterV),
   (["zwj"], clusterZWJ)]

/-- The class `ALetter`. -/
def wordALetter : CharSet :=
  CharSet.union (CharSet.diff alphabetic
    (.ranges [(0x345, 0x345), (0x363, 0x36F), (0x5B0, 0x5BD), (0x5BF, 0x5BF), (0x5C1, 0x5C2),
               (0x5C4, 0x5C5), (0x5C7, 0x5C7), (0x5D0, 0x5EA), (0x5EF, 0x5F2), (0x610, 0x61A),
               (0x64B, 0x657), (0x659, 0x65F), (0x670, 0x670), (0x6D6, 0x6DC), (0x6E1, 0x6E4),
               (0x6E7, 0x6E8), (0x6ED, 0x6ED), (0x711, 0x711), (0x730, 0x73F), (0x7A6, 0x7B0),
               (0x816, 0x817), (0x81B, 0x823), (0x825, 0x827), (0x829, 0x82C), (0x897, 0x897),
               (0x8D4, 0x8DF), (0x8E3, 0x8E9), (0x8F0, 0x903), (0x93A, 0x93B), (0x93E, 0x94C),
               (0x94E, 0x94F), (0x955, 0x957), (0x962, 0x963), (0x981, 0x983), (0x9BE, 0x9C4),
               (0x9C7, 0x9C8), (0x9CB, 0x9CC), (0x9D7, 0x9D7), (0x9E2, 0x9E3), (0xA01, 0xA03),
               (0xA3E, 0xA42), (0xA47, 0xA48), (0xA4B, 0xA4C), (0xA51, 0xA51), (0xA70, 0xA71),
               (0xA75, 0xA75), (0xA81, 0xA83), (0xABE, 0xAC5), (0xAC7, 0xAC9), (0xACB, 0xACC),
               (0xAE2, 0xAE3), (0xAFA, 0xAFC), (0xB01, 0xB03), (0xB3E, 0xB44), (0xB47, 0xB48),
               (0xB4B, 0xB4C), (0xB56, 0xB57), (0xB62, 0xB63), (0xB82, 0xB82), (0xBBE, 0xBC2),
               (0xBC6, 0xBC8), (0xBCA, 0xBCC), (0xBD7, 0xBD7), (0xC00, 0xC04), (0xC3E, 0xC44),
               (0xC46, 0xC48), (0xC4A, 0xC4C), (0xC55, 0xC56), (0xC62, 0xC63), (0xC81, 0xC83),
               (0xCBE, 0xCC4), (0xCC6, 0xCC8), (0xCCA, 0xCCC), (0xCD5, 0xCD6), (0xCE2, 0xCE3),
               (0xCF3, 0xCF3), (0xD00, 0xD03), (0xD3E, 0xD44), (0xD46, 0xD48), (0xD4A, 0xD4C),
               (0xD57, 0xD57), (0xD62, 0xD63), (0xD81, 0xD83), (0xDCF, 0xDD4), (0xDD6, 0xDD6),
               (0xDD8, 0xDDF), (0xDF2, 0xDF3), (0xE01, 0xE3A), (0xE40, 0xE46), (0xE4D, 0xE4D),
               (0xE81, 0xE82), (0xE84, 0xE84), (0xE86, 0xE8A), (0xE8C, 0xEA3), (0xEA5, 0xEA5),
               (0xEA7, 0xEB9), (0xEBB, 0xEBD), (0xEC0, 0xEC4), (0xEC6, 0xEC6), (0xECD, 0xECD),
               (0xEDC, 0xEDF), (0xF71, 0xF83), (0xF8D, 0xF97), (0xF99, 0xFBC),
               (0x1000, 0x1036), (0x1038, 0x1038), (0x103B, 0x103F), (0x1050, 0x108F),
               (0x109A, 0x109D), (0x1712, 0x1713), (0x1732, 0x1733), (0x1752, 0x1753),
               (0x1772, 0x1773), (0x1780, 0x17B3), (0x17B6, 0x17C8), (0x17D7, 0x17D7),
               (0x17DC, 0x17DC), (0x1885, 0x1886), (0x18A9, 0x18A9), (0x1920, 0x192B),
               (0x1930, 0x1938), (0x1950, 0x196D), (0x1970, 0x1974), (0x1980, 0x19AB),
               (0x19B0, 0x19C9), (0x1A17, 0x1A1B), (0x1A20, 0x1A5E), (0x1A61, 0x1A74),
               (0x1AA7, 0x1AA7), (0x1ABF, 0x1AC0), (0x1ACC, 0x1ACE), (0x1B00, 0x1B04),
               (0x1B35, 0x1B43), (0x1B80, 0x1B82), (0x1BA1, 0x1BA9), (0x1BAC, 0x1BAD),
               (0x1BE7, 0x1BF1), (0x1C24, 0x1C36), (0x1DD3, 0x1DF4), (0x2DE0, 0x2DFF),
               (0x3006, 0x3007), (0x3021, 0x3029), (0x3031, 0x3035), (0x3038, 0x303A),
               (0x3041, 0x3096), (0x309D, 0x309F), (0x30A1, 0x30FA), (0x30FC, 0x30FF),
               (0x31F0, 0x31FF), (0x3400, 0x4DBF), (0x4E00, 0x9FFF), (0xA674, 0xA67B),
               (0xA69E, 0xA69F), (0xA802, 0xA802), (0xA80B, 0xA80B), (0xA823, 0xA827),
               (0xA880, 0xA881), (0xA8B4, 0xA8C3), (0xA8C5, 0xA8C5), (0xA8FF, 0xA8FF),
               (0xA926, 0xA92A), (0xA947, 0xA952), (0xA980, 0xA983), (0xA9B4, 0xA9BF),
               (0xA9E0, 0xA9EF), (0xA9FA, 0xA9FE), (0xAA29, 0xAA36), (0xAA43, 0xAA43),
               (0xAA4C, 0xAA4D), (0xAA60, 0xAA76), (0xAA7A, 0xAABE), (0xAAC0, 0xAAC0),
               (0xAAC2, 0xAAC2), (0xAADB, 0xAADD), (0xAAEB, 0xAAEF), (0xAAF5, 0xAAF5),
               (0xABE3, 0xABEA), (0xF900, 0xFA6D), (0xFA70, 0xFAD9), (0xFB1D, 0xFB28),
               (0xFB2A, 0xFB36), (0xFB38, 0xFB3C), (0xFB3E, 0xFB3E), (0xFB40, 0xFB41),
               (0xFB43, 0xFB44), (0xFB46, 0xFB4F), (0xFF66, 0xFF9F), (0x10376, 0x1037A),
               (0x10A01, 0x10A03), (0x10A05, 0x10A06), (0x10A0C, 0x10A0F), (0x10D24, 0x10D27),
               (0x10D69, 0x10D69), (0x10EAB, 0x10EAC), (0x10EFC, 0x10EFC), (0x11000, 0x11002),
               (0x11038, 0x11045), (0x11073, 0x11074), (0x11080, 0x11082), (0x110B0, 0x110B8),
               (0x110C2, 0x110C2), (0x11100, 0x11102), (0x11127, 0x11132), (0x11145, 0x11146),
               (0x11180, 0x11182), (0x111B3, 0x111BF), (0x111CE, 0x111CF), (0x1122C, 0x11234),
               (0x11237, 0x11237), (0x1123E, 0x1123E), (0x11241, 0x11241), (0x112DF, 0x112E8),
               (0x11300, 0x11303), (0x1133E, 0x11344), (0x11347, 0x11348), (0x1134B, 0x1134C),
               (0x11357, 0x11357), (0x11362, 0x11363), (0x113B8, 0x113C0), (0x113C2, 0x113C2),
               (0x113C5, 0x113C5), (0x113C7, 0x113CA), (0x113CC, 0x113CD), (0x11435, 0x11441),
               (0x11443, 0x11445), (0x114B0, 0x114C1), (0x115AF, 0x115B5), (0x115B8, 0x115BE),
               (0x115DC, 0x115DD), (0x11630, 0x1163E), (0x11640, 0x11640), (0x116AB, 0x116B5),
               (0x11700, 0x1171A), (0x1171D, 0x1172A), (0x11740, 0x11746), (0x1182C, 0x11838),
               (0x11930, 0x11935), (0x11937, 0x11938), (0x1193B, 0x1193C), (0x11940, 0x11940),
               (0x11942, 0x11942), (0x119D1, 0x119D7), (0x119DA, 0x119DF), (0x119E4, 0x119E4),
               (0x11A01, 0x11A0A), (0x11A35, 0x11A39), (0x11A3B, 0x11A3E), (0x11A51, 0x11A5B),
               (0x11A8A, 0x11A97), (0x11C2F, 0x11C36), (0x11C38, 0x11C3E), (0x11C92, 0x11CA7),
               (0x11CA9, 0x11CB6), (0x11D31, 0x11D36), (0x11D3A, 0x11D3A), (0x11D3C, 0x11D3D),
               (0x11D3F, 0x11D41), (0x11D43, 0x11D43), (0x11D47, 0x11D47), (0x11D8A, 0x11D8E),
               (0x11D90, 0x11D91), (0x11D93, 0x11D96), (0x11EF3, 0x11EF6), (0x11F00, 0x11F01),
               (0x11F03, 0x11F03), (0x11F34, 0x11F3A), (0x11F3E, 0x11F40), (0x1611E, 0x1612E),
               (0x16F4F, 0x16F4F), (0x16F51, 0x16F87), (0x16F8F, 0x16F92), (0x16FF0, 0x16FF1),
               (0x17000, 0x187F7), (0x18800, 0x18CD5), (0x18CFF, 0x18D08), (0x1AFF0, 0x1AFF3),
               (0x1AFF5, 0x1AFFB), (0x1AFFD, 0x1AFFE), (0x1B000, 0x1B122), (0x1B132, 0x1B132),
               (0x1B150, 0x1B152), (0x1B155, 0x1B155), (0x1B164, 0x1B167), (0x1B170, 0x1B2FB),
               (0x1BC9E, 0x1BC9E), (0x1E000, 0x1E006), (0x1E008, 0x1E018), (0x1E01B, 0x1E021),
               (0x1E023, 0x1E024), (0x1E026, 0x1E02A), (0x1E08F, 0x1E08F), (0x1E947, 0x1E947),
               (0x20000, 0x2A6DF), (0x2A700, 0x2B739), (0x2B740, 0x2B81D), (0x2B820, 0x2CEA1),
               (0x2CEB0, 0x2EBE0), (0x2EBF0, 0x2EE5D), (0x2F800, 0x2FA1D), (0x30000, 0x3134A),
               (0x31350, 0x323AF)]))
    (.ranges
       [(0x2C2, 0x2C5), (0x2D2, 0x2D7), (0x2DE, 0x2DF), (0x2E5, 0x2EB), (0x2ED, 0x2ED),
        (0x2EF, 0x2FF), (0x55A, 0x55C), (0x55E, 0x55E), (0x58A, 0x58A), (0x5F3, 0x5F3),
        (0x70F, 0x70F), (0xA708, 0xA716), (0xA720, 0xA721), (0xA789, 0xA78A),
        (0xAB5B, 0xAB5B)])

/-- The class `CR`. -/
def wordCR : CharSet :=
  .ranges
    [(0xD, 0xD)]

/-- The class `Double_Quote`. -/
def wordDoubleQuote : CharSet :=
  .ranges
    [(0x22, 0x22)]

/-- The class `Extend`. -/
def wordExtend : CharSet :=
  CharSet.unions [graphemeExtend, spacingMark, emojiModifier]

/-- The class `ExtendNumLet`. -/
def wordExtendNumLet : CharSet :=
  .ranges
    [(0x5F, 0x5F), (0x202F, 0x202F), (0x203F, 0x2040), (0x2054, 0x2054), (0xFE33, 0xFE34),
     (0xFE4D, 0xFE4F), (0xFF3F, 0xFF3F)]

/-- The class `Format`. -/
def wordFormat : CharSet :=
  CharSet.diff format
    (.ranges [(0x600, 0x605), (0x6DD, 0x6DD), (0x70F, 0x70F), (0x890, 0x891), (0x8E2, 0x8E2),
               (0x200B, 0x200D), (0x110BD, 0x110BD), (0x110CD, 0x110CD), (0xE0020, 0xE007F)])

/-- The class `Hebrew_Letter`. -/
def wordHebrewLetter : CharSet :=
  .ranges
    [(0x5D0, 0x5EA), (0x5EF, 0x5F2), (0xFB1D, 0xFB1D), (0xFB1F, 0xFB28), (0xFB2A, 0xFB36),
     (0xFB38, 0xFB3C), (0xFB3E, 0xFB3E), (0xFB40, 0xFB41), (0xFB43, 0xFB44), (0xFB46, 0xFB4F)]

/-- The class `Katakana`. -/
def wordKatakana : CharSet :=
  .ranges
    [(0x3031, 0x3035), (0x309B, 0x309C), (0x30A0, 0x30FA), (0x30FC, 0x30FF), (0x31F0, 0x31FF),
     (0x32D0, 0x32FE), (0x3300, 0x3357), (0xFF66, 0xFF9D), (0x1AFF0, 0x1AFF3),
     (0x1AFF5, 0x1AFFB), (0x1AFFD, 0x1AFFE), (0x1B000, 0x1B000), (0x1B120, 0x1B122),
     (0x1B155, 0x1B155), (0x1B164, 0x1B167)]

/-- The class `LF`. -/
def wordLF : CharSet :=
  .ranges
    [(0xA, 0xA)]

/-- The class `MidLetter`. -/
def wordMidLetter : CharSet :=
  .ranges
    [(0x3A, 0x3A), (0xB7, 0xB7), (0x387, 0x387), (0x55F, 0x55F), (0x5F4, 0x5F4),
     (0x2027, 0x2027), (0xFE13, 0xFE13), (0xFE55, 0xFE55), (0xFF1A, 0xFF1A)]

/-- The class `MidNum`. -/
def wordMidNum : CharSet :=
  .ranges
    [(0x2C, 0x2C), (0x3B, 0x3B), (0x37E, 0x37E), (0x589, 0x589), (0x60C, 0x60D),
     (0x66C, 0x66C), (0x7F8, 0x7F8), (0x2044, 0x2044), (0xFE50, 0xFE50), (0xFE54, 0xFE54),
     (0xFF0C, 0xFF0C), (0xFF1B, 0xFF1B)]

/-- The class `MidNumLet`. -/
def wordMidNumLet : CharSet :=
  .ranges
    [(0x2E, 0x2E), (0x2018, 0x2019), (0x2024, 0x2024), (0xFE52, 0xFE52), (0xFF07, 0xFF07),
     (0xFF0E, 0xFF0E)]

/-- The class `Newline`. -/
def wordNewline : CharSet :=
  .ranges
    [(0xB, 0xC), (0x85, 0x85), (0x2028, 0x2029)]

/-- The class `Numeric`. -/
def wordNumeric : CharSet :=
  CharSet.union decimalNumber
    (.ranges
       [(0x600, 0x605), (0x66B, 0x66B), (0x6DD, 0x6DD), (0x890, 0x891), (0x8E2, 0x8E2),
        (0x19DA, 0x19DA), (0x110BD, 0x110BD), (0x110CD, 0x110CD)])

/-- The class `Regional_Indicator`. -/
def wordRegionalIndicator : CharSet :=
  .ranges
    [(0x1F1E6, 0x1F1FF)]

/-- The class `Single_Quote`. -/
def wordSingleQuote : CharSet :=
  .ranges
    [(0x27, 0x27)]

/-- The class `WSegSpace`. -/
def wordWSegSpace : CharSet :=
  .ranges
    [(0x20, 0x20), (0x1680, 0x1680), (0x2000, 0x2006), (0x2008, 0x200A), (0x205F, 0x205F),
     (0x3000, 0x3000)]

/-- The class `ZWJ`. -/
def wordZWJ : CharSet :=
  .ranges
    [(0x200D, 0x200D)]

/-- The classes of word boundaries. -/
def wordBreakNames : List (List String × CharSet) :=
  [(["le", "aletter"], wordALetter),
   (["cr"], wordCR),
   (["dq", "doublequote"], wordDoubleQuote),
   (["extend"], wordExtend),
   (["ex", "extendnumlet"], wordExtendNumLet),
   (["fo", "format"], wordFormat),
   (["hl", "hebrewletter"], wordHebrewLetter),
   (["ka", "katakana"], wordKatakana),
   (["lf"], wordLF),
   (["ml", "midletter"], wordMidLetter),
   (["mn", "midnum"], wordMidNum),
   (["mb", "midnumlet"], wordMidNumLet),
   (["nl", "newline"], wordNewline),
   (["nu", "numeric"], wordNumeric),
   (["ri", "regionalindicator"], wordRegionalIndicator),
   (["sq", "singlequote"], wordSingleQuote),
   (["wsegspace"], wordWSegSpace),
   (["zwj"], wordZWJ)]

/-- The class `ATerm`. -/
def sentenceATerm : CharSet :=
  .ranges
    [(0x2E, 0x2E), (0x2024, 0x2024), (0xFE52, 0xFE52), (0xFF0E, 0xFF0E)]

/-- The class `Close`. -/
def sentenceClose : CharSet :=
  CharSet.union (CharSet.unions
      [openPunctuation, closePunctuation, initialPunctuation, finalPunctuation])
    (.ranges
       [(0x22, 0x22), (0x27, 0x27), (0x275B, 0x2760), (0x2E00, 0x2E01), (0x2E06, 0x2E08),
        (0x2E0B, 0x2E0B), (0x1F676, 0x1F678)])

/-- The class `CR`. -/
def sentenceCR : CharSet :=
  .ranges
    [(0xD, 0xD)]

/-- The class `Extend`. -/
def sentenceExtend : CharSet :=
  CharSet.union (CharSet.union graphemeExtend spacingMark)
    (.ranges
       [(0x200D, 0x200D)])

/-- The class `Format`. -/
def sentenceFormat : CharSet :=
  CharSet.diff format
    (.ranges [(0x600, 0x605), (0x6DD, 0x6DD), (0x890, 0x891), (0x8E2, 0x8E2),
               (0x200C, 0x200D), (0x110BD, 0x110BD), (0x110CD, 0x110CD), (0xE0020, 0xE007F)])

/-- The class `LF`. -/
def sentenceLF : CharSet :=
  .ranges
    [(0xA, 0xA)]

/-- The class `Lower`. -/
def sentenceLower : CharSet :=
  CharSet.diff lowercase
    (.ranges [(0x345, 0x345), (0x10D0, 0x10FA), (0x10FD, 0x10FF)])

/-- The class `Numeric`. -/
def sentenceNumeric : CharSet :=
  CharSet.union decimalNumber
    (.ranges
       [(0x600, 0x605), (0x66B, 0x66C), (0x6DD, 0x6DD), (0x890, 0x891), (0x8E2, 0x8E2),
        (0x19DA, 0x19DA), (0x110BD, 0x110BD), (0x110CD, 0x110CD)])

/-- The class `OLetter`. -/
def sentenceOLetter : CharSet :=
  CharSet.union (CharSet.diff alphabetic
      (.unions [cased, nonspacingMark, spacingMark, graphemeExtend]))
    (.ranges
       [(0x5F3, 0x5F3), (0x10D0, 0x10FA), (0x10FD, 0x10FF), (0x1C90, 0x1CBA),
        (0x1CBD, 0x1CBF)])

/-- The class `SContinue`. -/
def sentenceSContinue : CharSet :=
  .ranges
    [(0x2C, 0x2D), (0x3A, 0x3B), (0x37E, 0x37E), (0x55D, 0x55D), (0x60C, 0x60D),
     (0x7F8, 0x7F8), (0x1802, 0x1802), (0x1808, 0x1808), (0x2013, 0x2014), (0x3001, 0x3001),
     (0xFE10, 0xFE11), (0xFE13, 0xFE14), (0xFE31, 0xFE32), (0xFE50, 0xFE51), (0xFE54, 0xFE55),
     (0xFE58, 0xFE58), (0xFE63, 0xFE63), (0xFF0C, 0xFF0D), (0xFF1A, 0xFF1B), (0xFF64, 0xFF64)]

/-- The class `Sep`. -/
def sentenceSep : CharSet :=
  .ranges
    [(0x85, 0x85), (0x2028, 0x2029)]

/-- The class `Sp`. -/
def sentenceSp : CharSet :=
  .ranges
    [(0x9, 0x9), (0xB, 0xC), (0x20, 0x20), (0xA0, 0xA0), (0x1680, 0x1680), (0x2000, 0x200A),
     (0x202F, 0x202F), (0x205F, 0x205F), (0x3000, 0x3000)]

/-- The class `STerm`. -/
def sentenceSTerm : CharSet :=
  CharSet.diff sentenceTerminal
    (.ranges [(0x2E, 0x2E), (0x2024, 0x2024), (0xFE52, 0xFE52), (0xFF0E, 0xFF0E)])

/-- The class `Upper`. -/
def sentenceUpper : CharSet :=
  CharSet.diff (CharSet.union uppercase titlecaseLetter)
    (.ranges [(0x1C90, 0x1CBA), (0x1CBD, 0x1CBF)])

/-- The classes of sentence boundaries. -/
def sentenceBreakNames : List (List String × CharSet) :=
  [(["at", "aterm"], sentenceATerm),
   (["cl", "close"], sentenceClose),
   (["cr"], sentenceCR),
   (["ex", "extend"], sentenceExtend),
   (["fo", "format"], sentenceFormat),
   (["lf"], sentenceLF),
   (["lo", "lower"], sentenceLower),
   (["nu", "numeric"], sentenceNumeric),
   (["le", "oletter"], sentenceOLetter),
   (["sc", "scontinue"], sentenceSContinue),
   (["se", "sep"], sentenceSep),
   (["sp"], sentenceSp),
   (["st", "sterm"], sentenceSTerm),
   (["up", "upper"], sentenceUpper)]

end PatternAssembly.Unicode
