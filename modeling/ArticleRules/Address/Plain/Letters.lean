import ArticleRules.Text.Replacement

/-
This file lists the plain forms of letters and symbols.
-/

namespace ArticleRules.Address

def plainLetters : List Text.Replacements :=
  [⟨0xA0, "␠"⟩,
   ⟨0xA8, "␠\u0308"⟩,
   ⟨0xAA, "a"⟩,
   ⟨0xAF, "␠\u0304"⟩,
   ⟨0xB2, "2 3 ␠\u0301 μ"⟩,
   ⟨0xB8, "␠\u0327 1 o"⟩,
   ⟨0xBC, "1⁄4 1⁄2 3⁄4"⟩,
   ⟨0x132, "ij ij"⟩,
   ⟨0x13F, "l· l·"⟩,
   ⟨0x149, "\u02bcn"⟩,
   ⟨0x17F, "s"⟩,
   ⟨0x1C4, "dž dž dž lj lj lj nj nj nj"⟩,
   ⟨0x1F1, "dz dz dz"⟩,
   ⟨0x2B0, "h ɦ j r ɹ ɻ ʁ w y"⟩,
   ⟨0x2D8, "␠\u0306 ␠\u0307 ␠\u030a ␠\u0328 ␠\u0303 ␠\u030b"⟩,
   ⟨0x2E0, "ɣ l s x ʕ"⟩,
   ⟨0x340, "\u0300 \u0301"⟩,
   ⟨0x343, "\u0313 \u0308\u0301 ι"⟩,
   ⟨0x374, "\u02b9"⟩,
   ⟨0x37A, "␠ι"⟩,
   ⟨0x37E, ";"⟩,
   ⟨0x384, "␠\u0301 ␠\u0308\u0301"⟩,
   ⟨0x387, "·"⟩,
   ⟨0x3D0, "β θ υ ύ ϋ φ π"⟩,
   ⟨0x3F0, "κ ρ σ"⟩,
   ⟨0x3F5, "ε"⟩,
   ⟨0x3F9, "σ"⟩,
   ⟨0x587, "եւ"⟩,
   ⟨0x675, "\u0627\u0674 \u0648\u0674 \u06c7\u0674 \u064a\u0674"⟩,
   ⟨0x958, "क\u093c ख\u093c ग\u093c ज\u093c ड\u093c ढ\u093c फ\u093c य\u093c"⟩,
   ⟨0x9DC, "ড\u09bc ঢ\u09bc"⟩,
   ⟨0x9DF, "য\u09bc"⟩,
   ⟨0xA33, "ਲ\u0a3c"⟩,
   ⟨0xA36, "ਸ\u0a3c"⟩,
   ⟨0xA59, "ਖ\u0a3c ਗ\u0a3c ਜ\u0a3c"⟩,
   ⟨0xA5E, "ਫ\u0a3c"⟩,
   ⟨0xB5C, "ଡ\u0b3c ଢ\u0b3c"⟩,
   ⟨0xE33, "\u0e4dา"⟩,
   ⟨0xEB3, "\u0ecdາ"⟩,
   ⟨0xEDC, "ຫນ ຫມ"⟩,
   ⟨0xF0C, "་"⟩,
   ⟨0xF43, "ག\u0fb7"⟩,
   ⟨0xF4D, "ཌ\u0fb7"⟩,
   ⟨0xF52, "ད\u0fb7"⟩,
   ⟨0xF57, "བ\u0fb7"⟩,
   ⟨0xF5C, "ཛ\u0fb7"⟩,
   ⟨0xF69, "ཀ\u0fb5"⟩,
   ⟨0xF73, "\u0f71\u0f72"⟩,
   ⟨0xF75, "\u0f71\u0f74 \u0fb2\u0f80 \u0fb2\u0f71\u0f80 \u0fb3\u0f80 \u0fb3\u0f71\u0f80"⟩,
   ⟨0xF81, "\u0f71\u0f80"⟩,
   ⟨0xF93, "\u0f92\u0fb7"⟩,
   ⟨0xF9D, "\u0f9c\u0fb7"⟩,
   ⟨0xFA2, "\u0fa1\u0fb7"⟩,
   ⟨0xFA7, "\u0fa6\u0fb7"⟩,
   ⟨0xFAC, "\u0fab\u0fb7"⟩,
   ⟨0xFB9, "\u0f90\u0fb5"⟩,
   ⟨0x10FC, "ნ"⟩,
   ⟨0x13F8, "Ᏸ Ᏹ Ᏺ Ᏻ Ᏼ Ᏽ"⟩,
   ⟨0x1C80, "в д о с т т ъ ѣ ꙋ"⟩,
   ⟨0x1D2C, "a æ b"⟩,
   ⟨0x1D30, "d e ǝ g h i j k l m n"⟩,
   ⟨0x1D3C, "o ȣ p r t u w a ɐ ɑ ᴂ b d e ə ɛ ɜ g"⟩,
   ⟨0x1D4F, "k m ŋ o ɔ ᴖ ᴗ p t u ᴝ ɯ v ᴥ β γ δ φ χ i r u v β γ ρ φ χ"⟩,
   ⟨0x1D78, "н"⟩,
   ⟨0x1D9B, "ɒ c ɕ ð ɜ f ɟ ɡ ɥ ɨ ɩ ɪ ᵻ ʝ ɭ ᶅ ʟ ɱ ɰ ɲ ɳ ɴ ɵ ɸ ʂ ʃ ƫ ʉ ʊ ᴜ ʋ ʌ z ʐ ʑ ʒ θ"⟩,
   ⟨0x1E9A, "a\u02be ṡ"⟩,
   ⟨0x1F71, "ά"⟩,
   ⟨0x1F73, "έ"⟩,
   ⟨0x1F75, "ή"⟩,
   ⟨0x1F77, "ί"⟩,
   ⟨0x1F79, "ό"⟩,
   ⟨0x1F7B, "ύ"⟩,
   ⟨0x1F7D, "ώ"⟩,
   ⟨0x1F80, "ἀι ἁι ἂι ἃι ἄι ἅι ἆι ἇι ἀι ἁι ἂι ἃι ἄι ἅι ἆι ἇι ἠι ἡι ἢι ἣι ἤι ἥι ἦι ἧι ἠι ἡι ἢι ἣι ἤι ἥι"⟩,
   ⟨0x1F9E, "ἦι ἧι ὠι ὡι ὢι ὣι ὤι ὥι ὦι ὧι ὠι ὡι ὢι ὣι ὤι ὥι ὦι ὧι"⟩,
   ⟨0x1FB2, "ὰι αι άι"⟩,
   ⟨0x1FB7, "ᾶι"⟩,
   ⟨0x1FBB, "ά αι ␠\u0313 ι ␠\u0313 ␠\u0342 ␠\u0308\u0342 ὴι ηι ήι"⟩,
   ⟨0x1FC7, "ῆι"⟩,
   ⟨0x1FC9, "έ"⟩,
   ⟨0x1FCB, "ή ηι ␠\u0313\u0300 ␠\u0313\u0301 ␠\u0313\u0342"⟩,
   ⟨0x1FD3, "ΐ"⟩,
   ⟨0x1FDB, "ί"⟩,
   ⟨0x1FDD, "␠\u0314\u0300 ␠\u0314\u0301 ␠\u0314\u0342"⟩,
   ⟨0x1FE3, "ΰ"⟩,
   ⟨0x1FEB, "ύ"⟩,
   ⟨0x1FED, "␠\u0308\u0300 ␠\u0308\u0301 `"⟩,
   ⟨0x1FF2, "ὼι ωι ώι"⟩,
   ⟨0x1FF7, "ῶι"⟩,
   ⟨0x1FF9, "ό"⟩,
   ⟨0x1FFB, "ώ ωι ␠\u0301 ␠\u0314"⟩,
   ⟨0x2000, "␠ ␠ ␠ ␠ ␠ ␠ ␠ ␠ ␠ ␠ ␠"⟩,
   ⟨0x2011, "‐"⟩,
   ⟨0x2017, "␠\u0333"⟩,
   ⟨0x202F, "␠"⟩,
   ⟨0x2033, "′′ ′′′"⟩,
   ⟨0x2036, "‵‵ ‵‵‵"⟩,
   ⟨0x203C, "!!"⟩,
   ⟨0x203E, "␠\u0305"⟩,
   ⟨0x2047, "?? ?! !?"⟩,
   ⟨0x2057, "′′′′"⟩,
   ⟨0x205F, "␠"⟩,
   ⟨0x2070, "0 i"⟩,
   ⟨0x2074, "4 5 6 7 8 9 + − = ( ) n 0 1 2 3 4 5 6 7 8 9 + − = ( )"⟩,
   ⟨0x2090, "a e o x ə h k l m n p s t"⟩,
   ⟨0x20A8, "rs"⟩,
   ⟨0x2100, "a/c a/s c °c"⟩,
   ⟨0x2105, "c/o c/u ɛ"⟩,
   ⟨0x2109, "°f g h h h h ħ i i l l"⟩,
   ⟨0x2115, "n no"⟩,
   ⟨0x2119, "p q r r r"⟩,
   ⟨0x2120, "sm tel tm"⟩,
   ⟨0x2124, "z"⟩,
   ⟨0x2128, "z"⟩,
   ⟨0x212C, "b c"⟩,
   ⟨0x212F, "e e f"⟩,
   ⟨0x2133, "m o \u05d0 \u05d1 \u05d2 \u05d3 i"⟩,
   ⟨0x213B, "fax π γ γ π ∑"⟩,
   ⟨0x2145, "d d e i j"⟩,
   ⟨0x2150, "1⁄7 1⁄9 1⁄10 1⁄3 2⁄3 1⁄5 2⁄5 3⁄5 4⁄5 1⁄6 5⁄6 1⁄8 3⁄8 5⁄8 7⁄8 1⁄ i ii iii iv v vi vii viii"⟩,
   ⟨0x2168, "ix x xi xii l c d m i ii iii iv v vi vii viii ix x xi xii l c d m"⟩,
   ⟨0x2189, "0⁄3"⟩,
   ⟨0x222C, "∫∫ ∫∫∫"⟩,
   ⟨0x222F, "∮∮ ∮∮∮"⟩,
   ⟨0x2329, "〈 〉"⟩,
   ⟨0x2460, "1 2 3 4 5 6 7 8 9 10 11 12 13 14 15 16 17 18 19 20 (1) (2) (3) (4) (5) (6) (7) (8) (9)"⟩,
   ⟨0x247D, "(10) (11) (12) (13) (14) (15) (16) (17) (18) (19) (20)"⟩,
   ⟨0x249C, "(a) (b) (c) (d) (e) (f) (g) (h) (i) (j) (k) (l) (m) (n) (o) (p) (q) (r) (s) (t) (u) (v)"⟩,
   ⟨0x24B2, "(w) (x) (y) (z) a b c d e f g h i j k l m n o p q r s t u v w x y z a b c d e f g h i j k"⟩,
   ⟨0x24DB, "l m n o p q r s t u v w x y z 0"⟩,
   ⟨0x2A0C, "∫∫∫∫"⟩,
   ⟨0x2A74, "::= == ==="⟩,
   ⟨0x2ADC, "⫝\u0338"⟩,
   ⟨0x2C7C, "j v"⟩,
   ⟨0x2D6F, "ⵡ"⟩]

end ArticleRules.Address
