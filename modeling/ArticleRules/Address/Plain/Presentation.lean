import ArticleRules.Text.Replacement

/-
This file lists the plain forms of ligatures, joined letters and letters of unusual width.
-/

namespace ArticleRules.Address

def plainPresentation : List Text.Replacements :=
  [⟨0xFB00, "ff fi fl ffi ffl st st"⟩,
   ⟨0xFB13, "մն մե մի վն մխ"⟩,
   ⟨0xFB1D, "\u05d9\u05b4"⟩,
   ⟨0xFB1F, "\u05f2\u05b7 \u05e2 \u05d0 \u05d3 \u05d4 \u05db \u05dc \u05dd \u05e8 \u05ea + \u05e9\u05c1"⟩,
   ⟨0xFB2B, "\u05e9\u05c2 \u05e9\u05bc\u05c1 \u05e9\u05bc\u05c2 \u05d0\u05b7 \u05d0\u05b8 \u05d0\u05bc"⟩,
   ⟨0xFB31, "\u05d1\u05bc \u05d2\u05bc \u05d3\u05bc \u05d4\u05bc \u05d5\u05bc \u05d6\u05bc"⟩,
   ⟨0xFB38, "\u05d8\u05bc \u05d9\u05bc \u05da\u05bc \u05db\u05bc \u05dc\u05bc"⟩,
   ⟨0xFB3E, "\u05de\u05bc"⟩,
   ⟨0xFB40, "\u05e0\u05bc \u05e1\u05bc"⟩,
   ⟨0xFB43, "\u05e3\u05bc \u05e4\u05bc"⟩,
   ⟨0xFB46, "\u05e6\u05bc \u05e7\u05bc \u05e8\u05bc \u05e9\u05bc \u05ea\u05bc \u05d5\u05b9 \u05d1\u05bf"⟩,
   ⟨0xFB4D, "\u05db\u05bf \u05e4\u05bf \u05d0\u05dc \u0671 \u0671 \u067b \u067b \u067b \u067b \u067e"⟩,
   ⟨0xFB57, "\u067e \u067e \u067e \u0680 \u0680 \u0680 \u0680 \u067a \u067a \u067a \u067a \u067f \u067f"⟩,
   ⟨0xFB64, "\u067f \u067f \u0679 \u0679 \u0679 \u0679 \u06a4 \u06a4 \u06a4 \u06a4 \u06a6 \u06a6 \u06a6"⟩,
   ⟨0xFB71, "\u06a6 \u0684 \u0684 \u0684 \u0684 \u0683 \u0683 \u0683 \u0683 \u0686 \u0686 \u0686 \u0686"⟩,
   ⟨0xFB7E, "\u0687 \u0687 \u0687 \u0687 \u068d \u068d \u068c \u068c \u068e \u068e \u0688 \u0688 \u0698"⟩,
   ⟨0xFB8B, "\u0698 \u0691 \u0691 \u06a9 \u06a9 \u06a9 \u06a9 \u06af \u06af \u06af \u06af \u06b3 \u06b3"⟩,
   ⟨0xFB98, "\u06b3 \u06b3 \u06b1 \u06b1 \u06b1 \u06b1 \u06ba \u06ba \u06bb \u06bb \u06bb \u06bb \u06c0"⟩,
   ⟨0xFBA5, "\u06c0 \u06c1 \u06c1 \u06c1 \u06c1 \u06be \u06be \u06be \u06be \u06d2 \u06d2 \u06d3 \u06d3"⟩,
   ⟨0xFBD3, "\u06ad \u06ad \u06ad \u06ad \u06c7 \u06c7 \u06c6 \u06c6 \u06c8 \u06c8 \u06c7\u0674 \u06cb"⟩,
   ⟨0xFBDF, "\u06cb \u06c5 \u06c5 \u06c9 \u06c9 \u06d0 \u06d0 \u06d0 \u06d0 \u0649 \u0649 \u0626\u0627"⟩,
   ⟨0xFBEB, "\u0626\u0627 \u0626\u06d5 \u0626\u06d5 \u0626\u0648 \u0626\u0648 \u0626\u06c7 \u0626\u06c7"⟩,
   ⟨0xFBF2, "\u0626\u06c6 \u0626\u06c6 \u0626\u06c8 \u0626\u06c8 \u0626\u06d0 \u0626\u06d0 \u0626\u06d0"⟩,
   ⟨0xFBF9, "\u0626\u0649 \u0626\u0649 \u0626\u0649 \u06cc \u06cc \u06cc \u06cc \u0626\u062c"⟩,
   ⟨0xFC01, "\u0626\u062d \u0626\u0645 \u0626\u0649 \u0626\u064a \u0628\u062c \u0628\u062d \u0628\u062e"⟩,
   ⟨0xFC08, "\u0628\u0645 \u0628\u0649 \u0628\u064a \u062a\u062c \u062a\u062d \u062a\u062e \u062a\u0645"⟩,
   ⟨0xFC0F, "\u062a\u0649 \u062a\u064a \u062b\u062c \u062b\u0645 \u062b\u0649 \u062b\u064a \u062c\u062d"⟩,
   ⟨0xFC16, "\u062c\u0645 \u062d\u062c \u062d\u0645 \u062e\u062c \u062e\u062d \u062e\u0645 \u0633\u062c"⟩,
   ⟨0xFC1D, "\u0633\u062d \u0633\u062e \u0633\u0645 \u0635\u062d \u0635\u0645 \u0636\u062c \u0636\u062d"⟩,
   ⟨0xFC24, "\u0636\u062e \u0636\u0645 \u0637\u062d \u0637\u0645 \u0638\u0645 \u0639\u062c \u0639\u0645"⟩,
   ⟨0xFC2B, "\u063a\u062c \u063a\u0645 \u0641\u062c \u0641\u062d \u0641\u062e \u0641\u0645 \u0641\u0649"⟩,
   ⟨0xFC32, "\u0641\u064a \u0642\u062d \u0642\u0645 \u0642\u0649 \u0642\u064a \u0643\u0627 \u0643\u062c"⟩,
   ⟨0xFC39, "\u0643\u062d \u0643\u062e \u0643\u0644 \u0643\u0645 \u0643\u0649 \u0643\u064a \u0644\u062c"⟩,
   ⟨0xFC40, "\u0644\u062d \u0644\u062e \u0644\u0645 \u0644\u0649 \u0644\u064a \u0645\u062c \u0645\u062d"⟩,
   ⟨0xFC47, "\u0645\u062e \u0645\u0645 \u0645\u0649 \u0645\u064a \u0646\u062c \u0646\u062d \u0646\u062e"⟩,
   ⟨0xFC4E, "\u0646\u0645 \u0646\u0649 \u0646\u064a \u0647\u062c \u0647\u0645 \u0647\u0649 \u0647\u064a"⟩,
   ⟨0xFC55, "\u064a\u062c \u064a\u062d \u064a\u062e \u064a\u0645 \u064a\u0649 \u064a\u064a \u0630\u0670"⟩,
   ⟨0xFC5C, "\u0631\u0670 \u0649\u0670 ␠\u064c\u0651 ␠\u064d\u0651 ␠\u064e\u0651 ␠\u064f\u0651"⟩,
   ⟨0xFC62, "␠\u0650\u0651 ␠\u0651\u0670 \u0626\u0631 \u0626\u0632 \u0626\u0645 \u0626\u0646"⟩,
   ⟨0xFC68, "\u0626\u0649 \u0626\u064a \u0628\u0631 \u0628\u0632 \u0628\u0645 \u0628\u0646 \u0628\u0649"⟩,
   ⟨0xFC6F, "\u0628\u064a \u062a\u0631 \u062a\u0632 \u062a\u0645 \u062a\u0646 \u062a\u0649 \u062a\u064a"⟩,
   ⟨0xFC76, "\u062b\u0631 \u062b\u0632 \u062b\u0645 \u062b\u0646 \u062b\u0649 \u062b\u064a \u0641\u0649"⟩,
   ⟨0xFC7D, "\u0641\u064a \u0642\u0649 \u0642\u064a \u0643\u0627 \u0643\u0644 \u0643\u0645 \u0643\u0649"⟩,
   ⟨0xFC84, "\u0643\u064a \u0644\u0645 \u0644\u0649 \u0644\u064a \u0645\u0627 \u0645\u0645 \u0646\u0631"⟩,
   ⟨0xFC8B, "\u0646\u0632 \u0646\u0645 \u0646\u0646 \u0646\u0649 \u0646\u064a \u0649\u0670 \u064a\u0631"⟩,
   ⟨0xFC92, "\u064a\u0632 \u064a\u0645 \u064a\u0646 \u064a\u0649 \u064a\u064a \u0626\u062c \u0626\u062d"⟩,
   ⟨0xFC99, "\u0626\u062e \u0626\u0645 \u0626\u0647 \u0628\u062c \u0628\u062d \u0628\u062e \u0628\u0645"⟩,
   ⟨0xFCA0, "\u0628\u0647 \u062a\u062c \u062a\u062d \u062a\u062e \u062a\u0645 \u062a\u0647 \u062b\u0645"⟩,
   ⟨0xFCA7, "\u062c\u062d \u062c\u0645 \u062d\u062c \u062d\u0645 \u062e\u062c \u062e\u0645 \u0633\u062c"⟩,
   ⟨0xFCAE, "\u0633\u062d \u0633\u062e \u0633\u0645 \u0635\u062d \u0635\u062e \u0635\u0645 \u0636\u062c"⟩,
   ⟨0xFCB5, "\u0636\u062d \u0636\u062e \u0636\u0645 \u0637\u062d \u0638\u0645 \u0639\u062c \u0639\u0645"⟩,
   ⟨0xFCBC, "\u063a\u062c \u063a\u0645 \u0641\u062c \u0641\u062d \u0641\u062e \u0641\u0645 \u0642\u062d"⟩,
   ⟨0xFCC3, "\u0642\u0645 \u0643\u062c \u0643\u062d \u0643\u062e \u0643\u0644 \u0643\u0645 \u0644\u062c"⟩,
   ⟨0xFCCA, "\u0644\u062d \u0644\u062e \u0644\u0645 \u0644\u0647 \u0645\u062c \u0645\u062d \u0645\u062e"⟩,
   ⟨0xFCD1, "\u0645\u0645 \u0646\u062c \u0646\u062d \u0646\u062e \u0646\u0645 \u0646\u0647 \u0647\u062c"⟩,
   ⟨0xFCD8, "\u0647\u0645 \u0647\u0670 \u064a\u062c \u064a\u062d \u064a\u062e \u064a\u0645 \u064a\u0647"⟩,
   ⟨0xFCDF, "\u0626\u0645 \u0626\u0647 \u0628\u0645 \u0628\u0647 \u062a\u0645 \u062a\u0647 \u062b\u0645"⟩,
   ⟨0xFCE6, "\u062b\u0647 \u0633\u0645 \u0633\u0647 \u0634\u0645 \u0634\u0647 \u0643\u0644 \u0643\u0645"⟩,
   ⟨0xFCED, "\u0644\u0645 \u0646\u0645 \u0646\u0647 \u064a\u0645 \u064a\u0647 \u0640\u064e\u0651"⟩,
   ⟨0xFCF3, "\u0640\u064f\u0651 \u0640\u0650\u0651 \u0637\u0649 \u0637\u064a \u0639\u0649 \u0639\u064a"⟩,
   ⟨0xFCF9, "\u063a\u0649 \u063a\u064a \u0633\u0649 \u0633\u064a \u0634\u0649 \u0634\u064a \u062d\u0649"⟩,
   ⟨0xFD00, "\u062d\u064a \u062c\u0649 \u062c\u064a \u062e\u0649 \u062e\u064a \u0635\u0649 \u0635\u064a"⟩,
   ⟨0xFD07, "\u0636\u0649 \u0636\u064a \u0634\u062c \u0634\u062d \u0634\u062e \u0634\u0645 \u0634\u0631"⟩,
   ⟨0xFD0E, "\u0633\u0631 \u0635\u0631 \u0636\u0631 \u0637\u0649 \u0637\u064a \u0639\u0649 \u0639\u064a"⟩,
   ⟨0xFD15, "\u063a\u0649 \u063a\u064a \u0633\u0649 \u0633\u064a \u0634\u0649 \u0634\u064a \u062d\u0649"⟩,
   ⟨0xFD1C, "\u062d\u064a \u062c\u0649 \u062c\u064a \u062e\u0649 \u062e\u064a \u0635\u0649 \u0635\u064a"⟩,
   ⟨0xFD23, "\u0636\u0649 \u0636\u064a \u0634\u062c \u0634\u062d \u0634\u062e \u0634\u0645 \u0634\u0631"⟩,
   ⟨0xFD2A, "\u0633\u0631 \u0635\u0631 \u0636\u0631 \u0634\u062c \u0634\u062d \u0634\u062e \u0634\u0645"⟩,
   ⟨0xFD31, "\u0633\u0647 \u0634\u0647 \u0637\u0645 \u0633\u062c \u0633\u062d \u0633\u062e \u0634\u062c"⟩,
   ⟨0xFD38, "\u0634\u062d \u0634\u062e \u0637\u0645 \u0638\u0645 \u0627\u064b \u0627\u064b"⟩,
   ⟨0xFD50, "\u062a\u062c\u0645 \u062a\u062d\u062c \u062a\u062d\u062c \u062a\u062d\u0645"⟩,
   ⟨0xFD54, "\u062a\u062e\u0645 \u062a\u0645\u062c \u062a\u0645\u062d \u062a\u0645\u062e"⟩,
   ⟨0xFD58, "\u062c\u0645\u062d \u062c\u0645\u062d \u062d\u0645\u064a \u062d\u0645\u0649"⟩,
   ⟨0xFD5C, "\u0633\u062d\u062c \u0633\u062c\u062d \u0633\u062c\u0649 \u0633\u0645\u062d"⟩,
   ⟨0xFD60, "\u0633\u0645\u062d \u0633\u0645\u062c \u0633\u0645\u0645 \u0633\u0645\u0645"⟩,
   ⟨0xFD64, "\u0635\u062d\u062d \u0635\u062d\u062d \u0635\u0645\u0645 \u0634\u062d\u0645"⟩,
   ⟨0xFD68, "\u0634\u062d\u0645 \u0634\u062c\u064a \u0634\u0645\u062e \u0634\u0645\u062e"⟩,
   ⟨0xFD6C, "\u0634\u0645\u0645 \u0634\u0645\u0645 \u0636\u062d\u0649 \u0636\u062e\u0645"⟩,
   ⟨0xFD70, "\u0636\u062e\u0645 \u0637\u0645\u062d \u0637\u0645\u062d \u0637\u0645\u0645"⟩,
   ⟨0xFD74, "\u0637\u0645\u064a \u0639\u062c\u0645 \u0639\u0645\u0645 \u0639\u0645\u0645"⟩,
   ⟨0xFD78, "\u0639\u0645\u0649 \u063a\u0645\u0645 \u063a\u0645\u064a \u063a\u0645\u0649"⟩,
   ⟨0xFD7C, "\u0641\u062e\u0645 \u0641\u062e\u0645 \u0642\u0645\u062d \u0642\u0645\u0645"⟩,
   ⟨0xFD80, "\u0644\u062d\u0645 \u0644\u062d\u064a \u0644\u062d\u0649 \u0644\u062c\u062c"⟩,
   ⟨0xFD84, "\u0644\u062c\u062c \u0644\u062e\u0645 \u0644\u062e\u0645 \u0644\u0645\u062d"⟩,
   ⟨0xFD88, "\u0644\u0645\u062d \u0645\u062d\u062c \u0645\u062d\u0645 \u0645\u062d\u064a"⟩,
   ⟨0xFD8C, "\u0645\u062c\u062d \u0645\u062c\u0645 \u0645\u062e\u062c \u0645\u062e\u0645"⟩,
   ⟨0xFD92, "\u0645\u062c\u062e \u0647\u0645\u062c \u0647\u0645\u0645 \u0646\u062d\u0645"⟩,
   ⟨0xFD96, "\u0646\u062d\u0649 \u0646\u062c\u0645 \u0646\u062c\u0645 \u0646\u062c\u0649"⟩,
   ⟨0xFD9A, "\u0646\u0645\u064a \u0646\u0645\u0649 \u064a\u0645\u0645 \u064a\u0645\u0645"⟩,
   ⟨0xFD9E, "\u0628\u062e\u064a \u062a\u062c\u064a \u062a\u062c\u0649 \u062a\u062e\u064a"⟩,
   ⟨0xFDA2, "\u062a\u062e\u0649 \u062a\u0645\u064a \u062a\u0645\u0649 \u062c\u0645\u064a"⟩,
   ⟨0xFDA6, "\u062c\u062d\u0649 \u062c\u0645\u0649 \u0633\u062e\u0649 \u0635\u062d\u064a"⟩,
   ⟨0xFDAA, "\u0634\u062d\u064a \u0636\u062d\u064a \u0644\u062c\u064a \u0644\u0645\u064a"⟩,
   ⟨0xFDAE, "\u064a\u062d\u064a \u064a\u062c\u064a \u064a\u0645\u064a \u0645\u0645\u064a"⟩,
   ⟨0xFDB2, "\u0642\u0645\u064a \u0646\u062d\u064a \u0642\u0645\u062d \u0644\u062d\u0645"⟩,
   ⟨0xFDB6, "\u0639\u0645\u064a \u0643\u0645\u064a \u0646\u062c\u062d \u0645\u062e\u064a"⟩,
   ⟨0xFDBA, "\u0644\u062c\u0645 \u0643\u0645\u0645 \u0644\u062c\u0645 \u0646\u062c\u062d"⟩,
   ⟨0xFDBE, "\u062c\u062d\u064a \u062d\u062c\u064a \u0645\u062c\u064a \u0641\u0645\u064a"⟩,
   ⟨0xFDC2, "\u0628\u062d\u064a \u0643\u0645\u0645 \u0639\u062c\u0645 \u0635\u0645\u0645"⟩,
   ⟨0xFDC6, "\u0633\u062e\u064a \u0646\u062c\u064a"⟩,
   ⟨0xFDF0, "\u0635\u0644\u06d2 \u0642\u0644\u06d2 \u0627\u0644\u0644\u0647 \u0627\u0643\u0628\u0631"⟩,
   ⟨0xFDF4, "\u0645\u062d\u0645\u062f \u0635\u0644\u0639\u0645 \u0631\u0633\u0648\u0644"⟩,
   ⟨0xFDF7, "\u0639\u0644\u064a\u0647 \u0648\u0633\u0644\u0645 \u0635\u0644\u0649"⟩,
   ⟨0xFDFA, "\u0635\u0644\u0649␠\u0627\u0644\u0644\u0647␠\u0639\u0644\u064a\u0647␠\u0648\u0633\u0644\u0645"⟩,
   ⟨0xFDFB, "\u062c\u0644␠\u062c\u0644\u0627\u0644\u0647 \u0631\u06cc\u0627\u0644"⟩,
   ⟨0xFE10, ", 、"⟩,
   ⟨0xFE13, ": ; ! ? 〖 〗"⟩,
   ⟨0xFE31, "— – _ _ ( ) \x7b \x7d 〔 〕 【 】 《 》 〈 〉 「 」 『 』"⟩,
   ⟨0xFE47, "[ ] ␠\u0305 ␠\u0305 ␠\u0305 ␠\u0305 _ _ _ , 、"⟩,
   ⟨0xFE54, "; : ? ! — ( ) \x7b \x7d 〔 〕 # & * + - < > ="⟩,
   ⟨0xFE68, "\\ $ % @"⟩,
   ⟨0xFE70, "␠\u064b \u0640\u064b ␠\u064c"⟩,
   ⟨0xFE74, "␠\u064d"⟩,
   ⟨0xFE76, "␠\u064e \u0640\u064e ␠\u064f \u0640\u064f ␠\u0650 \u0640\u0650 ␠\u0651 \u0640\u0651"⟩,
   ⟨0xFE7E, "␠\u0652 \u0640\u0652 \u0621 \u0622 \u0622 \u0623 \u0623 \u0624 \u0624 \u0625 \u0625 \u0626"⟩,
   ⟨0xFE8A, "\u0626 \u0626 \u0626 \u0627 \u0627 \u0628 \u0628 \u0628 \u0628 \u0629 \u0629 \u062a \u062a"⟩,
   ⟨0xFE97, "\u062a \u062a \u062b \u062b \u062b \u062b \u062c \u062c \u062c \u062c \u062d \u062d \u062d"⟩,
   ⟨0xFEA4, "\u062d \u062e \u062e \u062e \u062e \u062f \u062f \u0630 \u0630 \u0631 \u0631 \u0632 \u0632"⟩,
   ⟨0xFEB1, "\u0633 \u0633 \u0633 \u0633 \u0634 \u0634 \u0634 \u0634 \u0635 \u0635 \u0635 \u0635 \u0636"⟩,
   ⟨0xFEBE, "\u0636 \u0636 \u0636 \u0637 \u0637 \u0637 \u0637 \u0638 \u0638 \u0638 \u0638 \u0639 \u0639"⟩,
   ⟨0xFECB, "\u0639 \u0639 \u063a \u063a \u063a \u063a \u0641 \u0641 \u0641 \u0641 \u0642 \u0642 \u0642"⟩,
   ⟨0xFED8, "\u0642 \u0643 \u0643 \u0643 \u0643 \u0644 \u0644 \u0644 \u0644 \u0645 \u0645 \u0645 \u0645"⟩,
   ⟨0xFEE5, "\u0646 \u0646 \u0646 \u0646 \u0647 \u0647 \u0647 \u0647 \u0648 \u0648 \u0649 \u0649 \u064a"⟩,
   ⟨0xFEF2, "\u064a \u064a \u064a \u0644\u0622 \u0644\u0622 \u0644\u0623 \u0644\u0623 \u0644\u0625"⟩,
   ⟨0xFEFA, "\u0644\u0625 \u0644\u0627 \u0644\u0627"⟩,
   ⟨0xFF01, "! \" # $ % & ' ( ) * + , - . / 0 1 2 3 4 5 6 7 8 9 : ; < = > ? @ a b c d e f g h i j k l m"⟩,
   ⟨0xFF2E, "n o p q r s t u v w x y z [ \\ ] ^ _ ` a b c d e f g h i j k l m n o p q r s t u v w x y z"⟩,
   ⟨0xFF5B, "\x7b | \x7d ~ ⦅ ⦆ . 「 」 、 ・ ヲ ァ ィ ゥ ェ ォ ャ ュ ョ ッ \u30fc ア イ ウ エ オ カ キ"⟩,
   ⟨0xFF78, "ク ケ コ サ シ ス セ ソ タ チ ツ テ ト ナ ニ ヌ ネ ノ ハ ヒ フ ヘ ホ マ ミ ム メ モ ヤ ユ"⟩,
   ⟨0xFF96, "ヨ ラ リ ル レ ロ ワ ン \u3099 \u309a"⟩,
   ⟨0xFFA1, "ᄀ ᄁ ᆪ ᄂ ᆬ ᆭ ᄃ ᄄ ᄅ ᆰ ᆱ ᆲ ᆳ ᆴ ᆵ ᄚ ᄆ ᄇ ᄈ ᄡ ᄉ ᄊ ᄋ ᄌ ᄍ ᄎ ᄏ ᄐ ᄑ ᄒ"⟩,
   ⟨0xFFC2, "ᅡ ᅢ ᅣ ᅤ ᅥ ᅦ"⟩,
   ⟨0xFFCA, "ᅧ ᅨ ᅩ ᅪ ᅫ ᅬ"⟩,
   ⟨0xFFD2, "ᅭ ᅮ ᅯ ᅰ ᅱ ᅲ"⟩,
   ⟨0xFFDA, "ᅳ ᅴ ᅵ"⟩,
   ⟨0xFFE0, "¢ £ ¬ ␠\u0304 ¦ ¥ ₩"⟩,
   ⟨0xFFE8, "│ ← ↑ → ↓ ■ ○"⟩]

end ArticleRules.Address
