import ArticleRules.Text.Replacement

/-
This file lists the plain forms of letters and symbols of the supplementary planes.
-/

namespace ArticleRules.Address

def plainSupplementary : List Text.Replacements :=
  [⟨0x10781, "\u02d0 \u02d1 æ ʙ ɓ"⟩,
   ⟨0x10787, "ʣ ꭦ ʥ ʤ ɖ ɗ ᶑ ɘ ɞ ʩ ɤ ɢ ɠ ʛ ħ ʜ ɧ ʄ ʪ ʫ ɬ 𝼄 ꞎ ɮ 𝼅 ʎ 𝼆 ø ɶ ɷ q ɺ 𝼈 ɽ ɾ ʀ ʨ ʦ ꭧ ʧ ʈ ⱱ"⟩,
   ⟨0x107B2, "ʏ ʡ ʢ ʘ ǀ ǁ ǂ 𝼊 𝼞"⟩,
   ⟨0x1CCD6, "a b c d e f g h i j k l m n o p q r s t u v w x y z 0 1 2 3 4 5 6 7 8 9"⟩,
   ⟨0x1D15E, "𝅗𝅥 𝅘𝅥 𝅘𝅥𝅮 𝅘𝅥𝅯 𝅘𝅥𝅰 𝅘𝅥𝅱 𝅘𝅥𝅲"⟩,
   ⟨0x1D1BB, "𝆹𝅥 𝆺𝅥 𝆹𝅥𝅮 𝆺𝅥𝅮 𝆹𝅥𝅯 𝆺𝅥𝅯"⟩,
   ⟨0x1D400, "a b c d e f g h i j k l m n o p q r s t u v w x y z a b c d e f g h i j k l m n o p q r s"⟩,
   ⟨0x1D42D, "t u v w x y z a b c d e f g h i j k l m n o p q r s t u v w x y z a b c d e f g"⟩,
   ⟨0x1D456, "i j k l m n o p q r s t u v w x y z a b c d e f g h i j k l m n o p q r s t u v w x y z a"⟩,
   ⟨0x1D483, "b c d e f g h i j k l m n o p q r s t u v w x y z a"⟩,
   ⟨0x1D49E, "c d"⟩,
   ⟨0x1D4A2, "g"⟩,
   ⟨0x1D4A5, "j k"⟩,
   ⟨0x1D4A9, "n o p q"⟩,
   ⟨0x1D4AE, "s t u v w x y z a b c d"⟩,
   ⟨0x1D4BB, "f"⟩,
   ⟨0x1D4BD, "h i j k l m n"⟩,
   ⟨0x1D4C5, "p q r s t u v w x y z a b c d e f g h i j k l m n o p q r s t u v w x y z a b c d e f g h"⟩,
   ⟨0x1D4F2, "i j k l m n o p q r s t u v w x y z a b"⟩,
   ⟨0x1D507, "d e f g"⟩,
   ⟨0x1D50D, "j k l m n o p q"⟩,
   ⟨0x1D516, "s t u v w x y"⟩,
   ⟨0x1D51E, "a b c d e f g h i j k l m n o p q r s t u v w x y z a b"⟩,
   ⟨0x1D53B, "d e f g"⟩,
   ⟨0x1D540, "i j k l m"⟩,
   ⟨0x1D546, "o"⟩,
   ⟨0x1D54A, "s t u v w x y"⟩,
   ⟨0x1D552, "a b c d e f g h i j k l m n o p q r s t u v w x y z a b c d e f g h i j k l m n o p q r s"⟩,
   ⟨0x1D57F, "t u v w x y z a b c d e f g h i j k l m n o p q r s t u v w x y z a b c d e f g h i j k l"⟩,
   ⟨0x1D5AC, "m n o p q r s t u v w x y z a b c d e f g h i j k l m n o p q r s t u v w x y z a b c d e"⟩,
   ⟨0x1D5D9, "f g h i j k l m n o p q r s t u v w x y z a b c d e f g h i j k l m n o p q r s t u v w x"⟩,
   ⟨0x1D606, "y z a b c d e f g h i j k l m n o p q r s t u v w x y z a b c d e f g h i j k l m n o p q"⟩,
   ⟨0x1D633, "r s t u v w x y z a b c d e f g h i j k l m n o p q r s t u v w x y z a b c d e f g h i j"⟩,
   ⟨0x1D660, "k l m n o p q r s t u v w x y z a b c d e f g h i j k l m n o p q r s t u v w x y z a b c"⟩,
   ⟨0x1D68D, "d e f g h i j k l m n o p q r s t u v w x y z ı ȷ"⟩,
   ⟨0x1D6A8, "α β γ δ ε ζ η θ ι κ λ μ ν ξ ο π ρ θ σ τ υ φ χ ψ ω ∇ α β γ δ ε ζ η θ ι κ λ μ ν ξ ο π ρ σ σ"⟩,
   ⟨0x1D6D5, "τ υ φ χ ψ ω ∂ ε θ κ φ ρ π α β γ δ ε ζ η θ ι κ λ μ ν ξ ο π ρ θ σ τ υ φ χ ψ ω ∇ α β γ δ ε ζ"⟩,
   ⟨0x1D702, "η θ ι κ λ μ ν ξ ο π ρ σ σ τ υ φ χ ψ ω ∂ ε θ κ φ ρ π α β γ δ ε ζ η θ ι κ λ μ ν ξ ο π ρ θ σ"⟩,
   ⟨0x1D72F, "τ υ φ χ ψ ω ∇ α β γ δ ε ζ η θ ι κ λ μ ν ξ ο π ρ σ σ τ υ φ χ ψ ω ∂ ε θ κ φ ρ π α β γ δ ε ζ"⟩,
   ⟨0x1D75C, "η θ ι κ λ μ ν ξ ο π ρ θ σ τ υ φ χ ψ ω ∇ α β γ δ ε ζ η θ ι κ λ μ ν ξ ο π ρ σ σ τ υ φ χ ψ ω"⟩,
   ⟨0x1D789, "∂ ε θ κ φ ρ π α β γ δ ε ζ η θ ι κ λ μ ν ξ ο π ρ θ σ τ υ φ χ ψ ω ∇ α β γ δ ε ζ η θ ι κ λ μ"⟩,
   ⟨0x1D7B6, "ν ξ ο π ρ σ σ τ υ φ χ ψ ω ∂ ε θ κ φ ρ π ϝ ϝ"⟩,
   ⟨0x1D7CE, "0 1 2 3 4 5 6 7 8 9 0 1 2 3 4 5 6 7 8 9 0 1 2 3 4 5 6 7 8 9 0 1 2 3 4 5 6 7 8 9 0 1 2 3 4"⟩,
   ⟨0x1D7FB, "5 6 7 8 9"⟩,
   ⟨0x1E030, "а б в г д е ж з и к л м о п р с т у ф х ц ч ш ы э ю ꚉ ә і ј ө ү ӏ а б в г д е ж з и к л о"⟩,
   ⟨0x1E05D, "п с у ф х ц ч ш ъ ы ґ і ѕ џ ҫ ꙑ ұ"⟩,
   ⟨0x1EE00, "\u0627 \u0628 \u062c \u062f"⟩,
   ⟨0x1EE05, "\u0648 \u0632 \u062d \u0637 \u064a \u0643 \u0644 \u0645 \u0646 \u0633 \u0639 \u0641 \u0635"⟩,
   ⟨0x1EE12, "\u0642 \u0631 \u0634 \u062a \u062b \u062e \u0630 \u0636 \u0638 \u063a \u066e \u06ba \u06a1"⟩,
   ⟨0x1EE1F, "\u066f"⟩,
   ⟨0x1EE21, "\u0628 \u062c"⟩,
   ⟨0x1EE24, "\u0647"⟩,
   ⟨0x1EE27, "\u062d"⟩,
   ⟨0x1EE29, "\u064a \u0643 \u0644 \u0645 \u0646 \u0633 \u0639 \u0641 \u0635 \u0642"⟩,
   ⟨0x1EE34, "\u0634 \u062a \u062b \u062e"⟩,
   ⟨0x1EE39, "\u0636"⟩,
   ⟨0x1EE3B, "\u063a"⟩,
   ⟨0x1EE42, "\u062c"⟩,
   ⟨0x1EE47, "\u062d"⟩,
   ⟨0x1EE49, "\u064a"⟩,
   ⟨0x1EE4B, "\u0644"⟩,
   ⟨0x1EE4D, "\u0646 \u0633 \u0639"⟩,
   ⟨0x1EE51, "\u0635 \u0642"⟩,
   ⟨0x1EE54, "\u0634"⟩,
   ⟨0x1EE57, "\u062e"⟩,
   ⟨0x1EE59, "\u0636"⟩,
   ⟨0x1EE5B, "\u063a"⟩,
   ⟨0x1EE5D, "\u06ba"⟩,
   ⟨0x1EE5F, "\u066f"⟩,
   ⟨0x1EE61, "\u0628 \u062c"⟩,
   ⟨0x1EE64, "\u0647"⟩,
   ⟨0x1EE67, "\u062d \u0637 \u064a \u0643"⟩,
   ⟨0x1EE6C, "\u0645 \u0646 \u0633 \u0639 \u0641 \u0635 \u0642"⟩,
   ⟨0x1EE74, "\u0634 \u062a \u062b \u062e"⟩,
   ⟨0x1EE79, "\u0636 \u0638 \u063a \u066e"⟩,
   ⟨0x1EE7E, "\u06a1"⟩,
   ⟨0x1EE80, "\u0627 \u0628 \u062c \u062f \u0647 \u0648 \u0632 \u062d \u0637 \u064a"⟩,
   ⟨0x1EE8B, "\u0644 \u0645 \u0646 \u0633 \u0639 \u0641 \u0635 \u0642 \u0631 \u0634 \u062a \u062b \u062e"⟩,
   ⟨0x1EE98, "\u0630 \u0636 \u0638 \u063a"⟩,
   ⟨0x1EEA1, "\u0628 \u062c \u062f"⟩,
   ⟨0x1EEA5, "\u0648 \u0632 \u062d \u0637 \u064a"⟩,
   ⟨0x1EEAB, "\u0644 \u0645 \u0646 \u0633 \u0639 \u0641 \u0635 \u0642 \u0631 \u0634 \u062a \u062b \u062e"⟩,
   ⟨0x1EEB8, "\u0630 \u0636 \u0638 \u063a"⟩,
   ⟨0x1F101, "0, 1, 2, 3, 4, 5, 6, 7, 8, 9,"⟩,
   ⟨0x1F110, "(a) (b) (c) (d) (e) (f) (g) (h) (i) (j) (k) (l) (m) (n) (o) (p) (q) (r) (s) (t) (u) (v)"⟩,
   ⟨0x1F126, "(w) (x) (y) (z) 〔s〕 c r cd wz"⟩,
   ⟨0x1F130, "a b c d e f g h i j k l m n o p q r s t u v w x y z hv mv sd ss ppv wc"⟩,
   ⟨0x1F16A, "mc md mr"⟩,
   ⟨0x1F190, "dj"⟩,
   ⟨0x1F200, "ほか ココ サ"⟩,
   ⟨0x1F210, "手 字 双 デ 二 多 解 天 交 映 無 料 前 後 再 新 初 終 生 販 声 吹 演 投 捕 一 三 遊 左 中"⟩,
   ⟨0x1F22E, "右 指 走 打 禁 空 合 満 有 月 申 割 営 配"⟩,
   ⟨0x1F240, "〔本〕 〔三〕 〔二〕 〔安〕 〔点〕 〔打〕 〔盗〕 〔勝〕 〔敗〕"⟩,
   ⟨0x1F250, "得 可"⟩,
   ⟨0x1FBF0, "0 1 2 3 4 5 6 7 8 9"⟩,
   ⟨0x2F800, "丽 丸 乁 𠄢 你 侮 侻 倂 偺 備 僧 像 㒞 𠘺 免 兔 兤 具 𠔜 㒹 內 再 𠕋 冗 冤 仌 冬 况 𩇟 凵"⟩,
   ⟨0x2F81E, "刃 㓟 刻 剆 割 剷 㔕 勇 勉 勤 勺 包 匆 北 卉 卑 博 即 卽 卿 卿 卿 𠨬 灰 及 叟 𠭣 叫 叱 吆"⟩,
   ⟨0x2F83C, "咞 吸 呈 周 咢 哶 唐 啓 啣 善 善 喙 喫 喳 嗂 圖 嘆 圗 噑 噴 切 壮 城 埴 堍 型 堲 報 墬 𡓤"⟩,
   ⟨0x2F85A, "売 壷 夆 多 夢 奢 𡚨 𡛪 姬 娛 娧 姘 婦 㛮 㛼 嬈 嬾 嬾 𡧈 寃 寘 寧 寳 𡬘 寿 将 当 尢 㞁 屠"⟩,
   ⟨0x2F878, "屮 峀 岍 𡷤 嵃 𡷦 嵮 嵫 嵼 巡 巢 㠯 巽 帨 帽 幩 㡢 𢆃 㡼 庰 庳 庶 廊 𪎒 廾 𢌱 𢌱 舁 弢 弢"⟩,
   ⟨0x2F896, "㣇 𣊸 𦇚 形 彫 㣣 徚 忍 志 忹 悁 㤺 㤜 悔 𢛔 惇 慈 慌 慎 慌 慺 憎 憲 憤 憯 懞 懲 懶 成 戛"⟩,
   ⟨0x2F8B4, "扝 抱 拔 捐 𢬌 挽 拼 捨 掃 揤 𢯱 搢 揅 掩 㨮 摩 摾 撝 摷 㩬 敏 敬 𣀊 旣 書 晉 㬙 暑 㬈 㫤"⟩,
   ⟨0x2F8D2, "冒 冕 最 暜 肭 䏙 朗 望 朡 杞 杓 𣏃 㭉 柺 枅 桒 梅 𣑭 梎 栟 椔 㮝 楂 榣 槪 檨 𣚣 櫛 㰘 次"⟩,
   ⟨0x2F8F0, "𣢧 歔 㱎 歲 殟 殺 殻 𣪍 𡴋 𣫺 汎 𣲼 沿 泍 汧 洖 派 海 流 浩 浸 涅 𣴞 洴 港 湮 㴳 滋 滇 𣻑"⟩,
   ⟨0x2F90E, "淹 潮 𣽞 𣾎 濆 瀹 瀞 瀛 㶖 灊 災 灷 炭 𠔥 煅 𤉣 熜 𤎫 爨 爵 牐 𤘈 犀 犕 𤜵 𤠔 獺 王 㺬 玥"⟩,
   ⟨0x2F92C, "㺸 㺸 瑇 瑜 瑱 璅 瓊 㼛 甤 𤰶 甾 𤲒 異 𢆟 瘐 𤾡 𤾸 𥁄 㿼 䀈 直 𥃳 𥃲 𥄙 𥄳 眞 真 真 睊 䀹"⟩,
   ⟨0x2F94A, "瞋 䁆 䂖 𥐝 硎 碌 磌 䃣 𥘦 祖 𥚚 𥛅 福 秫 䄯 穀 穊 穏 𥥼 𥪧 𥪧 竮 䈂 𥮫 篆 築 䈧 𥲀 糒 䊠"⟩,
   ⟨0x2F968, "糨 糣 紀 𥾆 絣 䌁 緇 縂 繅 䌴 𦈨 𦉇 䍙 𦋙 罺 𦌾 羕 翺 者 𦓚 𦔣 聠 𦖨 聰 𣍟 䏕 育 脃 䐋 脾"⟩,
   ⟨0x2F986, "媵 𦞧 𦞵 𣎓 𣎜 舁 舄 辞 䑫 芑 芋 芝 劳 花 芳 芽 苦 𦬼 若 茝 荣 莭 茣 莽 菧 著 荓 菊 菌 菜"⟩,
   ⟨0x2F9A4, "𦰶 𦵫 𦳕 䔫 蓱 蓳 蔖 𧏊 蕤 𦼬 䕝 䕡 𦾱 𧃒 䕫 虐 虜 虧 虩 蚩 蚈 蜎 蛢 蝹 蜨 蝫 螆 䗗 蟡 蠁"⟩,
   ⟨0x2F9C2, "䗹 衠 衣 𧙧 裗 裞 䘵 裺 㒻 𧢮 𧥦 䚾 䛇 誠 諭 變 豕 𧲨 貫 賁 贛 起 𧼯 𠠄 跋 趼 跰 𠣞 軔 輸"⟩,
   ⟨0x2F9E0, "𨗒 𨗭 邔 郱 鄑 𨜮 鄛 鈸 鋗 鋘 鉼 鏹 鐕 𨯺 開 䦕 閷 𨵷 䧦 雃 嶲 霣 𩅅 𩈚 䩮 䩶 韠 𩐊 䪲 𩒖"⟩,
   ⟨0x2F9FE, "頋 頋 頩 𩖶 飢 䬳 餩 馧 駂 駾 䯎 𩬰 鬒 鱀 鳽 䳎 䳭 鵧 𪃎 䳸 𪄅 𪈎 𪊑 麻 䵖 黹 黾 鼅 鼏 鼖"⟩,
   ⟨0x2FA1C, "鼻 𪘀"⟩]

end ArticleRules.Address
