/-!
# Letters and their normal spelling

The characters that names may hold and that have a second spelling: a wide, narrow, raised or
slanted form of a letter is read as the letter, and a letter with a mark is the letter and the mark
behind it.  Marks behind one letter stand in the order of their classes.
-/

namespace AdminGrid.Text

/-- The plain spellings of the characters from a code point on, one behind another. -/
def plainRows : List (Nat × String) :=
  [(0xAA, "a"),
   (0xB5, "μ"),
   (0xBA, "o"),
   (0x132, "IJ ij"),
   (0x13F, "L· l·"),
   (0x149, "ʼn"),
   (0x17F, "s"),
   (0x1C4, "DŽ Dž dž LJ Lj lj NJ Nj nj"),
   (0x1F1, "DZ Dz dz"),
   (0x2B0, "h ɦ j r ɹ ɻ ʁ w y"),
   (0x2E0, "ɣ l s x ʕ"),
   (0x340, "\u0300 \u0301 \u0342 \u0313 \u0308\u0301"),
   (0x374, "ʹ"),
   (0x387, "·"),
   (0x3D0, "β θ Υ Ύ Ϋ φ π"),
   (0x3F0, "κ ρ ς ϳ Θ ε ϶ Ϸ ϸ Σ"),
   (0x587, "եւ"),
   (0x675, "اٴ وٴ ۇٴ يٴ"),
   (0x958, "क\u093c ख\u093c ग\u093c ज\u093c ड\u093c ढ\u093c फ\u093c य\u093c"),
   (0x9DC, "ড\u09bc ঢ\u09bc - য\u09bc"),
   (0xA33, "ਲ\u0a3c - ਵ ਸ\u0a3c"),
   (0xA59, "ਖ\u0a3c ਗ\u0a3c ਜ\u0a3c ੜ - ਫ\u0a3c"),
   (0xB5C, "ଡ\u0b3c ଢ\u0b3c"),
   (0xE33, "\u0e4dา"),
   (0xEB3, "\u0ecdາ"),
   (0xEDC, "ຫນ ຫມ"),
   (0xF43, "ག\u0fb7"),
   (0xF4D, "ཌ\u0fb7"),
   (0xF52, "ད\u0fb7"),
   (0xF57, "བ\u0fb7"),
   (0xF5C, "ཛ\u0fb7"),
   (0xF69, "ཀ\u0fb5"),
   (0xF73, "\u0f71\u0f72 \u0f74 \u0f71\u0f74 \u0fb2\u0f80 \u0fb2\u0f71\u0f80 \u0fb3\u0f80 " ++
    "\u0fb3\u0f71\u0f80"),
   (0xF81, "\u0f71\u0f80"),
   (0xF93, "\u0f92\u0fb7"),
   (0xF9D, "\u0f9c\u0fb7"),
   (0xFA2, "\u0fa1\u0fb7"),
   (0xFA7, "\u0fa6\u0fb7"),
   (0xFAC, "\u0fab\u0fb7"),
   (0xFB9, "\u0f90\u0fb5"),
   (0x10FC, "ნ"),
   (0x1D2C, "A Æ B ᴯ D E Ǝ G H I J K L M N ᴻ O Ȣ P R T U W a ɐ ɑ ᴂ b d e ə ɛ ɜ g ᵎ k m ŋ o ɔ ᴖ " ++
    "ᴗ p t u ᴝ ɯ v ᴥ β γ δ φ χ i r u v β γ ρ φ χ"),
   (0x1D78, "н"),
   (0x1D9B, "ɒ c ɕ ð ɜ f ɟ ɡ ɥ ɨ ɩ ɪ ᵻ ʝ ɭ ᶅ ʟ ɱ ɰ ɲ ɳ ɴ ɵ ɸ ʂ ʃ ƫ ʉ ʊ ᴜ ʋ ʌ z ʐ ʑ ʒ θ"),
   (0x1E9A, "aʾ ṡ"),
   (0x1F71, "ά ὲ έ ὴ ή ὶ ί ὸ ό ὺ ύ ὼ ώ"),
   (0x1FBB, "Ά ᾼ ᾽ ι"),
   (0x1FC9, "Έ Ὴ Ή"),
   (0x1FD3, "ΐ"),
   (0x1FDB, "Ί"),
   (0x1FE3, "ΰ"),
   (0x1FEB, "Ύ"),
   (0x1FF9, "Ό Ὼ Ώ"),
   (0x2071, "i"),
   (0x207F, "n"),
   (0x2090, "a e o x ə h k l m n p s t"),
   (0x2102, "C"),
   (0x2107, "Ɛ ℈ ℉ g H H H h ħ I I L l ℔ N № ℗ ℘ P Q R R R"),
   (0x2124, "Z ℥ Ω ℧ Z ℩ K Å B C ℮ e E F Ⅎ M o א ב ג ד i ℺ ℻ π γ Γ Π"),
   (0x2145, "D d e i j"),
   (0x2160, "I II III IV V VI VII VIII IX X XI XII L C D M i ii iii iv v vi vii viii ix x xi " ++
    "xii l c d m"),
   (0x2C7C, "j V"),
   (0x2D6F, "ⵡ"),
   (0x3038, "十 卄 卅"),
   (0x309F, "より"),
   (0x30FF, "コト"),
   (0x3131, "\u1100 \u1101 \u11aa \u1102 \u11ac \u11ad \u1103 \u1104 \u1105 \u11b0 \u11b1 " ++
    "\u11b2 \u11b3 \u11b4 \u11b5 \u111a \u1106 \u1107 \u1108 \u1121 \u1109 \u110a \u110b " ++
    "\u110c \u110d \u110e \u110f \u1110 \u1111 \u1112 \u1161 \u1162 \u1163 \u1164 \u1165 " ++
    "\u1166 \u1167 \u1168 \u1169 \u116a \u116b \u116c \u116d \u116e \u116f \u1170 \u1171 " ++
    "\u1172 \u1173 \u1174 \u1175 \u1160 \u1114 \u1115 \u11c7 \u11c8 \u11cc \u11ce \u11d3 " ++
    "\u11d7 \u11d9 \u111c \u11dd \u11df \u111d \u111e \u1120 \u1122 \u1123 \u1127 \u1129 " ++
    "\u112b \u112c \u112d \u112e \u112f \u1132 \u1136 \u1140 \u1147 \u114c \u11f1 \u11f2 " ++
    "\u1157 \u1158 \u1159 \u1184 \u1185 \u1188 \u1191 \u1192 \u1194 \u119e \u11a1"),
   (0xA69C, "ъ ь"),
   (0xA770, "ꝯ"),
   (0xA7F2, "C F Q Ꟶ ꟶ ꟷ Ħ œ"),
   (0xAB5C, "ꜧ ꬷ ɫ ꭒ"),
   (0xAB69, "ʍ"),
   (0xF900, "豈 更 車 賈 滑 串 句 龜 龜 契 金 喇 奈 懶 癩 羅 蘿 螺 裸 邏 樂 洛 烙 珞 落 酪 駱 亂 卵 欄 爛 蘭 鸞 嵐 濫 藍 襤 拉 臘 蠟 廊 " ++
    "朗 浪 狼 郎 來 冷 勞 擄 櫓 爐 盧 老 蘆 虜 路 露 魯 鷺 碌 祿 綠 菉 錄 鹿 論 壟 弄 籠 聾 牢 磊 賂 雷 壘 屢 樓 淚 漏 累 縷 陋 勒 肋 凜 " ++
    "凌 稜 綾 菱 陵 讀 拏 樂 諾 丹 寧 怒 率 異 北 磻 便 復 不 泌 數 索 參 塞 省 葉 說 殺 辰 沈 拾 若 掠 略 亮 兩 凉 梁 糧 良 諒 量 勵 呂 " ++
    "女 廬 旅 濾 礪 閭 驪 麗 黎 力 曆 歷 轢 年 憐 戀 撚 漣 煉 璉 秊 練 聯 輦 蓮 連 鍊 列 劣 咽 烈 裂 說 廉 念 捻 殮 簾 獵 令 囹 寧 嶺 怜 " ++
    "玲 瑩 羚 聆 鈴 零 靈 領 例 禮 醴 隸 惡 了 僚 寮 尿 料 樂 燎 療 蓼 遼 龍 暈 阮 劉 杻 柳 流 溜 琉 留 硫 紐 類 六 戮 陸 倫 崙 淪 輪 律 " ++
    "慄 栗 率 隆 利 吏 履 易 李 梨 泥 理 痢 罹 裏 裡 里 離 匿 溺 吝 燐 璘 藺 隣 鱗 麟 林 淋 臨 立 笠 粒 狀 炙 識 什 茶 刺 切 度 拓 糖 宅 " ++
    "洞 暴 輻 行 降 見 廓 兀 嗀 﨎 﨏 塚 﨑 晴 﨓 﨔 凞 猪 益 礼 神 祥 福 靖 精 羽 﨟 蘒 﨡 諸 﨣 﨤 逸 都 﨧 﨨 﨩 飯 飼 館 鶴 郞 隷 侮 " ++
    "僧 免 勉 勤 卑 喝 嘆 器 塀 墨 層 屮 悔 慨 憎 懲 敏 既 暑 梅 海 渚 漢 煮 爫 琢 碑 社 祉 祈 祐 祖 祝 禍 禎 穀 突 節 練 縉 繁 署 者 臭 " ++
    "艹 艹 著 褐 視 謁 謹 賓 贈 辶 逸 難 響 頻 恵 𤋮 舘 - - 並 况 全 侀 充 冀 勇 勺 喝 啕 喙 嗢 塚 墳 奄 奔 婢 嬨 廒 廙 彩 徭 惘 慎 愈 " ++
    "憎 慠 懲 戴 揄 搜 摒 敖 晴 朗 望 杖 歹 殺 流 滛 滋 漢 瀞 煮 瞧 爵 犯 猪 瑱 甆 画 瘝 瘟 益 盛 直 睊 着 磌 窱 節 类 絛 練 缾 者 荒 華 " ++
    "蝹 襁 覆 視 調 諸 請 謁 諾 諭 謹 變 贈 輸 遲 醙 鉶 陼 難 靖 韛 響 頋 頻 鬒 龜 𢡊 𢡄 𣏕 㮝 䀘 䀹 𥉉 𥳐 𧻓 齃 龎"),
   (0xFB00, "ff fi fl ffi ffl st st"),
   (0xFB13, "մն մե մի վն մխ"),
   (0xFB1D, "י\u05b4 \ufb1e ײ\u05b7 ע א ד ה כ ל ם ר ת ﬩ ש\u05c1 ש\u05c2 ש\u05bc\u05c1 " ++
    "ש\u05bc\u05c2 א\u05b7 א\u05b8 א\u05bc ב\u05bc ג\u05bc ד\u05bc ה\u05bc ו\u05bc ז\u05bc - " ++
    "ט\u05bc י\u05bc ך\u05bc כ\u05bc ל\u05bc - מ\u05bc - נ\u05bc ס\u05bc - ף\u05bc פ\u05bc - " ++
    "צ\u05bc ק\u05bc ר\u05bc ש\u05bc ת\u05bc ו\u05b9 ב\u05bf כ\u05bf פ\u05bf אל ٱ ٱ ٻ ٻ ٻ ٻ " ++
    "پ پ پ پ ڀ ڀ ڀ ڀ ٺ ٺ ٺ ٺ ٿ ٿ ٿ ٿ ٹ ٹ ٹ ٹ ڤ ڤ ڤ ڤ ڦ ڦ ڦ ڦ ڄ ڄ ڄ ڄ ڃ ڃ ڃ ڃ چ چ چ چ ڇ ڇ ڇ ڇ " ++
    "ڍ ڍ ڌ ڌ ڎ ڎ ڈ ڈ ژ ژ ڑ ڑ ک ک ک ک گ گ گ گ ڳ ڳ ڳ ڳ ڱ ڱ ڱ ڱ ں ں ڻ ڻ ڻ ڻ ۀ ۀ ہ ہ ہ ہ ھ ھ ھ ھ " ++
    "ے ے ۓ ۓ"),
   (0xFBD3, "ڭ ڭ ڭ ڭ ۇ ۇ ۆ ۆ ۈ ۈ ۇٴ ۋ ۋ ۅ ۅ ۉ ۉ ې ې ې ې ى ى ئا ئا ئە ئە ئو ئو ئۇ ئۇ ئۆ ئۆ ئۈ ئۈ " ++
    "ئې ئې ئې ئى ئى ئى ی ی ی ی ئج ئح ئم ئى ئي بج بح بخ بم بى بي تج تح تخ تم تى تي ثج ثم ثى " ++
    "ثي جح جم حج حم خج خح خم سج سح سخ سم صح صم ضج ضح ضخ ضم طح طم ظم عج عم غج غم فج فح فخ فم " ++
    "فى في قح قم قى قي كا كج كح كخ كل كم كى كي لج لح لخ لم لى لي مج مح مخ مم مى مي نج نح نخ " ++
    "نم نى ني هج هم هى هي يج يح يخ يم يى يي ذ\u0670 ر\u0670 ى\u0670"),
   (0xFC64, "ئر ئز ئم ئن ئى ئي بر بز بم بن بى بي تر تز تم تن تى تي ثر ثز ثم ثن ثى ثي فى في قى " ++
    "قي كا كل كم كى كي لم لى لي ما مم نر نز نم نن نى ني ى\u0670 ير يز يم ين يى يي ئج ئح ئخ " ++
    "ئم ئه بج بح بخ بم به تج تح تخ تم ته ثم جح جم حج حم خج خم سج سح سخ سم صح صخ صم ضج ضح ضخ " ++
    "ضم طح ظم عج عم غج غم فج فح فخ فم قح قم كج كح كخ كل كم لج لح لخ لم له مج مح مخ مم نج نح " ++
    "نخ نم نه هج هم ه\u0670 يج يح يخ يم يه ئم ئه بم به تم ته ثم ثه سم سه شم شه كل كم لم نم " ++
    "نه يم يه ـ\u064e\u0651 ـ\u064f\u0651 ـ\u0650\u0651 طى طي عى عي غى غي سى سي شى شي حى حي " ++
    "جى جي خى خي صى صي ضى ضي شج شح شخ شم شر سر صر ضر طى طي عى عي غى غي سى سي شى شي حى حي جى " ++
    "جي خى خي صى صي ضى ضي شج شح شخ شم شر سر صر ضر شج شح شخ شم سه شه طم سج سح سخ شج شح شخ طم " ++
    "ظم ا\u064b ا\u064b"),
   (0xFD50, "تجم تحج تحج تحم تخم تمج تمح تمخ جمح جمح حمي حمى سحج سجح سجى سمح سمح سمج سمم سمم " ++
    "صحح صحح صمم شحم شحم شجي شمخ شمخ شمم شمم ضحى ضخم ضخم طمح طمح طمم طمي عجم عمم عمم عمى غمم " ++
    "غمي غمى فخم فخم قمح قمم لحم لحي لحى لجج لجج لخم لخم لمح لمح محج محم محي مجح مجم مخج مخم " ++
    "- - مجخ همج همم نحم نحى نجم نجم نجى نمي نمى يمم يمم بخي تجي تجى تخي تخى تمي تمى جمي جحى " ++
    "جمى سخى صحي شحي ضحي لجي لمي يحي يجي يمي ممي قمي نحي قمح لحم عمي كمي نجح مخي لجم كمم لجم " ++
    "نجح جحي حجي مجي فمي بحي كمم عجم صمم سخي نجي"),
   (0xFDF0, "صلے قلے الله اكبر محمد صلعم رسول عليه وسلم صلى"),
   (0xFE33, "_ _"),
   (0xFE4D, "_ _ _"),
   (0xFE71, "ـ\u064b"),
   (0xFE77, "ـ\u064e ﹸ ـ\u064f ﹺ ـ\u0650 ﹼ ـ\u0651 ﹾ ـ\u0652 ء آ آ أ أ ؤ ؤ إ إ ئ ئ ئ ئ ا ا ب ب " ++
    "ب ب ة ة ت ت ت ت ث ث ث ث ج ج ج ج ح ح ح ح خ خ خ خ د د ذ ذ ر ر ز ز س س س س ش ش ش ش ص ص ص ص " ++
    "ض ض ض ض ط ط ط ط ظ ظ ظ ظ ع ع ع ع غ غ غ غ ف ف ف ف ق ق ق ق ك ك ك ك ل ل ل ل م م م م ن ن ن ن " ++
    "ه ه ه ه و و ى ى ي ي ي ي لآ لآ لأ لأ لإ لإ لا لا"),
   (0xFF10, "0 1 2 3 4 5 6 7 8 9"),
   (0xFF21, "A B C D E F G H I J K L M N O P Q R S T U V W X Y Z"),
   (0xFF3F, "_ ｀ a b c d e f g h i j k l m n o p q r s t u v w x y z"),
   (0xFF66, "ヲ ァ ィ ゥ ェ ォ ャ ュ ョ ッ ー ア イ ウ エ オ カ キ ク ケ コ サ シ ス セ ソ タ チ ツ テ ト ナ ニ ヌ ネ ノ ハ ヒ フ ヘ ホ " ++
    "マ ミ ム メ モ ヤ ユ ヨ ラ リ ル レ ロ ワ ン \u3099 \u309a \u1160 \u1100 \u1101 \u11aa \u1102 \u11ac " ++
    "\u11ad \u1103 \u1104 \u1105 \u11b0 \u11b1 \u11b2 \u11b3 \u11b4 \u11b5 \u111a \u1106 " ++
    "\u1107 \u1108 \u1121 \u1109 \u110a \u110b \u110c \u110d \u110e \u110f \u1110 \u1111 " ++
    "\u1112 - - - \u1161 \u1162 \u1163 \u1164 \u1165 \u1166 - - \u1167 \u1168 \u1169 \u116a " ++
    "\u116b \u116c - - \u116d \u116e \u116f \u1170 \u1171 \u1172 - - \u1173 \u1174 \u1175"),
   (0x10781, "ː ˑ æ ʙ ɓ - ʣ ꭦ ʥ ʤ ɖ ɗ ᶑ ɘ ɞ ʩ ɤ ɢ ɠ ʛ ħ ʜ ɧ ʄ ʪ ʫ ɬ 𝼄 ꞎ ɮ 𝼅 ʎ 𝼆 ø ɶ ɷ q ɺ 𝼈 ɽ ɾ " ++
    "ʀ ʨ ʦ ꭧ ʧ ʈ ⱱ - ʏ ʡ ʢ ʘ ǀ ǁ ǂ 𝼊 𝼞"),
   (0x1D400, "A B C D E F G H I J K L M N O P Q R S T U V W X Y Z a b c d e f g h i j k l m n o " ++
    "p q r s t u v w x y z A B C D E F G H I J K L M N O P Q R S T U V W X Y Z a b c d e f g " ++
    "- i j k l m n o p q r s t u v w x y z A B C D E F G H I J K L M N O P Q R S T U V W X Y " ++
    "Z a b c d e f g h i j k l m n o p q r s t u v w x y z A - C D - - G - - J K - - N O P Q " ++
    "- S T U V W X Y Z a b c d - f - h i j k l m n - p q r s t u v w x y z A B C D E F G H I " ++
    "J K L M N O P Q R S T U V W X Y Z a b c d e f g h i j k l m n o p q r s t u v w x y z A " ++
    "B - D E F G - - J K L M N O P Q - S T U V W X Y - a b c d e f g h i j k l m n o p q r s " ++
    "t u v w x y z A B - D E F G - I J K L M - O - - - S T U V W X Y - a b c d e f g h i j k " ++
    "l m n o p q r s t u v w x y z A B C D E F G H I J K L M N O P Q R S T U V W X Y Z a b c " ++
    "d e f g h i j k l m n o p q r s t u v w x y z A B C D E F G H I J K L M N O P Q R S T U " ++
    "V W X Y Z a b c d e f g h i j k l m n o p q r s t u v w x y z A B C D E F G H I J K L M " ++
    "N O P Q R S T U V W X Y Z a b c d e f g h i j k l m n o p q r s t u v w x y z A B C D E " ++
    "F G H I J K L M N O P Q R S T U V W X Y Z a b c d e f g h i j k l m n o p q r s t u v w " ++
    "x y z A B C D E F G H I J K L M N O P Q R S T U V W X Y Z a b c d e f g h i j k l m n o " ++
    "p q r s t u v w x y z A B C D E F G H I J K L M N O P Q R S T U V W X Y Z a b c d e f g " ++
    "h i j k l m n o p q r s t u v w x y z ı ȷ - - Α Β Γ Δ Ε Ζ Η Θ Ι Κ Λ Μ Ν Ξ Ο Π Ρ Θ Σ Τ Υ " ++
    "Φ Χ Ψ Ω 𝛁 α β γ δ ε ζ η θ ι κ λ μ ν ξ ο π ρ ς σ τ υ φ χ ψ ω 𝛛 ε θ κ φ ρ π Α Β Γ Δ Ε Ζ Η " ++
    "Θ Ι Κ Λ Μ Ν Ξ Ο Π Ρ Θ Σ Τ Υ Φ Χ Ψ Ω 𝛻 α β γ δ ε ζ η θ ι κ λ μ ν ξ ο π ρ ς σ τ υ φ χ ψ ω " ++
    "𝜕 ε θ κ φ ρ π Α Β Γ Δ Ε Ζ Η Θ Ι Κ Λ Μ Ν Ξ Ο Π Ρ Θ Σ Τ Υ Φ Χ Ψ Ω 𝜵 α β γ δ ε ζ η θ ι κ λ " ++
    "μ ν ξ ο π ρ ς σ τ υ φ χ ψ ω 𝝏 ε θ κ φ ρ π Α Β Γ Δ Ε Ζ Η Θ Ι Κ Λ Μ Ν Ξ Ο Π Ρ Θ Σ Τ Υ Φ Χ " ++
    "Ψ Ω 𝝯 α β γ δ ε ζ η θ ι κ λ μ ν ξ ο π ρ ς σ τ υ φ χ ψ ω 𝞉 ε θ κ φ ρ π Α Β Γ Δ Ε Ζ Η Θ Ι " ++
    "Κ Λ Μ Ν Ξ Ο Π Ρ Θ Σ Τ Υ Φ Χ Ψ Ω 𝞩 α β γ δ ε ζ η θ ι κ λ μ ν ξ ο π ρ ς σ τ υ φ χ ψ ω 𝟃 ε " ++
    "θ κ φ ρ π Ϝ ϝ - - 0 1 2 3 4 5 6 7 8 9 0 1 2 3 4 5 6 7 8 9 0 1 2 3 4 5 6 7 8 9 0 1 2 3 4 " ++
    "5 6 7 8 9 0 1 2 3 4 5 6 7 8 9"),
   (0x1EE00, "ا ب ج د - و ز ح ط ي ك ل م ن س ع ف ص ق ر ش ت ث خ ذ ض ظ غ ٮ ں ڡ ٯ - ب ج - ه - - ح - " ++
    "ي ك ل م ن س ع ف ص ق - ش ت ث خ - ض - غ"),
   (0x1EE42, "ج"),
   (0x1EE47, "ح - ي - ل - ن س ع - ص ق - ش - - خ - ض - غ - ں - ٯ - ب ج - ه - - ح ط ي ك - م ن س ع " ++
    "ف ص ق - ش ت ث خ - ض ظ غ ٮ - ڡ - ا ب ج د ه و ز ح ط ي - ل م ن س ع ف ص ق ر ش ت ث خ ذ ض ظ غ"),
   (0x1EEA1, "ب ج د - و ز ح ط ي - ل م ن س ع ف ص ق ر ش ت ث خ ذ ض ظ غ"),
   (0x1FBF0, "0 1 2 3 4 5 6 7 8 9"),
   (0x2F800, "丽 丸 乁 𠄢 你 侮 侻 倂 偺 備 僧 像 㒞 𠘺 免 兔 兤 具 𠔜 㒹 內 再 𠕋 冗 冤 仌 冬 况 𩇟 凵 刃 㓟 刻 剆 割 剷 㔕 勇 勉 勤 勺 " ++
    "包 匆 北 卉 卑 博 即 卽 卿 卿 卿 𠨬 灰 及 叟 𠭣 叫 叱 吆 咞 吸 呈 周 咢 哶 唐 啓 啣 善 善 喙 喫 喳 嗂 圖 嘆 圗 噑 噴 切 壮 城 埴 堍 " ++
    "型 堲 報 墬 𡓤 売 壷 夆 多 夢 奢 𡚨 𡛪 姬 娛 娧 姘 婦 㛮 㛼 嬈 嬾 嬾 𡧈 寃 寘 寧 寳 𡬘 寿 将 当 尢 㞁 屠 屮 峀 岍 𡷤 嵃 𡷦 嵮 嵫 嵼 " ++
    "巡 巢 㠯 巽 帨 帽 幩 㡢 𢆃 㡼 庰 庳 庶 廊 𪎒 廾 𢌱 𢌱 舁 弢 弢 㣇 𣊸 𦇚 形 彫 㣣 徚 忍 志 忹 悁 㤺 㤜 悔 𢛔 惇 慈 慌 慎 慌 慺 憎 憲 " ++
    "憤 憯 懞 懲 懶 成 戛 扝 抱 拔 捐 𢬌 挽 拼 捨 掃 揤 𢯱 搢 揅 掩 㨮 摩 摾 撝 摷 㩬 敏 敬 𣀊 旣 書 晉 㬙 暑 㬈 㫤 冒 冕 最 暜 肭 䏙 朗 " ++
    "望 朡 杞 杓 𣏃 㭉 柺 枅 桒 梅 𣑭 梎 栟 椔 㮝 楂 榣 槪 檨 𣚣 櫛 㰘 次 𣢧 歔 㱎 歲 殟 殺 殻 𣪍 𡴋 𣫺 汎 𣲼 沿 泍 汧 洖 派 海 流 浩 浸 " ++
    "涅 𣴞 洴 港 湮 㴳 滋 滇 𣻑 淹 潮 𣽞 𣾎 濆 瀹 瀞 瀛 㶖 灊 災 灷 炭 𠔥 煅 𤉣 熜 𤎫 爨 爵 牐 𤘈 犀 犕 𤜵 𤠔 獺 王 㺬 玥 㺸 㺸 瑇 瑜 瑱 " ++
    "璅 瓊 㼛 甤 𤰶 甾 𤲒 異 𢆟 瘐 𤾡 𤾸 𥁄 㿼 䀈 直 𥃳 𥃲 𥄙 𥄳 眞 真 真 睊 䀹 瞋 䁆 䂖 𥐝 硎 碌 磌 䃣 𥘦 祖 𥚚 𥛅 福 秫 䄯 穀 穊 穏 𥥼 " ++
    "𥪧 𥪧 竮 䈂 𥮫 篆 築 䈧 𥲀 糒 䊠 糨 糣 紀 𥾆 絣 䌁 緇 縂 繅 䌴 𦈨 𦉇 䍙 𦋙 罺 𦌾 羕 翺 者 𦓚 𦔣 聠 𦖨 聰 𣍟 䏕 育 脃 䐋 脾 媵 𦞧 𦞵 " ++
    "𣎓 𣎜 舁 舄 辞 䑫 芑 芋 芝 劳 花 芳 芽 苦 𦬼 若 茝 荣 莭 茣 莽 菧 著 荓 菊 菌 菜 𦰶 𦵫 𦳕 䔫 蓱 蓳 蔖 𧏊 蕤 𦼬 䕝 䕡 𦾱 𧃒 䕫 虐 虜 " ++
    "虧 虩 蚩 蚈 蜎 蛢 蝹 蜨 蝫 螆 䗗 蟡 蠁 䗹 衠 衣 𧙧 裗 裞 䘵 裺 㒻 𧢮 𧥦 䚾 䛇 誠 諭 變 豕 𧲨 貫 賁 贛 起 𧼯 𠠄 跋 趼 跰 𠣞 軔 輸 𨗒 " ++
    "𨗭 邔 郱 鄑 𨜮 鄛 鈸 鋗 鋘 鉼 鏹 鐕 𨯺 開 䦕 閷 𨵷 䧦 雃 嶲 霣 𩅅 𩈚 䩮 䩶 韠 𩐊 䪲 𩒖 頋 頋 頩 𩖶 飢 䬳 餩 馧 駂 駾 䯎 𩬰 鬒 鱀 鳽 " ++
    "䳎 䳭 鵧 𪃎 䳸 𪄅 𪈎 𪊑 麻 䵖 黹 黾 鼅 鼏 鼖 鼻 𪘀")]

/-- The letters that carry a mark, each behind the letter that it is made of.  A letter with several
marks stands before the letter with one mark less. -/
def markedRows : List (Nat × String) :=
  [(0x345, "ἂᾂἃᾃἄᾄἅᾅἆᾆἇᾇἊᾊἋᾋἌᾌἍᾍἎᾎἏᾏἢᾒἣᾓἤᾔἥᾕἦᾖἧᾗἪᾚἫᾛἬᾜἭᾝἮᾞἯᾟὢᾢὣᾣὤᾤὥᾥὦᾦὧᾧὪᾪὫᾫὬᾬὭᾭὮᾮὯᾯ"),
   (0x300, "ÂẦÊỀÔỒÜǛâầêềôồüǜĂẰăằĒḔēḕŌṐōṑƠỜơờƯỪưừϊῒϋῢἀἂἁἃἈἊἉἋἐἒἑἓἘἚἙἛἠἢἡἣἨἪἩἫἰἲἱἳἸἺἹἻὀὂὁὃὈὊὉὋὐὒὑὓ" ++
    "ὙὛὠὢὡὣὨὪὩὫ"),
   (0x301, "ÂẤÅǺÇḈÊẾÏḮÔỐÕṌÜǗâấåǻçḉêếïḯôốõṍüǘĂẮăắĒḖēḗŌṒōṓŨṸũṹƠỚơớƯỨưứϊΐϋΰἀἄἁἅἈἌἉἍἐἔἑἕἘἜἙἝἠἤἡἥἨἬἩἭ" ++
    "ἰἴἱἵἸἼἹἽὀὄὁὅὈὌὉὍὐὔὑὕὙὝὠὤὡὥὨὬὩὭ"),
   (0x302, "ẠẬạậẸỆẹệỌỘọộ"),
   (0x303, "ÂẪÊỄÔỖâẫêễôỗĂẴăẵƠỠơỡƯỮưữ"),
   (0x304, "ÄǞÕȬÖȪÜǕäǟõȭöȫüǖǪǬǫǭȦǠȧǡȮȰȯȱḶḸḷḹṚṜṛṝ"),
   (0x306, "ȨḜȩḝẠẶạặ"),
   (0x307, "ŚṤśṥŠṦšṧṢṨṣṩ"),
   (0x308, "ÕṎõṏŪṺūṻ"),
   (0x309, "ÂẨÊỂÔỔâẩêểôổĂẲăẳƠỞơởƯỬưử"),
   (0x30C, "ÜǙüǚ"),
   (0x323, "ƠỢơợƯỰưự"),
   (0x342, "ϊῗϋῧἀἆἁἇἈἎἉἏἠἦἡἧἨἮἩἯἰἶἱἷἸἾἹἿὐὖὑὗὙὟὠὦὡὧὨὮὩὯ"),
   (0x345, "άᾴήῄώῴἀᾀἁᾁἈᾈἉᾉἠᾐἡᾑἨᾘἩᾙὠᾠὡᾡὨᾨὩᾩὰᾲὴῂὼῲᾶᾷῆῇῶῷ"),
   (0xCD5, "\u0cca\u0ccb"),
   (0xDCA, "\u0ddc\u0ddd"),
   (0x300, "AÀEÈIÌNǸOÒUÙWẀYỲaàeèiìnǹoòuùwẁyỳΑᾺΕῈΗῊΙῚΟῸΥῪΩῺαὰεὲηὴιὶοὸυὺωὼЕЀИЍеѐиѝ"),
   (0x301, "AÁCĆEÉGǴIÍKḰLĹMḾNŃOÓPṔRŔSŚUÚWẂYÝZŹaácćeégǵiíkḱlĺmḿnńoópṕrŕsśuúwẃyýzźÆǼØǾæǽøǿΑΆΕΈΗΉΙΊ" ++
    "ΟΌΥΎΩΏαάεέηήιίοόυύωώϒϓГЃКЌгѓкќ"),
   (0x302, "AÂCĈEÊGĜHĤIÎJĴOÔSŜUÛWŴYŶZẐaâcĉeêgĝhĥiîjĵoôsŝuûwŵyŷzẑ"),
   (0x303, "AÃEẼIĨNÑOÕUŨVṼYỸaãeẽiĩnñoõuũvṽyỹ"),
   (0x304, "AĀEĒGḠIĪOŌUŪYȲaāeēgḡiīoōuūyȳÆǢæǣΑᾹΙῙΥῩαᾱιῑυῡИӢУӮиӣуӯ"),
   (0x306, "AĂEĔGĞIĬOŎUŬaăeĕgğiĭoŏuŭΑᾸΙῘΥῨαᾰιῐυῠАӐЕӖЖӁИЙУЎаӑеӗжӂийуў"),
   (0x307, "AȦBḂCĊDḊEĖFḞGĠHḢIİMṀNṄOȮPṖRṘSṠTṪWẆXẊYẎZŻaȧbḃcċdḋeėfḟgġhḣmṁnṅoȯpṗrṙsṡtṫwẇxẋyẏzżſẛ"),
   (0x308, "AÄEËHḦIÏOÖUÜWẄXẌYŸaäeëhḧiïoötẗuüwẅxẍyÿΙΪΥΫιϊυϋϒϔІЇАӒЕЁЖӜЗӞИӤОӦУӰЧӴЫӸЭӬаӓеёжӝзӟиӥоӧуӱ" ++
    "чӵыӹэӭіїӘӚәӛӨӪөӫ"),
   (0x309, "AẢEẺIỈOỎUỦYỶaảeẻiỉoỏuủyỷ"),
   (0x30A, "AÅUŮaåuůwẘyẙ"),
   (0x30B, "OŐUŰoőuűУӲуӳ"),
   (0x30C, "AǍCČDĎEĚGǦHȞIǏKǨLĽNŇOǑRŘSŠTŤUǓZŽaǎcčdďeěgǧhȟiǐjǰkǩlľnňoǒrřsštťuǔzžƷǮʒǯ"),
   (0x30F, "AȀEȄIȈOȌRȐUȔaȁeȅiȉoȍrȑuȕѴѶѵѷ"),
   (0x311, "AȂEȆIȊOȎRȒUȖaȃeȇiȋoȏrȓuȗ"),
   (0x313, "ΑἈΕἘΗἨΙἸΟὈΩὨαἀεἐηἠιἰοὀρῤυὐωὠ"),
   (0x314, "ΑἉΕἙΗἩΙἹΟὉΡῬΥὙΩὩαἁεἑηἡιἱοὁρῥυὑωὡ"),
   (0x31B, "OƠUƯoơuư"),
   (0x323, "AẠBḄDḌEẸHḤIỊKḲLḶMṂNṆOỌRṚSṢTṬUỤVṾWẈYỴZẒaạbḅdḍeẹhḥiịkḳlḷmṃnṇoọrṛsṣtṭuụvṿwẉyỵzẓ"),
   (0x324, "UṲuṳ"),
   (0x325, "AḀaḁ"),
   (0x326, "SȘTȚsștț"),
   (0x327, "CÇDḐEȨGĢHḨKĶLĻNŅRŖSŞTŢcçdḑeȩgģhḩkķlļnņrŗsştţ"),
   (0x328, "AĄEĘIĮOǪUŲaąeęiįoǫuų"),
   (0x32D, "DḒEḘLḼNṊTṰUṶdḓeḙlḽnṋtṱuṷ"),
   (0x32E, "HḪhḫ"),
   (0x330, "EḚIḬUṴeḛiḭuṵ"),
   (0x331, "BḆDḎKḴLḺNṈRṞTṮZẔbḇdḏhẖkḵlḻnṉrṟtṯzẕ"),
   (0x342, "αᾶηῆιῖυῦωῶ"),
   (0x345, "ΑᾼΗῌΩῼαᾳηῃωῳ"),
   (0x653, "اآ"),
   (0x654, "اأوؤيئہۂےۓەۀ"),
   (0x655, "اإ"),
   (0x93C, "नऩरऱळऴ"),
   (0x9BE, "\u09c7\u09cb"),
   (0x9D7, "\u09c7\u09cc"),
   (0xB3E, "\u0b47\u0b4b"),
   (0xB56, "\u0b47\u0b48"),
   (0xB57, "\u0b47\u0b4c"),
   (0xBBE, "\u0bc6\u0bca\u0bc7\u0bcb"),
   (0xBD7, "ஒஔ\u0bc6\u0bcc"),
   (0xC56, "\u0c46\u0c48"),
   (0xCC2, "\u0cc6\u0cca"),
   (0xCD5, "\u0cbf\u0cc0\u0cc6\u0cc7"),
   (0xCD6, "\u0cc6\u0cc8"),
   (0xD3E, "\u0d46\u0d4a\u0d47\u0d4b"),
   (0xD57, "\u0d46\u0d4c"),
   (0xDCA, "\u0dd9\u0dda"),
   (0xDCF, "\u0dd9\u0ddc"),
   (0xDDF, "\u0dd9\u0dde"),
   (0x102E, "ဥဦ"),
   (0x1B35, "ᬅᬆᬇᬈᬉᬊᬋᬌᬍᬎᬑᬒ\u1b3a\u1b3b\u1b3c\u1b3d\u1b3e\u1b40\u1b3f\u1b41\u1b42\u1b43"),
   (0x3099, "うゔかがきぎくぐけげこごさざしじすずせぜそぞただちぢつづてでとどはばひびふぶへべほぼゝゞウヴカガキギクグケゲコゴサザシジスズセゼソゾタダチヂツヅテデトドハバヒビフブ" ++
    "ヘベホボワヷヰヸヱヹヲヺヽヾ"),
   (0x309A, "はぱひぴふぷへぺほぽハパヒピフプヘペホポ"),
   (0x110BA, "𑂙𑂚𑂛𑂜𑂥𑂫"),
   (0x11127, "𑄱𑄮𑄲𑄯"),
   (0x1133E, "𑍇𑍋"),
   (0x11357, "𑍇𑍌"),
   (0x114B0, "𑒹𑒼"),
   (0x114BA, "𑒹𑒻"),
   (0x114BD, "𑒹𑒾"),
   (0x115AF, "𑖸𑖺𑖹𑖻"),
   (0x11930, "𑤵𑤸")]

/-- The intervals of the marks of each class, each written as its two ends. -/
def markClasses : List (Nat × List Nat) :=
  [(1, [820, 824, 7380, 7380, 7394, 7400, 8402, 8403, 8408, 8410, 8421, 8422, 8426, 8427, 68153,
     68153, 92912, 92916, 113822, 113822, 119143, 119145]),
   (6, [94192, 94193]),
   (7, [2364, 2364, 2492, 2492, 2620, 2620, 2748, 2748, 2876, 2876, 3132, 3132, 3260, 3260,
     4151, 4151, 6964, 6964, 7142, 7142, 7223, 7223, 43443, 43443, 69818, 69818, 70003,
     70003, 70090, 70090, 70198, 70198, 70377, 70377, 70459, 70460, 70726, 70726, 70851,
     70851, 71104, 71104, 71351, 71351, 71738, 71738, 72003, 72003, 73026, 73026, 125258,
     125258]),
   (8, [12441, 12442]),
   (9, [2381, 2381, 2509, 2509, 2637, 2637, 2765, 2765, 2893, 2893, 3021, 3021, 3149, 3149,
     3277, 3277, 3387, 3388, 3405, 3405, 3530, 3530, 3642, 3642, 3770, 3770, 3972, 3972,
     4153, 4154, 5908, 5909, 5940, 5940, 6098, 6098, 6752, 6752, 6980, 6980, 7082, 7083,
     7154, 7155, 11647, 11647, 43014, 43014, 43052, 43052, 43204, 43204, 43347, 43347, 43456,
     43456, 43766, 43766, 44013, 44013, 68159, 68159, 69702, 69702, 69744, 69744, 69759,
     69759, 69817, 69817, 69939, 69940, 70080, 70080, 70197, 70197, 70378, 70378, 70477,
     70477, 70722, 70722, 70850, 70850, 71103, 71103, 71231, 71231, 71350, 71350, 71467,
     71467, 71737, 71737, 71997, 71998, 72160, 72160, 72244, 72244, 72263, 72263, 72345,
     72345, 72767, 72767, 73028, 73029, 73111, 73111]),
   (10, [1456, 1456]),
   (11, [1457, 1457]),
   (12, [1458, 1458]),
   (13, [1459, 1459]),
   (14, [1460, 1460]),
   (15, [1461, 1461]),
   (16, [1462, 1462]),
   (17, [1463, 1463]),
   (18, [1464, 1464, 1479, 1479]),
   (19, [1465, 1466]),
   (20, [1467, 1467]),
   (21, [1468, 1468]),
   (22, [1469, 1469]),
   (23, [1471, 1471]),
   (24, [1473, 1473]),
   (25, [1474, 1474]),
   (26, [64286, 64286]),
   (27, [1611, 1611, 2288, 2288]),
   (28, [1612, 1612, 2289, 2289]),
   (29, [1613, 1613, 2290, 2290]),
   (30, [1560, 1560, 1614, 1614]),
   (31, [1561, 1561, 1615, 1615]),
   (32, [1562, 1562, 1616, 1616]),
   (33, [1617, 1617]),
   (34, [1618, 1618]),
   (35, [1648, 1648]),
   (36, [1809, 1809]),
   (84, [3157, 3157]),
   (91, [3158, 3158]),
   (103, [3640, 3641]),
   (107, [3656, 3659]),
   (118, [3768, 3769]),
   (122, [3784, 3787]),
   (129, [3953, 3953]),
   (130, [3954, 3954, 3962, 3965, 3968, 3968]),
   (132, [3956, 3956]),
   (202, [801, 802, 807, 808, 7632, 7632]),
   (214, [7630, 7630]),
   (216, [795, 795, 3897, 3897, 119141, 119142, 119150, 119154]),
   (218, [7674, 7674, 12330, 12330]),
   (220, [790, 793, 796, 800, 803, 806, 809, 819, 825, 828, 839, 841, 845, 846, 851, 854, 857,
     858, 1425, 1425, 1430, 1430, 1435, 1435, 1442, 1447, 1450, 1450, 1477, 1477, 1621, 1622,
     1628, 1628, 1631, 1631, 1763, 1763, 1770, 1770, 1773, 1773, 1841, 1841, 1844, 1844,
     1847, 1849, 1851, 1852, 1854, 1854, 1858, 1858, 1860, 1860, 1862, 1862, 1864, 1864,
     2034, 2034, 2045, 2045, 2137, 2139, 2201, 2203, 2255, 2259, 2275, 2275, 2278, 2278,
     2281, 2281, 2285, 2287, 2294, 2294, 2297, 2298, 2386, 2386, 3864, 3865, 3893, 3893,
     3895, 3895, 4038, 4038, 4237, 4237, 6459, 6459, 6680, 6680, 6783, 6783, 6837, 6842,
     6845, 6845, 6847, 6848, 6851, 6852, 6858, 6858, 7020, 7020, 7381, 7385, 7388, 7391,
     7405, 7405, 7618, 7618, 7626, 7626, 7631, 7631, 7673, 7673, 7677, 7677, 7679, 7679,
     8424, 8424, 8428, 8431, 43307, 43309, 43700, 43700, 65063, 65069, 66045, 66045, 66272,
     66272, 68109, 68109, 68154, 68154, 68326, 68326, 69446, 69447, 69451, 69451, 69453,
     69456, 69507, 69507, 69509, 69509, 119163, 119170, 119178, 119179, 125136, 125142]),
   (222, [1434, 1434, 1453, 1453, 6457, 6457, 12333, 12333]),
   (224, [12334, 12335]),
   (226, [119149, 119149]),
   (228, [1454, 1454, 6313, 6313, 7671, 7672, 12331, 12331]),
   (230, [768, 788, 829, 836, 838, 838, 842, 844, 848, 850, 855, 855, 859, 859, 867, 879, 1155,
     1159, 1426, 1429, 1431, 1433, 1436, 1441, 1448, 1449, 1451, 1452, 1455, 1455, 1476,
     1476, 1552, 1559, 1619, 1620, 1623, 1627, 1629, 1630, 1750, 1756, 1759, 1762, 1764,
     1764, 1767, 1768, 1771, 1772, 1840, 1840, 1842, 1843, 1845, 1846, 1850, 1850, 1853,
     1853, 1855, 1857, 1859, 1859, 1861, 1861, 1863, 1863, 1865, 1866, 2027, 2033, 2035,
     2035, 2070, 2073, 2075, 2083, 2085, 2087, 2089, 2093, 2200, 2200, 2204, 2207, 2250,
     2254, 2260, 2273, 2276, 2277, 2279, 2280, 2282, 2284, 2291, 2293, 2295, 2296, 2299,
     2303, 2385, 2385, 2387, 2388, 2558, 2558, 3970, 3971, 3974, 3975, 4957, 4959, 6109,
     6109, 6458, 6458, 6679, 6679, 6773, 6780, 6832, 6836, 6843, 6844, 6849, 6850, 6853,
     6857, 6859, 6862, 7019, 7019, 7021, 7027, 7376, 7378, 7386, 7387, 7392, 7392, 7412,
     7412, 7416, 7417, 7616, 7617, 7619, 7625, 7627, 7628, 7633, 7669, 7675, 7675, 7678,
     7678, 8400, 8401, 8404, 8407, 8411, 8412, 8417, 8417, 8423, 8423, 8425, 8425, 8432,
     8432, 11503, 11505, 11744, 11775, 42607, 42607, 42612, 42621, 42654, 42655, 42736,
     42737, 43232, 43249, 43696, 43696, 43698, 43699, 43703, 43704, 43710, 43711, 43713,
     43713, 65056, 65062, 65070, 65071, 66422, 66426, 68111, 68111, 68152, 68152, 68325,
     68325, 68900, 68903, 69291, 69292, 69448, 69450, 69452, 69452, 69506, 69506, 69508,
     69508, 69888, 69890, 70502, 70508, 70512, 70516, 70750, 70750, 92976, 92982, 119173,
     119177, 119210, 119213, 119362, 119364, 122880, 122886, 122888, 122904, 122907, 122913,
     122915, 122916, 122918, 122922, 123184, 123190, 123566, 123566, 123628, 123631, 125252,
     125257]),
   (232, [789, 789, 794, 794, 856, 856, 7670, 7670, 12332, 12332]),
   (233, [860, 860, 863, 863, 866, 866, 7676, 7676]),
   (234, [861, 862, 864, 865, 7629, 7629]),
   (240, [837, 837])]

end AdminGrid.Text
