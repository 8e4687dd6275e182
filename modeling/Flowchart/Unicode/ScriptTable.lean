import Flowchart.Text.CharSet

/-!
# Scripts

The scripts of the Unicode character database, each with its long name first.
-/

namespace Flowchart.Unicode

/-- The code points of each script. -/
def scriptTable : List NamedSet := [
  ⟨["Adlam", "Adlm"],
    "2olc 23 4 9 4 1"⟩,
  ⟨["Ahom"],
    "1j40 q 2 e 4 m"⟩,
  ⟨["Anatolian_Hieroglyphs", "Hluw"],
    "1s00 g6"⟩,
  ⟨["Arabic", "Arab"],
    "16o 4 1 5 1 d 1 2 1 v 1 9 b p 1 2z 1 x 28 1b 6o u 1 1 5 22 1 s 1bv4 36 g a2 2 27 2 1h 7 0
    w f 34 4 1 3q 31f u 1v 2 1j 3 181s 3 1 q 1 1 1 0 2 0 1 9 1 3 1 0 1 0 6 0 4 0 1 0 1 0 1 2
    1 1 1 0 2 0 1 0 1 0 1 0 1 0 1 1 1 0 2 3 1 6 1 3 1 3 1 0 1 9 1 g 5 2 1 4 1 g 1g 1"⟩,
  ⟨["Armenian", "Armn"],
    "10x 11 2 1d 2 2 1chv 4"⟩,
  ⟨["Avestan", "Avst"],
    "1gqo 1h 3 6"⟩,
  ⟨["Balinese", "Bali"],
    "5c0 24 1 1d"⟩,
  ⟨["Bamum", "Bamu"],
    "www 2f 124o fs"⟩,
  ⟨["Bassa_Vah", "Bass"],
    "1zo0 t 2 5"⟩,
  ⟨["Batak", "Batk"],
    "5hc 1f 8 3"⟩,
  ⟨["Bengali", "Beng"],
    "1vk 3 1 7 2 1 2 l 1 6 1 0 3 3 2 8 2 1 2 3 8 0 4 1 1 4 2 o"⟩,
  ⟨["Bhaiksuki", "Bhks"],
    "1k3k 8 1 18 1 d a s"⟩,
  ⟨["Bopomofo", "Bopo"],
    "kq 1 93t 16 34 v"⟩,
  ⟨["Brahmi", "Brah"],
    "1hq8 25 4 z 9 0"⟩,
  ⟨["Braille", "Brai"],
    "7wg 73"⟩,
  ⟨["Buginese", "Bugi"],
    "54w r 2 1"⟩,
  ⟨["Buhid", "Buhd"],
    "4lc j"⟩,
  ⟨["Canadian_Aboriginal", "Cans"],
    "3y8 hr fk 1x 1ewq f"⟩,
  ⟨["Carian", "Cari"],
    "1f34 1c"⟩,
  ⟨["Caucasian_Albanian", "Aghb"],
    "1flc 1f b 0"⟩,
  ⟨["Chakma", "Cakm"],
    "1hxc 1g 1 h"⟩,
  ⟨["Cham"],
    "xkw 1i 9 d 2 9 2 3"⟩,
  ⟨["Cherokee", "Cher"],
    "3vk 2d 2 5 twy 27"⟩,
  ⟨["Chorasmian", "Chrs"],
    "1ho0 r"⟩,
  ⟨["Common", "Zyyy"],
    "0 1s q 5 q 1a 1 e 1 4 n 0 v 0 ch 12 5 4 2 j 38 0 9 0 6 0 1 0 hp 0 6 0 e 0 3 0 w 0 4c 0 ec
    0 3l 1 yh 0 b9 3 82 0 167 2 1z 1 5n 1 1 0 y5 0 d 0 7 3 1 5 1 2 2 0 lh b 2 2e 1 a 3 a 1 e
    h w 1r 11 1 2 2 5 1 q 1 g 15 2 4 ih m a l pr 74 hf 2 v 1 2w e8 2l b6 k 1 0 1 o f 7 4 3 2j
    1 3 0 2i 1 43 f w 11 9 0 1c 1r v 28 1b 0 2g 4n 534 1r hkw x 2u 2 4l 9 6s 0 4g 0 az 0 e 1
    g5u 1 5s 9 m y 1 i 1 3 43 0 1 v q 5 q a a 0 19 1 1s 6 1 6 a 4 76 2 4 18 3 8 28 c 1f 18 6c
    q 10o4 3 318 6x 6 c3 4c 37 1o 6t a 12 2 1p 3 g 8 1 7 t 4 1o 5x j c j c 2e 9 o 3r 2c 1 1y
    1 1 2 0 2 1 2 3 1 b 1 0 1 6 1 1s 1 3 2 7 1 6 1 r 1 3 1 4 1 0 3 6 1 9f 2 83 2 1d 41d 1v 24
    1o jm 17 4 2r c e 2 e 1 e 1 10 a 4t 1k p 1 1 d 17 4 8 7 1 e 5 4a rb 4 g 3 c 3 3a 4 2m 6 b
    4 0 f b 4 1j 8 9 6 13 8 t 2 b 4 1 1q 9f c d 2 c 3 9 5 1j 7 e 2 a 6 8 7 42 1 2t gvlz 0 u
    2n"⟩,
  ⟨["Coptic", "Copt", "Qaac"],
    "rm d 80g 37 5 6"⟩,
  ⟨["Cuneiform", "Xsux"],
    "1kw0 pl 2u 32 1 4 b 5f"⟩,
  ⟨["Cypriot", "Cprt"],
    "1g5c 5 2 0 1 17 1 1 3 0 2 0"⟩,
  ⟨["Cypro_Minoan", "Cpmn"],
    "1nyo 2q"⟩,
  ⟨["Cyrillic", "Cyrl"],
    "sg 3o 2 4o 4ls a 4g 0 24 0 38n v nr4 2n ham 1 18n4 1p x 0"⟩,
  ⟨["Deseret", "Dsrt"],
    "1fcw 27"⟩,
  ⟨["Devanagari", "Deva"],
    "1s0 28 4 e 2 p vhc v mio 9"⟩,
  ⟨["Dives_Akuru", "Diak"],
    "1ji8 6 2 0 2 7 1 1 1 t 1 1 2 b 9 9"⟩,
  ⟨["Dogra", "Dogr"],
    "1jb4 1n"⟩,
  ⟨["Duployan", "Dupl"],
    "2fpc 2y 5 c 3 8 7 9 2 3"⟩,
  ⟨["Egyptian_Hieroglyphs", "Egyp"],
    "1o1s ut a 32y"⟩,
  ⟨["Elbasan", "Elba"],
    "1fk0 13"⟩,
  ⟨["Elymaic", "Elym"],
    "1hpc m"⟩,
  ⟨["Ethiopic", "Ethi"],
    "3k0 20 1 3 2 6 1 0 1 3 2 14 1 3 2 w 1 3 2 6 1 0 1 3 2 e 1 1k 1 3 2 1u 2 v 3 p 546 m 9 6 1
    6 1 6 1 6 1 6 1 6 1 6 1 6 opu 5 2 5 2 5 9 6 1 6 1qk1 6 1 3 1 1 1 e"⟩,
  ⟨["Garay", "Gara"],
    "1h6o 11 3 s 8 1"⟩,
  ⟨["Georgian", "Geor"],
    "3a8 11 1 0 5 0 2 16 1 3 2a8 16 2 2 37k 11 1 0 5 0"⟩,
  ⟨["Glagolitic", "Glag"],
    "8ow 2n 2e1s 6 1 g 2 6 1 1 1 4"⟩,
  ⟨["Gothic", "Goth"],
    "1f74 q"⟩,
  ⟨["Grantha", "Gran"],
    "1ibk 3 1 7 2 1 2 l 1 6 1 1 1 4 2 8 2 1 2 2 2 0 6 0 5 6 2 6 3 4"⟩,
  ⟨["Greek", "Grek"],
    "og 3 1 2 2 3 1 0 4 0 1 0 1 2 1 0 1 j 1 1q e f 4yu 4 1e 4 4 4 2c 0 8w l 2 5 2 11 2 5 2 7 1
    0 1 0 1 0 1 u 2 1g 1 e 1 d 2 5 1 i 2 2 1 8 87 0 rb2 0 gyi 26 h 0 155r 1x"⟩,
  ⟨["Gujarati", "Gujr"],
    "22p 2 1 8 1 2 1 l 1 6 1 1 1 4 2 9 1 2 1 2 2 0 f 3 2 b 7 6"⟩,
  ⟨["Gunjala_Gondi", "Gong"],
    "1kdc 5 1 1 1 10 1 1 1 5 7 9"⟩,
  ⟨["Gurmukhi", "Guru"],
    "1z5 2 1 5 4 1 2 l 1 6 1 1 1 1 1 1 2 0 1 4 4 1 2 2 3 0 7 3 1 0 7 g"⟩,
  ⟨["Gurung_Khema", "Gukh"],
    "1xq8 1l"⟩,
  ⟨["Han", "Hani"],
    "96o p 1 2g c 5x 1b 0 1 0 p 8 e 3 qs 533 1s g73 hkw a5 2 2x n48 1 c 1 sge wyn w 37d 6 65 2
    4g1 e 5rk f h9 1wi f1 15u 3t6 5 38f"⟩,
  ⟨["Hangul", "Hang"],
    "3cw 73 5ym 1 75 2l 35 u 1t u nhd s hv 8mb c m 4 1c 7tw u 3 5 2 5 2 5 2 2"⟩,
  ⟨["Hanifi_Rohingya", "Rohg"],
    "1h4w 13 8 9"⟩,
  ⟨["Hanunoo", "Hano"],
    "4kg k"⟩,
  ⟨["Hatran", "Hatr"],
    "1gbk i 1 1 5 4"⟩,
  ⟨["Hebrew", "Hebr"],
    "13l 1i 8 q 4 5 1cfc p 1 4 1 0 1 1 1 1 1 9"⟩,
  ⟨["Hiragana", "Hira"],
    "9j5 2d 6 2 23q9 7y i 0 t 2 crx 0"⟩,
  ⟨["Imperial_Aramaic", "Armi"],
    "1g74 l 1 8"⟩,
  ⟨["Inherited", "Zinh", "Qaai"],
    "lc 33 7p 1 ck a q 0 kg 3 3ff u e9 2 1 c 1 6 4 0 6 0 3 1 5i 1r ek 1 5e w 309 3 2z 1 14kl f
    g d r3 0 6a 0 38a 0 1138 19 2 m f4 2 h 7 2 6 u 3 h45u 6n"⟩,
  ⟨["Inscriptional_Pahlavi", "Phli"],
    "1gtc i 5 7"⟩,
  ⟨["Inscriptional_Parthian", "Prti"],
    "1gsg l 2 7"⟩,
  ⟨["Javanese", "Java"],
    "xhc 25 2 9 4 1"⟩,
  ⟨["Kaithi", "Kthi"],
    "1hts 1u a 0"⟩,
  ⟨["Kannada", "Knda"],
    "2gw c 1 2 1 m 1 9 1 4 2 8 1 2 1 3 7 1 6 1 1 3 2 9 1 2"⟩,
  ⟨["Katakana", "Kana"],
    "9lt 2h 2 2 6o f 5s 1a 1 2f 14b2 9 1 18 ytu 3 1 6 1 1 1 0 7z 2 1e 0 e 3"⟩,
  ⟨["Kawi"],
    "1kow g 1 14 3 s"⟩,
  ⟨["Kayah_Li", "Kali"],
    "xds 19 1 0"⟩,
  ⟨["Kharoshthi", "Khar"],
    "1gjk 3 1 1 5 7 1 2 1 s 2 2 4 9 7 8"⟩,
  ⟨["Khitan_Small_Script", "Kits"],
    "20o4 0 5cr d1 15 0"⟩,
  ⟨["Khmer", "Khmr"],
    "4n4 2l 2 9 6 9 di v"⟩,
  ⟨["Khojki", "Khoj"],
    "1i4g h 1 1a"⟩,
  ⟨["Khudawadi", "Sind"],
    "1i9c 1m 5 9"⟩,
  ⟨["Kirat_Rai", "Krai"],
    "205c 1l"⟩,
  ⟨["Lao", "Laoo"],
    "2v5 1 1 0 1 4 1 n 1 0 1 m 2 4 1 0 1 6 1 9 2 3"⟩,
  ⟨["Latin", "Latn"],
    "1t p 6 p 1b 0 f 0 5 m 1 u 1 cg 13 4 55n 11 6 1c 5 3 5 c 1 1x 1t 73 a9 0 d 0 g c 3x 1 6 0
    r 0 h 14 253 v o82 2t 3 1u 2 1 1 0 1 7 l d mo 16 1 8 1 3 fpy 6 t6 p 6 p 1lx 5 1 15 1 8
    16it u 6 5"⟩,
  ⟨["Lepcha", "Lepc"],
    "5j4 1j 3 e 3 2"⟩,
  ⟨["Limbu", "Limb"],
    "4xs u 1 b 4 b 4 0 3 b"⟩,
  ⟨["Linear_A", "Lina"],
    "1fr4 8m 9 l a 7"⟩,
  ⟨["Linear_B", "Linb"],
    "1ekg b 1 p 1 i 1 1 1 e 2 d y 3e"⟩,
  ⟨["Lisu"],
    "wk0 1b o8g 0"⟩,
  ⟨["Lycian", "Lyci"],
    "1f28 s"⟩,
  ⟨["Lydian", "Lydi"],
    "1gdc p 5 0"⟩,
  ⟨["Mahajani", "Mahj"],
    "1hzk 12"⟩,
  ⟨["Makasar", "Maka"],
    "1ko0 o"⟩,
  ⟨["Malayalam", "Mlym"],
    "2kg c 1 2 1 1e 1 2 1 5 4 f 2 p"⟩,
  ⟨["Mandaic", "Mand"],
    "1mo r 2 0"⟩,
  ⟨["Manichaean", "Mani"],
    "1gow 12 4 b"⟩,
  ⟨["Marchen", "Marc"],
    "1k6o v 2 l 1 d"⟩,
  ⟨["Masaram_Gondi", "Gonm"],
    "1kao 6 1 1 1 17 3 0 1 1 1 8 8 9"⟩,
  ⟨["Medefaidrin", "Medf"],
    "20cg 2i"⟩,
  ⟨["Meetei_Mayek", "Mtei"],
    "xr4 m 5l 19 2 9"⟩,
  ⟨["Mende_Kikakui", "Mend"],
    "2oe8 5g 2 f"⟩,
  ⟨["Meroitic_Cursive", "Merc"],
    "1ggw n 4 j 2 19"⟩,
  ⟨["Meroitic_Hieroglyphs", "Mero"],
    "1gg0 v"⟩,
  ⟨["Miao", "Plrd"],
    "20hs 22 4 1k 7 g"⟩,
  ⟨["Modi"],
    "1iww 1w b 9"⟩,
  ⟨["Mongolian", "Mong"],
    "4qo 1 2 0 1 j 6 2g 7 16 1e45 c"⟩,
  ⟨["Mro", "Mroo"],
    "1zk0 u 1 9 4 1"⟩,
  ⟨["Multani", "Mult"],
    "1i80 6 1 0 1 3 1 e 1 a"⟩,
  ⟨["Myanmar", "Mymr"],
    "35s 4f u9s u 2p v le8 j"⟩,
  ⟨["Nabataean", "Nbat"],
    "1g8w u 8 8"⟩,
  ⟨["Nag_Mundari", "Nagm"],
    "2nrk 15"⟩,
  ⟨["Nandinagari", "Nand"],
    "1jmo 7 2 19 2 a"⟩,
  ⟨["New_Tai_Lue", "Talu"],
    "51c 17 4 p 6 a 3 1"⟩,
  ⟨["Newa"],
    "1iio 2j 1 4"⟩,
  ⟨["Nko", "Nkoo"],
    "1j4 1m 2 2"⟩,
  ⟨["Nushu", "Nshu"],
    "20o1 0 cy6 az"⟩,
  ⟨["Nyiakeng_Puachue_Hmong", "Hmnp"],
    "2n0g 18 3 d 2 9 4 1"⟩,
  ⟨["Ogham", "Ogam"],
    "4g0 s"⟩,
  ⟨["Ol_Chiki", "Olck"],
    "5lc 1b"⟩,
  ⟨["Ol_Onal", "Onao"],
    "2nyo 16 4 0"⟩,
  ⟨["Old_Hungarian", "Hung"],
    "1h1c 1e d 1e 7 5"⟩,
  ⟨["Old_Italic", "Ital"],
    "1f5s z 9 2"⟩,
  ⟨["Old_North_Arabian", "Narb"],
    "1gn4 v"⟩,
  ⟨["Old_Permic", "Perm"],
    "1f80 16"⟩,
  ⟨["Old_Persian", "Xpeo"],
    "1fa8 z 4 d"⟩,
  ⟨["Old_Sogdian", "Sogo"],
    "1hj4 13"⟩,
  ⟨["Old_South_Arabian", "Sarb"],
    "1gm8 v"⟩,
  ⟨["Old_Turkic", "Orkh"],
    "1gxs 20"⟩,
  ⟨["Old_Uyghur", "Ougr"],
    "1hm8 p"⟩,
  ⟨["Oriya", "Orya"],
    "269 2 1 7 2 1 2 l 1 6 1 1 1 4 2 8 2 1 2 2 7 2 4 1 1 4 2 h"⟩,
  ⟨["Osage", "Osge"],
    "1fhs z 4 z"⟩,
  ⟨["Osmanya", "Osma"],
    "1fgg t 2 9"⟩,
  ⟨["Pahawh_Hmong", "Hmng"],
    "1zpc 1x a 9 1 6 1 k 5 i"⟩,
  ⟨["Palmyrene", "Palm"],
    "1g80 v"⟩,
  ⟨["Pau_Cin_Hau", "Pauc"],
    "1juo 1k"⟩,
  ⟨["Phags_Pa", "Phag"],
    "x8g 1j"⟩,
  ⟨["Phoenician", "Phnx"],
    "1gcg r 3 0"⟩,
  ⟨["Psalter_Pahlavi", "Phlp"],
    "1gu8 h 7 3 c 6"⟩,
  ⟨["Rejang", "Rjng"],
    "xf4 z b 0"⟩,
  ⟨["Runic", "Runr"],
    "4gw 22 3 a"⟩,
  ⟨["Samaritan", "Samr"],
    "1kw 19 2 e"⟩,
  ⟨["Saurashtra", "Saur"],
    "xa8 1x 8 b"⟩,
  ⟨["Sharada", "Shrd"],
    "1i0w 2n"⟩,
  ⟨["Shavian", "Shaw"],
    "1ff4 1b"⟩,
  ⟨["Siddham", "Sidd"],
    "1itc 1h 2 11"⟩,
  ⟨["SignWriting", "Sgnw"],
    "2l8g i3 f 4 1 e"⟩,
  ⟨["Sinhala", "Sinh"],
    "2o1 2 1 h 3 n 1 8 1 0 2 6 3 0 4 5 1 0 1 7 6 9 2 2 1fcc j"⟩,
  ⟨["Sogdian", "Sogd"],
    "1hkg 15"⟩,
  ⟨["Sora_Sompeng", "Sora"],
    "1hw0 o 7 9"⟩,
  ⟨["Soyombo", "Soyo"],
    "1jrk 2a"⟩,
  ⟨["Sundanese", "Sund"],
    "5fk 1r 74 7"⟩,
  ⟨["Sunuwar", "Sunu"],
    "1k1s x e 9"⟩,
  ⟨["Syloti_Nagri", "Sylo"],
    "x6o 18"⟩,
  ⟨["Syriac", "Syrc"],
    "1ds d 1 1n 2 2 7k a"⟩,
  ⟨["Tagalog", "Tglg"],
    "4jk l 9 0"⟩,
  ⟨["Tagbanwa", "Tagb"],
    "4m8 c 1 2 1 1"⟩,
  ⟨["Tai_Le", "Tale"],
    "500 t 2 4"⟩,
  ⟨["Tai_Tham", "Lana"],
    "55s 1q 1 s 2 a 6 9 6 d"⟩,
  ⟨["Tai_Viet", "Tavt"],
    "xog 1u o 4"⟩,
  ⟨["Takri", "Takr"],
    "1j0g 1l 6 9"⟩,
  ⟨["Tamil", "Taml"],
    "29u 1 1 5 3 2 1 3 3 1 1 0 1 1 3 1 3 2 3 b 4 4 3 2 1 3 2 0 6 0 e k 1ih1 1d d 0"⟩,
  ⟨["Tangsa", "Tnsa"],
    "1zlc 26 1 9"⟩,
  ⟨["Tangut", "Tang"],
    "20o0 0 v 4qf 8 lb e8 8"⟩,
  ⟨["Telugu", "Telu"],
    "2dc c 1 2 1 m 1 f 2 8 1 2 1 3 7 1 1 2 2 0 2 3 2 9 7 8"⟩,
  ⟨["Thaana", "Thaa"],
    "1hc 1d"⟩,
  ⟨["Thai"],
    "2rl 1l 5 r"⟩,
  ⟨["Tibetan", "Tibt"],
    "2yo 1z 1 z 4 12 1 z 1 e 1 6 4 1"⟩,
  ⟨["Tifinagh", "Tfng"],
    "8xc 1j 7 1 e 0"⟩,
  ⟨["Tirhuta", "Tirh"],
    "1im8 1z 8 9"⟩,
  ⟨["Todhri", "Todr"],
    "1fpc 1f"⟩,
  ⟨["Toto"],
    "2nbk u"⟩,
  ⟨["Tulu_Tigalari", "Tutg"],
    "1if4 9 1 0 2 0 1 11 1 9 1 0 2 0 1 3 1 9 1 1 8 1"⟩,
  ⟨["Ugaritic", "Ugar"],
    "1f9c t 1 0"⟩,
  ⟨["Vai", "Vaii"],
    "wlc 8b"⟩,
  ⟨["Vithkuqi", "Vith"],
    "1fn4 a 1 e 1 6 1 1 1 a 1 e 1 6 1 1"⟩,
  ⟨["Wancho", "Wcho"],
    "2ncw 1l 5 0"⟩,
  ⟨["Warang_Citi", "Wara"],
    "1jfk 2a c 0"⟩,
  ⟨["Yezidi", "Yezi"],
    "1hfk 15 1 2 2 1"⟩,
  ⟨["Yi", "Yiii"],
    "vls wc 3 1i"⟩,
  ⟨["Zanabazar_Square", "Zanb"],
    "1jpc 1z"⟩]

end Flowchart.Unicode
