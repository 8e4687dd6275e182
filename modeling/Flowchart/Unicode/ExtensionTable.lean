import Flowchart.Text.CharSet

/-!
# Script extensions

The scripts that are written with characters of other scripts too, or whose characters are shared
by a few scripts.
-/

namespace Flowchart.Unicode

/-- The code points used with a script, where they differ from those of the script. -/
def extensionTable : List NamedSet := [
  ⟨["Adlam", "Adlm"],
    "17j 0 w 0 55a 0 2r5 0 2fge 23 4 9 4 1"⟩,
  ⟨["Arabic", "Arab"],
    "16o 4 1 5y 1 x 28 1b 6o u 1 1 5 22 1 s 4lr 0 2r5 0 14i6 36 g cc 2 1h 7 0 w f 34 4 1 3q rn
    r 290 u 1v 2 1j 3 181s 3 1 q 1 1 1 0 2 0 1 9 1 3 1 0 1 0 6 0 4 0 1 0 1 0 1 2 1 1 1 0 2 0
    1 0 1 0 1 0 1 0 1 1 1 0 2 3 1 6 1 3 1 3 1 0 1 9 1 g 5 2 1 4 1 g 1g 1"⟩,
  ⟨["Armenian", "Armn"],
    "lk 0 fc 11 2 1d 2 2 1chv 4"⟩,
  ⟨["Avestan", "Avst"],
    "53 0 8zc 1 17m6 1h 3 6"⟩,
  ⟨["Bengali", "Beng"],
    "jg 0 1as 1 h 1 q 3 1 7 2 1 2 l 1 6 1 0 3 3 2 8 2 1 2 3 8 0 4 1 1 4 2 o 3pt 0 1 0 2 1 1 0
    8 0 8 0 2 0 4 0 2 2 rnd 0"⟩,
  ⟨["Bopomofo", "Bopo"],
    "jr 0 1 2 d 0 g 1 8wl 2 4 9 1 c a 3 2 0 6 0 5f 0 9 16 34 v 14ed 1 7u 4"⟩,
  ⟨["Buginese", "Bugi"],
    "54w r 2 1 sdr 0"⟩,
  ⟨["Buhid", "Buhd"],
    "4l1 1 9 j"⟩,
  ⟨["Carian", "Cari"],
    "53 0 68y 0 2 0 2qb 0 15ym 1c"⟩,
  ⟨["Caucasian_Albanian", "Aghb"],
    "lg 0 18 0 18 0 1exd 1f b 0"⟩,
  ⟨["Chakma", "Cakm"],
    "1ye 9 18w 9 1epi 1g 1 h"⟩,
  ⟨["Cherokee", "Cher"],
    "lc 2 1 0 6 1 m 1 b 1 38u 2d 2 5 twy 27"⟩,
  ⟨["Common", "Zyyy"],
    "0 1s q 5 q 1a 1 b 1 1 1 4 n 0 v 0 ch 2 1 9 1 0 3 0 1 8 1 0 1 5 5 4 2 j 3i 0 6 0 1 0 hp 0
    5z 0 ec 0 124 0 b9 3 36v b 2 w 1 u 1 9 1 1 1 6 1 a 3 a 1 e h w 1r 11 1 2 2 5 1 q 1 g 15 2
    4 ih m a l pr 74 hf 2 v 1 2w e8 m 1 n 2 9 1 3 1 0 1 p bm 0 3 0 d 0 d 0 l 0 ep n v 0 1d e
    c 3 4h 9 5 2n v 0 534 1r hl4 p 2u 2 r4 0 e 1 gbo 9 m k 2 b 1 i 1 3 43 0 1 v q 5 q 5 3j 6
    1 6 a 4 b6 c 1f 18 13wj 6x 6 c3 4c 37 1o 6t a 12 2 1p 3 g 8 1 7 t 4 1o 5x j c j c 2e r 6
    3r 2c 1 1y 1 1 2 0 2 1 2 3 1 b 1 0 1 6 1 1s 1 3 2 7 1 6 1 r 1 3 1 4 1 0 3 6 1 9f 2 83 2
    1d 41d 1v 24 1o jm 17 4 2r c e 2 e 1 e 1 10 a 4t 1k p 1 1 d 17 4 8 n 5 4a rb 4 g 3 c 3 3a
    4 2m 6 b 4 0 f b 4 1j 8 9 6 13 8 t 2 b 4 1 1q 9f c d 2 c 3 9 5 1j 7 e 2 a 6 8 7 42 1 2t
    gvlz 0 u 2n"⟩,
  ⟨["Coptic", "Copt", "Qaac"],
    "53 0 g8 0 3 1 1 0 30 1 30 d 80g 37 5 6 7r 0 1614 r"⟩,
  ⟨["Cypriot", "Cprt"],
    "1erk 2 4 18 3 8 1c0 5 2 0 1 17 1 1 3 0 2 0"⟩,
  ⟨["Cypro_Minoan", "Cpmn"],
    "1erk 1 972 2q"⟩,
  ⟨["Cyrillic", "Cyrl"],
    "jg 0 1v 2 1 0 1 0 1 0 2 0 5 0 6m 8f 4ls a 4g 0 24 0 3j 0 353 v 1v 0 np8 2n ham 1 18n4 1p
    x 0"⟩,
  ⟨["Devanagari", "Deva"],
    "jg 0 18j 2a 2 16 3tc 12 1 1 s6 0 qpr 9 4m v mio 9"⟩,
  ⟨["Dogra", "Dogr"],
    "1us b vcw 9 m2u 1n"⟩,
  ⟨["Duployan", "Dupl"],
    "53 0 gf 1 1 0 o 1 8if 0 26kj 2y 5 c 3 8 7 9 2 7"⟩,
  ⟨["Elbasan", "Elba"],
    "53 0 gd 0 1eyi 13"⟩,
  ⟨["Ethiopic", "Ethi"],
    "lq 0 2y9 20 1 3 2 6 1 0 1 3 2 14 1 3 2 w 1 3 2 6 1 0 1 3 2 e 1 1k 1 3 2 1u 2 v 3 p 546 m
    9 6 1 6 1 6 1 6 1 6 1 6 1 6 1 6 opu 5 2 5 2 5 9 6 1 6 1qk1 6 1 3 1 1 1 e"⟩,
  ⟨["Garay", "Gara"],
    "170 0 e 0 3 0 1fz4 11 3 s 8 1"⟩,
  ⟨["Georgian", "Geor"],
    "53 0 y9 0 26u 11 1 0 5 0 2 1b 2a8 16 2 2 pm 0 2hx 11 1 0 5 0 77 0"⟩,
  ⟨["Glagolitic", "Glag"],
    "53 0 gb 0 1 0 am 0 2 0 75 0 29d 0 31a 0 2at 2n df 0 nqj 0 1pxs 6 1 g 2 6 1 1 1 4"⟩,
  ⟨["Gothic", "Goth"],
    "53 0 gc 1 2 0 14 0 1eke q"⟩,
  ⟨["Grantha", "Gran"],
    "1u9 1 h 1 hs d 3bw 0 1 1 u 2 3 1 s6 0 1btb 3 1 7 2 1 2 l 1 6 1 1 1 4 1 9 2 1 2 2 2 0 6 0
    5 6 2 6 3 4 2fv 1 1 0"⟩,
  ⟨["Greek", "Grek"],
    "53 0 g8 1 2 0 1 0 1 0 a 0 1a 0 2 0 16 7 2 3 1 0 4 0 1 0 1 2 1 0 1 j 1 1q e f 4yu 4 1e 4 4
    4 2c 2 8u l 2 5 2 11 2 5 2 7 1 0 1 0 1 0 1 u 2 1g 1 e 1 d 2 5 1 i 2 2 1 8 2m 0 5k 0 rb2 0
    gyi 26 h 0 155r 1x"⟩,
  ⟨["Gujarati", "Gujr"],
    "1u9 1 h 1 7v 2 1 8 1 2 1 l 1 6 1 1 1 4 2 9 1 2 1 2 2 0 f 3 2 b 7 6 v1s 9"⟩,
  ⟨["Gunjala_Gondi", "Gong"],
    "53 0 1po 1 1iii 5 1 1 1 10 1 1 1 5 7 9"⟩,
  ⟨["Gurmukhi", "Guru"],
    "1u9 1 h 1 4b 2 1 5 4 1 2 l 1 6 1 1 1 1 1 1 2 0 1 4 4 1 2 2 3 0 7 3 1 0 7 g v5l 9"⟩,
  ⟨["Gurung_Khema", "Gukh"],
    "1ut 0 1vve 1l"⟩,
  ⟨["Han", "Hani"],
    "53 0 91k p 1 2g c 5x q f 1 2 1 c 1 c 1 c 2 0 6 8 57 0 44 f w 11 9 0 1c 13 1k 1c f b 1f 0
    2g o a 4 2o u 1 533 1s g73 1ds 7 g6w a5 2 2x ob 1 7u 4 m7w 1 c 1 jn2 h 63i 1 2pa wyn w
    37d 6 65 2 4g1 e 5rk f h9 1wi f1 15u 3t6 5 38f"⟩,
  ⟨["Hangul", "Hang"],
    "3cw 73 5xd 2 4 9 1 c e 2 6 0 5f 0 1h 2l 35 u 1t u nhd s hv 8mb c m 4 1c 7k9 1 7u 4 1m u 3
    5 2 5 2 5 2 2"⟩,
  ⟨["Hanifi_Rohingya", "Rohg"],
    "170 0 e 0 3 0 w 0 43 0 1fsb 13 8 9"⟩,
  ⟨["Hanunoo", "Hano"],
    "4kg m"⟩,
  ⟨["Hebrew", "Hebr"],
    "lj 1 i0 1i 8 q 4 5 1cfc p 1 4 1 0 1 1 1 1 1 9"⟩,
  ⟨["Hiragana", "Hira"],
    "9hd 2 4 9 1 c g 5 1 0 4 1 3 2d 2 7 2i 1 14js 1 7u 4 a 0 19 1 yu9 7y i 0 t 2 crx 0"⟩,
  ⟨["Inherited", "Zinh", "Qaai"],
    "lr 0 2 0 1 e 3 6 2 0 2 f 1 1 1 h 1 4 1 3 168 1 3ff u kz 1h 1 0 1 4 ek 1 5e v 17o0 f g d
    r3 0 14hu 19 2 m f4 2 h 7 2 6 u 3 h45u 6n"⟩,
  ⟨["Javanese", "Java"],
    "xhc 25 1 a 4 1"⟩,
  ⟨["Kaithi", "Kthi"],
    "1uu 9 79d 0 o3i 9 kli 1u a 0"⟩,
  ⟨["Kannada", "Knda"],
    "1u9 1 h 1 m2 c 1 2 1 m 1 9 1 4 2 8 1 2 1 3 7 1 6 1 1 3 2 9 1 2 34s 0 1 1 6 0 n 0 1 0 ri3
    5"⟩,
  ⟨["Katakana", "Kana"],
    "lh 0 t 0 8v1 2 4 9 1 c g 5 1 0 4 1 2j 3 3 2n 6o f 5s 1a 1 2f 1431 1 7u 1q yts 3 1 6 1 1 1
    0 7z 2 1e 0 e 3"⟩,
  ⟨["Kayah_Li", "Kali"],
    "xds 1b"⟩,
  ⟨["Khojki", "Khoj"],
    "25i 9 v28 9 kw6 h 1 1a"⟩,
  ⟨["Khudawadi", "Sind"],
    "1us 1 vd6 9 l12 1m 5 9"⟩,
  ⟨["Latin", "Latn"],
    "1t p 6 p 1b 0 c 0 2 0 5 m 1 u 1 cg 3 0 a 0 1 2 1 0 9 0 1 0 6 4 r e 1 1 1 0 f 2 7 1 1 1 12
    0 5 0 4 c 7p 1 y2 1 1ig 0 2dg 11 6 1c 5 3 5 c 1 1x 1l 0 7 73 8f 0 1t 0 d 0 g c 2b 0 1l 1
    6 0 r 0 h 14 253 v bb 0 nvs 7 q 2t 3 1u 2 1 1 0 1 7 l d 8e 0 e9 16 1 8 1 3 fpy 6 t6 p 6 p
    1lx 5 1 15 1 8 16it u 6 5"⟩,
  ⟨["Limbu", "Limb"],
    "1ut 0 32y u 1 b 4 b 4 0 3 b"⟩,
  ⟨["Linear_A", "Lina"],
    "1err 18 y4 8m 9 l a 7"⟩,
  ⟨["Linear_B", "Linb"],
    "1ekg b 1 p 1 i 1 1 1 e 2 d y 3e 5 2 4 18 3 8"⟩,
  ⟨["Lisu"],
    "jg 0 g 0 8xo 1 n2c 1b o8g 0"⟩,
  ⟨["Lycian", "Lyci"],
    "6e2 0 18o5 s"⟩,
  ⟨["Lydian", "Lydi"],
    "53 0 8zd 0 178u p 5 0"⟩,
  ⟨["Mahajani", "Mahj"],
    "53 0 1po b vcw 9 kra 12"⟩,
  ⟨["Malayalam", "Mlym"],
    "1u9 1 h 1 pm c 1 2 1 1e 1 2 1 5 4 f 2 p 316 0 n 0 ri5 2"⟩,
  ⟨["Mandaic", "Mand"],
    "18g 0 e7 r 2 0"⟩,
  ⟨["Manichaean", "Mani"],
    "18g 0 1fgf 12 4 b"⟩,
  ⟨["Masaram_Gondi", "Gonm"],
    "1us 1 1ifu 6 1 1 1 17 3 0 1 1 1 8 8 9"⟩,
  ⟨["Meroitic_Hieroglyphs", "Mero"],
    "6e5 0 1a1u v"⟩,
  ⟨["Modi"],
    "x80 9 lom 1w b 9"⟩,
  ⟨["Mongolian", "Mong"],
    "4qo p 6 2g 7 16 1hg 0 34h 1 5 3 19hw c"⟩,
  ⟨["Multani", "Mult"],
    "21y 9 1g5s 6 1 0 1 3 1 e 1 a"⟩,
  ⟨["Myanmar", "Mymr"],
    "35s 4f u4u 0 4x u 2p v le8 j"⟩,
  ⟨["Nandinagari", "Nand"],
    "1u9 0 i 1 ow 9 35l 0 8 0 7 0 rhx 5 mei 7 2 19 2 a"⟩,
  ⟨["Newa"],
    "1u9 1 3uq 0 1 1 9 0 6 0 1 0 1 0 1csy 2j 1 4"⟩,
  ⟨["Nko", "Nkoo"],
    "170 0 e 0 3 0 bk 1m 2 2 1cfy 1"⟩,
  ⟨["Ol_Onal", "Onao"],
    "1us 1 2m3u 16 4 0"⟩,
  ⟨["Old_Hungarian", "Hung"],
    "6e2 0 2 0 2qb 0 f 0 17we 1e d 1e 7 5"⟩,
  ⟨["Old_Permic", "Perm"],
    "53 0 g8 0 5 2 a 0 a7 0 1ebw 16"⟩,
  ⟨["Old_Turkic", "Orkh"],
    "6e2 0 2qd 0 17tb 20"⟩,
  ⟨["Old_Uyghur", "Ougr"],
    "18g 0 1fht 0 vx p"⟩,
  ⟨["Oriya", "Orya"],
    "1u9 1 h 1 bf 2 1 7 2 1 2 l 1 6 1 1 1 4 2 8 2 1 2 2 7 2 4 1 1 4 2 h 3fm 0 n 0"⟩,
  ⟨["Osage", "Osge"],
    "ld 0 2 0 6 0 24 0 1etz z 4 z"⟩,
  ⟨["Phags_Pa", "Phag"],
    "4qq 1 1 0 1m1 0 34i 0 nr1 1j"⟩,
  ⟨["Psalter_Pahlavi", "Phlp"],
    "18g 0 1flr h 7 3 c 6"⟩,
  ⟨["Runic", "Runr"],
    "4gw 2g"⟩,
  ⟨["Samaritan", "Samr"],
    "1kw 19 2 e 7hu 0"⟩,
  ⟨["Sharada", "Shrd"],
    "1u9 0 3ut 0 1 0 2 1 2 0 9 0 2 0 ria 5 2 0 ksn 2n"⟩,
  ⟨["Shavian", "Shaw"],
    "53 0 1fa0 1b"⟩,
  ⟨["Sinhala", "Sinh"],
    "1us 1 t7 2 1 h 3 n 1 8 1 0 2 6 3 0 4 5 1 0 1 7 6 9 2 2 2yl 0 1cdq j"⟩,
  ⟨["Sogdian", "Sogd"],
    "18g 0 1gbz 15"⟩,
  ⟨["Sunuwar", "Sunu"],
    "lc 1 1 0 9 0 2 0 s 0 3 0 1jf2 x e 9"⟩,
  ⟨["Syloti_Nagri", "Sylo"],
    "1us 1 3k 9 v80 18"⟩,
  ⟨["Syriac", "Syrc"],
    "lf 1 2 1 1 0 o 2 7 1 1 1 ka 0 e 1 2 0 w 0 a a q 0 3z d 1 1n 2 2 7k a 499 0 1 0"⟩,
  ⟨["Tagalog", "Tglg"],
    "4jk l 9 0 l 1"⟩,
  ⟨["Tagbanwa", "Tagb"],
    "4l1 1 15 c 1 2 1 1"⟩,
  ⟨["Tai_Le", "Tale"],
    "lc 1 5 1 3 0 2lv 9 1s6 t 2 4"⟩,
  ⟨["Takri", "Takr"],
    "1us 1 vd6 9 ls6 1l 6 9"⟩,
  ⟨["Tamil", "Taml"],
    "1u9 1 h 1 f0 1 1 5 3 2 1 3 3 1 1 0 1 1 3 1 3 2 3 b 4 4 3 2 1 3 2 0 6 0 e k 3bz 0 ro8 0
    ky5 0 1 0 1j 1 2gz 1d d 0"⟩,
  ⟨["Tangut", "Tang"],
    "9gw f dr 0 1qsw 0 v 4qf 8 lb e8 8"⟩,
  ⟨["Telugu", "Telu"],
    "1u9 1 h 1 ii c 1 2 1 m 1 f 2 8 1 2 1 3 7 1 1 2 2 0 2 3 2 9 7 8 385 1 1 0 1 0 n 0"⟩,
  ⟨["Thaana", "Thaa"],
    "170 0 e 1 2 0 1s 9 7q 1d 1cn4 0 a 0"⟩,
  ⟨["Thai"],
    "jg 0 q 0 17 0 19 0 24v 1l 5 r"⟩,
  ⟨["Tibetan", "Tibt"],
    "2yo 1z 1 z 4 12 1 z 1 e 1 6 4 1 6ct 3"⟩,
  ⟨["Tifinagh", "Tfng"],
    "le 0 1 0 1 3 p 0 8b0 1j 7 1 e 0"⟩,
  ⟨["Tirhuta", "Tirh"],
    "1u9 1 h 1 3u7 0 c 0 f 0 ri5 9 ldy 1z 8 9"⟩,
  ⟨["Todhri", "Todr"],
    "ld 0 2 0 2 0 9 0 1 0 22 0 1f1d 1f"⟩,
  ⟨["Toto"],
    "jg 0 2ms3 u"⟩,
  ⟨["Tulu_Tigalari", "Tutg"],
    "2jq 9 35u 0 1 0 ri3 5 57 0 l1q 9 1 0 2 0 1 11 1 9 1 0 2 0 1 3 1 9 1 1 8 1"⟩,
  ⟨["Yezidi", "Yezi"],
    "170 0 e 0 3 0 1s 9 1g5y 15 1 2 2 1"⟩,
  ⟨["Yi", "Yiii"],
    "9hd 1 5 9 2 7 67 0 lxg wc 3 1i hwa 4"⟩]

end Flowchart.Unicode
