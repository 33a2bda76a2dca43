import Rulebook.Unicode.Code

/-!
# Script extensions

The characters that are in use in each script, which may be characters of another
script or of none.
-/

namespace Rulebook.Unicode

/-- Script extensions and their characters. -/
def scriptExtensions : List (List String × List String) := [
  (["adlam", "adlm"],
    ["17j w 55a 2r5 2fge-23 4-9 4-1"]),
  (["ahom"],
    ["1j40-q 2-e 4-m"]),
  (["anatolianhieroglyphs", "hluw"],
    ["1s00-g6"]),
  (["arabic", "arab"],
    ["16o-4 1-5y 1-x 28-1b 6o-u 1-1 5-22 1-s 4lr 2r5 14i6-36 g-cc 2-1h 7 w-f 34-4 1-3q rn-r",
     "290-u 1v-2 1j-3 181s-3 1-q 1-1 1 2 1-9 1-3 1 1 6 4 1 1 1-2 1-1 1 2 1 1 1 1 1-1 1 2-3",
     "1-6 1-3 1-3 1 1-9 1-g 5-2 1-4 1-g 1g-1"]),
  (["armenian", "armn"],
    ["lk fc-11 2-1d 2-2 1chv-4"]),
  (["avestan", "avst"],
    ["53 8zc-1 17m6-1h 3-6"]),
  (["balinese", "bali"],
    ["5c0-24 1-1d"]),
  (["bamum", "bamu"],
    ["www-2f 124o-fs"]),
  (["bassavah", "bass"],
    ["1zo0-t 2-5"]),
  (["batak", "batk"],
    ["5hc-1f 8-3"]),
  (["bengali", "beng"],
    ["jg 1as-1 h-1 q-3 1-7 2-1 2-l 1-6 1 3-3 2-8 2-1 2-3 8 4-1 1-4 2-o 3pt 1 2-1 1 8 8 2 4",
     "2-2 rnd"]),
  (["bhaiksuki", "bhks"],
    ["1k3k-8 1-18 1-d a-s"]),
  (["bopomofo", "bopo"],
    ["jr 1-2 d g-1 8wl-2 4-9 1-c a-3 2 6 5f 9-16 34-v 14ed-1 7u-4"]),
  (["brahmi", "brah"],
    ["1hq8-25 4-z 9"]),
  (["braille", "brai"],
    ["7wg-73"]),
  (["buginese", "bugi"],
    ["54w-r 2-1 sdr"]),
  (["buhid", "buhd"],
    ["4l1-1 9-j"]),
  (["canadianaboriginal", "cans"],
    ["3y8-hr fk-1x 1ewq-f"]),
  (["carian", "cari"],
    ["53 68y 2 2qb 15ym-1c"]),
  (["caucasianalbanian", "aghb"],
    ["lg 18 18 1exd-1f b"]),
  (["chakma", "cakm"],
    ["1ye-9 18w-9 1epi-1g 1-h"]),
  (["cham"],
    ["xkw-1i 9-d 2-9 2-3"]),
  (["cherokee", "cher"],
    ["lc-2 1 6-1 m-1 b-1 38u-2d 2-5 twy-27"]),
  (["chorasmian", "chrs"],
    ["1ho0-r"]),
  (["common", "zyyy"],
    ["0-1s q-5 q-1a 1-b 1-1 1-4 n v ch-2 1-9 1 3 1-8 1 1-5 5-4 2-j 3i 6 1 hp 5z ec 124 b9-3",
     "36v-b 2-w 1-u 1-9 1-1 1-6 1-a 3-a 1-e h-w 1r-11 1-2 2-5 1-q 1-g 15-2 4-ih m-a l-pr",
     "74-hf 2-v 1-2w e8-m 1-n 2-9 1-3 1 1-p bm 3 d d l ep-n v 1d-e c-3 4h-9 5-2n v 534-1r",
     "hl4-p 2u-2 r4 e-1 gbo-9 m-k 2-b 1-i 1-3 43 1-v q-5 q-5 3j-6 1-6 a-4 b6-c 1f-18 13wj-6x",
     "6-c3 4c-37 1o-6t a-12 2-1p 3-g 8-1 7-t 4-1o 5x-j c-j c-2e r-6 3r-2c 1-1y 1-1 2 2-1 2-3",
     "1-b 1 1-6 1-1s 1-3 2-7 1-6 1-r 1-3 1-4 1 3-6 1-9f 2-83 2-1d 41d-1v 24-1o jm-17 4-2r c-e",
     "2-e 1-e 1-10 a-4t 1k-p 1-1 d-17 4-8 n-5 4a-rb 4-g 3-c 3-3a 4-2m 6-b 4 f-b 4-1j 8-9 6-13",
     "8-t 2-b 4-1 1q-9f c-d 2-c 3-9 5-1j 7-e 2-a 6-8 7-42 1-2t gvlz u-2n"]),
  (["coptic", "qaac", "copt"],
    ["53 g8 3-1 1 30-1 30-d 80g-37 5-6 7r 1614-r"]),
  (["cuneiform", "xsux"],
    ["1kw0-pl 2u-32 1-4 b-5f"]),
  (["cypriot", "cprt"],
    ["1erk-2 4-18 3-8 1c0-5 2 1-17 1-1 3 2"]),
  (["cyprominoan", "cpmn"],
    ["1erk-1 972-2q"]),
  (["cyrillic", "cyrl"],
    ["jg 1v-2 1 1 1 2 5 6m-8f 4ls-a 4g 24 3j 353-v 1v np8-2n ham-1 18n4-1p x"]),
  (["deseret", "dsrt"],
    ["1fcw-27"]),
  (["devanagari", "deva"],
    ["jg 18j-2a 2-16 3tc-12 1-1 s6 qpr-9 4m-v mio-9"]),
  (["divesakuru", "diak"],
    ["1ji8-6 2 2-7 1-1 1-t 1-1 2-b 9-9"]),
  (["dogra", "dogr"],
    ["1us-b vcw-9 m2u-1n"]),
  (["duployan", "dupl"],
    ["53 gf-1 1 o-1 8if 26kj-2y 5-c 3-8 7-9 2-7"]),
  (["egyptianhieroglyphs", "egyp"],
    ["1o1s-ut a-32y"]),
  (["elbasan", "elba"],
    ["53 gd 1eyi-13"]),
  (["elymaic", "elym"],
    ["1hpc-m"]),
  (["ethiopic", "ethi"],
    ["lq 2y9-20 1-3 2-6 1 1-3 2-14 1-3 2-w 1-3 2-6 1 1-3 2-e 1-1k 1-3 2-1u 2-v 3-p 546-m 9-6",
     "1-6 1-6 1-6 1-6 1-6 1-6 1-6 opu-5 2-5 2-5 9-6 1-6 1qk1-6 1-3 1-1 1-e"]),
  (["garay", "gara"],
    ["170 e 3 1fz4-11 3-s 8-1"]),
  (["georgian", "geor"],
    ["53 y9 26u-11 1 5 2-1b 2a8-16 2-2 pm 2hx-11 1 5 77"]),
  (["glagolitic", "glag"],
    ["53 gb 1 am 2 75 29d 31a 2at-2n df nqj 1pxs-6 1-g 2-6 1-1 1-4"]),
  (["gothic", "goth"],
    ["53 gc-1 2 14 1eke-q"]),
  (["grantha", "gran"],
    ["1u9-1 h-1 hs-d 3bw 1-1 u-2 3-1 s6 1btb-3 1-7 2-1 2-l 1-6 1-1 1-4 1-9 2-1 2-2 2 6 5-6",
     "2-6 3-4 2fv-1 1"]),
  (["greek", "grek"],
    ["53 g8-1 2 1 1 a 1a 2 16-7 2-3 1 4 1 1-2 1 1-j 1-1q e-f 4yu-4 1e-4 4-4 2c-2 8u-l 2-5",
     "2-11 2-5 2-7 1 1 1 1-u 2-1g 1-e 1-d 2-5 1-i 2-2 1-8 2m 5k rb2 gyi-26 h 155r-1x"]),
  (["gujarati", "gujr"],
    ["1u9-1 h-1 7v-2 1-8 1-2 1-l 1-6 1-1 1-4 2-9 1-2 1-2 2 f-3 2-b 7-6 v1s-9"]),
  (["gunjalagondi", "gong"],
    ["53 1po-1 1iii-5 1-1 1-10 1-1 1-5 7-9"]),
  (["gurmukhi", "guru"],
    ["1u9-1 h-1 4b-2 1-5 4-1 2-l 1-6 1-1 1-1 1-1 2 1-4 4-1 2-2 3 7-3 1 7-g v5l-9"]),
  (["gurungkhema", "gukh"],
    ["1ut 1vve-1l"]),
  (["han", "hani"],
    ["53 91k-p 1-2g c-5x q-f 1-2 1-c 1-c 1-c 2 6-8 57 44-f w-11 9 1c-13 1k-1c f-b 1f 2g-o a-4",
     "2o-u 1-533 1s-g73 1ds-7 g6w-a5 2-2x ob-1 7u-4 m7w-1 c-1 jn2-h 63i-1 2pa-wyn w-37d 6-65",
     "2-4g1 e-5rk f-h9 1wi-f1 15u-3t6 5-38f"]),
  (["hangul", "hang"],
    ["3cw-73 5xd-2 4-9 1-c e-2 6 5f 1h-2l 35-u 1t-u nhd-s hv-8mb c-m 4-1c 7k9-1 7u-4 1m-u 3-5",
     "2-5 2-5 2-2"]),
  (["hanifirohingya", "rohg"],
    ["170 e 3 w 43 1fsb-13 8-9"]),
  (["hanunoo", "hano"],
    ["4kg-m"]),
  (["hatran", "hatr"],
    ["1gbk-i 1-1 5-4"]),
  (["hebrew", "hebr"],
    ["lj-1 i0-1i 8-q 4-5 1cfc-p 1-4 1 1-1 1-1 1-9"]),
  (["hiragana", "hira"],
    ["9hd-2 4-9 1-c g-5 1 4-1 3-2d 2-7 2i-1 14js-1 7u-4 a 19-1 yu9-7y i t-2 crx"]),
  (["imperialaramaic", "armi"],
    ["1g74-l 1-8"]),
  (["inherited", "qaai", "zinh"],
    ["lr 2 1-b 1-1 3-6 2 2-f 1-1 1-h 1-4 1-3 168-1 3ff-u kz-1h 1 1-4 ek-1 5e-v 17o0-f g-d r3",
     "14hu-19 2-m f4-2 h-7 2-6 u-3 h45u-6n"]),
  (["inscriptionalpahlavi", "phli"],
    ["1gtc-i 5-7"]),
  (["inscriptionalparthian", "prti"],
    ["1gsg-l 2-7"]),
  (["javanese", "java"],
    ["xhc-25 1-a 4-1"]),
  (["kaithi", "kthi"],
    ["1uu-9 79d o3i-9 kli-1u a"]),
  (["kannada", "knda"],
    ["1u9-1 h-1 m2-c 1-2 1-m 1-9 1-4 2-8 1-2 1-3 7-1 6-1 1-3 2-9 1-2 34s 1-1 6 n 1 ri3-5"]),
  (["katakana", "kana"],
    ["lh t 8v1-2 4-9 1-c g-5 1 4-1 2j-3 3-2n 6o-f 5s-1a 1-2f 1431-1 7u-1q yts-3 1-6 1-1 1",
     "7z-2 1e e-3"]),
  (["kawi"],
    ["1kow-g 1-14 3-s"]),
  (["kayahli", "kali"],
    ["xds-1b"]),
  (["kharoshthi", "khar"],
    ["1gjk-3 1-1 5-7 1-2 1-s 2-2 4-9 7-8"]),
  (["khitansmallscript", "kits"],
    ["20o4 5cr-d1 15"]),
  (["khmer", "khmr"],
    ["4n4-2l 2-9 6-9 di-v"]),
  (["khojki", "khoj"],
    ["25i-9 v28-9 kw6-h 1-1a"]),
  (["khudawadi", "sind"],
    ["1us-1 vd6-9 l12-1m 5-9"]),
  (["kiratrai", "krai"],
    ["205c-1l"]),
  (["lao", "laoo"],
    ["2v5-1 1 1-4 1-n 1 1-m 2-4 1 1-6 1-9 2-3"]),
  (["latin", "latn"],
    ["1t-p 6-p 1b c 2 5-m 1-u 1-cg 3 a 1-2 1 9 1 6-4 r-e 1-1 1 c 2-2 7-1 1-1 12 5 4-c 7p-1",
     "y2-1 1ig 2dg-11 6-1c 5-3 5-c 1-1x 1l 7-73 8f 1t d g-c 2b 1l-1 6 r h-14 253-v bb nvs-7",
     "q-2t 3-1u 2-1 1 1-7 l-d 8e e9-16 1-8 1-3 fpy-6 t6-p 6-p 1lx-5 1-15 1-8 16it-u 6-5"]),
  (["lepcha", "lepc"],
    ["5j4-1j 3-e 3-2"]),
  (["limbu", "limb"],
    ["1ut 32y-u 1-b 4-b 4 3-b"]),
  (["lineara", "lina"],
    ["1err-18 y4-8m 9-l a-7"]),
  (["linearb", "linb"],
    ["1ekg-b 1-p 1-i 1-1 1-e 2-d y-3e 5-2 4-18 3-8"]),
  (["lisu"],
    ["jg g 8xo-1 n2c-1b o8g"]),
  (["lycian", "lyci"],
    ["6e2 18o5-s"]),
  (["lydian", "lydi"],
    ["53 8zd 178u-p 5"]),
  (["mahajani", "mahj"],
    ["53 1po-b vcw-9 kra-12"]),
  (["makasar", "maka"],
    ["1ko0-o"]),
  (["malayalam", "mlym"],
    ["1u9-1 h-1 pm-c 1-2 1-1e 1-2 1-5 4-f 2-p 316 n ri5-2"]),
  (["mandaic", "mand"],
    ["18g e7-r 2"]),
  (["manichaean", "mani"],
    ["18g 1fgf-12 4-b"]),
  (["marchen", "marc"],
    ["1k6o-v 2-l 1-d"]),
  (["masaramgondi", "gonm"],
    ["1us-1 1ifu-6 1-1 1-17 3 1-1 1-8 8-9"]),
  (["medefaidrin", "medf"],
    ["20cg-2i"]),
  (["meeteimayek", "mtei"],
    ["xr4-m 5l-19 2-9"]),
  (["mendekikakui", "mend"],
    ["2oe8-5g 2-f"]),
  (["meroiticcursive", "merc"],
    ["1ggw-n 4-j 2-19"]),
  (["meroitichieroglyphs", "mero"],
    ["6e5 1a1u-v"]),
  (["miao", "plrd"],
    ["20hs-22 4-1k 7-g"]),
  (["modi"],
    ["x80-9 lom-1w b-9"]),
  (["mongolian", "mong"],
    ["4qo-p 6-2g 7-16 1hg 34h-1 5-3 19hw-c"]),
  (["mro", "mroo"],
    ["1zk0-u 1-9 4-1"]),
  (["multani", "mult"],
    ["21y-9 1g5s-6 1 1-3 1-e 1-a"]),
  (["myanmar", "mymr"],
    ["35s-4f u4u 4x-u 2p-v le8-j"]),
  (["nabataean", "nbat"],
    ["1g8w-u 8-8"]),
  (["nagmundari", "nagm"],
    ["2nrk-15"]),
  (["nandinagari", "nand"],
    ["1us-1 ow-9 35l 8 7 rhx-5 mei-7 2-19 2-a"]),
  (["newtailue", "talu"],
    ["51c-17 4-p 6-a 3-1"]),
  (["newa"],
    ["1iio-2j 1-4"]),
  (["nko", "nkoo"],
    ["170 e 3 bk-1m 2-2 1cfy-1"]),
  (["nushu", "nshu"],
    ["20o1 cy6-az"]),
  (["nyiakengpuachuehmong", "hmnp"],
    ["2n0g-18 3-d 2-9 4-1"]),
  (["ogham", "ogam"],
    ["4g0-s"]),
  (["olchiki", "olck"],
    ["5lc-1b"]),
  (["olonal", "onao"],
    ["1us-1 2m3u-16 4"]),
  (["oldhungarian", "hung"],
    ["6e2 2 2qb f 17we-1e d-1e 7-5"]),
  (["olditalic", "ital"],
    ["1f5s-z 9-2"]),
  (["oldnortharabian", "narb"],
    ["1gn4-v"]),
  (["oldpermic", "perm"],
    ["53 g8 5-2 a a7 1ebw-16"]),
  (["oldpersian", "xpeo"],
    ["1fa8-z 4-d"]),
  (["oldsogdian", "sogo"],
    ["1hj4-13"]),
  (["oldsoutharabian", "sarb"],
    ["1gm8-v"]),
  (["oldturkic", "orkh"],
    ["6e2 2qd 17tb-20"]),
  (["olduyghur", "ougr"],
    ["18g 1fht vx-p"]),
  (["oriya", "orya"],
    ["1u9-1 h-1 bf-2 1-7 2-1 2-l 1-6 1-1 1-4 2-8 2-1 2-2 7-2 4-1 1-4 2-h 3fm n"]),
  (["osage", "osge"],
    ["ld 2 6 24 1etz-z 4-z"]),
  (["osmanya", "osma"],
    ["1fgg-t 2-9"]),
  (["pahawhhmong", "hmng"],
    ["1zpc-1x a-9 1-6 1-k 5-i"]),
  (["palmyrene", "palm"],
    ["1g80-v"]),
  (["paucinhau", "pauc"],
    ["1juo-1k"]),
  (["phagspa", "phag"],
    ["4qq-1 1 1m1 34i nr1-1j"]),
  (["phoenician", "phnx"],
    ["1gcg-r 3"]),
  (["psalterpahlavi", "phlp"],
    ["18g 1flr-h 7-3 c-6"]),
  (["rejang", "rjng"],
    ["xf4-z b"]),
  (["runic", "runr"],
    ["4gw-2g"]),
  (["samaritan", "samr"],
    ["1kw-19 2-e 7hu"]),
  (["saurashtra", "saur"],
    ["xa8-1x 8-b"]),
  (["sharada", "shrd"],
    ["1u9 3ut 1 2-1 2 rin-5 2 ksn-2n"]),
  (["shavian", "shaw"],
    ["53 1fa0-1b"]),
  (["siddham", "sidd"],
    ["1itc-1h 2-11"]),
  (["signwriting", "sgnw"],
    ["2l8g-i3 f-4 1-e"]),
  (["sinhala", "sinh"],
    ["1us-1 t7-2 1-h 3-n 1-8 1 2-6 3 4-5 1 1-7 6-9 2-2 2yl 1cdq-j"]),
  (["sogdian", "sogd"],
    ["18g 1gbz-15"]),
  (["sorasompeng", "sora"],
    ["1hw0-o 7-9"]),
  (["soyombo", "soyo"],
    ["1jrk-2a"]),
  (["sundanese", "sund"],
    ["5fk-1r 74-7"]),
  (["sunuwar", "sunu"],
    ["lc-1 1 9 2 s 3 1jf2-x e-9"]),
  (["sylotinagri", "sylo"],
    ["1us-1 3k-9 v80-18"]),
  (["syriac", "syrc"],
    ["lf-1 2-1 1 l 2-2 7-1 1 kb e-1 2 w a-a q 3z-d 1-1n 2-2 7k-a 499 1"]),
  (["tagalog", "tglg"],
    ["4jk-l 9 l-1"]),
  (["tagbanwa", "tagb"],
    ["4l1-1 15-c 1-2 1-1"]),
  (["taile", "tale"],
    ["lc-1 5-1 3 2lv-9 1s6-t 2-4"]),
  (["taitham", "lana"],
    ["55s-1q 1-s 2-a 6-9 6-d"]),
  (["taiviet", "tavt"],
    ["xog-1u o-4"]),
  (["takri", "takr"],
    ["1us-1 vd6-9 ls6-1l 6-9"]),
  (["tamil", "taml"],
    ["1u9-1 h-1 f0-1 1-5 3-2 1-3 3-1 1 1-1 3-1 3-2 3-b 4-4 3-2 1-3 2 6 e-k 3bz ro8 ky5 1 1j-1",
     "2gz-1d d"]),
  (["tangsa", "tnsa"],
    ["1zlc-26 1-9"]),
  (["tangut", "tang"],
    ["9gw-f dr 1qsw v-4qf 8-lb e8-8"]),
  (["telugu", "telu"],
    ["1u9-1 h-1 ii-c 1-2 1-m 1-f 2-8 1-2 1-3 7-1 1-2 2 2-3 2-9 7-8 38a n"]),
  (["thaana", "thaa"],
    ["170 e-1 2 1s-9 7q-1d 1cn4 a"]),
  (["thai"],
    ["jg q 17 19 24v-1l 5-r"]),
  (["tibetan", "tibt"],
    ["2yo-1z 1-z 4-12 1-z 1-e 1-6 4-1 6ct-3"]),
  (["tifinagh", "tfng"],
    ["le 1 2 1 8bq-1j 7-1 e"]),
  (["tirhuta", "tirh"],
    ["1u9-1 h-1 3v0 ri5-9 ldy-1z 8-9"]),
  (["todhri", "todr"],
    ["ld 2 2 9 1 22 1f1d-1f"]),
  (["toto"],
    ["jg 2ms3-u"]),
  (["tulutigalari", "tutg"],
    ["2jq-9 35u 1 ri3-5 57 l1q-9 1 2 1-11 1-9 1 2 1-3 1-9 1-1 8-1"]),
  (["ugaritic", "ugar"],
    ["1f9c-t 1"]),
  (["vai", "vaii"],
    ["wlc-8b"]),
  (["vithkuqi", "vith"],
    ["1fn4-a 1-e 1-6 1-1 1-a 1-e 1-6 1-1"]),
  (["wancho", "wcho"],
    ["2ncw-1l 5"]),
  (["warangciti", "wara"],
    ["1jfk-2a c"]),
  (["yezidi", "yezi"],
    ["170 e 3 1s-9 1g5y-15 1-2 2-1"]),
  (["yi", "yiii"],
    ["9hd-1 5-9 2-7 67 lxg-wc 3-1i hwa-4"]),
  (["zanabazarsquare", "zanb"],
    ["1jpc-1z"])]

end Rulebook.Unicode
