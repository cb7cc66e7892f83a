/-
  Sift.Unicode.Script
  ───────────────────
  **Scripts and script extensions.**

  Each script has a table of its own characters and a table of the further characters that
  are used with it.  The characters of no single script lose those that are listed with one
  once extensions count.
-/
import Sift.Unicode.CharSet

namespace Sift.Unicode

/-- A script: its names in loose form, the table of its characters and the table of the
characters of other scripts used with it. -/
structure ScriptTable where
  names : List String
  table : List String
  extra : List String

/-- The scripts. -/
def scriptTables : List ScriptTable := [
  ⟨["adlm", "adlam"],
    ["125184:75 4:9 4:1"],
    ["1567 32 6670 3569"]⟩,
  ⟨["aghb", "caucasianalbanian"],
    ["66864:51 11"],
    ["772 44 44"]⟩,
  ⟨["ahom"],
    ["71424:26 2:14 4:22"],
    []⟩,
  ⟨["arab", "arabic"],
    ["1536:4 1:5 1:13 1:2 1:31 1:9 11:25 1:107 1:33 80:47 240:30 1:1 5:74 1:28 62032:114 16:362",
     "2:79 2:53 7 32:15 112:4 1:134 3939:30 67:2 55:3 57088:3 1:26 1:1 1 2 1:9 1:3 1 1 6 4 1 1",
     "1:2 1:1 1 2 1 1 1 1 1:1 1 2:3 1:6 1:3 1:3 1 1:9 1:16 5:2 1:4 1:16 52:1"],
    ["1548 14 3 32 10:10 26 6622 3569 52988:1 1440:27"]⟩,
  ⟨["armi", "imperialaramaic"],
    ["67648:21 1:8"],
    []⟩,
  ⟨["armn", "armenian"],
    ["1329:37 2:49 2:2 62851:4"],
    ["776"]⟩,
  ⟨["avst", "avestan"],
    ["68352:53 3:6"],
    ["183 11640:1"]⟩,
  ⟨["bali", "balinese"],
    ["6912:76 1:49"],
    []⟩,
  ⟨["bamu", "bamum"],
    ["42656:87 49416:568"],
    []⟩,
  ⟨["bass", "bassavah"],
    ["92880:29 2:5"],
    []⟩,
  ⟨["batk", "batak"],
    ["7104:51 8:3"],
    []⟩,
  ⟨["beng", "bengali"],
    ["2432:3 1:7 2:1 2:21 1:6 1 3:3 2:8 2:1 2:3 8 4:1 1:4 2:24"],
    ["700 1684:1 17:1 4970 1 2:1 1 8 8 2 4 2:2 35833"]⟩,
  ⟨["bhks", "bhaiksuki"],
    ["72704:8 1:44 1:13 10:28"],
    []⟩,
  ⟨["bopo", "bopomofo"],
    ["746:1 11801:42 112:31"],
    ["711 1:2 13 11559:2 4:9 1:12 10:3 2 6 195 52553:1 282:4"]⟩,
  ⟨["brah", "brahmi"],
    ["69632:77 4:35 9"],
    []⟩,
  ⟨["brai", "braille"],
    ["10240:255"],
    []⟩,
  ⟨["bugi", "buginese"],
    ["6656:27 2:1"],
    ["43471"]⟩,
  ⟨["buhd", "buhid"],
    ["5952:19"],
    ["5941:1"]⟩,
  ⟨["cakm", "chakma"],
    ["69888:52 1:17"],
    ["2534:9 1616:9"]⟩,
  ⟨["cans", "canadianaboriginal"],
    ["5120:639 560:69 65978:15"],
    []⟩,
  ⟨["cari", "carian"],
    ["66208:48"],
    ["183 8098 2 3539"]⟩,
  ⟨["cham"],
    ["43520:54 9:13 2:9 2:3"],
    []⟩,
  ⟨["cher", "cherokee"],
    ["5024:85 2:5 38770:79"],
    ["768:2 1 6:1 22:1 11:1"]⟩,
  ⟨["chrs", "chorasmian"],
    ["69552:27"],
    []⟩,
  ⟨["copt", "coptic", "qaac"],
    ["994:13 10384:115 5:6"],
    ["183 584 3:1 1 108:1 10913 54472:27"]⟩,
  ⟨["cpmn", "cyprominoan"],
    ["77712:98"],
    ["65792:1"]⟩,
  ⟨["cprt", "cypriot"],
    ["67584:5 2 1:43 1:1 3 2"],
    ["65792:2 4:44 3:8"]⟩,
  ⟨["cyrl", "cyrillic"],
    ["1024:132 2:168 5968:10 160 76 4199:31 30784:95 22414:1 57856:61 33"],
    ["700 67:2 1 1 1 2 5 371:1 6513 4170"]⟩,
  ⟨["deva", "devanagari"],
    ["2304:80 4:14 2:25 40800:31 29184:9"],
    ["700 1684:1 17:1 4970:38 1:1 1014 34623:9"]⟩,
  ⟨["diak", "divesakuru"],
    ["71936:6 2 2:7 1:1 1:29 1:1 2:11 9:9"],
    []⟩,
  ⟨["dogr", "dogra"],
    ["71680:59"],
    ["2404:11 40640:9"]⟩,
  ⟨["dsrt", "deseret"],
    ["66560:79"],
    []⟩,
  ⟨["dupl", "duployan"],
    ["113664:106 5:12 3:8 7:9 2:3"],
    ["183 591:1 1 24:1 11031 101987:3"]⟩,
  ⟨["egyp", "egyptianhieroglyphs"],
    ["77824:1109 10:3994"],
    []⟩,
  ⟨["elba", "elbasan"],
    ["66816:39"],
    ["183 589"]⟩,
  ⟨["elym", "elymaic"],
    ["69600:22"],
    []⟩,
  ⟨["ethi", "ethiopic"],
    ["4608:72 1:3 2:6 1 1:3 2:40 1:3 2:32 1:3 2:6 1 1:3 2:14 1:56 1:3 2:66 2:31 3:25 6630:22 9:6",
     "1:6 1:6 1:6 1:6 1:6 1:6 1:6 32034:5 2:5 2:5 9:6 1:6 81073:6 1:3 1:1 1:14"],
    ["782"]⟩,
  ⟨["geor", "georgian"],
    ["4256:37 1 5 2:42 1:3 2960:42 2:2 4160:37 1 5"],
    ["183 1233 2929 3934 3542"]⟩,
  ⟨["glag", "glagolitic"],
    ["11264:95 111520:6 1:16 2:6 1:1 1:4"],
    ["183 587 1 382 2 257 2929 3934 3560 30763"]⟩,
  ⟨["gong", "gunjalagondi"],
    ["73056:5 1:1 1:36 1:1 1:5 7:9"],
    ["183 2220:1"]⟩,
  ⟨["gonm", "masaramgondi"],
    ["72960:6 1:1 1:43 3 1:1 1:8 8:9"],
    ["2404:1"]⟩,
  ⟨["goth", "gothic"],
    ["66352:26"],
    ["183 588:1 2 40"]⟩,
  ⟨["gran", "grantha"],
    ["70400:3 1:7 2:1 2:21 1:6 1:1 1:4 2:8 2:1 2:2 2 6 5:6 2:6 3:4"],
    ["2385:1 17:1 640:13 4316 1:1 30:2 3:1 1014 62026 3220:1 1"]⟩,
  ⟨["grek", "greek"],
    ["880:3 1:2 2:3 1 4 1 1:2 1 1:19 1:62 14:15 6438:4 50:4 4:4 84 320:21 2:5 2:37 2:5 2:7 1 1 1",
     "1:30 2:52 1:14 1:13 2:5 1:18 2:2 1:8 295 35390 21978:78 17 53343:69"],
    ["183 584:1 2 1 1 10 46 2 46 6731:1 667"]⟩,
  ⟨["gujr", "gujarati"],
    ["2689:2 1:8 1:2 1:21 1:6 1:1 1:4 2:9 1:2 1:2 2 15:3 2:11 7:6"],
    ["2385:1 17:1 40650:9"]⟩,
  ⟨["guru", "gurmukhi"],
    ["2561:2 1:5 4:1 2:21 1:6 1:1 1:1 1:1 2 1:4 4:1 2:2 3 7:3 1 7:16"],
    ["2385:1 17:1 40650:9"]⟩,
  ⟨["hang", "hangul"],
    ["4352:255 7726:1 257:93 113:30 65:30 30433:28 643:11171 12:22 4:48 10148:30 3:5 2:5 2:5 2:2"],
    ["12289:2 4:9 1:12 16 6 195 52553:1 282:4"]⟩,
  ⟨["hani", "han"],
    ["11904:25 1:88 12:213 47 1 25:8 14:3 964:6591 64:20991 22784:365 2:105 29960:1 12:1",
     "36878:42719 32:4153 6:221 2:5761 14:7472 15:621 2466:541 1506:4938 5:4191"],
    ["183 12088:15 1:2 2 1:9 1:12 10:3 2 6 4:3 187 148:15 32:37 9 48:39 56:48 15:11 51 88:24",
     "10:4 96:30 29441:7 22333:1 282:4 54266:17 7902:1"]⟩,
  ⟨["hano", "hanunoo"],
    ["5920:20"],
    ["5941:1"]⟩,
  ⟨["hatr", "hatran"],
    ["67808:18 1:1 5:4"],
    []⟩,
  ⟨["hebr", "hebrew"],
    ["1425:54 8:26 4:5 62760:25 1:4 1 1:1 1:1 1:9"],
    ["775:1"]⟩,
  ⟨["hira", "hiragana"],
    ["12353:85 6:2 98145:286 18 29:2 16557"],
    ["12289:2 4:9 1:12 16:5 1 4:1 91:3 3 90:1 52552:1 282:4 10 45:1"]⟩,
  ⟨["hluw", "anatolianhieroglyphs"],
    ["82944:582"],
    []⟩,
  ⟨["hmng", "pahawhhmong"],
    ["92928:69 10:9 1:6 1:20 5:18"],
    []⟩,
  ⟨["hmnp", "nyiakengpuachuehmong"],
    ["123136:44 3:13 2:9 4:1"],
    []⟩,
  ⟨["hung", "oldhungarian"],
    ["68736:50 13:50 7:5"],
    ["8282 2 3539 15"]⟩,
  ⟨["ital", "olditalic"],
    ["66304:35 9:2"],
    []⟩,
  ⟨["java", "javanese"],
    ["43392:77 2:9 4:1"],
    ["43471"]⟩,
  ⟨["kali", "kayahli"],
    ["43264:45 1"],
    ["43310"]⟩,
  ⟨["kana", "katakana"],
    ["12449:89 2:2 240:15 208:46 1:87 52238:9 1:44 45138:3 1:6 1:1 1 287:2 50 14:3"],
    ["773 29 11485:2 4:9 1:12 16:5 1 4:1 91:3 3 90:1 52552:1 282:4 10 45:1"]⟩,
  ⟨["kawi"],
    ["73472:16 1:40 3:28"],
    []⟩,
  ⟨["khar", "kharoshthi"],
    ["68096:3 1:1 5:7 1:2 1:28 2:2 4:9 7:8"],
    []⟩,
  ⟨["khmr", "khmer"],
    ["6016:93 2:9 6:9 486:31"],
    []⟩,
  ⟨["khoj", "khojki"],
    ["70144:17 1:46"],
    ["2790:9 40256:9"]⟩,
  ⟨["kits", "khitansmallscript"],
    ["94180 6939:469 41"],
    []⟩,
  ⟨["knda", "kannada"],
    ["3200:12 1:2 1:22 1:9 1:4 2:8 1:2 1:3 7:1 6:1 1:3 2:9 1:2"],
    ["2385:1 17:1 4970 1:1 6 23 1 35643:5"]⟩,
  ⟨["kthi", "kaithi"],
    ["69760:66 10"],
    ["2406:9 9409 31230:9"]⟩,
  ⟨["lana", "taitham"],
    ["6688:62 1:28 2:10 6:9 6:13"],
    []⟩,
  ⟨["laoo", "lao"],
    ["3713:1 1 1:4 1:23 1 1:22 2:4 1 1:6 1:9 2:3"],
    []⟩,
  ⟨["latn", "latin"],
    ["65:25 6:25 47 15 5:22 1:30 1:448 39:4 6683:37 6:48 5:3 5:12 1:69 65:255 369 13 16:12 141:1",
     "6 27 17:40 2775:31 31394:101 3:66 2:1 1 1:7 21:13 816:42 1:8 1:3 20374:6 1050:25 6:25",
     "2085:5 1:41 1:8 55109:30 6:5"],
    ["183 516 10 1:2 1 9 1 38:14 1:1 1 12 2:2 7:1 1:1 38 5 4:12 277:1 1226:1 1960 3324 566 192",
     "3366 30952:7 550"]⟩,
  ⟨["lepc", "lepcha"],
    ["7168:55 3:14 3:2"],
    []⟩,
  ⟨["limb", "limbu"],
    ["6400:30 1:11 4:11 4 3:11"],
    ["2405"]⟩,
  ⟨["lina", "lineara"],
    ["67072:310 9:21 10:7"],
    ["65799:44"]⟩,
  ⟨["linb", "linearb"],
    ["65536:11 1:25 1:18 1:1 1:14 2:13 34:122"],
    ["65792:2 4:44 3:8"]⟩,
  ⟨["lisu"],
    ["42192:47 31408"],
    ["700 16 11580:1"]⟩,
  ⟨["lyci", "lycian"],
    ["66176:28"],
    ["8282"]⟩,
  ⟨["lydi", "lydian"],
    ["67872:25 5"],
    ["183 11641"]⟩,
  ⟨["mahj", "mahajani"],
    ["69968:38"],
    ["183 2220:11 40640:9"]⟩,
  ⟨["maka", "makasar"],
    ["73440:24"],
    []⟩,
  ⟨["mand", "mandaic"],
    ["2112:27 2"],
    ["1600"]⟩,
  ⟨["mani", "manichaean"],
    ["68288:38 4:11"],
    ["1600"]⟩,
  ⟨["marc", "marchen"],
    ["72816:31 2:21 1:13"],
    []⟩,
  ⟨["medf", "medefaidrin"],
    ["93760:90"],
    []⟩,
  ⟨["mend", "mendekikakui"],
    ["124928:196 2:15"],
    []⟩,
  ⟨["merc", "meroiticcursive"],
    ["68000:23 4:19 2:45"],
    []⟩,
  ⟨["mero", "meroitichieroglyphs"],
    ["67968:31"],
    ["8285"]⟩,
  ⟨["mlym", "malayalam"],
    ["3328:12 1:2 1:50 1:2 1:5 4:15 2:25"],
    ["2385:1 17:1 4980 23 35645:2"]⟩,
  ⟨["modi"],
    ["71168:68 11:9"],
    ["43056:9"]⟩,
  ⟨["mong", "mongolian"],
    ["6144:1 2 1:19 6:88 7:42 64949:12"],
    ["6146:1 1 2089 4049:1 5:3"]⟩,
  ⟨["mroo", "mro"],
    ["92736:30 1:9 4:1"],
    []⟩,
  ⟨["mtei", "meeteimayek"],
    ["43744:22 201:45 2:9"],
    []⟩,
  ⟨["mult", "multani"],
    ["70272:6 1 1:3 1:14 1:10"],
    ["2662:9"]⟩,
  ⟨["mymr", "myanmar"],
    ["4096:159 39232:30 97:31 27728:19"],
    ["43310"]⟩,
  ⟨["nagm", "nagmundari"],
    ["124112:41"],
    []⟩,
  ⟨["nand", "nandinagari"],
    ["72096:7 2:45 2:10"],
    ["2404:1 896:9 4089 8 7 35637:5"]⟩,
  ⟨["narb", "oldnortharabian"],
    ["68224:31"],
    []⟩,
  ⟨["nbat", "nabataean"],
    ["67712:30 8:8"],
    []⟩,
  ⟨["newa"],
    ["70656:91 1:4"],
    []⟩,
  ⟨["nkoo", "nko"],
    ["1984:58 2:2"],
    ["1548 14 3 63262:1"]⟩,
  ⟨["nshu", "nushu"],
    ["94177 16782:395"],
    []⟩,
  ⟨["ogam", "ogham"],
    ["5760:28"],
    []⟩,
  ⟨["olck", "olchiki"],
    ["7248:47"],
    []⟩,
  ⟨["orkh", "oldturkic"],
    ["68608:72"],
    ["8282 3541"]⟩,
  ⟨["orya", "oriya"],
    ["2817:2 1:7 2:1 2:21 1:6 1:1 1:4 2:8 2:1 2:2 7:2 4:1 1:4 2:17"],
    ["2385:1 17:1 4980 23"]⟩,
  ⟨["osge", "osage"],
    ["66736:35 4:35"],
    ["769 2 6 76"]⟩,
  ⟨["osma", "osmanya"],
    ["66688:29 2:9"],
    []⟩,
  ⟨["ougr", "olduyghur"],
    ["69488:25"],
    ["1600 66737"]⟩,
  ⟨["palm", "palmyrene"],
    ["67680:31"],
    []⟩,
  ⟨["pauc", "paucinhau"],
    ["72384:56"],
    []⟩,
  ⟨["perm", "oldpermic"],
    ["66384:42"],
    ["183 584 5:2 10 367"]⟩,
  ⟨["phag", "phagspa"],
    ["43072:55"],
    ["6146:1 1 2089 4050"]⟩,
  ⟨["phli", "inscriptionalpahlavi"],
    ["68448:18 5:7"],
    []⟩,
  ⟨["phlp", "psalterpahlavi"],
    ["68480:17 7:3 12:6"],
    ["1600"]⟩,
  ⟨["phnx", "phoenician"],
    ["67840:27 3"],
    []⟩,
  ⟨["plrd", "miao"],
    ["93952:74 4:56 7:16"],
    []⟩,
  ⟨["prti", "inscriptionalparthian"],
    ["68416:21 2:7"],
    []⟩,
  ⟨["rjng", "rejang"],
    ["43312:35 11"],
    []⟩,
  ⟨["rohg", "hanifirohingya"],
    ["68864:39 8:9"],
    ["1548 14 3 32 147"]⟩,
  ⟨["runr", "runic"],
    ["5792:74 3:10"],
    ["5867:2"]⟩,
  ⟨["samr", "samaritan"],
    ["2048:45 2:14"],
    ["11825"]⟩,
  ⟨["sarb", "oldsoutharabian"],
    ["68192:31"],
    []⟩,
  ⟨["saur", "saurashtra"],
    ["43136:69 8:11"],
    []⟩,
  ⟨["sgnw", "signwriting"],
    ["120832:651 15:4 1:14"],
    []⟩,
  ⟨["shaw", "shavian"],
    ["66640:47"],
    ["183"]⟩,
  ⟨["shrd", "sharada"],
    ["70016:95"],
    ["2385 4997 1 2:1 2 35663:5 2"]⟩,
  ⟨["sidd", "siddham"],
    ["71040:53 2:37"],
    []⟩,
  ⟨["sind", "khudawadi"],
    ["70320:58 5:9"],
    ["2404:1 40650:9"]⟩,
  ⟨["sinh", "sinhala"],
    ["3457:2 1:17 3:23 1:8 1 2:6 3 4:5 1 1:7 6:9 2:2 66540:19"],
    ["2404:1 5004"]⟩,
  ⟨["sogd", "sogdian"],
    ["69424:41"],
    ["1600"]⟩,
  ⟨["sogo", "oldsogdian"],
    ["69376:39"],
    []⟩,
  ⟨["sora", "sorasompeng"],
    ["69840:24 7:9"],
    []⟩,
  ⟨["soyo", "soyombo"],
    ["72272:82"],
    []⟩,
  ⟨["sund", "sundanese"],
    ["7040:63 256:7"],
    []⟩,
  ⟨["sylo", "sylotinagri"],
    ["43008:44"],
    ["2404:1 128:9"]⟩,
  ⟨["syrc", "syriac"],
    ["1792:13 1:59 2:2 272:10"],
    ["771:1 2:1 1 21 2:2 7:1 1 731 14:1 2 32 10:10 26 6023 1"]⟩,
  ⟨["tagb", "tagbanwa"],
    ["5984:12 1:2 1:1"],
    ["5941:1"]⟩,
  ⟨["takr", "takri"],
    ["71296:57 6:9"],
    ["2404:1 40650:9"]⟩,
  ⟨["tale", "taile"],
    ["6480:29 2:4"],
    ["768:1 5:1 3 3379:9"]⟩,
  ⟨["talu", "newtailue"],
    ["6528:43 4:25 6:10 3:1"],
    []⟩,
  ⟨["taml", "tamil"],
    ["2946:1 1:5 3:2 1:3 3:1 1 1:1 3:1 3:2 3:11 4:4 3:2 1:3 2 6 14:20 70597:49 13"],
    ["2385:1 17:1 4980 35864 27149 1 55:1"]⟩,
  ⟨["tang", "tangut"],
    ["94176 31:6135 8:767 512:8"],
    ["12272:15 495"]⟩,
  ⟨["tavt", "taiviet"],
    ["43648:66 24:4"],
    []⟩,
  ⟨["telu", "telugu"],
    ["3072:12 1:2 1:22 1:15 2:8 1:2 1:3 7:1 1:2 2 2:3 2:9 7:8"],
    ["2385:1 17:1 4980 23"]⟩,
  ⟨["tfng", "tifinagh"],
    ["11568:55 7:1 14"],
    ["770 1 2 1"]⟩,
  ⟨["tglg", "tagalog"],
    ["5888:21 9"],
    ["5941:1"]⟩,
  ⟨["thaa", "thaana"],
    ["1920:49"],
    ["1548 14:1 2 64:9 63368 10"]⟩,
  ⟨["thai"],
    ["3585:57 5:27"],
    ["700 26 43 45"]⟩,
  ⟨["tibt", "tibetan"],
    ["3840:71 1:35 4:38 1:35 1:14 1:6 4:1"],
    ["12296:3"]⟩,
  ⟨["tirh", "tirhuta"],
    ["70784:71 8:9"],
    ["2385:1 17:1 5004 35645:9"]⟩,
  ⟨["tnsa", "tangsa"],
    ["92784:78 1:9"],
    []⟩,
  ⟨["toto"],
    ["123536:30"],
    ["700"]⟩,
  ⟨["ugar", "ugaritic"],
    ["66432:29 1"],
    []⟩,
  ⟨["vaii", "vai"],
    ["42240:299"],
    []⟩,
  ⟨["vith", "vithkuqi"],
    ["66928:10 1:14 1:6 1:1 1:10 1:14 1:6 1:1"],
    []⟩,
  ⟨["wara", "warangciti"],
    ["71840:82 12"],
    []⟩,
  ⟨["wcho", "wancho"],
    ["123584:57 5"],
    []⟩,
  ⟨["xpeo", "oldpersian"],
    ["66464:35 4:13"],
    []⟩,
  ⟨["xsux", "cuneiform"],
    ["73728:921 102:110 1:4 11:195"],
    []⟩,
  ⟨["yezi", "yezidi"],
    ["69248:41 1:2 2:1"],
    ["1548 14 3 64:9"]⟩,
  ⟨["yiii", "yi"],
    ["40960:1164 3:54"],
    ["12289:1 5:9 2:7 223 52837:4"]⟩,
  ⟨["zanb", "zanabazarsquare"],
    ["72192:71"],
    []⟩,
  ⟨["zinh", "inherited", "qaai"],
    ["768:111 277:1 452:10 26 736:3 4443:30 513:2 1:12 1:6 4 6 3:1 198:63 524:1 194:32 3897:3",
     "107:1 52581:15 16:13 975 226 4186 48068:45 2:22 544:2 17:7 2:6 30:3 798546:239"],
    []⟩,
  ⟨["zyyy", "common"],
    ["0:64 26:5 26:46 1:14 1:4 23 31 449:38 5:4 2:19 116 9 6 1 637 6 14 3 32 156 516 129:1 1241",
     "405:3 290 1519:2 71:1 203:1 1 1229 13 7:3 1:5 1:2 2 773:11 2:86 1:10 3:10 1:14 17:32 63:37",
     "1:2 2:5 1:26 1:16 41:2 4:665 22:10 21:927 256:627 2:31 1:104 512:93 402:20 1 1:24 15:7 4:3",
     "91:1 3 90:1 147:15 32:37 9 48:63 31:80 47 88:167 6592:63 22784:33 102:2 165:9 244 160 395",
     "14:1 20946:1 208:9 22:34 1:18 1:3 147 1:31 26:5 26:10 10 45:1 64:6 1:6 10:4 258:2 4:44 3:8",
     "80:12 51:44 228:26 47524:3 3932:249 6:435 156:115 60:245 10:38 2:61 3:16 8:1 7:29 4:60",
     "213:19 12:19 12:86 9:24 135:84 1:70 1:1 2 2:1 2:3 1:11 1 1:6 1:64 1:3 2:7 1:6 1:27 1:3 1:4",
     "1 3:6 1:339 2:291 2:49 5233:67 76:60 706:43 4:99 12:14 2:14 1:14 1:36 10:173 56:25 1:1",
     "13:43 4:8 7:1 14:5 154:983 4:16 3:12 3:118 4:94 6:11 4 15:11 4:55 8:9 6:39 8:29 2:11 4:1",
     "62:339 12:13 2:12 3:9 5:55 7:14 2:10 6:8 7:146 1:101 787463 30:95"],
    []⟩,
  ⟨["gara", "garay"],
    ["68928:37 3:28 8:1"],
    ["1548 14 3"]⟩,
  ⟨["gukh", "gurungkhema"],
    ["90368:57"],
    ["2405"]⟩,
  ⟨["krai", "kiratrai"],
    ["93504:57"],
    []⟩,
  ⟨["onao", "olonal"],
    ["124368:42 4"],
    ["2404:1"]⟩,
  ⟨["sunu", "sunuwar"],
    ["72640:33 14:9"],
    ["768:1 1 9 2 28 3"]⟩,
  ⟨["todr", "todhri"],
    ["67008:51"],
    ["769 2 2 9 1 74"]⟩,
  ⟨["tutg", "tulutigalari"],
    ["70528:9 1 2 1:37 1:9 1 2 1:3 1:9 1:1 8:1"],
    ["3302:9 4098 1 35643:5 187"]⟩]

/-- The table of the script of that name. -/
def scriptTable? (name : String) : Option ScriptTable :=
  scriptTables.find? (·.names.contains name)

/-- The characters of a script, by a name in loose form. -/
def script? (name : String) : Option CharSet :=
  (scriptTable? name).map fun t => .ofTable t.table

/-- **The characters used with a script.**  A character of no single script counts only with the
scripts it is listed with. -/
def scriptExtension? (name : String) : Option CharSet :=
  (scriptTable? name).map fun t =>
    let own := CharSet.ofTable t.table
    if t.names.contains "common" || t.names.contains "inherited" then
      own.diff (.unions (scriptTables.map fun t => .ofTable t.extra))
    else own.union (.ofTable t.extra)

end Sift.Unicode
