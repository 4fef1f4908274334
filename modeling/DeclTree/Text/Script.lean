import DeclTree.Text.Runs

/-!
# Scripts

Data of the Unicode character database: the script of every code point, as its four-letter
abbreviation, in runs of equal values, and the long names of the scripts.
-/

namespace DeclTree.Text

/-- The scripts of all code points, run by run. -/
def scriptRuns : Array (Nat × String) := unpackRuns
  ["65Zyyy26Latn6Zyyy26Latn47Zyyy1Latn15Zyyy1Latn5Zyyy23Latn1Zyyy31Latn1Zyyy449Latn39Zyyy5Latn",
  "5Zyyy2Bopo20Zyyy112Zinh4Grek1Zyyy3Grek2Zzzz4Grek1Zyyy1Grek4Zzzz1Grek1Zyyy1Grek1Zyyy3Grek1Zzzz",
  "1Grek1Zzzz20Grek1Zzzz63Grek14Copt16Grek133Cyrl2Zinh169Cyrl1Zzzz38Armn2Zzzz50Armn2Zzzz3Armn",
  "1Zzzz55Hebr8Zzzz27Hebr4Zzzz6Hebr11Zzzz5Arab1Zyyy6Arab1Zyyy14Arab1Zyyy3Arab1Zyyy32Arab1Zyyy",
  "10Arab11Zinh26Arab1Zinh108Arab1Zyyy34Arab14Syrc1Zzzz60Syrc2Zzzz3Syrc48Arab50Thaa14Zzzz59Nkoo",
  "2Zzzz3Nkoo46Samr2Zzzz15Samr1Zzzz28Mand2Zzzz1Mand1Zzzz11Syrc5Zzzz31Arab1Zzzz2Arab6Zzzz74Arab",
  "1Zyyy29Arab81Deva4Zinh15Deva2Zyyy26Deva4Beng1Zzzz8Beng2Zzzz2Beng2Zzzz22Beng1Zzzz7Beng1Zzzz",
  "1Beng3Zzzz4Beng2Zzzz9Beng2Zzzz2Beng2Zzzz4Beng8Zzzz1Beng4Zzzz2Beng1Zzzz5Beng2Zzzz25Beng2Zzzz",
  "3Guru1Zzzz6Guru4Zzzz2Guru2Zzzz22Guru1Zzzz7Guru1Zzzz2Guru1Zzzz2Guru1Zzzz2Guru2Zzzz1Guru1Zzzz",
  "5Guru4Zzzz2Guru2Zzzz3Guru3Zzzz1Guru7Zzzz4Guru1Zzzz1Guru7Zzzz17Guru10Zzzz3Gujr1Zzzz9Gujr1Zzzz",
  "3Gujr1Zzzz22Gujr1Zzzz7Gujr1Zzzz2Gujr1Zzzz5Gujr2Zzzz10Gujr1Zzzz3Gujr1Zzzz3Gujr2Zzzz1Gujr15Zzzz",
  "4Gujr2Zzzz12Gujr7Zzzz7Gujr1Zzzz3Orya1Zzzz8Orya2Zzzz2Orya2Zzzz22Orya1Zzzz7Orya1Zzzz2Orya1Zzzz",
  "5Orya2Zzzz9Orya2Zzzz2Orya2Zzzz3Orya7Zzzz3Orya4Zzzz2Orya1Zzzz5Orya2Zzzz18Orya10Zzzz2Taml1Zzzz",
  "6Taml3Zzzz3Taml1Zzzz4Taml3Zzzz2Taml1Zzzz1Taml1Zzzz2Taml3Zzzz2Taml3Zzzz3Taml3Zzzz12Taml4Zzzz",
  "5Taml3Zzzz3Taml1Zzzz4Taml2Zzzz1Taml6Zzzz1Taml14Zzzz21Taml5Zzzz13Telu1Zzzz3Telu1Zzzz23Telu1Zzzz",
  "16Telu2Zzzz9Telu1Zzzz3Telu1Zzzz4Telu7Zzzz2Telu1Zzzz3Telu2Zzzz1Telu2Zzzz4Telu2Zzzz10Telu7Zzzz",
  "9Telu13Knda1Zzzz3Knda1Zzzz23Knda1Zzzz10Knda1Zzzz5Knda2Zzzz9Knda1Zzzz3Knda1Zzzz4Knda7Zzzz2Knda",
  "6Zzzz2Knda1Zzzz4Knda2Zzzz10Knda1Zzzz3Knda12Zzzz13Mlym1Zzzz3Mlym1Zzzz51Mlym1Zzzz3Mlym1Zzzz6Mlym",
  "4Zzzz16Mlym2Zzzz26Mlym1Zzzz3Sinh1Zzzz18Sinh3Zzzz24Sinh1Zzzz9Sinh1Zzzz1Sinh2Zzzz7Sinh3Zzzz1Sinh",
  "4Zzzz6Sinh1Zzzz1Sinh1Zzzz8Sinh6Zzzz10Sinh2Zzzz3Sinh12Zzzz58Thai4Zzzz1Zyyy28Thai37Zzzz2Laoo",
  "1Zzzz1Laoo1Zzzz5Laoo1Zzzz24Laoo1Zzzz1Laoo1Zzzz23Laoo2Zzzz5Laoo1Zzzz1Laoo1Zzzz7Laoo1Zzzz10Laoo",
  "2Zzzz4Laoo32Zzzz72Tibt1Zzzz36Tibt4Zzzz39Tibt1Zzzz36Tibt1Zzzz15Tibt1Zzzz7Tibt4Zyyy2Tibt37Zzzz",
  "160Mymr38Geor1Zzzz1Geor5Zzzz1Geor2Zzzz43Geor1Zyyy4Geor256Hang73Ethi1Zzzz4Ethi2Zzzz7Ethi1Zzzz",
  "1Ethi1Zzzz4Ethi2Zzzz41Ethi1Zzzz4Ethi2Zzzz33Ethi1Zzzz4Ethi2Zzzz7Ethi1Zzzz1Ethi1Zzzz4Ethi2Zzzz",
  "15Ethi1Zzzz57Ethi1Zzzz4Ethi2Zzzz67Ethi2Zzzz32Ethi3Zzzz26Ethi6Zzzz86Cher2Zzzz6Cher2Zzzz640Cans",
  "29Ogam3Zzzz75Runr3Zyyy11Runr7Zzzz22Tglg9Zzzz1Tglg21Hano2Zyyy9Zzzz20Buhd12Zzzz13Tagb1Zzzz3Tagb",
  "1Zzzz2Tagb12Zzzz94Khmr2Zzzz10Khmr6Zzzz10Khmr6Zzzz2Mong2Zyyy1Mong1Zyyy20Mong6Zzzz89Mong7Zzzz",
  "43Mong5Zzzz70Cans10Zzzz31Limb1Zzzz12Limb4Zzzz12Limb4Zzzz1Limb3Zzzz12Limb30Tale2Zzzz5Tale11Zzzz",
  "44Talu4Zzzz26Talu6Zzzz11Talu3Zzzz2Talu32Khmr28Bugi2Zzzz2Bugi63Lana1Zzzz29Lana2Zzzz11Lana6Zzzz",
  "10Lana6Zzzz14Lana2Zzzz31Zinh49Zzzz77Bali3Zzzz47Bali1Zzzz64Sund52Batk8Zzzz4Batk56Lepc3Zzzz",
  "15Lepc3Zzzz3Lepc48Olck9Cyrl7Zzzz43Geor2Zzzz3Geor8Sund8Zzzz3Zinh1Zyyy13Zinh1Zyyy7Zinh4Zyyy1Zinh",
  "6Zyyy1Zinh3Zyyy2Zinh1Zyyy5Zzzz38Latn5Grek1Cyrl49Latn5Grek4Latn5Grek13Latn1Cyrl70Latn1Grek",
  "64Zinh256Latn22Grek2Zzzz6Grek2Zzzz38Grek2Zzzz6Grek2Zzzz8Grek1Zzzz1Grek1Zzzz1Grek1Zzzz1Grek",
  "1Zzzz31Grek2Zzzz53Grek1Zzzz15Grek1Zzzz14Grek2Zzzz6Grek1Zzzz19Grek2Zzzz3Grek1Zzzz9Grek1Zzzz",
  "12Zyyy2Zinh87Zyyy1Zzzz11Zyyy1Latn2Zzzz11Zyyy1Latn15Zyyy1Zzzz13Latn3Zzzz33Zyyy15Zzzz33Zinh",
  "15Zzzz38Zyyy1Grek3Zyyy2Latn6Zyyy1Latn27Zyyy1Latn17Zyyy41Latn3Zyyy4Zzzz663Zyyy25Zzzz11Zyyy",
  "21Zzzz928Zyyy256Brai628Zyyy2Zzzz32Zyyy1Zzzz105Zyyy96Glag32Latn116Copt5Zzzz7Copt38Geor1Zzzz",
  "1Geor5Zzzz1Geor2Zzzz56Tfng7Zzzz2Tfng14Zzzz1Tfng23Ethi9Zzzz7Ethi1Zzzz7Ethi1Zzzz7Ethi1Zzzz7Ethi",
  "1Zzzz7Ethi1Zzzz7Ethi1Zzzz7Ethi1Zzzz7Ethi1Zzzz32Cyrl94Zyyy34Zzzz26Hani1Zzzz89Hani12Zzzz214Hani",
  "26Zzzz12Zyyy4Zzzz5Zyyy1Hani1Zyyy1Hani25Zyyy9Hani4Zinh2Hang8Zyyy4Hani4Zyyy1Zzzz86Hira2Zzzz2Zinh",
  "2Zyyy3Hira1Zyyy90Kana2Zyyy3Kana5Zzzz43Bopo1Zzzz94Hang1Zzzz16Zyyy32Bopo36Zyyy12Zzzz16Kana31Hang",
  "1Zzzz64Zyyy31Hang81Zyyy47Kana1Zyyy88Kana168Zyyy6592Hani64Zyyy20992Hani1165Yiii3Zzzz55Yiii9Zzzz",
  "48Lisu300Vaii20Zzzz96Cyrl88Bamu8Zzzz34Zyyy102Latn3Zyyy64Latn5Zzzz2Latn1Zzzz1Latn1Zzzz5Latn",
  "24Zzzz14Latn45Sylo3Zzzz10Zyyy6Zzzz56Phag8Zzzz70Saur8Zzzz12Saur6Zzzz32Deva46Kali1Zyyy1Kali",
  "36Rjng11Zzzz1Rjng29Hang3Zzzz78Java1Zzzz1Zyyy10Java4Zzzz2Java31Mymr1Zzzz55Cham9Zzzz14Cham2Zzzz",
  "10Cham2Zzzz4Cham32Mymr67Tavt24Zzzz5Tavt23Mtei10Zzzz6Ethi2Zzzz6Ethi2Zzzz6Ethi9Zzzz7Ethi1Zzzz",
  "7Ethi1Zzzz43Latn1Zyyy9Latn1Grek4Latn2Zyyy4Zzzz80Cher46Mtei2Zzzz10Mtei6Zzzz11172Hang12Zzzz",
  "23Hang4Zzzz49Hang8452Zzzz366Hani2Zzzz106Hani38Zzzz7Latn12Zzzz5Armn5Zzzz26Hebr1Zzzz5Hebr1Zzzz",
  "1Hebr1Zzzz2Hebr1Zzzz2Hebr1Zzzz10Hebr115Arab16Zzzz363Arab2Zyyy80Arab2Zzzz54Arab7Zzzz1Arab32Zzzz",
  "16Arab16Zinh10Zyyy6Zzzz14Zinh2Cyrl35Zyyy1Zzzz19Zyyy1Zzzz4Zyyy4Zzzz5Arab1Zzzz135Arab2Zzzz1Zyyy",
  "1Zzzz32Zyyy26Latn6Zyyy26Latn11Zyyy10Kana1Zyyy45Kana2Zyyy31Hang3Zzzz6Hang2Zzzz6Hang2Zzzz6Hang",
  "2Zzzz3Hang3Zzzz7Zyyy1Zzzz7Zyyy10Zzzz5Zyyy2Zzzz12Linb1Zzzz26Linb1Zzzz19Linb1Zzzz2Linb1Zzzz",
  "15Linb2Zzzz14Linb34Zzzz123Linb5Zzzz3Zyyy4Zzzz45Zyyy3Zzzz9Zyyy79Grek1Zzzz13Zyyy3Zzzz1Grek47Zzzz",
  "45Zyyy1Zinh130Zzzz29Lyci3Zzzz49Cari15Zzzz1Zinh27Zyyy4Zzzz36Ital9Zzzz3Ital27Goth5Zzzz43Perm",
  "5Zzzz30Ugar1Zzzz1Ugar36Xpeo4Zzzz14Xpeo42Zzzz80Dsrt48Shaw30Osma2Zzzz10Osma6Zzzz36Osge4Zzzz",
  "36Osge4Zzzz40Elba8Zzzz52Aghb11Zzzz1Aghb11Vith1Zzzz15Vith1Zzzz7Vith1Zzzz2Vith1Zzzz11Vith1Zzzz",
  "15Vith1Zzzz7Vith1Zzzz2Vith67Zzzz311Lina9Zzzz22Lina10Zzzz8Lina24Zzzz6Latn1Zzzz42Latn1Zzzz9Latn",
  "69Zzzz6Cprt2Zzzz1Cprt1Zzzz44Cprt1Zzzz2Cprt3Zzzz1Cprt2Zzzz1Cprt22Armi1Zzzz9Armi32Palm31Nbat",
  "8Zzzz9Nbat48Zzzz19Hatr1Zzzz2Hatr5Zzzz5Hatr28Phnx3Zzzz1Phnx26Lydi5Zzzz1Lydi64Zzzz32Mero24Merc",
  "4Zzzz20Merc2Zzzz46Merc4Khar1Zzzz2Khar5Zzzz8Khar1Zzzz3Khar1Zzzz29Khar2Zzzz3Khar4Zzzz10Khar7Zzzz",
  "9Khar7Zzzz32Sarb32Narb32Zzzz39Mani4Zzzz12Mani9Zzzz54Avst3Zzzz7Avst22Prti2Zzzz8Prti19Phli5Zzzz",
  "8Phli18Phlp7Zzzz4Phlp12Zzzz7Phlp80Zzzz73Orkh55Zzzz51Hung13Zzzz51Hung7Zzzz6Hung40Rohg8Zzzz",
  "10Rohg294Zzzz31Arab1Zzzz42Yezi1Zzzz3Yezi2Zzzz2Yezi75Zzzz3Arab40Sogo8Zzzz42Sogd22Zzzz26Ougr",
  "38Zzzz28Chrs20Zzzz23Elym9Zzzz78Brah4Zzzz36Brah9Zzzz1Brah67Kthi10Zzzz1Kthi2Zzzz25Sora7Zzzz",
  "10Sora6Zzzz53Cakm1Zzzz18Cakm8Zzzz39Mahj9Zzzz96Shrd1Zzzz20Sinh11Zzzz18Khoj1Zzzz47Khoj62Zzzz",
  "7Mult1Zzzz1Mult1Zzzz4Mult1Zzzz15Mult1Zzzz11Mult6Zzzz59Sind5Zzzz10Sind6Zzzz4Gran1Zzzz8Gran2Zzzz",
  "2Gran2Zzzz22Gran1Zzzz7Gran1Zzzz2Gran1Zzzz5Gran1Zzzz1Zinh9Gran2Zzzz2Gran2Zzzz3Gran2Zzzz1Gran",
  "6Zzzz1Gran5Zzzz7Gran2Zzzz7Gran3Zzzz5Gran139Zzzz92Newa1Zzzz5Newa30Zzzz72Tirh8Zzzz10Tirh166Zzzz",
  "54Sidd2Zzzz38Sidd34Zzzz69Modi11Zzzz10Modi6Zzzz13Mong19Zzzz58Takr6Zzzz10Takr54Zzzz27Ahom2Zzzz",
  "15Ahom4Zzzz23Ahom185Zzzz60Dogr100Zzzz83Wara12Zzzz1Wara7Diak2Zzzz1Diak2Zzzz8Diak1Zzzz2Diak1Zzzz",
  "30Diak1Zzzz2Diak2Zzzz12Diak9Zzzz10Diak70Zzzz8Nand2Zzzz46Nand2Zzzz11Nand27Zzzz72Zanb8Zzzz83Soyo",
  "13Zzzz16Cans57Pauc7Zzzz10Deva246Zzzz9Bhks1Zzzz45Bhks1Zzzz14Bhks10Zzzz29Bhks3Zzzz32Marc2Zzzz",
  "22Marc1Zzzz14Marc73Zzzz7Gonm1Zzzz2Gonm1Zzzz44Gonm3Zzzz1Gonm1Zzzz2Gonm1Zzzz9Gonm8Zzzz10Gonm",
  "6Zzzz6Gong1Zzzz2Gong1Zzzz37Gong1Zzzz2Gong1Zzzz6Gong7Zzzz10Gong310Zzzz25Maka7Zzzz17Kawi1Zzzz",
  "41Kawi3Zzzz28Kawi86Zzzz1Lisu15Zzzz50Taml13Zzzz1Taml922Xsux102Zzzz111Xsux1Zzzz5Xsux11Zzzz",
  "196Xsux2636Zzzz99Cpmn13Zzzz1110Egyp4010Zzzz583Hluw8633Zzzz569Bamu7Zzzz31Mroo1Zzzz10Mroo4Zzzz",
  "2Mroo79Tnsa1Zzzz10Tnsa6Zzzz30Bass2Zzzz6Bass10Zzzz70Hmng10Zzzz10Hmng1Zzzz7Hmng1Zzzz21Hmng5Zzzz",
  "19Hmng688Zzzz91Medf101Zzzz75Plrd4Zzzz57Plrd7Zzzz17Plrd64Zzzz1Tang1Nshu2Hani1Kits11Zzzz2Hani",
  "14Zzzz6136Tang8Zzzz768Tang470Kits42Zzzz9Tang8935Zzzz4Kana1Zzzz7Kana1Zzzz2Kana1Zzzz1Kana287Hira",
  "3Kana15Zzzz1Hira29Zzzz3Hira2Zzzz1Kana14Zzzz4Kana8Zzzz396Nshu2308Zzzz107Dupl5Zzzz13Dupl3Zzzz",
  "9Dupl7Zzzz10Dupl2Zzzz4Dupl4Zyyy4700Zzzz46Zinh2Zzzz23Zinh9Zzzz116Zyyy60Zzzz246Zyyy10Zzzz39Zyyy",
  "2Zzzz62Zyyy3Zinh17Zyyy8Zinh2Zyyy7Zinh30Zyyy4Zinh61Zyyy21Zzzz70Grek122Zzzz20Zyyy12Zzzz20Zyyy",
  "12Zzzz87Zyyy9Zzzz25Zyyy135Zzzz85Zyyy1Zzzz71Zyyy1Zzzz2Zyyy2Zzzz1Zyyy2Zzzz2Zyyy2Zzzz4Zyyy1Zzzz",
  "12Zyyy1Zzzz1Zyyy1Zzzz7Zyyy1Zzzz65Zyyy1Zzzz4Zyyy2Zzzz8Zyyy1Zzzz7Zyyy1Zzzz28Zyyy1Zzzz4Zyyy1Zzzz",
  "5Zyyy1Zzzz1Zyyy3Zzzz7Zyyy1Zzzz340Zyyy2Zzzz292Zyyy2Zzzz50Zyyy652Sgnw15Zzzz5Sgnw1Zzzz15Sgnw",
  "1104Zzzz31Latn6Zzzz6Latn213Zzzz7Glag1Zzzz17Glag2Zzzz7Glag1Zzzz2Glag1Zzzz5Glag5Zzzz62Cyrl33Zzzz",
  "1Cyrl112Zzzz45Hmnp3Zzzz14Hmnp2Zzzz10Hmnp4Zzzz2Hmnp320Zzzz31Toto17Zzzz58Wcho5Zzzz1Wcho464Zzzz",
  "42Nagm742Zzzz7Ethi1Zzzz4Ethi1Zzzz2Ethi1Zzzz15Ethi1Zzzz197Mend2Zzzz16Mend41Zzzz76Adlm4Zzzz",
  "10Adlm4Zzzz2Adlm785Zzzz68Zyyy76Zzzz61Zyyy194Zzzz4Arab1Zzzz27Arab1Zzzz2Arab1Zzzz1Arab2Zzzz1Arab",
  "1Zzzz10Arab1Zzzz4Arab1Zzzz1Arab1Zzzz1Arab6Zzzz1Arab4Zzzz1Arab1Zzzz1Arab1Zzzz1Arab1Zzzz3Arab",
  "1Zzzz2Arab1Zzzz1Arab2Zzzz1Arab1Zzzz1Arab1Zzzz1Arab1Zzzz1Arab1Zzzz1Arab1Zzzz2Arab1Zzzz1Arab",
  "2Zzzz4Arab1Zzzz7Arab1Zzzz4Arab1Zzzz4Arab1Zzzz1Arab1Zzzz10Arab1Zzzz17Arab5Zzzz3Arab1Zzzz5Arab",
  "1Zzzz17Arab52Zzzz2Arab270Zzzz44Zyyy4Zzzz100Zyyy12Zzzz15Zyyy2Zzzz15Zyyy1Zzzz15Zyyy1Zzzz37Zyyy",
  "10Zzzz174Zyyy56Zzzz26Zyyy1Hira2Zyyy13Zzzz44Zyyy4Zzzz9Zyyy7Zzzz2Zyyy14Zzzz6Zyyy154Zzzz984Zyyy",
  "4Zzzz17Zyyy3Zzzz13Zyyy3Zzzz119Zyyy4Zzzz95Zyyy6Zzzz12Zyyy4Zzzz1Zyyy15Zzzz12Zyyy4Zzzz56Zyyy8Zzzz",
  "10Zyyy6Zzzz40Zyyy8Zzzz30Zyyy2Zzzz2Zyyy78Zzzz340Zyyy12Zzzz14Zyyy2Zzzz13Zyyy3Zzzz9Zyyy7Zzzz",
  "46Zyyy1Zzzz7Zyyy8Zzzz14Zyyy4Zzzz9Zyyy7Zzzz9Zyyy7Zzzz147Zyyy1Zzzz55Zyyy37Zzzz10Zyyy1030Zzzz",
  "42720Hani32Zzzz4154Hani6Zzzz222Hani2Zzzz5762Hani14Zzzz7473Hani3103Zzzz542Hani1506Zzzz4939Hani",
  "5Zzzz4192Hani711761Zzzz1Zyyy30Zzzz96Zyyy128Zzzz240Zinh196112Zzzz0Zzzz"]

def script (n : Nat) : String := valueAt scriptRuns n

/-- The abbreviations of the scripts with their other names, in lower case and without
underscores. -/
def scriptNames : List (String × List String) :=
  [("Adlm", ["adlm", "adlam"]),
    ("Aghb", ["aghb", "caucasianalbanian"]),
    ("Ahom", ["ahom"]),
    ("Arab", ["arab", "arabic"]),
    ("Armi", ["armi", "imperialaramaic"]),
    ("Armn", ["armn", "armenian"]),
    ("Avst", ["avst", "avestan"]),
    ("Bali", ["bali", "balinese"]),
    ("Bamu", ["bamu", "bamum"]),
    ("Bass", ["bass", "bassavah"]),
    ("Batk", ["batk", "batak"]),
    ("Beng", ["beng", "bengali"]),
    ("Bhks", ["bhks", "bhaiksuki"]),
    ("Bopo", ["bopo", "bopomofo"]),
    ("Brah", ["brah", "brahmi"]),
    ("Brai", ["brai", "braille"]),
    ("Bugi", ["bugi", "buginese"]),
    ("Buhd", ["buhd", "buhid"]),
    ("Cakm", ["cakm", "chakma"]),
    ("Cans", ["cans", "canadianaboriginal"]),
    ("Cari", ["cari", "carian"]),
    ("Cham", ["cham"]),
    ("Cher", ["cher", "cherokee"]),
    ("Chrs", ["chrs", "chorasmian"]),
    ("Copt", ["copt", "coptic", "qaac"]),
    ("Cpmn", ["cpmn", "cyprominoan"]),
    ("Cprt", ["cprt", "cypriot"]),
    ("Cyrl", ["cyrl", "cyrillic"]),
    ("Deva", ["deva", "devanagari"]),
    ("Diak", ["diak", "divesakuru"]),
    ("Dogr", ["dogr", "dogra"]),
    ("Dsrt", ["dsrt", "deseret"]),
    ("Dupl", ["dupl", "duployan"]),
    ("Egyp", ["egyp", "egyptianhieroglyphs"]),
    ("Elba", ["elba", "elbasan"]),
    ("Elym", ["elym", "elymaic"]),
    ("Ethi", ["ethi", "ethiopic"]),
    ("Geor", ["geor", "georgian"]),
    ("Glag", ["glag", "glagolitic"]),
    ("Gong", ["gong", "gunjalagondi"]),
    ("Gonm", ["gonm", "masaramgondi"]),
    ("Goth", ["goth", "gothic"]),
    ("Gran", ["gran", "grantha"]),
    ("Grek", ["grek", "greek"]),
    ("Gujr", ["gujr", "gujarati"]),
    ("Guru", ["guru", "gurmukhi"]),
    ("Hang", ["hang", "hangul"]),
    ("Hani", ["hani", "han"]),
    ("Hano", ["hano", "hanunoo"]),
    ("Hatr", ["hatr", "hatran"]),
    ("Hebr", ["hebr", "hebrew"]),
    ("Hira", ["hira", "hiragana"]),
    ("Hluw", ["hluw", "anatolianhieroglyphs"]),
    ("Hmng", ["hmng", "pahawhhmong"]),
    ("Hmnp", ["hmnp", "nyiakengpuachuehmong"]),
    ("Hung", ["hung", "oldhungarian"]),
    ("Ital", ["ital", "olditalic"]),
    ("Java", ["java", "javanese"]),
    ("Kali", ["kali", "kayahli"]),
    ("Kana", ["kana", "katakana"]),
    ("Kawi", ["kawi"]),
    ("Khar", ["khar", "kharoshthi"]),
    ("Khmr", ["khmr", "khmer"]),
    ("Khoj", ["khoj", "khojki"]),
    ("Kits", ["kits", "khitansmallscript"]),
    ("Knda", ["knda", "kannada"]),
    ("Kthi", ["kthi", "kaithi"]),
    ("Lana", ["lana", "taitham"]),
    ("Laoo", ["laoo", "lao"]),
    ("Latn", ["latn", "latin"]),
    ("Lepc", ["lepc", "lepcha"]),
    ("Limb", ["limb", "limbu"]),
    ("Lina", ["lina", "lineara"]),
    ("Linb", ["linb", "linearb"]),
    ("Lisu", ["lisu"]),
    ("Lyci", ["lyci", "lycian"]),
    ("Lydi", ["lydi", "lydian"]),
    ("Mahj", ["mahj", "mahajani"]),
    ("Maka", ["maka", "makasar"]),
    ("Mand", ["mand", "mandaic"]),
    ("Mani", ["mani", "manichaean"]),
    ("Marc", ["marc", "marchen"]),
    ("Medf", ["medf", "medefaidrin"]),
    ("Mend", ["mend", "mendekikakui"]),
    ("Merc", ["merc", "meroiticcursive"]),
    ("Mero", ["mero", "meroitichieroglyphs"]),
    ("Mlym", ["mlym", "malayalam"]),
    ("Modi", ["modi"]),
    ("Mong", ["mong", "mongolian"]),
    ("Mroo", ["mroo", "mro"]),
    ("Mtei", ["mtei", "meeteimayek"]),
    ("Mult", ["mult", "multani"]),
    ("Mymr", ["mymr", "myanmar"]),
    ("Nagm", ["nagm", "nagmundari"]),
    ("Nand", ["nand", "nandinagari"]),
    ("Narb", ["narb", "oldnortharabian"]),
    ("Nbat", ["nbat", "nabataean"]),
    ("Newa", ["newa"]),
    ("Nkoo", ["nkoo", "nko"]),
    ("Nshu", ["nshu", "nushu"]),
    ("Ogam", ["ogam", "ogham"]),
    ("Olck", ["olck", "olchiki"]),
    ("Orkh", ["orkh", "oldturkic"]),
    ("Orya", ["orya", "oriya"]),
    ("Osge", ["osge", "osage"]),
    ("Osma", ["osma", "osmanya"]),
    ("Ougr", ["ougr", "olduyghur"]),
    ("Palm", ["palm", "palmyrene"]),
    ("Pauc", ["pauc", "paucinhau"]),
    ("Perm", ["perm", "oldpermic"]),
    ("Phag", ["phag", "phagspa"]),
    ("Phli", ["phli", "inscriptionalpahlavi"]),
    ("Phlp", ["phlp", "psalterpahlavi"]),
    ("Phnx", ["phnx", "phoenician"]),
    ("Plrd", ["plrd", "miao"]),
    ("Prti", ["prti", "inscriptionalparthian"]),
    ("Rjng", ["rjng", "rejang"]),
    ("Rohg", ["rohg", "hanifirohingya"]),
    ("Runr", ["runr", "runic"]),
    ("Samr", ["samr", "samaritan"]),
    ("Sarb", ["sarb", "oldsoutharabian"]),
    ("Saur", ["saur", "saurashtra"]),
    ("Sgnw", ["sgnw", "signwriting"]),
    ("Shaw", ["shaw", "shavian"]),
    ("Shrd", ["shrd", "sharada"]),
    ("Sidd", ["sidd", "siddham"]),
    ("Sind", ["sind", "khudawadi"]),
    ("Sinh", ["sinh", "sinhala"]),
    ("Sogd", ["sogd", "sogdian"]),
    ("Sogo", ["sogo", "oldsogdian"]),
    ("Sora", ["sora", "sorasompeng"]),
    ("Soyo", ["soyo", "soyombo"]),
    ("Sund", ["sund", "sundanese"]),
    ("Sylo", ["sylo", "sylotinagri"]),
    ("Syrc", ["syrc", "syriac"]),
    ("Tagb", ["tagb", "tagbanwa"]),
    ("Takr", ["takr", "takri"]),
    ("Tale", ["tale", "taile"]),
    ("Talu", ["talu", "newtailue"]),
    ("Taml", ["taml", "tamil"]),
    ("Tang", ["tang", "tangut"]),
    ("Tavt", ["tavt", "taiviet"]),
    ("Telu", ["telu", "telugu"]),
    ("Tfng", ["tfng", "tifinagh"]),
    ("Tglg", ["tglg", "tagalog"]),
    ("Thaa", ["thaa", "thaana"]),
    ("Thai", ["thai"]),
    ("Tibt", ["tibt", "tibetan"]),
    ("Tirh", ["tirh", "tirhuta"]),
    ("Tnsa", ["tnsa", "tangsa"]),
    ("Toto", ["toto"]),
    ("Ugar", ["ugar", "ugaritic"]),
    ("Vaii", ["vaii", "vai"]),
    ("Vith", ["vith", "vithkuqi"]),
    ("Wara", ["wara", "warangciti"]),
    ("Wcho", ["wcho", "wancho"]),
    ("Xpeo", ["xpeo", "oldpersian"]),
    ("Xsux", ["xsux", "cuneiform"]),
    ("Yezi", ["yezi", "yezidi"]),
    ("Yiii", ["yiii", "yi"]),
    ("Zanb", ["zanb", "zanabazarsquare"]),
    ("Zinh", ["zinh", "inherited", "qaai"]),
    ("Zyyy", ["zyyy", "common"]),
    ("Zzzz", ["zzzz", "unknown"])]

end DeclTree.Text
