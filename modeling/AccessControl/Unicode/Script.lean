import AccessControl.Unicode.Table

/-!
# Scripts

The script of every character in version 16 of Unicode, and the scripts that a character is used in.
-/
namespace AccessControl.Unicode

/-- The scripts. Every character is in one of them at most. -/
def scripts : Table := [
  ⟨["adlm", "adlam"], ["Zbd6XD3931"]⟩,
  ⟨["aghb", "caucasianalbanian"], ["XcmSWKA0"]⟩,
  ⟨["ahom"], ["Xhf0Q1E3M"]⟩,
  ⟨["arab", "arabic"], [
    "WnH4050D020W009AP0YE0W2XHWGcMU014XC0SXXm0YLFgL1XH1WM60W0FYI40ZAZY1UX42WN3WxhG30Q01001009030000503000000201",
    "00100000000001001306030300090G42040GWK1"]⟩,
  ⟨["armi", "imperialaramaic"], ["Xdh6L08"]⟩,
  ⟨["armn", "armenian"], ["WgRW61WI12XYhD4"]⟩,
  ⟨["avst", "avestan"], ["XeYSWM26"]⟩,
  ⟨["bali", "balinese"], ["caUXE0WI"]⟩,
  ⟨["bamu", "bamum"], ["Wih0XPWpi1nA"]⟩,
  ⟨["bass", "bassavah"], ["YYp4T15"]⟩,
  ⟨["batk", "batak"], ["ch5WK73"]⟩,
  ⟨["beng", "bengali"], ["XlE307111L0600231811137031041O"]⟩,
  ⟨["bhks", "bhaiksuki"], ["Xip980WD0D9S"]⟩,
  ⟨["bopo", "bopomofo"], ["t21hdKWBYIW0"]⟩,
  ⟨["brah", "brahmi"], ["Xfj6XF3W480"]⟩,
  ⟨["brai", "braille"], ["fpAd7"]⟩,
  ⟨["bugi", "buginese"], ["bxMR11"]⟩,
  ⟨["buhd", "buhid"], ["bb0J"]⟩,
  ⟨["cakm", "chakma"], ["XfrEWL0H"]⟩,
  ⟨["cans", "canadianaboriginal"], ["af5pJn1X7Xbp9F"]⟩,
  ⟨["cari", "carian"], ["XbwNWH"]⟩,
  ⟨["cham"], ["WjdRWN8D1913"]⟩,
  ⟨["cher", "cherokee"], ["ac2XN15WefJXH"]⟩,
  ⟨["chrs", "chorasmian"], ["XfgJR"]⟩,
  ⟨["copt", "coptic", "qaac"], ["WW2DftTYM46"]⟩,
  ⟨["cpmn", "cyprominoan"], ["XnvQY5"]⟩,
  ⟨["cprt", "cypriot"], ["Xdf45100WC012010"]⟩,
  ⟨["cyrl", "cyrillic"], ["WX1Z81aDbbFAa40XD0ZgDW0WWW0Y2sf01Wyb9WUW10"]⟩,
  ⟨["deva", "devanagari"], ["XhAXI3E1PWgj3W0zgC9"]⟩,
  ⟨["diak", "divesakuru"], ["XhvG61017010T011B89"]⟩,
  ⟨["dogr", "dogra"], ["Xhn8WS"]⟩,
  ⟨["dsrt", "deseret"], ["Xcd3XH"]⟩,
  ⟨["dupl", "duployan"], ["YudIYD4C286913"]⟩,
  ⟨["egyp", "egyptianhieroglyphs"], ["XnzEWZO9ZZQ"]⟩,
  ⟨["elba", "elbasan"], ["XclBW8"]⟩,
  ⟨["elym", "elymaic"], ["Xfi5M"]⟩,
  ⟨["ethi", "ethiopic"], ["ZtKXA031600031W9031W1031600031E0WP031X41W02PbwQM8606060606060606WXfA515158606Xrg7603010E"]⟩,
  ⟨["gara", "garay"], ["XerFW62S71"]⟩,
  ⟨["geor", "georgian"], ["Zi9W600401WB03YXEWB12Zf5W60040"]⟩,
  ⟨["glag", "glagolitic"], ["grBY2YsWC60G160104"]⟩,
  ⟨["gong", "gunjalagondi"], ["XjVK5010W5010569"]⟩,
  ⟨["gonm", "masaramgondi"], ["XixH6010WC20010879"]⟩,
  ⟨["goth", "gothic"], ["XcWCQ"]⟩,
  ⟨["gran", "grantha"], ["XgcU307111L0601041811121050461624"]⟩,
  ⟨["grek", "greek"], ["xC3021300300002000J0X0DFbqK4WI434XL0f9L151W615170000000U1WL0E0D150I1208eF0WauI0rvTXGG0WtkMX7"]⟩,
  ⟨["gujr", "gujarati"], ["XtN208020L06010419020210E31B66"]⟩,
  ⟨["gukh", "gurungkhema"], ["YWW3WQ"]⟩,
  ⟨["guru", "gurmukhi"], ["XpJ205311L06010101100431122063006G"]⟩,
  ⟨["hang", "hangul"], ["ZlCd7dW61d8Y0YJUX2UWVpLSpMgoBBM3WHfmAU25151512"]⟩,
  ⟨["hani", "han"], ["hh0P0XQBbRWF000O8D3WV2bvJX1qv4sqTgO1YCWVaD1B1WcgIWij1W0ZeU5c41azQDct1Ep1XmGmEWmHaZ94Zg6"]⟩,
  ⟨["hano", "hanunoo"], ["bZUK"]⟩,
  ⟨["hatr", "hatran"], ["XdmBI0144"]⟩,
  ⟨["hebr", "hebrew"], ["WjUWN7Q35XYeFP0400010109"]⟩,
  ⟨["hira", "hiragana"], ["hvFXN52YeYTe7H0S2mc20"]⟩,
  ⟨["hluw", "anatolianhieroglyphs"], ["XteJnO"]⟩,
  ⟨["hmng", "pahawhhmong"], ["YYqLX799060K4I"]⟩,
  ⟨["hmnp", "nyiakengpuachuehmong"], ["ZZZ4WD2D1931"]⟩,
  ⟨["hung", "oldhungarian"], ["Xel9WJCWJ65"]⟩,
  ⟨["ital", "olditalic"], ["XbzQW482"]⟩,
  ⟨["java", "javanese"], ["WjZNXF1931"]⟩,
  ⟨["kali", "kayahli"], ["WjVJWE00"]⟩,
  ⟨["kana", "katakana"], ["hyIXR12cMFbLWF0XPWsg290WDWkz13060100e72WI0D3"]⟩,
  ⟨["kawi"], ["Xjj2G0W92S"]⟩,
  ⟨["khar", "kharoshthi"], ["XdvK30147020S123968"]⟩,
  ⟨["khmr", "khmer"], ["bd2Y01959kKW0"]⟩,
  ⟨["khoj", "khojki"], ["XfzMH0WF"]⟩,
  ⟨["kits", "khitansmallscript"], ["YaV20cbPk4W90"]⟩,
  ⟨["knda", "kannada"], ["Yf7C020M09041802036151031902"]⟩,
  ⟨["krai", "kiratrai"], ["YZe8WQ"]⟩,
  ⟨["kthi", "kaithi"], ["XfnAX490"]⟩,
  ⟨["lana", "taitham"], ["byNX00S1A595D"]⟩,
  ⟨["laoo", "lao"], ["YvO100040N000M1400060913"]⟩,
  ⟨["latn", "latin"], [
    "X3P5PWF0E04M0U0jEW74byHW65WH434C0X7X2d7gR0C0FCZG150Q0GW9XwFW0WWpLY82X4110007KDv9WB0803qb66WXQP5PXa750WA08W",
    "vfLU55"]⟩,
  ⟨["lepc", "lepcha"], ["cj7WO2E22"]⟩,
  ⟨["limb", "limbu"], ["bpEU0B3B302B"]⟩,
  ⟨["lina", "lineara"], ["XctJf08L97"]⟩,
  ⟨["linb", "linearb"], ["Xbb2B0P0I010E1DW2YT"]⟩,
  ⟨["lisu"], ["Whx1WGWWq40"]⟩,
  ⟨["lyci", "lycian"], ["XbvMS"]⟩,
  ⟨["lydi", "lydian"], ["XdoDP40"]⟩,
  ⟨["mahj", "mahajani"], ["Xfu1W7"]⟩,
  ⟨["maka", "makasar"], ["Xji1O"]⟩,
  ⟨["mand", "mandaic"], ["Xb4R10"]⟩,
  ⟨["mani", "manichaean"], ["XeWQW73B"]⟩,
  ⟨["marc", "marchen"], ["XisSW01L0D"]⟩,
  ⟨["medf", "medefaidrin"], ["YZmGXS"]⟩,
  ⟨["mend", "mendekikakui"], ["ZazTbA1F"]⟩,
  ⟨["merc", "meroiticcursive"], ["XdsHN3J1WE"]⟩,
  ⟨["mero", "meroitichieroglyphs"], ["XdrGW0"]⟩,
  ⟨["mlym", "malayalam"], ["YjBC020WJ02053F1P"]⟩,
  ⟨["modi"], ["XhWNX6A9"]⟩,
  ⟨["mong", "mongolian"], ["bh61100J5XQ6WBXan3C"]⟩,
  ⟨["mroo", "mro"], ["YYkFU0931"]⟩,
  ⟨["mtei", "meeteimayek"], ["Wjl3MbEWE19"]⟩,
  ⟨["mult", "multani"], ["XgYQ600030E0A"]⟩,
  ⟨["mymr", "myanmar"], ["Zd4a4WeuGUY3W0xvDJ"]⟩,
  ⟨["nagm", "nagmundari"], ["ZaZJWA"]⟩,
  ⟨["nand", "nandinagari"], ["XiVL71WE1A"]⟩,
  ⟨["narb", "oldnortharabian"], ["XdzOW0"]⟩,
  ⟨["nbat", "nabataean"], ["Xdj8U78"]⟩,
  ⟨["newa"], ["Xgl7XT04"]⟩,
  ⟨["nkoo", "nko"], ["XX0WR12"]⟩,
  ⟨["nshu", "nushu"], ["YZzU0mjAhN"]⟩,
  ⟨["ogam", "ogham"], ["azPS"]⟩,
  ⟨["olck", "olchiki"], ["clPWG"]⟩,
  ⟨["onao", "olonal"], ["ZahRWB30"]⟩,
  ⟨["orkh", "oldturkic"], ["Xeh5XA"]⟩,
  ⟨["orya", "oriya"], ["XxR207111L0601041811126231041H"]⟩,
  ⟨["osge", "osage"], ["XciOW43W4"]⟩,
  ⟨["osma", "osmanya"], ["Xch7T19"]⟩,
  ⟨["ougr", "olduyghur"], ["XfeHP"]⟩,
  ⟨["palm", "palmyrene"], ["Xdi7W0"]⟩,
  ⟨["pauc", "paucinhau"], ["XieUWP"]⟩,
  ⟨["perm", "oldpermic"], ["XcXDWB"]⟩,
  ⟨["phag", "phagspa"], ["WiuDWO"]⟩,
  ⟨["phli", "inscriptionalpahlavi"], ["Xec0I47"]⟩,
  ⟨["phlp", "psalterpahlavi"], ["Xed1H63B6"]⟩,
  ⟨["phnx", "phoenician"], ["XdnCR20"]⟩,
  ⟨["plrd", "miao"], ["YZsMXC3WP6G"]⟩,
  ⟨["prti", "inscriptionalparthian"], ["XeaUL17"]⟩,
  ⟨["rjng", "rejang"], ["WjX5W4A0"]⟩,
  ⟨["rohg", "hanifirohingya"], ["XepDW879"]⟩,
  ⟨["runr", "runic"], ["bVQXC2A"]⟩,
  ⟨["samr", "samaritan"], ["XZ2WE1E"]⟩,
  ⟨["sarb", "oldsoutharabian"], ["XdyNW0"]⟩,
  ⟨["saur", "saurashtra"], ["WiwFX77B"]⟩,
  ⟨["sgnw", "signwriting"], ["ZWrPq0E40E"]⟩,
  ⟨["shaw", "shavian"], ["XcfLWG"]⟩,
  ⟨["shrd", "sharada"], ["XfvIY2"]⟩,
  ⟨["sidd", "siddham"], ["XgxJWM1W6"]⟩,
  ⟨["sind", "khudawadi"], ["XgaCWR49"]⟩,
  ⟨["sinh", "sinhala"], ["YnG20H2N080016203500075912XccDJ"]⟩,
  ⟨["sogd", "sogdian"], ["XfcFWA"]⟩,
  ⟨["sogo", "oldsogdian"], ["XfaTW8"]⟩,
  ⟨["sora", "sorasompeng"], ["XfpSO69"]⟩,
  ⟨["soyo", "soyombo"], ["XibBXK"]⟩,
  ⟨["sund", "sundanese"], ["cf3X1d77"]⟩,
  ⟨["sunu", "sunuwar"], ["Xin7W2D9"]⟩,
  ⟨["sylo", "sylotinagri"], ["WisBWD"]⟩,
  ⟨["syrc", "syriac"], ["WvPD0WS12dNA"]⟩,
  ⟨["tagb", "tagbanwa"], ["bc1C0201"]⟩,
  ⟨["takr", "takri"], ["XhaRWQ59"]⟩,
  ⟨["tale", "taile"], ["bs1T14"]⟩,
  ⟨["talu", "newtailue"], ["btIWC3P5A21"]⟩,
  ⟨["taml", "tamil"], ["YX1105220321000121222B3422031050DKXgj9WIC0"]⟩,
  ⟨["tang", "tangut"], ["YZzT0UbgS7tNlF8"]⟩,
  ⟨["tavt", "taiviet"], ["Wji0X4N4"]⟩,
  ⟨["telu", "telugu"], ["Yb3C020M0F180203610210131968"]⟩,
  ⟨["tfng", "tifinagh"], ["hW5WO61D0"]⟩,
  ⟨["tglg", "tagalog"], ["bYTL80"]⟩,
  ⟨["thaa", "thaana"], ["WzTWI"]⟩,
  ⟨["thai"], ["YrKWQ4R"]⟩,
  ⟨["tibt", "tibetan"], ["YzRX90W43W70W40E0631"]⟩,
  ⟨["tirh", "tirhuta"], ["XgpBX979"]⟩,
  ⟨["tnsa", "tangsa"], ["YYm1XG09"]⟩,
  ⟨["todr", "todhri"], ["XcrHWK"]⟩,
  ⟨["toto"], ["ZZm1U"]⟩,
  ⟨["tutg", "tulutigalari"], ["Xgh3900100W609001003090171"]⟩,
  ⟨["ugar", "ugaritic"], ["XcYUT00"]⟩,
  ⟨["vaii", "vai"], ["WhyIeK"]⟩,
  ⟨["vith", "vithkuqi"], ["XcoUA0E06010A0E0601"]⟩,
  ⟨["wara", "warangciti"], ["XhsDXKB0"]⟩,
  ⟨["wcho", "wancho"], ["ZZnIWQ40"]⟩,
  ⟨["xpeo", "oldpersian"], ["Xca0W43D"]⟩,
  ⟨["xsux", "cuneiform"], ["XjrAyMY8YH04Ab9"]⟩,
  ⟨["yezi", "yezidi"], ["XfWPWA0211"]⟩,
  ⟨["yiii", "yi"], ["Wgo9WbH2WN"]⟩,
  ⟨["zanb", "zanabazarsquare"], ["XiYOX9"]⟩,
  ⟨["zinh", "inherited", "qaai"], ["tOYIdS1jHAP0sM3Zo9UlG20C06305021bBX1lR1b7W1ZWL3YD1Wsr4FFDWVD0c80Zg00WoVHWE1MmG2G716T3vtyGcM"]⟩,
  ⟨["zyyy", "common"], [
    "0X2P5PWF0E04M0U0jEW7441JYM0805000pG050D020W00a00lJ0Z41We00i13eA0WmU2X81bG100WdJ0C063050210tSB1XO0A2A0EGW1X",
    "0W602150Q0GW923qELAKySd7p71W00YBlFY0hTK000OE733XS120XR1ZMFW0W680WGX1UXIWF0XPaCbvJX1sqTW2Y82a99cQ0a40hM0D1q",
    "tK1bL9LW30I03ZM00W0P5PA90WD1X160694d923WD28XHCWJWDcAQWnj03ZXPd15j1a0YMWScS9W71WU2G716T3WTbQJBJBXO8OZAXM0X8",
    "011011130B00060X20317060R030400260fT1eC1WIaiOX5XDWTrNWC3Y6BE1E0E0W59aIWOP01CWC3861D5ZTWVM3G2C2YP3Y15B30EB3",
    "WO795W87T1B31WUfTBD1C294WO6E1A586ZM0Y8vii00TY2"]⟩]

/-- The characters that are used in a script, where they are not just those of the script. -/
def sharedScripts : Table := [
  ⟨["adlm", "adlam"], ["WoH0W00by40Yr30Yty5XD3931"]⟩,
  ⟨["aghb", "caucasianalbanian"], ["tS0WC0WC0Xbq1WKA0"]⟩,
  ⟨["arab", "arabic"], [
    "WnH40bS0W2XHWGcMU014XC0SbbE0Yr30WsoAYLFjA1WM60W0FYI40ZAWW2RYW1UX42WN3WxhG30Q010010090300005030000002010010",
    "0000000001001306030300090G42040GWK1"]⟩,
  ⟨["armn", "armenian"], ["u10mOW61WI12XYhD4"]⟩,
  ⟨["avst", "avestan"], ["aS0hYE1WwuCWM26"]⟩,
  ⟨["beng", "bengali"], ["rI0Ws91G1P307111L0600231811137031041OaVB00011007070103012WbdR0"]⟩,
  ⟨["bopo", "bopomofo"], ["rT002C0F1hV82390C931050b808WBYIW0WsjS1e24"]⟩,
  ⟨["bugi", "buginese"], ["bxMR11WcdG0"]⟩,
  ⟨["buhd", "buhid"], ["baK18J"]⟩,
  ⟨["cakm", "chakma"], ["XoN9Wq39XbgSWL0H"]⟩,
  ⟨["cari", "carian"], ["aS0di6010Yq40Wun7WH"]⟩,
  ⟨["cher", "cherokee"], ["tO20051L1A1ZgKXN15WefJXH"]⟩,
  ⟨["copt", "coptic", "qaac"], ["aS0nP02100YE1YEDftTYM46dU0Wuq4R"]⟩,
  ⟨["cpmn", "cyprominoan"], ["XbjA1hhDY5"]⟩,
  ⟨["cprt", "cypriot"], ["XbjA23WD28WtM5100WC012010"]⟩,
  ⟨["cyrl", "cyrillic"], ["rI0X420000001040cKeObbFAa40XD0Z20Zc9W0X40WVyPY2sf01Wyb9WUW10"]⟩,
  ⟨["deva", "devanagari"], ["rI0WpLXK1WBaZEW701WWL0WaVQ9aAW0zgC9"]⟩,
  ⟨["dogr", "dogra"], ["XkHBWgdT9yt0WS"]⟩,
  ⟨["dupl", "duployan"], ["aS0o1100N1gjP0YhyMYD4C286917"]⟩,
  ⟨["elba", "elbasan"], ["aS0nU0XbrBW8"]⟩,
  ⟨["ethi", "ethiopic"], ["u70YzBXA031600031W9031W1031600031E0WP031X41W02PbwQM8606060606060606WXfA515158606Xrg7603010E"]⟩,
  ⟨["gara", "garay"], ["WnT0D020XdXRW62S71"]⟩,
  ⟨["geor", "georgian"], ["aS0WdN0XyGW600401WGYXEWB12yM0YgCW60040dA0"]⟩,
  ⟨["glag", "glagolitic"], ["aS0nS000h9010d80YWE0ZXR0YY4Y2kH0WWVA0XqlC60G160104"]⟩,
  ⟨["gong", "gunjalagondi"], ["aS0XeI1Xgl05010W5010569"]⟩,
  ⟨["gonm", "masaramgondi"], ["XkH1XghS6010WC20010879"]⟩,
  ⟨["goth", "gothic"], ["aS0nT110W80XbaUQ"]⟩,
  ⟨["gran", "grantha"], ["XjT1G1pJDZk6001T221WWL0XXjS307111L0601040911121050461624Ye0100"]⟩,
  ⟨["grek", "greek"], [
    "aS0nP110000090WE010WA71300300002000J0X0DFbqK4WI434XL2f7L151W615170000000U1WL0E0D150I1208Y00bD0WauI0rvTXGG0",
    "WtkMX7"]⟩,
  ⟨["gujr", "gujarati"], ["XjT1G1e3208020L06010419020210E31B66Wfw19"]⟩,
  ⟨["gukh", "gurungkhema"], ["XkI0XylEWQ"]⟩,
  ⟨["guru", "gurmukhi"], ["XjT1G1ZU205311L06010101100431122063006GWgVE9"]⟩,
  ⟨["hang", "hangul"], ["ZlCd7czN2390CD250b80WLY0YJUX2UWVpLSpMgoBBM3WHfb41e24WQU25151512"]⟩,
  ⟨["hani", "han"], [
    "aS0hb1P0XQBbRPF020C0C0C1058b00ZNFW0W680WGW8WOWHEBWJ0XPO94Y2U0bvJX1qv4WvO7quRgO1YCx61e24yyR1B1vk2HdbR1YoTWi",
    "j1W0ZeU5c41azQDct1Ep1XmGmEWmHaZ94Zg6"]⟩,
  ⟨["hano", "hanunoo"], ["bZUM"]⟩,
  ⟨["hebr", "hebrew"], ["u01pRWN7Q35XYeFP0400010109"]⟩,
  ⟨["hira", "hiragana"], ["htD2390CF500312XN17XR1Wsq61e2490WD1WkzGe7H0S2mc20"]⟩,
  ⟨["hung", "oldhungarian"], ["do5010Yq40E0Wxb8WJCWJ65"]⟩,
  ⟨["java", "javanese"], ["WjZNXF0A31"]⟩,
  ⟨["kali", "kayahli"], ["WjVJWG"]⟩,
  ⟨["kana", "katakana"], ["tT0S0gyE2390CF50031XS32Y2cMFbLWF0XPWsWN1e2X0WkyU3060100e72WI0D3"]⟩,
  ⟨["khoj", "khojki"], ["Xx09WfwH9xaEH0WF"]⟩,
  ⟨["knda", "kannada"], ["XjT1G1uIC020M09041802036151031902ZbT00150M000WbXN5"]⟩,
  ⟨["kthi", "kaithi"], ["XkJ9etF0WWkC9wt2X490"]⟩,
  ⟨["latn", "latin"], [
    "X3P5PWF0B0104M0U0jE20900200800054QE0100E26101W60403CdS1WdG1XW60Yb6W65WH434C0X7WP06d7eN0X20C0FCXK0WP150Q0GW",
    "9XwFW0i30WWbD7PY82X4110007KDeM0lGWB0803qb66WXQP5PXa750WA08WvfLU55"]⟩,
  ⟨["limb", "limbu"], ["XkI0ZZPU0B3B302B"]⟩,
  ⟨["lina", "lineara"], ["XbjHWDWdIf08L97"]⟩,
  ⟨["linb", "linearb"], ["Xbb2B0P0I010E1DW2YT423WD28"]⟩,
  ⟨["lisu"], ["rI0F0hWG1WVY7WGWWq40"]⟩,
  ⟨["lyci", "lycian"], ["do50WycFS"]⟩,
  ⟨["lydi", "lydian"], ["aS0hYF0WweSP40"]⟩,
  ⟨["mahj", "mahajani"], ["aS0XeIBWgdT9wzOW7"]⟩,
  ⟨["mand", "mandaic"], ["WpJ0lER10"]⟩,
  ⟨["mani", "manichaean"], ["WpJ0Xch5W73B"]⟩,
  ⟨["mero", "meroitichieroglyphs"], ["do80XVY6W0"]⟩,
  ⟨["mlym", "malayalam"], ["XjT1G1yMC020WJ02053F1PZXN0M0WbXP2"]⟩,
  ⟨["modi"], ["WitS9ycFX6A9"]⟩,
  ⟨["mong", "mongolian"], ["bh6P5XQ6WBXV10ZbI143Wzg1C"]⟩,
  ⟨["mult", "multani"], ["XsR9XdfJ600030E0A"]⟩,
  ⟨["mymr", "myanmar"], ["Zd4a4WeoO0aLUY3W0xvDJ"]⟩,
  ⟨["nand", "nandinagari"], ["XjT0H1xR9ZcR07060WbXH5zbH71WE1A"]⟩,
  ⟨["newa"], ["XjT1ab200180500000XYu9XT04"]⟩,
  ⟨["nkoo", "nko"], ["WnT0D020iCWR12XYf61"]⟩,
  ⟨["onao", "olonal"], ["XkH1ZXx7WB30"]⟩,
  ⟨["orkh", "oldturkic"], ["do50Yq60WxXLXA"]⟩,
  ⟨["orya", "oriya"], ["XjT1G1i7207111L0601041811126231041HZoG0M0"]⟩,
  ⟨["osge", "osage"], ["tP01050XD0Xbm3W43W4"]⟩,
  ⟨["ougr", "olduyghur"], ["WpJ0XciO0Wb1P"]⟩,
  ⟨["perm", "oldpermic"], ["aS0nP04290gP0Xaw3WB"]⟩,
  ⟨["phag", "phagspa"], ["bh8100XaB0ZbJ0WWVSWO"]⟩,
  ⟨["phlp", "psalterpahlavi"], ["WpJ0XcnBH63B6"]⟩,
  ⟨["rohg", "hanifirohingya"], ["WnT0D020W00ZM0XcuUW879"]⟩,
  ⟨["runr", "runic"], ["bVQXQ"]⟩,
  ⟨["samr", "samaritan"], ["XZ2WE1EfYA0"]⟩,
  ⟨["shaw", "shavian"], ["aS0XcZMWG"]⟩,
  ⟨["shrd", "sharada"], ["XjT0ab500011108010WbXU510xWBY2"]⟩,
  ⟨["sind", "khudawadi"], ["XkH1Wge89xg4WR49"]⟩,
  ⟨["sinh", "sinhala"], ["XkH1WXR20H2N080016203500075912YzN0XYcJJ"]⟩,
  ⟨["sogd", "sogdian"], ["WpJ0XdmPWA"]⟩,
  ⟨["sunu", "sunuwar"], ["tO1008010R020XhrPW2D9"]⟩,
  ⟨["sylo", "sylotinagri"], ["XkH1Z39WgY8WD"]⟩,
  ⟨["syrc", "syriac"], ["tR11100N26101sG0D110W009AP0ZID0WS12dNAarT000"]⟩,
  ⟨["tagb", "tagbanwa"], ["baK1W9C0201"]⟩,
  ⟨["takr", "takri"], ["XkH1Wge89ygJWQ59"]⟩,
  ⟨["tale", "taile"], ["tO14120YkU9XhFT14"]⟩,
  ⟨["taml", "tamil"], ["XjT1G1mC105220321000121222B3422031050DKZk90WbeR0xcN000WN1Yf9WIC0"]⟩,
  ⟨["tang", "tangut"], ["hsRFkT0XrqG0UbgS7tNlF8"]⟩,
  ⟨["telu", "telugu"], ["XjT1G1qEC020M0F180203610210131968ZfQ10000M0"]⟩,
  ⟨["tfng", "tifinagh"], ["tQ00003O0gb6WO61D0"]⟩,
  ⟨["tglg", "tagalog"], ["bYTL80K1"]⟩,
  ⟨["thaa", "thaana"], ["WnT0D110X19dTWIXYnG090"]⟩,
  ⟨["thai"], ["rI0P0WB0WD0Xw7WQ4R"]⟩,
  ⟨["tibt", "tibetan"], ["YzRX90W43W70W40E0631dmL3"]⟩,
  ⟨["tirh", "tirhuta"], ["XjT1G1aaE0B0E0WbXP9xv3X979"]⟩,
  ⟨["todr", "todhri"], ["tP010108000XB0XbuLWK"]⟩,
  ⟨["toto"], ["rI0ZYuCU"]⟩,
  ⟨["tutg", "tulutigalari"], ["YiG9Zd5000WbXN5b00xgS900100W609001003090171"]⟩,
  ⟨["yezi", "yezidi"], ["WnT0D020X19XdfPWA0211"]⟩,
  ⟨["yiii", "yi"], ["htD14917c50ymNWbH2WNtZ54"]⟩,
  ⟨["zinh", "inherited", "qaai"], ["u80100E26101F010H0403Wn01Zo9UtAWM0004lR1b7W0WwwGFFDWVD0WsnTWE1MmG2G716T3vtyGcM"]⟩,
  ⟨["zyyy", "common"], [
    "0X2P5PWF0B0104M0U0jE2090020080005441JZ105000pG0bS0lJ0Wi70i13ZeBB1W10U0901060A2A0EGW1X0W602150Q0GW923qELAKy",
    "Sd7p71W00YBlFM0N1903000PiE020C0C0K0m1NU0WHEB3a594Y2U0bvJX1sr6PY82WVE0D1rVD9LK1B0I03ZM00W0P5P5Z260694hTCWJW",
    "DWru6d15j1a0YMWScS9W71WU2G716T3WTbQJBJBXOQ6ZAXM0X8011011130B00060X20317060R030400260fT1eC1WIaiOX5XDWTrNWC3",
    "Y6BE1E0E0W59aIWOP01CWC38M5ZTWVM3G2C2YP3Y15B30EB3WO795W87T1B31WUfTBD1C294WO6E1A586ZM0Y8vii00TY2"]⟩]

/-- The characters that are used in a script. -/
def scriptExtension? (name : String) : Option Text.CharSet :=
  (sharedScripts.find? name).or (scripts.find? name)

end AccessControl.Unicode
