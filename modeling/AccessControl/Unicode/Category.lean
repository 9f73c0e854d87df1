import AccessControl.Unicode.Table

/-!
# General categories

The general category of every character in version 16 of Unicode. Categories are joined to groups, such as all letters.
-/
namespace AccessControl.Unicode

open Text (CharSet)

/-- The general categories. Every character is in just one of them. -/
def categories : Table := [
  ⟨["lu", "uppercaseletter"], [
    "X3PY7M06W1000000000000000000000000000000000000000000000000000000010000000000000001000000000000000000000000",
    "0000000000000000000000100002100010213010221010000010010010200012060101010000000000000001000000000000000001",
    "0100200000000000000000000000000000000000000000000000000000000006101100300000000e90002070500200010G08W30122",
    "000000000000000000000004010011WJWG000000000000000000000000000000000800000000000000000000000000000000000000",
    "0000000000000000100000000000010000000000000000000000000000000000000000000000000000000000000000000000000000",
    "00000000000000000001W6YV5W60040s8XNXdO05WB12f9000000000000000000000000000000000000000000000000000000000000",
    "0000000000000000000000000000000000000000000000000000000000000000000000000000000000000000080000000000000000",
    "0000000000000000000000000000000000000000000000000000000000000000000000000000000008775977775A000000077X93B3",
    "B3B4A3dD0302212102450000003139140WT0XtHWGWG002100000030010720000000000000000000000000000000000000000000000",
    "0000000000000000000000000000000000000000000000000000700030WWeL00000000000000000000000000000000000000000000",
    "0I000000000000000000000000000ZA000000000000020000000000000000000000000000000000000000000000000000000000000",
    "9000010000000030001000200000000000000000000404000000000000000300012040000000N0sbPPWdBW8ZBW4a0A0E0601Wv2WJa",
    "1LXzLW0rt1W0wX6PPPPPP00110111307PPP1031706Q103040026QPPPPPPPPPPPTOW1OW1OW1OW1OW10Zn2W2"]⟩,
  ⟨["ll", "lowercaseletter"], [
    "Y4PWQ0W9N0700000000000000000000000000000000000000000000000000000001000000000000000100000000000000000000000",
    "0000000000000000000000010000210001021301022101000001001001020001112501010000000000000000100000000000000000",
    "11000200000000000000000000000000000000000000000000000000000000006101100300000000X60Qb60002022H0QW301220000",
    "00000000000000000004001011WJWG0000000000000000000000000000000000800000000000000000000000000000000000000000",
    "0000000000001000000000000100000000000000000000000000000000000000000000000000000000000000000000000000000000",
    "0000000000000000WGW9YV3WB12tF5Xd7800YNWCX0C0W2Y80000000000000000000000000000000000000000000000000000000000",
    "0000000000000000000000000000000000000000000000000000000000000000000000000000000000000000008000000000000000",
    "000000000000000000000000000000000000000000000000000000000000000000000000000000000087597777597777D177777740",
    "15022017311779201dP02120Q03030117330WL0Xv2WG00210000003001054000000000000000000000000000000000000000000000",
    "000000000000000000000000000000000000000000000000000001600030BW60040WWcP00000000000000000000000000000000000",
    "0000000000I000000000000000000000000000ZA000000000000200000000000000000000000000000000000000000000000000000",
    "00000000007000010000000003000100200000000000000000000404000000000000000300010200000000000P020vEWB486XHqYD6",
    "B4WYAPWdJW8ZBW4ZUA0E0601WvRWJZ0LXzLW0rt1W0wX0PP60HPPP300060APPPPPPPPPPPPPPPPPRRO05PO05PO05PO05PO0500WxE90J",
    "55Xp8W2"]⟩,
  ⟨["lt", "titlecaseletter"], ["jJ01010W60cw877777B0E0WF0"]⟩,
  ⟨["lm", "modifierletter"], [
    "r6H3BD46000Z8040kC0cC0a81dK130U08020a40aB0WdQ0Z20n60WuH0YD0oL0jT5aIX0C0W2W5r60C0FCYa01cN0b40k30WB440Y31XU2",
    "ynA0We95dL0YK0R1YR8XH0M0YB221k30L0ZC0YE0K1Y9380rgQ0WD1XY050WA08Wk00W00tzL3lB2W81mMCX1100mWR30601huTWUbE6zA",
    "0Wa20"]⟩,
  ⟨["lo", "otherletter"], [
    "aF0E0d7033bL0vKQ33WDW009W310Y500N19210F00TSXQA0NW1KLWAO6A4N05GW9WRWM20H069FE37111L06002320F0C102D19075311L",
    "06010101U300I2F8020L06010420H0E1M0A7111L06010420T102E0G005220321000121222BL0WK7020M0F20P21011T037020M09042",
    "0U101E1G8020W910F04272N54H2N080016WQWG01B5WR100040N0009018014M3W00X070W4Q4YLWBJ0F5332021623CB0YJfI03160003",
    "1W9031W1031600031E0WP031X4W5FYJoU1G0P4XC576HCIDHDC02EWKW80X4W30WL641W2004X79UWHT14AWC3PWMM8WLaKWFG7WMTC19W",
    "CPW4W929TYJ3050120WYR3YaOWONM8606060606060606mN0WL03XN700XR304WB0Y0GW0WGFlFbvJX1qvP0WaQX4W87dJ3F91X30WHX7a",
    "D0Y902602030MSWKDWIWU52001AR9MOS6WFWD418940W9M207JF05202WI0021141000N12A60D515158606ZKW3SgoBBM3WHdtJgO1YCX",
    "40090C040001010YEW1gLHX11WMW8BYM40ZAYB90WD1U25151512W3B0P0I010E1DW2YThGS2WHWFW0CJ075W69T1W437Z3XFY4W87WKXT",
    "WKBf08L97ZR5100WC01201M9M8UX2I019L9PX7WO51X10E3020SWAS2SW370RQWM9L9ICHYGXAaRW4W6300eOWA51F2WRS907LWAHWEKQM",
    "BWLWP110CWDW0OPW4S0107W320BWGD3K000W3H0OI1X0600030E096WFW67111L06010420H0B4T900100W600O000WCWLH3J2TWGJ100a",
    "SWFW93W4WGJ0WRWBC0X8QW56aTWCbO71017010NE000Y071W7F000R09W860K0AWEI0HXAbCW1U80W5G0WHTYI6010W6K0O5010W0D0fGI",
    "E00C0W2YU0XGyMcCb9Xs0Y3EWYHG5OZZQ4nOcYKTWuPnA6UGXGGTHWGWJK4Ij0W8i1XC40aJbgS7WdSW99eeMeBE0S210D37hNXhDYD4C2",
    "869eaB0l4WDW10fATHWCkIQcBT10kT603010E0bAWh530Q0100100903000050300000020100100000000001001306030300090G4204",
    "0GZnHWij1W0ZeU5c41azQDct1Ep1XmGmEWmHaZ94Zg6"]⟩,
  ⟨["mn", "nonspacingmark"], [
    "tOYIdQ4dGWD00010100X9AWGKF0Y76151103W30TQXSAWQ880N3080204WB2WR8WAN0W0WN00037302691S0WQ03370J1P011WP0313112",
    "20T120A1WP0340130J1L500WQ010037061A1T0WT0B0WI020WN002420361A1S0WQ0105041J1R1WP13370J1S0X906200XR016B7Y4018",
    "A6XA1Q00000WND04014A0W480Y83050111O132F3C01150E0rK2zF2S1T1T1X1106701A80WD200YN1W20YO2318052c1110WQ00600001",
    "75910WGD0FWH3WG0040040W88B1W031102WO0012002WQ711ZR20C06305021bBX1s6C302BYb02ZG0Y2W0mQ3YD1WVh0039W01XH1dN02",
    "030O140ZQ1PHC0W67OAWE2WG01311W70X451111B070WF0WJ002114100WA170cK01030qXS0sNFFFWVB0c80ZO4WrQ20143W8230a91nE",
    "3X24f61XG3X7AWH3YT0WMEW901192WH31160WT2W4407WU0B1WK89310Y1210015010a1027K1WP120W5624X75C00000D1XM71200M0XL",
    "5003101cK35101Q1XM71001YC0001500Y70001304dA801d710030ZJ31130W09W8513708512WEC01i260500XJL160101YS520010600",
    "X912000g51A1WK44000M0amG05EgxOB22XnF4WR6WXO0X03XI0piG1ZwNWE1MmG2G716T3ZN2XWPWN3WI70D0L40EWhQ60G160104Y60a4",
    "6h20WT3lB3d51sM6YF6vnpGcM"]⟩,
  ⟨["mc", "spacingmark"], [
    "XhD0WN0127301WI1WQ2511190WB0WQ2X30WQ27001WL1WQ000511190Y8101220290W92WT3WT1WQ004110181R0D1WQ2420290WA1XC25",
    "7H1fJ1X00aF1305011O19216K1151092WrC0T0Z406701g43123105c61WQ000800175ZK0WG0400401WT0T03110WS0120021WG771aF0",
    "K0aYJ1WVyG110XP1WIFZH1WF0WG13112YG111N0WD000YF01140cJ1010100vpC000Z20WD231YL0N1WR0WG281C0XU22100aE2U1WQ103",
    "11128091XL26010030100Y727120YC2500310cJ25310YJ27100YF00150Y900130dC280cT501301000ZH27330XL0S1WU0i30D0YC060",
    "10bQ43100g81B0WG17100mm72YsNWNYA1uyM155"]⟩,
  ⟨["me", "enclosingmark"], ["WbD1axA0WoF302WZmO2"]⟩,
  ⟨["nd", "decimalnumber", "digit"], [
    "WH9WoN9Z99bB9i89YO9YO9YO9YO9YO9YO9YO9YO9YO9Y29YO9X79dT9X79Wy19W69eK9Z39aA959aQ9XN9Z9959WaqM9qQ9W69bB9L9XN9",
    "i29rZ39WjI9XdB959uK9Z39WS9ZJ9dT9g09YO9h19Y895JXD9iI9Y89qA9XN9cS9X79iI9mlK9XiG9XN9Z99m69ui99XwCWIXjB9iI9l59",
    "cT9wF9ZyE9"]⟩,
  ⟨["nl", "letternumber"], ["bYB2Xt4W313YvK0O8D2WVnT9tWOWLjP070Z94dmIYH"]⟩,
  ⟨["no", "othernumber"], [
    "aN14012Xj05h35YQ2Z86bU6G8iT9WYMJWaM9kE0WsA02559bBFW90sCWSXFLp9TWiK0WbO3ZD9T70EW09W7EWVdO5spDWDX23G1fUQW43W",
    "gT7O6W78XC4L5a411F1WEX18WK1T2XC4YA7N7W96fJ5gAUa29WA3YI6Z9Jh6JWhF1iQ8x2IwDKpYK6uMMvq3JBJYEOapS8yTWR0203XDWD",
    "0EWV0C"]⟩,
  ⟨["pc", "connectorpunctuation"], ["Y20dk51I0WxY51N2cL0"]⟩,
  ⟨["pd", "dashpunctuation"], ["WE0Wi70WJ0YtL0WX50XZA5YrJ010U130R0jB0I0YH0WssG1W5090aD0YuL0f70"]⟩,
  ⟨["ps", "openpunctuation"], [
    "W90WI0U0YxM000WyP0XlB020W60WN0E0pD000T0WZ00000000000000XH0W0000000000i0000000000000000000000X1000W10WY6000",
    "0000O0H0000000iO0000000002000000010WsoT0bS0S00000000000000020G00000aE0WI0U02010"]⟩,
  ⟨["pe", "closepunctuation"], [
    "WA0WJ0U0YxL000WyP0XmN0WN0E0pD000T0WZ00000000000000XH0W0000000000i0000000000000000000000X1000W10WY60000000W",
    "C0000000iO0000000002000000011WsoQ0bU0S00000000000000020G00000aE0WJ0U01010"]⟩,
  ⟨["pi", "initialpunctuation"], ["aG0dgE01110O0YpO0003010E020"]⟩,
  ⟨["pf", "finalpunctuation"], ["b10dfU020R0YpO0003010E020"]⟩,
  ⟨["po", "otherpunctuation"], [
    "W22021000019121Q0X5040D160rJ070k05W90WM01010WC1J101C002XB3Y80WBDcF2WMEU0dC190ZF0YQ0YR0hH0B0gP0XR091aCE00YI",
    "0XB431YH5aF0oM8tS0YU2X81a1202W5503f21bT1Z3605a4196R2YU3WR4WU1X17A0vR1777813122A0009Yg1301YI0ZI132101801001",
    "1940913000C12iO2WP0b20zwU1dK2Y5090YL5h73XN1W8200WH1WF0Y3CF1YU3Z11F1d00qw9610L0J1132203625001ZO202100001912",
    "1Q0W4011i62qG0WG0iA0sT0bC0U0dN8W60YI6X36XQ3zL4WC3b26YF103Z13WG1XG330C002XP5YD0eI101YK49100YA0d1MYB2RCXD0Z5",
    "2d30dF2ZU0XT7XK204XU9bS0Y14WA1pO1XBCaJ0WaJ4YWP1kmS1Z80X2470mO2eF3fG0piK0cyS4YWG0wO1"]⟩,
  ⟨["sm", "mathsymbol"], [
    "WC0F2WT000WD030W50U0tL0lU2bzI0C0W72C2ZE0W7450X544130101060U11000UdJW01XR0TOW85k3080WM7YH0fP41U9Fd7Z6LX03W0",
    "1d9WGK15WtgF0vH002a80F2WT000Z6053YoG1WrnD0O0U0O0U0O0U0O0U0O0baA1"]⟩,
  ⟨["sc", "currencysymbol"], ["W50Z03WeG0YT0l11l1160cR0dE0nM0Xm90XfBW1WaXK0rv60YE0ZT0c1121dkS3Wpz80XmU0"]⟩,
  ⟨["sk", "modifiersymbol"], ["Y1000X80503020lO3BD46000GYN0D1WfA0baI002A2C2C2C1Zi41WVlJM81Y91WVE0D1qgRGxM000a60XYVL4"]⟩,
  ⟨["so", "othersymbol"], [
    "aB0103000WVF0dH1Z21bJ090I1cT0lI0h00Z5500Z70bK0W90hI2E00215J00000Z87050143bA1t79s90s80a1W2gB988WjF103019001",
    "5500000030A1D00100WQ184130101060U11000UdJ73J161XI0TOW85X9LAXIXFLaR080WM7YH0cUWCWCX1d7lFWGK15W71W00YBcB5gF1",
    "WEP0XQBbRPF30C1B0K151fP139W0W680FUAT70EW09W7Ef9bvJX1sWPWNwR39100nE2rWGFZ20WD2kI02031C1f28WPG120C20WFWDWrE1",
    "o10YeR0XdQ73GpWM340qpK0ZY1cMFj1a0YMWScS9W71WS42L16T3WTKX320aUXOWcElFWN3WI70D01WtU0YVO0Z40s7WC3Y6BE1E0E0W5M",
    "a5WOSCWC3861D5ZTd24sE3G2C2YP3Y15B30EB3WO795W87T1B31WUfTBD1C294WO6E1A586ZM0XT"]⟩,
  ⟨["zs", "spaceseparator"], ["W10Z20auI0XlCAW40WF0Za00"]⟩,
  ⟨["zl", "lineseparator"], ["dmH0"]⟩,
  ⟨["zp", "paragraphseparator"], ["dmI0"]⟩,
  ⟨["cc", "control", "cntrl"], ["0W0Y1W1"]⟩,
  ⟨["cf", "format"], ["aI0WhS5L0b50WH0hB1XH0ZW70XYS4P4WH409WxdR0d02ZjA0E0ei5FWaf53alP7vtrT0TY2"]⟩,
  ⟨["co", "privateuse"], ["WxpPbpDzvnLXbaU1XbaU"]⟩,
  ⟨["cn", "unassigned"], [
    "xK1536000J0hO0W61WI120WN7Q35AdL0WS1Y7DWR1WH1E0R100A4U014cJ07111L0600231811137031041O1205311L06010101100431",
    "122063006G9208020L06010419020210E31B660207111L0601041811126231041H9105220321000121222B3422031050DK4C020M0F",
    "18020361021013196L020M09041802036151031902BC020WJ02053F1P020H2N080016203500075912BWQ3SW5100040N000M1400060",
    "913W0X90W43W70W40E0CW5bB00401h4031600031W9031W1031600031E0WP031X41W02P5XN151qH2XQ6L8N8JBC0201BY019595P5XQ6",
    "WB4X79U0B3B302WA14AWC3P5A2WU1X20S1A595D1UWHXE0aA7WS2E2WU4WB1A7WB4m6151W615170000000U1WL0E0D150I12080Y70B1Q",
    "0C2W1EW1EZF3qELAKWwD1W00g74WD00401WO61DN86060606060606060Z1W2P0XQBbRPXH0XN1Y94WB0Y00XN8WG0zjS2WN8g6JaS7bJ1",
    "10007KWR295WO7X77B5YMAT2XF0A3W10WN8D191Y9NR95151586060WS3Z1195goBBM3WH3ea91YCW66B44P040001010Z0FjA1WM60W0W",
    "A5WJ0I03340ZA100b3251515122606941B0P0I010E1DW2YT423WD2XP0C20WFWEZ5S2WHER3W48T4WB4T0W53DWAa2195W43W43W87WKA",
    "B0E06010A0E06012WKBf08L97N50WA08X65100WC01201M0X978WGI014W12Q40X1WO3J1WI0147020S1239686X1W0W73B8WM2S1Q4P63",
    "B6XHXAWNWJCWJ6WE795W62S71bLU0WA0211F2WNWC7WALPW6RJM8XF3W48X5901O695WL0H7W78Y20JAH0WFWU600030E0A5WR49530711",
    "1L0601040911121050461624A900100W609001003090171SXT04TX979aAWM1W6W2X6A95CIWQ595JRQ1E3MaTWSY6XKB71017010T011",
    "B89X771WE1AQX97XKCXA69aQW2D9580WD0D9S2W01L0DXA6010WC2001087955010W5010569eUO6G0W92SXM0EWICyNY8YH04Ab9Xs0Y5",
    "CWZO9ZZQ4nOcYKWQWtSnA6U093XI095T159X799060K4IiSWQbBXSY7XC3WP6GX14A1DbgS7WdSW99ee6306010eBE0S210D37hNXhDYD4",
    "C286917ZXPd15j1XDWE1M8YMWScS9W71b7KX7YSJBJBXO8OZAXM0X8011011130B00060X20317060R030400260fT1eC1rJE40EWZIU55",
    "bQ60G1601044WUW10YIWD2D1931f9UGWQ40jTWAbRWB30kE603010E0bA1FW9XD3931u9X5XDWTb730Q01001009030000503000000201",
    "00100000000001001306030300090G42040GWK1dLWC3Y6BE1E0E0W59aIWOSCWC3861D5ZTWVM3G2C2YP3Y15B30EB3WO795W87T1B31W",
    "UfTBD1C294WO6E1A586ZM0Y8WX6Wij1W0ZeU5c41azQDct1Ep1XmGmEWmHaZ94Zg6swp00TY2Z3cMXaq1XbaU1XbaU1"]⟩]

/-- The groups of categories, by their names. -/
def categoryGroups : List (List String × List String) := [
  (["lc", "casedletter"], ["lu", "ll", "lt"]),
  (["l", "letter"], ["lu", "ll", "lt", "lm", "lo"]),
  (["m", "mark", "combiningmark"], ["mn", "mc", "me"]),
  (["n", "number"], ["nd", "nl", "no"]),
  (["p", "punctuation", "punct"], ["pc", "pd", "ps", "pe", "pi", "pf", "po"]),
  (["s", "symbol"], ["sm", "sc", "sk", "so"]),
  (["z", "separator"], ["zs", "zl", "zp"]),
  (["c", "other"], ["cc", "cf", "co", "cn"])]

/-- The characters of a category or of a group of categories. -/
def category? (name : String) : Option CharSet :=
  match name with
  | "any" => some .all
  | "ascii" => some (.range 0 127)
  | "assigned" => (categories.find? "cn").map CharSet.complement
  | _ =>
    match categoryGroups.find? fun g => g.1.contains name with
    | some g => some (.unions (g.2.filterMap categories.find?))
    | none => categories.find? name

end AccessControl.Unicode
