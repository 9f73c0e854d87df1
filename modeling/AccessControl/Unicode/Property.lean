import AccessControl.Unicode.Table

/-!
# Properties of characters

The properties in version 16 of Unicode that a character either has or has not.
-/
namespace AccessControl.Unicode

/-- The properties. -/
def properties : Table := [
  ⟨["ahex", "asciihexdigit"], ["WH965P5"]⟩,
  ⟨["alpha", "alphabetic"], [
    "X3P5PWF090304M0U0jN3BD46000XN0SH0113005002000J0XK0ZE7aA0W6105W9W7D000101007Q33SA4WO06DY80737329210FWGCY7NW",
    "181304N1IIO6A4N05707WA9B265XD0F023ECI07111L06002327111100703104B1903205311L06010101343111306300G5A208020L0",
    "6010428020120E3K33207111L060104271111813104C0F105220321000121222B3422022050W8C020M0F27020271021013R307020M",
    "0904270202715103C2BC020W9170202004364L5020H2N080016750007H1CWQ4650WJ100040N000I02140050D3W00X070W43I3F0W4X",
    "4WN0014FX1931W600401WB0fM031600031W9031W1031600031E0WP031X4W5FFXN152oU1G0P4XC2A6JAKBJBC0201BWK1ID030X4XQ6W",
    "B4X79U0B38MT14AWC3PWMR3X01JWI0M1A2WHWK0E07WJWA139WC0ADWNL29W41A4WB12W930501204b5IW2AdT151W615170000000U1WL",
    "0600220623153C4206YM0C0FCY7030190024500000030A134430GW9v6WKWwFcB5321BW600401WO60FM86060606060606060W0WF0k3",
    "2O864143XN520XR034WB0Y0GW0WGFlFbvJX1sWMX4WE1dK2F91JWF472YJW781Y91X4110007KJ0W1NWKBX500WC520029W14W3CS2WJ0B",
    "E0FF940WN8DHM2X60000N21F13A5151586060WB0D5YTKgoBBM3WHdtJgO1YCW66B44B0C040001010YEW1gLHX11WMW8BYM40ZAW4P5PA",
    "XQ25151512W3B0P0I010E1DW2YTX6WLdIS2WHWFW0CT4WB4T1W43704WAa2HW43W43W87WKBA0E06010A0E06012WKBf08L97N50WA08X6",
    "5100WC01201M9M8UX2I019L9PX7WO51X130147020SWAS2SW370RQWM9L9ICHYGXAWNWJCWJCW8W2R204Md1WA0121F2WN02S907LWAHWE",
    "KQM8X7WB49WP80COMWJG37W3208X103819000W3H0W21053WU600030E096WPM307111L060104271111205046R900100W60900100301",
    "2000WCX30203J2TX31100aSWM16O5W2X00020WRWM10X8Q1DK6aTWPY9X1U71017010T011113XU71WE150001QWJ19GX940HXAbCW1U80",
    "WD0600WHT1L0DXA6010WC2001020011N5010W5010300fGM8G0W922YH0XGyMY8YHGb9Xs0Y3EWYHG5OZZQ4nOcYKWFWu8nA6UGXGGTHWG",
    "F3UK4IiSWDbOX1Z3XC3WP6GX1100B1DbgS7WdSW99ee6306010eBE0S210D37hNXhDYD4C286930bc1XM0X8011011130B00060X203170",
    "60R030400260fT1O0O0U0O0U0O0U0O0U0O07WxEU55bQ60G1601044WUW10YIWD96F0fATHWCkIRcAT10kT603010E0bAWRX52020WcP30",
    "Q0100100903000050300000020100100000000001001306030300090G42040Gp7P5P5PYvCWij1W0ZeU5c41azQDct1Ep1XmGmEWmHaZ",
    "94Zg6"]⟩,
  ⟨["bidic", "bidicontrol"], ["WoE0bx61P4WN3"]⟩,
  ⟨["ci", "caseignorable"], [
    "W8050A0W3000X8030003011l6b531308100d26bK040WHWD00010100WC0A59A00W309KF0Y770903W1000TQXSAWQA3010NNWB2WC0614",
    "8W9WQWN00037302691C0E0WQ03370J1P011WP031311220T120A1WP0340130J1L500WQ010037061A1T0WT0B0WI020WN002420361A1S",
    "0WQ0105041J1R1WP13370J1S0X906200XR016A8Y40188006XA1Q00000WND04014A0W480Y83050111O132F3C01150E0Y00oI2zF2S1T",
    "1T1X1106701A2040WD4WJ0X21W20YO2318052c1110WQ0060000175910W707UWH3WG0040040W88B1W031102WO0012002WQ711X15XJ2",
    "0C06305021WIX0C0W2Y7jA002A2C2C2C1B471901014WH40900C0FCWJW1YX91YJ2Z00E0Y2W0WF0k30W432440XU5XU2ynA0We95dL0Y4",
    "30900R3XH1DW2XF0M2Y9221702030O140ZQ1PHC0W67OAWE2WG01311G0K1X351111B070W30A0WJ002114100Q0D14100Y6482YR01030",
    "qXS0ZMGnEF20BFW2010aD06050A0W3000WF0WD1X40K2lG0c80ZO4WX550WA08nN20143W8230a91nE3W60P400f41XG3X7AWH3YT0WMEW",
    "901192WH311103090WI2W4407WU0B1WK89310Y1210015010a1027K1WP120W5624X75C00000D1XM71200M0XL5003101cK35101Q1XM7",
    "1001YC0001500Y70001304dA801d710030ZJ31130W09W8513708512WEC01i260500XJL160101YS520010600X912000g51A1WK44000",
    "M0am0G5EgxOB22XnF4WR683lB2W81kG0X0GX1101mWQ30601Yg5103ZwIWE1MmG28F16T3ZN2XWPWN3WI70D0L40EWhQ60G1601044WUW1",
    "0a4DgQ0WT3lA4d51sM6YF7Xv64vklR0TY2Z3cM"]⟩,
  ⟨["cased"], [
    "X3P5PWF090304M0U0b8033bL0W461T4Y20WA31113005002000J0XK0ZE7aA0W68W9XyHW600401WB03qKXN15Xd7A4WB12X1b5X1dT151",
    "W615170000000U1WL0600220623153C4206YM0C0FCY7030190024500000030530134430GW021vAWKWwFcB5321BW60040WWcOWEHTZ7",
    "Y8230WU110007K402vEWB0D5XHqYD6B4WX9P5PWcAXHY2W43W4YMA0E06010A0E0601jG0120WA08WdBWJCWJXUL9LXyKX1rs0X1wW5XM0",
    "X8011011130B00060X20317060R030400260fT1O0O0U0O0U0O0U0O0U0O07WxE90J55dCWUXdNX5XYCP5P5P"]⟩,
  ⟨["cwcf", "changeswhencasefolded"], [
    "X3PXR09M07W00000000000000000000000000000000000000000000000000000000100000000000000001000000000000000000000",
    "0000000000000000000000001000000010001021301022101000001001001020001206101010000000000000000100000000000000",
    "00011000200000000000000000000000000000000000000000000000000000000006101100300000000cS0WA0002070500200010G0",
    "8L0B221000000000000000000000000011100011WJWG00000000000000000000000000000000080000000000000000000000000000",
    "0000000000000000000000000010000000000001000000000000000000000000000000000000000000000000000000000000000000",
    "000000000000000000000000000001W6WG0XyIW60040v35Xd795WB12f9000000000000000000000000000000000000000000000000",
    "0000000000000000000000000000000000000000000000000000000000000000000000000000000000000000000000000000041100",
    "000000000000000000000000000000000000000000000000000000000000000000000000000000000000000000000008775977775A",
    "000000077FWG12154215A3B44215eH02150WDFI0vBPWxAWGWG00210000003001072000000000000000000000000000000000000000",
    "00000000000000000000000000000000000000000000000000000000000700030WWeL0000000000000000000000000000000000000",
    "00000000I000000000000000000000000000ZA00000000000002000000000000000000000000000000000000000000000000000000",
    "00000009000010000000030001000200000000000000000000404000000000000000300012040000000N0xLXHqYD6B4WX9PWdBW8ZB",
    "W4a0A0E0601Wv2WJa1LXzLW0rt1W0WWpJW2"]⟩,
  ⟨["cwcm", "changeswhencasemapped"], [
    "X3P5PWQ09M0U0X10XL0R1D11003XU0H5Q010001210304100110601001254091aA0WA31122005002000J0WF2W1040Z87aA0W69W7XyI",
    "W600401WB12qKXN15Xd7A4WB12aT020F0YJa0100YO151W615170000000U1WL0600220623153C4206eH02150Q0GW021vAWKWwFYJ010",
    "16Y86321BW60040WWcOWEHRZ9D1WU8E22140O0T1136N1wM0RXHqYD6B4WX9P5PWcAXHY2W43W4YMA0E06010A0E0601WtPWJCWJXUL9LX",
    "yKX1rs0X1WWoIX5"]⟩,
  ⟨["cwl", "changeswhenlowercased"], [
    "X3PY7M06W1000000000000000000000000000000000000000000000000000000010000000000000001000000000000000000000000",
    "0000000000000000000000100002100010213010221010000010010010200012061010100000000000000001000000000000000001",
    "1000200000000000000000000000000000000000000000000000000000000006101100300000000e90002070500200010G08W30700",
    "0000000000000000000004010011WJWG00000000000000000000000000000000080000000000000000000000000000000000000000",
    "0000000000000010000000000001000000000000000000000000000000000000000000000000000000000000000000000000000000",
    "000000000000000001W6YV5W60040s8XNXdO05WB12f900000000000000000000000000000000000000000000000000000000000000",
    "0000000000000000000000000000000000000000000000000000000000000000000000000000000000000008000000000000000000",
    "00000000000000000000000000000000000000000000000000000000000000000000000000000008775977775A000000077N777777",
    "4A4A3B4A4eH02150WDFI0vBPWxAWGWG002100000030010720000000000000000000000000000000000000000000000000000000000",
    "0000000000000000000000000000000000000000700030WWeL000000000000000000000000000000000000000000000I0000000000",
    "00000000000000000ZA000000000000020000000000000000000000000000000000000000000000000000000000000900001000000",
    "0030001000200000000000000000000404000000000000000300012040000000N0sbPPWdBW8ZBW4a0A0E0601Wv2WJa1LXzLW0rt1W0",
    "WWpJW2"]⟩,
  ⟨["cwt", "changeswhentitlecased"], [
    "Y4PWQ0W9N0700000000000000000000000000000000000000000000000000000000100000000000000100000000000000000000000",
    "0000000000000000000000010000210001020401022101000001030102000102000300101000000000000000001000000000000000",
    "0020000200000000000000000000000000000000000000020000000000000000070110030000000050100012103041001106010012",
    "54091aA0WB0002022H0QW30122000000000000000000000004001010WKWG0000000000000000000000000000000000800000000000",
    "0000000000000000000000000000000000000000001000000000000100000000000000000000000000000000000000000000000000",
    "0000000000000000000000000000000000000000000000WHW7Yv65Xd7800cK020F0YK0000000000000000000000000000000000000",
    "0000000000000000000000000000000000000000000000000000000000000000000000000000000000000000000000000000000000",
    "0000064000000000000000000000000000000000000000000000000000000000000000000000000000000000000000000000087597",
    "777597777D17777774015022017311779201g00W1F30w5PWy1WG002100000050109000000000000000000000000000000000000000",
    "000000000000000000000000000000000000000000000000000000000000700030BW60040WWcP00000000000000000000000000000",
    "0000000000000000I000000000000000000000000000ZA000000000000020000000000000000000000000000000000000000000000",
    "0000000000000009000100000000030300110000000000000000000A00000000000000030001020400000P0wM0RXHqYD6B4WYAPWdJ",
    "W8ZBW4ZUA0E0601WvRWJZ0LXzLW0rt1W0WWpLW2"]⟩,
  ⟨["cwu", "changeswhenuppercased"], [
    "Y4PWQ0W9N0700000000000000000000000000000000000000000000000000000000100000000000000100000000000000000000000",
    "0000000000000000000000010000210001020401022101000001030102000102000410101000000000000000100000000000000000",
    "1010020000000000000000000000000000000000000002000000000000000007011003000000005010001210304100110601001254",
    "091aA0WB0002022H0QW30122000000000000000000000004001010WKWG000000000000000000000000000000000080000000000000",
    "0000000000000000000000000000000000000000100000000000010000000000000000000000000000000000000000000000000000",
    "00000000000000000000000000000000000000000000WHW7YV4WB12tF5Xd7800cK020F0YK000000000000000000000000000000000",
    "0000000000000000000000000000000000000000000000000000000000000000000000000000000000000000000000000000000000",
    "0000000006400000000000000000000000000000000000000000000000000000000000000000000000000000000000000000000008",
    "7597777597777D1WL013000220130231177920130fQ0W1F30w5PWy1WG0021000000501090000000000000000000000000000000000",
    "00000000000000000000000000000000000000000000000000000000000000000700030BW60040WWcP000000000000000000000000",
    "000000000000000000000I000000000000000000000000000ZA0000000000000200000000000000000000000000000000000000000",
    "000000000000000000009000100000000030300110000000000000000000A00000000000000030001020400000P0wM0RXHqYD6B4WY",
    "APWdJW8ZBW4ZUA0E0601WvRWJZ0LXzLW0rt1W0WWpLW2"]⟩,
  ⟨["dash"], ["WE0Wi70WJ0YtL0WX50XZA5WT0W70E0hH0Yb6010U130R0jB0I0YH0WssG1W5090aD0YuL0f70"]⟩,
  ⟨["di", "defaultignorablecodepoint"], ["aI0qL0s20XzT1Wq61XM4XYR4P4WHFZkU0WskJFcL0a40XG8WocR3alP7vtrSZd3"]⟩,
  ⟨["dep", "deprecated"], ["fJ0WgI0XhC000XaB1XfC5rE1zkgF0"]⟩,
  ⟨["dia", "diacritic"], [
    "Y1000X80503011l6a30745G13081d44bM0WNWD00010100Z6731Z913122X4QXSAWQAW21Z17W99FRWT0F023R0XB0F0YG0F0YG0F0WF2W",
    "S0F060YP0YG0F0YG0F0YF1F0YU0YH0B500YD0C4XC1Q0000031X3201WU0YI001W8134O60091rM2zH1T0ZNA80g52eC0J710WGE1AYA0E",
    "0W68WM1WQ0A1X31X15XJO305012WIX0WGW44BW5AjA002A2C2C2C1YiP2f60l95YB3Y10WVdQ0B100R1XJ1DW2Y82YF1B0W50ZQ0QHWP3W",
    "40Y10B0W40ZO2X23WJ0Y6482Z31qXS0tOFdL000WF0WD1X40tJ0Wc450WA08pG230a91nC5W60P4hQ2X7AWH3b50W90X91YQ1WU0XD082Y",
    "A1aM1XH1F0N624XQ201C1Y1020YT1d21Z10YO1YL0dK1d9130a00XK0H0XI0iH0d9001XI0iL1M0amNEgyA0XnF4WR6n51mIGXH1mWD306",
    "01dd0WE1MmG2257716T3YvOWUb76h20WT3tL1sM6YF202"]⟩,
  ⟨["emoji"], [
    "W405049YH030dhG0B0bT0L0XR5E1gP1B0aA0OA32bC0cD19080WQ304801011103010011020217240004BA1100100H011H5000121401",
    "131A14110410001J14503103010150010000050205091E01030003200A1WG280D0D0gU1jS2I1WJ030We10B0oB000Yup70bF0a41B1D",
    "019XCP01M0J018K1aIW21YI11021XK120dE0X0A50N6117B0131031C110718042B27210003050205XNWGX747123920012019c9B30e3",
    "WF090aTYIC294WO6E1A58"]⟩,
  ⟨["ecomp", "emojicomponent"], ["W405049djO0bQ0WwxC0XXyIPlA4WkT3vjWOY2"]⟩,
  ⟨["emod", "emojimodifier"], ["ZeaR4"]⟩,
  ⟨["ebase", "emojimodifierbase"], ["fZN0c10F3YypG0WS21012YN11AKI2032026000N0bE130K031aI224XK0F280A0nG01077508912WO0WT10100G20CcB2WA8"]⟩,
  ⟨["epres", "emojipresentation"], [
    "efR1bI32010lO1K1WIBWB0I0C071G1417040K0610030106031R0W30003200WT2N0D0wL1WJ030Ywn70bF0b3019XCP00N0J01402K1aI",
    "W1B80X70LBWB34BG202X8000b01X0C30NH0P1C0XNXMWGX750221233A168c9B30e3WF090aTYIC294WO6E1A58"]⟩,
  ⟨["extpict", "extendedpictographic"], [
    "aE030dhG0B0bT0L0XR5E1gP1B0Y10X70OA32bC0cD19080WQ3050B0YK9YO1A000050205091E01030003200A4WD280D0D0gU1jS2I1WJ",
    "030We10B0oB000Yup3d7C2U0WS5B1D019HWPQE90J018038iU4f77dHWGZ3YMBXMWBB3WO795W87TXJBWF090j6d7WWT"]⟩,
  ⟨["ext", "extender"], [
    "aS0m81x90j60p90ZC0XQ0t70Z20XjE0WO0oL0hP0X50ab90WB4Y91XU2ynA0Wn60WV00L0ZC0YE0K1rkJ0XZH1WlP0Q030WdD0eD0YM1l1",
    "2WdL0qk21Wc1100zaU1WcM0wE2"]⟩,
  ⟨["grbase", "graphemebase"], [
    "W1Y1W1C0o4YI71536000J0c66aA0W61WI12WE00010108Q35G9A00WEKF0Y77051103W0100TSXQA0DWB862N3080206E0O400A4UGWAWP",
    "WN00037302691S0107111L0600232001511100C1023N4005311L0601010132N300691200B008020L06010423700120E13B60710711",
    "1L06010420105111E1023HA005220321000121222B4001220220KK5207020M0F2023I2101139690A020M0904211001N1013902DA02",
    "0W9100142020132093P110H2N08001681566912BWG01A77CW5100040N0009018014008913W0N1Q00000D0W4H04014WH7050CW5WD30",
    "50111O132F3C01150E0W800401h4031600031W9031W1031600031E0WP031X44S2P5XN151qH2XQ6HCI218HDC02EWK106701A829595A",
    "495XQ641W2004X79U33123105602WA14AWC3P5A2WP112WO00800175C9595DXNWG93270S8B1W0315WO001200CWG714E2WU4WB1AA0C0",
    "630502104b5X1dT151W615170000000U1WL0E0D150I12080A4N6WHF11Q0C2W1X0ZF3qELAKWwD1W00g2214WD00401WO61EM86060606",
    "06060606W1Y0W2P0XQBbRPWQ5F0XN3Y74WB0Y00XN8WG0zjS2WN8g6JWF309W01XH157bJ110007KF02030O14395WO7X59BNC0W67OA0B",
    "T5WG0131110C0A360O0W95111A20700191W00WJ0021141000NG17A5151586060WS3YN0103295goBBM3WHdtJgO1YCW66B4400N04000",
    "1010Z0FjA1WM60W0FF9LW30I03340ZA3a11U251515122606C11B0P0I010E1DW2YT423WD2XP0C20WFWDZ6S2WHFQ3W48T4W69T0W53DW",
    "Aa2195W43W43W87WKAB0E06010A0E06012WKBf08L97N50WA08X65100WC01201M0X978WGI014W12Q40X1WO3J1WFE3020S98686X1W0W",
    "55B8WM2S1Q4P63B6XHXAWNWJCWJ6WAB95W67N71bLU0WA2011F2WRW87LA8LH33W6RJM800WME63T0110BWH311103DO698W4408H7W302",
    "AWK8007310F0JAH0R213501X0600030E0A5WF02C97107111L060104200003111120B6R900100W60001E001200201W7WO71200K0002",
    "TWG01500100101379aAWF0153101QW4WJ710013A95CIWB000171595JRQ2001308MaTWF8010Y6XKB71017010N0401530289X771WA73",
    "03Q09W8513780512WEC018CXA69aQW2D9580W6D0059S2W0O06010XC6010W6K08955010W531000069eUI138E0W4712MXN0EWICyNY8Y",
    "H04Ab9Xs0Y5CWYHG5OZZQ4nOcYKTB229WtSnA6U093XI095T609WG6E99060K4IiSWQbBXSY7XC4WOACX13RbgS7WdSW99ee6306010eBE",
    "0S210D37hNXhDYD4C28691010ZXTd15j1a0YMWScS9W71WS42L16T3WTKX320YSJBJBXO8OZAXM0X8011011130B00060X20317060R030",
    "400260fT1eC1n3WN3WI70D06WaNU55dCWUZLWD961931f9THWC3940jTR39bRT1A30kE603010E0bA18WGX5603931u9X5XDWTb730Q010",
    "0100903000050300000020100100000000001001306030300090G42040GWK1dLWC3Y6BE1E0E0W59aIWOSCWC3861D5ZTWVM3G2C2YP3",
    "Y15B30EB3WO795W87T1B31WUfTBD1C294WO6E1A586ZM0Y8WX6Wij1W0ZeU5c41azQDct1Ep1XmGmEWmHaZ94Zg6"]⟩,
  ⟨["grext", "graphemeextend"], [
    "tOYIdQ6dEWD00010100X9AWGKF0Y76151103W30TQXSAWQ880N3080204WB2WR8WAN0W0WN00037302691S0WQ00013708091P011WP031",
    "311220T120A1WP0340130J1L500WQ00103706291T0WR000B080W8020WN002420361A1S0WQ01100220361A1R1WP10013708091S0X90",
    "30120070XI016B7Y4018A6XA1Q00000WND04014A0W480Y83050111O132F3C01150E0rK2zF3R2S1T1X1106701A80WD200YN1W20YO23",
    "18052c1110WQ0060000175910WGUWH3WG932W68B1W0315WO0012004WO711ZR20C06305021bBX1lR0b8W1Yb02ZG0Y2W0mQ5YB1WVh03",
    "09W01XH1dN02030O140ZQ1PHC0W67OA00WC2WG0131110W40X451111B070WF0WJ002114100WA170cK01030qXS0sNFFFgO1oF0c80ZO4",
    "WrQ20143W8230a91nE3X24f61XG3X7AWH3YT0WMEW901192WH31160WT2W4407WU0B1WK8007310Y12135010a1027K1WP10000B080D62",
    "4X40150010023200D1XM71200M0XI01500100101cH0135101Q1XM71001YC00017Y70001304dA801cR09330ZJ31130W09W851370851",
    "2WEC01i260500XJL160101YS520010600X912000g51A1WK442M0amG05EgxOB22XnF4WR6WXO0X03XI0A1pi31ZwNWE1MmE4257716T3Z",
    "N2XWPWN3WI70D0L40EWhQ60G160104Y60a46h20WT3lB3d51sM6YF6vni9Y2Z3cM"]⟩,
  ⟨["grlink", "graphemelink"], [
    "XjP0Z20Z20Z20Z20Z20Z20Z20YF1F0YU0YH0Z20bE0aO1WuG1T0a10q10c90Y71X71ZpQ0WWoO0W50ZQ0ZH0YE0eT0cS0uYQ0WnM0W90D0",
    "WP0YR1ZE0YM0aO0Y40Z32YJ0Z20d30Z20YO0YM0dK0dA1a50XK0H0XI0iH0dB1XI0iL1mmB0"]⟩,
  ⟨["hex", "hexdigit"], ["WH965P5XauU965P5"]⟩,
  ⟨["hyphen"], ["WE0Z20We30ZxI0XZA1YrN0sP0Wsr60aD0XO0"]⟩,
  ⟨["idsb", "idsbinaryoperator"], ["hsR119l00"]⟩,
  ⟨["idst", "idstrinaryoperator"], ["hsT1"]⟩,
  ⟨["idsu", "idsunaryoperator"], ["htA1"]⟩,
  ⟨["idcompatmathcontinue"], ["aN140diQ02A0EgT030L0YseM0O0U0O0U0O0U0O0U0O0"]⟩,
  ⟨["idcompatmathstart"], ["eWQ030L0YseM0O0U0O0U0O0U0O0U0O0"]⟩,
  ⟨["idc", "idcontinue"], [
    "WH96P300PWF09000104M0U0jN3BD46000GYN01130054000J0XK0ZE041aA0W6105W97WD000101007Q33SA4XB3Y807190I10FWR1Y7DW",
    "M30101WEHR3A4N057XC0Z4190I07111L0600231811137031041B90001205311L06010101100431122063006FA208020L0601041902",
    "0210E319860207111L0601041811126231041900F105220321000121222B3422031050D9FC020M0F1802036102101319F307020M09",
    "041802036151031902BC020WJ020443641995020H2N080016203500075911CWQ4E09W7100040N000M1400060913W00M159A0000039",
    "0W43J0H0W480WPXB5XF1W600401WB0fM031600031W9031W1031600031E0WP031X41288DFFXN152oU1G0P4XC2A6L8LAJBC0201BXL20",
    "3119W120A5XQ6WB4X79U0B3B9W814AWC3P5AW5R3X00S1A59C07D0FWHXE29G8BYMBWO792WH1A4WB12F20W74m6151W615170000000U1",
    "WL0600220623153C4206E1WH1I0R0C0FCWJC302BG0301900155000000F134430GW9XtCcB58BW600401WO60EN86060606060606060W",
    "0lK2OE04143XN160Y14WB0Y0GW0WGFlFbvJX1sWMX4WE1dK2RJWG390YLW581Y91X4110007KWM30IWKBX7995N200WH1W4BS2X2DA5U0W",
    "N8D195M2XAN21F1495151586060WB0D5YT01195goBBM3WHdtJgO1YCW66B44B0C040001010YEW1gLHX11WMW8B3FFF21N2W040ZAI96P",
    "300P9XR25151512W3B0P0I010E1DW2YTX6WLZB0Z5S2WHE0UW0CT4WB4T1W43704WAa2195W43W43W87WKBA0E06010A0E06012WKBf08L",
    "97N50WA08X65100WC01201M9M8UX2I019L9PX7WO51X130147020S1230W0S2SW370TOWM9L9ICHYGXAWNWJCWJCW8795W6240Md1WA012",
    "1F2WNW1907W1ULWAKQM8X8UF8WS60CO695WL09337W4108X6330C00W3H0W553WU600030E096WR495307111L06010409111210504616",
    "24A900100W60900100307C1SXC4933TX70079aAWM18M5W2X220A9W6WP695JRQ1E3956aTWRY7XBK71017010T0118B9X771WE1701QX0",
    "707XB20HXAbCW1E9580WD08E9NT1L0DXA6010WC2001087955010W5010569eUM8G0W924CAXM0XGyMY8YHGb9Xs0Y3EWYHFL9ZZQ4nOcY",
    "KWQWtSnA6U095XG095T14AWN83B98K4IiSWD29bBX1Z3XC3WP6GX1101A1DbgS7WdSW99ee6306010eBE0S210D37hNXhDYD4C286921Zf",
    "M9lLWE1MmE4257716T3ZN2j8XM0X8011011130B00060X20317060R030400260fT1O0O0U0O0U0O0U0O0U0O071WIlFWN3WI70D0L40EW",
    "ZIU55bQ60G1601044WUW10YIWD2D1930fAUGWQk4WAbRWBkJ603010E0bAA6W9XD39WcB30Q0100100903000050300000020100100000",
    "000001001306030300090G42040GYl09WX6Wij1W0ZeU5c41azQDct1Ep1XmGmEWmHaZ94Zg6swx7cM"]⟩,
  ⟨["ids", "idstart"], [
    "X3P5PWF090304M0U0jN3BD46000Z440113005002000J0XK0ZE7aA0W6105W9X8Q33WDWBW310Y500E1619210F00TSXQA0NW181304L30",
    "8020MO6A4N05GWAWQWM20H069EF37111L06002320F0C102D19075311L06010101U300I2F8020L06010420H0E1M0A7111L06010420T",
    "102E0G005220321000121222BL0WK7020M0F20P21011T037020M090420U101E1G8020W910F04272N54H2N080016WQWG01B6WQ10004",
    "0N000901801400K3W00X070W4Q4YLWBJ0F5332021623CB0GW600401WB0fM031600031W9031W1031600031E0WP031X4W5FFXN152oU1",
    "G0P4XC2A6HCIDHDC02EWKW3030X4XQ6W9004X79UWHT14AWC3PWMM8WLXJ0XUWFG7WMTC19WCPW4W929W41A4WB12W930501204b5X1dT1",
    "51W615170000000U1WL0600220623153C4206YM0C0FCY70301900155000000F134430GW9XtCcB5321BW600401WO60FM86060606060",
    "60606mM2O864143XN340XR034WB0Y0GW0WGFlFbvJX1sWMX4WE1dK2F91JWFFU1XHW781Y91X4110007KF02030MSWKDWIWU52001AR9MO",
    "S6WFR0F409940W9M207JM202WI0021141000N21A62B5151586060WB0D5YLSgoBBM3WHdtJgO1YCW66B440090C040001010YEW1gLHX1",
    "1WMW8BYM40ZAW4P5PAXQ25151512W3B0P0I010E1DW2YTX6WLdIS2WHWFW0CT4W69T1W43704WAa2HW43W43W87WKBA0E06010A0E06012",
    "WKBf08L97N50WA08X65100WC01201M9M8UX2I019L9PX7WO51X10E3020SWAS2SW370RQWM9L9ICHYGXAWNWJCWJCW4W6R8Md1WA51F2WR",
    "S907LWAHWEKQMBWLWP110CWDW0OPW4S0107W320BWGD3K000W3H0OI1X0600030E096WFW67111L06010420H0B4T900100W600O000WCW",
    "LH3J2TWGJ100aSWFW93W4WGJ0WRWBC0X8QW56aTWCYMX1U71017010NE000Y071W7F000R09W860K0AWEI0HXAbCW1U80W5G0WHTYI6010",
    "W6K0O5010W0D0fGIE00C0W2YU0XGyMY8YHGb9Xs0Y3EWYHG5OZZQ4nOcYKTWuPnA6UGXGGTHWGF3UK4IiSWDbOX1Z3XC40X3CX1100RbgS",
    "7WdSW99ee6306010eBE0S210D37hNXhDYD4C2869bc6XM0X8011011130B00060X20317060R030400260fT1O0O0U0O0U0O0U0O0U0O07",
    "WxEU55dCWUZLWD96F0fATHWCkIRcAT10kT603010E0bAWRX560WcP30Q01001009030000503000000201001000000000010013060303",
    "00090G42040GZnHWij1W0ZeU5c41azQDct1Ep1XmGmEWmHaZ94Zg6"]⟩,
  ⟨["ideo", "ideographic"], ["htI1O8D2WV3bvJX1qv4sqTgO1YCWVaF0QbgS7WdSW99eqIhNpkUWij1W0ZeU5c41azQDct1Ep1XmGmEWmHaZ94Zg6"]⟩,
  ⟨["joinc", "joincontrol"], ["dlK1"]⟩,
  ⟨["loe", "logicalorderexception"], ["YtL4YT4Xx9210Wco611001"]⟩,
  ⟨["lower", "lowercase"], [
    "Y4PWF09030W4N070000000000000000000000000000000000000000000000000000000100000000000000010000000000000000000",
    "0000000000000000000000000001000021000102130102210100000100100102000111250101000000000000000010000000000000",
    "000011000200000000000000000000000000000000000000000000000000000000006101100300000000X60W461T4Y20WB0002013H",
    "0QW30122000000000000000000000004001011WJWG0000000000000000000000000000000000800000000000000000000000000000",
    "0000000000000000000000001000000000000100000000000000000000000000000000000000000000000000000000000000000000",
    "0000000000000000000000000000WGW9YV3WB03tF5Xd7800YNb5X20000000000000000000000000000000000000000000000000000",
    "0000000000000000000000000000000000000000000000000000000000000000000000000000000000000000000000008000000000",
    "000000000000000000000000000000000000000000000000000000000000000000000000000000000000000087597777597777D177",
    "77774015022017311779201YR0C0FCYF02120Q03030117330W1F30w5PWy1WG00210000003001072000000000000000000000000000",
    "000000000000000000000000000000000000000000000000000000000000000000000001600030BW60040WWcP00000000000000000",
    "0000000000000000000000000000I000000000000000000000000002Z8000000000000200000000000000000000000000000000000",
    "000000000000000000000000009000010000000003000100200000000000000000000404000000000000000300010200000000000L",
    "20002vEWB0D5XHqYD6B4WYAPWdJW8ZBW4ZUA0E0601jG0120WA08WfDWJZ0LXzLW0rt1W0wX0PP60HPPP300060APPPPPPPPPPPPPPPPPR",
    "RO05PO05PO05PO05PO0500WxE90J55dCWUXeQW2"]⟩,
  ⟨["math"], [
    "WC0F2U0S000WD030W50U0sE210P112lU2by30Q2A020C0D3K4A4X2C302134H03019001550211102052D00X5N0501313W00051DdJ73J",
    "1XR0TQ00N0A6jA1B935311124D00015A741WP000S382fPX1d7lFWGK15WtgF0vG500a60F2S000S000Z6053YoG1WqvLXM0X801101113",
    "0B00060X20317060R030400260fT1eC1WIavK30Q0100100903000050300000020100100000000001001306030300090G42040GWK1"]⟩,
  ⟨["mcm", "modifiercombiningmark"], ["Wq8110Z605021kF10220U0"]⟩,
  ⟨["nchar", "noncharactercodepoint"], ["Xao0W0lT1XbaU1XbaU1XbaU1XbaU1XbaU1XbaU1XbaU1XbaU1XbaU1XbaU1XbaU1XbaU1XbaU1XbaU1XbaU1XbaU1"]⟩,
  ⟨["oalpha", "otheralphabetic"], [
    "w00SCnHD00010100X9AWGC06F0Y76331130W30TFY8AY71280203YC0WSB265JWM11E014291S2WQ611119091S2WQ4311130T120A2WQ7",
    "0201K1L232WQ611118191T0WR4220290W84WP6020271A1S2WQ6020271A1E0B3WQ602029091S2XC50007H1WT016H0Y501501F0a7I8A",
    "0W4YGB0013M332021623CB0093Wr81T1T1T1X3Ib11W20YOB38c44WP91JXB1A2WH4WGEWS2T811WPAWIIi8W2WtNWKXgUW0WWXL7W21gC",
    "070M4XP1WIF00WP0W64RBWD3WGBW50X4DB071WD2WI0021140WC440cJ7qY00XbQ4WrQ20143uC3X20fA1XG0dA2WLDWD1A2WD880WT2W4",
    "BH1WP2WGCD1XT8105010a19M3WQ611119091XL800100301Y9C02YCHcJ616S1XJE00YCAY9Dd8CcT501112000ZH61530R9WA403HAWED",
    "i3706XKL0DYS52001020020X340103g638100WG622mlRGYsJ00WN63XU1pi40ei460G160104Y60XeT0XY8P5P5P"]⟩,
  ⟨["odi", "otherdefaultignorablecodepoint"], ["wA0Ys21Wq61XeL0Zl90Wsy10XG8xnm100TY2Z3cMYs3"]⟩,
  ⟨["ogrext", "othergraphemeextend"], [
    "XnE0N0gG0N0Y80N0cE000310181Y90N0YP0E0Xj00T0WX00400041Y70X81WXO0Ze51WWdA0YE0rw11ZuK0YM0dF0D080Y2080100240c6",
    "0B0cN0dD0pC0B0WnJ0qk71uyM155vtt6Y2"]⟩,
  ⟨["oidc", "otheridcontinue"], ["aS0s50Zc38WqR0Wp31ZkN0WszG0"]⟩,
  ⟨["oids", "otheridstart"], ["blF1XdM0K0ZYA1"]⟩,
  ⟨["olower", "otherlowercase"], ["aF0E0l4861T4Y20WK0YnF0YcIX0C0W2W5r60C0FCbOFwAPXVF1WWlD1bN0Z4221wS380tlD0120WA08WvpFWU"]⟩,
  ⟨["omath", "othermath"], [
    "Y10xC210P111ck70Q2A0W03N1D1X2C302134H03019002450211102052344XC4130101000411313H1100060051eA3aC100N0G0jA1B8",
    "44411124D00015N1WP000S381g01U9hULX03W01WumR00030bO000WupSXM0X8011011130B00060X20317060R030400260fT1O0O0U0O",
    "0U0O0U0O0U0O071WIavK30Q0100100903000050300000020100100000000001001306030300090G42040G"]⟩,
  ⟨["oupper", "otheruppercase"], ["dwJFw0PYyoOP5P5P"]⟩,
  ⟨["patsyn", "patternsyntax"], ["W2E96P300P3W2600010001303020M0U0ddNN7E1I09ePs6a4p9TWaFlFZ3hC23OE0Wso91dC1"]⟩,
  ⟨["patws", "patternwhitespace"], ["94H0Y60dhB1N1"]⟩,
  ⟨["pcm", "prependedconcatenationmark"], ["WnH5bS0WH0hB1XH0XddR0E0"]⟩,
  ⟨["qmark", "quotationmark"], ["W3030Z60E0dfT7O1YrP0jM3C2Wsx63b2030XR1"]⟩,
  ⟨["radical"], ["hh0P0XQBbR"]⟩,
  ⟨["ri", "regionalindicator"], ["ZdoLP"]⟩,
  ⟨["sterm", "sentenceterminal"], [
    "W20B0F0WhJ0ZM2aO0WB2cS0WT00021eD1WuR1uE031tS0bB1a11WD040f31gC3a619111S2b01X21z10M182YgM2eQ0C0L1iP0WVa10dL1",
    "c9020h91XN1Y10ZR1ZM2ZJ1d00qwB011WR021aD0B0F0X20XxD1Wf54WC3b21YN3Z22Z4150F1XP101YE0eI1YN1h014EYB1d02lK000d2",
    "1XO1iG1r91XB1pVK1Z80X21A0mP1eG0pt90cyT0"]⟩,
  ⟨["sd", "softdotted"], ["YC1b90e10T0WK0J0f90Y4000bpM0WJ0C020Z70a10iH0bR1XzD0YovE1WI1WI1WI1WI1WI1WI1WI1WI1WI1WI1WI1WI1XdB0eP1P0"]⟩,
  ⟨["term", "terminalpunctuation"], [
    "W209000A120vN070lG0WP0X90D002aO0WBA00cH1WM507U0dC1WeR1aG035f01uD7tS0YU2X81a1220W7311f31gC3a619102S2b04WU1z",
    "10M182YgM2eQ0C030900121iO1WVa01dK2c94h91XN1Y10ZQ2ZM2Z20F1d00qwB011WP203aD09000A120X2010WYR0WG0WbA0bC0eU1ZR",
    "5X55XQ3zL4WC3b26YI3Z22Z4150F1XP4YE0eI1YN2B1gG32EYB1d02lK000d21XO131iA2WD0pO1XB1WgK4noP1Z80X2290mP1eF1pt90c",
    "yS3"]⟩,
  ⟨["uideo", "unifiedideograph"], ["ivDbvJX1qv4szK1000190000112Xcs7Wij1W0ZeU5c41azQDct1Ep1ZqIaZ94Zg6"]⟩,
  ⟨["upper", "uppercase"], [
    "X3PY7M06W1000000000000000000000000000000000000000000000000000000010000000000000001000000000000000000000000",
    "0000000000000000000000100002100010213010221010000010010010200012060101010000000000000001000000000000000001",
    "0100200000000000000000000000000000000000000000000000000000000006101100300000000e90002070500200010G08W30122",
    "000000000000000000000004010011WJWG000000000000000000000000000000000800000000000000000000000000000000000000",
    "0000000000000000100000000000010000000000000000000000000000000000000000000000000000000000000000000000000000",
    "00000000000000000001W6YV5W60040s8XNXdO05WB12f9000000000000000000000000000000000000000000000000000000000000",
    "0000000000000000000000000000000000000000000000000000000000000000000000000000000000000000080000000000000000",
    "0000000000000000000000000000000000000000000000000000000000000000000000000000000008775977775A000000077X93B3",
    "B3B4A3dD0302212102450000003139140PFI0vBPWxAWGWG00210000003001072000000000000000000000000000000000000000000",
    "00000000000000000000000000000000000000000000000000000000700030WWeL0000000000000000000000000000000000000000",
    "00000I000000000000000000000000000ZA00000000000002000000000000000000000000000000000000000000000000000000000",
    "00009000010000000030001000200000000000000000000404000000000000000300012040000000N0sbPPWdBW8ZBW4a0A0E0601Wv",
    "2WJa1LXzLW0rt1W0wX6PPPPPP00110111307PPP1031706Q103040026QPPPPPPPPPPPTOW1OW1OW1OW1OW10Zn2W2XZFP5P5P"]⟩,
  ⟨["vs", "variationselector"], ["bhH200WzcPFxof2cM"]⟩,
  ⟨["whitespace", "wspace", "space"], ["94H0Y60P0auI0XlCAS140WF0Za00"]⟩,
  ⟨["xidc", "xidcontinue"], [
    "WH96P300PWF09000104M0U0jN3BD46000GYN01220054000J0XK0ZE041aA0W6105W97WD000101007Q33SA4XB3Y807190I10FWR1Y7DW",
    "M30101WEHR3A4N057XC0Z4190I07111L0600231811137031041B90001205311L06010101100431122063006FA208020L0601041902",
    "0210E319860207111L0601041811126231041900F105220321000121222B3422031050D9FC020M0F1802036102101319F307020M09",
    "041802036151031902BC020WJ020443641995020H2N080016203500075911CWQ4E09W7100040N000M1400060913W00M159A0000039",
    "0W43J0H0W480WPXB5XF1W600401WB0fM031600031W9031W1031600031E0WP031X41288DFFXN152oU1G0P4XC2A6L8LAJBC0201BXL20",
    "3119W120A5XQ6WB4X79U0B3B9W814AWC3P5AW5R3X00S1A59C07D0FWHXE29G8BYMBWO792WH1A4WB12F20W74m6151W615170000000U1",
    "WL0600220623153C4206E1WH1I0R0C0FCWJC302BG0301900155000000F134430GW9XtCcB58BW600401WO60EN86060606060606060W",
    "0lK2OE04143XN11120Y14WB0Y0GW0WGFlFbvJX1sWMX4WE1dK2RJWG390YLW581Y91X4110007KWM30IWKBX7995N200WH1W4BS2X2DA5U",
    "0WN8D195M2XAN21F1495151586060WB0D5YT01195goBBM3WHdtJgO1YCW66B44B0C040001010YEW1ZE5c0HX11WMW895FFF21N2W1000",
    "200000000Z1I96P300P9XR25151512W3B0P0I010E1DW2YTX6WLZB0Z5S2WHE0UW0CT4WB4T1W43704WAa2195W43W43W87WKBA0E06010",
    "A0E06012WKBf08L97N50WA08X65100WC01201M9M8UX2I019L9PX7WO51X130147020S1230W0S2SW370TOWM9L9ICHYGXAWNWJCWJCW87",
    "95W6240Md1WA0121F2WNW1907W1ULWAKQM8X8UF8WS60CO695WL09337W4108X6330C00W3H0W553WU600030E096WR495307111L06010",
    "40911121050461624A900100W60900100307C1SXC4933TX70079aAWM18M5W2X220A9W6WP695JRQ1E3956aTWRY7XBK71017010T0118",
    "B9X771WE1701QX0707XB20HXAbCW1E9580WD08E9NT1L0DXA6010WC2001087955010W5010569eUM8G0W924CAXM0XGyMY8YHGb9Xs0Y3",
    "EWYHFL9ZZQ4nOcYKWQWtSnA6U095XG095T14AWN83B98K4IiSWD29bBX1Z3XC3WP6GX1101A1DbgS7WdSW99ee6306010eBE0S210D37hN",
    "XhDYD4C286921ZfM9lLWE1MmE4257716T3ZN2j8XM0X8011011130B00060X20317060R030400260fT1O0O0U0O0U0O0U0O0U0O071WIl",
    "FWN3WI70D0L40EWZIU55bQ60G1601044WUW10YIWD2D1930fAUGWQk4WAbRWBkJ603010E0bAA6W9XD39WcB30Q0100100903000050300",
    "000020100100000000001001306030300090G42040GYl09WX6Wij1W0ZeU5c41azQDct1Ep1XmGmEWmHaZ94Zg6swx7cM"]⟩,
  ⟨["xids", "xidstart"], [
    "X3P5PWF090304M0U0jN3BD46000Z440122005002000J0XK0ZE7aA0W6105W9X8Q33WDWBW310Y500E1619210F00TSXQA0NW181304L30",
    "8020MO6A4N05GWAWQWM20H069EF37111L06002320F0C102D19075311L06010101U300I2F8020L06010420H0E1M0A7111L06010420T",
    "102E0G005220321000121222BL0WK7020M0F20P21011T037020M090420U101E1G8020W910F04272N54H2N080016WQWG00C6WQ10004",
    "0N000900901400K3W00X070W4Q4YLWBJ0F5332021623CB0GW600401WB0fM031600031W9031W1031600031E0WP031X4W5FFXN152oU1",
    "G0P4XC2A6HCIDHDC02EWKW3030X4XQ6W9004X79UWHT14AWC3PWMM8WLXJ0XUWFG7WMTC19WCPW4W929W41A4WB12W930501204b5X1dT1",
    "51W615170000000U1WL0600220623153C4206YM0C0FCY70301900155000000F134430GW9XtCcB5321BW600401WO60FM86060606060",
    "60606mM2O864143XN520XR034WB0Y0GW0WGFlFbvJX1sWMX4WE1dK2F91JWFFU1XHW781Y91X4110007KF02030MSWKDWIWU52001AR9MO",
    "S6WFR0F409940W9M207JM202WI0021141000N21A62B5151586060WB0D5YLSgoBBM3WHdtJgO1YCW66B440090C040001010YEW1ZE5c0",
    "HX11WMW89YP000200000000Z1W4P5PAWO1U25151512W3B0P0I010E1DW2YTX6WLdIS2WHWFW0CT4W69T1W43704WAa2HW43W43W87WKBA",
    "0E06010A0E06012WKBf08L97N50WA08X65100WC01201M9M8UX2I019L9PX7WO51X10E3020SWAS2SW370RQWM9L9ICHYGXAWNWJCWJCW4",
    "W6R8Md1WA51F2WRS907LWAHWEKQMBWLWP110CWDW0OPW4S0107W320BWGD3K000W3H0OI1X0600030E096WFW67111L06010420H0B4T90",
    "0100W600O000WCWLH3J2TWGJ100aSWFW93W4WGJ0WRWBC0X8QW56aTWCYMX1U71017010NE000Y071W7F000R09W860K0AWEI0HXAbCW1U",
    "80W5G0WHTYI6010W6K0O5010W0D0fGIE00C0W2YU0XGyMY8YHGb9Xs0Y3EWYHG5OZZQ4nOcYKTWuPnA6UGXGGTHWGF3UK4IiSWDbOX1Z3X",
    "C40X3CX1100RbgS7WdSW99ee6306010eBE0S210D37hNXhDYD4C2869bc6XM0X8011011130B00060X20317060R030400260fT1O0O0U0",
    "O0U0O0U0O0U0O07WxEU55dCWUZLWD96F0fATHWCkIRcAT10kT603010E0bAWRX560WcP30Q01001009030000503000000201001000000",
    "00001001306030300090G42040GZnHWij1W0ZeU5c41azQDct1Ep1XmGmEWmHaZ94Zg6"]⟩]

end AccessControl.Unicode
