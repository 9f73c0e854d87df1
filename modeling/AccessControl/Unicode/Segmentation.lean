import AccessControl.Unicode.Table

/-!
# Segmentation

What a character means for the ends of graphemes, words and sentences in version 16 of Unicode. Characters that mean
nothing in particular are left out.
-/
namespace AccessControl.Unicode

/-- The part of a character in graphemes. -/
def graphemeParts : Table := [
  ⟨["cn", "control"], ["09010HY1W1C0WiP0Zt40XYS011N6WHFWxdR0cMBix2FWaf53alP7vtrSW0Y2Z3cMYs3"]⟩,
  ⟨["cr"], ["D0"]⟩,
  ⟨["ex", "extend"], [
    "tOYIdQ6dEWD00010100X9AWGKF0Y76151103W30TQXSAWQ880N3080204WB2WR8WAN0W0WN00037302691S0WQ00013708091P011WP031",
    "311220T120A1WP0340130J1L500WQ00103706291T0WR000B080W8020WN002420361A1S0WQ01100220361A1R1WP10013708091S0X90",
    "30120070XI016B7Y4018A6XA1Q00000WND04014A0W480Y83050111O132F3C01150E0rK2zF3R2S1T1X1106701A80WD200YN1W20YO23",
    "18052c1110WQ0060000175910WGUWH3WG932W68B1W0315WO0012004WO711ZR20C06305021bBX1lR0b8W1Yb02ZG0Y2W0mQ5YB1WVh03",
    "09W01XH1dN02030O140ZQ1PHC0W67OA00WC2WG0131110W40X451111B070WF0WJ002114100WA170cK01030qXS0sNFFFgO1oF0c80ZO4",
    "WrQ20143W8230a91nE3X24f61XG3X7AWH3YT0WMEW901192WH31160WT2W4407WU0B1WK8007310Y12135010a1027K1WP10000B080D62",
    "4X40150010023200D1XM71200M0XI01500100101cH0135101Q1XM71001YC00017Y70001304dA801cR09330ZJ31130W09W851370851",
    "2WEC01i260500XJL160101YS520010600X912000g51A1WK442M0amG05EgxOB22XnF4WR6WXO0X03XI0A1pi31ZwNWE1MmE4257716T3Z",
    "N2XWPWN3WI70D0L40EWhQ60G160104Y60a46h20WT3lB3d51sM6YF6Xv74vkmRY2Z3cM"]⟩,
  ⟨["l"], ["ZlCY2Wek6S"]⟩,
  ⟨["lf"], ["A0"]⟩,
  ⟨["lv"], [
    "WjuC0Q0Q0Q0Q0Q0Q0Q0Q0Q0Q0Q0Q0Q0Q0Q0Q0Q0Q0Q0Q0Q0Q0Q0Q0Q0Q0Q0Q0Q0Q0Q0Q0Q0Q0Q0Q0Q0Q0Q0Q0Q0Q0Q0Q0Q0Q0Q0Q0Q0Q0Q",
    "0Q0Q0Q0Q0Q0Q0Q0Q0Q0Q0Q0Q0Q0Q0Q0Q0Q0Q0Q0Q0Q0Q0Q0Q0Q0Q0Q0Q0Q0Q0Q0Q0Q0Q0Q0Q0Q0Q0Q0Q0Q0Q0Q0Q0Q0Q0Q0Q0Q0Q0Q0Q0Q",
    "0Q0Q0Q0Q0Q0Q0Q0Q0Q0Q0Q0Q0Q0Q0Q0Q0Q0Q0Q0Q0Q0Q0Q0Q0Q0Q0Q0Q0Q0Q0Q0Q0Q0Q0Q0Q0Q0Q0Q0Q0Q0Q0Q0Q0Q0Q0Q0Q0Q0Q0Q0Q0Q",
    "0Q0Q0Q0Q0Q0Q0Q0Q0Q0Q0Q0Q0Q0Q0Q0Q0Q0Q0Q0Q0Q0Q0Q0Q0Q0Q0Q0Q0Q0Q0Q0Q0Q0Q0Q0Q0Q0Q0Q0Q0Q0Q0Q0Q0Q0Q0Q0Q0Q0Q0Q0Q0Q",
    "0Q0Q0Q0Q0Q0Q0Q0Q0Q0Q0Q0Q0Q0Q0Q0Q0Q0Q0Q0Q0Q0Q0Q0Q0Q0Q0Q0Q0Q0Q0Q0Q0Q0Q0Q0Q0Q0Q0Q0Q0Q0Q0Q0Q0Q0Q0Q0Q0Q0Q0Q0Q0Q",
    "0Q0Q0Q0Q0Q0Q0Q0Q0Q0Q0Q0Q0Q0Q0Q0Q0Q0Q0Q0Q0Q0Q0Q0Q0Q0Q0Q0Q0Q0Q0Q0Q0Q0Q0Q0Q0Q0Q0Q0Q0Q0Q0Q0Q0Q0Q0Q0Q0Q0Q0Q0Q0Q",
    "0Q0Q0Q0Q0Q0Q0Q0Q0Q0Q0Q0Q0Q0Q0Q0Q0Q0Q0Q0Q0Q0Q0Q0Q0Q0Q0Q0Q0Q0Q0Q0Q0Q0Q0Q0Q0Q0Q0Q0Q0Q0Q0Q0Q0Q0Q0Q0Q0Q0Q0Q0Q0Q",
    "0Q0Q0Q0Q0Q0Q0Q0Q0Q0Q0Q0Q0Q0Q0Q0Q0Q0Q0Q0Q0Q0Q0Q0Q0Q0Q0Q0Q0Q0"]⟩,
  ⟨["lvt"], [
    "WjuDQ0Q0Q0Q0Q0Q0Q0Q0Q0Q0Q0Q0Q0Q0Q0Q0Q0Q0Q0Q0Q0Q0Q0Q0Q0Q0Q0Q0Q0Q0Q0Q0Q0Q0Q0Q0Q0Q0Q0Q0Q0Q0Q0Q0Q0Q0Q0Q0Q0Q0Q0",
    "Q0Q0Q0Q0Q0Q0Q0Q0Q0Q0Q0Q0Q0Q0Q0Q0Q0Q0Q0Q0Q0Q0Q0Q0Q0Q0Q0Q0Q0Q0Q0Q0Q0Q0Q0Q0Q0Q0Q0Q0Q0Q0Q0Q0Q0Q0Q0Q0Q0Q0Q0Q0Q0",
    "Q0Q0Q0Q0Q0Q0Q0Q0Q0Q0Q0Q0Q0Q0Q0Q0Q0Q0Q0Q0Q0Q0Q0Q0Q0Q0Q0Q0Q0Q0Q0Q0Q0Q0Q0Q0Q0Q0Q0Q0Q0Q0Q0Q0Q0Q0Q0Q0Q0Q0Q0Q0Q0",
    "Q0Q0Q0Q0Q0Q0Q0Q0Q0Q0Q0Q0Q0Q0Q0Q0Q0Q0Q0Q0Q0Q0Q0Q0Q0Q0Q0Q0Q0Q0Q0Q0Q0Q0Q0Q0Q0Q0Q0Q0Q0Q0Q0Q0Q0Q0Q0Q0Q0Q0Q0Q0Q0",
    "Q0Q0Q0Q0Q0Q0Q0Q0Q0Q0Q0Q0Q0Q0Q0Q0Q0Q0Q0Q0Q0Q0Q0Q0Q0Q0Q0Q0Q0Q0Q0Q0Q0Q0Q0Q0Q0Q0Q0Q0Q0Q0Q0Q0Q0Q0Q0Q0Q0Q0Q0Q0Q0",
    "Q0Q0Q0Q0Q0Q0Q0Q0Q0Q0Q0Q0Q0Q0Q0Q0Q0Q0Q0Q0Q0Q0Q0Q0Q0Q0Q0Q0Q0Q0Q0Q0Q0Q0Q0Q0Q0Q0Q0Q0Q0Q0Q0Q0Q0Q0Q0Q0Q0Q0Q0Q0Q0",
    "Q0Q0Q0Q0Q0Q0Q0Q0Q0Q0Q0Q0Q0Q0Q0Q0Q0Q0Q0Q0Q0Q0Q0Q0Q0Q0Q0Q0Q0Q0Q0Q0Q0Q0Q0Q0Q0Q0Q0Q0Q0Q0Q0Q0Q0Q0Q0Q0Q0Q0Q0Q0Q0",
    "Q0Q0Q0Q0Q0Q0Q0Q0Q0Q0Q0Q0Q0Q0Q0Q0Q0Q0Q0Q0Q0Q0Q0Q0Q0Q0Q0Q0Q0Q"]⟩,
  ⟨["pp", "prepend"], ["WnH5bS0WH0hB1XH0WaE0XcYB0E0cQ1WzN000cU0XA5rH0j80"]⟩,
  ⟨["ri", "regionalindicator"], ["ZdoLP"]⟩,
  ⟨["sm", "spacingmark"], [
    "XhD0WN0127301WI1WR15111WM0WQ2X30WQ27001WL1WS05111YK0012202WK2WT3WT1WQ01001WE0D1WR14202WL1XD156I1X00Z20ZD1X",
    "00aL081O1WC0WxB06701g43123105c61WQ000K5ZK0WP3X10T031X001200WL771aF0K0WbX7110XP1WIFZH0WG0WG13111YH111N0a101",
    "140cJ1010100vpC000Z20WD231YL0N1WR0WG280D0XU221aG2U1WR0031111K1XM1E001Y927120YD150010010cK15310YJ27100YF001",
    "YO0dC280cU4016000ZH27330XL0S1WU0i30D0YC06010bQ43100g81B0WG171mm92YsNWN"]⟩,
  ⟨["t"], ["ZqPXPWqqBWH"]⟩,
  ⟨["v"], ["ZoFX9WqsAMWdvE023"]⟩,
  ⟨["zwj"], ["dlL0"]⟩]

/-- The part of a character in words. -/
def wordParts : Table := [
  ⟨["cr"], ["D0"]⟩,
  ⟨["dq", "doublequote"], ["W30"]⟩,
  ⟨["ex", "extendnumlet"], ["Y20djK0E1I0WxY51N2cL0"]⟩,
  ⟨["extend"], [
    "tOYIdQ6dEWD00010100X9AWGKF0Y76151103W30TQXSAWQ880N3080204WB2WR8WAN0W1WM20H0691S2WO00611128091P012WO0043112",
    "20T120A2WO0070202J1L502WO00611126291T0WR4220380W84WN006020361A1S2WO006020361A1E0B3WN10602038091S2X70350007",
    "H1WT016B7Y4018A6XA1Q0000031WHJ014A0W480Y6JM332021623CB0093rK2zF3R2S1T1X1W080WD200YN1W20YOB3Bc14WP90S10WGUW",
    "H4WFGW68B2TCWODWGJZR20K305012bBX1lR0b8W1Yb02ZG0Y2W0mQ5YB1WVh0309W01XH1dN02030M430XK1WIHPHC0W67OCWC3WFDW40X",
    "4DB071WD2WI002114100W9441cI701qXS0sNFFFgO1oF0c80ZO4WrQ20143W8230a91nE3X24f61XG3X7AWH3YS2WLEW901193WDA60WT2",
    "W4DF1WC0B2WGD7301XTB5010a1BK3WN106111280911624X480010030400D1XJHM0XIJcH618Q1XJGYCCY7Ed7EcR501130001ZG61620",
    "R9W8603708AWEFi1707XJL0DYS520010600X340104g538100WG624M0amG05EgxOHXnF4WR6WXO00WN63XI0A1pi31ZwNWE1MmE425771",
    "6T3ZN2XWPWN3WI70D0L40EWhQ60G160104Y60a46h20WT3lB3d51sM6YF6Xv74vkmRY2Z3cM"]⟩,
  ⟨["fo", "format"], ["aI0WhS5L0b50WH0hB1XH0ZW70XZ01P4WH409WxdR0d02ZjA0E0ei5FWaf53alP7vtrT0"]⟩,
  ⟨["hl", "hebrewletter"], ["Wm0Q33XYeH0090C0400010109"]⟩,
  ⟨["ka", "katakana"], ["huU4Y712XS03cMFbLWF0XPWsg2WOWkz13060100e72WI0D3"]⟩,
  ⟨["le", "aletter"], [
    "X3P5PWF090304M0U0kE5W2YI40113005002000J0XK0ZE7aA0W613000W900YA0WCWBW310Y500E1619210F00TSXQA0NW181304L30802",
    "0MO6A4N05GWAWQWM20H069EF37111L06002320F0C102D19075311L06010101U300I2F8020L06010420H0E1M0A7111L06010420T102",
    "E0G005220321000121222BL0WK7020M0F20P21011T037020M090420U101E1G8020W910F04272N54H2N080016f20X070W4Q4dQW6004",
    "01WB0fM031600031W9031W1031600031E0WP031X4W5FFXN152oU1G0P4XC2A6HCIDHDC02aJXQ641W2004X79Uc7McKWFG7WMTC19WCPW",
    "4W929W41A4WB12W930501204b5X1dT151W615170000000U1WL0600220623153C4206YM0C0FCY7030190024500000030A134430GW9v",
    "6WKWwFcB5321BW600401WO60FM8606060606060606XH0k30WL1bDWB0Y0GW0ygDWbHX4WE1dK2F91JWFFU1XHNbB110007KF02030MSWK",
    "DWIWU52001AR9MOS6WFR0WGW9M207ZNA62B5151586060WQ5YLSgoBBM3WHef46B4WOY4W1gLHX11WMW8BYM40ZAW4P5PX6U25151512W3",
    "B0P0I010E1DW2YTX6WLdIS2WHWFW0CT4W69T1W43704WAa2HW43W43W87WKBA0E06010A0E06012WKBf08L97N50WA08X65100WC01201M",
    "9M8UX2I019L9PX7WO51X10E3020SWAS2SW370RQWM9L9ICHYGXAWNWJCWJCW4W6R8Md1WA51F2WRS907LWAHWEKQMBWLWP110CWDW0OPW4",
    "S0107W320BWGD3K000W3H0OI1X0600030E096WFW67111L06010420H0B4T900100W600O000WCWLH3J2TWGJ100aSWFW93W4WGJ0WRWBC",
    "0fGWCYMX1U71017010NE000Y071W7F000R09W860K0AWEI0HXAbCW1U80W5G0WHTYI6010W6K0O5010W0D0fGIE00C0W2YU0XGyMY8YHGb",
    "9Xs0Y3EWYHG5OZZQ4nOcYKTWuPnA6UGXGGTHWGF3UK4IiSWDbOX1Z3XC40X3CX1100pdFYD4C2869bc6XM0X8011011130B00060X20317",
    "060R030400260fT1O0O0U0O0U0O0U0O0U0O07WxEU55dCWUZLWD96F0fATHWCkIRcAT10kT603010E0bAWRX560WcP30Q0100100903000",
    "050300000020100100000000001001306030300090G42040Gp7P5P5P"]⟩,
  ⟨["lf"], ["A0"]⟩,
  ⟨["mb", "midnumlet"], ["WF0dkF190WxaM0aO050"]⟩,
  ⟨["ml", "midletter"], ["WR0YU0s50k50ZN0bz90WxYI0X20b90"]⟩,
  ⟨["mn", "midnum"], ["WD0D0vR0lP0Z51Y00hM0bjI0WxXH020WR020aR0D0"]⟩,
  ⟨["nl", "newline"], ["B1YQ0di61"]⟩,
  ⟨["nu", "numeric"], [
    "WH9WoN900Z79bB9i89YO9YO9YO9YO9YO9YO9YO9YO9YO9Y29YO9X79dT9X79Wy19W69eK9Z39aA959aQ9XN9Z9959WaqM9qQ9W69bB9L9X",
    "N9i29rZ39WjI9XdB959uK9Z39WS9ZJ9dT9g09YO9h19Y895JXD9iI9Y89qA9XN9cS9X79iI9mlK9XiG9XN9Z99m69ui99XwCWIXjB9iI9l",
    "59cT9wF9ZyE9"]⟩,
  ⟨["ri", "regionalindicator"], ["ZdoLP"]⟩,
  ⟨["sq", "singlequote"], ["W80"]⟩,
  ⟨["wsegspace"], ["W10ayM0XlC602XL0Za00"]⟩,
  ⟨["zwj"], ["dlL0"]⟩]

/-- The part of a character in sentences. -/
def sentenceParts : Table := [
  ⟨["at", "aterm"], ["WF0dkR0WxaM0b00"]⟩,
  ⟨["cl", "close"], [
    "W3032WH000S000WD0E0YvK3WyO1Xl87O191WM1D1pC3S1WYH56DXG1U9hULX03W01WX2DD119N0H7iN91702WsoQ1bS1RF11F5aD1WH000",
    "S0000101XYu92"]⟩,
  ⟨["cr"], ["D0"]⟩,
  ⟨["ex", "extend"], [
    "tOYIdQ6dEWD00010100X9AWGKF0Y76151103W30TQXSAWQ880N3080204WB2WR8WAN0W1WM20H0691S2WO00611128091P012WO0043112",
    "20T120A2WO0070202J1L502WO00611126291T0WR4220380W84WN006020361A1S2WO006020361A1E0B3WN10602038091S2X70350007",
    "H1WT016B7Y4018A6XA1Q0000031WHJ014A0W480Y6JM332021623CB0093rK2zF3R2S1T1X1W080WD200YN1W20YOB3Bc14WP90S10WGUW",
    "H4WFGW68B2TCWODWGJZR20K305012bBX1lR1b7W1Yb02ZG0Y2W0mQ5YB1WVh0309W01XH1dN02030M430XK1WIHPHC0W67OCWC3WFDW40X",
    "4DB071WD2WI002114100W9441cI701qXS0sNFFFgO1oF0c80ZO4WrQ20143W8230a91nE3X24f61XG3X7AWH3YS2WLEW901193WDA60WT2",
    "W4DF1WC0B2WGD7301XTB5010a1BK3WN106111280911624X480010030400D1XJHM0XIJcH618Q1XJGYCCY7Ed7EcR501130001ZG61620",
    "R9W8603708AWEFi1707XJL0DYS520010600X340104g538100WG624M0amG05EgxOHXnF4WR6WXO00WN63XI0A1pi31ZwNWE1MmE425771",
    "6T3ZN2XWPWN3WI70D0L40EWhQ60G160104Y60a46h20WT3lB3d51sM6YF6vni9Y2Z3cM"]⟩,
  ⟨["fo", "format"], ["aI0WhS5L0b50WH0hB1XH0ZW70XYS011P4WH409WxdR0d02ZjA0E0ei5FWaf53alP7vtrT0"]⟩,
  ⟨["le", "oletter"], [
    "j9033bL0W465BP000Z80kI0YOQ34WCWBW310Y500E1619210F00TSXQA0NW181304L308020MO6A4N05GWAWQWM20H069EF37111L06002",
    "320F0C102D19075311L06010101U300I2F8020L06010420H0E1M0A7111L06010420T102E0G005220321000121222BL0WK7020M0F20",
    "P21011T037020M090420U101E1G8020W910F04272N54H2N080016WQWG01B6WQ100040N000901801400K3W00X070W4Q4YLWBJ0F5332",
    "021623CB0X2WB1fL031600031W9031W1031600031E0WP031X4W5FYJoU1G0P4XC2A6HCIDHDC02EWKW3030X4XQ641W2004X79UWHT14A",
    "WC3PWMM8WLXJ0XUWFG7WMTC19WCPW4W929W4HWB12W93050120WYR3X8213YY6WO60FM8606060606060606XH0k32O864143XN520XR03",
    "4WB0Y0GW0WGFlFbvJX1sWMX4WE1dK2F91X30F0W0XHW78YA050Y902602030MSWKDWIWU52001AR9MOS6WFR0F409940W9M207JM202WI0",
    "021141000N21A62B515158606ZKW3SgoBBM3WHdtJgO1YCX40090C040001010YEW1gLHX11WMW8BYM40ZAYBWO1U25151512W3B0P0I01",
    "0E1DW2YTX6WLdIS2WHWFW0CT4W69T1W43704YSXFY4W87WKXTWKBf08L97O1Z05100WC01201M9M8UX2I019L9PX7WO51X10E3020SWAS2",
    "SW370RQWM9L9ICHYGXAaRW4W65U0dNWA51F2WRS907LWAHWEKQMBWLWP110CWDW0OPW4S0107W320BWGD3K000W3H0OI1X0600030E096W",
    "FW67111L06010420H0B4T900100W600O000WCWLH3J2TWGJ100aSWFW93W4WGJ0WRWBC0X8QW56aTWCbO71017010NE000Y071W7F000R0",
    "9W860K0AWEI0HXAbCW1U80W5G0WHTYI6010W6K0O5010W0D0fGIE00C0W2YU0XGyMY8YHGb9Xs0Y3EWYHG5OZZQ4nOcYKTWuPnA6UGXGGT",
    "HWGF3UK4IiSWDhUXC40X3CX1100RbgS7WdSW99ee6306010eBE0S210D37hNXhDYD4C2869eaB0l4WD96F0fATHWCkIRcAT10kT603010E",
    "0bAZ90WcP30Q0100100903000050300000020100100000000001001306030300090G42040GZnHWij1W0ZeU5c41azQDct1Ep1XmGmEW",
    "mHaZ94Zg6"]⟩,
  ⟨["lf"], ["A0"]⟩,
  ⟨["lo", "lower"], [
    "Y4PWF09030W4N070000000000000000000000000000000000000000000000000000000100000000000000010000000000000000000",
    "0000000000000000000000000001000021000102130102210100000100100102000111250101000000000000000010000000000000",
    "000011000200000000000000000000000000000000000000000000000000000000006101100300000000X60W461T4ZF0002013H0QW",
    "30122000000000000000000000004001011WJWG0000000000000000000000000000000000800000000000000000000000000000000",
    "0000000000000000000001000000000000100000000000000000000000000000000000000000000000000000000000000000000000",
    "0000000000000000000000000WGW9YWG0tI5Xd7800YNb5X20000000000000000000000000000000000000000000000000000000000",
    "0000000000000000000000000000000000000000000000000000000000000000000000000000000000000000008000000000000000",
    "000000000000000000000000000000000000000000000000000000000000000000000000000000000087597777597777D177777740",
    "15022017311779201YR0C0FCYF02120Q03030117330W1F30w5PWy1WG00210000003001072000000000000000000000000000000000",
    "000000000000000000000000000000000000000000000000000000000000000001600030BW60040WWcP00000000000000000000000",
    "0000000000000000000000I000000000000000000000000002Z8000000000000200000000000000000000000000000000000000000",
    "000000000000000000009000010000000003000100200000000000000000000404000000000000000300010200000000000L20002v",
    "EWB0D5XHqYD6B4WYAPWdJW8ZBW4ZUA0E0601jG0120WA08WfDWJZ0LXzLW0rt1W0wX0PP60HPPP300060APPPPPPPPPPPPPPPPPRRO05PO",
    "05PO05PO05PO0500WxE90J55dCWUXeQW2"]⟩,
  ⟨["nu", "numeric"], [
    "WH9WoN901Z69bB9i89YO9YO9YO9YO9YO9YO9YO9YO9YO9Y29YO9X79dT9X79Wy19W69eK9Z39aA959aQ9XN9Z9959WaqM9qQ9W69bB9L9X",
    "N9i29rZ39WjI9XdB959uK9Z39WS9ZJ9dT9g09YO9h19Y895JXD9iI9Y89qA9XN9cS9X79iI9mlK9XiG9XN9Z99m69ui99XwCWIXjB9iI9l",
    "59cT9wF9ZyE9"]⟩,
  ⟨["sc", "scontinue"], ["WD1B0WgB0aI1kO0ZdC040XZB1ZcE0WswI100S1S1201090aC1B0XA0"]⟩,
  ⟨["se", "sep"], ["Z90di61"]⟩,
  ⟨["sp"], ["9001I0Z20auI0XlCAW40WF0Za00"]⟩,
  ⟨["st", "sterm"], [
    "W20S0WhJ0ZM2aO0WB2cS0WT00021eD1WuR1uE031tS0bB1bH040f31gC3a619111S2b01X21zP182YqL0C0L1iP0WVa10dL1c9020h91XN",
    "1Y10ZR1ZM2ZJ1d00qyH1aD0S0X20XxD1Wf54WC3b21YN3Z22Z4150F1XP101YE0eI1YN1h014EYB1d02lK000d21XO1iG1r91XB1pVK1Z8",
    "0X21A0mP1eG0pt90cyT0"]⟩,
  ⟨["up", "upper"], [
    "X3PY7M06W1000000000000000000000000000000000000000000000000000000010000000000000001000000000000000000000000",
    "0000000000000000000000100002100010213010221010000010010010200012061010100000000000000001000000000000000001",
    "1000200000000000000000000000000000000000000000000000000000000006101100300000000e90002070500200010G08W30122",
    "000000000000000000000004010011WJWG000000000000000000000000000000000800000000000000000000000000000000000000",
    "0000000000000000100000000000010000000000000000000000000000000000000000000000000000000000000000000000000000",
    "00000000000000000001W6YV5W60040s8XNXdO0h100000000000000000000000000000000000000000000000000000000000000000",
    "0000000000000000000000000000000000000000000000000000000000000000000000000000000000008000000000000000000000",
    "00000000000000000000000000000000000000000000000000000000000000000000000000008775977775A000000077N7777774A4",
    "A3B4A4dC0302212102450000003139140PFI0vBPWxAWGWG00210000003001072000000000000000000000000000000000000000000",
    "00000000000000000000000000000000000000000000000000000000700030WWeL0000000000000000000000000000000000000000",
    "00000I000000000000000000000000000ZA00000000000002000000000000000000000000000000000000000000000000000000000",
    "00009000010000000030001000200000000000000000000404000000000000000300012040000000N0sbPPWdBW8ZBW4a0A0E0601Wv",
    "2WJa1LXzLW0rt1W0wX6PPPPPP00110111307PPP1031706Q103040026QPPPPPPPPPPPTOW1OW1OW1OW1OW10Zn2W2XZFP5P5P"]⟩]

end AccessControl.Unicode
