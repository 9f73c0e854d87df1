import AccessControl.Text.CharSet

/-!
# Printable characters

A character is printable when it has a visible form of its own: it is assigned, is neither a control, format, surrogate
nor private-use character, is no separator other than the space, is not ignored by default, and does not attach itself to
the character before it, as all characters that extend a grapheme do but the two halfwidth sound marks. Characters are
those of version 17 of Unicode.
-/
namespace AccessControl.Text

/-- The code points without a visible form. -/
def unprintable : CharSet := .ofRuns [
  "0W0Y1W2B0o4YI71536000J0c66aA0W61WI12WE00010108Q35G9A00WEKF0Y77051103W0100TSXQA0DWB862N3080206E0O400A4W0FWAWP",
  "WN00037302691S0107111L0600232001511100C1023N4005311L0601010132N300691200B008020L06010423700120E13B607107111L",
  "06010420105111E1023HA005220321000121222B4001220220KK5207020M0F2023I2011139690A020M0904211001M2013902DA020W91",
  "00142020132093P110H2N08001681566912BWG01A77CW5100040N0009018014008913W0N1Q00000D0W4H04014WH7050CW5WD3050111O",
  "132F3C01150E0W800401ZI1cE031600031W9031W1031600031E0WP031X44S2P5XN151pJ0R2XQ6HCI218HDC02EWK106701A829595A495",
  "XQ641W2004X79U33123105602WA14AWC3P5A2WP112WO00800175C9595DXNWG93270S8B1W0315WO001200CWG714E2WU4WB1AA0C063050",
  "2104b5X1dT151W615170000000U1WL0E0D150I1208GN7WFG11Q0C2W2WUZF3qELAKWwD1h4214WD00401WO61EM8606060606060606W1Y0",
  "W2P0XQBbRPF0W95F0XN3Y74WB0WJ0WA0XN8WG0zjS2WN8g6JWF309W01XH157c3JG02030O14395WO7X59BNC0W67OA0BT5WG0131110C0A3",
  "60O0W95111A20700191W00WJ0021141000NG17A5151586060WS3YN0103295goBBM3WHdtJgO1YCW66B4400N040001010pTW0FF9LW30I0",
  "3340ZA3a30T251515122606C11B0P0I010E1DW2YT423WD2XP0C20WFWDZ6S2WHFQ3W48T4W69T0W53DWAa2195W43W43W87WKAB0E06010A",
  "0E06012WKBf08L97N50WA08X65100WC01201M0X978WGI014W12Q4QW6WO3J1WFE3020S98686X1W0W55B8WM2S1Q4P63B6XHXAWNWJCWJ6W",
  "AB95W67N71bLU0WA2011F578W7W87LA8LH33W6RJM800WME63T0110BWH311103DO698W4408H7W302AWK8007310F0JAH0R213501X06000",
  "30E0A5WF02C97107111L060104200003111120B6R900100W60001E001200201W7WO71200K0002TWG01500100101379aAWF0153101QW4",
  "WJ710013A95CIWB000171595JRQ2001308MaTWF8010Y6XKB71017010N0401530289X771WA7303Q09W8513780512WEC018CXA69XO0200",
  "0XPW2D9580W6D0059S2W0O06010XC6010W6K08955010W5310000695WC39cSI138E0W4712MXN0EWICyNY8YH04Ab9Xs0Y5CWYHG5OZZQ4n",
  "OcYKTB229WtSnA6U093XI095T609WG6E99060K4IiSWQbBXS4O1OWCXC4WOACX13D48cq3W9W0Y3YLeWK306010eBE0S210D37hNXhDYD4C2",
  "8691010ZXTd42j15MEGY1YMWScS9W71WS42L16T3WTKX320YSJBJBXO8OZAXM0X8011011130B00060X20317060R030400260fT1eC1n3WN",
  "3WI70D06WaNU55dCWUZLWD961931f9THWC3940jTR39bRT1A30b5U0201061481c6603010E0bA18WGX5603931u9X5XDWTb730Q01001009",
  "03000050300000020100100000000001001306030300090G42040GWK1dLWC3Y6BE1E0E0W59aIWOSCWC3861D5ZTWVN2G2C2c05B30EB3W",
  "O795W87T1B31D8W7g27D1C2A2WP003F1B396ZM0Y9WX5Wij1W0ZmA1bV71ct1Ep1XmGmEWmHaZ94duQzfsG"]

/-- Whether a character has a visible form of its own. -/
def isPrintable (c : Char) : Bool :=
  if c.toNat < 127 then 32 ≤ c.toNat else !unprintable.contains c

end AccessControl.Text
