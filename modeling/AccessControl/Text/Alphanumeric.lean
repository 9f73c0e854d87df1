import AccessControl.Text.CharSet

/-!
# Letters and numbers

The characters with the property `Alphabetic`, and those whose general category is one of the three of numbers, in version
17 of Unicode.
-/
namespace AccessControl.Text

/-- The alphabetic characters. -/
def alphabetic : CharSet := .ofRuns [
  "X3P5PWF090304M0U0jN3BD46000XN0SH0113005002000J0XK0ZE7aA0W6105W9W7D000101007Q33SA4WO06DY80737329210FWGCY7NW18",
  "1304N1IIO6A4N06607WA9B265XD0F023ECI07111L06002327111100703104B1903205311L06010101343111306300G5A208020L06010",
  "428020120E3K33207111L060104271111813104C0F105220321000121222B3422022050W8C020M0F27020271020113R307020M090427",
  "0202714203C2BC020W9170202004364L5020H2N080016750007H1CWQ4650WJ100040N000I02140050D3W00X070W43I3F0W4X4WN0014F",
  "X1931W600401WB0fM031600031W9031W1031600031E0WP031X4W5FFXN152oU1G0P4XC2A6JAKBJBC0201BWK1ID030X4XQ6WB4X79U0B38",
  "MT14AWC3PWMR3X01JWI0M1A2WHWK0E07WJWA139WC0ADWNL29W41A4WB12W930501204b5IW2AdT151W615170000000U1WL060022062315",
  "3C4206YM0C0FCY7030190024500000030A134430GW9v6WKWwFcB5321BW600401WO60FM86060606060606060W0WF0k32O864143XN520X",
  "R034WB0Y0GW0WGFlFbvJX1sWMX4WE1dK2F91JWF472YJW781Y91XJJK0W1NWKBX500WC520029W14W3CS2WJ0BE0FF940WN8DHM2X60000N2",
  "1F13A5151586060WB0D5YTKgoBBM3WHdtJgO1YCW66B44B0C040001010YEW1gLHX11WMW8BYM40ZAW4P5PAXQ25151512W3B0P0I010E1DW",
  "2YTX6WLdIS2WHWFW0CT4WB4T1W43704WAa2HW43W43W87WKBA0E06010A0E06012WKBf08L97N50WA08X65100WC01201M9M8UX2I019L9P5",
  "PW6WO51X130147020SWAS2SW370RQWM9L9ICHYGXAWNWJCWJCW8W2R204Md1WA0121F5WI22S907LWAHWEKQM8X7WB49WP80COMWJG37W320",
  "8X103819000W3H0W21053WU600030E096WPM307111L060104271111205046R900100W609001003012000WCX30203J2TX31100aSWM16O",
  "5W2X00020WRWM10X8Q1DK6aTWPY9X1U71017010T011113XU71WE150001QWJ19GX940HXAY97XPW1U80WD0600WHT1L0DXA6010WC200102",
  "0011N5010W5010300MWCdBM8G0W922YH0XGyMY8YHGb9Xs0Y3EWYHG5OZZQ4nOcYKWFWu8nA6UGXGGTHWGF3UK4IiSWDbOX1W0O1OWCXC3WP",
  "6GX1100B68cq3W9W0Y3YLeWK306010eBE0S210D37hNXhDYD4C286930bc1XM0X8011011130B00060X20317060R030400260fT1O0O0U0O",
  "0U0O0U0O0U0O07WxEU55bQ60G1601044WUW10YIWD96F0fATHWCkIRcAT10bKU0L71c6603010E0bAWRX52020WcP30Q0100100903000050",
  "300000020100100000000001001306030300090G42040Gp7P5P5PYvCWij1W0ZmA1bV71ct1Ep1XmGmEWmHaZ94duQ"]

/-- The digits and other numbers. -/
def numeric : CharSet := .ofRuns [
  "WH9YQ14012WkE9Z99bB9i89YO935YE9YO9YO915YGCYL976Y99YA66IYF9Y29YO9X7JdJ9X79s5JxC2cL959L9eK9Z3Aa9959aQ9XN9Z9959",
  "WXM02559bBWJ14sCWSXFLp9TWiK0u10O8D2g13ZD9T70EW09W7EzrN9b19f95ZT9W69bB9L9XN9i29rZ39kRWDBWPG1fUQW43S070Z94bF9z",
  "B7O6W78XC4L5a411F1WEX18WK1T2XC4YA7N7W96fJ5WG959dTUa29WA3YI6Z9TZ39WS9ZJ96Jd29g09YO9h19Y895JXDBiGIXU9qA9XNSc99",
  "X79WM9gG9Y8KWYCYHlaL9XiG9XN9Z9906lT9dDMg72tsN9WlKJBJYEOWZNWIXjB9iI9l59cT9s28Z39uFWR0203XDWD0EWV0CXwR9"]

def isAlphabetic (c : Char) : Bool :=
  if c.toNat < 128 then c.isAlpha else alphabetic.contains c

def isAlphanumeric (c : Char) : Bool :=
  if c.toNat < 128 then c.isAlphanum else alphabetic.contains c || numeric.contains c

end AccessControl.Text
