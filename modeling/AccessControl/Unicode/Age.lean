import AccessControl.Unicode.Table

/-!
# Ages of characters

The version of Unicode that a character first appeared in, up to version 16.
-/
namespace AccessControl.Unicode

open Text (CharSet)

/-- The characters that are new in each version, the oldest version first. -/
def ages : Table := [
  ⟨["1.1", "v11"], [
    "0l53TWOXQ6WF09LX7P1H1302046000J0WC06200000000HCB0X30B0W98WL11112R1711WNW6160W700W6908BQ44M0D0200P4ICD1X914",
    "0E0T19lM20WL1H142OF207111L060023100611128031041K6015311L0601010110043112A3006EB20600020L06010419020210E049",
    "G207111L0601131721127131023AG10522032100012122270234220380EBD207020M0904360203618139H107020M09043602036160",
    "0139H107020M0F351203807139ZKWQ3SW51001100105306020000110C021400051911jFW69W7303XR4X54XJYb8ZU4XR5L151W61517",
    "0000000U1WL0E0D150I12080WF0MW362QGAW5HTWPPWGCXSKcOD00YRZ8W5QAKZEKZP9XHFJ5XNZK3031R0W30003200616DU2N0DXb4WO",
    "600XL351Y05W83Y00FY2S2W4RR2WIEB3WF0YP3Y51UbxMqs7mZCbz5bN6B45O040001010YEW1gNFX11WMW8BW43BK390I0332000ZA100",
    "Y01Y0251515122606D2"]⟩,
  ⟨["2.0", "v20"], [
    "WjUG0CJ0Xj6X90W16Q35000K2600YyQ0lU0WbYHgoBXly81XbaU1XbaU1XbaU1XbaU1XbaU1XbaU1XbaU1XbaU1XbaU1XbaU1XbaU1XbaU",
    "1XbaUZhh5"]⟩,
  ⟨["2.1", "v21"], ["dqP0Wxk20"]⟩,
  ⟨["3.0", "v30"], [
    "l63T71HYN4WH094XO8I0YM020000000T0B0X30B0WA113XT1a00bD2Y4140E0WA40D0T2QWLWHWm010H2N08001620350007H2h00WB0M2",
    "60020E10WGW2040106235PiI60X000031600031W700031U000316000316060M0U0003160W70I5RW3XMBp98S2XIZIXU29LE095XP7WA",
    "XV20N5Y12WI1XM1X90Y98dK0YR00TZD1jM7W10XN1hPd7WjCP0XQBbRPBWS220gBNnPbv9qxGWbH2H1F0B0200rzT0We22"]⟩,
  ⟨["3.1", "v31"], [
    "WWK1XZm8W0WfOU03BQaPW61W6Wsd3cS9W72aOmIXM0X8011011130B0003010X20317060R030400260fR3eA3WIfp9WiiNqo6mEtcr90T",
    "Y2"]⟩,
  ⟨["3.2", "v32"], [
    "mH0eM0ICYA1R0ZM1WP11111WHFg81fA0XjG1WnNC06AM8JBC0201XfQ0543064C0WU1WI6XJEaCBcODYU0TWKe4JZQ9XP7L1XRB19c4DXR",
    "R3Fd7lFWh52XO171Y00cMFXIEXIEzfD1F0B020rsAWRyD02FWL1WC0cH1"]⟩,
  ⟨["4.0", "v40"], [
    "mI0H2YP1X0GXH742ZQ4lJ388X12ZO1E0WD2S2j10aS0X4000ZB0XL2C0X40WR0Z47b61XyP0H9dDS2B3B302WA14YDW0tNYEsT1cC0q71e",
    "M0dR1YM7D1Wa1DWw81WH0WB1XF3aB3Y51U0bvJX1Wkw90XA1j4B0P0I010E1DW2YT423WD28nHT00Z91W6XH19wG5100WC012010WsV9XO",
    "gK0vtZ3cM"]⟩,
  ⟨["4.1", "v41"], [
    "n9AdT4a33cS1aE0W22X40H0WQ5cNTlU0XH0kL0WF0WW81eF100dH0X00X00W70U0U0U0E0W70M1UPWmLWA5P5931W0R11w6XPq5106WH4S",
    "3WL0XH0E0pNAnD0Y71HA4FdL6w15cIWF0WFW1YDDWD9WM80FM8606060606060606W1N31yUFaI0yXBLWxUMcFWCqxAYCvF9uUXCm5W43D",
    "WoR30147020Q323878WraMX7Wa11"]⟩,
  ⟨["5.0", "v50"], [
    "nKDeJ2fQ0WA5F3aA0lKWRhB101wS1C1Ys0XD3WDnO6WJ1t33XU1WL0o9Bs00dR3w3643f5C63WWpI341e6WOur4P40bXRxAZKY5C3WknFH",
    "WZQ1"]⟩,
  ⟨["5.1", "v51"], [
    "xC311XO0aR0ZFFc84A4W04eMHl01c40W30bJ0S1YE0YE0P171J7b2050S1B526kP1Y3022XE040106235PX131XZB0sBWB2BX7WO2E2WJf",
    "KRaP3XR5gE0ZE0Y00WL3WfS0K923dF0U3v443W924e020235gCW0N31ItJ0a6Jyd27Wh6eKJW01H7RZ641YDYG4Z3X68BW6XLA0a4WN8D1",
    "913reM2x4BWKWEZ5S2WHWq2P40WrcQ0dbJWC3Y6"]⟩,
  ⟨["5.2", "v52"], [
    "WgE1sGWE1Eb60XE050W31Z30Wm83b63b14X54XJ5lF0p98n1X7aO1WE0X6X00S1A595DmIW3dH0rD2ZQ2WM0oG0rA1S2390I003NXO0WWS",
    "4dT0C1YD6f80WXIByZQ7WfCWGiCXPf19aARY6S2XF0A31Z3R3X4N4c6WE19goTM3WHeaA2Yq3L08aU1fDW0Z3WM2S1Q47Z3XAm7UlGX3de",
    "UWYGWoe7A4U10A0001020247060O001109310YH0EW2D8WmZAZeP"]⟩,
  ⟨["6.0", "v60"], [
    "WgG1cU0WU0kER10c11I051Q4l95iT0F0I0nE3XA1xT1Xc5WK73lB0qC7R0v8AsG0I003S031R0W30003281WK2N0D0D1WkD0D0WYP2WVX7",
    "1eJ101D9XH0tT515158606qiQFah4XF3Tsf2nAnn61mbIE1D1E0EXH00A00010202470609580011093109XCP01WF8K1aIW1E50X72JBW",
    "504KGEX0000aQ032WUHNZM40F0200000002051300130B3AWGX7WQYMWpXQc4"]⟩,
  ⟨["6.1", "v61"], [
    "WjS0YM0qF00AWNQl00WWC1kL040WF2Xv22B5d77WB3XwC000WgD1WJ040WO1bF9zcO0WsS7W30cO1L0XE1sSMqY41ZXDWO51Ww9O695WL0",
    "DWSXA69WcBWO79skDX6AWFFGWXpI30Q0100100903000050300000020100100000000001001306030300090G42040GWK1pB1WVI3b10",
    "F0200000002051300130"]⟩,
  ⟨["6.2", "v62"], ["dr80"]⟩,
  ⟨["6.3", "v63"], ["WoE0cV13"]⟩,
  ⟨["7.0", "v70"], [
    "xR0iK7XU1YO0qF0A5XD0YQ060pI0WJ0XD0Z20cA9XhA7mK1hSEnA1cJErQ2vF6tS0WZE29P1W01W22B07oS6WWWL5cSBA211X60kMUZ03a",
    "KWG31rWB6wN1I0f8RW30WGWBhGW87WKA0ZJf08L97cUX078jTW0W0W73BZCH63B6WdL0bLW7XN0B05JAH0WBYKWR496207111L06010418",
    "111280461624dIX979aAWM1HWMX6A9nNXKB0jDWPXcQWAbFB40nnAU0931Y2T159X799060K4Iqi7YD4C286917gm1bA1FXY80W0LK1m4B",
    "80X70LBW50434BG6X8000aQ031X0136SH0W90XNX71CWGX79FC23ZFXMWBB3WO795W87T"]⟩,
  ⟨["8.0", "v80"], [
    "XeQ1WE0m50gA0dB0WsA015Yh80bG1XsK3zvO8WtU0cM0W25fD1oK3BXHqyL1Xv7I0144b111F1WEpJWJCWJ65WdF3D4a4600030E0AXN0X",
    "G0pCJeAP2E3FYdT0cCb9daOnOWbaMAWo8q0E40Ebl62XF1XG4W47d60XC4cP1ZE0nG8Y94WR0Wor2azQ"]⟩,
  ⟨["9.0", "v90"], [
    "XeT7LEyP0bJ03206M2ZV28gS0WnF3XrN1WWfI0dT0sp31uPW43W4YlE0jEXR0000lHCWk080WD0D9S2W01L0DrZM0UbgHItArpA60G1601",
    "04XfSXC4931XaTHZH0vN0W90eK1W12mI507701B0B3EW6C"]⟩,
  ⟨["10.0", "v100"], [
    "Xc5AhS1d35lF0WQ1ZaQ0d53rQ0vO0XXH0p54sQ0yjNKviK2bXBX97WK1M04oF6010WC20010879qzF0mXGe5XIhNlwE5WaG1W21lMBI077",
    "01O0HCW65WOMWuq5ct1"]⟩,
  ⟨["11.0", "v110"], [
    "WiC0W70Y80lS2bO0eI0YP0hO0Z20YaK0WXNWB12YzK2LO3EnS4sM0ykC4XWT071fD1uwL1H0rCW879jJW87WAgT0YO2l30eA0rG0cBWSoJ",
    "0rN5010W5010569eUOqYKXSbs24oyNJZ16bp5X5WaT0WlN0c13gU2R4132003NAC961W4OY2D"]⟩,
  ⟨["12.0", "v120"], [
    "YeT0lT010100530606110C0YtJ0Yy70WL0o10WWfJ514yR1vsKMWaB0oA0sT71WE1Aa31Wh4WIC0agL8krI530WF8XR1bhJ5gVC2G3hq0W",
    "D2D1931gQWQ40WpT0zIWTWYF0WiJ0W40cBBe92WF0WH080W9521952712WGXLR33242C5"]⟩,
  ⟨["12.1", "v121"], ["in40"]⟩,
  ⟨["13.0", "v130"], [
    "Xf69q10iQ0YU0Yl91Zk00rD2x34ciR9qwLCXX93WA1WL0vK3ryM0YiCWA0211d5Rh60Z91pT041Wc361017010T011B89Wq90qg80A1caU",
    "kHWA8voS2XU2WT0WgH1W31j01XR0Y7031WA152S0aC0D3EI6682C6W9ZM0WNW59WjkU6ss1aZ9"]⟩,
  ⟨["14.0", "v140"], [
    "WoF0o4U0157K0HAx40W00Z20Xr206080cL0r6DZ00WG1pE0rQ0YWB0WF0l2Azd82XWU1D10004N2rf00h8FZ20WE1WzCA0E06010A0E060",
    "1jG50WA08XWJPcC5XD0Wn60Z96x4FalQY5kmUXG09ni030601e83cyIWE1M8YMmL1Yk0UxCUWgQ603010EYyN2dN0hJ0XJ0aI1WC39372G",
    "25776WjtH1ZfQ3"]⟩,
  ⟨["15.0", "v150"], ["YiT0k80XbcG2vO2Xf59WWLG0W92Ram008SWXd20W20dwSJYdL5dCWUW10WZ2WAZsK0ZQ234XQ0qF2E1W42A200D191B0D1WoZH0tlDZg6"]⟩,
  ⟨["15.1", "v151"], ["ht83kT0azy3p1"]⟩,
  ⟨["16.0", "v160"], [
    "XdT0ZzF1WF0dG1XVP2YpA1WVhH2B2uV9WKWy7W62S71eQ2WN0Wb7900100W609001003090171t4JWe3W2D9wQ0anHZZQcrJWQYb8WQdh8",
    "0lt7d15j1bZPWB30ZzB931jK040WE060K01080c7W5"]⟩]

/-- The characters of a version, old and new. -/
def age? (name : String) : Option CharSet :=
  let isLater (e : Entry) : Bool := !e.names.contains name
  match ages.dropWhile isLater with
  | [] => none
  | e :: _ => some (.unions (((ages.takeWhile isLater) ++ [e]).map fun e => CharSet.ofRuns e.runs))

end AccessControl.Unicode
