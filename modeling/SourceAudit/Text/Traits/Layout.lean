import SourceAudit.Text.Trait

/-!
# SourceAudit.Text.Traits.Layout

Direction, width, combination, decomposition and numeric value of a character.
-/

namespace SourceAudit.Text

/-- Direction and width. -/
def directionTraits : List Trait := [
  .ofTexts "BC BIDICLASS"
    ["L LEFTTORIGHT;AL ARABICLETTER;AN ARABICNUMBER;B PARAGRAPHSEPARATOR;BN BOUNDARYNEUTRAL;CS ",
     "COMMONSEPARATOR;EN EUROPEANNUMBER;ES EUROPEANSEPARATOR;ET EUROPEANTERMINATOR;FSI FIRSTSTR",
     "ONGISOLATE;LRE LEFTTORIGHTEMBEDDING;LRI LEFTTORIGHTISOLATE;LRO LEFTTORIGHTOVERRIDE;NSM NO",
     "NSPACINGMARK;ON OTHERNEUTRAL;PDF POPDIRECTIONALFORMAT;PDI POPDIRECTIONALISOLATE;R RIGHTTO",
     "LEFT;RLE RIGHTTOLEFTEMBEDDING;RLI RIGHTTOLEFTISOLATE;RLO RIGHTTOLEFTOVERRIDE;S SEGMENTSEP",
     "ARATOR;WS WHITESPACE"]
    ["941L131L1M13E4331L1M2E385E17151725A6156EQ06EQ04E6413Q4151E484E102E142E28261E103E16105EN01",
     "EW001EjF02E70EE20EE509E10HEYJD402E801E502E101EYH01EZG07Dd801E202E181HWED1H1D1H2D1H2D1H1DW",
     "PH622E11281115112EBDWH1LDA21822311DY817D121E6D212D1E4D21A6N11DU1RDXT1BDF1WCH9D2H4E3H1DOH4",
     "D1H9D1H3D1H5DWCH3D4HWH122519DWB1OD12W1DWO01D101D408D401D307DA02DT01DWR01D404D801DK02DE028",
     "7018201D202DWQ01D402D402D203D301DU02D301DB02DWQ01D405D102D401DK02DD018806D101DWR01D201D10",
     "4D801D702DB02DU01DWU01DC01DW606E181E501D301DWO01D103D503D104D702DB02DK07E201DWR01DF02DK02",
     "DS02DWQ02D404D801DK02DT01DXA01D703D101DXS01D207D4018708DY501D209DB07DXB02DR01D101D101D4EW",
     "K0ED105D102D50BD10W5D901DY904D106D102D202DP02D403DG04DD01D202D601DF01DrL03DWH0AEY901EpJ01",
     "MQ02EYO03DT02DU02DU02DX202D107D801D20BD7018101DI0AE60BE3D141DYO02DW301DYP03D402D901D603D4",
     "01E302EZS0W3EN02D201DWR01D107D101D101D208D60AD201DWH0WFD20CDK04DWH01D105D101D501DW909DC02",
     "DW104D202D103DWP01D102D301D103DWR08D202DZS03D10DD107D401D601D302DbC0X2DjB01E103EB03ED03ED",
     "03ED02E10BM34101HOE1M131A1I1F1C1K1558FE15QE1M641B1J191G64163066273E10A6273EH0W281EE8W2DF0",
     "2E104E102EA01E103E506E101E101E101E4018B02E405E504E20GEWA03E40Z6E1718eBEX70QE10ZOEM0BEL0W9",
     "EK6XG0jGE10fTEd80p8E20ZEEcC06E403D707EZ301DY30W1DY1EW30QE10XREC0bSEQ0GE1M4E30PE904D201E50",
     "2E503EXR02D2E301EXS01EbA0W7E901EWE02EWI0GES03EWJ0FEC04EaC04EY602EW001EbvK0X2EsWQ0WOEfG03E",
     "Y204D1EAD2EU02DXI02DE0W3EY901EYS01D301D401DP02D104E1DB028WR04EXE02DQ0IDD01DW708DP0BDWF03D",
     "WH01D204D202DW801DX506D202D202DC01D801DWG01DWK01D103D202D502D101DWB02D801DYM02EYS01D201D4",
     "01DqXS01H1DAH17W7HYM1GEgM1IEX212EWN18EW14D13EGDAE60GDW1E151E15101E159E182E273E101E281E40Z",
     "J114102E385E17151725A6156EQ06EQ0BEYT0283E28107E10945E24d901EX00XFE30DE301EXU01Dc901DR6YT0",
     "5DWbA0e8H1Ec8H3D1H2D5H4DW9H3D4H1DaAH2DXKH7EjEHW514D81A261WAH5D10W0H20bMHW02WDH2DJHG19EW21",
     "6DWHHM1BDW01IH4DYTH101DWN0FDB0KEA01D202DA03DWI04D202D701DWU03DW505D108DX001DC02DWL09DA04D",
     "201DY203D201D102D601D201Da201D308DL02DWQ02D301DW607D305DX806DD01D101D101DE02DXN08D203D101",
     "DN01DXM06D101D402D102DcL04D602D102DR02DXN08D201D102DW00DEX001D101D206D101DY803D204D105DdB",
     "09D102Dd802D101D401DZK04D202D401DW106D202DW906D204D801D906D203DWF0DD102DbC01D103D101DbF07",
     "D106DXM0MD207D102D102DYT06D301D102D107D101DXA02D301D101Dg602DB02DWL05D501D101DN01DYT08E48",
     "HEahL01D60FDgxP0CD303DXnG05DWS07DWXP01DX104DXH01E101DpiH02D1044ZXQ0cNEA03E30j2E60NEF0HEF0",
     "WFD20NDmH03D90848D207DU04DWS02EL0X4E3D1Eb00XPEy101EWQ01EWQ01EWQ01EWQ01EA0WJ6lG0WOD40WJD80",
     "1DE01DM05D10FDWhR07D10HD207D102D105DY701Da507Dh301DWU04DF018kR04Dd602DcQ01D201D702D501DdI",
     "0bMH7DYGH7DuUHXI1X2HXI1aLHcN12EE1d8HWDE40Y7EC0FE20FE10FE10W6EA0B65EW001EWR06EWU01EaN06EZU",
     "0WVOE30HE30DE30c1E60CE401EF0CE40WPE80AE60W9E80UE20CE402EE09EW80g3E80EE20DE30BE30WQE101E40",
     "GE20CE40AE70ZNE10XUEA61EWX4024Xbb0024Xbb0024Xbb0024Xbb0024Xbb0024Xbb0024Xbb0024Xbb0024Xbb",
     "0024Xbb0024Xbb0024Xbb00dA4cNDYs44XWxR024Xbb0024Xbb0024"],
  .ofTexts "EA EASTASIANWIDTH"
    ["N NEUTRAL;A AMBIGUOUS;F FULLWIDTH;H HALFWIDTH;NA NARROW;W WIDE"]
    ["W10Y24W3011241124211011101421145110511041601190116021504140111031102120111021304110111011",
     "2011F01110117011A02130115031401160411011304110114021I0213011Y5011101110111011101110111011",
     "1011YN011F011Y50112011103110112011704110111011W10YJ1W20H1107170H11071WO011E0X211011YgM0Y3",
     "5Yx90112041102120212031104180111021101150112011WM011A0111041W50132011XO011101130119011201",
     "1A02130114011W8021604110C140A1F01160A1U021O0111011I011O0111021302120113011101130114011204",
     "1201110111061101150414021A01130115011D021204120212021I0212021D0113011B011P011XK0117025D02",
     "5b404530152015YF0ZE110Y4140W51C0G12041A02110718021202140212021403120112041G0419011D025602",
     "120114021402560111011W2011101150C5C0211031104110211011F015J015A02110158025H02511402581155",
     "115D1101140211571251115411521152150154025S015K011E015101540351015U0A1L035O015E015W7084i40",
     "24i1025WK015401541v00Q510XR5C0bS5Q0C54012X0520XO520YA550WC510Y1510XM5C0WG510W9581ceI5X20s",
     "WN530WO5WbU0T5pN0goC5Xc10bpE1lG5tO0G1A5M0W4510J51045ZP0Y32Y13306320632063203330721073E011",
     "ytT055B07590cq45WA0W15Y40YM5eWL0451075102510eC5F015T0352015E04580hO5ld0015bG015WH0B150U12",
     "0WR160U11521A5I1XL035D0WD540957025E065ZU0W25C09510X8510M5C0WC54055C0H5301530X95101510b152",
     "0X15D04510O5I015Q025D015XO0XN5WH0X856015303520453045B0257095cA0C54015e40WG510A510aU5YJ0D5",
     "30B530WQ5101540G520C540A5WfG0Xbb0520Xbb05rVbU0cN1Xaq20Xbb0120Xbb0120"]]

/-- Combination and decomposition. -/
def combinationTraits : List Trait := [
  .ofTexts "CCC CANONICALCOMBININGCLASS"
    ["0 NR NOTREORDERED;1 OV OVERLAY;6 HANR HANREADING;7 NK NUKTA;8 KV KANAVOICING;9 VR VIRAMA;",
     "10 CCC10;11 CCC11;12 CCC12;13 CCC13;14 CCC14;15 CCC15;16 CCC16;17 CCC17;18 CCC18;19 CCC19",
     ";20 CCC20;21 CCC21;22 CCC22;23 CCC23;24 CCC24;25 CCC25;26 CCC26;27 CCC27;28 CCC28;29 CCC2",
     "9;30 CCC30;31 CCC31;32 CCC32;33 CCC33;34 CCC34;35 CCC35;36 CCC36;84 CCC84;91 CCC91;103 CC",
     "C103;107 CCC107;118 CCC118;122 CCC122;129 CCC129;130 CCC130;132 CCC132;202 ATB ATTACHEDBE",
     "LOW;214 ATA ATTACHEDABOVE;216 ATAR ATTACHEDABOVERIGHT;218 BL BELOWLEFT;220 B BELOW;222 BR",
     " BELOWRIGHT;224 L LEFT;226 R RIGHT;228 AL ABOVELEFT;230 A ABOVE;232 AR ABOVERIGHT;233 DB ",
     "DOUBLEBELOW;234 DA DOUBLEABOVE;240 IS IOTASUBSCRIPT"]
    ["tO0LWK1WL4WF1WL1WD5WF2WB4WF2WBBWF514WF8WK1WO1WK3WF3WK2WF103WK4WF1WK1WL2WF1WK1WM2WN1WM2WN1",
     "WMDWKdR05WKdH01WF4WK1WF3WK1WG1WF6WK6WF2WK1WF2WK1WG1WJ1WK161718191A1B1C1D1E2F1G1H1I101J101",
     "K1L101WK1WF101EXA08WK1Q1R1SWH01N1O1P1Q1R1S1T1U2WK2WF5WK1WF2WK1WFG01W0Y807WK204WK1WF1WK202",
     "WK101WF2WK1WFW401W1U01WK1WF2WK1WF2WK3WF1WK2WF1WK1WF3WK1WF1WK1WF1WK1WF1WK1WF2WKa507WK1WF1W",
     "K901WFO04WK109WK103WK105WKWC03WFWS02WK3WF4WKWB05WK5WFEWK101WF2WK1WF2WK1WF3WK3WF1N1O1P3WK1",
     "WF2WK2WF5WKWT013G015301WK1WF2WKYA013G015WH01WKWU013G015YH013G015YH013G015Z3015YH013G01570",
     "1W21W3Y8013G015YG025G015Z0015YG02W415D04W5YF02W615D04W7XE02WFR01WF101WF101WDWO01W81W9101W",
     "A504W9201W9102WK15102WKX001WFYJ0131025XK01WFs603WKzI025U015a2015A01WKbH01WJZJ01WG1WK1WFc2",
     "01WK1WFX9015K08WK201WFWH05WK6WF2WK1WF102WF2WK2WF5WK1WFIWK1WF206WK1WF4WK1WNXA013F015W701WK",
     "1WF7WKWN025WR013B025X5013ZS03WK10115WF2WK4WF1WK1071401WF601WK302WKbC02WK1WF7WK1WF2WK1WN1W",
     "C1WF1WBW6WK1WL2WJ1WF1WE1WK1WM1WF1WK1WFs702WK214WK312WK401WK30211WK1WF1WK214WF1WKYb103WKZH",
     "015Y30W1WKmR01WE1WJ1WL1WG2WHYC024WVh101WK40AWKW102WKXI02WKdS015W6015ZR015R0IWKWQ03WFW6015",
     "Y2013C015cM01WK102WK1WF202WK502WK101WKWL015cT015qXT01MtP07WK7WF2WKWVC01WFc901WFZP05WKWs80",
     "1WF101WKW901WK111WF4015aA01WK1WFnF04WKX305WKf702WKXF02WF103WFX802WF3WK1WF1WK4WFWI01WK1WF1",
     "WK1WFb6015WA015E015WQ01513X703WKWH025X0013XE0159013YD01513aN01315XI023G015O07WK305WKXR035",
     "YK0153013N01WKY601513d301513Z2015YP01513YM015dL01513dA0254013a1015XL015I015XJ015iI015dA01",
     "31025XJ015iM025mmC015XnG051WS07WKWd0022pi5011alH02WD31301WI5WD808WF205WK2WFU04WKZO03WKYpC",
     "07WK10HWK207WK102WK105WKY701WKa507WKh301WKWU04WKlC02WL1WF1WKd601WK1WFcQ01WK201WK702WK501W",
     "Kk907WFYG06WK13WXazF0"],
  .ofTexts "DT DECOMPOSITIONTYPE"
    ["NONE;CAN CANONICAL;COM COMPAT;ENC CIRCLE;FIN FINAL;FONT;FRA FRACTION;INIT INITIAL;ISO ISO",
     "LATED;MED MEDIAL;NAR NARROW;NB NOBREAK;NONCANON NONCANONICAL;SML SMALL;SQR SQUARE;SUB;SUP",
     " SUPER;VERT VERTICAL;WIDE"]
    ["a501B7012101G4012202G2220122G10361061109110612051206110911061205110H120K12091102241106122",
     "206112206120I120N112W1021D021J092G1106120B1322120W51202160E1Z009GW0062205GXT0211021WG0115",
     "012301150126110111031P071P05110322122P032102230126021101130114031A011W0011M02110113011403",
     "1N021XB021D04120212061206120C12021ZH012ZU051XG042X90111011G011o801170112011W4081YE021F021",
     "1011XL0112011W30312011cG0112021F021WN011WM031YU011YQ01160211021Z2031ZH0111031XM012Z3012W9",
     "022WF01BWN0119011401140114011C011901110211211127011H0119011401140114011C011YF011bR01GXpR0",
     "1110111011101110113011W9011101120211011kN03G10BG10IG10JG9FD01GW30W6GX20ZU1121140XS160M120",
     "6120W712061208110111011101110W0120WM110711211224110E1206110J120311081121021521B32601B5012",
     "C032801B30221022401210128032D0127012G02G20CGTFB012XP022151210321012A51015122055201G121G10",
     "1510111015102125103510254215101255405560G6W129016G021I011U031WL01140112011N01110115022102",
     "2G011201120111011M0111011A05120212021602120212021W3041WH0416041WS021eU0K3X42WM3WgB012YA03",
     "2Y8011iC01F1GcO01GeO012XL012C0bS2WB01IWM0121032H01110111011101110111011101110111011101110",
     "11101120111011101160211021102110211021M011602210111HC011101110111011101110111011101110111",
     "0111011101120111011101160211021102110211021M011204130111HWI0Y1230EGY30W0210W5243801EWF310",
     "X23C24EWG3XREP2YIEW021EzlE02GbO01GZ503G302GwT04G901GZQ0goC1dwF0dM12011101120A110111011202",
     "130X6120YD1W7072C05250111011A5D1105110111021102110911218141814171918141719181417191814171",
     "91814171918141719181417191814171918141719181417191814171918141719181418141814181418141814",
     "181417191814171918141719181417191814181417191814181417191814171918141814W2018141719181418",
     "14181428141814181418141719171918141814181418141814181418141718141718141719Y78WK4XA7M9S8S4",
     "77891418I01714671417242724271417141724172417141724171427341754175417241714371447204724174",
     "417M42724171417843724W90D8J0AHM0LH202H723D10JD104D401819181018101819181918191819181928141",
     "81418141814181417191814181417191814181417191814171918141719181417191814171918141814181418",
     "14181417191814171918141719181417191814171918141719181417191814171918141719181417191814171",
     "9181417191814171918141719181417191814181418141719181418141814181440Y3IY1A306A206A206A203A",
     "307I107AXVG05G10WBG109GXg80111011E011Z6021mC021gP0211011d3021xO011WnWL071XO061nH0XN510X95",
     "102520152025204510C51015107510X3510452085107510S5104510551015307510fU520eD520WJ5XaJ0W2GQF",
     "3GYo204510R510251015201510A51045101510156015401510151015103510251015201510151015101510151",
     "02510152045107510451045101510A510H55035105510H5nM0B250R24310W1EQ03GW401EYI03ED0WDE4092702",
     "3XmD0A5XaZ70mF1zveF0"],
  .ofTexts "INSC INDICSYLLABICCATEGORY"
    ["OTHER;AVAGRAHA;BINDU;BRAHMIJOININGNUMBER;CANTILLATIONMARK;CONSONANT;CONSONANTDEAD;CONSONA",
     "NTFINAL;CONSONANTHEADLETTER;CONSONANTINITIALPOSTFIXED;CONSONANTKILLER;CONSONANTMEDIAL;CON",
     "SONANTPLACEHOLDER;CONSONANTPRECEDINGREPHA;CONSONANTPREFIXED;CONSONANTSUBJOINED;CONSONANTS",
     "UCCEEDINGREPHA;CONSONANTWITHSTACKER;GEMINATIONMARK;INVISIBLESTACKER;JOINER;MODIFYINGLETTE",
     "R;NONJOINER;NUKTA;NUMBER;NUMBERJOINER;PUREKILLER;REGISTERSHIFTER;SYLLABLEMODIFIER;TONELET",
     "TER;TONEMARK;VIRAMA;VISARGA;VOWEL;VOWELDEPENDENT;VOWELINDEPENDENT"]
    ["WE01C20AOY901CH02SW401CXaB0321W1HW4W652W31N11FW31W02W31024203W3852W42W320AO206W4851C221W1",
     "108W4202W4202W4K5107510153045201N117W3202W3202W31W016801W3402510152W42W320AO25A012101S202",
     "21W1106W4402W4202W4K51075102510251025201N105W3402W3202W31W030147045101570AO121I2C101BB022",
     "1W1109W4103W4102W4K5107510251055201N118W3103W3102W31W0I02W42W320AO9015141I143N10221W1108W",
     "4202W4202W4K5107510251055201N117W3202W3202W31W0703W3402510152W42W320AO1015G0121L106W4303W",
     "4103W4153025101510253025303530C5405W3303W3103W31W0901W3E0AOG0321W1128W4103W4103W4K510G520",
     "1N117W3103W3103W31W0702W310352016202W42W320AOG0321W1108W4103W4103W4K510A51055201N117W3103",
     "W3103W31W0702W3601615102W42W320AO102H12C0321W1128W4103W4103W4W752Q117W3103W3103W31W01D503",
     "61W3703W42W320AOA06610221W110IW430O5109510152075301W0406W3101W3108W360AO202W3D0WF510AW31Q",
     "506W3101W34U1A121Q10AOW80251015105510O51015108510AW31Q1W32B205W3304U10121S10AO2045X20KO10",
     "1S101S101N608510W5540DW3121W12W3221Q112058BF10W5F901SWQ0W25AW4BW3121U1W11J1Q4B15AO101C201",
     "C10254W44W3453B151W32U252W35U354W3D51B4W37U151UAO2U2W3WqM03W4F52W32Q90153W4F52W31QB03W4F5",
     "2W3C03W4A51035102W3C0W45HW420GW3121W11W32R1S1G1A3S1Q1J1S80111S20AOdU01CU5109W33F402712771",
     "W31SA0AOJ5BW2205TB0WD540HW3772U60BOW60N55W340WE56W4252B1F27194F101JJW3125U1Q2S201SAO60AOY",
     "9032171W1EW4W251NFW31W08530AOW7012171W17W4N53F6W31Q1J2F25AO113527W552W41N9W3272QC0W552F7W",
     "377221S1N80AO3035Z403410E4G026142H341Cd801Sm101M1K205CY201SD03SYE014We301CWYq602W41W33W41",
     "W04512N55W3401QJ0U54W2451W22F851F1512C0121W1GW4W351BFW31W012A0AO60I422A01W41W3AOO59W23U20",
     "N58W3471QWD022171W15W4353W4W551N9W33B1W0F0AO60551W31095AO55106W4W45AW34B90E720AO60G510353",
     "C30153UWJ5FW31U1T1U1TT02W4955W3501W11JbF0E52W4151W495878W3101U1Q20AOuWE0153W3102W3502W312",
     "1W145103510T5203N401J9OWl60221W12HEW4W65EW31W0B0K3AO1Q2W42W315901P221W1AW4W459W31W01N701W",
     "3WU0221W14W4W15CW31J1Q10AO40152W315805W2U51NC0221W1EW4W35DW31W0112E501S1N2W3101W312AO70KO",
     "B08W4A510P58W3121W01N1I6014151W41W3X004W4351015104510F510A570AW4W65129W31N1Q50AO60321W110",
     "8W4202W4202W4K5107510251055102N117W3202W3202W31W0901W360222W42W320743054ZF0EW4W85DW31W022",
     "1W11N1180AO401S122HW00EW4W25FW3221W11W01N11B0AOaB0EW4W257W3204W3221W11W01NN04W42W3W30EW4W",
     "35DW3121W11W01W3F0AOW70AW4W25121W19W31W01N1570AOWN0R5203BBW31Q40CO4075aU0AW4W35BW3121W11W",
     "01NbB07W4201W42085102510O56W3102W320221Q1J1E1B1D1B1NC0AOX808W4204W4W457W3204W3121W11W0112",
     "01W3R01W4AW3W951S1Q421W11E4B1C501C101J801W4BW3W956EC7121W11I1J3011gD09W4104W4W258W3104W32",
     "21W11W011F0TO50U520MF107F5W322XB07W4102W4101W4W656W3301W3102W3101W3121W11N1W31Q1J1D1B80AO",
     "606W4102W4102W4U55W3102W3102W3121W11J80AOf00I51C4W390221D1W1DW410W357W3303W31Q1JD0AOWYxt4",
     "0"],
  .ofTexts "INPC INDICPOSITIONALCATEGORY"
    ["NA;BOTTOM;BOTTOMANDLEFT;BOTTOMANDRIGHT;LEFT;LEFTANDRIGHT;OVERSTRUCK;RIGHT;TOP;TOPANDBOTTO",
     "M;TOPANDBOTTOMANDLEFT;TOPANDBOTTOMANDRIGHT;TOPANDLEFT;TOPANDLEFTANDRIGHT;TOPANDRIGHT;VISU",
     "ALORDERLEFT"]
    ["XhA03817WN018171110171417414847111417101811201821A021T01827WP011101714174120242025119017A",
     "021Q018202817WP011101714172140282028113011U0283011B02817WP01110171417411810281E102711K021",
     "M068101827WP011101718174120141C20151D1170281EA021U018WS027182730341035189017W90183718WO01",
     "11038471028191048701811B021T01827WP0111017181E4710182E102E287027B021F017C02827WO028105721",
     "10341035288017A021T01827X80184037281110111017141C14151D1517I027WT01718274831505F171088Y40",
     "17182748311811305F3078XB021R01110111018401714WI01118192149581718192811102850B110W519011Y7",
     "0272821145811171018171A21N027214031103720773048D01117142867111017A03718Wr90182117S0181117",
     "T01811U01811X401748311C1D15342518279810189018fC02811272E283740271167111811YN0573F271F6770",
     "27XF01811141718WQ0141117384120171827482118111754A82011Z404817WG01817283113191B2425181E17W",
     "70181178C02817U017211811141728171021WP01817283718173827WH037241C271178241811ZS03810165128",
     "41181776401160182017dB018tC018WZzC01830184018N0271118174011XL027WJ0G71118Q0I8D018W705831P",
     "03118413827WD03817WG018272821241811131213W5018X50481118241811171421C018801817WE0171817WJ0",
     "181728112F281F172F17281018WA014111814175017cK02718271127101711uWR01621101816503118W901821",
     "WlK0171817WM0486158WA0182028B02817WE0171417212827217011WU038W50382114182918211018G027WD01",
     "1C02817WH017141761381E17102850211811101418XU03711282E18172860182011a2018171417214821L0282",
     "7WO0211027184720242025179017A02720783058b6017141761282711281711N018XJ01714176114181C15171",
     "5281721cI01714174120141C151D281721R021XK03761282718171118YD0181718141721481711Y80111A1827",
     "282114181138d8017141741581721cS05714101415202817101817181311ZH017141741202847113014S01821",
     "6811W902148171841I01821382731W9068C1181718i3017285110681711XK0M11017711411181728YT0581130",
     "1810281038111811101711X4057102810271817g7018111417903817WH027283130241817WYxtS0"]]

/-- Numeric type and value. -/
def numericTraits : List Trait := [
  .ofTexts "NT NUMERICTYPE"
    ["NONE;DE DECIMAL;DI DIGIT;NU NUMERIC"]
    ["WH0A1YR02250122033WkF0A1ZA0A1bC0A1i90A1YP0A14063YF0A1YP0A1YP0A12063YH0A133YM0A18073YA0A1Y",
     "B07370A193YG0A1Y30A1YP0A1X80A1A3dK0A1X80A1s6092B3xD033cM0A160A3M0A1eL0A1Z40A112aA0A160A1a",
     "R0A1XO0A1ZA0A160A1WXN012306260A2bC0WK32053sD092B392B392B3XG012A3921312pA0921392139213WiL0",
     "13u2013P093E033g2043ZE0A3U08310F3W10A3W80F3fF013Z1013z4013uR013ZzC013201330131013XL013WF0",
     "1370131013W9023U0138013W5013Y5013i0013X3013W301310131013k201310336013YN043uF013m60137013W",
     "jD013Z7023C0331013WWD013XF013WbA013WxE013WbK013sU013XpP013z3013Xd70134013Z0013XgP013W5013",
     "5013WC013Z1013ZW60A1b20A3fA063ZU0A1W70A1bC0A1M0A1XO0A1i30A1poG01370134013WQ013U0131013WA0",
     "13WfR0A1kS0WE3C0WQ3H023g00R3W5043T0138013ZA053bG0A1zC083P073W8093XD053M063a502320G320WF3X",
     "204253WL023U033XD053YB083O083WA073fK063WH0A160A1dU092M3a30A3WB043YJ073ZA092B3A1Z40A1WT0A1",
     "ZK0A170K3d30A1g10A1YP0A1h20A1Y90A160K1XE0A123iH0A193Y00A1qB0A1XO0A1J3cA0A1X80A1WN0A1gH0A1",
     "Y90L3WYD0YI3laM0A1XiH0A1XO0A1ZA0A11073lU0A1dE0N3g8033tsO0A1WlL0K3C0K3YF0P3WZO0WJ1XjC0A1iJ",
     "0A1l60A1cU0A1s3093Z40A1uG0WS310331043XE0WE310F3WV10B223XwS0A1WX8013Y5013Z1013X0013XZA013X",
     "Q0138013F013fN013I013R013bl0013WnO013ZpI013fjL013WdzP013zvr90"],
  .ofTexts "NV NUMERICVALUE"
    ["NAN;1/2;0;1;1/10;1/12;1/16;1/160;1/2;1/20;1/3;1/32;1/320;1/4;1/40;1/5;1/6;1/64;1/7;1/8;1/",
     "80;1/9;10;100;1000;10000;100000;1000000;10000000;100000000;10000000000;1000000000000;11;1",
     "1/12;11/2;12;13;13/2;14;15;15/2;16;17;17/2;18;19;2;2/3;2/5;20;200;2000;20000;200000;20000",
     "000;21;216000;22;23;24;25;26;27;28;29;3;3/16;3/2;3/20;3/4;3/5;3/64;3/8;3/80;30;300;3000;3",
     "0000;300000;31;32;33;34;35;36;37;38;39;4;4/5;40;400;4000;40000;400000;41;42;43;432000;44;",
     "45;46;47;48;49;5;5/12;5/2;5/6;5/8;50;500;5000;50000;500000;6;60;600;6000;60000;600000;7;7",
     "/12;7/2;7/8;70;700;7000;70000;700000;8;80;800;8000;80000;800000;9;9/2;90;900;9000;90000;9",
     "00000"]
    ["WH012131WF1X31XQ1YC1YM1YS1Z61ZCYR01WF1X35013201D181X7WkF012131WF1X31XQ1YC1YM1YS1Z61ZCZA01",
     "2131WF1X31XQ1YC1YM1YS1Z61ZCbC012131WF1X31XQ1YC1YM1YS1Z61ZCi9012131WF1X31XQ1YC1YM1YS1Z61ZC",
     "YP012131WF1X31XQ1YC1YM1YS1Z61ZC40161J1X41D1X71WAYF012131WF1X31XQ1YC1YM1YS1Z61ZCYP012131WF",
     "1X31XQ1YC1YM1YS1Z61ZCYP012131WF1X31XQ1YC1YM1YS1Z61ZC201D181X7161J1X4YH012131WF1X31XQ1YC1Y",
     "M1YS1Z61ZC1M1N1OYM012131WF1X31XQ1YC1YM1YS1Z61ZC8012131WF1X3131WF1X3YA012131WF1X31XQ1YC1YM",
     "1YS1Z61ZCYB0171E1XB19141X61F7012131WF1X31XQ1YC1YM1YS1Z61ZC1M1N1O1D181X7161J1X4YG012131WF1",
     "X31XQ1YC1YM1YS1Z61ZCY3012131WF1X31XQ1YC1YM1YS1Z61ZCYP012131WF1X31XQ1YC1YM1YS1Z61ZCX801213",
     "1WF1X31XQ1YC1YM1YS1Z61ZC181X51YE1YU1ZD1W31W61W91WC11dK012131WF1X31XQ1YC1YM1YS1Z61ZCX80121",
     "31WF1X31XQ1YC1YM1YS1Z61ZCs60131WF1X31XQ1YC1YM1YS1Z61ZC1M1WI1XC1XS1YH1YN1Z11Z71ZE1N1PxD01W",
     "B1WD1WEcM012131WF1X31XQ1YC1YM1YS1Z61ZC6012131WF1X31XQ1YC1YM1YS1Z61ZCM012131WF1X31XQ1YC1YM",
     "1YS1Z61ZCeL012131WF1X31XQ1YC1YM1YS1Z61ZCZ4012131WF1X31XQ1YC1YM1YS1Z61ZC13aA012131WF1X31XQ",
     "1YC1YM1YS1Z61ZC6012131WF1X31XQ1YC1YM1YS1Z61ZCaR012131WF1X31XQ1YC1YM1YS1Z61ZCXO012131WF1X3",
     "1XQ1YC1YM1YS1Z61ZCZA012131WF1X31XQ1YC1YM1YS1Z61ZC6012131WF1X31XQ1YC1YM1YS1Z61ZCWXN012301X",
     "Q1YC1YM1YS1Z61ZC6012131WF1X31XQ1YC1YM1YS1Z61ZCbC01I1L141A1WG1F1WH1X81XR1G1YF1J1XA1YG1Z023",
     "1WF1X31XQ1YC1YM1YS1Z61ZC1M1W11W41YH1N1YI1O131WF1X31XQ1YC1YM1YS1Z61ZC1M1W11W41YH1N1YI2O1YJ",
     "1P201YM1YH1YK1Q12sD0131WF1X31XQ1YC1YM1YS1Z61ZC1M1W11W41W51W71W81WA1WB1WD1WE1WI131WF1X31XQ",
     "1YC1YM1YS1Z61ZC1M1W11W41W51W71W81WA1WB1WD1WE1WI131WF1X31XQ1YC1YM1YS1Z61ZC1M1W11W41W51W71W",
     "81WA1WB1WD1WE1WIXG0121W11W41W51W71W81WA1WB1WD1WE1WI131WF1X31XQ1YC1YM1YS1Z61ZC1M12pA0131WF",
     "1X31XQ1YC1YM1YS1Z61ZC1M131WF1X31XQ1YC1YM1YS1Z61ZC1M131WF1X31XQ1YC1YM1YS1Z61ZC1MWiL018u201",
     "2P0131WF1X31XQ1YC1YM1YS1Z61ZCE01M1WI1XCg20131WF1X31XQZE0131WF1X31XQ1YC1YM1YS1Z61ZC1MU01M1",
     "WI1XC1XS1YH1YN1Z11Z7101WO1WQ1WR1WS1WT1WU1X01X11X21XC1XH1XI1XJ1XK1XLW10131WF1X31XQ1YC1YM1Y",
     "S1Z61ZC1MW801XM1XN1XO1XP1XS1Y21Y31Y41Y61Y71Y81Y91YA1YB1YHfF01YCZ101WFz401YCuR01YSZzC01320",
     "1YS301P101X3XL01ZCWF01WF701YC101XQW901T1MU01O801X3W501YCY501Ni001TX301W0W301WF101Z6101YMk",
     "201M101O1WI1XC601XSYN04X3uF01XQm60137013WjD013Z701ZC1WIC0131WF1X3101WFWWD01MXF01Z6WbA01YS",
     "WxE01YSWbK01ZCsU01NXpP01XQz301PXd701WF401WFZ001WFXgP01OW501YM501NWC01YMZ1012ZW6012131WF1X",
     "31XQ1YC1YM1YS1Z61ZCb20131WF1X31XQ1YC1YM1YS1Z61ZC12fA01D181X7161J1X4ZU012131WF1X31XQ1YC1YM",
     "1YS1Z61ZCW7012131WF1X31XQ1YC1YM1YS1Z61ZCbC012131WF1X31XQ1YC1YM1YS1Z61ZCM012131WF1X31XQ1YC",
     "1YM1YS1Z61ZCXO012131WF1X31XQ1YC1YM1YS1Z61ZCi3012131WF1X31XQ1YC1YM1YS1Z61ZCpoG01X3701M401W",
     "FWQ012U01YM101YMWA01MWfR012131WF1X31XQ1YC1YM1YS1Z61ZCkS0131WF1X31XQ1YC1YM1YS1Z61ZC1M1WI1X",
     "C1XS1YH1YN1Z11Z71ZE1N1WJ1XD1XT1YI1YO1Z21Z81ZF1O1WK1XE1XU1YJ1YP1Z31Z91ZG1P1WL1XF1Y01YK1YQ1",
     "Z41ZA1ZHC01D18131YC1YH1YI1YJ1YK1YC1M1YH1N1YI1O1YJ1YC1M1YH1N1YI1O1P1YK1M334WF1YC5M1XC4YH1N",
     "1XD5YI1O1YJ1YC1YH281WG1X7H0121Dg00131WF1X31XQ1YC1YM1YS1Z61ZC1M1WI1XC1XS1YH1YN1Z11Z71ZE1N1",
     "WJ1XD1XT1YI1YO1Z21Z81ZFW50131YC1M1YHT01ZE801ZFZA0131WF1M1WI1NbG012131WF1X31XQ1YC1YM1YS1Z6",
     "1ZCzC0131WF1X31M1WI1N1O1PP0131WF1X31XQ1YC1M1WIW80131WF1X32XQ1YC1M1WI1NXD0131YC1M1WI1NM013",
     "1M1WI1N1WF1X3a501W21820131WF1X31XQ1YC1YM1YS1Z61ZC1M1WI1XC1XS1YH1YN1Z1201N1WJ1XD1XT1YI1YO1",
     "Z21Z81ZF1O1WK1XE1XU1YJ1YP1Z31Z91ZG1P1WL1XF1Y01YK1YQ1Z41ZA1ZH1Q1WM1XG1Y11YL1YR1Z51ZB1ZI151",
     "G1D1A1YD181YT1WG1X71YFX20131WF1X31XQ1M1WI1N1O18WL0131YHU0131M1WIXD0131YC1M1WI1NYB0131WF1X",
     "31XQ1M1WI1N1OO0131WF1X31XQ1M1WI1N1OWA0131WF1X31XQ1M1WI1NfK0131YC1M1YH1N1OWH012131WF1X31XQ",
     "1YC1YM1YS1Z61ZC6012131WF1X31XQ1YC1YM1YS1Z61ZCdU0131WF1X31XQ1YC1YM1YS1Z61ZC1M1WI1XC1XS1YH1",
     "YN1Z11Z71ZE1N1WJ1XD1XT1YI1YO1Z21Z81ZF181D1A1WGa30131WF1X31XQ1YC1M1WI1XC1N18WB0131M1WI1NYJ",
     "0131WF1X31XQ1M1WI1NZA0131WF1X31XQ1YC1YM1YS1Z61ZC1M1WI1XC1XS1YH1YN1Z11Z71ZE1N1O12131WF1X31",
     "XQ1YC1YM1YS1Z61ZCZ4012131WF1X31XQ1YC1YM1YS1Z61ZCWT012131WF1X31XQ1YC1YM1YS1Z61ZCZK012131WF",
     "1X31XQ1YC1YM1YS1Z61ZC70131WF1X31XQ1YC1YM1YS1Z61ZC1M1WI1XC1XS1YH1YN1Z11Z71ZE1N1Od3012131WF",
     "1X31XQ1YC1YM1YS1Z61ZCg1012131WF1X31XQ1YC1YM1YS1Z61ZCYP012131WF1X31XQ1YC1YM1YS1Z61ZCh20121",
     "31WF1X31XQ1YC1YM1YS1Z61ZCY9012131WF1X31XQ1YC1YM1YS1Z61ZC6012131WF1X31XQ1YC1YM1YS1Z61ZC121",
     "31WF1X31XQ1YC1YM1YS1Z61ZCXE012131WF1X31XQ1YC1YM1YS1Z61ZC1M1WIiH012131WF1X31XQ1YC1YM1YS1Z6",
     "1ZC1M1WI1XC1XS1YH1YN1Z11Z71ZEY0012131WF1X31XQ1YC1YM1YS1Z61ZCqB012131WF1X31XQ1YC1YM1YS1Z61",
     "ZCXO012131WF1X31XQ1YC1YM1YS1Z61ZC131WF1X31XQ1YC1YM1YS1Z61ZC1M1WI1XC1XS1YH1YN1Z11Z71ZE1NcA",
     "012131WF1X31XQ1YC1YM1YS1Z61ZCX8012131WF1X31XQ1YC1YM1YS1Z61ZCWN012131WF1X31XQ1YC1YM1YS1Z61",
     "ZCgH012131WF1X31XQ1YC1YM1YS1Z61ZCY901C171K1H1E1B1XB1X91926141J1X61X41F1D281X71CWYD01WF1X3",
     "1XQ1YC1YM1YS1Z61ZC1X31XQ1YC1YM1YS1Z61ZC1XQ1YC1YM1YS1Z61ZC131WF1X31XQ1YC1YM1YS1Z61ZC131WF1",
     "X31XQ1YC1WF2X31XQ1YC1YM1YS1Z61ZC131WF2X31XQ1YC1WP1Y5131WF2X31XQ1YC2X34XQ1YM3YS2Z64ZC1WF1X",
     "31XQ1YC1YM131WF1X32XQ2YC1WF1X3131WF1A1WG1YF1A1WG1J1D1G2D181A1WG1XS1YH1XQ1YC1YM1YS1Z61ZCla",
     "M012131WF1X31XQ1YC1YM1YS1Z61ZCXiH012131WF1X31XQ1YC1YM1YS1Z61ZCXO012131WF1X31XQ1YC1YM1YS1Z",
     "61ZCZA012131WF1X31XQ1YC1YM1YS1Z61ZC101M1N1P1R1T1U1W0lU012131WF1X31XQ1YC1YM1YS1Z61ZCdE0121",
     "31WF1X31XQ1YC1YM1YS1Z61ZC1M1W11W41W51W71W81WA1WB1WD1WE131WF1X3uZ4012131WF1X31XQ1YC1YM1YS1",
     "Z61ZCWlL012131WF1X31XQ1YC1YM1YS1Z61ZC1M1W11W41W51W71W81WA1WB1WD1WEC012131WF1X31XQ1YC1YM1Y",
     "S1Z61ZC1M1W11W41W51W71W81WA1WB1WD1WEYF0131WF1X31XQ1YC1YM1YS1Z61ZC1M1WI1XC1XS1YH1YN1Z11Z71",
     "ZE131WF1X31XQ1YC131YCWZO012131WF1X31XQ1YC1YM1YS1Z61ZC12131WF1X31XQ1YC1YM1YS1Z61ZC12131WF1",
     "X31XQ1YC1YM1YS1Z61ZC12131WF1X31XQ1YC1YM1YS1Z61ZC12131WF1X31XQ1YC1YM1YS1Z61ZCXjC012131WF1X",
     "31XQ1YC1YM1YS1Z61ZCiJ012131WF1X31XQ1YC1YM1YS1Z61ZCl6012131WF1X31XQ1YC1YM1YS1Z61ZCcU012131",
     "WF1X31XQ1YC1YM1YS1Z61ZCs30131WF1X31XQ1YC1YM1YS1Z61ZCZ4012131WF1X31XQ1YC1YM1YS1Z61ZCuG0131",
     "WF1X31XQ1YC1YM1YS1Z61ZC1M1WI1XC1XS1YH1YN1Z11Z71ZE1N1WJ1XD1XT1YI1YO1Z21Z81ZF1O1WK1XE1XU1YJ",
     "1YP1Z31Z91ZG1P1WL1XF1Y01YK1YQ1Z41ZA1ZH1Q1WM1Q1S1WN131WF1X31XQ1YC1YM1YS1Z61ZC101D181X71013",
     "1WF1P1QXE0131WF1X31XQ1YC1YM1YS1Z61ZC1M1WI1XC1XS1YH1YN1Z11Z71ZE1N1WJ1XD1XT1YI1YO1Z21Z81ZF1",
     "O1WK1XE1XU1YJ1YP1Z31Z91ZG1P1WL1XF1Y01YK1YQ1Z41ZA1ZH101WF1X31XQ1YC1YM1YS1Z61ZC1M1XT1YO1WK1",
     "P181GWV1022131WF1X31XQ1YC1YM1YS1Z61ZC22XwS012131WF1X31XQ1YC1YM1YS1Z61ZCWX801YSY501XQZ101X",
     "QX001YCXZA013XQ01XC801XSF01XSfN01YMI01X3R01X3bl001WFWnO01X3ZpI01X3fjL01XQWdzP01ZCzvr90"]]

end SourceAudit.Text
