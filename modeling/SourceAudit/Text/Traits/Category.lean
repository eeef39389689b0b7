import SourceAudit.Text.Trait

/-!
# SourceAudit.Text.Traits.Category

The general category of a character, and its script and block.
-/

namespace SourceAudit.Text

/-- The general category. -/
def categoryTraits : List Trait := [
  .ofTexts "GC GENERALCATEGORY"
    ["CN UNASSIGNED;", "LU UPPERCASELETTER;", "LL LOWERCASELETTER;", "LT TITLECASELETTER;",
     "LM MODIFIERLETTER;", "LO OTHERLETTER;", "MN NONSPACINGMARK;", "MC SPACINGMARK;",
     "ME ENCLOSINGMARK;", "ND DECIMALNUMBER DIGIT;", "NL LETTERNUMBER;", "NO OTHERNUMBER;",
     "PC CONNECTORPUNCTUATION;", "PD DASHPUNCTUATION;", "PS OPENPUNCTUATION;",
     "PE CLOSEPUNCTUATION;", "PI INITIALPUNCTUATION;", "PF FINALPUNCTUATION;",
     "PO OTHERPUNCTUATION;", "SM MATHSYMBOL;", "SC CURRENCYSYMBOL;", "SK MODIFIERSYMBOL;",
     "SO OTHERSYMBOL;", "ZS SPACESEPARATOR;", "ZL LINESEPARATOR;", "ZP PARAGRAPHSEPARATOR;",
     "CC CONTROL CNTRL;", "CF FORMAT;", "CS SURROGATE;", "CO PRIVATEUSE"]
    ["W1Q1N3I1K3I1E1F1I1J1I1D2IA92I3J2IQ11E1I1F1L1C1LQ21E1J1F1JW2Q1N1I4K1M1I1L1M151G1J1R1M1L1M1",
     "J2B1L122I1L1B151H3B1IN11J71O21J8211121112111211121112111211121112111211121112111211121112",
     "11121112111211121112111211121112111211121112111211121122111211121112111211121112111211221",
     "11211121112111211121112111211121112111211121112111211121112111211121112111211121112111211",
     "12211211121132211211122112312241122112313221122112111211122112112211122112311211122122151",
     "13245111312111312111312111211121112111211121112111211221112111211121112111211121112111211",
     "22111312111231121112111211121112111211121112111211121112111211121112111211121112111211121",
     "1121112111211121112111211121112111211121172211221221112411211121112111211X7225Q2I44LC4EL5",
     "47L141L14HLYJ611121112141L11122014321I11402L111I311011102112H11091W4211223132111211121112",
     "11121112111211121112111211121112115211121J11122122WK1WH2111211121112111211121112111211121",
     "112111211121112111211121112111211121M5628111211121112111211121112111211121112111211121112",
     "11121112111211121112111211121112111211121112111211121112111221121112111211121112111211221",
     "11211121112111211121112111211121112111211121112111211121112111211121112111211121112111211",
     "12111211121112111211121112111211121112111211121112111211121112111211121112111211121112111",
     "211121112111210W7120146IWA21I1D202M1K10WE61D161I261I261I1680R540452IB06R3J2I1K2I2MB61I1R3",
     "IW1514A5L6A94I2516Y651I15761R1M6624261M4625A9352M15EI101R1516U5R620XR5B615E0A9W2596241M3I",
     "1420162KM54614961436145620FI10P536201I10B550O51L752R5096WA514O61RW1617WN51617161537864716",
     "271576A5262IA91I14F516271085202520M510751015304520161537462027202716158017402510352620A92",
     "52K6B1M1K151I162026171065402520M5107510251025102520161037264026203630167045101570A9263516",
     "1IA026171095103510M510751025105520161537561026171027162015F0252620A91I1K70156610162710852",
     "02520M5107510251055201615171617462027202716702617402510352620A91M156BA0161510653035104530",
     "25101510253025303530C540271627303710371620156017E0A93B6M1K1M5016371685103510N510G52016153",
     "6471036104670261035102520252620A9701I7B1M1516271I85103510N510A510552016151716571016271027",
     "267027503510252620A9102517C0262795103510WA5261537461037103716151M4035177B352620A99B1M6510",
     "162710I530O510951015207530164037361016108760A920271IC0WH5162576401K6514861IA92IW602510151",
     "05510O5101510A51625961520551014107610A92045W10153MFI1M1I3M266MA9AB1M161M161M161E1F1E1F278",
     "510W5540E617561I2655B610W56108M166M102M5I4M2IW60WC5274617661726272615A96I6527264536153725",
     "773546D516272667161517A937162MW711011501120WC21I1432fJ5104520751015104520WA5104520W251045",
     "20751015104520F510WQ5104520X5520369IKB30G5AM60XO12062201Dp051M1IH51NQ51E1F30XD53I3A8570I5",
     "361790J526172I90I526C0D510351026C0WL5261776871627B63I143I1K151620A960AB606I1D4I361R16A960",
     "W4514WM5705526W35161550X85A0W0510364726374027166736401M302IA9U52055B0WD540Q560A91B30W3MN5",
     "262716202IWM51716177610161716278667A62016A960A9607I146I20E618W0620C6K04617WG5161756171657",
     "162785102IA97IAM969M3I2617U517462726173625A9WD51617263716173627804IW5587862726305IA93035A",
     "9U5642I92111250WC120318I80361ID61776451665162517261550WD2X14D214W32W64X261112111211121112",
     "11121112111211121112111211121112111211121112111211121112111211121112111211121112111211121",
     "11211121112111211121112111211121112111211121112111211121112111211121112111211121112111211",
     "12111211121112111211121112111211121112111211121112111211121112111211121112111211121112111",
     "21112111211121192111211121112111211121112111211121112111211121112111211121112111211121112",
     "11121112111211121112111211121112111211121112111211121112111211121112111211121112111211121",
     "11211121112111211121112111211121192816220612082818281622061208210111011101110118281E22082",
     "838283828352102241131L123L32102241133L42202241103L82513L2032102241132L10BN5R6D2I1G1H1E2G1",
     "H1E1G8I1O1P5R1N9I1G1H4I2C3I1J1E1FBI1J1I1CAI1N5R10AR1B14206B3J1E1F14AB3J1E1FE430W3KE0D6481",
     "638C6F02M114M112M12312231121M112M1J516M111M111M111M411M12411245122M22215J11421M1J2M121MGB",
     "W4A11124A1B2M405J5M2J4M1J2M1J2M1J7M1JW0M2J2M1J1M1JW0MdKJ8M1E1F1E1FKM2J7M1E1FXJM1JUMPJW9M6",
     "JXAMM0BML0WTBXGMMBaSM1J9M1JWNM8JYIM1Jd0M1E1F1E1F1E1F1E1F1E1F1E1F1E1FUBWDM5J1E1FW0J1E1F1E1",
     "F1E1F1E1F1E1FGJd8MZ7J1E1F1E1F1E1F1E1F1E1F1E1F1E1F1E1F1E1F1E1F1E1FX1J1E1F1E1FW1J1E1FdAJWHM",
     "LJ2M6JW8M20ZEMWH1WH2111231221112111211124112112211622431121112111211121112111211121112111",
     "21112111211121112111211121112111211121112111211121112111211121112111211121112111211121112",
     "11121112111211121112111211121112111211121112111211121112111211121112111211226M11121112361",
     "112504I1B2IW721012501220WP570141IE016N59075107510751075107510751075107510W162I1G1H1G1H3I1",
     "G1H1I1G1H9I1D2I1D1I1G1H2I1G1H1E1F1E1F1E1F1E1F5I14AI2D4I1D1I1EDI2M3I1E1F1E1F1E1F1E1F1DW30Q",
     "M10XRMC0bSMQ0GM1N3I1M14151A1E1F1E1F1E1F1E1F1E1F2M1E1F1E1F1E1F1E1F1D1E2F1M9A46271D542M3A14",
     "151I2M10XO520262L24151DXS51I341550WC510Y15102M4BAMW15W7M901MG5W0M10ABUM8B1MFBW1MABW8MFBfA",
     "MbvK5X2MqvQ514WaR530WOM90W95642IdK5143IG5A925K0111211121112111211121112111211121112111211",
     "121112111211121112111211121112111211121112111211121516381IA61I141112111211121112111211121",
     "11211121112111211121112111211122426X85AA266I80NL942L1112111211121112111211121132111211121",
     "11211121112111211121112111211121112111211121112111211121112111211121112111211121112111211",
     "1211121112111211121112111214821112111221121112111211121112142L111211121511121132111211121",
     "11211121112111211121112111211125112511211121112111211121112111211124112111221121112111211",
     "12111211121112111211K0441112152412751635164516N52726174M16306B2M1K1M60WL54I8027WJ5G726802",
     "IA960I6653I151I2516A9S5862IN5B627B01IT5303617WG5162746272637DI1014A9402I55161495A95510WA5",
     "662726272690351685161720A9204IG514653M15171617WJ516153625265526151615O025142IB51726272I15",
     "241716A065206520659075107510WC21L4492142L40XI2W4527162716271I171620A960goC5C0N540WI540XZ2",
     "SbpETgP520YD5W7072C052501516A51JD5105510151025102510YF5HLGMgM51F1EGMX252MWN58MW10C51K3MG6",
     "7I1E1F1I60G61I2D2C1E1F1E1F1E1F1E1F1E1F1E1F1E1F1E1F2I1E1F4I3C3I104I1D1E1F1E1F1E1F3I1J1D3J1",
     "01I1K2I405510ZB5201R103I1K3I1E1F1I1J1I1D2IA92I3J2IQ11E1I1F1L1C1LQ21E1J1F1J1E1F1I1E1F2IA51",
     "4WE524W053065206520652035302K1J1L1M2K101M4J2MA03R2M20C510Q510J5102510F520E5W30YU5503I40WE",
     "B309MWMA4BHM2B3M10DM301MWG0WEM16Z60T530WI5F016RB40W154B90K51A851A50W755650U5101IW5540851I",
     "5AWB0W91W92XG520A960W5140W5240W9580WL5B01IB110F11071102110B210F21072102230WL5C0f1590M5A08",
     "5O06410WB41094X7065201510WD51025301520N5101I8BN52M7BW05809BWH0J51025505BM56B301IQ5501IQ5W",
     "70WP5402B25GB20WFB15361026504645103510T5203640169B709I70T52B1IT53BW10851MS526405B7I90WN53",
     "07IM5208BJ5508BI5704IC07BXI0XB5WO0WK1D0WK2706BW554680A960A9451415M130561D14M2802JbM0W0B10",
     "WB510261D2025G0351425801I8MW2066T5AB1580M5B64B5IM0I5464IW70L57BK0N590171617WM5F67I40KBA91",
     "6252615903617WE5374627262I1R4I16A01R20P570A96036W5556178610A94I15271580W45162I15902617WH5",
     "379627454I461I1716A9151I153I10KBB0I510P53736271617266I162516X00751015104510F510A51I60WG51",
     "6378650A96026271085202520M5107510251055102615271647202720372015601750552720763056B0A51015",
     "201510W751015376610172017104710271617161516152I102I8026T0WM5378627361716455IA92I101I1635U",
     "0WH53766171647261726251I1580A9aB0WG537462047261726NI4526W30WH53786271617263I15B0A960DIJ0W",
     "C516171627661716151I60A960K9S0R5201617162746175640A92B3I1M75aU0WD5379617261IY70W11W12A99B",
     "C08520152085102510O56710272026171615171517163I90A9X808520W85374620264716151I1517R015A6W95",
     "661715468I168015662736WF5D617263I155ID0XB570AIXO0161736171617XQ0W251IE0A9609510W651776106",
     "61716155IA0A9JB302IU520M610177617261726XB075102510W7566301610261076151680A96065102510W155",
     "7102610271617161570A960WA5142540A9cT0J526272I70261517D510W3527563027161716DIA916XN015F0LB",
     "8M4KHMD01IyN5Y90YIA105IB0bA5Xs10Y452ID0WYI5GR1665F6A0ZZR550nP5cYL0U5C63736A9WtT0nB570W051",
     "0A9402IXH510A960U520561IA0WH5765I4M441I1MA0A9107B10L550J5iT034W95243IA9bC0W11W12NB4I50P12",
     "0P2WD0XD5401615WO77046D4X20241I1416B027243A90cq45WA0W15Y40YM5eWL0441074102410eC5F015T0352",
     "015E04580hO5XhE0YE550D5309570A5201M261I4RZXQ0cNMA93M30j2M60NMF0GM1JF0WF620N690YNMWT0cTMA0",
     "W8M20WTM27363M678R862M76UM46WUML0X4M361MYT0KBC0KBC0XPM90PBZB0Q1Q2Q17210I2Q1Q2111021201120",
     "2120411081421012107210B2Q1Q22110412081107110Q221104110511011307110Q2Q1Q2Q1Q2Q1Q2Q1Q2Q1Q2Q",
     "1S220P11JP21J62P11JP21J62P11JP21J62P11JP21J62P11JP21J62111220WJ9lGMWO64MWJ68M16EM162M5IF0",
     "5610F6WZJ0A215K26062bR07610H620761026105650X04W2016YJ0WE530767420A940151MfA0U516H0WD546A9",
     "501KjU0R51446A9bS0U52615A9401Ib60W05103516251675265516801514c70751045102510F510bB5209B76W",
     "A0W31W32761440A9402IuA0WSB1M3B1K4BXE0WEB1MFBb804510R510251015201510A510451015101560154015",
     "1015101510351025101520151015101510151015102510152045107510451045101510A510H55035105510H5W",
     "L02JdM0WDM40Y7MC0FM20FM10FM10W6MA0DBa6MWP0TMD0WDM409M702ME06MZU0d3M5LsGM30HM30DM30c1M60CM",
     "401MF0CM40WPM80AM60W9M80UM20CM402ME09JW80g3M80EM20DM30BM30WQM101M40GM20CM40AM70ZNM10XUMA9",
     "1MWX60Wij25W10ZmB520bV8520ct25F0p25XmH0mF5WmI0aZA550duR5ssaC01RU0Y3RZ40cN6Xaq20Xbb0T20Xbb",
     "0T20"]]

/-- The script, and the scripts with which a character is used. -/
def scriptTraits : List Trait := [
  .ofTexts "SC SCRIPT"
    ["ZZZZ UNKNOWN;ADLM ADLAM;AGHB CAUCASIANALBANIAN;AHOM;ARAB ARABIC;ARMI IMPERIALARAMAIC;ARMN",
     " ARMENIAN;AVST AVESTAN;BALI BALINESE;BAMU BAMUM;BASS BASSAVAH;BATK BATAK;BENG BENGALI;BHK",
     "S BHAIKSUKI;BOPO BOPOMOFO;BRAH BRAHMI;BRAI BRAILLE;BUGI BUGINESE;BUHD BUHID;CAKM CHAKMA;C",
     "ANS CANADIANABORIGINAL;CARI CARIAN;CHAM;CHER CHEROKEE;CHRS CHORASMIAN;COPT COPTIC QAAC;CP",
     "MN CYPROMINOAN;CPRT CYPRIOT;CYRL CYRILLIC;DEVA DEVANAGARI;DIAK DIVESAKURU;DOGR DOGRA;DSRT",
     " DESERET;DUPL DUPLOYAN;EGYP EGYPTIANHIEROGLYPHS;ELBA ELBASAN;ELYM ELYMAIC;ETHI ETHIOPIC;G",
     "EOR GEORGIAN;GLAG GLAGOLITIC;GONG GUNJALAGONDI;GONM MASARAMGONDI;GOTH GOTHIC;GRAN GRANTHA",
     ";GREK GREEK;GUJR GUJARATI;GURU GURMUKHI;HANG HANGUL;HANI HAN;HANO HANUNOO;HATR HATRAN;HEB",
     "R HEBREW;HIRA HIRAGANA;HLUW ANATOLIANHIEROGLYPHS;HMNG PAHAWHHMONG;HMNP NYIAKENGPUACHUEHMO",
     "NG;HUNG OLDHUNGARIAN;ITAL OLDITALIC;JAVA JAVANESE;KALI KAYAHLI;KANA KATAKANA;KAWI;KHAR KH",
     "AROSHTHI;KHMR KHMER;KHOJ KHOJKI;KITS KHITANSMALLSCRIPT;KNDA KANNADA;KTHI KAITHI;LANA TAIT",
     "HAM;LAOO LAO;LATN LATIN;LEPC LEPCHA;LIMB LIMBU;LINA LINEARA;LINB LINEARB;LISU;LYCI LYCIAN",
     ";LYDI LYDIAN;MAHJ MAHAJANI;MAKA MAKASAR;MAND MANDAIC;MANI MANICHAEAN;MARC MARCHEN;MEDF ME",
     "DEFAIDRIN;MEND MENDEKIKAKUI;MERC MEROITICCURSIVE;MERO MEROITICHIEROGLYPHS;MLYM MALAYALAM;",
     "MODI;MONG MONGOLIAN;MROO MRO;MTEI MEETEIMAYEK;MULT MULTANI;MYMR MYANMAR;NAGM NAGMUNDARI;N",
     "AND NANDINAGARI;NARB OLDNORTHARABIAN;NBAT NABATAEAN;NEWA;NKOO NKO;NSHU NUSHU;OGAM OGHAM;O",
     "LCK OLCHIKI;ORKH OLDTURKIC;ORYA ORIYA;OSGE OSAGE;OSMA OSMANYA;OUGR OLDUYGHUR;PALM PALMYRE",
     "NE;PAUC PAUCINHAU;PERM OLDPERMIC;PHAG PHAGSPA;PHLI INSCRIPTIONALPAHLAVI;PHLP PSALTERPAHLA",
     "VI;PHNX PHOENICIAN;PLRD MIAO;PRTI INSCRIPTIONALPARTHIAN;RJNG REJANG;ROHG HANIFIROHINGYA;R",
     "UNR RUNIC;SAMR SAMARITAN;SARB OLDSOUTHARABIAN;SAUR SAURASHTRA;SGNW SIGNWRITING;SHAW SHAVI",
     "AN;SHRD SHARADA;SIDD SIDDHAM;SIND KHUDAWADI;SINH SINHALA;SOGD SOGDIAN;SOGO OLDSOGDIAN;SOR",
     "A SORASOMPENG;SOYO SOYOMBO;SUND SUNDANESE;SYLO SYLOTINAGRI;SYRC SYRIAC;TAGB TAGBANWA;TAKR",
     " TAKRI;TALE TAILE;TALU NEWTAILUE;TAML TAMIL;TANG TANGUT;TAVT TAIVIET;TELU TELUGU;TFNG TIF",
     "INAGH;TGLG TAGALOG;THAA THAANA;THAI;TIBT TIBETAN;TIRH TIRHUTA;TNSA TANGSA;TOTO;UGAR UGARI",
     "TIC;VAII VAI;VITH VITHKUQI;WARA WARANGCITI;WCHO WANCHO;XPEO OLDPERSIAN;XSUX CUNEIFORM;YEZ",
     "I YEZIDI;YIII YI;ZANB ZANABAZARSQUARE;ZINH INHERITED QAAI;ZYYY COMMON;GARA GARAY;GUKH GUR",
     "UNGKHEMA;KRAI KIRATRAI;ONAO OLONAL;SUNU SUNUWAR;TODR TODHRI;TUTG TULUTIGALARI;BERF BERIAE",
     "RFE;SIDT SIDETIC;TAYO TAIYO;TOLS TOLONGSIKI"]
    ["X3a8QX86a8QX8WGa81X8Fa81X85a8NX81a8W0X81a8jFX8W8a85X85a82EKa8YJa74WD1a83WD204WD1a81WD401W",
     "D1a81WD1a83WD101WD10KWD10X1WDEPGWDZ9S2a7aES10W7620WJ6203610WOWK80RWK406WKB0541a8641a8E41a",
     "8341a8W141a8A4Ba7Q41a7YF41a8W34EZB10WTZB203ZBWH4WJZME0WSY6203Y6WFYR20FYR10SXI201XI10BZB50",
     "W3450XD41a8T4XJT4a7FT2a8QT4C108C202C20MC107C101C304C209C202C204C801C402C105C20PC203WF106W",
     "F402WF20MWF107WF102WF102WF102WF201WF105WF402WF203WF301WF704WF101WF70HWFA03WE109WE103WE10M",
     "WE107WE102WE105WE20AWE103WE103WE201WEF04WE20CWE707WE103YB108YB202YB20MYB107YB102YB105YB20",
     "9YB202YB203YB703YB402YB105YB20IYBA02ZG106ZG303ZG104ZG302ZG101ZG102ZG302ZG303ZG30CZG405ZG3",
     "03ZG104ZG201ZG601ZGE0LZG50DZJ103ZJ10NZJ10GZJ209ZJ103ZJ104ZJ702ZJ103ZJ102ZJ204ZJ20AZJ709ZJ",
     "DX4103X410NX410AX4105X4209X4103X4104X4702X4503X4104X420AX4103X4C0DXP103XP10WKXP103XP106XP",
     "40GXP20QXP103Z410IZ430OZ4109Z4101Z4207Z4301Z4406Z4101Z4108Z460AZ4203Z4C0WRZN401a8SZNW602X",
     "7101X7105X710OX7101X710NX7205X7101X7107X710AX7204X7W10XAZO10W5ZO40W8ZO10W5ZO10FZO107ZO4a8",
     "2ZOW60a5Y0W7W7101W7501W720WCW71a84W7d8WGXBW6104W6207W6101W6104W620WAW6104W620W2W6104W6207",
     "W6101W6104W620FW610WQW6104W620X5W620W1W630QW660XON206N20pKKTY830XDYQ3a8BYQ70MZL901ZLLWI2a",
     "890KIC0DZC103ZC102ZCC0Y1X120AX160AX1602XR2a81XR1a8KXR60XRXR70WCXR50X8KA0W0XA10CXA40CXA401",
     "XA30CXAUZE205ZEB0WDZF40QZF60BZF302ZFW1X1SH202HX1X610TX620BX660AX660EX620WFa720Ca7K0XF810W",
     "J8X2Z9WLB804BWPX930FX9303X9WHY9BS50WCW7203W78Z9803a71a8Da71a87a74a81a76a81a73a82a71a850W7",
     "X85WD1SWIX85WD4X85WDDX81SX8X81WDX2a7d8X8MWD206WD20W7WD206WD208WD101WD101WD101WD10W0WD20WM",
     "WD10FWD10EWD206WD10JWD203WD109WD10Ca82a7XPa810Ba81X820Ba81X8Fa8EX830W3a8E0W2a7F0W7a81WD3a",
     "82X86a81X8Ra81X8Ha8WAX83a840qFa8M0Ba8L0yTa8d8Gp8a820ZEa8Y3W8W1X8YNP507PW7W7101W7501W720WP",
     "ZK702ZKE01ZKNW6907W6107W6107W6107W6107W6107W6107W6107W610W1SY1a8W30QWH10XRWHC0bSWHQ0La81W",
     "H1a81WHPa89WH4a72WG8a84WH4a810XOWL202a72a83WL1a8XSWT2a83WT50WCE10Y1WG10Ga8W1EW7a8901a8GWT",
     "W0WG10X2a8W0WGXJa8WGWT1a8XQWTaDa8bvKWHX2a8qv5WHWbIa530WOa590WHXDeLZTK0Y3SXQ980W3a8Y9X83a8",
     "XKX8K0FX8WEZA30Aa860WPYI80X8YT80CYT60W1TWFWS1a81WSW5YOB01YOTWG30XGWR101a8AWR402WRW0Y010WO",
     "M90EM20AM204MW1Y0X5ZIO05ZINXTA06W6206W6206W6907W6107W610WCX81a89X81WD4X82a840XINWFXT20AXT",
     "60goCWGC0NWG40WIWGdtK0gPWH20YDWHW707X8C05650QWK105WK101WK102WK102WK10AWKkT42a8ZK4W10G4Ga7",
     "Aa860Ea72SW4a810Ja8104a8405410ZB4201a810W1a8QX86a8QX8Ba8AWT1a8WEWT2a8W0WG306WG206WG206WG2",
     "03WG307a8107a8A05a820CXC10QXC10JXC102XC10FXC20EXCW30YUXC503a840WEa8309a8XHWD10Da8301WDWG0",
     "WEa81a7Z60TXE30WILF01a7Ra840W5WQ903WQRWB50WCYH50UZS101ZSW5a240Ea2WB0XIW1WHZ0UYD20AYD60W5Y",
     "C40W5YC40W9W480WL2B012BZU10FZU107ZU102ZU10BZU10FZU107ZU102ZU30WLaEC0f1XB90MXBA08XBO06X810",
     "WBX8109X8X706R201R10WDR102R301R201RM51095W1YFW0Y4809Y4WH0JWJ102WJ505WJSYL301YLQXF501XFQaH",
     "W70W1XOOXN40KXN20WFXN4X0102X0508X0103X010TX0203X040AX0709X070W1YSW1Y3W10W8XJ40CXJ90WN7307",
     "7MYN208YNJYJ508YJIYK704YKC07YKXI0XBYAWO0WKWPD0WKWP706WPW9YP80AYP60W7a930Ta9802a9bM0W0410W",
     "Ba4103a4202a4G0648094W2064W9Z680WBZ5M0QYEW70SOK0NW590XGF40W5F901FX5X5A01X520PZ770AZ760WMJ",
     "10IJ80W8XG90Y3Z110KZ4B0IX210WGX2X007XU101XU104XU10FXU10BXU60WSZ350AZ3604WC108WC202WC20MWC",
     "107WC102WC105WC101a79WC202WC203WC201WC601WC507WC207WC305WCB0AaF101aF201aF10W7aF10AaF101aF",
     "201aF104aF10AaF102aF802aFT0XUY5105Y5U0XAZP80AZPaB0WNZ220W7Z2W30X7XQB0AXQ60DXRJ0WRZD60AZD6",
     "0KY0S0R320F340N3aU0WTW0Y70XLa0C01a07U201U208U102U10UU102U20CU90AUX808Y220WFY220BY2R0XAa68",
     "0XLZ8D0GKWQYG70ATXO08Z1XQ0W3aDE0AaD609D10WED10EDA0TD30W1XK20MXK10EXKXB07WA102WA10WDWA301W",
     "A102WA109WA80AWA606W9102W910W6W9102W9106W970AW960WDaJ40AaJcT0PXH70HWU10WAWU30TWUXN01XDF0W",
     "JZGD01ZGyNa3Y90YIa3105a3B0bAa3Xs10Y6QD0WZPW3A0ZZRW350nPWMcYL0WRaAWtT0nB970W0XS10AXS402XSX",
     "HZQ10AZQ60UA206AA0X8WNA0AWN107WN10LWN50JWNiT0WRaBbC0XTXL50PaG20PaGWD0XDYM40WQYM70HYMX201Z",
     "H1Y72WH1X3B07WH90caUZHk5X3WA01X3W0ZHY40YMZHeWL04WT107WT102WT101WTe8WL3WTF01WLT03WL201WTE0",
     "4WT80hOY7XhE0YEW250DW2309W270AW2204W24a8ZXQ0d5a830j2a860Na8F0Ha8F0WFa720Na790YNa8WT0cTa8A",
     "0W8a820X0a83a7Ha88a72a87a7Ua84a7WUa8L0X8WDYT0Ka8C0Ka8C0XPa890Pa8ZB0XNa810X9a8102a8201a820",
     "2a8204a810Ca8101a8107a810X3a8104a8208a8107a810Sa8104a8105a8101a8307a810fUa820eDa820WJa8q1",
     "YUF05YU10FYUWZJ0W0X8606X8bR07W810HW8207W8102W8105W850X0SW201SYJ0WEWO30EWO20AWO402WOfA0W0Z",
     "RH0WRa1501a1jU0WBY1bS0WCaC401aCb60W0aI10MaI802aIc707W6104W6102W610FW610bBXM20GXMWA0XE140A",
     "14021uA0X6a8XE0WUa8b804410R410241014201410A4104410141014601440141014101410341024101420141",
     "014101410141014102410142044107410441044101410A410H45034105410H4WL024dM0WDa840Y7a8C0Fa820F",
     "a810Fa810W6a8A0aJa8WP0Qa81WL2a8D0WDa8409a8702a8E06a8ZU0WVOa830Ha830Da830c1a860Ca8401a8F0C",
     "a840WPa880Aa860W9a880Ua820Ca8402a8E09a8W80g3a880Ea820Da830Ba830WQa8101a840Ga820Ca840Aa870",
     "ZNa810YAa8WX60Wij2WHW10ZmBWH20bV8WH20ct2WHF0p2WHXmH0mFWHWmI0aZAWH50duRWHssaC01a8U0Y3a8Z40",
     "cNa7bnX60"],
  .ofTexts "SCX SCRIPTEXTENSIONS"
    ["ZZZZ UNKNOWN;ZYYY COMMON;LATN LATIN;AVST AVESTAN CARI CARIAN COPT COPTIC QAAC DUPL DUPLOY",
     "AN ELBA ELBASAN GEOR GEORGIAN GLAG GLAGOLITIC GONG GUNJALAGONDI GOTH GOTHIC GREK GREEK HA",
     "NI HAN LATN LATIN LYDI LYDIAN MAHJ MAHAJANI PERM OLDPERMIC SHAW SHAVIAN;BENG BENGALI CYRL",
     " CYRILLIC DEVA DEVANAGARI LATN LATIN LISU THAI TOTO;BOPO BOPOMOFO LATN LATIN;LATN LATIN L",
     "ISU;LATN LATIN THAI;BOPO BOPOMOFO;CHER CHEROKEE COPT COPTIC QAAC CYRL CYRILLIC GREK GREEK",
     " LATN LATIN PERM OLDPERMIC SUNU SUNUWAR TALE TAILE;CHER CHEROKEE CYRL CYRILLIC GREK GREEK",
     " LATN LATIN OSGE OSAGE SUNU SUNUWAR TALE TAILE TODR TODHRI;CHER CHEROKEE CYRL CYRILLIC LA",
     "TN LATIN TFNG TIFINAGH;GLAG GLAGOLITIC LATN LATIN SUNU SUNUWAR SYRC SYRIAC THAI;AGHB CAUC",
     "ASIANALBANIAN CHER CHEROKEE COPT COPTIC QAAC CYRL CYRILLIC GOTH GOTHIC GREK GREEK LATN LA",
     "TIN OSGE OSAGE SYRC SYRIAC TFNG TIFINAGH TODR TODHRI;COPT COPTIC QAAC ELBA ELBASAN GLAG G",
     "LAGOLITIC GOTH GOTHIC KANA KATAKANA LATN LATIN;CYRL CYRILLIC GREK GREEK LATN LATIN PERM O",
     "LDPERMIC TFNG TIFINAGH;COPT COPTIC QAAC DUPL DUPLOYAN HEBR HEBREW LATN LATIN PERM OLDPERM",
     "IC SYRC SYRIAC TALE TAILE TFNG TIFINAGH TODR TODHRI;ARMN ARMENIAN CYRL CYRILLIC DUPL DUPL",
     "OYAN GOTH GOTHIC GREK GREEK HEBR HEBREW LATN LATIN PERM OLDPERMIC SYRC SYRIAC TALE TAILE ",
     "TFNG TIFINAGH;LATN LATIN TFNG TIFINAGH;DUPL DUPLOYAN LATN LATIN SYRC SYRIAC;CHER CHEROKEE",
     " CYRL CYRILLIC LATN LATIN OSGE OSAGE;CHER CHEROKEE LATN LATIN TALE TAILE;LATN LATIN SUNU ",
     "SUNUWAR;ETHI ETHIOPIC LATN LATIN;ZINH INHERITED QAAI;CYRL CYRILLIC LATN LATIN TODR TODHRI",
     ";GREK GREEK LATN LATIN PERM OLDPERMIC TODR TODHRI;CHER CHEROKEE DUPL DUPLOYAN KANA KATAKA",
     "NA LATN LATIN SYRC SYRIAC TFNG TIFINAGH;CHER CHEROKEE DUPL DUPLOYAN LATN LATIN SYRC SYRIA",
     "C;LATN LATIN SYRC SYRIAC;LATN LATIN SUNU SUNUWAR SYRC SYRIAC;CHER CHEROKEE LATN LATIN SYR",
     "C SYRIAC;AGHB CAUCASIANALBANIAN CHER CHEROKEE GOTH GOTHIC LATN LATIN SUNU SUNUWAR SYRC SY",
     "RIAC THAI;GREK GREEK;LATN LATIN OSGE OSAGE;AGHB CAUCASIANALBANIAN LATN LATIN TODR TODHRI;",
     "COPT COPTIC QAAC GREK GREEK;COPT COPTIC QAAC;CYRL CYRILLIC;CYRL CYRILLIC PERM OLDPERMIC;C",
     "YRL CYRILLIC GLAG GLAGOLITIC;CYRL CYRILLIC LATN LATIN;ARMN ARMENIAN;ARMN ARMENIAN GEOR GE",
     "ORGIAN GLAG GLAGOLITIC;HEBR HEBREW;ARAB ARABIC;ARAB ARABIC GARA GARAY NKOO NKO ROHG HANIF",
     "IROHINGYA SYRC SYRIAC THAA THAANA YEZI YEZIDI;ARAB ARABIC SYRC SYRIAC THAA THAANA;ADLM AD",
     "LAM ARAB ARABIC GARA GARAY NKOO NKO ROHG HANIFIROHINGYA SYRC SYRIAC THAA THAANA YEZI YEZI",
     "DI;ADLM ADLAM ARAB ARABIC MAND MANDAIC MANI MANICHAEAN OUGR OLDUYGHUR PHLP PSALTERPAHLAVI",
     " ROHG HANIFIROHINGYA SOGD SOGDIAN SYRC SYRIAC;ARAB ARABIC SYRC SYRIAC;ARAB ARABIC THAA TH",
     "AANA YEZI YEZIDI;ARAB ARABIC ROHG HANIFIROHINGYA;SYRC SYRIAC;THAA THAANA;NKOO NKO;SAMR SA",
     "MARITAN;MAND MANDAIC;DEVA DEVANAGARI;BENG BENGALI DEVA DEVANAGARI GRAN GRANTHA GUJR GUJAR",
     "ATI GURU GURMUKHI KNDA KANNADA LATN LATIN MLYM MALAYALAM NAND NANDINAGARI NEWA ORYA ORIYA",
     " SHRD SHARADA TAML TAMIL TELU TELUGU TIRH TIRHUTA;BENG BENGALI DEVA DEVANAGARI GRAN GRANT",
     "HA GUJR GUJARATI GURU GURMUKHI KNDA KANNADA LATN LATIN MLYM MALAYALAM NEWA ORYA ORIYA TAM",
     "L TAMIL TELU TELUGU TIRH TIRHUTA;BENG BENGALI DEVA DEVANAGARI DOGR DOGRA GONG GUNJALAGOND",
     "I GONM MASARAMGONDI GRAN GRANTHA GUJR GUJARATI GURU GURMUKHI KNDA KANNADA MAHJ MAHAJANI M",
     "LYM MALAYALAM NAND NANDINAGARI ONAO OLONAL ORYA ORIYA SIND KHUDAWADI SINH SINHALA SYLO SY",
     "LOTINAGRI TAKR TAKRI TAML TAMIL TELU TELUGU TIRH TIRHUTA;BENG BENGALI DEVA DEVANAGARI DOG",
     "R DOGRA GONG GUNJALAGONDI GONM MASARAMGONDI GRAN GRANTHA GUJR GUJARATI GUKH GURUNGKHEMA G",
     "URU GURMUKHI KNDA KANNADA LIMB LIMBU MAHJ MAHAJANI MLYM MALAYALAM NAND NANDINAGARI ONAO O",
     "LONAL ORYA ORIYA SIND KHUDAWADI SINH SINHALA SYLO SYLOTINAGRI TAKR TAKRI TAML TAMIL TELU ",
     "TELUGU TIRH TIRHUTA;DEVA DEVANAGARI DOGR DOGRA KTHI KAITHI MAHJ MAHAJANI;BENG BENGALI;BEN",
     "G BENGALI CAKM CHAKMA SYLO SYLOTINAGRI;GURU GURMUKHI;GURU GURMUKHI MULT MULTANI;GUJR GUJA",
     "RATI;GUJR GUJARATI KHOJ KHOJKI;ORYA ORIYA;TAML TAMIL;GRAN GRANTHA TAML TAMIL;TELU TELUGU;",
     "KNDA KANNADA;KNDA KANNADA NAND NANDINAGARI TUTG TULUTIGALARI;MLYM MALAYALAM;SINH SINHALA;",
     "THAI;LAOO LAO;TIBT TIBETAN;MYMR MYANMAR;CAKM CHAKMA MYMR MYANMAR TALE TAILE;GEOR GEORGIAN",
     ";GEOR GEORGIAN GLAG GLAGOLITIC LATN LATIN;HANG HANGUL;ETHI ETHIOPIC;CHER CHEROKEE;CANS CA",
     "NADIANABORIGINAL;OGAM OGHAM;RUNR RUNIC;TGLG TAGALOG;HANO HANUNOO;BUHD BUHID HANO HANUNOO ",
     "TAGB TAGBANWA TGLG TAGALOG;BUHD BUHID;TAGB TAGBANWA;KHMR KHMER;MONG MONGOLIAN;MONG MONGOL",
     "IAN PHAG PHAGSPA;LIMB LIMBU;TALE TAILE;TALU NEWTAILUE;BUGI BUGINESE;LANA TAITHAM;BALI BAL",
     "INESE;SUND SUNDANESE;BATK BATAK;LEPC LEPCHA;OLCK OLCHIKI;BENG BENGALI DEVA DEVANAGARI GRA",
     "N GRANTHA KNDA KANNADA;DEVA DEVANAGARI GRAN GRANTHA KNDA KANNADA;BENG BENGALI DEVA DEVANA",
     "GARI NEWA TELU TELUGU TIRH TIRHUTA;BENG BENGALI DEVA DEVANAGARI TELU TELUGU;DEVA DEVANAGA",
     "RI NEWA SHRD SHARADA;BENG BENGALI DEVA DEVANAGARI NEWA TELU TELUGU;DEVA DEVANAGARI SHRD S",
     "HARADA;DEVA DEVANAGARI KNDA KANNADA MLYM MALAYALAM ORYA ORIYA TAML TAMIL TELU TELUGU;BENG",
     " BENGALI DEVA DEVANAGARI;DEVA DEVANAGARI NEWA TIRH TIRHUTA;DEVA DEVANAGARI NAND NANDINAGA",
     "RI NEWA;BENG BENGALI DEVA DEVANAGARI SHRD SHARADA;DEVA DEVANAGARI NEWA;BENG BENGALI DEVA ",
     "DEVANAGARI NEWA SHRD SHARADA;BENG BENGALI DEVA DEVANAGARI GRAN GRANTHA KNDA KANNADA MLYM ",
     "MALAYALAM NAND NANDINAGARI ORYA ORIYA SINH SINHALA TELU TELUGU TIRH TIRHUTA TUTG TULUTIGA",
     "LARI;DEVA DEVANAGARI GRAN GRANTHA;DEVA DEVANAGARI GRAN GRANTHA KNDA KANNADA TUTG TULUTIGA",
     "LARI;NAND NANDINAGARI;CYRL CYRILLIC LATN LATIN SYRC SYRIAC;LATN LATIN MONG MONGOLIAN PHAG",
     " PHAGSPA;ADLM ADLAM ARAB ARABIC;CARI CARIAN GEOR GEORGIAN GLAG GLAGOLITIC HUNG OLDHUNGARI",
     "AN LYCI LYCIAN ORKH OLDTURKIC;CARI CARIAN GREK GREEK HUNG OLDHUNGARIAN MERO MEROITICHIERO",
     "GLYPHS;DEVA DEVANAGARI GRAN GRANTHA LATN LATIN;BRAI BRAILLE;GLAG GLAGOLITIC;TFNG TIFINAGH",
     ";COPT COPTIC QAAC LATN LATIN;AVST AVESTAN ORKH OLDTURKIC;AVST AVESTAN CARI CARIAN GEOR GE",
     "ORGIAN HUNG OLDHUNGARIAN KTHI KAITHI LYDI LYDIAN SAMR SAMARITAN;DUPL DUPLOYAN;ADLM ADLAM ",
     "ARAB ARABIC HUNG OLDHUNGARIAN;HANI HAN;HANI HAN TANG TANGUT;BOPO BOPOMOFO HANG HANGUL HAN",
     "I HAN HIRA HIRAGANA KANA KATAKANA MONG MONGOLIAN YIII YI;BOPO BOPOMOFO HANG HANGUL HANI H",
     "AN HIRA HIRAGANA KANA KATAKANA MONG MONGOLIAN PHAG PHAGSPA YIII YI;BOPO BOPOMOFO HANG HAN",
     "GUL HANI HAN HIRA HIRAGANA KANA KATAKANA;BOPO BOPOMOFO HANG HANGUL HANI HAN HIRA HIRAGANA",
     " KANA KATAKANA MONG MONGOLIAN TIBT TIBETAN YIII YI;BOPO BOPOMOFO HANG HANGUL HANI HAN HIR",
     "A HIRAGANA KANA KATAKANA LISU MONG MONGOLIAN TIBT TIBETAN YIII YI;BOPO BOPOMOFO HANG HANG",
     "UL HANI HAN HIRA HIRAGANA KANA KATAKANA YIII YI;BOPO BOPOMOFO HANI HAN;HIRA HIRAGANA KANA",
     " KATAKANA;HANI HAN HIRA HIRAGANA KANA KATAKANA;HIRA HIRAGANA;KANA KATAKANA;YIII YI;LISU;V",
     "AII VAI;BAMU BAMUM;HANI HAN LATN LATIN;SYLO SYLOTINAGRI;DEVA DEVANAGARI DOGR DOGRA GUJR G",
     "UJARATI GURU GURMUKHI KHOJ KHOJKI KNDA KANNADA KTHI KAITHI MAHJ MAHAJANI MLYM MALAYALAM M",
     "ODI NAND NANDINAGARI SHRD SHARADA SIND KHUDAWADI TAKR TAKRI TIRH TIRHUTA TUTG TULUTIGALAR",
     "I;DEVA DEVANAGARI DOGR DOGRA GUJR GUJARATI GURU GURMUKHI KHOJ KHOJKI KNDA KANNADA KTHI KA",
     "ITHI MAHJ MAHAJANI MODI NAND NANDINAGARI SHRD SHARADA SIND KHUDAWADI TAKR TAKRI TIRH TIRH",
     "UTA TUTG TULUTIGALARI;DEVA DEVANAGARI DOGR DOGRA GUJR GUJARATI GURU GURMUKHI KHOJ KHOJKI ",
     "KTHI KAITHI MAHJ MAHAJANI MODI SIND KHUDAWADI TAKR TAKRI TIRH TIRHUTA;DEVA DEVANAGARI DOG",
     "R DOGRA GUJR GUJARATI GURU GURMUKHI KHOJ KHOJKI KTHI KAITHI MAHJ MAHAJANI MODI SHRD SHARA",
     "DA SIND KHUDAWADI TAKR TAKRI TIRH TIRHUTA;PHAG PHAGSPA;SAUR SAURASHTRA;BENG BENGALI DEVA ",
     "DEVANAGARI TUTG TULUTIGALARI;DEVA DEVANAGARI TAML TAMIL;KALI KAYAHLI;KALI KAYAHLI LATN LA",
     "TIN MYMR MYANMAR;RJNG REJANG;JAVA JAVANESE;BUGI BUGINESE JAVA JAVANESE;CHAM;TAVT TAIVIET;",
     "MTEI MEETEIMAYEK;ARAB ARABIC NKOO NKO;ARAB ARABIC THAA THAANA;LINB LINEARB;CPMN CYPROMINO",
     "AN CPRT CYPRIOT LINB LINEARB;CPRT CYPRIOT LINB LINEARB;CPRT CYPRIOT LINA LINEARA LINB LIN",
     "EARB;LYCI LYCIAN;CARI CARIAN;ARAB ARABIC COPT COPTIC QAAC;ITAL OLDITALIC;GOTH GOTHIC;PERM",
     " OLDPERMIC;UGAR UGARITIC;XPEO OLDPERSIAN;DSRT DESERET;SHAW SHAVIAN;OSMA OSMANYA;OSGE OSAG",
     "E;ELBA ELBASAN;AGHB CAUCASIANALBANIAN;VITH VITHKUQI;TODR TODHRI;LINA LINEARA;CPRT CYPRIOT",
     ";ARMI IMPERIALARAMAIC;PALM PALMYRENE;NBAT NABATAEAN;HATR HATRAN;PHNX PHOENICIAN;LYDI LYDI",
     "AN;SIDT SIDETIC;MERO MEROITICHIEROGLYPHS;MERC MEROITICCURSIVE;KHAR KHAROSHTHI;SARB OLDSOU",
     "THARABIAN;NARB OLDNORTHARABIAN;MANI MANICHAEAN;MANI MANICHAEAN OUGR OLDUYGHUR;AVST AVESTA",
     "N;PRTI INSCRIPTIONALPARTHIAN;PHLI INSCRIPTIONALPAHLAVI;PHLP PSALTERPAHLAVI;ORKH OLDTURKIC",
     ";HUNG OLDHUNGARIAN;ROHG HANIFIROHINGYA;GARA GARAY;YEZI YEZIDI;SOGO OLDSOGDIAN;SOGD SOGDIA",
     "N;OUGR OLDUYGHUR;CHRS CHORASMIAN;ELYM ELYMAIC;BRAH BRAHMI;KTHI KAITHI;SORA SORASOMPENG;CA",
     "KM CHAKMA;MAHJ MAHAJANI;SHRD SHARADA;KHOJ KHOJKI;MULT MULTANI;SIND KHUDAWADI;GRAN GRANTHA",
     ";TUTG TULUTIGALARI;NEWA;TIRH TIRHUTA;SIDD SIDDHAM;MODI;TAKR TAKRI;AHOM;DOGR DOGRA;WARA WA",
     "RANGCITI;DIAK DIVESAKURU;ZANB ZANABAZARSQUARE;SOYO SOYOMBO;PAUC PAUCINHAU;SUNU SUNUWAR;BH",
     "KS BHAIKSUKI;MARC MARCHEN;GONM MASARAMGONDI;GONG GUNJALAGONDI;TOLS TOLONGSIKI;MAKA MAKASA",
     "R;KAWI;XSUX CUNEIFORM;CPMN CYPROMINOAN;EGYP EGYPTIANHIEROGLYPHS;HLUW ANATOLIANHIEROGLYPHS",
     ";GUKH GURUNGKHEMA;MROO MRO;TNSA TANGSA;BASS BASSAVAH;HMNG PAHAWHHMONG;KRAI KIRATRAI;MEDF ",
     "MEDEFAIDRIN;BERF BERIAERFE;PLRD MIAO;TANG TANGUT;NSHU NUSHU;KITS KHITANSMALLSCRIPT;SGNW S",
     "IGNWRITING;HMNP NYIAKENGPUACHUEHMONG;TOTO;WCHO WANCHO;NAGM NAGMUNDARI;ONAO OLONAL;TAYO TA",
     "IYO;MEND MENDEKIKAKUI;ADLM ADLAM"]
    ["X31Q261Q2WG112C113211251N211W0211jF23114A115113511169117111561525128K1191A1B1C1D1E1F1G1H1",
     "I1J1K1L1M1N1O1M1P1O1QFO1R1S1T7O1U1T1O1W01W1GO1W22O1W2IO1W35O1W44OD24W22W52W2204W2111W2401",
     "W2111W2113W2101W210KW210X1W2EW6GW2Z7W71W81W92WA1W9aDW710W7WB20WHWB1WC1WB203WB10WOWD80RWD4",
     "06WDB05WE116WE1WFEWE1WF1WG2WE1WHW1WE1WIAWEBWJAWEAWK6WE1WJY6WE1WL8WE11W3WEEWM10WTWM203WMWH",
     "WEWJWNE0WSWO203WOWFWP20FWP10SWQ201WQ10BWM50W3WE50XDWE11TWEXJWR1WS1WT2OFWR1WU1X0AX1GWR4X21",
     "08X2202X220MX2107X2101X2304X2209X2202X2204X2801X2402X2105X220AX3FX2203X4106X4402X420MX410",
     "7X4102X4102X4102X4201X4105X4402X4203X4301X4704X4101X470AX57X4A03X6109X6103X610MX6107X6102",
     "X6105X620AX6103X6103X6201X6F04X620AX72X6707X6103X8108X8202X820MX8107X8102X8105X8209X8202X",
     "8203X8703X8402X8105X820IX8A02X9106X9303X9104X9302X9101X9102X9302X9303X930CX9405X9303X9104",
     "X9201X9601X9E0EXA7X950DXB103XB10NXB10GXB209XB103XB104XB702XB103XB102XB204XB20AXB709XBDXC1",
     "03XC10NXC10AXC105XC209XC103XC104XC702XC503XC104XC20AXD103XCC0DXE103XE10WKXE103XE106XE40GX",
     "E20QXE103XF10IXF30OXF109XF101XF207XF301XF406XF101XF108XF60AXF203XFC0WRXG4011SXGW602XH101X",
     "H105XH10OXH101XH10NXH205XH101XH107XH10AXH204XHW10XAXI10W5XI40W8XI10W5XI10FXI107XI412XIW60",
     "X2XJAXKXOXJW7XL101XL501XL20WCXL1XM4XLd8XNXBXO104XO207XO101XO104XO20WAXO104XO20W2XO104XO20",
     "7XO101XO104XO20FXO10WQXO104XO20X5XO20W1XO30QXO60XOXP206XP20pKXQTXR30XRXS70MXT901XTLXU2Y09",
     "0KY1C0DY2103Y2102Y2C0Y1Y320AY360AY3602Y42Y51Y41Y5KY460XRY470WCY450X8XQA0W0Y610CY640CY6401",
     "Y630CY6UY7205Y7B0WDY840QY860BY8302Y8W1Y3SY9202Y9X1YA10TYA20BYA60AYA60EYA20WFO20COK0XFYB10",
     "WJYBX2YCWLYD804YDWPYE30FYE303YEWHYFBW750WCXL203XL8YC801YG1WR1YG1YH1WR1YI1YJ1YK1YL1YM1YN1W",
     "R2YM2WR1YM1YO1YP6WR1YQ1YR1YS1WR1YT4WR1YU1Z01Z12YO1X22Z01Z250W725W21W7WI25W2425W2D21W7X823",
     "W2WNO1Z31O1WM5Od82MW2206W220W7W2206W2208W2101W2101W2101W210W0W220WMW210FW210EW2206W210JW2",
     "203W2109W210C12OW211Z4W011Z5A11Z6211Z77110B11220B112F1E230W31E0W1O1Z8F0W711W231226112R112",
     "H1WA23140qF1M0B1L0yT1d8Z9p8120ZE1Y3ZAW12YNW6507W6W7XL101XL501XL20WPZB702ZBE01ZBNXO907XO10",
     "7XO107XO107XO107XO107XO107XO107XO10W1W7N11ZCO11ZD1ZEA11ZF411ZG111W9Q1W30QZH10XRZHC0bSZHQ0",
     "GZI111ZJ1ZK1ZL113ZH2ZM2ZN6ZO111ZL8ZO4ZL119ZH4ZP2XN1ZL5ZQ111ZL4ZH2ZR2ZH10XOZS204ZQ3ZS1ZQXS",
     "ZT1ZO1ZQ3ZT50WC810Y1XN10GZHW18W7ZH901ZIGZTW0XN10W9ZHO1W0XN11WIZHF1CZH41WGZT1ZHXQZTPZHA15Z",
     "HY31W0ZH11bvKZHX21qv5ZHWbIZU30WOZU90WHa0eLa1K0WGW71W9WHW7XQa2808a3Q1Y9231XK2K0F2WEa4303a5",
     "3a62a71a81a760WPa980X8aA80CaA60HWR1aB1WR1aCCWRWFaD1aE1aDW5aFB01aFTXN30XGaG101aHAaG402aGW0",
     "XJ10WOaI90EaI20AaI204aIW1XJX5aJO05aJNaKA06XO206XO206XO907XO107XO10WC211921W2422140XIXPWFa",
     "K20AaK60goCXNC0NXN40WIXNdtK0gPZH20YDZHW7072C05WB50QWD105WD101WD102WD102WD10AWDkTWE2aLZKWE",
     "W102WE1aMAWE1aM2WEGOA160EO2W7L12ZLC110J11041405WE10ZBWE201110W11Q261Q2615ZOAZT1ZQWEZT2ZQW",
     "0XN306XN206XN206XN203XN30711071A05120CaN10QaN10JaN102aN10FaN20EaNW30YUaN502aO1aP40WEaQ309",
     "aPXHW210D1301W2WG0WE11OZ60TaR30WIaSF0SaT40W5aU903aURb050WCb150Ub2101b2W5b340Eb3WB0XIb4WHb",
     "5Ub620Ab660W5b740W5b740W9b880WLb9B01b9BbA10FbA107bA102bA10BbA10FbA107bA102bA30WLbBC0f1bC9",
     "0MbCA08bCO06210WB21092X706bD201bD10WDbD102bD301bD201bDMbE109bEW1bFW0bG809bGWH0JbH102bH505",
     "bHSbI301bIQbJ501bJQbKW70W1bLObM40KbM20WFbM4bN102bN508bN103bN10TbN203bN40AbN709bN70W1bOW1b",
     "PW10W8bQ407bQ1bR4bQ90WNbS307bSMbT208bTJbU508bUIc0704c0C07c0XI0XBc1WO0WKc2D0WKc2706c2W9c38",
     "0Ac360W7c430Tc4802c4bM0W0WE10WBc5103c5202c5G06WE809WEW206WEW9c680WBc7M0Qc8W70Sc9K0NcA90XG",
     "cB40W5cB901cBX5cCA01cC20PcD70AcD60WMcE10IcE80W8cF90Y3cG10KXFB0IcH10WGcHX007cI101cI104cI10",
     "FcI10BcI60WScJ50AcJ601cK1XA1cK1XA108cK202cK20McK107cK102cK105cK102XA8cK202cK203cK201cK601",
     "cK507cK207cK305cKB0AcL101cL201cL10W7cL10AcL101cL201cL104cL10AcL102cL802cLT0XUcM105cMU0XAc",
     "N80AcNaB0WNcO20W7cOW30X7cPB0AcP60DY4J0WRcQ60AcQ60KXJS0RcR20FcR40NcRaU0WTcSY70XLcTC01cT7cU",
     "201cU208cU102cU10UcU102cU20CcU90AcUX808Z220WFZ220BZ2R0XAd080XLd1D0GXQWQd270AWRXO08cGXQ0W3",
     "d3E0Ad3609d410WEd410Ed4A0Td430W1d520Md510Ed5XB07d6102d610WDd6301d6102d6109d680Ad6606d7102",
     "d710W6d7102d7106d770Ad760WDd840Ad8cT0Pd970HdA10WAdA30TdAXN01a0F0GX92XA1X91XAUX9D01X9yNdBY",
     "90YIdB105dBB0bAdBXs10Y6dCD0WZPdDA0ZZRdD50nPdEcYL0WRdFWtT0nBa270W0dG10AdG402dGXHdH10AdH60U",
     "dI206dIA0X8dJA0AdJ107dJ10LdJ50JdJiT0WRdKbC0XTdL50PdM20PdMWD0XDdN40WQdN70HdNX201dO1dP2ZH1d",
     "QB07ZH90caUdOk5dQWA01dQW0dOY40YMdOeWL04ZT107ZT102ZT101ZTe8ZS3ZTF01ZST03ZS201ZTE04ZT80hOdP",
     "XhE0YEZF50DZF309ZF70AZF208ZFZXQ0d5130j2160N1F0H1F0WFO20NO90YN1WT0cT1A0W8120X013OH18O217OU",
     "14OWU1L0X8W2YT0K1C0K1C0XP190IZH71ZB0XN110X91102120112021204110C11011107110X31104120811071",
     "10S1104110511011307110fU120eD120WJ1q1dRF05dR10FdRWZJ0W026062bR07ZA10HZA207ZA102ZA105ZA50X",
     "0W7W201W7YJ0WEdS30EdS20AdS402dSfA0W0dTH0WRdU501dUjU0WBe0bS0WCe1401e1b60W0e210Me2802e2c707",
     "XO104XO102XO10FXO10bBe320Ge3WA0XEe440Ae4402e4uA0X61XE0WU1b804WE10RWE102WE101WE201WE10AWE1",
     "04WE101WE101WE601WE401WE101WE101WE103WE102WE101WE201WE101WE101WE101WE101WE102WE101WE204WE",
     "107WE104WE104WE101WE10AWE10HWE503WE105WE10HWEWL02WEdM0WD140Y71C0F120F110F110W61A0aJ1WP0Q1",
     "1ZS21D0WD14091702ZHE061ZU0WVO130H130D130c1160C14011F0C140WP180A160W9180U120C14021E091W80g",
     "3180E120D130B130WQ1101140G120C140A170ZN110YA1WX60Wij2ZHW10ZmBZH20bV8ZH20ct2ZHF0p2ZHXmH0mF",
     "ZHWmI0aZAZH50duRZHssaC011U0Y31Z40cNObnX60"]]

/-- The block. -/
def blockTraits : List Trait := [
  .ofTexts "BLK BLOCK"
    ["NOBLOCK NB;BASICLATIN ASCII;LATIN1SUPPLEMENT LATIN1SUP LATIN1;LATINEXTENDEDA LATINEXTA;LA",
     "TINEXTENDEDB LATINEXTB;IPAEXTENSIONS IPAEXT;SPACINGMODIFIERLETTERS MODIFIERLETTERS;COMBIN",
     "INGDIACRITICALMARKS DIACRITICALS;GREEKANDCOPTIC GREEK;CYRILLIC;CYRILLICSUPPLEMENT CYRILLI",
     "CSUP CYRILLICSUPPLEMENTARY;ARMENIAN;HEBREW;ARABIC;SYRIAC;ARABICSUPPLEMENT ARABICSUP;THAAN",
     "A;NKO;SAMARITAN;MANDAIC;SYRIACSUPPLEMENT SYRIACSUP;ARABICEXTENDEDB ARABICEXTB;ARABICEXTEN",
     "DEDA ARABICEXTA;DEVANAGARI;BENGALI;GURMUKHI;GUJARATI;ORIYA;TAMIL;TELUGU;KANNADA;MALAYALAM",
     ";SINHALA;THAI;LAO;TIBETAN;MYANMAR;GEORGIAN;HANGULJAMO JAMO;ETHIOPIC;ETHIOPICSUPPLEMENT ET",
     "HIOPICSUP;CHEROKEE;UNIFIEDCANADIANABORIGINALSYLLABICS UCAS CANADIANSYLLABICS;OGHAM;RUNIC;",
     "TAGALOG;HANUNOO;BUHID;TAGBANWA;KHMER;MONGOLIAN;UNIFIEDCANADIANABORIGINALSYLLABICSEXTENDED",
     " UCASEXT;LIMBU;TAILE;NEWTAILUE;KHMERSYMBOLS;BUGINESE;TAITHAM;COMBININGDIACRITICALMARKSEXT",
     "ENDED DIACRITICALSEXT;BALINESE;SUNDANESE;BATAK;LEPCHA;OLCHIKI;CYRILLICEXTENDEDC CYRILLICE",
     "XTC;GEORGIANEXTENDED GEORGIANEXT;SUNDANESESUPPLEMENT SUNDANESESUP;VEDICEXTENSIONS VEDICEX",
     "T;PHONETICEXTENSIONS PHONETICEXT;PHONETICEXTENSIONSSUPPLEMENT PHONETICEXTSUP;COMBININGDIA",
     "CRITICALMARKSSUPPLEMENT DIACRITICALSSUP;LATINEXTENDEDADDITIONAL LATINEXTADDITIONAL;GREEKE",
     "XTENDED GREEKEXT;GENERALPUNCTUATION PUNCTUATION;SUPERSCRIPTSANDSUBSCRIPTS SUPERANDSUB;CUR",
     "RENCYSYMBOLS;COMBININGDIACRITICALMARKSFORSYMBOLS DIACRITICALSFORSYMBOLS COMBININGMARKSFOR",
     "SYMBOLS;LETTERLIKESYMBOLS;NUMBERFORMS;ARROWS;MATHEMATICALOPERATORS MATHOPERATORS;MISCELLA",
     "NEOUSTECHNICAL MISCTECHNICAL;CONTROLPICTURES;OPTICALCHARACTERRECOGNITION OCR;ENCLOSEDALPH",
     "ANUMERICS ENCLOSEDALPHANUM;BOXDRAWING;BLOCKELEMENTS;GEOMETRICSHAPES;MISCELLANEOUSSYMBOLS ",
     "MISCSYMBOLS;DINGBATS;MISCELLANEOUSMATHEMATICALSYMBOLSA MISCMATHSYMBOLSA;SUPPLEMENTALARROW",
     "SA SUPARROWSA;BRAILLEPATTERNS BRAILLE;SUPPLEMENTALARROWSB SUPARROWSB;MISCELLANEOUSMATHEMA",
     "TICALSYMBOLSB MISCMATHSYMBOLSB;SUPPLEMENTALMATHEMATICALOPERATORS SUPMATHOPERATORS;MISCELL",
     "ANEOUSSYMBOLSANDARROWS MISCARROWS;GLAGOLITIC;LATINEXTENDEDC LATINEXTC;COPTIC;GEORGIANSUPP",
     "LEMENT GEORGIANSUP;TIFINAGH;ETHIOPICEXTENDED ETHIOPICEXT;CYRILLICEXTENDEDA CYRILLICEXTA;S",
     "UPPLEMENTALPUNCTUATION SUPPUNCTUATION;CJKRADICALSSUPPLEMENT CJKRADICALSSUP;KANGXIRADICALS",
     " KANGXI;IDEOGRAPHICDESCRIPTIONCHARACTERS IDC;CJKSYMBOLSANDPUNCTUATION CJKSYMBOLS;HIRAGANA",
     ";KATAKANA;BOPOMOFO;HANGULCOMPATIBILITYJAMO COMPATJAMO;KANBUN;BOPOMOFOEXTENDED BOPOMOFOEXT",
     ";CJKSTROKES;KATAKANAPHONETICEXTENSIONS KATAKANAEXT;ENCLOSEDCJKLETTERSANDMONTHS ENCLOSEDCJ",
     "K;CJKCOMPATIBILITY CJKCOMPAT;CJKUNIFIEDIDEOGRAPHSEXTENSIONA CJKEXTA;YIJINGHEXAGRAMSYMBOLS",
     " YIJING;CJKUNIFIEDIDEOGRAPHS CJK;YISYLLABLES;YIRADICALS;LISU;VAI;CYRILLICEXTENDEDB CYRILL",
     "ICEXTB;BAMUM;MODIFIERTONELETTERS;LATINEXTENDEDD LATINEXTD;SYLOTINAGRI;COMMONINDICNUMBERFO",
     "RMS INDICNUMBERFORMS;PHAGSPA;SAURASHTRA;DEVANAGARIEXTENDED DEVANAGARIEXT;KAYAHLI;REJANG;H",
     "ANGULJAMOEXTENDEDA JAMOEXTA;JAVANESE;MYANMAREXTENDEDB MYANMAREXTB;CHAM;MYANMAREXTENDEDA M",
     "YANMAREXTA;TAIVIET;MEETEIMAYEKEXTENSIONS MEETEIMAYEKEXT;ETHIOPICEXTENDEDA ETHIOPICEXTA;LA",
     "TINEXTENDEDE LATINEXTE;CHEROKEESUPPLEMENT CHEROKEESUP;MEETEIMAYEK;HANGULSYLLABLES HANGUL;",
     "HANGULJAMOEXTENDEDB JAMOEXTB;HIGHSURROGATES;HIGHPRIVATEUSESURROGATES HIGHPUSURROGATES;LOW",
     "SURROGATES;PRIVATEUSEAREA PUA PRIVATEUSE;CJKCOMPATIBILITYIDEOGRAPHS CJKCOMPATIDEOGRAPHS;A",
     "LPHABETICPRESENTATIONFORMS ALPHABETICPF;ARABICPRESENTATIONFORMSA ARABICPFA;VARIATIONSELEC",
     "TORS VS;VERTICALFORMS;COMBININGHALFMARKS HALFMARKS;CJKCOMPATIBILITYFORMS CJKCOMPATFORMS;S",
     "MALLFORMVARIANTS SMALLFORMS;ARABICPRESENTATIONFORMSB ARABICPFB;HALFWIDTHANDFULLWIDTHFORMS",
     " HALFANDFULLFORMS;SPECIALS;LINEARBSYLLABARY;LINEARBIDEOGRAMS;AEGEANNUMBERS;ANCIENTGREEKNU",
     "MBERS;ANCIENTSYMBOLS;PHAISTOSDISC PHAISTOS;LYCIAN;CARIAN;COPTICEPACTNUMBERS;OLDITALIC;GOT",
     "HIC;OLDPERMIC;UGARITIC;OLDPERSIAN;DESERET;SHAVIAN;OSMANYA;OSAGE;ELBASAN;CAUCASIANALBANIAN",
     ";VITHKUQI;TODHRI;LINEARA;LATINEXTENDEDF LATINEXTF;CYPRIOTSYLLABARY;IMPERIALARAMAIC;PALMYR",
     "ENE;NABATAEAN;HATRAN;PHOENICIAN;LYDIAN;SIDETIC;MEROITICHIEROGLYPHS;MEROITICCURSIVE;KHAROS",
     "HTHI;OLDSOUTHARABIAN;OLDNORTHARABIAN;MANICHAEAN;AVESTAN;INSCRIPTIONALPARTHIAN;INSCRIPTION",
     "ALPAHLAVI;PSALTERPAHLAVI;OLDTURKIC;OLDHUNGARIAN;HANIFIROHINGYA;GARAY;RUMINUMERALSYMBOLS R",
     "UMI;YEZIDI;ARABICEXTENDEDC ARABICEXTC;OLDSOGDIAN;SOGDIAN;OLDUYGHUR;CHORASMIAN;ELYMAIC;BRA",
     "HMI;KAITHI;SORASOMPENG;CHAKMA;MAHAJANI;SHARADA;SINHALAARCHAICNUMBERS;KHOJKI;MULTANI;KHUDA",
     "WADI;GRANTHA;TULUTIGALARI;NEWA;TIRHUTA;SIDDHAM;MODI;MONGOLIANSUPPLEMENT MONGOLIANSUP;TAKR",
     "I;MYANMAREXTENDEDC MYANMAREXTC;AHOM;DOGRA;WARANGCITI;DIVESAKURU;NANDINAGARI;ZANABAZARSQUA",
     "RE;SOYOMBO;UNIFIEDCANADIANABORIGINALSYLLABICSEXTENDEDA UCASEXTA;PAUCINHAU;DEVANAGARIEXTEN",
     "DEDA DEVANAGARIEXTA;SHARADASUPPLEMENT SHARADASUP;SUNUWAR;BHAIKSUKI;MARCHEN;MASARAMGONDI;G",
     "UNJALAGONDI;TOLONGSIKI;MAKASAR;KAWI;LISUSUPPLEMENT LISUSUP;TAMILSUPPLEMENT TAMILSUP;CUNEI",
     "FORM;CUNEIFORMNUMBERSANDPUNCTUATION CUNEIFORMNUMBERS;EARLYDYNASTICCUNEIFORM;CYPROMINOAN;E",
     "GYPTIANHIEROGLYPHS;EGYPTIANHIEROGLYPHFORMATCONTROLS;EGYPTIANHIEROGLYPHSEXTENDEDA EGYPTIAN",
     "HIEROGLYPHSEXTA;ANATOLIANHIEROGLYPHS;GURUNGKHEMA;BAMUMSUPPLEMENT BAMUMSUP;MRO;TANGSA;BASS",
     "AVAH;PAHAWHHMONG;KIRATRAI;MEDEFAIDRIN;BERIAERFE;MIAO;IDEOGRAPHICSYMBOLSANDPUNCTUATION IDE",
     "OGRAPHICSYMBOLS;TANGUT;TANGUTCOMPONENTS;KHITANSMALLSCRIPT;TANGUTSUPPLEMENT TANGUTSUP;TANG",
     "UTCOMPONENTSSUPPLEMENT TANGUTCOMPONENTSSUP;KANAEXTENDEDB KANAEXTB;KANASUPPLEMENT KANASUP;",
     "KANAEXTENDEDA KANAEXTA;SMALLKANAEXTENSION SMALLKANAEXT;NUSHU;DUPLOYAN;SHORTHANDFORMATCONT",
     "ROLS;SYMBOLSFORLEGACYCOMPUTINGSUPPLEMENT SYMBOLSFORLEGACYCOMPUTINGSUP;MISCELLANEOUSSYMBOL",
     "SSUPPLEMENT MISCSYMBOLSSUP;ZNAMENNYMUSICALNOTATION ZNAMENNYMUSIC;BYZANTINEMUSICALSYMBOLS ",
     "BYZANTINEMUSIC;MUSICALSYMBOLS MUSIC;ANCIENTGREEKMUSICALNOTATION ANCIENTGREEKMUSIC;KAKTOVI",
     "KNUMERALS;MAYANNUMERALS;TAIXUANJINGSYMBOLS TAIXUANJING;COUNTINGRODNUMERALS COUNTINGROD;MA",
     "THEMATICALALPHANUMERICSYMBOLS MATHALPHANUM;SUTTONSIGNWRITING;LATINEXTENDEDG LATINEXTG;GLA",
     "GOLITICSUPPLEMENT GLAGOLITICSUP;CYRILLICEXTENDEDD CYRILLICEXTD;NYIAKENGPUACHUEHMONG;TOTO;",
     "WANCHO;NAGMUNDARI;OLONAL;TAIYO;ETHIOPICEXTENDEDB ETHIOPICEXTB;MENDEKIKAKUI;ADLAM;INDICSIY",
     "AQNUMBERS;OTTOMANSIYAQNUMBERS;ARABICMATHEMATICALALPHABETICSYMBOLS ARABICMATH;MAHJONGTILES",
     " MAHJONG;DOMINOTILES DOMINO;PLAYINGCARDS;ENCLOSEDALPHANUMERICSUPPLEMENT ENCLOSEDALPHANUMS",
     "UP;ENCLOSEDIDEOGRAPHICSUPPLEMENT ENCLOSEDIDEOGRAPHICSUP;MISCELLANEOUSSYMBOLSANDPICTOGRAPH",
     "S MISCPICTOGRAPHS;EMOTICONS;ORNAMENTALDINGBATS;TRANSPORTANDMAPSYMBOLS TRANSPORTANDMAP;ALC",
     "HEMICALSYMBOLS ALCHEMICAL;GEOMETRICSHAPESEXTENDED GEOMETRICSHAPESEXT;SUPPLEMENTALARROWSC ",
     "SUPARROWSC;SUPPLEMENTALSYMBOLSANDPICTOGRAPHS SUPSYMBOLSANDPICTOGRAPHS;CHESSSYMBOLS;SYMBOL",
     "SANDPICTOGRAPHSEXTENDEDA SYMBOLSANDPICTOGRAPHSEXTA;SYMBOLSFORLEGACYCOMPUTING;CJKUNIFIEDID",
     "EOGRAPHSEXTENSIONB CJKEXTB;CJKUNIFIEDIDEOGRAPHSEXTENSIONC CJKEXTC;CJKUNIFIEDIDEOGRAPHSEXT",
     "ENSIOND CJKEXTD;CJKUNIFIEDIDEOGRAPHSEXTENSIONE CJKEXTE;CJKUNIFIEDIDEOGRAPHSEXTENSIONF CJK",
     "EXTF;CJKUNIFIEDIDEOGRAPHSEXTENSIONI CJKEXTI;CJKCOMPATIBILITYIDEOGRAPHSSUPPLEMENT CJKCOMPA",
     "TIDEOGRAPHSSUP;CJKUNIFIEDIDEOGRAPHSEXTENSIONG CJKEXTG;CJKUNIFIEDIDEOGRAPHSEXTENSIONH CJKE",
     "XTH;CJKUNIFIEDIDEOGRAPHSEXTENSIONJ CJKEXTJ;TAGS;VARIATIONSELECTORSSUPPLEMENT VSSUP;SUPPLE",
     "MENTARYPRIVATEUSEAREAA SUPPUAA;SUPPLEMENTARYPRIVATEUSEAREAB SUPPUAB"]
    ["Z41Z42Z43bM4Y35XI6YJ7ZK8d89WHAY3BYJCd8DXIEWHFX2GX2HX2IW1JGKWHLY3MZ4NZ4OZ4PZ4QZ4RZ4SZ4TZ4U",
     "Z4W0Z4W1Z4W2Z4W3d8W4a5W5Y3W6d8W7hCW8W1W9Y3WApKWBW1WCY3WDW1WEW1WFW1WGW1WHZ4WIaLWJXIWKXIWLW",
     "HWMY3WNW1WOW1WPZKWQXIWRZ4WSX2WTX2WUXIX0WHX1GX2WHX3GX4WHX5Z4X6X2X7X2X8d8X9d8XAYJXBWHXCWHXD",
     "WHXEXIXFX2XGYJXHd8XId8XJX2XKW1XLa5XMZ4XNW1XOY3XPd8XQb6XRWHXSGXTd8XUZ4Y0Z4Y1d8Y2d8Y3Y3Y4W1",
     "Y5Z4Y6WHY7XIY8Y3Y9W1YAZ4YBZ4YCc7YDG0GYEX2YFY3YGY3YHWHYIY3YJGYKW1YLWHYMGYNd8YOd8YPbvKYQX2Y",
     "Rqv5YSWbLYTX2YUWHZ0fAZ1Y3Z2Y3Z3W1Z4c7Z5WHZ6GZ7X2Z8Y3Z9W1ZAWHZBWHZCW1ZDY3ZEW1ZFY3ZGW1ZHY3Z",
     "IW1ZJWHZKX2ZLXIZMX2ZNgoOZOXIZPxSZQZ4ZRWX1ZSbpEZTlGZUXIa0r6a1Ga2Ga3Ga4W1a5W1a6ZKa7cNa8Ga9Z",
     "4aAZ4aBX2aCXIaDX2aEWHaFZ40W1aGX2aHW1aIWHaJW1aKWHaLW1aMX2aNW10XIaOWHaPWHaQXIaRWHaSX2aTXIaU",
     "X2b0hCb1X2b2X20X2b3W1b4W1b5WHb6WH0W1b7W1b8W1b9W1bAW10W1bBY3bCY3bDW1bEW1bFW10X2bGX2bHW1bIW",
     "1bJWHbKXI0XIbLWH0Z4bMX2bNXIbObM0W1bPX2bQX2bRWHbSX2bTX2bUWHc0W1c1Z4c2XIc3WHc4XIc5WHc6Y3c7W",
     "1c8XIc9WH0WHcAXIcBZ4cCZ4cDZ4cEY3cFa50Z4cGY3cHW1cIXIcJWHcKXIcLaL0XIcMXI0Y3cNY3cOX20Y3cPXIc",
     "QY3cRGcSX2cTY3cUW1d0X20X2d1YJd2XId3X20Y3d4XId5X2d6cN0W1d7Y3d8XI0Gd9X2dAWX1dBZ4dCbMdDXrK0Y",
     "JdEWYIdFWHdGZa1dHpKdIcWQ0X2dJWtN0nIdKWHdLY3dMWHdNZKdOiT0X2dPb60Y3dQX2dRW10a5dSX20W1dTbh6d",
     "UtOe0lGe1Z4e2Z4e3eW80Ge4d8e5WHe6X2e7hSe8XhA0a5e9GeAZXE0rMeBX2eCbMeDWH0d8eEd8eFXIeGYJ0W1eH",
     "W1eIY3eJW1eKZ40WX1eLr6eMWZJ0d8eNWHeOY3ePYJ0XIeQfA0WHeRX2eSjU0WHeTbM0WHeUb60X2f0c70W1f1c7f",
     "2W10Y3f3u90XIf4X20XIf5aL0d8f6d80WHf7YJf8Y3f9d8fAd8fBtOfCXIfDWHfEZ4fFZ4fGZ4fHd8fId8fJYJfKZ",
     "KfLd8fMWX10Wij2fNW10Zf6fOc7fPbVAfQctHfRp4fSXmF0mHfTWmG0aZFfUZg7g0ZjQg1ssa50Z4g2Z40cNg3Xaq",
     "20Xbb2g4Xbb2g5"]]

end SourceAudit.Text
