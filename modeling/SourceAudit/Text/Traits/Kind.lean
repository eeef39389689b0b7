import SourceAudit.Text.Trait

/-!
# SourceAudit.Text.Traits.Kind

Yes-or-no properties: the customary classes of characters, and the rest.
-/

namespace SourceAudit.Text

/-- The customary classes. -/
def classTraits : List Trait := [
  .flag "ANY"
    ["Wbhf31"],
  .flag "ALPHA ALPHABETIC"
    ["X30Q160Q1WG011A011401150N110W0110jO140C1E05170111011XO011T0I110212041101160111031101110K1",
     "10XL110ZF180aB110W71201160WA1W80E1101110211021101180R14041T0B150WP11071E0Y91108140814031A",
     "0312011G0WH1D0Y81O0W219021401150O120J1J0P170B150O11071701180WB1A0C1307160XE110G1103140F1D",
     "0J11081202120M11071101130413081202120211011801140211051C021A01140311061402120M11071102110",
     "211021405140212021401170411011H061B0311091103110M11071102110513091103110213011F041L041403",
     "11081202120M1107110211051308120212021902140211051D011G02110613031104130211011102130213031",
     "30C140513031103130116011W90D1103110N110G13081103110318021103110212041S0411081103110N110A1",
     "1051308110311031802150311041D031C0D1103110WA1208110311031101150417051M061103110I130O11091",
     "10112071806110111081I021D0WR150716011WK0211011105110O1101110J11031205110116011E041W1011X1",
     "08110W5140J140G110W51X50WO110112051G0X21A04120W711011501120WC110fN1104120711011104120WA11",
     "04120W21104120711011104120F110WQ1104120X51W60G1G0XO1206130p0120H110Q150XD130B170K1B0L1C0K",
     "1C0D110311021C0WL120J1E0114011X50XR170WC150X81A0W0110C14091N0U12051B0WD140Q1WN0S140X1120K",
     "1WJ011N021B031WI0WL110F11081WK0WB12041A0WD110B1E0WO1M031A0W5120B150WC12031WA0411061102130",
     "1150b61J0W31B0dU1206120W712061208110111011101110W0120WM110711011303110713041206140D150311",
     "071YN011D011F0E1Y8011401120A110113051601110111011104110B1204150514011H0WA1v70WL1WwG0cC160",
     "413021C0W711011501120WP17011G0N19071107110711071107110711071107110W11WG011k4031P091705120",
     "5140XO1603110XS1104150WC110Y11H0W11WH0G1lG0bvK1X20sWN1X50WF120dL130G1A021K0WG1508130YK1W8",
     "09120YA120XK1K0L110W21O0WL1C0X611011WD06130111031A0W2150W41D0T130WK110C1F011G0G1A05110WO1",
     "90E1I0N130X7110111011O03120G12041B061206120619071107110WC110E160YU1L0goC1C0N140WI1dtK0gP1",
     "20YD1W7071C05150C110D1105110111021102110YF1W20gM1I0X2120WN1W90C1YN05110ZB1W50Q160Q1B0XR13",
     "061206120612031W40C110Q110J1102110F120E1W30YU1X70WM1dJ0T130WI1WG0W11D0U150WC150U120W51408",
     "11051WB0a31I0W5140W5140W9180WL1C0B110F11071102110B110F11071102130WL1C0f1190M1A081O06110WB",
     "11091X7061201110WD11021301120N1A0N190W01X30J11021A0M1A0Q160Q1W70WP16021X20411021508110311",
     "0T1WB0T130T1W408110S1R0WN1A0M1A0J1D0I1YH0XB1WO0WK1D0WK1D0W91W30S1301150N1d20WB110213021G0",
     "61WJ03130T1A01180M1WB0I1WF0L1R0N190X81WC051A0WQ19011D0P1N0WK1H04180W41301190X2110419021A0",
     "111011W40I110W3120116041X00711011104110F110A170WQ1N0411081202120M110711021105130812021202",
     "1301160115071S0A11011201110W7110A1101120111041102130111011WD0X4110311041K031U0X4120211011",
     "aT0WN12071P061W30X1110113011WS0WN12011X90R120E1L071aU0WQ1YA0X21W008120112081102110U110212",
     "0212041Y008120WF1206110111021R0WK120A1H0XA15011I0XB1YA081XQ0W21W009110WE110711011WI0U120M",
     "110E1XB071102110WD130111021103110112021O061102110W61102110411011N0WD1dC0N190H110WA13031YI",
     "011XH0yN1Y90YI1H0bA1Xs10Y41F0WYI1H061P0ZZR150nP1cYL0WG1Wu90nB170W01H0XH1H0U1I0WH1G041W00L",
     "150J1iT0WE1bP0X21W10P120P1WD0XD140WQ170H1X20211011C07190cq41WA0W11Y40YM1eWL0411071102110e",
     "C1F011T0312011E04180hO1XhE0YE150D1309170A14011bc20XN110X91102120112021204110C11011107110X",
     "3110412081107110S1104110511011307110fU120P110P110W0110P110W0110P110W0110P110W0110P11081Wx",
     "F0W016061bR07110H120711021105150X01W2011YJ0WE1A071G011fB0U1I0WD1kJ0S1cB0U12011bL0W0110M18",
     "021c70711041102110F110bB1WS0X6130113011WcQ04110R110211011201110A1104110111011601140111011",
     "101110311021101120111011101110111011102110112041107110411041101110A110H15031105110H1p80Q1",
     "60Q160Q1YvD0Wij21W10ZmB120bV8120ct21F0p21XmH0mF1WmI0aZA150duR1zfsH0"],
  .flag "OALPHA OTHERALPHABETIC"
    ["w0011T0D1nI0E11011102110211011XA0B1WH0D11071G011Y8071404120214011W4011U0G1Y90B1Y802130911",
     "0311041YD011WT0C1307160K1WN02120F110215031A021T031WR07120212021A011A021T031WR051402120214",
     "011U0213011B031WR08110311021L021M0314031WR071202120219021A021U011WS05130311031A011W9051WQ",
     "071103110318021B021T031WR071103110318021B021F011C041WR07110311031A011A021T031XD0611011108",
     "1I021WU0112071I011Y601120611021G011a80J190B110W51YH0C110112041N0414031103120713041D0C1101",
     "1A041Wr9021U021U021U021X40J1b2021W3011YP0C14091c5051WQ0A120K1XC021B031WI051WH0F1WT031U091",
     "2021WQ0B1WJ0J1i90W31WtO0WL1Xh00W11WWXM081W3021gD0118011N051XQ021WJ0G11011WQ011W7051S0C1WE",
     "041WH0C1W6011X50E1C0118021WE031WJ011103120215011WD0515011cK081qY1011XbR051WrR03110215041u",
     "D041X3011fB021XF031dB031WM0E1WE021B031WE0919011WU031W50C1I021WQ031WH0D1E021XU091201160112",
     "011a20A1N041WR07120212021A011A021XM0911011201110411021YA0D11031YD0I1cK0712071T021XK0F1101",
     "1YD0B1YA0E1d90D1cU0611021202130111011ZI07120614011S0A1WB0511041I0B1WF0E1bE081bD0811071XL0",
     "M110E1YT06130111021103110113011X405110211041g704190211011WH0713031mlS0H1YsK01110WO17041Y0",
     "021pi5011ei507110H1207110211051Y7011Wq7011201170215011o4011XY90Q160Q160Q1WXYtC0"],
  .flag "ALNUM"
    ["WH0A170Q160Q1WG011A011401150N110W0110jO140C1E05170111011XO011T0I1102120411011601110311011",
     "10K110XL110ZF180aB110W71201160WA1W80E1101110211021101180R14041T0B150WP110H140Y91108140814",
     "0G12011G0WH1D0Y81E0WC19021401150O120J1J0P170B150O11071701180WB1A0C1307160XE110G1103140F12",
     "0A110J11081202120M1107110113041308120212021101180114021105120C1A01140311061402120M1107110",
     "211021102140514021202140117041101170G1B0311091103110M11071102110513091103110213011F04120A",
     "1904140311081202120M110711021105130812021202190214021105120A11011G02110613031104130211011",
     "10213021303130C140513031103130116011E0A1G0D1103110N110G1308110311031802110311021204120A1G",
     "0411081103110N110A1105130811031103180215031104120A11031C0D1103110WA1208110311031101150417",
     "05120A1A061103110I130O110911011207180611011108160A12021D0WR15071601120A1W80211011105110O1",
     "101110J1103120511011601120A12041W1011W00A1M08110W5140J140G110W51X50WO1101120F160XG120W711",
     "011501120WC110fN1104120711011104120WA1104120W21104120711011104120F110WQ1104120X51W60G1G0X",
     "O1206130p0120H110Q150XD130B170K1B0L1C0K1C0D110311021C0WL120J1E011401130A1W70A160XR170WC15",
     "0X81A0W0110C14091D0W912051B0WD140Q160A1W70S140X1120K1B0A160A1D011N021B031WI0WL110F1108130",
     "A1W70WB120WR110B1E0WO190A130WI120B150WC12031WA04110611021301150b61J0W31B0dU1206120W712061",
     "208110111011101110W0120WM110711011303110713041206140D150311071YN011D011F0E1Y8011401120A11",
     "0113051601110111011104110B1204150514011H0WA1v70WL1WwG0cC160413021C0W711011501120WP17011G0",
     "N19071107110711071107110711071107110W11WG011k4031P0917051205140XO1603110XS1104150WC110Y11",
     "H0W11WH0G1lG0bvK1X20sWN1X50WF120dL130S1K0WG1508130YK1W809120YA120XK1K0L110W21O0WL1C0X6110",
     "11A0A1O061301110WF150W41D0T130WK110C1F0B160W0110WO190E120A160N130X7110111011O03120G12041B",
     "061206120619071107110WC110E160YU150A160goC1C0N140WI1dtK0gP120YD1W7071C05150C110D110511011",
     "1021102110YF1W20gM1I0X2120WN1W90C1YN05110ZB1J0A170Q160Q1B0XR13061206120612031W40C110Q110J",
     "1102110F120E1W30YU1X70WM1dJ0T130WI1WG0W11D0U150WC150U120W5140811051WB0a3120A160W5140W5140",
     "W9180WL1C0B110F11071102110B110F11071102130WL1C0f1190M1A081O06110WB11091X7061201110WD11021",
     "301120N1A0N190W01X30J11021A0M1A0Q160Q1W70WP16021X204110215081103110T1WB0T130T1W408110S1R0",
     "WN1A0M1A0J1D0I1YH0XB1WO0WK1D0WK1D0W9180A160W71301150N1d20WB110213021G061WJ03130T1A01180M1",
     "WB0I1WF0L1R0N190X81W10A11051A0WQ19011D0P170A160WK130A1404180W41301190X21104190D11011W40I1",
     "10W3120116041X00711011104110F110A170WQ170A160411081202120M1107110211051308120212021301160",
     "115071S0A11011201110W7110A1101120111041102130111011WD0X411031104150A15031U0X412021101180A",
     "1aB0WN12071P061W30X1110113011B0A1W70WN1201170A160K1S0R120E150A16071aU0WQ1YA0XC1L081201120",
     "81102110U1102120212041D0A1X808120WF1206110111021R0WK120A1H0XA15011I0XB1YA081XQ0W21F0A1609",
     "110WE110711011F0A1O0U120M110E1XB071102110WD13011102110311011202180A16061102110W6110211041",
     "101170A160WD140A1cT0N190H110WA13031F0A1XO011XH0yN1Y90YI1H0bA1Xs10Y41F0WYI1H061P0ZZR150nP1",
     "cYL0WG110A1WtT0nB170W0110A160XH110A160U1I0WH1G041C0A190L150J1iT0WE130A1bC0X21W10P120P1WD0",
     "XD140WQ170H1X20211011C07190cq41WA0W11Y40YM1eWL0411071102110eC1F011T0312011E04180hO1XhE0YE",
     "150D1309170A14011ZfN0A1Ww00XN110X91102120112021204110C11011107110X3110412081107110S110411",
     "0511011307110fU120P110P110W0110P110W0110P110W0110P110W0110P1108120WJ1WvP0W016061bR07110H1",
     "20711021105150X01W2011YJ0WE1A07120A14011fB0U1I0WD140A1k50S140A1bS0U120B1bB0W0110M18021c70",
     "711041102110F110bB1WS0X613011301140A1WcC04110R110211011201110A110411011101160114011101110",
     "1110311021101120111011101110111011102110112041107110411041101110A110H15031105110H1p80Q160",
     "Q160Q1XsR0A1WX70Wij21W10ZmB120bV8120ct21F0p21XmH0mF1WmI0aZA150duR1zfsH0"],
  .flag "BLANK"
    ["9011M011Z3011auJ011XlD0B1W5011WG011Za1011WazlL0"],
  .flag "GRAPH"
    ["W20Y11W30sE120614071101110K110hP110W7120WJ1203110WO180R14061B0dM110WT120Y81E0WS120WI120F1",
     "10S1201110B150W3150cK11081202120M110711011304120912021204180114021105120P120311061402120M",
     "11071102110211021201110514021203130117041101170H1A0311091103110M110711021105120A110311031",
     "2011F04120C1707110311081202120M110711021105120912021203170314021105120I1A0211061303110413",
     "021101110213021303130C140513031104120116011E0L150D1103110N110G120911031104170211031102120",
     "4120A170M1103110N110A1105120911031104170215031104120A11031C0D1103110WK11031106140G120Q110",
     "3110I130O1109110112071301140611011108160A12031C0WR140T1W60211011105110O1101110N1205110111",
     "07110A12041W10XA110W5140W8110W5110F110D1W60bC11011501120h51104120711011104120WA1104120W21",
     "104120711011104120F110WQ1104120X5120W1130Q160XO1206120pK110S130XR170M190O190K1C0D11031102",
     "1C0Y1120A160A160Q160XR170WC150X81A0W0110C140C1401130WB12051B0WD140Q160B130X0120X3110T120B",
     "160A160E120WF120C1K0XF110aB180WT130F130X0150WC120B180WC150m71206120W712061208110111011101",
     "110W0120WM110F110E1206110J120311091C0T1205110WG1105110C120WA130W31E0W21F0ZG140qF1M0B1L0Ww",
     "E120hA150WE11011501120WP17021E0O19071107110711071107110711071107110Z21W30Q110XR1C0bS1Q0G1",
     "10X1110XO120YA150WC110Y1110XO190WH110zjT130WO190g71K0aT180c41K0WT130A160WP180X8180C160YN1",
     "B0U130XG110B140W2110WO190E120A120YA1O0S1A061206120619071107110WT140Z2120A160goC1C0N140WI1",
     "XZ60cW8120YD1W7071C05150Q1105110111021102110pU1W10WB160WK110J11041405110ZB1201110b4130612",
     "0612061203130711071A05120C110Q110J1102110F120E1W30YU1503140WE130XQ110D13011WG0WF1Z60T130W",
     "I1F0S140W5190U150WC150U110W6140E1WB0a3120A160W5140W5140W9180WL1B0C110F11071102110B110F110",
     "71102130WL1C0f1190M1A081O06110WB11091X7061201110WD11021301120N110XA18091WH0J1102150W2130R",
     "150R1W70WP140K120WJ110215081103110T1203140A1709170X21W10W8140C190WN130T120R150Q17041C071X",
     "I0XB1WO0WK1D0WK170WF180A160W7130T18021bM0W0110WB110312021G0618091W20WF180WB1M0Q1W70S1K0N1",
     "90XG140W5190X61A01120P170A160WM110I180W8190Y3110K1B0I110WG1X00711011104110F110B160WS150A1",
     "60411081202120M110711021105110A12021203120116011507120713051B0A11011201110W7110A110112011",
     "104110A110218021T0XU11051U0XA180A1aB0WN120W71W30X71B0A160D1J0WR160A160K1S0R120F140N1aU0WT",
     "1Y70XL1C08120112081102110U1102120C190A1X808120WF120B1R0XA180XL1D0XB170A1XO081XQ0W31E0A160",
     "9110WE110E1A0T130W1120M110E1XB071102110WD130111021109180A16061102110W611021106170A160WD14",
     "0A1cT0P170H110WA130T1XN011F0WJ1D0yO1Y90YI11051B0bA1Xs10Y61D0WZP1A0ZZR150nP1cYL0WR1WtT0nB1",
     "70W0110A140XJ110A160U12061A0X81A0A1107110L150J1iT0WR1bC0XT150P120P1WD0XD140WQ170H1X2051B0",
     "7190cq41WA0W11Y40YM1eWL0411071102110eC1F011T0312011E04180hO1XhE0YE150D1309170A12081ZXQ0d5",
     "130j2160N1F0H1F0WF120N190YN1WT0cT1A0W8120b81L0X81YT0K1C0K1C0XP190P1ZB0XN110X9110212011202",
     "1204110C11011107110X3110412081107110S1104110511011307110fU120eD120rK1F05110F1WZJ0W016061b",
     "R07110H120711021105150X01W2011YJ0WE130E120A14021fA0W01H0WR15011jU0WB1bS0WC14011b60W0110M1",
     "8021c70711041102110F110bB120G1WA0XE140A14021uA0X61XE0WU1b804110R110211011201110A110411011",
     "1011601140111011101110311021101120111011101110111011102110112041107110411041101110A110H15",
     "031105110H1WL021dM0WD140Y71C0F120F110F110W61A0aJ1WP0T1D0WD140917021E061ZU0WVO130H130D130c",
     "1160C14011F0C140WP180A160W9180U120C14021E091W80g3180E120D130B130WQ1101140G120C140A170ZN11",
     "0YA1WX60Wij21W10ZmB120bV8120ct21F0p21XmH0mF1WmI0aZA150duR1ssaC011U0Y31Z40cN1Xaq20Xbb0120X",
     "bb0120"],
  .flag "PRINT"
    ["W10Y21W20sF120614071101110K110hP110W7120WJ1203110WO180R14061B0dM110WT120Y81E0WS120WI120F1",
     "10S1201110B150W3150cK11081202120M110711011304120912021204180114021105120P120311061402120M",
     "11071102110211021201110514021203130117041101170H1A0311091103110M110711021105120A110311031",
     "2011F04120C1707110311081202120M110711021105120912021203170314021105120I1A0211061303110413",
     "021101110213021303130C140513031104120116011E0L150D1103110N110G120911031104170211031102120",
     "4120A170M1103110N110A1105120911031104170215031104120A11031C0D1103110WK11031106140G120Q110",
     "3110I130O1109110112071301140611011108160A12031C0WR140T1W60211011105110O1101110N1205110111",
     "07110A12041W10XA110W5140W8110W5110F110D1W60bC11011501120h51104120711011104120WA1104120W21",
     "104120711011104120F110WQ1104120X5120W1130Q160XO1206120qI130XR170M190O190K1C0D110311021C0Y",
     "1120A160A160Q160XR170WC150X81A0W0110C140C1401130WB12051B0WD140Q160B130X0120X3110T120B160A",
     "160E120WF120C1K0XF110aB180WT130F130X0150WC120B180WC150m71206120W712061208110111011101110W",
     "0120WM110F110E1206110J12031109110W9120WS110C120WA130W31E0W21F0ZG140qF1M0B1L0WwE120hA150WE",
     "11011501120WP17021E0O19071107110711071107110711071107110Z21W30Q110XR1C0bS1Q0XI110XO120YA1",
     "50WC110Y1110XO190WH110zjT130WO190g71K0aT180c41K0WT130A160WP180X8180C160YN1B0U130XG110B140",
     "W2110WO190E120A120YA1O0S1A061206120619071107110WT140Z2120A160goC1C0N140WI1XZ60cW8120YD1W7",
     "071C05150Q1105110111021102110pU1W10WB160WK110J11041405110ZB1201110b4130612061206120313071",
     "1071A05120C110Q110J1102110F120E1W30YU1503140WE130XQ110D13011WG0WF1Z60T130WI1F0S140W5190U1",
     "50WC150U110W6140E1WB0a3120A160W5140W5140W9180WL1B0C110F11071102110B110F11071102130WL1C0f1",
     "190M1A081O06110WB11091X7061201110WD11021301120N110XA18091WH0J1102150W2130R150R1W70WP140K1",
     "20WJ110215081103110T1203140A1709170X21W10W8140C190WN130T120R150Q17041C071XI0XB1WO0WK1D0WK",
     "170WF180A160W7130T18021bM0W0110WB110312021G0618091W20WF180WB1M0Q1W70S1K0N190XG140W5190X61",
     "A01120P170A160WM110I180W8190Y3110K1B0I110WG1X00711011104110F110B160WS150A160411081202120M",
     "110711021105110A12021203120116011507120713051B0A11011201110W7110A110112011104110A11021802",
     "1T0XU11051U0XA180A1aB0WN120W71W30X71B0A160D1J0WR160A160K1S0R120F140N1aU0WT1Y70XL1C0812011",
     "2081102110U1102120C190A1X808120WF120B1R0XA180XL1D0XB170A1XO081XQ0W31E0A1609110WE110E1A0T1",
     "30W1120M110E1XB071102110WD130111021109180A16061102110W611021106170A160WD140A1cT0P170H110W",
     "A130T1XN011F0WJ1D0yO1Y90YI11051B0bA1Xs10Y61D0WZP1A0ZZR150nP1cYL0WR1WtT0nB170W0110A140XJ11",
     "0A160U12061A0X81A0A1107110L150J1iT0WR1bC0XT150P120P1WD0XD140WQ170H1X2051B07190cq41WA0W11Y",
     "40YM1eWL0411071102110eC1F011T0312011E04180hO1XhE0YE150D1309170A12081ZXQ0d5130j2160N1F0H1F",
     "0WF120N190YN1WT0cT1A0W8120b81L0X81YT0K1C0K1C0XP190P1ZB0XN110X91102120112021204110C1101110",
     "7110X3110412081107110S1104110511011307110fU120eD120rK1F05110F1WZJ0W016061bR07110H12071102",
     "1105150X01W2011YJ0WE130E120A14021fA0W01H0WR15011jU0WB1bS0WC14011b60W0110M18021c7071104110",
     "2110F110bB120G1WA0XE140A14021uA0X61XE0WU1b804110R110211011201110A110411011101160114011101",
     "1101110311021101120111011101110111011102110112041107110411041101110A110H15031105110H1WL02",
     "1dM0WD140Y71C0F120F110F110W61A0aJ1WP0T1D0WD140917021E061ZU0WVO130H130D130c1160C14011F0C14",
     "0WP180A160W9180U120C14021E091W80g3180E120D130B130WQ1101140G120C140A170ZN110YA1WX60Wij21W1",
     "0ZmB120bV8120ct21F0p21XmH0mF1WmI0aZA150duR1ssaC011U0Y31Z40cN1Xaq20Xbb0120Xbb0120"],
  .flag "WORD"
    ["WH0A170Q1401110Q1WG011A011401150N110W0110jO140C1E05170111011H0YO1102120411011601110311011",
     "10K110XL110ZF110aI110W71201160WA180WE1101110211021101180R14041T0B150XC140Y91108120A110J12",
     "011G0WS120Y81E0WN14011201120WF1I0S140B150O1107170XD110Z5120A110J11081202120M1107110113041",
     "20912021204180114021105120C1A011101120311061402120M11071102110211021201110514021203130117",
     "041101170G1B0311091103110M110711021105120A1103110312011F04120A1907110311081202120M1107110",
     "21105120912021203170314021105120A11011G0211061303110413021101110213021303130C140513031104",
     "120116011E0A1G0D1103110N110G1209110311041702110311021204120A1G0411081103110N110A110512091",
     "1031104170215031104120A11031C0D1103110WK1103110515041705120A1A061103110I130O1109110112071",
     "301140611011108160A12021D0WR150F110A1W80211011105110O1101110N120511011107110A12041W1011N0",
     "2160A1B0111011101140A110W5140K110I110W519011WQ0XC160XG120W711011501120WC110fN110412071101",
     "1104120WA1104120W21104120711011104120F110WQ1104120X512031W10G1G0XO1206130p0120H110Q150XD1",
     "30B170M190M1B0K1C0D110311021C0XM13011402120A1W203110B160XR170WC150X81A0W0110C140C1A0W9120",
     "51B0WD140Q160A1W70S140X1110T120B160A1D01180WF120C1K0XF130A1H091C0YN1C0WP180A130WI120B150W",
     "C12031G03110W8150m71206120W712061208110111011101110W0120WM110711011303110713041206140D150",
     "311071F021WI021J011S011D011F0E1WK0W21H011401120A110113051601110111011104110B1204150514011",
     "H0WA1v70WL1WwG0cC16091C0W711011501120WP17011F0O19071107110711071107110711071107110W11WG01",
     "1k4031P0F11051205140XO12021203110XS1104150WC110Y11H0W11WH0G1lG0bvK1X20sWN1X50WF120dL130S1",
     "K0WK110A110YM1W609120YA120XK1K0WO14011J0WL1C0X81A0A160O1301110WI120W51C0T130X31E0B160W011",
     "0WO190E120A160N130XB1O03120G12051A061206120619071107110WC110E160YU1102120A160goC1C0N140WI",
     "1dtK0gP120YD1W7071C05150C110D1105110111021102110YF1W20gM1I0X2120WN1W90C140G1G0G13021O031W",
     "105110ZB1J0A170Q1401110Q1B0XR13061206120612031W40C110Q110J1102110F120E1W30YU1X70WM1ZC011Z",
     "60T130WI1F011W00W11D0U150WC150U120W5140811051WB0a3120A160W5140W5140W9180WL1C0B110F1107110",
     "2110B110F11071102130WL1C0f1190M1A081O06110WB11091X7061201110WD11021301120N1A0N190W01X30J1",
     "1021A0M1A0Q160Q1W70WP16021X204110215081103110T120314011W10T130T1W408110U1P0WN1A0M1A0J1D0I",
     "1YH0XB1WO0WK1D0WK1D0W9180A160W71305110N1d20WB110213021G061WJ0W41A01180W21W00M1WB0L1R0N190",
     "X91W00G190WT17011D0P170A160WM110A1404180W51201190X71404110D11011W40I110W616041X0071101110",
     "4110F110A170WS150A160411081202120M110711021105110A12021203120116011507120713051B0A1101120",
     "1110W7110A11011201110411081D021T0XD150A14041U0X81101180A1aB0WN12091N061W30X313011B0A1W70W",
     "Q170A160K1S0R120F140A16071aU0WS1Y80XC1L08120112081102110U110212091C0A1X808120WF120811021R",
     "0X11801180XC13011I0XB1YA081XQ0W21F0A1609110WE11091F0A1O0U120M110E1XB071102110WD1301110211",
     "09180A16061102110W611021106170A160WD140A1cT0N190H110WA13051D0B1XN011XH0yN1Y90YI1H0bA1Xs10",
     "Y41F0WYI1G0M1A0ZZR150nP1cYL0WR1WtT0nB170W0110A160XH110A160U12051B0WO19041C0A190L150J1iT0W",
     "E130A1bC0X21W10P120P1WD0XD140WQ170H1X20211021B07190cq41WA0W11Y40YM1eWL0411071102110eC1F01",
     "1T0312011E04180hO1XhE0YE150D1309170A13021ZfN0A1lM0WF120N1mF051306180812071U041ZO031j90XN1",
     "10X91102120112021204110C11011107110X3110412081107110S1104110511011307110fU120P110P110W011",
     "0P110W0110P110W0110P110W0110P1108120WJ1lG0WO140WJ18011E011M05110F1WZJ0W016061bR07110H1207",
     "11021105150X01W2011YJ0WE130E120A14011fB0W01H0WR1k50WB1bS0WC1bB0W0110M18021c70711041102110",
     "F110bB1B071WA0XE140A1WcC04110R110211011201110A1104110111011601140111011101110311021101120",
     "111011101110111011102110112041107110411041101110A110H15031105110H1p80Q160Q160Q1XsR0A1WX70",
     "Wij21W10ZmB120bV8120ct21F0p21XmH0mF1WmI0aZA150duR1ssiJ0cN1bnX60"],
  .flag "XDIGIT"
    ["WH0A17061Q061WnA0A1ZA0A1bC0A1i90A1YP0A1YP0A1YP0A1YP0A1YP0A1YP0A1YP0A1YP0A1YP0A1Y30A1YP0A1",
     "X80A1dU0A1X80A1Wy20A1W70A1eL0A1Z40A1aB0A160A1aR0A1XO0A1ZA0A160A1WaqN0A1qR0A1W70A1bC0A1M0A",
     "1XO0A1i30A1rZ40A17061Q061Wi50A1XdC0A160A1uL0A1Z40A1WT0A1ZK0A1dU0A1g10A1YP0A1h20A1Y90A160K",
     "1XE0A1iJ0A1Y90A1qB0A1XO0A1cT0A1X80A1WN0A1gH0A1mlL0A1XiH0A1XO0A1ZA0A1m70A1uiA0A1XwD0WJ1XjC",
     "0A1iJ0A1l60A1cU0A1wG0A1ZyF0A1WXWV60"],
  .flag "POSIXALNUM"
    ["WH0A170Q160Q1WG011A011401150N110W0110jO140C1E05170111011XO011T0I1102120411011601110311011",
     "10K110XL110ZF180aB110W71201160WA1W80E1101110211021101180R14041T0B150WP11071E0Y91108140814",
     "031A0312011G0WH1D0Y81O0W219021401150O120J1J0P170B150O11071701180WB1A0C1307160XE110G110314",
     "0F1D0J11081202120M11071101130413081202120211011801140211051C021A01140311061402120M1107110",
     "2110211021405140212021401170411011H061B0311091103110M11071102110513091103110213011F041L04",
     "140311081202120M1107110211051308120212021902140211051D011G0211061303110413021101110213021",
     "303130C140513031103130116011W90D1103110N110G13081103110318021103110212041S0411081103110N1",
     "10A11051308110311031802150311041D031C0D1103110WA1208110311031101150417051M061103110I130O1",
     "109110112071806110111081I021D0WR150716011WK0211011105110O1101110J11031205110116011E041W10",
     "11X108110W5140J140G110W51X50WO110112051G0X21A04120W711011501120WC110fN1104120711011104120",
     "WA1104120W21104120711011104120F110WQ1104120X51W60G1G0XO1206130p0120H110Q150XD130B170K1B0L",
     "1C0K1C0D110311021C0WL120J1E0114011X50XR170WC150X81A0W0110C14091N0U12051B0WD140Q1WN0S140X1",
     "120K1WJ011N021B031WI0WL110F11081WK0WB12041A0WD110B1E0WO1M031A0W5120B150WC12031WA041106110",
     "21301150b61J0W31B0dU1206120W712061208110111011101110W0120WM110711011303110713041206140D15",
     "0311071YN011D011F0E1Y8011401120A110113051601110111011104110B1204150514011H0WA1v70WL1WwG0c",
     "C160413021C0W711011501120WP17011G0N19071107110711071107110711071107110W11WG011k4031P09170",
     "51205140XO1603110XS1104150WC110Y11H0W11WH0G1lG0bvK1X20sWN1X50WF120dL130G1A021K0WG1508130Y",
     "K1W809120YA120XK1K0L110W21O0WL1C0X611011WD06130111031A0W2150W41D0T130WK110C1F011G0G1A0511",
     "0WO190E1I0N130X7110111011O03120G12041B061206120619071107110WC110E160YU1L0goC1C0N140WI1dtK",
     "0gP120YD1W7071C05150C110D1105110111021102110YF1W20gM1I0X2120WN1W90C1YN05110ZB1W50Q160Q1B0",
     "XR13061206120612031W40C110Q110J1102110F120E1W30YU1X70WM1dJ0T130WI1WG0W11D0U150WC150U120W5",
     "140811051WB0a31I0W5140W5140W9180WL1C0B110F11071102110B110F11071102130WL1C0f1190M1A081O061",
     "10WB11091X7061201110WD11021301120N1A0N190W01X30J11021A0M1A0Q160Q1W70WP16021X2041102150811",
     "03110T1WB0T130T1W408110S1R0WN1A0M1A0J1D0I1YH0XB1WO0WK1D0WK1D0W91W30S1301150N1d20WB1102130",
     "21G061WJ03130T1A01180M1WB0I1WF0L1R0N190X81WC051A0WQ19011D0P1N0WK1H04180W41301190X21104190",
     "21A0111011W40I110W3120116041X00711011104110F110A170WQ1N0411081202120M11071102110513081202",
     "12021301160115071S0A11011201110W7110A1101120111041102130111011WD0X4110311041K031U0X412021",
     "1011aT0WN12071P061W30X1110113011WS0WN12011X90R120E1L071aU0WQ1YA0X21W008120112081102110U11",
     "02120212041Y008120WF1206110111021R0WK120A1H0XA15011I0XB1YA081XQ0W21W009110WE110711011WI0U",
     "120M110E1XB071102110WD130111021103110112021O061102110W61102110411011N0WD1dC0N190H110WA130",
     "31YI011XH0yN1Y90YI1H0bA1Xs10Y41F0WYI1H061P0ZZR150nP1cYL0WG1Wu90nB170W01H0XH1H0U1I0WH1G041",
     "W00L150J1iT0WE1bP0X21W10P120P1WD0XD140WQ170H1X20211011C07190cq41WA0W11Y40YM1eWL0411071102",
     "110eC1F011T0312011E04180hO1XhE0YE150D1309170A14011bc20XN110X91102120112021204110C11011107",
     "110X3110412081107110S1104110511011307110fU120P110P110W0110P110W0110P110W0110P110W0110P110",
     "81WxF0W016061bR07110H120711021105150X01W2011YJ0WE1A071G011fB0U1I0WD1kJ0S1cB0U12011bL0W011",
     "0M18021c70711041102110F110bB1WS0X6130113011WcQ04110R110211011201110A110411011101160114011",
     "1011101110311021101120111011101110111011102110112041107110411041101110A110H15031105110H1p",
     "80Q160Q160Q1YvD0Wij21W10ZmB120bV8120ct21F0p21XmH0mF1WmI0aZA150duR1zfsH0"],
  .flag "POSIXDIGIT"
    ["WH0A1Wbhd70"],
  .flag "POSIXPUNCT"
    ["W20F1A071Q061Q041W3091102110412011103120113011N011W0011jO041C0E15071101110H1YO01180115021",
     "1011YH011ZF011bT061WA0212031WF011101120112011WD021H0A1B0111031XC041Y90119011A011J02110E1c",
     "F0414021WH0F1W0011WA011c2021A011Z502160211011YR011YS021Z2011Z6081Z001170114011bG011WA011Y",
     "T011XC011F011A021aA0N12061K011101110111041X9011WP081106110D1YI061XG021XT011oN091W80A1Y901",
     "1p0021WD021XG031X9021a20311041W50B1eU0113021ZS0W31U021Z40711061a5021A0H190C1Z0041WS051X00",
     "21X2081B011t10111031B031D031D031D021H0O180WG1R051B051H0W31X002110411021A01110315061101110",
     "1110114011B021405150411011WR02140qF1M0B1XJ0Q1XC0pA1U0WW0120ZE1cC061E0411021YJ011ZJ0WG110W",
     "F1W30Q110XR1C0bS1Q0G1104130P1F01150215031XT0213011XS011ZO02140A1W10W719011G0W01B0U18011F0",
     "W11A0W81F0fA1bvK0X21sWQ0WO1WO021dL031Y6011A011YM06180N19021YA021a2041A041WR041XO021W90311",
     "011WI021WG011Y40D1G021Z0041N031Y7021G021YC011E021Z3011qYB011ZC0W21gM0I1X2021WN081WD041G0A",
     "1M0W4110J11041ZP0F1A071Q061Q0B1YT0711071D021dA031WL091WQ0H1203110D13011WG0WE1iF011WH011iB",
     "011sU011W0021aB011W0011dO091W7011XA011W8071X4071XR041k0011W0021e6011W3091Z0051WD041b3071Y",
     "G0211041Z2041WH021XH0414011D0111031XQ061YE011eJ0211021YL051A0211011YB011d20N1YC031S0D1XE0",
     "11Z6041d3011dG031a0011XU081XL0311051Y00A1bT011Y2051WB021pP021XC0D1Z90T1D011WaK051YWQ021km",
     "T021Z9011X30914021mO031eG041fH011piI0112011ZXU0cN1A03130j2160N1F0H1Y20YN1WT0cT1A0W8120WT1",
     "5031M02170U140WU1L0X413011b00XP1x6011P011W0011P011W0011P011W0011P011W0011P011WT0lG1WO041W",
     "J08110E11071WtQ011iS011tN011wP021w70113011Z1011jF021dM0WD140Y71C0F120F110F110W61N0W41Q061",
     "Q061Q0W51WP0T1D0WD140917021E061ZU0WVO130H130D130c1160C14011F0C140WP180A160W9180U120C14021",
     "E091W80g3180E120D130B130WQ1101140G120C140A170ZN110XU1A011WXWV50"],
  .flag "POSIXXDIGIT"
    ["WH0A17061Q061WbhbO0"],
  .flag "HORIZSPACE"
    ["9011M011Z3011auJ011hP011XYI0B1W5011WG011Za1011WazlL0"],
  .flag "VERTSPACE"
    ["A041YQ011di7021WbYsF0"],
  .flag "WSPACE WHITESPACE SPACE"
    ["9051I011Y7011Q011auJ011XlD0B1T0215011WG011Za1011WazlL0"],
  .flag "HEX HEXDIGIT"
    ["WH0A17061Q061Xav00A17061Q061WZbf00"],
  .flag "AHEX ASCIIHEXDIGIT"
    ["WH0A17061Q061WbhbO0"]]

/-- Other properties. -/
def otherTraits : List Trait := [
  .flag "BIDIC BIDICONTROL"
    ["WoE011bx7021Q051WO041WbYqD0"],
  .flag "BIDIM BIDIMIRRORED"
    ["W9021I0111011S0111011T0111011WE011F011YvL041WyP021XmB021A021WN021E021aM011b60413061301130",
     "2130411041101110114091501110I1504190211011108110W1120415011902120J150219051202140O120G180",
     "41K0217021WZ00E1XC0112041102110315041503130E1i00M1206110E18011706130114051102120514011103",
     "12021A0612021C0J11041201110112011104150216031O021B02140411021202140WC1208110W915011101130",
     "515031401130511011d8011lJ04130211021E02120A1WC081iO0A12081Wsy40615021a7021I0111011S011101",
     "1T011101110211021WvhA011WQ011WQ011WQ011WQ011WXfp70"],
  .flag "DASH"
    ["WE011Wi8011WK011YtM011WX6011XZB061WU011W8011F011hI011Yb70112011W00214011S011jC011J011YI01",
     "1WssH021W6011A011aE011YuM011f8011WZXbP0"],
  .flag "DI DEFAULTIGNORABLECODEPOINT"
    ["aI011qM011s3011XzU021Wq7021XN051XYS051Q051WI0G1Zl0011WskK0G1cM011a5011XH091WocS041alQ081v",
     "trT0Zd41bjf20"],
  .flag "DEP DEPRECATED"
    ["fJ011WgJ011XhD0111011XaC021XfD061rF021zkgG011bnn40"],
  .flag "DIA DIACRITIC"
    ["Y10111011X9011601140112021l70a4110815061H02140119021d5051bN011WO0WE11011102110211011Z7081",
     "4021ZA02140213031X50R1XT0B1WR0B1W3021Z2081WA0A1G0S1WU011G0113041S011XC011G011YH011G011YH0",
     "11G011WG031WT011G0117011YQ011YH011G011YH011G011YG021G011Z0011YI011C0611011YE011D051XD021R",
     "011101110114021X40311021X0011YJ0111021W90214051P0711011A021rN031zI021U011ZO0B19011g6031eD",
     "011K0812011WH0F120B130F120C1XA011F011W7091WN021WR011B021X4021X2061XK0P1401160112031WJ0X11",
     "WH0W5150C1W60B1jB0111031B031D031D031D021YiQ031f7011lA061YC041Y2011WVdR011C0211011S021XK02",
     "1E0W31Y9031Y90116021C011W6011ZR011R0I1WQ041W5011Y2011C011W5011ZP031X3041WK011Y70519031Z40",
     "21qXT011tP0G1dM0111011WG011WE021X5011tK011Wc506110WB11091pH0314011aA021nD061W7011Q051hO01",
     "12031X80B1WI041b6011WA011XA021YR021X0011XE0119031YB021aN021XI021G011O0713051XR0311021D021",
     "Y20113011YU021d3021Z2011YP021YM011dL021dA0214011a1011XL011I011XJ011iI011dA0111021XJ011X30",
     "11gI021N011amO0F1gyB011XnG051WS071n6021mJ0H1XI021mWE04110711021dd10WF120N1mH0313061808120",
     "71U041YvP0X01b8071h3011WU041tM021sN071YG0311031WXazF0"],
  .flag "EMOJI"
    ["W4011601150A1YI0114011dhH011C011bU011M011XS061F021gQ021C011aB011P0B14031bD011cE021A011901",
     "1WR0411051901120112021201140112011102120113011302180315011101150C1B021201110211011I011202",
     "1I061101110213021501120214021B02150212011502110111021K02150611041201140112011206110112011",
     "10111011601130116011A021F01120114011101140311011B021WH0319011E011E011h0021jT031J021WK0114",
     "011We2011C011oC0111011Yup8011bG011a5021C021E01120A1XD0Q11021N011K0112091L021aJ0W3120YJ120",
     "21103120XL1203110dF110X11B06110O170212081C011204120114021D0212011802190115031C03180312011",
     "101140116011301160XO1WH0X815081204130A130111021301120A1cA0C14011e40WG110A110aU1YJ0D130B13",
     "0WQ1101140G120C140A1WXWdF0"],
  .flag "ECOMP EMOJICOMPONENT"
    ["W4011601150A1djP011bR011WwxD011XXyJ0Q1lB051WkU041vjWP0Y31bnj20"],
  .flag "EMOD EMOJIMODIFIER"
    ["ZeaR051WXYZ20"],
  .flag "EBASE EMOJIMODIFIERBASE"
    ["fZN011c2011G041YypH011WT03120112031YO02120B1L0J130114031103170111011O011bF0214011L0114021",
     "aJ0313051XL011G0319011B011nH01120118081601190A12031WP011WU02110211011H03110D1cC031WB091WX",
     "WdF0"],
  .flag "EPRES EMOJIPRESENTATION"
    ["efR021bJ04130112011lP021L021WJ0C1WC011J011D0118021H021502180115011L0117021101140112011701",
     "14021S011W4011101140311011WU031O011E011wM021WK0114011Ywn8011bG011b401120A1XD0Q11011O011K0",
     "1120511031L021aJ0W21C09110X8110M1C0WC14051C0H1301130X91101110b1120X11D04110O1I011Q021D011",
     "XO0XN1WH0X816011303120413041B0217091cA0C14011e40WG110A110aU1YJ0D130B130WQ1101140G120C140A",
     "1WXWdF0"],
  .flag "EXTPICT EXTENDEDPICTOGRAPHIC"
    ["aE0114011dhH011C011bU011M011XS061F021gQ021C011aB011P0B14031bD011cE021A0119011WR0411051901",
     "120112021201140112011102120113011302180315011101150C1B021201110211011I0112021I06110111021",
     "3021501120214021B02150212011502110111021K021506110412011401120112061101120111011101160113",
     "0116011A021F01120114011101140311011B021WH0319011E011E011h0021jT031J021WK0114011We2011C011",
     "oC0111011Yup8011W8041Y70C1F021F011E021W60A1YJ021C021E01120A1J0WP1R0F1A011K0112091104190N1",
     "60b2120YJ12021103120XL12031104150d6110X11B06110O170212081C011204120114021D021201180219011",
     "5031C03180312011101140116011301160XO1WH0X81508120H13011106120D1c10W71C041WP081A061W9081U0",
     "21C04120E190W81C0WG110A110aU1XQ081E0ZM1d80WWU1WWzy10"],
  .flag "EXT EXTENDER"
    ["aS011m9021xA011j7011pA011ZD011XR011t8011Z3011XjF011WP011oM011hQ011X6011abA011WC051YA021Y0",
     "031ynB011Wn7011WV1011M011ZD011YF011L021rkK011XZI021WlQ011R0114011WdE011eE011YN021l2031WdM",
     "011vQ011po7021Wc20211011E021zaF021WcN011wF031WXazJ0"],
  .flag "GRBASE GRAPHEMEBASE"
    ["W10Y21W20D110o51YJ08120614071101110K110c7170aB110W7120WJ12031WF01110112011201190R14061H0A",
     "1B01110WF1L0G110Y8180116021201140W11201110U1T0XR1B011E0WC1907130O140119011301170F110P1501",
     "110B150W11G0WB1WQ0WO1101110418041103170A120T110211081202120M11071101130413011102160212021",
     "1011D021103140O150111061402120M110711021102110214031O041101170A120311011C0111091103110M11",
     "071102110513041801110213011F02140C1701180211081202120M11071102110513011201160212021F02110",
     "3140I1B0111061303110413021101110213021303130C150111021303110313011L0L160311081103110N110G",
     "130113041J0311021202140A170A110B1103110N110A11051302120111021N031102140A11031E0B1103110WA",
     "120111021503110311021403110A140Q1202110I130O11091101120719021607170A12031C0WH11021B08180D",
     "1W60211011105110O1101110A1102190112051101190A12041W10O120R11011101110E110W51I01150112051W",
     "I081106110D1W60WE140116011202120P1204130G140D11021206110F110W911011501120h511041207110111",
     "04120WA1104120W21104120711011104120F110WQ1104120X5150T130Q160XO1206120qI130XR170I1D0J1302",
     "190I1E0D11031F0WL1201170811021B09130A160A160B150A160XR1705120W31101150X81A0W0140412031402",
     "11061701130WB12051B0WD140Q160B130WQ1202130WP11011901110218061D0A160A160E1XO0WH1A041308110",
     "T190C120W11402160WP1101120311011D0WH1802150F130X0150WC120B1B011D011704110611031201150b61X",
     "20dU1206120W712061208110111011101110W0120WM110F110E1206110J12031109110B150O170WI1G02120WA",
     "130W31X00ZG140qF1M0B1L0WwE120h51302150WE11011501120WP17021F0N1907110711071107110711071107",
     "11071W20Y11W30Q110XR1C0bS1Q0WR160G110XO140Y8150WC110Y1110XO190WH110zjT130WO190g71K0WG1401",
     "1A0W1120XI1206180c41K0H11031104110P1205140A160WP180X61A0C1O0D110W7180P1B011C0U160WH110214",
     "021202110D110B1407110P110WA160212021B0311081101120A120W1110WK110113021205120111011O0H1208",
     "1B061206120619071107110WT140YO11021104130A160goC1C0N140WI1dtK0gP120YD1W7071C051501110O110",
     "5110111021102110pU1W10G1G0A1M0W4110J11041405110ZB140a2120W01306120612061203130711071D0212",
     "0C110Q110J1102110F120E1W30YU1503140WE130XQ110D13011WG0WE1Z70T130WI1G0R140W5190U150W71A0U1",
     "10W6140E1WB0a3120A160W5140W5140W9180WL1B0C110F11071102110B110F11071102130WL1C0f1190M1A081",
     "O06110WB11091X7061201110WD11021301120N110XA18091WH0J1102150W2130R150R1W70WP140K120WG1F041",
     "103110T1A091709170X21W10W6160C190WN130T120R150Q17041C071XI0XB1WO0WK1D0WK170WB1C0A160W7180",
     "O18021bM0W0110WB130112021G0618091W80W9180M1B091M0I14041W70S1K0N1901110WN1F07140U110212011",
     "C0WI1402120211041E0P170A190W51501190I180W411031B0WL190111081402110G110K1B0I110S1302140611",
     "021X10711011104110F110B160WG11031D0A180211081202120M1107110211051301110111041202120213011",
     "C071S0A11011201110W7110111021F0111021301110311021W80WP18021301110L110111031U0WH1102160111",
     "02110112011204180A1aB0WG110216041201120R1W50WK1802110112041B0A160D1J0WC110111021802160A16",
     "0K1S0R130111021401190N1aU0WG190112011Y70XL1C08120112081102110O1105110216041103190A1X80812",
     "0WB180411041R011A0W91602140819011602130WF1D0112091D0XB170A1XP01130111011XQ0W31E0A1609110W",
     "71E0111061A0T130W11P01170112011XD071102110W71L01190A16061102110W6140211011101170A160WD140",
     "A1cT0J1204190F110W51802130N1XO011F0WJ1D0yO1Y90YI11051B0bA1Xs10Y61D0WYI1H061P0ZZR150nP1cYL",
     "0U1C03130A1WtT0nB170W0110A140XJ110A160U17011A0WH170F1A0A1107110L150J1iT0WR1bC0XT150P120P1",
     "WD0XD150WP1B0D1X2041E05190cq41WA0W11Y40YM1eWL0411071102110eC1F011T0312011E04180hO1XhE0YE1",
     "50D1309170A120112011ZXU0d5130j2160N1F0H1Y20YN1WT0cT1A0W8120WT15031M02170U140WU1L0X413011Y",
     "T0K1C0K1C0XP190P1ZB0XN110X91102120112021204110C11011107110X3110412081107110S1104110511011",
     "307110fU120eD120n41WO041WJ08110E11071WaO0W016061dD0X01ZM0WE1A07120A14021fA0U1I0WD140A1501",
     "1jU0S140A1bS0U120B14011b60W0110311021107120519021c70711041102110F110bB12091WH0X61701140A1",
     "4021uA0X61XE0WU1b804110R110211011201110A1104110111011601140111011101110311021101120111011",
     "101110111011102110112041107110411041101110A110H15031105110H1WL021dM0WD140Y71C0F120F110F11",
     "0W61A0aJ1WP0T1D0WD140917021E061ZU0WVO130H130D130c1160C14011F0C140WP180A160W9180U120C14021",
     "E091W80g3180E120D130B130WQ1101140G120C140A170ZN110YA1WX60Wij21W10ZmB120bV8120ct21F0p21XmH",
     "0mF1WmI0aZA150duR1zfsH0"],
  .flag "GREXT GRAPHEMEEXTEND"
    ["tO0YJ1dR071dF0WE11011102110211011XA0B1WH0L1G011Y8071206120211041W4011U0R1XT0B1WR0919011O0",
     "41109110311051WC031WS091WB0O110W11WO0111011408140113071A021T011WR0111011204180119011A021Q",
     "0112021WQ0114021402120313011U0213011B021WQ011405110214011K021M0611011WR011102110418011703",
     "1A021U011WS0111011C0119011W90113011WO0111031503110417021B021T011WR01120211011303110417021",
     "B021S021WQ0211011204180119011A021T011XA0114011203110118011XJ0112071C081Y50112091B071XB021",
     "R01110111011WO0E11051102150B110W519011Y9041106110212021P0214031G041D01120216011F011rL031z",
     "G041S031T021U021X20211071801120B19011WE0311011YO021W3011YP031402190116031c20212011WR01110",
     "7110111011208160A12011WH0WF120C1K041WH0A14031W7091C021W10412061WP011102130111051WP0812021",
     "ZS03110D11071401160113021bC0X21lS011b90W21Yb1031ZH011Y30W11mR061YC021WVh104110A1W1021XI02",
     "1dO01130114011P0215011ZR021Q0I1D011W7081P0B11011WD031WH011204120212011W5011X506120212021C",
     "0118011WG011WK0111031202150211011WB0218011cL01120114011qXT011sO0G1G0G1gP021oG011c9011ZP05",
     "1WrR03110215041W90314011aA021nF041X3051f7021XF061X80B1WI041YU011WN0F1WA0112021A031WI04120",
     "217011WU031W50511081X0011C021WL091101180412011Y2031204160112011a20113081L021WQ02110111011",
     "C0119011E0713051X5011206110112011103140311011E021XN08120311011N011XJ011206110112011102110",
     "21cI011204160211021R021XN08120111021YD01110112081Y8011101120411051dB0911021cS011A0414011Z",
     "K04120214011W10A1W90612041801190612031WF0D11021bC01110311011bF07110611011XK0M120711021102",
     "1YT0613011102110711011XA02130111011g6021B021WL0515031N011amH01160F1gxP0C13031XnG051WS071W",
     "XP011X1041XJ011B021pi4021ZwO0WF120N1mF051306180812071U041ZO031XWQ0WO140WJ18011E011M05110F",
     "1WhR07110H1207110211051Y7011a5071h3011WU041lC041d6021cQ011201170215011k9071YG071vniA0Y31Z",
     "40cN1bnX60"],
  .flag "IDSB IDSBINARYOPERATOR"
    ["hsR02120A1l1011WazVM0"],
  .flag "IDST IDSTRINARYOPERATOR"
    ["hsT021Wazm30"],
  .flag "IDEO IDEOGRAPHIC"
    ["htI021P091E031WV40bvK1X20qv51sqU0gP120YD1WVaG011D05190cq41WA0W11Y40YM1ej20hO1pl00Wij21W10",
     "ZmB120bV8120ct21F0p21XmH0mF1WmI0aZA150duR1zfsH0"],
  .flag "JOINC JOINCONTROL"
    ["dlK021WbYtC0"],
  .flag "LOE LOGICALORDEREXCEPTION"
    ["YtL051YU051XxA0312011Wco702120111021WZxv40"],
  .flag "MATH"
    ["WC011G031W0011T0111011WE0114011W6011W0011sF0312011Q0212031m0031by4011R031B0113011D011E041",
     "L051B051X30D1401130214051I011401120A1101120616011302120211031106130E11011X60O110611021402",
     "140W1110116021E0dK18041K021XS011U0R11011O011B071jB021C0A14061402120213051E01110112061B081",
     "5021WQ0111011T0419031fQ0X21d80lG1WH0L12061WtgG011vH0611011a7011G031T0111011T0111011Z70116",
     "041YoH021WpkS011WfO0XN110X91102120112021204110C11011107110X3110412081107110S1104110511011",
     "307110fU120eD120WJ1avL04110R110211011201110A110411011101160114011101110111031102110112011",
     "1011101110111011102110112041107110411041101110A110H15031105110H1WL021XoF091WXWv10"],
  .flag "NCHAR NONCHARACTERCODEPOINT"
    ["Xao00W11lU021Xbb0021Xbb0021Xbb0021Xbb0021Xbb0021Xbb0021Xbb0021Xbb0021Xbb0021Xbb0021Xbb002",
     "1Xbb0021Xbb0021Xbb0021Xbb0021Xbb0021"],
  .flag "QMARK QUOTATIONMARK"
    ["W30114011Z7011F011dfU081P021YrQ011jN041D031Wsx7041b30114011XS021WZbe20"],
  .flag "RADICAL"
    ["hh00Q110XR1C0bS1Wazn20"],
  .flag "RI REGIONALINDICATOR"
    ["ZdoL0Q1WXYpI0"],
  .flag "STERM SENTENCETERMINAL"
    ["W2011C011G011WhK011ZN031aP011WC031cT011WU01110113021eE021WuS021uF0114021tT011bC021a2021WE",
     "0115011f4021gD041a7021A0212021T031b1021X3021z2011N0219031YgN031eR011D011M021iQ011WVa2011d",
     "M021cA0113011hA021XO021Y2011ZS021ZN031ZK021d1011qwC0112021WS0113021aE011C011G011X3011XxE0",
     "21Wf6051WD041b3021YO041Z3031Z50216011G021XQ0211021YF011eJ021YO021h102150F1YC021d1031lL011",
     "1011d3021XP021iH021rA021XC021pVL021Z9011X3021B011mQ021eH011ptA011cyU011WXexB0"],
  .flag "TERM TERMINALPUNCTUATION"
    ["W2011A0111011B0213011vO0118011lH011WQ011XA011E0111031aP011WC0B11011cI021WN0611081W0011dD0",
     "21WeS021aH0114061f1021uE081tT011Z0031X9021a20313011W80412021f4021gD041a7021A0211031T031b1",
     "051X0021z2011N0219031YgN031eR011D0114011A01110213021iP021WVa1021dL031cA051hA021XO021Y2011",
     "ZR031ZN031Z3011G021d1011qwC0112021WQ0311041aE011A0111011B0213011X30112011WYS011WH011WbB01",
     "1bD011f0021ZS061X6061XR041zM051WD041b3071YJ041Z3031Z50216011G021XQ051YF011eJ021YO031C021g",
     "H04130F1YC021d1031lL0111011d3021XP0214021iB031WE011pP021XC021WgL051noQ021Z9011X3031A011mQ",
     "021eG021ptA011cyT041WXex90"],
  .flag "UIDEO UNIFIEDIDEOGRAPH"
    ["ivD0bvK1X20qv51szL02110111021A011101110212031Xcs80Wij21W10ZmB120bV8120ct21F0p21ZqJ0aZA150",
     "duR1zfsH0"],
  .flag "VS VARIATIONSELECTOR"
    ["bhH0311011WzcQ0G1xof30cN1bnX60"],
  .flag "OMATH OTHERMATH"
    ["Y1011xD0312011Q0212021ck8011R031B011W1041O021E021X30D1401130214051I011401120A110113051601",
     "1302120211031106130415051XD051204110211021101110512021402140I120211011107110116021eB041aD",
     "0211011O011H011jB021C0915051502120213051E01110112061O021WQ0111011T0419021g1021W00A1i00M1X",
     "1041W1021WumS01110114011bP0111011WupT0XN110X91102120112021204110C11011107110X311041208110",
     "7110S1104110511011307110fU120P110P110W0110P110W0110P110W0110P110W0110P1108120WJ1avL04110R",
     "110211011201110A1104110111011601140111011101110311021101120111011101110111011102110112041",
     "107110411041101110A110H15031105110H1WXZlH0"],
  .flag "OGREXT OTHERGRAPHEMEEXTEND"
    ["XnE011O011gH011O011Y9011O011cF0111011402110219021YA011O011YQ011F011Xj1011U011WX1011501110",
     "115021Y8011X9021WXP011Ze6021WWdB011YF011rw2021ZuL011YN011dG011E0119011Y301190112011103150",
     "11c7011C011cO011dE011pD011C011WnK011qk8021uyN0216061vtt70Y31bnj20"],
  .flag "GRLINK GRAPHEMELINK"
    ["XjP011Z3011Z3011Z3011Z3011Z3011Z3011Z3011YG021G011Z0011YI011Z3011bF011aP021WuH021U011a201",
     "1q2011cA011Y8021X8021ZpR011WWoP011W6011ZR011ZI011YF011eU011cT011uYR011WnN011WA011E011WQ01",
     "1YS021ZF011YN011aP011Y5011Z4031YK011Z3011d4011Z3011YP011YN011dL011dB021a6011XL011I011XJ01",
     "1iI011dC021XJ011iM021mmC011WYgcE0"],
  .flag "HYPHEN"
    ["WE011Z3011We4011ZxJ011XZB021YrO011sQ011Wsr7011aE011XP011WZbe00"],
  .flag "PCM PREPENDEDCONCATENATIONMARK"
    ["WnH061bT011WI011hC021XI011XddS011F011WZWp80"],
  .flag "IDSU IDSUNARYOPERATOR"
    ["htA021WazlM0"]]

end SourceAudit.Text
