import SourceAudit.Text.Trait

/-!
# SourceAudit.Text.Traits.Case

Yes-or-no properties that concern case and identifiers.
-/

namespace SourceAudit.Text

/-- Case. -/
def caseTraits : List Trait := [
  .flag "CASED"
    ["X30Q160Q1WG011A011401150N110W0110b91104140bM120W417021U051Y3011WB041202120411011601110311",
     "01110K110XL110ZF180aB110W7190WA1XyI0W711011501120WC11041qL0XO12061Xd80B150WC12031X20b61X2",
     "0dU1206120W712061208110111011101110W0120WM110711011303110713041206140D150311071YN011D011F",
     "0E1Y8011401120A110113051601110111011104110614011204150514011H0W113021vB0WL1WwG0cC16041302",
     "1C0W7110115011WWcP0WF1I0U1Z80Y91304110XF1K0611031vF0WC110E160XI1qYE071C051WXA0Q160Q1WcB0X",
     "I1Y30W5140W51YN0B110F11071102110B110F110711021jH011203110WB11091WdC0WK1D0WK1Y00M1A0M1XyL0",
     "X21rs10X21W10P120P1vyF0XN110X91102120112021204110C11011107110X3110412081107110S1104110511",
     "011307110fU120P110P110W0110P110W0110P110W0110P110W0110P11081WxF0A110K16061dD0X01XdO0X61XY",
     "D0Q160Q160Q1WXYtC0"],
  .flag "CI CASEIGNORABLE"
    ["W80116011B011W40111011X90114011101140112021l70b614021401190211011d3071bL0115011WI0WE11011",
     "102110211011WD011B061A0B11011W4011A0L1G011Y808110A11041W20111011U0R1XT0B1WR0B140112011O0O",
     "1WC031WD01170215091WA0WR1WO0111011408140113071A021D011F011WR01140418011K021Q0112021WQ0114",
     "021402120313011U0213011B021WQ011405110214011K021M0611011WR0112011104180117021B021U011WU01",
     "1C011WJ0113011WO0111031503110417021B021T011WR011201160115021K021S021WQ02140418011K021T011",
     "XA01170311011XS0112071B091Y5011209190111071XB021R01110111011WO0E11051102150B110W519011Y90",
     "41106110212021P0214031G041D01120216011F011Y1011oJ031zG031T021U021U021X20211071801120B1301",
     "15011WE051WK011X3021W3011YP031402190116031c20212011WR011107110111011208160A12011W801180WF",
     "120C1K041WH011105110115011W9091C021W104120211031WP011102130111031WR0812021X2061XK03110D11",
     "071401160113021WJ0X11D011W30Y81jB0111031B031D031D031D021C0518021A01120112051WI05110A11011",
     "D011F0E1WK0W21YXA021YK031Z1011F011Y30W11WG011k4011W504130515011Y0061Y0031ynB011WeA061dM01",
     "1Y504110A11011S041XI021E0W31XG011N031Y90413021801130114011P0215011ZR021Q0I1D011W7081P0B1W",
     "F031WH01120412021H011L021X406120212021C0118011W4011B011WK0111031202150211011R011E02150211",
     "011Y70519031YS01120114011qXT011ZN0H1nF0G13011C0G1W30112011aE01170116011B011W40111011WG011",
     "WE021X5011L031lH011c9011ZP051WX606110WB11091nO03110215041W90314011aA021nF041W7011Q0511011",
     "f5021O011WL061X80B1WI041YU011WN0F1WA0112021A031WI041202120114011A011WJ031W50511081X0011C0",
     "21WL091A0412011Y20312011102160112011a20113081L021WQ0213011W60713051X8061D01110111011E021X",
     "N08120311011N011XM061101140211021cL04160211021R021XN08120111021YD011101120611011Y80111011",
     "20411051dB0911021d802110114011ZK04120214011W10A1W90612041801190612031WF0D11021bC011103110",
     "11bF07110611011XK0M1207110211021YT0613011102110711011XA02130111011X3011e2021B021WL0515011",
     "1011N011am10H160F1gxP0C13031XnG051WS0719041lC031W9021kH011X10H1X20211021D021mWC0411071102",
     "1Yg60211041ZwJ0WF120N1mH03190G12071U041ZO031XWQ0WO140WJ18011E011M05110F1WhR07110H12071102",
     "1105150X01W2011a50E1gR011WU041lB051d6021cQ0112011702150119011jU071YG081Xv7051vklS011U0Y31",
     "Z40cN1bnX60"],
  .flag "LOWER LOWERCASE"
    ["Y40Q1WG011A0114011W50O1108110111011101110111011101110111011101110111011101110111011101110",
     "11101110111011101110111011101110111011101110111021101110111011101110111011101110211011101",
     "11011101110111011101110111011101110111011101110111011101110111011101110111011101110112011",
     "10111031201110112011302140112011303120112011101110112011102110112011301110112021203160112",
     "01120111011101110111011101110111011102110111011101110111011101110111011102120111011301110",
     "11101110111011101110111011101110111011101110111011101110111011101110111011101110111011101",
     "1101110111011101110111071201120211011401110111011101110X7120W417021U051Y3011WC01110113011",
     "2041I011R0W4110213031101110111011101110111011101110111011101110111051101120112021WK0WH110",
     "11101110111011101110111011101110111011101110111011101110111011101190111011101110111011101",
     "11011101110111011101110111011101110111011101110111011101110111011101110111011101110112011",
     "10111011101110111011102110111011101110111011101110111011101110111011101110111011101110111",
     "01110111011101110111011101110111011101110111011101110111011101110111011101110111011101110",
     "11101110111011101110111011101110111011WH0WA1YV40WC11041tG061Xd80911011YO0b61X301110111011",
     "10111011101110111011101110111011101110111011101110111011101110111011101110111011101110111",
     "01110111011101110111011101110111011101110111011101110111011101110111011101110111011101110",
     "11101110111011101110111011101110111011101110111011101110111011101110111011101110111011101",
     "11011101110111011109110111011101110111011101110111011101110111011101110111011101110111011",
     "10111011101110111011101110111011101110111011101110111011101110111011101110111011101110111",
     "0111011101110111011101110111011101110918061A08180818061A081808180E12081808180818051102160",
     "1130311021804120218081A0311021YS011D011F0E1YG01130213011R01140114011202180414011W20G14011",
     "w60Q1Wy20WH110113021101110111011401110211081301110111011101110111011101110111011101110111",
     "01110111011101110111011101110111011101110111011101110111011101110111011101110111011101110",
     "111011101110111011101110111011101110111011101110111011101110111021701110114011C0W71101150",
     "11WWcQ01110111011101110111011101110111011101110111011101110111011101110111011101110111011",
     "10111011J0111011101110111011101110111011101110111011101110111031Z901110111011101110111011",
     "10311011101110111011101110111011101110111011101110111011101110111011101110111011101110111",
     "0111011101110111011101110111011101110A110111011201110111011101110114011101120111031101110",
     "11101110111011101110111011101110115011501110111011101110111011101110114011101120111011101",
     "110111011101110111011L04110111031vF0WC110E160XI1qYE071C051WYB0Q1WdK0W91ZC0W51a00B110F1107",
     "11021jH011203110WB11091WfE0WK1Z10M1XzM0W11rt20W11WS0P1vzA0Q1Q07110I1Q0Q1Q0411011107110B1Q",
     "0Q1Q0Q1Q0Q1Q0Q1Q0Q1Q0Q1Q0Q1Q0Q1Q0S1S0P11061Q0P11061Q0P11061Q0P11061Q0P110611011WxF0A110K1",
     "6061dD0X01XeR0W31WXazM0"],
  .flag "UPPER UPPERCASE"
    ["X30Q1Y80N11071W20111011101110111011101110111011101110111011101110111011101110111011101110",
     "11101110111011101110111011101110111011201110111011101110111011101110112011101110111011101",
     "11011101110111011101110111011101110111011101110111011101110111011101110111021101110113021",
     "10111021103120411021103130211021101110111021101120111021103110111021301170112011201120111",
     "01110111011101110111011101120111011101110111011101110111011101120112011103110111011101110",
     "11101110111011101110111011101110111011101110111011101110111011101110111011101110111011101",
     "110111011101170211021201110411011101110111011eA011101130118011601110311011102110H11091W40",
     "11203130111011101110111011101110111011101110111011101150112011102120WK1WH0111011101110111",
     "01110111011101110111011101110111011101110111011101190111011101110111011101110111011101110",
     "11101110111011101110111011101110111011101110111011101110111011101110111021101110111011101",
     "11011101120111011101110111011101110111011101110111011101110111011101110111011101110111011",
     "10111011101110111011101110111011101110111011101110111011101110111011101110111011101110111",
     "0111011101110111011101120W71YV60W7110115011s90XO1XdP01160WC12031fA01110111011101110111011",
     "10111011101110111011101110111011101110111011101110111011101110111011101110111011101110111",
     "01110111011101110111011101110111011101110111011101110111011101110111011101110111011101110",
     "11101110111011101110111011101110111011101110111011101110111011101110111011101110111011101",
     "11011101190111011101110111011101110111011101110111011101110111011101110111011101110111011",
     "10111011101110111011101110111011101110111011101110111011101110111011101110111011101110111",
     "01110111011101110111011101190818061A08180818061B0111011101110118081XA041C041C041C051B041d",
     "E0114011303120312011305160111011101110412041A0215011Q0G1J011vC0Q1WxB0WH1WH011103120111011",
     "10111041101120118031101110111011101110111011101110111011101110111011101110111011101110111",
     "01110111011101110111011101110111011101110111011101110111011101110111011101110111011101110",
     "11101110111011101110111011101110111011801110114011WWeM01110111011101110111011101110111011",
     "10111011101110111011101110111011101110111011101110111011J01110111011101110111011101110111",
     "01110111011101110111011ZB0111011101110111011101110113011101110111011101110111011101110111",
     "011101110111011101110111011101110111011101110111011101110111011101110111011101110111011A0",
     "11101110211011101110111011401110112011101130111011101110111011101110111011101110111051105",
     "1101110111011101110111011101110411011102110111011101110111011101110111011O011sbQ0Q1WdC0W9",
     "1ZC0W51a10B110F110711021Wv30WK1a20M1XzM0W11rt20W11X20P1vzB0Q1Q0Q1Q0Q1Q0111021201120212041",
     "1081Q0Q1Q021104120811071R0211041105110113071R0Q1Q0Q1Q0Q1Q0Q1Q0Q1Q0Q1U0P1W20P1W20P1W20P1W2",
     "0P1W2011Zn30W31XZG0Q160Q160Q1WXYtC0"],
  .flag "OLOWER OTHERLOWERCASE"
    ["aF011F011l50917021U051Y3011WL011YnG011YcJ0X11D011W30W61r7011D011F0E1bP0G1wB0Q1XVG021WWlE0",
     "21bO011Z40413021wT0419011tlE011203110WB11091WvpG0X01WXdfL0"],
  .flag "OUPPER OTHERUPPERCASE"
    ["dwJ0G1w10Q1YyoP0Q160Q160Q1WXYtC0"],
  .flag "SD SOFTDOTTED"
    ["YC021bA011e2011U011WL011K011fA011Y50111011bpN011WK011D0113011Z8011a2011iI011bS021XzE011Yo",
     "vF021WJ021WJ021WJ021WJ021WJ021WJ021WJ021WJ021WJ021WJ021WJ021WJ021XdC011eQ021Q011WXdfQ0"],
  .flag "CWL CHANGESWHENLOWERCASED"
    ["X30Q1Y80N11071W20111011101110111011101110111011101110111011101110111011101110111011101110",
     "11101110111011101110111011101110111011201110111011101110111011101110112011101110111011101",
     "11011101110111011101110111011101110111011101110111011101110111011101110111021101110113021",
     "10111021103120411021103130211021101110111021101120111021103110111021301170211021102110111",
     "01110111011101110111011101120111011101110111011101110111011101120211011103110111011101110",
     "11101110111011101110111011101110111011101110111011101110111011101110111011101110111011101",
     "110111011101170211021201110411011101110111011eA011101130118011601110311011102110H11091W40",
     "1180111011101110111011101110111011101110111011101150112011102120WK1WH01110111011101110111",
     "01110111011101110111011101110111011101110111011901110111011101110111011101110111011101110",
     "11101110111011101110111011101110111011101110111011101110111011101110211011101110111011101",
     "11011201110111011101110111011101110111011101110111011101110111011101110111011101110111011",
     "10111011101110111011101110111011101110111011101110111011101110111011101110111011101110111",
     "011101110111011101120W71YV60W7110115011s90XO1XdP01160WC12031fA011101110111011101110111011",
     "10111011101110111011101110111011101110111011101110111011101110111011101110111011101110111",
     "01110111011101110111011101110111011101110111011101110111011101110111011101110111011101110",
     "11101110111011101110111011101110111011101110111011101110111011101110111011101110111011101",
     "11011901110111011101110111011101110111011101110111011101110111011101110111011101110111011",
     "10111011101110111011101110111011101110111011101110111011101110111011101110111011101110111",
     "0111011101110111011101190818061A08180818061B0111011101110118081O081808180818051B051B041C0",
     "51B051eI01130216011WE0G1J011vC0Q1WxB0WH1WH01110312011101110111041101120118031101110111011",
     "10111011101110111011101110111011101110111011101110111011101110111011101110111011101110111",
     "01110111011101110111011101110111011101110111011101110111011101110111011101110111011101110",
     "111011801110114011WWeM0111011101110111011101110111011101110111011101110111011101110111011",
     "101110111011101110111011J0111011101110111011101110111011101110111011101110111011ZB0111011",
     "10111011101110111011301110111011101110111011101110111011101110111011101110111011101110111",
     "0111011101110111011101110111011101110111011101110111011A011101110211011101110111011401110",
     "11201110113011101110111011101110111011101110111011105110511011101110111011101110111011104",
     "11011102110111011101110111011101110111011O011sbQ0Q1WdC0W91ZC0W51a10B110F110711021Wv30WK1a",
     "20M1XzM0W11rt20W11X20P1WWmO0W31WXbVP0"],
  .flag "CWU CHANGESWHENUPPERCASED"
    ["Y40Q1WR011WA0O110811011101110111011101110111011101110111011101110111011101110111011101110",
     "11101110111011101110111011101110111011101120111011101110111011101110111021101110111011101",
     "11011101110111011101110111011101110111011101110111011101110111011101110111011201110111031",
     "20111011201130115011201130312011201110111011201140112011301110112011301110115021102110211",
     "01110111011101110111011101110211011101110111011101110111011101110211021101130111011101110",
     "11101110111011101110111011101110111011101110111011101110111011101130111011101110111011101",
     "11011101110118011202110114011101110111011106110211011102130211041105120111021201170112011",
     "102130615011A021aB011WC011101130113031I011R0W41102130311011101110111011101110111011101110",
     "11101110111051101120112011WL0WH1101110111011101110111011101110111011101110111011101110111",
     "01110111011901110111011101110111011101110111011101110111011101110111011101110111011101110",
     "11101110111011101110111011101120111011101110111011101110211011101110111011101110111011101",
     "11011101110111011101110111011101110111011101110111011101110111011101110111011101110111011",
     "101110111011101110111011101110111011101110111011101110111011101110111011WI0W81YV50WC12031",
     "tG061Xd80911011cL0113011G011YL01110111011101110111011101110111011101110111011101110111011",
     "10111011101110111011101110111011101110111011101110111011101110111011101110111011101110111",
     "01110111011101110111011101110111011101110111011101110111011101110111011101110111011101110",
     "11101110111011101110111011101110111011101110111011101110111071501110111011101110111011101",
     "11011101110111011101110111011101110111011101110111011101110111011101110111011101110111011",
     "10111011101110111011101110111011101110111011101110111011101110111011101110918061A08180818",
     "061A081808180E120WM1102140111011303110214011304120218081A03110214011fR011W20G14011w60Q1Wy",
     "20WH11011302110111011101160112011A0111011101110111011101110111011101110111011101110111011",
     "10111011101110111011101110111011101110111011101110111011101110111011101110111011101110111",
     "0111011101110111011101110111011101110111011101110111011801110114011C0W7110115011WWcQ01110",
     "11101110111011101110111011101110111011101110111011101110111011101110111011101110111011J01",
     "11011101110111011101110111011101110111011101110111011ZB0111011101110111011101110113011101",
     "11011101110111011101110111011101110111011101110111011101110111011101110111011101110111011",
     "1011101110111011101110111011A011101120111011101110111011401140111021201110111011101110111",
     "0111011101110111011B011101110111011101110111011101140111011201110111011101110111011101110",
     "11Q011wN011S0XI1qYE071C051WYB0Q1WdK0W91ZC0W51a00B110F110711021WvS0WK1Z10M1XzM0W11rt20W11W",
     "S0P1WWn00W31WXazM0"],
  .flag "CWT CHANGESWHENTITLECASED"
    ["Y40Q1WR011WA0O110811011101110111011101110111011101110111011101110111011101110111011101110",
     "11101110111011101110111011101110111011101120111011101110111011101110111021101110111011101",
     "11011101110111011101110111011101110111011101110111011101110111011101110111011201110111031",
     "20111011201130115011201130312011201110111011201140112011301110112011301110114011102110211",
     "01110111011101110111011101110111021101110111011101110111011101110111031101110113011101110",
     "11101110111011101110111011101110111011101110111011101110111011101110113011101110111011101",
     "11011101110111011801120211011401110111011101110611021101110213021104110512011102120117011",
     "2011102130615011A021aB011WC011101130113031I011R0W4110213031101110111011101110111011101110",
     "111011101110111051101120112011WL0WH110111011101110111011101110111011101110111011101110111",
     "01110111011101190111011101110111011101110111011101110111011101110111011101110111011101110",
     "11101110111011101110111011101110112011101110111011101110111021101110111011101110111011101",
     "11011101110111011101110111011101110111011101110111011101110111011101110111011101110111011",
     "1011101110111011101110111011101110111011101110111011101110111011101110111011WI0W81Yv7061X",
     "d80911011cL0113011G011YL01110111011101110111011101110111011101110111011101110111011101110",
     "11101110111011101110111011101110111011101110111011101110111011101110111011101110111011101",
     "11011101110111011101110111011101110111011101110111011101110111011101110111011101110111011",
     "10111011101110111011101110111011101110111011101110111071501110111011101110111011101110111",
     "01110111011101110111011101110111011101110111011101110111011101110111011101110111011101110",
     "11101110111011101110111011101110111011101110111011101110111011101110918061A08180818061A08",
     "1808180E120818081808180511021601130311021804120218081A0311021g1011W20G14011w60Q1Wy20WH110",
     "11302110111011101160112011A01110111011101110111011101110111011101110111011101110111011101",
     "11011101110111011101110111011101110111011101110111011101110111011101110111011101110111011",
     "101110111011101110111011101110111011101110111011801110114011C0W7110115011WWcQ011101110111",
     "0111011101110111011101110111011101110111011101110111011101110111011101110111011J011101110",
     "1110111011101110111011101110111011101110111011ZB01110111011101110111011101130111011101110",
     "11101110111011101110111011101110111011101110111011101110111011101110111011101110111011101",
     "110111011101110111011A0111011201110111011101110114011401110212011101110111011101110111011",
     "101110111011B01110111011101110111011101110114011101120111011101110111011101110111011Q011w",
     "N011S0XI1qYE071C051WYB0Q1WdK0W91ZC0W51a00B110F110711021WvS0WK1Z10M1XzM0W11rt20W11WS0P1WWn",
     "00W31WXazM0"],
  .flag "CWCF CHANGESWHENCASEFOLDED"
    ["X30Q1XS011A0N11081W1011101110111011101110111011101110111011101110111011101110111011101110",
     "11101110111011101110111011101110111011101120111011101110111011101110111011102110111011101",
     "11011101110111011101110111011101110111011101110111011101110111011101110111011102110111011",
     "10111021101110211031204110211031302110211011101110211011201110211031101110213011702110211",
     "02110111011101110111011101110111011201110111011101110111011101110111011202110111031101110",
     "11101110111011101110111011101110111011101110111011101110111011101110111011101110111011101",
     "11011101110111011101170211021201110411011101110111011cT011WB01110113011801160111031101110",
     "2110H11091M011C0313021101110111011101110111011101110111011101110111011102120211011102120W",
     "K1WH0111011101110111011101110111011101110111011101110111011101110111011901110111011101110",
     "11101110111011101110111011101110111011101110111011101110111011101110111011101110111011101",
     "11021101110111011101110111011201110111011101110111011101110111011101110111011101110111011",
     "10111011101110111011101110111011101110111011101110111011101110111011101110111011101110111",
     "011101110111011101110111011101110111011101120W71WH011XyJ0W7110115011v4061Xd80A160WC12031f",
     "A0111011101110111011101110111011101110111011101110111011101110111011101110111011101110111",
     "01110111011101110111011101110111011101110111011101110111011101110111011101110111011101110",
     "11101110111011101110111011101110111011101110111011101110111011101110111011101110111011101",
     "11011101110111011101110111011101150212011101110111011101110111011101110111011101110111011",
     "10111011101110111011101110111011101110111011101110111011101110111011101110111011101110111",
     "011101110111011101110111011101110111011101110111011101190818061A08180818061B0111011101110",
     "118081G0WH12031206150312061B041C05150312061eI01130216011WE0G1J011vC0Q1WxB0WH1WH0111031201",
     "11011101110411011201180311011101110111011101110111011101110111011101110111011101110111011",
     "10111011101110111011101110111011101110111011101110111011101110111011101110111011101110111",
     "0111011101110111011101110111011101110111011801110114011WWeM011101110111011101110111011101",
     "1101110111011101110111011101110111011101110111011101110111011J011101110111011101110111011",
     "1011101110111011101110111011ZB01110111011101110111011101130111011101110111011101110111011",
     "10111011101110111011101110111011101110111011101110111011101110111011101110111011101110111",
     "011A0111011102110111011101110114011101120111011301110111011101110111011101110111011101110",
     "511051101110111011101110111011101110411011102110111011101110111011101110111011O011xM0XI1q",
     "YE071C051WXA0Q1WdC0W91ZC0W51a10B110F110711021Wv30WK1a20M1XzM0W11rt20W11X20P1WWmO0W31WXbVP",
     "0"],
  .flag "CWCM CHANGESWHENCASEMAPPED"
    ["X30Q160Q1WR011A0N110W0110X2110XM110S120E12021101140Y0110I160R1102110111021302110411051201",
     "11021201170112011102130615011A021aB011WB04120213031101160111031101110K110WG130W21105110Z9",
     "180aB110W71A0W81XyJ0W711011501120WC12031qL0XO12061Xd80B150WC12031aU0113011G011YK0a1120111",
     "0YP1206120W712061208110111011101110W0120WM110711011303110713041206140D150311071eI01130216",
     "011R011H0W113021vB0WL1WwG0YK11021102170Y9170413021C0W7110115011WWcP0WF1I0S1ZA0E120X0190F1",
     "3031205110P110WE1O021wN011S0XI1qYE071C051WXA0Q160Q1WcB0XI1Y30W5140W51YN0B110F11071102110B",
     "110F110711021WtQ0WK1D0WK1Y00M1A0M1XyL0X21rs10X21W10P120P1WWlS0X61WXazM0"],
  .flag "CWKCF CHANGESWHENNFKCCASEFOLDED"
    ["X30Q1X7011701110112011101120412031103110N11081W101110111011101110111011101110111011101110",
     "11101110111011101110111011101110111011101110111011101110111031101120111011101110311011101",
     "11011102110111011101110111011101110111011101110111011101110111011101110111011101110111011",
     "10111011102110111011101110211011102110312041102110313021102110111011102110112011102110311",
     "0111021301170A110111011101110111011101110112011101110111011101110111011101110112041103110",
     "11101110111011101110111011101110111011101110111011101110111011101110111011101110111011101",
     "110111011101110111011101170211021201110411011101110111011Y4091W00612051XT02110319011W1011",
     "1011101110113011302140711011102110H11091M011C08110111011101110111011101110111011101110111",
     "0111011103110211011102120WK1WH01110111011101110111011101110111011101110111011101110111011",
     "10111011901110111011101110111011101110111011101110111011101110111011101110111011101110111",
     "01110111011101110111011101110211011101110111011101110112011101110111011101110111011101110",
     "11101110111011101110111011101110111011101110111011101110111011101110111011101110111011101",
     "11011101110111011101110111011101110111011101110111011101110111011101120W71WH011ZO011XQ041",
     "sM081Z00211011XL0112011W30312011d5021sC011Z3011W9021WF011WN0119011401140114011C0119011105",
     "17011H0119011401140114011C011cD0W7110115011WF011Y5021qC061zK021XN051WaK0A160WC12031YF0311",
     "0B110I110S1D011W30W61X2011101110111011101110111011101110111011101110111011101110111011101",
     "11011101110111011101110111011101110111011101110111011101110111011101110111011101110111011",
     "10111011101110111011101110111011101110111011101110111011101110111011101110111011101110111",
     "01110111011101110111011101110111011101110111011101110115021201110111011101110111011101110",
     "11101110111011101110111011101110111011101110111011101110111011101110111011101110111011101",
     "1101110111011101110111011101110111011101110111011101110111011101110111011101190818061A081",
     "80818061B0111011101110118081101110111011101110111011101120WH1203120E120913011404110313011",
     "40812031208110G110115011C031306130211021401110118031D01170J120WA1B011XP041103110B11021205",
     "12031101110111011104110B11061405160WH130115011a70211021d0021eU0ZF1WgB011YA031Y8011eC0WH1W",
     "H0111031201110111011104110112011605110111011101110111011101110111011101110111011101110111",
     "01110111011101110111011101110111011101110111011101110111011101110111011101110111011101110",
     "111011101110111011101110111011101110111011101110111011801110114011Z0011eO011XL011C0bS1WB0",
     "11WM0111031Y30212011Y2011WI0Y1130E1Y30W0110W9180WG110hC1ziF011101110111011101110111011101",
     "1101110111011101110111011101110111011101110111011101110111011J011101110111011101110111011",
     "10111011101110111011101110111021Z80111011101110111011101110113011101110111011101110111011",
     "10111011101110111011101110111011101110111011101110111011101110111011101110111011101110111",
     "01110111011801110111021101110111011101140111011201110113011101110111011101110111011101110",
     "11101110511051101110111011101110111011101110411011102110111011101110111011101110111011K05",
     "12021wT041901160XI1pmT0dM12011101120A110111011202130X6120YD1W7071C051501110O1105110111021",
     "102110YF1W20gM1I0X2120WN1W90D130Q1M0L120C110J110414031101110ZB1201110b4130612061206120313",
     "07110711091WX80W91ZC0W51a10B110F110711021kQ05110WB11091WdC0WK1a20M1XzM0W11rt20W11X20P1psA",
     "041ZeN0W51Wa8071E081X2061nH0XN110X91102120112021204110C11011107110X3110412081107110S11041",
     "10511011307110fU120eD120WJ1XaJ0X01XdO0W31We604110R110211011201110A11041101110116011401110",
     "11101110311021101120111011101110111011102110112041107110411041101110A110H15031105110H1nM0",
     "B150W0110W11Q031W4011YI031D0WD140917021XmD0A1XaZ70mF1tcr90Zd41bjf20"]]

/-- Identifiers and the syntax of patterns. -/
def identifierTraits : List Trait := [
  .flag "IDS IDSTART"
    ["X30Q160Q1WG011A011401150N110W0110jO140C1E05170111011Z505110212041101160111031101110K110XL",
     "110ZF180aB110W71201160WA1X90R14041WE0WC1W402110Y611011F0217021A0312011G01110U1T0XR1B011O0",
     "W219021401150M1401190113011N0P170B150O11071G0WB1WR0WN13011I01170A1F0G14081202120M11071101",
     "130413011G011D0211031E021A0118061402120M11071102110211021W00411011J031G091103110M11071102",
     "110513011I011F021N011B081202120M11071102110513011U0211031F011H011106130311041302110111021",
     "3021303130C1M011WL081103110N110G13011Q03110212021U0114081103110N110A110513011U0311021F021",
     "H091103110WA12011G01150318031O06150I130O1109110112071WR0WH11021C071WR0211011105110O110111",
     "0A11021901120511011L041W1011X108110W51R051YM0WC1K011G061404130113021703140D1C011H0W711011",
     "501120WC110fN1104120711011104120WA1104120W21104120711011104120F110WQ1104120X51W60G1G0XO12",
     "06130p0120H110Q150XD130B170I1D0J1E0I1E0D11031F0WL1W40114011X50XR170WA1101150X81A0W01WI0U1",
     "2051B0WD140Q1WN0N190WM1XK011Y00WG1H081WN0U1D021A0WD1Q0W51WA031A0W5120B150WC12031WA0411061",
     "1021301150b61X20dU1206120W712061208110111011101110W0120WM110711011303110713041206140D1503",
     "11071YN011D011F0E1Y8011401120A11011206160111011101110G1204150514011H0WA1XtD0cC160413021C0",
     "W711011501120WP17011G0N190711071107110711071107110711071mN031P0917051205140XO1405110XS110",
     "4150WC110Y11H0W11WH0G1lG0bvK1X20sWN1X50WF120dL130G1A021K0WG1G0W0120XI1W809120YA120XK1K0H1",
     "1031104110N1T0WL1E0WJ1X006130111021B0S1A0N1P0T170WG1S011G05110A1A05110WA1N0311081K0N13011",
     "30WJ110113021205120111011O03120B17031C061206120619071107110WC110E160YM1T0goC1C0N140WI1dtK",
     "0gP120YD1W7071C051501110A110D1105110111021102110YF1W20gM1I0X2120WN1W90C1YN05110ZB1W50Q160",
     "Q1B0XR13061206120612031W40C110Q110J1102110F120E1W30YU1X70WM1dJ0T130WI1WG0W11D0U150W71A0U1",
     "20W5140811051WB0a31I0W5140W5140W9180WL1C0B110F11071102110B110F11071102130WL1C0f1190M1A081",
     "O06110WB11091X7061201110WD11021301120N1A0N190W01X30J11021A0M1A0Q160Q1W70WP16021X2011F0411",
     "03110T1WB0T130T1W408110S1R0WN1A0M1A0J1D0I1YH0XB1WO0WK1D0WK1D0W51W70S190N1d20WB16021G061WP",
     "0T1A01180M1WB0I1WF0L1R0N1C0WM1WQ0212011D0WE1W10P1Q0W51T011201180W413011C0WH1E041L0111011W",
     "40I110P1J021X10711011104110F110A170WG1W7081202120M11071102110513011I011C051U0A11011201110",
     "W711011P0111011WD0WM1I041K031U0WH1K0211011aT0WG1WA041W50WH1K011WS0WC1D011X90R1W6071aU0WD1",
     "YN0X21W008120112081102110O1F0111011Y108120W81G0111011S011A0W917011L011B0WF1J011I0XB1bD0W2",
     "1W009110W61H011WI0U1YJ071102110W71L011P061102110W11E011N0WD1dC0J1F01110D110W31Z0011XH0yN1",
     "Y90YI1H0bA1Xs10Y41F0WYI1H061P0ZZR150nP1cYL0U1WuQ0nB170W01H0XH1H0U1I0WH1G041W00L150J1iT0WE",
     "1bP0X21W10P120P1WD0XD15011X40D1X20211011E05190cq41WA0W11Y40YM1eWL0411071102110eC1F011T031",
     "2011E04180hO1XhE0YE150D1309170A1bc70XN110X91102120112021204110C11011107110X31104120811071",
     "10S1104110511011307110fU120P110P110W0110P110W0110P110W0110P110W0110P11081WxF0W016061dD0X0",
     "1ZM0WE1A071G011fB0U1I0WD1kJ0S1cB0U12011bL0W0110311021107120519021c70711041102110F110bB1WS",
     "0X617011WcQ04110R110211011201110A11041101110116011401110111011103110211011201110111011101",
     "11011102110112041107110411041101110A110H15031105110H1ZnI0Wij21W10ZmB120bV8120ct21F0p21XmH",
     "0mF1WmI0aZA150duR1zfsH0"],
  .flag "IDC IDCONTINUE"
    ["WH0A170Q1401110Q1WG011A0111011201150N110W0110jO140C1E05170111011H0YO110212041101160511011",
     "10K110XL110ZF1105120aB110W71201160WA180WE1101110211021101180R14041T0B150XC140Y91108120A11",
     "0J12011G0WS120Y81E0WN14011201120WF1I0S140B150O1107170XD110Z5120A110J11081202120M110711011",
     "304120912021204180114021105120C1A011101120311061402120M1107110211021102120111051402120313",
     "0117041101170G1B0311091103110M110711021105120A1103110312011F04120A1907110311081202120M110",
     "711021105120912021203170314021105120A11011G0211061303110413021101110213021303130C14051303",
     "1104120116011E0A1G0D1103110N110G1209110311041702110311021204120A1G0411081103110N110A11051",
     "20911031104170215031104120A11031C0D1103110WK1103110515041705120A1A061103110I130O110911011",
     "2071301140611011108160A12021D0WR150F110A1W80211011105110O1101110N120511011107110A12041W10",
     "11N02160A1B0111011101140A110W5140K110I110W519011WQ0XC160XG120W711011501120WC110fN11041207",
     "11011104120WA1104120W21104120711011104120F110WQ1104120X5120319091E0G1G0XO1206130p0120H110",
     "Q150XD130B170M190M1B0K1C0D110311021C0XM13011402120A1W203110B160XR170WC150X81A0W0110C140C1",
     "A0W912051B0WD140Q160B1W60S140X1110T120B160A1D01180E110W0120C1K0XF130A1H091C0YN1C0WP180A13",
     "0WI120B150WC12031G03110W8150m71206120W712061208110111011101110W0120WM11071101130311071304",
     "1206140D150311071F021WI021J011S011D011F0E1WK0D1401130C1H011401120A11011206160111011101110",
     "G1204150514011H0WA1XtD0cC16091C0W711011501120WP17011F0O1907110711071107110711071107110711",
     "0W11lL031P0F11051205140XO1207110Y2150WC110Y11H0W11WH0G1lG0bvK1X20sWN1X50WF120dL130S1K0WH1",
     "40A110YM1W609120YA120XK1K0WO14011J0WL1C0X81A0A160O1301110WI120W51C0T130X31E0B160W0110WO19",
     "0E120A160N130XB1O03120G12051A061206120619071107110WC110E160YU1102120A160goC1C0N140WI1dtK0",
     "gP120YD1W7071C05150C110D1105110111021102110YF1W20gM1I0X2120WN1W90C140G1G0G13021O031W10511",
     "0ZB1J0A170Q1401110Q1A0XS13061206120612031W40C110Q110J1102110F120E1W30YU1X70WM1ZC011Z60T13",
     "0WI1F011W00W11D0U150WC150U120W5140811051WB0a3120A160W5140W5140W9180WL1C0B110F11071102110B",
     "110F11071102130WL1C0f1190M1A081O06110WB11091X7061201110WD11021301120N1A0N190W01X30J11021A",
     "0M1A0Q160Q1W70WP16021X204110215081103110T120314011W10T130T1W408110U1P0WN1A0M1A0J1D0I1YH0X",
     "B1WO0WK1D0WK1D0W9180A160W71305110N1d20WB110213021G061WJ0W41A01180W21W00M1WB0L1R0N190X91W0",
     "0G190WT17011D0P170A160WM110A1404180W51201190X71404110D11011W40I110W616041X00711011104110F",
     "110A170WS150A160411081202120M110711021105110A12021203120116011507120713051B0A11011201110W",
     "7110A11011201110411081D021T0XD150A14041U0X81101180A1aB0WN12091N061W30X313011B0A1W70WQ170A",
     "160K1S0R120F140A16071aU0WS1Y80XC1L08120112081102110U110212091C0A1X808120WF120811021R0X118",
     "01180XC13011I0XB1YA081XQ0W21F0A1609110WE11091F0A1O0U120M110E1XB071102110WD130111021109180",
     "A16061102110W611021106170A160WD140A1cT0N190H110WA13051D0B1XN011XH0yN1Y90YI1H0bA1Xs10Y41F0",
     "WYI1G0M1A0ZZR150nP1cYL0WR1WtT0nB170W0110A160XH110A160U12051B0WO19041C0A190L150J1iT0WE130A",
     "1bC0X21W10P120P1WD0XD140WQ170H1X20211021B07190cq41WA0W11Y40YM1eWL0411071102110eC1F011T031",
     "2011E04180hO1XhE0YE150D1309170A13021ZfN0A1lM0WF120N1mF051306180812071U041ZO031j90XN110X91",
     "102120112021204110C11011107110X3110412081107110S1104110511011307110fU120P110P110W0110P110",
     "W0110P110W0110P110W0110P1108120WJ1lG0WO140WJ18011E011M05110F1WZJ0W016061bR07110H120711021",
     "105150X01W2011YJ0WE130E120A14011fB0W01H0WR1k50WB1bS0WC1bB0W0110M18021c70711041102110F110b",
     "B1B071WA0XE140A1WcC04110R110211011201110A110411011101160114011101110111031102110112011101",
     "1101110111011102110112041107110411041101110A110H15031105110H1Yl10A1WX70Wij21W10ZmB120bV81",
     "20ct21F0p21XmH0mF1WmI0aZA150duR1ssiJ0cN1bnX60"],
  .flag "XIDS XIDSTART"
    ["X30Q160Q1WG011A011401150N110W0110jO140C1E05170111011Z505110213031101160111031101110K110XL",
     "110ZF180aB110W71201160WA1X90R14041WE0WC1W402110Y611011F0217021A0312011G01110U1T0XR1B011O0",
     "W219021401150M1401190113011N0P170B150O11071G0WB1WR0WN13011I01170A1F0G14081202120M11071101",
     "130413011G011D0211031E021A0118061402120M11071102110211021W00411011J031G091103110M11071102",
     "110513011I011F021N011B081202120M11071102110513011U0211031F011H011106130311041302110111021",
     "3021303130C1M011WL081103110N110G13011Q03110212021U0114081103110N110A110513011U0311021F021",
     "H091103110WA12011G01150318031O06150I130O1109110112071WR0WH11011D071WR0211011105110O110111",
     "0A11011A01120511011L041W1011X108110W51R051YM0WC1K011G061404130113021703140D1C011H0W711011",
     "501120WC110fN1104120711011104120WA1104120W21104120711011104120F110WQ1104120X51W60G1G0XO12",
     "06130p0120H110Q150XD130B170I1D0J1E0I1E0D11031F0WL1W40114011X50XR170WA1101150X81A0W01WI0U1",
     "2051B0WD140Q1WN0N190WM1XK011Y00WG1H081WN0U1D021A0WD1Q0W51WA031A0W5120B150WC12031WA0411061",
     "1021301150b61X20dU1206120W712061208110111011101110W0120WM110711011303110713041206140D1503",
     "11071YN011D011F0E1Y8011401120A11011206160111011101110G1204150514011H0WA1XtD0cC160413021C0",
     "W711011501120WP17011G0N190711071107110711071107110711071mN031P0917051205140XO1603110XS110",
     "4150WC110Y11H0W11WH0G1lG0bvK1X20sWN1X50WF120dL130G1A021K0WG1G0W0120XI1W809120YA120XK1K0H1",
     "1031104110N1T0WL1E0WJ1X006130111021B0S1A0N1P0T170WG1S011G05110A1A05110WA1N0311081K0N13011",
     "30WJ110113021205120111011O03120B17031C061206120619071107110WC110E160YM1T0goC1C0N140WI1dtK",
     "0gP120YD1W7071C051501110A110D1105110111021102110YF1W20ZF160c11I0X2120WN1W90A1YQ0111011301",
     "110111011101110Z21W50Q160Q1B0WP120W013061206120612031W40C110Q110J1102110F120E1W30YU1X70WM",
     "1dJ0T130WI1WG0W11D0U150W71A0U120W5140811051WB0a31I0W5140W5140W9180WL1C0B110F11071102110B1",
     "10F11071102130WL1C0f1190M1A081O06110WB11091X7061201110WD11021301120N1A0N190W01X30J11021A0",
     "M1A0Q160Q1W70WP16021X2011F041103110T1WB0T130T1W408110S1R0WN1A0M1A0J1D0I1YH0XB1WO0WK1D0WK1",
     "D0W51W70S190N1d20WB16021G061WP0T1A01180M1WB0I1WF0L1R0N1C0WM1WQ0212011D0WE1W10P1Q0W51T0112",
     "01180W413011C0WH1E041L0111011W40I110P1J021X10711011104110F110A170WG1W7081202120M110711021",
     "10513011I011C051U0A11011201110W711011P0111011WD0WM1I041K031U0WH1K0211011aT0WG1WA041W50WH1",
     "K011WS0WC1D011X90R1W6071aU0WD1YN0X21W008120112081102110O1F0111011Y108120W81G0111011S011A0",
     "W917011L011B0WF1J011I0XB1bD0W21W009110W61H011WI0U1YJ071102110W71L011P061102110W11E011N0WD",
     "1dC0J1F01110D110W31Z0011XH0yN1Y90YI1H0bA1Xs10Y41F0WYI1H061P0ZZR150nP1cYL0U1WuQ0nB170W01H0",
     "XH1H0U1I0WH1G041W00L150J1iT0WE1bP0X21W10P120P1WD0XD15011X40D1X20211011E05190cq41WA0W11Y40",
     "YM1eWL0411071102110eC1F011T0312011E04180hO1XhE0YE150D1309170A1bc70XN110X91102120112021204",
     "110C11011107110X3110412081107110S1104110511011307110fU120P110P110W0110P110W0110P110W0110P",
     "110W0110P11081WxF0W016061dD0X01ZM0WE1A071G011fB0U1I0WD1kJ0S1cB0U12011bL0W0110311021107120",
     "519021c70711041102110F110bB1WS0X617011WcQ04110R110211011201110A11041101110116011401110111",
     "01110311021101120111011101110111011102110112041107110411041101110A110H15031105110H1ZnI0Wi",
     "j21W10ZmB120bV8120ct21F0p21XmH0mF1WmI0aZA150duR1zfsH0"],
  .flag "XIDC XIDCONTINUE"
    ["WH0A170Q1401110Q1WG011A0111011201150N110W0110jO140C1E05170111011H0YO110213031101160511011",
     "10K110XL110ZF1105120aB110W71201160WA180WE1101110211021101180R14041T0B150XC140Y91108120A11",
     "0J12011G0WS120Y81E0WN14011201120WF1I0S140B150O1107170XD110Z5120A110J11081202120M110711011",
     "304120912021204180114021105120C1A011101120311061402120M1107110211021102120111051402120313",
     "0117041101170G1B0311091103110M110711021105120A1103110312011F04120A1907110311081202120M110",
     "711021105120912021203170314021105120A11011G0211061303110413021101110213021303130C14051303",
     "1104120116011E0A1G0D1103110N110G1209110311041702110311021204120A1G0411081103110N110A11051",
     "20911031104170215031104120A11031C0D1103110WK1103110515041705120A1A061103110I130O110911011",
     "2071301140611011108160A12021D0WR150F110A1W80211011105110O1101110N120511011107110A12041W10",
     "11N02160A1B0111011101140A110W5140K110I110W519011WQ0XC160XG120W711011501120WC110fN11041207",
     "11011104120WA1104120W21104120711011104120F110WQ1104120X5120319091E0G1G0XO1206130p0120H110",
     "Q150XD130B170M190M1B0K1C0D110311021C0XM13011402120A1W203110B160XR170WC150X81A0W0110C140C1",
     "A0W912051B0WD140Q160B1W60S140X1110T120B160A1D01180E110W0120C1K0XF130A1H091C0YN1C0WP180A13",
     "0WI120B150WC12031G03110W8150m71206120W712061208110111011101110W0120WM11071101130311071304",
     "1206140D150311071F021WI021J011S011D011F0E1WK0D1401130C1H011401120A11011206160111011101110",
     "G1204150514011H0WA1XtD0cC16091C0W711011501120WP17011F0O1907110711071107110711071107110711",
     "0W11lL031P0F11051205140XO12021203110Y2150WC110Y11H0W11WH0G1lG0bvK1X20sWN1X50WF120dL130S1K",
     "0WH140A110YM1W609120YA120XK1K0WO14011J0WL1C0X81A0A160O1301110WI120W51C0T130X31E0B160W0110",
     "WO190E120A160N130XB1O03120G12051A061206120619071107110WC110E160YU1102120A160goC1C0N140WI1",
     "dtK0gP120YD1W7071C05150C110D1105110111021102110YF1W20ZF160c11I0X2120WN1W90A160G1G0G13021O",
     "031W20111011301110111011101110Z21J0A170Q1401110Q1A0XS13061206120612031W40C110Q110J1102110",
     "F120E1W30YU1X70WM1ZC011Z60T130WI1F011W00W11D0U150WC150U120W5140811051WB0a3120A160W5140W51",
     "40W9180WL1C0B110F11071102110B110F11071102130WL1C0f1190M1A081O06110WB11091X7061201110WD110",
     "21301120N1A0N190W01X30J11021A0M1A0Q160Q1W70WP16021X204110215081103110T120314011W10T130T1W",
     "408110U1P0WN1A0M1A0J1D0I1YH0XB1WO0WK1D0WK1D0W9180A160W71305110N1d20WB110213021G061WJ0W41A",
     "01180W21W00M1WB0L1R0N190X91W00G190WT17011D0P170A160WM110A1404180W51201190X71404110D11011W",
     "40I110W616041X00711011104110F110A170WS150A160411081202120M110711021105110A120212031201160",
     "11507120713051B0A11011201110W7110A11011201110411081D021T0XD150A14041U0X81101180A1aB0WN120",
     "91N061W30X313011B0A1W70WQ170A160K1S0R120F140A16071aU0WS1Y80XC1L08120112081102110U11021209",
     "1C0A1X808120WF120811021R0X11801180XC13011I0XB1YA081XQ0W21F0A1609110WE11091F0A1O0U120M110E",
     "1XB071102110WD130111021109180A16061102110W611021106170A160WD140A1cT0N190H110WA13051D0B1XN",
     "011XH0yN1Y90YI1H0bA1Xs10Y41F0WYI1G0M1A0ZZR150nP1cYL0WR1WtT0nB170W0110A160XH110A160U12051B",
     "0WO19041C0A190L150J1iT0WE130A1bC0X21W10P120P1WD0XD140WQ170H1X20211021B07190cq41WA0W11Y40Y",
     "M1eWL0411071102110eC1F011T0312011E04180hO1XhE0YE150D1309170A13021ZfN0A1lM0WF120N1mF051306",
     "180812071U041ZO031j90XN110X91102120112021204110C11011107110X3110412081107110S110411051101",
     "1307110fU120P110P110W0110P110W0110P110W0110P110W0110P1108120WJ1lG0WO140WJ18011E011M05110F",
     "1WZJ0W016061bR07110H120711021105150X01W2011YJ0WE130E120A14011fB0W01H0WR1k50WB1bS0WC1bB0W0",
     "110M18021c70711041102110F110bB1B071WA0XE140A1WcC04110R110211011201110A1104110111011601140",
     "111011101110311021101120111011101110111011102110112041107110411041101110A110H15031105110H",
     "1Yl10A1WX70Wij21W10ZmB120bV8120ct21F0p21XmH0mF1WmI0aZA150duR1ssiJ0cN1bnX60"],
  .flag "PATSYN PATTERNSYNTAX"
    ["W20F1A071Q0411011Q041W30711011102110111021401140113011N011W0011ddO0O180F120J110A1eQ0s71a5",
     "0pA1U0WaG1lG0Z41hD03140P1F011WsoA021dD021WZbn80"],
  .flag "PATWS PATTERNWHITESPACE"
    ["9051I011Y7011dhC021O021WbYsF0"]]

end SourceAudit.Text
