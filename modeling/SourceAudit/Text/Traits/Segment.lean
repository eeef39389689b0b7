import SourceAudit.Text.Trait

/-!
# SourceAudit.Text.Traits.Segment

How a character takes part in the division of text into clusters, words, sentences and lines.
-/

namespace SourceAudit.Text

/-- Division into clusters. -/
def clusterTraits : List Trait := [
  .ofTexts "GCB GRAPHEMECLUSTERBREAK"
    ["OTHER XX;CONTROL CN;CR;LF;EXTEND EX;L;LV;LVT;PREPEND PP;REGIONALINDICATOR RI;SPACINGMARK ",
     "SM;T;V;ZWJ;EB EBASE;EBG EBASEGAZ;EM EMODIFIER;GAZ GLUEAFTERZWJ"]
    ["A1132112I1Y20W21D011o50YJ4dR074dF0WE41014102410241014WP068A0B41011WF0L4G014Y8074181064202",
     "41044W20181014U0R4XT0B4WR0949014O044109410341054WC034WL0285094WB0O418W141AWN0141A14103A84",
     "4A142A1074A024T0142AWP01410142A44202A202A149014A024Q01420241AWP014103A24402420343014U0243",
     "014B0241AWP014103A5410241A102A14K024M06410142AWP01410241A44202A202A147034A024U014WS0141A1",
     "42A303A103A149014W90143A14WO01410344A103410447024B024T0142AWP014101A241A142A103410447024B",
     "024F01AC0242AWO02410142A44103A103A14188014A024T0142AX801440142A341014107A14I02AWU014101A7",
     "4C084Y5014101A94B074XB024R01410141014402AWI0E41A54102450B410W549014Y90441A6410242A24N02A2",
     "44034G044D014101A246014F014Y50Y35XACXQBg8034zG044S034T024U024X20241A748A142AB49014WE03411",
     "14YO024W3014YP0344A243A402A146A34c20242A14WQ01A141A741014101420846AA42014WH0WF420C4K0441A",
     "WG0A44A34W7094C0241AU01A442A64WP0141A243A141A54WH08A842A24ZS03410D41A7440146014201A24bC0X",
     "24lR011141D21O071WI0G1Y30W24Yb1034ZH014Y30W14mR064YC024WVh104410A4W1024XI024dO01430144014",
     "N02A241A4014XL02AWJ0GA24Q0I4D014W7084P0B41A14C0T530341AWG0142A442A242A14W5014X50642A242A2",
     "4C01480141AWF014WK0141034202450241014WA01A242A501A14cJ02A142A142A101A14I016R716R716R716R7",
     "16R716R716R716R716R716R716R716R716R716R716R716R716R716R716R716R716R716R716R716R716R716R71",
     "6R716R716R716R716R716R716R716R716R716R716R716R716R716R716R716R716R716R716R716R716R716R716",
     "R716R716R716R716R716R716R716R716R716R716R716R716R716R716R716R716R716R716R716R716R716R716R",
     "716R716R716R716R716R716R716R716R716R716R716R716R716R716R716R716R716R716R716R716R716R716R7",
     "16R716R716R716R716R716R716R716R716R716R716R716R716R716R716R716R716R716R716R716R716R716R71",
     "6R716R716R716R716R716R716R716R716R716R716R716R716R716R716R716R716R716R716R716R716R716R716",
     "R716R716R716R716R716R716R716R716R716R716R716R716R716R716R716R716R716R716R716R716R716R716R",
     "716R716R716R716R716R716R716R716R716R716R716R716R716R716R716R716R716R716R716R716R716R716R7",
     "16R716R716R716R716R716R716R716R716R716R716R716R716R716R716R716R716R716R716R716R716R716R71",
     "6R716R716R716R716R716R716R716R716R716R716R716R716R716R716R716R716R716R716R716R716R716R716",
     "R716R716R716R716R716R716R716R716R716R716R716R716R716R716R716R716R716R716R716R716R716R716R",
     "716R716R716R716R716R716R716R716R716R716R716R716R716R716R716R716R716R716R716R716R716R716R7",
     "16R716R716R716R716R716R716R716R716R716R716R716R716R716R716R716R716R716R716R716R716R716R71",
     "6R716R716R716R716R716R716R716R716R716R716R716R716R716R716R716R716R716R716R716R716R716R716",
     "R716R716R716R716R716R716R716R716R716R716R716R716R716R716R716R716R716R716R716R716R716R716R",
     "716R716R716R716R716R716R716R716R716R716R716R716R716R716R716R716R716R716R716R716R716R716R7",
     "16R716R716R716R716R716R716R716R716R716R716R716R716R716R716R716R716R716R716R716R716R716R71",
     "6R716R716R716R716R716R716R716R716R716R716R716R716R716R716R716R716R7C0NC40WIB40XZ21cbT014s",
     "O0G4G0G4bL011a3024XI0C1lH014c9014ZP054WrR03410245044W90344014aA024nF044X3054f7024XF064X80",
     "B4WI044YT01A141AWM0F4WA0142024A0341AWE03A442A2420184014A018WJ034W50541A84G02AWD014C0241AW",
     "H03A941A1410285044101A14XU03A342A4460142014a20143A84L0242AWO02410141A144A202A202A149014A0",
     "2A20743054X50142A641014201410341A102A341814E024XK03A842A341A14N014XJ0142A641A142A141A241A",
     "24cI0142A44204A241A24R024XK03A842A141A24YD0141A142A84Y80141A1420441A54d803A941A24cS0145A1",
     "02A2044181A181A14ZH03A4420244A14301AS0A4W90641A1044801490642A34W9068D41A24bC0141A341A141A",
     "bD01A7410641A14XK0M4101A741A241A24YT0643014102410741814X405A1024102A141A14g60242A9024181A",
     "WH02A54302A34N014am10G11460F4gxP0C43A34XnG054WS074mT01C304CkJ01410WOA7044XJ014B024pi40241",
     "041ZwJ0WF420N4mF054306481842074U044ZO034XWQ0WO440WJ48014E014M05410F4WhR07410H420741024105",
     "4Y7014a5074h3014WU044lC044d6024cQ014201470245014k9074YG074Xe20Q9lB054vklR0W11Y34Z41cN4Ys4",
     "1bjf20"],
  .ofTexts "INCB INDICCONJUNCTBREAK"
    ["NONE;CONSONANT;EXTEND;LINKER"]
    ["tO0YJ2dR072dF0WE21012102210221012XA0B2WH0L2G012Y8072206220221042W4012U0R2XT0B2WR0929012O0",
     "42109210321052WC032WS092WB0O210W12I0W61121012408240133072812022K0811012J0K110711011304120",
     "121012204280139012402110112022C021C0122022WQ0124022402220323012U0223012B022I0K11071102110",
     "512012405210224013K022L011621012J0K110711021105120121022104280137032402110112022D011G012W",
     "S0121012C0129012W90123012G0K110G1201210325032103213702210317022T012WR01220221012303210427",
     "022B022S022J0W71221012204280139012A022T012XA0124012203210128012XJ0122072C082Y50122092B072",
     "XB022R01210121012WO0E21052102250B210W529012WQ0WC120421062101312202211G0612022413211302170",
     "3142D1122022601211E012rL032zG042S032T022U022C0WL12210728012209213129012WE0321012YO022W301",
     "2YP032402290126032c2022201240WM11012107210131012208260A22012WH0WF220C2K042702160W21A24022",
     "1381U092C02210U110422032132221B031W9012102230121052WP0822022ZS03210D21072401260123022bC0X",
     "22lT012b80W22Yb1032ZH012Y30W12mR062YC022WVh104210A2W1022XI022dO01230124012P0225012ZR022Q0",
     "I2D012W7082P0B21012WD032603130W5112204220222013W0051121091A051WB06220222022C0128012J0G110",
     "31601110121021WH0121032202250221012U0B110228013bF0R1A01220124012qXT012sO0G2G0G2gP022oG012",
     "c9012ZP052WrQ011321022504241103110T120324013aA022nF042X3052f7022XF062X80B2WI042YU012WN0F2",
     "WA0122022A032WI04220227012WU032W515210621312F0112011WC012C022WL092101280422012Y2032204260",
     "122012a20123082L022WQ02210121012C0129012E0723052B0A11011201110W71201220621012201210324022",
     "131012E022XN08220321012N012XJ01220621012201210221022cI012204260221022R022XN08220121022YD0",
     "1210122082Y8012101220421052dB0921022bB07120112081102110O112A032134012ZK04220224012W0011A2",
     "W9162204280138011622032W9160D2101213bC01210321012bF07210621012XK0M2207210221022YT06230121",
     "02210721012XA02230121012g6022B02220D110W312052502213N012amH01260F2gxP0C23032XnG052WS072WX",
     "P012X1042XJ012B022pi4022ZwO0WF220N2mF052306280822072U042ZO032XWQ0WO240WJ28012E012M05210F2",
     "WhR07210H2207210221052Y7012a5072h3012WU042lC042d6022cQ012201270225012k9072YG072Xv8052vkmS",
     "0Y32Z40cN2bnX60"],
  .ofTexts "HST HANGULSYLLABLETYPE"
    ["NA NOTAPPLICABLE;L LEADINGJAMO;LV LVSYLLABLE;LVT LVTSYLLABLE;T TRAILINGJAMO;V VOWELJAMO"]
    ["ZlC0Y31XA5XQ4Wef20T1pN012R312R312R312R312R312R312R312R312R312R312R312R312R312R312R312R312",
     "R312R312R312R312R312R312R312R312R312R312R312R312R312R312R312R312R312R312R312R312R312R312R",
     "312R312R312R312R312R312R312R312R312R312R312R312R312R312R312R312R312R312R312R312R312R312R3",
     "12R312R312R312R312R312R312R312R312R312R312R312R312R312R312R312R312R312R312R312R312R312R31",
     "2R312R312R312R312R312R312R312R312R312R312R312R312R312R312R312R312R312R312R312R312R312R312",
     "R312R312R312R312R312R312R312R312R312R312R312R312R312R312R312R312R312R312R312R312R312R312R",
     "312R312R312R312R312R312R312R312R312R312R312R312R312R312R312R312R312R312R312R312R312R312R3",
     "12R312R312R312R312R312R312R312R312R312R312R312R312R312R312R312R312R312R312R312R312R312R31",
     "2R312R312R312R312R312R312R312R312R312R312R312R312R312R312R312R312R312R312R312R312R312R312",
     "R312R312R312R312R312R312R312R312R312R312R312R312R312R312R312R312R312R312R312R312R312R312R",
     "312R312R312R312R312R312R312R312R312R312R312R312R312R312R312R312R312R312R312R312R312R312R3",
     "12R312R312R312R312R312R312R312R312R312R312R312R312R312R312R312R312R312R312R312R312R312R31",
     "2R312R312R312R312R312R312R312R312R312R312R312R312R312R312R312R312R312R312R312R312R312R312",
     "R312R312R312R312R312R312R312R312R312R312R312R312R312R312R312R312R312R312R312R312R312R312R",
     "312R312R312R312R312R312R312R312R312R312R312R312R312R312R312R312R312R312R312R312R312R312R3",
     "12R312R312R312R312R312R312R312R312R312R312R312R312R312R312R312R312R312R312R312R312R312R31",
     "2R312R312R312R312R312R312R312R312R312R312R312R312R312R312R312R312R312R312R312R312R312R312",
     "R312R312R312R312R312R312R312R312R312R312R312R312R312R312R312R312R312R312R312R312R312R312R",
     "312R312R312R312R3C0N540WI4WZltF0"]]

/-- Division into words and sentences. -/
def wordTraits : List Trait := [
  .ofTexts "WB WORDBREAK"
    ["XX OTHER;CR;DQ DOUBLEQUOTE;EB EBASE;EBG EBASEGAZ;EM EMODIFIER;EX EXTENDNUMLET;EXTEND;FO F",
     "ORMAT;GAZ GLUEAFTERZWJ;HL HEBREWLETTER;KA KATAKANA;LE ALETTER;LF;MB MIDNUMLET;ML MIDLETTE",
     "R;MN MIDNUM;NL NEWLINE;NU NUMERIC;RI REGIONALINDICATOR;SQ SINGLEQUOTE;WSEGSPACE;ZWJ"]
    ["A01D2H11I01L1012401K401G101E10AI1F1G50QC401610QCA01HW501C2018701C101F201C50NC10W0C10kFC60",
     "W3CYJ75C102C204C1G1C601C1F3C101C10KC10XLC10ZFC1077aBC10W7C204C101C1FWAC1G1C60WE7101710271",
     "027101780RA404A1C1FB068602G20B7101830WCCL7AI101I1G102C17Y6C101C771810672C2710472CAI3C201C",
     "F0181C17UCR720XRCB71CE0AIW2C972C201G101C201720MC471C971C371C57I0PC3740BC50OC107C285097WBC",
     "O718W27WNC371CI71C77AC2720AI10GC37108C202C20MC107C101C304C20171C77202720371C8017402C103C2",
     "720AI2CA01C10172037106C402C20MC107C102C102C102C20171057402720373017704C101C70AI273C17B037",
     "109C103C10MC107C102C105C20171C8710371037201CF02C2720AI901C671037108C202C20MC107C102C105C2",
     "0171C77202720377037402C103C2720AI101CG0171C106C303C104C302C101C102C302C303C30CC4057303710",
     "47201C6017E0AIG0578C103C10NC10GC20171C77103710477027103C102C202C2720AIG01C37108C103C10NC1",
     "0AC105C20171C77103710477027503C102C2720AI102C17C0479C103C10WAC271C77103710471C503C17703C2",
     "720AIA06C103710IC30OC109C101C207C301740671017108760AI2027WU0172077C08710AIXP0172097B07710",
     "AIW701CN02760AIB0171017101740278C10W5C40K710275CB710W579017Y70K710AIC0474037103720773047D",
     "0C71017AI4720W7C101C501C20WCC10fNC104C207C101C104C20WAC104C20W2C104C207C101C104C20FC10WQC",
     "104C20X5C2037W10GCG0XOC206C30p0C20HC1LQC50XDC30BC70IC4790JC37B0IC27C0DC103C1027X20W179017",
     "20AIW20371817AI60XRC705C27W3C171C50X8CA0W0C10C740C7A0AIZ40AIW70NC57WQ0A710T72017AI60AIM0W",
     "F720C7K057WGCH78C30AIH097C037UCD72CAIWDCE7C0W5CK780AI303CAIW5C20BC50WCC203CG03710L74C176C",
     "172C371C50b6CX27dUC206C20W7C206C208C101C101C101C10W0C20WMC107C101C303C107C304C206C40DC503",
     "C107C307L103L10171M28802EA01E201F2H5816F026301GF016A01L5810A8101CD01CF0ECWK0W27H01C401C20",
     "AC101C305C601C101C101C104C10BC204C505C401CH0WACv70WLCWwG0cCC604C372CC0W7C101C501C20WPC701",
     "CF017NC907C107C107C107C107C107C107C107C10W17WG01CjU01L401CW5067105B502CXU0272B30XTB104B50",
     "WCC10Y1CH0W1CWH0GBbM0WGB10XQBxy90WbICX50WFC20dLC30GCAI2CK0WGC4710A710W0C27XIC27M0bRCK0HC1",
     "73C174C17NC574017J0WLCC027WJCI7A0AI60I76C301C102C17AISC8720NCD7C0TC3047WGCE7E01CAIB017A0A",
     "I60WACE7903C178C2720AIW2037WJ0171037202750271017U0BC57203C27A06C206C206C907C107C10WRC60YM",
     "C87102720AI60goCCC0NC40WICef507CC05C501A17AA10DA105A101A102A102A10AAY5CW20gMCI0X2C20WNCW9",
     "0CC40G71G201F1GB0G73026O0361G101E101G1FQ05C10ZBC2018701E401G101E10AI1F1G50QC401610QCB0WPB",
     "27W0C306C206C206C203CS03840CC10QC10JC102C10FC20ECW30YUCX70WMCZC017Z60TC30WICF017W00W1CD0U",
     "C50W7C5750UC20W5C408C105CWB0a3C20AI60W5C40W5C40W9C80WLCC0BC10FC107C102C10BC10FC107C102C30",
     "WLCC0f1C90MCA08CO06C10WBC109CX706C201C10WDC102C301C20NCA0NC90W0CX30JC102CA0MCA0QC60QCW70W",
     "PC602CX201C37102750474C103C10TC20374017W10TC30TCW408C10SC27P0WNCA0MCA0JCD0ICYH0XBCWO0WKCD",
     "0WKCD0W5C4780AI60AISC305710NCd20WBC1027302CG06CWJ067TCA01C80MCB7W00IC47WB0LCR0NC9037WMCF7",
     "W00AI172C271C9047WECB720184017A01820PC70AI6037W5CE710AI401C271C80W4C17201C9037WHCE74C4047",
     "1027AI1C101CW40IC10PCC760172C17X007C101C104C10FC10AC70WGCC750AI6047108C202C20MC107C102C10",
     "5C10271C7720272037201C6017505C2720773057B0AC101C201C10W7C101C9710172017104710571C171CD027",
     "T0WMCI74C50AI40173CU0WHCK72C101C80AIaB0WGC772097N04C27W30WHCH7301CB0AIW70WCCD71C70AI60KIW",
     "Q0F740AIbC0WDCF7Y80X2CAIL08C201C208C102C10OC67102720471C171C27C0AIX808C20W8C7720771C101C1",
     "7R01CA7W9C771C478017801CB7WFCG7301CI0XBCYA087XQ0W2CF0AI609C10W6C8710871CF0AIO0UC20M710E7X",
     "B07C102C10W7C673017102710771C1780AI606C102C10W1C57102710571C70AI60WDC40AIcT0JC4790271C17D",
     "C10W3C773057D0AI17XN01CXH0yNCY90YICH0bACXs10Y4CF0WYICG8176CF7A0ZZRC50nPCcYL0UCI7AIWtT0nBC",
     "70W0C10AI60XHC10AI60UC2057B0WHC77904CC0AI90LC50JCiT0WEC30AIbC0X2CW10PC20PCWD0XDC40171CWO7",
     "7047DCX202C101C17B027mWE04B107B102B101Be803BWJ01BE04BXuF0YEC50DC309C70AC30271048ZfI0AIlM0",
     "WF720N7mF057306788872077U047ZO037j90XNC10X9C102C201C202C204C10CC101C107C10X3C104C208C107C",
     "10SC104C105C101C307C10fUC20PC10PC10W0C10PC10W0C10PC10W0C10PC10W0C10PC108C20WJIlG0WO740WJ7",
     "8017E017M05710F7WZJ0W0C606CbR07710H720771027105750X0CW2017YJ0WEC30777C20AI401CfB0UC17H0WD",
     "C47AIk50SC47AIbS0UC271CAIbB0W0C103C172C177C275C17802Cc707C104C102C10FC10bBCB077WA0X6C771C",
     "40AIWcC04C10RC102C101C201C10AC104C101C101C601C401C101C101C103C102C101C201C101C101C101C101",
     "C102C101C204C107C104C104C101C10AC10HC503C105C10HCp80QC60QC60QCXU0QJlB057XYH0AIvii1018U0Y3",
     "7Z40cN7bnX60"],
  .ofTexts "SB SENTENCEBREAK"
    ["XX OTHER;AT ATERM;CL CLOSE;CR;EX EXTEND;FO FORMAT;LE OLETTER;LF;LO LOWER;NU NUMERIC;SC SC",
     "ONTINUE;SE SEP;SP;ST STERM;UP UPPER"]
    ["901C172C13I01C1D124032202A1110A91A401D10QE12101230Q8121012701BQ01C9018121015701840181240N",
     "E107EO810881E181E181E181E181E181E181E181E181E181E181E181E181E181E181E181E181E181E181E181E",
     "181E181E181E181E181E181E181E181E281E181E181E181E181E181E181E181E281E181E181E181E181E181E1",
     "81E181E181E181E181E181E181E181E181E181E181E181E181E181E181E181E181E182E181E181E382E181E18",
     "2E183E284E182E183E382E182E181E181E182E181E281E182E183E181E182E28161E38462E182E182E181E181",
     "E181E181E181E181E181E181E281E181E181E181E181E181E181E181E181E282E181E183E181E181E181E181E",
     "181E181E181E181E181E181E181E181E181E181E181E181E181E181E181E181E181E181E181E181E181E181E1",
     "81E181E181E782E182E281E184E181E181E181E181EX7816W58762840C6E05870161016H0YJ41E181E1816101",
     "E182048101E601E103E101E102E18HE109EW481E283E381E181E181E181E181E181E181E181E181E181E181E1",
     "81E581E18101E182E28WKEWH81E181E181E181E181E181E181E181E181E181E181E181E181E181E181E181E18",
     "1E1810741E181E181E181E181E181E181E181E181E181E181E181E181E181E181E181E181E181E181E181E181",
     "E181E181E181E181E181E181E182E181E181E181E181E181E181E281E181E181E181E181E181E181E181E181E",
     "181E181E181E181E181E181E181E181E181E181E181E181E181E181E181E181E181E181E181E181E181E181E1",
     "81E181E181E181E181E181E181E181E181E181E181E181E181E181E181E181E181E1810W7E2016301A20WA81D",
     "70WE4101410241024101480R64056C065602A20B410153DWC6L4A91029102614Y661D16741510642624104426",
     "A93620163DC0151614U6R420XR6B416E0A9W269426201A1D16201420M644169416341654901D101D302D10P63",
     "440B650O61076255094WB6O415W24WN63416I41674A6242DA910G6341086202620M6107610163046201416742",
     "0242034168014402610362420A926A016101420341066402620M6107610261026102620141054402420343014",
     "7046101670A9243614B0341096103610M610761026105620141684103410342016F0262420A99016641034108",
     "6202620M610761026105620141674202420347034402610362420A91016G01416106630361046302610161026",
     "3026303630C640543034104420166014E0A9G05486103610N610G620141674103410447024103610262026242",
     "0A9G016341086103610N610A6105620141674103410447024503610262420A9102614C04496103610WA624167",
     "4103410441650361470362420A9A066103410I630O6109610162076301440641014108460A92024D0WH614267",
     "450768410A9W80261016105610O6101610A61426941620561016107410A92046W1016N02460A9B01410141014",
     "42248610W5640K4102456B410W549014WQ0WC6K416A92D4066444634163426743644D6C41614A94420W7E101E",
     "501E20WC61018fM6104620761016104620WA6104620W26104620761016104620F610WQ6104620X562034201D4",
     "02DN0G6G0XOE206830p06101DH61CQ62230XD630B670I64490J6342D90I624C0D610361024C0WL6W143016401",
     "61420A9O01A1D401A1D10341514A960XR6705624W36141650X86A0W0610C440C4802DA9U62056B0WD640Q660A",
     "9W70N65440WM6A410T42014A960A9D0164D40WF420C4K054WG6H486102DA92D202DB094903D34U6D426A9WD6E",
     "4C0W56K4302D30A93036A9W562D981E1850WC62036G03410L44614661426341650b68X241E181E181E181E181",
     "E181E181E181E181E181E181E181E181E181E181E181E181E181E181E181E181E181E181E181E181E181E181E",
     "181E181E181E181E181E181E181E181E181E181E181E181E181E181E181E181E181E181E181E181E181E181E1",
     "81E181E181E181E181E181E181E181E181E181E181E181E181E181E181E181E181E181E181E181E181E181E18",
     "1E181E181E181E981E181E181E181E181E181E181E181E181E181E181E181E181E181E181E181E181E181E181",
     "E181E181E181E181E181E181E181E181E181E181E181E181E181E181E181E181E181E181E181E181E181E181E",
     "181E181E181E181E181E181E181E181E988E68206E20888E888E68206E2088101E101E101E101E888EE820888",
     "E888E888E5810285E1018303810285E304820284E40885E503810285E30BC152425302A30824011302B551C90",
     "22102D70223DL01C5510A51018B02218D022E8WK0W24H01E401E20183E283E18101E305E601E101E101E104E1",
     "0184E18461820282E501E484018H0GEG8361E1846hB042T022hN0QEQ8p506270E2XH022W00A2i00M2X1042W10",
     "22lI0WHEWH81E183E281E181E181E184E181E281E883E181E181E181E181E181E181E181E181E181E181E181E",
     "181E181E181E181E181E181E181E181E181E181E181E181E181E181E181E181E181E181E181E181E181E181E1",
     "81E181E181E181E181E181E181E181E181E181E181E181E181E181E181E181E28601E181E18341E18C0W78101",
     "8501820WP67016F014N69076107610761076107610761076107610W14E2E02220A2401D16C01D5012G02D82iG",
     "01C1A1D2036A2208210321096641056205640XO62024203610XS6104650WC610Y16H0W16WH0G6lG0bvK6X20sW",
     "N6X50WF6101DdL6102DG6A926K01E181E181E181E181E181E181E181E181E181E181E181E181E181E181E181E",
     "181E181E181E181E181E181E181E18164410A410161E181E181E181E181E181E181E181E181E181E181E181E1",
     "81E181E3824XI624101D301DW0096201E181E181E181E181E181E181E381E181E181E181E181E181E181E181E",
     "181E181E181E181E181E181E181E181E181E181E181E181E181E181E181E181E181E181E181E181E181E181E1",
     "81EA81E181E182E181E181E181E181E1816201E181E18161E181E381E181E181E181E181E181E181E181E181E",
     "181E185E185E181E181E181E181E181E181E181E184E181E182E181E181E181E181E181E181E181E181EK0481",
     "E181638761436144614N6544014J0WL6202D8024WJ6I4802DA960I4663016102614A9S684101DN6D4C0T63044",
     "WG6E4702D5016A9605614A6A95610WA6E4903614862420A9303DN6301634WJ614163426245624161416O03620",
     "B6542D3624A066206620669076107610WC810E860XI8W46841D2420A960goC6C0N640WI6dtK0gP620YD6W7078",
     "C058501614A610D6105610161026102610YF6W20gM622G0X2620WN6W90C640G42A101A302270G4102A20G2202",
     "2702A11201A2D1A62401AC05610ZB62015101D6022202A1110A91A401D10QE12101230Q812101210221D221A1",
     "0WP624W063066206620662036S03540C610Q610J6102610F620E6W30YU6X70WM6ZC014Z60T630WI6F014W00W1",
     "6D0U650W765450U620W5640861056WB0W9EW98XG620A960W5E40W5840W9680WL6C0BE10FE107E102E10B810F8",
     "1078102830WL6C0f1690M6A086O018263810WB81098X7066201610WD61026301620N6A0N690W06X30J61026A0",
     "M6A0Q660Q6W70WP66026X2016341024504446103610T620344014M02D80T630T6W408610S624P0WN6A0M6A0J6",
     "D0I6YH0XB6WO0WKED0WK8D0W564480A960A966ME30541016M8d20WB610243026G066WJ064T6A01680M6B4405D",
     "M0I6444DW70L6R0N69034WM6F42DT0A9142624169044WE6B420154D14A01520P670A96034W56E410A9103D162",
     "41680W461420169034WH6E4462D20441D24A9161016102DW10I610P6C42D102D10142614X00761016104610F6",
     "10A61D60WG6C450A960441086202620M610761026105610241674202420342016601450562420743054B0A610",
     "16201610W7610169410142014104410541614162DB024T0WM6I4462D30A9401436U0WH6K426101680A9aB0WG6",
     "742094102D50FD4624W30WH6H42D1016B0A9W70WC6D41670A960K9S0R620F440A9203D1076aU0WD6F4Y80W1EW",
     "18A9L08620162086102610O66410242044161416241D101D90A9X808620W8674207416101614R016A4W967416",
     "44302D30148016B4WF6G4102D16I0XB6YA084XQ0W26F0A9609610W66841084162DD0A9O0U620M410E4XB07610",
     "2610W7664301410241074161480A96066102610W1654102410541670A960WD640A9cT0J6442D70241614D610W",
     "367430542DB0A914XN016XH0yN6Y90YI6H0bA6Xs10Y46F0WYI6G51466F4A0ZZR650nP6cYL0U6I4A9WtT0nB670",
     "W0610A9402DXH610A960U620541DA0WH6742D70461DB0A990L650J6iT0WE6102DA9bC0W1EW18O01D70PE20P8W",
     "D0XD6401416WO47044D6X2026101614B0245690cq46WA0W16Y40YM6eWL0461076102610eC6F016T0362016E04",
     "680hO6XhE0YE650D6309670A630241D45ZfI0A9lM0WF420N4mF054306485842074U044ZO034j90QEQ8QE7810I",
     "8QEQ81E102E201E202E204E108E481018107810B8QEQ82E104E208E107E10Q82E104E105E101E307E10Q8QEQ8",
     "QEQ8QEQ8QEQ8QEQ8QES820PE10P81068PE10P81068PE10P81068PE10P81068PE10P810681E1820WJ9lG0WO440",
     "WJ48014E014301DI05410F4WZJ0A816K86068bR07410H420741024105450X08W2014YJ0WE630747620A94016f",
     "B0U614H0WD644A9k50S644A9bS0U62416A9bB0W061036142614762456148026c70761046102610F610bB6B074",
     "WA0W3EW38741640A9WcC04610R610261016201610A61046101610166016401610161016103610261016201610",
     "16101610161016102610162046107610461046101610A610H65036105610H6p80QE60QE60QEWeK032Wj40A9WX",
     "70Wij26W10ZmB620bV8620ct26F0p26XmH0mF6WmI0aZA650duR6ssaC015U0Y34Z40cN4bnX60"]]

/-- Division into lines, and joined writing. -/
def lineTraits : List Trait := [
  .ofTexts "LB LINEBREAK"
    ["XX UNKNOWN;AI AMBIGUOUS;AL ALPHABETIC;B2 BREAKBOTH;BA BREAKAFTER;BB BREAKBEFORE;BK MANDAT",
     "ORYBREAK;CB CONTINGENTBREAK;CJ CONDITIONALJAPANESESTARTER;CL CLOSEPUNCTUATION;CM COMBININ",
     "GMARK;CP CLOSEPARENTHESIS;CR CARRIAGERETURN;EB EBASE;EM EMODIFIER;EX EXCLAMATION;GL GLUE;",
     "H2;H3;HL HEBREWLETTER;HY HYPHEN;ID IDEOGRAPHIC;IN INSEPARABLE INSEPERABLE;IS INFIXNUMERIC",
     ";JL;JT;JV;LF LINEFEED;NL NEXTLINE;NS NONSTARTER;NU NUMERIC;OP OPENPUNCTUATION;PO POSTFIXN",
     "UMERIC;PR PREFIXNUMERIC;QU QUOTATION;RI REGIONALINDICATOR;SA COMPLEXCONTEXT;SG SURROGATE;",
     "SP SPACE;SY BREAKSYMBOLS;WJ WORDJOINER;ZW ZWSPACE;ZWJ"]
    ["9A141R261CIA1W71F1W3121W21W1121W31W01B121W21N1K1N1W8AU2N321FR21W01W21BT21W01419126A1SQA1G",
     "1W01W13W2122112111W31214221W11W2211512511W3311W0N211W0211jT211153115112211724112111215W12",
     "XHA1GCA7GDA8220421N124072101210K210c727AaB210W7220WH21N1420221W210WEA141A122A122A1F1A80RJ",
     "404J22B0923W12N22BA1F1A3FWC2LAAU1W12U321AY621F127A226A222A124A22AUK210221AU2RA20XR2BA12E0",
     "AUW229A421N1F12201A2W2M24A129A123A125A20F210P23A201210B250W32509AWB2OA12W2AWN23A12IA127AA",
     "22A24AUH23A1082202220M2107210123042201A127A202A203A12801A402210322A20AU222W1521W1121W2221",
     "A203A1062402220M21072102210221022201A105A402A203A301A7042101270AU2A321A12A03A1092103210M2",
     "107210221052201A128A103A103A2012F0222A20AU121W270126A103A1082202220M2107210221052201A127A",
     "202A203A703A402210322A20AU82A01A121062303210423022101210223022303230C2405A303A104A2012601",
     "AE0AU921W212505A82103210N210G2201A127A103A104A702A1032102220222A20AU7015923A1582103210N21",
     "0A21052201A127A103A104A702A503210222A20AU10221AC04A92103210WA22A127A103A104A2240321AA22A2",
     "0AU921W162103A10I230O2109210122072301A406A101A108A60AU202A12C0WRW5401W2FW512AU24W602W5101",
     "W5105W510OW5101W510NW5205W5101W5107W510AU204W5W10124512251G25141G5F1G121F322A62AUA2141A12",
     "1A121A1W0191W0192A8210W5240EA145A142A52BA10W5A1024621A621022251415522GW60X2W5AU2442X2W5AU",
     "6W5W721012501220WH2Y3OXAQXQPXB2104220721012104220WA2104220W22104220721012104220F210WQ2104",
     "220X52203A1214R230Q260XO220622014pJ214Q21W01930XD234B270I24A90J23A2490I22AC0D21032102AC0X",
     "MW5241T1W51412141W22W520AU60A260222F2415122F123A1G1AAU60XR270522AW321A1250X82A0W0210CA40C",
     "A4012302FAUUW5205W5B0WDW540QW560AU1W5302W5WO25A2022X1W510TW5201AAU60AU60EW520WFA20CAK05AW",
     "G2HA821024AU241244A29A92343AU2DA22AUWD2EA80W92KA3054AU3032AUW5224B250WC220B2803A12LA421A6",
     "21A223A1250b62DA1GWFA1G3AdU2206220W722062208210121012101210W0220WM210F210E2206210J2203210",
     "72151210741G341WA1A1WB2A141G241321122W31W03W31W01W321223M14265A1G8W1122W3112T621N1W0193TC",
     "2141W14412341W94210AA222011821W019111241821W019E2307W21W1EW21W14W21W12W21W11W21W112EW2W2A",
     "F0321W11211321W19211221W2A2218211W92215211221112C142A1F2112240A1WP2111211WC21112213221221",
     "1321112112W2121142112241221112111261121152414221A21132115211D221224122212221I2212221D2113",
     "211B211P211WG21MO21W0191W0196211722LD21W019bB24LWN2M0B2L0a4112XE142W61B2G12241A2211271822",
     "1222142212221423122112241G2419211G24L122122114221422L211L123L1D2LP23L42111211T22112311211",
     "1L2112211211F21LU221T2CL411L123L112L312L211L213L121142211L615L112L1D1L218L322L4DXB211326W",
     "3122F1L321W0191W0191W0191W0191W0191W0191W019U1WI21W019W021W0191W0191W0191W0191W019i021W01",
     "91W0191W0191W0191W0191W0191W0191W0191W0191W0191W019X121W0191W019W121W019g2251Q220h523A225",
     "01F34121F14W721012501220WP2701214E01AN29072107210721072107210721072107210W1AEW38412141W01",
     "4222W3222W31W0191W0191W0191W019441F1224122452233412241W08412141224322F1W0191W0191W0191W01",
     "914W30QL10XRLC0bSLQ0CL4214292L1T2L1W0191W0191W0191W0191W0192L1W0191W0191W0191W0191T1W029A",
     "L6A5L1A5L2T3L10181L181L181L181L18PL18W0L181L181L186L186L28202A4T1L1T181L181L181L181L18PL1",
     "8W0L181L181L186L186L284L1T182T1L50WCL10Y1L10XML229012G8W0L10W9L81ceILX22qvQL1TWaRL30WOL90",
     "WF224dL2141F14G2AU22K0WG24A12AAW122AXI22A125480c42K0H21A321A421AN25A421A30821W11260WL2252",
     "F802AWJ2IA8024AU60IAA215221AAUS28A24N2DAB012TO304AWG2EA6234421012AU4022GW5AU5W510WA2EA903",
     "21A822A20AU201234Y6W5O05W5B25A24322AA062206220629072107210WT240YM28A142A20AU601HRI1HRI1HR",
     "I1HRI1HRI1HRI1HRI1HRI1HRI1HRI1HRI1HRI1HRI1HRI1HRI1HRI1HRI1HRI1HRI1HRI1HRI1HRI1HRI1HRI1HRI",
     "1HRI1HRI1HRI1HRI1HRI1HRI1HRI1HRI1HRI1HRI1HRI1HRI1HRI1HRI1HRI1HRI1HRI1HRI1HRI1HRI1HRI1HRI1",
     "HRI1HRI1HRI1HRI1HRI1HRI1HRI1HRI1HRI1HRI1HRI1HRI1HRI1HRI1HRI1HRI1HRI1HRI1HRI1HRI1HRI1HRI1H",
     "RI1HRI1HRI1HRI1HRI1HRI1HRI1HRI1HRI1HRI1HRI1HRI1HRI1HRI1HRI1HRI1HRI1HRI1HRI1HRI1HRI1HRI1HR",
     "I1HRI1HRI1HRI1HRI1HRI1HRI1HRI1HRI1HRI1HRI1HRI1HRI1HRI1HRI1HRI1HRI1HRI1HRI1HRI1HRI1HRI1HRI",
     "1HRI1HRI1HRI1HRI1HRI1HRI1HRI1HRI1HRI1HRI1HRI1HRI1HRI1HRI1HRI1HRI1HRI1HRI1HRI1HRI1HRI1HRI1",
     "HRI1HRI1HRI1HRI1HRI1HRI1HRI1HRI1HRI1HRI1HRI1HRI1HRI1HRI1HRI1HRI1HRI1HRI1HRI1HRI1HRI1HRI1H",
     "RI1HRI1HRI1HRI1HRI1HRI1HRI1HRI1HRI1HRI1HRI1HRI1HRI1HRI1HRI1HRI1HRI1HRI1HRI1HRI1HRI1HRI1HR",
     "I1HRI1HRI1HRI1HRI1HRI1HRI1HRI1HRI1HRI1HRI1HRI1HRI1HRI1HRI1HRI1HRI1HRI1HRI1HRI1HRI1HRI1HRI",
     "1HRI1HRI1HRI1HRI1HRI1HRI1HRI1HRI1HRI1HRI1HRI1HRI1HRI1HRI1HRI1HRI1HRI1HRI1HRI1HRI1HRI1HRI1",
     "HRI1HRI1HRI1HRI1HRI1HRI1HRI1HRI1HRI1HRI1HRI1HRI1HRI1HRI1HRI1HRI1HRI1HRI1HRI1HRI1HRI1HRI1H",
     "RI1HRI1HRI1HRI1HRI1HRI1HRI1HRI1HRI1HRI1HRI1HRI1HRI1HRI1HRI1HRI1HRI1HRI1HRI1HRI1HRI1HRI1HR",
     "I1HRI1HRI1HRI1HRI1HRI1HRI1HRI1HRI1HRI1HRI1HRI1HRI1HRI1HRI1HRI1HRI1HRI1HRI1HRI1HRI1HRI1HRI",
     "1HRI1HRI1HRI1HRI1HRI1HRI1HRI1HRI1HRI1HRI1HRI1HRI1HRI1HRI1HRI1HRI1HRI1HRI1HRI1HRI1HRI1HRI1",
     "HRI1HRI1HRI1HRI1HRI1HRI1HRI1HRI1HRI1HRI1HRI1HRI1HRI1HRI1HRI1HRI1HRI1HRI1HRI1HRI1HRI1HRI1H",
     "RI1HRI1HRI1HRI1HRI1HRI1HRI1HRI1HRI1HRI1HRI1HRI1HRI1HRI1HRI1HRI1HRI1HRI1HRI1HRI1HRI1HRI1HR",
     "I1HRI1HRI1HRI1HRI1HRI1HRI1HRI1HRI1HRI1HRI1HRI1HRI1HRI1HRI1HRI1HRI1HRI1HRI1HRI1HRI1HRI1HRI",
     "1HRI1HRI1HRI1HRI1HRI1HRI1HRI1HRI1HRI1HRI1HRI1HRI1HRI1HRI1HRI1HRI1HRI1HRIC0NQ40WIP40XZ2W6b",
     "pE0lGL72C052501J1AAJ12DJ105J101J102J102J10AJkT2191W0ZK2W10C21W132GA1N292N2F1W0191M60GA5L1",
     "W0191W0191W0191W0191W0191W0191W0191W0192L1W0197L191L19102T2F1L1W0191W0191W0198L101L1W21W1",
     "1L405210ZB2201W9101F2L1W21W12L1W0192L191L19BL2T3L1FRL1W01L19TL1W01L191L1W0291W0291T1LA8WE",
     "L2TW0L306L206L206L203L301W11W23L2W21072A03A171120C210Q210J2102210F220E2W30YU2503440WE230X",
     "Q210D23012WG0WE21AZ60T230WI2F01AR240W5290U250W725A50U21014W5240821452WB0a3220AU60W5240W52",
     "40W9280WL2B0C210F21072102210B210F21072102230WL2C0f1290M2A082O06210WB21092X7062201210WD210",
     "22301220N21014X928092WH0J2102250W223014Q250R2W70WP240K220WG23A102A504A42103210T2203A401A9",
     "270841270X22W10W622A4052641M90WN23074M220R250Q27042C072XI0XB2WO0WK2D0WK270WB24A80AU60AUS2",
     "305AO28022bM0W0210WB2102A142022G062801482W206AW9280M2BA92M0I24A42W70S2K0N2903AWM2FA245240",
     "K2AU1A222A12904AWE2BA32441AA01220P270AU603AW52EA10AU44122A1280W421A121512903AWH2EA4224121",
     "44A122AAU1215123410K2B0I210P2CA241224121A221AX00721012104210F210A21460WG2CA50AU604A108220",
     "2220M2107210221052102A127A202A203A2012601A50522A207A305AB0A21012201210W7210129A101A201A10",
     "4A105A121A12241024802AT0WM2IA424412AU2410121A32U0WH2KA4280AUaB0WG27A209A15242F32F4422AW30",
     "WH2HA2422B0AU60D5J0WC2DA2260AU60KUS0RW520FW540AU2W5348W5aU0WD2FA12Y70X22AU92C082201220821",
     "02210O26A102A204A121A122A3490AUX808220W827A207A1215121AR012AAW927A124A15124415121A8012BAW",
     "F2GA34123524D0XB270A5XO08AXQ0W2214E0AU609210W628A108A1254A0AUJ230151FU220MA10EAXB07210221",
     "0W726A301A102A107A121A80AU6062102210W125A102A105A1270AU60WD240AUcT0J24A22702A121AD210W327",
     "A305A24BLAU1AXN012F0T24W1H2D014yN2Y90YI21054B0bA2Xs10Y62D0oB23W039W5219321W0191W019cM21W0",
     "29aP27G1W0193G1W0191W0191A62FAA0ZZR250jS21W019YQ2cYL0U2IAAUWtT0nB270W0210AU4024XH210AU60U",
     "2205A14A0WH27A34A21412A0AU107210L250J2iT0WE234AUbC0XP2242250P220P2WD0XD2401A12WOA704AD2X2",
     "04T1GB02A5L90caULk52WA0W1LY40YMLeWL0421072102210eCLF018T0382018E04880hOLXhE0YE250D2309270",
     "A220122A144AZXQ0cN2AU3230j2260N2F0H2F0WFA20NA90YN2WT0cT2A0W8220WT25A32MA227AU24AWU2L0X423",
     "A12YT0K2C0K2C0XP290P2ZB0XN210X92102220122022204210C21012107210X3210422082107210S210421052",
     "1012307210fU220eD220WJUlG2WOA42WJA821AE21A224412F05A10FAWZJ0W026062bR07A10HA207A102A105A5",
     "0X02W201AYJ0WE2307A7220AU4022fA0U21AH0WD24AAU501W2jU0S24AAUbS0U22A12AU4014b60W0210321A221",
     "A722A521A8022c70721042102210F210bB220927AWA0X627A1240AU402W0uA0WS21W1321W142XE0WU2b804210",
     "R210221012201210A210421012101260124012101210121032102210122012101210121012101210221012204",
     "2107210421042101210A210H25032105210H2WL022dM0d8LD13LU122WR1323LWU1WQLQW4hHL1DML22NL225L12",
     "5L3D2L1D2L3DWFL5EX4L2D2LBDLLJD3L1D4L3D1L3D7L1D1L1DEL121L121L125L1D4L121L22XFL72GLE2DLO2WB",
     "L2D4L1DLL1D4L2DWUL82OL62XDL3D3L5DW723W33T42W4L1DGL3D9L1DBL1DWKLYN23L425LXN2WCLC24LWP28LA2",
     "6LW928LU24LA24L22EL92W8LC21D2L1D8L8D6L1D9LAD2L3DWPL1DWUL2D1L2D1L1DHL3D1LDDW3LXQ2YEL3DWBL9",
     "D7LZN210XU2AU1250WWUL20Xbb0L20Xbb0LqzyN01AU0Y3AZ40cNAbnX60"],
  .ofTexts "JT JOININGTYPE"
    ["U NONJOINING;C JOINCAUSING;D DUALJOINING;L LEFTJOINING;R RIGHTJOINING;T TRANSPARENT"]
    ["aI015o50YJ5dR075dF0WE51015102510251015XA0B5101530121044121412145244D211721422L5E022153410",
     "34G2I4W7214229412141214222410147520652025104524A0322012F0151415325442149214121412142214R5",
     "2014B234F22442141224322462W70B5P0W229560112015O045109510351055I01452241214A21412343540121",
     "0421014122450J431122052148095A234101422246214F210O510W15WO0151015408540153075A025T015WR01",
     "540458015K025Q0152025WQ0154025402520353015U0253015B025WQ015405510254015K025M0651015WR0152",
     "015104580157025B025U015WU015C015WJ0153015WO0151035503510457025B025T015WR015201560155025K0",
     "25S025WQ02540458015K025T015XA01570351015XS0152075C085Y50152095B075XB025R01510151015WO0E51",
     "055102550B510W559015Y9045106510252025P0254035G045D01520256015F015rL035zG035T025U025U025X2",
     "0251075801520B59015WA0122011351015G0XR2C025W321512YO035402590156035c20252015WR01510751015",
     "1015208560A52015WH0WF520C5K045WH015105510155015W9095C025W104520251035WP015102530151035WR0",
     "852025ZS03510D51075401560153025bC0X25lR015101125Q055WI0555065Y30W25Yb1035ZH015Y30W15mR045",
     "YE025WVh104510A5W1025XI025dO01530154015P0255015J0WJ213XJ025Q0I5D015W7085P0B5WF035WH015204",
     "52025W8015X506520252025C0158015WG015WK0151035202550251015WB0258015cL01520154015qXT015sO0G",
     "5G0G5bL015d1035lH015c9015ZP055WrR03510255045W90354015Z40521410141024201354421352143214201",
     "425404214ZK0121412343214221412241214N04422fR013W22141245X3055f7025XF065WH03214H210B53214R",
     "04224C245WB0121022341012242214221012241240141213WM015WN0F5WA0152025A035WI04520257015WU035",
     "W50551085X0015C025WL095A0452015Y20352015102560152015a20153085L025WQ0253015W60753055X8065D",
     "01510151015E025XN08520351015N015XM065101540251025cL04560251025R025XN08520151025YD01510152",
     "0651015Y803520451055dB0951025d802510154015ZK04520254015W10A5W90652045801590652035WF0D5102",
     "5bC01510351015bF07510651015XK0M5207510251025YT0653015102510751015XA02530151015g6025B025WL",
     "05550151015N015am10H560F5gxP0C53035XnG055WS075WXP015X1045XJ015piH0251045ZwJ0WF520N5mH0359",
     "0G52075U045ZO035XWQ0WO540WJ58015E015M05510F5WhR07510H5207510251055Y7015a5075h3015WU045lC0",
     "45d6025cQ015201570255015k9075WA0X6285vnh9015U0Y35Z40cN5bnX60"],
  .ofTexts "JG JOININGGROUP"
    ["NOJOININGGROUP;AFRICANFEH;AFRICANNOON;AFRICANQAF;AIN;ALAPH;ALEF;BEH;BETH;BURUSHASKIYEHBAR",
     "REE;DAL;DALATHRISH;E;FARSIYEH;FE;FEH;FINALSEMKATH;GAF;GAMAL;HAH;HANIFIROHINGYAKINNAYA;HAN",
     "IFIROHINGYAPA;HE;HEH;HEHGOAL;HETH;KAF;KAPH;KHAPH;KNOTTEDHEH;LAM;LAMADH;MALAYALAMBHA;MALAY",
     "ALAMJA;MALAYALAMLLA;MALAYALAMLLLA;MALAYALAMNGA;MALAYALAMNNA;MALAYALAMNNNA;MALAYALAMNYA;MA",
     "LAYALAMRA;MALAYALAMSSA;MALAYALAMTTA;MANICHAEANALEPH;MANICHAEANAYIN;MANICHAEANBETH;MANICHA",
     "EANDALETH;MANICHAEANDHAMEDH;MANICHAEANFIVE;MANICHAEANGIMEL;MANICHAEANHETH;MANICHAEANHUNDR",
     "ED;MANICHAEANKAPH;MANICHAEANLAMEDH;MANICHAEANMEM;MANICHAEANNUN;MANICHAEANONE;MANICHAEANPE",
     ";MANICHAEANQOPH;MANICHAEANRESH;MANICHAEANSADHE;MANICHAEANSAMEKH;MANICHAEANTAW;MANICHAEANT",
     "EN;MANICHAEANTETH;MANICHAEANTHAMEDH;MANICHAEANTWENTY;MANICHAEANWAW;MANICHAEANYODH;MANICHA",
     "EANZAYIN;MEEM;MIM;NOON;NUN;NYA;PE;QAF;QAPH;REH;REVERSEDPE;ROHINGYAYEH;SAD;SADHE;SEEN;SEMK",
     "ATH;SHIN;STRAIGHTWAW;SWASHKAF;SYRIACWAW;TAH;TAW;TEHMARBUTA;TEHMARBUTAGOAL HAMZAONHEHGOAL;",
     "TETH;THINYEH;VERTICALTAIL;WAW;YEH;YEHBARREE;YEHWITHTAIL;YUDH;YUDHHE;ZAIN;ZHAIN"]
    ["WoI01Y410261Y3161Y416171XT273J2A2XG2XL2XJ2XR242H3D101F1XE1Q1U1X81XA1N1Y32Y4W40171XE103610",
     "162Y31Y4877J9A9XG3XL2XJ1XR146F2XE1H1XP1H3Q6H4U4XA1XC1T1J1XT2O1XU8Y31D1Y61D1Y32Y42Y5101XTO",
     "01A1XGA01XL1XJ14201TG01510182I2B1M1XQ1Y91P2Y01Y71Y81R1W01X91XB1XM1G1C1XD1XH1XK1XF1B1XN1XS",
     "181I1BT01YA1S1E772J2A1XG1XL342F3H2X83XA1U2XG1XL2J1XL1XG1J262D1Y42Y3291J2XL1Qc701W51W21W81",
     "WB1W61W71W11W91W31W41WA50J6301Y1201XA1J2XR1H1Y2H0271J1XR1F1XE1U1X82Y41XG1Y31XI101A1XJ1H1X",
     "O1XG141Q1XE371XG1Y4111312371J1H14132J1U1HXbr901WC2WE2WI1WF101X5102X7201WJ1X21X63WL1WM1WG1",
     "X31WN1WO1WU2WD2WQ1WT3WR1WS201X0601WP1WH1X11X41WKm301L601LF01K201L101K101K201KWZXoG0"]]

end SourceAudit.Text
