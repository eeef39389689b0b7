/-!
# SourceAudit.Text.Names.Wide

The names of characters from U+10000 on, and names that characters have besides these, in the form
that `SourceAudit.Text.CharName` explains.
-/

namespace SourceAudit.Text.Names

/-- The names of characters from U+10000 on, part 1. -/
def wideA : List String := [
  "cNXbb3YaCYRjCYaDCDceHGDceIKDceJDDceKBDYaEXMDceLgODYaFi7DceMhMDceNk7DceOZGDcePnIbR2ceQp9DceRx8D",
  "ceSWQDceThBDceUhDDcf0fMDcf1hODcf2X8Dcf3e5Dcf4eEDcf5gSDcf6cJDYaGX7Dcf7e6Dcf8dDDcf9c4DcfAdHDYaHW",
  "TDcfBbADcfCbQDcfDiNDcfEmMDcfFhIDcfGWgLDcfHWZLDcfIWgMbR2cfJX1DcfKiQDcfLjDDYaIf1DcfMgTDcfNXHDYaJ",
  "h1DcfOgFDcfPfNDcfQhADcfRXJDYaKcQDcfSiODYaLODcfTfODcfUZHDcg0fADcg1h0Dcg2g4bR2cg3b6Dcg4gPbR2cg5n",
  "PDcg6XXFDcg7cg8Dcg9Z9DcgAXWLDcgBcgCDcgDWgODcgEYaMDcgFcgGDcgHcgIDcgJcgKDcgLcgMDcgNcgODcgPWa0Dcg",
  "QEbQ3W1cgR3cgS3cgT3cgU3ch03ch13ch23ch33ch43ch53ch63ch73ch83ch9c5W4WcGchAhCDchBvCDchCXV1DchDchE",
  "DchFchGDchHchIDchJXx3DchKWk4DchLchMDchNchODchPchQDchRYaNDchSWbRDchTchUDci0WzIDci1ci2Dci3YaODci",
  "4ci5Dci6ci7MWWKci8ci9DciAciBMWcGciCWlRDciDWkF3ciEMWWKciFciGDciHciIMWcGciJciKDciLWk83ciMDciNYaP",
  "3ciO3ciPDciQd43ciR3ciS3ciTMWWKciUcj0CWcGcj13cj2Dcj3Wz73cj43cj5Dcj6cj7Dcj8cj93cjA3cjB3cjC3cjD3c",
  "jE3cjF3cjG3cjH3cjIDcjJWq23cjKDcjLr23cjM3cjN3cjO3cjP3cjQ3cjR3cjS3cjT3cjU3ck03ck1Dck2WjBDck3ck4D",
  "ck5YaQDck6XxMDck773ck8Dck9ckA3ckB3ckCNckDckEWcHDckFWcHNckGWcHYaRDckHWj83ckI3ckJMWWKckKckLCWcGc",
  "kM3ckN3ckO3ckP3ckQDckRckS3ckT3ckU3cl03cl13cl2Dcl3cl44cl54cl64cl74cl84cl94clA4clB4clC4clD4clE4c",
  "lF4clG4clH4clI4clJ4clK4clL4clM4clN4clO4clP4clQ4clR4clS4clT4clU4cm04cm1cD6cm2kTdPZ73MBo6LbP5ZTF",
  "2E2N2T2W22WB2WJ2WC2WO2YQ2c62h22iR2dE2jE2d72l62cMCFWMCEWMCNWMCTWMCW2WMCWBWMCWJWMCWCWMCWOWMCFX5C",
  "EX5CNX5CTX5CW2X5CWBX5CWJX5CWCX5CWOX5CYQX5Cc6X5Ch2X5CiRX5CdEX5CjEX5Cd7X5Cl6X5CcMX5c44YaSWiDWb6C",
  "sBvECy2vECmQvECWeHvEW0WzQWX6sBvEW0YaTWX6sBvELWX6y2vECmQvEW9fIcm3cm4Fd84WL4WvJ3W23dEDW2WM4X5DdE",
  "X5DW2y7DYQy7DdEy7NFWMy7NW2WMy7NFX5y7NW2X5y74vFDYQvFDdEvFNFWMvFNW2WMvFNFX5vFNYQX5vFNdEX5vFDYQXX",
  "GMcm5Fcm6CWX7FCXXHFCXXIECWX7EMcm7EYaUMXXIEYaUCXXJW23YQEgH3CXXHYQCcm8YQCWX7YQ3h2CXXJdEEgH3CXXHd",
  "ECWX7dEDFWMDNWMMXXIW2WMMXXJW2WMMWX7W2WMMcm9W2WMMcmAW2WMMWX7FX5DW2X5McmBW2XXGMcmCdEXXGLFWL5EgH3",
  "LEsC5LNkK5BXgK5BcmD5BWvJ5BcmE5LEWlS5LNWlS5LTWlS5LW2WlS5BcmF5LcmGWiD5BcmH5BcmI5BcmJ5BcmK5BcmL5B",
  "cmM5LcmNWiD5BY95LFd85BcmO5BcmP5AcmQ5c32WaMcmR5BcmS5BcmT5BYb05LcmUYb05Bcn05Bcn15Bcn25Bcn35Bcn45",
  "BlQ5Bcn55Acn6W1cD4fIW1iJeTcDWHcn7WlT5Yb1Dcn8i4Dcn9i43cnA3WzO3vC3WjB3cnB3cnC373WWD3Wx13WwP3cnD3",
  "cnE3XXA3XxB3Yb2DYb3Yb43cnF3cnG3cnH3cnI3cnJ3XXK3d43cnKDcnLj73oF3Wk43Yb53Yb63cnM3WVADYb4r23t23cn",
  "N3XXL3cnODWkRoG3Xy13cnP3cnQD2WzSDq8cnRNcDkSW0c3Z7cnS1C2G2YR2cnT2XO2Y62K2YS2YF2uH2Z52XR2a72WE2X",
  "B2X02WkN2WZ32B2YH2WhH2W72WA2XS2XXM2dC2b32XU2YOc34cnU1C2co02Y62WE2co12W72co22XXF2a72YR2XB2D2co3",
  "2XS2xC2co42WA2co52B2WZ32YO2X02co62YH2WlK2K2G2co72XR2co82co92ZC2XO2coA2WkK2coB2i32YU2coC2XXM2co",
  "D2cA2XVE2coE2coF2coG2coH2WcI2coIcDGfKcoJtPLCXKF3E3N3T3W23WB3WJ3WC3WOCZTYQ3c63h23iR3dE3jE3d73l6",
  "3cMDFWMDEWMDNWMDTWMDW2WMDWBWMDWJWMDWCWMDWOWMcD5aOpF1C3kN3hB3gO3G3jP3gP3c13cL3K3WQ3gQ3iL3b33iE3",
  "D3bA3d63hO3kO3p03cQ3B3coK3WsQ3Wu63pU3coL3g13YU3ZC3coMCpSF3W23YQ3dEbQA1k6DXq3lMDXq2lMKcoN1coO2c",
  "oP2coQ2coR2coS2coT2coU2cp02cp12cp22cp32cp42cp52cp62cp72cp82cp92cM2cpA2cpB2cpC2cpD2cpE2cpF2XcM2",
  "cpGCWOWMcD6aOYb71dC3r53cpH3Yb83G3cpI3cpJ3WjS3cpK3K3cpL3cpM3cpN3Yb93cpO3cpP3cpQ3Wa33s93B3cpR3cp",
  "S3cpT3cpU3p13D3b73pU3WN3cq03cq13WcC3WjQ3rH3j93cO3X93WlMW9cDaOYb71dC4Yb84WjS4Yb94Wa3c36cq21cq32",
  "hT2cq42ZS2hH2fB2g42mC2cq52wD2q42e22e12lK2hU2cq62bB2o12cq72dB2mM2YbA2cq82cq92cqA2jA2O2K2B2WyObP",
  "2kTWWSUaOXfJ5C3K3B3WQ3hO3Y03k83l53ZI3ZG3uG3XJ3fO3XM3i73k73a53WT3YA3c23X73dH3X83eE3cJ3X93aL3s43",
  "X13gT3X63XH3b63ZB3c33WNbH5cqB3cqC3cqD3cqE3cqF3cqG3cqH3cqICkTWWSCZTF3E3YQ3c63WMcNWCcqJ41YPK4G4C",
  "4nQ4D4b7Db0K4G4C4nQ4D4b73nU3WcJ3p83WVD3XU3s73WVA3WVB3WVE3Wh13WVF3WuO3YbB3pU3uF3tC3WZQ3p03WZN3i",
  "E3WgU3kO3gQ3iL3b33nF3WY93XXNW021YPK4G4C4nQ4D4b7Db0K4G4C4nQ4D4b73nU3WcJ3p83WVD3XU3s73WVA3WVB3WV",
  "E3Wh13WVF3WuO3YbB3pU3uF3tC3WZQ3p03WZN3iE3WgU3kO3gQ3iL3b33nF3WY93XXNKcqK1cqL2YVB2cqM2xB2cqN2fN2",
  "cqO2Xu52cqP2cqQ2cqR2cqS2cqT2cqU2cr02YXG2WX62cr12cr22cr32cr42cr52cr62YbC2bH2cr72ZU2YaP2kC2nQ2cr",
  "82bB2Wk92cr92v82W92crA2crB2WlR2crC2crD2YK2XXO2Wi02crE2WVK2YbD2crFKcrG1XA2YA2XJ2ZG2l52ZS2crH2X1",
  "2XH2crI2b82YbE2Y02c22XXP2Xg02crJ2crK2crL2cK2WN2X92C2G2K2D2B2YC2bR2b7bP3XKY92F2E2N2T2W22WB2WJ2W",
  "C2WOcD7crM41C3Z03dB3nQ3YbF3ZM3YbG3G3YbH3WN3YbI3K3WQ3YbJ3WyR3X63X83X73D3YbK3WT3YbL3XH3ZB3XJ3YbM",
  "3e43YbN3l23b83B3ZH3ZS3b43b63gRc4521C3Z03dB3nQ3YbF3ZM3YbG3G3YbH3WN3YbI3K3WQ3YbJ3WyR3X63X83X73D3",
  "YbK3WT3YbL3XH3ZB3XJ3YbM3e43YbN3l23b83B3ZH3ZS3b43b63gRc35crN1C2kN2s52g12gO2WkU2WcB2rR2G2nO2qL2W",
  "oL2c12K2nI2hB2l32crO2e52e62X72tO2D2bA2WgL2iQ2YWF2h12d62cQ2cL2B2jP2WVC2Y72gP2jQ2iK2crP2Wu6cD9cr",
  "QcrR1crS3zC3WoR3YV83XXQ3crT3YbO3crU3cs03ZM3cs13gR3cs23ZB3YbP3cs33cs43cs53v73cs63cs73cs83cs93cs",
  "A3csB3csC3g03csD3YbQ3WZE3csE3csF3csG3csH3ZU3csI3csJ3csK3YWD3WX83csL3WkG3csM3csN3csO3XoJ3csP3cs",
  "Q3YbE3csR3Wp13csSbQCcsTLUcsU41C3WZ93kN3s53g13gO3WcB3rR3G3nO3Y0bH2WN3s33K3YbR3nI3WQ3X63eN3e53e6",
  "3tO3D3bA3hI3iQbH2h13d63cQ3cL3B3jP3WVCbH2Y73gPc4221C3WZ93kN3s53g13gO3WcB3rR3G3nO3Y0bH2WN3s33K3Y",
  "bR3nI3WQ3X63eN3e53e63tO3D3bA3hI3iQbH2h13d63cQ3cL3B3jP3WVCbH2Y73gPcDX6YaCC5ct03ct13ct23ct33ct43",
  "ct53ct63ct73ct83ct93ctA3ctB3ctC3ctD3ctE3ctF3ctG3ctH3ctI3ctJ3ctK3ctL3ctM3ctN3ctO3ctP3ctQ3ctR3ct",
  "S3ctT3ctU3cu03cu13cu23cu33cu43cu53cu63cu73cu83cu93cuA3cuB3cuC3cuD3cuE3cuF3cuG3cuH3cuI3cuJ3cuK3",
  "cuL3cuM3cuN3cuO3cuP3cuQ3cuR3cuS3cuT3cuU3cv03cv13cv23cv33cv43cv53cv63cv73cv83cv93cvA3cvB3cvC3cv",
  "D3cvE3cvF3cvG3cvH3cvI3cvJ3cvK3cvL3cvM3YbS3YbT3YbU3Yc03Yc13Yc23Yc33Yc43Yc53cvN3cvO3Yc63Yc73Yc83",
  "cvP3cvQ3cvR3Yc93YcA3YcB3YcC3YcD3YcE3YcF3YcG3YcH3YcI3YcJ3YcK3YcL3YcM3YcN3YcO3YcP3YcQ3cvS3YcR3Yc",
  "S3YcT3YcU3Yd03Yd13Yd23Yd33Yd43Yd53Yd63Yd73Yd83Yd93YdA3YdB3YdC3YdD3YdE3YdF3YdG3YdH3YdI3YdJ3YdK3",
  "YdL3YdM3YdN3YdO3YdP3YdQ3YdR3YdS3YdT3YdU3Ye03Ye13Ye23Ye33cvT3cvU3cw03cw13cw23cw33cw43cw53cw63cw",
  "73cw83cw93cwA3cwB3cwC3cwD3cwE3cwF3cwG3Ye43Ye53Ye63Ye73Ye83Ye93YeA3YeB3YeC3YeD3YeE3YeF3YeG3YeH3",
  "YeI3YeJ3YeK3YeL3YeM3YeN3YeO3YeP3YeQ3YeR3cwH3cwI3cwJ3cwK3cwL3cwM3cwN3cwO3cwP3cwQ3cwR3cwS3cwT3cw",
  "U3cx03cx13cx23cx33cx43cx53cx63cx73cx83cx93cxA3cxB3cxC3cxD3cxE3cxF3cxG3cxH3cxI3cxJ3cxK3cxL3cxM3",
  "cxN3cxO3cxP3cxQ3cxR3cxS3cxT3cxU3cy03cy13cy23cy33cy43cy53cy63cy73cy83cy93cyA3cyB3cyC3cyD3cyE3cy",
  "F3cyG3cyH3cyI3cyJ3cyK3cyL3cyM3cyN3cyO3cyP3cyQ3cyR3cyS3cyT3cyU3cz03cz13cz23cz33cz43cz53cz63cz73",
  "cz83cz93czA3czB3czC3czD3czE3czF3czG3czH3czI3czJ3czK3czL3czM3czN3czO3czP3czQ3czR3czS3czT3czU3dV",
  "0bRAdV1CDdV2YRDdV3Y6DdV4GDdV5ZKDdV6XUDdV7Z5DdV8XRDdV9WEDdVAdVBDdVCdVDDdVEdVFDdVGdVHDdVIYSDdVJY",
  "ODdVKY7DdVLcGDdVMdVNDdVOdVPDdVQdVRDdVSdVTDdVUnIbHBdW03dW13dW23dW33dW43dW53dW63dW7cNPe0124YCMmB",
  "gNdFNWLgNdFC2dGD4YRNYR0UbR2tFeLP0bPU6gMDWdTeLNY60aH5UG6aHDZ2GW2d0Z2YJGDWoGeLDXcPd4D4XONXO0UW24",
  "XO0UNXU0W0D4XUNWYA0UWMlIZ50W06UDXcTeLDXcUeLNWE0oTW24WE0oTWMWE0bPU6oT3WoCO0bPUDYMY7F0oTND0W0D4c",
  "7Dd0cG3a7WCYMW70YPj7S6bPUNW70aH5w7D4W7W2XcSeL0gMDWoFeLP0bPUDWdUeLW2XS0bPUW2XT08UbR24Y7W1eKZA0W",
  "0WBZ2eKZA0W0CWoEoSCWoBoSCXcIoSCXcJoSWBbPoS0bPUW12WA0gMc3X8dW8jCC2G2K2D2B2ZGbG3p9bG2WQ2hB2hD2fM",
  "2hO2X62l32iP2hN2g32X82e52eE2gS2cJ2X72e62dD2c42dH2WT2bA2bQ2iN2mM2X12iQ2jD2f12gT2XH2h12gF2fN2hA2",
  "XJ2cQ2iO2O2fO2ZH2fA2h02g4bG2l52WVCbG4b6bG3nPUdW9dWA1jL3jB3jT3r73c13cK3lO3kQ3qA3lF3k03lG3hU3bB3",
  "jU3nL3bA3kR3vG3mF3e13k1bQ2fS5CZTF3E3N3YQ3c6DFWM4X5DYQX5KdWB1jL2jB2jT2r72c12cK2lO2kQ2qA2lF2k02l",
  "G2hUCIbB2bB2jU2nL2bA2kR2vG2mF2e12k1BhGXXRBfTXXRBZTF2E2N2T2W22YQ2c6UdWC1IjL2jLCIjB2jB2jT2r7CIc1",
  "2c12cK2lO2kQ2qACIlF2lFCIk02k0CIlG2lGCIhU2hUCIbB2bB2jU2nL2bA2kR2vG2mFCIe12e12k1bP9ZTF2E2N2TLdWD",
  "ZTTBZTW22YQ2c6CFWMc3WIdWE1jL2jB2jT2dWF2c12cK2YeS2kQ2qA2lF2k02lG2hU2bB2jU2YeT2bA2kR2vGbG2e12k1b",
  "P6ZTF2W22YQ2c6CFWMKdWG1dWH2zC2dWI2dWJ2c12WyK2dWK2XeD2wD2q42e22dWL2hU2bB2dWM2dB2bA2YbA2Wp72dWN2",
  "e12iJBZTF2YQ2c6CFWM2E2NbP4kTdPKdWO1C2YR2XO2Y62G2XT2K2Y72XR2WE2XB2X02D2W72WlK2XS2B2ZK2a72WA2XXM",
  "2dC2b32WuA2WZ32YEbP6gNLcDX3dWPdWQ1C3G3K3D3X93ZH3YA3dWR3WT3X83X73YeU3e63Yf03X13Yf13X63ZS3s33XH3",
  "Yf23h13WQ3hI3XJ3Yf33cQ3Yf43O3XMCW1dWS3dWTLdWU1C3G3K3D3X93ZH3YA3WT3X83X73e63X13X63ZS3s33XHDhSXH",
  "3h13WQ3hI3XJ3cQ3O3XMc55hQo5r8DFWLCWcFdX03dX1CZTF3E3N3T3W23WB3WJ3WC3WO3YQ3c63h23iR3dE3jE3d7bR3F",
  "WMDEWMDNWMDTWMDW2WMDWBWMDWJWMDWCWMDWOWMDFX5DEX5DNX5DTX5DW2X5DWBX5DWJX5DWCX5DWOX5DYQX5Dc6X5Dh2X",
  "5DiRX5DdEX5DjEX5Dd7X5Dl6X5DcMX5NFWMX5NEWMX5NNWMX5NTWMX5NW2WMX5NWBWMX5NWJWMX5NWCWMX5NWOWMX5MhQF",
  "dX2DEr8DNr8DTr8DW2r8DWBr8DWJr8DWCr8DWOr8DYQr8KdX31CLXE5K3BDaCW7bH2G3DbQ6l0LW05JXLH2b22cSB1WQ2Z",
  "S2Y02b4bG2ZI2ZM2ZGbG2ZO2b12bT2b52c92bI2XJ2a52XM2b82X72WT2aJ2YA2bK2X82X92X12X62aL2ZB2c32XH2b62W",
  "N2WqU2dX42XgO2dX5c435WG92dX6CMHbF5c5BXKF2E2N2TBZTYQ2c6CFWM3X5LhQFWLbP8bMMC2WU2WUCWWHWG2dX72WlU",
  "2e3CJe32XtPcN8aObNYf51c14lG4kQ4hU4vG4cK4e14mF4jB4k14WuU4k04bB4dX84kR4jU4nO4XA4YeT4dX94jT4r74dX",
  "A4qA4YeS4dXB4lF4dXC4dXDDZTF4dEDYf6tBW0b9Yf51eD4cP4Y84WF4fC4cK4dXE4dO4hJ4hK4dXF4e24cF4aK4gC4dXG",
  "4gA4XA4dB4i24dXH4lP4jA4eM4kP4wE4X24nN4p2DZTF4YQ4c6c3W2dXI1jL2jB2XfK2jT2dXJ2r72c12cKB5i8B1lO2dX",
  "K2dXL2dXM2kQ2qA2lF2k02dXN2XfM2lG2dXO2dXP2hU2bB2jU2nL2dXQ2bA2nO2kR2vG2dXR2dXS2mF2e12dXT2k1LiML9",
  "3HbP5ZTF2W22YQ2c6CFWMBbMaB2XXRW1JMwMMMMwMM2MCEX3CZ7s2c3AdXU1C2YC2Wi42dY02dC2Yf72dG2Yf82G2bR2D2",
  "b72K2YU2B2ZC2hB2WVC2XwG2dY12qL2WsN2iK2s52nI2cQ2cL2gO2WcB2Wa12bA2nO2kN2Wl62YVR2dY22dY32e62WsF2d",
  "Y42e52dY52dY62k62jP2iQ2l32h12gP2d62jQ2dY72dY82c1bP4iMLWTWbHEX3X4FMbMWT2EX3X4FMbMWTZJEX3X4FMbMW",
  "KFMX4EX3bMWKEYf9X4FXLbMWKFXLX4EYf9bMUdY9dYA1jL3jB3jT3r73c13cK3lO3kQ3qA3lF3k03lG3hU3bB3jU3nL3bA",
  "3kR3vG3mF3e13k1bQ3ZTF3E3N3T3YQ3c6DFWM4X5LYfA1jL3jB3jT3r73c13YfB3lO3kQ3qA3lF3k03lG3YfC3bB3jU3bA",
  "3kR3e13k1bQ6ZTF3E3N3T3YQ3c6DFWM4X5UdYBYfA1jL3jB3jT3r73c13YfB3lO3kQ3lF3k03lG3YfC3bB3jU3bA3kR3e1",
  "3k1bQ8fSLMYMfSLW1TX30bD5MbQDZTF3E3N3T3YQ3c6DFWMcNXJaOdYC1eHCDeSC4dGDeHKDeSK4GDeHD4c7DeSc7DeHrM",
  "DeSrMDeHYfDDeSYfDDeHWeSDeSWeSDeHYfEDeSYfEDeHzJDeSzJDeHdYD4WcKDeSWcKDeHnUDeSnUDeHYfFDeSYfFDeHYf",
  "GDeSYfGDeHYfHDeSYfHDeHrNDeSrNDeHdYE4dYF4iL4dC4WV8DeSWV8DeHWm0DeSWm0DeHWm1DeSWm1DeHWX9DeSWX94nT",
  "DeHnFDeSdYGDeHWhU4XVL4XXS4WcLDeSWcLDeHWYQDeSWYQDeHXXTDeSXXTDeHXXUDeSXXUDeHWpODeSWpODeHdYH4lQ4d",
  "YI4bHDeSbHDeHiEDeSiEDeHfRDeSfRDeHYfIDeSYfIDeHWe64dYJcEWPdYK41C4YC4XXQ4YfJ4WcL4Wm14YfK4YfL464GE",
  "WvGG4bR4pU4YfM4YfN4q24K4YU4YfO4zN4WeT4YfP4gQ4YfQ4iL4b34WX94D4b7EWm2c7EWm3c74YfR4WhU4YfS4kOEb0k",
  "O4p04YfT4mD4Wm04YfU4z94B4ZCEWm2gDEWm3gD4XVA4WcK4Yg0EYg154WVSc5E21C4YC4XXQ4YfJ4WcL4Wm14YfK4YfL4",
  "64GEWvGG4bR4pU4YfM4YfN4q24K4YU4YfO4zN4WeT4YfP4gQ4YfQ4iL4b34WX94D4b7EWm2c7EWm3c74YfR4WhU4YfS4kO",
  "Eb0kO4p04YfT4mD4Wm04YfU4z94B4ZCEWm2gDEWm3gD4XVA4WcK4Yg0EYg154WVSbQ8ZTF3W23YQ3dEDFWM4X5UdYLXg91",
  "C3YA3WT3XJ3b13ZG3ZI3WN3ZS3c23XM3b53X13hL3b63XH3ZB3WQ3Y03X63X83X73ZHDYg2ZH3X9DYg2X93Z83ZO3aLCXE",
  "C3K3B3G3DCLdYMDX7dYNC5dYO3dYP3dYQ3dYRbQ9XKY93F3E3N3T3W23WB3WJ3WC3WOc3eGdYSXKF2E2N2T2W22WB2WJ2W",
  "C2WOBZTYQ2c62h22iR2dE2jE2d72l62cMCFWMCEWMCNWMCTWMCW2WMCWBWMCWJWMCWCWMCWOWMLhQFWL3d83mQCEsCc32d",
  "YT1dYU2kN2bA2WsQ2cL2h12WcM2dZ02dZ12s32l52lP2WhQ2X12rI2b62ZG2WeE2e12gC2i22XJ2gP2YbO2dZ22c22aLDg",
  "H32fC2e22dZ32zG2cP2WeP2bB2WcE2cK2WcJ2XXN2dZ42WYB2mDc42cDcRLCrKLBXqLLcO31cP0M9W1WYB0YT9cDXHaOWp",
  "I1jLDIjL3jBDIjB3jT3c1DIc13cK3lO3kQ3lF3k03lG3hU3bBDIbBP0W8aH3jU3nLDgHnL3bA3kRDIkRP0W8aH3dZ53e13",
  "k1DIk1P0W8aHCZTF3E3N3T3W23YQ3c63h2DFWMMhQFWLCd9dZ6c39WpI1jL2jB2jT2c12cK2lO2kQ2lF2k02lG2hU2bB2j",
  "U2nL2bA2kR2dZ72e12k12dZ82Yg3BuIe1LcDMHMEX3HCM9MEX39Cj293HCU93HMYPUHCmFHCW0HBZTF2YQ2c6CFWMW0bME",
  "W8WiOF0X3MWU0MW1En70X3W1WLWU0McDNaOdZ91jL3jB3dZA3cK3lODIkQ3lF3k03lG3hU3bB3jU3bA3kR3mF3e13k13Yg",
  "3McDM94HNEX395HCbMWGDEWiO4X3DTX3c3W8dZB1jLC2jL2jB2jT2r72c12cKCdZCcK2lO2kQ2lF2k02lG2hU2bB2jU2nL",
  "2bA2mF2e12k1BZTF2E2N2T2YQ2c6CFWMc3LdZD1jL2jB2jT2r72c12cK2lO2kQ2qA2lF2k02lG2hU2bB2jU2nL2bA2kR2v",
  "G2mF2e12k1Bd9dZEc3AdZF5dN2b22cS2zQ2zRB1C2YC2K2YU2B2ZCCaCW73cA3WE3d22G2Z02D2Z92WQ2ZS2Y02b42Z82Z",
  "I2ZM2ZG2cT2ZO2b12bT2b52c92bI2XJ2a52XM2b82X72WT2aJ2YA2bK2X82X92X12X62aL2ZB2c32XH2WN2eNMaOwPwL4h",
  "L4WYSLXE5YCDdZGYC3K3YU3B3ZCDaCW74cA4WE4d23G3Z03D3Z91c51e3BJe3BbMMCJM2Z7CWWHWG2WlUbP5ZTF2E2N2T2",
  "W22WB2WJ2WC2WO2YQ2c62h22iR2dE2jE2d72l62cMCFWM3X5BXKY92F2E2N2T2W22WB2WJ2WC2WOW05aOwPc5WA1aOwPb0",
  "G5DWKXE5aOwPb0G6DW01aOwPeNbPAZTw9KdZH5dN2b22cSB1C2YC2K2YU2B2ZC2G2Z02D2Z92WQ2ZS2Y02b42Z82ZI2ZM2",
  "ZG2cT2ZO2b12bT2b52XgD2c92rI2bI2XJ2a52XM2b82X72WT2aJ2YA2bK2X82X92X12X62aL2ZB2c32XH2WNLXE5YC3K3Y",
  "U3B3ZC3G3Z03D3Z9B5c52fLBiM5BdZI5BZT5BfSLLJfSL1e3BJe3W0XE5aCW7c4BZT59cD3dZJdZK1XgA3eM3dZL3dZM3d",
  "ZN3Yg43Yg53dZO3dZP3Wt13Yg63dZQ3Wk03dZR3Y83Xm53dZS3dZT3nQ3dZU3Wv93XW93WYF3q23Yg7bQ8XKY93F3E3N3T",
  "3W23WB3WJ3WC3WOc37da05dN2b22cSB1YC2K2B2G2WgP2XfP2WZO2Yg82WhF2WsB2Xl22XkO2da12XkG2XfN2WuP2XkM2Y",
  "ZM2da22x72WYO2XkJ2da32zI2Wh52Xl32WeQ2da42Ws42da52zH2WYN2WZI2WZM2WgJ2rLLXE5C3K3YU3B3ZC3G3Z03D3Z",
  "93WY9BDLBZ9L1c51da6bP2XKY92F2E2N2T2W22WB2WJ2WC2WOBfSL1e3BJe3Be8LB1XnMLXE5YC3rRB1XkDc39da71C2K2",
  "B2G2D2WQ2ZS2Y02b42ZI2ZM2ZG2cT2ZO2b12bT2b52c92bI2XJ2a52XM2b82X72WT2aJ2YA2bK2X82X12X62aL2XH2WN2h",
  "LB5fLBiM5BfSLBd9Yg9c3Ada85dN2b22cSB1C2YC2K2YU2B2ZCCaCW73cA3WE3d22G2Z02D2Z92WQ2ZS2Y02b42Z82ZI2Z",
  "M2ZG2cT2ZO2b12bT2b52c92bI2XJ2a52XM2b82X72WT2aJ2YA2bK2X82X92X12X62eN2aL2ZB2c32XH2WNLXE5YC3K3YU3",
  "B3ZCDaCW74cA4WE4d23G3Z03D3Z9B5c52k22zQ2zR1mI1e3BJe3BiM51dPBWZ1LB5fLLXEe0LW0da9b0XELBdaALW0XE5W",
  "pQGL5ZPdNBXKY92F2E2N2T2W22WB2WJ2WC2WO1daBB5wQ1XX7BdaC5BfSWaB2WaCcD2Xh0hSXKF3E3N3T3W23WB3WJ3WC3",
  "WOCZTYQ3c63h23iR3dE3jE3d73l63cMDFWM4X5c3CdaD1C2YC2K2B2G2Z02D2Z92WQ2ZS2Y02zL2b42Z82ZI2ZM2ZG2WYU",
  "bG2ZO2b12bT2b52c92bI2XJ2a52XM2Wf32b82X72WT2aJ2YA2wN2bK2X82X92X12X62aL2XH2WN2eNLXE5YC3K3YU3B3G3",
  "Z03D3Z9B5b22c52fL2zF1e3BJe3BkTdPBfSLLJfSLBiM5B5wGc3X4daE1C2K2B2G2WQ2ZS2Y0bG2b4bG2ZI2ZM2ZG2WYUb",
  "G2ZO2b12bT2b52Wf32c92bI2XJ2a52XM2b82X72WT2aJ2YAbG2bK2X82X92X12X62aL2XH2WN2hL2rIBfSLc37daF1C2YC",
  "2K2YU2B2ZC2G2Z02D2Z92WQ2ZS2Y02zL2b42Z82ZI2ZM2ZG2WYU2cT2ZO2b12bT2b52Wf32hL2c92bI2XJ2a52XM2b82X7",
  "2WT2aJ2YA2wN2bK2X82X92X12X62aL2ZB2XH2WNB5b2LXE5YC3K3YU3B3ZC3G3Z03D3Z9B5fL2c5bP6XKY92F2E2N2T2W2",
  "2WB2WJ2WC2WOcN7XY05cDb292dN2b22cSbP21C2YC2K2YU2B2ZCCaCW73WEbG3bR2Z0bG3b72Z92WQ2ZS2Y02b42Z82ZI2",
  "ZM2ZG2cT2ZO2b12bT2b52c92bI2XJ2a52XM2b82X7bG2WT2aJ2YA2bK2X82X92X1bG2X62eNbG2aL2ZB2c32XH2WNc32cD",
  "Wv7HKXY05fL2k2LXE5YC3K3YU3B3ZCDaCW74cAbH3bR3Z0bH3b73Z9B5c5bF3mIc47Z9l0LbP65YgAL1WZ0b2DJb2CaCcA",
  "3d2W0XE5aCWE4d2cD3cDXY0XKY93F3E3N3T3W23WBbQ41C3WQ3X73s43WTc3ZGdaG1C2YC2K2YU2B2ZCCaCW73cA3WE3d2",
  "2G2Z02D2Z92WQ2ZS2Y02b42Z82YgB2ZI2ZM2ZG2cT2ZO2YgC2b12bT2b52c92bI2XJ2a52XM2b82X72WX52WT2aJ2YA2bK",
  "2X82YgD2X92X12rI2X62tR2ZH2ZB2c32XH2WNLXE5YC3K3YU3B3ZCDaCW74cA4WE4d23G3Z03D3Z9B5c52dN2b22cS2fL2",
  "k2CIb21mI1daH1e3BJe31a4BWc7s2BiM5BXKY92F2E2N2T2W22WB2WJ2WC2WOBJa4BXX6LbP2WvF5BWZ1LL1WZ0b2B5zQ2",
  "zRbOW0daIWq1B1C2YC2K2YU2B2ZCCaCW73cA3WE3d22G2Z02D2Z92WQ2ZS2Y02b42Z82ZI2ZM2ZG2cT2ZO2b12bT2b52c9",
  "2bI2XJ2a52XM2b82X72WT2aJ2YA2bK2X82X92X12X62aL2ZB2c32XH2WNLXE5YC3K3YU3B3ZCDaCW74cA4WE4d23GDb0G3",
  "Z03DDb0D3Z9B5dN2b22cS2c52fL2k21daJBiM51mIbP9XKY92F2E2N2T2W22WB2WJ2WC2WOc3aCwQ1C2YC2K2YU2B2ZCCa",
  "CW73cA3WE3d22G2Z02D2Z92WQ2ZS2Y02b42Z82ZI2ZM2ZG2cT2ZO2b12bT2b52c92bI2XJ2a52XM2b82X72WT2aJ2YA2bK",
  "2X82X92X12X62aL2ZB2c32XH2WNLXE5YC3K3YU3B3ZCDaCW74cAbH3G3Z03D3Z9B5dN2b22cS2c52fL2wQ1e3BJe3BdPM2",
  "WGBXXCWaB2WaC2YZ6W0cNRq7LWUfSL0Wm46WbKdaKGcIvHW3WWF6cIvHHJvHHbEvHDJXLF0WWFN0JvHEbEvHEpDvHEdaLv",
  "HOn76WWFGEYgEGTYgEW01daMgHKMXgIgHK4YUCgHBW0XE5gHB4ZCc3W4daN1C2YC2K2YU2B2ZCCaCW73cA3WE3d22G2Z02",
  "D2Z92WQ2ZS2Y02b42Z82ZI2ZM2ZG2cT2ZO2b12bT2b52c92bI2XJ2a52XM2b82X72WT2aJ2YA2bK2X82X92X12X62aL2ZB",
  "2c32XH2WN2eNLXE5YC3K3YU3B3ZCDaCW74cA4WE4d23G3Z03D3Z9B5b22cS2c52daO1e3BJe3BiM5B5daPbPCXKY92F2E2",
  "N2T2W22WB2WJ2WC2WOcD7XoBqN0aRBa0qNW0JqN0aRW0bEqN0aRW0qN0JaRW0a0qN0aREJaRBZPqNN0JaRBXY1qND0aREJ",
  "aRWKYMXY1qN0JaRc3KdaQ1C2YC2K2YU2B2ZC2G2Z02D2Z92WQ2ZS2Y02b42Z82ZI2ZM2ZG2cT2ZO2b12bT2b52c92bI2XJ",
  "2a52XM2b82X72WT2aJ2YA2bK2X82X92X12X62aL2ZB2XH2WN2hLB5b22cSLXE5YC3K3YU3B3ZC3G3Z03D3Z9B5c52fLL1h",
  "SZSBiM5bP7XKY92F2E2N2T2W22WB2WJ2WC2WOc3WOdaR1WQ2ZS2Z82X72XJCgHXJ2WT2aJ2YA2X82ZG2ZM2a52X12X62XH",
  "2ZO2WN2C2XM2b82Y0CgHY02b42bK2cTCgHYAcE3gE5YBX64X1EdaSX1LXE5C3YC3K3YU3B3ZC3G3WpR3D3Z03qBB5daTbP",
  "5XKY92F2E2N2T2W22WB2WJ2WC2WOBZTYQ2c6L52fS2fS2daUBW1s4B1ZI2b12bT2b52c92bI2eNc3b0db01C2YC2K2YU2B",
  "2ZC2G2Z02D2Z92WQ2ZS2Y02b42Z82ZI2ZM2ZG2cT2ZO2b12bT2b52c92bI2XJ2a52XM2b82X72WT2aJ2YA2bK2X82X92X1",
  "2X62aL2ZB2c32XH2WN2hLLXE5YC3K3YU3B3ZCDaCW74cA3G3Z03D3Z9B5b22cS2c52fLBiM5cNY8db1db241WhF4C4h04c",
  "O4X94dJ4YU4ZC4G4D4nT4Y04fM4WX94YgF4WhT4XV44wR4Wa14XXE4XM4fR4qB4i64mM4YgG4YgH4YgI4WV64YgJ4Wa34Y",
  "gKM21WhF4C4h04cO4X94dJ4YU4ZC4G4D4nT4Y04fM4WX94YgF4WhT4XV44wR4Wa14XXE4XM4fR4qB4i64mM4YgG4YgH4Yg",
  "I4WV64YgJ4Wa34YgKCXKY93F3E3N3T3W23WB3WJ3WC3WOCZTYQ3c63h23iR3dE3jE3d73l63cMbGDmIUdb3db41C3YC3K3",
  "YU3B3ZC3GbH3DbH3WQ3ZS3Y03b43Z83ZI3ZM3ZGbH2ZO3b1bH2b53c93bI3XJ3a53XM3b83X73WT3aJ3YA3bK3X83X93Wf",
  "23X13X63aL3ZB3c33XH3WN3eN3b6MXE5YC4K4YU4B4ZC4GbI2Z04DbQ35b23dN3Wr02c5MYgLYgM5CYBX9CW3X1CYBX1C5",
  "fLCJe3CWc7s2W1cNRq7LbQAXKY93F3E3N3T3W23WB3WJ3WC3WOc3X9db51C2YC2K2YU2B2ZCCaCW73cAbG3G2Z02D2Z92W",
  "Q2ZS2Y02b42Z82ZI2ZM2ZG2cT2ZO2b12bT2b52c92bI2XJ2a52XM2b82X72WT2aJ2YA2bK2X82X92X12X62aL2ZB2c32XH",
  "2WN2eN2hLLXE5YC3K3YU3B3ZCDaCW74cAbH3G3Z03D3Z9B5b22cS2c52k22wQ1XX7W0XE5WpQGcDSdb6WR1CMXE5K4gD4B",
  "4G4c74D4Z04Z9EZ2KDl0LC1WQ3ZS3Y03b43Z83ZI3ZM3ZG3ZO3b13bT3b53c93bI3XJ3a53XM3b83X73WT3aJ3YA3bK3X8",
  "3e43l23mJ3WZ63gR3b63WV03X93X13X63aL3ZB3c33XH3WN3WZ7MIgELC5c53dNE0aRNkU0aR3b23cSMYgN1X1Mdb71X94",
  "X14X64aLMW3i4LMWZ5i4LCLp63k5DJk5DYPp6W1W3YgOi4LW1WZ5YgOi4L2YgPc39db81CLXE5K3gD3B3G3D3c73Z03Z9D",
  "aCW74WECl0LB1WQ2ZS2Y02b42Z82ZI2ZM2ZG2cT2ZO2b12bT2b52c92bI2XJ2a52XM2b82X72WT2aJ2YA2bK2X82e42l22",
  "mJ2gR2b62WV02X92X12X62aL2ZB2c32XH2WN2WZ7B5zQ2zRLYgN1X13X63ZB3XHW0IgE5XO4XR4i34Y64X04YR4XB4W74W",
  "E4xC4WA4WV0B5b22cSBWYRL1YgPBLp62k5CJk52YgAXJi4L0fE6o96bEYgQ8YgQ6o9Bdb9WaB2WaCcDEWtBWtCdbAeO3Xn",
  "D3fB3Wa53WN3rL3Yg93dbB3dbC3dbD3dbE3dbF2dbG2dbH2dbI2YgRW9dbJdbKYgS1WT4WQ4X64X84XM4b64aL4Z84WN4Y",
  "04ZS4XH4YA4ZI4XJ4a54X74aJ4X14c24ZM4C4G4K4D4B4WVL4WlMEIYH5XR5XS5XB5X05WE5YS5i35Y7NmHYIYP4YINWZ1",
  "eKZAW2mHYIYPI5IW2WZ1eKZAIEYIYP4YIFYPI5IDYgTYINeKZAh4W2YgTYIYPI5INYgUYIYP4YIDeKZAW2YgUYIYPI5INe",
  "KZAIc3dGdbL1C2YC2K2YU2B2ZCCaCW73cA3WEbG2G2Z02D2Z92WQ2ZS2Y02b42Z82ZI2ZM2ZG2cT2ZO2b12bT2b52c92bI",
  "2XJ2a52XM2b82X72WT2aJ2YA2bK2X82X92X12X62aL2ZB2c32XH2WNLXE5YC3K3YU3B3ZCDaCW74cA4WEbH2G3Z03D3Z9B",
  "5dN2b22cS2c52k21e3BJe3BkTdPBWc7dbM2dbNbPBXKY92F2E2N2T2W22WB2WJ2WC2WOBZTF2E2N2T2W22WB2WJ2WC2WO2",
  "YQ2c62h22iR2dE2jE2d72l62cMLXY2Wb6Lc34dbOi4LBLk5B1WQ2ZS2Y02Z82ZI2ZM2ZG2ZO2XJ2a52XM2X72WT2aJ2YA2",
  "X82e42l22mJ2ZH2gR2b62WV02X92X12X62ZB2XH2WN2Cc43WV11WQ3ZS3Y03Z83ZI3ZM3ZG3ZO3XJ3a53XM3X73WT3aJ3Y",
  "A3X83e43l23mJ3ZH3gR3b6bH2X93X13X63ZB3XH3WN3CLXE5YC3K3B3G3DB5b22dNcDXCdbPYh01C3YC3K3YU3B3ZC3GbH",
  "2Z03DbH2Z93WQ3ZS3Y03b43Z83ZI3ZM3ZG3cT3ZO3b13bT3b53c93bI3XJ3a53XM3b83X73WT3aJ3YA3bK3X83X93X13X6",
  "3aL3ZB3c33XH3WN3eN3WZ73XpK3WuQMXE5YC4K4YU4B4ZCEaCW7bI4GbI2Z04DbI2Z9C5b23cS3fL3kU3Wr02c52dbQ2db",
  "RbQ9XKY93F3E3N3T3W23WB3WJ3WC3WOcD7dbSYh01C3YC3K3YU3B3ZCbH2bR3Z0bH2b73Z93X93aL3YA3bK3X83WQ3ZS3X",
  "J3a53X63Y03b43XM3b83X73ZI3ZM3b13bT3eN3ZG3cT3b53c93Z83WT3aJ3WN3X13XHMXE5YC4K4YU4B4ZCbI2bR4Z0bI2",
  "b74Z9C5b23cS2c52mIbQ8XKY93F3E3N3T3W23WB3WJ3WC3WOc3f1dbT1WQ2Y02Z82WT2YA2X82XJ2XM2X72ZI2ZG2ZO2X9",
  "2X12X62aL2XH2C1dbULXE5K3B3G3D1dc0LcNRfSc3aTYWU1dc1cDGwPhQFdc23XgQ3dc33XY33XgR3XY4CNXgS3dc4CFXg",
  "T3dc53dc63Wq43f0CNXgU3Wf4CFWq53d83dc73dc8CNkKMdc9Ww1dcAB5Yh12dcB2dcC2dcD2dcE2dcF2dcG2dcH2dcI2d",
  "cJ2XY52dcK2dcL2dcM2dcNLdcOYh25LWzQYh25BdcP5Lr3XY65LdcQWq35CZT5BWw75L6wR5BdcR5BXs45LaIXz85LdcSd",
  "Q5B5dcT2dcUcEEbMcNRq7KYh35CDWDC4iAEj4c04WN4fFEy8aS4vI4y92XXF2rMDWDr9EWm5aS4y5Ej4c04WNEfFaS4XY7",
  "4oH4XY8WDBWHBWHB3aS2WcNDWDWm6Ej4c0Oe5WHb34Wm74kH2zJ2WeTDWDWXAOXY9WHkI2rNDWDrN4XYA4kI4WN4Wm84hD",
  "4d64vJ2dd02jL2XYBDWDd62dCDX4dCDNWDWMWHWm9vKdCWHWm95d32XYC2dd12dd2DWDjK2dd32dd42bHDYh4c0DYh5c0X",
  "LX4bHvLX4vLvLX4vLkGFX4bHWQdRbHX4bHX4bH2r92XYD2YA2iA2dd52XYE2WmADX4WmA2Wm62WG2dd62l4DWDC4f2EfFa",
  "S2i6NX4i6rM5u2DdRi62XYFDX4XYF2r52dd72XM2WhRWCWcOWDCWHyA5XYB5Wm65l45Y0GWHyA5gU5WXB5n85WN5WhSGWH",
  "g35vM5X65g3GWHYh65t15e6PkGWHkG5gF5kHPn9WHWXB5vJ2dd82Yh72Yh82dd92i72Yh92WcPDWDd62XYA2XYGW2oIBaS",
  "gI2gI2k7DX4k73aS3vN2WcQDWDt32ddA2WVP2ddB2ddC2XYH2Wm53aS4aS2ddD2ddE2GDWDkGWCX4GbBX4bB2WcIWMWDCW",
  "HWNWHXM4f24eE4vO4d64B2ddF2ddG2gQ2b3DWDj45c04e5DdRb3DvKb33d32YhA2WXA2t32XYIDWDCFWHrAHWDrA4dC4iA",
  "EWm5aS6aS4WN5aSEfFaS4oI5d34WXC4X6OrAWDrA4iP4g34n94i82Y03aS2WmBWMWDCWHXMWHWN6WN6fFW3WcNc0WHsQ4d",
  "C4bHOr9WHy54iAOWGWHX14r5FWHX14XM4i7OWcPWDd64WcQ4gQFWHX64b3PWDj4c0Ej4c04f24gU4WmCFWHCOWXBWHhAWD",
  "WNWHg3WHt34WcRFWHX6OeOWHiP4XYJEfFaSWDXYKWHlTWHbH4vM4oI4XYLFWHrAOWXCWHdC4X6Oe5WHb34eE4bBFX4bB4W",
  "T4vO4WXD4d6FWHWc64WmD4WWM4kH4B4i8FWHk7DX4WmB2XYMDdRXYM2t4WCX4t4f2X4f22y5WMt4X4t4f2X4f22ddH2ddI",
  "2x32j43c0DX4j4DdRj42f22ddJ2ddK2YhBDWDjK2gUDWDG4BDdRgU2WmCDX4WmCDdRWmC2ddL2WXB3aS2ddMW2WDCWHfFE",
  "j4c04fFOg3WHfF4WT2ddN2kIDdRkIDWDiA4kH3c02k8DdRk82YhCDWDvMPWDfFaS4bBOvOWHvL3aS2n8W2WDCWHjK4jKNX",
  "4n8WmE2YhD2YhEDWDd62Wl12YhF2ddO2ddP2WN3c03aS2WcR2eODWDbH4r94iA4gI4t44XYN4bB4d64B2lT2XYJDWDdC4W",
  "cR4oI4XYO4i82ddQ2K3C2XYP2YhGNX4YhGr55d32YhH2fF3Yh93jDXBX4fFWmFX4WmFi8X4i83aS2ddRNWDj4c02ddS2t0",
  "DWDkHDdRt0DvKt03d32XY72aI2WhS2XYK2WQDWDC4zJFWHWXC4r94iA4Wm64WG4l44WXA4t34Y04y5Ej4c04f2W4WHWm7W",
  "HC4gU4WXBOkIWHWXDFdRkI4k84YhF4fF4t04vM4hD4XYL4iP4g34e5FWHk76gU6cQ4eEFWHYhI4e64bB4bQ4gT4XH4WXD4",
  "ZB4d64WmD4lU4YhJ4YhK4x44B4n94i8OYhLWDWT4vJ4qK2YhMDdRYhM2YhN2YhO2Wm82ddT2YhPDX4YhP2vMNWDfFaS2XY",
  "QDWDiADdRXYQ2ddU2de02oIX1oHWDBX4oHWDBXLX4oIoHWDBX4oHWDB2YhQ2hDDWDiA4B4i82XYL2XYN2de12de22WcODX",
  "4WcO2hOXLX4eOWDr9hOX4eOWDr92WXC2de3Dh432de42YhR3aS2YhS2jKDvKjK2WcS2de52X62oHDWDCW4WHXMWHWN6f26",
  "rA4rN4dCObHYh4c04iA4l44Yh74b34Y04f24n8FWHn84WN4WcROeOWDbBEfFaS4t0FWHWN6g34hD4XYN4WXC4YhRW4WHeO",
  "WHC4oH4XYO4g34XYR4e5FWHb34vI4e6Od6WHWWMWDXY9WHkIWHWXA7c04yBFWHyB4WWM4WcT4kHX2cQWHCWHhAWHX74BFW",
  "HCQBWHBOn9WHbH4i84vJ3d32y8DWDd6FWHWWM3aSW3X4y8aSd62de62rADWDrA2cPDWDjKFWHgT2iP2de72de82XYO2g3D",
  "WDiA2WcUDWDrN4iA4t35c0Ej4c0OeOWDiA4t04YhO4Wm8FWHbH4hDOX6WHbH4oHOe5WHb34e64dHOgFWHbHOYhTWHi64vL",
  "3c0DdRWcUDvKWcU3d33vN2WXE2WmEDX4WmEDvKWmE3vN2XYS2XYR2t1DX4t1Pf2X4f22X8DWDkH3aS2de92Yg52XiA2yA2",
  "Yh62e52XYT2eE2WmG2cJDX4cJ2XYU3aS2deA2deB2vIDWDC4jK4b6DX4vIW4WDCWHX7DdRvI2YhUDWDCFWHi74i73aS2X7",
  "2Yi02Wm93ZPNWDlUc0DvKWm92deCCYi1Yi22Yi12Yi32e6DWDC4i83vN2dDDWDG2deD2deENWDj4c0W3f2WHj4c02XZ0DW",
  "DdC4bHFWHbH4n8W3e5WHj4c04e64bB4d6PWHCdC6bHHWHbHOn9WHbH4vJ2deF2dH2WmH2bBNy8WDf25yA5vOWFX4bBy8WD",
  "vO5vJ3c0DX4bBDdRbBPy8X4y82YhINWcNWDXYD5l45WVP5n8FfFaS5Wm85X65e65Yi45n9NWcOWDl46B2WT2WXF2XY62kG",
  "2Yi52bQDWDC4rM4l44i64G4K4XYP4B4n9DdRbQ2Yi6DWDXYQ4i84b6DvKYi62X12deG2jD2gT2XHCy9Yi22y9DWDC4k74W",
  "cQ4WN4vM4jK4t14eE4bB4vO4WmD4sQ4n94Yi74WcE4xD4vJDX4y93aS2vONoHWDr92deH2WXD2ZB2Wm7DWDC4iA4kI4e64",
  "yB4Wc64BFWHC2Yi82deI2rB2d63lTXBX4d6t4X4t4f2X4f2WOsQX4sQf2X4f22deJ2deK2XY82deL2deM2WmDDWDC4t02Y",
  "i9DWDC4WmA4XYF4XYG4f24fF5aS4WcS4XYR4XYU4vO2deN2WmF3c0WCX4WmFr5X4r52XY92lUNX4ZPlU2yB2deO2gF3aS2",
  "YhJ2XZ1NX4XZ1yB2YhT2Yi42hADX4hA2deP2deQ2YhK2WWM2deR2Wl32deS2XJ3bCDWDeO4eE3aS2sQXBX4sQdDX4dDgIX",
  "4gI3d32WcTDWDl44n84d64lU4vL4i82kH2x42cQ3aS2iO3c02XXD2Wu7DWDkHDX4Wu7WOt4X4t4f2X4f22fO2vL2XpS2Wl",
  "I2Wc6WCX4Wc6b6X4b62B3n8DBBXBX4BWTX4WTf2X4f2PWl3X4Wl3WEBZ2X4BZ22n92Yi72i83WcSDWDiA4eEWDBWHBWHB9",
  "aS3aS3vNEWDiA2deT2WcEDWDoHOe5WHXM4Wm74B2deU2YhLDWDoI4WT2u23aS2xDDdRxD3vN2XZ2W2WDCWHWN6X74rN4WN",
  "4bB4n9FWHbH6l42df02df12df22YiADWDC4XYD4WG4XYH4Y04y5Ej4c04f24k84WN4fF4t04XYK4hD4t14WmG4WT4d64XZ",
  "14fOOBWHn84i84Wd02Wd0DWDB2vJDWDC4hO4jK4kH2df32df42df52df62df7DWDoI2df82b63c0Nd3WDjK2df92dfA2df",
  "B2qKDX4qK2dfC2dfDDYh5c02dfE2YiB2o12YiCDWDC2dfF2dfGCYVKYiDMrMWDbBMWcNWDCMXYBWDdfHWLWhRWcOWDn9WH",
  "yA2dfIMgIWHlUMWcQWDd6MXYIWDn84d6X0WmBWDdCWHvMWHC4r92dfJ2dfK2dfLMWQWDXYC4dfM4kI4n8OeOWDr94t14WT",
  "4dfN4fO4XZ2MoHWDgUW1WcUvNWDiAW2WDt3WHrA4lU2Xx2MYhUWDb62dfO2XZ32dfPMXZ0WDWmA4gUW1WmHa0cMaTCYi5b",
  "C2dfQW1y9WDfFaS2dfRMWcEWDe5CBBcEYAYf65EbHDNbHDTbHDW2bHDWBbHDWJbHDWCbHDWObHDNgIDTgIDW2gIDWBgIDW",
  "JgIDWCgIDWOgIDTBDW2BDWBBDWJBDWCBDWOBDFt5DEt5DNt5DTt5DW2t5DWBt5DWJt5DWCt5DWOt5DFWd1DEWd1DNWd1DT",
  "Wd1DW2Wd1DErBDNrBFh43DTrBDW2rBDWBrBDWJrBDWCrBDWOrBDFWd2DEWd2DNWd2Fh43DTWd2DW2Wd2WCrBWDy5WHgI7W",
  "mGDFWd3DEWd3DNWd3Fh43DTWd3DW2Wd3W2Nh43dfS6dfTW2Th43YiE6dfUGYiEC7YRW2WBh43dg0W2WJh43dg1GXY7C7YR",
  "W2WCh43dg26dg3W2WOh43YiF6dg46dg5GYiFCNEbHc0NNbHc0NTbHc0NW2bHc0NWBbHc0DFWd4DEWd4DNWd4DTWd4Fh43D"]

/-- The names of characters from U+10000 on, part 2. -/
def wideB : List String := [
  "W2Wd4Fh433dg63dg7DFYiGDEYiGNFmQgINEsCgINW2XrIgIWCFmQh43CWCEsCh43CNFf0bHEd8bHW2aOYiHFWvM6d8NFd8",
  "Wl1EWLWl1NYiDFmQEEsC4iR4dEW2TBh43W2W2Bh43W2WBBh43W2WJBh43W2WCBh43W2WOBh43d32bM5aOYiHkTWWSDW8dF",
  "DbGdF4XqR4dg8cOC5rMWDbBc04yBMzJWDt3W1iAWDgIc0MXYEWDWcN4dD4b6WBi6X4i6WDYi0MXMWDkHMWhRWDjKMWcPWD",
  "fFOBBBMXYAWDi8MWVPWDXYC4bHFfRA4XYG4XYH4WXA4Y04gUEWXBaS4kI4WN4eOEfFaS4oI4jK4WcSFWHoI4dg94cPFWDj",
  "KOXYSWHkI4yA4XYT4eE4dD4bQ4d6EgFaSMWcIWDjK4kGCWXAYOMt3dRt3W1XYIvNWDbH5eOFfFaS5X65rA5e55XYT5hADW",
  "DhAMWmBWDXYEEWcPaSW3WVPWDfFaS6oI4YhA4Y0Of2WHi76e6OWNWHCOWcSWHoI4cPFWDjK4XYS4vI4e6FWHWcI6gU4Yi9",
  "4YiBW1XYMa0cMaTMYhBWDBWBkIWDkIdRkIW1YhCWDfFaSWBn8WHkIWDkHMWNc0aSX0eOWDbHX4eOWDbHMWQWDi64WQOBBB",
  "4xDWBoHWDo1X4o12dgA2dgB2dgC2dgD2YiI2dgE2dgFW1YiJX4YiJaS2dgGMYiKX4YiK2dgH2dgI2dgJ2dgK2dgL2dgM2d",
  "gN2dgO2dgP2dgQ2dgR2dgS2dgT2dgU2dh02dh12dh22dh32dh4DWDk84fFOkGWHWXEQkGWHWXEOn9WHYA2dh52dh62dh72",
  "dh82dh92dhA2dhB2dhC2dhD2dhE2dhFDWDbH4iAOWm5aSaS4WXC4X64x44cQ4n94i84Wd02dhG2dhHDWDWcQ4Y04fF5aS4",
  "dDWDkGWHkGWHWXEOXY8WHhD4i84Wd02dhI2dhJW1WcUaSWDbHDWDgI4WcR4kGW4WHkGWHWXE4kHMeEWHYiLWBvIX4vIWDY",
  "06vMW1XZ0WDWcPaS4kI4YhD4eO4YhQ4YiI4yAOkGWHkG4BFWHB4Wd0W1y9aSWDWNDWDb3Od6fRA4kHCYi8c0Md6X4d6DWH",
  "XYJ4Yi34WXDWByBWHWVPWDdDOWcIWDdCMgFWDkHMkHWHy9W1WlIWDj4c0ENgICXZ2ZPDWDi8MYiAWDYh84dhK4WXE2YiLW",
  "Bo1X4o1WHWXDWBYiCWDNgIc0c3Xs2dhL5dhM2dhN2dhO2dhP2dhQ2dhR2dhS2dhT2dhU2di02di12di22di32di42di52d",
  "i62di72di82di92diA2diB2diC2diD2diE2diF2diG2diH2diI2diJ2diK2diL2diM2diN2diO2diP2diQ2diR2diS2diT",
  "2diU2dj02dj12dj22dj32dj42dj52dj62dj72dj82dj92djA2djB2djC2djD2djE2djF2djG2djH2djI2djJ2djK2djL2d",
  "jM2djN2djO2djP2djQ2djR2djS2djT2djU2dk02dk12dk22dk32dk42dk52dk62dk72dk82dk92dkA2dkB2dkC2dkD2dkE",
  "2dkF2dkG2dkH2dkI2dkJ2dkK2dkL2dkM2dkN2dkO2dkP2dkQ2dkRc3EdkSYiMYiN2YiO2YiP2YiQ2YiR2dkT2YiS2dkU2d",
  "l02YiT2YiU2Yj02Yj12Yj22Yj32Yj42Yj52dl12Yj62Yj72Yj82dl22Yj92YjA2YjB2YjC2YjD2YjE2YjF2YjG2YjH2YjI",
  "2YjJ2YjK2YjL2YjM2YjN2dl32YjO2YjP2YjQ2YjR2YjS2YjT2YjU2Yk02dl42Yk12Yk22dl52Yk32dl62Yk42Yk52Yk62Y",
  "k72Yk82Yk92YkA2YkB2YkC2YkD2YkE2YkF2YkG2YkH2YkI2YkJ2YkK2YkL2YkM2YkN2YkO2YkP2YkQ2YkR2YkS2YkT2YkU",
  "2Yl02YaE2YaI2YaH2YaK2YaL2dl72YaG2YaF2YaD2YaJ2dl82dl92dlA2dlB2dlC2dlD2dlE2dlF2dlG2dlH2dlI2dlJ2d",
  "lK2dlL2dlM2dlN2dlO2dlP2dlQ2dlR2dlS2dlT2dlU2dm02dm12dm22dm32dm42dm52dm62dm72dm82dm92dmA2dmB2dmC",
  "2dmD2dmE2dmF2dmG2dmH2dmI2dmJ2dmK2dmL2dmM2dmN2dmO2dmP2dmQ2dmR2dmS2dmT2dmU2dn02dn12dn22dn32dn42d",
  "n52dn62dn72dn82dn92dnA2dnB2dnC2dnD2dnE2dnF2dnG2dnH2dnI2dnJ2dnK2dnL2dnM2dnN2dnO2dnP2dnQ2dnR2dnS",
  "2dnT2dnU2do02do12do22do32do42do52do62do72do82do92doA2doB2doC2doD2doE2doF2doG2doH2doI2doJ2doK2d",
  "oL2doM2doN2doO2doP2doQ2doR2doS2doT2doU2dp02dp12dp22dp32dp42dp52dp62dp72dp82dp92dpA2dpB2dpC2dpD",
  "2dpE2dpF2dpG2dpH2dpI2dpJ2dpK2dpL2dpM2dpN2dpO2dpP2dpQ2dpR2dpS2dpT2dpU2dq02dq12dq22dq32dq42dq52d",
  "q62dq72dq82dq92dqA2dqB2dqC2dqD2dqE2dqF2dqG2dqH2dqI2dqJ2dqK2dqL2dqM2dqN2dqO2dqP2dqQ2dqR2dqS2dqT",
  "2dqU2dr02dr12dr22dr32dr42dr52dr62dr72dr82dr92drA2drB2drC2drD2drE2drF2drG2drH2drI2drJ2drK2drL2d",
  "rM2drN2drO2drP2drQ2drR2drS2drT2drU2ds02ds12ds22ds32ds42ds52ds62ds72ds82ds92dsA2dsB2dsC2dsD2dsE",
  "2dsF2dsG2dsH2dsI2dsJ2dsK2dsL2dsM2dsN2dsO2dsP2dsQ2dsR2dsS2dsT2dsU2dt02dt12dt22dt32dt42dt52dt62d",
  "t72dt82dt92dtA2dtB2dtC2dtD2dtE2dtF2dtG2dtH2dtI2dtJ2dtK2dtL2dtM2dtN2dtO2dtP2dtQ2dtR2dtS2dtT2dtU",
  "2du02du12du22du32du42du52du62du72du82du92duA2duB2duC2duD2duE2duF2duG2duH2duI2duJ2duK2duL2duM2d",
  "uN2duO2duP2duQ2duR2duS2duT2duU2dv02dv12dv22dv32dv42dv52dv62dv72dv82dv92dvA2dvB2dvC2dvD2dvE2dvF",
  "2dvG2dvH2dvI2dvJ2dvK2dvL2dvM2dvN2dvO2dvP2dvQ2dvR2dvS2dvT2dvU2dw02dw12dw22dw32dw42dw52Yl12dw62d",
  "w72Yl22Yl32dw82Yl42Yl52Yl62Yl72Yl82Yl92YlA2dw92YlB2YlC2dwA2dwB2dwC2dwD2dwE2dwF2dwG2dwH2YlD2YlE",
  "2YlF2dwI2YlG2dwJ2YlH2dwK2YlI2YlJ2YlK2YlL2YlM2dwL2YlN2YlO2dwM2YlP2YlQ2YlR2YlS2dwN2YlT2YlU2Ym02d",
  "wO2Ym12Ym22dwP2dwQ2Ym32Ym42Ym52Ym62Ym72Ym82Ym92dwR2YmA2YmB2YmC2YmD2dwS2dwT2dwU2dx02dx12dx22dx3",
  "2dx42dx52dx62dx72dx82dx92dxA2dxB2dxC2dxD2dxE2dxF2dxG2dxH2dxI2dxJ2dxK2dxL2dxM2dxN2dxO2dxP2dxQ2d",
  "xR2dxS2dxT2dxU2dy02dy12dy22dy32dy42dy52dy62dy72dy82dy92dyA2dyB2dyC2dyD2dyE2dyF2dyG2dyH2dyI2dyJ",
  "2dyK2dyL2dyM2dyN2dyO2dyP2dyQ2dyR2dyS2dyT2dyU2dz02dz12dz22dz32dz42dz52dz62dz72dz82dz92dzA2dzB2d",
  "zC2dzD2dzE2dzF2dzG2dzH2dzI2dzJ2dzK2dzL2dzM2dzN2dzO2dzP2dzQ2dzR2dzS2dzT2dzU2eV02eV12eV22eV32eV4",
  "2eV52eV62eV72eV82eV92eVA2eVB2eVC2eVD2eVE2eVF2eVG2eVH2eVI2eVJ2eVK2eVL2eVM2eVN2eVO2eVP2eVQ2eVR2e",
  "VS2eVT2eVU2eW02eW12eW22eW32eW42eW52eW62eW72eW82eW92eWA2eWB2eWC2eWD2eWE2eWF2eWG2eWH2eWI2eWJ2eWK",
  "2eWL2eWM2eWN2eWO2eWP2eWQ2eWR2eWS2eWT2eWU2eX02eX12eX22eX32eX42eX52eX62eX72eX82eX92eXA2eXB2eXC2e",
  "XD2eXE2eXF2eXG2eXH2eXI2eXJ2eXK2eXL2eXM2eXN2eXO2eXP2eXQ2eXR2eXS2eXT2eXU2eY02eY12eY22eY32eY42eY5",
  "2eY62eY72eY82eY92eYA2eYB2eYC2eYD2eYE2eYF2eYG2eYH2eYI2eYJ2eYK2eYL2eYM2eYN2eYO2eYP2eYQ2eYR2eYS2e",
  "YT2eYU2eZ02eZ12eZ22eZ32eZ42eZ52eZ62eZ72eZ82eZ92eZA2eZB2eZC2eZD2eZE2eZF2eZG2eZH2eZI2eZJ2eZK2eZL",
  "2eZM2eZN2eZO2eZP2eZQ2eZR2eZS2eZT2eZU2ea02ea12ea22ea32ea42ea52ea62ea72ea82ea92eaA2eaB2eaC2eaD2e",
  "aE2eaF2eaG2eaH2eaI2eaJ2eaK2eaL2eaM2eaN2eaO2eaP2eaQ2eaR2eaS2eaT2eaU2eb02eb12eb22eb32eb42eb52eb6",
  "2eb72eb82eb92ebA2ebB2ebC2ebD2ebE2ebF2ebG2ebH2ebI2ebJ2ebK2ebL2ebM2ebN2ebO2ebP2ebQ2ebR2ebS2ebT2e",
  "bU2ec02ec12ec22ec32ec42ec52ec62ec72ec82ec92ecA2ecB2ecC2ecD2ecE2ecF2ecG2ecH2ecI2ecJ2ecK2ecL2ecM",
  "2ecN2ecO2ecP2ecQ2ecR2ecS2ecT2ecU2ed02ed12ed22ed32ed42ed52ed62ed72ed82ed92edA2edB2edC2edD2edE2e",
  "dF2edG2edH2edI2edJ2edK2edL2edM2edN2edO2edP2edQ2edR2edS2edT2edU2ee02ee12ee22ee32ee42ee52ee62ee7",
  "2ee82ee92eeA2eeB2eeC2eeD2eeE2eeF2eeG2eeH2eeI2eeJ2eeK2eeL2eeM2eeN2eeO2eeP2eeQ2eeR2eeS2eeT2eeU2e",
  "f02ef12ef22ef32ef42ef52ef62ef72ef82ef92efA2efB2efC2efD2efE2efF2efG2efH2efI2efJ2efK2efL2efM2efN",
  "2efO2efP2efQ2efR2efS2efT2efU2eg02eg12eg22eg32eg42eg52eg62eg72eg82eg92egA2egB2egC2egD2egE2egF2e",
  "gG2egH2egI2egJ2egK2egL2egM2egN2egO2egP2egQ2egR2egS2egT2egU2eh02eh12eh22eh32eh42eh52eh62eh72eh8",
  "2eh92ehA2ehB2ehC2ehD2ehE2ehF2ehG2ehH2ehI2ehJ2ehK2ehL2ehM2ehN2ehO2ehP2ehQ2ehR2ehS2ehT2ehU2ei02e",
  "i12ei22ei32ei42ei52ei62ei72ei82ei92eiA2eiB2eiC2eiD2eiE2eiF2eiG2eiH2eiI2eiJ2eiK2eiL2eiM2eiN2eiO",
  "2eiP2eiQ2eiR2eiS2eiT2eiU2ej02ej12ej22ej32ej42ej52ej62ej72ej82ej92ejA2ejB2ejC2ejD2ejE2ejF2ejG2e",
  "jH2ejI2ejJ2ejK2ejL2ejM2ejN2ejO2ejP2ejQ2ejR2ejS2ejT2ejU2ek02ek12ek22ek32ek42ek52ek62ek72ek82ek9",
  "2ekA2ekB2ekC2ekD2ekEbQ2W8w9CXFw9W1ekFfRbStTEdItTEbScNEdIcNCg9W6CtIWw2CcNWw2c3ZbAekGYiMYiN2YiO2",
  "YiP2YiQ2YiR2YiS2YiT2YiU2Yj02Yj12ekH2Yj22Yj32Yj42Yj52Yj62Yj72Yj82Yj92YjA2YjB2YjC2YjD2YjE2YjF2Yj",
  "G2YjH2ekI2YjI2YjJ2YjK2YjL2YjM2YjN2YjO2YjP2YjQ2YjR2YjS2YjT2YjU2ekJ2Yk02Yk12ekK2Yk22Yk32Yk42Yk52",
  "Yk62Yk72ekL2ekM2Yk82Yk92YkA2YkB2YkC2YkD2YkE2YkF2YkG2YkH2YkI2YkJ2YkK2YkL2YkM2YkN2YkO2YkP2YkQ2Yk",
  "R2ekN2ekO2ekP2YkS2YkT2YkU2Yl02ekQ2ekR2ekS2ekT2ekU2el02el12el22el32el42el52el62el72el82el92elA2",
  "elB2elC2elD2elE2elF2elG2elH2elI2elJ2elK2elL2elM2elN2elO2elP2elQ2elR2elS2elT2elU2em02em12em22em",
  "32em42em52em62em72em82em92emA2emB2emC2emD2emE2emF2emG2emH2emI2emJ2emK2emL2emM2emN2emO2emP2emQ2",
  "emR2emS2emT2emU2en02en12en22en32en42en52en62en72en82en92enA2enB2enC2enD2enE2enF2enG2enH2enI2en",
  "J2enK2enL2enM2enN2enO2enP2enQ2enR2enS2enT2enU2eo02eo12eo22eo32eo42eo52eo62eo72eo82eo92eoA2eoB2",
  "eoC2eoD2eoE2eoF2eoG2eoH2eoI2eoJ2eoK2eoL2eoM2eoN2eoO2eoP2eoQ2eoR2eoS2eoT2eoU2ep02ep12ep22ep32ep",
  "42ep52ep62ep72ep82ep92epA2epB2epC2epD2epE2epF2epG2epH2epI2epJ2epK2epL2epM2epN2epO2epP2epQ2epR2",
  "epS2epT2epU2eq02eq12eq22eq32eq42eq52eq62eq72eq82eq92eqA2eqB2eqC2eqD2eqE2eqF2eqG2eqH2eqI2eqJ2eq",
  "K2eqL2eqM2eqN2eqO2eqP2eqQ2eqR2eqS2eqT2eqU2er02er12er22er32er42er52er62er72er82er92erA2erB2erC2",
  "erD2erE2erF2erG2erH2erI2erJ2erK2erL2erM2erN2erO2erP2erQ2erR2erS2erT2erU2es02es12es22es32es42es",
  "52es62es72es82es92esA2esB2esC2esD2esE2esF2esG2esH2esI2esJ2esK2esL2esM2esN2esO2esP2esQ2esR2esS2",
  "esT2esU2et02et12et22et32et42et52YbS2YbT2YbU2Yc02Yc12Yc22Yc32Yc42et62Yc52Yc62Yc72Yc82et72Yc92Yc",
  "A2YcB2YcC2YcD2YcE2YcF2YcG2YcH2YcI2YcJ2YcK2YcL2YcM2YcN2YcO2et82YcP2YcQ2et92etA2etB2YcR2YcS2YcT2",
  "YcU2etC2etD2etE2Yd02Yd12Yd22Yd32Yd42Yd52Yd62Yd72Yd82Yd92YdA2YdB2YdC2YdD2YdE2YdF2YdG2YdH2YdI2Yd",
  "J2YdK2YdL2YdM2etF2YdN2YdO2YdP2YdQ2YdR2etG2YdS2YdT2YdU2Ye02etH2Ye12Ye22Ye32etI2etJ2etK2etL2etM2",
  "etN2etO2etP2etQ2etR2etS2etT2etUW1eu0X1YKjD2eu12eu22eu32eu42eu52eu62eu72eu82eu92euA2euBCeuCWC2e",
  "uD2euE2euF2euG2euH2euI2euJ2euK2euL2euM2euN2euO2euP2euQ2euR2euSW1euTtIWcFLW1euUcNWcFL2ev02ev12e",
  "v22ev32ev42ev52ev62ev72ev82ev92evA2evB2evC2evD2evE2evF2evG2evH2evI2evJ2evK2evL2evM2evN2evO2evP",
  "2evQ2evR2evS2evT2evU2ew02ew12ew22ew32ew42ew52ew62ew72ew82ew92ewA2ewB2ewC2ewD2ewE2ewF2ewG2ewH2e",
  "wI2ewJ2ewK2ewL2ewM2ewN2ewO2ewP2ewQ2ewR2ewS2ewT2ewU2ex02ex12ex22ex32ex42ex52ex62ex72ex82ex92exA",
  "2exB2exC2exD2exE2exF2exG2exH2exI2exJ2exK2exL2exM2exN2exO2exP2exQ2Ye42Ye52Ye62Ye72Ye82Ye92exR2Y",
  "eA2YeB2YeC2YeD2YeE2YeF2exS2YeG2YeH2exT2exU2ey02YeI2YeJ2ey12YeK2YeL2YeM2YeN2YeO2YeP2YeQ2YeRcNdz",
  "GYY91ey2YmEyCDey3YmFNXY5yCYmG5YmHDzIyC3ey4DYmIyCDXW4yCNey5WTWc8W2XY5WTWc8YmG6YmH3ey6DfOXZ43ey7",
  "3ey83ey93eyA3eyB3eyC3eyD3eyE3WlC3eyF3eyGDXZ5Wl2DWmIeyH3eyI3eyJ3eyK3eyLDx1YmJDeyMXZ6NBXWRYmK3ey",
  "NDWmIYmL3eyO3eyP3eyQ3eyR3eySDWTXZ7DWVQXZ73eyT3eyU3ez03XzP3ez13ez23ez33ez43ez53y63ez63ez73ez83e",
  "z93ezA3ezB3ezC3ezD3ezEDWbDezF3ezG3WmINXZ8XZ9YmMDYWPezH3ezI3YmN3ezJ3XWK3YmO3YmP3YmQ3Wv83YmR3XW5",
  "3YmS3YmT3XZA3lS3ezK3XWS3uF3g33WqI3YmU3ezLCezMezNDfOezO3ezPDpHfODYn0WmJDWaDezQ3ezR3ezS3ezT3ezU3",
  "fV0DfV1XZ7NcPXZ9WmKDfV2fV3DWl0fV43fV53XzMDfOYn1DYWIfV63fV7DyCYn2DXZBfV8DlSWmJ3fV93fVA3fVB3fVC3",
  "fVD3fVEDfVFYn3DfVGXWE3fVH3fVI3fVJ3fVK3fVL4ZJ3fVM3Yn43fVN3fVO3fVP3fVQDXZ6fVR3fVS3fVT3xB3fVUDX8f",
  "W04fW13XZ53Yn53fW23X83fW33XZCMfW4YmEXZ43XW43YmM3fW53XWK3fW63fW73fW83fW93fWANfWBfWCYn6DfWDXZB3Y",
  "n73fWE3fWFDWX3fWG3fWH3fWI3fWJDcOfWK3fWL3fWM3fWN3XZB3fWO3fWP3WgP3XWP3fWQ3fWR3Yn8DYmIfWS3fWTDfWU",
  "WmK3fX03fX1DX8fX23YmL3fX33XW13fX43fX53fX63fX73fX83Yn93fX93fXA3fXB3fXC3fXD3fXE3gT3XWO3cP3fXFDfX",
  "GXZC3fXH3y63XWG3YmO3fXI3g33Wl23YmP3XZC3fXJ3fXK3fXL3fXMDXW2YmN3fXN3YnADX8Yn13zH3XVS3fXO3fXP3XWB",
  "3XZ43YmQ3fXQ3fXR3YnBDWX3fXS3YnC3YnD3YnE3YnF3YnGDWYEYnH4fXT3fXU3YmU3fY03YnI3WX83wDCfY1fY23YW03W",
  "c83yC3fY33fY43fY53fY63fY73WmK3fY83fY93WgK3fYA3fYB3fYC3fYD3fYE3Yn43y63fYF3fYG3YWC3fYH3fYI3fYJ3X",
  "Z63fYK3WY83fYLDfYMfYN3fYO3fO3Yg83fYP3fYQ3XWA3fYR3fYS3fYT3fYU3fZ03fZ13fZ23fZ33t13fZ43WX33fZ53Wv",
  "83YmR3XW53YnC3YnB3fZ63fZ73fZ83fZ93fZA3fZB3XzN3fZC3fZD3XZ53Yn53fZE3fZF3fZG3kG3YWT3YnA3WmJ3fZH3Y",
  "hS3fZI3fZJ3YVA3Yn63fZK3fZL3fZM3fZN3fZO3fZP3fZQ3XZ93Yn83YnJ3hODWlEaO3XWM3YnK3lS3WhC3YYB3XWN3XB3",
  "WlC3cJ3WhA3YYC3Wk23dH3lU3XWU3s73dD3XZ83fZR3Yn33WlDDWlEWvS3iO3YYJDWX3WJ3fZS3Wh4CfZTXVS3fZU3Yn73",
  "XW13fa03fa13Wh53XrA3fa23fa33fa43XX23x03Xp93fa53YW13x53YmJ3YmS3WVG3XW23Yn03YmT3YVQ3XZA3fa63fa73",
  "fa83fa93YnD3faA3WgJ3faB3YX83faC3faD3YYL3WbD3XhJ3faE3faFDfaGWmJ3pH3faHDWlBfaIDfaJWmK3faK3faL3fa",
  "M3faN3iN3faO3faP3faQ3Yn23faR3faS3XZD3mM3faT3faU3fb03fb13fb23Wl43fb33fb43fb53WlI3fb63Xw8DlSfb73",
  "XW83fb83fb93fbA3fbB3fbC3Yn93fbD3fbE3y63Yg73fbF3fbG3c23fbH3fbI3fbJ3fbKDlSjI3fbL3fbM3YnE3fbN3YmK",
  "3YnF3YnJDs6K3fbO3fbP3fbQ3Wl23fbR3WmI3fbS3fbTDWTYnLDs6XV83XX33Wc93C3YnK3D3K3fbUDWTfc03x73fc1NWl",
  "BYV3Wb03YnG3fc23fc33fc4DXWQfc54WzK3XWR3fc63YYF3XWTDWc9fc73YYG3XX03xB3uF3g33eE3XX13WV53fc83Z83o",
  "U3XZ8Ds6fc93X73bQ3WlD3fM3rJ3X83YbQ3fcA3hD3x13YQ3fcB3fcCCfcDWQ3B3hO3bR3WZJ3XWM3lS3X63WhC3YYA3XW",
  "N3x73WlB3XWO3XB3WlC3WhA3gF3XWP3Wk23y63YYD3dH3YYE3XWQ3lU3X93XWS3XWT3XWU3XX03s73gT3dD3XX13WYE3YY",
  "H3WcA3oU3XX23XX33ZH3iP3WlD3fM3YYI3WlE3X83gS3WX33wD3Wc53YYK3fcEc38fcF1XJ2WhE2dJ2WeP2YA2XM2C2fH2",
  "XhE2fcG2fcH2Wh02fcI2XqA2XZA2XZ32WT2b72D2f12WV92fcJ2XX82ZH2G2fM2YbP2X62fcK2jD2fcLbP2XKY92F2E2N2",
  "T2W22WB2WJ2WC2WObF5e3BJe3KfcM1fcN2fcO2XXU2WkR2Xg52WhJ2WYQ2XzK2fcP2fcQ2fcR2fcS2WcK2WcL2fcT2WkS2",
  "fcU2XXS2XXT2XzJ2fd02WhT2fd12fd22fd32fd42fd52YnM2fd62fd72fd82fd9CIi3CYPYnNCb0YnO3YnM2fdA2YnO2fd",
  "B2YnN2fdC2fdD2fdE2fdF2fdG2YnP2fdH2fdI2WQ2ZS2Y02Z82XH2X92ZH2WT2ZO2aJ2YA2X82X72WN2X62YZ82XJ2XM2X",
  "12WX52ZB2ZI2e42b42fdJ2a52l52c22b82ZM2b6bP2XKY92F2E2N2T2W22WB2WJ2WC2WOcD7Wd5Yg61fdK3WQ3h13c23Wl",
  "73YWS3Yg43fdL3fdM3p93fdN3ZH3nP3XWF3hM3s53fdO3O3YA3x63fdP3WT3fdQ3C3D3b73B3bR3G3Kc53cDZ3YIDY1YID",
  "w8YIDfdRYIDfdSYICaUZAcDBfdTYnQXEfdU3fe03fe13fe23fe33fe43fe53fe63fe73fe83fe93feA3feB3feC3feD3fe",
  "E3feF3feG3feH3feI3feJ3feK3YhN3feL3feM3feN3feO3fePCgEfeQ3feR3feS3YgS3feT3feU3ff03ff13ff23ff33ff",
  "43ff53ff63ff73ff83ff93ffA3Z93ffB3ffCMLWcMffD4fN4ffE4ffF4ffG4ffH4ffIM5Wd6ffJEffKffLDWcMffMDWd6f",
  "fN4ffODffPffQ4eT4ffR4ffSDWd6ffTDYnRffUDWd6fg0DXYPXw73fg1NWcMfg2XZEbQBXKY93F3E3N3T3W23WB3WJ3WC3",
  "WObQ2ZTXZF3XY2DYQtP3wCDWMwCDYQfg33fg4c525Wd6fg53fg63XVUDfg7XVUDYnSfg83fg93fgA3fgB3fgC3WVTDfgDf",
  "gEDYnRfgF3iJ3fgG3fgHWCWcMfgIfgJYnTYnTEfgKfgL4fgM5fgNEfgOfgPEfgQfgRc56XxF5fgS4fgT4fgU4fh04fh14W",
  "a24fh24fh34fh44fh54fh64fh74fh84fh94fhA4WyL4fhB4fhC4fhDcDr7YnU41XB3WA3XT3YS3Yo03YF3Yo13YH3XS3XO",
  "3ZK3K3XR3C3Z53G3YR3YE3B3cO3WE3a73WkJ3Yo23YO3Y63c73X03W73D3Z03Y7L21XB3WA3XT3YS3Yo03YF3Yo13YH3XS",
  "3XO3ZK3K3XR3C3Z53G3YR3YE3B3cO3WE3a73WkJ3Yo23YO3Y63c73X03W73D3Z03Y7BXKY92F2E2N2T2W22WB2WJ2WC2WO",
  "BZTYQ2o52m22v02v12pI2qC2v22sK2v3W0XKFgH3MEgH3MNgH31a4BaUZABW1fhEBf5WYFc3Y9fhF1WT2YACeBWT2Wf62X",
  "82YgDChSX82c22aL2fhG2XJ2XMCeBb13XJ2b12b52X72WX5CeBbIChSX72bI2fhH2X62fhI2tR2fhJ2Wu32fhK2fhL2fhM",
  "2WQ2Y0CeBWQ2hI2fhN2Z82YgBChSZ82WN2l52b42WpU2fhO2fhP2ZO2YgC2l22WZ6CeBl23WZ6CXZGl22ZB2c32gR2fhQ2",
  "e42mJCeBe42XH2b62fhR2Wk12fhSChSWk12fhT2fhU2ZH2nQ2s32fi02fi12fi22cQ2lM2fi3cE55gEe0WGB1WpLB5Yo3C",
  "XZGXd13Yo3LXE5C3YC3fi43dC3nT3D3b73g43YS3G3b33nF3fi53K3WlM3YbD3fi63WoK3j93YU3Wc23Wu83B3WVL3fi73",
  "fi83ZC3fi93fiA3Y73eB3dG3Yf83Wi0Dq9Wi03kODq9kO3Z03rR3Z93tG3X03i33fiB3fiC3fiD3fiE3fiF3YhH3XX83fi",
  "G3WlNbP8YI8CbS8292HB1qH2rU2x22qI2WfF2XZH2WmLCXZGWZB3qH3x23qI3WfF3WmLc3X3Yo4r4LKfiHr4LUaOYYMULC",
  "r4LUfiI2fUs2cNCfiJgHfiKLZI4fiLbObhLYo4fiM1fiN1fiO1fiP1fiQ1fiR1fiS1fiT1fiU1fj01fj11fj21fj31fj41",
  "fj51fj61fj71fj81fj91fjA1fjB1fjC1fjD1fjE1fjF1fjG1fjH1fjI1fjJ1fjK1fjL1fjM1fjN1fjO1fjP1fjQ1fjR1fj",
  "S1fjT1fjU1fk01fk11fk21fk31fk41fk51fk61fk71fk81fk91fkA1fkB1fkC1fkD1fkE1fkF1fkG1fkH1fkI1fkJ1fkK1",
  "fkL1fkM1fkN1fkO1fkP1fkQ1fkR1fkS1fkT1fkU1fl01fl11fl21fl31fl41fl51fl61fl71fl81fl91flA1flB1flC1fl",
  "D1flE1flF1flG1flH1flI1flJ1flK1flL1flM1flN1flO1flP1flQ1flR1flS1flT1flU1fm01fm11fm21fm31fm41fm51",
  "fm61fm71fm81fm91fmA1fmB1fmC1fmD1fmE1fmF1fmG1fmH1fmI1fmJ1fmK1fmL1fmM1fmN1fmO1fmP1fmQ1fmR1fmS1fm",
  "T1fmU1fn01fn11fn21fn31fn41fn51fn61fn71fn81fn91fnA1fnB1fnC1fnD1fnE1fnF1fnG1fnH1fnI1fnJ1fnK1fnL1",
  "fnM1fnN1fnO1fnP1fnQ1fnR1fnS1fnT1fnU1fo01fo11fo21fo31fo41fo51fo61fo71fo81fo91foA1foB1foC1foD1fo",
  "E1foF1foG1foH1foI1foJ1foK1foL1foM1foN1foO1foP1foQ1foR1foS1foT1foU1fp01fp11fp21fp31fp41fp51fp61",
  "fp71fp81fp91fpA1fpB1fpC1fpD1fpE1fpF1fpG1fpH1fpI1fpJ1fpK1fpL1fpM1fpN1fpO1fpP1fpQ1fpR1fpS1fpT1fp",
  "U1fq01fq11fq21fq31fq41fq51fq61fq71fq81fq91fqA1fqB1fqC1fqD1fqE1fqF1fqG1fqH1fqI1fqJ1fqK1fqL1fqM1",
  "fqN1fqO1fqP1fqQ1fqR1fqS1fqT1fqU1fr01fr11fr21fr31fr41fr51fr61fr71fr81fr91frA1frB1frC1frD1frE1fr",
  "F1frG1frH1frI1frJ1frK1frL1frM1frN1frO1frP1frQ1frR1frS1frT1frU1fs01fs11fs21fs31fs41fs51fs61fs71",
  "fs81fs91fsA1fsB1fsC1fsD1fsE1fsF1fsG1fsH1fsI1fsJ1fsK1fsL1fsM1fsN1fsO1fsP1fsQ1fsR1fsS1fsT1fsU1ft",
  "01ft11ft21ft31ft41ft51ft61ft71ft81ft91ftA1ftB1ftC1ftD1ftE1ftF1ftG1ftH1ftI1ftJ1ftK1ftL1ftM1ftN1",
  "ftO1ftP1ftQ1ftR1ftS1ftT1ftU1fu01fu11fu21fu31fu41fu51fu61fu71fu81fu91fuA1fuB1fuC1fuD1fuE1fuF1fu",
  "G1fuH1fuI1fuJ1fuK1fuL1fuM1fuN1fuO1fuP1fuQ1fuR1fuS1fuT1fuU1fv01fv11fv21fv31fv41fv51fv61fv71fv81",
  "fv91fvA1fvB1fvC1fvD1fvE1fvF1fvG1fvH1fvI1fvJ1fvK1fvL1fvM1fvN1fvO1fvP1fvQ1fvR1fvS1fvT1fvU1fw01fw",
  "11fw21fw31fw41fw51fw61fw71fw81fw91fwA1fwB1fwC1fwD1fwE1fwF1fwG1fwH1fwI1fwJ1fwK1fwL1fwM1fwN1fwO1",
  "fwP1fwQ1fwR1fwS1fwT1fwU1fx01fx11fx21fx31fx41fx51fx61fx71fx81fx91fxA1fxB1fxC1fxD1fxE1fxF1fxG1fx",
  "H1fxI1fxJ1fxK1fxL1fxM1fxN1fxO1fxP1fxQ1fxR1fxS1fxT1fxU1fy01fy11fy21fy31fy41fy51fy61fy71fy81fy91",
  "fyA1fyB1fyC1fyD1fyE1fyF1fyG1fyH1fyI1fyJ1fyK1fyL1fyM1fyN1fyO1fyP1fyQ1fyR1fyS1fyT1fyU1fz01fz11fz",
  "21fz31fz41fz51fz61fz71fz81fz91fzA1fzB1fzC1fzD1fzE1fzF1fzG1fzH1fzI1fzJ1fzK1fzL1fzM1fzN1fzO1fzP1",
  "fzQ1fzR1fzS1fzT1fzU1gV01gV11gV21gV31gV41gV51gV61gV71gV81gV91gVA1gVB1gVC1gVD1gVE1gVF1gVG1gVH1gV",
  "I1gVJ1gVK1gVL1gVM1gVN1gVO1gVP1gVQ1gVR1gVS1gVT1gVU1gW01gW11gW21gW31gW41gW51gW61gW71gW81gW91gWA1",
  "gWB1gWC1gWD1gWE1gWF1gWG1gWH1gWI1gWJ1gWK1gWL1gWM1gWN1gWO1gWP1gWQ1gWR1gWS1gWT1gWU1gX01gX11gX21gX",
  "31gX41gX51gX61gX71gX81gX91gXA1gXB1gXC1gXD1gXE1gXF1gXG1gXH1gXI1gXJ1gXK1gXL1gXM1gXN1gXO1gXP1gXQ1",
  "gXR1gXS1gXT1gXU1gY01gY11gY21gY31gY41gY51gY61gY71gY81gY91gYA1gYB1gYC1gYD1gYE1gYF1gYG1gYH1gYI1gY",
  "J1gYK1gYL1gYM1gYN1gYO1gYP1gYQ1gYR1gYS1gYT1gYU1gZ01gZ11gZ21gZ31gZ41gZ51gZ61gZ71gZ81gZ91gZA1gZB1",
  "gZC1gZD1gZE1gZF1gZG1gZH1gZI1gZJ1gZK1gZL1gZM1gZN1gZO1gZP1gZQ1gZR1gZS1gZT1gZU1ga01ga11ga21ga31ga",
  "41ga51ga61ga71ga81ga91gaA1gaB1gaC1gaD1gaE1gaF1gaG1gaH1gaI1gaJ1gaK1gaL1gaM1gaN1gaO1gaP1gaQ1gaR1",
  "gaS1gaT1gaU1gb01gb11gb21gb31gb41gb51gb61gb71gb81gb91gbA1gbB1gbC1gbD1gbE1gbF1gbG1gbH1gbI1gbJ1gb",
  "K1gbL1gbM1gbN1gbO1gbP1gbQ1gbR1gbS1gbT1gbU1gc01gc11gc21gc31gc41gc51gc61gc71gc81gc91gcA1gcB1gcC1",
  "gcD1gcEcDev2pO1gcFqH3rU3x23qIbH2XZH3WmLDgcGWZB4qH4rU4x24qIbI2XZH4WmLbQ2hSGUWX11hSk6KYo51gcH2gc",
  "I2gcJ2gcK2gcL2gcM2gcN2gcO2gcP2gcQ2gcR2gcS2gcT2gcU2gd02gd12gd22gd32gd42gd52gd62gd72gd82gd92gdA2",
  "gdB2gdC2gdD2gdE2gdF2gdG2gdH2gdI2gdJ2gdK2gdL2gdM2gdN2gdO2gdP2gdQ2gdR2gdS2gdT2gdU2ge02ge12ge22ge",
  "32ge42ge52ge62ge72ge82ge92geA2geB2geC2geD2Yf22geE2geF2geG2geH2geI2geJ2geK2geL2geM2geN2geO2geP2",
  "geQ2geR2geS2geT2geU2gf02gf12gf22gf32gf42gf52gf62gf72gf82gf92gfA2gfB2gfC2gfD2gfE2gfF2Yf32gfG2gf",
  "H2gfI2gfJ2gfK2gfL2gfM2gfN2gfO2gfP2gfQ2gfR2gfS2gfT2gfU2Yf42gg02gg12gg22gg32gg42gg52gg62gg72gg82",
  "gg92ggA2ggB2ggC2ggD2ggE2YeU2ggF2ggG2ggH2ggI2ggJ2ggK2ggL2ggM2ggN2ggO2ggP2ggQ2ggR2ggS2ggT2ggU2gh",
  "02gh12gh22Yf02gh32gh42gh52gh62gh72gh82gh92ghA2ghB2ghC2ghD2ghE2ghF2ghG2ghH2ghI2ghJ2ghK2ghL2ghM2",
  "ghN2ghO2ghP2ghQ2ghR2ghS2ghT2ghU2gi02gi12gi22gi32gi42gi52gi62gi72gi82gi92giA2giB2giC2giD2giE2gi",
  "F2giG2giH2giI2giJ2giK2giL2giM2giN2giO2giP2giQ2giR2giS2giT2giU2gj02gj12gj22gj32gj42gj52gj62gj72",
  "gj82gj92gjA2gjB2gjC2gjD2gjE2gjF2gjG2gjH2gjI2XjH2gjJ2gjK2gjL2gjM2gjN2gjO2gjP2gjQ2gjR2gjS2gjT2Yf",
  "12gjU2gk02gk12gk22gk32gk42gk52gk62gk72gk82gk92gkA2gkB2gkC2gkD2gkE2gkF2gkG2gkH2gkI2gkJ2gkK2gkL2",
  "gkM2gkN2gkO2gkP2gkQ2gkR2gkS2gkT2gkU2gl02gl12gl22gl32gl42gl52gl62gl72gl82gl92glA2glB2glC2glD2gl",
  "E2glFUWX11hSp8UpO1hSeB3k63p8cDWFWX112h03fA3g4cDIpO12h03fA3g43X0c3XuGglG1XU2YO2YH2XS2ZK2XR2WE2Y",
  "R2Y62XT2XO2W7CYHX0CY6WACZKX0CXRXBCW7WA2uHCyDYo62Yo62WhHCyDZ52glH2Wu42glI2XB2X02Z52WACXBX0CX0XB",
  "CZ5XBCWAZ5MXB0MMX00MMZ50MW3X3i569MWA0M5HCXBWACX0WACZ5WACWAWAMXBX0WAMX0XBWAMZ5XBWAMWAZ5WAW1Z5WA",
  "0M3X04WACWAXS4W73YH4W7CXSWADW7WA2YS2glJCYSW7CWAX03XBMXRW7WAMXOW7WACWAXR4W72CCyDWcJ2WaA2D2glK2K",
  "2G2j9Cb0K2WlN2bRCyDq2CYo7KCyDbRCYPK2k62B2rT2XZICBX0CYPBCYo7B2XW9CyDB2glL2WcJ2tG2ZH2g42h02Yo82g",
  "lMCYgMB3D3K3CCglNdC3qBCyDb33dC3ZUCaCXBcE6glOAXFvPMw8XFvPM8XFvPMY1W8vPMw8W8vPMZ3W8vPCzKvPDWaHvP",
  "3Yo93aHDGUDKUDYo9UbQ4Z3Y3DWx9Y33ZLDYPZL3M3WU3Z73h33W8bQ8Y1Y3DWx9Y33ZLDYPZL3M3WU3Z73h33W837cE35",
  "D0bDLglP1WuMBJLW0bMglQaUZAUglRglS1XZJCglTXZJCWKWzRCW9WzRe1ZwKglUcDLWd7vQWAoJZUAWCvQWAoJZUANXZK",
  "ZUAW2Wd7vQZUANvQZUANYoAZUAW2yEoKZUANoKZUANWXGZUAWMyEoKWAWXHZUAWCoKWAWXHZUAWCWXGWAWXHZUAWMWd7vQ",
  "WAoJZU8WCvQWAoJZU8NXZKZU8W2Wd7vQZU8NvQZU8NYoAZU8W2yEoKZU8NoKZU8NWXGZU8WMyEoKWAWXHZU8WCoKWAWXHZ",
  "U8WCWXGWAWXHZU8NXZKWAoJW2yEoKWAoJNXZLyEoKNoKWAoJ4XZLNWXGWAoJNyEoKXZLDWd7WXG3gm03ZU3gm13WmM3gm2",
  "3gm33gm43gm53gm63gm73gm83gm93gmANWmNZUAcF3WsUWxOLgmB5gmC5gmDCLYoBDYoCYoB3gmE3YoDO0W8W03YoE4gmF",
  "3gmGDYoFYoG3gmH3gmIMgmJW8YoHMLpMYoH3WmNW1XPWsUWxOtBLgmKe0gmL3gmMDYoIYoJ3WmN3XZEbPAgmNgmO3YoK2g",
  "mPMgmQXTgmR2YoL2gmS2YoMDWAgmT2gmU3Wd8W1YoM0YoFYoG2YoN2gn02vRCgn1gn23YoK3gn33gn43gn5Cgn6WmO3XZM",
  "3vS3WmPDyFWmO4XZM4vS4WmPCJvRCZ2YoN2gn72gn82YoE2YoDCYoOXZM3vS3WmP3WmMCYoCYoLMYoOyFvS3YoPDyFWmMD",
  "XZNWmO4vS4Wd84yF2gn9DWAWXI3gnADWAoJ2WmN2XZE2wB2gnB2gnC2YoQDWAWXI4oJOWXIKoJOoJKWXI3gnDEWAWXIDWA",
  "gnEEgnFgnGOWXIKgnH2gnICYoQWd8CXZOWmO3gnJ3gnK3gnL3WmQ3Wd83gnM3YoPDWmMgnN3XZN3gnO3YoRDXZNyFDYoRy",
  "FW2WmR0ZDvRW2WmS0ZDvR3WmR3WmSO0JvR3YoS4WmQ2gnP3gnQ3gnR3gnS3gnTCXZOgnU3go03go12go23vS3WmPDYoTvS",
  "DyFvS4Wd8CXZOYoT4WmQW3WmR0ZDvRW3WmS0ZDvR4WmR4WmSP0JvR4YoS5WmQ4go32go42go52go62go72go8cDWUYoUmO",
  "W1Z43go93bJDYp0WmT4yGDYp1WmT4yG3goA3goB3XZP3goC4yG3goDDYp2WmTDXZQWmT3Xd83Wd93Yp34yG3goE3goFDYp",
  "4iBDXZRiB3goG3goH3goIDXZSiBDWmUiBDWd9iB3goJ3goKDYp5goLDgoMiBDgoNiBDYp6iB3goO3Wn03goPDYp7iB3goQ",
  "3goR3Yp8DYp9iBEgoSgoTDYpAiB3YpB3goU3Wn13gp03XZT3gp1NYp2XZQf4DWXJiB3gp2DWn2iBDgp3Wn23YpC3YpD3Yp",
  "EDYpFiB3gp4DXZUiBDXZPiB3gp53YpG3gp6DYpEXa0DWn2Xa03gp73gp8DXZSf4DYp4f4DYp0f43gp93gpA3gpB3gpCDYp",
  "Cf4NWd9f4tLNWmUf4tL3gpDDYp3f4NYpHgpEf43gpF3gpG3gpH3gpIDgpJXZSDYp1f4DYp7f4DYpDf43gpK3gpL3gpMDXZ",
  "Pf4DXZUf4DYpIXZU3gpN3gpODWn2f43gpPDYp9f43gpQDYpFf43gpRDYp8f4DgpSWn03gpT3gpU3gq03gq13gq23gq33gq",
  "43gq53YpJDYpIYpJDYpAf4Dgq6gq74XZQDYpBYpKNgq8z1gq93gqA3gqBDgqCyH4tL3Yp5DWn0tLDyGiBDgqDiB4Xa04f4",
  "DYp6f43Wn33yG3gqE3gqF3WoINYpLgqGYpMEWn1Xa1EgqHXa1EgqIXa1EgqJYpMNXZRf4tLEYpNYpO5YpP3gqKOYpNYpOy",
  "H6tL5YpP3gqL3gqM3gqN3gqONgqPYpQYpR4gqQ4YpR4gqR4gqS4YpS4gqTEYpQYpSNYpTYpUnAOYq0YpUnAEYq1nAOYq0Y",
  "q1nAEgqUnA4gr0EYq2nAFYq3nAEYq3nAEYq4nANgr1Yq5Yq6NYpHYq5Yq6Dgr2gr34Yq74Yq8NYpTgr4nAEgr5nAOYq4Yq",
  "2nANgr6X0YpK5gr7W2gr8z1WXJYq93gr93grAW2WXJiBgrBgrCEXa2WT5YpGEgrDnAEXa2i7OWn4grEi7EXa2hB5nPFdDy",
  "H6tLOgrFWn5Yq86Yq7W2grGWn4Wn5YqAW2WXJWn4Wn5grH4grIDgrJgrK4grL4grMW2WXJKWn6YqBEgrNgrODWn6YqCDYq",
  "DYqC4YqBOWn3Wn1vTOYqEXZTvTOYqFWkSvTOYqGYqHvTW2Wn6Wn3Wn1vTOYqEXZTvTOYqFWkSvTOYqGYqHvTDgrPYqD4Wn",
  "6NgrQWn3grR5grS4yG4YqIDgrTYqI5YqJ5YqK5YqL4grU5YqJ5YqK5YqLDgs0gs1Dgs2tG3WoJDgs3WT4Yq94Y04i74hB4",
  "nP4dDNWd9f4YqMNWmUf4YqMNWd9f4yHNWmUf4yHDWn0yHNXZRf4yHcDBmOW1ZDWXKCJWXKCIWXKMgKIWXKCmRWXKCb0WXK",
  "MAWbP5M8WbP5CWbPX3ClPYqNCXMgs42YqN2gs5Cgs6gs73gs83gs92Xd53HCYqOL2gsA2gsB2WPCgsCv6CgsDv6CgsEv6C",
  "gsFv6CgsGv6CgsHv6CgsIYqPCgsJYqPCXOWXLEXa3Wn75Wd5CYEWXLCZKWXLEXa3Wn75Wd5CWc0gsK3gsLc53mNWX6j3CJ",
  "yR3WWJCWWJW93WKCXtDW93WKCyRW93WKMd8YIyR4WWJCgsMXa4CXW3Xa4CXa3Wn73Wd5CgsNWn73Wd5CgsOj3CXa5j3CWL",
  "j3Cd8j3Cf0j3CzOj3CXY4j3CXY3j3W1FWMYqQj3CYOoLCWHoLMWUYOoLMWRoLS4PW1XQoLW9S5PEAS5PE8S5PEWKS5POW9",
  "8S6PMfEoLS4PW1gsPoLWKS5PCbOoLCgsQoLCoLPCWwBoLMgsRoLS4P2aDCXa5hPCWLhPCd8hPCf0hPCzOhPCXY4hPCXY3h",
  "PW1FWMYqQhPCcDsODgsSsO3YqR3YqS3YqTCgsTYqR3YqS3YqTMcDgsUM3gt03gt13gt23gt33gt4CtIYqUCcNYqUCtIWW2",
  "CcNWW2CtIYr0CcNYr0CtIYr1CcNYr1CcDcC3gt53gt63gt73gt83gt93gtA3gtBCgtCW93WKCcDgtD3gtE3YoJ3gtF3Wn8",
  "DJy4DbEy42gtG2gtH2YF2gtI2gtJ2gtK2gtL2gtMMXzBhPk9Ec4k92gtN2Xa6CZPXa6CXa6k93W9CaRgtO3gtP3gtQ3gtR",
  "3gtS3gtT3gtU3gu03gu13gu23gu32gu42gu5McNRgu6CWdPk9McDWKWWDDW9WWD3gu7Dgu8gu9CYr2LDW9LMWLYr2LCguA",
  "W93WKC0guB2guC3WaO2guD2XX52Yr3CYr4S3P2Yr53PCYr6S3PCguES3PMXX5Wn9j3DXa7j3CYr3j3CYr4j3CYr5j3CYr6",
  "j3WBguFguGYr7Yr8Wn96Xa7GWn9Yr9W2guHYr7Yr8Wn96Xa77Yr97guI7guJ2guKMguLYEWXLDZKWXLCWRYR2guM2guN2g",
  "uO2YrA2guP2YrB2guQ3YrCCYrAYrCCYrBguRCguSguTMguUYEWXLNcNRuUDIhPDgv0LDXa5hPDWLhPW2d8hPsOWK6W9W2f",
  "0hPsOWK6W9DWWJ52gv12gv2cDMfIgv3uRYrD3YrE3gv43YrF3YrG3gv53YrH3YrI3gv63gv73YrJ3YrK3YrL3YrM3gv83g",
  "v93YrN3YrO3YrP3gvA3gvB3gvC3YrQ3YrR3YrS3YrT3YrU3Ys03Ys1LgvDuRYrD3YrE3YrF3YrG3YrH3YrI3YrJ3YrK3Yr",
  "L3YrM3YrN3YrO3YrP3YrQ3YrR3gvE3gvF3gvG3gvH3gvI3gvJ3gvK3gvL3gvM3gvN3gvO3gvP3gvQ3gvR3gvS3gvT3gvU3",
  "YrS3YrT3YrU3Ys03Ys1UcDfImOXsD3XsE3XsFKfImOYpLc3a0gw0pSY92F2E2N2T2W22WB2WJ2WC2WO2YQ2o52m22v02v1",
  "2pI2qC2v22sK2v3c3DWWKcEm4UXtJcEgw1m4CXa8m4Cgw2Wj73Xa82m4Kgw3cEaFCaUWU2gw42gw5CXzH22gw62gw72WwJ",
  "Cgw8kCMgw9YKgwA2gwB2gwC2XVI2gwD2XyS2WXMCWX2oG2XVH2Xz92gwE2gwF2gwG2gwH2Xa92gwI2gwJ2gwK2gwL2gwMC",
  "eGgwN2gwO2gwP2gwQ2gwR2XVJ2gwS2gwT2gwU2gx0MYnHYKgx12XrGMgx2OXzG2gx32gx42gx52gx62XuT2gx72gx8Mgx9",
  "YKgxA2gxB2WX62Wp32gxC2gxDCd0hE2gxECXVJaI2gxF2gxG2gxH2gxI2Xs02gxJ2XzI2Ys22XzD2gxK2gxL2gxM2gxN2g",
  "xO2XVK2gxP2gxQ2gxR2gxSMZUcLgxT2gxU2gy02gy1cNAgy2gy3Wb6XKF4E4N4T4W24WB4WJ4WC4WOMXZFXKF4E4N4T4W2",
  "4WB4WJ4WC4WOUlEYs3LF3E3N3T3W2KYs3LF2W2cDZCWW3eG4C3YR3YE3Y63G3ZK3XO3XU3K3Z53XR3WE3XB3X03D3YH3a7",
  "3W73WA3XS3B3XT3YS3YO3Y73YFC2C3YR3YE3Y63G3ZK3XO3XU3K3Z53XR3WE3XB3X03D3YH3a73W73WA3XS3B3XT3YS3YO"]

/-- The names of characters from U+10000 on, part 3. -/
def wideC : List String := [
  "3Y73YFLpF4C3YR3YE3Y63G3ZK3XO3XU3K3Z53XR3WE3XB3X03D3YH3a73W73WA3XS3B3XT3YS3YO3Y73YFC2C3YR3YE3Y6",
  "3G3ZK3XObH2K3Z53XR3WE3XB3X03D3YH3a73W73WA3XS3B3XT3YS3YO3Y73YFW0eGpF4C4YR4YE4Y64G4ZK4XO4XU4K4Z5",
  "4XR4WE4XB4X04D4YH4a74W74WA4XS4B4XT4YS4YO4Y74YFD2C4YR4YE4Y64G4ZK4XO4XU4K4Z54XR4WE4XB4X04D4YH4a7",
  "4W74WA4XS4B4XT4YS4YO4Y74YFLfU4CbH2YE3Y6bH3XObH3Z53XRbH3X03D3YH3a7bH2WA3XS3B3XT3YS3YO3Y73YFC2C3",
  "YR3YE3Y6bH2ZKbH2XU3K3Z53XR3WE3XB3X0bH2YH3a73W73WA3XS3B3XT3YS3YO3Y73YFW0eGfU4C4YR4YE4Y64G4ZK4XO",
  "4XU4K4Z54XR4WE4XB4X04D4YH4a74W74WA4XS4B4XT4YS4YO4Y74YFD2C4YR4YE4Y64G4ZK4XO4XU4K4Z54XR4WE4XB4X0",
  "4D4YH4a74W74WA4XS4B4XT4YS4YO4Y74YFLYs44C3YRbH2Y63G3ZK3XObH3Z53XR3WE3XB3X03D3YH3a7bH2WA3XS3B3XT",
  "3YS3YO3Y7bQ22C3YR3YE3Y63G3ZK3XO3XU3K3Z53XR3WE3XB3X03D3YH3a73W73WA3XS3B3XT3YS3YO3Y73YFLpE4C3YRb",
  "H2Y63G3ZK3XObH2K3Z53XR3WE3XBbH2DbH4WA3XS3B3XT3YS3YO3Y7bQ22C3YR3YE3Y63G3ZK3XO3XU3K3Z53XR3WE3XB3",
  "X03D3YH3a73W73WA3XS3B3XT3YS3YO3Y73YFW0eGYs44C4YR4YE4Y64G4ZK4XO4XU4K4Z54XR4WE4XB4X04D4YH4a74W74",
  "WA4XS4B4XT4YS4YO4Y74YFD2C4YR4YE4Y64G4ZK4XO4XU4K4Z54XR4WE4XB4X04D4YH4a74W74WA4XS4B4XT4YS4YO4Y74",
  "YFLgG4C3YR3YE3Y63G3ZK3XO3XU3K3Z53XR3WE3XB3X03D3YH3a73W73WA3XS3B3XT3YS3YO3Y73YFC2C3YR3YE3Y63G3Z",
  "K3XO3XU3K3Z53XR3WE3XB3X03D3YH3a73W73WA3XS3B3XT3YS3YO3Y73YFMeG4C4YR4YE4Y64G4ZK4XO4XU4K4Z54XR4WE",
  "4XB4X04D4YH4a74W74WA4XS4B4XT4YS4YO4Y74YFD2C4YR4YE4Y64G4ZK4XO4XU4K4Z54XR4WE4XB4X04D4YH4a74W74WA",
  "4XS4B4XT4YS4YO4Y74YFMpF4C4YR4YE4Y64G4ZK4XO4XU4K4Z54XR4WE4XB4X04D4YH4a74W74WA4XS4B4XT4YS4YO4Y74",
  "YFD2C4YR4YE4Y64G4ZK4XO4XU4K4Z54XR4WE4XB4X04D4YH4a74W74WA4XS4B4XT4YS4YO4Y74YFW1eGpF4C5YR5YE5Y65",
  "G5ZK5XO5XU5K5Z55XR5WE5XB5X05D5YH5a75W75WA5XS5B5XT5YS5YO5Y75YFE2C5YR5YE5Y65G5ZK5XO5XU5K5Z55XR5W",
  "E5XB5X05D5YH5a75W75WA5XS5B5XT5YS5YO5Y75YFLYs54C3YR3YE3Y63G3ZK3XO3XU3K3Z53XR3WE3XB3X03D3YH3a73W",
  "73WA3XS3B3XT3YS3YO3Y73YFC2C3YR3YE3Y63G3ZK3XO3XU3K3Z53XR3WE3XB3X03D3YH3a73W73WA3XS3B3XT3YS3YO3Y",
  "73YFW0pF2lIK4Z5c43eG4dA3hT3gL3hH3f93mC3h93fJ3dM3iI3lK3cJ3dH3kM3iH3bQ3eTDfJW13f83iJ3eJ3fH3g03j8",
  "3cG2WW7C2dA3hT3gL3hH3f93mC3h93fJ3dM3iI3lK3cJ3dH3kM3iH3bQ3eTDIf83f83iJ3eJ3fH3g03j83cGCuMWW6Cf9W",
  "1CfJW1CiIW1CfHW1CeTW1CbQW1LpF4dA3hT3gL3hH3f93mC3h93fJ3dM3iI3lK3cJ3dH3kM3iH3bQ3eTDfJW13f83iJ3eJ",
  "3fH3g03j83cG2WW7C2dA3hT3gL3hH3f93mC3h93fJ3dM3iI3lK3cJ3dH3kM3iH3bQ3eTDIf83f83iJ3eJ3fH3g03j83cGC",
  "uMWW6Cf9W1CfJW1CiIW1CfHW1CeTW1CbQW1W0eGpF4dA4hT4gL4hH4f94mC4h94fJ4dM4iI4lK4cJ4dH4kM4iH4bQ4eTEf",
  "JW14f84iJ4eJ4fH4g04j84cG3WW7D2dA4hT4gL4hH4f94mC4h94fJ4dM4iI4lK4cJ4dH4kM4iH4bQ4eTEIf84f84iJ4eJ4",
  "fH4g04j84cGDuMWW6Df9W1DfJW1DiIW1DfHW1DeTW1DbQW1W0gGeG4dA4hT4gL4hH4f94mC4h94fJ4dM4iI4lK4cJ4dH4k",
  "M4iH4bQ4eTEfJW14f84iJ4eJ4fH4g04j84cG3WW7D2dA4hT4gL4hH4f94mC4h94fJ4dM4iI4lK4cJ4dH4kM4iH4bQ4eTEI",
  "f84f84iJ4eJ4fH4g04j84cGDuMWW6Df9W1DfJW1DiIW1DfHW1DeTW1DbQW1NpF4dA5hT5gL5hH5f95mC5h95fJ5dM5iI5l",
  "K5cJ5dH5kM5iH5bQ5eTFfJW15f85iJ5eJ5fH5g05j85cG4WW7E2dA5hT5gL5hH5f95mC5h95fJ5dM5iI5lK5cJ5dH5kM5i",
  "H5bQ5eTFIf85f85iJ5eJ5fH5g05j85cGEuMWW6Ef9W1EfJW1EiIW1EfHW1EeTW1EbQW1LeG4z0C2z0bQ3XKY93F3E3N3T3",
  "W23WB3WJ3WC3WOLpEXKY93F3E3N3T3W23WB3WJ3WC3WOLgGXKY93F3E3N3T3W23WB3WJ3WC3WOMeGXKY94F4E4N4T4W24W",
  "B4WJ4WC4WOLYs5XKY93F3E3N3T3W23WB3WJ3WC3WOKgy4eIXCBjMXCByIXCBWdAXCBiCXCBoMXCLeIXCe7LjMXCe7WAeIY",
  "LsEXCe7MXCf7WnA3WXN3kJ4Y1LjMXCYs6LeIXCW6LjMXCW6W0eIXCW6e7Ef7XaA4kJNW9W6kJNkJW6W9DW6iDFXCe7FW6e",
  "75WXN5kJ4n4W0jMXCW6n4WAeIW6e7X4XCW1XCe7X4W6DW6YLW0jMXCW6YLWKeIXCW6g2YLe7Oe7YLg2EYLe7W3kJnBYLfG",
  "WCW9W6kJYLfG7iDWCkJW6W9YLfGWCW6W9nBYLj5EYLWXN5aN5WWP5kJWBYLjIXCW6g2WBXCW6iDYLfG7iD7e7WBW6YLWWP",
  "XCW9WBXCYLWWPW6W9WCW6iDkJYLfGOn4YLfGOiDYLj5PWXNYLj5WBW6YLWXNXCW9WBXCYLWXNW6W9WBW6YLaNXCW96kJWL",
  "XCYLWnBkCW6W9PaIW6W9OaNW6W9W2W6YLiDkJFWnBkC5WnBWLW6YLWnBkCXCW97n4FXCW9WBXCYLWWPW6kJLWnCTg84e74",
  "kJ4iD5Ys7W0WnDTg8iDWAeITg8iDe7W0iCTg8iDW0WnCW2g8nBW1yJW2g8nBWBW2g8nBTe7WLyJW2g8nBTe7W1W2g8nBe7",
  "WByJW2g8nBe7WBW2g8nBYLj5W0yIW2g8nB5YJWAiCW2g8nBYJW0WdAW2g8nBWAWnCW2g8nBkJGYLfGGc4YL1WnCMjIWbNg",
  "y52yJCYLfGMyJYLfGCYLe73j5W1Ys7XCYLfG3aFEYLfG6e73aE1WnDCYLfGCc4YLCYLj5BWXOYs81WXOByIYJ1yIMYJYLf",
  "GCYLfGMYJc4YLCc4YLMYJYLj5CYLj5BWnEYJ1WnE1jM1WdACYLfGCc4YLCYLj5BiCYJDYLj51iC22MYJYLfGCYLfGMYJc4",
  "YLCc4YLW1YLfGYs9XCNjIW6XL1oMW0eIXCW6XLW0jMXCW6XLW0iCXCW6XLW0oMXCW6XLBiCaEWAeIXCW6XLe75iDWAiCXC",
  "W6XLiDLeIaEWKEgy6g25pMEgy7aN3W9W1YLsEaEW9LjMaEW9LWdAaEW9LoMaEW9W0eIaEf7WnA3e7Dgy8YL3YLLiCaEYLW",
  "0eIaEXCYLW0iCaEXCYLWUoMaEXCYLXCYLkC6YLLeIaEXCLjMaEXCLiCaEXCLoMaEXCW0eIXCW6aEW0jMXCW6aEW0iCXCW6",
  "aE2XLW0oMXCW6aEWAeIXCW6bDaEWAjMXCW6bDaELeIXLWKWUiCXLWKXCYLUW6WUoMXLWKW6YLXCbDLeIXLW9Df7WnA3aEL",
  "jMXLaELWdAXLaELoMXLaELeIXLW64iDEf7XaA3XC3YLLWXOXLYLW0eIXCXLaEW0jMXCXLaEWAWnEXCXLaEZUWAWXOXCXLa",
  "EkC5aI5sEW0yIXCXLaEW0iCXCXLaEWAoMXCXLaEkC4aELeIW6WKBiCW6LeIW6W9LjMW6W9W0eIW6f7WnANW9YLfGLWXOW6",
  "YLW0eIW6YLaE3aEDXLaEW0jMW6XLaEWAWnEW6XLaEZUW0yIW6XLaEW0iCW6XLaEWAoMW6XLaEkC5aI4aEWAjMW6XLaEe7W",
  "AWnDW6XLaEiD6fGWKWXOW6XLaEiDkC6aI5iDLiCXCkJW0eIXCYLfGW0iCXCYLfGWKeIXCYLfGYLbG6iD6e7FXCe7FYsAe7",
  "FXCYs6Oj5XCg26e74U4Ys8Oj2YLi5WKWnDXCYLj2YLi5WKeIXCYLj2YLsE4WULyIXCYL4YJW0iCXCYLYJ4ZJ3YL42W0oMX",
  "CYLkC4aI3YLBeIYL3yJDfGbG4iD4e73j5NjIXCW6EW6XLEXLaENsEEg8NX4Eg8NsENg8ETg8W2X4Tf7XaA1eI2yJBgy9ZD",
  "2mN2jIBgyAZD2mN2jIBgyBZD2mN2jIBWzDZD2mN2jIBXfDZD2mN2jIBXrMXaB2jILYsBZJZDC2ZDCZJmNC2mN2WnFLYsCZ",
  "JZDC2ZDCZJmNC2mN2WnFLYsBYsCj6W0gyCW9WKZJ423WnFCWKWnFW1W9WKj6ZJ52W1fGOfGWWLLoNvUWXMLoOvUWXMW0oN",
  "ZDg224Y54ZJ4t6DoPrCCJg2DoPrC3j6EoPrC2bDMbEg2w0DoPrC3j6EoPrCCWn823Y53ZJCdK23Y53ZJ3YsDCo623Y53ZJ",
  "Cf323Y53ZJCtK23Y53ZJCYsE23Y53ZJLgyDWdBZD3J3j6CWdCZD3J3j62WnGMWbGWlLZD4J4bELgyEYsF23Y53ZJ3t6CYs",
  "G23Y53ZJ3t6MjIYsF24Y54ZJ4t6DYsG24Y54ZJ4t6W0oOZDg224Y54ZJ4t6DoPrCCJg2DoPrC3j6EoPrC2bDMbEg2w0DoP",
  "rCDj6w0EoPrC2Wn8CdK23Y53ZJ2o6Cf323Y53ZJCtK23Y53ZJCYsE23Y53ZJLgyFWdCZD3J3j6CWdBZD3J3j62WnGW0oNj",
  "2d824Y54ZJ4t6DYsH24Y54ZJ4t6NgyGWU25Y5CWXP23Y53ZJCiF23Y53ZJD2JW1h3j2J25Y55ZJEbE25Y55ZJMj2xTg2Mp",
  "MbD24Y5BWdBZD2J2gHBoNWnGW1j2dTw1pGW1WXPdTw1pGW1iFdTw1pGW1h3dTw1pGWAWdBZDdTw1pGW1JdTw1pGW1j6dTw",
  "1pGW0oNj2dTyKMWXPdTyKMiFdTyKMh3dTyKW0WdBZDdTyKMJdTyKMj6dTyKWAoNh3bGWxL25Y55ZJWAoOj2dTsF25ZJWBW",
  "XPdTsF2JFZJJF2bEFZJbEWBiFdTsF2ZDFZJZDF2JFZJJW1h3dTsF25ZJW0WdCZDdTsFMJdTsFMj6dTsFWAoOj2dTqT25ZJ",
  "WBWXPdTqT2JFZJJPbE2bEGZJbEWBiFdTqT2ZDFZJZDF2JFZJJW1h3dTqT25ZJW0WdCZDdTqTMJdTqTMj6dTqTLoOj223Y5",
  "3ZJ3t63gyHCWXP2CiF2Ch3Wi2323ZJBWdCZD2J2j6LoOWnGuOWAoNWbGWU2ZDEY5ZDE2JEY5JWUoOWbGWUdTpG2ZDGY5ZD",
  "GZJZDG2JGY5JGZJJWAoNoPWUw1ZD5JWKoOoPWUdTpGZD6JW0oNvUn7ZD4JWKoOvUn7dTpGZD6JLgyIZF23ZJ2gyJ2Xu32X",
  "aC2YsI2gyK3j6MgyLgyMXa42gyN1i42gyOCoNg23gyPCoOg2CoNj2CoOj2Cw0WUWKWSYoIWiMWX0j5WnHPW9YKWK8WnHLY",
  "sJg2W93h73WKW0gyQYsJh7WKDWKh7DW9h7Dh7W9BgyRh72WXM2yLBhFYJ2gyS2d0LsIgyTZD3mNLhFWLYJCWaEYJCWLd0C",
  "gyUw0BsIgz0Bgz1W92WK2YsKBXaDg23J3j6BYsLg23J3j6BXaDpMBYsLpMBXaDXvBBYsMgz22h72YsNLXaCYsMZ33W63Y1",
  "1YsOBWX0h72WXM2YsP2gz3LXXOYsQkCCgz4aIMgz52YsRMgz62YsRBYqOgz72gz8LhEd0h73j53WXM2Ww33yL3YJ2Xs13y",
  "L3YJCYJWU3j53yL3WxR4yL4YsS3xI4yL4YsS2WnI3j53yL2XaC3j53YsNLyMgz9WkQW0XW0XPX4YGMYGX4XPBhEWWECYsP",
  "ZD3JW0y4YsTkCgzACgzByMMm3jIyMNYs9i5hEMi5hEYsIMgzCgzDgzEMaFYsTkCDi5hE1gzF2w0CZUy44w03yM4w0CgzGy",
  "MBoNYsUBoOYsU1Yt01xG1gzHLWnJWZ4gzI3gzJW0gzKWnJWZ4Yt1W0gzLWnJWZ4Yt1W0WnJWnHdQgzMLgzNg2gzOCpMWn8",
  "BgzPgzQWKYGXxTWnHdQWZ4gzRBgzSgzT2gzU2hV02hV12hV22hV32hV42hV51vUBhV6gJBhV7gJBWx5hV82WaG2hV9Ci4Y",
  "t02hVAChVBhVC1a4BaUZA1nC1dF1bObPGm6Yt22Yt32Yt42Yt52Yt6bP2YsDYt22Yt32Yt42Yt52Yt62hVD2hVE2hVF2hV",
  "G2hVH2hVI2hVJ2hVK2hVL2hVMdCWZKaP21WoGeL0hVNNZ2fUXOWA124YMXOW021Z2XRWK124WE0oTWK21WoC0bPUW2YMY7",
  "0oTDZ2nFXBYMW70YPj76bPUWMXS0U6bPUWK1bPoS0bPUWK21iE0JWGH6gMW2YMXS0gMWK1ZPeKZA0gMW1WoDYE0gMW124Y",
  "MXRWA21WE0w7WCWdTeL0eAUWMWE0oT6eAUW2nF0eAUWCYMW70eAUWMW70w76eAUWCWdUeL0eAUW2rE0eAUWCWdTeL0bPUW",
  "MK0W06bPUW2D0bPUWCWdUeL0bPUW2YE0bPUNWA0gMcDc9cDXvD1WxS3WxT3WxU3Wy03Wy13Wy23Wy3bH2Wy43WWQDW3WWQ",
  "3K3Wy53Wy63Wy73WbL3Wy83Wy93WyA3WyB3WyC3WyD3WyE3WyF3WyGbH3WyH3xA3WbM3ZB3p13WjQ3WyIbH2cOD2eCbH2d",
  "JNWWR2eCDlNeCNWWRlNeC3wBcNbShVOhVPYnQ1X84e44hVQ4XJ4WN4X74l54hVR4ZI4X64XH4b64hVS4hVT4WQ4XM4ZO4W",
  "uS4aL4hVU4hW04c24X14hI4X94hW14WT4XwF4hW24Wh94hW34Y84Xq54Wf64Y04hL4C4YC4K4B4D4b74G4bR4YSbH4hW43",
  "hW53hW63hW73hW83hW93hWAN5cEkF5hWB5Wx55hWC5hWDEXZIXZIDjCWl9bR3XKY94F4E4N4T4W24WB4WJ4WC4WObR5WcF",
  "hWEDaNZIc3fBhWF1WT2YA2XJ2XM2WQ2Y02X82X72Z82XH2ZM2X92ZH2ZG2WN2X12X62KCWdDK2Wc2CWdDWc22B2GCWdDG2",
  "WZHCWdDWZH2D2dGCWdDdG2CL5mHYIc3IhWG1YC2C2YA2ZI2XM2Y02X92aJ2X62X72WT2XJ2a52c22XH2ZB2ZG2b62ZH2aL",
  "2WQ2D2Z92X12X82ZS2WN2G2K2Z82B2hWH2e42WuQ2XyB2hWI2nT2Wu82ZU2b32Yf72ZO2hWJ2hWKBYIYVC2hWL2XXB2hWM",
  "BXKY92F2E2N2T2W22WB2WJ2WC2WObP6hWN5c3We9WgFjChWO2hWP2hWQ2hWR2hWS2hWT2hWUbQ2Yt7Xk62hX02hX12hX2b",
  "Q2Yt7Wh73Xl6bH2Xk93XkA3XkB3Xl73Xl83WgQ3XkI3WgS3XkR3XkS3XkT3Xl93XlA3Wh83XlBcN2hX3hX4jCYl1hDDYl2",
  "WQDYl3hODhX5WsGDhX6hBDhX7Wa2DhX8fMDhX9hXADYl4h0DYl5ZHDYl6p8DhXBWgTDhXCfADhXDWZSDhXEg4DhXFhXGDh",
  "XHYo8DhXIhXJDhXKhXLDhXMhXNDYl7WmGDYl8hCDYl9hXODhXPrJDhXQx1DhXRXoADhXShXTDYlAl4DYlBYADYlCi6DhXU",
  "WVADhY0kNDhY1YXADhY2nRDYlDKDYlECDYlFBDhY3bRDhY4GDhY5b7DhY6DDhY7rRDhY8aIDhY9aIDhYAdCDhYBb3DYlJg",
  "FDYlKXHDYlLhADhYCx5DhYDh1DhYEWa4DhYFfNDhYGhYHDYlPiPDYlQX6DYlRg3DhYIWgHDhYJl3DhYKWVHDhYLhNNhYMY",
  "Pl3DYlGi7DYlHXMDYlIk7DhYNWVEDhYOYXEDhYPhMDYlMiODYlNXJDYlOfODhYQWVBDhYRcQDhYSWVGDhYTODYlSuGDYlT",
  "ZGDYlUx8DhYUWVFDhZ0nIDhZ1YXHDhZ2p9NhZ3YPp9DYm0eBDYm1X9DYm2cODhZ4WVDDhZ5k6DhZ6WhBDhZ7dJDYm3p3DY",
  "m4c2DYm5s6DhZ8xBDhZ9nODhZAWtTDhZBnSDhZChZDDhZEXhGDYm6XZ3DYm7hZFDYm8bBDhZGWqIDhZHhZIDhZJeODYmAW",
  "NDhZKlTDYm9WgGDhZLc1DYmBWa5DhZMfBDhZNhZODhZPhZQDhZRYX3DhZSYX7DhZTYXJDhZUYXQDha0XVBDha1ha2Dha3Y",
  "X6DYmCWcADha4XWGDha5YX2Dha6XWJDha7XWDDha8XWIDha9haADhaBhaCNhaDYPXWJNhaEYPXWDNhaFYPXWIDhaGgUDha",
  "HY0DhaIk8DhaJWZPDhaKhaLDhaMhaNDhaOYXPDhaPYXLDhaQhaRDhaSbQDhaTWTDhaUmMDhb0s7Dhb1bADhb2WZUDhb3iN",
  "Dhb4XWBDhb5WaDDhb6XWEDhb7Wl4Dhb8Wl4Dhb9Wl7DhbAXWCDhbBXWHDhbChbDNhbEYPWl7NhbFYPXWCNhbGYPXWHDhbH",
  "YX4DhbIWc5DhbJYXKDYmDYX0DhbKYXRDhbLYXBDhbMWl5DhbNYX5DhbOWpJDhbPXWFDhbQYX1DhbRWl8DhbSYXCDhbTYXN",
  "DhbUX1Dhc0XVRDhc1WVQDhc2Wl0Dhc3XWADhc4WkUDhc5YXFDhc6XVTDhc7YX9Dhc8XW7Dhc9Wc9DhcAYXIDhcBs4DhcCa",
  "LDhcDx6DhcEuFDhcFjPDhcGYXDDhcHq3DhcIhcJDhcKhcLDhcMhcNDhcOhcPDhcQhcRbQ3XKF3E3N3T3W23WB3WJ3WC3WO",
  "McDZThcS4XZF4XY24tPEYQtPEWMtP4wCcDWBhcT41XaE3Yt83XZD3Yt93YA3YtA3bA3Wl63X13G3c23K3D3b83YtB3cK3b",
  "B3e23X93B3YtC3g03WN3XXP3Y03ZO3fO3WX53aL3ZS3Wl83WhQ3Wl53ZBL21XaE3Yt83XZD3Yt93YA3YtA3bA3Wl63X13G",
  "3c23K3D3b83YtB3cK3bB3e23X93B3YtC3g03WN3XXP3Y03ZO3fO3WX53aL3ZS3Wl83WhQ3Wl53ZBBXaEWl9BXEWl9BWYRL",
  "1cRBgEe0LhcUgEe01fLBWpLLbP5XKY92F2E2N2T2W22WB2WJ2WC2WOc45W3f5LCe8LcDuBYZ7YtDZTF3E3N3T3W23WB3WJ",
  "3WC3WO3YQ3c63h23iR3dE3jE3d73l63cMDFWMDEWMDNWMDTWMDW2WMDWBWMDWJWMDWCWMDWOWMDFX5DEX5DNX5DTX5DW2X",
  "5DWBX5DWJX5DWCX5DWOX5DYQX5Dc6X5Dh2X5DiRX5DdEX5DjEX5Dd7X5Dl6X5DcMX53XaF3hd0CXaFLCZThd13hd2DYgLF",
  "4E4N4T4W24WB4WJ4WC4WO2XX6MhQFd84WLDNkKCwOLMZTgHF4EEYQX5MgHXaFLcDXFhd3YtDZTF3E3N3T3W23WB3WJ3WC3",
  "WO3YQ3c63h23iR3dE3jE3d73l63cMDFWMDEWMDNWMDTWMDW2WMDWBWMDWJWMDWCWMDWOWMDFX5DEX5DNX5DTX5DW2X5DWB",
  "X5DWJX5DWCX5DWOX5DYQX5Dc6X5Dh2X5DiRX5DdEX5DjEX5Dd7X5Dl6X5DcMX52hd4MgHZTE4N4T4W24WB4WJ4WC4WO4YQ",
  "ETWMEWBWMEEX5EYQX5MhQFWL4WvMc3b9i0WW3XA2hJ2YN2lPbG2cK2kP2Y82eM2X22e22cP2WF2cF2eU2dB2gA2gC2fC2d",
  "O2i12hK2nN2aK2wE2i22p22jAClIhJ3cF3gA3fCbQ2W3hJ3YNbH2eDbH3Y8bH2X23e23cP3WF3cF3eU3dB3gA3gC3fCbH2",
  "i13hK3nN3aKbH2i2bH2jAbQ7XxUYNbH5Y8bH2X2bH2cPbH2cF3eU3dBbH2gC3fCbH2i1bH3aKbH2i2bH2jAbR2lIcFbI2f",
  "CbQ2WoDhJ3YNbH2eDbH3Y83eM3X23e2bH2WF3cF3eU3dB3gA3gC3fCbH2i13hK3nN3aKbH2i23p23jADlIhJbI2gAbQ2hd",
  "5XA3hJ3YN3lP3eD3cK3kP3Y83eM3X2bH2cP3WF3cF3eU3dB3gA3gC3fC3dO3i13hK3nN3aK3wE3i23p23jAbQ6pEhJ3YN3",
  "lPbH2cK3kP3Y83eM3X2bH2cP3WF3cF3eU3dB3gA3gC3fC3dO3i13hK3nN3aK3wE3i23p23jAd4WMbLWF0Y80WeINY80lPc",
  "DdNhd6WzTa1pLCbNpLCaMpLCb9pLCn6vBCw2vBCSvBMFRt7MERt7MNRt7MTRt7MW2Rt7MWBRt7MWJRt7MWCRt7MWORt7MF",
  "Rt8MERt8MNRt8MTRt8MW2Rt8MWBRt8MWJRt8MWCRt8MWORt8MFRn7MERn7MNRn7MTRn7MW2Rn7MWBRn7MWJRn7MWCRn7MW",
  "ORn72hd72hd82Wz92hd92hdA2hdB2hdC2hdD2WnK2oGcD5hdEWzTXFoG2hdF2hdG2hdH2hdI2hdJ2hdK2hdL2hdM2hdN2h",
  "dO2hdP2hdQ2hdR2hdS2hdT2hdU2he02he12he22he32he42he52he62he72he82he92heA2heB2heC2heD2heE2heF2heG",
  "2heH2heI2heJ2heK2heL2heM2heN2heO2heP2heQ2heR2heS2heT2heU2hf02hf1CW8oG2hf22hf32hf42hf52hf62hf72",
  "hf82hf92hfA2hfB2hfC2hfD2hfE2hfF2hfG2hfH2hfI2hfJ2hfK2hfL2hfM2hfN2hfO2hfP2hfQ2hfR2hfS2hfT2hfU2hg",
  "02hg12hg22hg32hg42hg52hg62hg72hg82hg92hgA2hgB2hgC2hgD2hgE2hgF2hgG2hgH2hgI2hgJc3DYtEWdEoGMWnLRm",
  "8MERm8MNRm8MTRm8MW2Rm8MWBRm8MWJRm8MWCRm8MWORm8MYQRm8MWnMRm8MeRRm8MkERm8Mj0Rm8c53WnLRjNMERjNMNR",
  "jNMTRjNMW2RjNMWBRjNMWJRjNMWCRjNMWORjNMYQRjNMWnMRjNMeRRjNMkERjNMj0RjNCn6WnKc52WnLRm9MERm9MNRm9M",
  "TRm9MW2Rm9MWBRm9MWJRm9MWCRm9MWORm9MYQRm9MWnMRm9MeRRm9MkERm9Mj0Rm9CPWnKc52WnLRmAMERmAMNRmAMTRmA",
  "MW2RmAMWBRmAMWJRmAMWCRmAMWORmAMYQRmAMWnMRmAMeRRmAMkERmAMj0RmACSWnK2hgK2hgL2hgM2hgN2hgO2hgP2hgQ",
  "2hgR2hgS2hgT2hgU2hh02hh12hh22hh32hh42hh52hh62hh72hh82hh92hhAcDBXKY9aUZA2a4BFa4BEa4BNa4BTa4BW2a",
  "4BWBa4BWJa4BWCa4BWOa4W9XuLaNgGXKY9WAkDaNgGXKY9UaNY90k9BiT7WAw650XV2xHW9Wj3aP41C4YR4YE4Y64G4ZK4",
  "XO4XU4K4Z54XR4WE4XB4X04D4YH4a74W74WA4XS4B4XT4YS4YO4Y74YFWTiUg6YtFaP41WAWJaNpFaP41YE5W71Xz51hhB",
  "AhhCW1W9d3aP41C4YR4YE4Y64G4ZK4XO4XU4K4Z54XR4WE4XB4X04D4YH4a74W74WA4XS4B4XT4YS4YO4Y74YF1WdR1WZR",
  "1hhD1WlK1hhE1YtGWJkDaNaP41C5YR5YE5Y65G5ZK5XO5XU5K5Z55XR5WE5XB5X05D5YH5a75W75WA5XS5B5XT5YS5YO5Y",
  "75YFKf7YnP5BhhF5BhhG5AaNXz4W0YE0XV2xHBXa8Wi6WJkDd3aP41C5YR5YE5Y65G5ZK5XO5XU5K5Z55XR5WE5XB5X05D",
  "5YH5a75W75WA5XS5B5XT5YS5YO5Y75YFWTn4kDd3aP41YHKkDd3XXS2WT2XH2rM2YtGAWRhhHAd3hhI1hhJ1WuL1hhK1WV",
  "M1i31WnN1YtHW0W90f5L1hhLBNY6By2WaKBEXRBTXRBWCXRLW2mEFLWJmEFLXVDmEEBjEYHW0FWMc6YHW0aP21Y61hhM1h",
  "hN1hhO1hhP1hhQ1hhR1hhSKXaGWzPW1cNWQhhTtBW11C4YR4YE4Y64G4ZK4XO4XU4K4Z54XR4WE4XB4X04D4YH4a74W74W",
  "A4XS4B4XT4YS4YO4Y74YFKWRWX1hhUKd3pOhi02XHc4EWbOXaHhi13hi23hi3BpOgOLWbOXaHYtI3hi43hi53hi63hi73h",
  "i83hi93hiA3hiB3hiC3hiD3hiE3hiF3hiG3hiH3hiI3hiJ3hiK3hiL3hiM3hiN3hiO3YtJ3hiP3hiQ3hiR3hiS3hiT3hiU",
  "3YtK3hj03hj13hj23hj33hj43hj53hj63hj73hj83hj9d25iUg6YtFWbOXaHhjA5YtJ5YtI5hjB5hjC5YtK5hjD5hjE5hj",
  "Fc38aNWkLhjG2hjHcDFq9W1cEs63g33hjI3kM3hjJ3hjKbEa0hjL0hjMAd0Wb8KWkM0hjNKYtLX4hjO0YtLKYtMfRhjPKh",
  "jQX4YtN0hjRKyTfRWkMAn3h30hjSAhjTWa8Km4YtOhjU2hk02hk1KYtO0hk2KWVMfEW1UYtPWWHfEW1UsBd8fEW1UYtPYt",
  "QfEW1KaUfEW1UYtRYtQfEW1UWwOd8fEW1UYtRWWHfEW1AWWHfEUWVMfE0WSW9sBd8fE0WSW9WwOd8fE0WSUaUfE0WSKo90",
  "WSAhk3aBAhk4aB0YtSAPYtTASo9M02WWGCXtSWWGE0xMKWWG0xM2WwT2Wj42hk50hk6KpLYsQWSAWb9WWU0hk70hk80hk9",
  "0hkAAhkBr2AhkCr2AWbNr20hkDAWb9YtU0hkEAhkFYu00hkG0hkH0hkI0Yu0KWVKRhkJ2WbU0hkKKTh6hkLAhkMh6AhkNh",
  "6Uh6YsKaIpL0hkO0hkP0hkQ0hkR0XxJ0hkS0hkT0hkU0hl00hl1An6Yu1Aw2Yu10hl20hl30hl40hl50hl6KXxIRhl7KWk",
  "5ZUWkAAhl8j7AWbUhl91oEAhlAWbUKhlB6WbUAhlCXaI0hlD0Yu2AXr5hlEKhlFXxKYu30hlG0hlH0hlIAhlJYu4W9r1Xa",
  "J0XY1hlKKlHv8Yu5AhlLv8Av8Yu50hlM0Yu6AhlNWG0hlO0hlP0hlQAhlRWkT0hlSAhlTf3KWkTRWnO0hlUKWj26WbQKhm",
  "0WbBYZOUhm1WnP6WaTAWkFWXQAhm2WXQAYu7Yu8AYu9XYUKYuAYu9hm3AWXRWnPW9Wj26WbQ0hm4UWnP0hm5hm60hm70Wj",
  "MAhm8hm9AhmAXaJ0hmBAXaKr2AXxHXaK0hmCAhmDhmE0XaLAXaMhmFAhmGoEAhmHr2An4hmIAhmJYuBAxQYuCAhmKhmLAp",
  "LhmMKfEhmNhmOAXV9hmPAhmQWiHWJeF0m3ZUcLAKYuDRhmRAXaNWdFAhmSWjMUmOWb10hmTAhmUYuEAXy5hn0AsJhn1UXt",
  "CXt1mOWbALWpKmOWbAAYuFhn2Ahn3hn4Ahn5sSAhn6Wj8AYuGhn7Uhn8WbI6r10YuEAhn9XaO0hnA0hnBAhnChnDAbSy0A",
  "hnEWx30hnFAhnGWdGAhnHYuHAYuIYuJAWw6YVSAhnIXaP0hnJAYuJWwS0hnKKWaJYtEhnLAmOhPKmNmOWbA0hnM0hnNAmO",
  "Wb10hnO0hnPAmOhnQUXaQhnR0hnSUYuKYuL6oEUYuM6YuMYuNKhnT6hnUAho0oD0ho10ho20ho3Aho4WdF0ho5AsSYuOAh",
  "o6YuPAho7YuP0ho8AYaSho90hoAAYuOhoB1v7UYuQXVM6oE0hoCW9XxLYuRWnQ6oEW9v8YuRWnQ6hoDW9Wz2YuKhoE6oEK",
  "WwThoFv40hoGKhoH0Wb8AWdHXaRAWb0YtN0YtMKhoIWb0WdHAhoJWdH0hoK1hoLAXr3hoM0hoNAWb0WdHB0hoOAXaSWdHK",
  "xQXaTXaSKYuSXaTXaS0hoP0WwHKhoQhoRXaP0YuTAXaUYuTAhoSYuU0XV9AhoTYuU0hoUAhp0hp1AxQWx2AYuSWx2ASYv0",
  "APYv0KYv1SoDBPoD0XXLAPXXL0hp2Uhp3YuL6hp4KWWD670hp5UYv2e0hp6hp73XtF3XtG3XtH3XtI0WkG0yN0WkRAn3hp",
  "80WbR0Wk60hp90Yv30oF0vB0hpA0Yv40hpB0Wi20sS0Wk40hpC0WzC0WdI0hpD0hpE0WWU0WkE0YaN0Xb00hpFAWlLg60h",
  "pG0hpH0hpIAhpJYv50r1AYu7r10hpK0WbTAhpLXb1AWXRXb1KhpMWXRXb10WkB0hpN0hpO0hpPAhpQYv6AhpRYv60hpSAy",
  "NWSAWbRWSAWk6WSAYv3WSAoFWSAvBWSAhpTYv4AsSWSAWdIWSAWWUWSAWkEWSAWzJWSAhpUWSAhq0WSAYv7WSAhq1WSAWk",
  "EWX0AXwUhq20hq30hF0sI0WVK0WX00hE0y4W9SW9ZRw3XCW0WKZRw3XCW0AZRw3XCW08ZRw3XCKhq4dS5KYv1dS5KWnNdS",
  "5KYv8W95BWK5Khq5sT5KYJsT50Yv9AXb2y00hq60hq70hq80hq90YvA0hqA0hqBAXb2WzE0hqC0hqD0hqEAhqFxJAhqGxJ",
  "AhqHxJAXb2YvB1hqI0hqJKhqKaIWnRKhqLaIWnR0hqM0hqN0hC0vC0XzEW9hC6vCWX2sTUErJWX2sTLhqOWX2sTAWnShqP",
  "UvC0hqQYsOKhqR0hqSUkF0hqTxGW9hC0hqUbQhr02XxCAYvChC1vC0WXRAXaRhr10hr2AxQhr31hr40WzHAWXRhr5Ahr6Y",
  "vDAYvDhr70hr80WwLKWW4hr9kF0hrA0hrB0hrCAhrDXX4AWShrE0hrFAhrGWbI0hrH0hrIAWnILAXaU10XLAhrJXV00WnI",
  "0YuDKhrK0eF0hrLAhrMeFAyQeFAEjNAhrNeFAhrOeFKeF07AvAeFAw2eFAWbSeFAXb3eFKeF0WjMAYvEjNAeFYuBWJcBhr",
  "P0CMi5KWiKXGhrQAXb4W10hrRAXb5W1AhrSW1KhrTWnTW10YtTAbUW1KhrURWZUAhs0hs1AYvFW1Ay3XaLAXb6XaLASWaJ",
  "KWMhs2W1AYvGWiJAWY7hs3KW5w65AWq3WdEUhs40WY85Cw65CXr75CWdO5KYvG0hs5WTWnU0Y4Xb76WY850hs6AYvHXb80",
  "hs70hs8AWo0WdJAYvIWlT0hs9AWWCyOKYJWWCyOKsH0gMBYvJW90Xb9AhsAXb9AWdEXCUWnU0Y4Xb7CXNXb7AWGWnU0hsB",
  "0XbAAnJXbA0hsCAg2YvKAgNYvKAYvLhsD0hsE0hsFL0hsGWzKAd0WXSAYJWXSAw2WXSAvAWXSAWXTWXS0hsHAWc3hsI0hs",
  "J0hsKAo4Wo10hsLAXVPXaPAYvMYvNKhsMhsNhsOAhsPhsQAhsRYvOAhsSYvO0hsTAhsUW1Aht0sMW9sM0XN79W9d0YvP0Y",
  "vQoDDf7oDW9YJYvP0f7oDDYvQoD0ht1AWkHd40YvRAWo2XbBWB0W47fRAAht2ht3KWo2XbBht4Kc4Wo2ht5KYvN0WiO0Xa",
  "OB0ht6AYuIXaO0ht70YvS0ht8AYuFht9AhtAhtBAhtChtDKhtEW4kAWTmPW46WIYJWUkAW60aNFg9WKXN6Y4YJWUkAWTiT",
  "XN6Y4YJWUkAKY1YvTW1KZ3YvTW1UXbC0Wf7W00XbCW00FjFh3MNjFXbD0YvUAWiKhtFKhGYw0WXQKfTYw0WXQUWo30htGW",
  "X8Ud0Wo30sG0sG0Wo3AYJWo30WW9L0Wf7W00YvLAWwCW1AYvSWXUW9oG0WI79W9cN0WI79XIZU0f5L0A879W9htH0W479W",
  "9bS0Y479W9c4FsEsKW1AXrCYQWJhtIW1cEaP4XbEE2XbE3htJ3XaBDaPXbE0pKAWiKhtK0Yw10Wj6KYVE6Wz60htL0htM0",
  "htN0htOAhtPoEWJWBd1aB0W6MUxQW1cEhtQAWm4htRKPWRWXUKSWRWXUKZJn6WUBvAWUBWXTcBBvAcBK2WXTcBBvAcBKm5",
  "n6XQKo7n6XQUm52n6XQUo72n6XQW9XP8n5SWUW9YG8n5SWUKaNbDXbFW9bDXbF0YsHH1XbFWJsPAWaN0NX3WA8WaN0NX3U",
  "W1cEhtShtTKSaPbDKW5aPbDAhtUbDAmIW1KYb6RWwM0hu00hu10hu2Uhu30WOhu4KXaIRhu5UWiSWSFoQCEoQCNoQCToQC",
  "W2oQCWBoQCWJoQCWCoQCWOoQCYQoQCo5oQCm2oQ2hu62hu72hu82hu92huA2huB2huC2huD2huE2huF2huG2huHA8XbCW1",
  "0FjFh3NNjFXbD0huIL0jFXbDAhuJWW90WXS0huKAhuLWiSUPWwL6Xt4Ac4huM0Xu7W9hCaIhuNsLhuOKhuPYKhuQAXsTYw",
  "20huR1huS0huTAhChuUUAdSo4Wo1Uo4Wo10sHU8dSo4Wo1KSYw3o4KPYw3o4W9o4ZUbSRhv0Khv1Wo2XbBKoGRsMAYw4sM",
  "KsM0Wj4AXbGsMUWX8X4Yw4sMAhv2hv3APXbAKXPAWjDChv4WX8CXu6WX82hv52hv6KAXuDdSUYMWnNdS5W9f7dS0g8Yw5W",
  "JZ2f7dS0g8Yw5LYv8W95CWK5BXuCdSWAdS0W6vUtUXIf7dS0WxKjIW66XLg8WJSWKZRAdSXCW9rOSAZRXCM8ZRXCW0PAZR",
  "XCM8ZRXCW9PAZRw3XCW08ZRw3XCW9rOSW9ZRXCMWKZRXCW0PW9ZRXCMWKZRXCW9PW9ZRw3XCW0WKZRw3XC1eFAYw6Xb8KW",
  "b16yNKNhv7hv80Yw7Ahv9hvAW9Pq0g6Wo0WdJW9Sq0g6Wo0WdJUlHg6Wo0WdJAXuBhvBAhvCWb1KFWXUyNKEWXUyNKNWXU",
  "yN0hvDKaOYvHXb8Aq0WdJ0WaKAYw7XbHAXVPXbHKYvIWlTXbHKXbI0q7D6XbJ2XbJKYaR0XbJ2hvECdCYOAPyO0yOAYJyO",
  "KWdEXChvFBWWCf3AWWChvGAwJhP2sH2WXF0hP1sH1WXFAwJXbI1sH1Yw80XbI0sH0Yw80hvHKWlLhPWXFBXb9WXFAYw6Yw",
  "90hvI0hvJ0XZJWJmP86AWaNkAAWf7YOUXVIYwAYwBW1UXzFYwAYwBW10hvKAaOsGAhvLYvRUsH0aNq7AXV7WnUAWW1WbQ0",
  "yMUhvMi4aIWnRKNWWF92H2A28KAy3t9K8y3t9KEy3XbKKNy3XbKKAXb6t9K8Xb6t9KAXb4t9K8Xb4t9AXbLt9KWj4XbLt9",
  "1XbLUxLf30xLBfUYOW0f30fUYOLeGfUYOWAf30eGfUYOKXGo6LW9xLf30eGo6AhvNWbDAhvOhvPAhvQhvRKhvSRhvTKWnR",
  "RhvU0hw0AXbMWSM0jJhFW9WS0XbNRXa9W9jJWS0YJhEP6jJhFGXbOWnTGYwChF3hw13YwDAYwEWSW9jJWS0jJhFUWShw2h",
  "w3WnOAYwFWSW9jJWS0YwGhF3Yw2Ahw4WSAh7WSAhw5WSAhw6WSUWS0XbOWnTAhw7WSAhw8WSAhw9WSAXbPWSUWShwACWnI",
  "W9XbPWS0jJhFDd0hFUWS0hwBy4O6YwEsIFYwChFAYwHWSAhwCWSAhwDWSAXbQWSAXbRWSAhwEWSW9WS0hwFRhwGUYwHqRY",
  "wFWSW9Wj9WS0YJhEAhwHWSAhwIWSAYwIWSAhwJWSAhwKWSAhwLWSKhwMXbRWSUWS0YJhEAhwNWSWTWS0YJhE6XbOWnTLhw",
  "OaIhwPAhwQWSAhwRWSAXb5WSAYvFWSKWSWbBhEL0hwSXaGWJXbMoFWS0jJhFWJoFWS0XbNRXa9WJjJoFWS0YJhEEYwGhFW",
  "9oFWS0hwTWw3WJXbPoFWS0d0hFKXbQoFWSKXbRoFWSKYwIoFWSKXbSWj9WSBjJWSAhwUWSUWS0YwJhFMc4hx0YwKCWnNYw",
  "KKkFhx1hx2Ahx3WdIAhx4WdIAhx5WdIW9hx6kFYwLFdSWJkFYwLYsAsTaIhx71Wj9L0XbQWSChx8sTUb9aMZRh6UbNaMZR",
  "h6Ub9a1ZRh6UbNa1ZRh6W9YMb9aMZRh6W0bNaMZRh6W0b9a1ZRh6W0bNa1ZRh6W9b9aMZRt2h6W9bNaMZRt2h6W9b9a1ZR",
  "t2h6W9bNa1ZRt2h6WJW5b9aMZRt2h6WAbNaMZRt2h6WAb9a1ZRt2h6WAbNa1ZRt2h6Ub9aMZRw4UbNaMZRw4Ub9a1ZRw4U",
  "bNa1ZRw4W9W5b9aMZRw4W0bNaMZRw4W0b9a1ZRw4W0bNa1ZRw4Uhx9YwMWRaROaIPWRUhxAYwMWRaROaIPWRAWIWdKAY4W",
  "dKAW4WdKAXNWdKUfUd9mDaRW9W5fUd9mDaRUd9YJmDaRW9W5d9YJmDaRBtAaRKyStAaRX8gGW5JYMa4dULaRW2a4dULaRW",
  "LY1Ja4dULaRKW5WaIaRKgGWaIaRUW5gGWaIaRKeQW5fQCgKfQAWo4WdGKgKWo4WdG0WdK0hxBAXxGYwNAWo5v7AhxCYwOM",
  "0m1WX00YwO0hxDAXGhxE0hxF0hxG1v70XbTAWdLXbT0hxHAXbTZA0hxI0hxJApKYwPAWnSv7KWdLWnSv70YwQAWdLYwQ0Y",
  "wRAWdLYwRAhxKhxLAhxMWx0AhxNhxO0hxP0hxQAv4Wo5AWvCWo5Av4hxRAhxShxT0XXK0hxU0hy0KXFWbCXGKW8WbCXGAX",
  "aR5UWnShy1YvEXGUgNoDZUXaT0XxDKc4WwU5AYwSW1Kc4YwSW1WJXVNYwTaIhy2wIW1UhMa8YwTW1Khy3n3W1Khy4n3W10",
  "hy5Ac4hy60YwUAv4YwU0Yb1Ac4hy7Ahy8dRAhy9W1AhyAW10hyBAWXRW10hyCAn3hyD0hyE0Yx00YaQAhyFsJ0hyGAhyHh",
  "yIAAYx1UXQ0q9WWEAhyJ5KaNWW4WvKAhyKW1AhyLW1KhyM6Yx2AXb5hyNAYx3hyOAhyPWW90hyQKwIRhyRAhyS5AYx3hyT",
  "0hyU0hz0Ahz1hz20hz30hz4bO6hz5hz60Wj8AXLhz7KWj66Yw10Wx1AWlRWc00hz8AWo5XxNAYx4XxQKm5XaNxR1xRB2xR",
  "A2xRAhz9xRAxRYs21hzAbE4YvMKWdLpKYwPAhzBYwNAhzCXXK0Yx5AYx4Yx50hzD0hzEAXbGhzF0hzGAhzHhzIAhzJWx0A",
  "YuGXu8cD4hzKW1cEhzL3XXO3pK3m43n33hzMDhzNhzO4hzP4hzQ4hzR3Yx63hzS3hzT3XbUDhzUXbUDPXbUDXt7WdM4iV0",
  "4iV13iV23r33iV33iV43iV5DYx7r34iV63Wk83iV7DXc0yP4iV8NYx8RXc0NXc1RXc0DWY0yPDiV9yPNWdMRWY0NYx8RWY",
  "05iVADWY0Yx9W2r3RWY0Yx9WCWdMRr3RWY03iVBDiVCyPDiVDyPDWY1yPNWdMRWY1Nr3RWY1WCWdMRr3RWY1NYx6RWY1NX",
  "c1RWY15iVE3Xc13iVF3iVG3iVH3iVI3iVJ3iVK3iVL3iVM3iVN3iVO3iVPDiVQyP3iVR3iVSDiVTiVU3iW03iW13iW23iW",
  "33WlR3Wz83iW43YhE3YVU3iW53iW63iW7DiW8iW9NiWARiWB3Xt53Wm4DiWCWm43iWD3YxA3iWEDsSXpP3YxBDWkTYxB3X",
  "c2DiWFXc23iWGNYxCiWHYxC5iWI3iWJ3iWK3iWL3iWM3iWN3iWO3iWP3iWQ3iWR3iWS3iWT3iWU3XtNNYx0RiX05iX13iX",
  "23XyU3WkM3iX33Wq2DWLXe34XrHcNDPhGWo68XQW0m5Wo68XQW0fTWo68XQW0o7Wo68XQLXbS2WUUY5eGSWUKeGSWUKW5S",
  "WUUeQW5SWUUWY2W5SWUWJSWUxKP2WUAnJXc3KPWbHWRLXbS2WRKXGSWRKY5SWRKeGSWRKW5SWRUeQW5SWRUWY2W5SWRWTS",
  "WRxKPeQ2WREY5WRAWRXc3KPWbHcBLeQ2cBLY52cBWTScBxKPeQ2cBEY5cBAcBXc3KPWbHn2LeQ2n2LY52n2WJSn2xKP2n2",
  "KWeUfIbDKXGfIbDKY5fIbDKeGfIbDUeQeGfIbDLW5fIbDUWY2W5fIbDAWeUpJAXGpJAY5pJAeGpJAW5pJKeQW5pJKWY2W5",
  "pJUXGW2j1bCUY5W2j1bCUeGW2j1bCUW5W2j1bCW9eQW5W2j1bCW9WY2W5W2j1bCUXGWBj1bCUY5WBj1bCUeGWBj1bCUW5W",
  "Bj1bCW9eQW5WBj1bCW9WY2W5WBj1bCUXGWCj1bCUY5WCj1bCUeGWCj1bCUW5WCj1bCW9eQW5WCj1bCW9XGNd1PaBW9Y5Nd",
  "1PaBUNd1PaBW9Y5Nd1sNaBW9XGTd1PaBW9Y5Td1PaBUTd1PaBW9Y5Td1sNaBWJgKXGTd1sNaBW9XGW2d1PaBW9W5W2d1Pa",
  "BW9Y5WBd1PaBW9W5WBd1PaBUWBd1sNaBW9Y5WCd1PaBW9W5WCd1PaBWJeQW5WCd1PaBW9W5WCd1sNaBW9XGm2d1PaBW9W5",
  "m2d1PaBDsNaBAaNXQKkDaNXQAaNWRKkDaNWRc38ZJWXTWUBWbSWUBw2WUBXb3WUBXc4WUBn6WRBvAWRBWXTWRBWbSWRBw2",
  "WRBXb3WRBXc4WRc35W5cU5d2GWI702XQZFWJY4702XQZFWJW4702XQZFWJXN702XQZFWJWI70Y5XQZFWJY470Y5XQZFWJW",
  "470Y5XQZFWJXN70Y5XQZFWJWI70ZJXQZFWJY470ZJXQZFWJW470ZJXQZFWJXN70ZJXQZFd25WI702g7ZFWJY4702g7ZFWJ",
  "W4702g7ZFWJXN702g7ZFW9WI70g7ZFW9Y470g7ZFW9W470g7ZFW9XN70g7ZFWJW5WI70g7ZFWAY470g7ZFWAW470g7ZFWA",
  "XN70g7ZFWKWI70ZJg7ZFWKY470ZJg7ZFWKW470ZJg7ZFWKXN70ZJg7ZFWJWIZE70WVRh8WJY4ZE70WVRh8WJW4ZE70WVRh",
  "8WJXNZE70WVRh8WJWIZE70Y5h8WJY4ZE70Y5h8WJW4ZE70Y5h8WJXNZE70Y5h8WJWIZE70eGh8WJY4ZE70eGh8WJW4ZE70",
  "eGh8WJXNZE70eGh8WJWIZE70W5h8WJY4ZE70W5h8WJW4ZE70W5h8WJXNZE70W5h8WTWIZE70eQW5h8WTY4ZE70eQW5h8WT",
  "W4ZE70eQW5h8WTXNZE70eQW5h8KWIWo77KY4Wo77KW4Wo77KXNWo77KWId37KY4d37KW4d37KXNd37KWIw57KY4w57KW4w",
  "57KXNw57UWIW5w57UY4W5w57UW4W5w57UXNW5w57KWIW57KY4W57KW4W57KXNW57c39WIgG7KY4gG7KW4gG7KXNgG7Ub9a",
  "MgG7La1gG7UbNa1gG7LaMgG7UA8gG7UW9WKgG7cN7XuMWIXGY27W0Y4XGY27W0W4XGY27W0XNXGY27WAb9aMXGY27W1a1X",
  "GY27WAbNa1XGY27W1aMXGY27LWIY27LY4Y27LW4Y27LXNY27W0b9aMY27Ma1Y27W0bNa1Y27MaMY27W0WIY5Y27W0Y4Y5Y",
  "27W0W4Y5Y27W0XNY5Y27WAb9aMY5Y27W1a1Y5Y27WAbNa1Y5Y27W1aMY5Y27W0WIW5Y27W0Y4W5Y27W0W4W5Y27W0XNW5Y",
  "27WAb9aMW5Y27W1a1W5Y27WAbNa1W5Y27W1aMW5Y27WAWIeQW5Y27WAY4eQW5Y27WAW4eQW5Y27WAXNeQW5Y27WKb9aMeQ",
  "W5Y27WBa1eQW5Y27WKbNa1eQW5Y27WBaMeQW5Y27c39WIXQZFKY4XQZFKW4XQZFKXNXQZFWJWIS7wMXQZFWJY4S7wMXQZF",
  "WJW4S7wMXQZFWJXNS7wMXQZFW9WI70sPaHW9Y470sPaHW9W470sPaHW9XN70sPaHW9W57h8WaGFEEsCEFWL5mQUWIiX4S7",
  "W9W4dIXc5S7W9WIbSXc5S7W9W4bSXc5S7UWIWxCS7UW4WxBS7UWIWxBS7UW4WxCS7W9WIWxDn5S7W9W4WxDn5S7W9WIWxE",
  "n5S7W9W4WxEn5S7W9S7h8WaGFEEsCd237ZRY4xTb9aMWBW4xTWxIbNaMd2XHaNbDYxD0TX3EEX32YxDWJAWLWU0TX3ENX3"]

/-- The names of characters from U+10000 on, part 4. -/
def wideD : List String := [
  "EEX34M2WUKiX5YvJUCsPUMU0MW1sPU0MAiX6g8ASeFAXc4eFAiX7dSAiX8WSAiX9WSKWS0YtSAiXAWSAiXBWSKWS0iXCAi",
  "XDWSAYxEWSU5RcLYwDKXV8e5dSUf7oGRdSAWeAWx6AWe9Wx60iXEWTdS0XC6W6g8n4W9KXaUiXFdS5UWS0iXGy0AiXHWSA",
  "iXIWSW9YwJZUcLqTiXJAiXKWSAiXLWSAWSWbNAiXMWSW9WS0FiXNf7W9XbMWS0aBhFWMFZJ6F2sIWJWS0vUXc6d0yMWJiX",
  "OWS0XaBXc6hEXIjJWS0jJhF6dSXc6hEW9WS0YJhEiXPW9iXQWS0iXRi4AYxFvC0iXSKiXTW9WkQ0iXU0iY0KhCaIiY1AXw",
  "TXaK0iY2KkFiY3iY40iY50iY6AiY7iY80iY9An3iYA0iYBAiYCXaGAiYDWaJKWc00iYEAYuAiYFAiYGWXQ0WzLAWeLWzB0",
  "iYHKsBwIWdFKy2wIWdFKmQwIWdFAiYIiYJKiYKYuHiYLAiYMXV0UiYNWnQ6oE0iYOAXbGWlT0iYP0iYQ0iYR0iYS0Yu30i",
  "YTAiYUYu2Aw2iZ0UiZ1XY6RWnOAiZ2YxG0YbCKWXQRiZ30iZ40iZ50iZ60iZ7AiZ8Yu6AiZ9f30iZAKXaI0WzLKWaT0iZB",
  "0iZC0iZD0XzO0iZEKXW3RWk50iZFAiZGWnOAiZHw20iZIAfEXaJ0iZJX8jJWS0jJhF6NjNAiZKWSUjJWS0iZLWTWS0XaMd",
  "46XaMy0WBiZMhF6q8hEAiZNWSAiZOWS0iZPAiZQWSUWSWX2oGXbNL0iZRhF0XpGAiZSYxH0iZTAiZUYuNAWWJxJ0ia0Aia",
  "1WS0ia20ia3Aia4WS0Yb50ia50XVM0ia60ia7AYV4WS0ia80XV10ia90iaA0iaB0Yu40iaCAiaDWSAiaEWS0iaF0iaG0ia",
  "H0YuQ0iaI0iaJ0iaK0iaL0iaM0iaN0iaO0iaP0iaQ0XxS0iaR0iaS0iaT0iaU0ib00ib10ib20ib30ib40XoQ0ib50Wz3A",
  "ib6WWUAib7ib8UYv2ib9n6xGCf6xG2ibACSxG0WkA0j70WiR0WkD0ibB0ibCAWx4ibDUWVK0ibEibFAibGWwRAibHWwRAi",
  "bIWbG1j7AibJibK0ibLAr3ibMAXt3f30ibN0ibO0ibP0ibQ0ibRAibSYu8Av8Wp9At9ibT0ibUAic0kFAic1kFAic2kFKW",
  "S0ic30YxI0WzOAYvCYxIAic4kFKkF0ic5LaIic6ic71ic8LaIWlUWiM0ic90icA0icB0icC0icD0icE0icF0icGAWXTeFA",
  "icHWiH0icI0icJ0YxH0icKKn6icLsM0icMKicNicOuUAicPicQAicRgIKicSJicT0icU0id0ApKid10id20Xc20id30Yx1",
  "Aid4WnPKid5RWz4KoERid6AWx4YnIAid7Yv70id80id9KidARWjAKWGRYxA0idB0idCAidDidEKh7dLj02kE2oA2oB2eR2",
  "oCWJSdLeRa0Xc7aTWJPdLeRa0Xc7aTWJh7dLeRa0Xc7aTWJSdLj0a0cMaTW1kEa0cMaTW1oAa0cMaTW1oBa0cMaTW1eRa0",
  "cMaTW1oCa0cMaTWJPdLj0a0cMaTW1kEa0cMaTW1oAa0cMaTW1oBa0cMaTW1eRa0cMaTW1oCa0cMaTWJh7dLj0a0cMaTW1k",
  "Ea0cMaTW1oAa0cMaTW1oBa0cMaTW1eRa0cMaTW1oCa0cMaTX8SdLeRa0FWMXc8aTX8PdLeRa0FWMXc8aTX8h7dLeRa0FWM",
  "Xc8aTUSdLYMj03kE3oA3oB3eR3oCUPdLYMj03kE3oA3oB3eR3oCUh7dLYMj03kE3oA3oB3eR3oCX8SdLeRa0EWMWkPaTX8",
  "PdLeRa0EWMWkPaTX8h7dLeRa0EWMWkPaTX8SdLj0a0EWMd7aTWLkEa0EWMd7aTWLoAa0EWMd7aTWLoBa0EWMd7aTWLeRa0",
  "EWMd7aTWLoCa0EWMd7aTX8PdLj0a0EWMd7aTWLkEa0EWMd7aTWLoAa0EWMd7aTWLoBa0EWMd7aTWLeRa0EWMd7aTWLoCa0",
  "EWMd7aTX8h7dLj0a0EWMd7aTWLkEa0EWMd7aTWLoAa0EWMd7aTWLoBa0EWMd7aTWLeRa0EWMd7aTWLoCa0EWMd7aTX8SdL",
  "eRa0NWMpIaTX8PdLeRa0NWMpIaTX8h7dLeRa0NWMpIaTKSdLWY3KPdLWY3Kh7dLWY3WJSdLWY3a0cMaTWJPdLWY3a0cMaT",
  "WJh7dLWY3a0cMaTKSdLYxJ2YxK2YxLKPdLYxJ2YxK2YxLc3DidFn6YxM2YxN2Xb02sS2WcH2YxO2YxPBPYxM2YxN2Xb02s",
  "S2WcH2YxO2YxPbO3idGidHAidIidJ0idK0Ww8AXhFYvBc34idLRXxRAidMidN0idO0idP0idQbE4idR0idS0idT0Yb2Aid",
  "Uie00ie1Aie2YuCbOAie3ie40XsQ0ie50WzSAie6Yx20ie7AXaNWjB0ie8AYPWc00ie9AYb3XXA0ieA0ieB0U0YxQ0Yw90",
  "ieCAieDieE0ieF0ieGAyNieH0ieI0Xu90ieJ0Yx7AYxQoEAXsRWdEAY1YvU0ieKbE4WzG0ieL0Yv50ieMAieNieO0XV60W",
  "hI0WlU0iePAwJYxRKYxR0ieQbO6ieReF0ieSAYnLYxEAYxFhC1kFKkF0Yv9bEBieTAWW9YtU0YaO0YxG0ieU0if00if1Ai",
  "f2YaT0if30XxObO7if4WSAif5WSX8WS0YJhF6dSX4hECif6sICbGhEKcIZ7WSAXzAXW00XbKdC9dS0XCvU6YLn4AW4dSAW",
  "IdSKWbNWKdSBW9dSW9XCZRfRcLif7AeFsTbOAa9if81if91ifA1ifB1ifC1ifD1ifE1ifF1ifG1ifH1ifI1ifJ1ifK1ifL",
  "1ifM1ifN1ifO1ifP1ifQ1ifR1ifS1ifT1ifU1ig01ig11ig21ig31ig41ig51ig61ig71ig81ig91igA1igB1igC1igD1i",
  "gE1igF1igG1igH1igI1igJ1igK1igL1igM1igN1igO1igP1igQ1igR1igS1igT1igU1ih01ih11ih21ih31ih41ih5XSXP",
  "Aa9bGXPW6AOXPaF98WNYGW6AOXPaF98W4AOXPaFXJ8a9bGYGW6AOYGaF98WNXPW6AOYGaF98W4AOYGaFWOW6AOYGW68WEa",
  "FOXPW68WEAOXPW68WEaFOYGW68WEAOYGW68W4aFOYG8XJAa9bGYGaFOYGW68WEAOYGW68WEaFOXPW68WEAOXPW68W4aFOX",
  "P8WOW6AOXPW68XSYG8a9bGXPW6AOXPaF98WNYGW6AOXPaF98W4AOXPaFXJAa9bGYGW6AOYGaF98WNXPW6AOYGaF98W4AOY",
  "GaFWOW6AOYGW68WEaFOXPW68WEAOXPW68WEaFOYGW68WEAOYGW68W4aFOYG8XJ8a9bGYGaFOYGW68WEAOYGW68WEaFOXPW",
  "68WEAOXPW68W4aFOXP8WOW6AOXPW68X9686XPgNNkKa9XIA6XP68gNNkKa9XIYG6A6XPgNNkKa9XIA6YG68gNNkKa9W0gN",
  "Fd8a9W9YGgNFd8a9W98gNFd8a9W9XPgNFd8a9UW8Ff0YxS3YxT3YxU3Yy03Yy13Yy2UXFFf0YxS3YxT3YxU3Yy03Yy13Yy",
  "2WJA6XPFf0a9W1YGFf0a9WJ86YGFf0a9W1XPFf0a9WJYG6XPFf0a9UXFFf0ih6UYGFd8a9LNl9a9LW2l9a9LNkKa9LWJl9",
  "a9U8Fd8a9LNl9a9LW2l9a9LNkKa9LWJl9a9UAWLY5lBU8WLY5lBUYGWLY5lBUXPWLY5lBKqUY5lBXIYGWLa96XPWLqUY5l",
  "BX0qUY5lB6XPWLa9e12AWLqUY5lB68WLa9KWo4WdGm6UqUWo4WdGm6KW5XFm6WJYGAOXP8m6WA8OXPAm6WA6XPgNWLa9WJ",
  "A68gNWLa9W9YGAgNY5lBW08gNY5lBW9XP8gNY5lBW0AgNY5lBXIf3XsSXGbGYGaFOW6A88WDW6AOXPaFW48OXPaFXCYGaF",
  "OW6AOXPaFW78OXPaFXCW6AOXPaFOW68WGYGaFOW68YBYGaFOW6A6W68OXPaFX686W6AOXPaFWSOXPaFOW6AX6AOXPaFOW6",
  "8YBW6AOYGaFOW68OXPaFY28OYGaFOW6AOXPaF4cBW2XF0W8W0Aih7Wb7KqUo6LUAWLXaQhCU8WLXaQhCWJqUXN70m3WIXI",
  "WI76YG6XPFf0a9XIW476YG6XPFf0a9WTXN768Ff0a9WTY4768Ff0a9KAWLyOK8WLyOKih8fIbDU8YJd3MKkDbGbDWBW68O",
  "XPaF2cBWJSW5pJ0q9WWEWJAmQS8ZRXCWJW6mQS8ZRXCWJ8mQS8ZRXCUkDd3e8LAWnQWi6M0ih9f7CihAA38C0YvAKSm5Xu",
  "Hc3W7ihBXKY92F2E2N2T2W22WB2WJ2WC2WObOvii2ihCWcTbOW0WcTgJBf5LBdULBZT5Bw65BWY551tA1rDBAbOB8bO1bC",
  "BWH51a41WdNBaUZA1fQBXKY92F2E2N2T2W22WB2WJ2WC2WO1dF1nCBa65BcU5BaA5Be8LBWY6fRW0aP41C4YR4YE4Y64G4",
  "ZK4XO4XU4K4Z54XR4WE4XB4X04D4YH4a74W74WA4XS4B4XT4YS4YO4Y74YFLAWRWPBgKfQL8WRWPBYTcCBY1Z7BZLcCW0a",
  "P21C4YR4YE4Y64G4ZK4XO4XU4K4Z54XR4WE4XB4X04D4YH4a74W74WA4XS4B4XT4YS4YO4Y74YFLAf6WPBW8Z7L8f6WP1X",
  "IAWj1WcTbOZ5Wa7ihD1ihE1ihF1ihG1ihH1ihI1ihJ1ihK1ihL1ihM1ihN1ihO1ihP1ihQ1ihR1ihS1ihT1ihU1ii01ii1",
  "1ii21ii31ii41ii51ii61ii71ii81ii91iiA1iiB1iiC1iiD1iiE1iiF1iiG1iiH1iiI1iiJ1iiK1iiL1iiM1iiN1iiO1i",
  "iP1iiQ1iiR1iiS1iiT1iiU1ij01ij11ij21ij31ij41ij51ij61ij71ij81ij91ijA1ijB1ijC1ijD1ijE1ijF1ijG1ijH",
  "1ijI1ijJ1ijK1ijL1ijM1ijN1ijO1ijP1ijQ1ijR1ijS1ijT1ijU1ik01ik11ik21ik31ik41ik51ik61ik71ik81ik91i",
  "kA1ikB1ikC1ikD1ikE1ikF1ikG1ikH1ikI1ikJ1ikK1ikL1ikM1ikN1ikO1ikP1ikQ1ikR1ikS1ikT1ikU1il01il11il2",
  "1il31il41il51il61il71il81il91ilA1ilB1ilC1ilD1ilE1ilF1ilG1ilH1ilI1ilJ1ilK1ilL1ilM1ilN1ilO1ilP1i",
  "lQ1ilR1ilS1ilT1ilU1im01im11im21im31im41im51im61im71im81im91imA1imB1imC1imD1imE1imF1imG1imH1imI",
  "1imJ1imK1imL1imM1imN1imO1imP1imQ1imR1imS1imT1imU1in01in11in21in31in41in51in61in71in81in91inA1i",
  "nB1inC1inD1inE1inF1inG1inH1inI1inJ1inK1inL1inM1inN1inO1inP1inQ1inR1inS1inT1inU1io01io11io21io3",
  "1io41io51io61io71io81io91ioA1ioB1ioC1ioD1ioE1ioF1ioG1ioH1ioI1ioJ1ioK1ioL1ioM1ioN1ioO1ioP1ioQ1i",
  "oR1ioS1ioT1ioU1ip01ip11ip21ip31ip4"]

/-- The names of characters from U+10000 on -/
def wide : List String := wideA ++ wideB ++ wideC ++ wideD

/-- Further names -/
def further : List String := [
  "0ip5bE0WwB0ip6c30tTRXsH2q7bE0ip7KcNRq7bE0ip8KcNRWiTbE0ip90ipAbE0XsI0ipBbE0WiU0ipCbE0ipD0XsJbE0",
  "ipEAk3o8bO0XFo8bE0ipFbE0sQKcNRZ7bE0ipGbE0ipHbO0Z7WWAbO0WVMZ7bE0ipIAZ7o8bO0W8o8bE0ipJ0YZTbO03WW",
  "AAXsKWb3bE0ipKAYy3FbO0Wb5kCbE0fNAYy3Y9bO0Wb5aIbE0gFKXsLWwCWj0bE0XnR0ipLc30WWBsJF0ipMc30WWBsJE0",
  "ipNc30WWBsJN0ipOc30WWBsJT0ipPbO0kDWiU0ipQbO0XsMXsNUcNRWiTa9bE0ipR0l1bE0Wj1KcNRY5bE0ipS0ipTbE0W",
  "wD0ipUbE0Wj0AWWCdPbE0iq0c30WW4dPTAWwEdPbE0iq1c30WW4dPN2EbO0Ww9dPbE0iq2KWW4dPFbO0Wb6dPbE0WVS0Xy",
  "DbEY2Wb2bE0WwF0WXFbO0iq3k3KZ3iq4iq5bE0YVT0iq6c30Yy4iq7Yy50iq8c30c4Yy4Yy50iq9bE0XC0Yh1bO0XsBZ70",
  "c3cD0tTRYy6WY4UcNRYy6WY4bE0iqAKk3o8pHc30XFo8pHbE0iqBUk3o80Yy7cD0XFo80Yy7bE0iqCKZ7o8pHc30W8o8pH",
  "bE0iqDKuMZ7WKbG0j5bE0iqEKuMZ7iqFbG0W9bE0iqGAgKXCbP0Z7WWAbE0jDKZDWb5EbE0iqHbE0iqIKZDWb5NbE0iqJb",
  "E0iqK0iqLc30WWBsJXc9KWzNWzUFbF0iqMbE0iqNKWzNWzUEbF0iqObE0YaMKpHiqPiqQbE0iqRAWj1k3bE0iqSAYy8XVH",
  "bE0XVG0YgRcD0tTRYy9WY4bQ0YyAWY4UcNRYy9WY4bQ0YyAWY4bE0iqT0YtHc30tTRXc90iqUcD0ZDir0k3XcA0ir1c30Z",
  "Dk3XcAKsJir2XcAbE0ir30WkKbO0Xc9YaAKir4ir5YyBbE0ir60Xz6bO0ir7Yy80ir8c30XqSir9YyB0irAbEDXW6cDcSa",
  "P41b4L21b4bEiPirBbEs4irCcNcKWYLWeNdFWeOAc3Wm5XgN1wLcDjDXhI1nSYmFbH2irDbG4f1bG2hNdCeKWqNLXhQWqP",
  "gUlRWr2c3mDqJWrSirE2irF2irG2irHbEWoEirI0irJ0irK0irL0irMbEXYTirN0irO0YnS0irP0irQbERirR0irS0irT0",
  "irU0is00is1bEWHis20is3bE6is40is50is60is7c3aKis8is9WvHcDvAisAZUWVSW1BbUW1dCWxCWIZE70JW8W0dC2W4Z",
  "E70JW8W0cDWVWReBjCr4LcDXsEWfD1WV4eNbErd4isB0isC0isD0isE0isF0isG0isH0isI0isJ0isK0isL0isM0isN0is",
  "O0isP0isQdM9WlQ3cEW88SsUWPbEcEisRc30isSisTLbE0isUcDelSYh35WmHc0WCX4WmHr5X4r5cDpYGYnU41XU3i3c4W",
  "021XU3i3c3mj7Yo51it0dCdrIYoUmOW1WXJWn4Wn5YqAbEvub2it10it20it30it40it50it60it70it80it90itA0itB0",
  "itC0itD0itE0itF0itG0itH0itI0itJ0itK0itL0itM0itN0itO0itP0itQ0itR0itS0itT0itU0iu00iu10iu20iu30iu",
  "40iu50iu60iu70iu80iu90iuA0iuB0iuC0iuD0iuE0iuF0iuG0iuH0iuI0iuJ0iuK0iuL0iuM0iuN0iuO0iuP0iuQ0iuR0",
  "iuS0iuT0iuU0iv00iv10iv20iv30iv40iv50iv60iv70iv80iv90ivA0ivB0ivC0ivD0ivE0ivF0ivG0ivH0ivI0ivJ0iv",
  "K0ivL0ivM0ivN0ivO0ivP0ivQ0ivR0ivS0ivT0ivU0iw00iw10iw20iw30iw40iw50iw60iw70iw80iw90iwA0iwB0iwC0",
  "iwD0iwE0iwF0iwG0iwH0iwI0iwJ0iwK0iwL0iwM0iwN0iwO0iwP0iwQ0iwR0iwS0iwT0iwU0ix00ix10ix20ix30ix40ix",
  "50ix60ix70ix80ix90ixA0ixB0ixC0ixD0ixE0ixF0ixG0ixH0ixI0ixJ0ixK0ixL0ixM0ixN0ixO0ixP0ixQ0ixR0ixS0",
  "ixT0ixU0iy00iy10iy20iy30iy40iy50iy60iy70iy80iy90iyA0iyB0iyC0iyD0iyE0iyF0iyG0iyH0iyI0iyJ0iyK0iy",
  "L0iyM0iyN0iyO0iyP0iyQ0iyR0iyS0iyT0iyU0iz00iz10iz20iz30iz40iz50iz60iz70iz80iz90izA0izB0izC0izD0",
  "izE0izF0izG0izH0izI0izJ0izK0izL0izM0izN0izO0izP0izQ0izR0izS0izT0izU0jV00jV10jV20jV30jV40jV50jV",
  "60jV70jV80jV90jVA0jVB0jVC0jVD0jVE0jVF0jVG0jVH0jVI0jVJ0jVK0jVL0jVM0jVN"]

end SourceAudit.Text.Names
