/-!
# SourceAudit.Text.Names.Basic

The names of characters below U+10000, in the form that `SourceAudit.Text.CharName` explains.
-/

namespace SourceAudit.Text.Names

/-- The names of characters below U+10000, part 1. -/
def basicA : List String := [
  "bEW2gJAf5LAdULAZT5Aw65AWY550tA0rDAAbOA8bO0bCAWH50a40WdNAaUZA0fQAXKY91F1E1N1T1W21WB1WJ1WC1WO0dF",
  "0nCAa65AcU5AaA5Ae8LAWY6fRUaP41C3YR3YE3Y63G3ZK3XO3XU3K3Z53XR3WE3XB3X03D3YH3a73W73WA3XS3B3XT3YS3",
  "YO3Y73YFKAWRWPAgKfQK8WRWPAYTcCAY1Z7AZLcCUaP21C3YR3YE3Y63G3ZK3XO3XU3K3Z53XR3WE3XB3X03D3YH3a73W7",
  "3WA3XS3B3XT3YS3YO3Y73YFKAf6WPAW8Z7K8f6WP0XIbOW3Wo8gJKZPf5LAXcB5AWdO5AWY75AWY85AyQWGAfS50Z6AXcC",
  "5KXcDXcEtBW9hGJaQdULAa85AlHnDAYyC50ZQAWdP5AYyD5AmBE1NAY3cCAYyE5AXcF5AW6M0e9AmBFKYyFXcEtBW9fTJa",
  "QdULUWo9hQFd83WLCNkKKZPe8LWJaP41C0ZL5Y35YT5XI5Z6FXL93dGNYE0e9NG0ZL5Y35YT5Z6NK0ZL5Y35YT5Z63tCNX",
  "00XIND0ZL5Y35YT5XI5Z6AoR5WJaP41D0W0NB0ZL5Y35YT5Z6NY70Y33tDW021yRWANC0ZL5Y35YT5XI5Z6FXL93dGNYE0",
  "e9NG0ZL5Y35YT5Z6NK0ZL5Y35YT5Z63tCNX00XIND0ZL5Y35YT5XI5Z6AtE5WJaP21D0W0NB0ZL5Y35YT5Z6NY70Y33tDN",
  "Y70Z6WA41C0ZQWA21C0ZQWA41C0aDWA21C0aDWA41C0kLWA21C0kLWA41YE0Y3WA21YE0Y3WA41YE0YTWA21YE0YTWK41Y",
  "E0M9WK21YE0M9WA41YE0bFWA21YE0bFWA41Y60bFWA21Y60bFWA41Y60W0WA21Y60W0WA41G0ZQWA21G0ZQWA41G0aDWA2",
  "1G0aDWK41G0M9WK21G0M9WA41G0kLWA21G0kLWA41G0bFWA21G0bFWA41XO0YTWA21XO0YTWA41XO0aDWA21XO0aDWK41X",
  "O0M9WK21XO0M9WA41XO0e9WA21XO0e9WA41XU0YTWA21XU0YTWA41XU0W0WA21XU0W0WA41K0XIWA21K0XIWA41K0ZQWA2",
  "1K0ZQWA41K0aDWA21K0aDWA41K0kLWA21K0kLWK41K0M9W021lIKL4d9XcGL2d9XcGWA41Z50YTWA21Z50YTWA41XR0e9W",
  "A21XR0e93YyGWA41WE0Y3WA21WE0Y3WA41WE0e9WA21WE0e9WA41WE0bFWA21WE0bFWK41WE0W6MWK21WE0W6MWA41WE0W",
  "0WA21WE0W0WA41X00Y3WA21X00Y3WA41X00e9WA21X00e9WA41X00bFWA21X00bFOYyHnErDL41nFL21nFWA41D0ZQWA21",
  "D0ZQWA41D0aDWA21D0aDWK41D0JY3WK21D0JY3L4d9c7L2d9c7WA41W70Y3WA21W70Y3WA41W70e9WA21W70e9WA41W70b",
  "FWA21W70bFWA41WA0Y3WA21WA0Y3WA41WA0YTWA21WA0YTWA41WA0e9WA21WA0e9WA41WA0bFWA21WA0bFWA41XS0e9WA2",
  "1XS0e9WA41XS0bFWA21XS0bFWA41XS0W0WA21XS0W0WA41B0XIWA21B0XIWA41B0ZQWA21B0ZQWA41B0aDWA21B0aDWK41",
  "B0XL9WK21B0XL9WK41B0JY3WK21B0JY3WA41B0kLWA21B0kLWA41YS0YTWA21YS0YTWA41Y70YTWA21Y70YTWA41Y70Z6N",
  "YF0Y3WA21YF0Y3WK41YF0M9WK21YF0M9WA41YF0bFWA21YF0bFDYPWANYR0W0WA41YR0U5WdQWA21YR0WdQW041YIWBW02",
  "1YIWBW041YJDNYE0UWA21YE0UW041WoAY6NY60U5WdQWA21Y60WdQDYMhHW041Z2G3pPDYJGNZK0UWA21ZK0UWA41XO0U3",
  "gLL21WdRL41dMNK0W0NXR0UWA21XR0UNWE0WGNYyI0W0W041YMXBW2X00AUWU21X00YP8j7WK41D0W6XI5d4WA21D0d4L4",
  "1WY9L21WY9WA41YH0UWA21YH0UB1XcHW041YIEW021YIEL41iEW01Z2iEiFWK21XS0eAUWA41XS0UWA21XS0UWK41XS0bP",
  "UNB0d4WA21B0d4L41eJNXT0UNY70UWA21Y70UWA41YF0W0WA21YF0W0L41rE4Z2W021rEZ2E0aHW01E0W0W041YIW2W021",
  "YIW2WK1ZPeKZA0W02WdSCWoBoSCXcIoSCXcJoSCbPoSWA41tF0bFX1Y6021YF0bFWA21tF0bFL41XcKWCWE021Z5L21XcK",
  "L41XcLWCX0021Z5L21XcLWA41C0bFWA21C0bFWA41K0bFWA21K0bFWA41D0bFWA21D0bFWA41B0bFWA21B0bFWU41B0Z66",
  "ZQWU21B0Z66ZQWU41B0Z66Y3WU21B0Z66Y3WU41B0Z66bFWU21B0Z66bFWU41B0Z66ZLWU21B0Z66ZLDYMGWU41C0Z66ZQ",
  "WU21C0Z66ZQX941C0M96ZQX921C0M96ZQWA41dG0ZQWA21dG0ZQWA41XO0W0WA21XO0W0WA41XO0bFWA21XO0bFWA41XR0",
  "bFWA21XR0bFWA41D0kLWA21D0kLWU41D0kL6ZQWU21D0kL6ZQWA41rE0bFWA21rE0bFNZ50bFL41tFWCY6021YFL21tFWA",
  "41XO0Y3WA21XO0Y3L41XcM3WdSNX00ZLWA21X00ZLX941C0XL96Y3X921C0XL96Y3WA41dG0Y3WA21dG0Y3WU41D0W06Y3",
  "WU21D0W06Y3WK41C0JZLWK21C0JZLWK41C0ZPaDWK21C0ZPaDWK41G0JZLWK21G0JZLWK41G0ZPaDWK21G0ZPaDWK41K0J",
  "ZLWK21K0JZLWK41K0ZPaDWK21K0ZPaDWK41D0JZLWK21D0JZLWK41D0ZPaDWK21D0ZPaDWK41W70JZLWK21W70JZLWK41W",
  "70ZPaDWK21W70ZPaDWK41B0JZLWK21B0JZLWK41B0ZPaDWK21B0ZPaDWK41WA0a4HWK21WA0a4HWK41XS0a4HWK21XS0a4",
  "HL41XcNL21XcNWA41XU0bFWA21XU0bFWU41X00YP8j7WA21Y60gML41tGL21tGWA41YF0UWA21YF0UWK41C0M9WK21C0M9",
  "WA41G0e9WA21G0e9WU41D0Z66ZQWU21D0Z66ZQWU41D0XI6ZQWU21D0XI6ZQWK41D0M9WK21D0M9X941D0M96ZQX921D0M",
  "96ZQWA41Y70ZQWA21Y70ZQNWE0gMNX00gMNXS0gMDlIZ5DXcOeLDYyJeLWA41C0W0NYE0W0WA21YE0W0WA41WE0WGW2XS0",
  "bGW0WK21WA0ySaHW2YF0ySaHW041eKZAW021eKZAWA41YR0W0DBWGDYMXTNG0W0WA21G0W0WA41Z50W0WA21Z50W0WU412",
  "a70UaHWK21a70UaHWA41W70W0WA21W70W0WA41Y70W0WA21Y70W0DYMC3dADYMdANYR0UDYJDNYE0gMNY60aH5UDZ2G3pP",
  "E0UDYJGNZ2YJGG0UW2d0Z2YJGW2lIZ50W0NXO0UDfUXOW0124XOL21gLDXcPd4DYMXUNXU0UNWYA0UNK0W03dMW0124KWK",
  "21WE0W6XI5oTFbPU3WoCDYMXBP0YPj7NXB0UW2X00AUFbPUW0124X0W021pQDW0124c7W021d0cG3fHDYMW7P0YPj76UW2",
  "W70YPj75aH5w7W2Z2W70w7W0124W7EZPW7WA21WA0U3iEWMlIZ50W06UNXcQZ2iENiE0gMDYMXSW2XS0bPUDBWG3eJNXT0",
  "UDYMXT4YS4Y7W0124Y7WK21YF0bPU5gM3rEE0gML1eKZAMXcRpRYyKMZPeKZACWoDYECWoEoSM24YRWA21d0YJGWK124XO",
  "0U4XUWA21Z50rFDYMXRW0124WEWA21a70UWA1eKZA0W0WBZ2eKZA0W0W021tFeLDWdTeLW2tFeL0gMDWoFeLDWdUeLW2Xc",
  "SeL0gMDWoGeLDXcTeLDXcUeLL1WoEXd0CYyLXd0WK21YMXU0w7H6aHUe012XUE0U3Z53W7DYMW7F0UN4ZPW73YS3Y72nGC",
  "JnGCYMa42rDCZ2a4M8WLXLMAWLXLCeKZAMZ2eKZACAZFC8ZFCW9ZFCWKZFCYTcC0bFUe01W8Z72ZQCY3cCCZLcCMY1W8Z7",
  "3ZQDZLcCDY3cCCgNdFMWLgNdFW1tH8WLXLNAWLXLCW9d5CWKd5CWH5CiG50aDAM9AXL90kLA2XIKJY3cCUe01YyMUCbDcC",
  "C2gL3WE3WA3YONZ2eKZAMWe0YIWGMZ3YIWGMw8YIWGMY1YIWGMWe1YIWGW1rGWoHYILW1nHWoHYIL2Xd12YyNCJrDMY1WK",
  "ZFDW9ZFDAZFD8ZF3XLMW6ZLcCNJZLcCEY3cCCY1XICf7dFMtIZ3YIMcNZ3YIMtIY1YIMcNY1YI2Xd2CYJXd2MY1A7KcDZL",
  "cCBY3cCBYTcC1XI1ZQ1tJ1aDBM91Z6BU9BXL9LJY3cC1bFLW8Z79W0JW8Z79CZLcC1dNBZPaDLYMa49Ba49LZ2a49La498",
  "LZLcCHLY3cCHLAd5HL8d5HLAaQ91d4W0AWLXLHLW9d5HLWKd5HLWH5HLiG5HLYyOUHLbPUHBMHBZ6HBXLHBa4H1e91kLLW",
  "8Z7HByTHW0ZPJXd3HBbFHLYTcCHBaDHLZPaDHBXIHBZQHBY1Z7LJY1Z7BXIg9Lb0W0g9LYPW0g9Lb0fQg9LYPfQg9W08WL",
  "XLHLZPyTHBWRHBYyPHBYO9BW8XIBJtJLZLYILLY3YILBfIbJ2WoIClJhR2cHByT9LcU5HW0JW8Z7HLAaQHLa8XI9BXd49W",
  "0jOXDO9W0A87HLY47HBYyQw9L8ZF9W0AWLXL91Xd5BYOHLAZFHL8ZFHW26W9ZFHMWLXL9LM98BbCHLJXLHBtK9LJaDH2aD",
  "2ZQ3H2XICZPaDMW47HW0aP21C4G4K4D4B4YE4Y64XU4XB4W74XS4XT4YOUfI41Xd6L21Xd6W041hSyUW021hSyUBpS5LXP",
  "pS5W041Xd7z0W021Xd7z0bF3cHWA2Z2pTf8W1W1cIpTf8W1WBZ2cIpTf8W1Be8LL41WYBbF5hRBlJhRWA41dA0hRBtLXd8",
  "WA41f90hRNh90hRNdM0hRc62iH0hRc62eJ0hRNcG0hRWU21dM0lJ6hRL41dA3hT3gL3hH3f93mC3h93fJ3dM3iI3lK3cJ3",
  "dH3kM3iH3bQ3eTbH2f83iJ3eJ3fH3g03j83cGNdM0lJNeJ0lJWA21dA0hRNf90hRNh90hRNdM0hRWCeJ0lJ6hR3dA3hT3g",
  "L3hH3f93mC3h93fJ3dM3iI3lK3cJ3dH3kM3iH3bQ3eTDIf83f83iJ3eJ3fH3g03j83cGNdM0lJNeJ0lJNiH0hRNeJ0hRNc",
  "G0hRL4z1W1BhTW1BfJW1W0eJ0UW1W2Y36UW1W2Z66UW1BfHW1BbQW1Bz1W1L1hSz2W021hSz2B1WoJL21WoJB1z0L21z0B",
  "1z2L21z2B1yUL21yUUfK41tML21tML41Xd9L21Xd9L41z3L21z3L41z4L21z4L41z5L21z5L41wAL21wAL41XdAL21XdAK",
  "fIiIW1BeTW1LpTf8W1B1WYBL4fJW1LpTf9W1W0Z2pTf9W1L41oUL21oUW04pTf8W1C1z6L21z6W0eT0W0W1WA4Z2pTf8W1",
  "W1cIpTf8W1WBZ2cIpTf8W1WJlL41j90ZL3WoK3We23WoLDWoMj93tNDXdBK3eB3nI3We33tO3XdC3XdDNK0ZLDb0B3XdE3",
  "C3kN3jP3iK3gO3j93jQ3gP3KDb0K3WQ3gQ3iL3b33D3bA3kO3p03cQ3B3pU3WN3lM3g13ZB3WoNDq053p1DlH53G3cO3X9",
  "L21C3kN3jP3iK3gO3j93jQ3gP3KDb0K3WQ3gQ3iL3b33D3bA3kO3p03cQ3B3pU3WN3lM3g13ZB3WoNDq053p1DlH53G3cO",
  "3X9Nj90ZL3WoK3We23WoLDWoMj93tNDXdBK3eB3nI3We33tO3XdC3XdDNK0ZLDb0B3XdEL41cGL21cGL41rHL21rHW041j",
  "RGW021jRGW041aEeCW021aEeCWA41jRaEeCWA21jRaEeCW041lNeCW021lNeCWA41jRlNeCWA21jRlNeCL41We4L21We4L",
  "41j8L21j8L41wBL21wBL41z7L21z7WU41z70JZLcCWU21z70JZLcCL41z8L21z8W041nJcGW021nJcGWA41cG0We5WA21c",
  "G0We5L41We6L21We6L41z2L21z2BtP5KcDlLWe52YyRCZ1XdFCZ4XdF2YySMWMtP5CwC5WTlL41b0K0aHWK21b0K0aHW04",
  "1XdG5W021XdG5WA41kO0q1WA21kO0q1WA41iK0WoOWA21iK0WoOWA41iK0W0WA21iK0W0WK41iK0W6UWK21iK0W6UWA41j",
  "Q0c8WA21jQ0c8WA41gP0c8WA21gP0c8WA41WQ0c8WA21WQ0c8WK41WQ0W8W0WK21WQ0W8W0WA41WQ0W0WA21WQ0W0W041X",
  "dHWQW021XdHWQWA41b30c8WA21b30c8W04d9b3iKW02d9b3iKWK41bA0W6UWK21bA0W6UW041tQWNW021tQWNWA41p00c8",
  "WA21p00c8WA41cQ0c8WA21cQ0c8W041g2BW021g2BWK41g2B0W0WK21g2B0W0WA41WN0c8WA21WN0c8W04d9cQlMW02d9c",
  "QlMWA41g10c8WA21g10c8WK41g10W8W0WK21g10W8W0L41We7L21We7W041tQg1W021tQg1WK41tQg10c8WK21tQg10c8B",
  "1XdIWA41jQ0aDWA21jQ0aDWA41WQ0UWA21WQ0UWA41gQ0aHWA21gQ0aHWA41b30UWA21b30UWA41b30aHWA21b30aHW041",
  "XdJg1W021XdJg1WA41iL0aHWA21iL0aH3XdIWA41C0aDWA21C0aDWA41C0Z6WA21C0Z6W04d9Cj9W02d9Cj9WA41j90aDW",
  "A21j90aDL41pPL21pPWA41pP0Z6WA21pP0Z6WA41jQ0Z6WA21jQ0Z6WA41gP0Z6WA21gP0Z6W041tQtNW021tQtNWA41K0",
  "ZQWA21K0ZQWA41K0Z6WA21K0Z6WA41D0Z6WA21D0Z6W041pQDW021pQDWK41pQD0Z6WK21pQD0Z6WA41G0Z6WA21G0Z6WA",
  "41B0ZQWA21B0ZQWA41B0Z6WA21B0Z6WK41B0JY3WK21B0JY3WA41g10Z6WA21g10Z6WA41iK0c8WA21iK0c8WA41p10Z6W",
  "A21p10Z6WU41iK0W06UWU21iK0W06UWA41WN0UWA21WN0UWA41WN0W0WA21WN0W0W041jSgOW021jSgOW041jSWe2W021j",
  "SWe2W041jSXdKW021jSXdKW041jSXdLW021jSXdLW041jSWe3W021jSWe3W041jStOW021jStOW041jSXdMW021jSXdMW0",
  "41jSXdNW021jSXdNW041Z2gPW021Z2gPWA41gQ0UWA21gQ0UL41tRL21tRL41rIL21rIL41WYCL21WYCL41hIL21hIL41f",
  "AL21fAW041XdOWQW021XdOWQWK41gQ0W6UWK21gQ0W6UWK41b30W6UWK21b30W6UWA41bA0c8WA21bA0c8WA41We70c8WA",
  "21We70c8WK41b30AUWK21b30AUL41XdPL21XdPL41XdQL21XdQWA41gQ0c8WA21gQ0c8cD2WYD41WoP3WoQ3WoR3XM3z93",
  "b63q23mD3O3jQ3WoS3XdR3WoT3ZI3WYE3fB3ZG3XdS3XdT3rJ3eB3We83ZB3q33ZM3zA3XdU3X13Xe03WoU3Xe13dO3nK3",
  "Wp03Wp13Wp23WYF3gAcO3e01AWLXL1rDBXe2LBf5L1a4Be8LBiMLW021YMWoP3WoP3WoQ3WoR3XM3z93b63q23mD3O3jQ3",
  "WoS3XdR3WoT3ZI3WYE3fB3ZG3XdS3XdT3rJ3eB3We83ZB3q33ZM3zA3XdU3X13Xe03WoU3Xe13dO3nK3Wp03Wp13Wp23WY",
  "F3gAMd9z9Wp0W11eB0W0BaUZA1nDcD3We9WYDWp35UWeAWYDWp35KWYDXe35c32Xe4cCYyT2Wp42YyUCYz0Xe53Yz12Yz2",
  "2Yz32Yz42Yz52Yz62Yz72Xe63Yz82Xe7CYz9Xe8CXe9YzA2YzBCYzCYzD2YzE2YzF2YzG3YzH2YzI2YzJCXe9YzKMYzLWo",
  "QYzM2YzN2YzO2YzP2YzQLLYzRWUBmEYzSCYzTWp43WeB3WeC2XeA2YzU2Wp42WeB2WeC2XeBNZV0cEzB2ZV1MgBYKWp52Z",
  "V2BbMZV3BmEWeDBbMZV4LmEe1MCWeEMLbMXeCZV5LLYGMCXPMLbMbBZV6LmEWeCXe5bP91XA2zC2jT2WeF2c12zB2lO2Xe",
  "D2wD2q4CIe22e22WeGCIhU2hUCIbB2bB2jU2nLCIbA2bACIWp62Wp62Wp72mF2e12Wp8bP5q4XQW0d9XeEJzBDzBq4DJq4",
  "BbMXe62Xe7c3Ci0ZT5B5ZV7BXeFtSB5XeG2ZV8LZTL9Kq5Wp9WYGBWeHWYGAi0XeHUq5WpAXeI5MYQX55AZV95Ai0a4BXe",
  "JdPLZVAWpB5B5ZVBMXeKWYHZVCCWYHZVDCZVEWYHMXeLZVFZVG2ZVHL2Z3eMWMd9XA0cP0X23kP2nM2q62mG1nCB1LW0cN",
  "Rq7LW0bEMbMLBe8LL1XeMX22cRW1XA0rK9EcR9W1cK0cR9W1XA0cRHW1X20cR92XA2hJChKWpC2hK2nN2YN2Y82aK2lP2w",
  "E2dO2kP2eU2i12gC2i22eM2p22dB2jAWBzD0EX39ONX3HWBwFX20ZPXTPEX39PNX391WeIB1gA2fC2e22cP2WF2cF2eD2c",
  "KCXAZN2X21zE1WYI1WYJ1nM1q61mG1zF1wGBXeN9BcR92HBwHXABZPq6LLcFWeJ1ZVIWAXE52XT9W2ZP2XT9DMHBZ2q6W0",
  "nM0EX3Lq8cRHKq5XKY92F2E2N2T2W22WB2WJ2WC2WOKi0WY55BWpDdPBtPdPLW2d1aBL1lIhJ3fCCmBXACXAWpEW20q8cR",
  "96HCZ3cR4XA4cKW1B0cR9MZ3cRX22WpF2XeO2XePMhK0XLW3NX39XN2zA2XeQ2XeRW1Y80cR9W3EX3W892XeS2XeTWBY80",
  "NX392WeK2XeU2Xf0MlP0XLEMHQ62eM2Xf12Xf22Xf3WLlP0NX39XNOTX392Xf4W1dO02XT4XLEMHO2XTHWDMH6M9OEX392",
  "Xf5WBdO0TX39X0eU0MH6M9ONX3HW66NX39WBgC0EX3HONX39WBeM0NX39WBdB0NX39ClIgAWBgA0MZVJH5H2Xf6WBgA0NX",
  "3H2Xf7W1fC0M9ONX392zDCySe2Me20XLEM92i3WBe20NX3H2zGD0XL2Xf8WBzG0EX3H2Xf9WBzG0NX39W1cP02XTEM9ONX",
  "396HW1cF0MH3WeJ2XfAMcF0XLONX39CeDXfBW1WeK0M9W1eD0X293WeLO0cR9MhKWpCWeLMcK0XLCWYKc72c72B2cOCWYK",
  "cOWBcK0EX392jPCwFX2MX20aHE2XTW1cK0M92GWBX20NX3H3WeMO0cR9BaUZAB1dGXJ2Z3d9gC0cP0XAZNWNfC0cP0XAZN",
  "NWFW33DcPXA3YNDNX33eULcNRXfCWAtTRXfDgQZVKW02Z3q9Y9NZVLXfEY9W2lIi4RaKNWFQ3CY1eUCZ3rK2cK2X2CZ3X2",
  "3cFLwIRZVMW0wJaFY1ZADZ3ZAWKq9Z3ZA0ZVNaFL2Y1WFWA1lP0ZPXTW1dO0ZPXTUtUq5XKY93F3E3N3T3W23WB3WJ3WC3",
  "WOWJi01i10MHW1i20MHW1jA0MHL5ZVOtADZVPrJWA1eD0ZPXTUWYLcNRWYMLWpGaUZALWeNaUZABWpGdFBWeNdFBXFdFLd",
  "FWeOA38W0WpGdFWeOAW0WeNdFWeO81ZVQBZVRZVS2ZVT2ZVUbP2iMLB1XfFCmBXfF2jB2ZW03XfG2XfHMlIXfHWpH2c12c",
  "K2kP2kQ2qA3XfG2ZW13c12k02ZW22WeP2bB2XfICIXfI2G2bACZ2bA2kR2ZW32WpH2e12k1CXfJXfK3ZW43ZW5BZW692H2",
  "cIBZW792H2cIBZW892HLcIZW9XF3ZWABZWB92HBZWCcIBZWD92H1ZWEBXcDM1ZWF1ZWGW0EW8X394HLNX393HLkSZ793H1",
  "XfL1ZWHc431WpIZWI3XfM3nOX8i01hJ0NX3ZWJHWNMH6NX39WDNX3ZRY4HW86EX39WNEX3H6M9W3ZP2XTHE2XTWBY80EX3",
  "9WDNX3ZRY4HXKlP0EX3wKH62eMW3ZP2XTHMdO0W0WBeU0TX39WBdB0EX39WDNX3ZRXN9W3EX3wK9WBgA0EX3HWDNX3ZRY4",
  "HW1zD0M9ONX39QZRY4HW1WF0M95HWBcF0EX3HE2eM5XTMcP0WGWLdO0EX3wK9EcR9WLeU0EX3wK9X0Y802i01eMHS6EX3X",
  "KeU02i01eM6EX3XKdO02i01eM6EX3X0Y802i01eM9X0XA0tUq5XKE9HN9XAwFX20tUq5XKE9IN9ITHX0cK0tUq5XKE9HN9",
  "XAX2WeM0tUq5XKE9IN9X0Y80tUq5XKTHX0eU0tUq5XKT9EZPXTWBe20EX39KZWK1rL2ZWL2ZWM2WYN2WeQ2ZWN2ZWO2ZWP",
  "2ZWQ2ZWR2ZWS2ZWT2WYO2ZWU2ZX02ZX12ZX22ZX32ZX42ZX52zH2ZX62ZX72ZX82XfN2XfO2XfP2ZX92XfQ2ZXA2ZXB2ZX",
  "C2O2nP2ZXD2ZXE2ZXF2ZXG1ZXH1ZXI1ZXJ1ZXK1ZXL1ZXM1ZXN1ZXO1ZXP1ZXQ1wGB1zIc3FZXRXKY92F2E2N2T2W22WB2",
  "WJ2WC2WOB1C2bR2K2G2B2b72D2ZXS2X02YA2WT2XJ2ZG2ZM2XM2X12hL2XH2WpJ2c22WQ2X6CX7XfR2X82ZO2X72WN2ZH2",
  "X9CZOXfRCZXTZG3ZM3X1W0cDb0Z3YIDY1YIDmHYIMYPWpKYIDZ3YIDY1YIDmHYICWpLLMJM9LZ3YIrDLY1YIrDLW1b7ZXU",
  "2ZY01a4Bf5L1ZY1bF3ZY2BZY35BZY45KXfS1ZY52XfT2ZY62ZY72WpM2WeQ2WYP2WpN2XfU2WeR2Xg02ZY82WeP2bB2ZY9",
  "2aI2p32ZYA2ZYB2WpH2p42ZYCBLaI2ZYD2ZYE2gBW0e01Xg1WeRLLXg1WeRW0XE5YPG3GDXg2YCDYPYC3YCDXg2CDYPC3C",
  "W0e01b0CW0XE5b0CDYPB3BLe01KW0XE5YPK3K3D3wGBLXg3bP3bMXg32ZYF2ZYG2ZYH2ZYI2ZYJBiMLLbMZYKXg42ZYL2X",
  "g42ZYM2ZYN2ZYOCXeCZYP2ZYQc32ZYR1ZYS2rM2WeS2zJ2nQ2ZYT2Xg52WpN2ZYU2ZZ02WeT2rN2qB2dC2lQ2aI2Xg62ZZ",
  "12WYQ2WpO2bH2fR2ZZ22ZZ32dBBZZ4LBZZ5LBWYRLbF3bMcD2WYL1Xg7Z83ZG3ZO3b13bI3WYS3bK3X13eN3wL3c3d26i0",
  "1XA0zKnMPbS8nMO8W6W0OAW6W0EzKmGPdI8mGPnJM9P8nJMPAnJMPnJMHEM9X2zKbS8nM6M9WN8W6W06M9X2zKdI8mG6M9",
  "WObS8nM6AXLWN8W6W06AXLX2zKdI8mG6AXLF8cRFAcRW0WeI0ZZ6cR4cKNEX3HL1WeUX2LXg8nJMLf7nJMWK1cF0ZP2XTW",
  "LY80ZP2XTHW1eM0MHONX3HWLzD0EX3wKHBW8aHc42WdOL9LZZ7L9cE72Z3kTZZ8MY1kTZZ94ZZA4ZZBBrKZZCLmBXAZZDB",
  "Wf0rKW0WLrKX4rKWK1hJ02XTHEcR9WBYN0EX39WBeM0EX39XAgA0MH6NX39W1fC0MHW1cP0JWGWBWF0NX39XAX20EX3H6c",
  "R9IM9MdO0iFW1cK0MwMCXg9X2CY1XAWBlP0NX3HWBgC0NX3HW1zG0ZPW0Cg2cKWBkP0ZPXT9WBdB0NX3HW1e20MHXAfC0M",
  "H6c4X39WBhJ02WF9WBzA02WF9WBhK02hK9WBdO02cF9XKX20EX3H62cF9CWoAgA3fC3cFW1zA02XTW1hK02XTW1WpF02XT",
  "W1WeK02XTW1zD02XTWBjA0NX39WLWoAfC0NX39WBYN0NX396HX0cP02i01eM92ZZEL2wFX2MZ3wFX2WMX2WeM0EX3HDkTX",
  "gA3p2W0ZJnJM94HBwGHLZJWUHWBnJMi5WUHL2Y1cKMZ3kTZZF3gC3dB3fCNcF0mGW1Y1cF0mGMZ3kTZZG4ZZH4ZZI4ZZJ4",
  "ZZK4ZZLDXeFtSD5XeGW0ZZMcNRXfCLYMq6HBf6nM2q62mG2zE2WYI2WYJW0YIFM9MEX39CiF9MFMHMEX3HCiFHBYJzE2WY",
  "I2WYJL2Z3cKLnM0XLDM9W0mG0MHLAZF9L8ZF9LAZFHL8ZFHW0J8ZF9F0MWA8ZF90MLq60MW0LrOcFWeJUWpP5ZPdN2dN2b",
  "22cSL1b0C2C2YC2K2YU2B2ZCCaCW73WECkUGCb0G2G2Z0CkUDCb0D2D2Z92WQ2ZS2Y02b42Z82ZI2ZM2ZG2cT2ZO2b12bT",
  "2b52c92bI2XJ2a52XM2b82X72WYS2WT2aJ2YA2bK2X82X92X12hL2X62eN2wL2aL2ZB2c32XH2WNLXE5c73XgBB5fL2k2L",
  "XE5YC3K3YU3B3ZCDaCW74cADkUGDb0G3G3Z0DkUDDb0D3D3Z9B5c5W0XE5WpQG3WpR1mILWpS5Wf13WYTBZLcCBY3cCWAX",
  "E5kUYPG3gD3WpTB1hI2XgC2WpU2b62XgD2rI2c22Wf2CaCcA3d2W0XE5aCWE4d21e3BJe3BXKY92F2E2N2T2W22WB2WJ2W",
  "C2WOBiM5W05Z3Wq0ML1kUC2c72XgB2WpR2gD2WpTCZZNb52gRCW5X92zL2WYUCeKZA2Wf32wNAZZOWq1B5dN2b22cSbP21",
  "C2YC2K2YU2B2ZCCaCW73WEbG3G2Z0bG3D2Z92WQ2ZS2Y02b42Z82ZI2ZM2ZG2cT2ZO2b12bT2b52c92bI2XJ2a52XM2b82",
  "X7bG2WT2aJ2YA2bK2X82X92X1bG2X6bG4ZB2c32XH2WNbP35fL2k2LXE5YC3K3YU3B3ZCDaCW74cAbH3G3Z0bH3D3Z9B5c",
  "5L1ZZPXJc49Z9l0LbP51hL2rIbG2Wf2CaCcA3d2W0XE5aCWE4d2bP3XKY92F2E2N2T2W22WB2WJ2WC2WOWA1X10W6bGEXP",
  "bGBwOL25LWY7XgEF3E3N3TWCFZZQzMcLXgFCXgFqC1XgGBZZRLL1WZ0b2BiM5BWZ1LcD3ZZS5ZZTXgH2XgH2cSbP21C2YC",
  "2K2YU2B2ZCbG5bR2Z0bG3b72Z92WQ2ZS2Y02b42Z82ZI2ZM2ZG2cT2ZO2b12bT2b52c92bI2XJ2a52XM2b82X7bG2WT2aJ",
  "2YA2bK2X82X92X1bG2X62eNbG2aL2ZBbG2XH2WNbP35fLc42XE5YC3K3YU3B3ZCbH5bR3Z0bH3b73Z9B5c5bG4ZZUbP81X",
  "gC2WpU2b62hLbG2c2bP8XKY92F2E2N2T2W22WB2WJ2WC2WO1Za01Za11Za21Za3BzNZa4B5Za5BiM5c3BZa65dN2b22cSb",
  "P21C2YC2K2YU2B2ZCCaCW73WELXEkUGbP21G2Z0LXEkUDbP21D2Z92WQ2ZS2Y02b42Z82ZI2ZM2ZG2cT2ZO2b12bT2b52c",
  "92bI2XJ2a52XM2b82X7bG2WT2aJ2YA2bK2X82X92X1bG2X62eNbG2aL2ZB2c32XH2WNbP35fL2k2LXE5YC3K3YU3B3ZCDa",
  "CW74cADkUGbH2G3Z0DkUDbH2D3Z9B5c5bF3mIc4G1aCcA3d2W0XE5aCWE4d2bP3XKY92F2E2N2T2W22WB2WJ2WC2WOBiM5",
  "BwO5bP81gRB5wG2zF2XeNMZa7fL9MWUfL9MXgIfL9c32Za85dN2b22cSbP21C2YC2K2YU2B2ZCCaCW73WEbG3G2Z0bG3D2",
  "Z92WQ2ZS2Y02b42Z82ZI2ZM2ZG2cT2ZO2b12bT2b52c92bI2XJ2a52XM2b82X7bG2WT2aJ2YA2bK2X82X92X1bG2X62eNb",
  "G2aL2ZB2c32XH2WNbP35fL2k2LXE5YC3K3YU3B3ZCDaCW74cAbH3G3Z0bH3D3Z9B5c5bG8tJLZ0l0LLZ9l0LbP51hL2rIb",
  "G2Wf2CaCcA3d2W0XE5aCWE4d2bP3XKY92F2E2N2T2W22WB2WJ2WC2WO1XgGB1ZHLhQFd83WLCNkKCFzO3f0CNWf4c3BwP5",
  "b22cSbP21C2YC2K2YU2B2ZCbG4G2bR2Z0bG2D2b72Z92WQbG4Z82ZIbG2ZGbG2ZO2b1bG4bI2XJbG4X72WYS2WTbG4X82X",
  "92X12hL2X62eN2wL2aL2ZB2c32XH2WNc45XE5YC3K3YU3B3ZCbH4G3bR3Z0bH2D3b73Z9B5c5bF3mIc47Z9l0LbPFXKY92",
  "F2E2N2T2W22WB2WJ2WC2WOBZTYQCFWM3X5BXgJ5BWq25BXgK5BZa95BWq35LlQ95BwO5BZT5cN6ZaA5cDdN92dN2b22cSM",
  "cDb29B1C2YC2K2YU2B2ZCCaCW73WEbG2G2bR2Z0bG2D2b72Z92WQ2ZS2Y02b42Z82ZI2ZM2ZG2cT2ZO2b12bT2b52c92bI",
  "2XJ2a52XM2b82X7bG2WT2aJ2YA2bK2X82X92X12hL2X62eN2wL2aL2ZB2c32XH2WNbP35fL2k2LXE5YC3K3YU3B3ZCDaCW",
  "74cAbH2G3bR3Z0bH2D3b73Z9B5c5bP8l0LLZ0l0LbP21e42mJ2ZaBbQ3XgLXgMbQ3aCcA3d2W0XE5aCWE4d2bP3XKY92F2",
  "E2N2T2W22WB2WJ2WC2WObP85wQX9hQXKY9cEwRwSRTWMFcEwRwSRTWMEcEwRwSRTWMNcEwRwSRTWMFcEzPwSRTWMEcEzPw",
  "SRTWMNcEzPwSRTB5ZaCUXgN5Wq0dN2dN2b22cS2wQB1C2YC2K2YU2B2ZCCaCW73WEbG2G2bR2Z0bG2D2b72Z92WQ2ZS2Y0",
  "2b42Z82ZI2ZM2ZG2cT2ZO2b12bT2b52c92bI2XJ2a52XM2b82X7bG2WT2aJ2YA2bK2X82X92X12hL2X62eNbG2aL2ZB2c3",
  "2XH2WNbP35fL2k2LXE5YC3K3YU3B3ZCDaCW74cAbH2G3bR3Z0bH2D3b73Z9B5c5bP8l0LLZ0l0Lc471XgLXgM2c2bQ2aCc",
  "A3d2W0XE5aCWE4d2bP3XKY92F2E2N2T2W22WB2WJ2WC2WObP25zQ2zRcNEXg75cDb292dN2b22cSL1WZ0b22C2YC2K2YU2",
  "B2ZCCaCW73WEbG2G2bR2Z0bG2D2b72Z92WQ2ZS2Y02b42Z82ZI2ZM2ZG2cT2ZO2b12bT2b52c92bI2XJ2a52XM2b82X72W",
  "YS2WT2aJ2YA2bK2X82X92X12hL2X62eN2wL2aL2ZB2c32XH2WN2XgOW05W8WGc5CWZ2c52k2LXE5YC3K3YU3B3ZCDaCW74",
  "cAbH2G3bR3Z0bH2D3b73Z9B5c5L1MZaDB5Xe8c451XgPXB3Y73ZaELZ9l0LLhQFXgQ3XgRCNXgSCFXgT3Wq4CNXgUCFWq5",
  "L1hSYUCaCcA3d2W0XE5aCWE4d2bP3XKY92F2E2N2T2W22WB2WJ2WC2WOBZTYQCFWM3X5LhQFd83WLCNkKCFzO3f0CNWf4B",
  "XeJLL1XgPWZ33X03cA3WE3d23XRc32Xh05dN2ZaF2ZaGbP21ZaH2ZaI2ZaJ2ZaK2ZaL2ZaM2ZaN2ZaO2ZaP2ZaQ2ZaR2Za",
  "S2ZaT2ZaU2Zb02Zb12Zb22Zb3bQ4qDXh1CqEXh1CqDWq6CqEWq6CZb4Xh2CWf5Wq6CqDXh3CqEXh3CqDWq7CqEWq7CXh4X",
  "h2DZb5Zb6CWf5Wq7CqDXh5CqEXh5CqDWq8CqEWq8CWq9Xh6CWf5Wq8CqDXh7CqEXh7CqDWqACqEWqACWqBXh6bQ2Wf5WqA",
  "CqDXh8CqEXh8CqDWqCCqEWqC2Zb7CZb8WqC2Zb92ZbAbQ2WqBXh9bG3ZbBCXh4WqDCWq9WqDCWqBWqD2ZbCCWq9Xh92ZbD",
  "bP45ZbEc45XE5WqEDWqFXhADzSXhADWqFXhBDzSXhBDWqFXhCbR2zSXhCbH2XhD3WqGDzSWqGDZbFZbGNWqGrLWqEFzSWq",
  "E5WqH3WqHc47ZbHXKY93F3E3N3T3W23WB3WJ3WC3WOcE3XE5zSXhD4WqHBbMZbIcDDZbJk3fMz1CwTXhE3ZbK3ZbL3ZbM3",
  "ZbNCwUZbOCrPZbP3ZbQ3ZbRCfNfNCrPZbSCdJZbTChMZbUCOZc0Ck4zM3Zc13Zc2Cc4WqIChMZc3COZc4Ck4Zc53Zc63Xh",
  "FCc4dHCnRZc7CiNWf6Cp5Zc8CnSc2Cp5Zc9CnSXhGCp5ZcACgSX8CdJWqJCf1ZcB2gTChNXhH2g3Cg4ZcCCfNZcD3ZcE3W",
  "qKCfBWZ4ChNZcFCDnTCfBZcG2ZcHCWqLCCmKZcICWqLYC3qB3K3YU3gD3ZcJ3B3ZC2ZcKc45WY7W1ZcLLk3WqLG3dG3DDZ",
  "0ZcM4ZcN2ZcO2ZcP2ZcQCmKzN3k43ZcR3ZcS2ZcT2ZcU2Zd02Zd1BXKY92F2E2N2T2W22WB2WJ2WC2WOBk3Zd22Zd3c3W7",
  "XhI1fMCwTzTbH2x0bQ2u0b42wU2nKCu0ZMCfNx0bQ2u0cT2rQCu0ZO3b13bT3b53c93bI2hM2OCk4zT3x0Cu0b82c42nR2",
  "iNCp5zTCnSx0Cp5x0CnSzTCu0bK2gS2dJChNXhHbH2XhJbG2g4CZd4ZB3c3CfNzTCfBzTCu0eN2DCfBx01u1LXE5CDmKzU",
  "3YC3qB3K3YU3Y73WqM3B3ZCL5u0c5W0XE5mKXhKLZd55hN3rQc43XE5G3rR3D3nU3Z0bP2fMX6c42YImKzN3k43iO3Zd6B",
  "Wf7L1Zd7bP3XKY92F2E2N2T2W22WB2WJ2WC2WObP3fBc42gSL1Zd8mL3rQc3W2WqNjCmIWKLWqOqFlRZd9CW4ZdAXhLXhM",
  "X8QWqOp6X8WBW3qFlRXhNX8WBWZ5qFlRXhOX8WLqGqFlRXhPk5X8WBqFlRp6k5X8CZdBk5MZdCqFlRW1XhQWqPqFlRCZdD",
  "p6MWf8p6ZdE2k5CWf9k5Cp6k5MWf9p6k5W1ZdFZdGZdHk5MXhRXhSk5WLqGXhTo0e5YPl1CWqOp6W0ZdI5ZdJo0DZdKo0W",
  "KXhU5ZdLZdMZdNo0DZdOWTDZdPZdQW05WfAWqQXi04Xi14WqRDWqSXi04Xi1NWqQWfAWqSBXKY92F2E2N2T2W22WB2WJ2W",
  "C2WOCWLF3E3N3T3W23WB3WJ3WC3WO3Y9LLZdRo0W1Xi2Xi3lSXi4WLqGXhTo0WqTXi5l1W1Xi2Xi3ZdSo0Cg1lRCe4ZdTM",
  "ZdUo0Xi64Xi7MnTZe0Xi64Xi7L5Xi8Xi9CXiAXi9B1WQ2ZS2Y02b42Z82ZI2ZM2ZGbG2ZO2b12bT2b52c92bI2XJ2a52XM",
  "2b82X72WT2aJ2YA2bK2X82e42l22mJ2WZ62ZH2gR2b62WV02X92X12X62ZB2c32XH2WN2C2WZ7CXiBX12WqU2hLc45XE5Y",
  "C3K3YU3B3ZCDaCW74cA4WE4d23G3bR3D3b7WA5Ze1hAZ8f1CXhLXhMW0XE5Z2K4YUWA5lSXi4zIXMCZe2Ze3BLWr02Ze4L",
  "5Ze5o0CnHo0MXiCe4l1CWfBl1MZe6l1XiDDZe7XiDMZPWfBl1WAWV15XiCe4l1DWfBl1NZPWfBl1C1WQ3ZS3Y03b43Z83Z",
  "I3ZM3ZGbH2ZO3b13bT3b53c93bI3XJ3a53XM3b83X73WT3aJ3YA3bK3X83e43l23mJ3WZ63ZH3gR3b63WV03X93X13X63Z",
  "B3c33XH3WN3C3WZ7DXiBZH4X94X1c42hOgTZSOWqTXi5l1W0Ze85W5XiEDXGXiEDZe9ZeADZeBZeCLW1ZeDi6CXiFXiGCZ",
  "eEZeFW1XiFXiGXhRXhSCXhPWTCp7i6EWf9Wr1EWqRWr1EWqTWr1cO25WfAWqSWfAWqQ4WqRWKLZeGWqPgUlRWr2WBZeHqF",
  "gUlRWr2CWf9p6X0W3XiHXiIqFlRXhNX8X0WZ5XiHXiIqFlRXhOX8KWe9WfC5KWeAWfC5W9We9WfC50X3W9WeAWfC50X3W9",
  "WqNLZeIXiJo0MZeJXiJo0c3W7WfD1WQ2ZS2Y02b42Z82ZI2ZM2ZG2cT2ZO2ZeK2b12bT2b52c92bI2XJ2a52XM2b82X72W",
  "T2aJ2YA2bK2X82X92X12X62ZH2XH2WN2eN2CCp4C2K2YU2B2ZC2GCx1G2D2Z9W0XE5WZ8YC3YC3K3YU3B3ZC3G3Z0Dx1YU",
  "4DDG9B5b2CMH2cS2c52ZeLW0gE5YBX94X14ZH4WNL1WV2XHBXKY92F2E2N2T2W22WB2WJ2WC2WOL5aEfS2fSBW1ZeM2ZeN",
  "2ZeO2ZePB1ZB2c3CaCW73cA3WE3d2W0XE5aCW74cA4WE4d2L1x1Z83cT3wN3WZ9WAgE5x1YBX75X85X6W01Wr3rSZBWAXE",
  "5Wr3rSrTWAYILWr3rSZeQFhBp5WA1WfEWV3rSa55WZAWKXE5WfEWV3rSrT6gDWA5WfEWV3rSWZB5qH5rU5x25qIWA1XiKW",
  "V3rSbI5Wr45ZeRWAXE5ZeSrSKDXiLc74B4bRL1p4WQ3ZS3Y03ZI3b63ZO3XM3X73aJ3c23YA3a53WNWAgE5p4YBZHW0XE5",
  "p4YC4G59EIY7L5p4qH3rU3qI3WfFDZeTqH4rUEZeUYIW01XiMWr5c2W05XiMWr5qILp4XKY93F3E3N3T3W23WB3WJ3WC3W",
  "OL5WV4WZB3rUW0XE5Wr6C4Z0LW1p4F3f5UWZC41dC3WfG3x33WfH3b33WfI3WYP3WfJ3aI3zU3WfK3hC3WZD3ZU3WfL3Wf",
  "M3WV53z63x43u23WfN3WfO3WfP3WZE3e13WfQ3l13WZF3WfR3WfS3WfT3WfU3Wg03c13WZG3fA3WV63Wg1bH2WV7bH6WV8",
  "bP31dC2WfG2x32WfH2b32WfI2WYP2WfJ2aI2zU2WfK2hC2WZD2ZU2WfL2WfM2WV52z62x42u22WfN2WfO2WfP2WZE2e12W",
  "fQ2l12WZF2WfR2WfS2WfT2WfU2Wg02c12WZG2fA2WV62Wg12p32WV72XiNCYMx32dBBWYMdPUe01WZCWZDKWZC1WV8Cq05",
  "CXiO5KqJXiPu32Wg22u42u52Wg32u62u72u82Wg42u92Wg52s02s12Wg62uA2uB2uC2uD2uE2XiQ2Wr72Wr82Zf02XiR2X",
  "iS2XiT2Wg72XiU2Wr92WrA2Xj02Zf12WrB2Wg82Xj12WrC2Zf22Zf32Zf42WrD2Xj22Xj32Xj42WrE2Xj52WrF2Xj62WrG",
  "2Xj72Xj82WrH2Zf52Zf62Zf72WrI2Xj92Zf82XjA2Zf92XjB2ZfA2ZfB2ZfC2ZfD2WrJ2XjC2ZfE2ZfF2ZfG2ZfH2ZfI2W",
  "rK2ZfJ2ZfK2ZfL2ZfM2WrL2ZfN2ZfO2ZfP2ZfQ2ZfR2ZfS2ZfT2ZfU2Zg02XjD2WrM2XjE2WrN2Zg12WrO2Wg92WgA2XjF",
  "2s2BXjGs22C2dG2X92WYC2WZH2G2WrP2k62D2ZH2WrQ2c72dJ2B2WrR2fA2h02cO2rT2eB2K2Zg22Zg32Zg42XjH2Zg52Z",
  "g62Zg72Zg82Zg92ZgA2ZgB2ZgC2ZgD2ZgE2XjI2XjJ2ZgF2ZgG2XjK2ZgH2ZgI2ZgJ2ZgK2ZgL2ZgM2ZgN2ZgO2XjL2XjM",
  "2ZgP2XjN2ZgQ2ZgR2ZgS2ZgT2ZgU2Zh02Zh12Zh22Zh32XjO2Zh42Zh52Zh62Zh72Zh82Zh92ZhA2ZhB2ZhCBWrSu32Wg2",
  "2WrT2u42Wg92WgA2u52u62WgB2WgC2WgD2WgE2WrU2Ws02Wg72u72u82Wg82u92Wg52s02s12uA2uB2uC2uD2uE2ZhD2Zh",
  "E2XiQ2Wr82WrO2XjP2ZhF2XiR2XjF2XjQ2XiS2Ws12ZhG2XiT2ZhH2ZhI2XjR2ZhJ2XjS2ZhK2XjT2XjU2Xk02Xk12ZhL2",
  "Wr92Ws22ZhM2Xk22ZhN2ZhO2WrA2ZhP2Xj42Xk32WrE2WrF2WrG2Xj72WrH2WrJ2XjC2ZhQ2WrK2ZhR2WrL2Xk42Xk52Xj",
  "D2WrM2ZhS2ZhT2ZhU2Zi02WrN2Zi12Zi22Zi32Zi42Zi52Wr7KWgFjCWN2lT2eO2rL2WgG2c12fB2Zi62X62g32iP2WZI2",
  "WgH2l32hN2Ws32s32Zi72Zi82XfO2Zi92ZiA2ZiB2Xk62X82cJ2eE2Ws42Ws52e52gS2WgI2ZiC2ZiD2ZiE2ZiF2ZiG2Zi",
  "H2ZiI2ZiJ2X12gT2jD2WYN2WZJ2iQ2f12Xk72XH2hA2gF2WgJ2x52h12fN2Ws62ZB2lU2WV92Xk82WgK2d62oU2Ws72hI2",
  "WZK2WZL2Ws82ZiK2WgL2WgM2ZiL2ZiMbG2Xk92ZiN2XkA2XkBbG3ZiO2ZiP2ZiQ2ZiR2ZiS2ZiT2ZiUbG2Zj0bG2Zj12Zj",
  "22Zj32Zj4bG3YA2i62l42WeQ2WVA2kN2nR2XkC2aL2x62s42XkD2uF2jP2q32Zj52XJ2fO2iO2x72WVB2cQ2O2Ws92ZI2W",
  "sA2WgN2WsB2XkE2s52nK2WsC2l52Zj62kM2Zj72Zj82WVC2XkF2Zj92ZjAbG2ZjB2ZjC2ZjD2ZjEbG3X72dH2dD2zI2WsD",
  "2e62c42WgO2ZO2WsE2lS2XkG2XkH2WsF2rQ2ZjFCeKC3B3K3YC3bR3G3D3ZH2WQ2hO2hD2WgP2WsG2hB2fM2ZjG2WsHbG2",
  "WgQ2WgR2XkI2WgSbG3WsI2ZjH2ZjI2ZjJ2ZjK2ZjL2ZjMbG2ZjNbG2ZjO2ZjP2ZjQ2ZjRbG3ZH2p82h02WZM2WgT2fA2g4",
  "2ZjSCXcRC3B3K3YC3bR3G3DbG2b62o12qK2XfQ2WZN2gP2nP2ZjT2gR2WsJ2WsK2ZjU2WgU2jQ2WsL2Zk02X92cO2eB2zH",
  "2WVD2k62dJ2Zk12XM2k72i72XkJ2WVE2gO2hM2Zk22b52XkK2XkL2XkM2Zk32XkN2WsM2Zk42ZG2x82uG2XkO2WVF2nI2p",
  "92XkP2Y02k82gU2WZO2WZP2qL2mL2Zk52XkQbG2XkR2Zk62XkS2XkTbG3zL2XkU2Xl02Zk72Zk82WsN2Xl12Zk92a52WsO",
  "2x92WYO2WZQ2cL2k42WsP2ZM2Wh02g02Xl22Wh12g12rP2ZkA2aJ2ZkB2fH2Xl32ZkC2WsQ2p52ZkD2e42Wh22xA2ZkE2X",
  "l42lM2Wh32ZkF2ZkG2ZkH2ZkI2ZkJ2ZkK2ZkL2ZkM2ZkN2c22s62p32Wh42xB2nO2nS2Xl52WT2mM2bQ2Wh52s72bA2iN2",
  "WZA2ZkO2WsR2ZkPd33cDWYR6XEl0LMXEl0LCWYRLBfSL1ZkQBaUZA1a41nC1dFBZkRdFBe8LBWYMdPBXKF2E2N2T2W22WB",
  "2WJ2WC2WOBZTYQ2c62h22iR2dE2jE2d72l62cM2WMCYQX5c44jCWh6WgI2Wh72Xl62WsSCWh6XkC2Xl72Xl82ZkSCWh6Xl",
  "52Xl92XlA2ZkTCWh6WZA2Wh82XlB2WsTLWsULZkU3Zl03XlCDb0XlC3Zl13Zl23Zl33Zl43Zl53Zl6c37XlD1C2G2K2D2B",
  "2XT2Y02WQ2qL2gU2mL2k82XlE2WN2c12eO2fB2lT2WdR2X62l32iP2hN2g32XlF2X82e52eE2gS2cJ2X72Wt02Wt12e62d",
  "D2c42dH2Wt22XlG2XlH2XlI2Wt32Wt42XlJ2XH2WA2h12gF2fN2hA2Wt52XM2XJ2gO2cQ2i72iO2hM2k72XlK2Wh92Wt62",
  "Wt72Wt82Wt92WtA2XlL2e42lM2xA2Wh32Wh22XlM2ZH2fA2h02g42p82XlN2X92k62eB2dJ2cO2XlO2WZRc4321k63eB3d",
  "J3cO3XlO3WZRc33WtBWtCnD2G2XlP2K2YU2D2b7Co2b7CpAbR3K2C2YC2fACYDfA2h0CYDh02XlQCYDXlQ2g4CYDg42WZS",
  "CYDWZSCqMWZS2ZHCYDZH2WZMCYDWZMCqMWZM2Z0Co2YSCeKZACIY33ZLNdIWLXLNbSWLXLN8WLXL3XLDJY3Ob0W8WtDDW6",
  "MNb0XFW03WHDWKd52b32aI2ZU2dC2bA2Zl72bQ2WZT2iN2WZUCo2WZUCpAWgG3eO2WT2Wh52WsTCYDWsT2Wh8CYDWh82Xl",
  "RCYDXlR2WV3CYDWV32XlSCYDXlS2WZACYDWZA2WtECYDWtECo2WtE2YHCYDYHCpAXU2cQ2Zl82iO2Zl92O2WVGCo2WVGCp",
  "AWVE3i72XJ2x72Wa0CYDWa02XlTCYDXlT2XlUCYDXlU2ECYDE2Xm0CYDXm02Ws9CYDWs92WtFCYDWtFCqMWtF2XS2Wa12X",
  "m12WtG2b12hB2ZlA2hD2ZlB2fM2Wa2Co2Wa22WQ2WgP2WgSCYDWgS2WgQCYDWgQ2Xm2CYDXm22Xm3CYDXm32Xm4CYDXm42",
  "WsHCYDWsH2WgRCYDWgRCqMWgR2XR2WtHCZlCWp23ZlD3ZlE3Xm52s52ZlF2WgN2ZlG2nK2WtICo2WtI2ZI2WsB2Xm6CYDX"]

/-- The names of characters below U+10000, part 2. -/
def basicB : List String := [
  "m62WtJCYDWtJ2Xm7CYDXm72Xm8CYDXm82Xm9CYDXm92WsCCYDWsC2WtKCYDWtKCqMWtK2YECs8uH2e52ZlH2eE2ZlI2gS2",
  "WtLCo2WtL2X82Ws42WsSCYDWsS2Wh7CYDWh72XmACYDXmA2XmBCYDXmB2XmCCYDXmC2WgICYDWgI2WtMCYDWtMCqMWtM2X",
  "BCYDXB2ZlJCXmDXBCs8XB2e62ZlK2dD2XmE2c42WtNCo2WtN2X72zI2XmFCYDXmF2WgOCYDWgO2WtOCYDWtOCqMWtO2X0C",
  "pAi32ZlL2l32ZlM2iP2ZlN2hN2WVHCo2WVH2X62WZI2XmGCYDXmG2XmHCYDXmH2XmICYDXmI2XmJCYDXmJ2XmKCYDXmK2W",
  "s3CYDWs32XmLCYDXmL2WECYDWECYBWE2h12ZlO2gF2Wa32fN2Wa4Co2Wa42XH2WgJ2XmMCYDXmM2XmNCYDXmN2XmOCYDXm",
  "O2XmPCYDXmP2XmQCYDXmQ2Ws6CYDWs62WtPCYDWtPCqMWtP2WACXmDWA2XmRCWtQWACZlPZlQCqMZlR3ZlS3ZlT3ZlU3Zm",
  "03Zm12d62WV92WhA2oU2WtR2ZB2Xk82WVICYDWVI2XmSCYDXmS2XmTCYDXmT2XmUCYDXmU2Xn0CYDXn02Ws7CYDWs72Xn1",
  "CYDXn12xC2k62Zm22eB2Zm32dJ2WhBCo2WhB2X92zH2Xn2CYDXn22Xn3CYDXn32Xn4CYDXn42Xn5CYDXn52Xn6CYDXn62W",
  "r4CYDWr42WtSCYDWtSCqMWtS2Y7CZm4Y7CYDY7Cs8eB2iQCXn7iQCYDl32Zm52jD2WhC2f12Xn8CYDhN2X12WYNCYDX62X",
  "n9CYDXn92W7CYDW7CYBW72nO2Zm62p32Zm72nS2WtT2c22Wh42XnACYDXnA2ZK2cLCWtUcL2x9CWtUx92Wu0CWtUWu02k4",
  "2Wu12a52WYO2Wu2CYDWu22uH2XnB2XnC2WhD2bT2Zm82Zm92ZmA2ZmB2ZmCCZmDc13eO3XnD3fB3Wa53WN3rL3XUCZmEXU",
  "2ZmF2ZmG2WZL2XnE2WgM2XnF2hI2Ws82a72XnG2XnH2XnI2Wu3CYDiQ3jD3f13X12ZmH2WhE2ZmI2wU2ZmJ2Z82WhF2i32",
  "ZmKCs8d63WV93oU3ZBCXnJcL3x93k43a53uH2XnK2ZmL2XnL2ZmM2tR2XnM2Wu4CZmNcL3x93Wu03k43Wu13a53WYO3uHC",
  "ZmOYRCWtQG3K3D3C3fA3h03g43ZH3e63dD3c43X73hB3hD3fM3WQCs8c13eO3fB3WNCpAZmP3XnN3iK3ZmQ3ZmR3b43gT3",
  "f13iQ3WZJ3jD3X13p83g43fA3WgT3h03ZH3ZmS3ZmT3Wu53ZmU3Zn03Zn13WsO3k43cL3WZQ3x93a53Zn23WtG3Wa13Zn3",
  "3Xm13b13mM3iN3bA3s73bQ3WT3YH3k83mL3qL3WZP3gU3Y03Zn43wT3Wu63Zn53WhG3ZS3Zn63Zn73Zn83Zn93ZnA3WqU3",
  "WhH3dH3c43e63WsD3dD3X73cJ3gS3e53Ws53eE3X83cO3dJ3k63WVD3eB3X93x8Cs8x8CpAp93nI3WVF3uGCs8uGCpAZG3",
  "XnO3XnP3ZnB3ZnC3XnQ3WYU3g33hN3l33WgH3iP3X63ZnD3ZnE3XnR3ZnF3ZnG3Wh93ZnH3XnL3ZnI3ZnJ3XnK3tR3ZnK3",
  "XnI3XnG3ZnL3XnH3Wu33WtA3Wt93Wt73ZnM3Wt83Wt63o13nP3gP3WZN3qK3b63YFDW3YF3XnS3XnT3tN3XnU3Xo03mJ3h",
  "A3fN3h13x53gF3XH3lU3oU3d63WgK3WV93ZB3xC3Wh23Wh33lM3Xl43xA3e43Wh03rP3g13Wh13g03ZM3ZnN3ZnO3ZnP3Z",
  "nQ3ZnR3ZnSCg05CaUZA2Xo12ZnT2ZnU2Zo02Zo12Zo22Zo32Zo4CXnJZo53Zo63Zo73Zo83Zo93WsP3Wu2DIuHCWtQYSKZ",
  "oAgJLB1ZoB2ZoC2ZoD2ZoE2ZoF2ZoG2ZoH2ZoI2ZoJ2ZoK2ZoL2ZoM2ZoN2ZoO2ZoP2ZoQ2Xo22xD2ZoR2ZoS2ZoT2YK2Z",
  "oU2Zp02Zp12Zp2BWhILLZ2WhILd24Zp31Zp4Zp5nOZK2XTMZp6xDB2XcH2Y72YSMZp7Zp8tD2tCCZp9CCXo3DCWhJC2Xo4",
  "CZpADCZpBD2D2c72ZUW1ZpCXo5ZpDW72ZpE2ZpFCZpGXR2XO2nFMZpHZpIXO2f2MZpJWdSYSCZpKXUCZpLXUCZpMXUCZpN",
  "XUW1ZpOZpPZpQX0CZpRX02ZpSW1ZpTWVJZpUK2GCZq0Z52Zq1CZq2dGCZq3CCZq4Zq5MZq6Zq7YHCZq8Zq9CZqAWAMZqBZ",
  "qCWACZqDWA2YE2YFW1ZqEWu7ZqFXSCZqGXS2Y6W1ZqHZqIZqJYRCZqKYR2ZqL2ZqMMZqNq2GMZqOhCXBCZqPXBCZqQXBW1",
  "ZqRZqSZqTWE2ZqU2Zr02Wu8MZr1Zr2Y6MZr3Zr4D2WVK2Zr52Zr62Zr72Zr82Zr92ZrA2ZrB2ZrC2a72YOBZDbMBmNbMBb",
  "DbMBZrDW1BZrEW1BZrFW1B1XR2xC2b7MZrGZrHXo34WVJ4q24WhJ4Xo4c38ZrI1C2K2B2WQ2Y02Z82XJ2XM2X72WT2YA2X",
  "82X92X12X62ZH2XH2WNLXE5K3BB5c52Xo6c4A1hSX1KZrJ1C2K2B2WQ2Y02Z82XJ2XM2X72WT2YA2X82X92X12X62ZH2XH",
  "2WNLXE5K3BB5Xo6KZrKZDbMBJbMc3AZrL1C2K2B2WQ2Y02Z82XJ2XM2X72WT2YA2X82X92X12X62ZH2XH2WNLXE5K3Bc3D",
  "ZrM1C2K2B2WQ2Y02Z82XJ2XM2X72WT2YA2X82X9bG2X62ZH2XHc42XE5K3Bc3DXo71WQ2ZS2fM2wT2wU2ZI2ZM2nK2rP2r",
  "Q2XM2bT2hM2WhD2ZrN2XJ2a52O2k42c42YA2aJ2iN2p52gS2dJ2f12hN2q32ZB2Wu92XH2WN2X62hILuIXEZrO3Ws83WZL",
  "3XnE3WZK3ZrP3Wt43ZrQ3Xo83ZrR3WuA3ZrS3WgL3Xo1NXnFWuBF5E3ZrTLXEZrUWYQ3YCC5YC3K3YU3Y73WqM3B3ZC3WV",
  "L3c73X93j93G3dG3Z03b73Z9B5Zs02Zs12Zs22Zs32Zs42Zs52Zs62Zs72Zs82Zs9CZsAZsB2ZsC2ZsD2ZsE2ZsF2ZsGMZ",
  "sHWZTZsICXo9WVG2ZsJCZsKXoA2ZsLLWY7W1ZsMB5ZsN2ZsObP3XKY92F2E2N2T2W22WB2WJ2WC2WOcE7W1Xo9ZsPZsQ4W",
  "uC4WZT4WuD4WuE4WuF4WuG4WuH4WuI4WuJbO7XoBqN1u11a4BaUZA1dFBTX3LWuKlHnDW0XoCjCZsRtSBWa6a4CaUZA1Zs",
  "SW0WuLWa7WuMF4E4NBXEdPW0WuLWa7WuMTBXKY92F2E2N2T2W22WB2WJ2WC2WObP71C2G2K2D2B2c72gD2bR2X72nT2YA2",
  "WT2hI2Y02X82X62XH2ZB2XJ2XM2ZM2ZG2X92X12ZH2c22WQ2ZS2e42b62rL2ZsT2tR2WsK2g0W1WuKYPXE53G3K3D3B3c7",
  "3gD3nT3YA3WT3hI3Y03X83XJ3XM3ZM3ZG3e43X93ZH3WQ3WZO3rL3ZsU3Zt03mJCXoCG3K3WpM3gD3B3nT3WQ3Y03WN3WT",
  "3ZB3XJ3XM3ZG3c23WZO3rL3e43b63WYN3ZM3gRCWa6K3WQ3X13c23gRW1ZM0EX3cF8xExFb2FEcSF4Zt14XoDEZPXoD4Xo",
  "EENXoE4C4K4WQ4Z84ZI4b14bT4b54bI4XJ4XM4WT4aJ4c34gR4b64nQW1WuKxExFXJ5gRW1Wa6xExFb45Z85ZI5cT5b15c",
  "95XJ5b85c35XoF5gR5b6W1xExFWLB5X9W1Wa6xExFbKMxExFZt2W1Wa6xExFtRc36WtBWtCWuN2nU2XoG2Wa82Zt32Zt42",
  "Zt52Zt62WuO2Zt72XoH2Zt82Zt92ZtA2ZtB2XoI2XoJ2ZtC2ZtD2ZtE2XoK2XeH2XoLCWa9XoL2XoMCWa9XoM2XoNCWa9X",
  "oN2XoOCWa9XoO2ZtF2ZtG2ZtH2ZtI2ZtJ2Xk7CWa9YH3XS3XR3YE3XB3X03WA3xCCXiKYSCWfEYSMI2XLDf7MCXn7ZtKCY",
  "DWVH3WZI2ZtL2WsP2ZtM2ZtN2WuP2ZtO2ZtPCs8WVI3WtR3Wa5CpAZtQDXoPWZP3WZO3XkQCs8ZtRCpAXkPMXoQXoPWE4W",
  "7MpAWoBWAc3BZtSZtT1B1WQ2ZS2Y02b42Z82ZI2ZM2ZG2cT2XoR2XJ2a52XM2b82X72WT2aJ2YA2bK2X82X92X12X62ZH2",
  "ZB2c32XH2WN2ZtU2WuQc42XE5C3K3B3bR3Z03b73Z93G3DLWV11X93X13ZHc4521WQ3Z83b23XJ3X73WT3X83X13X6B5Zu",
  "02Zu12Zu2bG5WVHbP4f5LBe8LBXKY92F2E2N2T2W22WB2WJ2WC2WOUs9l31WQ3l53Z83e43XH3X93XJ3a53X63WT3aJ3X8",
  "3c23aL3WN3hI3ZS3l23X73C3K3bR3q23B3b73D3gD3G3XoS3Z0bH3qH3rU3x23qI3WfFd2CWVMs9XoT1Z3hIEY1hIEZ3WQ",
  "5l55Z8EY1WQ5l55Z8EZ3e45XH5X9EY1e45XH5X9EZ3XJ5a55X7EY1XJ5a55X7EZ3WT5aJ5X8EY1WT5aJ5X8EZ3c25aL5X6",
  "EY1c25aL5X6EZ3WN5XM5YAEY1WN5XM5YAEZ3XoU5Xp0EY1XoU5Xp0EZ3WqKEY1WqKcG5XE5XEZu35YC5YU5B5ZC5G5dG5D",
  "5WaA5gD5nU5XoG5Xp15WuN5Xp25Zu45WpMN1IXT5i35X05XB5XR5Y65YRDYIWaB4WaCbR7XKY94F4E4N4T4W24WB4WJ4WC",
  "4WONWhKXKFbR45Xp34Zu5KXo7W1Zu6CWuCl7CWZTl7CWuDl7CWuEl7CWuFl7CWuGl7CWuHl7CWuIl7CWuJl7CWuRl7CXp4",
  "l7CXp5l7CXp6l7CXp7l7CXp8l72Zu7CWuCl8CWZTl8CWuDl8CWuEl8CWuFl8CWuGl8CWuHl8CWuIl8CWuJl8CWuRl8CXp4",
  "l8CXp5l8CXp6l8CXp7l8CXp8l8KZu81WQ2Y02Z82Xp92WT2YA2X82XpA2XJ2XM2X72WuS2ZI2ZG2ZO2Zu92X92X12X62aL",
  "2XH2C2WNLXE5K3B3G3D3dGbF3ZuALcNRfSW9s9WhK1Z3WQ4ZS4WsIDY1WQ4WsI4ZS3Z8DZ3ZI4ZMDY1ZI4XH4ZM3ZO3ZuB",
  "DZ3WuT3XMDY1WuT3XpBDZ3XJ4a5DY1XJ4a53X73YADZ3WT4aJ4c2DY1WT4c24aJ3X8DY1X9DZ3X93X13ZuC3X63XoT3ZHD",
  "Z3ZB4c34XH4WN3eN3CDY1WN3K3YU3B3ZC3bR3b73Xp3DWV2XHW1gE5YBX15X6OX6ZuDWhLW15mKWhMWhLW1gE5IZ8EY1WT",
  "WDZ3WuTYKY1WT4X84YA4XHbQ25ZuEMXE5CEmKWuU4YCEWZ8YC4K4YU4gD4WpT4B4ZC4DEWaAH4WuN4G4dG4b74Z0EWhKZ0",
  "EWaA9M5mKWhM3WZB3qHDZuFrU4x24qIDX1ZuGDmKWv0DZuHZuIc53cDsAMMZuJXKY94F4E4N4T4W24WB4WJ4WC4WOc57Wh",
  "KXKY94F4E4N4T4W24WB4WJ4WC4WObQ75ZuK3ZuL3ZuM3ZuN3ZuO3ZuPNZ2a0XpBDmKZuQ3ZuR3ZuS3ZuT3ZuU3Zv03Zv1c",
  "D3cDWf0YTcC1Zv21WVNBXN7BbEMBZv3HLWVOZ7HLYJLHW0JYJLHW0XGWhNW0HW0XpCWhNW0HBWv19LJWv19BWv1H2g9WAa",
  "P21YSHOYMYSHW0AbO9AW08bO98W0AbOHAW08bOH8LWRZv49LZT59W0ZPJXd39LWH59W0JWH594HLbEY3cCWAaP21iSXO5W",
  "75XScDWJZv55XpDZv63kU2Zv72XpE2Zv8B1Zv93o32ZvA3o32ZvB3o3CX1WhO4o3CX6XpF4o32ZvC2ZvD2ZvE3o32WQ3uJ",
  "2Y03ZvF2Z82ZI3ZvG2ZG3ZvH2ZOCXJZvIDpBuJMXMpBZvJ4uJCX7ZvK2XJ3ZvL2XM3ZvM2X72WT3ZvN2YA3ZvO2X82X92X",
  "12X62ZHCXHZvP3ZvQ2XH2WNB5ZvRLXE5o33XpD4XpG3XpH4ZvSDX1WhO5o3DX6XpF5o33XpI4WhO4o3EWhOo33XpJ4o3BW",
  "hPWhPL1e2uKCZvTuKCZvUuKCpUuKCjPuKCWhQuKCZw0uKChSXpKbP4XKY92F2E2N2T2W22WB2WJ2WC2WO1XpL1XpM1XpNB",
  "Zw1Zw22Zw32Zw41Zw5LmOW1XpO3Zw63XpP3Wv24XpE3Zw73Zw83Zw93ZwADWv2ZwBDcDZwC4ZwD4XpQ4XpR4Wv3OXpQ0Wv",
  "3OXpR0Wv34ZwE4ZwFNZwGYJWVP5WhREd0XpS5ZwHNZwIYJZwJ5ZwKEd0ZwL5ZwMEYJWv4BXpLXpTBXpMXpTc32XpU5ZwN2",
  "ZwO2ZwPB1C2K2B2dG2D2G2rT2WQ2hI2Y02Z82ZI2ZG2b62ZO2XJ2XM2X72WT2c22aL2YA2X82X92X12X62ZH2XH2l52WNL",
  "gE5ZwQ3ZwR3ZwSLXE5ZwT3ZwU3Zx03Zx13Zx23Zx3B5Zx42c5W0gE5Zx5X84ZHB1ZS2Zx6BXKY92F2E2N2T2W22WB2WJ2W",
  "C2WO1k2B1Zx72Xq02bKCIXR3XBKZx81CCpCC2WNCpCWNCWv5WN2YACWv6YA2WTCpCWT2X7CWv5X72ZHCpCZHCXq1ZH2Y0C",
  "pCY02ZG2XM2X1CpCX12X8CpCX8CXq2XJCXq3XJ2XHCpCXHCWv5XH2X9CpCX92Z82X6CpCX62ZO2ZI2WVQ2WaD2K2BB5Zx9",
  "LXE5GDXq1G3bR3KDWv6K3DDWv6D3BOcEpCXHLgE5i33XU1Xq41ZxAcE9W1Wv7X7ZxB3ZxC3ZxD3Xq4KZxE1WQ2ZxF2ZS2Y",
  "02ZxG2Z82ZI2ZM2ZG2ZO2XJ2a52XM2X72WT2Wf62aJ2c22ZxH2YA2ZxI2X82Xq52e42l22mJ2X92X12X62WN2Xq62aL2XH",
  "2ZB2ZH2CLWV11X93X1LXE5YC3K3D3b73B3ZC3GLgE5XR3XB3WE3X03YH3W73XS3ZxJ3WhMB5ZxK2fLbP4bMXq7MWv8ZxLX",
  "q72Xq8CXq9Xq82Xq9BXKY92F2E2N2T2W22WB2WJ2WC2WObP41b12bT2b5UXqAZxMXKY93F3E3N3T3W23WB3WJ3WC3WOC1X",
  "63fR3WeS3nT3rN3WZI3ZxN3ZxO3ZxP3ZxQ3iP3WVJ3Wv93ZxR3WhS3g33WhT3i83XqB3Xp13l33WhU3ZxS3b33Wi03hN3Z",
  "xT3ZxU3XqC3WYFCcJZy0CZy1XqDCZy2XqD2Zy32Zy42Zy5CbMXqEDJXqEW9lL21q9jPDZy6gODWVRDDWaEp0DWZ8cQDZy7",
  "cQNWZ8q054rHDZy8z8cN8WZCZy941dC4WfG4x34WfH4b34WfI4WYP4WfJ4aI4zU4WfK4hC4WZD4ZU4WfL4WfM4WV54z64x",
  "44u24WfN4WfO4WfP4WZE4e14WfQ4l14WZF4WfR4WfS4WfT4WfU4Wg04c14WZG4fA4WV64Wg14p34WV74XiNEYMx34dBbI3",
  "WV8Eq05EXiO5UXpUbMWv7ZyA3ZyB3ZyC3XqFDXq0Wi1DWQWi1DXMWi1DYAWi1c39WZ0YIZyD2ZyE2ZyFB5ZyGMWvAXqGqO",
  "WAYIWvAZyHuIqODuIqONWvBuIqOCkUHWBWvAWvBuIqOZyICJqOCbEqOCWvBWYTCMHMEX3HMNX3HW1ZyJXeMuIqOMZyKuIq",
  "OL5cSqO3Wf1MZ2cSWf1CcSWYTMZ2cSWYTW1cSWf10aHNWYT0aHCb2XqH3ZyL3ZyME0aH2ZyNMZyOYPb2CYPb2MZyPYPb2M",
  "b2ZyQZyR2XqICa0XqILYIkU9B5zQ2zR2ZySLYIXL9MJXL9W05Jb2XqHcN6aP124C4dGW021YMdGWA124pQYR4YE4Y64tC4",
  "GWA21YMYJG4KW0124Z54XROWE0W04XBEZ2X04DEYJDW021rODEYJDOD0W0DYMc7W0124tGWA21bSWLDNdIWLDW0124YHEZ",
  "2W7EYMW74XS4BW021rOBEZyTBEYMXBW0124XT4YS4YF4rEMpRZyUZz02dBW9fI124gL4lK4bQ4eT4j8W9lL124gQUe014C",
  "3dG3YRDpQYR3Y63GDZ2G3XO3XU3K3Z53XR3WE3XB3X0DZ2X03D3tG3YH3W73XS3B3YSC2CDYMC3dADYMdG3YR3Y63G3pPD",
  "YJGNYMYJG3XODYMK3XR3XB3nF3DDYJDNbSWLDNdIWLD3YH3XS3BDrOBDYMXB3XT3dB3hTDfIgL3hHDfIfH3g0W9aPwH21K",
  "4W74B4XTW9fIwH21hT4gL4eT4fH4g0UaP21gDW2YR0W6XIW2Y60W6XIW2ZK0W6XIW2XB0W6XIW2X00W6XIW2YH0W6XIW2W",
  "70W6XIW4w76W6XIW2WA0W6XIW2XS0W6XIW2YF0W6XIDYMXOUe01lLb3W9aP21iSXONuH0Zz1WB41K0W0W11dM0W0NYH0W0",
  "WB41B0W0W11eJ0W0W2YR0eAUW2Y60eAUW2ZK0eAUW2XO0eAUW2XR0eAUW2WE0eAUW2XB0eAUW2X00eAUW2YH0eAUW2W70e",
  "AUW2WA0eAUW2iE0eAUW2XT0eAUW2YO0eAUW2YF0eAUW2C0bPUW2dA0bPUWCY60U6aHW2G0bPUWCYJG0bPUWMZ2YJG0bPUW",
  "2pP0bPUW2K0bPUWCYJD0bPUW2iE0bPUW2B0bPUW2rE0bPUW9e012YMdA3YEE0gM3tCNZ2YJG3ZKW2lIZ50W0DfUXODYMXU",
  "NK0W03dMD4KF0W0NZ50rFW2WE0bPUFeAUD4WENXB0UWCYMXB0YPj7W2X00AUFbPUD4X0DpQD3fHNWA0U3iEW2XS0eAUDBW",
  "G3eJD4BNXT0UDYMXT3YFO0bPU5gM3rE3fJUcDcIZLcCCY3cCBWi2HBWvCL1Zz21Zz31Zz41Zz51Zz61Zz7WAaP21W7H1Zz",
  "81Zz9LJYT9BkL9BtKHBWVJHBxD9BWVS9WUaP21Wi3YJC94dG4Wi44WVTEYEe9EiSY64tC4XOW1124XOM21XR4WEW1124WE",
  "5XBM21X0W1124X05W7W121W7WaF4WAEYPWA4YF4dA4YR4hT4pP4ZKWDWE0JW6XIWDD0XGWhNW04YH4iEWDB0XGWhNW04YS",
  "OC0Z6OD0Z6OB0Z6LW9d59LWVU983ALM9AW0WaEZPyTHLMHABZzALW0JZPaDHW0jOXDOHLAZF9WK8ZF6WKZFHWTaP41C0XL",
  "HWK21C0XLHWK41YR0M9WK21YR0M9WK41YR0MHWK21YR0MHWK41YR0Z7HWK21YR0Z7HWU41YE0e96Y3WU21YE0e96Y3WK41",
  "Y60M9WK21Y60M9WK41Y60MHWK21Y60MHWK41Y60Z7HWK21Y60Z7HWA41Y60e9WA21Y60e9WK41Y60YTHWK21Y60YTHWU41",
  "G0ZQ6ZLWU21G0ZQ6ZLWU41G0ZQ6Y3WU21G0ZQ6Y3WK41G0YTHWK21G0YTHWK41G0XIHWK21G0XIHWU41G0e96aDWU21G0e",
  "96aDWK41ZK0M9WK21ZK0M9WA41XO0ZQWA21XO0ZQWK41XU0M9WK21XU0M9WK41XU0MHWK21XU0MHWA41XU0Z6WA21XU0Z6",
  "WA41XU0e9WA21XU0e9WK41XU0aDHWK21XU0aDHWK41K0XIHWK21K0XIHWU41K0Z66Y3WU21K0Z66Y3WA41XR0Y3WA21XR0",
  "Y3WK41XR0MHWK21XR0MHWK41XR0Z7HWK21XR0Z7HWK41WE0MHWK21WE0MHX941WE0MH6ZQX921WE0MH6ZQWK41WE0Z7HWK",
  "21WE0Z7HWK41WE0YTHWK21WE0YTHWA41XB0Y3WA21XB0Y3WK41XB0M9WK21XB0M9WK41XB0MHWK21XB0MHWK41X00M9WK2",
  "1X00M9WK41X00MHWK21X00MHWK41X00Z7HWK21X00Z7HWK41X00YTHWK21X00YTHWU41D0XI6Y3WU21D0XI6Y3WU41D0XI",
  "6Z6WU21D0XI6Z6WU41D0ZQ6ZLWU21D0ZQ6ZLWU41D0ZQ6Y3WU21D0ZQ6Y3WA41YH0Y3WA21YH0Y3WK41YH0M9WK21YH0M9",
  "WK41W70M9WK21W70M9WK41W70MHWK21W70MHX941W70MH6ZQX921W70MH6ZQWK41W70Z7HWK21W70Z7HWK41WA0M9WK21W",
  "A0M9WK41WA0MHWK21WA0MHX941WA0Y36M9X921WA0Y36M9X941WA0bF6M9X921WA0bF6M9XJ41WA0MH6M9XJ21WA0MH6M9",
  "WK41XS0M9WK21XS0M9WK41XS0MHWK21XS0MHWK41XS0Z7HWK21XS0Z7HWK41XS0YTHWK21XS0YTHWK41B0Z6HWK21B0Z6H",
  "WK41B0XIHWK21B0XIHWK41B0YTHWK21B0YTHWU41B0XI6Y3WU21B0XI6Y3WU41B0ZQ6Z6WU21B0ZQ6Z6WA41XT0XIWA21X",
  "T0XIWK41XT0MHWK21XT0MHWA41YS0ZLWA21YS0ZLWA41YS0Y3WA21YS0Y3WA41YS0Z6WA21YS0Z6WK41YS0M9WK21YS0M9",
  "WK41YS0MHWK21YS0MHWK41YO0M9WK21YO0M9WA41YO0Z6WA21YO0Z6WK41Y70M9WK21Y70M9WA41YF0YTWA21YF0YTWK41",
  "YF0MHWK21YF0MHWK41YF0Z7HWK21YF0Z7HW2XU0Z7HNXS0Z6W2YS0XL9W2Y70XL9WCC08WLXLWCYPWA0M9GbGW0GZ3W0W0",
  "41yRWAL21hHWK41C0MHWK21C0MHWK41C0U9WK21C0U9WU41C0YT6Y3WU21C0YT6Y3WU41C0YT6ZLWU21C0YT6ZLX941C0Y",
  "T6U9X921C0YT6U9WU41C0YT6XIWU21C0YT6XIX941C0YT6MHX921C0YT6MHWU41C0aD6Y3WU21C0aD6Y3WU41C0aD6ZLWU",
  "21C0aD6ZLX941C0aD6U9X921C0aD6U9WU41C0aD6XIWU21C0aD6XIX941C0aD6MHX921C0aD6MHWK41G0MHWK21G0MHWK4",
  "1G0U9WK21G0U9WA41G0XIWA21G0XIWU41G0YT6Y3WU21G0YT6Y3WU41G0YT6ZLWU21G0YT6ZLX941G0YT6U9X921G0YT6U",
  "9WU41G0YT6XIWU21G0YT6XIX941G0YT6MHX921G0YT6MHWK41K0U9WK21K0U9WK41K0MHWK21K0MHWK41D0MHWK21D0MHW",
  "K41D0U9WK21D0U9WU41D0YT6Y3WU21D0YT6Y3WU41D0YT6ZLWU21D0YT6ZLX941D0YT6U9X921D0YT6U9WU41D0YT6XIWU",
  "21D0YT6XIX941D0YT6MHX921D0YT6MHWU41D0d46Y3WU21D0d46Y3WU41D0d46ZLWU21D0d46ZLX941D0d46U9X921D0d4",
  "6U9WU41D0d46XIWU21D0d46XIX941D0d46MHX921D0d46MHWK41B0MHWK21B0MHWK41B0U9WK21B0U9WU41B0d46Y3WU21",
  "B0d46Y3WU41B0d46ZLWU21B0d46ZLX941B0d46U9X921B0d46U9WU41B0d46XIWU21B0d46XIX941B0d46MHX921B0d46M",
  "HWA41Y70ZLWA21Y70ZLWK41Y70MHWK21Y70MHWK41Y70U9WK21Y70U9WA41Y70XIWA21Y70XIW041Wi5d2W021Wi5d2W04",
  "1Wi5XTW021Wi5XTWA41Y70iFWA21Y70iFWJfI21dA0Z45Z1PZ46a2PZ16a2PZ46a3PZ16a3PZ46bJPZ16bJWA41dA0Z45Z",
  "1PZ46a2PZ16a2PZ46a3PZ16a3PZ46bJPZ16bJWA21f90Z45Z1PZ46a2PZ16a2PZ46a3PZ16a3cO341f90Z45Z1PZ46a2PZ",
  "16a2PZ46a3PZ16a3cO321h90Z45Z1PZ46a2PZ16a2PZ46a3PZ16a3PZ46bJPZ16bJWA41h90Z45Z1PZ46a2PZ16a2PZ46a",
  "3PZ16a3PZ46bJPZ16bJWA21dM0Z45Z1PZ46a2PZ16a2PZ46a3PZ16a3PZ46bJPZ16bJWA41dM0Z45Z1PZ46a2PZ16a2PZ4",
  "6a3PZ16a3PZ46bJPZ16bJWA21iH0Z45Z1PZ46a2PZ16a2PZ46a3PZ16a3cO341iH0Z45Z1PZ46a2PZ16a2PZ46a3PZ16a3",
  "cO321eJ0Z45Z1PZ46a2PZ16a2PZ46a3PZ16a3PZ46bJPZ16bJcO241eJ0Z1bU26a2bL2a3bL2bJWA21cG0Z45Z1PZ46a2P",
  "Z16a2PZ46a3PZ16a3PZ46bJPZ16bJWA41cG0Z45Z1PZ46a2PZ16a2PZ46a3PZ16a3PZ46bJPZ16bJWA21dA0a25a3Nf90a",
  "25a3Nh90a25a3NdM0a25a3NiH0a25a3NeJ0a25a3NcG0a25a3cQ3dA0Z46cHPZ16cHWEZ46a26cHWEZ16a26cHWEZ46a36",
  "cHWEZ16a36cHWEZ46bJ6cHWEZ16bJ6cHWU41dA0Z46ePPZ16ePWEZ46a26ePWEZ16a26ePWEZ46a36ePWEZ16a36ePWEZ4",
  "6bJ6ePWEZ16bJ6ePWU21h90Z46cHPZ16cHWEZ46a26cHWEZ16a26cHWEZ46a36cHWEZ16a36cHWEZ46bJ6cHWEZ16bJ6cH",
  "WU41h90Z46ePPZ16ePWEZ46a26ePWEZ16a26ePWEZ46a36ePWEZ16a36ePWEZ46bJ6ePWEZ16bJ6ePWU21cG0Z46cHPZ16",
  "cHWEZ46a26cHWEZ16a26cHWEZ46a36cHWEZ16a36cHWEZ46bJ6cHWEZ16bJ6cHWU41cG0Z46ePPZ16ePWEZ46a26ePWEZ1",
  "6a26ePWEZ46a36ePWEZ16a36ePWEZ46bJ6ePWEZ16bJ6ePWA21dA0WW05ZQPa26cH5cHPa36cHbJ2bJG6cHWA41dA0WW05",
  "ZQ5a25a35eP1WoI1eP1Z41bJLlJ6bJWU21h90a26cH5cHPa36cHbJ2bJG6cHWA41f90a25a3Nh90a25a35ePLZ46a23a33",
  "bJWA21dM0WW05ZQPlJ6a27a3bJ3bJPlJ6bJWA41dM0WW05ZQ5a25a3c42Z16a23a33bJWA21eJ0WW05ZQPlJ6a27a3NeT0",
  "Z45Z1NeJ0bJPlJ6bJWA41eJ0WW05ZQ5a25a3NeT0Z1LlJ6a23a31a2dD321cG0a26cH5cHPa36cHbJ2bJG6cHWA41iH0a2",
  "5a3NcG0a25a35eP1a31Z1bO2b3m0AiLm0Ab3gJAiLgJAZzBgJAZzCgJAZzDgJAWi6gJAbMgJAWeUgJAxGgJKY9WaGgJ2Zz",
  "E2w9AWaHLAWi7L0nDAZzFnDAWi6bUAb3bUAiLbUAXFWGKJW8Z7BY1Z7UAZDdULU8ZDdULUZDXqJdULLXqKdULUAJdULU8J",
  "dULUJXqJdULLXqKdUL0WW1AJWW10m1AgNm1KFMWvDKEMWvDAXFu1AXqLmEAZ7dPAWYMdPAWaHXqMAWi7XqMKWvEXqNZzGA",
  "WaHXqOAWi7XqOKWVRWo8gJKWpAXeI5LYQX550nGAJnGAbEnGAZ2nGBJnGBbEnG0qGW9ZDhGaQdULW0fTaQdULAZzHLKJf5",
  "L0WaI0tJ0XqPAk3WW2KqGWvFmE0ZzIAnDm1AhQk9W9AWRWP0Wi8W98WRWP0Wi8KJe8LKe8f5LKf5e8LKXqQ5mDKZ2XcF5K",
  "PWIm1BW4m1AY1bCAZ2nCAWvGW9UEZzJZzKwKKWY6iG5AZzLbUAZPXqPKWaJbMLKNMbMApDnGKTMbMKW2MbMKEMbMKTMLAc",
  "IbD0XqRKW8TX3KY5WW3gJAkTw9AWvHXqSAZzMWD1dP1WHbO2WaHWi9AWi7Wi9KsBXpCWi9KWvEXqNWi9KXqTXqUXr0KXr1",
  "XqUXr0UXqTi03Xr2UXr1i03Xr2KXr3XKXr4KZzNXKXr4AmBY9W0aP21KbF3T1W21WB1WJ1WC1WOBWH51iGBcU5BAbOB8bO",
  "W0aP21X0AwHY91F1E1N1T1W21WB1WJ1WC1WOBWH51iGBcU5BAbOB8bOcN2aPwH21C4G4D4YO4pP4XU4XR4WE4XB4X04YH4",
  "WA4XSbO4ZzO5AdF5AZzP5KXr5ZzQ5AXr65AZzR5AZzS5AZzT5AwO5AWvI5KWVMZzU5AXpO5AXr75AXr85AaV05AWvJ5KaV",
  "1aV25AXr95AaV35AaV45AaV55AaV65KaV7aV85AaV95AaVA5KaVBwO5KaVCXr65KaVDL5AaVE5AaVF5AaVG5AaVH5AXrA5",
  "cDGcDAaG9L8aG9W0YPW8Z7g9W0b0W8Z7g9LiT79LmP79LA79L879BXLg9LmPXLg9LiTXLg9LNX39LTX39BXrBWU2WR2cBC",
  "WUxHW0A879BXrBWaK2XrCMXrDZRXQLgKfQg9W0JW8W0g9BaVIW1BbEaVJLWaEyT9LWI7g9W0YPJfQg9WAW4aG0Y2XNWAWI",
  "aG0Y2XNLA7HL87HBbC9bOGXrERUaVKOcLaVLKpE4YEAWdPaVMKaFZ7W1AaVNRAaVOaVPAaVQXrF0aVRAWdPaVSKfU2XOB4",
  "XUKWaL4XUKpE4XUAaVTXrFMX4EbQKfU4KKWaL4KKfU4WEB2WEUWEYRWGW1KpE4X0AaVU5KjFaW0XcCKfU4YHKpE4YH2a7K",
  "fU4W7KWaL4W7KpE4W7AaW1aW20XrGAaW3LAo45KaW4L50aW5KpE4YFAXrH5AWiA5KZPWiA5KWaL4YFW9YMfI21dMAaW65A",
  "aW75KfU4YRKWaL4YEAaW8W1KfU2GB4G2ZKKYM4ZKKfU4XBB2DAXAW1AzCW1AjTW1AWeFW1AWW4WvKKa04a7AaW95KpE2bQ",
  "2gLB4gL2bQBWW5WiBUYMgG4XO3WEUZ2gG4WEUYMgG4Y7UpEpF4Y6C2Y63G3K3Z5AaWAZ7AYMtAAWpA50aWBKYM2ZKUW1cE",
  "XfSWvKUWo9hQFaWC3aWD3Wq43mQCEsCCFWq5CEWvLCNWvLCTWvLCFWvMCW2XrICFf0CNl9CW2l9CWJl9KhQXgEFKWaMpSF",
  "2E2N2T2W22WB2WJ2WC2WO2YQ2o52m22dECFWMCW2WMCFX5U2WaMpSF3E3N3T3W23WB3WJ3WC3WO3YQ3o53m23dEDFWMDW2",
  "WMDFX5WJWaMpSFX5YEY6CW2X5CYQX5MZ2FWMW9aP21Z2YEW9WaMpSWBaWE3MdEaWF33X5MFWMX5UWo9hQY9sCKYMXKE2Nb",
  "O5WI7AY47AW47AXN7KA87KW9WK7Kb9aM7Ba17KbNa17BaM7UWI70W0UW470W0KWIh37KW4h37UWIEWiC7UY4EWiC7UW4EW",
  "iC7UXNEWiC7UWI70aHUW470aHUWI7dQWGUY47dQWGUW47dQWGUXN7dQWGW9W9WK70WiDUWI70UUW470UUWI70iFUW470iF",
  "UA8h37M70W0KXNtK7W9Y470m3WI4W4W9XN70m3WI4W4W9W470dKXNW9XN70dKWIUiTbSWaN7UmPbSWaN7WJb9aM7OYPWGX",
  "IWI7OWGX4W47OWGUiTYJWU7UmPYJWU7W9WIaG0Y2Y44XNW9Y4aG0Y2W44WIW9W4aG0Y2Y44XNW9XNaG0Y2W44WIW9W47X4",
  "WI7WJY47WIRXN7W9WI7X4W47BuLkAKY4uLkAKW4uLkAKXNuLkAW9WIaGX4W4aGW9W4aGX4WIaGW9WIJ70W0WJA8J70W0W9",
  "W4J70W0KWIJ7KY4J7KW4J7KXNJ7UA8J7UW9WKJ7Ub9aMJ7La1J7UbNa1J7LaMJ7KWIbE7KW4bE7KWIWiE7KW4WiE7W9Y47",
  "0JW0W9XN70JW0KWImR7KY4mR7KW4mR7KXNmR7UWI7OWGUW47OWGKWIS7KY4S7KW4S7KXNS7W9Y4S7dQWGDZUXrJP0XFWGG",
  "W8WGCJ7EZUXrJW9W4S7dQpGW9b9aM7OdKW9bNa17OdKUW9WKS7W98702WUWJXN7WIRY47KNW4kAW9WI70W8W0W9W470W8W",
  "0WJA870W8W0WJWI70JW8W0WJW470JW8W0WTA870JW8W0KWIWvN7KW4WvN7UA8WvN7AcEWaO0aWGAuMWW6AaWHaWILqPa8a",
  "WJAwJpH0aWK0WW7AqQRUa8dCqQRK2qQRKuNlQWiFW9qPa8WvOlQWiFU2uNlQWiFKcNRaWLAWW5mS1XrK1WiBAiG5AaWM5A",
  "MWHAtEk9ApHiGAbCbLAXLbLAm1bLAWRWYGAWp9WYGAWeHWYGAaWNO0WVNA8aQ0aQAWaPaQAXrLaQ0aWOKqPa8WvPAuOOKa",
  "8uOOAmT61YK0jG0jH0i9AJi9AbEi9AWvQi9AXrMi9AaWPi9AmPi9BWvQi9KiTWvQi90aWQ0aWR0aWS0XrNAMiG0aWTAaWU",
  "XrN0Xd4AXIbLAZ2XIKZPWvRWAAaX0h3AaX1mSAa8XIAiGXIKXrOXDOUa8XrOXDOKWaQXDOWAqRa8XrPXDOWJWaRWaQp7Xr",
  "PXDOKjOXDOUa8jOXDOW9jOXDYKXDOAbEXIKWaOXDOAlAOKXrQlAOAaX2jIKaX3cLaX4KXrQXDOWTWaQXDOYKcLsDRWJsDR",
  "YKWaQXDOAdFcUAcUdFUXLaIXDOBXDOAaX5O0aX6AaX7OAaBcUKhHXDOUXDOnEaX8AWaPnEKaX9XDOKa8XDOAWiGOKa8WiG",
  "OKaXAlAOUa6YKXDOUaAYKXDOUa6X4XDOUaAX4XDOW9a6qRa8XDOW9aAqRa8XDOAWvSa61aA0jIKa8lAO1a61aAW9WaRa6p",
  "7XDOW0aAp7XDOUa6YKlAOUaAYKlAOW9WaRa6p7lAOW0aAp7lAOKa6YKaAKaAYKa6UWaRa6p7aALaAp7a60mU0n0UmUYKXD",
  "OUn0YKXDOUmUYKlAOUn0YKlAOKqPa8XrR2XrSAfDRAg5RUa8CfDRCg5RW9fDRYKXDOW9g5RYKXDOWTWaRCfDRp7XDOWBg5",
  "Rp7XDOWJfDR0a8XDOWJg5R0a8XDO0aXB1oR1jHKWRsDRBWaSRWAsDRYKXDOWAWaSRYKXDO1WiH1WaTAaNWH1iG1WDBtEk9",
  "BMbLBXLbLBbCbL1cU1bUAd3WH1iG1WDBMbLA8d5AAd5AWKd5AW9d50aXC0aXD0WvT0aXEW9bEW8WG8uPWJJW8WGJ8uPKqP",
  "a8aXFAa8WvTKqPa8aXGWTXrTJW8WGJ8uPKmUsEWiIKn0sEWiIKqSuQRUuNlQqSuQWJqSuQRYKXDOWTuNlQqSuQYKXDOAWa",
  "SRAsDR0WvUKaXHaXIaXJ0aXK0aXL0aXM0p7U8aQ0kB1XQKWW5mT62YK1jG1jHAcBbLAMbLAaBbLAtEWD0Ww0W9AqSWw1Wa",
  "UmSW98qSWw1WaUmSKAWaUmSK8WaUmSKZ2XIcUKf6mTYK26AJfD1g51jG1jH0XrUUXD6uOOKa60MKaA0MKeQWvSa62aAW9a",
  "6XDOYKaAW9aAXDOYKa6UXDOYKa63aA3mU3n0W9qPa8XrRYKXDMXrSYKXDWTa8WRsDRYKXDOWBWaSRYKXDOWTWRsDRYKa8X",
  "DOWKWaSRYKa8XDOW9a6qRa8lAOW9aAqRa8lAOW9mUqRa8lAOW9n0qRa8lAOUa8qSuQRWJqPa8WvOlQqSuQWTa8qSuQRYKX",
  "DOX8qPa8WvOlQqSuQYKXDAW8u1KXqGXFu1UW98bGu1UWK8bGu1WJqQR0YPXFW0X1W8WGfRcNRXFW0Y72qQR0W8WGfRcNRX",
  "FW0W9qQR0M93n1W92qQR0n1UqQR0fPNEXFWtDW9uN0YPXFW0X0W8WGfRcNRXFW0XS2uN0W8WGfRcNRXFW0KuN0n1U2uN0n",
  "1UYFuRWiJaXNAaXO5AWiK70Wb0AW9ZFAWKZF0aXP0aXQAq8Z7AAsFA8sFAAqTA8qTKdI8WiLBAWiLKbS8WiLBAWiLKZ2a8",
  "5AWRn20kB0Ww20aXRAo4aXSAWiMtBAaXTWRUwIRaXU5KYMa850Xs00WiNKbSAdKB8dKKdIAdKB8dKKbSWLi9KdIWLi90Xs",
  "10Ww3WJW9ZFjIEXFWiOAaY0sGUXs2OcL8W9YOaICxIf30Wb1KhGaQWPKfTaQWPUXs2OcLAAXs3XL0aY1AWaOaY20aY3AXs",
  "4aY4AaY5aY6AaY7aY80aY90aYA0aYBUXs5Xs6W1aYCDaYDm0Dm0XD4WvP4cB4uS4WUDWUWW84uSDk9WGDxHWGDm0k94xH4",
  "a64aADWIWiPDW4WiPNm0WI7EW47DWUxHNWKd5fPDhHWW8Nm0WKqG4hHNWKd5uSDY4WiPNm0Y47NW9d5n1DWb2WW8Nm0W9q",
  "G4Wb2NW9d5uSDXNWiPNm0XN7DXs7fPDhHfPDcBfPDuSfPDWUfPNW9xJuSDXs7m0DWUaBDm0dFNW9d5Z6DWb2Z6DaBZ6DuS",
  "Z6DWUZ6NWKxJWW8NAxJWW8DXIZ6DaAZ6Da4WGDWb2XI3aYEDWW8XIDnCfPNm0a8XD4e8NWKqGXINW9qGXI3dM3eT3cGDdA",
  "fPDf9fPDdMfPDcGfP3dAKa8o6LWJ8aQ0XNtK7KaYFYJf3AWW9W1W9W8Z70W6MAWvFW1KaYGXs8W1KaYHXs8W1AXe2W1AWw",
  "4W1WJSWR0aFW8Z7AXs9W1KWw5sGW1AaYIW1W9aNXFWG0XsABXQWKW9yQWU0aYJ7AaYKW1AaYLW1AaYMW1KaYNaYOW1BaYP",
  "W1AaYQW1AaYRW1W9Ww6Ww7W13EAaYSW1UXs5Xs6W1m0UWpDdPsGW1AaYTsHAXsBsHKXsCWaKW1KaYUWaKW1UAbOYGU2uTC",
  "XPUU8bOYGU2uTCXPUW9AWRWPYGdK3uTDXPdKW98WRWPYGdK3uTDXPdKW9Af6WPYGUDW6uUDXPUKf6WPuTW98f6WPYGUDW6",
  "uUDXPUAi9uTKXFZ7uTX8YGAYKXP8f6WPfSWU8YKXPAf6WPfSAWiBbS1dIKbSWRWPKdIWRWPW2X4bSWRWPKWiQW1dIUAW8f",
  "3Z7U8W8f3Z7KXFaZ0aZ12aZ22aZ32aZ4WTaZ5W1XGW86bS8FdI8E0WUWCWK6XF0WUWCW96XF0WUNW80XQWCWK6XF0XQWCW",
  "96XF0XQNW86h3WCWK6XF0h3WCW96XF0h3NWK6XFNW96XFW2W86bSAFdIAAWRWiRAWb3W1AaZ6W1KW8Z7uTAaZ7aDLYPX4b",
  "0Lb0X4YPW0YPX4EWw8W0EWw8X4YP3Wb41XsD1XsE1XsFAm4XsG0aZ8AbSbOAdIbOKbSf6WPKdIf6WPUbSiUg6WPUdIiUg6",
  "WPASaZ9UXs3XL0WU0aZA0aZBAWhJWw7AaZCjGKWpDaZDW1UPfTJXQLhGJXQLm5JXQLo7JXQWKfTJXQ0W8WGWKhGJXQ0W8W",
  "GWKfTXQ0JW8WGAaZEWiS0aZFAaZGWiSUWiN0aZHaZIUPY5hGXQCfTXQCm5XQCo7XQKJW8WGUPWRcEZALWUcEWw9AWwAW1B",
  "aZJW1BZUW1BaZKW1KaZLsIW1KW1cEWwBMtTRXsH4q7McNRq74WiT2XsI2WiU2WW92XsJCXFo8CZ7WWACW8o8C3WWACXsKW",
  "b3CWb5kC3aIMXsLWwCWj0MWWBsJF4E4N4TCkDWiUCXsMXsNW1cNRWiTa92Wj1McNRY52WwD2Wj0CWWCdPCWwEdPCWw9dPC",
  "Wb6dP2gJ2WwFAXsOW1AYJf3KW1cEXsPMWwF3EMWwD3EbOQaZMU1XsQ1Wj2BZPWj2BoTaZNBWWDWW2LWwGWwHXsRLaZORo6",
  "1bULaZPXrEZTBJxHc3MaNXKF2E2N2T2W22WB2WJ2WC2WOBZTYQ2o52m22v02v12pI2qC2v22sK2v32c6KWj3XKF2E2N2T2",
  "W22WB2WJ2WC2WOBZTYQ2o52m22v02v12pI2qC2v22sK2v32c6UXKFaUZALEaUZALNaUZALTaUZALW2aUZALWBaUZALWJaU",
  "ZALWCaUZALWOaUZAUZTYQaUZALo5aUZALm2aUZALv0aUZALv1aUZALpIaUZALqCaUZALv2aUZALsKaUZALv3aUZALc6aUZ",
  "AW9Wj3aP21C4YR4YE4Y64G4ZK4XO4XU4K4Z54XR4WE4XB4X04D4YH4a74W74WA4XS4B4XT4YS4YO4Y74YFW9aNaP41C4YR",
  "4YE4Y64G4ZK4XO4XU4K4Z54XR4WE4XB4X04D4YH4a74W74WA4XS4B4XT4YS4YO4Y74YFM21C4YR4YE4Y64G4ZK4XO4XU4K",
  "4Z54XR4WE4XB4X04D4YH4a74W74WA4XS4B4XT4YS4YO4Y74YFBXKY9UkDaNZTo53m23v03v13pI3qC3v23sK3v33c6UJaN",
  "XKF3E3N3T3W23WB3WJ3WC3WOCZTYQUkDaNXKY9Uf3XsSXGXFCW5XFCXGW8CW5W8W1XGbEbUXFW1W5bEbUXFW1XGbEbUW8W",
  "1W5bEbUW8W1XGpDbUXFW1W5pDbUXFW1XGpDbUW8W1W5pDbUW8W1XGWK68WBWKXG68W5W2W568XGW1W5WK68W1XGWK6AWBW",
  "KXG6AW5W2W56AXGW1W5WK6AW1XGW968WBW9XG68W5W2W568XGW1W5W968W1XGW96AWBW9XG6AW5W2W56AXGW1W5W96AW1X",
  "GW868WBW8XG68W5WLW9W568WKXGWLWKW568W9XGWBW8W568XGWLWKXG68W9W5WLW9XG68WKW5W1W5W868W1XGW86AWBW8X",
  "G6AW5WLW9W56AWKXGWLWKW56AW9XGWBW8W56AXGWLWKXG6AW9W5WLW9XG6AWKW5W1W5W86AW1XGWK6XFWLAW568WKXGWL8",
  "W56AWKXGWBWKXG6XFW5W2W56XFXGWL8XG6AWKW5WLAXG68WKW5W1W5WK6XFW1XGW96XFWLAW568W9XGWL8W56AW9XGWBW9",
  "XG6XFW5W2W56XFXGWL8XG6AW9W5WLAXG68W9W5W1W5W96XFW1XGW86XFWLAW568W8XGWL8W56AW8XGWBW8XG6XFW5WLW9W",
  "56WKXFXGWLWKW56W9XFXGWBW8W56XFXGX0AW9W568WKXGX08W9W56AWKXGX0AWKW568W9XGX08WKW56AW9XGWLWKXG6W9X",
  "FW5WLW9XG6WKXFW5WL8XG6AW8W5WLAXG68W8W5W1W5W86XFW1XGJbUXFW1W5JbUXFW1XGJbUW8W1W5JbUW8CJXF3W8WBWK",
  "ZD68JW2J68ZDW1JWK68WBWKZD6AJW2J6AZDW1JWK6AWBW9ZD68JW2J68ZDW1JW968WBW9ZD6AJW2J6AZDW1JW96AWBW8ZD",
  "68JW2J68ZDW1JW868WBW8ZD6AJW2J6AZDW1JW86AWBWKZD6XFJW2J6XFZDW1JWK6XFWBW9ZD6XFJW2J6XFZDW1JW96XFWB",
  "W8ZD6XFJW2J6XFZDW1JW86XFWBXGkBWK686AOW96A68WMbGYG8OXPAW4AOXP84bD3A3W9383WKCW5A3W9383WKWBXGA6W5",
  "8W2W96W5WKWBW5A6XG8W2W96XGWKKYGWLa9UXPFf0a9Cd8a9LNl9a9BWLa9LW2l9a9LNkKa9LWJl9a9AaUa9UAWJl9a9LN",
  "kKa9LW2l9a9BWLa9LNl9a9LFd8a9Cf0a9K8WLa9AXGlBAY5lBAXsTlBUYGFf0a9U8Ff0a9KlCXPA28BYGAWM6XPA6XP858",
  "WDYG86XPA8828N6XPAQ6XP8APWRASWRM0q9WWEW1xKP2WRUWR0XFm6CW8m6MaZQXsUm6WLYGAOXP8m6WC8OXPAm6MbGXsU",
  "m6KP2WRKS2WRAPxIASxIKPW8xIKSW8xIAPXt0ASXt0KPm5XQKSm5XQUPm52XQUSm52XQKPfTXQKSfTXQUPfT2XQUSfT2XQ",
  "KPfTWb7KSfTWb7KPo7XQKSo7XQUPo72XQUSo72XQKPhGXQKShGXQUPhG2XQUShG2XQKPhGWb7KShGWb7APcBAScBW1xKP2",
  "cB0aZR0n2ASWUAcIWUUWU0W8m60aZSAPWUW9WU0AWLPM8WLPMXPWLPMYGWLPN8lCPWLWaOqRYGAlCPUAWLPWUU8WLPWUAq",
  "Um1BSWUW9YGWLqUSWUW9XPWLqUSWUW9YGAlCWZ2kBW08lCWZ2kBW9XP8lCWZ2kBW0AlCWZ2kBKYGWLWUKXPWLWUUPXP8XQ",
  "CAXQLYGAXQC8XQASm1W9WR0AWLPM8WLPWBYGAbGWLPWBXP8bGWLPWJSWR0W8aZTZ7W0m5XQ0MWJm5XQ0AWLPN8WLPAZJWU",
  "WJSWR0YGAlCNXPAlCE8lCNYG8lCWAWU0YGAlCNXPAlCE8lCNYG8lCKYGAXQB8XQKXPAXQKSY5WRKPY5WRUSY52WRUPY52W",
  "RKXP8XQUPo90WWF0WWG0Wb80WwI0aZUAPaBASaB0Wj40aa00o9AXt1Xt2AWpKXt20aa10WwJAPo4ASo4AxLf3C0o63YO0p",
  "JUWb80xMaa2AWb9Xt3KSWj5uUKPWj5uU0aa3W9Z2a0WwKeFm1UPAZRXCL8ZRXCUSAZRXCLW9ZRXCL8ZRXCLWKZRXCKWwL6",
  "Xt4Aaa45Aaa55Aaa650Xt50aa7Aaa8bDAg0eTKbDRaa92aaAKaB6WWHAwFW1AaaBaaCKWj66aaDAWwMW1ArGnHKaaEcEWj",
  "72Xt62pK2WwN2pL2n32v42m4KWj8RaaFKSWj9WSBjJWSKPjJWSUSo90WWFKsBd8fEKWwOd8fE0Xt7AWWI50m4Av550aaG0"]

/-- The names of characters below U+10000, part 3. -/
def basicC : List String := [
  "aaH0Xt80Xt90XtA0aaI0aaJ0aaK0aaL0aaM0aaN0aaO0aaP0aaQ0aaR0aaS0aaTKSdLj02kE2oA2oB2eR2oCKPdLj02kE2",
  "oA2oB2eR2oCBXtBsLKSeFsLBcBsLKPWwPsLKSXtBsLKPeFsLBcBsLKSWwPsLAWb9aaUAd8hPAf0hPKXtCf0WbABzOWbAKX",
  "fLWWJ5BXtD5ByR5KaMWYLbDKa1WYLbDKXtEWwQW1W9WwQW1cEab0xNDab1xNDXtFxNDXtGxNDXtHxNDXtIxNDab2xNDab3",
  "ab4UPXtEWwQW1Kab5WjAW1Kab6WjAW1Kab7WjA5AWwRW1AWwSab81ab91abA1abB1abC1abDW9SWU0M8DEX3WJPWU0SM8N",
  "ESX3KWWKcEnH2rGUXtJcEXtKnHCabErG3nHCXtKrGASoDAPoDKWj66XtL0XtMAn4abFKv6RabG0abH0XtN0WaJ0XtOKv6R",
  "abIAabJW10abKKxOSaBUNXtPabL83AAabM5KZ3abN5KWf0WWI5Bv55W9abOWWI6v55Uv56WWI5L0W05WC6v56WWI5W9W8v",
  "50W05W9XFv50W05KY5SWUBPWUL2SWUAabPW1AabQW1KabRXtQW10abSAabTabU0ac00ac10ac20ac30ac40ac5KPfEac60",
  "ac70ac80ac90acAAacBoE0acCAd3sGKSXtRhC2j0KPXtRhC2j0KWwIWbBWwTKo9XtSWWG0xMAPWwIUWwNWWG6xMUYMSWj5",
  "uULPWj5uUUScBaIWRAdRXtTAacDv70acE0XtLAv7acFUWjB0SbDKaNdRXtT0acGAc4WwUW9gHacHAWa8WbCW9PXtUAWa8W",
  "bCW9SXtUAWa8WbCUPAXu0Xu1USAXu0Xu1KXu2Xu35UW5So7XQKAd0WwUAd3pJX8xPbGaISWUaIPWRAPWx0KacIAacJ2acK",
  "UacLW1cEXt8X8W5WU0W06EX390WjCKacMXu4WjCKacNXu4WjCAZPWjCUPbDZUWx1AacOacP0Xu50Wx2AacQacRKXtOWbBa",
  "cSB0acTUWbDW1cEacU0v4KWb8ZUXsG0Xu6KoDaIXu70ad00ad1KWRTWWE0ad2Av8Xu8KkF0oE0Wx3KxQWwHW1KXu9ad3W1",
  "Aad4ad5UWaTZUPWRWTSoD0XFW6Pad6KPWx4WWLKYGXuAWWLAPWWLKXPXuAWWLASWWLLW5o6LKo4Wx55AXuBXu20xR0sMAf",
  "7Wx61dSAXuCdSAXuDdSKXP8WjD0WjDKYG8WjDASXuEAPXuEAo6LKW5o6LAoRYOKW5oRYOAxLYOKW5xLYOKxOfIbDKW5fIb",
  "DKYJaFbDUW5YJaFbDAaPbDUn5SaPbDKxOaPbDAad7bDKaBRad8KTxSbCBWx7bCUW5TWx7bCKTad9bCUPTd1aBUSTd1aB0a",
  "dAUWpSxOSaBKaNSaBUYJaFPaBUPaFSaBKxOPaBUW5xOPaBAsNaBKn5SaBAW5bCKYJaFbCKWCj1bCLd1PaBCsNaBUWBd1Pa",
  "BW9WCd1XuFPaBWJW5WCd1XuFPaBUm2d1PaBKqCd1bCAxSbCUYJaFxSbCKW5xSbCWJWBXuGP6SWjEAPWjEASWjEW9WCXuGx",
  "OPWjEWJaNYJaFWCd1aBUW5xSsNbC0Wx8KWx9adBWx8KW5XuHWx80XuIAW5XuIAWx7bCUWCxSXuJbCW9W5WCxSXuJbCAbDL",
  "Kn5SWUUkDd3bDLW9XP8XuKSWRW9YG8XuKSWRW9XP8n5SWRW9YG8n5SWRUPe8LaRUSe8LaRLf5LaRW9PcBiGSYOUW5f5LW1",
  "KXGW8WGKY5W8WGKW5W8WGWKZDYMa4dULaRW1a4dULaRWKJYMa4dULaRW1a4dULaRWKY1ZDa4dULaRWBJa4dULaRW9pMsOW",
  "YM5aRUW5f5LaRW0eFf5LaRBPeFW9a0W5PeFm1AWwKeFUa0WwKeFm1UY5AbOaRL8bOaRW0Wi3AbOaRM8bOaRW0hGaQWPaRW",
  "0fTaQWPaRWJW5hGaQdULaRWAfTaQdULaRW0hGaQWPaRW0fTaQWPaRWJXGAiUg6WPaRWA8iUg6WPaRW9Y5Af6WPaRW08f6W",
  "PaRW9XuLkDaNXKF4E4N4T4W24WB4WJ4WC4WODZTYQW0aNgGXKF4E4N4T4W24WB4WJ4WC4WODZTYQWAkDaNgGXKF5E5N5T5",
  "W25WB5WJ5WC5WOEZTYQUW5XuMW47BWH5BiG5BtE5LbNa17BW47Lb9a17UadCmEW47UW5adDW47KZEW47UW5ZEW47UmRZEW",
  "47W9W5mRZEW47KPW47UXuNWxAW4ZFLadEW4ZFKPW4ZFWTW5PpMXN6W47W2Y46W47UXcQPW47W9W5adFPW47UWxBSW47UWx",
  "CSW47W9WxDn5SW47W9WxEn5SW47WJW5XPWjFSW47WAYGWjFSW47WJsPXPWjFSW47Af6iFWJsPYGWjFSW47W9aNW5SW47Ka",
  "dGW47UXuObNa17BW47Lb9a17W9W5XuObNa17CW47Mb9a17KadHW47UW5adIW47KXuPW47UW5XuPW47KadJW47KJf6iFKNa",
  "dKaQWJSXQxK2SXQ0WxFAYJfD1g5UAXuQWiJWf8U8XuQWiJWf8UYK0Mi5UgKfQXuRfDKg5XuRfQW9W8WG0XFW0KWW3mHbGA",
  "YPtEKWW3xPbGKd3mT62YKW9ScB0tHMK60MUqQRWbEY4W9XP8dK0MW9YGAdK0MKAWxGWjGK8WxGWjGKaUWxGWjGKZJW9d5B",
  "WKd5W9A68JuP3d51WvUKYP8d5BAd5W9W9d50WU9W9n2WxHnEXFadLKSadMcBN0WIq1EW4q1W0WR0WIq1DW4q1W9WW3ASWR",
  "WPW08SWRWPLAaQWPL8aQWPW0AJaQWPW08JaQWPWAASiUg6WPWA8SiUg6WPLAWi3bOL8Wi3bOKY4pD7KXNpD7UiTXuSWU7U",
  "mPXuSWU7W9870aNWHKYPWI7BW47LA87LWIJ7LW4J7W0A8J7W0WI7dQWGW0W47dQWGWAWIJ7dQWGWAW4J7dQWGCWiE7KadN",
  "XuTXsO2adO2adP2adQ2adR2adS2adT2adU2ae02ae12ae22ae32ae42ae52ae62ae72ae82ae92aeA2aeB2aeC2aeD2aeE",
  "2aeF2aeG2aeH2aeI2aeJ2aeK2aeL2aeM2aeN2aeO2aeP2aeQ2aeR2aeS2aeT2aeU2af02af12af22af32af42af52af62a",
  "f72af82af92afA2afB2afC2afD2afE2afF2afG2afH2afI2afJ2afK2afL2afM2afN2afO2afP2afQ2afR2afS2afT2afU",
  "2ag02ag12ag22ag32ag42ag52ag62ag72ag82ag92agA2agB2agC2agD2agE2agF2agG2agH2agI2agJ2agK2agL2agM2a",
  "gN2agO2agP2agQ2agR2agS2agT2agU2ah02ah12ah22ah32ah42ah52ah62ah72ah82ah92ahA2ahB2ahC2ahD2ahE2ahF",
  "2ahG2ahH2ahI2ahJ2ahK2ahL2ahM2ahN2ahO2ahP2ahQ2ahR2ahS2ahT2ahU2ai02ai12ai22ai32ai42ai52ai62ai72a",
  "i82ai92aiA2aiB2aiC2aiD2aiE2aiF2aiG2aiH2aiI2aiJ2aiK2aiL2aiM2aiN2aiO2aiP2aiQ2aiR2aiS2aiT2aiU2aj0",
  "2aj12aj22aj32aj42aj52aj62aj72aj82aj92ajA2ajB2ajC2ajD2ajE2ajF2ajG2ajH2ajI2ajJ2ajK2ajL2ajM2ajN2a",
  "jO2ajP2ajQ2ajR2ajS2ajT2ajU2ak02ak12ak22ak32ak42ak52ak62ak72ak82ak92akA2akB2akC2akD2akE2akF2akG",
  "2akH2akI2akJ2akK2akL2akM2akN2akO2akP2akQ2akR2akS2akT2akU2al02al12al22al32al42al52al62al72al82a",
  "l92alA2alB2alC2alD2alE2alF2alG2alH2alI2alJ2alK2alL2alM2alN2alO2alP2alQ2alR2alS2alT2alUWJW4pN70",
  "W8W0OJW8W0WJWIJ70W8W0WJW4J70W8W0WTA8J70W8W0W9W4pN7dQWGW9WIJ7dQWGW9W4J7dQWGW9XN70XFW0W9Y470XFW0",
  "BbE7KXNbE7UWIJbU7UW4JbU7UWIbEbU7UW4bEbU7W0pNbEbU7W070cIsOUY47OWGUXN7OWGWTW470aH0W8W0PJW8W0W0pN",
  "70aHP0W8W0QJW8W0AWIWjHAW4WjHKWIJWjHKW4JWjHW9WI7OPcBW9W47OPcBWTWI7dQWGOPcBWTW47dQWGOPcBWJb9aM6b",
  "Na17WAa16bNaM7W0aM70UW0a170UW9bNa170UW0aM70UWTb9aM76b9a17WKa176bNa17WTbNa176bNaM7WKaM76b9aM7W9",
  "mHbGdRxPbGW9xPbGdRmHbGWTbNa17dRb9a17WTb9a17dRbNa17WJxPbGdRb9a17WJmHbGdRbNa17WTb9a17dRb9aM7WKaM",
  "7dRb9a17W9h37ZRXuU8WJ7ZRW4xTWxIY45XNW1XNxTWxIWI5W4Uam0kBmP7Uam1kBiT7UbSkBiT7UdIkBiT7WJbSkBmP70",
  "iGW1iT70WHW9XP8WxJmP7W0AWxJiT7UiTd0WU7UmPd0WU7WJW479b0WI7WJWI79b0W47WJb0W479WI7W9W470WHHW9WI70",
  "WHHUW47m7YOWJA87m72WUWJY4pN7dQ2WUWTAY2W98Y2WKaGWBWK8Y2W9aGWTW9Y28WKY2AaGWBAWKY28aGWTAY2W98Y2W9",
  "aGWTW9Y28WKY28aGWTAY2WK8Y2WKaGWTW9Y2AWKY2AaGWTWIaG0Y2W9OWGWTW4aG0Y2W9OWGWTY4aG0Y28OWGWTXNaG0Y2",
  "8OWGWTWIaG0Y2WKOWGWTW4aG0Y2WKOWGWTY4aG0Y2AOWGWTXNaG0Y2AOWGWTWIaG0Y2W9dQWGWTW4aG0Y2W9dQWGWTY4aG",
  "0Y28dQWGWTXNaG0Y28dQWGWTWIaG0Y2WKdQWGWTW4aG0Y2WKdQWGWTY4aG0Y2AdQWGWTXNaG0Y2AdQWGY7WIaG0Y2W99WI",
  "aG0Y2WKY7Y4aG0Y2Ar0Y4aG0Y28Y7W4aG0Y2W99W4aG0Y2WKY7XNaG0Y2Ar0XNaG0Y28Y7WIaG0Y2W99W4aG0Y2W9X2WK9",
  "W4aG0Y2WKY7W4aG0Y2W99WIaG0Y2W9X2WK9WIaG0Y2WKX8WIaG0Y2W99YPbUW3WKHYPbUX8W4aG0Y2W99YPbUW3WKHYPbU",
  "Y7Y4aG0Y2Ar0XNaG0Y28Y7XNaG0Y2Ar0Y4aG0Y28WJ8J70q9i4W9cU59W47W9XIbL9W47W9WI79XIbLW9W479XIbLNjOXD",
  "OUa69WI7UWI7m7a6UaA9W47UfD9W47UWI7m7fDUg59WI7KAr1aHK8r1aHKW9r1aHKWKr1aHUbEW8WGWf8KYFuRam2CWuBd",
  "FUASf6WPU8Sf6WPKASbOK8SbOW9YFuRAsDWPM8sDWPMAXv0WPM8Xv0WPW9AWRWP0fPW98WRWP0fPX8AWRWP0q1aIbSdKX8",
  "8WRWP0q1aIdIdKX8AWRWP0q1aIdIdKX88WRWP0q1aIbSdKW9AaQWP0MW98aQWP0MUAkBa6WPU8kBaAWPW9JAkBaAWPW08k",
  "Ba6WPW9APiUg6WPW98PiUg6WPAcIWbFKW8tKZ7UWaPaQWbEAW98aQh40WRW9WaP8aQ0MUaQ0WAi5AY3aQUXrLaQWbEA3W9",
  "AYMaQAZ2aQKaQ0fPUZ2aQ0fPUkSaQWbEW93WKYHWaPaQ0YJWbGam3aI7ZRW968TW96ATWK68TWK6AT86W9TA6W9T86WKTA",
  "6WKKZ2wJpHUwJpH0n1N2WU9N879NA79UWU0XFWGKaNW8WG1uOBgKfQ1WxFYHWUWxHnEXFWG6bSWLWxHnEW8WGL0am4YOUa",
  "Nam5tE5UW97m7WUKaNSm11m11a61aAWTWU02WUOcL8WLEXFWtDOcL8Ud3mHbGk9LxPbGk91bCB2WU1WRKEWb4WjIUXQ0M9",
  "2fPKWAaIXQW9XQ0WjJfRdIW98XQ9AXQW9AXQr0W8WGW9W8WGr08XQW9Ww00AWLPM8WLPAPWw0W9WD0AWLPM8WLPASWiNAP",
  "WiNKAWVOWbFK8WVOWbFUAJWVOWbFU8JWVOWbFAam6WVNKWW2X4WVNW9WVNXrT0W8WGAam7WvUUWR0am8am9AamAlQAamBm",
  "SW9cU56h5uOP0XI9W9WiGO6h5uOAamCamD0amEWJo7XQ0AWLPN8WLPW9PcB0WK71n2W9SWU0WK7W9PWU0WK7KamFSWRBPW",
  "RBScBBPcBBSWUBPWU0amGKgKfQbLKfQ0n1W9gKfQ0XFW0AlNfQBgKfQAJWHAbEWHUhGpMaQWPUfTpMaQWP0WbH0amHUWW5",
  "aNMbLCWHbLCWDbLW0jHbL0M4WHLWRjGbLCjHbLUEmT6bLCYKbLKWW5WDbLKamIEWWMKWiB0i9KpDi9bLKamJWxKi9Ui90J",
  "W0LamK0k9AamLWvHAiTXv1WTZ7Xv10XfEWxLWxMWbIW2WxJWxLWxMWbIW1a8amMcLWbIW9i9WxMCmEbLKamNi9bLWJi90W",
  "I70UCWD52jG2jH2n12fP0WjGUZJAXQbLUYFuRamOWw43amP3amQWJWH502WU9NYTcC9DXI9DMHDXIHDwHEDPXQW9iG50a4",
  "9DMHDxPX3DmHX3WJWH5aIAWLWUN8WLWUUamRYKbDmSW9oR50M93fPW9WaUmS0dId0AXv2mSWJoR5aIAWLWUN8WLWUWJaNo",
  "R50YTcCW9oR5aIJWUKaNtE5UWH5aIXQUiG5aIXQUoR5aIXQAXv3mSKamSXv3mSUYFuRamTWw4KamUYKXrKKjG0MUjH0iG5",
  "2n1KjG0n1CmT6UjH0mTYKB9jGKjG9jHW9jH9WG9jGW9jG9WG9jHWJjHr06Wb40jHWJjGr06Wb40jGUd0jH0WjJLjG0WjJK",
  "JWRjG2jHWTd0jH0WjJ6Xv2mSW9mT60M9W0YK0M9KJmT62YKUEan0mT63YKKan1ZJYK26W9mTYKWxNmT6W060W6sOW0YK0W",
  "6sOW060XFbUW0YK0XFbUW060Jn13fPDJfPU2uF0fPW9mTYK0Jn14fPUYFuRan2Xv4CWxOXv4W9cU50MHUWiG0M9WTbEXFW",
  "G0JW8W0ObEW8W0W9XIbL0M9DmHX3KxUiGxUUan30M9KcU0bCWJjOXDO0YTcCW9WaQXDYKXDOW9cU59WH5W9WH59cU5W9cU",
  "59XIbLKJdFXDUEXv5cUXv6UNXv5cUXv6XScU50EX396EX3HW9lA0TX39Ua60WUi5UaA0WUi5W9a60e8L9W9aA0e8L9W9a6",
  "YKh5XDOW9aAYKh5XDOX8a6YKh5XDO0Mi5X8aAYKh5XDO0Mi5X8a6YKh5XDO0M9X8aAYKh5XDO0M9XIa6YKh5XDO0M98XIa",
  "AYKh5XDO0M9AKa6YKWjKKaAYKWjKWJa66WWNa8XDOWJaA6WWNa8XDOUa66a8WjKUaA6a8WjKWJa69WWOXD9aAWJaA9WWOX",
  "D9a6W9a69xUYKXDW9aA9xUYKXDW9a69xU9aAW9aA9xU9a6WJa69aA9WWOXDWJaA9a69WWOXDXIa69h5XD9aA9h5XDXIaA9",
  "h5XD9a69h5XDW9h5XDOYKa64aAW3a60Mi5W3aA0Mi5W9WWOXDOYKa64aAWAh5XDOYKa65aAKxUYKa62aAWA9a69cU5W1aA",
  "9cU5KJXv7a62aAMa60fPKaAWxNa6Br0a6Ua6d0nEj2UaAd0nEj2WTa6d0nEj29h5XDWTaAd0nEj29h5XDAXv8zMAXv9zMW",
  "9Xv8zMYKXDOW9Xv9zMYKXDOW9cU50an49W9mU9WWNcU5W9n09WWNcU5WJmU9WWNa8XDOWJn09WWNa8XDOUmU9cU5Un09cU",
  "5W9mU9a8XDOW9n09a8XDOW9mU9jOXDOW9n09jOXDOWJmU9a8jOXDOWJn09a8jOXDOAJmU1n0KfD0MKg50MW9fD0WH5HW9g",
  "50WH5HW9fD0oR5HW9g50oR5HX8fDRYKXDO0M9X8g5RYKXDO0M9W9fDR9cU5W9g5R9cU5W9fDR9XIbLW9g5R9XIbLWJfDR9",
  "jOXDOWJg5R9jOXDOWJfDR9a8XDOWJg5R9a8XDOW9WRAYJf3bLW08YJf3bLAd0fD1g5W0fDYKXDOW0g5YKXDOKfD9g5Kg59",
  "fDKfD9fDKg59g5Br0fDWL6Wb4nEbU0fDUqQRWbEXNUXrU0WVBbSAan5jG0an60an7Kb0Ad5BWKd5BW9d5KWxF0WAW9W8WG",
  "bE8uPW9JW8WGAuPW9W8WGJAuPWJJW8WGJAuPX8YPbUdQAWiFRJW8W9b0WKd50n1W0W9d50fPW29b0WKd5KJWKd5BW9d5LW",
  "0a85W9Z2JW0a85WTqPa8WvP0Z2an8k9W9W8Z70WU94HW9WKd50WUHUuO0XFW0CXIbLW9bEW8WGXvAWiIN0XFW0BdFbLBXv",
  "7a62aAWJWWOh5a6YKXDOW1aAYKXDOUbEfQXvAWiIW9ZJbEW8WGbLKJfQbLKSW8WGUWW5SW8WGUb9a1S7LaMS7UbNa1S7La",
  "MS7UA8S7KWIP7KY4P7KXNP7Ub9a1P7LaMP7UbNa1P7LaMP7UA8P7UW9WKP7W9W470m3XN4Y4W9WI70m3XN4Y4W9WR0bSWL",
  "PMdIWLPWBYG8bGWLPWBXPAbGWLPW9cB0AWLPM8WLPMbSWLPMdIWLPAcIWRKPZJWRKSZJWRUPeQ2WRUSeQ2WRAPWbJASWbJ",
  "1WxPAPWxPKXFPWxPKPZJWUBY5cBKSY5cBKPY5n2KSY5n2KP2cB2n2KS2n2KPXFWjLKSXFWjLKPW8WjLKSW8WjLW9A702WU",
  "KNWIkAW9A70aNWHUYPWIWiE7WJWIpN70W8W0OJW8W0DdQWGMbEbU7W070cIsOW2aH0W8W0PJW8W0W0pN70aHP0W8W0QJW8",
  "W0L7m7YOW9h37ZRXuUAW9cU59WI7WJgKXIbL9WI7WTWI79gKjOXDOUW47m7aA3g5KWIpD7KW4pD7WJgKXIbL9W47WTW479",
  "gKjOXDOW9XIbL9WI7WJWI79jOXDONgKXIbLWJW479gKXIbLUXNZEtK7Ub0h5b97LWxQbN7KSY5aBKP2aBKS2aBKPfTWbJK",
  "SfTWbJKW5ZJWUW0WxR0WxRi5W0WU0WUi51WUBaNpJWJh5b970WWPi4WJWxQbN70WWPaHWJh5b970XFaHWJWxQbN70XFaHW",
  "Te77ZRXNxTb9a1X8b0e77ZRXNxTb9a1KWIZE7KY4ZE7KW4ZE7KXNZE7UA8ZE7UW9WKZE7Ub9aMZE7La1ZE7UbNa1ZE7LaM",
  "ZE7UWIZEmR7UY4ZEmR7UW4ZEmR7UXNZEmR7W9mPZEYJWU7W9iTZEYJWU7W9WIZE7OWGW9Y4ZE7OWGW9W4ZE7OWGW9XNZE7",
  "OWGd23b9aMZE7OWGWAa1ZE7OWGWJbNa1ZE7OWGWAaMZE7OWGWTWIZE70JXFW0WTY4ZE70JXFW0WTW4ZE70JXFW0WTXNZE7",
  "0JXFW0KXFsQsGKW8sQsGWTWIZE7X4W4ZE7X8Y4ZE7WIRXNZE7WTW4ZE7X4WIZE7X8XNZE7WIRY4ZE7UWIZEuLkAUY4ZEuL",
  "kAUW4ZEuLkAUXNZEuLkAW9WIPaNS7W9Y4PaNS7W9W4PaNS7W9XNPaNS7W9iTZE8WbK7MdIWbK7MAWbK7MbSWbK7AWb3A18",
  "AXsPA18W9TdKkAXvBiTKW4P7cN2W1cEWuBCan9W9XuNWxAWIg7ZFW0anAY4g7ZFW0WxAW4g7ZFW0anBXNg7ZFUPWIg7ZFL",
  "Y4g7ZFLW4g7ZFLXNg7ZFWTXNZE70YPm3WI6W4WTY4ZE70YPm3WI6W4WTWIZE70YPm3Y4WTW4ZE70YPm3Y4WTWIZE70YPm3",
  "XNWTW4ZE70YPm3XNWJPpMXN6WI7EW47W1Y46WI7EW47W1WI6Y47W1W46Y47W1WI6XN7W1W46XN7UWjM7WKA38CW9A38CAW",
  "9C8W9CAWKC8WKX8Y4S7dQWG0XFWGWJW9ZFaICxIf3KWxNSWjIM6PWjIBPWjIW9xLf30XGYOAaNYOBeGYOKPWRtHBcBtHKY",
  "MPWbJKXFPXvCAPXvCW0Y5m5XQtHMo7XQtHMhGXQtHMfTXQtHKXt93EUbSWLPWUUdIWLPWUW9XGTd1PWjNWJa0XGTd1PWjN",
  "USTd1WjNW9a0STd1WjNKWRWiMtBAanC5AWwELKXtA3E2N2T2W20anD0anE0anF0anG0anH0anIKSfEanJUPcBZUbDUWvTX",
  "GfEanK0anL0anM0anN0anO0anP0anQ0anR0anSUAWLPaBU8WLPaBW9aB0AWLPM8WLPWJWIpN70XQWjOWJY4pN70XQWjOWJ",
  "W4pN70XQWjOWJXNpN70XQWjOKanT3F2E0anUUao0XhUW1ao13ao23ao33ao43ao53ao6W9cU50WVNHAao7W1Aao8W1AWf0",
  "W1Aao9W1KZ28aQKaoAaoBW1UXvD41WxS3WxT3WxU3Wy03Wy13Wy23Wy33WjP3Wy43WWQDW3WWQ3K3Wy53Wy63Wy73WbL3W",
  "y83Wy93WyA3WyB3WyC3WyD3WyE3WyF3WyG3XvE3bA3WyH3xA3WbM3ZB3p13WjQ3WyIDXvFWN3cOD2eCF0aH3dJNWWR2eCD",
  "lNeCNWWRlNeC3wB3z73XvGDXvHCDXvIWbLDXvJWbML21WxS3WxT3WxU3Wy03Wy13Wy23Wy33WjP3Wy43WWQDW3WWQ3K3Wy",
  "53Wy63Wy73WbL3Wy83Wy93WyA3WyB3WyC3WyD3WyE3WyF3WyG3XvE3bA3WyH3xA3WbM3ZB3p13WjQ3WyIDXvFWN3cOD2eC",
  "F0aH3dJNWWR2eCDlNeCNWWRlNeC3wB3z73XvGDXvHCDXvIWbLDXvJWbMWTaP41WE0JWGWK21WE0JWGWK41WE0W6XINYH0W",
  "0NW70aHWA21C0W0W2XS0bGW0WA41XU0c8WA21XU0c8WA41XR0c8WA21XR0c8WA41YF0c8WA21YF0c8L41dANXB0UDYMC4d",
  "AWK21XT08UWA41YS0UWA21YS0UNXT0gMW041WLXUW021WLXUDaoCfHNG0XsAW2YMW70aHWCD0Y1XLi5WA124YMGW0wH21Z",
  "5Ue014XTWTaP41WA0ySaHW2YF0ySaHUfK41XvKL21XvKL41XvLL21XvLL41gLL21gLL41XvML21XvML41WjRL21WjRL41X",
  "vNL21XvNL41WjSL21WjSL41XvOL21XvOL41XvPL21XvPL41XvQL21XvQL41WjTL21WjTL41XvRL21XvRL41eEL21eEL41d",
  "DL21dDL41We4L21We4L41DL21DL41bQL21bQL41f1L21f1L41WyJL21WyJL41iJL21iJL41WVLL21WVLL41p3L21p3L41W",
  "hGL21WhGL41j8L21j8L41WjUL21WjUW041v9XAW021v9XAWA41aOfKdBWA21aOfKdBW041sAWjRW021sAWjRW041v9WjTW",
  "021v9WjTW041v9dDW021v9dDW041sAdDW021sAdDWA41aOfKWjUWA21aOfKWjUL41yUL21yUW041n4tMW021n4tMWA41aO",
  "fKtMWA21aOfKtMWA41aOfKiEWA21aOfKiEW041XvSz3W021XvSz3W041v9z4W021v9z4WA41aOfKz4WA21aOfKz4WA41aO",
  "fKWNWA21aOfKWNW041XvTWNW021XvTWNWA41aOfKXvUWA21aOfKXvUWA41aOfKy0WA21aOfKy0WA41aOfKz5WA21aOfKz5",
  "WA41aOfKXw0WA21aOfKXw0WA41aOfKwAWA21aOfKwAWA41aOsRwAWA21aOsRwAWA41aOsRWhEWA21aOsRWhEWA41aOsRlS",
  "WA21aOsRlSWA41aOsRWyKWA21aOsRWyKBW1z1CeEf1CbQf12aoDCiJf1CWhGf1CwAWyJW041sAtMW021sAtMW041sAz5W0",
  "21sAz5LcDdD9CaoEaoF3Xw1W041Xw2z3W021Xw2z3cE6aOsRaUZANWw6e8LNaoGe8LDWpBWWSLhQFWLBaUZABaoHWWSUWZ",
  "C21dC3WfG3x33WfH3b33WfI3WYP3WfJ3aI3zU3WfK3hC3WZD3ZU3WfL3WfM3WV53z63x43u23WfN3WfO3WfP3WZE3e13Wf",
  "Q3l13WZF3WfR3WfS3WfT3WfU3Wg03c13WZG3fA3WV63Wg1bH2WV7bH6WV8c33aoI1X92aoJ2aoK2aoL2aoMMXw3Xw4WyL2",
  "WyL2aoN2aoO2aoP2aoQ2aoR2aoS2WqJCy1WqJ2aoT2Wk0MXw3Xw4Wk0Cy1Wk02aoU2zH2Xw5Cy1Xw52Xw6Cy1Xw62eB2Wy",
  "MCap0WyMCy1WyM2ap12Xw72XoRCy1ap23nH2Xw82cO2Xi82ap32WyNCy1WyNCap4WyN2ap52ap62ap72rH2ap82ap92apA",
  "2apB2apC2XoK2Xw9CapDXw92apE2k62dJcE8e01apFLBdPLbPFgEw9KWgFjCapG2apH2apI2apJ2apK2apL2apM2apN2ap",
  "O2apPCeKWaA2apQ2apR2apS2apT2apU2aq02aq12aq22aq32aq42aq52aq6bGAc32WyO2WyP2aq72aq82XwA2Wu9bG2aq9",
  "2aqA2aqB2aqC2aqD2aqE2aqFbG2Wk12XwB2XwC2aqG2aqH2XwD2XwEbG2aqI2aqJ2aqK2aqL2aqM2WyQ2aqNbG2aqO2aqP",
  "2aqQ2aqR2aqS2aqT2aqUbG2WyR2ar02ar12ar22Wk22ar32ar4bG2XwF2ar52ar62ar72ar82XwG2ar9bG2arA2arB2arC",
  "2arD2arE2arF2arGcD2cDlL1kN3jP3iK3gO3jQ3gP3WQ3gQ3iL3b33D3bA3kO3p03cQ3WN3lM3g13ZB3WoN3wB3arH3C3j",
  "93WySDWyTz83rH3cODjRCDaEeCDlNeCNjRlNeCU8aQWWTtSMcIWWTtSKAWWTWPK8WWTWPUAcIWWTWPU8cIWWTWPKf7XwHt",
  "SLcIXwHtSKcIWyUtSKAWyUWPK8WyUWPAf7WRUAf7XwIWPU8f7XwIWPAarIarJ0Wz0AXwJWz0KZ2XwJWz00arKAcIarLAXN",
  "XwKAY4XwKKcIfTaQKJkSnDAZPWaIAWbNWwGKnD0Z6UXI0XL9UAY1XwLWPU8Y1XwLWPUXI0M93HW9AW8WG0Wi8W98W8WG0W",
  "i8UbSAWLWPL8WLWPUdIAWLWPL8WLWPUArOBWPU8rOBWPKAJbOK8JbOWJEX3X4FMbMWJFMX4EX3bMUd3TMbMKW2MLKZ2e8L",
  "AW8XIAXLmEUkTdPW6MAYMa4Af7M1a4AYMnCUWW10AXwMC8XwMAYMWW1UbSWLfS5AarMbUAarNbUKarOaUZAKW8WBX3KWVO",
  "W8Z70arPAJnDAZ2a4UJarQdULUbU0AWoOKJWvCLKZPY1WVUN0WVU9AY1WVUC0MKJarRa4AcIfQAbEWW1AXwNa4AarSLKar",
  "TarULKas0WpBWWSW9bDas108XwODAXwOUXqQ54mDKXwNf5LBe8LW9AWRWP0W0W98WRWP0W0WJAWRWP0JW0WJ8WRWP0JW0U",
  "bSWLAbOC8bOUdIWLAbOC8bOAkSnDc3W4WbOWiQWbP2Wz1Cy2F3E3N2kF2f32Wz2CWbQF3E2XwP2Wz3C2F3ECXwQF3E3N3T",
  "2Wi22Wz4CXwRF3ECeFF3E2dS2Wz5bG2as22o92fE2XwS2XwT2as3Cn3F3E2pKCXwUF3EW1Wk3WLr2Xx02WbR2WWU2Xx1MW",
  "z6RWz72sICWz8F3E2Wz92WzAClDWzACWzBF3E3N3T2Xx22WzC2Wk42Xx32aOCWzDF3E2Wk52Xx4CXx5F3E3N2Wk62WzECa",
  "MF3EClDx5CWk3d42d4ClDy33g62WiRClDXx6CWk3Wk7CWk7F3E2Xx7ClDWk8CYPF3EClDYP3Xx8CXx9F3E2xM2vAMlDXxA",
  "WzF3h63pL3WzGCWk9F3E3NClDWk92i4ClDsS2WkA2WzHClDr13WkB3r3CWk3WzI3WbSClDWzJCWkCzPClDzPCWkCWkDClD",
  "WkDCWkCvBClDvB2WbTCWkCWbTClDWbTc3Das4WiQF2Z72M2k92y22U2E2XxB2hC2as52Xs92WCCWKf32WzK2v82Wz2CYJf",
  "32WbQ2WwA2as62WzLM8YJf3Cas7WzM2YQ2XwP2Wz32Wz12WzN2as82hE2WzM2m42as92mL3asA2asB2lN2vC2WzO2asC2a",
  "sD222XwQ2asE2asF2v42asG2WzP2asH2XxC2WzQCb0Wz4CcIWz1CYPasICEsT2asJ2WWD2XwR2asK2WzR2eF2asL2XxD2d",
  "S2WwG2Wz52fU2asM2WzS2WR2a82o92XoI2fE2r22asN2ZA2XwS2asOChMa82asP2XxE2XxF2XxG2n32pK2asQ2XxHCJYOM",
  "WLr2Xx02XxI2asR2WbR2WWU2asS2Xx12XxJ2WzT2XxK2asT2WzU2XxLMWz6RWz72asUCcIWx32S2at02gI2sI2XxM272XV",
  "02Wz82XxN2at12at22at32Wz92WbU2WzA2XxO2WzB2WzC2WhI2aO262at42WVK2WzD2Wk52at52XxP2at62Xx42y42at72",
  "XxQ2at82at92Xx52Wk62atA2XxRCWk7WzM2WzE2aM2x52d42y32atB2atC2WkE2XxS2g62n62atD2WiR2XxT2Xx62atE2a",
  "tF2Wk72Xx72WkF2atG2atH2Wk82YP2Xx82Xx92atIMb0XxUWkB2xM2vA2atJ2WS2WzFCXxAWzF2atK2jF2h62pL2WzG2Wk",
  "92i42atL2sS2WkA2WZ82xG2atMCatNWkF2Xy02WzH2r12WkB2r32XV12WzI2atO2WbS2atP2P2atQ2WzJ2atR2Wc02WkG2",
  "WX02zP2WkD2vB2WbT2Xy1d2RlEatSk3AO8N9OHWCAOW668WC9OW66HDaUXy2NXy2dQ95H5AFYGA68FXPA3XV2bF5gJ1a4B",
  "aUZAAatTLUxQatUXy3W1KlEr4LBWZ5LBZTY9KAaQWPK8aQWPUAJaQWPU8JaQWPKAdKWPK8dKWPUASdKWPU8SdKWPUAPsUW",
  "PU8PsUWPAWkHLAau0LUAiUg6WPU8iUg6WPUASsUWPU8SsUWPW9ASiUg6WPW98SiUg6WPUASWRWPU8SWRWPAh3bUW9Z2JnG",
  "dULUJnGdULW9Y1JnGdULKWkHLWSKXy4pSF2E2N2T2W22WB2WJ2WC2WOUlEXy5YILLmHYILLWoHYILLau1YILW9qJZDMYIL",
  "W0JMYILAq8bUUW8au2WbPLW20pRjFLNLYGWLWM0pRjFLYGWLNLXPWLKaNWkHLWJlEWkIZ7WWAdPW1KXy4pSYQ2c62h2UW8",
  "lEr4LAau3LKWxKau4LKlEWa7tBLWLm6gJcD2WX112C2CC2K2KC2B2BC2G2GC2D2D2WQ2Y02hD2gU2hO2k82hB2qL2fM2mL",
  "2XH2b62gF2qK2hA2o12h12gP2fN2nP2XJ2XM2iO2i7C2fO2fO2k72cQ2gO2O2hM2X72dD2dH2e62c42WN2YA2WT2eO2l42",
  "bQ2lT2i62mM2c12kN2bA2fB2nR2iN2X82eE2cJ2e52gSC2X92X9C2cO2cOC2dJ2dJ2X12jD2gT2iQ2f1C2ZH2ZH2h02fA2",
  "g42X02x6C2WQ3hBcN3cDWc1pRjFLMXV3jFLUWc1pRjFLLXV3jFLKWX1r4LLpRr4LBeLau5KWc1JnDUpO12C2CC2K2KC2B2",
  "BC2G2GC2D2D2WQ2Y02hD2gU2hO2k82hB2qL2fM2mL2XH2b62gF2qK2hA2o12h12gP2fN2nP2XJ2XM2iO2i7C2fO2fO2k72",
  "cQ2gO2O2hM2X72dD2dH2e62c42WN2YA2WT2eO2l42bQ2lT2i62mM2c12kN2bA2fB2nR2iN2X82eE2cJ2e52gSC2X92X9C2",
  "cO2cOC2dJ2dJ2X12jD2gT2iQ2f1C2ZH2ZH2h02fA2g42X02x6C2WQ3hB2aL2s42jP2q3BW6MUWc1Xy6jFLKpOr4LLpRr4L",
  "BeLXy7c36Xy81YR2YH2XB2ZK2Y62XS2X02WE2XO2XR2XU2Z52a72YO2au62Xy92xC2W72YF2YE2WA2C2D2G2q22Z02rR2Z",
  "92tG2dC2b32nT2nF2kO2K2B2Wc22XT2i32au72Wv9W1D0M92WZ3c32qJ1u32Wg22WrT2u42Wg92WgA2u52Wg32u62WgB2W",
  "gC2WgD2WgE2WrU2Ws02Wg72u72u82Wg42Wg82u92Wg52s02s12Wg62uA2uB2uC2uD2uE2C2dG2X92WYC2WZH2G2WrP2k62",
  "D2ZH2WrQ2c72dJ2B2WrR2fA2h02cO2rT2eB2K1s2B1Wr72Wr82WrO2XjP2XjQ2Ws12XjR2XjT2Xk02Wr92Ws22Xk22WrA2",
  "Xj02WrB2Xj12WrC2WrD2Xj32WrE2Xj52WrF2Xj62WrG2WrH2WrI2WrJ2WrK2WrL2Xk42Xk52WrM2XjE2WrN2XjI2XjJ2Xj",
  "K2XjL2XjM2XjN2XjO2au8cD2lEXyAau9LCgKLCFLCELCNLCTLCbSLCW6LCdILCsBLCy2LCmQLCWeHLCWj7LCm4LChCLKXy",
  "81i62qK2uG2k82bR2XV42b72Xo22WhS2auA2auB2XqB2t02auC2auD2auE2qB2mI2XyB2auFLI1YH3XS3XR3XUB1auG2Wu",
  "42XyCLI1XOB1auH2WtH2c72nQKWbOW0XS2auI2auJ2auK2XmR2auL2auM2WkJ2auN2auO2auP2auQ2auR2auS2auT2X02X",
  "U2WA2YH2XyD2Y62XyE2XyF2auU2av02WkK2av12av22av32av42av52av62av72av82av92a7cDDpO12hO3gF3hA3O3dH3",
  "WN3eO3lT3c13fB3cJ3X13jD3gT3iQ3f1KWj3qJu32u42u52u62u72u82u92s02s12uA2uB2uC2uD2uECu3CCu4CCu5CCu6",
  "CCu7CCu8CCu9CCs0CCs1CCuACCuBCCuCCCuDCCuECCs1BLXV5k3avADDlTbP2WkLF2E2N2T2W22WB2WJ2WC2WO2YQ2fE2p",
  "K2n32XV62XyG2m42o92XV72XyH2XyI2Wc32XyJ2XyK2XyL2XyM2avB2XV82XyN2XyO2XyP2XyQ2XyR2avC2j32XxP2XySK",
  "aNWkLe82avD2XV92Xy7WAZTYQZUPWRW1c6ZUPWRW1h2ZUPWRW1iRZUPWRW1dEZUPWRW1jEZUPWRW1d7ZUPWRW1l6ZUPWRA",
  "XtQ5UaNZTc6F3E3N3T3W23WB3WJ3WC3WO2h23F3E3N3T3W2BqJu32u42u52u62u72u82u92s02s12uA2uB2uC2uD2uECu3",
  "CCu4CCu5CCu6CCu7CCu8CCu9CCs0CCs1CCuACCuBCCuCCCuDCCuECLXV5k3avE3avFLqJs0BKXV5Xy3W1KaNWkLF2E2N2T",
  "2W22WB2WJ2WC2WO2YQ2fE2pK2n32XV62XyG2m42o92XV72XyH2XyI2Wc32XyJ2XyK2XyL2XyM2avG2v52WWI2avH2avI2X",
  "sC2avJ2avK2j32avL2avM2Z32aF2Y12A282avN2avO2XyN2XyO2XyP2XyQ2XyR2WkMLZTh2WB3WJ3WC3WO2iR3F3E3N3T3",
  "W23WB3WJ3WC3WO2dEW9lEWkIW1cEavP4avQ4avR4avS4XoH4avT4avU4aw04aw14aw24aw34aw4AWRXyF1aw51XVAKaw6a",
  "w75KaNpOC2K2B2G2D2WQ2hD2hO2hB2fM2XH2gF2hA2h12fN2XJ2iO2fO2cQ2O2X72dD2dH2e62c42WN2eO2lT2c12fB2X8",
  "2eE2cJ2e52gS2X92cO2dJ2X12jD2gT2iQ2f12ZH2h02fA2g4UWRXyTWc3aw81aw91awA1awB1awC1awD1awE1awF1awG1a",
  "wH1awI1awJ1awK1awL1awM1awN1awO1awP1awQ1awR1awS1awT1awU1ax01ax11ax21ax31ax41ax51ax61ax71ax81ax9",
  "1axA1axB1axC1axD1axE1axF1axG1axH1axI1axJ1axK1axL1axM1axN1axO1axP1axQ1axR1axS1axT1axU1ay01ay11X",
  "r91ay21ay31ay41ay51ay61ay71ay81XVB1ay91ayA1ayB1ayC1ayD1ayE1ayF1ayG1ayH1ayI1ayJ1XVC1ayK1ayL1ayM",
  "1ayN1ayO1ayP1ayQ1ayR1ayS1ayT1ayU1az0WJlEWkIW1cEXyUY95F5E5N5T5W25WB5WJ5WC5WO5YQ5o55m25v05v15pI5",
  "qC5v25sK5v35c65Xz05XVD5Xz15Xz2AWRaz11XM1Z91WG1XqC1az21az32d32Wc41Wc2LXyTWc3az43az53az63az71az8",
  "BWTaz91X7BcJC1X81WQ1azA1XVE1azB1azC1azD1azE1azFBcJZK2XO1azG1Xz31XyE1azH1azI1azJ1azKBcJWE1azL1a",
  "zM1azN1azO1azPBcJXB1WkN1XVF1WkOBWkNd3BXVFd3BXBd3BWkOd3BWkNWc4BXVFWc4BXBWc4BWkOWc4LXBX4WA4d31WT",
  "1Wc51XpA1azQ1Xo5CX4WA4d31azR1azSBcJWA1azT1azU1Wt2BcJXT1WZR1bV0BWZRXVC1bV11bV2BcJYS1XVG1WtHBXVG",
  "XVCBXRWiABXBWiA1qB1bV31Xz41Xz5LYEX4Xz31nK1XcO1bV41WN1WkJ1aI1WhHBWkO41bV51bV61bV71bV81bV9BXVE21",
  "bVA1bVB1bVC1Xz61bVD1bVE1bVF1Wt51bVGLXTX4XBLCX4XBWJlEWkIW1cEXgJF5E5N5T5W25WB5WJ5WC5WO5YQ5o55m25",
  "v05v15pI5qC5v25sK5v35c65Xz05XVD5Xz15Xz25WkP5bVH5bVI5bVJ5bVK5h25bVLAWRy5cNbvLbVMcEcLbVNWj7DbVOm",
  "4W1bVPfRcLbVQCbVRbVS2XVH2bVTCcLbVUCWX2WkQC2Xz72bW02WwM2bW12bW2CWV2Xz82bW32bW42Xz9W1WzPZUcLbW52",
  "bW62bW7CXzAm72XzBCbW8bW92Wb32bWACWV2Xz7ChEWWECWV2XzCMcLbWBn3DbWCpK2bWD2bWE2bWFCWV2WwA2bWGW1XzD",
  "RcLXGCcLXzE2WwJ2bWH2bWI2XzF2XVI2bWJMbWKOXzGCXVJWkQCbWLXrD2bWMCcLbWN2bWOCcLXy0DbWPWwNNXzHbWQv42",
  "bWRMcLbWSbWT2bWUCcLbX0DbX1pLDbX2Xt62bX32bX4CXzIbX5C2XzCCbX6XVKCbX7XVKc3qv6eBjCWpN2XzJ2K2bX82bX",
  "92bXA2j92bXB2fR2XzK2C2Xg62bXC2XzL2bXD2We62WkR2D2XVL2WkS2G2p82XfT2bXE2l42bXF2bXG2bXH2bXI2bXJ2XV",
  "M2bXK2YA2bXL2bXM2bXN2bXO2bXP2f32nR2bXQ2bXR2kN2bXS2qR2bXT2i62bXU2bY02r52bY12bY22nE2bY32bY42bY52",
  "XzM2bY62bQ2XzN2bY72XzO2bY82bY92bYA2WT2kG2bYB2bYC2bYD2WkT2bYE2iN2WvE2XVN2bYF2mM2XzP2bYG2bYH2XzQ",
  "2bYI2bYJ2bYK2bYL2bYM2bYN2bYO2XzR2bYP2bYQ2bYR2bYS2bYT2bYU2bZ02wN2bZ12bZ22bZ32bZ42bZ52bZ62XzS2bZ",
  "72bZ82WZ92bZ92XzT2bZA2XzU2bZB2bZC2bZD2bZE2bZF2bZG2bZH2bZI2bZJ2bZK2bZL2bZM2YV02bZN2bZO2bZP2bZQ2",
  "bZR2bZS2bZT2bZU2ba02ba12ba22ba32ba42ba52ba62ba72ba82ba92baA2baB2baC2baD2baE2baF2baG2baH2baI2ba",
  "J2baK2baL2baM2baN2baO2baP2baQ2baR2baS2YV12baT2baU2bb02bb12bb22bb32bb42bb52bb62bb72bb82bb92XVO2",
  "bbA2eE2bbB2bbC2bbD2bbE2bbF2bbG2X82WbD2bbH2bbI2bbJ2bbK2bbL2bbM2gS2YV22bbN2e52bbO2bbP2cJ2bbQ2bbR",
  "2bbS2bbT2bbU2YV32bc02bc12bc22p32bc32bc42XVP2c22bc52YV42nS2bc62bc72bc82s62bc92bcA2XxE2bcB2bcC2b",
  "cD2bcE2bcF2bcG2s42bcH2YV52bcI2bcJ2bcK2bcL2bcM2aL2bcN2bcO2bcP2q32bcQ2bcR2YV62bcS2bcT2x62bcU2bd0",
  "2YV72bd12bd22XVQ2bd32bd42bd52bd62bd72i72bd82bd92WwS2bdA2YV82bdB2XM2WuR2bdC2bdD2M2bdE2hM2bdF2bd",
  "G2gO2bdH2bdI2bdJ2k72bdK2bdL2bdM2XfU2bdN2iO2m32bdO2WW22bdP2YV92bdQ2XJ2bdR2YVA2bdS2bdT2bdU2YVB2b",
  "e02O2bS2be12cQ2be22be32be42fO2YVC2be52Wc62be62be72XkL2be82be92beA2beB2beC2beD2b52beE2beF2beG2b",
  "eH2beI2beJ2WsM2beK2beL2XkN2beM2beN2beO2XkK2beP2beQ2YVD2beR2beS2XVR2beT2beU2bf02bf12bf22WVQ2XVS",
  "2bf32bf42XVT2bf52bf62WkU2bf72bf82bf92Wl02bfA2bfB2bfC2bfD2bfE2bfF2bfG2bfH2bfI2bfJ2bfK2bfL2bfM2W",
  "t02bfN2bfO2bfP2bfQ2bfR2bfS2bfT2bfU2bg02bg12bg22bg32dD2bg42bg52bg62bg72bg82X72bg92bgA2bgB2bgC2a",
  "82bgD2c42bgE2bgF2e62bgG2YVE2bgH2dH2bgI2bgJ2bgK2bgL2bgM2XVU2bgN2bgO2bgP2bgQ2bgR2bgS2Xq62bgT2bgU",
  "2bh02bh12bh22bh32bh42bh52bh62bh72bh82bh92bhA2bhB2bhC2bhD2bhE2bhF2bhG2bhH2bhI2bhJ2bhK2bhL2iP2XW",
  "02bhM2bhN2YVF2bhO2bhP2bhQ2X62XW12bhR2bhS2bhT2bhU2bi02bi12hN2bi22bi32l32bi42bi52bi62g32bi72bi82",
  "bi92biA2biB2WuA2biC2biD2YVG2biE2biF2gU2biG2biH2biI2biJ2biK2biL2biM2Y02Wc72biN2biO2biP2biQ2YVH2",
  "biR2mL2biS2biT2biU2qL2YVI2bj02bj12k82bj22bj32Wl12YVJ2bj42hD2Xr82bj52bj62bj72bj82bj92WQ2YVK2bjA",
  "2bjB2XW22bjC2bjD2fM2bjE2y62bjF2hB2bjG2Wl22bjH2hO2bjI2bjJ2jK2bjK2bjL2Xl02bjM2bjN2bjO2bjP2bjQ2zL",
  "2bjR2bjS2bjT2YVL2bjU2bk02bk12Xl12YVM2bk22bk32WsN2bk42bk52bk62XkU2bk72bk82bk92bkA2bkB2bkC2bkD2b",
  "kE2bkF2bkG2bkH2bkI2bkJ2bkK2lR2bkL2bkM2bkN2bkO2bkP2bkQ2bkR2bkS2bkT2bkU2YVN2bl02bl12bl22bl32bl42",
  "bl52bl62bl72bl82bl92blA2blB2blC2YVO2blD2blE2blF2blG2YVP2blH2blI2blJ2blK2blL2blM2blN2blO2Z82blP",
  "2blQ2blR2blS2blT2blU2wU2YVQ2bm02YVR2bm12YVS2bm22WZG2y02bm32WN2bm42bm52bm62bm72bm82Wb92bm92fB2Y",
  "VT2bmA2c12bmB2bmC2YVU2ZH2YW02bmD2YW12bmE2bmF2g42bmG2bmH2fA2bmI2bmJ2bmK2qK2bmL2bmM2bmN2bmO2bmP2",
  "bmQ2b62bmR2bmS2bmT2bmU2YW22bn02nP2bn12bn22gP2bn32bn42bn52o12YW32bn62YW42bn72bn82XyC2bn92bnA2bn",
  "B2bnC2bnD2WgN2YW52bnE2bnF2bnG2bnH2oF2bnI2ZI2WiH2bnJ2bnK2YW62bnL2bnM2nK2bnN2bnO2s52bnP2XW32bnQ2",
  "WsA2WaT2bnR2bnS2YW72bnT2YW82YW92bnU2bo02bo12bo22XwC2bo32YWA2bo42bo52bo62bo72bo82Wk12bo92boA2Xw",
  "E2boB2boC2XwD2boD2boE2XwB2boF2boG2boH2boI2boJ2boK2boL2boM2boN2boO2boP2boQ2boR2boS2boT2boU2bp02",
  "bp12XW42bp22bp32bp42bp52bp62bp72bp82bp92bpA2YWB2bpB2bpC2bpD2bpE2bpF2bpG2bpH2bpI2bpJ2WB2gF2bpK2",
  "bpL2bpM2bpN2WuU2bpO2XH2YWC2bpP2bpQ2bpR2XW52bpS2fN2bpT2bpU2h12bq02bq12bq22hA2bq32bq42Wl32bq52bq",
  "62bq72bq82bq92bqA2bqB2bqC2WyP2bqD2bqE2bqF2bqG2bqH2bqI2c32bqJ2bqK2bqL2Wu92bqM2bqN2XwA2bqO2bqP2b",
  "qQ2WyO2bqR2bqS2bqT2bqU2br02br12br22br32br42gR2br52br62br72br82br92brA2WsL2brB2brC2brD2jQ2brE2b"]

/-- The names of characters below U+10000, part 4. -/
def basicD : List String := [
  "rF2brG2WsJ2brH2brI2brJ2brK2brL2brM2brN2brO2brP2YWD2brQ2ZM2brR2brS2brT2brU2bs02bs12bs22rP2bs32b",
  "s42bs52g12bs62bs72Wh02bs82bs92bsA2bsB2bsC2bsD2bsE2bsF2bsG2bsH2hL2bsI2bsJ2bsK2bsL2YWE2bsM2bsN2b",
  "sO2YWF2bsP2bsQ2bsR2bsS2bsT2bsU2bt02bt12bt22bt32bt42bt52bt62bt72bt82WuS2bt92btA2btB2btC2btD2btE",
  "2btF2btG2btH2btI2btJ2btK2btL2btM2btN2btO2btP2btQ2btR2btS2YWG2btT2ZB2btU2bu02bu12bu22bu32bu42oU",
  "2YWH2YWI2bu52d62bu62bu72bu82lU2bu92buA2YWJ2buB2buC2XW62buD2buE2buF2WkG2buG2X12Wz52buH2buI2buJ2",
  "buK2buL2f12buM2buN2iQ2buO2buP2buQ2gT2buR2buS2buT2buU2bv02Xo82bv12bv22bv32bv42bv52uG2bv62bv72bv",
  "82bv92bvA2bvB2bvC2bvD2bvE2uS2bvF2p92bvG2bvH2bvI2x82bvJ2bvK2bvL2bvM2bvN2bvO2bvP2bvQ2bvR2bvS2bvT",
  "2WZL2bvU2bw02bw12bw22bw32bw42bw52Wt32bw62YWK2bw72WgM2bw82bw92bwA2WZK2bwB2bwC2bwD2bwE2bwF2bwG2b",
  "wH2bwI2bwJ2bwK2bwL2XnQ2bwM2bwN2bwO2YWL2bwP2bwQ2bwR2bwS2bwT2bwU2XnP2bx02YWM2bx12XnO2bx22bx32bx4",
  "2bx52bx62YWN2bx72bx82bx92Wc82bxA2bxB2bxC2bxD2bxE2bxF2bxG2bxH2bxI2YWO2bxJ2bxK2XW72bxL2bxM2bxN2b",
  "xO2bxP2bxQ2bxR2bxS2bxT2YWP2bxU2lS2YWQ2by02by12by22by32by42by52by62by72by82rQ2YWR2by92byA2WsE2b",
  "yB2byC2byD2kM2byE2byF2byG2byH2byI2byJ2byK2byL2byM2XkF2byN2byO2byP2byQ2byR2byS2byT2XW82byU2eB2b",
  "z02bz12bz22YWS2bz32bz42bz52bz62YWT2WYB2bz72dJ2bz82WeR2bz92cO2bzA2bzB2bzC2bzD2bzE2WqM2bzF2bzG2b",
  "zHbP4WiQYWK2iP2YVJ2YWQ2YW92WyP2YVM2YVI2eE2YVN2YVG2XzT2YV22dJ2XVN2YVO2YV92Y02YW32YW72YVD2r52YVL",
  "2YWR2fO2XVL2YWM2YW22XzQ2YV12XW82YV72XW62YV62b62p92YWB2YWN2YVH2YWL2g42k72YWJ2YVF2YW82YW62YW52YV",
  "P2YWG2YW42YWH2g12YWA2YV02hBc3AYWU1YA2WT2aJ2XM2XJ2a52Y02WQ2ZS2ZG2ZI2ZM2mJ2e42l22X82X72X62XH2gR2",
  "b62Z82WN2l52s32c22ZH2ZB2X92b42C2dG2G2rT2K2D2B2gD2XW92c7MYIWsRiODX7iNDWsRXoF4nR4X74bzIBbMa4CaUZ",
  "AKbzJjCbR2bzK2WgG2WgT2bzL2s72bzM2WVA2Wl42YX02bzN2YX12xB2uF2WVB2WZQ2bzO2bzP2WgH2WZJ2WVE2XWA2x52",
  "WgK2WZN2WgU2XkE2WVF2Wc92WVD2WsG2YX22WZP2Ws52WsD2XkH2K2aI2eO2YX32h02bzQ2bQ2bzR2l42XWB2YX42bzS2Y",
  "X52p32s42iO2x92bzT2bzU2iP2jD2i72XVR2gF2WV92qK2WsK2WgN2uG2Wc82eB2hD2YX62gU2eE2dD2lS2C2dC2cV02WN",
  "2YX72ZH2cV12WT2bK2YA2WaD2Wc52cV22YX82WpJ2c22aL2XJ2a52b82cV32X62X12XM2WVQ2XH2ZB2b62gR2ZI2ZG2YX9",
  "2X92WQ2zU2WcA2Y02X82X72ZO2b72cV42Wa52WZS2cV52WZU2cV62YXA2XWC2YXB2cV72YXC2WtT2YXD2WVG2Wu12cV82c",
  "V92WVH2Xn82YXE2YXF2Wa42WtR2YXG2cVA2WtI2YXH2YXI2WhB2Wa22XWD2cVB2WtL2WtN2cVC2B2u22lT2YXJ2p82cVD2",
  "mM2cVE2i62XWE2YXK2cVF2XWF2s62x62fO2WsO2cVG2cVH2g32gT2k72Wl02hA2lU2o12WsJ2WsA2x82XW72cO2hO2XWG2",
  "k82cJ2dH2WsE2D2ZU2YXL2fB2XVB2g42WvI2iN2YXM2nR2XWH2Wl52cVI2YXN2cVJ2nS2q32O2k42YXO2cVK2hN2f12hM2",
  "XVT2fN2oU2nP2WsL2nK2p92YWO2dJ2fM2XWI2mL2gS2c42rQ2G2b32YXP2c12YXQ2fA2cVL2bA2Wl62kN2Wl72YXR2cVM2",
  "cVN2Wl82cVO2nO2jP2cQ2cL2WcB2cVP2l32iQ2gO2WkU2h12d62gP2jQ2s52nI2tO2k62hB2XWJ2XWK2qL2cVQ2e52e62W",
  "sF2i32Wl91a4BaUZABe8LLjCYXSc23WQ3Wa4BW1cVR2cVS2cVT2XmE2cVU2Wh42x72Wv22cW02cW12cW22cW32cW4BXKY9",
  "2F2E2N2T2W22WB2WJ2WC2WOLjCYXSX83hMcDLlL41YXTL21YXTL41WjPL21WjPW041Z2tNW021Z2tNL41dML21dML41WyS",
  "L21WySW041WyTz8W021WyTz8W041YXUcGW021YXUcGW041h7WcCW021h7WcCWK41p10oGWcCWK21p10oGWcCW041jRrHW0",
  "21jRrHW041Z2cOW021Z2cOW041jRCW021jRCWA41d0aEeCWA21d0aEeCW041YY0eCW021YY0eCWK41jRd0aEeCWK21jRd0",
  "aEeCL41WV7L21WV7W041Z2lMW021Z2lMW041lHgOW021lHgOW041lHgQW021lHgQW041lHiLW021lHiLW041WlADW021Wl",
  "ADW041YY1DW021YY1DWA41JWlADWA21JWlADL1cW5DKcDlLcW6MYQwC5MWMwC5MX5wC5AcW7bCW9cDlL1WoMj93K3eB3BD",
  "q053p1DlH53cG2WVU2YY2AlLWVU1YY2L41XWLL21XWLL41YY3L21YY3L41YY4L21YY4L41WyQL21WyQL41YY5L21YY5WK4",
  "1cQ0W6UWK21cQ0W6UL41Wa0L21Wa0L41YY6L21YY6L41YY7L21YY7L41YY8L21YY8L41Wu5L21Wu5L41WVIL21WVIW041J",
  "DW021JDW041n4DW021n4DW9e01lLq05DlH5UcDlL1pUDjRGKYY91C2WQ2B2hO2bR2WZJ2XWM2D2lS2K2X62WT2WhC2YYA2",
  "YYB2XWN2x72WlB2XWO2XB2WlC2cJ2WhA2gF2YYC2XWP2Wk22y62YYD2dH2YYE2XWQ2lU2XWR2X92XWS2YYF2XWT2Wc92XW",
  "U2YYG2XX02s72xB2gT2g32eE2dD2XX12WV52WYE2YYH2WcA2Z82oU2XX22s62XX32ZH2X72iP2bQ2WlD2fM2YYI2WlE2rJ",
  "2X82iO2hD2gS2WX32wD2Wc52YQ2YYJ2YYK2cW82cW92cWALcDLcWB3cWC1YYLBaUZA1dF1a41nCBe8Ld29e01YYMYIrGWv",
  "4EnHWv4ErGYYNEnHYYNErGWZKEnHWZKErGgTEnHgTW1We0cIYIWGW1Z3cIYIWGW1w8cIYIWGW1Y1cIYIWGW1We1cIYIWGW",
  "BWe0cIr6YIWGWBZ3cIr6YIWGWBw8cIr6YIWGWBY1cIr6YIWGWBWe1cIr6YIWGW1We0r6YIWGW1Z3r6YIWGW1w8r6YIWGW1",
  "Y1r6YIWGW1We1r6YIWGMMW8WG3k9DXFWGW1XP8dKaQMf7W97DWK7Df5LNZPf5LW1Y1ZPf5LW1WpS6Z3YIEY1YIW9aP41Wl",
  "FXAW021WlFXAW041WlFdBW021WlFdBL41WYAL21WYAL41YYOL21YYOL41YYPL21YYPL41WlGL21WlGWA41WlG0a4WA21Wl",
  "G0a4W0124ZK4WAL41YCL21YCL41Wi4L21Wi4L41Z9L21Z9L41WVTL21WVTWK41WVT0XFWGWK21WVT0XFWGL41nUL21nUWK",
  "41Z2YE0MWK21Z2YE0MWA41XR0W0WA21XR0W0WK41XR0bGW0WK21XR0bGW0X941XR0W06bGW0X921XR0W06bGW0W041yQWE",
  "W021yQWEWK41WE0Z3W0WK21WE0Z3W0WU41D0YPW0g9WU21D0YPW0g9WA41D0iFWA21D0iFL41b7L21b7WU41YH0W0m7c8W",
  "U21YH0W0m7c8WA41YH0WcDWA21YH0WcDWK41YH0YYQaHWK21YH0YYQaHWU41a70W0m7c8WU21a70W0m7c8WK41a70bGW0W",
  "K21a70bGW0W041W7WaFW021W7WaFW041WlHWaFW021WlHWaFWK41XT0bGW0WK21XT0bGW0L41XVQL21XVQW041YYRYFW02",
  "1YYRYFWA41tD0W0WA21tD0W0WU41tD0W0m7c8WU21tD0W0m7c8L41YYSL21YYSL41mDL21mDL41WVJL21WVJL41YYTL21Y",
  "YTKe01WVSUaP21cWD3t13cWE3cWF3WlHW0124WlHL21WlI3WcEW041iSY6W021iSY6W041iSZKW021iSZKW041iSXONYMi",
  "SXOWA21YMiSXOW041YMWEW021YMWEW041iSW7W021iSW7W041iSWAW021iSWAW041iSXSW021iSXSW9e01Y1YTcC2dFMb0",
  "cU5UaP41YYUL21YYUW041YMXUX921WE0bPU6oTL1cWGMWA41X00c8WA21X00c8WA41YE0WGWA21YE0WGFeAUW2XU0eAUWA",
  "41YR0WcDWA21YR0WcDWA41ZK0W0WA21ZK0W0W041WX4dGW021WX4dGW041WX4c7W021WX4c7W041WX4gDW021WX4gDWK41",
  "XO0kSW0WK21XO0kSW0WK41XR0kSW0WK21XR0kSW0WK41X00kSW0WK21X00kSW0WK41W70kSW0WK21W70kSW0WK41WA0kSW",
  "0WK21WA0kSW0WA41XU0UNZ2YJGDfUXONWE0oTN24KW0124a7W041YMXR4XSNZ50rF3g03hTL21hTL41cGL21cGWA41B0W0",
  "WA21B0W0W041eKCW021eKCW041eKKW021eKKW041eKBW021eKBWA41aOXX4DWA21aOXX4DW041YZ0YSW021YZ0YSWK41YE",
  "0eAUNWA0UW2YF0eAUWCY60b0W0g9WU21Y60b0W0g9WU41WA0b0W0g9WU21WA0b0W0g9cO641d0iSXOWA21d0iSXObR2JtD",
  "bI2WdSWA41W6YZ1WAWA21W6YZ1WAW041YZ2WAW021YZ2WAcDPe014YE3ZK3a7WJaP41Z2WLXUWA21Z2WLXUW0YZ31rOKWJ",
  "e014XU0W0M2d9c7WJaP124YMXBW0YZ31Z2ZK4YHDZPXBDKXX5DhSXBUcWHcWI1C3KC5cWJC1B3G3DC5YZ4C1fM3wT3mL3X",
  "nNC5b2C1nK3rP3p93cWK3WtG3WhD3WsM3YZ53O3k43hM3YXO3c43iN3p53nR3YXM3gS3f13hN3YWE3fN3fBMXE5C4K4B4G",
  "4b7CcWLWaB3WaC3YZ63cWMM5gHYZ4cN4b9YZ7hQFd84WLDNkKDFzO4f0DNWf4Cd8LCXX6LCwOLCcWNLc37cWO1WQ2ZS2Y0",
  "2Z82ZI2ZM2ZG2ZO2XJ2a52XM2X72WT2aJ2YA2X82e42l22mJ2ZH2gR2b6C2C2X92X12X62ZB2XH2WN2C2K2B2G2D2hI2l5",
  "2c22zL2bRLWV11ZH3X9B1b12bT2b52bICgHX9CcWPZBCpRWNCcWQc2LWV11X1LcWR1X1B1dNLZDi4LLJi4LBLk5CJk5c39",
  "cWS5b22cSB1C2YC2K2YU2B2ZCCaCW73cA3WE3d22G2bR2Z02D2b72Z92WQ2ZS2Y02b42Z82ZI2ZM2ZG2cT2ZO2b12bT2b5",
  "2c92bI2XJ2a52XM2b82X72WT2aJ2YA2bK2X82X92X12X62aL2ZB2c32XH2WN2eNLgE5cWTLXE5YC3K3YU3B3ZCDaCW74cA",
  "4WE4d23G3bR3Z03D3b73Z9B5c52dNbF9e3BJe3BXKY92F2E2N2T2W22WB2WJ2WC2WOcD7cDWpPXKY93F3E3N3T3W23WB3W",
  "J3WC3WOC1C3B3WQ3X73WT3X13s4C5k2UWpP5Wq0dNCdNc5MJdNc5CdNE3N3k22cWUBWc7s21qG1XX7B5wQBcX0mIB1nULX",
  "E5nUUXiLiPXKY93F3E3N3T3W23WB3WJ3WC3WOC1WQ3ZS3Y03Z83XH3ZB3b63ZO3XJ3YZ83X73WT3aJ3X83XM3YA3X13X93",
  "X63ZH3a53WN3aL3ZI3C3c73K3b7CXEgD3G3B3bR3DCYIYZ93cX14YZ9C5WtJ3cX2KcX31WQ2Y02Z82XJ2XM2X72WT2YA2X",
  "82ZI2ZG2ZO2XH2X12X62X92ZH2WN2WaD2WcA2WVQ2cX42CLXE5K3B3G3Z03D3Z93rT3XX8LgE5i33X03W73XU1c5bPCfSL",
  "KqJXiPcX52YZA2YZB2YZC2WgB2YZD2Ws12cX62WgC2WgD2cX72XjS2WgE2cX82XjU2Xk12cX92Ws22cXA2cXB2Xk32cXC2",
  "cXD2cXE2cXF2cXG2cXH2cXI2cXJc34cXK5cXL2YZE2cXM2cXNB1CCKcXO2K2YU2BCWTcXPCZ8cXQ4cXR2G2Z02D2WQ3uK3",
  "pB2Y03pB2Z82ZI3pB2ZGCZOpBCZGuJ2ZO2b13uJ2b53uJCX7pB2XJ3pB2XM3uJ2X72WT3pB2YA3pB2X82X92X13cXS2X62",
  "ZHCXHpB3uJ2XH2WNL5YZEcXTLXE5cXU3cY03cY14cY23XpH4cY33XpIDcY4cY53XpJLgE5cY63cY73XqF1cY8BAYZFB8YZ",
  "FBXX9cY92cYA2cYB2XpN2cYC2cYD2cYE2WhP3WhP2YZGLYMXX9YZGbF2cYFBXKY92F2E2N2T2W22WB2WJ2WC2WOc45XX9c",
  "YGcYH2cYIUWfD1p4b43ZM3cT3bI3bKL5p4XXAW0e01p4YZHW01s9WlJZO4c24Y04b44ZG4cT4b54c94bIW0s9WlJXKY94F",
  "4E4N4T4W24WB4WJ4WC4WOW01s9WlJeN4XM4b84YA4bKc32cYJ1C2K2B2G2Z02D2WQ2ZS2Y02b42cYK2Z82ZM2cYL2ZG2cT",
  "2cYM2WX52cYN2XJ2a52XM2b82cYO2X72b52WT2cYP2aJ2YA2bK2cYQ2X82wN2X92X12X62aL2c32XH2WNLXE5YC3K3YU3r",
  "R3B3c73D3Z03Z93gDLgE5X93X13X63ZHc4A1IXR3XO3i3W0gE5Ii3L1IXy93XS3X03YH3Y73W73WE3WlKW0gE5IXB4XUbP",
  "3XKY92F2E2N2T2W22WB2WJ2WC2WObP3bMWlL2e3CJe3CbEe3UWfD1WV4Y03ZI3ZM3ZG3cT3ZO3b13bT3b53c93b83X73XH",
  "3WN3s33c2W0e01WV4YZHL1WV4l53b63X1LWcFWV4Xp23cYR3cYSLW1Wr6f53F3EL1Wr6X1W05cYTrSYIMs9WlJqH4qIW01",
  "WVIWr5ZM4ZBW9s9YV51Y1fMDZ3fMDY1wTDZ3wTDY1YZIDZ3YZIDY1mLDZ3mLDY1wUDZ3wUDY1nKDZ3nKDY1rPDZ3rPDY1f",
  "NDZ3fNDY1rQDZ3rQDY1hMDZ3hMDY1ODZ3ODY1k4DZ3k4DY1c4DZ3c4DY1nRDZ3nRDY1iNDZ3iNDY1p5DZ3p5DY1nSDZ3nS",
  "DY1gSDZ3gSDY1dJDZ3dJDY1f1DZ3f1DY1hNDZ3hNDY1q3DZ3q3DY1fBDZ3fBDY1DDZ3DCmKWhMCXEYC3K3gD3B3G3DCmKc",
  "YUCXEWlM3cZ03WVL3XoS3nU3dC3qBMYImKzN4YZJ4k44cZ1bQPW1XhK3YZJ3Wv0DfBcZ2DXXBXXBUYZKYZL1G3D3ZM3ZO3",
  "b13bT3b53c93bI3ZB3c3MXE5YU4ZC4XlP4Z94cZ32cZ4CcZ5cZ62Wq1MjCXXCLMkTXXCLMXE5cS2c5c3BWgFjCcZ72XnC2",
  "WuP2cZ82XnB2WhDbG3cZ92cZA2YZM2cZB2cZC2YZ5bG3XnS2Xo02cZD2XnU2tN2XnTbGAcZE2cZF2cZG2cZH2cZI2cZJ2c",
  "ZKbG2wN2XzU2XzR2cZL2cZM2WZ92XzScN2aP21pQdADCcZNDYZNGDpQGNG0WcDDXw1ZKW2fUXO0rFWCWE0ZPWvRWAPJW6X",
  "IFW6XLNXB0rFNX00rFNnF0rFDYZNDF0W0W2YJD0W0DZPc7W2YMc70W0GXFW0EDcZOG0W0DcZPW7WU124W708j7WA21W7Wb",
  "BYZODJW7NW70rFW2JW70rFDfUW7F0XLDXg8iEWCB0b08j7WDWG0b08j73WlNDYMWlNW2B0AU3g0W30Y18XLGAYZPWCYO0Y",
  "18XLPYPAj7W76Y18XLI0YZPWCY70b08j7W9e0aD0ZPaDL12WYAWCWE0ZPWvRWAFW6XIW2B0AUW9aP21cZQrHDjRGDYJc73",
  "XzLDZPdAW9fI124cGX8aP21tFeL0bPUWCWoFeL0bPUWCYMW70W6XIW9e012YMYSCAd5C8d5cD5XlD21C3G3K3D3B3XT3Y0",
  "3WQ3qL3gU3mL3k83XlE3WN3c13eO3fB3lT3WdR3X63l33iP3hN3g33XlF3X83e53eE3gS3cJ3X73Wt03Wt13e63dD3c43d",
  "H3Wt23XlG3XlH3XlI3Wt33Wt43XlJ3XH3WA3h13gF3fN3hA3Wt53XM3XJ3gO3cQ3i73iO3hM3k73XlK3Wh93Wt63Wt73Wt",
  "83Wt93WtA3XlL3e43lM3xA3Wh33Wh23XlM3ZH3fA3h03g43p83XlN3X9UYZKYZL1YZQ3Wv03WhL3XVO3WT3X73cZR3XXD3",
  "cZS3YZR3cZT3cZU3nH3ca03u23K3ca13ca23ca33ca43ca53YA3WZF3ca63ca73ca83ca9DYZQvDDWhLvDDXVOvDDWTvDD",
  "X7vDDXXDvDDYZRvDDKvDMXE5caA4caB4caC4caD4caE4caF4caG4XXE2caHCt1YZSCcaIYZSbQ3XKY93F3E3N3T3W23WB3",
  "WJ3WC3WOc3gp0qJXjGcaJ2caK2caL2caM2caN2caO2caP2caQ2caR2caS2caT2caU2cb02cb12cb22cb32cb42cb52cb62",
  "cb72cb82cb92cbAbP5WrScbB2cbC2Wg32cbD2YZA2YZB2cbE2YZC2cbF2cbG2YZD2cbH2cbI2cbJ2cbK2cbL2cbM2cbN2X",
  "iU2cbO2cbP2cbQ2cbR2cbS2WrB2cbT2cbU2Wg42WrC2WrD2Xj22Xj82cc02cc12cc22cc32WrI2Xj92XjA2XjB2cc42cc5",
  "2cc62cc72cc82cc92Wg62ccA2ccBcDef6aP2d9YZT3p33ccC3ccD3ccENYPWAXS3WkKcNDWYD2d9rJWe84z94WoSDWoUWe",
  "8DrJWoTcN6Xe41q40XeALmEccFccGWAd9XeEq4q4WeBL1Ww5nLCWaEXA3WeF3c13e23WeGDIhU3mF3Wp8MWw5WH5W1e10e",
  "1MEWeEMW3gB6e1MGWeEMMXA0WeB4WeC4Wp5MzC0gBMjT0gBMWeF0gBMc10Wp5MzB0gBMlO0gBc52wD0gBMq40gBW1Ie20g",
  "BMe20gBMWeG0gBc52hU0gBc52bB0gBMjU0gBcF2IbA0gBMbA0gBc52Wp60gBMWp70gBMmF0gBMe10gBMWp80gBMzB0XeBM",
  "zC0WeDMe20WeDMbA0WeDLd9XAWeGWJi01XAWpEQ3EI3MXePQ3DI3DW33DYB3MzAQ3DI3DW33DYB3MXeRQ3DI3DW33DYB3M",
  "XeOQ3DI3DW33DYB3MXeQQ3DI3DW33DYB3MWpFQ3DI3DW33DYB3MXf6Q3DI3DW33DYB3MXf7Q3DI3DW33DYB3MXeTQ3DI3D",
  "W33DYB3MXeSQ3DI3DW33DYB3MWeKQ3DI3DW33DYB3MXeUQ3DI3DW33DYB3MXf2Q3DI3MXf1Q3DI3MXf3Q3DI3MXf0Q3DI3",
  "MXf5Q3DI3MXf4Q3DI3MzDQ3DI3DW33DYB3MzGQ3DI3DW33DYB3MXf9Q3DI3DW33DYB3MXf8Q3DI3DW33DYB3W1cFWeJQ3E",
  "I3MXfAQ3DI3DW33DYB3WLeD0X29Q3GI3NWeLQ3EI3EW33EYB3NXfBQ3EI3EW33EYB3W1X2WeMQ3EI3WD0cR9Q3HI3LW1M9",
  "3HMEX394HMNX394HOZRXN96HMTX394HW1JW8WGHW1EX3wK95H2XLM2eM94HCWpE9cEH1i3Q3DI3DW33DYB3MBQ3DI3Mc7Q",
  "3DI3McOQ3DI3WLB0cR9Q3MjPQ3DI3W1WYKc7Q3EI3NcOQ3EI3MGQ3DI3DW33DYB3X0YZUccHWYKXAZNW33HYB3XJd9X20c",
  "R90XAQ3II3RdGQ3II3RcKQ3II3RBQ3II3Rc7Q3II3RcOQ3II3RGQ3II3IW33Y9YZUWYKX20cR90XAZNQ3W8XAZNI3W8XAZ",
  "NW33WA1wFX2Q3EI3EW33EYB3XJd9X20cR90YNQ3RY8Q3RWFQ3W6XAZNQ3RX2Q3WBhJ0YNQ3OY8Q3OaKQ3OWFQ3W3XAZNQ3",
  "OX2Q3WBhK0YNQ3OY8Q3OaKQ3OWFQ3W3XAZNQ3OX2Q3WBnN0YNQ3OWFQ3W3XAZNQ3OX2Q3WBYN0Y8Q3OWFQ3WBY80YNQ3OW",
  "FQ3WBaK0YNQ3OY8Q3OWFQ3WBeU0YNQ3OY8Q3OaKQ3OWFQ3WBgC0Y8Q3OWFQ3WBi20YNQ3OY8Q3OaKQ3OWFQ3WBeM0Y8Q3O",
  "WFQ3WBp20WFQ3WBdB0YNQ3OWFQ3WBjA0YNQ3OWFQ3WBgA0YNQ3OY8Q3OaKQ3OWFQ3W3XAZNQ3OX2Q3WBfC0Y8Q3OWFQ3W3",
  "XAZNQ3OX2Q3WBe20XAQ3OYNQ3OY8Q3OaKQ3OcPQ3OWFQ3W3XAZNQ3OX2Q3WBcP0YNQ3OY8Q3OaKQ3OWFQ3W3XAZNQ3OX2Q",
  "3WBWF0YNQ3OY8Q3OaKQ3OWFQ3W3XAZNQ3OX2Q3WBcF0YNQ3OY8Q3OaKQ3OWFQ3W3XAZNQ3OX2Q3WBeD0YNQ3OWFQ3W3XAZ",
  "NQ3OX2Q3WBX20YNQ3OY8Q3OaKQ3OWFQ3W3XAZNQ3OX2Q3WLwE0mBXAQ3WLdO0mBXAQ3X0XAZN0mBXAQ3WBzF0WYIQ3OWYJ",
  "Q3OnMQ3Oq6Q3OmGQ3W3mBXAQ3XAX20cR90dOI3RkPI3RWFI3RcFI3W6XAZNI3RX2I3WBhJ0dOI3OkPI3OWFI3OcFI3W3XA",
  "ZNI3OX2I3WBhK0dOI3OkPI3OWFI3OcFI3W3XAZNI3OX2I3WBnN0dOI3OkPI3OWFI3OcFI3W3XAZNI3OX2I3WLgA0XAZNI3",
  "OX2I3WLfC0XAZNI3OX2I3WBe20XAI3OcPI3OWFI3W3XAZNI3OX2I3WBcP0WFI3W3XAZNI3OX2I3WBWF0XAI3OWFI3WBcF0",
  "dOI3OkPI3OWFI3OcFI3W3XAZNI3OX2I3X0XAZN0mBXAI3WBX20dOI3OkPI3OWFI3OcFI3W3XAZNI3OX2I3WNcR90YNW33R",
  "Y8W33RaKW33RWFW33ReDW33WBhJ0YNW33OY8W33OaKW33OWFW33OeDW33WBhK0YNW33OY8W33OaKW33OWFW33OeDW33WBn",
  "N0WFW33WBYN0Y8W33OWFW33WBY80YNW33OWFW33WBaK0YNW33OWFW33WBeU0YNW33OY8W33OaKW33OWFW33WBgC0Y8W33O",
  "aKW33OWFW33WBi20YNW33OY8W33OaKW33OWFW33WBeM0Y8W33WBp20WFW33WBdB0YNW33OWFW33WBjA0YNW33OWFW33WBg",
  "A0YNW33OY8W33OaKW33OWFW33WBfC0Y8W33OWFW33WBe20YNW33OY8W33OaKW33OcPW33OWFW33WBcP0YNW33OY8W33OaK",
  "W33OWFW33OeDW33WBWF0YNW33OY8W33OaKW33OWFW33WBcF0YNW33OY8W33OaKW33OWFW33OeDW33WBeD0YNW33OWFW33W",
  "3mBXAW33WBX20YNW33OY8W33OaKW33OWFW33OeDW33WNcR90WFYB3ReDYB3WBhJ0WFYB3OeDYB3WBhK0WFYB3OeDYB3WBn",
  "N0WFYB3OeDYB3WBeU0WFYB3OeDYB3WBi10WFYB3OeDYB3WBe20cPYB3OWFYB3WBcP0WFYB3WBcF0WFYB3OeDYB3WBX20WF",
  "YB3OeDYB3WBzF0nMYB3Oq6YB3OmGYB3WLeM0XAZNQ3OX2Q3WLdB0XAZNQ3OX2Q3WLjA0XAZNQ3OX2Q3WLeU0XAZNQ3OX2Q",
  "3WLi10XAZNQ3OX2Q3WLY80XAZNQ3OX2Q3WLYN0XAZNQ3OX2Q3WLaK0XAZNQ3OX2Q3WLgC0XAZNQ3OX2Q3WLi20XAZNQ3OX",
  "2Q3WBi10YNQ3OY8Q3OaKQ3OWFQ3OdOQ3WBeU0dOQ3WBgC0dOQ3WBi20dOQ3WLeM0XAZNI3OX2I3WLdB0XAZNI3OX2I3WLj",
  "A0XAZNI3OX2I3WLeU0XAZNI3OX2I3WLi10XAZNI3OX2I3WLY80XAZNI3OX2I3WLYN0XAZNI3OX2I3WLaK0XAZNI3OX2I3W",
  "LgC0XAZNI3OX2I3WLi20XAZNI3OX2I3WBi10YNI3OY8I3OaKI3OWFI3OdOI3WBeU0dOI3WBgC0dOI3WBi20dOI3WBi10YN",
  "W33OY8W33OaKW33OWFW33WBeU0eDW33WBi10eDW33WBeM0WFW33WBeU0YNYB3OY8YB3OaKYB3WBi10YNYB3OY8YB3OaKYB",
  "3WBeM0WFYB3WBp20WFYB3WBXA0zEI3FQ3KccIAbOB8bOUi0d9ccJYa0MXeLccKccL4ccM4ccN4ccO4ccPMccQWlOccRCWl",
  "OWlPCccSWlPCccTWlPMWlOccUcd0Ccd1cd2W1cd3WlOcd4cd5Ccd6WlPCcd7cd8Ccd9Ya0X0hK0YN0WFW33WDY80YNI3HW",
  "33QWFW33WDaK0WFW33WDWF0YNW33QY8W33QaKW33X0YN0WF0Y8I3HW33X0Y80WF0X2I3W5XAZNI3X0eU0Y80YNW33WDYN0",
  "Y8W33W5XAZNI3WDWF0Y8I3HW33QYNW33QWFI3HW33X0gC0Y80Y8I3HW33WDWF0WFI3X0i10Y80WFI3HW33WDYN0X2I3WDW",
  "F0aKI3HW33QWFI3HW33XAi20Y80XAZNI3WDaK0WFI3HW33X0eM0WF0Y8I3HW33QWFW33QX2I3X0dB0YN0WFI3WDWF0WFI3",
  "HW33W5XAZNI3X0jA0WF0WFI3QX2I3W5XAZNI3X0gA0aK0WFI3HW33X0fC0WF0Y8I3QWFI3X0cP0Y80WFI3QX2I3W5XAZNI",
  "3WDYN0YNW33HI3WDaK0WFI3HW33WDWF0Y8I3HW33X0WF0Y80YNW33QWFW33QX2I3WDYN0Y8W33QWFW33WDaK0YNW33QWFW",
  "33cR3YN0aKW33X0eD0WF0YNW33QWFW33X0cF0Y80WFW33W5XAZNI3WDYN0WFI3HW33W5XAZNI3WDWF0X2I3W5XAZNI3X0X",
  "20WF0WFI3HW33X0hJ0aK0X2I3X0hK0YN0X2I3W5XAZNI3WDaK0X2I3W5XAZNI3WDWF0X2I3W5XAZNI3X0YN0WF0X2I3WNY",
  "80XAZNI3WNWF0XAZNI3XAeU0aK0XAZNI3X0gC0Y80X2I3X0i10Y80X2I3X0i20Y80X2I3X0cP0YN0X2I3WDWF0X2I3X0X2",
  "0Y80X2I3WDYN0X2I3WDWF0X2I3X0WF0WF0X2I3X0fC0WF0X2I3X0cF0Y80X2I3X0fC0WF0Y8W33X0cP0Y80WFW33X0dB0W",
  "F0X2I3X0e20WF0X2I3X0cF0YN0Y8W33X0WF0aK0X2I3X0cP0YN0WFW33X0e20WF0WFI3X0cP0YN0WFI3X0cF0YN0Y8I3X0",
  "YN0Y80X2I3X0Y80YN0X2I3X0WF0YN0X2I3X0gA0WF0X2I3X0hJ0Y80X2I3X0e20WF0WFW33X0dB0YN0WFW33X0gC0WF0WF",
  "W33X0eU0aK0X2I3X0cF0YN0X2I3bQ8cdAcdBdOW2Ya1Ya2lQYa3ZA5Q3XAcdCYa2lQYa3ZA5Q3McdDQ3McdEQ3McdFQ3Mc",
  "dGQ3McdHQ3MWYHQ3MYa4Q3MYa1Q3MXeKWYHYa42cdIAcdJ5W9i0d9cdKcdLcdMMcdNZHcdOMcdPZHcdQAWa7cdR1cdS1cd",
  "T1cdU1ce01ce11ce21ce31ce41ce51ce61ce71ce81ce91ceA1ceBW9WlQ3cEW8a4ElEa4FaUZA4dF4nCEf5LEe8LW3ASs",
  "UWPW38SsUceCEXFu1cD7cDd9AWLC8WLW0JXIAWLD8WLLZQAWLC8WLBYa5ZQW0d9AWLHM8WLHW0XIAWLHM8WLHW0ZQAWLHM",
  "8WLHLYa5ZQHW0lLWe5AWLD8WLWTWlQ3cEW8EMWvDEiLbUEb3bUEY1Z7Oq8Y1Z7EAbOE8bOOAf6WPO8f6WPW3AiUg6WPW38",
  "iUg6WPW3APsUWPW38PsUWPW3AJaQWPW38JaQWPOAaQWPO8aQWPOAdKWPO8dKWPW3ASdKWPW38SdKWPAYa6MKSYa6MWTWlQ",
  "3cEW8AWRWPO8WRWPAmRtJAYa7tJAq8tJKJq8tJKmRY1Z7KYa7Y1Z7Kq8Y1Z7A2a4BlEa4BaUZAbF2nC1dFBe8LBf5LBiLb",
  "UBAbOB8bOLAf6WPL8f6WPW0AiUg6WPW08iUg6WPBZT51tA1bCBWH51WdNBa65BaA5BcU5bP2gKfQBw65BWY55BWY6fRcD5",
  "i0zEQ3W0WeI0zE9LWYIQ3BaHceDLWYJQ3c42nMQ3CYB3Lq6Q3CYB3LmGQ3CYB3LzFQ3CYB3LwGQ3CYB3W01cRQ3WLXA0rK",
  "9Q3GI3W3cR9Q3GI3WLcK0cR9Q3GI3WLXA0cRHQ3GI3WLX20cR9Q3GI3GW33GYB3MXAQ3DI3MhJQ3DI3DW33DYB3W1hKWpC",
  "Q3EI3DQ3DI3DW33DYB3MnNQ3DI3DW33DYB3MYNQ3DI3DW33DYB3MY8Q3DI3DW33DYB3MaKQ3DI3DW33DYB3MlPQ3DI3MwE",
  "Q3DI3MdOQ3DI3MkPQ3DI3MeUQ3DI3DW33DYB3Mi1Q3DI3DW33DYB3MgCQ3DI3DW33DYB3Mi2Q3DI3DW33DYB3MeMQ3DI3D",
  "W33DYB3Mp2Q3DI3DW33DYB3MdBQ3DI3DW33DYB3MjAQ3DI3DW33DYB3MgAQ3DI3DW33DYB3MfCQ3DI3DW33DYB3Me2Q3DI",
  "3DW33DYB3McPQ3DI3DW33DYB3MWFQ3DI3DW33DYB3McFQ3DI3DW33DYB3MeDQ3DI3DW33DYB3McKQ3DI3W1XAZNQ3EI3MX",
  "2Q3DI3DW33DYB3XJd9cP0XA0rK9Q3II3W5cR9Q3II3RHQ3II3FQ3FI3cD3Y9WaGWo8gJc32Ya8f5LBdULBZT5Bw65BWY55",
  "1tA1rDBAbOB8bO1bCBWH51a41WdNBaUZA1fQBXKY92F2E2N2T2W22WB2WJ2WC2WO1dF1nCBa65BcU5BaA5Be8LBWY6fRW0",
  "aP41C4YR4YE4Y64G4ZK4XO4XU4K4Z54XR4WE4XB4X04D4YH4a74W74WA4XS4B4XT4YS4YO4Y74YFLAWRWPBgKfQL8WRWPB",
  "YTcCBY1Z7BZLcCW0aP21C4YR4YE4Y64G4ZK4XO4XU4K4Z54XR4WE4XB4X04D4YH4a74W74WA4XS4B4XT4YS4YO4Y74YFLA",
  "f6WPBW8Z7L8f6WP1XILASbOL8SbOUYa9lEaUZALAdKWPL8dKWPBlEa4LpOW6MC1g4D2C4K4B4G4D4X94cO4dJ4fOW0Wc1X",
  "y6jFLLpO1C3K3B3G3D3WQ3hD3hO3hB3fM3XH3gF3hA3h13fN3XJ3iO3fO3cQ3O3X73dD3dH3e63c43WN3eO3lT3c13fB3X",
  "83eE3cJ3e53gS3X93cO3dJ3X13jD3gT3iQ3f13ZH3X0MpRjFLMXV3jFLBqJs2C1u33Wg23WrT3u43Wg93WgA3u53Wg33u6",
  "3WgB3WgC3WgD3WgE3WrU3Ws03Wg73u73u83Wg43Wg83u93Wg53s03s13Wg63uA3uB3uC3uD3uEbH4C3dG3X93WYC3WZH3G",
  "bH3WrP3k63D3ZH3WrQ3c7bH3dJ3B3WrR3fA3h03cObH3rT3eB3Kc34Ya8XcB5BWdO5Ba851ZQByQWGBWY85BWvI5cD2Ya9",
  "ceEXGW8BWI7BY47BW47BXN7BPWRBSWUc3BceFXyAXtM2dP2YaAKceGYaBk3AYaBk3"]

/-- The names of characters below U+10000 -/
def basic : List String := basicA ++ basicB ++ basicC ++ basicD

end SourceAudit.Text.Names
