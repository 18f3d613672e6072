import DohRelay.Text.CodeTable

/-!
# Directions of writing

How code points behave in text that runs in both directions: 1 and 2 for letters that run from right
to left, 3 and 4 for digits, 5 to 7 for what stands beside digits, 8 for marks, 9 for what has no
effect and 10 for the rest of what has no direction.  All others run from left to right.
-/

namespace DohRelay.Idna

open Text

/-- The directional classes of code points. -/
def directionTable : CodeTable := .parse
  ["0-8:9 9-d:a e-1b:9 1c-22:a 23-25:6 26-2a:a 2b:5 2c:7 2d:5 2e-2f:7 30-39:4 3a:7 3b-40:a",
   "5b-60:a 7b-7e:a 7f-84:9 85:a 86-9f:9 a0:7 a1:a a2-a5:6 a6-a9:a ab-ac:a ad:9 ae-af:a b0-b1:6",
   "b2-b3:4 b4:a b6-b8:a b9:4 bb-bf:a d7:a f7:a 2b9-2ba:a 2c2-2cf:a 2d2-2df:a 2e5-2ed:a",
   "2ef-2ff:a 300-36f:8 374-375:a 37e:a 384-385:a 387:a 3f6:a 483-489:8 58a:a 58d-58e:a 58f:6",
   "591-5bd:8 5be:1 5bf:8 5c0:1 5c1-5c2:8 5c3:1 5c4-5c5:8 5c6:1 5c7:8 5d0-5ea:1 5ef-5f4:1",
   "600-605:3 606-607:a 608:2 609-60a:6 60b:2 60c:7 60d:2 60e-60f:a 610-61a:8 61b-64a:2",
   "64b-65f:8 660-669:3 66a:6 66b-66c:3 66d-66f:2 670:8 671-6d5:2 6d6-6dc:8 6dd:3 6de:a",
   "6df-6e4:8 6e5-6e6:2 6e7-6e8:8 6e9:a 6ea-6ed:8 6ee-6ef:2 6f0-6f9:4 6fa-70d:2 70f-710:2 711:8",
   "712-72f:2 730-74a:8 74d-7a5:2 7a6-7b0:8 7b1:2 7c0-7ea:1 7eb-7f3:8 7f4-7f5:1 7f6-7f9:a 7fa:1",
   "7fd:8 7fe-815:1 816-819:8 81a:1 81b-823:8 824:1 825-827:8 828:1 829-82d:8 830-83e:1",
   "840-858:1 859-85b:8 85e:1 860-86a:2 870-88e:2 890-891:3 898-89f:8 8a0-8c9:2 8ca-8e1:8 8e2:3",
   "8e3-902:8 93a:8 93c:8 941-948:8 94d:8 951-957:8 962-963:8 981:8 9bc:8 9c1-9c4:8 9cd:8",
   "9e2-9e3:8 9f2-9f3:6 9fb:6 9fe:8 a01-a02:8 a3c:8 a41-a42:8 a47-a48:8 a4b-a4d:8 a51:8",
   "a70-a71:8 a75:8 a81-a82:8 abc:8 ac1-ac5:8 ac7-ac8:8 acd:8 ae2-ae3:8 af1:6 afa-aff:8 b01:8",
   "b3c:8 b3f:8 b41-b44:8 b4d:8 b55-b56:8 b62-b63:8 b82:8 bc0:8 bcd:8 bf3-bf8:a bf9:6 bfa:a",
   "c00:8 c04:8 c3c:8 c3e-c40:8 c46-c48:8 c4a-c4d:8 c55-c56:8 c62-c63:8 c78-c7e:a c81:8 cbc:8",
   "ccc-ccd:8 ce2-ce3:8 d00-d01:8 d3b-d3c:8 d41-d44:8 d4d:8 d62-d63:8 d81:8 dca:8 dd2-dd4:8",
   "dd6:8 e31:8 e34-e3a:8 e3f:6 e47-e4e:8 eb1:8 eb4-ebc:8 ec8-ecd:8 f18-f19:8 f35:8 f37:8 f39:8",
   "f3a-f3d:a f71-f7e:8 f80-f84:8 f86-f87:8 f8d-f97:8 f99-fbc:8 fc6:8 102d-1030:8 1032-1037:8",
   "1039-103a:8 103d-103e:8 1058-1059:8 105e-1060:8 1071-1074:8 1082:8 1085-1086:8 108d:8 109d:8",
   "135d-135f:8 1390-1399:a 1400:a 1680:a 169b-169c:a 1712-1714:8 1732-1733:8 1752-1753:8",
   "1772-1773:8 17b4-17b5:8 17b7-17bd:8 17c6:8 17c9-17d3:8 17db:6 17dd:8 17f0-17f9:a 1800-180a:a",
   "180b-180d:8 180e:9 180f:8 1885-1886:8 18a9:8 1920-1922:8 1927-1928:8 1932:8 1939-193b:8",
   "1940:a 1944-1945:a 19de-19ff:a 1a17-1a18:8 1a1b:8 1a56:8 1a58-1a5e:8 1a60:8 1a62:8",
   "1a65-1a6c:8 1a73-1a7c:8 1a7f:8 1ab0-1ace:8 1b00-1b03:8 1b34:8 1b36-1b3a:8 1b3c:8 1b42:8",
   "1b6b-1b73:8 1b80-1b81:8 1ba2-1ba5:8 1ba8-1ba9:8 1bab-1bad:8 1be6:8 1be8-1be9:8 1bed:8",
   "1bef-1bf1:8 1c2c-1c33:8 1c36-1c37:8 1cd0-1cd2:8 1cd4-1ce0:8 1ce2-1ce8:8 1ced:8 1cf4:8",
   "1cf8-1cf9:8 1dc0-1dff:8 1fbd:a 1fbf-1fc1:a 1fcd-1fcf:a 1fdd-1fdf:a 1fed-1fef:a 1ffd-1ffe:a",
   "2000-200a:a 200b-200d:9 200f:1 2010-202e:a 202f:7 2030-2034:6 2035-2043:a 2044:7 2045-205f:a",
   "2060-2064:9 2066-2069:a 206a-206f:9 2070:4 2074-2079:4 207a-207b:5 207c-207e:a 2080-2089:4",
   "208a-208b:5 208c-208e:a 20a0-20c0:6 20d0-20f0:8 2100-2101:a 2103-2106:a 2108-2109:a 2114:a",
   "2116-2118:a 211e-2123:a 2125:a 2127:a 2129:a 212e:6 213a-213b:a 2140-2144:a 214a-214d:a",
   "2150-215f:a 2189-218b:a 2190-2211:a 2212:5 2213:6 2214-2335:a 237b-2394:a 2396-2426:a",
   "2440-244a:a 2460-2487:a 2488-249b:4 24ea-26ab:a 26ad-27ff:a 2900-2b73:a 2b76-2b95:a",
   "2b97-2bff:a 2ce5-2cea:a 2cef-2cf1:8 2cf9-2cff:a 2d7f:8 2de0-2dff:8 2e00-2e5d:a 2e80-2e99:a",
   "2e9b-2ef3:a 2f00-2fd5:a 2ff0-2ffb:a 3000-3004:a 3008-3020:a 302a-302d:8 3030:a 3036-3037:a",
   "303d-303f:a 3099-309a:8 309b-309c:a 30a0:a 30fb:a 31c0-31e3:a 321d-321e:a 3250-325f:a",
   "327c-327e:a 32b1-32bf:a 32cc-32cf:a 3377-337a:a 33de-33df:a 33ff:a 4dc0-4dff:a a490-a4c6:a",
   "a60d-a60f:a a66f-a672:8 a673:a a674-a67d:8 a67e-a67f:a a69e-a69f:8 a6f0-a6f1:8 a700-a721:a",
   "a788:a a802:8 a806:8 a80b:8 a825-a826:8 a828-a82b:a a82c:8 a838-a839:6 a874-a877:a",
   "a8c4-a8c5:8 a8e0-a8f1:8 a8ff:8 a926-a92d:8 a947-a951:8 a980-a982:8 a9b3:8 a9b6-a9b9:8",
   "a9bc-a9bd:8 a9e5:8 aa29-aa2e:8 aa31-aa32:8 aa35-aa36:8 aa43:8 aa4c:8 aa7c:8 aab0:8",
   "aab2-aab4:8 aab7-aab8:8 aabe-aabf:8 aac1:8 aaec-aaed:8 aaf6:8 ab6a-ab6b:a abe5:8 abe8:8",
   "abed:8 fb1d:1 fb1e:8 fb1f-fb28:1 fb29:5 fb2a-fb36:1 fb38-fb3c:1 fb3e:1 fb40-fb41:1",
   "fb43-fb44:1 fb46-fb4f:1 fb50-fbc2:2 fbd3-fd3d:2 fd3e-fd4f:a fd50-fd8f:2 fd92-fdc7:2 fdcf:a",
   "fdf0-fdfc:2 fdfd-fdff:a fe00-fe0f:8 fe10-fe19:a fe20-fe2f:8 fe30-fe4f:a fe50:7 fe51:a fe52:7",
   "fe54:a fe55:7 fe56-fe5e:a fe5f:6 fe60-fe61:a fe62-fe63:5 fe64-fe66:a fe68:a fe69-fe6a:6",
   "fe6b:a fe70-fe74:2 fe76-fefc:2 feff:9 ff01-ff02:a ff03-ff05:6 ff06-ff0a:a ff0b:5 ff0c:7",
   "ff0d:5 ff0e-ff0f:7 ff10-ff19:4 ff1a:7 ff1b-ff20:a ff3b-ff40:a ff5b-ff65:a ffe0-ffe1:6",
   "ffe2-ffe4:a ffe5-ffe6:6 ffe8-ffee:a fff9-fffd:a 10101:a 10140-1018c:a 10190-1019c:a 101a0:a",
   "101fd:8 102e0:8 102e1-102fb:4 10376-1037a:8 10800-10805:1 10808:1 1080a-10835:1",
   "10837-10838:1 1083c:1 1083f-10855:1 10857-1089e:1 108a7-108af:1 108e0-108f2:1 108f4-108f5:1",
   "108fb-1091b:1 1091f:a 10920-10939:1 1093f:1 10980-109b7:1 109bc-109cf:1 109d2-10a00:1",
   "10a01-10a03:8 10a05-10a06:8 10a0c-10a0f:8 10a10-10a13:1 10a15-10a17:1 10a19-10a35:1",
   "10a38-10a3a:8 10a3f:8 10a40-10a48:1 10a50-10a58:1 10a60-10a9f:1 10ac0-10ae4:1 10ae5-10ae6:8",
   "10aeb-10af6:1 10b00-10b35:1 10b39-10b3f:a 10b40-10b55:1 10b58-10b72:1 10b78-10b91:1",
   "10b99-10b9c:1 10ba9-10baf:1 10c00-10c48:1 10c80-10cb2:1 10cc0-10cf2:1 10cfa-10cff:1",
   "10d00-10d23:2 10d24-10d27:8 10d30-10d39:3 10e60-10e7e:3 10e80-10ea9:1 10eab-10eac:8 10ead:1",
   "10eb0-10eb1:1 10f00-10f27:1 10f30-10f45:2 10f46-10f50:8 10f51-10f59:2 10f70-10f81:1",
   "10f82-10f85:8 10f86-10f89:1 10fb0-10fcb:1 10fe0-10ff6:1 11001:8 11038-11046:8 11052-11065:a",
   "11070:8 11073-11074:8 1107f-11081:8 110b3-110b6:8 110b9-110ba:8 110c2:8 11100-11102:8",
   "11127-1112b:8 1112d-11134:8 11173:8 11180-11181:8 111b6-111be:8 111c9-111cc:8 111cf:8",
   "1122f-11231:8 11234:8 11236-11237:8 1123e:8 112df:8 112e3-112ea:8 11300-11301:8",
   "1133b-1133c:8 11340:8 11366-1136c:8 11370-11374:8 11438-1143f:8 11442-11444:8 11446:8",
   "1145e:8 114b3-114b8:8 114ba:8 114bf-114c0:8 114c2-114c3:8 115b2-115b5:8 115bc-115bd:8",
   "115bf-115c0:8 115dc-115dd:8 11633-1163a:8 1163d:8 1163f-11640:8 11660-1166c:a 116ab:8",
   "116ad:8 116b0-116b5:8 116b7:8 1171d-1171f:8 11722-11725:8 11727-1172b:8 1182f-11837:8",
   "11839-1183a:8 1193b-1193c:8 1193e:8 11943:8 119d4-119d7:8 119da-119db:8 119e0:8",
   "11a01-11a06:8 11a09-11a0a:8 11a33-11a38:8 11a3b-11a3e:8 11a47:8 11a51-11a56:8 11a59-11a5b:8",
   "11a8a-11a96:8 11a98-11a99:8 11c30-11c36:8 11c38-11c3d:8 11c92-11ca7:8 11caa-11cb0:8",
   "11cb2-11cb3:8 11cb5-11cb6:8 11d31-11d36:8 11d3a:8 11d3c-11d3d:8 11d3f-11d45:8 11d47:8",
   "11d90-11d91:8 11d95:8 11d97:8 11ef3-11ef4:8 11fd5-11fdc:a 11fdd-11fe0:6 11fe1-11ff1:a",
   "16af0-16af4:8 16b30-16b36:8 16f4f:8 16f8f-16f92:8 16fe2:a 16fe4:8 1bc9d-1bc9e:8",
   "1bca0-1bca3:9 1cf00-1cf2d:8 1cf30-1cf46:8 1d167-1d169:8 1d173-1d17a:9 1d17b-1d182:8",
   "1d185-1d18b:8 1d1aa-1d1ad:8 1d1e9-1d1ea:a 1d200-1d241:a 1d242-1d244:8 1d245:a 1d300-1d356:a",
   "1d6db:a 1d715:a 1d74f:a 1d789:a 1d7c3:a 1d7ce-1d7ff:4 1da00-1da36:8 1da3b-1da6c:8 1da75:8",
   "1da84:8 1da9b-1da9f:8 1daa1-1daaf:8 1e000-1e006:8 1e008-1e018:8 1e01b-1e021:8 1e023-1e024:8",
   "1e026-1e02a:8 1e130-1e136:8 1e2ae:8 1e2ec-1e2ef:8 1e2ff:6 1e800-1e8c4:1 1e8c7-1e8cf:1",
   "1e8d0-1e8d6:8 1e900-1e943:1 1e944-1e94a:8 1e94b:1 1e950-1e959:1 1e95e-1e95f:1 1ec71-1ecb4:2",
   "1ed01-1ed3d:2 1ee00-1ee03:2 1ee05-1ee1f:2 1ee21-1ee22:2 1ee24:2 1ee27:2 1ee29-1ee32:2",
   "1ee34-1ee37:2 1ee39:2 1ee3b:2 1ee42:2 1ee47:2 1ee49:2 1ee4b:2 1ee4d-1ee4f:2 1ee51-1ee52:2",
   "1ee54:2 1ee57:2 1ee59:2 1ee5b:2 1ee5d:2 1ee5f:2 1ee61-1ee62:2 1ee64:2 1ee67-1ee6a:2",
   "1ee6c-1ee72:2 1ee74-1ee77:2 1ee79-1ee7c:2 1ee7e:2 1ee80-1ee89:2 1ee8b-1ee9b:2 1eea1-1eea3:2",
   "1eea5-1eea9:2 1eeab-1eebb:2 1eef0-1eef1:a 1f000-1f02b:a 1f030-1f093:a 1f0a0-1f0ae:a",
   "1f0b1-1f0bf:a 1f0c1-1f0cf:a 1f0d1-1f0f5:a 1f100-1f10a:4 1f10b-1f10f:a 1f12f:a 1f16a-1f16f:a",
   "1f1ad:a 1f260-1f265:a 1f300-1f6d7:a 1f6dd-1f6ec:a 1f6f0-1f6fc:a 1f700-1f773:a 1f780-1f7d8:a",
   "1f7e0-1f7eb:a 1f7f0:a 1f800-1f80b:a 1f810-1f847:a 1f850-1f859:a 1f860-1f887:a 1f890-1f8ad:a",
   "1f8b0-1f8b1:a 1f900-1fa53:a 1fa60-1fa6d:a 1fa70-1fa74:a 1fa78-1fa7c:a 1fa80-1fa86:a",
   "1fa90-1faac:a 1fab0-1faba:a 1fac0-1fac5:a 1fad0-1fad9:a 1fae0-1fae7:a 1faf0-1faf6:a",
   "1fb00-1fb92:a 1fb94-1fbca:a 1fbf0-1fbf9:4 e0001:9 e0020-e007f:9 e0100-e01ef:8"]

end DohRelay.Idna
