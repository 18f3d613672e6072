import DohRelay.Text.CodeTable

/-!
# Joining of letters

How the letters of connected scripts join their neighbours: 1 on the left, 2 on the right, 3 on both
sides, 4 always, and 5 for what the joining sees through.  All others do not join.
-/

namespace DohRelay.Idna

open Text

/-- The joining classes of code points. -/
def joiningTable : CodeTable := .parse
  ["ad:5 300-36f:5 483-489:5 591-5bd:5 5bf:5 5c1-5c2:5 5c4-5c5:5 5c7:5 600-605:5 610-61a:5 61c:5",
   "620:3 622-625:2 626:3 627:2 628:3 629:2 62a-62e:3 62f-632:2 633-63f:3 640:4 641-647:3 648:2",
   "649-64a:3 64b-65f:5 66e-66f:3 670:5 671-673:2 675-677:2 678-687:3 688-699:2 69a-6bf:3 6c0:2",
   "6c1-6c2:3 6c3-6cb:2 6cc:3 6cd:2 6ce:3 6cf:2 6d0-6d1:3 6d2-6d3:2 6d5:2 6d6-6dd:5 6df-6e4:5",
   "6e7-6e8:5 6ea-6ed:5 6ee-6ef:2 6fa-6fc:3 6ff:3 70f:5 710:2 711:5 712-714:3 715-719:2",
   "71a-71d:3 71e:2 71f-727:3 728:2 729:3 72a:2 72b:3 72c:2 72d-72e:3 72f:2 730-74a:5 74d:2",
   "74e-758:3 759-75b:2 75c-76a:3 76b-76c:2 76d-770:3 771:2 772:3 773-774:2 775-777:3 778-779:2",
   "77a-77f:3 7a6-7b0:5 7ca-7ea:3 7eb-7f3:5 7fa:4 7fd:5 816-819:5 81b-823:5 825-827:5 829-82d:5",
   "840:2 841-845:3 846-847:2 848:3 849:2 84a-853:3 854:2 855:3 856-858:2 859-85b:5 860:3",
   "862-865:3 867:2 868:3 869-86a:2 870-882:2 883-885:4 886:3 889-88d:3 88e:2 88f:3 890-891:5",
   "897-89f:5 8a0-8a9:3 8aa-8ac:2 8ae:2 8af-8b0:3 8b1-8b2:2 8b3-8b8:3 8b9:2 8ba-8c8:3 8ca-902:5",
   "93a:5 93c:5 941-948:5 94d:5 951-957:5 962-963:5 981:5 9bc:5 9c1-9c4:5 9cd:5 9e2-9e3:5 9fe:5",
   "a01-a02:5 a3c:5 a41-a42:5 a47-a48:5 a4b-a4d:5 a51:5 a70-a71:5 a75:5 a81-a82:5 abc:5",
   "ac1-ac5:5 ac7-ac8:5 acd:5 ae2-ae3:5 afa-aff:5 b01:5 b3c:5 b3f:5 b41-b44:5 b4d:5 b55-b56:5",
   "b62-b63:5 b82:5 bc0:5 bcd:5 c00:5 c04:5 c3c:5 c3e-c40:5 c46-c48:5 c4a-c4d:5 c55-c56:5",
   "c62-c63:5 c81:5 cbc:5 cbf:5 cc6:5 ccc-ccd:5 ce2-ce3:5 d00-d01:5 d3b-d3c:5 d41-d44:5 d4d:5",
   "d62-d63:5 d81:5 dca:5 dd2-dd4:5 dd6:5 e31:5 e34-e3a:5 e47-e4e:5 eb1:5 eb4-ebc:5 ec8-ece:5",
   "f18-f19:5 f35:5 f37:5 f39:5 f71-f7e:5 f80-f84:5 f86-f87:5 f8d-f97:5 f99-fbc:5 fc6:5",
   "102d-1030:5 1032-1037:5 1039-103a:5 103d-103e:5 1058-1059:5 105e-1060:5 1071-1074:5 1082:5",
   "1085-1086:5 108d:5 109d:5 135d-135f:5 1712-1714:5 1732-1733:5 1752-1753:5 1772-1773:5",
   "17b4-17b5:5 17b7-17bd:5 17c6:5 17c9-17d3:5 17dd:5 1807:3 180a:4 180b-180f:5 1820-1878:3",
   "1885-1886:5 1887-18a8:3 18a9:5 18aa:3 1920-1922:5 1927-1928:5 1932:5 1939-193b:5 1a17-1a18:5",
   "1a1b:5 1a56:5 1a58-1a5e:5 1a60:5 1a62:5 1a65-1a6c:5 1a73-1a7c:5 1a7f:5 1ab0-1add:5",
   "1ae0-1aeb:5 1b00-1b03:5 1b34:5 1b36-1b3a:5 1b3c:5 1b42:5 1b6b-1b73:5 1b80-1b81:5 1ba2-1ba5:5",
   "1ba8-1ba9:5 1bab-1bad:5 1be6:5 1be8-1be9:5 1bed:5 1bef-1bf1:5 1c2c-1c33:5 1c36-1c37:5",
   "1cd0-1cd2:5 1cd4-1ce0:5 1ce2-1ce8:5 1ced:5 1cf4:5 1cf8-1cf9:5 1dc0-1dff:5 200b:5 200d:4",
   "200e-200f:5 202a-202e:5 2060-2064:5 2066-206f:5 20d0-20f0:5 2cef-2cf1:5 2d7f:5 2de0-2dff:5",
   "302a-302d:5 3099-309a:5 a66f-a672:5 a674-a67d:5 a69e-a69f:5 a6f0-a6f1:5 a802:5 a806:5 a80b:5",
   "a825-a826:5 a82c:5 a840-a871:3 a872:1 a8c4-a8c5:5 a8e0-a8f1:5 a8ff:5 a926-a92d:5 a947-a951:5",
   "a980-a982:5 a9b3:5 a9b6-a9b9:5 a9bc-a9bd:5 a9e5:5 aa29-aa2e:5 aa31-aa32:5 aa35-aa36:5 aa43:5",
   "aa4c:5 aa7c:5 aab0:5 aab2-aab4:5 aab7-aab8:5 aabe-aabf:5 aac1:5 aaec-aaed:5 aaf6:5 abe5:5",
   "abe8:5 abed:5 fb1e:5 fe00-fe0f:5 fe20-fe2f:5 feff:5 fff9-fffb:5 101fd:5 102e0:5",
   "10376-1037a:5 10a01-10a03:5 10a05-10a06:5 10a0c-10a0f:5 10a38-10a3a:5 10a3f:5 10ac0-10ac4:3",
   "10ac5:2 10ac7:2 10ac9-10aca:2 10acd:1 10ace-10ad2:2 10ad3-10ad6:3 10ad7:1 10ad8-10adc:3",
   "10add:2 10ade-10ae0:3 10ae1:2 10ae4:2 10ae5-10ae6:5 10aeb-10aee:3 10aef:2 10b80:3 10b81:2",
   "10b82:3 10b83-10b85:2 10b86-10b88:3 10b89:2 10b8a-10b8b:3 10b8c:2 10b8d:3 10b8e-10b8f:2",
   "10b90:3 10b91:2 10ba9-10bac:2 10bad-10bae:3 10d00:1 10d01-10d21:3 10d22:2 10d23:3",
   "10d24-10d27:5 10d69-10d6d:5 10eab-10eac:5 10ec2:2 10ec3-10ec4:3 10ec6-10ec7:3 10efa-10eff:5",
   "10f30-10f32:3 10f33:2 10f34-10f44:3 10f46-10f50:5 10f51-10f53:3 10f54:2 10f70-10f73:3",
   "10f74-10f75:2 10f76-10f81:3 10f82-10f85:5 10fb0:3 10fb2-10fb3:3 10fb4-10fb6:2 10fb8:3",
   "10fb9-10fba:2 10fbb-10fbc:3 10fbd:2 10fbe-10fbf:3 10fc1:3 10fc2-10fc3:2 10fc4:3 10fc9:2",
   "10fca:3 10fcb:1 11001:5 11038-11046:5 11070:5 11073-11074:5 1107f-11081:5 110b3-110b6:5",
   "110b9-110ba:5 110bd:5 110c2:5 110cd:5 11100-11102:5 11127-1112b:5 1112d-11134:5 11173:5",
   "11180-11181:5 111b6-111be:5 111c9-111cc:5 111cf:5 1122f-11231:5 11234:5 11236-11237:5",
   "1123e:5 11241:5 112df:5 112e3-112ea:5 11300-11301:5 1133b-1133c:5 11340:5 11366-1136c:5",
   "11370-11374:5 113bb-113c0:5 113ce:5 113d0:5 113d2:5 113e1-113e2:5 11438-1143f:5",
   "11442-11444:5 11446:5 1145e:5 114b3-114b8:5 114ba:5 114bf-114c0:5 114c2-114c3:5",
   "115b2-115b5:5 115bc-115bd:5 115bf-115c0:5 115dc-115dd:5 11633-1163a:5 1163d:5 1163f-11640:5",
   "116ab:5 116ad:5 116b0-116b5:5 116b7:5 1171d-1171f:5 11722-11725:5 11727-1172b:5",
   "1182f-11837:5 11839-1183a:5 1193b-1193c:5 1193e:5 11943:5 119d4-119d7:5 119da-119db:5",
   "119e0:5 11a01-11a0a:5 11a33-11a38:5 11a3b-11a3e:5 11a47:5 11a51-11a56:5 11a59-11a5b:5",
   "11a8a-11a96:5 11a98-11a99:5 11b60:5 11b62-11b64:5 11b66:5 11c30-11c36:5 11c38-11c3d:5",
   "11c3f:5 11c92-11ca7:5 11caa-11cb0:5 11cb2-11cb3:5 11cb5-11cb6:5 11d31-11d36:5 11d3a:5",
   "11d3c-11d3d:5 11d3f-11d45:5 11d47:5 11d90-11d91:5 11d95:5 11d97:5 11ef3-11ef4:5",
   "11f00-11f01:5 11f36-11f3a:5 11f40:5 11f42:5 11f5a:5 13430-13440:5 13447-13455:5",
   "1611e-16129:5 1612d-1612f:5 16af0-16af4:5 16b30-16b36:5 16f4f:5 16f8f-16f92:5 16fe4:5",
   "1bc9d-1bc9e:5 1bca0-1bca3:5 1cf00-1cf2d:5 1cf30-1cf46:5 1d167-1d169:5 1d173-1d182:5",
   "1d185-1d18b:5 1d1aa-1d1ad:5 1d242-1d244:5 1da00-1da36:5 1da3b-1da6c:5 1da75:5 1da84:5",
   "1da9b-1da9f:5 1daa1-1daaf:5 1e000-1e006:5 1e008-1e018:5 1e01b-1e021:5 1e023-1e024:5",
   "1e026-1e02a:5 1e08f:5 1e130-1e136:5 1e2ae:5 1e2ec-1e2ef:5 1e4ec-1e4ef:5 1e5ee-1e5ef:5",
   "1e6e3:5 1e6e6:5 1e6ee-1e6ef:5 1e6f5:5 1e8d0-1e8d6:5 1e900-1e943:3 1e944-1e94b:5 e0001:5",
   "e0020-e007f:5 e0100-e01ef:5"]

end DohRelay.Idna
