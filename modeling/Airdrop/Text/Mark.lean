import Airdrop.Text.CharTable

/-!
# Text/Mark — characters that need another to stand on

A combining mark (Unicode categories `Mn`, `Mc`, `Me`) belongs to the character before it.  Marks
that take up **no space of their own** are told from those that do.
-/

namespace Airdrop.Text

/-- What a mark does to the line. -/
inductive Mark
  /-- It takes up no space. -/
  | nonspacing
  | spacing
  deriving DecidableEq

namespace Mark

/-- The mark that a letter stands for. -/
def ofLetter? : List Char → Option Mark
  | ['n'] => some .nonspacing
  | ['s'] => some .spacing
  | _ => none

/-- The marks; `n` are those without space, `s` those with. -/
def table : CharTable Mark := .ofText ofLetter? "
  300-36f:n 483-489:n 591-5bd:n 5bf:n 5c1-5c2:n 5c4-5c5:n 5c7:n 610-61a:n 64b-65f:n 670:n
  6d6-6dc:n 6df-6e4:n 6e7-6e8:n 6ea-6ed:n 711:n 730-74a:n 7a6-7b0:n 7eb-7f3:n 7fd:n 816-819:n
  81b-823:n 825-827:n 829-82d:n 859-85b:n 897-89f:n 8ca-8e1:n 8e3-902:n 903:s 93a:n 93b:s 93c:n
  93e-940:s 941-948:n 949-94c:s 94d:n 94e-94f:s 951-957:n 962-963:n 981:n 982-983:s 9bc:n
  9be-9c0:s 9c1-9c4:n 9c7-9c8:s 9cb-9cc:s 9cd:n 9d7:s 9e2-9e3:n 9fe:n a01-a02:n a03:s a3c:n
  a3e-a40:s a41-a42:n a47-a48:n a4b-a4d:n a51:n a70-a71:n a75:n a81-a82:n a83:s abc:n abe-ac0:s
  ac1-ac5:n ac7-ac8:n ac9:s acb-acc:s acd:n ae2-ae3:n afa-aff:n b01:n b02-b03:s b3c:n b3e:s b3f:n
  b40:s b41-b44:n b47-b48:s b4b-b4c:s b4d:n b55-b56:n b57:s b62-b63:n b82:n bbe-bbf:s bc0:n
  bc1-bc2:s bc6-bc8:s bca-bcc:s bcd:n bd7:s c00:n c01-c03:s c04:n c3c:n c3e-c40:n c41-c44:s
  c46-c48:n c4a-c4d:n c55-c56:n c62-c63:n c81:n c82-c83:s cbc:n cbe:s cbf:n cc0-cc4:s cc6:n
  cc7-cc8:s cca-ccb:s ccc-ccd:n cd5-cd6:s ce2-ce3:n cf3:s d00-d01:n d02-d03:s d3b-d3c:n d3e-d40:s
  d41-d44:n d46-d48:s d4a-d4c:s d4d:n d57:s d62-d63:n d81:n d82-d83:s dca:n dcf-dd1:s dd2-dd4:n
  dd6:n dd8-ddf:s df2-df3:s e31:n e34-e3a:n e47-e4e:n eb1:n eb4-ebc:n ec8-ece:n f18-f19:n f35:n
  f37:n f39:n f3e-f3f:s f71-f7e:n f7f:s f80-f84:n f86-f87:n f8d-f97:n f99-fbc:n fc6:n 102b-102c:s
  102d-1030:n 1031:s 1032-1037:n 1038:s 1039-103a:n 103b-103c:s 103d-103e:n 1056-1057:s
  1058-1059:n 105e-1060:n 1062-1064:s 1067-106d:s 1071-1074:n 1082:n 1083-1084:s 1085-1086:n
  1087-108c:s 108d:n 108f:s 109a-109c:s 109d:n 135d-135f:n 1712-1714:n 1715:s 1732-1733:n 1734:s
  1752-1753:n 1772-1773:n 17b4-17b5:n 17b6:s 17b7-17bd:n 17be-17c5:s 17c6:n 17c7-17c8:s
  17c9-17d3:n 17dd:n 180b-180d:n 180f:n 1885-1886:n 18a9:n 1920-1922:n 1923-1926:s 1927-1928:n
  1929-192b:s 1930-1931:s 1932:n 1933-1938:s 1939-193b:n 1a17-1a18:n 1a19-1a1a:s 1a1b:n 1a55:s
  1a56:n 1a57:s 1a58-1a5e:n 1a60:n 1a61:s 1a62:n 1a63-1a64:s 1a65-1a6c:n 1a6d-1a72:s 1a73-1a7c:n
  1a7f:n 1ab0-1add:n 1ae0-1aeb:n 1b00-1b03:n 1b04:s 1b34:n 1b35:s 1b36-1b3a:n 1b3b:s 1b3c:n
  1b3d-1b41:s 1b42:n 1b43-1b44:s 1b6b-1b73:n 1b80-1b81:n 1b82:s 1ba1:s 1ba2-1ba5:n 1ba6-1ba7:s
  1ba8-1ba9:n 1baa:s 1bab-1bad:n 1be6:n 1be7:s 1be8-1be9:n 1bea-1bec:s 1bed:n 1bee:s 1bef-1bf1:n
  1bf2-1bf3:s 1c24-1c2b:s 1c2c-1c33:n 1c34-1c35:s 1c36-1c37:n 1cd0-1cd2:n 1cd4-1ce0:n 1ce1:s
  1ce2-1ce8:n 1ced:n 1cf4:n 1cf7:s 1cf8-1cf9:n 1dc0-1dff:n 20d0-20f0:n 2cef-2cf1:n 2d7f:n
  2de0-2dff:n 302a-302d:n 302e-302f:s 3099-309a:n a66f-a672:n a674-a67d:n a69e-a69f:n a6f0-a6f1:n
  a802:n a806:n a80b:n a823-a824:s a825-a826:n a827:s a82c:n a880-a881:s a8b4-a8c3:s a8c4-a8c5:n
  a8e0-a8f1:n a8ff:n a926-a92d:n a947-a951:n a952-a953:s a980-a982:n a983:s a9b3:n a9b4-a9b5:s
  a9b6-a9b9:n a9ba-a9bb:s a9bc-a9bd:n a9be-a9c0:s a9e5:n aa29-aa2e:n aa2f-aa30:s aa31-aa32:n
  aa33-aa34:s aa35-aa36:n aa43:n aa4c:n aa4d:s aa7b:s aa7c:n aa7d:s aab0:n aab2-aab4:n
  aab7-aab8:n aabe-aabf:n aac1:n aaeb:s aaec-aaed:n aaee-aaef:s aaf5:s aaf6:n abe3-abe4:s abe5:n
  abe6-abe7:s abe8:n abe9-abea:s abec:s abed:n fb1e:n fe00-fe0f:n fe20-fe2f:n 101fd:n 102e0:n
  10376-1037a:n 10a01-10a03:n 10a05-10a06:n 10a0c-10a0f:n 10a38-10a3a:n 10a3f:n 10ae5-10ae6:n
  10d24-10d27:n 10d69-10d6d:n 10eab-10eac:n 10efa-10eff:n 10f46-10f50:n 10f82-10f85:n 11000:s
  11001:n 11002:s 11038-11046:n 11070:n 11073-11074:n 1107f-11081:n 11082:s 110b0-110b2:s
  110b3-110b6:n 110b7-110b8:s 110b9-110ba:n 110c2:n 11100-11102:n 11127-1112b:n 1112c:s
  1112d-11134:n 11145-11146:s 11173:n 11180-11181:n 11182:s 111b3-111b5:s 111b6-111be:n
  111bf-111c0:s 111c9-111cc:n 111ce:s 111cf:n 1122c-1122e:s 1122f-11231:n 11232-11233:s 11234:n
  11235:s 11236-11237:n 1123e:n 11241:n 112df:n 112e0-112e2:s 112e3-112ea:n 11300-11301:n
  11302-11303:s 1133b-1133c:n 1133e-1133f:s 11340:n 11341-11344:s 11347-11348:s 1134b-1134d:s
  11357:s 11362-11363:s 11366-1136c:n 11370-11374:n 113b8-113ba:s 113bb-113c0:n 113c2:s 113c5:s
  113c7-113ca:s 113cc-113cd:s 113ce:n 113cf:s 113d0:n 113d2:n 113e1-113e2:n 11435-11437:s
  11438-1143f:n 11440-11441:s 11442-11444:n 11445:s 11446:n 1145e:n 114b0-114b2:s 114b3-114b8:n
  114b9:s 114ba:n 114bb-114be:s 114bf-114c0:n 114c1:s 114c2-114c3:n 115af-115b1:s 115b2-115b5:n
  115b8-115bb:s 115bc-115bd:n 115be:s 115bf-115c0:n 115dc-115dd:n 11630-11632:s 11633-1163a:n
  1163b-1163c:s 1163d:n 1163e:s 1163f-11640:n 116ab:n 116ac:s 116ad:n 116ae-116af:s 116b0-116b5:n
  116b6:s 116b7:n 1171d:n 1171e:s 1171f:n 11720-11721:s 11722-11725:n 11726:s 11727-1172b:n
  1182c-1182e:s 1182f-11837:n 11838:s 11839-1183a:n 11930-11935:s 11937-11938:s 1193b-1193c:n
  1193d:s 1193e:n 11940:s 11942:s 11943:n 119d1-119d3:s 119d4-119d7:n 119da-119db:n 119dc-119df:s
  119e0:n 119e4:s 11a01-11a0a:n 11a33-11a38:n 11a39:s 11a3b-11a3e:n 11a47:n 11a51-11a56:n
  11a57-11a58:s 11a59-11a5b:n 11a8a-11a96:n 11a97:s 11a98-11a99:n 11b60:n 11b61:s 11b62-11b64:n
  11b65:s 11b66:n 11b67:s 11c2f:s 11c30-11c36:n 11c38-11c3d:n 11c3e:s 11c3f:n 11c92-11ca7:n
  11ca9:s 11caa-11cb0:n 11cb1:s 11cb2-11cb3:n 11cb4:s 11cb5-11cb6:n 11d31-11d36:n 11d3a:n
  11d3c-11d3d:n 11d3f-11d45:n 11d47:n 11d8a-11d8e:s 11d90-11d91:n 11d93-11d94:s 11d95:n 11d96:s
  11d97:n 11ef3-11ef4:n 11ef5-11ef6:s 11f00-11f01:n 11f03:s 11f34-11f35:s 11f36-11f3a:n
  11f3e-11f3f:s 11f40:n 11f41:s 11f42:n 11f5a:n 13440:n 13447-13455:n 1611e-16129:n 1612a-1612c:s
  1612d-1612f:n 16af0-16af4:n 16b30-16b36:n 16f4f:n 16f51-16f87:s 16f8f-16f92:n 16fe4:n
  16ff0-16ff1:s 1bc9d-1bc9e:n 1cf00-1cf2d:n 1cf30-1cf46:n 1d165-1d166:s 1d167-1d169:n
  1d16d-1d172:s 1d17b-1d182:n 1d185-1d18b:n 1d1aa-1d1ad:n 1d242-1d244:n 1da00-1da36:n
  1da3b-1da6c:n 1da75:n 1da84:n 1da9b-1da9f:n 1daa1-1daaf:n 1e000-1e006:n 1e008-1e018:n
  1e01b-1e021:n 1e023-1e024:n 1e026-1e02a:n 1e08f:n 1e130-1e136:n 1e2ae:n 1e2ec-1e2ef:n
  1e4ec-1e4ef:n 1e5ee-1e5ef:n 1e6e3:n 1e6e6:n 1e6ee-1e6ef:n 1e6f5:n 1e8d0-1e8d6:n 1e944-1e94a:n
  e0100-e01ef:n"

end Mark

/-- **The kind of a mark**; other characters have none. -/
def mark? (c : Char) : Option Mark := Mark.table.get? c

/-- Whether a character is a mark without space of its own. -/
def isNonspacing (c : Char) : Bool := mark? c == some .nonspacing

end Airdrop.Text
