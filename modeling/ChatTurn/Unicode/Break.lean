import ChatTurn.Unicode.Property

namespace ChatTurn.Unicode.Break

open CharSet

def grapheme : List (List String × CharSet) :=
  [(["cr"], .ofLines
      ["D"]),
    (["cn", "control"], .ofLines
      ["0-9 B-C E-1F 7F-9F AD 61C 180E 200B 200E-200F 2028-202E 2060-206F FEFF FFF0-FFFB",
        "13430-1343F 1BCA0-1BCA3 1D173-1D17A E0000-E001F E0080-E00FF E01F0-E0FFF"]),
    (["ex", "extend"], union Property.graphemeExtend Property.emojiModifier),
    (["l"], .ofLines
      ["1100-115F A960-A97C"]),
    (["lf"], .ofLines
      ["A"]),
    (["lv"], .ofLines
      ["AC00-D788/1C"]),
    (["lvt"], diff (range 0xAC00 0xD7A3) (.ofLines ["AC00-D788/1C"])),
    (["pp", "prepend"], .ofLines
      ["600-605 6DD 70F 890-891 8E2 D4E 110BD 110CD 111C2-111C3 113D1 1193F 11941 11A3A",
        "11A84-11A89 11D46 11F02"]),
    (["ri", "regionalindicator"], .ofLines
      ["1F1E6-1F1FF"]),
    (["sm", "spacingmark"],
      symmDiff Category.spacingMark <| .ofLines
      ["9BE 9D7 B3E B57 BBE BD7 CC0 CC2 CC7-CC8 CCA-CCB CD5-CD6 D3E D57 DCF DDF E33 EB3",
        "102B-102C 1038 1062-1064 1067-106D 1083 1087-108C 108F 109A-109C 1715 1734 1A61",
        "1A63-1A64 1B35 1B3B 1B3D 1B43-1B44 1BAA 1BF2-1BF3 302E-302F A953 A9C0 AA7B AA7D 111C0",
        "11235 1133E 1134D 11357 113B8 113C2 113C5 113C7-113C9 113CF 114B0 114BD 115AF 116B6",
        "11720-11721 11930 1193D 11F41 16FF0-16FF1 1D165-1D166 1D16D-1D172"]),
    (["t"], .ofLines
      ["11A8-11FF D7CB-D7FB"]),
    (["v"], .ofLines
      ["1160-11A7 D7B0-D7C6 16D63 16D67-16D6A"]),
    (["zwj"], .ofLines
      ["200D"])]

def word : List (List String × CharSet) :=
  [(["le", "aletter"],
      symmDiff Property.alphabetic <| .ofLines
      ["2C2-2C5 2D2-2D7 2DE-2DF 2E5-2EB 2ED 2EF-2FF 345 363-36F 55A-55C 55E 58A 5B0-5BD 5BF",
        "5C1-5C2 5C4-5C5 5C7 5D0-5EA 5EF-5F3 610-61A 64B-657 659-65F 670 6D6-6DC 6E1-6E4 6E7-6E8",
        "6ED 711 730-73F 7A6-7B0 816-817 81B-823 825-827 829-82C 897 8D4-8DF 8E3-8E9 8F0-903",
        "93A-93B 93E-94C 94E-94F 955-957 962-963 981-983 9BE-9C4 9C7-9C8 9CB-9CC 9D7 9E2-9E3",
        "A01-A03 A3E-A42 A47-A48 A4B-A4C A51 A70-A71 A75 A81-A83 ABE-AC5 AC7-AC9 ACB-ACC AE2-AE3",
        "AFA-AFC B01-B03 B3E-B44 B47-B48 B4B-B4C B56-B57 B62-B63 B82 BBE-BC2 BC6-BC8 BCA-BCC BD7",
        "C00-C04 C3E-C44 C46-C48 C4A-C4C C55-C56 C62-C63 C81-C83 CBE-CC4 CC6-CC8 CCA-CCC CD5-CD6",
        "CE2-CE3 CF3 D00-D03 D3E-D44 D46-D48 D4A-D4C D57 D62-D63 D81-D83 DCF-DD4 DD6 DD8-DDF",
        "DF2-DF3 E01-E3A E40-E46 E4D E81-E82 E84 E86-E8A E8C-EA3 EA5 EA7-EB9 EBB-EBD EC0-EC4 EC6",
        "ECD EDC-EDF F71-F83 F8D-F97 F99-FBC 1000-1036 1038 103B-103F 1050-108F 109A-109D",
        "1712-1713 1732-1733 1752-1753 1772-1773 1780-17B3 17B6-17C8 17D7 17DC 1885-1886 18A9",
        "1920-192B 1930-1938 1950-196D 1970-1974 1980-19AB 19B0-19C9 1A17-1A1B 1A20-1A5E",
        "1A61-1A74 1AA7 1ABF-1AC0 1ACC-1ACE 1B00-1B04 1B35-1B43 1B80-1B82 1BA1-1BA9 1BAC-1BAD",
        "1BE7-1BF1 1C24-1C36 1DD3-1DF4 2DE0-2DFF 3006-3007 3021-3029 3031-3035 3038-303A",
        "3041-3096 309D-309F 30A1-30FA 30FC-30FF 31F0-31FF 3400-4DBF 4E00-9FFF A674-A67B",
        "A69E-A69F A708-A716 A720-A721 A789-A78A A802 A80B A823-A827 A880-A881 A8B4-A8C3 A8C5",
        "A8FF A926-A92A A947-A952 A980-A983 A9B4-A9BF A9E0-A9EF A9FA-A9FE AA29-AA36 AA43",
        "AA4C-AA4D AA60-AA76 AA7A-AABE AAC0 AAC2 AADB-AADD AAEB-AAEF AAF5 AB5B ABE3-ABEA",
        "F900-FA6D FA70-FAD9 FB1D-FB28 FB2A-FB36 FB38-FB3C FB3E FB40-FB41 FB43-FB44 FB46-FB4F",
        "FF66-FF9F 10376-1037A 10A01-10A03 10A05-10A06 10A0C-10A0F 10D24-10D27 10D69 10EAB-10EAC",
        "10EFC 11000-11002 11038-11045 11073-11074 11080-11082 110B0-110B8 110C2 11100-11102",
        "11127-11132 11145-11146 11180-11182 111B3-111BF 111CE-111CF 1122C-11234 11237 1123E",
        "11241 112DF-112E8 11300-11303 1133E-11344 11347-11348 1134B-1134C 11357 11362-11363",
        "113B8-113C0 113C2 113C5 113C7-113CA 113CC-113CD 11435-11441 11443-11445 114B0-114C1",
        "115AF-115B5 115B8-115BE 115DC-115DD 11630-1163E 11640 116AB-116B5 11700-1171A",
        "1171D-1172A 11740-11746 1182C-11838 11930-11935 11937-11938 1193B-1193C 11940 11942",
        "119D1-119D7 119DA-119DF 119E4 11A01-11A0A 11A35-11A39 11A3B-11A3E 11A51-11A5B",
        "11A8A-11A97 11C2F-11C36 11C38-11C3E 11C92-11CA7 11CA9-11CB6 11D31-11D36 11D3A",
        "11D3C-11D3D 11D3F-11D41 11D43 11D47 11D8A-11D8E 11D90-11D91 11D93-11D96 11EF3-11EF6",
        "11F00-11F01 11F03 11F34-11F3A 11F3E-11F40 1611E-1612E 16F4F 16F51-16F87 16F8F-16F92",
        "16FF0-16FF1 17000-187F7 18800-18CD5 18CFF-18D08 1AFF0-1AFF3 1AFF5-1AFFB 1AFFD-1AFFE",
        "1B000-1B122 1B132 1B150-1B152 1B155 1B164-1B167 1B170-1B2FB 1BC9E 1E000-1E006",
        "1E008-1E018 1E01B-1E021 1E023-1E024 1E026-1E02A 1E08F 1E947 20000-2A6DF 2A700-2B739",
        "2B740-2B81D 2B820-2CEA1 2CEB0-2EBE0 2EBF0-2EE5D 2F800-2FA1D 30000-3134A 31350-323AF"]),
    (["cr"], .ofLines
      ["D"]),
    (["dq", "doublequote"], .ofLines
      ["22"]),
    (["extend"], unions [Property.graphemeExtend, Category.spacingMark, Property.emojiModifier]),
    (["ex", "extendnumlet"], .ofLines
      ["5F 202F 203F-2040 2054 FE33-FE34 FE4D-FE4F FF3F"]),
    (["fo", "format"],
      symmDiff Category.format <| .ofLines
      ["200B-200D E0020-E007F"]),
    (["hl", "hebrewletter"], .ofLines
      ["5D0-5EA 5EF-5F2 FB1D FB1F-FB28 FB2A-FB36 FB38-FB3C FB3E FB40-FB41 FB43-FB44 FB46-FB4F"]),
    (["ka", "katakana"], .ofLines
      ["3031-3035 309B-309C 30A0-30FA 30FC-30FF 31F0-31FF 32D0-32FE 3300-3357 FF66-FF9D",
        "1AFF0-1AFF3 1AFF5-1AFFB 1AFFD-1AFFE 1B000 1B120-1B122 1B155 1B164-1B167"]),
    (["lf"], .ofLines
      ["A"]),
    (["ml", "midletter"], .ofLines
      ["3A B7 387 55F 5F4 2027 FE13 FE55 FF1A"]),
    (["mn", "midnum"], .ofLines
      ["2C 3B 37E 589 60C-60D 66C 7F8 2044 FE10 FE14 FE50 FE54 FF0C FF1B"]),
    (["mb", "midnumlet"], .ofLines
      ["2E 2018-2019 2024 FE52 FF07 FF0E"]),
    (["nl", "newline"], .ofLines
      ["B-C 85 2028-2029"]),
    (["nu", "numeric"],
      symmDiff Category.decimalNumber <| .ofLines
      ["66B"]),
    (["ri", "regionalindicator"], .ofLines
      ["1F1E6-1F1FF"]),
    (["sq", "singlequote"], .ofLines
      ["27"]),
    (["wsegspace"], .ofLines
      ["20 1680 2000-2006 2008-200A 205F 3000"]),
    (["zwj"], .ofLines
      ["200D"])]

def sentence : List (List String × CharSet) :=
  [(["at", "aterm"], .ofLines
      ["2E 2024 FE52 FF0E"]),
    (["cr"], .ofLines
      ["D"]),
    (["cl", "close"],
      symmDiff (unions [Category.openPunctuation, Category.closePunctuation,
        Category.initialPunctuation, Category.finalPunctuation]) <| .ofLines
      ["22 27 275B-2760 2E00-2E01 2E06-2E08 2E0B 1F676-1F678"]),
    (["ex", "extend"],
      symmDiff (union Property.graphemeExtend Category.spacingMark) <| .ofLines
      ["200D"]),
    (["fo", "format"],
      symmDiff Category.format <| .ofLines
      ["200C-200D E0020-E007F"]),
    (["lf"], .ofLines
      ["A"]),
    (["lo", "lower"],
      symmDiff Property.lowercase <| .ofLines
      ["345 10D0-10FA 10FD-10FF"]),
    (["nu", "numeric"],
      symmDiff Category.decimalNumber <| .ofLines
      ["66B-66C"]),
    (["le", "oletter"],
      symmDiff (diff Property.alphabetic Property.cased) <| .ofLines
      ["363-36F 5B0-5BD 5BF 5C1-5C2 5C4-5C5 5C7 5F3 610-61A 64B-657 659-65F 670 6D6-6DC 6E1-6E4",
        "6E7-6E8 6ED 711 730-73F 7A6-7B0 816-817 81B-823 825-827 829-82C 897 8D4-8DF 8E3-8E9",
        "8F0-903 93A-93B 93E-94C 94E-94F 955-957 962-963 981-983 9BE-9C4 9C7-9C8 9CB-9CC 9D7",
        "9E2-9E3 A01-A03 A3E-A42 A47-A48 A4B-A4C A51 A70-A71 A75 A81-A83 ABE-AC5 AC7-AC9 ACB-ACC",
        "AE2-AE3 AFA-AFC B01-B03 B3E-B44 B47-B48 B4B-B4C B56-B57 B62-B63 B82 BBE-BC2 BC6-BC8",
        "BCA-BCC BD7 C00-C04 C3E-C44 C46-C48 C4A-C4C C55-C56 C62-C63 C81-C83 CBE-CC4 CC6-CC8",
        "CCA-CCC CD5-CD6 CE2-CE3 CF3 D00-D03 D3E-D44 D46-D48 D4A-D4C D57 D62-D63 D81-D83 DCF-DD4",
        "DD6 DD8-DDF DF2-DF3 E31 E34-E3A E4D EB1 EB4-EB9 EBB-EBC ECD F71-F83 F8D-F97 F99-FBC",
        "102B-1036 1038 103B-103E 1056-1059 105E-1060 1062-1064 1067-106D 1071-1074 1082-108D",
        "108F 109A-109D 10D0-10FA 10FD-10FF 1712-1713 1732-1733 1752-1753 1772-1773 17B6-17C8",
        "1885-1886 18A9 1920-192B 1930-1938 1A17-1A1B 1A55-1A5E 1A61-1A74 1ABF-1AC0 1ACC-1ACE",
        "1B00-1B04 1B35-1B43 1B80-1B82 1BA1-1BA9 1BAC-1BAD 1BE7-1BF1 1C24-1C36 1C90-1CBA",
        "1CBD-1CBF 1DD3-1DF4 2DE0-2DFF A674-A67B A69E-A69F A802 A80B A823-A827 A880-A881",
        "A8B4-A8C3 A8C5 A8FF A926-A92A A947-A952 A980-A983 A9B4-A9BF A9E5 AA29-AA36 AA43",
        "AA4C-AA4D AA7B-AA7D AAB0 AAB2-AAB4 AAB7-AAB8 AABE AAEB-AAEF AAF5 ABE3-ABEA FB1E",
        "FF9E-FF9F 10376-1037A 10A01-10A03 10A05-10A06 10A0C-10A0F 10D24-10D27 10D69 10EAB-10EAC",
        "10EFC 11000-11002 11038-11045 11073-11074 11080-11082 110B0-110B8 110C2 11100-11102",
        "11127-11132 11145-11146 11180-11182 111B3-111BF 111CE-111CF 1122C-11234 11237 1123E",
        "11241 112DF-112E8 11300-11303 1133E-11344 11347-11348 1134B-1134C 11357 11362-11363",
        "113B8-113C0 113C2 113C5 113C7-113CA 113CC-113CD 11435-11441 11443-11445 114B0-114C1",
        "115AF-115B5 115B8-115BE 115DC-115DD 11630-1163E 11640 116AB-116B5 1171D-1172A",
        "1182C-11838 11930-11935 11937-11938 1193B-1193C 11940 11942 119D1-119D7 119DA-119DF",
        "119E4 11A01-11A0A 11A35-11A39 11A3B-11A3E 11A51-11A5B 11A8A-11A97 11C2F-11C36",
        "11C38-11C3E 11C92-11CA7 11CA9-11CB6 11D31-11D36 11D3A 11D3C-11D3D 11D3F-11D41 11D43",
        "11D47 11D8A-11D8E 11D90-11D91 11D93-11D96 11EF3-11EF6 11F00-11F01 11F03 11F34-11F3A",
        "11F3E-11F40 1611E-1612E 16F4F 16F51-16F87 16F8F-16F92 16FF0-16FF1 1BC9E 1E000-1E006",
        "1E008-1E018 1E01B-1E021 1E023-1E024 1E026-1E02A 1E08F 1E947"]),
    (["sc", "scontinue"], .ofLines
      ["2C-2D 3A 55D 60C-60D 7F8 1802 1808 2013-2014 3001 FE10-FE11 FE13 FE31-FE32 FE50-FE51",
        "FE55 FE58 FE63 FF0C-FF0D FF1A FF64"]),
    (["st", "sterm"],
      symmDiff Property.sentenceTerminal <| .ofLines
      ["2E 17D4-17D5 2024 2CF9-2CFB FE12 FE15-FE16 FE52 FF0E"]),
    (["se", "sep"], .ofLines
      ["85 2028-2029"]),
    (["sp", "sp"], .ofLines
      ["9 B-C 20 A0 1680 2000-200A 202F 205F 3000"]),
    (["up", "upper"],
      symmDiff (union Property.uppercase Category.titlecaseLetter) <| .ofLines
      ["1C90-1CBA 1CBD-1CBF"])]

end ChatTurn.Unicode.Break
