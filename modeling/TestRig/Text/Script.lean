import TestRig.Text.Category

/-!
Scripts of Unicode 17.0: the writing system each code point belongs to, `Common` for those
that several share and `Inherited` for marks that take the script of their base. The table
holds, as runs, the position of the script's name in `scriptNames` counted from one; zero is
the unknown script of unassigned code points, which has no name here.
-/

namespace TestRig.Text

def scriptNames : Array String :=
  #["Adlam", "Ahom", "Anatolian_Hieroglyphs", "Arabic", "Armenian", "Avestan", "Balinese",
    "Bamum", "Bassa_Vah", "Batak", "Bengali", "Beria_Erfe", "Bhaiksuki", "Bopomofo", "Brahmi",
    "Braille", "Buginese", "Buhid", "Canadian_Aboriginal", "Carian", "Caucasian_Albanian",
    "Chakma", "Cham", "Cherokee", "Chorasmian", "Common", "Coptic", "Cuneiform", "Cypriot",
    "Cypro_Minoan", "Cyrillic", "Deseret", "Devanagari", "Dives_Akuru", "Dogra", "Duployan",
    "Egyptian_Hieroglyphs", "Elbasan", "Elymaic", "Ethiopic", "Garay", "Georgian", "Glagolitic",
    "Gothic", "Grantha", "Greek", "Gujarati", "Gunjala_Gondi", "Gurmukhi", "Gurung_Khema", "Han",
    "Hangul", "Hanifi_Rohingya", "Hanunoo", "Hatran", "Hebrew", "Hiragana", "Imperial_Aramaic",
    "Inherited", "Inscriptional_Pahlavi", "Inscriptional_Parthian", "Javanese", "Kaithi",
    "Kannada", "Katakana", "Kawi", "Kayah_Li", "Kharoshthi", "Khitan_Small_Script", "Khmer",
    "Khojki", "Khudawadi", "Kirat_Rai", "Lao", "Latin", "Lepcha", "Limbu", "Linear_A",
    "Linear_B", "Lisu", "Lycian", "Lydian", "Mahajani", "Makasar", "Malayalam", "Mandaic",
    "Manichaean", "Marchen", "Masaram_Gondi", "Medefaidrin", "Meetei_Mayek", "Mende_Kikakui",
    "Meroitic_Cursive", "Meroitic_Hieroglyphs", "Miao", "Modi", "Mongolian", "Mro", "Multani",
    "Myanmar", "Nabataean", "Nag_Mundari", "Nandinagari", "New_Tai_Lue", "Newa", "Nko", "Nushu",
    "Nyiakeng_Puachue_Hmong", "Ogham", "Ol_Chiki", "Ol_Onal", "Old_Hungarian", "Old_Italic",
    "Old_North_Arabian", "Old_Permic", "Old_Persian", "Old_Sogdian", "Old_South_Arabian",
    "Old_Turkic", "Old_Uyghur", "Oriya", "Osage", "Osmanya", "Pahawh_Hmong", "Palmyrene",
    "Pau_Cin_Hau", "Phags_Pa", "Phoenician", "Psalter_Pahlavi", "Rejang", "Runic", "Samaritan",
    "Saurashtra", "Sharada", "Shavian", "Siddham", "Sidetic", "SignWriting", "Sinhala",
    "Sogdian", "Sora_Sompeng", "Soyombo", "Sundanese", "Sunuwar", "Syloti_Nagri", "Syriac",
    "Tagalog", "Tagbanwa", "Tai_Le", "Tai_Tham", "Tai_Viet", "Tai_Yo", "Takri", "Tamil",
    "Tangsa", "Tangut", "Telugu", "Thaana", "Thai", "Tibetan", "Tifinagh", "Tirhuta", "Todhri",
    "Tolong_Siki", "Toto", "Tulu_Tigalari", "Ugaritic", "Vai", "Vithkuqi", "Wancho",
    "Warang_Citi", "Yezidi", "Yi", "Zanabazar_Square"]

def scriptTable : CodeTable := CodeTable.ofRuns
  ["0:1A 41:4B 5B:1A 61:4B 7B:1A AA:4B AB:1A BA:4B BB:1A C0:4B D7:1A D8:4B F7:1A F8:4B 2B9:1A",
   "2E0:4B 2E5:1A 2EA:E 2EC:1A 300:3B 370:2E 374:1A 375:2E 378:0 37A:2E 37E:1A 37F:2E 380:0",
   "384:2E 385:1A 386:2E 387:1A 388:2E 38B:0 38C:2E 38D:0 38E:2E 3A2:0 3A3:2E 3E2:1B 3F0:2E",
   "400:1F 485:3B 487:1F 530:0 531:5 557:0 559:5 58B:0 58D:5 590:0 591:38 5C8:0 5D0:38 5EB:0",
   "5EF:38 5F5:0 600:4 605:1A 606:4 60C:1A 60D:4 61B:1A 61C:4 61F:1A 620:4 640:1A 641:4 64B:3B",
   "656:4 670:3B 671:4 6DD:1A 6DE:4 700:92 70E:0 70F:92 74B:0 74D:92 750:4 780:9E 7B2:0 7C0:6A",
   "7FB:0 7FD:6A 800:84 82E:0 830:84 83F:0 840:56 85C:0 85E:56 85F:0 860:92 86B:0 870:4 892:0",
   "897:4 8E2:1A 8E3:4 900:21 951:3B 955:21 964:1A 966:21 980:B 984:0 985:B 98D:0 98F:B 991:0",
   "993:B 9A9:0 9AA:B 9B1:0 9B2:B 9B3:0 9B6:B 9BA:0 9BC:B 9C5:0 9C7:B 9C9:0 9CB:B 9CF:0 9D7:B",
   "9D8:0 9DC:B 9DE:0 9DF:B 9E4:0 9E6:B 9FF:0 A01:31 A04:0 A05:31 A0B:0 A0F:31 A11:0 A13:31",
   "A29:0 A2A:31 A31:0 A32:31 A34:0 A35:31 A37:0 A38:31 A3A:0 A3C:31 A3D:0 A3E:31 A43:0 A47:31",
   "A49:0 A4B:31 A4E:0 A51:31 A52:0 A59:31 A5D:0 A5E:31 A5F:0 A66:31 A77:0 A81:2F A84:0 A85:2F",
   "A8E:0 A8F:2F A92:0 A93:2F AA9:0 AAA:2F AB1:0 AB2:2F AB4:0 AB5:2F ABA:0 ABC:2F AC6:0 AC7:2F",
   "ACA:0 ACB:2F ACE:0 AD0:2F AD1:0 AE0:2F AE4:0 AE6:2F AF2:0 AF9:2F B00:0 B01:79 B04:0 B05:79",
   "B0D:0 B0F:79 B11:0 B13:79 B29:0 B2A:79 B31:0 B32:79 B34:0 B35:79 B3A:0 B3C:79 B45:0 B47:79",
   "B49:0 B4B:79 B4E:0 B55:79 B58:0 B5C:79 B5E:0 B5F:79 B64:0 B66:79 B78:0 B82:9A B84:0 B85:9A",
   "B8B:0 B8E:9A B91:0 B92:9A B96:0 B99:9A B9B:0 B9C:9A B9D:0 B9E:9A BA0:0 BA3:9A BA5:0 BA8:9A",
   "BAB:0 BAE:9A BBA:0 BBE:9A BC3:0 BC6:9A BC9:0 BCA:9A BCE:0 BD0:9A BD1:0 BD7:9A BD8:0 BE6:9A",
   "BFB:0 C00:9D C0D:0 C0E:9D C11:0 C12:9D C29:0 C2A:9D C3A:0 C3C:9D C45:0 C46:9D C49:0 C4A:9D",
   "C4E:0 C55:9D C57:0 C58:9D C5B:0 C5C:9D C5E:0 C60:9D C64:0 C66:9D C70:0 C77:9D C80:40 C8D:0",
   "C8E:40 C91:0 C92:40 CA9:0 CAA:40 CB4:0 CB5:40 CBA:0 CBC:40 CC5:0 CC6:40 CC9:0 CCA:40 CCE:0",
   "CD5:40 CD7:0 CDC:40 CDF:0 CE0:40 CE4:0 CE6:40 CF0:0 CF1:40 CF4:0 D00:55 D0D:0 D0E:55 D11:0",
   "D12:55 D45:0 D46:55 D49:0 D4A:55 D50:0 D54:55 D64:0 D66:55 D80:0 D81:8B D84:0 D85:8B D97:0",
   "D9A:8B DB2:0 DB3:8B DBC:0 DBD:8B DBE:0 DC0:8B DC7:0 DCA:8B DCB:0 DCF:8B DD5:0 DD6:8B DD7:0",
   "DD8:8B DE0:0 DE6:8B DF0:0 DF2:8B DF5:0 E01:9F E3B:0 E3F:1A E40:9F E5C:0 E81:4A E83:0",
   "E84:4A E85:0 E86:4A E8B:0 E8C:4A EA4:0 EA5:4A EA6:0 EA7:4A EBE:0 EC0:4A EC5:0 EC6:4A EC7:0",
   "EC8:4A ECF:0 ED0:4A EDA:0 EDC:4A EE0:0 F00:A0 F48:0 F49:A0 F6D:0 F71:A0 F98:0 F99:A0 FBD:0",
   "FBE:A0 FCD:0 FCE:A0 FD5:1A FD9:A0 FDB:0 1000:64 10A0:2A 10C6:0 10C7:2A 10C8:0 10CD:2A",
   "10CE:0 10D0:2A 10FB:1A 10FC:2A 1100:34 1200:28 1249:0 124A:28 124E:0 1250:28 1257:0",
   "1258:28 1259:0 125A:28 125E:0 1260:28 1289:0 128A:28 128E:0 1290:28 12B1:0 12B2:28 12B6:0",
   "12B8:28 12BF:0 12C0:28 12C1:0 12C2:28 12C6:0 12C8:28 12D7:0 12D8:28 1311:0 1312:28 1316:0",
   "1318:28 135B:0 135D:28 137D:0 1380:28 139A:0 13A0:18 13F6:0 13F8:18 13FE:0 1400:13 1680:6D",
   "169D:0 16A0:83 16EB:1A 16EE:83 16F9:0 1700:93 1716:0 171F:93 1720:36 1735:1A 1737:0",
   "1740:12 1754:0 1760:94 176D:0 176E:94 1771:0 1772:94 1774:0 1780:46 17DE:0 17E0:46 17EA:0",
   "17F0:46 17FA:0 1800:61 1802:1A 1804:61 1805:1A 1806:61 181A:0 1820:61 1879:0 1880:61",
   "18AB:0 18B0:13 18F6:0 1900:4D 191F:0 1920:4D 192C:0 1930:4D 193C:0 1940:4D 1941:0 1944:4D",
   "1950:95 196E:0 1970:95 1975:0 1980:68 19AC:0 19B0:68 19CA:0 19D0:68 19DB:0 19DE:68 19E0:46",
   "1A00:11 1A1C:0 1A1E:11 1A20:96 1A5F:0 1A60:96 1A7D:0 1A7F:96 1A8A:0 1A90:96 1A9A:0 1AA0:96",
   "1AAE:0 1AB0:3B 1ADE:0 1AE0:3B 1AEC:0 1B00:7 1B4D:0 1B4E:7 1B80:8F 1BC0:A 1BF4:0 1BFC:A",
   "1C00:4C 1C38:0 1C3B:4C 1C4A:0 1C4D:4C 1C50:6E 1C80:1F 1C8B:0 1C90:2A 1CBB:0 1CBD:2A",
   "1CC0:8F 1CC8:0 1CD0:3B 1CD3:1A 1CD4:3B 1CE1:1A 1CE2:3B 1CE9:1A 1CED:3B 1CEE:1A 1CF4:3B",
   "1CF5:1A 1CF8:3B 1CFA:1A 1CFB:0 1D00:4B 1D26:2E 1D2B:1F 1D2C:4B 1D5D:2E 1D62:4B 1D66:2E",
   "1D6B:4B 1D78:1F 1D79:4B 1DBF:2E 1DC0:3B 1E00:4B 1F00:2E 1F16:0 1F18:2E 1F1E:0 1F20:2E",
   "1F46:0 1F48:2E 1F4E:0 1F50:2E 1F58:0 1F59:2E 1F5A:0 1F5B:2E 1F5C:0 1F5D:2E 1F5E:0 1F5F:2E",
   "1F7E:0 1F80:2E 1FB5:0 1FB6:2E 1FC5:0 1FC6:2E 1FD4:0 1FD6:2E 1FDC:0 1FDD:2E 1FF0:0 1FF2:2E",
   "1FF5:0 1FF6:2E 1FFF:0 2000:1A 200C:3B 200E:1A 2065:0 2066:1A 2071:4B 2072:0 2074:1A",
   "207F:4B 2080:1A 208F:0 2090:4B 209D:0 20A0:1A 20C2:0 20D0:3B 20F1:0 2100:1A 2126:2E",
   "2127:1A 212A:4B 212C:1A 2132:4B 2133:1A 214E:4B 214F:1A 2160:4B 2189:1A 218C:0 2190:1A",
   "242A:0 2440:1A 244B:0 2460:1A 2800:10 2900:1A 2B74:0 2B76:1A 2C00:2B 2C60:4B 2C80:1B",
   "2CF4:0 2CF9:1B 2D00:2A 2D26:0 2D27:2A 2D28:0 2D2D:2A 2D2E:0 2D30:A1 2D68:0 2D6F:A1 2D71:0",
   "2D7F:A1 2D80:28 2D97:0 2DA0:28 2DA7:0 2DA8:28 2DAF:0 2DB0:28 2DB7:0 2DB8:28 2DBF:0 2DC0:28",
   "2DC7:0 2DC8:28 2DCF:0 2DD0:28 2DD7:0 2DD8:28 2DDF:0 2DE0:1F 2E00:1A 2E5E:0 2E80:33 2E9A:0",
   "2E9B:33 2EF4:0 2F00:33 2FD6:0 2FF0:1A 3005:33 3006:1A 3007:33 3008:1A 3021:33 302A:3B",
   "302E:34 3030:1A 3038:33 303C:1A 3040:0 3041:39 3097:0 3099:3B 309B:1A 309D:39 30A0:1A",
   "30A1:41 30FB:1A 30FD:41 3100:0 3105:E 3130:0 3131:34 318F:0 3190:1A 31A0:E 31C0:1A 31E6:0",
   "31EF:1A 31F0:41 3200:34 321F:0 3220:1A 3260:34 327F:1A 32D0:41 32FF:1A 3300:41 3358:1A",
   "3400:33 4DC0:1A 4E00:33 A000:AD A48D:0 A490:AD A4C7:0 A4D0:50 A500:A8 A62C:0 A640:1F",
   "A6A0:8 A6F8:0 A700:1A A722:4B A788:1A A78B:4B A7DD:0 A7F1:4B A800:91 A82D:0 A830:1A A83A:0",
   "A840:7F A878:0 A880:85 A8C6:0 A8CE:85 A8DA:0 A8E0:21 A900:43 A92E:1A A92F:43 A930:82",
   "A954:0 A95F:82 A960:34 A97D:0 A980:3E A9CE:0 A9CF:1A A9D0:3E A9DA:0 A9DE:3E A9E0:64 A9FF:0",
   "AA00:17 AA37:0 AA40:17 AA4E:0 AA50:17 AA5A:0 AA5C:17 AA60:64 AA80:97 AAC3:0 AADB:97",
   "AAE0:5B AAF7:0 AB01:28 AB07:0 AB09:28 AB0F:0 AB11:28 AB17:0 AB20:28 AB27:0 AB28:28 AB2F:0",
   "AB30:4B AB5B:1A AB5C:4B AB65:2E AB66:4B AB6A:1A AB6C:0 AB70:18 ABC0:5B ABEE:0 ABF0:5B",
   "ABFA:0 AC00:34 D7A4:0 D7B0:34 D7C7:0 D7CB:34 D7FC:0 F900:33 FA6E:0 FA70:33 FADA:0 FB00:4B",
   "FB07:0 FB13:5 FB18:0 FB1D:38 FB37:0 FB38:38 FB3D:0 FB3E:38 FB3F:0 FB40:38 FB42:0 FB43:38",
   "FB45:0 FB46:38 FB50:4 FD3E:1A FD40:4 FDD0:0 FDF0:4 FE00:3B FE10:1A FE1A:0 FE20:3B FE2E:1F",
   "FE30:1A FE53:0 FE54:1A FE67:0 FE68:1A FE6C:0 FE70:4 FE75:0 FE76:4 FEFD:0 FEFF:1A FF00:0",
   "FF01:1A FF21:4B FF3B:1A FF41:4B FF5B:1A FF66:41 FF70:1A FF71:41 FF9E:1A FFA0:34 FFBF:0",
   "FFC2:34 FFC8:0 FFCA:34 FFD0:0 FFD2:34 FFD8:0 FFDA:34 FFDD:0 FFE0:1A FFE7:0 FFE8:1A FFEF:0",
   "FFF9:1A FFFE:0 10000:4F 1000C:0 1000D:4F 10027:0 10028:4F 1003B:0 1003C:4F 1003E:0",
   "1003F:4F 1004E:0 10050:4F 1005E:0 10080:4F 100FB:0 10100:1A 10103:0 10107:1A 10134:0",
   "10137:1A 10140:2E 1018F:0 10190:1A 1019D:0 101A0:2E 101A1:0 101D0:1A 101FD:3B 101FE:0",
   "10280:51 1029D:0 102A0:14 102D1:0 102E0:3B 102E1:1A 102FC:0 10300:71 10324:0 1032D:71",
   "10330:2C 1034B:0 10350:73 1037B:0 10380:A7 1039E:0 1039F:A7 103A0:74 103C4:0 103C8:74",
   "103D6:0 10400:20 10450:87 10480:7B 1049E:0 104A0:7B 104AA:0 104B0:7A 104D4:0 104D8:7A",
   "104FC:0 10500:26 10528:0 10530:15 10564:0 1056F:15 10570:A9 1057B:0 1057C:A9 1058B:0",
   "1058C:A9 10593:0 10594:A9 10596:0 10597:A9 105A2:0 105A3:A9 105B2:0 105B3:A9 105BA:0",
   "105BB:A9 105BD:0 105C0:A3 105F4:0 10600:4E 10737:0 10740:4E 10756:0 10760:4E 10768:0",
   "10780:4B 10786:0 10787:4B 107B1:0 107B2:4B 107BB:0 10800:1D 10806:0 10808:1D 10809:0",
   "1080A:1D 10836:0 10837:1D 10839:0 1083C:1D 1083D:0 1083F:1D 10840:3A 10856:0 10857:3A",
   "10860:7D 10880:65 1089F:0 108A7:65 108B0:0 108E0:37 108F3:0 108F4:37 108F6:0 108FB:37",
   "10900:80 1091C:0 1091F:80 10920:52 1093A:0 1093F:52 10940:89 1095A:0 10980:5E 109A0:5D",
   "109B8:0 109BC:5D 109D0:0 109D2:5D 10A00:44 10A04:0 10A05:44 10A07:0 10A0C:44 10A14:0",
   "10A15:44 10A18:0 10A19:44 10A36:0 10A38:44 10A3B:0 10A3F:44 10A49:0 10A50:44 10A59:0",
   "10A60:76 10A80:72 10AA0:0 10AC0:57 10AE7:0 10AEB:57 10AF7:0 10B00:6 10B36:0 10B39:6",
   "10B40:3D 10B56:0 10B58:3D 10B60:3C 10B73:0 10B78:3C 10B80:81 10B92:0 10B99:81 10B9D:0",
   "10BA9:81 10BB0:0 10C00:77 10C49:0 10C80:70 10CB3:0 10CC0:70 10CF3:0 10CFA:70 10D00:35",
   "10D28:0 10D30:35 10D3A:0 10D40:29 10D66:0 10D69:29 10D86:0 10D8E:29 10D90:0 10E60:4",
   "10E7F:0 10E80:AC 10EAA:0 10EAB:AC 10EAE:0 10EB0:AC 10EB2:0 10EC2:4 10EC8:0 10ED0:4 10ED9:0",
   "10EFA:4 10F00:75 10F28:0 10F30:8C 10F5A:0 10F70:78 10F8A:0 10FB0:19 10FCC:0 10FE0:27",
   "10FF7:0 11000:F 1104E:0 11052:F 11076:0 1107F:F 11080:3F 110C3:0 110CD:3F 110CE:0 110D0:8D",
   "110E9:0 110F0:8D 110FA:0 11100:16 11135:0 11136:16 11148:0 11150:53 11177:0 11180:86",
   "111E0:0 111E1:8B 111F5:0 11200:47 11212:0 11213:47 11242:0 11280:63 11287:0 11288:63",
   "11289:0 1128A:63 1128E:0 1128F:63 1129E:0 1129F:63 112AA:0 112B0:48 112EB:0 112F0:48",
   "112FA:0 11300:2D 11304:0 11305:2D 1130D:0 1130F:2D 11311:0 11313:2D 11329:0 1132A:2D",
   "11331:0 11332:2D 11334:0 11335:2D 1133A:0 1133B:3B 1133C:2D 11345:0 11347:2D 11349:0",
   "1134B:2D 1134E:0 11350:2D 11351:0 11357:2D 11358:0 1135D:2D 11364:0 11366:2D 1136D:0",
   "11370:2D 11375:0 11380:A6 1138A:0 1138B:A6 1138C:0 1138E:A6 1138F:0 11390:A6 113B6:0",
   "113B7:A6 113C1:0 113C2:A6 113C3:0 113C5:A6 113C6:0 113C7:A6 113CB:0 113CC:A6 113D6:0",
   "113D7:A6 113D9:0 113E1:A6 113E3:0 11400:69 1145C:0 1145D:69 11462:0 11480:A2 114C8:0",
   "114D0:A2 114DA:0 11580:88 115B6:0 115B8:88 115DE:0 11600:60 11645:0 11650:60 1165A:0",
   "11660:61 1166D:0 11680:99 116BA:0 116C0:99 116CA:0 116D0:64 116E4:0 11700:2 1171B:0",
   "1171D:2 1172C:0 11730:2 11747:0 11800:23 1183C:0 118A0:AB 118F3:0 118FF:AB 11900:22",
   "11907:0 11909:22 1190A:0 1190C:22 11914:0 11915:22 11917:0 11918:22 11936:0 11937:22",
   "11939:0 1193B:22 11947:0 11950:22 1195A:0 119A0:67 119A8:0 119AA:67 119D8:0 119DA:67",
   "119E5:0 11A00:AE 11A48:0 11A50:8E 11AA3:0 11AB0:13 11AC0:7E 11AF9:0 11B00:21 11B0A:0",
   "11B60:86 11B68:0 11BC0:90 11BE2:0 11BF0:90 11BFA:0 11C00:D 11C09:0 11C0A:D 11C37:0 11C38:D",
   "11C46:0 11C50:D 11C6D:0 11C70:58 11C90:0 11C92:58 11CA8:0 11CA9:58 11CB7:0 11D00:59",
   "11D07:0 11D08:59 11D0A:0 11D0B:59 11D37:0 11D3A:59 11D3B:0 11D3C:59 11D3E:0 11D3F:59",
   "11D48:0 11D50:59 11D5A:0 11D60:30 11D66:0 11D67:30 11D69:0 11D6A:30 11D8F:0 11D90:30",
   "11D92:0 11D93:30 11D99:0 11DA0:30 11DAA:0 11DB0:A4 11DDC:0 11DE0:A4 11DEA:0 11EE0:54",
   "11EF9:0 11F00:42 11F11:0 11F12:42 11F3B:0 11F3E:42 11F5B:0 11FB0:50 11FB1:0 11FC0:9A",
   "11FF2:0 11FFF:9A 12000:1C 1239A:0 12400:1C 1246F:0 12470:1C 12475:0 12480:1C 12544:0",
   "12F90:1E 12FF3:0 13000:25 13456:0 13460:25 143FB:0 14400:3 14647:0 16100:32 1613A:0",
   "16800:8 16A39:0 16A40:62 16A5F:0 16A60:62 16A6A:0 16A6E:62 16A70:9B 16ABF:0 16AC0:9B",
   "16ACA:0 16AD0:9 16AEE:0 16AF0:9 16AF6:0 16B00:7C 16B46:0 16B50:7C 16B5A:0 16B5B:7C 16B62:0",
   "16B63:7C 16B78:0 16B7D:7C 16B90:0 16D40:49 16D7A:0 16E40:5A 16E9B:0 16EA0:C 16EB9:0",
   "16EBB:C 16ED4:0 16F00:5F 16F4B:0 16F4F:5F 16F88:0 16F8F:5F 16FA0:0 16FE0:9C 16FE1:6B",
   "16FE2:33 16FE4:45 16FE5:0 16FF0:33 16FF7:0 17000:9C 18B00:45 18CD6:0 18CFF:45 18D00:9C",
   "18D1F:0 18D80:9C 18DF3:0 1AFF0:41 1AFF4:0 1AFF5:41 1AFFC:0 1AFFD:41 1AFFF:0 1B000:41",
   "1B001:39 1B120:41 1B123:0 1B132:39 1B133:0 1B150:39 1B153:0 1B155:41 1B156:0 1B164:41",
   "1B168:0 1B170:6B 1B2FC:0 1BC00:24 1BC6B:0 1BC70:24 1BC7D:0 1BC80:24 1BC89:0 1BC90:24",
   "1BC9A:0 1BC9C:24 1BCA0:1A 1BCA4:0 1CC00:1A 1CCFD:0 1CD00:1A 1CEB4:0 1CEBA:1A 1CED1:0",
   "1CEE0:1A 1CEF1:0 1CF00:3B 1CF2E:0 1CF30:3B 1CF47:0 1CF50:1A 1CFC4:0 1D000:1A 1D0F6:0",
   "1D100:1A 1D127:0 1D129:1A 1D167:3B 1D16A:1A 1D17B:3B 1D183:1A 1D185:3B 1D18C:1A 1D1AA:3B",
   "1D1AE:1A 1D1EB:0 1D200:2E 1D246:0 1D2C0:1A 1D2D4:0 1D2E0:1A 1D2F4:0 1D300:1A 1D357:0",
   "1D360:1A 1D379:0 1D400:1A 1D455:0 1D456:1A 1D49D:0 1D49E:1A 1D4A0:0 1D4A2:1A 1D4A3:0",
   "1D4A5:1A 1D4A7:0 1D4A9:1A 1D4AD:0 1D4AE:1A 1D4BA:0 1D4BB:1A 1D4BC:0 1D4BD:1A 1D4C4:0",
   "1D4C5:1A 1D506:0 1D507:1A 1D50B:0 1D50D:1A 1D515:0 1D516:1A 1D51D:0 1D51E:1A 1D53A:0",
   "1D53B:1A 1D53F:0 1D540:1A 1D545:0 1D546:1A 1D547:0 1D54A:1A 1D551:0 1D552:1A 1D6A6:0",
   "1D6A8:1A 1D7CC:0 1D7CE:1A 1D800:8A 1DA8C:0 1DA9B:8A 1DAA0:0 1DAA1:8A 1DAB0:0 1DF00:4B",
   "1DF1F:0 1DF25:4B 1DF2B:0 1E000:2B 1E007:0 1E008:2B 1E019:0 1E01B:2B 1E022:0 1E023:2B",
   "1E025:0 1E026:2B 1E02B:0 1E030:1F 1E06E:0 1E08F:1F 1E090:0 1E100:6C 1E12D:0 1E130:6C",
   "1E13E:0 1E140:6C 1E14A:0 1E14E:6C 1E150:0 1E290:A5 1E2AF:0 1E2C0:AA 1E2FA:0 1E2FF:AA",
   "1E300:0 1E4D0:66 1E4FA:0 1E5D0:6F 1E5FB:0 1E5FF:6F 1E600:0 1E6C0:98 1E6DF:0 1E6E0:98",
   "1E6F6:0 1E6FE:98 1E700:0 1E7E0:28 1E7E7:0 1E7E8:28 1E7EC:0 1E7ED:28 1E7EF:0 1E7F0:28",
   "1E7FF:0 1E800:5C 1E8C5:0 1E8C7:5C 1E8D7:0 1E900:1 1E94C:0 1E950:1 1E95A:0 1E95E:1 1E960:0",
   "1EC71:1A 1ECB5:0 1ED01:1A 1ED3E:0 1EE00:4 1EE04:0 1EE05:4 1EE20:0 1EE21:4 1EE23:0 1EE24:4",
   "1EE25:0 1EE27:4 1EE28:0 1EE29:4 1EE33:0 1EE34:4 1EE38:0 1EE39:4 1EE3A:0 1EE3B:4 1EE3C:0",
   "1EE42:4 1EE43:0 1EE47:4 1EE48:0 1EE49:4 1EE4A:0 1EE4B:4 1EE4C:0 1EE4D:4 1EE50:0 1EE51:4",
   "1EE53:0 1EE54:4 1EE55:0 1EE57:4 1EE58:0 1EE59:4 1EE5A:0 1EE5B:4 1EE5C:0 1EE5D:4 1EE5E:0",
   "1EE5F:4 1EE60:0 1EE61:4 1EE63:0 1EE64:4 1EE65:0 1EE67:4 1EE6B:0 1EE6C:4 1EE73:0 1EE74:4",
   "1EE78:0 1EE79:4 1EE7D:0 1EE7E:4 1EE7F:0 1EE80:4 1EE8A:0 1EE8B:4 1EE9C:0 1EEA1:4 1EEA4:0",
   "1EEA5:4 1EEAA:0 1EEAB:4 1EEBC:0 1EEF0:4 1EEF2:0 1F000:1A 1F02C:0 1F030:1A 1F094:0 1F0A0:1A",
   "1F0AF:0 1F0B1:1A 1F0C0:0 1F0C1:1A 1F0D0:0 1F0D1:1A 1F0F6:0 1F100:1A 1F1AE:0 1F1E6:1A",
   "1F200:39 1F201:1A 1F203:0 1F210:1A 1F23C:0 1F240:1A 1F249:0 1F250:1A 1F252:0 1F260:1A",
   "1F266:0 1F300:1A 1F6D9:0 1F6DC:1A 1F6ED:0 1F6F0:1A 1F6FD:0 1F700:1A 1F7DA:0 1F7E0:1A",
   "1F7EC:0 1F7F0:1A 1F7F1:0 1F800:1A 1F80C:0 1F810:1A 1F848:0 1F850:1A 1F85A:0 1F860:1A",
   "1F888:0 1F890:1A 1F8AE:0 1F8B0:1A 1F8BC:0 1F8C0:1A 1F8C2:0 1F8D0:1A 1F8D9:0 1F900:1A",
   "1FA58:0 1FA60:1A 1FA6E:0 1FA70:1A 1FA7D:0 1FA80:1A 1FA8B:0 1FA8E:1A 1FAC7:0 1FAC8:1A",
   "1FAC9:0 1FACD:1A 1FADD:0 1FADF:1A 1FAEB:0 1FAEF:1A 1FAF9:0 1FB00:1A 1FB93:0 1FB94:1A",
   "1FBFB:0 20000:33 2A6E0:0 2A700:33 2B81E:0 2B820:33 2CEAE:0 2CEB0:33 2EBE1:0 2EBF0:33",
   "2EE5E:0 2F800:33 2FA1E:0 30000:33 3134B:0 31350:33 3347A:0 E0001:1A E0002:0 E0020:1A",
   "E0080:0 E0100:3B E01F0:0"]

def scriptOfName? (s : String) : Option Nat :=
  (scriptNames.findIdx? (fun n => looseName n == looseName s)).map (· + 1)

def scriptOf (c : Char) : Nat := scriptTable.value c.toNat

end TestRig.Text
