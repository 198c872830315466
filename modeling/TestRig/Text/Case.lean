import TestRig.Text.CodeTable

/-!
Letter case by the simple one-to-one mappings of Unicode 17.0, and the case-insensitive
comparison built on simple case folding. Characters that fold to one another form an orbit
(`k`, `K` and the Kelvin sign; `s`, `S` and the long s); `simpleFold` steps to the next member
of a character's orbit in code-point order, wrapping to the smallest, so that following it
visits the whole orbit and comes back.
-/

namespace TestRig.Text

def upperTable : CodeTable := CodeTable.ofRuns
  ["61:41 7B:0 B5:39C B6:0 E0:C0 F7:0 F8:D8 FF:178 100:0 101:100 102:0 103:102 104:0 105:104",
   "106:0 107:106 108:0 109:108 10A:0 10B:10A 10C:0 10D:10C 10E:0 10F:10E 110:0 111:110 112:0",
   "113:112 114:0 115:114 116:0 117:116 118:0 119:118 11A:0 11B:11A 11C:0 11D:11C 11E:0",
   "11F:11E 120:0 121:120 122:0 123:122 124:0 125:124 126:0 127:126 128:0 129:128 12A:0",
   "12B:12A 12C:0 12D:12C 12E:0 12F:12E 130:0 131:49 132:0 133:132 134:0 135:134 136:0 137:136",
   "138:0 13A:139 13B:0 13C:13B 13D:0 13E:13D 13F:0 140:13F 141:0 142:141 143:0 144:143 145:0",
   "146:145 147:0 148:147 149:0 14B:14A 14C:0 14D:14C 14E:0 14F:14E 150:0 151:150 152:0",
   "153:152 154:0 155:154 156:0 157:156 158:0 159:158 15A:0 15B:15A 15C:0 15D:15C 15E:0",
   "15F:15E 160:0 161:160 162:0 163:162 164:0 165:164 166:0 167:166 168:0 169:168 16A:0",
   "16B:16A 16C:0 16D:16C 16E:0 16F:16E 170:0 171:170 172:0 173:172 174:0 175:174 176:0",
   "177:176 178:0 17A:179 17B:0 17C:17B 17D:0 17E:17D 17F:53 180:243 181:0 183:182 184:0",
   "185:184 186:0 188:187 189:0 18C:18B 18D:0 192:191 193:0 195:1F6 196:0 199:198 19A:23D",
   "19B:A7DC 19C:0 19E:220 19F:0 1A1:1A0 1A2:0 1A3:1A2 1A4:0 1A5:1A4 1A6:0 1A8:1A7 1A9:0",
   "1AD:1AC 1AE:0 1B0:1AF 1B1:0 1B4:1B3 1B5:0 1B6:1B5 1B7:0 1B9:1B8 1BA:0 1BD:1BC 1BE:0",
   "1BF:1F7 1C0:0 1C5:1C4 1C6:1C4 1C7:0 1C8:1C7 1C9:1C7 1CA:0 1CB:1CA 1CC:1CA 1CD:0 1CE:1CD",
   "1CF:0 1D0:1CF 1D1:0 1D2:1D1 1D3:0 1D4:1D3 1D5:0 1D6:1D5 1D7:0 1D8:1D7 1D9:0 1DA:1D9 1DB:0",
   "1DC:1DB 1DD:18E 1DE:0 1DF:1DE 1E0:0 1E1:1E0 1E2:0 1E3:1E2 1E4:0 1E5:1E4 1E6:0 1E7:1E6",
   "1E8:0 1E9:1E8 1EA:0 1EB:1EA 1EC:0 1ED:1EC 1EE:0 1EF:1EE 1F0:0 1F2:1F1 1F3:1F1 1F4:0",
   "1F5:1F4 1F6:0 1F9:1F8 1FA:0 1FB:1FA 1FC:0 1FD:1FC 1FE:0 1FF:1FE 200:0 201:200 202:0",
   "203:202 204:0 205:204 206:0 207:206 208:0 209:208 20A:0 20B:20A 20C:0 20D:20C 20E:0",
   "20F:20E 210:0 211:210 212:0 213:212 214:0 215:214 216:0 217:216 218:0 219:218 21A:0",
   "21B:21A 21C:0 21D:21C 21E:0 21F:21E 220:0 223:222 224:0 225:224 226:0 227:226 228:0",
   "229:228 22A:0 22B:22A 22C:0 22D:22C 22E:0 22F:22E 230:0 231:230 232:0 233:232 234:0",
   "23C:23B 23D:0 23F:2C7E 241:0 242:241 243:0 247:246 248:0 249:248 24A:0 24B:24A 24C:0",
   "24D:24C 24E:0 24F:24E 250:2C6F 251:2C6D 252:2C70 253:181 254:186 255:0 256:189 258:0",
   "259:18F 25A:0 25B:190 25C:A7AB 25D:0 260:193 261:A7AC 262:0 263:194 264:A7CB 265:A78D",
   "266:A7AA 267:0 268:197 269:196 26A:A7AE 26B:2C62 26C:A7AD 26D:0 26F:19C 270:0 271:2C6E",
   "272:19D 273:0 275:19F 276:0 27D:2C64 27E:0 280:1A6 281:0 282:A7C5 283:1A9 284:0 287:A7B1",
   "288:1AE 289:244 28A:1B1 28C:245 28D:0 292:1B7 293:0 29D:A7B2 29E:A7B0 29F:0 345:399 346:0",
   "371:370 372:0 373:372 374:0 377:376 378:0 37B:3FD 37E:0 3AC:386 3AD:388 3B0:0 3B1:391",
   "3C2:3A3 3C3:3A3 3CC:38C 3CD:38E 3CF:0 3D0:392 3D1:398 3D2:0 3D5:3A6 3D6:3A0 3D7:3CF 3D8:0",
   "3D9:3D8 3DA:0 3DB:3DA 3DC:0 3DD:3DC 3DE:0 3DF:3DE 3E0:0 3E1:3E0 3E2:0 3E3:3E2 3E4:0",
   "3E5:3E4 3E6:0 3E7:3E6 3E8:0 3E9:3E8 3EA:0 3EB:3EA 3EC:0 3ED:3EC 3EE:0 3EF:3EE 3F0:39A",
   "3F1:3A1 3F2:3F9 3F3:37F 3F4:0 3F5:395 3F6:0 3F8:3F7 3F9:0 3FB:3FA 3FC:0 430:410 450:400",
   "460:0 461:460 462:0 463:462 464:0 465:464 466:0 467:466 468:0 469:468 46A:0 46B:46A 46C:0",
   "46D:46C 46E:0 46F:46E 470:0 471:470 472:0 473:472 474:0 475:474 476:0 477:476 478:0",
   "479:478 47A:0 47B:47A 47C:0 47D:47C 47E:0 47F:47E 480:0 481:480 482:0 48B:48A 48C:0",
   "48D:48C 48E:0 48F:48E 490:0 491:490 492:0 493:492 494:0 495:494 496:0 497:496 498:0",
   "499:498 49A:0 49B:49A 49C:0 49D:49C 49E:0 49F:49E 4A0:0 4A1:4A0 4A2:0 4A3:4A2 4A4:0",
   "4A5:4A4 4A6:0 4A7:4A6 4A8:0 4A9:4A8 4AA:0 4AB:4AA 4AC:0 4AD:4AC 4AE:0 4AF:4AE 4B0:0",
   "4B1:4B0 4B2:0 4B3:4B2 4B4:0 4B5:4B4 4B6:0 4B7:4B6 4B8:0 4B9:4B8 4BA:0 4BB:4BA 4BC:0",
   "4BD:4BC 4BE:0 4BF:4BE 4C0:0 4C2:4C1 4C3:0 4C4:4C3 4C5:0 4C6:4C5 4C7:0 4C8:4C7 4C9:0",
   "4CA:4C9 4CB:0 4CC:4CB 4CD:0 4CE:4CD 4CF:4C0 4D0:0 4D1:4D0 4D2:0 4D3:4D2 4D4:0 4D5:4D4",
   "4D6:0 4D7:4D6 4D8:0 4D9:4D8 4DA:0 4DB:4DA 4DC:0 4DD:4DC 4DE:0 4DF:4DE 4E0:0 4E1:4E0 4E2:0",
   "4E3:4E2 4E4:0 4E5:4E4 4E6:0 4E7:4E6 4E8:0 4E9:4E8 4EA:0 4EB:4EA 4EC:0 4ED:4EC 4EE:0",
   "4EF:4EE 4F0:0 4F1:4F0 4F2:0 4F3:4F2 4F4:0 4F5:4F4 4F6:0 4F7:4F6 4F8:0 4F9:4F8 4FA:0",
   "4FB:4FA 4FC:0 4FD:4FC 4FE:0 4FF:4FE 500:0 501:500 502:0 503:502 504:0 505:504 506:0",
   "507:506 508:0 509:508 50A:0 50B:50A 50C:0 50D:50C 50E:0 50F:50E 510:0 511:510 512:0",
   "513:512 514:0 515:514 516:0 517:516 518:0 519:518 51A:0 51B:51A 51C:0 51D:51C 51E:0",
   "51F:51E 520:0 521:520 522:0 523:522 524:0 525:524 526:0 527:526 528:0 529:528 52A:0",
   "52B:52A 52C:0 52D:52C 52E:0 52F:52E 530:0 561:531 587:0 10D0:1C90 10FB:0 10FD:1CBD 1100:0",
   "13F8:13F0 13FE:0 1C80:412 1C81:414 1C82:41E 1C83:421 1C85:422 1C86:42A 1C87:462 1C88:A64A",
   "1C89:0 1C8A:1C89 1C8B:0 1D79:A77D 1D7A:0 1D7D:2C63 1D7E:0 1D8E:A7C6 1D8F:0 1E01:1E00",
   "1E02:0 1E03:1E02 1E04:0 1E05:1E04 1E06:0 1E07:1E06 1E08:0 1E09:1E08 1E0A:0 1E0B:1E0A",
   "1E0C:0 1E0D:1E0C 1E0E:0 1E0F:1E0E 1E10:0 1E11:1E10 1E12:0 1E13:1E12 1E14:0 1E15:1E14",
   "1E16:0 1E17:1E16 1E18:0 1E19:1E18 1E1A:0 1E1B:1E1A 1E1C:0 1E1D:1E1C 1E1E:0 1E1F:1E1E",
   "1E20:0 1E21:1E20 1E22:0 1E23:1E22 1E24:0 1E25:1E24 1E26:0 1E27:1E26 1E28:0 1E29:1E28",
   "1E2A:0 1E2B:1E2A 1E2C:0 1E2D:1E2C 1E2E:0 1E2F:1E2E 1E30:0 1E31:1E30 1E32:0 1E33:1E32",
   "1E34:0 1E35:1E34 1E36:0 1E37:1E36 1E38:0 1E39:1E38 1E3A:0 1E3B:1E3A 1E3C:0 1E3D:1E3C",
   "1E3E:0 1E3F:1E3E 1E40:0 1E41:1E40 1E42:0 1E43:1E42 1E44:0 1E45:1E44 1E46:0 1E47:1E46",
   "1E48:0 1E49:1E48 1E4A:0 1E4B:1E4A 1E4C:0 1E4D:1E4C 1E4E:0 1E4F:1E4E 1E50:0 1E51:1E50",
   "1E52:0 1E53:1E52 1E54:0 1E55:1E54 1E56:0 1E57:1E56 1E58:0 1E59:1E58 1E5A:0 1E5B:1E5A",
   "1E5C:0 1E5D:1E5C 1E5E:0 1E5F:1E5E 1E60:0 1E61:1E60 1E62:0 1E63:1E62 1E64:0 1E65:1E64",
   "1E66:0 1E67:1E66 1E68:0 1E69:1E68 1E6A:0 1E6B:1E6A 1E6C:0 1E6D:1E6C 1E6E:0 1E6F:1E6E",
   "1E70:0 1E71:1E70 1E72:0 1E73:1E72 1E74:0 1E75:1E74 1E76:0 1E77:1E76 1E78:0 1E79:1E78",
   "1E7A:0 1E7B:1E7A 1E7C:0 1E7D:1E7C 1E7E:0 1E7F:1E7E 1E80:0 1E81:1E80 1E82:0 1E83:1E82",
   "1E84:0 1E85:1E84 1E86:0 1E87:1E86 1E88:0 1E89:1E88 1E8A:0 1E8B:1E8A 1E8C:0 1E8D:1E8C",
   "1E8E:0 1E8F:1E8E 1E90:0 1E91:1E90 1E92:0 1E93:1E92 1E94:0 1E95:1E94 1E96:0 1E9B:1E60",
   "1E9C:0 1EA1:1EA0 1EA2:0 1EA3:1EA2 1EA4:0 1EA5:1EA4 1EA6:0 1EA7:1EA6 1EA8:0 1EA9:1EA8",
   "1EAA:0 1EAB:1EAA 1EAC:0 1EAD:1EAC 1EAE:0 1EAF:1EAE 1EB0:0 1EB1:1EB0 1EB2:0 1EB3:1EB2",
   "1EB4:0 1EB5:1EB4 1EB6:0 1EB7:1EB6 1EB8:0 1EB9:1EB8 1EBA:0 1EBB:1EBA 1EBC:0 1EBD:1EBC",
   "1EBE:0 1EBF:1EBE 1EC0:0 1EC1:1EC0 1EC2:0 1EC3:1EC2 1EC4:0 1EC5:1EC4 1EC6:0 1EC7:1EC6",
   "1EC8:0 1EC9:1EC8 1ECA:0 1ECB:1ECA 1ECC:0 1ECD:1ECC 1ECE:0 1ECF:1ECE 1ED0:0 1ED1:1ED0",
   "1ED2:0 1ED3:1ED2 1ED4:0 1ED5:1ED4 1ED6:0 1ED7:1ED6 1ED8:0 1ED9:1ED8 1EDA:0 1EDB:1EDA",
   "1EDC:0 1EDD:1EDC 1EDE:0 1EDF:1EDE 1EE0:0 1EE1:1EE0 1EE2:0 1EE3:1EE2 1EE4:0 1EE5:1EE4",
   "1EE6:0 1EE7:1EE6 1EE8:0 1EE9:1EE8 1EEA:0 1EEB:1EEA 1EEC:0 1EED:1EEC 1EEE:0 1EEF:1EEE",
   "1EF0:0 1EF1:1EF0 1EF2:0 1EF3:1EF2 1EF4:0 1EF5:1EF4 1EF6:0 1EF7:1EF6 1EF8:0 1EF9:1EF8",
   "1EFA:0 1EFB:1EFA 1EFC:0 1EFD:1EFC 1EFE:0 1EFF:1EFE 1F00:1F08 1F08:0 1F10:1F18 1F16:0",
   "1F20:1F28 1F28:0 1F30:1F38 1F38:0 1F40:1F48 1F46:0 1F51:1F59 1F52:0 1F53:1F5B 1F54:0",
   "1F55:1F5D 1F56:0 1F57:1F5F 1F58:0 1F60:1F68 1F68:0 1F70:1FBA 1F72:1FC8 1F76:1FDA 1F78:1FF8",
   "1F7A:1FEA 1F7C:1FFA 1F7E:0 1F80:1F88 1F88:0 1F90:1F98 1F98:0 1FA0:1FA8 1FA8:0 1FB0:1FB8",
   "1FB2:0 1FB3:1FBC 1FB4:0 1FBE:399 1FBF:0 1FC3:1FCC 1FC4:0 1FD0:1FD8 1FD2:0 1FE0:1FE8 1FE2:0",
   "1FE5:1FEC 1FE6:0 1FF3:1FFC 1FF4:0 214E:2132 214F:0 2170:2160 2180:0 2184:2183 2185:0",
   "24D0:24B6 24EA:0 2C30:2C00 2C60:0 2C61:2C60 2C62:0 2C65:23A 2C66:23E 2C67:0 2C68:2C67",
   "2C69:0 2C6A:2C69 2C6B:0 2C6C:2C6B 2C6D:0 2C73:2C72 2C74:0 2C76:2C75 2C77:0 2C81:2C80",
   "2C82:0 2C83:2C82 2C84:0 2C85:2C84 2C86:0 2C87:2C86 2C88:0 2C89:2C88 2C8A:0 2C8B:2C8A",
   "2C8C:0 2C8D:2C8C 2C8E:0 2C8F:2C8E 2C90:0 2C91:2C90 2C92:0 2C93:2C92 2C94:0 2C95:2C94",
   "2C96:0 2C97:2C96 2C98:0 2C99:2C98 2C9A:0 2C9B:2C9A 2C9C:0 2C9D:2C9C 2C9E:0 2C9F:2C9E",
   "2CA0:0 2CA1:2CA0 2CA2:0 2CA3:2CA2 2CA4:0 2CA5:2CA4 2CA6:0 2CA7:2CA6 2CA8:0 2CA9:2CA8",
   "2CAA:0 2CAB:2CAA 2CAC:0 2CAD:2CAC 2CAE:0 2CAF:2CAE 2CB0:0 2CB1:2CB0 2CB2:0 2CB3:2CB2",
   "2CB4:0 2CB5:2CB4 2CB6:0 2CB7:2CB6 2CB8:0 2CB9:2CB8 2CBA:0 2CBB:2CBA 2CBC:0 2CBD:2CBC",
   "2CBE:0 2CBF:2CBE 2CC0:0 2CC1:2CC0 2CC2:0 2CC3:2CC2 2CC4:0 2CC5:2CC4 2CC6:0 2CC7:2CC6",
   "2CC8:0 2CC9:2CC8 2CCA:0 2CCB:2CCA 2CCC:0 2CCD:2CCC 2CCE:0 2CCF:2CCE 2CD0:0 2CD1:2CD0",
   "2CD2:0 2CD3:2CD2 2CD4:0 2CD5:2CD4 2CD6:0 2CD7:2CD6 2CD8:0 2CD9:2CD8 2CDA:0 2CDB:2CDA",
   "2CDC:0 2CDD:2CDC 2CDE:0 2CDF:2CDE 2CE0:0 2CE1:2CE0 2CE2:0 2CE3:2CE2 2CE4:0 2CEC:2CEB",
   "2CED:0 2CEE:2CED 2CEF:0 2CF3:2CF2 2CF4:0 2D00:10A0 2D26:0 2D27:10C7 2D28:0 2D2D:10CD",
   "2D2E:0 A641:A640 A642:0 A643:A642 A644:0 A645:A644 A646:0 A647:A646 A648:0 A649:A648",
   "A64A:0 A64B:A64A A64C:0 A64D:A64C A64E:0 A64F:A64E A650:0 A651:A650 A652:0 A653:A652",
   "A654:0 A655:A654 A656:0 A657:A656 A658:0 A659:A658 A65A:0 A65B:A65A A65C:0 A65D:A65C",
   "A65E:0 A65F:A65E A660:0 A661:A660 A662:0 A663:A662 A664:0 A665:A664 A666:0 A667:A666",
   "A668:0 A669:A668 A66A:0 A66B:A66A A66C:0 A66D:A66C A66E:0 A681:A680 A682:0 A683:A682",
   "A684:0 A685:A684 A686:0 A687:A686 A688:0 A689:A688 A68A:0 A68B:A68A A68C:0 A68D:A68C",
   "A68E:0 A68F:A68E A690:0 A691:A690 A692:0 A693:A692 A694:0 A695:A694 A696:0 A697:A696",
   "A698:0 A699:A698 A69A:0 A69B:A69A A69C:0 A723:A722 A724:0 A725:A724 A726:0 A727:A726",
   "A728:0 A729:A728 A72A:0 A72B:A72A A72C:0 A72D:A72C A72E:0 A72F:A72E A730:0 A733:A732",
   "A734:0 A735:A734 A736:0 A737:A736 A738:0 A739:A738 A73A:0 A73B:A73A A73C:0 A73D:A73C",
   "A73E:0 A73F:A73E A740:0 A741:A740 A742:0 A743:A742 A744:0 A745:A744 A746:0 A747:A746",
   "A748:0 A749:A748 A74A:0 A74B:A74A A74C:0 A74D:A74C A74E:0 A74F:A74E A750:0 A751:A750",
   "A752:0 A753:A752 A754:0 A755:A754 A756:0 A757:A756 A758:0 A759:A758 A75A:0 A75B:A75A",
   "A75C:0 A75D:A75C A75E:0 A75F:A75E A760:0 A761:A760 A762:0 A763:A762 A764:0 A765:A764",
   "A766:0 A767:A766 A768:0 A769:A768 A76A:0 A76B:A76A A76C:0 A76D:A76C A76E:0 A76F:A76E",
   "A770:0 A77A:A779 A77B:0 A77C:A77B A77D:0 A77F:A77E A780:0 A781:A780 A782:0 A783:A782",
   "A784:0 A785:A784 A786:0 A787:A786 A788:0 A78C:A78B A78D:0 A791:A790 A792:0 A793:A792",
   "A794:A7C4 A795:0 A797:A796 A798:0 A799:A798 A79A:0 A79B:A79A A79C:0 A79D:A79C A79E:0",
   "A79F:A79E A7A0:0 A7A1:A7A0 A7A2:0 A7A3:A7A2 A7A4:0 A7A5:A7A4 A7A6:0 A7A7:A7A6 A7A8:0",
   "A7A9:A7A8 A7AA:0 A7B5:A7B4 A7B6:0 A7B7:A7B6 A7B8:0 A7B9:A7B8 A7BA:0 A7BB:A7BA A7BC:0",
   "A7BD:A7BC A7BE:0 A7BF:A7BE A7C0:0 A7C1:A7C0 A7C2:0 A7C3:A7C2 A7C4:0 A7C8:A7C7 A7C9:0",
   "A7CA:A7C9 A7CB:0 A7CD:A7CC A7CE:0 A7CF:A7CE A7D0:0 A7D1:A7D0 A7D2:0 A7D3:A7D2 A7D4:0",
   "A7D5:A7D4 A7D6:0 A7D7:A7D6 A7D8:0 A7D9:A7D8 A7DA:0 A7DB:A7DA A7DC:0 A7F6:A7F5 A7F7:0",
   "AB53:A7B3 AB54:0 AB70:13A0 ABC0:0 FF41:FF21 FF5B:0 10428:10400 10450:0 104D8:104B0 104FC:0",
   "10597:10570 105A2:0 105A3:1057C 105B2:0 105B3:1058C 105BA:0 105BB:10594 105BD:0",
   "10CC0:10C80 10CF3:0 10D70:10D50 10D86:0 118C0:118A0 118E0:0 16E60:16E40 16E80:0",
   "16EBB:16EA0 16ED4:0 1E922:1E900 1E944:0"]

def lowerTable : CodeTable := CodeTable.ofRuns
  ["41:61 5B:0 C0:E0 D7:0 D8:F8 DF:0 100:101 101:0 102:103 103:0 104:105 105:0 106:107 107:0",
   "108:109 109:0 10A:10B 10B:0 10C:10D 10D:0 10E:10F 10F:0 110:111 111:0 112:113 113:0",
   "114:115 115:0 116:117 117:0 118:119 119:0 11A:11B 11B:0 11C:11D 11D:0 11E:11F 11F:0",
   "120:121 121:0 122:123 123:0 124:125 125:0 126:127 127:0 128:129 129:0 12A:12B 12B:0",
   "12C:12D 12D:0 12E:12F 12F:0 130:69 131:0 132:133 133:0 134:135 135:0 136:137 137:0 139:13A",
   "13A:0 13B:13C 13C:0 13D:13E 13E:0 13F:140 140:0 141:142 142:0 143:144 144:0 145:146 146:0",
   "147:148 148:0 14A:14B 14B:0 14C:14D 14D:0 14E:14F 14F:0 150:151 151:0 152:153 153:0",
   "154:155 155:0 156:157 157:0 158:159 159:0 15A:15B 15B:0 15C:15D 15D:0 15E:15F 15F:0",
   "160:161 161:0 162:163 163:0 164:165 165:0 166:167 167:0 168:169 169:0 16A:16B 16B:0",
   "16C:16D 16D:0 16E:16F 16F:0 170:171 171:0 172:173 173:0 174:175 175:0 176:177 177:0 178:FF",
   "179:17A 17A:0 17B:17C 17C:0 17D:17E 17E:0 181:253 182:183 183:0 184:185 185:0 186:254",
   "187:188 188:0 189:256 18B:18C 18C:0 18E:1DD 18F:259 190:25B 191:192 192:0 193:260 194:263",
   "195:0 196:269 197:268 198:199 199:0 19C:26F 19D:272 19E:0 19F:275 1A0:1A1 1A1:0 1A2:1A3",
   "1A3:0 1A4:1A5 1A5:0 1A6:280 1A7:1A8 1A8:0 1A9:283 1AA:0 1AC:1AD 1AD:0 1AE:288 1AF:1B0",
   "1B0:0 1B1:28A 1B3:1B4 1B4:0 1B5:1B6 1B6:0 1B7:292 1B8:1B9 1B9:0 1BC:1BD 1BD:0 1C4:1C6",
   "1C5:1C6 1C6:0 1C7:1C9 1C8:1C9 1C9:0 1CA:1CC 1CB:1CC 1CC:0 1CD:1CE 1CE:0 1CF:1D0 1D0:0",
   "1D1:1D2 1D2:0 1D3:1D4 1D4:0 1D5:1D6 1D6:0 1D7:1D8 1D8:0 1D9:1DA 1DA:0 1DB:1DC 1DC:0",
   "1DE:1DF 1DF:0 1E0:1E1 1E1:0 1E2:1E3 1E3:0 1E4:1E5 1E5:0 1E6:1E7 1E7:0 1E8:1E9 1E9:0",
   "1EA:1EB 1EB:0 1EC:1ED 1ED:0 1EE:1EF 1EF:0 1F1:1F3 1F2:1F3 1F3:0 1F4:1F5 1F5:0 1F6:195",
   "1F7:1BF 1F8:1F9 1F9:0 1FA:1FB 1FB:0 1FC:1FD 1FD:0 1FE:1FF 1FF:0 200:201 201:0 202:203",
   "203:0 204:205 205:0 206:207 207:0 208:209 209:0 20A:20B 20B:0 20C:20D 20D:0 20E:20F 20F:0",
   "210:211 211:0 212:213 213:0 214:215 215:0 216:217 217:0 218:219 219:0 21A:21B 21B:0",
   "21C:21D 21D:0 21E:21F 21F:0 220:19E 221:0 222:223 223:0 224:225 225:0 226:227 227:0",
   "228:229 229:0 22A:22B 22B:0 22C:22D 22D:0 22E:22F 22F:0 230:231 231:0 232:233 233:0",
   "23A:2C65 23B:23C 23C:0 23D:19A 23E:2C66 23F:0 241:242 242:0 243:180 244:289 245:28C",
   "246:247 247:0 248:249 249:0 24A:24B 24B:0 24C:24D 24D:0 24E:24F 24F:0 370:371 371:0",
   "372:373 373:0 376:377 377:0 37F:3F3 380:0 386:3AC 387:0 388:3AD 38B:0 38C:3CC 38D:0",
   "38E:3CD 390:0 391:3B1 3A2:0 3A3:3C3 3AC:0 3CF:3D7 3D0:0 3D8:3D9 3D9:0 3DA:3DB 3DB:0",
   "3DC:3DD 3DD:0 3DE:3DF 3DF:0 3E0:3E1 3E1:0 3E2:3E3 3E3:0 3E4:3E5 3E5:0 3E6:3E7 3E7:0",
   "3E8:3E9 3E9:0 3EA:3EB 3EB:0 3EC:3ED 3ED:0 3EE:3EF 3EF:0 3F4:3B8 3F5:0 3F7:3F8 3F8:0",
   "3F9:3F2 3FA:3FB 3FB:0 3FD:37B 400:450 410:430 430:0 460:461 461:0 462:463 463:0 464:465",
   "465:0 466:467 467:0 468:469 469:0 46A:46B 46B:0 46C:46D 46D:0 46E:46F 46F:0 470:471 471:0",
   "472:473 473:0 474:475 475:0 476:477 477:0 478:479 479:0 47A:47B 47B:0 47C:47D 47D:0",
   "47E:47F 47F:0 480:481 481:0 48A:48B 48B:0 48C:48D 48D:0 48E:48F 48F:0 490:491 491:0",
   "492:493 493:0 494:495 495:0 496:497 497:0 498:499 499:0 49A:49B 49B:0 49C:49D 49D:0",
   "49E:49F 49F:0 4A0:4A1 4A1:0 4A2:4A3 4A3:0 4A4:4A5 4A5:0 4A6:4A7 4A7:0 4A8:4A9 4A9:0",
   "4AA:4AB 4AB:0 4AC:4AD 4AD:0 4AE:4AF 4AF:0 4B0:4B1 4B1:0 4B2:4B3 4B3:0 4B4:4B5 4B5:0",
   "4B6:4B7 4B7:0 4B8:4B9 4B9:0 4BA:4BB 4BB:0 4BC:4BD 4BD:0 4BE:4BF 4BF:0 4C0:4CF 4C1:4C2",
   "4C2:0 4C3:4C4 4C4:0 4C5:4C6 4C6:0 4C7:4C8 4C8:0 4C9:4CA 4CA:0 4CB:4CC 4CC:0 4CD:4CE 4CE:0",
   "4D0:4D1 4D1:0 4D2:4D3 4D3:0 4D4:4D5 4D5:0 4D6:4D7 4D7:0 4D8:4D9 4D9:0 4DA:4DB 4DB:0",
   "4DC:4DD 4DD:0 4DE:4DF 4DF:0 4E0:4E1 4E1:0 4E2:4E3 4E3:0 4E4:4E5 4E5:0 4E6:4E7 4E7:0",
   "4E8:4E9 4E9:0 4EA:4EB 4EB:0 4EC:4ED 4ED:0 4EE:4EF 4EF:0 4F0:4F1 4F1:0 4F2:4F3 4F3:0",
   "4F4:4F5 4F5:0 4F6:4F7 4F7:0 4F8:4F9 4F9:0 4FA:4FB 4FB:0 4FC:4FD 4FD:0 4FE:4FF 4FF:0",
   "500:501 501:0 502:503 503:0 504:505 505:0 506:507 507:0 508:509 509:0 50A:50B 50B:0",
   "50C:50D 50D:0 50E:50F 50F:0 510:511 511:0 512:513 513:0 514:515 515:0 516:517 517:0",
   "518:519 519:0 51A:51B 51B:0 51C:51D 51D:0 51E:51F 51F:0 520:521 521:0 522:523 523:0",
   "524:525 525:0 526:527 527:0 528:529 529:0 52A:52B 52B:0 52C:52D 52D:0 52E:52F 52F:0",
   "531:561 557:0 10A0:2D00 10C6:0 10C7:2D27 10C8:0 10CD:2D2D 10CE:0 13A0:AB70 13F0:13F8",
   "13F6:0 1C89:1C8A 1C8A:0 1C90:10D0 1CBB:0 1CBD:10FD 1CC0:0 1E00:1E01 1E01:0 1E02:1E03",
   "1E03:0 1E04:1E05 1E05:0 1E06:1E07 1E07:0 1E08:1E09 1E09:0 1E0A:1E0B 1E0B:0 1E0C:1E0D",
   "1E0D:0 1E0E:1E0F 1E0F:0 1E10:1E11 1E11:0 1E12:1E13 1E13:0 1E14:1E15 1E15:0 1E16:1E17",
   "1E17:0 1E18:1E19 1E19:0 1E1A:1E1B 1E1B:0 1E1C:1E1D 1E1D:0 1E1E:1E1F 1E1F:0 1E20:1E21",
   "1E21:0 1E22:1E23 1E23:0 1E24:1E25 1E25:0 1E26:1E27 1E27:0 1E28:1E29 1E29:0 1E2A:1E2B",
   "1E2B:0 1E2C:1E2D 1E2D:0 1E2E:1E2F 1E2F:0 1E30:1E31 1E31:0 1E32:1E33 1E33:0 1E34:1E35",
   "1E35:0 1E36:1E37 1E37:0 1E38:1E39 1E39:0 1E3A:1E3B 1E3B:0 1E3C:1E3D 1E3D:0 1E3E:1E3F",
   "1E3F:0 1E40:1E41 1E41:0 1E42:1E43 1E43:0 1E44:1E45 1E45:0 1E46:1E47 1E47:0 1E48:1E49",
   "1E49:0 1E4A:1E4B 1E4B:0 1E4C:1E4D 1E4D:0 1E4E:1E4F 1E4F:0 1E50:1E51 1E51:0 1E52:1E53",
   "1E53:0 1E54:1E55 1E55:0 1E56:1E57 1E57:0 1E58:1E59 1E59:0 1E5A:1E5B 1E5B:0 1E5C:1E5D",
   "1E5D:0 1E5E:1E5F 1E5F:0 1E60:1E61 1E61:0 1E62:1E63 1E63:0 1E64:1E65 1E65:0 1E66:1E67",
   "1E67:0 1E68:1E69 1E69:0 1E6A:1E6B 1E6B:0 1E6C:1E6D 1E6D:0 1E6E:1E6F 1E6F:0 1E70:1E71",
   "1E71:0 1E72:1E73 1E73:0 1E74:1E75 1E75:0 1E76:1E77 1E77:0 1E78:1E79 1E79:0 1E7A:1E7B",
   "1E7B:0 1E7C:1E7D 1E7D:0 1E7E:1E7F 1E7F:0 1E80:1E81 1E81:0 1E82:1E83 1E83:0 1E84:1E85",
   "1E85:0 1E86:1E87 1E87:0 1E88:1E89 1E89:0 1E8A:1E8B 1E8B:0 1E8C:1E8D 1E8D:0 1E8E:1E8F",
   "1E8F:0 1E90:1E91 1E91:0 1E92:1E93 1E93:0 1E94:1E95 1E95:0 1E9E:DF 1E9F:0 1EA0:1EA1 1EA1:0",
   "1EA2:1EA3 1EA3:0 1EA4:1EA5 1EA5:0 1EA6:1EA7 1EA7:0 1EA8:1EA9 1EA9:0 1EAA:1EAB 1EAB:0",
   "1EAC:1EAD 1EAD:0 1EAE:1EAF 1EAF:0 1EB0:1EB1 1EB1:0 1EB2:1EB3 1EB3:0 1EB4:1EB5 1EB5:0",
   "1EB6:1EB7 1EB7:0 1EB8:1EB9 1EB9:0 1EBA:1EBB 1EBB:0 1EBC:1EBD 1EBD:0 1EBE:1EBF 1EBF:0",
   "1EC0:1EC1 1EC1:0 1EC2:1EC3 1EC3:0 1EC4:1EC5 1EC5:0 1EC6:1EC7 1EC7:0 1EC8:1EC9 1EC9:0",
   "1ECA:1ECB 1ECB:0 1ECC:1ECD 1ECD:0 1ECE:1ECF 1ECF:0 1ED0:1ED1 1ED1:0 1ED2:1ED3 1ED3:0",
   "1ED4:1ED5 1ED5:0 1ED6:1ED7 1ED7:0 1ED8:1ED9 1ED9:0 1EDA:1EDB 1EDB:0 1EDC:1EDD 1EDD:0",
   "1EDE:1EDF 1EDF:0 1EE0:1EE1 1EE1:0 1EE2:1EE3 1EE3:0 1EE4:1EE5 1EE5:0 1EE6:1EE7 1EE7:0",
   "1EE8:1EE9 1EE9:0 1EEA:1EEB 1EEB:0 1EEC:1EED 1EED:0 1EEE:1EEF 1EEF:0 1EF0:1EF1 1EF1:0",
   "1EF2:1EF3 1EF3:0 1EF4:1EF5 1EF5:0 1EF6:1EF7 1EF7:0 1EF8:1EF9 1EF9:0 1EFA:1EFB 1EFB:0",
   "1EFC:1EFD 1EFD:0 1EFE:1EFF 1EFF:0 1F08:1F00 1F10:0 1F18:1F10 1F1E:0 1F28:1F20 1F30:0",
   "1F38:1F30 1F40:0 1F48:1F40 1F4E:0 1F59:1F51 1F5A:0 1F5B:1F53 1F5C:0 1F5D:1F55 1F5E:0",
   "1F5F:1F57 1F60:0 1F68:1F60 1F70:0 1F88:1F80 1F90:0 1F98:1F90 1FA0:0 1FA8:1FA0 1FB0:0",
   "1FB8:1FB0 1FBA:1F70 1FBC:1FB3 1FBD:0 1FC8:1F72 1FCC:1FC3 1FCD:0 1FD8:1FD0 1FDA:1F76 1FDC:0",
   "1FE8:1FE0 1FEA:1F7A 1FEC:1FE5 1FED:0 1FF8:1F78 1FFA:1F7C 1FFC:1FF3 1FFD:0 2126:3C9 2127:0",
   "212A:6B 212B:E5 212C:0 2132:214E 2133:0 2160:2170 2170:0 2183:2184 2184:0 24B6:24D0 24D0:0",
   "2C00:2C30 2C30:0 2C60:2C61 2C61:0 2C62:26B 2C63:1D7D 2C64:27D 2C65:0 2C67:2C68 2C68:0",
   "2C69:2C6A 2C6A:0 2C6B:2C6C 2C6C:0 2C6D:251 2C6E:271 2C6F:250 2C70:252 2C71:0 2C72:2C73",
   "2C73:0 2C75:2C76 2C76:0 2C7E:23F 2C80:2C81 2C81:0 2C82:2C83 2C83:0 2C84:2C85 2C85:0",
   "2C86:2C87 2C87:0 2C88:2C89 2C89:0 2C8A:2C8B 2C8B:0 2C8C:2C8D 2C8D:0 2C8E:2C8F 2C8F:0",
   "2C90:2C91 2C91:0 2C92:2C93 2C93:0 2C94:2C95 2C95:0 2C96:2C97 2C97:0 2C98:2C99 2C99:0",
   "2C9A:2C9B 2C9B:0 2C9C:2C9D 2C9D:0 2C9E:2C9F 2C9F:0 2CA0:2CA1 2CA1:0 2CA2:2CA3 2CA3:0",
   "2CA4:2CA5 2CA5:0 2CA6:2CA7 2CA7:0 2CA8:2CA9 2CA9:0 2CAA:2CAB 2CAB:0 2CAC:2CAD 2CAD:0",
   "2CAE:2CAF 2CAF:0 2CB0:2CB1 2CB1:0 2CB2:2CB3 2CB3:0 2CB4:2CB5 2CB5:0 2CB6:2CB7 2CB7:0",
   "2CB8:2CB9 2CB9:0 2CBA:2CBB 2CBB:0 2CBC:2CBD 2CBD:0 2CBE:2CBF 2CBF:0 2CC0:2CC1 2CC1:0",
   "2CC2:2CC3 2CC3:0 2CC4:2CC5 2CC5:0 2CC6:2CC7 2CC7:0 2CC8:2CC9 2CC9:0 2CCA:2CCB 2CCB:0",
   "2CCC:2CCD 2CCD:0 2CCE:2CCF 2CCF:0 2CD0:2CD1 2CD1:0 2CD2:2CD3 2CD3:0 2CD4:2CD5 2CD5:0",
   "2CD6:2CD7 2CD7:0 2CD8:2CD9 2CD9:0 2CDA:2CDB 2CDB:0 2CDC:2CDD 2CDD:0 2CDE:2CDF 2CDF:0",
   "2CE0:2CE1 2CE1:0 2CE2:2CE3 2CE3:0 2CEB:2CEC 2CEC:0 2CED:2CEE 2CEE:0 2CF2:2CF3 2CF3:0",
   "A640:A641 A641:0 A642:A643 A643:0 A644:A645 A645:0 A646:A647 A647:0 A648:A649 A649:0",
   "A64A:A64B A64B:0 A64C:A64D A64D:0 A64E:A64F A64F:0 A650:A651 A651:0 A652:A653 A653:0",
   "A654:A655 A655:0 A656:A657 A657:0 A658:A659 A659:0 A65A:A65B A65B:0 A65C:A65D A65D:0",
   "A65E:A65F A65F:0 A660:A661 A661:0 A662:A663 A663:0 A664:A665 A665:0 A666:A667 A667:0",
   "A668:A669 A669:0 A66A:A66B A66B:0 A66C:A66D A66D:0 A680:A681 A681:0 A682:A683 A683:0",
   "A684:A685 A685:0 A686:A687 A687:0 A688:A689 A689:0 A68A:A68B A68B:0 A68C:A68D A68D:0",
   "A68E:A68F A68F:0 A690:A691 A691:0 A692:A693 A693:0 A694:A695 A695:0 A696:A697 A697:0",
   "A698:A699 A699:0 A69A:A69B A69B:0 A722:A723 A723:0 A724:A725 A725:0 A726:A727 A727:0",
   "A728:A729 A729:0 A72A:A72B A72B:0 A72C:A72D A72D:0 A72E:A72F A72F:0 A732:A733 A733:0",
   "A734:A735 A735:0 A736:A737 A737:0 A738:A739 A739:0 A73A:A73B A73B:0 A73C:A73D A73D:0",
   "A73E:A73F A73F:0 A740:A741 A741:0 A742:A743 A743:0 A744:A745 A745:0 A746:A747 A747:0",
   "A748:A749 A749:0 A74A:A74B A74B:0 A74C:A74D A74D:0 A74E:A74F A74F:0 A750:A751 A751:0",
   "A752:A753 A753:0 A754:A755 A755:0 A756:A757 A757:0 A758:A759 A759:0 A75A:A75B A75B:0",
   "A75C:A75D A75D:0 A75E:A75F A75F:0 A760:A761 A761:0 A762:A763 A763:0 A764:A765 A765:0",
   "A766:A767 A767:0 A768:A769 A769:0 A76A:A76B A76B:0 A76C:A76D A76D:0 A76E:A76F A76F:0",
   "A779:A77A A77A:0 A77B:A77C A77C:0 A77D:1D79 A77E:A77F A77F:0 A780:A781 A781:0 A782:A783",
   "A783:0 A784:A785 A785:0 A786:A787 A787:0 A78B:A78C A78C:0 A78D:265 A78E:0 A790:A791 A791:0",
   "A792:A793 A793:0 A796:A797 A797:0 A798:A799 A799:0 A79A:A79B A79B:0 A79C:A79D A79D:0",
   "A79E:A79F A79F:0 A7A0:A7A1 A7A1:0 A7A2:A7A3 A7A3:0 A7A4:A7A5 A7A5:0 A7A6:A7A7 A7A7:0",
   "A7A8:A7A9 A7A9:0 A7AA:266 A7AB:25C A7AC:261 A7AD:26C A7AE:26A A7AF:0 A7B0:29E A7B1:287",
   "A7B2:29D A7B3:AB53 A7B4:A7B5 A7B5:0 A7B6:A7B7 A7B7:0 A7B8:A7B9 A7B9:0 A7BA:A7BB A7BB:0",
   "A7BC:A7BD A7BD:0 A7BE:A7BF A7BF:0 A7C0:A7C1 A7C1:0 A7C2:A7C3 A7C3:0 A7C4:A794 A7C5:282",
   "A7C6:1D8E A7C7:A7C8 A7C8:0 A7C9:A7CA A7CA:0 A7CB:264 A7CC:A7CD A7CD:0 A7CE:A7CF A7CF:0",
   "A7D0:A7D1 A7D1:0 A7D2:A7D3 A7D3:0 A7D4:A7D5 A7D5:0 A7D6:A7D7 A7D7:0 A7D8:A7D9 A7D9:0",
   "A7DA:A7DB A7DB:0 A7DC:19B A7DD:0 A7F5:A7F6 A7F6:0 FF21:FF41 FF3B:0 10400:10428 10428:0",
   "104B0:104D8 104D4:0 10570:10597 1057B:0 1057C:105A3 1058B:0 1058C:105B3 10593:0",
   "10594:105BB 10596:0 10C80:10CC0 10CB3:0 10D50:10D70 10D66:0 118A0:118C0 118C0:0",
   "16E40:16E60 16E60:0 16EA0:16EBB 16EB9:0 1E900:1E922 1E922:0"]

def foldTable : CodeTable := CodeTable.ofRuns
  ["41:61 5B:0 61:41 6B:212A 6C:4C 73:17F 74:54 7B:0 B5:39C B6:0 C0:E0 D7:0 D8:F8 DF:1E9E",
   "E0:C0 E5:212B E6:C6 F7:0 F8:D8 FF:178 100:101 101:100 102:103 103:102 104:105 105:104",
   "106:107 107:106 108:109 109:108 10A:10B 10B:10A 10C:10D 10D:10C 10E:10F 10F:10E 110:111",
   "111:110 112:113 113:112 114:115 115:114 116:117 117:116 118:119 119:118 11A:11B 11B:11A",
   "11C:11D 11D:11C 11E:11F 11F:11E 120:121 121:120 122:123 123:122 124:125 125:124 126:127",
   "127:126 128:129 129:128 12A:12B 12B:12A 12C:12D 12D:12C 12E:12F 12F:12E 130:0 132:133",
   "133:132 134:135 135:134 136:137 137:136 138:0 139:13A 13A:139 13B:13C 13C:13B 13D:13E",
   "13E:13D 13F:140 140:13F 141:142 142:141 143:144 144:143 145:146 146:145 147:148 148:147",
   "149:0 14A:14B 14B:14A 14C:14D 14D:14C 14E:14F 14F:14E 150:151 151:150 152:153 153:152",
   "154:155 155:154 156:157 157:156 158:159 159:158 15A:15B 15B:15A 15C:15D 15D:15C 15E:15F",
   "15F:15E 160:161 161:160 162:163 163:162 164:165 165:164 166:167 167:166 168:169 169:168",
   "16A:16B 16B:16A 16C:16D 16D:16C 16E:16F 16F:16E 170:171 171:170 172:173 173:172 174:175",
   "175:174 176:177 177:176 178:FF 179:17A 17A:179 17B:17C 17C:17B 17D:17E 17E:17D 17F:53",
   "180:243 181:253 182:183 183:182 184:185 185:184 186:254 187:188 188:187 189:256 18B:18C",
   "18C:18B 18D:0 18E:1DD 18F:259 190:25B 191:192 192:191 193:260 194:263 195:1F6 196:269",
   "197:268 198:199 199:198 19A:23D 19B:A7DC 19C:26F 19D:272 19E:220 19F:275 1A0:1A1 1A1:1A0",
   "1A2:1A3 1A3:1A2 1A4:1A5 1A5:1A4 1A6:280 1A7:1A8 1A8:1A7 1A9:283 1AA:0 1AC:1AD 1AD:1AC",
   "1AE:288 1AF:1B0 1B0:1AF 1B1:28A 1B3:1B4 1B4:1B3 1B5:1B6 1B6:1B5 1B7:292 1B8:1B9 1B9:1B8",
   "1BA:0 1BC:1BD 1BD:1BC 1BE:0 1BF:1F7 1C0:0 1C4:1C5 1C6:1C4 1C7:1C8 1C9:1C7 1CA:1CB 1CC:1CA",
   "1CD:1CE 1CE:1CD 1CF:1D0 1D0:1CF 1D1:1D2 1D2:1D1 1D3:1D4 1D4:1D3 1D5:1D6 1D6:1D5 1D7:1D8",
   "1D8:1D7 1D9:1DA 1DA:1D9 1DB:1DC 1DC:1DB 1DD:18E 1DE:1DF 1DF:1DE 1E0:1E1 1E1:1E0 1E2:1E3",
   "1E3:1E2 1E4:1E5 1E5:1E4 1E6:1E7 1E7:1E6 1E8:1E9 1E9:1E8 1EA:1EB 1EB:1EA 1EC:1ED 1ED:1EC",
   "1EE:1EF 1EF:1EE 1F0:0 1F1:1F2 1F3:1F1 1F4:1F5 1F5:1F4 1F6:195 1F7:1BF 1F8:1F9 1F9:1F8",
   "1FA:1FB 1FB:1FA 1FC:1FD 1FD:1FC 1FE:1FF 1FF:1FE 200:201 201:200 202:203 203:202 204:205",
   "205:204 206:207 207:206 208:209 209:208 20A:20B 20B:20A 20C:20D 20D:20C 20E:20F 20F:20E",
   "210:211 211:210 212:213 213:212 214:215 215:214 216:217 217:216 218:219 219:218 21A:21B",
   "21B:21A 21C:21D 21D:21C 21E:21F 21F:21E 220:19E 221:0 222:223 223:222 224:225 225:224",
   "226:227 227:226 228:229 229:228 22A:22B 22B:22A 22C:22D 22D:22C 22E:22F 22F:22E 230:231",
   "231:230 232:233 233:232 234:0 23A:2C65 23B:23C 23C:23B 23D:19A 23E:2C66 23F:2C7E 241:242",
   "242:241 243:180 244:289 245:28C 246:247 247:246 248:249 249:248 24A:24B 24B:24A 24C:24D",
   "24D:24C 24E:24F 24F:24E 250:2C6F 251:2C6D 252:2C70 253:181 254:186 255:0 256:189 258:0",
   "259:18F 25A:0 25B:190 25C:A7AB 25D:0 260:193 261:A7AC 262:0 263:194 264:A7CB 265:A78D",
   "266:A7AA 267:0 268:197 269:196 26A:A7AE 26B:2C62 26C:A7AD 26D:0 26F:19C 270:0 271:2C6E",
   "272:19D 273:0 275:19F 276:0 27D:2C64 27E:0 280:1A6 281:0 282:A7C5 283:1A9 284:0 287:A7B1",
   "288:1AE 289:244 28A:1B1 28C:245 28D:0 292:1B7 293:0 29D:A7B2 29E:A7B0 29F:0 345:399 346:0",
   "370:371 371:370 372:373 373:372 374:0 376:377 377:376 378:0 37B:3FD 37E:0 37F:3F3 380:0",
   "386:3AC 387:0 388:3AD 38B:0 38C:3CC 38D:0 38E:3CD 390:1FD3 391:3B1 3A2:0 3A3:3C2 3A4:3C4",
   "3AC:386 3AD:388 3B0:1FE3 3B1:391 3B2:3D0 3B3:393 3B5:3F5 3B6:396 3B8:3D1 3B9:1FBE 3BA:3F0",
   "3BB:39B 3BC:B5 3BD:39D 3C0:3D6 3C1:3F1 3C2:3C3 3C3:3A3 3C6:3D5 3C7:3A7 3C9:2126 3CA:3AA",
   "3CC:38C 3CD:38E 3CF:3D7 3D0:392 3D1:3F4 3D2:0 3D5:3A6 3D6:3A0 3D7:3CF 3D8:3D9 3D9:3D8",
   "3DA:3DB 3DB:3DA 3DC:3DD 3DD:3DC 3DE:3DF 3DF:3DE 3E0:3E1 3E1:3E0 3E2:3E3 3E3:3E2 3E4:3E5",
   "3E5:3E4 3E6:3E7 3E7:3E6 3E8:3E9 3E9:3E8 3EA:3EB 3EB:3EA 3EC:3ED 3ED:3EC 3EE:3EF 3EF:3EE",
   "3F0:39A 3F1:3A1 3F2:3F9 3F3:37F 3F4:398 3F5:395 3F6:0 3F7:3F8 3F8:3F7 3F9:3F2 3FA:3FB",
   "3FB:3FA 3FC:0 3FD:37B 400:450 410:430 430:410 432:1C80 433:413 434:1C81 435:415 43E:1C82",
   "43F:41F 441:1C83 443:423 44A:1C86 44B:42B 450:400 460:461 461:460 462:463 463:1C87 464:465",
   "465:464 466:467 467:466 468:469 469:468 46A:46B 46B:46A 46C:46D 46D:46C 46E:46F 46F:46E",
   "470:471 471:470 472:473 473:472 474:475 475:474 476:477 477:476 478:479 479:478 47A:47B",
   "47B:47A 47C:47D 47D:47C 47E:47F 47F:47E 480:481 481:480 482:0 48A:48B 48B:48A 48C:48D",
   "48D:48C 48E:48F 48F:48E 490:491 491:490 492:493 493:492 494:495 495:494 496:497 497:496",
   "498:499 499:498 49A:49B 49B:49A 49C:49D 49D:49C 49E:49F 49F:49E 4A0:4A1 4A1:4A0 4A2:4A3",
   "4A3:4A2 4A4:4A5 4A5:4A4 4A6:4A7 4A7:4A6 4A8:4A9 4A9:4A8 4AA:4AB 4AB:4AA 4AC:4AD 4AD:4AC",
   "4AE:4AF 4AF:4AE 4B0:4B1 4B1:4B0 4B2:4B3 4B3:4B2 4B4:4B5 4B5:4B4 4B6:4B7 4B7:4B6 4B8:4B9",
   "4B9:4B8 4BA:4BB 4BB:4BA 4BC:4BD 4BD:4BC 4BE:4BF 4BF:4BE 4C0:4CF 4C1:4C2 4C2:4C1 4C3:4C4",
   "4C4:4C3 4C5:4C6 4C6:4C5 4C7:4C8 4C8:4C7 4C9:4CA 4CA:4C9 4CB:4CC 4CC:4CB 4CD:4CE 4CE:4CD",
   "4CF:4C0 4D0:4D1 4D1:4D0 4D2:4D3 4D3:4D2 4D4:4D5 4D5:4D4 4D6:4D7 4D7:4D6 4D8:4D9 4D9:4D8",
   "4DA:4DB 4DB:4DA 4DC:4DD 4DD:4DC 4DE:4DF 4DF:4DE 4E0:4E1 4E1:4E0 4E2:4E3 4E3:4E2 4E4:4E5",
   "4E5:4E4 4E6:4E7 4E7:4E6 4E8:4E9 4E9:4E8 4EA:4EB 4EB:4EA 4EC:4ED 4ED:4EC 4EE:4EF 4EF:4EE",
   "4F0:4F1 4F1:4F0 4F2:4F3 4F3:4F2 4F4:4F5 4F5:4F4 4F6:4F7 4F7:4F6 4F8:4F9 4F9:4F8 4FA:4FB",
   "4FB:4FA 4FC:4FD 4FD:4FC 4FE:4FF 4FF:4FE 500:501 501:500 502:503 503:502 504:505 505:504",
   "506:507 507:506 508:509 509:508 50A:50B 50B:50A 50C:50D 50D:50C 50E:50F 50F:50E 510:511",
   "511:510 512:513 513:512 514:515 515:514 516:517 517:516 518:519 519:518 51A:51B 51B:51A",
   "51C:51D 51D:51C 51E:51F 51F:51E 520:521 521:520 522:523 523:522 524:525 525:524 526:527",
   "527:526 528:529 529:528 52A:52B 52B:52A 52C:52D 52D:52C 52E:52F 52F:52E 530:0 531:561",
   "557:0 561:531 587:0 10A0:2D00 10C6:0 10C7:2D27 10C8:0 10CD:2D2D 10CE:0 10D0:1C90 10FB:0",
   "10FD:1CBD 1100:0 13A0:AB70 13F0:13F8 13F6:0 13F8:13F0 13FE:0 1C80:412 1C81:414 1C82:41E",
   "1C83:421 1C84:1C85 1C85:422 1C86:42A 1C87:462 1C88:A64A 1C89:1C8A 1C8A:1C89 1C8B:0",
   "1C90:10D0 1CBB:0 1CBD:10FD 1CC0:0 1D79:A77D 1D7A:0 1D7D:2C63 1D7E:0 1D8E:A7C6 1D8F:0",
   "1E00:1E01 1E01:1E00 1E02:1E03 1E03:1E02 1E04:1E05 1E05:1E04 1E06:1E07 1E07:1E06 1E08:1E09",
   "1E09:1E08 1E0A:1E0B 1E0B:1E0A 1E0C:1E0D 1E0D:1E0C 1E0E:1E0F 1E0F:1E0E 1E10:1E11 1E11:1E10",
   "1E12:1E13 1E13:1E12 1E14:1E15 1E15:1E14 1E16:1E17 1E17:1E16 1E18:1E19 1E19:1E18 1E1A:1E1B",
   "1E1B:1E1A 1E1C:1E1D 1E1D:1E1C 1E1E:1E1F 1E1F:1E1E 1E20:1E21 1E21:1E20 1E22:1E23 1E23:1E22",
   "1E24:1E25 1E25:1E24 1E26:1E27 1E27:1E26 1E28:1E29 1E29:1E28 1E2A:1E2B 1E2B:1E2A 1E2C:1E2D",
   "1E2D:1E2C 1E2E:1E2F 1E2F:1E2E 1E30:1E31 1E31:1E30 1E32:1E33 1E33:1E32 1E34:1E35 1E35:1E34",
   "1E36:1E37 1E37:1E36 1E38:1E39 1E39:1E38 1E3A:1E3B 1E3B:1E3A 1E3C:1E3D 1E3D:1E3C 1E3E:1E3F",
   "1E3F:1E3E 1E40:1E41 1E41:1E40 1E42:1E43 1E43:1E42 1E44:1E45 1E45:1E44 1E46:1E47 1E47:1E46",
   "1E48:1E49 1E49:1E48 1E4A:1E4B 1E4B:1E4A 1E4C:1E4D 1E4D:1E4C 1E4E:1E4F 1E4F:1E4E 1E50:1E51",
   "1E51:1E50 1E52:1E53 1E53:1E52 1E54:1E55 1E55:1E54 1E56:1E57 1E57:1E56 1E58:1E59 1E59:1E58",
   "1E5A:1E5B 1E5B:1E5A 1E5C:1E5D 1E5D:1E5C 1E5E:1E5F 1E5F:1E5E 1E60:1E61 1E61:1E9B 1E62:1E63",
   "1E63:1E62 1E64:1E65 1E65:1E64 1E66:1E67 1E67:1E66 1E68:1E69 1E69:1E68 1E6A:1E6B 1E6B:1E6A",
   "1E6C:1E6D 1E6D:1E6C 1E6E:1E6F 1E6F:1E6E 1E70:1E71 1E71:1E70 1E72:1E73 1E73:1E72 1E74:1E75",
   "1E75:1E74 1E76:1E77 1E77:1E76 1E78:1E79 1E79:1E78 1E7A:1E7B 1E7B:1E7A 1E7C:1E7D 1E7D:1E7C",
   "1E7E:1E7F 1E7F:1E7E 1E80:1E81 1E81:1E80 1E82:1E83 1E83:1E82 1E84:1E85 1E85:1E84 1E86:1E87",
   "1E87:1E86 1E88:1E89 1E89:1E88 1E8A:1E8B 1E8B:1E8A 1E8C:1E8D 1E8D:1E8C 1E8E:1E8F 1E8F:1E8E",
   "1E90:1E91 1E91:1E90 1E92:1E93 1E93:1E92 1E94:1E95 1E95:1E94 1E96:0 1E9B:1E60 1E9C:0",
   "1E9E:DF 1E9F:0 1EA0:1EA1 1EA1:1EA0 1EA2:1EA3 1EA3:1EA2 1EA4:1EA5 1EA5:1EA4 1EA6:1EA7",
   "1EA7:1EA6 1EA8:1EA9 1EA9:1EA8 1EAA:1EAB 1EAB:1EAA 1EAC:1EAD 1EAD:1EAC 1EAE:1EAF 1EAF:1EAE",
   "1EB0:1EB1 1EB1:1EB0 1EB2:1EB3 1EB3:1EB2 1EB4:1EB5 1EB5:1EB4 1EB6:1EB7 1EB7:1EB6 1EB8:1EB9",
   "1EB9:1EB8 1EBA:1EBB 1EBB:1EBA 1EBC:1EBD 1EBD:1EBC 1EBE:1EBF 1EBF:1EBE 1EC0:1EC1 1EC1:1EC0",
   "1EC2:1EC3 1EC3:1EC2 1EC4:1EC5 1EC5:1EC4 1EC6:1EC7 1EC7:1EC6 1EC8:1EC9 1EC9:1EC8 1ECA:1ECB",
   "1ECB:1ECA 1ECC:1ECD 1ECD:1ECC 1ECE:1ECF 1ECF:1ECE 1ED0:1ED1 1ED1:1ED0 1ED2:1ED3 1ED3:1ED2",
   "1ED4:1ED5 1ED5:1ED4 1ED6:1ED7 1ED7:1ED6 1ED8:1ED9 1ED9:1ED8 1EDA:1EDB 1EDB:1EDA 1EDC:1EDD",
   "1EDD:1EDC 1EDE:1EDF 1EDF:1EDE 1EE0:1EE1 1EE1:1EE0 1EE2:1EE3 1EE3:1EE2 1EE4:1EE5 1EE5:1EE4",
   "1EE6:1EE7 1EE7:1EE6 1EE8:1EE9 1EE9:1EE8 1EEA:1EEB 1EEB:1EEA 1EEC:1EED 1EED:1EEC 1EEE:1EEF",
   "1EEF:1EEE 1EF0:1EF1 1EF1:1EF0 1EF2:1EF3 1EF3:1EF2 1EF4:1EF5 1EF5:1EF4 1EF6:1EF7 1EF7:1EF6",
   "1EF8:1EF9 1EF9:1EF8 1EFA:1EFB 1EFB:1EFA 1EFC:1EFD 1EFD:1EFC 1EFE:1EFF 1EFF:1EFE 1F00:1F08",
   "1F08:1F00 1F10:1F18 1F16:0 1F18:1F10 1F1E:0 1F20:1F28 1F28:1F20 1F30:1F38 1F38:1F30",
   "1F40:1F48 1F46:0 1F48:1F40 1F4E:0 1F51:1F59 1F52:0 1F53:1F5B 1F54:0 1F55:1F5D 1F56:0",
   "1F57:1F5F 1F58:0 1F59:1F51 1F5A:0 1F5B:1F53 1F5C:0 1F5D:1F55 1F5E:0 1F5F:1F57 1F60:1F68",
   "1F68:1F60 1F70:1FBA 1F72:1FC8 1F76:1FDA 1F78:1FF8 1F7A:1FEA 1F7C:1FFA 1F7E:0 1F80:1F88",
   "1F88:1F80 1F90:1F98 1F98:1F90 1FA0:1FA8 1FA8:1FA0 1FB0:1FB8 1FB2:0 1FB3:1FBC 1FB4:0",
   "1FB8:1FB0 1FBA:1F70 1FBC:1FB3 1FBD:0 1FBE:345 1FBF:0 1FC3:1FCC 1FC4:0 1FC8:1F72 1FCC:1FC3",
   "1FCD:0 1FD0:1FD8 1FD2:0 1FD3:390 1FD4:0 1FD8:1FD0 1FDA:1F76 1FDC:0 1FE0:1FE8 1FE2:0",
   "1FE3:3B0 1FE4:0 1FE5:1FEC 1FE6:0 1FE8:1FE0 1FEA:1F7A 1FEC:1FE5 1FED:0 1FF3:1FFC 1FF4:0",
   "1FF8:1F78 1FFA:1F7C 1FFC:1FF3 1FFD:0 2126:3A9 2127:0 212A:4B 212B:C5 212C:0 2132:214E",
   "2133:0 214E:2132 214F:0 2160:2170 2170:2160 2180:0 2183:2184 2184:2183 2185:0 24B6:24D0",
   "24D0:24B6 24EA:0 2C00:2C30 2C30:2C00 2C60:2C61 2C61:2C60 2C62:26B 2C63:1D7D 2C64:27D",
   "2C65:23A 2C66:23E 2C67:2C68 2C68:2C67 2C69:2C6A 2C6A:2C69 2C6B:2C6C 2C6C:2C6B 2C6D:251",
   "2C6E:271 2C6F:250 2C70:252 2C71:0 2C72:2C73 2C73:2C72 2C74:0 2C75:2C76 2C76:2C75 2C77:0",
   "2C7E:23F 2C80:2C81 2C81:2C80 2C82:2C83 2C83:2C82 2C84:2C85 2C85:2C84 2C86:2C87 2C87:2C86",
   "2C88:2C89 2C89:2C88 2C8A:2C8B 2C8B:2C8A 2C8C:2C8D 2C8D:2C8C 2C8E:2C8F 2C8F:2C8E 2C90:2C91",
   "2C91:2C90 2C92:2C93 2C93:2C92 2C94:2C95 2C95:2C94 2C96:2C97 2C97:2C96 2C98:2C99 2C99:2C98",
   "2C9A:2C9B 2C9B:2C9A 2C9C:2C9D 2C9D:2C9C 2C9E:2C9F 2C9F:2C9E 2CA0:2CA1 2CA1:2CA0 2CA2:2CA3",
   "2CA3:2CA2 2CA4:2CA5 2CA5:2CA4 2CA6:2CA7 2CA7:2CA6 2CA8:2CA9 2CA9:2CA8 2CAA:2CAB 2CAB:2CAA",
   "2CAC:2CAD 2CAD:2CAC 2CAE:2CAF 2CAF:2CAE 2CB0:2CB1 2CB1:2CB0 2CB2:2CB3 2CB3:2CB2 2CB4:2CB5",
   "2CB5:2CB4 2CB6:2CB7 2CB7:2CB6 2CB8:2CB9 2CB9:2CB8 2CBA:2CBB 2CBB:2CBA 2CBC:2CBD 2CBD:2CBC",
   "2CBE:2CBF 2CBF:2CBE 2CC0:2CC1 2CC1:2CC0 2CC2:2CC3 2CC3:2CC2 2CC4:2CC5 2CC5:2CC4 2CC6:2CC7",
   "2CC7:2CC6 2CC8:2CC9 2CC9:2CC8 2CCA:2CCB 2CCB:2CCA 2CCC:2CCD 2CCD:2CCC 2CCE:2CCF 2CCF:2CCE",
   "2CD0:2CD1 2CD1:2CD0 2CD2:2CD3 2CD3:2CD2 2CD4:2CD5 2CD5:2CD4 2CD6:2CD7 2CD7:2CD6 2CD8:2CD9",
   "2CD9:2CD8 2CDA:2CDB 2CDB:2CDA 2CDC:2CDD 2CDD:2CDC 2CDE:2CDF 2CDF:2CDE 2CE0:2CE1 2CE1:2CE0",
   "2CE2:2CE3 2CE3:2CE2 2CE4:0 2CEB:2CEC 2CEC:2CEB 2CED:2CEE 2CEE:2CED 2CEF:0 2CF2:2CF3",
   "2CF3:2CF2 2CF4:0 2D00:10A0 2D26:0 2D27:10C7 2D28:0 2D2D:10CD 2D2E:0 A640:A641 A641:A640",
   "A642:A643 A643:A642 A644:A645 A645:A644 A646:A647 A647:A646 A648:A649 A649:A648 A64A:A64B",
   "A64B:1C88 A64C:A64D A64D:A64C A64E:A64F A64F:A64E A650:A651 A651:A650 A652:A653 A653:A652",
   "A654:A655 A655:A654 A656:A657 A657:A656 A658:A659 A659:A658 A65A:A65B A65B:A65A A65C:A65D",
   "A65D:A65C A65E:A65F A65F:A65E A660:A661 A661:A660 A662:A663 A663:A662 A664:A665 A665:A664",
   "A666:A667 A667:A666 A668:A669 A669:A668 A66A:A66B A66B:A66A A66C:A66D A66D:A66C A66E:0",
   "A680:A681 A681:A680 A682:A683 A683:A682 A684:A685 A685:A684 A686:A687 A687:A686 A688:A689",
   "A689:A688 A68A:A68B A68B:A68A A68C:A68D A68D:A68C A68E:A68F A68F:A68E A690:A691 A691:A690",
   "A692:A693 A693:A692 A694:A695 A695:A694 A696:A697 A697:A696 A698:A699 A699:A698 A69A:A69B",
   "A69B:A69A A69C:0 A722:A723 A723:A722 A724:A725 A725:A724 A726:A727 A727:A726 A728:A729",
   "A729:A728 A72A:A72B A72B:A72A A72C:A72D A72D:A72C A72E:A72F A72F:A72E A730:0 A732:A733",
   "A733:A732 A734:A735 A735:A734 A736:A737 A737:A736 A738:A739 A739:A738 A73A:A73B A73B:A73A",
   "A73C:A73D A73D:A73C A73E:A73F A73F:A73E A740:A741 A741:A740 A742:A743 A743:A742 A744:A745",
   "A745:A744 A746:A747 A747:A746 A748:A749 A749:A748 A74A:A74B A74B:A74A A74C:A74D A74D:A74C",
   "A74E:A74F A74F:A74E A750:A751 A751:A750 A752:A753 A753:A752 A754:A755 A755:A754 A756:A757",
   "A757:A756 A758:A759 A759:A758 A75A:A75B A75B:A75A A75C:A75D A75D:A75C A75E:A75F A75F:A75E",
   "A760:A761 A761:A760 A762:A763 A763:A762 A764:A765 A765:A764 A766:A767 A767:A766 A768:A769",
   "A769:A768 A76A:A76B A76B:A76A A76C:A76D A76D:A76C A76E:A76F A76F:A76E A770:0 A779:A77A",
   "A77A:A779 A77B:A77C A77C:A77B A77D:1D79 A77E:A77F A77F:A77E A780:A781 A781:A780 A782:A783",
   "A783:A782 A784:A785 A785:A784 A786:A787 A787:A786 A788:0 A78B:A78C A78C:A78B A78D:265",
   "A78E:0 A790:A791 A791:A790 A792:A793 A793:A792 A794:A7C4 A795:0 A796:A797 A797:A796",
   "A798:A799 A799:A798 A79A:A79B A79B:A79A A79C:A79D A79D:A79C A79E:A79F A79F:A79E A7A0:A7A1",
   "A7A1:A7A0 A7A2:A7A3 A7A3:A7A2 A7A4:A7A5 A7A5:A7A4 A7A6:A7A7 A7A7:A7A6 A7A8:A7A9 A7A9:A7A8",
   "A7AA:266 A7AB:25C A7AC:261 A7AD:26C A7AE:26A A7AF:0 A7B0:29E A7B1:287 A7B2:29D A7B3:AB53",
   "A7B4:A7B5 A7B5:A7B4 A7B6:A7B7 A7B7:A7B6 A7B8:A7B9 A7B9:A7B8 A7BA:A7BB A7BB:A7BA A7BC:A7BD",
   "A7BD:A7BC A7BE:A7BF A7BF:A7BE A7C0:A7C1 A7C1:A7C0 A7C2:A7C3 A7C3:A7C2 A7C4:A794 A7C5:282",
   "A7C6:1D8E A7C7:A7C8 A7C8:A7C7 A7C9:A7CA A7CA:A7C9 A7CB:264 A7CC:A7CD A7CD:A7CC A7CE:A7CF",
   "A7CF:A7CE A7D0:A7D1 A7D1:A7D0 A7D2:A7D3 A7D3:A7D2 A7D4:A7D5 A7D5:A7D4 A7D6:A7D7 A7D7:A7D6",
   "A7D8:A7D9 A7D9:A7D8 A7DA:A7DB A7DB:A7DA A7DC:19B A7DD:0 A7F5:A7F6 A7F6:A7F5 A7F7:0",
   "AB53:A7B3 AB54:0 AB70:13A0 ABC0:0 FB05:FB06 FB06:FB05 FB07:0 FF21:FF41 FF3B:0 FF41:FF21",
   "FF5B:0 10400:10428 10428:10400 10450:0 104B0:104D8 104D4:0 104D8:104B0 104FC:0 10570:10597",
   "1057B:0 1057C:105A3 1058B:0 1058C:105B3 10593:0 10594:105BB 10596:0 10597:10570 105A2:0",
   "105A3:1057C 105B2:0 105B3:1058C 105BA:0 105BB:10594 105BD:0 10C80:10CC0 10CB3:0",
   "10CC0:10C80 10CF3:0 10D50:10D70 10D66:0 10D70:10D50 10D86:0 118A0:118C0 118C0:118A0",
   "118E0:0 16E40:16E60 16E60:16E40 16E80:0 16EA0:16EBB 16EB9:0 16EBB:16EA0 16ED4:0",
   "1E900:1E922 1E922:1E900 1E944:0"]

def mapByRuns (t : CodeTable) (c : Char) : Char :=
  match t.run? c.toNat with
  | some (start, v) => if v == 0 then c else Char.ofNat (v + (c.toNat - start))
  | none => c

def toLowerChar (c : Char) : Char := mapByRuns lowerTable c

def toUpperChar (c : Char) : Char := mapByRuns upperTable c

def toLower (s : String) : String := String.ofList (s.toList.map toLowerChar)

def toUpper (s : String) : String := String.ofList (s.toList.map toUpperChar)

def simpleFold (c : Char) : Char := mapByRuns foldTable c

def foldOrbit (c : Char) : List Char :=
  c :: go 8 (simpleFold c)
where
  go : Nat → Char → List Char
    | 0, _ => []
    | n + 1, d => if d == c then [] else d :: go n (simpleFold d)

def sameFold (a b : Char) : Bool := a == b || (foldOrbit a).contains b

def equalFold (a b : String) : Bool :=
  a.length == b.length && (a.toList.zip b.toList).all fun p => sameFold p.1 p.2

end TestRig.Text
