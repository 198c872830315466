import TestRig.Text.CodeTable

/-!
General categories of Unicode 17.0: every code point is a letter, mark, number, punctuation,
symbol, separator or other character of one of thirty kinds. The table holds the category of
every code point as runs; unassigned code points have the category `Cn`. The one-letter groups
(`L`, `M`, ...) are unions of the kinds that start with their letter, and `LC` holds the cased
letters.
-/

namespace TestRig.Text

/-- The thirty general categories, in the order of the table's values. -/
inductive GeneralCategory where
  | Lu | Ll | Lt | Lm | Lo
  | Mn | Mc | Me
  | Nd | Nl | No
  | Pc | Pd | Ps | Pe | Pi | Pf | Po
  | Sm | Sc | Sk | So
  | Zs | Zl | Zp
  | Cc | Cf | Cs | Co | Cn
  deriving DecidableEq, Repr, Inhabited

namespace GeneralCategory

def all : List GeneralCategory :=
  [Lu, Ll, Lt, Lm, Lo, Mn, Mc, Me, Nd, Nl, No, Pc, Pd, Ps, Pe, Pi, Pf, Po, Sm, Sc, Sk, So,
   Zs, Zl, Zp, Cc, Cf, Cs, Co, Cn]

def ofIndex (i : Nat) : GeneralCategory := all.getD i Cn

def name : GeneralCategory → String
  | Lu => "Lu" | Ll => "Ll" | Lt => "Lt" | Lm => "Lm" | Lo => "Lo"
  | Mn => "Mn" | Mc => "Mc" | Me => "Me"
  | Nd => "Nd" | Nl => "Nl" | No => "No"
  | Pc => "Pc" | Pd => "Pd" | Ps => "Ps" | Pe => "Pe" | Pi => "Pi" | Pf => "Pf" | Po => "Po"
  | Sm => "Sm" | Sc => "Sc" | Sk => "Sk" | So => "So"
  | Zs => "Zs" | Zl => "Zl" | Zp => "Zp"
  | Cc => "Cc" | Cf => "Cf" | Cs => "Cs" | Co => "Co" | Cn => "Cn"

def shortNames : List String :=
  (all.map name) ++ ["L", "LC", "M", "N", "P", "S", "Z", "C"]

def aliases : List (String × String) :=
  [("Cased_Letter", "LC"), ("Close_Punctuation", "Pe"), ("Connector_Punctuation", "Pc"),
   ("Control", "Cc"), ("cntrl", "Cc"), ("Currency_Symbol", "Sc"), ("Dash_Punctuation", "Pd"),
   ("Decimal_Number", "Nd"), ("digit", "Nd"), ("Enclosing_Mark", "Me"),
   ("Final_Punctuation", "Pf"), ("Format", "Cf"), ("Initial_Punctuation", "Pi"),
   ("Letter", "L"), ("Letter_Number", "Nl"), ("Line_Separator", "Zl"),
   ("Lowercase_Letter", "Ll"), ("Mark", "M"), ("Combining_Mark", "M"), ("Math_Symbol", "Sm"),
   ("Modifier_Letter", "Lm"), ("Modifier_Symbol", "Sk"), ("Nonspacing_Mark", "Mn"),
   ("Number", "N"), ("Open_Punctuation", "Ps"), ("Other", "C"), ("Other_Letter", "Lo"),
   ("Other_Number", "No"), ("Other_Punctuation", "Po"), ("Other_Symbol", "So"),
   ("Paragraph_Separator", "Zp"), ("Private_Use", "Co"), ("Punctuation", "P"), ("punct", "P"),
   ("Separator", "Z"), ("Space_Separator", "Zs"), ("Spacing_Mark", "Mc"), ("Surrogate", "Cs"),
   ("Symbol", "S"), ("Titlecase_Letter", "Lt"), ("Unassigned", "Cn"),
   ("Uppercase_Letter", "Lu")]

def kindsOf (short : String) : List GeneralCategory :=
  if short == "LC" then [Lu, Ll, Lt]
  else all.filter fun g => g.name == short || g.name.take 1 == short

end GeneralCategory

def looseName (s : String) : String :=
  String.ofList ((s.toList.filter fun c => c != ' ' && c != '_' && c != '-').map fun c =>
    if 'A' ≤ c && c ≤ 'Z' then Char.ofNat (c.toNat + 32) else c)

namespace GeneralCategory

def ofName? (s : String) : Option (List GeneralCategory) :=
  let key := looseName s
  match shortNames.find? (fun n => looseName n == key) with
  | some short => some (kindsOf short)
  | none => (aliases.find? (fun a => looseName a.1 == key)).map fun a => kindsOf a.2

def isLetter (g : GeneralCategory) : Bool := [Lu, Ll, Lt, Lm, Lo].contains g

def isMark (g : GeneralCategory) : Bool := [Mn, Mc, Me].contains g

def isNumber (g : GeneralCategory) : Bool := [Nd, Nl, No].contains g

def isPunctuation (g : GeneralCategory) : Bool := [Pc, Pd, Ps, Pe, Pi, Pf, Po].contains g

def isSymbol (g : GeneralCategory) : Bool := [Sm, Sc, Sk, So].contains g

end GeneralCategory

def categoryTable : CodeTable := CodeTable.ofRuns
  ["0:19 20:16 21:11 24:13 25:11 28:D 29:E 2A:11 2B:12 2C:11 2D:C 2E:11 30:8 3A:11 3C:12 3F:11",
   "41:0 5B:D 5C:11 5D:E 5E:14 5F:B 60:14 61:1 7B:D 7C:12 7D:E 7E:12 7F:19 A0:16 A1:11 A2:13",
   "A6:15 A7:11 A8:14 A9:15 AA:4 AB:F AC:12 AD:1A AE:15 AF:14 B0:15 B1:12 B2:A B4:14 B5:1",
   "B6:11 B8:14 B9:A BA:4 BB:10 BC:A BF:11 C0:0 D7:12 D8:0 DF:1 F7:12 F8:1 100:0 101:1 102:0",
   "103:1 104:0 105:1 106:0 107:1 108:0 109:1 10A:0 10B:1 10C:0 10D:1 10E:0 10F:1 110:0 111:1",
   "112:0 113:1 114:0 115:1 116:0 117:1 118:0 119:1 11A:0 11B:1 11C:0 11D:1 11E:0 11F:1 120:0",
   "121:1 122:0 123:1 124:0 125:1 126:0 127:1 128:0 129:1 12A:0 12B:1 12C:0 12D:1 12E:0 12F:1",
   "130:0 131:1 132:0 133:1 134:0 135:1 136:0 137:1 139:0 13A:1 13B:0 13C:1 13D:0 13E:1 13F:0",
   "140:1 141:0 142:1 143:0 144:1 145:0 146:1 147:0 148:1 14A:0 14B:1 14C:0 14D:1 14E:0 14F:1",
   "150:0 151:1 152:0 153:1 154:0 155:1 156:0 157:1 158:0 159:1 15A:0 15B:1 15C:0 15D:1 15E:0",
   "15F:1 160:0 161:1 162:0 163:1 164:0 165:1 166:0 167:1 168:0 169:1 16A:0 16B:1 16C:0 16D:1",
   "16E:0 16F:1 170:0 171:1 172:0 173:1 174:0 175:1 176:0 177:1 178:0 17A:1 17B:0 17C:1 17D:0",
   "17E:1 181:0 183:1 184:0 185:1 186:0 188:1 189:0 18C:1 18E:0 192:1 193:0 195:1 196:0 199:1",
   "19C:0 19E:1 19F:0 1A1:1 1A2:0 1A3:1 1A4:0 1A5:1 1A6:0 1A8:1 1A9:0 1AA:1 1AC:0 1AD:1 1AE:0",
   "1B0:1 1B1:0 1B4:1 1B5:0 1B6:1 1B7:0 1B9:1 1BB:4 1BC:0 1BD:1 1C0:4 1C4:0 1C5:2 1C6:1 1C7:0",
   "1C8:2 1C9:1 1CA:0 1CB:2 1CC:1 1CD:0 1CE:1 1CF:0 1D0:1 1D1:0 1D2:1 1D3:0 1D4:1 1D5:0 1D6:1",
   "1D7:0 1D8:1 1D9:0 1DA:1 1DB:0 1DC:1 1DE:0 1DF:1 1E0:0 1E1:1 1E2:0 1E3:1 1E4:0 1E5:1 1E6:0",
   "1E7:1 1E8:0 1E9:1 1EA:0 1EB:1 1EC:0 1ED:1 1EE:0 1EF:1 1F1:0 1F2:2 1F3:1 1F4:0 1F5:1 1F6:0",
   "1F9:1 1FA:0 1FB:1 1FC:0 1FD:1 1FE:0 1FF:1 200:0 201:1 202:0 203:1 204:0 205:1 206:0 207:1",
   "208:0 209:1 20A:0 20B:1 20C:0 20D:1 20E:0 20F:1 210:0 211:1 212:0 213:1 214:0 215:1 216:0",
   "217:1 218:0 219:1 21A:0 21B:1 21C:0 21D:1 21E:0 21F:1 220:0 221:1 222:0 223:1 224:0 225:1",
   "226:0 227:1 228:0 229:1 22A:0 22B:1 22C:0 22D:1 22E:0 22F:1 230:0 231:1 232:0 233:1 23A:0",
   "23C:1 23D:0 23F:1 241:0 242:1 243:0 247:1 248:0 249:1 24A:0 24B:1 24C:0 24D:1 24E:0 24F:1",
   "294:4 296:1 2B0:3 2C2:14 2C6:3 2D2:14 2E0:3 2E5:14 2EC:3 2ED:14 2EE:3 2EF:14 300:5 370:0",
   "371:1 372:0 373:1 374:3 375:14 376:0 377:1 378:1D 37A:3 37B:1 37E:11 37F:0 380:1D 384:14",
   "386:0 387:11 388:0 38B:1D 38C:0 38D:1D 38E:0 390:1 391:0 3A2:1D 3A3:0 3AC:1 3CF:0 3D0:1",
   "3D2:0 3D5:1 3D8:0 3D9:1 3DA:0 3DB:1 3DC:0 3DD:1 3DE:0 3DF:1 3E0:0 3E1:1 3E2:0 3E3:1 3E4:0",
   "3E5:1 3E6:0 3E7:1 3E8:0 3E9:1 3EA:0 3EB:1 3EC:0 3ED:1 3EE:0 3EF:1 3F4:0 3F5:1 3F6:12 3F7:0",
   "3F8:1 3F9:0 3FB:1 3FD:0 430:1 460:0 461:1 462:0 463:1 464:0 465:1 466:0 467:1 468:0 469:1",
   "46A:0 46B:1 46C:0 46D:1 46E:0 46F:1 470:0 471:1 472:0 473:1 474:0 475:1 476:0 477:1 478:0",
   "479:1 47A:0 47B:1 47C:0 47D:1 47E:0 47F:1 480:0 481:1 482:15 483:5 488:7 48A:0 48B:1 48C:0",
   "48D:1 48E:0 48F:1 490:0 491:1 492:0 493:1 494:0 495:1 496:0 497:1 498:0 499:1 49A:0 49B:1",
   "49C:0 49D:1 49E:0 49F:1 4A0:0 4A1:1 4A2:0 4A3:1 4A4:0 4A5:1 4A6:0 4A7:1 4A8:0 4A9:1 4AA:0",
   "4AB:1 4AC:0 4AD:1 4AE:0 4AF:1 4B0:0 4B1:1 4B2:0 4B3:1 4B4:0 4B5:1 4B6:0 4B7:1 4B8:0 4B9:1",
   "4BA:0 4BB:1 4BC:0 4BD:1 4BE:0 4BF:1 4C0:0 4C2:1 4C3:0 4C4:1 4C5:0 4C6:1 4C7:0 4C8:1 4C9:0",
   "4CA:1 4CB:0 4CC:1 4CD:0 4CE:1 4D0:0 4D1:1 4D2:0 4D3:1 4D4:0 4D5:1 4D6:0 4D7:1 4D8:0 4D9:1",
   "4DA:0 4DB:1 4DC:0 4DD:1 4DE:0 4DF:1 4E0:0 4E1:1 4E2:0 4E3:1 4E4:0 4E5:1 4E6:0 4E7:1 4E8:0",
   "4E9:1 4EA:0 4EB:1 4EC:0 4ED:1 4EE:0 4EF:1 4F0:0 4F1:1 4F2:0 4F3:1 4F4:0 4F5:1 4F6:0 4F7:1",
   "4F8:0 4F9:1 4FA:0 4FB:1 4FC:0 4FD:1 4FE:0 4FF:1 500:0 501:1 502:0 503:1 504:0 505:1 506:0",
   "507:1 508:0 509:1 50A:0 50B:1 50C:0 50D:1 50E:0 50F:1 510:0 511:1 512:0 513:1 514:0 515:1",
   "516:0 517:1 518:0 519:1 51A:0 51B:1 51C:0 51D:1 51E:0 51F:1 520:0 521:1 522:0 523:1 524:0",
   "525:1 526:0 527:1 528:0 529:1 52A:0 52B:1 52C:0 52D:1 52E:0 52F:1 530:1D 531:0 557:1D",
   "559:3 55A:11 560:1 589:11 58A:C 58B:1D 58D:15 58F:13 590:1D 591:5 5BE:C 5BF:5 5C0:11 5C1:5",
   "5C3:11 5C4:5 5C6:11 5C7:5 5C8:1D 5D0:4 5EB:1D 5EF:4 5F3:11 5F5:1D 600:1A 606:12 609:11",
   "60B:13 60C:11 60E:15 610:5 61B:11 61C:1A 61D:11 620:4 640:3 641:4 64B:5 660:8 66A:11 66E:4",
   "670:5 671:4 6D4:11 6D5:4 6D6:5 6DD:1A 6DE:15 6DF:5 6E5:3 6E7:5 6E9:15 6EA:5 6EE:4 6F0:8",
   "6FA:4 6FD:15 6FF:4 700:11 70E:1D 70F:1A 710:4 711:5 712:4 730:5 74B:1D 74D:4 7A6:5 7B1:4",
   "7B2:1D 7C0:8 7CA:4 7EB:5 7F4:3 7F6:15 7F7:11 7FA:3 7FB:1D 7FD:5 7FE:13 800:4 816:5 81A:3",
   "81B:5 824:3 825:5 828:3 829:5 82E:1D 830:11 83F:1D 840:4 859:5 85C:1D 85E:11 85F:1D 860:4",
   "86B:1D 870:4 888:14 889:4 890:1A 892:1D 897:5 8A0:4 8C9:3 8CA:5 8E2:1A 8E3:5 903:6 904:4",
   "93A:5 93B:6 93C:5 93D:4 93E:6 941:5 949:6 94D:5 94E:6 950:4 951:5 958:4 962:5 964:11 966:8",
   "970:11 971:3 972:4 981:5 982:6 984:1D 985:4 98D:1D 98F:4 991:1D 993:4 9A9:1D 9AA:4 9B1:1D",
   "9B2:4 9B3:1D 9B6:4 9BA:1D 9BC:5 9BD:4 9BE:6 9C1:5 9C5:1D 9C7:6 9C9:1D 9CB:6 9CD:5 9CE:4",
   "9CF:1D 9D7:6 9D8:1D 9DC:4 9DE:1D 9DF:4 9E2:5 9E4:1D 9E6:8 9F0:4 9F2:13 9F4:A 9FA:15 9FB:13",
   "9FC:4 9FD:11 9FE:5 9FF:1D A01:5 A03:6 A04:1D A05:4 A0B:1D A0F:4 A11:1D A13:4 A29:1D A2A:4",
   "A31:1D A32:4 A34:1D A35:4 A37:1D A38:4 A3A:1D A3C:5 A3D:1D A3E:6 A41:5 A43:1D A47:5 A49:1D",
   "A4B:5 A4E:1D A51:5 A52:1D A59:4 A5D:1D A5E:4 A5F:1D A66:8 A70:5 A72:4 A75:5 A76:11 A77:1D",
   "A81:5 A83:6 A84:1D A85:4 A8E:1D A8F:4 A92:1D A93:4 AA9:1D AAA:4 AB1:1D AB2:4 AB4:1D AB5:4",
   "ABA:1D ABC:5 ABD:4 ABE:6 AC1:5 AC6:1D AC7:5 AC9:6 ACA:1D ACB:6 ACD:5 ACE:1D AD0:4 AD1:1D",
   "AE0:4 AE2:5 AE4:1D AE6:8 AF0:11 AF1:13 AF2:1D AF9:4 AFA:5 B00:1D B01:5 B02:6 B04:1D B05:4",
   "B0D:1D B0F:4 B11:1D B13:4 B29:1D B2A:4 B31:1D B32:4 B34:1D B35:4 B3A:1D B3C:5 B3D:4 B3E:6",
   "B3F:5 B40:6 B41:5 B45:1D B47:6 B49:1D B4B:6 B4D:5 B4E:1D B55:5 B57:6 B58:1D B5C:4 B5E:1D",
   "B5F:4 B62:5 B64:1D B66:8 B70:15 B71:4 B72:A B78:1D B82:5 B83:4 B84:1D B85:4 B8B:1D B8E:4",
   "B91:1D B92:4 B96:1D B99:4 B9B:1D B9C:4 B9D:1D B9E:4 BA0:1D BA3:4 BA5:1D BA8:4 BAB:1D BAE:4",
   "BBA:1D BBE:6 BC0:5 BC1:6 BC3:1D BC6:6 BC9:1D BCA:6 BCD:5 BCE:1D BD0:4 BD1:1D BD7:6 BD8:1D",
   "BE6:8 BF0:A BF3:15 BF9:13 BFA:15 BFB:1D C00:5 C01:6 C04:5 C05:4 C0D:1D C0E:4 C11:1D C12:4",
   "C29:1D C2A:4 C3A:1D C3C:5 C3D:4 C3E:5 C41:6 C45:1D C46:5 C49:1D C4A:5 C4E:1D C55:5 C57:1D",
   "C58:4 C5B:1D C5C:4 C5E:1D C60:4 C62:5 C64:1D C66:8 C70:1D C77:11 C78:A C7F:15 C80:4 C81:5",
   "C82:6 C84:11 C85:4 C8D:1D C8E:4 C91:1D C92:4 CA9:1D CAA:4 CB4:1D CB5:4 CBA:1D CBC:5 CBD:4",
   "CBE:6 CBF:5 CC0:6 CC5:1D CC6:5 CC7:6 CC9:1D CCA:6 CCC:5 CCE:1D CD5:6 CD7:1D CDC:4 CDF:1D",
   "CE0:4 CE2:5 CE4:1D CE6:8 CF0:1D CF1:4 CF3:6 CF4:1D D00:5 D02:6 D04:4 D0D:1D D0E:4 D11:1D",
   "D12:4 D3B:5 D3D:4 D3E:6 D41:5 D45:1D D46:6 D49:1D D4A:6 D4D:5 D4E:4 D4F:15 D50:1D D54:4",
   "D57:6 D58:A D5F:4 D62:5 D64:1D D66:8 D70:A D79:15 D7A:4 D80:1D D81:5 D82:6 D84:1D D85:4",
   "D97:1D D9A:4 DB2:1D DB3:4 DBC:1D DBD:4 DBE:1D DC0:4 DC7:1D DCA:5 DCB:1D DCF:6 DD2:5 DD5:1D",
   "DD6:5 DD7:1D DD8:6 DE0:1D DE6:8 DF0:1D DF2:6 DF4:11 DF5:1D E01:4 E31:5 E32:4 E34:5 E3B:1D",
   "E3F:13 E40:4 E46:3 E47:5 E4F:11 E50:8 E5A:11 E5C:1D E81:4 E83:1D E84:4 E85:1D E86:4 E8B:1D",
   "E8C:4 EA4:1D EA5:4 EA6:1D EA7:4 EB1:5 EB2:4 EB4:5 EBD:4 EBE:1D EC0:4 EC5:1D EC6:3 EC7:1D",
   "EC8:5 ECF:1D ED0:8 EDA:1D EDC:4 EE0:1D F00:4 F01:15 F04:11 F13:15 F14:11 F15:15 F18:5",
   "F1A:15 F20:8 F2A:A F34:15 F35:5 F36:15 F37:5 F38:15 F39:5 F3A:D F3B:E F3C:D F3D:E F3E:6",
   "F40:4 F48:1D F49:4 F6D:1D F71:5 F7F:6 F80:5 F85:11 F86:5 F88:4 F8D:5 F98:1D F99:5 FBD:1D",
   "FBE:15 FC6:5 FC7:15 FCD:1D FCE:15 FD0:11 FD5:15 FD9:11 FDB:1D 1000:4 102B:6 102D:5 1031:6",
   "1032:5 1038:6 1039:5 103B:6 103D:5 103F:4 1040:8 104A:11 1050:4 1056:6 1058:5 105A:4",
   "105E:5 1061:4 1062:6 1065:4 1067:6 106E:4 1071:5 1075:4 1082:5 1083:6 1085:5 1087:6 108D:5",
   "108E:4 108F:6 1090:8 109A:6 109D:5 109E:15 10A0:0 10C6:1D 10C7:0 10C8:1D 10CD:0 10CE:1D",
   "10D0:1 10FB:11 10FC:3 10FD:1 1100:4 1249:1D 124A:4 124E:1D 1250:4 1257:1D 1258:4 1259:1D",
   "125A:4 125E:1D 1260:4 1289:1D 128A:4 128E:1D 1290:4 12B1:1D 12B2:4 12B6:1D 12B8:4 12BF:1D",
   "12C0:4 12C1:1D 12C2:4 12C6:1D 12C8:4 12D7:1D 12D8:4 1311:1D 1312:4 1316:1D 1318:4 135B:1D",
   "135D:5 1360:11 1369:A 137D:1D 1380:4 1390:15 139A:1D 13A0:0 13F6:1D 13F8:1 13FE:1D 1400:C",
   "1401:4 166D:15 166E:11 166F:4 1680:16 1681:4 169B:D 169C:E 169D:1D 16A0:4 16EB:11 16EE:9",
   "16F1:4 16F9:1D 1700:4 1712:5 1715:6 1716:1D 171F:4 1732:5 1734:6 1735:11 1737:1D 1740:4",
   "1752:5 1754:1D 1760:4 176D:1D 176E:4 1771:1D 1772:5 1774:1D 1780:4 17B4:5 17B6:6 17B7:5",
   "17BE:6 17C6:5 17C7:6 17C9:5 17D4:11 17D7:3 17D8:11 17DB:13 17DC:4 17DD:5 17DE:1D 17E0:8",
   "17EA:1D 17F0:A 17FA:1D 1800:11 1806:C 1807:11 180B:5 180E:1A 180F:5 1810:8 181A:1D 1820:4",
   "1843:3 1844:4 1879:1D 1880:4 1885:5 1887:4 18A9:5 18AA:4 18AB:1D 18B0:4 18F6:1D 1900:4",
   "191F:1D 1920:5 1923:6 1927:5 1929:6 192C:1D 1930:6 1932:5 1933:6 1939:5 193C:1D 1940:15",
   "1941:1D 1944:11 1946:8 1950:4 196E:1D 1970:4 1975:1D 1980:4 19AC:1D 19B0:4 19CA:1D 19D0:8",
   "19DA:A 19DB:1D 19DE:15 1A00:4 1A17:5 1A19:6 1A1B:5 1A1C:1D 1A1E:11 1A20:4 1A55:6 1A56:5",
   "1A57:6 1A58:5 1A5F:1D 1A60:5 1A61:6 1A62:5 1A63:6 1A65:5 1A6D:6 1A73:5 1A7D:1D 1A7F:5",
   "1A80:8 1A8A:1D 1A90:8 1A9A:1D 1AA0:11 1AA7:3 1AA8:11 1AAE:1D 1AB0:5 1ABE:7 1ABF:5 1ADE:1D",
   "1AE0:5 1AEC:1D 1B00:5 1B04:6 1B05:4 1B34:5 1B35:6 1B36:5 1B3B:6 1B3C:5 1B3D:6 1B42:5",
   "1B43:6 1B45:4 1B4D:1D 1B4E:11 1B50:8 1B5A:11 1B61:15 1B6B:5 1B74:15 1B7D:11 1B80:5 1B82:6",
   "1B83:4 1BA1:6 1BA2:5 1BA6:6 1BA8:5 1BAA:6 1BAB:5 1BAE:4 1BB0:8 1BBA:4 1BE6:5 1BE7:6 1BE8:5",
   "1BEA:6 1BED:5 1BEE:6 1BEF:5 1BF2:6 1BF4:1D 1BFC:11 1C00:4 1C24:6 1C2C:5 1C34:6 1C36:5",
   "1C38:1D 1C3B:11 1C40:8 1C4A:1D 1C4D:4 1C50:8 1C5A:4 1C78:3 1C7E:11 1C80:1 1C89:0 1C8A:1",
   "1C8B:1D 1C90:0 1CBB:1D 1CBD:0 1CC0:11 1CC8:1D 1CD0:5 1CD3:11 1CD4:5 1CE1:6 1CE2:5 1CE9:4",
   "1CED:5 1CEE:4 1CF4:5 1CF5:4 1CF7:6 1CF8:5 1CFA:4 1CFB:1D 1D00:1 1D2C:3 1D6B:1 1D78:3",
   "1D79:1 1D9B:3 1DC0:5 1E00:0 1E01:1 1E02:0 1E03:1 1E04:0 1E05:1 1E06:0 1E07:1 1E08:0 1E09:1",
   "1E0A:0 1E0B:1 1E0C:0 1E0D:1 1E0E:0 1E0F:1 1E10:0 1E11:1 1E12:0 1E13:1 1E14:0 1E15:1 1E16:0",
   "1E17:1 1E18:0 1E19:1 1E1A:0 1E1B:1 1E1C:0 1E1D:1 1E1E:0 1E1F:1 1E20:0 1E21:1 1E22:0 1E23:1",
   "1E24:0 1E25:1 1E26:0 1E27:1 1E28:0 1E29:1 1E2A:0 1E2B:1 1E2C:0 1E2D:1 1E2E:0 1E2F:1 1E30:0",
   "1E31:1 1E32:0 1E33:1 1E34:0 1E35:1 1E36:0 1E37:1 1E38:0 1E39:1 1E3A:0 1E3B:1 1E3C:0 1E3D:1",
   "1E3E:0 1E3F:1 1E40:0 1E41:1 1E42:0 1E43:1 1E44:0 1E45:1 1E46:0 1E47:1 1E48:0 1E49:1 1E4A:0",
   "1E4B:1 1E4C:0 1E4D:1 1E4E:0 1E4F:1 1E50:0 1E51:1 1E52:0 1E53:1 1E54:0 1E55:1 1E56:0 1E57:1",
   "1E58:0 1E59:1 1E5A:0 1E5B:1 1E5C:0 1E5D:1 1E5E:0 1E5F:1 1E60:0 1E61:1 1E62:0 1E63:1 1E64:0",
   "1E65:1 1E66:0 1E67:1 1E68:0 1E69:1 1E6A:0 1E6B:1 1E6C:0 1E6D:1 1E6E:0 1E6F:1 1E70:0 1E71:1",
   "1E72:0 1E73:1 1E74:0 1E75:1 1E76:0 1E77:1 1E78:0 1E79:1 1E7A:0 1E7B:1 1E7C:0 1E7D:1 1E7E:0",
   "1E7F:1 1E80:0 1E81:1 1E82:0 1E83:1 1E84:0 1E85:1 1E86:0 1E87:1 1E88:0 1E89:1 1E8A:0 1E8B:1",
   "1E8C:0 1E8D:1 1E8E:0 1E8F:1 1E90:0 1E91:1 1E92:0 1E93:1 1E94:0 1E95:1 1E9E:0 1E9F:1 1EA0:0",
   "1EA1:1 1EA2:0 1EA3:1 1EA4:0 1EA5:1 1EA6:0 1EA7:1 1EA8:0 1EA9:1 1EAA:0 1EAB:1 1EAC:0 1EAD:1",
   "1EAE:0 1EAF:1 1EB0:0 1EB1:1 1EB2:0 1EB3:1 1EB4:0 1EB5:1 1EB6:0 1EB7:1 1EB8:0 1EB9:1 1EBA:0",
   "1EBB:1 1EBC:0 1EBD:1 1EBE:0 1EBF:1 1EC0:0 1EC1:1 1EC2:0 1EC3:1 1EC4:0 1EC5:1 1EC6:0 1EC7:1",
   "1EC8:0 1EC9:1 1ECA:0 1ECB:1 1ECC:0 1ECD:1 1ECE:0 1ECF:1 1ED0:0 1ED1:1 1ED2:0 1ED3:1 1ED4:0",
   "1ED5:1 1ED6:0 1ED7:1 1ED8:0 1ED9:1 1EDA:0 1EDB:1 1EDC:0 1EDD:1 1EDE:0 1EDF:1 1EE0:0 1EE1:1",
   "1EE2:0 1EE3:1 1EE4:0 1EE5:1 1EE6:0 1EE7:1 1EE8:0 1EE9:1 1EEA:0 1EEB:1 1EEC:0 1EED:1 1EEE:0",
   "1EEF:1 1EF0:0 1EF1:1 1EF2:0 1EF3:1 1EF4:0 1EF5:1 1EF6:0 1EF7:1 1EF8:0 1EF9:1 1EFA:0 1EFB:1",
   "1EFC:0 1EFD:1 1EFE:0 1EFF:1 1F08:0 1F10:1 1F16:1D 1F18:0 1F1E:1D 1F20:1 1F28:0 1F30:1",
   "1F38:0 1F40:1 1F46:1D 1F48:0 1F4E:1D 1F50:1 1F58:1D 1F59:0 1F5A:1D 1F5B:0 1F5C:1D 1F5D:0",
   "1F5E:1D 1F5F:0 1F60:1 1F68:0 1F70:1 1F7E:1D 1F80:1 1F88:2 1F90:1 1F98:2 1FA0:1 1FA8:2",
   "1FB0:1 1FB5:1D 1FB6:1 1FB8:0 1FBC:2 1FBD:14 1FBE:1 1FBF:14 1FC2:1 1FC5:1D 1FC6:1 1FC8:0",
   "1FCC:2 1FCD:14 1FD0:1 1FD4:1D 1FD6:1 1FD8:0 1FDC:1D 1FDD:14 1FE0:1 1FE8:0 1FED:14 1FF0:1D",
   "1FF2:1 1FF5:1D 1FF6:1 1FF8:0 1FFC:2 1FFD:14 1FFF:1D 2000:16 200B:1A 2010:C 2016:11 2018:F",
   "2019:10 201A:D 201B:F 201D:10 201E:D 201F:F 2020:11 2028:17 2029:18 202A:1A 202F:16",
   "2030:11 2039:F 203A:10 203B:11 203F:B 2041:11 2044:12 2045:D 2046:E 2047:11 2052:12",
   "2053:11 2054:B 2055:11 205F:16 2060:1A 2065:1D 2066:1A 2070:A 2071:3 2072:1D 2074:A",
   "207A:12 207D:D 207E:E 207F:3 2080:A 208A:12 208D:D 208E:E 208F:1D 2090:3 209D:1D 20A0:13",
   "20C2:1D 20D0:5 20DD:7 20E1:5 20E2:7 20E5:5 20F1:1D 2100:15 2102:0 2103:15 2107:0 2108:15",
   "210A:1 210B:0 210E:1 2110:0 2113:1 2114:15 2115:0 2116:15 2118:12 2119:0 211E:15 2124:0",
   "2125:15 2126:0 2127:15 2128:0 2129:15 212A:0 212E:15 212F:1 2130:0 2134:1 2135:4 2139:1",
   "213A:15 213C:1 213E:0 2140:12 2145:0 2146:1 214A:15 214B:12 214C:15 214E:1 214F:15 2150:A",
   "2160:9 2183:0 2184:1 2185:9 2189:A 218A:15 218C:1D 2190:12 2195:15 219A:12 219C:15 21A0:12",
   "21A1:15 21A3:12 21A4:15 21A6:12 21A7:15 21AE:12 21AF:15 21CE:12 21D0:15 21D2:12 21D3:15",
   "21D4:12 21D5:15 21F4:12 2300:15 2308:D 2309:E 230A:D 230B:E 230C:15 2320:12 2322:15 2329:D",
   "232A:E 232B:15 237C:12 237D:15 239B:12 23B4:15 23DC:12 23E2:15 242A:1D 2440:15 244B:1D",
   "2460:A 249C:15 24EA:A 2500:15 25B7:12 25B8:15 25C1:12 25C2:15 25F8:12 2600:15 266F:12",
   "2670:15 2768:D 2769:E 276A:D 276B:E 276C:D 276D:E 276E:D 276F:E 2770:D 2771:E 2772:D",
   "2773:E 2774:D 2775:E 2776:A 2794:15 27C0:12 27C5:D 27C6:E 27C7:12 27E6:D 27E7:E 27E8:D",
   "27E9:E 27EA:D 27EB:E 27EC:D 27ED:E 27EE:D 27EF:E 27F0:12 2800:15 2900:12 2983:D 2984:E",
   "2985:D 2986:E 2987:D 2988:E 2989:D 298A:E 298B:D 298C:E 298D:D 298E:E 298F:D 2990:E 2991:D",
   "2992:E 2993:D 2994:E 2995:D 2996:E 2997:D 2998:E 2999:12 29D8:D 29D9:E 29DA:D 29DB:E",
   "29DC:12 29FC:D 29FD:E 29FE:12 2B00:15 2B30:12 2B45:15 2B47:12 2B4D:15 2B74:1D 2B76:15",
   "2C00:0 2C30:1 2C60:0 2C61:1 2C62:0 2C65:1 2C67:0 2C68:1 2C69:0 2C6A:1 2C6B:0 2C6C:1 2C6D:0",
   "2C71:1 2C72:0 2C73:1 2C75:0 2C76:1 2C7C:3 2C7E:0 2C81:1 2C82:0 2C83:1 2C84:0 2C85:1 2C86:0",
   "2C87:1 2C88:0 2C89:1 2C8A:0 2C8B:1 2C8C:0 2C8D:1 2C8E:0 2C8F:1 2C90:0 2C91:1 2C92:0 2C93:1",
   "2C94:0 2C95:1 2C96:0 2C97:1 2C98:0 2C99:1 2C9A:0 2C9B:1 2C9C:0 2C9D:1 2C9E:0 2C9F:1 2CA0:0",
   "2CA1:1 2CA2:0 2CA3:1 2CA4:0 2CA5:1 2CA6:0 2CA7:1 2CA8:0 2CA9:1 2CAA:0 2CAB:1 2CAC:0 2CAD:1",
   "2CAE:0 2CAF:1 2CB0:0 2CB1:1 2CB2:0 2CB3:1 2CB4:0 2CB5:1 2CB6:0 2CB7:1 2CB8:0 2CB9:1 2CBA:0",
   "2CBB:1 2CBC:0 2CBD:1 2CBE:0 2CBF:1 2CC0:0 2CC1:1 2CC2:0 2CC3:1 2CC4:0 2CC5:1 2CC6:0 2CC7:1",
   "2CC8:0 2CC9:1 2CCA:0 2CCB:1 2CCC:0 2CCD:1 2CCE:0 2CCF:1 2CD0:0 2CD1:1 2CD2:0 2CD3:1 2CD4:0",
   "2CD5:1 2CD6:0 2CD7:1 2CD8:0 2CD9:1 2CDA:0 2CDB:1 2CDC:0 2CDD:1 2CDE:0 2CDF:1 2CE0:0 2CE1:1",
   "2CE2:0 2CE3:1 2CE5:15 2CEB:0 2CEC:1 2CED:0 2CEE:1 2CEF:5 2CF2:0 2CF3:1 2CF4:1D 2CF9:11",
   "2CFD:A 2CFE:11 2D00:1 2D26:1D 2D27:1 2D28:1D 2D2D:1 2D2E:1D 2D30:4 2D68:1D 2D6F:3 2D70:11",
   "2D71:1D 2D7F:5 2D80:4 2D97:1D 2DA0:4 2DA7:1D 2DA8:4 2DAF:1D 2DB0:4 2DB7:1D 2DB8:4 2DBF:1D",
   "2DC0:4 2DC7:1D 2DC8:4 2DCF:1D 2DD0:4 2DD7:1D 2DD8:4 2DDF:1D 2DE0:5 2E00:11 2E02:F 2E03:10",
   "2E04:F 2E05:10 2E06:11 2E09:F 2E0A:10 2E0B:11 2E0C:F 2E0D:10 2E0E:11 2E17:C 2E18:11 2E1A:C",
   "2E1B:11 2E1C:F 2E1D:10 2E1E:11 2E20:F 2E21:10 2E22:D 2E23:E 2E24:D 2E25:E 2E26:D 2E27:E",
   "2E28:D 2E29:E 2E2A:11 2E2F:3 2E30:11 2E3A:C 2E3C:11 2E40:C 2E41:11 2E42:D 2E43:11 2E50:15",
   "2E52:11 2E55:D 2E56:E 2E57:D 2E58:E 2E59:D 2E5A:E 2E5B:D 2E5C:E 2E5D:C 2E5E:1D 2E80:15",
   "2E9A:1D 2E9B:15 2EF4:1D 2F00:15 2FD6:1D 2FF0:15 3000:16 3001:11 3004:15 3005:3 3006:4",
   "3007:9 3008:D 3009:E 300A:D 300B:E 300C:D 300D:E 300E:D 300F:E 3010:D 3011:E 3012:15",
   "3014:D 3015:E 3016:D 3017:E 3018:D 3019:E 301A:D 301B:E 301C:C 301D:D 301E:E 3020:15",
   "3021:9 302A:5 302E:6 3030:C 3031:3 3036:15 3038:9 303B:3 303C:4 303D:11 303E:15 3040:1D",
   "3041:4 3097:1D 3099:5 309B:14 309D:3 309F:4 30A0:C 30A1:4 30FB:11 30FC:3 30FF:4 3100:1D",
   "3105:4 3130:1D 3131:4 318F:1D 3190:15 3192:A 3196:15 31A0:4 31C0:15 31E6:1D 31EF:15 31F0:4",
   "3200:15 321F:1D 3220:A 322A:15 3248:A 3250:15 3251:A 3260:15 3280:A 328A:15 32B1:A 32C0:15",
   "3400:4 4DC0:15 4E00:4 A015:3 A016:4 A48D:1D A490:15 A4C7:1D A4D0:4 A4F8:3 A4FE:11 A500:4",
   "A60C:3 A60D:11 A610:4 A620:8 A62A:4 A62C:1D A640:0 A641:1 A642:0 A643:1 A644:0 A645:1",
   "A646:0 A647:1 A648:0 A649:1 A64A:0 A64B:1 A64C:0 A64D:1 A64E:0 A64F:1 A650:0 A651:1 A652:0",
   "A653:1 A654:0 A655:1 A656:0 A657:1 A658:0 A659:1 A65A:0 A65B:1 A65C:0 A65D:1 A65E:0 A65F:1",
   "A660:0 A661:1 A662:0 A663:1 A664:0 A665:1 A666:0 A667:1 A668:0 A669:1 A66A:0 A66B:1 A66C:0",
   "A66D:1 A66E:4 A66F:5 A670:7 A673:11 A674:5 A67E:11 A67F:3 A680:0 A681:1 A682:0 A683:1",
   "A684:0 A685:1 A686:0 A687:1 A688:0 A689:1 A68A:0 A68B:1 A68C:0 A68D:1 A68E:0 A68F:1 A690:0",
   "A691:1 A692:0 A693:1 A694:0 A695:1 A696:0 A697:1 A698:0 A699:1 A69A:0 A69B:1 A69C:3 A69E:5",
   "A6A0:4 A6E6:9 A6F0:5 A6F2:11 A6F8:1D A700:14 A717:3 A720:14 A722:0 A723:1 A724:0 A725:1",
   "A726:0 A727:1 A728:0 A729:1 A72A:0 A72B:1 A72C:0 A72D:1 A72E:0 A72F:1 A732:0 A733:1 A734:0",
   "A735:1 A736:0 A737:1 A738:0 A739:1 A73A:0 A73B:1 A73C:0 A73D:1 A73E:0 A73F:1 A740:0 A741:1",
   "A742:0 A743:1 A744:0 A745:1 A746:0 A747:1 A748:0 A749:1 A74A:0 A74B:1 A74C:0 A74D:1 A74E:0",
   "A74F:1 A750:0 A751:1 A752:0 A753:1 A754:0 A755:1 A756:0 A757:1 A758:0 A759:1 A75A:0 A75B:1",
   "A75C:0 A75D:1 A75E:0 A75F:1 A760:0 A761:1 A762:0 A763:1 A764:0 A765:1 A766:0 A767:1 A768:0",
   "A769:1 A76A:0 A76B:1 A76C:0 A76D:1 A76E:0 A76F:1 A770:3 A771:1 A779:0 A77A:1 A77B:0 A77C:1",
   "A77D:0 A77F:1 A780:0 A781:1 A782:0 A783:1 A784:0 A785:1 A786:0 A787:1 A788:3 A789:14",
   "A78B:0 A78C:1 A78D:0 A78E:1 A78F:4 A790:0 A791:1 A792:0 A793:1 A796:0 A797:1 A798:0 A799:1",
   "A79A:0 A79B:1 A79C:0 A79D:1 A79E:0 A79F:1 A7A0:0 A7A1:1 A7A2:0 A7A3:1 A7A4:0 A7A5:1 A7A6:0",
   "A7A7:1 A7A8:0 A7A9:1 A7AA:0 A7AF:1 A7B0:0 A7B5:1 A7B6:0 A7B7:1 A7B8:0 A7B9:1 A7BA:0 A7BB:1",
   "A7BC:0 A7BD:1 A7BE:0 A7BF:1 A7C0:0 A7C1:1 A7C2:0 A7C3:1 A7C4:0 A7C8:1 A7C9:0 A7CA:1 A7CB:0",
   "A7CD:1 A7CE:0 A7CF:1 A7D0:0 A7D1:1 A7D2:0 A7D3:1 A7D4:0 A7D5:1 A7D6:0 A7D7:1 A7D8:0 A7D9:1",
   "A7DA:0 A7DB:1 A7DC:0 A7DD:1D A7F1:3 A7F5:0 A7F6:1 A7F7:4 A7F8:3 A7FA:1 A7FB:4 A802:5",
   "A803:4 A806:5 A807:4 A80B:5 A80C:4 A823:6 A825:5 A827:6 A828:15 A82C:5 A82D:1D A830:A",
   "A836:15 A838:13 A839:15 A83A:1D A840:4 A874:11 A878:1D A880:6 A882:4 A8B4:6 A8C4:5 A8C6:1D",
   "A8CE:11 A8D0:8 A8DA:1D A8E0:5 A8F2:4 A8F8:11 A8FB:4 A8FC:11 A8FD:4 A8FF:5 A900:8 A90A:4",
   "A926:5 A92E:11 A930:4 A947:5 A952:6 A954:1D A95F:11 A960:4 A97D:1D A980:5 A983:6 A984:4",
   "A9B3:5 A9B4:6 A9B6:5 A9BA:6 A9BC:5 A9BE:6 A9C1:11 A9CE:1D A9CF:3 A9D0:8 A9DA:1D A9DE:11",
   "A9E0:4 A9E5:5 A9E6:3 A9E7:4 A9F0:8 A9FA:4 A9FF:1D AA00:4 AA29:5 AA2F:6 AA31:5 AA33:6",
   "AA35:5 AA37:1D AA40:4 AA43:5 AA44:4 AA4C:5 AA4D:6 AA4E:1D AA50:8 AA5A:1D AA5C:11 AA60:4",
   "AA70:3 AA71:4 AA77:15 AA7A:4 AA7B:6 AA7C:5 AA7D:6 AA7E:4 AAB0:5 AAB1:4 AAB2:5 AAB5:4",
   "AAB7:5 AAB9:4 AABE:5 AAC0:4 AAC1:5 AAC2:4 AAC3:1D AADB:4 AADD:3 AADE:11 AAE0:4 AAEB:6",
   "AAEC:5 AAEE:6 AAF0:11 AAF2:4 AAF3:3 AAF5:6 AAF6:5 AAF7:1D AB01:4 AB07:1D AB09:4 AB0F:1D",
   "AB11:4 AB17:1D AB20:4 AB27:1D AB28:4 AB2F:1D AB30:1 AB5B:14 AB5C:3 AB60:1 AB69:3 AB6A:14",
   "AB6C:1D AB70:1 ABC0:4 ABE3:6 ABE5:5 ABE6:6 ABE8:5 ABE9:6 ABEB:11 ABEC:6 ABED:5 ABEE:1D",
   "ABF0:8 ABFA:1D AC00:4 D7A4:1D D7B0:4 D7C7:1D D7CB:4 D7FC:1D D800:1B E000:1C F900:4 FA6E:1D",
   "FA70:4 FADA:1D FB00:1 FB07:1D FB13:1 FB18:1D FB1D:4 FB1E:5 FB1F:4 FB29:12 FB2A:4 FB37:1D",
   "FB38:4 FB3D:1D FB3E:4 FB3F:1D FB40:4 FB42:1D FB43:4 FB45:1D FB46:4 FBB2:14 FBC3:15 FBD3:4",
   "FD3E:E FD3F:D FD40:15 FD50:4 FD90:15 FD92:4 FDC8:15 FDD0:1D FDF0:4 FDFC:13 FDFD:15 FE00:5",
   "FE10:11 FE17:D FE18:E FE19:11 FE1A:1D FE20:5 FE30:11 FE31:C FE33:B FE35:D FE36:E FE37:D",
   "FE38:E FE39:D FE3A:E FE3B:D FE3C:E FE3D:D FE3E:E FE3F:D FE40:E FE41:D FE42:E FE43:D FE44:E",
   "FE45:11 FE47:D FE48:E FE49:11 FE4D:B FE50:11 FE53:1D FE54:11 FE58:C FE59:D FE5A:E FE5B:D",
   "FE5C:E FE5D:D FE5E:E FE5F:11 FE62:12 FE63:C FE64:12 FE67:1D FE68:11 FE69:13 FE6A:11",
   "FE6C:1D FE70:4 FE75:1D FE76:4 FEFD:1D FEFF:1A FF00:1D FF01:11 FF04:13 FF05:11 FF08:D",
   "FF09:E FF0A:11 FF0B:12 FF0C:11 FF0D:C FF0E:11 FF10:8 FF1A:11 FF1C:12 FF1F:11 FF21:0 FF3B:D",
   "FF3C:11 FF3D:E FF3E:14 FF3F:B FF40:14 FF41:1 FF5B:D FF5C:12 FF5D:E FF5E:12 FF5F:D FF60:E",
   "FF61:11 FF62:D FF63:E FF64:11 FF66:4 FF70:3 FF71:4 FF9E:3 FFA0:4 FFBF:1D FFC2:4 FFC8:1D",
   "FFCA:4 FFD0:1D FFD2:4 FFD8:1D FFDA:4 FFDD:1D FFE0:13 FFE2:12 FFE3:14 FFE4:15 FFE5:13",
   "FFE7:1D FFE8:15 FFE9:12 FFED:15 FFEF:1D FFF9:1A FFFC:15 FFFE:1D 10000:4 1000C:1D 1000D:4",
   "10027:1D 10028:4 1003B:1D 1003C:4 1003E:1D 1003F:4 1004E:1D 10050:4 1005E:1D 10080:4",
   "100FB:1D 10100:11 10103:1D 10107:A 10134:1D 10137:15 10140:9 10175:A 10179:15 1018A:A",
   "1018C:15 1018F:1D 10190:15 1019D:1D 101A0:15 101A1:1D 101D0:15 101FD:5 101FE:1D 10280:4",
   "1029D:1D 102A0:4 102D1:1D 102E0:5 102E1:A 102FC:1D 10300:4 10320:A 10324:1D 1032D:4",
   "10341:9 10342:4 1034A:9 1034B:1D 10350:4 10376:5 1037B:1D 10380:4 1039E:1D 1039F:11",
   "103A0:4 103C4:1D 103C8:4 103D0:11 103D1:9 103D6:1D 10400:0 10428:1 10450:4 1049E:1D",
   "104A0:8 104AA:1D 104B0:0 104D4:1D 104D8:1 104FC:1D 10500:4 10528:1D 10530:4 10564:1D",
   "1056F:11 10570:0 1057B:1D 1057C:0 1058B:1D 1058C:0 10593:1D 10594:0 10596:1D 10597:1",
   "105A2:1D 105A3:1 105B2:1D 105B3:1 105BA:1D 105BB:1 105BD:1D 105C0:4 105F4:1D 10600:4",
   "10737:1D 10740:4 10756:1D 10760:4 10768:1D 10780:3 10786:1D 10787:3 107B1:1D 107B2:3",
   "107BB:1D 10800:4 10806:1D 10808:4 10809:1D 1080A:4 10836:1D 10837:4 10839:1D 1083C:4",
   "1083D:1D 1083F:4 10856:1D 10857:11 10858:A 10860:4 10877:15 10879:A 10880:4 1089F:1D",
   "108A7:A 108B0:1D 108E0:4 108F3:1D 108F4:4 108F6:1D 108FB:A 10900:4 10916:A 1091C:1D",
   "1091F:11 10920:4 1093A:1D 1093F:11 10940:4 1095A:1D 10980:4 109B8:1D 109BC:A 109BE:4",
   "109C0:A 109D0:1D 109D2:A 10A00:4 10A01:5 10A04:1D 10A05:5 10A07:1D 10A0C:5 10A10:4",
   "10A14:1D 10A15:4 10A18:1D 10A19:4 10A36:1D 10A38:5 10A3B:1D 10A3F:5 10A40:A 10A49:1D",
   "10A50:11 10A59:1D 10A60:4 10A7D:A 10A7F:11 10A80:4 10A9D:A 10AA0:1D 10AC0:4 10AC8:15",
   "10AC9:4 10AE5:5 10AE7:1D 10AEB:A 10AF0:11 10AF7:1D 10B00:4 10B36:1D 10B39:11 10B40:4",
   "10B56:1D 10B58:A 10B60:4 10B73:1D 10B78:A 10B80:4 10B92:1D 10B99:11 10B9D:1D 10BA9:A",
   "10BB0:1D 10C00:4 10C49:1D 10C80:0 10CB3:1D 10CC0:1 10CF3:1D 10CFA:A 10D00:4 10D24:5",
   "10D28:1D 10D30:8 10D3A:1D 10D40:8 10D4A:4 10D4E:3 10D4F:4 10D50:0 10D66:1D 10D69:5 10D6E:C",
   "10D6F:3 10D70:1 10D86:1D 10D8E:12 10D90:1D 10E60:A 10E7F:1D 10E80:4 10EAA:1D 10EAB:5",
   "10EAD:C 10EAE:1D 10EB0:4 10EB2:1D 10EC2:4 10EC5:3 10EC6:4 10EC8:1D 10ED0:11 10ED1:15",
   "10ED9:1D 10EFA:5 10F00:4 10F1D:A 10F27:4 10F28:1D 10F30:4 10F46:5 10F51:A 10F55:11",
   "10F5A:1D 10F70:4 10F82:5 10F86:11 10F8A:1D 10FB0:4 10FC5:A 10FCC:1D 10FE0:4 10FF7:1D",
   "11000:6 11001:5 11002:6 11003:4 11038:5 11047:11 1104E:1D 11052:A 11066:8 11070:5 11071:4",
   "11073:5 11075:4 11076:1D 1107F:5 11082:6 11083:4 110B0:6 110B3:5 110B7:6 110B9:5 110BB:11",
   "110BD:1A 110BE:11 110C2:5 110C3:1D 110CD:1A 110CE:1D 110D0:4 110E9:1D 110F0:8 110FA:1D",
   "11100:5 11103:4 11127:5 1112C:6 1112D:5 11135:1D 11136:8 11140:11 11144:4 11145:6 11147:4",
   "11148:1D 11150:4 11173:5 11174:11 11176:4 11177:1D 11180:5 11182:6 11183:4 111B3:6 111B6:5",
   "111BF:6 111C1:4 111C5:11 111C9:5 111CD:11 111CE:6 111CF:5 111D0:8 111DA:4 111DB:11 111DC:4",
   "111DD:11 111E0:1D 111E1:A 111F5:1D 11200:4 11212:1D 11213:4 1122C:6 1122F:5 11232:6",
   "11234:5 11235:6 11236:5 11238:11 1123E:5 1123F:4 11241:5 11242:1D 11280:4 11287:1D 11288:4",
   "11289:1D 1128A:4 1128E:1D 1128F:4 1129E:1D 1129F:4 112A9:11 112AA:1D 112B0:4 112DF:5",
   "112E0:6 112E3:5 112EB:1D 112F0:8 112FA:1D 11300:5 11302:6 11304:1D 11305:4 1130D:1D",
   "1130F:4 11311:1D 11313:4 11329:1D 1132A:4 11331:1D 11332:4 11334:1D 11335:4 1133A:1D",
   "1133B:5 1133D:4 1133E:6 11340:5 11341:6 11345:1D 11347:6 11349:1D 1134B:6 1134E:1D 11350:4",
   "11351:1D 11357:6 11358:1D 1135D:4 11362:6 11364:1D 11366:5 1136D:1D 11370:5 11375:1D",
   "11380:4 1138A:1D 1138B:4 1138C:1D 1138E:4 1138F:1D 11390:4 113B6:1D 113B7:4 113B8:6",
   "113BB:5 113C1:1D 113C2:6 113C3:1D 113C5:6 113C6:1D 113C7:6 113CB:1D 113CC:6 113CE:5",
   "113CF:6 113D0:5 113D1:4 113D2:5 113D3:4 113D4:11 113D6:1D 113D7:11 113D9:1D 113E1:5",
   "113E3:1D 11400:4 11435:6 11438:5 11440:6 11442:5 11445:6 11446:5 11447:4 1144B:11 11450:8",
   "1145A:11 1145C:1D 1145D:11 1145E:5 1145F:4 11462:1D 11480:4 114B0:6 114B3:5 114B9:6",
   "114BA:5 114BB:6 114BF:5 114C1:6 114C2:5 114C4:4 114C6:11 114C7:4 114C8:1D 114D0:8 114DA:1D",
   "11580:4 115AF:6 115B2:5 115B6:1D 115B8:6 115BC:5 115BE:6 115BF:5 115C1:11 115D8:4 115DC:5",
   "115DE:1D 11600:4 11630:6 11633:5 1163B:6 1163D:5 1163E:6 1163F:5 11641:11 11644:4 11645:1D",
   "11650:8 1165A:1D 11660:11 1166D:1D 11680:4 116AB:5 116AC:6 116AD:5 116AE:6 116B0:5 116B6:6",
   "116B7:5 116B8:4 116B9:11 116BA:1D 116C0:8 116CA:1D 116D0:8 116E4:1D 11700:4 1171B:1D",
   "1171D:5 1171E:6 1171F:5 11720:6 11722:5 11726:6 11727:5 1172C:1D 11730:8 1173A:A 1173C:11",
   "1173F:15 11740:4 11747:1D 11800:4 1182C:6 1182F:5 11838:6 11839:5 1183B:11 1183C:1D",
   "118A0:0 118C0:1 118E0:8 118EA:A 118F3:1D 118FF:4 11907:1D 11909:4 1190A:1D 1190C:4",
   "11914:1D 11915:4 11917:1D 11918:4 11930:6 11936:1D 11937:6 11939:1D 1193B:5 1193D:6",
   "1193E:5 1193F:4 11940:6 11941:4 11942:6 11943:5 11944:11 11947:1D 11950:8 1195A:1D 119A0:4",
   "119A8:1D 119AA:4 119D1:6 119D4:5 119D8:1D 119DA:5 119DC:6 119E0:5 119E1:4 119E2:11 119E3:4",
   "119E4:6 119E5:1D 11A00:4 11A01:5 11A0B:4 11A33:5 11A39:6 11A3A:4 11A3B:5 11A3F:11 11A47:5",
   "11A48:1D 11A50:4 11A51:5 11A57:6 11A59:5 11A5C:4 11A8A:5 11A97:6 11A98:5 11A9A:11 11A9D:4",
   "11A9E:11 11AA3:1D 11AB0:4 11AF9:1D 11B00:11 11B0A:1D 11B60:5 11B61:6 11B62:5 11B65:6",
   "11B66:5 11B67:6 11B68:1D 11BC0:4 11BE1:11 11BE2:1D 11BF0:8 11BFA:1D 11C00:4 11C09:1D",
   "11C0A:4 11C2F:6 11C30:5 11C37:1D 11C38:5 11C3E:6 11C3F:5 11C40:4 11C41:11 11C46:1D 11C50:8",
   "11C5A:A 11C6D:1D 11C70:11 11C72:4 11C90:1D 11C92:5 11CA8:1D 11CA9:6 11CAA:5 11CB1:6",
   "11CB2:5 11CB4:6 11CB5:5 11CB7:1D 11D00:4 11D07:1D 11D08:4 11D0A:1D 11D0B:4 11D31:5",
   "11D37:1D 11D3A:5 11D3B:1D 11D3C:5 11D3E:1D 11D3F:5 11D46:4 11D47:5 11D48:1D 11D50:8",
   "11D5A:1D 11D60:4 11D66:1D 11D67:4 11D69:1D 11D6A:4 11D8A:6 11D8F:1D 11D90:5 11D92:1D",
   "11D93:6 11D95:5 11D96:6 11D97:5 11D98:4 11D99:1D 11DA0:8 11DAA:1D 11DB0:4 11DD9:3 11DDA:4",
   "11DDC:1D 11DE0:8 11DEA:1D 11EE0:4 11EF3:5 11EF5:6 11EF7:11 11EF9:1D 11F00:5 11F02:4",
   "11F03:6 11F04:4 11F11:1D 11F12:4 11F34:6 11F36:5 11F3B:1D 11F3E:6 11F40:5 11F41:6 11F42:5",
   "11F43:11 11F50:8 11F5A:5 11F5B:1D 11FB0:4 11FB1:1D 11FC0:A 11FD5:15 11FDD:13 11FE1:15",
   "11FF2:1D 11FFF:11 12000:4 1239A:1D 12400:9 1246F:1D 12470:11 12475:1D 12480:4 12544:1D",
   "12F90:4 12FF1:11 12FF3:1D 13000:4 13430:1A 13440:5 13441:4 13447:5 13456:1D 13460:4",
   "143FB:1D 14400:4 14647:1D 16100:4 1611E:5 1612A:6 1612D:5 16130:8 1613A:1D 16800:4",
   "16A39:1D 16A40:4 16A5F:1D 16A60:8 16A6A:1D 16A6E:11 16A70:4 16ABF:1D 16AC0:8 16ACA:1D",
   "16AD0:4 16AEE:1D 16AF0:5 16AF5:11 16AF6:1D 16B00:4 16B30:5 16B37:11 16B3C:15 16B40:3",
   "16B44:11 16B45:15 16B46:1D 16B50:8 16B5A:1D 16B5B:A 16B62:1D 16B63:4 16B78:1D 16B7D:4",
   "16B90:1D 16D40:3 16D43:4 16D6B:3 16D6D:11 16D70:8 16D7A:1D 16E40:0 16E60:1 16E80:A",
   "16E97:11 16E9B:1D 16EA0:0 16EB9:1D 16EBB:1 16ED4:1D 16F00:4 16F4B:1D 16F4F:5 16F50:4",
   "16F51:6 16F88:1D 16F8F:5 16F93:3 16FA0:1D 16FE0:3 16FE2:11 16FE3:3 16FE4:5 16FE5:1D",
   "16FF0:6 16FF2:3 16FF4:9 16FF7:1D 17000:4 18CD6:1D 18CFF:4 18D1F:1D 18D80:4 18DF3:1D",
   "1AFF0:3 1AFF4:1D 1AFF5:3 1AFFC:1D 1AFFD:3 1AFFF:1D 1B000:4 1B123:1D 1B132:4 1B133:1D",
   "1B150:4 1B153:1D 1B155:4 1B156:1D 1B164:4 1B168:1D 1B170:4 1B2FC:1D 1BC00:4 1BC6B:1D",
   "1BC70:4 1BC7D:1D 1BC80:4 1BC89:1D 1BC90:4 1BC9A:1D 1BC9C:15 1BC9D:5 1BC9F:11 1BCA0:1A",
   "1BCA4:1D 1CC00:15 1CCF0:8 1CCFA:15 1CCFD:1D 1CD00:15 1CEB4:1D 1CEBA:15 1CED1:1D 1CEE0:15",
   "1CEF0:12 1CEF1:1D 1CF00:5 1CF2E:1D 1CF30:5 1CF47:1D 1CF50:15 1CFC4:1D 1D000:15 1D0F6:1D",
   "1D100:15 1D127:1D 1D129:15 1D165:6 1D167:5 1D16A:15 1D16D:6 1D173:1A 1D17B:5 1D183:15",
   "1D185:5 1D18C:15 1D1AA:5 1D1AE:15 1D1EB:1D 1D200:15 1D242:5 1D245:15 1D246:1D 1D2C0:A",
   "1D2D4:1D 1D2E0:A 1D2F4:1D 1D300:15 1D357:1D 1D360:A 1D379:1D 1D400:0 1D41A:1 1D434:0",
   "1D44E:1 1D455:1D 1D456:1 1D468:0 1D482:1 1D49C:0 1D49D:1D 1D49E:0 1D4A0:1D 1D4A2:0",
   "1D4A3:1D 1D4A5:0 1D4A7:1D 1D4A9:0 1D4AD:1D 1D4AE:0 1D4B6:1 1D4BA:1D 1D4BB:1 1D4BC:1D",
   "1D4BD:1 1D4C4:1D 1D4C5:1 1D4D0:0 1D4EA:1 1D504:0 1D506:1D 1D507:0 1D50B:1D 1D50D:0",
   "1D515:1D 1D516:0 1D51D:1D 1D51E:1 1D538:0 1D53A:1D 1D53B:0 1D53F:1D 1D540:0 1D545:1D",
   "1D546:0 1D547:1D 1D54A:0 1D551:1D 1D552:1 1D56C:0 1D586:1 1D5A0:0 1D5BA:1 1D5D4:0 1D5EE:1",
   "1D608:0 1D622:1 1D63C:0 1D656:1 1D670:0 1D68A:1 1D6A6:1D 1D6A8:0 1D6C1:12 1D6C2:1 1D6DB:12",
   "1D6DC:1 1D6E2:0 1D6FB:12 1D6FC:1 1D715:12 1D716:1 1D71C:0 1D735:12 1D736:1 1D74F:12",
   "1D750:1 1D756:0 1D76F:12 1D770:1 1D789:12 1D78A:1 1D790:0 1D7A9:12 1D7AA:1 1D7C3:12",
   "1D7C4:1 1D7CA:0 1D7CB:1 1D7CC:1D 1D7CE:8 1D800:15 1DA00:5 1DA37:15 1DA3B:5 1DA6D:15",
   "1DA75:5 1DA76:15 1DA84:5 1DA85:15 1DA87:11 1DA8C:1D 1DA9B:5 1DAA0:1D 1DAA1:5 1DAB0:1D",
   "1DF00:1 1DF0A:4 1DF0B:1 1DF1F:1D 1DF25:1 1DF2B:1D 1E000:5 1E007:1D 1E008:5 1E019:1D",
   "1E01B:5 1E022:1D 1E023:5 1E025:1D 1E026:5 1E02B:1D 1E030:3 1E06E:1D 1E08F:5 1E090:1D",
   "1E100:4 1E12D:1D 1E130:5 1E137:3 1E13E:1D 1E140:8 1E14A:1D 1E14E:4 1E14F:15 1E150:1D",
   "1E290:4 1E2AE:5 1E2AF:1D 1E2C0:4 1E2EC:5 1E2F0:8 1E2FA:1D 1E2FF:13 1E300:1D 1E4D0:4",
   "1E4EB:3 1E4EC:5 1E4F0:8 1E4FA:1D 1E5D0:4 1E5EE:5 1E5F0:4 1E5F1:8 1E5FB:1D 1E5FF:11",
   "1E600:1D 1E6C0:4 1E6DF:1D 1E6E0:4 1E6E3:5 1E6E4:4 1E6E6:5 1E6E7:4 1E6EE:5 1E6F0:4 1E6F5:5",
   "1E6F6:1D 1E6FE:4 1E6FF:3 1E700:1D 1E7E0:4 1E7E7:1D 1E7E8:4 1E7EC:1D 1E7ED:4 1E7EF:1D",
   "1E7F0:4 1E7FF:1D 1E800:4 1E8C5:1D 1E8C7:A 1E8D0:5 1E8D7:1D 1E900:0 1E922:1 1E944:5 1E94B:3",
   "1E94C:1D 1E950:8 1E95A:1D 1E95E:11 1E960:1D 1EC71:A 1ECAC:15 1ECAD:A 1ECB0:13 1ECB1:A",
   "1ECB5:1D 1ED01:A 1ED2E:15 1ED2F:A 1ED3E:1D 1EE00:4 1EE04:1D 1EE05:4 1EE20:1D 1EE21:4",
   "1EE23:1D 1EE24:4 1EE25:1D 1EE27:4 1EE28:1D 1EE29:4 1EE33:1D 1EE34:4 1EE38:1D 1EE39:4",
   "1EE3A:1D 1EE3B:4 1EE3C:1D 1EE42:4 1EE43:1D 1EE47:4 1EE48:1D 1EE49:4 1EE4A:1D 1EE4B:4",
   "1EE4C:1D 1EE4D:4 1EE50:1D 1EE51:4 1EE53:1D 1EE54:4 1EE55:1D 1EE57:4 1EE58:1D 1EE59:4",
   "1EE5A:1D 1EE5B:4 1EE5C:1D 1EE5D:4 1EE5E:1D 1EE5F:4 1EE60:1D 1EE61:4 1EE63:1D 1EE64:4",
   "1EE65:1D 1EE67:4 1EE6B:1D 1EE6C:4 1EE73:1D 1EE74:4 1EE78:1D 1EE79:4 1EE7D:1D 1EE7E:4",
   "1EE7F:1D 1EE80:4 1EE8A:1D 1EE8B:4 1EE9C:1D 1EEA1:4 1EEA4:1D 1EEA5:4 1EEAA:1D 1EEAB:4",
   "1EEBC:1D 1EEF0:12 1EEF2:1D 1F000:15 1F02C:1D 1F030:15 1F094:1D 1F0A0:15 1F0AF:1D 1F0B1:15",
   "1F0C0:1D 1F0C1:15 1F0D0:1D 1F0D1:15 1F0F6:1D 1F100:A 1F10D:15 1F1AE:1D 1F1E6:15 1F203:1D",
   "1F210:15 1F23C:1D 1F240:15 1F249:1D 1F250:15 1F252:1D 1F260:15 1F266:1D 1F300:15 1F3FB:14",
   "1F400:15 1F6D9:1D 1F6DC:15 1F6ED:1D 1F6F0:15 1F6FD:1D 1F700:15 1F7DA:1D 1F7E0:15 1F7EC:1D",
   "1F7F0:15 1F7F1:1D 1F800:15 1F80C:1D 1F810:15 1F848:1D 1F850:15 1F85A:1D 1F860:15 1F888:1D",
   "1F890:15 1F8AE:1D 1F8B0:15 1F8BC:1D 1F8C0:15 1F8C2:1D 1F8D0:12 1F8D9:1D 1F900:15 1FA58:1D",
   "1FA60:15 1FA6E:1D 1FA70:15 1FA7D:1D 1FA80:15 1FA8B:1D 1FA8E:15 1FAC7:1D 1FAC8:15 1FAC9:1D",
   "1FACD:15 1FADD:1D 1FADF:15 1FAEB:1D 1FAEF:15 1FAF9:1D 1FB00:15 1FB93:1D 1FB94:15 1FBF0:8",
   "1FBFA:15 1FBFB:1D 20000:4 2A6E0:1D 2A700:4 2B81E:1D 2B820:4 2CEAE:1D 2CEB0:4 2EBE1:1D",
   "2EBF0:4 2EE5E:1D 2F800:4 2FA1E:1D 30000:4 3134B:1D 31350:4 3347A:1D E0001:1A E0002:1D",
   "E0020:1A E0080:1D E0100:5 E01F0:1D F0000:1C FFFFE:1D 100000:1C 10FFFE:1D"]

def generalCategory (c : Char) : GeneralCategory :=
  GeneralCategory.ofIndex (categoryTable.value c.toNat)

def isGraphic (c : Char) : Bool :=
  let g := generalCategory c
  c == ' ' || g.isLetter || g.isMark || g.isNumber || g.isPunctuation || g.isSymbol

end TestRig.Text
