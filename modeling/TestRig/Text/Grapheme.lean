import TestRig.Text.CodeTable

/-!
Grapheme clusters: the units a reader sees as one character, by the extended cluster rules of
Unicode 15.0. A cluster joins a carriage return to its line feed, a Hangul syllable's jamo, a
character to the marks, joiners and spacing marks after it, a prefix to what follows it, an
emoji sequence joined by zero-width joiners, and regional indicators in pairs; controls stand
alone.
-/

namespace TestRig.Text

/-- The part a character plays in forming clusters. -/
inductive BreakClass where
  | other | cr | lf | control | extend | zwj | regional | prepend | spacingMark
  | l | v | t | lv | lvt | pictographic
  deriving DecidableEq, Repr, Inhabited

def BreakClass.ofIndex (i : Nat) : BreakClass :=
  [other, cr, lf, control, extend, zwj, regional, prepend, spacingMark, l, v, t, lv, lvt,
    pictographic].getD i other

def breakTable : CodeTable := CodeTable.ofRuns
  ["0:3 A:2 B:3 D:1 E:3 20:0 7F:3 A0:0 A9:E AA:0 AD:3 AE:E AF:0 300:4 370:0 483:4 48A:0 591:4",
   "5BE:0 5BF:4 5C0:0 5C1:4 5C3:0 5C4:4 5C6:0 5C7:4 5C8:0 600:7 606:0 610:4 61B:0 61C:3 61D:0",
   "64B:4 660:0 670:4 671:0 6D6:4 6DD:7 6DE:0 6DF:4 6E5:0 6E7:4 6E9:0 6EA:4 6EE:0 70F:7 710:0",
   "711:4 712:0 730:4 74B:0 7A6:4 7B1:0 7EB:4 7F4:0 7FD:4 7FE:0 816:4 81A:0 81B:4 824:0 825:4",
   "828:0 829:4 82E:0 859:4 85C:0 890:7 892:0 898:4 8A0:0 8CA:4 8E2:7 8E3:4 903:8 904:0 93A:4",
   "93B:8 93C:4 93D:0 93E:8 941:4 949:8 94D:4 94E:8 950:0 951:4 958:0 962:4 964:0 981:4 982:8",
   "984:0 9BC:4 9BD:0 9BE:4 9BF:8 9C1:4 9C5:0 9C7:8 9C9:0 9CB:8 9CD:4 9CE:0 9D7:4 9D8:0 9E2:4",
   "9E4:0 9FE:4 9FF:0 A01:4 A03:8 A04:0 A3C:4 A3D:0 A3E:8 A41:4 A43:0 A47:4 A49:0 A4B:4 A4E:0",
   "A51:4 A52:0 A70:4 A72:0 A75:4 A76:0 A81:4 A83:8 A84:0 ABC:4 ABD:0 ABE:8 AC1:4 AC6:0 AC7:4",
   "AC9:8 ACA:0 ACB:8 ACD:4 ACE:0 AE2:4 AE4:0 AFA:4 B00:0 B01:4 B02:8 B04:0 B3C:4 B3D:0 B3E:4",
   "B40:8 B41:4 B45:0 B47:8 B49:0 B4B:8 B4D:4 B4E:0 B55:4 B58:0 B62:4 B64:0 B82:4 B83:0 BBE:4",
   "BBF:8 BC0:4 BC1:8 BC3:0 BC6:8 BC9:0 BCA:8 BCD:4 BCE:0 BD7:4 BD8:0 C00:4 C01:8 C04:4 C05:0",
   "C3C:4 C3D:0 C3E:4 C41:8 C45:0 C46:4 C49:0 C4A:4 C4E:0 C55:4 C57:0 C62:4 C64:0 C81:4 C82:8",
   "C84:0 CBC:4 CBD:0 CBE:8 CBF:4 CC0:8 CC2:4 CC3:8 CC5:0 CC6:4 CC7:8 CC9:0 CCA:8 CCC:4 CCE:0",
   "CD5:4 CD7:0 CE2:4 CE4:0 CF3:8 CF4:0 D00:4 D02:8 D04:0 D3B:4 D3D:0 D3E:4 D3F:8 D41:4 D45:0",
   "D46:8 D49:0 D4A:8 D4D:4 D4E:7 D4F:0 D57:4 D58:0 D62:4 D64:0 D81:4 D82:8 D84:0 DCA:4 DCB:0",
   "DCF:4 DD0:8 DD2:4 DD5:0 DD6:4 DD7:0 DD8:8 DDF:4 DE0:0 DF2:8 DF4:0 E31:4 E32:0 E33:8 E34:4",
   "E3B:0 E47:4 E4F:0 EB1:4 EB2:0 EB3:8 EB4:4 EBD:0 EC8:4 ECF:0 F18:4 F1A:0 F35:4 F36:0 F37:4",
   "F38:0 F39:4 F3A:0 F3E:8 F40:0 F71:4 F7F:8 F80:4 F85:0 F86:4 F88:0 F8D:4 F98:0 F99:4 FBD:0",
   "FC6:4 FC7:0 102D:4 1031:8 1032:4 1038:0 1039:4 103B:8 103D:4 103F:0 1056:8 1058:4 105A:0",
   "105E:4 1061:0 1071:4 1075:0 1082:4 1083:0 1084:8 1085:4 1087:0 108D:4 108E:0 109D:4 109E:0",
   "1100:9 1160:A 11A8:B 1200:0 135D:4 1360:0 1712:4 1715:8 1716:0 1732:4 1734:8 1735:0 1752:4",
   "1754:0 1772:4 1774:0 17B4:4 17B6:8 17B7:4 17BE:8 17C6:4 17C7:8 17C9:4 17D4:0 17DD:4 17DE:0",
   "180B:4 180E:3 180F:4 1810:0 1885:4 1887:0 18A9:4 18AA:0 1920:4 1923:8 1927:4 1929:8 192C:0",
   "1930:8 1932:4 1933:8 1939:4 193C:0 1A17:4 1A19:8 1A1B:4 1A1C:0 1A55:8 1A56:4 1A57:8 1A58:4",
   "1A5F:0 1A60:4 1A61:0 1A62:4 1A63:0 1A65:4 1A6D:8 1A73:4 1A7D:0 1A7F:4 1A80:0 1AB0:4 1ACF:0",
   "1B00:4 1B04:8 1B05:0 1B34:4 1B3B:8 1B3C:4 1B3D:8 1B42:4 1B43:8 1B45:0 1B6B:4 1B74:0 1B80:4",
   "1B82:8 1B83:0 1BA1:8 1BA2:4 1BA6:8 1BA8:4 1BAA:8 1BAB:4 1BAE:0 1BE6:4 1BE7:8 1BE8:4 1BEA:8",
   "1BED:4 1BEE:8 1BEF:4 1BF2:8 1BF4:0 1C24:8 1C2C:4 1C34:8 1C36:4 1C38:0 1CD0:4 1CD3:0 1CD4:4",
   "1CE1:8 1CE2:4 1CE9:0 1CED:4 1CEE:0 1CF4:4 1CF5:0 1CF7:8 1CF8:4 1CFA:0 1DC0:4 1E00:0 200B:3",
   "200C:4 200D:5 200E:3 2010:0 2028:3 202F:0 203C:E 203D:0 2049:E 204A:0 2060:3 2070:0 20D0:4",
   "20F1:0 2122:E 2123:0 2139:E 213A:0 2194:E 219A:0 21A9:E 21AB:0 231A:E 231C:0 2328:E 2329:0",
   "2388:E 2389:0 23CF:E 23D0:0 23E9:E 23F4:0 23F8:E 23FB:0 24C2:E 24C3:0 25AA:E 25AC:0 25B6:E",
   "25B7:0 25C0:E 25C1:0 25FB:E 25FF:0 2600:E 2606:0 2607:E 2613:0 2614:E 2686:0 2690:E 2706:0",
   "2708:E 2713:0 2714:E 2715:0 2716:E 2717:0 271D:E 271E:0 2721:E 2722:0 2728:E 2729:0 2733:E",
   "2735:0 2744:E 2745:0 2747:E 2748:0 274C:E 274D:0 274E:E 274F:0 2753:E 2756:0 2757:E 2758:0",
   "2763:E 2768:0 2795:E 2798:0 27A1:E 27A2:0 27B0:E 27B1:0 27BF:E 27C0:0 2934:E 2936:0 2B05:E",
   "2B08:0 2B1B:E 2B1D:0 2B50:E 2B51:0 2B55:E 2B56:0 2CEF:4 2CF2:0 2D7F:4 2D80:0 2DE0:4 2E00:0",
   "302A:4 3030:E 3031:0 303D:E 303E:0 3099:4 309B:0 3297:E 3298:0 3299:E 329A:0 A66F:4 A673:0",
   "A674:4 A67E:0 A69E:4 A6A0:0 A6F0:4 A6F2:0 A802:4 A803:0 A806:4 A807:0 A80B:4 A80C:0 A823:8",
   "A825:4 A827:8 A828:0 A82C:4 A82D:0 A880:8 A882:0 A8B4:8 A8C4:4 A8C6:0 A8E0:4 A8F2:0 A8FF:4",
   "A900:0 A926:4 A92E:0 A947:4 A952:8 A954:0 A960:9 A97D:0 A980:4 A983:8 A984:0 A9B3:4 A9B4:8",
   "A9B6:4 A9BA:8 A9BC:4 A9BE:8 A9C1:0 A9E5:4 A9E6:0 AA29:4 AA2F:8 AA31:4 AA33:8 AA35:4 AA37:0",
   "AA43:4 AA44:0 AA4C:4 AA4D:8 AA4E:0 AA7C:4 AA7D:0 AAB0:4 AAB1:0 AAB2:4 AAB5:0 AAB7:4 AAB9:0",
   "AABE:4 AAC0:0 AAC1:4 AAC2:0 AAEB:8 AAEC:4 AAEE:8 AAF0:0 AAF5:8 AAF6:4 AAF7:0 ABE3:8 ABE5:4",
   "ABE6:8 ABE8:4 ABE9:8 ABEB:0 ABEC:8 ABED:4 ABEE:0 AC00:C AC01:D AC1C:C AC1D:D AC38:C AC39:D",
   "AC54:C AC55:D AC70:C AC71:D AC8C:C AC8D:D ACA8:C ACA9:D ACC4:C ACC5:D ACE0:C ACE1:D ACFC:C",
   "ACFD:D AD18:C AD19:D AD34:C AD35:D AD50:C AD51:D AD6C:C AD6D:D AD88:C AD89:D ADA4:C ADA5:D",
   "ADC0:C ADC1:D ADDC:C ADDD:D ADF8:C ADF9:D AE14:C AE15:D AE30:C AE31:D AE4C:C AE4D:D AE68:C",
   "AE69:D AE84:C AE85:D AEA0:C AEA1:D AEBC:C AEBD:D AED8:C AED9:D AEF4:C AEF5:D AF10:C AF11:D",
   "AF2C:C AF2D:D AF48:C AF49:D AF64:C AF65:D AF80:C AF81:D AF9C:C AF9D:D AFB8:C AFB9:D AFD4:C",
   "AFD5:D AFF0:C AFF1:D B00C:C B00D:D B028:C B029:D B044:C B045:D B060:C B061:D B07C:C B07D:D",
   "B098:C B099:D B0B4:C B0B5:D B0D0:C B0D1:D B0EC:C B0ED:D B108:C B109:D B124:C B125:D B140:C",
   "B141:D B15C:C B15D:D B178:C B179:D B194:C B195:D B1B0:C B1B1:D B1CC:C B1CD:D B1E8:C B1E9:D",
   "B204:C B205:D B220:C B221:D B23C:C B23D:D B258:C B259:D B274:C B275:D B290:C B291:D B2AC:C",
   "B2AD:D B2C8:C B2C9:D B2E4:C B2E5:D B300:C B301:D B31C:C B31D:D B338:C B339:D B354:C B355:D",
   "B370:C B371:D B38C:C B38D:D B3A8:C B3A9:D B3C4:C B3C5:D B3E0:C B3E1:D B3FC:C B3FD:D B418:C",
   "B419:D B434:C B435:D B450:C B451:D B46C:C B46D:D B488:C B489:D B4A4:C B4A5:D B4C0:C B4C1:D",
   "B4DC:C B4DD:D B4F8:C B4F9:D B514:C B515:D B530:C B531:D B54C:C B54D:D B568:C B569:D B584:C",
   "B585:D B5A0:C B5A1:D B5BC:C B5BD:D B5D8:C B5D9:D B5F4:C B5F5:D B610:C B611:D B62C:C B62D:D",
   "B648:C B649:D B664:C B665:D B680:C B681:D B69C:C B69D:D B6B8:C B6B9:D B6D4:C B6D5:D B6F0:C",
   "B6F1:D B70C:C B70D:D B728:C B729:D B744:C B745:D B760:C B761:D B77C:C B77D:D B798:C B799:D",
   "B7B4:C B7B5:D B7D0:C B7D1:D B7EC:C B7ED:D B808:C B809:D B824:C B825:D B840:C B841:D B85C:C",
   "B85D:D B878:C B879:D B894:C B895:D B8B0:C B8B1:D B8CC:C B8CD:D B8E8:C B8E9:D B904:C B905:D",
   "B920:C B921:D B93C:C B93D:D B958:C B959:D B974:C B975:D B990:C B991:D B9AC:C B9AD:D B9C8:C",
   "B9C9:D B9E4:C B9E5:D BA00:C BA01:D BA1C:C BA1D:D BA38:C BA39:D BA54:C BA55:D BA70:C BA71:D",
   "BA8C:C BA8D:D BAA8:C BAA9:D BAC4:C BAC5:D BAE0:C BAE1:D BAFC:C BAFD:D BB18:C BB19:D BB34:C",
   "BB35:D BB50:C BB51:D BB6C:C BB6D:D BB88:C BB89:D BBA4:C BBA5:D BBC0:C BBC1:D BBDC:C BBDD:D",
   "BBF8:C BBF9:D BC14:C BC15:D BC30:C BC31:D BC4C:C BC4D:D BC68:C BC69:D BC84:C BC85:D BCA0:C",
   "BCA1:D BCBC:C BCBD:D BCD8:C BCD9:D BCF4:C BCF5:D BD10:C BD11:D BD2C:C BD2D:D BD48:C BD49:D",
   "BD64:C BD65:D BD80:C BD81:D BD9C:C BD9D:D BDB8:C BDB9:D BDD4:C BDD5:D BDF0:C BDF1:D BE0C:C",
   "BE0D:D BE28:C BE29:D BE44:C BE45:D BE60:C BE61:D BE7C:C BE7D:D BE98:C BE99:D BEB4:C BEB5:D",
   "BED0:C BED1:D BEEC:C BEED:D BF08:C BF09:D BF24:C BF25:D BF40:C BF41:D BF5C:C BF5D:D BF78:C",
   "BF79:D BF94:C BF95:D BFB0:C BFB1:D BFCC:C BFCD:D BFE8:C BFE9:D C004:C C005:D C020:C C021:D",
   "C03C:C C03D:D C058:C C059:D C074:C C075:D C090:C C091:D C0AC:C C0AD:D C0C8:C C0C9:D C0E4:C",
   "C0E5:D C100:C C101:D C11C:C C11D:D C138:C C139:D C154:C C155:D C170:C C171:D C18C:C C18D:D",
   "C1A8:C C1A9:D C1C4:C C1C5:D C1E0:C C1E1:D C1FC:C C1FD:D C218:C C219:D C234:C C235:D C250:C",
   "C251:D C26C:C C26D:D C288:C C289:D C2A4:C C2A5:D C2C0:C C2C1:D C2DC:C C2DD:D C2F8:C C2F9:D",
   "C314:C C315:D C330:C C331:D C34C:C C34D:D C368:C C369:D C384:C C385:D C3A0:C C3A1:D C3BC:C",
   "C3BD:D C3D8:C C3D9:D C3F4:C C3F5:D C410:C C411:D C42C:C C42D:D C448:C C449:D C464:C C465:D",
   "C480:C C481:D C49C:C C49D:D C4B8:C C4B9:D C4D4:C C4D5:D C4F0:C C4F1:D C50C:C C50D:D C528:C",
   "C529:D C544:C C545:D C560:C C561:D C57C:C C57D:D C598:C C599:D C5B4:C C5B5:D C5D0:C C5D1:D",
   "C5EC:C C5ED:D C608:C C609:D C624:C C625:D C640:C C641:D C65C:C C65D:D C678:C C679:D C694:C",
   "C695:D C6B0:C C6B1:D C6CC:C C6CD:D C6E8:C C6E9:D C704:C C705:D C720:C C721:D C73C:C C73D:D",
   "C758:C C759:D C774:C C775:D C790:C C791:D C7AC:C C7AD:D C7C8:C C7C9:D C7E4:C C7E5:D C800:C",
   "C801:D C81C:C C81D:D C838:C C839:D C854:C C855:D C870:C C871:D C88C:C C88D:D C8A8:C C8A9:D",
   "C8C4:C C8C5:D C8E0:C C8E1:D C8FC:C C8FD:D C918:C C919:D C934:C C935:D C950:C C951:D C96C:C",
   "C96D:D C988:C C989:D C9A4:C C9A5:D C9C0:C C9C1:D C9DC:C C9DD:D C9F8:C C9F9:D CA14:C CA15:D",
   "CA30:C CA31:D CA4C:C CA4D:D CA68:C CA69:D CA84:C CA85:D CAA0:C CAA1:D CABC:C CABD:D CAD8:C",
   "CAD9:D CAF4:C CAF5:D CB10:C CB11:D CB2C:C CB2D:D CB48:C CB49:D CB64:C CB65:D CB80:C CB81:D",
   "CB9C:C CB9D:D CBB8:C CBB9:D CBD4:C CBD5:D CBF0:C CBF1:D CC0C:C CC0D:D CC28:C CC29:D CC44:C",
   "CC45:D CC60:C CC61:D CC7C:C CC7D:D CC98:C CC99:D CCB4:C CCB5:D CCD0:C CCD1:D CCEC:C CCED:D",
   "CD08:C CD09:D CD24:C CD25:D CD40:C CD41:D CD5C:C CD5D:D CD78:C CD79:D CD94:C CD95:D CDB0:C",
   "CDB1:D CDCC:C CDCD:D CDE8:C CDE9:D CE04:C CE05:D CE20:C CE21:D CE3C:C CE3D:D CE58:C CE59:D",
   "CE74:C CE75:D CE90:C CE91:D CEAC:C CEAD:D CEC8:C CEC9:D CEE4:C CEE5:D CF00:C CF01:D CF1C:C",
   "CF1D:D CF38:C CF39:D CF54:C CF55:D CF70:C CF71:D CF8C:C CF8D:D CFA8:C CFA9:D CFC4:C CFC5:D",
   "CFE0:C CFE1:D CFFC:C CFFD:D D018:C D019:D D034:C D035:D D050:C D051:D D06C:C D06D:D D088:C",
   "D089:D D0A4:C D0A5:D D0C0:C D0C1:D D0DC:C D0DD:D D0F8:C D0F9:D D114:C D115:D D130:C D131:D",
   "D14C:C D14D:D D168:C D169:D D184:C D185:D D1A0:C D1A1:D D1BC:C D1BD:D D1D8:C D1D9:D D1F4:C",
   "D1F5:D D210:C D211:D D22C:C D22D:D D248:C D249:D D264:C D265:D D280:C D281:D D29C:C D29D:D",
   "D2B8:C D2B9:D D2D4:C D2D5:D D2F0:C D2F1:D D30C:C D30D:D D328:C D329:D D344:C D345:D D360:C",
   "D361:D D37C:C D37D:D D398:C D399:D D3B4:C D3B5:D D3D0:C D3D1:D D3EC:C D3ED:D D408:C D409:D",
   "D424:C D425:D D440:C D441:D D45C:C D45D:D D478:C D479:D D494:C D495:D D4B0:C D4B1:D D4CC:C",
   "D4CD:D D4E8:C D4E9:D D504:C D505:D D520:C D521:D D53C:C D53D:D D558:C D559:D D574:C D575:D",
   "D590:C D591:D D5AC:C D5AD:D D5C8:C D5C9:D D5E4:C D5E5:D D600:C D601:D D61C:C D61D:D D638:C",
   "D639:D D654:C D655:D D670:C D671:D D68C:C D68D:D D6A8:C D6A9:D D6C4:C D6C5:D D6E0:C D6E1:D",
   "D6FC:C D6FD:D D718:C D719:D D734:C D735:D D750:C D751:D D76C:C D76D:D D788:C D789:D D7A4:0",
   "D7B0:A D7C7:0 D7CB:B D7FC:0 FB1E:4 FB1F:0 FE00:4 FE10:0 FE20:4 FE30:0 FEFF:3 FF00:0 FF9E:4",
   "FFA0:0 FFF0:3 FFFC:0 101FD:4 101FE:0 102E0:4 102E1:0 10376:4 1037B:0 10A01:4 10A04:0 10A05:4",
   "10A07:0 10A0C:4 10A10:0 10A38:4 10A3B:0 10A3F:4 10A40:0 10AE5:4 10AE7:0 10D24:4 10D28:0",
   "10EAB:4 10EAD:0 10EFD:4 10F00:0 10F46:4 10F51:0 10F82:4 10F86:0 11000:8 11001:4 11002:8",
   "11003:0 11038:4 11047:0 11070:4 11071:0 11073:4 11075:0 1107F:4 11082:8 11083:0 110B0:8",
   "110B3:4 110B7:8 110B9:4 110BB:0 110BD:7 110BE:0 110C2:4 110C3:0 110CD:7 110CE:0 11100:4",
   "11103:0 11127:4 1112C:8 1112D:4 11135:0 11145:8 11147:0 11173:4 11174:0 11180:4 11182:8",
   "11183:0 111B3:8 111B6:4 111BF:8 111C1:0 111C2:7 111C4:0 111C9:4 111CD:0 111CE:8 111CF:4",
   "111D0:0 1122C:8 1122F:4 11232:8 11234:4 11235:8 11236:4 11238:0 1123E:4 1123F:0 11241:4",
   "11242:0 112DF:4 112E0:8 112E3:4 112EB:0 11300:4 11302:8 11304:0 1133B:4 1133D:0 1133E:4",
   "1133F:8 11340:4 11341:8 11345:0 11347:8 11349:0 1134B:8 1134E:0 11357:4 11358:0 11362:8",
   "11364:0 11366:4 1136D:0 11370:4 11375:0 11435:8 11438:4 11440:8 11442:4 11445:8 11446:4",
   "11447:0 1145E:4 1145F:0 114B0:4 114B1:8 114B3:4 114B9:8 114BA:4 114BB:8 114BD:4 114BE:8",
   "114BF:4 114C1:8 114C2:4 114C4:0 115AF:4 115B0:8 115B2:4 115B6:0 115B8:8 115BC:4 115BE:8",
   "115BF:4 115C1:0 115DC:4 115DE:0 11630:8 11633:4 1163B:8 1163D:4 1163E:8 1163F:4 11641:0",
   "116AB:4 116AC:8 116AD:4 116AE:8 116B0:4 116B6:8 116B7:4 116B8:0 1171D:4 11720:0 11722:4",
   "11726:8 11727:4 1172C:0 1182C:8 1182F:4 11838:8 11839:4 1183B:0 11930:4 11931:8 11936:0",
   "11937:8 11939:0 1193B:4 1193D:8 1193E:4 1193F:7 11940:8 11941:7 11942:8 11943:4 11944:0",
   "119D1:8 119D4:4 119D8:0 119DA:4 119DC:8 119E0:4 119E1:0 119E4:8 119E5:0 11A01:4 11A0B:0",
   "11A33:4 11A39:8 11A3A:7 11A3B:4 11A3F:0 11A47:4 11A48:0 11A51:4 11A57:8 11A59:4 11A5C:0",
   "11A84:7 11A8A:4 11A97:8 11A98:4 11A9A:0 11C2F:8 11C30:4 11C37:0 11C38:4 11C3E:8 11C3F:4",
   "11C40:0 11C92:4 11CA8:0 11CA9:8 11CAA:4 11CB1:8 11CB2:4 11CB4:8 11CB5:4 11CB7:0 11D31:4",
   "11D37:0 11D3A:4 11D3B:0 11D3C:4 11D3E:0 11D3F:4 11D46:7 11D47:4 11D48:0 11D8A:8 11D8F:0",
   "11D90:4 11D92:0 11D93:8 11D95:4 11D96:8 11D97:4 11D98:0 11EF3:4 11EF5:8 11EF7:0 11F00:4",
   "11F02:7 11F03:8 11F04:0 11F34:8 11F36:4 11F3B:0 11F3E:8 11F40:4 11F41:8 11F42:4 11F43:0",
   "13430:3 13440:4 13441:0 13447:4 13456:0 16AF0:4 16AF5:0 16B30:4 16B37:0 16F4F:4 16F50:0",
   "16F51:8 16F88:0 16F8F:4 16F93:0 16FE4:4 16FE5:0 16FF0:8 16FF2:0 1BC9D:4 1BC9F:0 1BCA0:3",
   "1BCA4:0 1CF00:4 1CF2E:0 1CF30:4 1CF47:0 1D165:4 1D166:8 1D167:4 1D16A:0 1D16D:8 1D16E:4",
   "1D173:3 1D17B:4 1D183:0 1D185:4 1D18C:0 1D1AA:4 1D1AE:0 1D242:4 1D245:0 1DA00:4 1DA37:0",
   "1DA3B:4 1DA6D:0 1DA75:4 1DA76:0 1DA84:4 1DA85:0 1DA9B:4 1DAA0:0 1DAA1:4 1DAB0:0 1E000:4",
   "1E007:0 1E008:4 1E019:0 1E01B:4 1E022:0 1E023:4 1E025:0 1E026:4 1E02B:0 1E08F:4 1E090:0",
   "1E130:4 1E137:0 1E2AE:4 1E2AF:0 1E2EC:4 1E2F0:0 1E4EC:4 1E4F0:0 1E8D0:4 1E8D7:0 1E944:4",
   "1E94B:0 1F000:E 1F100:0 1F10D:E 1F110:0 1F12F:E 1F130:0 1F16C:E 1F172:0 1F17E:E 1F180:0",
   "1F18E:E 1F18F:0 1F191:E 1F19B:0 1F1AD:E 1F1E6:6 1F200:0 1F201:E 1F210:0 1F21A:E 1F21B:0",
   "1F22F:E 1F230:0 1F232:E 1F23B:0 1F23C:E 1F240:0 1F249:E 1F3FB:4 1F400:E 1F53E:0 1F546:E",
   "1F650:0 1F680:E 1F700:0 1F774:E 1F780:0 1F7D5:E 1F800:0 1F80C:E 1F810:0 1F848:E 1F850:0",
   "1F85A:E 1F860:0 1F888:E 1F890:0 1F8AE:E 1F900:0 1F90C:E 1F93B:0 1F93C:E 1F946:0 1F947:E",
   "1FB00:0 1FC00:E 1FFFE:0 E0000:3 E0020:4 E0080:3 E0100:4 E01F0:3 E1000:0"]

def breakClass (c : Char) : BreakClass := BreakClass.ofIndex (breakTable.value c.toNat)

/-- What the rules need to know of the cluster read so far. -/
structure ClusterState where
  last : BreakClass
  pictRun : Bool
  joinedPict : Bool
  oddRegional : Bool

def ClusterState.start (k : BreakClass) : ClusterState :=
  ⟨k, k == .pictographic, false, k == .regional⟩

def ClusterState.joins (s : ClusterState) (k : BreakClass) : Bool :=
  match s.last, k with
  | .cr, .lf => true
  | .cr, _ | .lf, _ | .control, _ => false
  | _, .cr | _, .lf | _, .control => false
  | .l, .l | .l, .v | .l, .lv | .l, .lvt => true
  | .lv, .v | .lv, .t | .v, .v | .v, .t => true
  | .lvt, .t | .t, .t => true
  | _, .extend | _, .zwj | _, .spacingMark => true
  | .prepend, _ => true
  | .zwj, .pictographic => s.joinedPict
  | .regional, .regional => s.oddRegional
  | _, _ => false

def ClusterState.push (s : ClusterState) (k : BreakClass) : ClusterState :=
  ⟨k, k == .pictographic || (k == .extend && s.pictRun), k == .zwj && s.pictRun,
    k == .regional && !s.oddRegional⟩

def clusterTail (s : ClusterState) : List Char → List Char × List Char
  | [] => ([], [])
  | c :: rest =>
    let k := breakClass c
    if s.joins k then
      let (more, after) := clusterTail (s.push k) rest
      (c :: more, after)
    else ([], c :: rest)

def firstCluster : List Char → List Char × List Char
  | [] => ([], [])
  | c :: rest =>
    let (more, after) := clusterTail (ClusterState.start (breakClass c)) rest
    (c :: more, after)

end TestRig.Text
