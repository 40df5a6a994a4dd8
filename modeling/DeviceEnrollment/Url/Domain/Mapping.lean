import DeviceEnrollment.Text.Runs

/-!
What becomes of a character in a domain name: it stays, it is replaced by other characters, or
it is refused. Capital letters become small ones, compatible forms their plain ones.
-/
namespace DeviceEnrollment.Url.Domain

open DeviceEnrollment.Text

/-- The rule that a run of characters shares. -/
inductive CharacterRule where
  | kept
  | refused
  /-- Replaced by the character that lies this far behind. -/
  | raised (distance : Nat)
  /-- Replaced by the character that lies this far before. -/
  | lowered (distance : Nat)
  /-- Every second character of the run is replaced by the next one. -/
  | alternating
  /-- Replaced by the texts given one by one. -/
  | listed (targets : List (List Char))

namespace CharacterRule

def readPoints (text : List Char) : List Char :=
  ((partsAt '+' text).filter fun part => !part.isEmpty).map fun digits =>
    Char.ofNat (hexNumber digits)

def read : List Char → CharacterRule
  | ['V'] => kept
  | ['A'] => alternating
  | '>' :: digits => raised (hexNumber digits)
  | '<' :: digits => lowered (hexNumber digits)
  | '=' :: targets => listed ((partsAt ',' targets).map readPoints)
  | _ => refused

/-- What a character that lies `place` characters behind the start of the run becomes. -/
def replacement? (rule : CharacterRule) (place : Nat) (c : Char) : Option (List Char) :=
  match rule with
  | kept => some [c]
  | refused => none
  | raised distance => some [Char.ofNat (c.toNat + distance)]
  | lowered distance => some [Char.ofNat (c.toNat - distance)]
  | alternating => if place % 2 = 0 then some [Char.ofNat (c.toNat + 1)] else some [c]
  | listed targets => targets[place]?

end CharacterRule

/-- The rules in rows: `V` keeps, `X` refuses, and the others replace. -/
def characterRules : List String := [
  "0:V 41:>20 5B:V 80:X A0:=20 A1:V A8:=20+308 A9:V AA:=61 AB:V AD:= AE:V AF:=20+304 B0:V",
  "B2:=32,33,20+301,3BC B6:V B8:=20+327,31,6F BB:V BC:=31+2044+34,31+2044+32,33+2044+34 BF:V",
  "C0:>20 D7:V D8:>20 DF:V 100:A 130:=69+307 131:V 132:=69+6A,69+6A 134:A 138:V 139:A",
  "13F:=6C+B7,6C+B7 141:A 149:=2BC+6E 14A:A 178:=FF 179:A 17F:=73 180:V 181:=253 182:A",
  "186:=254,188 188:V 189:=256,257,18C 18C:V 18E:=1DD,259,25B,192 192:V 193:=260,263 195:V",
  "196:=269,268,199 199:V 19C:=26F,272 19E:V 19F:=275 1A0:A 1A6:=280,1A8 1A8:V 1A9:=283 1AA:V",
  "1AC:=1AD 1AD:V 1AE:=288,1B0 1B0:V 1B1:=28A,28B 1B3:A 1B7:=292,1B9 1B9:V 1BC:=1BD 1BD:V",
  "1C4:=64+17E,64+17E,64+17E,6C+6A,6C+6A,6C+6A,6E+6A,6E+6A,6E+6A 1CD:A 1DD:V 1DE:A 1F0:V",
  "1F1:=64+7A,64+7A,64+7A,1F5 1F5:V 1F6:=195,1BF 1F8:A 220:=19E 221:V 222:A 234:V 23A:=2C65,23C",
  "23C:V 23D:=19A,2C66 23F:V 241:=242 242:V 243:=180,289,28C 246:A 250:V",
  "2B0:=68,266,6A,72,279,27B,281,77,79 2B9:V 2D8:=20+306,20+307,20+30A,20+328,20+303,20+30B 2DE:V",
  "2E0:=263,6C,73,78,295 2E5:V 340:=300,301 342:V 343:=313,308+301,3B9 346:V 34F:= 350:V 370:A",
  "374:=2B9 375:V 376:=377 377:V 378:X 37A:=20+3B9 37B:V 37E:=3B,3F3 380:X",
  "384:=20+301,20+308+301,3AC,B7,3AD,3AE,3AF 38B:X 38C:=3CC 38D:X 38E:=3CD,3CE 390:V 391:>20 3A2:X",
  "3A3:>20 3AC:V 3CF:=3D7,3B2,3B8,3C5,3CD,3CB,3C6,3C0 3D7:V 3D8:A 3F0:=3BA,3C1,3C3 3F3:V",
  "3F4:=3B8,3B5 3F6:V 3F7:=3F8 3F8:V 3F9:=3C3,3FB 3FB:V 3FD:=37B,37C,37D 400:>50 410:>20 430:V",
  "460:A 482:V 48A:A 4C0:=4CF 4C1:A 4CF:V 4D0:A 530:X 531:>30 557:X 559:V 587:=565+582 588:V 58B:X",
  "58D:V 590:X 591:V 5C8:X 5D0:V 5EB:X 5EF:V 5F5:X 606:V 61C:X 61D:V",
  "675:=627+674,648+674,6C7+674,64A+674 679:V 6DD:X 6DE:V 70E:X 710:V 74B:X 74D:V 7B2:X 7C0:V",
  "7FB:X 7FD:V 82E:X 830:V 83F:X 840:V 85C:X 85E:V 85F:X 860:V 86B:X 870:V 890:X 897:V 8E2:X 8E3:V",
  "958:=915+93C,916+93C,917+93C,91C+93C,921+93C,922+93C,92B+93C,92F+93C 960:V 984:X 985:V 98D:X",
  "98F:V 991:X 993:V 9A9:X 9AA:V 9B1:X 9B2:V 9B3:X 9B6:V 9BA:X 9BC:V 9C5:X 9C7:V 9C9:X 9CB:V 9CF:X",
  "9D7:V 9D8:X 9DC:=9A1+9BC,9A2+9BC 9DE:X 9DF:=9AF+9BC 9E0:V 9E4:X 9E6:V 9FF:X A01:V A04:X A05:V",
  "A0B:X A0F:V A11:X A13:V A29:X A2A:V A31:X A32:V A33:=A32+A3C A34:X A35:V A36:=A38+A3C A37:X",
  "A38:V A3A:X A3C:V A3D:X A3E:V A43:X A47:V A49:X A4B:V A4E:X A51:V A52:X",
  "A59:=A16+A3C,A17+A3C,A1C+A3C A5C:V A5D:X A5E:=A2B+A3C A5F:X A66:V A77:X A81:V A84:X A85:V A8E:X",
  "A8F:V A92:X A93:V AA9:X AAA:V AB1:X AB2:V AB4:X AB5:V ABA:X ABC:V AC6:X AC7:V ACA:X ACB:V ACE:X",
  "AD0:V AD1:X AE0:V AE4:X AE6:V AF2:X AF9:V B00:X B01:V B04:X B05:V B0D:X B0F:V B11:X B13:V B29:X",
  "B2A:V B31:X B32:V B34:X B35:V B3A:X B3C:V B45:X B47:V B49:X B4B:V B4E:X B55:V B58:X",
  "B5C:=B21+B3C,B22+B3C B5E:X B5F:V B64:X B66:V B78:X B82:V B84:X B85:V B8B:X B8E:V B91:X B92:V",
  "B96:X B99:V B9B:X B9C:V B9D:X B9E:V BA0:X BA3:V BA5:X BA8:V BAB:X BAE:V BBA:X BBE:V BC3:X BC6:V",
  "BC9:X BCA:V BCE:X BD0:V BD1:X BD7:V BD8:X BE6:V BFB:X C00:V C0D:X C0E:V C11:X C12:V C29:X C2A:V",
  "C3A:X C3C:V C45:X C46:V C49:X C4A:V C4E:X C55:V C57:X C58:V C5B:X C5C:V C5E:X C60:V C64:X C66:V",
  "C70:X C77:V C8D:X C8E:V C91:X C92:V CA9:X CAA:V CB4:X CB5:V CBA:X CBC:V CC5:X CC6:V CC9:X CCA:V",
  "CCE:X CD5:V CD7:X CDC:V CDF:X CE0:V CE4:X CE6:V CF0:X CF1:V CF4:X D00:V D0D:X D0E:V D11:X D12:V",
  "D45:X D46:V D49:X D4A:V D50:X D54:V D64:X D66:V D80:X D81:V D84:X D85:V D97:X D9A:V DB2:X DB3:V",
  "DBC:X DBD:V DBE:X DC0:V DC7:X DCA:V DCB:X DCF:V DD5:X DD6:V DD7:X DD8:V DE0:X DE6:V DF0:X DF2:V",
  "DF5:X E01:V E33:=E4D+E32 E34:V E3B:X E3F:V E5C:X E81:V E83:X E84:V E85:X E86:V E8B:X E8C:V",
  "EA4:X EA5:V EA6:X EA7:V EB3:=ECD+EB2 EB4:V EBE:X EC0:V EC5:X EC6:V EC7:X EC8:V ECF:X ED0:V",
  "EDA:X EDC:=EAB+E99,EAB+EA1 EDE:V EE0:X F00:V F0C:=F0B F0D:V F43:=F42+FB7 F44:V F48:X F49:V",
  "F4D:=F4C+FB7 F4E:V F52:=F51+FB7 F53:V F57:=F56+FB7 F58:V F5C:=F5B+FB7 F5D:V F69:=F40+FB5 F6A:V",
  "F6D:X F71:V F73:=F71+F72 F74:V F75:=F71+F74,FB2+F80,FB2+F71+F80,FB3+F80,FB3+F71+F80 F7A:V",
  "F81:=F71+F80 F82:V F93:=F92+FB7 F94:V F98:X F99:V F9D:=F9C+FB7 F9E:V FA2:=FA1+FB7 FA3:V",
  "FA7:=FA6+FB7 FA8:V FAC:=FAB+FB7 FAD:V FB9:=F90+FB5 FBA:V FBD:X FBE:V FCD:X FCE:V FDB:X 1000:V",
  "10A0:>1C60 10C6:X 10C7:=2D27 10C8:X 10CD:=2D2D 10CE:X 10D0:V 10FC:=10DC 10FD:V 115F:=, 1161:V",
  "1249:X 124A:V 124E:X 1250:V 1257:X 1258:V 1259:X 125A:V 125E:X 1260:V 1289:X 128A:V 128E:X",
  "1290:V 12B1:X 12B2:V 12B6:X 12B8:V 12BF:X 12C0:V 12C1:X 12C2:V 12C6:X 12C8:V 12D7:X 12D8:V",
  "1311:X 1312:V 1316:X 1318:V 135B:X 135D:V 137D:X 1380:V 139A:X 13A0:V 13F6:X 13F8:<8 13FE:X",
  "1400:V 1680:X 1681:V 169D:X 16A0:V 16F9:X 1700:V 1716:X 171F:V 1737:X 1740:V 1754:X 1760:V",
  "176D:X 176E:V 1771:X 1772:V 1774:X 1780:V 17B4:=, 17B6:V 17DE:X 17E0:V 17EA:X 17F0:V 17FA:X",
  "1800:V 180B:=,,,, 1810:V 181A:X 1820:V 1879:X 1880:V 18AB:X 18B0:V 18F6:X 1900:V 191F:X 1920:V",
  "192C:X 1930:V 193C:X 1940:V 1941:X 1944:V 196E:X 1970:V 1975:X 1980:V 19AC:X 19B0:V 19CA:X",
  "19D0:V 19DB:X 19DE:V 1A1C:X 1A1E:V 1A5F:X 1A60:V 1A7D:X 1A7F:V 1A8A:X 1A90:V 1A9A:X 1AA0:V",
  "1AAE:X 1AB0:V 1ADE:X 1AE0:V 1AEC:X 1B00:V 1B4D:X 1B4E:V 1BF4:X 1BFC:V 1C38:X 1C3B:V 1C4A:X",
  "1C4D:V 1C80:=432,434,43E,441,442,442,44A,463,A64B,1C8A 1C8A:V 1C8B:X 1C90:<BC0 1CBB:X",
  "1CBD:=10FD,10FE,10FF 1CC0:V 1CC8:X 1CD0:V 1CFB:X 1D00:V 1D2C:=61,E6,62 1D2F:V 1D30:=64,65,1DD",
  "1D33:<1CCC 1D3B:V 1D3C:=6F,223,70,72,74,75,77,61,250,251,1D02,62,64,65,259,25B,25C,67 1D4E:V",
  "1D4F:=6B,6D,14B,6F,254,1D16,1D17,70,74,75,1D1D,26F,76,1D25,3B2,3B3,3B4,3C6,3C7,69,72",
  "1D64:=75,76,3B2,3B3,3C1,3C6,3C7 1D6B:V 1D78:=43D 1D79:V",
  "1D9B:=252,63,255,F0,25C,66,25F,261,265,268,269,26A,1D7B,29D,26D,1D85,29F,271,270 1DAE:<1B3C",
  "1DB2:=278,282,283,1AB,289,28A,1D1C,28B,28C,7A,290,291,292,3B8 1DC0:V 1E00:A 1E96:V",
  "1E9A:=61+2BE,1E61 1E9C:V 1E9E:=DF 1E9F:V 1EA0:A 1F00:V 1F08:<8 1F10:V 1F16:X 1F18:<8 1F1E:X",
  "1F20:V 1F28:<8 1F30:V 1F38:<8 1F40:V 1F46:X 1F48:<8 1F4E:X 1F50:V 1F58:X 1F59:=1F51 1F5A:X",
  "1F5B:=1F53 1F5C:X 1F5D:=1F55 1F5E:X 1F5F:=1F57 1F60:V 1F68:<8 1F70:V 1F71:=3AC 1F72:V 1F73:=3AD",
  "1F74:V 1F75:=3AE 1F76:V 1F77:=3AF 1F78:V 1F79:=3CC 1F7A:V 1F7B:=3CD 1F7C:V 1F7D:=3CE 1F7E:X",
  "1F80:=1F00+3B9,1F01+3B9,1F02+3B9,1F03+3B9,1F04+3B9,1F05+3B9,1F06+3B9,1F07+3B9,1F00+3B9",
  "1F89:=1F01+3B9,1F02+3B9,1F03+3B9,1F04+3B9,1F05+3B9,1F06+3B9,1F07+3B9,1F20+3B9,1F21+3B9",
  "1F92:=1F22+3B9,1F23+3B9,1F24+3B9,1F25+3B9,1F26+3B9,1F27+3B9,1F20+3B9,1F21+3B9,1F22+3B9",
  "1F9B:=1F23+3B9,1F24+3B9,1F25+3B9,1F26+3B9,1F27+3B9,1F60+3B9,1F61+3B9,1F62+3B9,1F63+3B9",
  "1FA4:=1F64+3B9,1F65+3B9,1F66+3B9,1F67+3B9,1F60+3B9,1F61+3B9,1F62+3B9,1F63+3B9,1F64+3B9",
  "1FAD:=1F65+3B9,1F66+3B9,1F67+3B9 1FB0:V 1FB2:=1F70+3B9,3B1+3B9,3AC+3B9 1FB5:X 1FB6:V",
  "1FB7:=1FB6+3B9,1FB0,1FB1,1F70,3AC,3B1+3B9,20+313,3B9,20+313,20+342,20+308+342,1F74+3B9",
  "1FC3:=3B7+3B9,3AE+3B9 1FC5:X 1FC6:V",
  "1FC7:=1FC6+3B9,1F72,3AD,1F74,3AE,3B7+3B9,20+313+300,20+313+301,20+313+342 1FD0:V 1FD3:=390",
  "1FD4:X 1FD6:V 1FD8:=1FD0,1FD1,1F76,3AF 1FDC:X 1FDD:=20+314+300,20+314+301,20+314+342 1FE0:V",
  "1FE3:=3B0 1FE4:V 1FE8:=1FE0,1FE1,1F7A,3CD,1FE5,20+308+300,20+308+301,60 1FF0:X",
  "1FF2:=1F7C+3B9,3C9+3B9,3CE+3B9 1FF5:X 1FF6:V",
  "1FF7:=1FF6+3B9,1F78,3CC,1F7C,3CE,3C9+3B9,20+301,20+314 1FFF:X",
  "2000:=20,20,20,20,20,20,20,20,20,20,20, 200C:V 200E:X 2010:V 2011:=2010 2012:V 2017:=20+333",
  "2018:V 2024:X 2027:V 2028:X 202F:=20 2030:V 2033:=2032+2032,2032+2032+2032 2035:V",
  "2036:=2035+2035,2035+2035+2035 2038:V 203C:=21+21 203D:V 203E:=20+305 203F:V",
  "2047:=3F+3F,3F+21,21+3F 204A:V 2057:=2032+2032+2032+2032 2058:V 205F:=20,,,,, 2065:X",
  "206A:=,,,,,,30,69 2072:X 2074:<2040 207A:=2B,2212,3D,28,29,6E 2080:<2050 208A:=2B,2212,3D,28,29",
  "208F:X 2090:=61,65,6F,78,259,68 2096:<202B 209A:=70,73,74 209D:X 20A0:V 20A8:=72+73 20A9:V",
  "20C2:X 20D0:V 20F1:X 2100:=61+2F+63,61+2F+73,63,B0+63 2104:V 2105:=63+2F+6F,63+2F+75,25B 2108:V",
  "2109:=B0+66,67,68,68,68,68,127,69,69,6C,6C 2114:V 2115:=6E,6E+6F 2117:V 2119:=70,71,72,72,72",
  "211E:V 2120:=73+6D,74+65+6C,74+6D 2123:V 2124:=7A 2125:V 2126:=3C9 2127:V 2128:=7A 2129:V",
  "212A:=6B,E5,62,63 212E:V 212F:=65,65,66,214E,6D,6F 2135:<1B65 2139:=69 213A:V",
  "213B:=66+61+78,3C0,3B3,3B3,3C0,2211 2141:V 2145:=64,64,65,69,6A 214A:V",
  "2150:=31+2044+37,31+2044+39,31+2044+31+30,31+2044+33,32+2044+33,31+2044+35,32+2044+35",
  "2157:=33+2044+35,34+2044+35,31+2044+36,35+2044+36,31+2044+38,33+2044+38,35+2044+38",
  "215E:=37+2044+38,31+2044,69,69+69,69+69+69,69+76,76,76+69,76+69+69,76+69+69+69,69+78",
  "2169:=78,78+69,78+69+69,6C,63,64,6D,69,69+69,69+69+69,69+76,76,76+69,76+69+69",
  "2177:=76+69+69+69,69+78,78,78+69,78+69+69,6C,63,64,6D 2180:V 2183:=2184 2184:V 2189:=30+2044+33",
  "218A:V 218C:X 2190:V 222C:=222B+222B,222B+222B+222B 222E:V 222F:=222E+222E,222E+222E+222E",
  "2231:V 2329:=3008,3009 232B:V 242A:X 2440:V 244B:X 2460:<242F",
  "2469:=31+30,31+31,31+32,31+33,31+34,31+35,31+36,31+37,31+38,31+39,32+30,28+31+29",
  "2475:=28+32+29,28+33+29,28+34+29,28+35+29,28+36+29,28+37+29,28+38+29,28+39+29",
  "247D:=28+31+30+29,28+31+31+29,28+31+32+29,28+31+33+29,28+31+34+29,28+31+35+29",
  "2483:=28+31+36+29,28+31+37+29,28+31+38+29,28+31+39+29,28+32+30+29 2488:X",
  "249C:=28+61+29,28+62+29,28+63+29,28+64+29,28+65+29,28+66+29,28+67+29,28+68+29,28+69+29",
  "24A5:=28+6A+29,28+6B+29,28+6C+29,28+6D+29,28+6E+29,28+6F+29,28+70+29,28+71+29,28+72+29",
  "24AE:=28+73+29,28+74+29,28+75+29,28+76+29,28+77+29,28+78+29,28+79+29,28+7A+29 24B6:<2455",
  "24D0:<246F 24EA:=30 24EB:V 2A0C:=222B+222B+222B+222B 2A0D:V 2A74:=3A+3A+3D,3D+3D,3D+3D+3D",
  "2A77:V 2ADC:=2ADD+338 2ADD:V 2B74:X 2B76:V 2C00:>30 2C30:V 2C60:=2C61 2C61:V 2C62:=26B,1D7D,27D",
  "2C65:V 2C67:A 2C6D:=251,271,250,252 2C71:V 2C72:=2C73 2C73:V 2C75:=2C76 2C76:V",
  "2C7C:=6A,76,23F,240 2C80:A 2CE4:V 2CEB:A 2CEF:V 2CF2:=2CF3 2CF3:V 2CF4:X 2CF9:V 2D26:X 2D27:V",
  "2D28:X 2D2D:V 2D2E:X 2D30:V 2D68:X 2D6F:=2D61 2D70:V 2D71:X 2D7F:V 2D97:X 2DA0:V 2DA7:X 2DA8:V",
  "2DAF:X 2DB0:V 2DB7:X 2DB8:V 2DBF:X 2DC0:V 2DC7:X 2DC8:V 2DCF:X 2DD0:V 2DD7:X 2DD8:V 2DDF:X",
  "2DE0:V 2E5E:X 2E80:V 2E9A:X 2E9B:V 2E9F:=6BCD 2EA0:V 2EF3:=9F9F 2EF4:X",
  "2F00:=4E00,4E28,4E36,4E3F,4E59,4E85,4E8C,4EA0,4EBA,513F,5165,516B,5182,5196,51AB,51E0",
  "2F10:=51F5,5200,529B,52F9,5315,531A,5338,5341,535C,5369,5382,53B6,53C8,53E3,56D7,571F",
  "2F20:=58EB,5902,590A,5915,5927,5973,5B50,5B80,5BF8,5C0F,5C22,5C38,5C6E,5C71,5DDB,5DE5",
  "2F30:=5DF1,5DFE,5E72,5E7A,5E7F,5EF4,5EFE,5F0B,5F13,5F50,5F61,5F73,5FC3,6208,6236,624B",
  "2F40:=652F,6534,6587,6597,65A4,65B9,65E0,65E5,66F0,6708,6728,6B20,6B62,6B79,6BB3,6BCB",
  "2F50:=6BD4,6BDB,6C0F,6C14,6C34,706B,722A,7236,723B,723F,7247,7259,725B,72AC,7384,7389",
  "2F60:=74DC,74E6,7518,751F,7528,7530,758B,7592,7676,767D,76AE,76BF,76EE,77DB,77E2,77F3",
  "2F70:=793A,79B8,79BE,7A74,7ACB,7AF9,7C73,7CF8,7F36,7F51,7F8A,7FBD,8001,800C,8012,8033",
  "2F80:=807F,8089,81E3,81EA,81F3,81FC,820C,821B,821F,826E,8272,8278,864D,866B,8840,884C",
  "2F90:=8863,897E,898B,89D2,8A00,8C37,8C46,8C55,8C78,8C9D,8D64,8D70,8DB3,8EAB,8ECA,8F9B",
  "2FA0:=8FB0,8FB5,9091,9149,91C6,91CC,91D1,9577,9580,961C,96B6,96B9,96E8,9751,975E,9762",
  "2FB0:=9769,97CB,97ED,97F3,9801,98A8,98DB,98DF,9996,9999,99AC,9AA8,9AD8,9ADF,9B25,9B2F",
  "2FC0:=9B32,9B3C,9B5A,9CE5,9E75,9E7F,9EA5,9EBB,9EC3,9ECD,9ED1,9EF9,9EFD,9F0E,9F13,9F20",
  "2FD0:=9F3B,9F4A,9F52,9F8D,9F9C,9FA0 2FD6:X 3000:=20 3001:V 3002:=2E 3003:V 3036:=3012 3037:V",
  "3038:=5341,5344,5345 303B:V 3040:X 3041:V 3097:X 3099:V 309B:=20+3099,20+309A 309D:V",
  "309F:=3088+308A 30A0:V 30FF:=30B3+30C8 3100:X 3105:V 3130:X",
  "3131:=1100,1101,11AA,1102,11AC,11AD,1103,1104,1105 313A:<1F8A 3140:=111A,1106,1107,1108,1121",
  "3145:<203C 314F:<1FEE",
  "3164:=,1114,1115,11C7,11C8,11CC,11CE,11D3,11D7,11D9,111C,11DD,11DF,111D,111E,1120,1122",
  "3175:=1123,1127,1129 3178:<204D",
  "317D:=1132,1136,1140,1147,114C,11F1,11F2,1157,1158,1159,1184,1185,1188,1191,1192,1194",
  "318D:=119E,11A1 318F:X 3190:V",
  "3192:=4E00,4E8C,4E09,56DB,4E0A,4E2D,4E0B,7532,4E59,4E19,4E01,5929,5730,4EBA 31A0:V 31E6:X",
  "31F0:V 3200:=28+1100+29,28+1102+29,28+1103+29,28+1105+29,28+1106+29,28+1107+29,28+1109+29",
  "3207:=28+110B+29,28+110C+29,28+110E+29,28+110F+29,28+1110+29,28+1111+29,28+1112+29",
  "320E:=28+AC00+29,28+B098+29,28+B2E4+29,28+B77C+29,28+B9C8+29,28+BC14+29,28+C0AC+29",
  "3215:=28+C544+29,28+C790+29,28+CC28+29,28+CE74+29,28+D0C0+29,28+D30C+29,28+D558+29",
  "321C:=28+C8FC+29,28+C624+C804+29,28+C624+D6C4+29 321F:X",
  "3220:=28+4E00+29,28+4E8C+29,28+4E09+29,28+56DB+29,28+4E94+29,28+516D+29,28+4E03+29",
  "3227:=28+516B+29,28+4E5D+29,28+5341+29,28+6708+29,28+706B+29,28+6C34+29,28+6728+29",
  "322E:=28+91D1+29,28+571F+29,28+65E5+29,28+682A+29,28+6709+29,28+793E+29,28+540D+29",
  "3235:=28+7279+29,28+8CA1+29,28+795D+29,28+52B4+29,28+4EE3+29,28+547C+29,28+5B66+29",
  "323C:=28+76E3+29,28+4F01+29,28+8CC7+29,28+5354+29,28+796D+29,28+4F11+29,28+81EA+29",
  "3243:=28+81F3+29,554F,5E7C,6587,7B8F 3248:V",
  "3250:=70+74+65,32+31,32+32,32+33,32+34,32+35,32+36,32+37,32+38,32+39,33+30,33+31,33+32",
  "325D:=33+33,33+34,33+35,1100,1102,1103,1105,1106,1107,1109,110B,110C 3269:<215B",
  "326E:=AC00,B098,B2E4,B77C,B9C8,BC14,C0AC,C544,C790,CC28,CE74,D0C0,D30C,D558,CC38+ACE0",
  "327D:=C8FC+C758,C6B0 327F:V",
  "3280:=4E00,4E8C,4E09,56DB,4E94,516D,4E03,516B,4E5D,5341,6708,706B,6C34,6728,91D1,571F",
  "3290:=65E5,682A,6709,793E,540D,7279,8CA1,795D,52B4,79D8,7537,5973,9069,512A,5370,6CE8",
  "32A0:=9805,4F11,5199,6B63,4E0A,4E2D,4E0B,5DE6,53F3,533B,5B97,5B66,76E3,4F01,8CC7,5354",
  "32B0:=591C,33+36,33+37,33+38,33+39,34+30,34+31,34+32,34+33,34+34,34+35,34+36,34+37",
  "32BD:=34+38,34+39,35+30,31+6708,32+6708,33+6708,34+6708,35+6708,36+6708,37+6708",
  "32C7:=38+6708,39+6708,31+30+6708,31+31+6708,31+32+6708,68+67,65+72+67,65+76,6C+74+64",
  "32D0:=30A2,30A4,30A6,30A8,30AA,30AB,30AD,30AF,30B1,30B3,30B5,30B7,30B9,30BB,30BD,30BF",
  "32E0:=30C1,30C4,30C6,30C8 32E4:<21A 32EA:=30D2,30D5,30D8,30DB 32EE:<210 32F3:=30E4,30E6",
  "32F5:<20D 32FB:<20C 32FF:=4EE4+548C,30A2+30D1+30FC+30C8,30A2+30EB+30D5+30A1,30A2+30F3+30DA+30A2",
  "3303:=30A2+30FC+30EB,30A4+30CB+30F3+30B0,30A4+30F3+30C1,30A6+30A9+30F3",
  "3307:=30A8+30B9+30AF+30FC+30C9,30A8+30FC+30AB+30FC,30AA+30F3+30B9,30AA+30FC+30E0",
  "330B:=30AB+30A4+30EA,30AB+30E9+30C3+30C8,30AB+30ED+30EA+30FC,30AC+30ED+30F3",
  "330F:=30AC+30F3+30DE,30AE+30AC,30AE+30CB+30FC,30AD+30E5+30EA+30FC,30AE+30EB+30C0+30FC",
  "3314:=30AD+30ED,30AD+30ED+30B0+30E9+30E0,30AD+30ED+30E1+30FC+30C8+30EB",
  "3317:=30AD+30ED+30EF+30C3+30C8,30B0+30E9+30E0,30B0+30E9+30E0+30C8+30F3",
  "331A:=30AF+30EB+30BC+30A4+30ED,30AF+30ED+30FC+30CD,30B1+30FC+30B9,30B3+30EB+30CA",
  "331E:=30B3+30FC+30DD,30B5+30A4+30AF+30EB,30B5+30F3+30C1+30FC+30E0,30B7+30EA+30F3+30B0",
  "3322:=30BB+30F3+30C1,30BB+30F3+30C8,30C0+30FC+30B9,30C7+30B7,30C9+30EB,30C8+30F3",
  "3328:=30CA+30CE,30CE+30C3+30C8,30CF+30A4+30C4,30D1+30FC+30BB+30F3+30C8,30D1+30FC+30C4",
  "332D:=30D0+30FC+30EC+30EB,30D4+30A2+30B9+30C8+30EB,30D4+30AF+30EB,30D4+30B3,30D3+30EB",
  "3332:=30D5+30A1+30E9+30C3+30C9,30D5+30A3+30FC+30C8,30D6+30C3+30B7+30A7+30EB",
  "3335:=30D5+30E9+30F3,30D8+30AF+30BF+30FC+30EB,30DA+30BD,30DA+30CB+30D2,30D8+30EB+30C4",
  "333A:=30DA+30F3+30B9,30DA+30FC+30B8,30D9+30FC+30BF,30DD+30A4+30F3+30C8,30DC+30EB+30C8",
  "333F:=30DB+30F3,30DD+30F3+30C9,30DB+30FC+30EB,30DB+30FC+30F3,30DE+30A4+30AF+30ED",
  "3344:=30DE+30A4+30EB,30DE+30C3+30CF,30DE+30EB+30AF,30DE+30F3+30B7+30E7+30F3",
  "3348:=30DF+30AF+30ED+30F3,30DF+30EA,30DF+30EA+30D0+30FC+30EB,30E1+30AC",
  "334C:=30E1+30AC+30C8+30F3,30E1+30FC+30C8+30EB,30E4+30FC+30C9,30E4+30FC+30EB",
  "3350:=30E6+30A2+30F3,30EA+30C3+30C8+30EB,30EA+30E9,30EB+30D4+30FC,30EB+30FC+30D6+30EB",
  "3355:=30EC+30E0,30EC+30F3+30C8+30B2+30F3,30EF+30C3+30C8,30+70B9,31+70B9,32+70B9",
  "335B:=33+70B9,34+70B9,35+70B9,36+70B9,37+70B9,38+70B9,39+70B9,31+30+70B9,31+31+70B9",
  "3364:=31+32+70B9,31+33+70B9,31+34+70B9,31+35+70B9,31+36+70B9,31+37+70B9,31+38+70B9",
  "336B:=31+39+70B9,32+30+70B9,32+31+70B9,32+32+70B9,32+33+70B9,32+34+70B9,68+70+61,64+61",
  "3373:=61+75,62+61+72,6F+76,70+63,64+6D,64+6D+32,64+6D+33,69+75,5E73+6210,662D+548C",
  "337D:=5927+6B63,660E+6CBB,682A+5F0F+4F1A+793E,70+61,6E+61,3BC+61,6D+61,6B+61,6B+62",
  "3386:=6D+62,67+62,63+61+6C,6B+63+61+6C,70+66,6E+66,3BC+66,3BC+67,6D+67,6B+67,68+7A",
  "3391:=6B+68+7A,6D+68+7A,67+68+7A,74+68+7A,3BC+6C,6D+6C,64+6C,6B+6C,66+6D,6E+6D,3BC+6D",
  "339C:=6D+6D,63+6D,6B+6D,6D+6D+32,63+6D+32,6D+32,6B+6D+32,6D+6D+33,63+6D+33,6D+33",
  "33A6:=6B+6D+33,6D+2215+73,6D+2215+73+32,70+61,6B+70+61,6D+70+61,67+70+61,72+61+64",
  "33AE:=72+61+64+2215+73,72+61+64+2215+73+32,70+73,6E+73,3BC+73,6D+73,70+76,6E+76,3BC+76",
  "33B7:=6D+76,6B+76,6D+76,70+77,6E+77,3BC+77,6D+77,6B+77,6D+77,6B+3C9,6D+3C9 33C2:X",
  "33C3:=62+71,63+63,63+64,63+2215+6B+67 33C7:X",
  "33C8:=64+62,67+79,68+61,68+70,69+6E,6B+6B,6B+6D,6B+74,6C+6D,6C+6E,6C+6F+67,6C+78,6D+62",
  "33D5:=6D+69+6C,6D+6F+6C,70+68 33D8:X",
  "33D9:=70+70+6D,70+72,73+72,73+76,77+62,76+2215+6D,61+2215+6D,31+65E5,32+65E5,33+65E5",
  "33E3:=34+65E5,35+65E5,36+65E5,37+65E5,38+65E5,39+65E5,31+30+65E5,31+31+65E5,31+32+65E5",
  "33EC:=31+33+65E5,31+34+65E5,31+35+65E5,31+36+65E5,31+37+65E5,31+38+65E5,31+39+65E5",
  "33F3:=32+30+65E5,32+31+65E5,32+32+65E5,32+33+65E5,32+34+65E5,32+35+65E5,32+36+65E5",
  "33FA:=32+37+65E5,32+38+65E5,32+39+65E5,33+30+65E5,33+31+65E5,67+61+6C 3400:V A48D:X A490:V",
  "A4C7:X A4D0:V A62C:X A640:A A66E:V A680:A A69C:=44A,44C A69E:V A6F8:X A700:V A722:A A730:V",
  "A732:A A770:=A76F A771:V A779:A A77D:=1D79 A77E:A A788:V A78B:=A78C A78C:V A78D:=265 A78E:V",
  "A790:A A794:V A796:A A7AA:=266,25C,261,26C,26A A7AF:V A7B0:=29E,287,29D,AB53 A7B4:A",
  "A7C4:=A794,282,1D8E A7C7:A A7CB:=264 A7CC:A A7DC:=19B A7DD:X A7F1:=73,63,66,71,A7F6 A7F6:V",
  "A7F8:=127,153 A7FA:V A82D:X A830:V A83A:X A840:V A878:X A880:V A8C6:X A8CE:V A8DA:X A8E0:V",
  "A954:X A95F:V A97D:X A980:V A9CE:X A9CF:V A9DA:X A9DE:V A9FF:X AA00:V AA37:X AA40:V AA4E:X",
  "AA50:V AA5A:X AA5C:V AAC3:X AADB:V AAF7:X AB01:V AB07:X AB09:V AB0F:X AB11:V AB17:X AB20:V",
  "AB27:X AB28:V AB2F:X AB30:V AB5C:=A727,AB37,26B,AB52 AB60:V AB69:=28D AB6A:V AB6C:X AB70:<97D0",
  "ABC0:V ABEE:X ABF0:V ABFA:X AC00:V D7A4:X D7B0:V D7C7:X D7CB:V D7FC:X",
  "F900:=8C48,66F4,8ECA,8CC8,6ED1,4E32,53E5,9F9C,9F9C,5951,91D1,5587,5948,61F6,7669,7F85",
  "F910:=863F,87BA,88F8,908F,6A02,6D1B,70D9,73DE,843D,916A,99F1,4E82,5375,6B04,721B,862D",
  "F920:=9E1E,5D50,6FEB,85CD,8964,62C9,81D8,881F,5ECA,6717,6D6A,72FC,90CE,4F86,51B7,52DE",
  "F930:=64C4,6AD3,7210,76E7,8001,8606,865C,8DEF,9732,9B6F,9DFA,788C,797F,7DA0,83C9,9304",
  "F940:=9E7F,8AD6,58DF,5F04,7C60,807E,7262,78CA,8CC2,96F7,58D8,5C62,6A13,6DDA,6F0F,7D2F",
  "F950:=7E37,964B,52D2,808B,51DC,51CC,7A1C,7DBE,83F1,9675,8B80,62CF,6A02,8AFE,4E39,5BE7",
  "F960:=6012,7387,7570,5317,78FB,4FBF,5FA9,4E0D,6CCC,6578,7D22,53C3,585E,7701,8449,8AAA",
  "F970:=6BBA,8FB0,6C88,62FE,82E5,63A0,7565,4EAE,5169,51C9,6881,7CE7,826F,8AD2,91CF,52F5",
  "F980:=5442,5973,5EEC,65C5,6FFE,792A,95AD,9A6A,9E97,9ECE,529B,66C6,6B77,8F62,5E74,6190",
  "F990:=6200,649A,6F23,7149,7489,79CA,7DF4,806F,8F26,84EE,9023,934A,5217,52A3,54BD,70C8",
  "F9A0:=88C2,8AAA,5EC9,5FF5,637B,6BAE,7C3E,7375,4EE4,56F9,5BE7,5DBA,601C,73B2,7469,7F9A",
  "F9B0:=8046,9234,96F6,9748,9818,4F8B,79AE,91B4,96B8,60E1,4E86,50DA,5BEE,5C3F,6599,6A02",
  "F9C0:=71CE,7642,84FC,907C,9F8D,6688,962E,5289,677B,67F3,6D41,6E9C,7409,7559,786B,7D10",
  "F9D0:=985E,516D,622E,9678,502B,5D19,6DEA,8F2A,5F8B,6144,6817,7387,9686,5229,540F,5C65",
  "F9E0:=6613,674E,68A8,6CE5,7406,75E2,7F79,88CF,88E1,91CC,96E2,533F,6EBA,541D,71D0,7498",
  "F9F0:=85FA,96A3,9C57,9E9F,6797,6DCB,81E8,7ACB,7B20,7C92,72C0,7099,8B58,4EC0,8336,523A",
  "FA00:=5207,5EA6,62D3,7CD6,5B85,6D1E,66B4,8F3B,884C,964D,898B,5ED3,5140,55C0 FA0E:V FA10:=585A",
  "FA11:V FA12:=6674 FA13:V FA15:=51DE,732A,76CA,793C,795E,7965,798F,9756,7CBE,7FBD FA1F:V",
  "FA20:=8612 FA21:V FA22:=8AF8 FA23:V FA25:=9038,90FD FA27:V",
  "FA2A:=98EF,98FC,9928,9DB4,90DE,96B7,4FAE,50E7,514D,52C9,52E4,5351,559D,5606,5668,5840",
  "FA3A:=58A8,5C64,5C6E,6094,6168,618E,61F2,654F,65E2,6691,6885,6D77,6E1A,6F22,716E,722B",
  "FA4A:=7422,7891,793E,7949,7948,7950,7956,795D,798D,798E,7A40,7A81,7BC0,7DF4,7E09,7E41",
  "FA5A:=7F72,8005,81ED,8279,8279,8457,8910,8996,8B01,8B39,8CD3,8D08,8FB6,9038,96E3,97FF",
  "FA6A:=983B,6075,242EE,8218 FA6E:X",
  "FA70:=4E26,51B5,5168,4F80,5145,5180,52C7,52FA,559D,5555,5599,55E2,585A,58B3,5944,5954",
  "FA80:=5A62,5B28,5ED2,5ED9,5F69,5FAD,60D8,614E,6108,618E,6160,61F2,6234,63C4,641C,6452",
  "FA90:=6556,6674,6717,671B,6756,6B79,6BBA,6D41,6EDB,6ECB,6F22,701E,716E,77A7,7235,72AF",
  "FAA0:=732A,7471,7506,753B,761D,761F,76CA,76DB,76F4,774A,7740,78CC,7AB1,7BC0,7C7B,7D5B",
  "FAB0:=7DF4,7F3E,8005,8352,83EF,8779,8941,8986,8996,8ABF,8AF8,8ACB,8B01,8AFE,8AED,8B39",
  "FAC0:=8B8A,8D08,8F38,9072,9199,9276,967C,96E3,9756,97DB,97FF,980B,983B,9B12,9F9C,2284A",
  "FAD0:=22844,233D5,3B9D,4018,4039,25249,25CD0,27ED3,9F43,9F8E FADA:X",
  "FB00:=66+66,66+69,66+6C,66+66+69,66+66+6C,73+74,73+74 FB07:X",
  "FB13:=574+576,574+565,574+56B,57E+576,574+56D FB18:X FB1D:=5D9+5B4 FB1E:V",
  "FB1F:=5F2+5B7,5E2,5D0,5D3,5D4,5DB,5DC,5DD,5E8,5EA,2B,5E9+5C1,5E9+5C2,5E9+5BC+5C1",
  "FB2D:=5E9+5BC+5C2,5D0+5B7,5D0+5B8,5D0+5BC,5D1+5BC,5D2+5BC,5D3+5BC,5D4+5BC,5D5+5BC FB36:=5D6+5BC",
  "FB37:X FB38:=5D8+5BC,5D9+5BC,5DA+5BC,5DB+5BC,5DC+5BC FB3D:X FB3E:=5DE+5BC FB3F:X",
  "FB40:=5E0+5BC,5E1+5BC FB42:X FB43:=5E3+5BC,5E4+5BC FB45:X",
  "FB46:=5E6+5BC,5E7+5BC,5E8+5BC,5E9+5BC,5EA+5BC,5D5+5B9,5D1+5BF,5DB+5BF,5E4+5BF,5D0+5DC",
  "FB50:=671,671,67B,67B,67B,67B,67E,67E,67E,67E,680,680,680,680,67A,67A,67A,67A,67F,67F",
  "FB64:=67F,67F,679,679,679,679,6A4,6A4,6A4,6A4,6A6,6A6,6A6,6A6,684,684,684,684,683,683",
  "FB78:=683,683,686,686,686,686,687,687,687,687,68D,68D,68C,68C,68E,68E,688,688,698,698",
  "FB8C:=691,691,6A9,6A9,6A9,6A9,6AF,6AF,6AF,6AF,6B3,6B3,6B3,6B3,6B1,6B1,6B1,6B1,6BA,6BA",
  "FBA0:=6BB,6BB,6BB,6BB,6C0,6C0,6C1,6C1,6C1,6C1,6BE,6BE,6BE,6BE,6D2,6D2,6D3,6D3 FBB2:V",
  "FBD3:=6AD,6AD,6AD,6AD,6C7,6C7,6C6,6C6,6C8,6C8,6C7+674,6CB,6CB,6C5,6C5,6C9,6C9,6D0,6D0",
  "FBE6:=6D0,6D0,649,649,626+627,626+627,626+6D5,626+6D5,626+648,626+648,626+6C7,626+6C7",
  "FBF2:=626+6C6,626+6C6,626+6C8,626+6C8,626+6D0,626+6D0,626+6D0,626+649,626+649,626+649",
  "FBFC:=6CC,6CC,6CC,6CC,626+62C,626+62D,626+645,626+649,626+64A,628+62C,628+62D,628+62E",
  "FC08:=628+645,628+649,628+64A,62A+62C,62A+62D,62A+62E,62A+645,62A+649,62A+64A,62B+62C",
  "FC12:=62B+645,62B+649,62B+64A,62C+62D,62C+645,62D+62C,62D+645,62E+62C,62E+62D,62E+645",
  "FC1C:=633+62C,633+62D,633+62E,633+645,635+62D,635+645,636+62C,636+62D,636+62E,636+645",
  "FC26:=637+62D,637+645,638+645,639+62C,639+645,63A+62C,63A+645,641+62C,641+62D,641+62E",
  "FC30:=641+645,641+649,641+64A,642+62D,642+645,642+649,642+64A,643+627,643+62C,643+62D",
  "FC3A:=643+62E,643+644,643+645,643+649,643+64A,644+62C,644+62D,644+62E,644+645,644+649",
  "FC44:=644+64A,645+62C,645+62D,645+62E,645+645,645+649,645+64A,646+62C,646+62D,646+62E",
  "FC4E:=646+645,646+649,646+64A,647+62C,647+645,647+649,647+64A,64A+62C,64A+62D,64A+62E",
  "FC58:=64A+645,64A+649,64A+64A,630+670,631+670,649+670,20+64C+651,20+64D+651,20+64E+651",
  "FC61:=20+64F+651,20+650+651,20+651+670,626+631,626+632,626+645,626+646,626+649,626+64A",
  "FC6A:=628+631,628+632,628+645,628+646,628+649,628+64A,62A+631,62A+632,62A+645,62A+646",
  "FC74:=62A+649,62A+64A,62B+631,62B+632,62B+645,62B+646,62B+649,62B+64A,641+649,641+64A",
  "FC7E:=642+649,642+64A,643+627,643+644,643+645,643+649,643+64A,644+645,644+649,644+64A",
  "FC88:=645+627,645+645,646+631,646+632,646+645,646+646,646+649,646+64A,649+670,64A+631",
  "FC92:=64A+632,64A+645,64A+646,64A+649,64A+64A,626+62C,626+62D,626+62E,626+645,626+647",
  "FC9C:=628+62C,628+62D,628+62E,628+645,628+647,62A+62C,62A+62D,62A+62E,62A+645,62A+647",
  "FCA6:=62B+645,62C+62D,62C+645,62D+62C,62D+645,62E+62C,62E+645,633+62C,633+62D,633+62E",
  "FCB0:=633+645,635+62D,635+62E,635+645,636+62C,636+62D,636+62E,636+645,637+62D,638+645",
  "FCBA:=639+62C,639+645,63A+62C,63A+645,641+62C,641+62D,641+62E,641+645,642+62D,642+645",
  "FCC4:=643+62C,643+62D,643+62E,643+644,643+645,644+62C,644+62D,644+62E,644+645,644+647",
  "FCCE:=645+62C,645+62D,645+62E,645+645,646+62C,646+62D,646+62E,646+645,646+647,647+62C",
  "FCD8:=647+645,647+670,64A+62C,64A+62D,64A+62E,64A+645,64A+647,626+645,626+647,628+645",
  "FCE2:=628+647,62A+645,62A+647,62B+645,62B+647,633+645,633+647,634+645,634+647,643+644",
  "FCEC:=643+645,644+645,646+645,646+647,64A+645,64A+647,640+64E+651,640+64F+651",
  "FCF4:=640+650+651,637+649,637+64A,639+649,639+64A,63A+649,63A+64A,633+649,633+64A",
  "FCFD:=634+649,634+64A,62D+649,62D+64A,62C+649,62C+64A,62E+649,62E+64A,635+649,635+64A",
  "FD07:=636+649,636+64A,634+62C,634+62D,634+62E,634+645,634+631,633+631,635+631,636+631",
  "FD11:=637+649,637+64A,639+649,639+64A,63A+649,63A+64A,633+649,633+64A,634+649,634+64A",
  "FD1B:=62D+649,62D+64A,62C+649,62C+64A,62E+649,62E+64A,635+649,635+64A,636+649,636+64A",
  "FD25:=634+62C,634+62D,634+62E,634+645,634+631,633+631,635+631,636+631,634+62C,634+62D",
  "FD2F:=634+62E,634+645,633+647,634+647,637+645,633+62C,633+62D,633+62E,634+62C,634+62D",
  "FD39:=634+62E,637+645,638+645,627+64B,627+64B FD3E:V",
  "FD50:=62A+62C+645,62A+62D+62C,62A+62D+62C,62A+62D+645,62A+62E+645,62A+645+62C",
  "FD56:=62A+645+62D,62A+645+62E,62C+645+62D,62C+645+62D,62D+645+64A,62D+645+649",
  "FD5C:=633+62D+62C,633+62C+62D,633+62C+649,633+645+62D,633+645+62D,633+645+62C",
  "FD62:=633+645+645,633+645+645,635+62D+62D,635+62D+62D,635+645+645,634+62D+645",
  "FD68:=634+62D+645,634+62C+64A,634+645+62E,634+645+62E,634+645+645,634+645+645",
  "FD6E:=636+62D+649,636+62E+645,636+62E+645,637+645+62D,637+645+62D,637+645+645",
  "FD74:=637+645+64A,639+62C+645,639+645+645,639+645+645,639+645+649,63A+645+645",
  "FD7A:=63A+645+64A,63A+645+649,641+62E+645,641+62E+645,642+645+62D,642+645+645",
  "FD80:=644+62D+645,644+62D+64A,644+62D+649,644+62C+62C,644+62C+62C,644+62E+645",
  "FD86:=644+62E+645,644+645+62D,644+645+62D,645+62D+62C,645+62D+645,645+62D+64A",
  "FD8C:=645+62C+62D,645+62C+645,645+62E+62C,645+62E+645 FD90:V",
  "FD92:=645+62C+62E,647+645+62C,647+645+645,646+62D+645,646+62D+649,646+62C+645",
  "FD98:=646+62C+645,646+62C+649,646+645+64A,646+645+649,64A+645+645,64A+645+645",
  "FD9E:=628+62E+64A,62A+62C+64A,62A+62C+649,62A+62E+64A,62A+62E+649,62A+645+64A",
  "FDA4:=62A+645+649,62C+645+64A,62C+62D+649,62C+645+649,633+62E+649,635+62D+64A",
  "FDAA:=634+62D+64A,636+62D+64A,644+62C+64A,644+645+64A,64A+62D+64A,64A+62C+64A",
  "FDB0:=64A+645+64A,645+645+64A,642+645+64A,646+62D+64A,642+645+62D,644+62D+645",
  "FDB6:=639+645+64A,643+645+64A,646+62C+62D,645+62E+64A,644+62C+645,643+645+645",
  "FDBC:=644+62C+645,646+62C+62D,62C+62D+64A,62D+62C+64A,645+62C+64A,641+645+64A",
  "FDC2:=628+62D+64A,643+645+645,639+62C+645,635+645+645,633+62E+64A,646+62C+64A FDC8:V FDD0:X",
  "FDF0:=635+644+6D2,642+644+6D2,627+644+644+647,627+643+628+631,645+62D+645+62F",
  "FDF5:=635+644+639+645,631+633+648+644,639+644+64A+647,648+633+644+645,635+644+649",
  "FDFA:=635+644+649+20+627+644+644+647+20+639+644+64A+647+20+648+633+644+645",
  "FDFB:=62C+644+20+62C+644+627+644+647,631+6CC+627+644 FDFD:V FE00:=,,,,,,,,,,,,,,,,2C,3001",
  "FE12:X FE13:=3A,3B,21,3F,3016,3017 FE19:X FE20:V FE30:X",
  "FE31:=2014,2013,5F,5F,28,29,7B,7D,3014,3015,3010,3011,300A,300B,3008,3009 FE41:<CE35 FE45:V",
  "FE47:=5B,5D,20+305,20+305,20+305,20+305,5F,5F,5F,2C,3001 FE52:X",
  "FE54:=3B,3A,3F,21,2014,28,29,7B,7D,3014,3015,23,26,2A,2B,2D,3C,3E,3D FE67:X FE68:=5C,24,25,40",
  "FE6C:X FE70:=20+64B,640+64B,20+64C FE73:V FE74:=20+64D FE75:X",
  "FE76:=20+64E,640+64E,20+64F,640+64F,20+650,640+650,20+651,640+651,20+652,640+652,621",
  "FE81:=622,622,623,623,624,624,625,625,626,626,626,626,627,627,628,628,628,628,629,629",
  "FE95:=62A,62A,62A,62A,62B,62B,62B,62B,62C,62C,62C,62C,62D,62D,62D,62D,62E,62E,62E,62E",
  "FEA9:=62F,62F,630,630,631,631,632,632,633,633,633,633,634,634,634,634,635,635,635,635",
  "FEBD:=636,636,636,636,637,637,637,637,638,638,638,638,639,639,639,639,63A,63A,63A,63A",
  "FED1:=641,641,641,641,642,642,642,642,643,643,643,643,644,644,644,644,645,645,645,645",
  "FEE5:=646,646,646,646,647,647,647,647,648,648,649,649,64A,64A,64A,64A,644+622,644+622",
  "FEF7:=644+623,644+623,644+625,644+625,644+627,644+627 FEFD:X FEFF:= FF00:X FF01:<FEE0",
  "FF21:<FEC0 FF3B:<FEE0",
  "FF5F:=2985,2986,2E,300C,300D,3001,30FB,30F2,30A1,30A3,30A5,30A7,30A9,30E3,30E5,30E7",
  "FF6F:=30C3,30FC,30A2,30A4,30A6,30A8,30AA,30AB,30AD,30AF,30B1,30B3,30B5,30B7,30B9,30BB",
  "FF7F:=30BD,30BF,30C1,30C4,30C6,30C8 FF85:<CEBB FF8B:=30D2,30D5,30D8,30DB FF8F:<CEB1",
  "FF94:=30E4,30E6 FF96:<CEAE",
  "FF9C:=30EF,30F3,3099,309A,,1100,1101,11AA,1102,11AC,11AD,1103,1104,1105 FFAA:<EDFA",
  "FFB0:=111A,1106,1107,1108,1121 FFB5:<EEAC FFBF:X FFC2:<EE61 FFC8:X FFCA:<EE63 FFD0:X FFD2:<EE65",
  "FFD8:X FFDA:=1173,1174,1175 FFDD:X FFE0:=A2,A3,AC,20+304,A6,A5,20A9 FFE7:X FFE8:=2502",
  "FFE9:<DE59 FFED:=25A0,25CB FFEF:X 10000:V 1000C:X 1000D:V 10027:X 10028:V 1003B:X 1003C:V",
  "1003E:X 1003F:V 1004E:X 10050:V 1005E:X 10080:V 100FB:X 10100:V 10103:X 10107:V 10134:X 10137:V",
  "1018F:X 10190:V 1019D:X 101A0:V 101A1:X 101D0:V 101FE:X 10280:V 1029D:X 102A0:V 102D1:X 102E0:V",
  "102FC:X 10300:V 10324:X 1032D:V 1034B:X 10350:V 1037B:X 10380:V 1039E:X 1039F:V 103C4:X 103C8:V",
  "103D6:X 10400:>28 10428:V 1049E:X 104A0:V 104AA:X 104B0:>28 104D4:X 104D8:V 104FC:X 10500:V",
  "10528:X 10530:V 10564:X 1056F:V 10570:>27 1057B:X 1057C:>27 1058B:X 1058C:>27 10593:X",
  "10594:=105BB,105BC 10596:X 10597:V 105A2:X 105A3:V 105B2:X 105B3:V 105BA:X 105BB:V 105BD:X",
  "105C0:V 105F4:X 10600:V 10737:X 10740:V 10756:X 10760:V 10768:X 10780:V",
  "10781:=2D0,2D1,E6,299,253 10786:X",
  "10787:=2A3,AB66,2A5,2A4,256,257,1D91,258,25E,2A9,264,262,260,29B,127,29C,267,284,2AA",
  "1079A:=2AB,26C,1DF04,A78E,26E,1DF05,28E,1DF06,F8,276,277,71,27A,1DF08,27D,27E,280,2A8",
  "107AC:=2A6,AB67,2A7,288,2C71 107B1:X 107B2:=28F,2A1,2A2,298,1C0,1C1,1C2,1DF0A,1DF1E 107BB:X",
  "10800:V 10806:X 10808:V 10809:X 1080A:V 10836:X 10837:V 10839:X 1083C:V 1083D:X 1083F:V 10856:X",
  "10857:V 1089F:X 108A7:V 108B0:X 108E0:V 108F3:X 108F4:V 108F6:X 108FB:V 1091C:X 1091F:V 1093A:X",
  "1093F:V 1095A:X 10980:V 109B8:X 109BC:V 109D0:X 109D2:V 10A04:X 10A05:V 10A07:X 10A0C:V 10A14:X",
  "10A15:V 10A18:X 10A19:V 10A36:X 10A38:V 10A3B:X 10A3F:V 10A49:X 10A50:V 10A59:X 10A60:V 10AA0:X",
  "10AC0:V 10AE7:X 10AEB:V 10AF7:X 10B00:V 10B36:X 10B39:V 10B56:X 10B58:V 10B73:X 10B78:V 10B92:X",
  "10B99:V 10B9D:X 10BA9:V 10BB0:X 10C00:V 10C49:X 10C80:>40 10CB3:X 10CC0:V 10CF3:X 10CFA:V",
  "10D28:X 10D30:V 10D3A:X 10D40:V 10D50:>20 10D66:X 10D69:V 10D86:X 10D8E:V 10D90:X 10E60:V",
  "10E7F:X 10E80:V 10EAA:X 10EAB:V 10EAE:X 10EB0:V 10EB2:X 10EC2:V 10EC8:X 10ED0:V 10ED9:X 10EFA:V",
  "10F28:X 10F30:V 10F5A:X 10F70:V 10F8A:X 10FB0:V 10FCC:X 10FE0:V 10FF7:X 11000:V 1104E:X 11052:V",
  "11076:X 1107F:V 110BD:X 110BE:V 110C3:X 110D0:V 110E9:X 110F0:V 110FA:X 11100:V 11135:X 11136:V",
  "11148:X 11150:V 11177:X 11180:V 111E0:X 111E1:V 111F5:X 11200:V 11212:X 11213:V 11242:X 11280:V",
  "11287:X 11288:V 11289:X 1128A:V 1128E:X 1128F:V 1129E:X 1129F:V 112AA:X 112B0:V 112EB:X 112F0:V",
  "112FA:X 11300:V 11304:X 11305:V 1130D:X 1130F:V 11311:X 11313:V 11329:X 1132A:V 11331:X 11332:V",
  "11334:X 11335:V 1133A:X 1133B:V 11345:X 11347:V 11349:X 1134B:V 1134E:X 11350:V 11351:X 11357:V",
  "11358:X 1135D:V 11364:X 11366:V 1136D:X 11370:V 11375:X 11380:V 1138A:X 1138B:V 1138C:X 1138E:V",
  "1138F:X 11390:V 113B6:X 113B7:V 113C1:X 113C2:V 113C3:X 113C5:V 113C6:X 113C7:V 113CB:X 113CC:V",
  "113D6:X 113D7:V 113D9:X 113E1:V 113E3:X 11400:V 1145C:X 1145D:V 11462:X 11480:V 114C8:X 114D0:V",
  "114DA:X 11580:V 115B6:X 115B8:V 115DE:X 11600:V 11645:X 11650:V 1165A:X 11660:V 1166D:X 11680:V",
  "116BA:X 116C0:V 116CA:X 116D0:V 116E4:X 11700:V 1171B:X 1171D:V 1172C:X 11730:V 11747:X 11800:V",
  "1183C:X 118A0:>20 118C0:V 118F3:X 118FF:V 11907:X 11909:V 1190A:X 1190C:V 11914:X 11915:V",
  "11917:X 11918:V 11936:X 11937:V 11939:X 1193B:V 11947:X 11950:V 1195A:X 119A0:V 119A8:X 119AA:V",
  "119D8:X 119DA:V 119E5:X 11A00:V 11A48:X 11A50:V 11AA3:X 11AB0:V 11AF9:X 11B00:V 11B0A:X 11B60:V",
  "11B68:X 11BC0:V 11BE2:X 11BF0:V 11BFA:X 11C00:V 11C09:X 11C0A:V 11C37:X 11C38:V 11C46:X 11C50:V",
  "11C6D:X 11C70:V 11C90:X 11C92:V 11CA8:X 11CA9:V 11CB7:X 11D00:V 11D07:X 11D08:V 11D0A:X 11D0B:V",
  "11D37:X 11D3A:V 11D3B:X 11D3C:V 11D3E:X 11D3F:V 11D48:X 11D50:V 11D5A:X 11D60:V 11D66:X 11D67:V",
  "11D69:X 11D6A:V 11D8F:X 11D90:V 11D92:X 11D93:V 11D99:X 11DA0:V 11DAA:X 11DB0:V 11DDC:X 11DE0:V",
  "11DEA:X 11EE0:V 11EF9:X 11F00:V 11F11:X 11F12:V 11F3B:X 11F3E:V 11F5B:X 11FB0:V 11FB1:X 11FC0:V",
  "11FF2:X 11FFF:V 1239A:X 12400:V 1246F:X 12470:V 12475:X 12480:V 12544:X 12F90:V 12FF3:X 13000:V",
  "13430:X 13440:V 13456:X 13460:V 143FB:X 14400:V 14647:X 16100:V 1613A:X 16800:V 16A39:X 16A40:V",
  "16A5F:X 16A60:V 16A6A:X 16A6E:V 16ABF:X 16AC0:V 16ACA:X 16AD0:V 16AEE:X 16AF0:V 16AF6:X 16B00:V",
  "16B46:X 16B50:V 16B5A:X 16B5B:V 16B62:X 16B63:V 16B78:X 16B7D:V 16B90:X 16D40:V 16D7A:X",
  "16E40:>20 16E60:V 16E9B:X 16EA0:>1B 16EB9:X 16EBB:V 16ED4:X 16F00:V 16F4B:X 16F4F:V 16F88:X",
  "16F8F:V 16FA0:X 16FE0:V 16FE5:X 16FF0:V 16FF7:X 17000:V 18CD6:X 18CFF:V 18D1F:X 18D80:V 18DF3:X",
  "1AFF0:V 1AFF4:X 1AFF5:V 1AFFC:X 1AFFD:V 1AFFF:X 1B000:V 1B123:X 1B132:V 1B133:X 1B150:V 1B153:X",
  "1B155:V 1B156:X 1B164:V 1B168:X 1B170:V 1B2FC:X 1BC00:V 1BC6B:X 1BC70:V 1BC7D:X 1BC80:V 1BC89:X",
  "1BC90:V 1BC9A:X 1BC9C:V 1BCA0:=,,, 1BCA4:X 1CC00:V 1CCD6:<1CC75 1CCF0:<1CCC0 1CCFA:V 1CCFD:X",
  "1CD00:V 1CEB4:X 1CEBA:V 1CED1:X 1CEE0:V 1CEF1:X 1CF00:V 1CF2E:X 1CF30:V 1CF47:X 1CF50:V 1CFC4:X",
  "1D000:V 1D0F6:X 1D100:V 1D127:X 1D129:V",
  "1D15E:=1D157+1D165,1D158+1D165,1D158+1D165+1D16E,1D158+1D165+1D16F,1D158+1D165+1D170",
  "1D163:=1D158+1D165+1D171,1D158+1D165+1D172 1D165:V 1D173:=,,,,,,, 1D17B:V",
  "1D1BB:=1D1B9+1D165,1D1BA+1D165,1D1B9+1D165+1D16E,1D1BA+1D165+1D16E,1D1B9+1D165+1D16F",
  "1D1C0:=1D1BA+1D165+1D16F 1D1C1:V 1D1EB:X 1D200:V 1D246:X 1D2C0:V 1D2D4:X 1D2E0:V 1D2F4:X",
  "1D300:V 1D357:X 1D360:V 1D379:X 1D400:<1D39F 1D41A:<1D3B9 1D434:<1D3D3 1D44E:<1D3ED 1D455:X",
  "1D456:<1D3ED 1D468:<1D407 1D482:<1D421 1D49C:=61 1D49D:X 1D49E:=63,64 1D4A0:X 1D4A2:=67 1D4A3:X",
  "1D4A5:=6A,6B 1D4A7:X 1D4A9:<1D43B 1D4AD:X 1D4AE:<1D43B 1D4B6:<1D455 1D4BA:X 1D4BB:=66 1D4BC:X",
  "1D4BD:<1D455 1D4C4:X 1D4C5:<1D455 1D4D0:<1D46F 1D4EA:<1D489 1D504:=61,62 1D506:X 1D507:<1D4A3",
  "1D50B:X 1D50D:<1D4A3 1D515:X 1D516:<1D4A3 1D51D:X 1D51E:<1D4BD 1D538:=61,62 1D53A:X",
  "1D53B:<1D4D7 1D53F:X 1D540:<1D4D7 1D545:X 1D546:=6F 1D547:X 1D54A:<1D4D7 1D551:X 1D552:<1D4F1",
  "1D56C:<1D50B 1D586:<1D525 1D5A0:<1D53F 1D5BA:<1D559 1D5D4:<1D573 1D5EE:<1D58D 1D608:<1D5A7",
  "1D622:<1D5C1 1D63C:<1D5DB 1D656:<1D5F5 1D670:<1D60F 1D68A:<1D629 1D6A4:=131,237 1D6A6:X",
  "1D6A8:<1D2F7 1D6B9:=3B8 1D6BA:<1D2F7 1D6C1:=2207 1D6C2:<1D311 1D6D3:=3C3 1D6D4:<1D311",
  "1D6DB:=2202,3B5,3B8,3BA,3C6,3C1,3C0 1D6E2:<1D331 1D6F3:=3B8 1D6F4:<1D331 1D6FB:=2207",
  "1D6FC:<1D34B 1D70D:=3C3 1D70E:<1D34B 1D715:=2202,3B5,3B8,3BA,3C6,3C1,3C0 1D71C:<1D36B",
  "1D72D:=3B8 1D72E:<1D36B 1D735:=2207 1D736:<1D385 1D747:=3C3 1D748:<1D385",
  "1D74F:=2202,3B5,3B8,3BA,3C6,3C1,3C0 1D756:<1D3A5 1D767:=3B8 1D768:<1D3A5 1D76F:=2207",
  "1D770:<1D3BF 1D781:=3C3 1D782:<1D3BF 1D789:=2202,3B5,3B8,3BA,3C6,3C1,3C0 1D790:<1D3DF",
  "1D7A1:=3B8 1D7A2:<1D3DF 1D7A9:=2207 1D7AA:<1D3F9 1D7BB:=3C3 1D7BC:<1D3F9",
  "1D7C3:=2202,3B5,3B8,3BA,3C6,3C1,3C0,3DD,3DD 1D7CC:X 1D7CE:<1D79E 1D7D8:<1D7A8 1D7E2:<1D7B2",
  "1D7EC:<1D7BC 1D7F6:<1D7C6 1D800:V 1DA8C:X 1DA9B:V 1DAA0:X 1DAA1:V 1DAB0:X 1DF00:V 1DF1F:X",
  "1DF25:V 1DF2B:X 1E000:V 1E007:X 1E008:V 1E019:X 1E01B:V 1E022:X 1E023:V 1E025:X 1E026:V 1E02B:X",
  "1E030:<1DC00 1E039:=43A,43B,43C 1E03C:<1DBFE 1E047:=44B,44D,44E,A689,4D9,456,458,4E9,4AF,4CF",
  "1E051:<1DC21 1E05A:=43A,43B,43E,43F,441 1E05F:<1DC1C",
  "1E065:=44A,44B,491,456,455,45F,4AB,A651,4B1 1E06E:X 1E08F:V 1E090:X 1E100:V 1E12D:X 1E130:V",
  "1E13E:X 1E140:V 1E14A:X 1E14E:V 1E150:X 1E290:V 1E2AF:X 1E2C0:V 1E2FA:X 1E2FF:V 1E300:X 1E4D0:V",
  "1E4FA:X 1E5D0:V 1E5FB:X 1E5FF:V 1E600:X 1E6C0:V 1E6DF:X 1E6E0:V 1E6F6:X 1E6FE:V 1E700:X 1E7E0:V",
  "1E7E7:X 1E7E8:V 1E7EC:X 1E7ED:V 1E7EF:X 1E7F0:V 1E7FF:X 1E800:V 1E8C5:X 1E8C7:V 1E8D7:X",
  "1E900:>22 1E922:V 1E94C:X 1E950:V 1E95A:X 1E95E:V 1E960:X 1EC71:V 1ECB5:X 1ED01:V 1ED3E:X",
  "1EE00:=627,628,62C,62F 1EE04:X 1EE05:=648,632,62D,637,64A 1EE0A:<1E7C7",
  "1EE0E:=633,639,641,635,642,631,634,62A,62B,62E,630,636,638,63A,66E,6BA,6A1,66F 1EE20:X",
  "1EE21:=628,62C 1EE23:X 1EE24:=647 1EE25:X 1EE27:=62D 1EE28:X 1EE29:=64A 1EE2A:<1E7E7",
  "1EE2E:=633,639,641,635,642 1EE33:X 1EE34:=634,62A,62B,62E 1EE38:X 1EE39:=636 1EE3A:X 1EE3B:=63A",
  "1EE3C:X 1EE42:=62C 1EE43:X 1EE47:=62D 1EE48:X 1EE49:=64A 1EE4A:X 1EE4B:=644 1EE4C:X",
  "1EE4D:=646,633,639 1EE50:X 1EE51:=635,642 1EE53:X 1EE54:=634 1EE55:X 1EE57:=62E 1EE58:X",
  "1EE59:=636 1EE5A:X 1EE5B:=63A 1EE5C:X 1EE5D:=6BA 1EE5E:X 1EE5F:=66F 1EE60:X 1EE61:=628,62C",
  "1EE63:X 1EE64:=647 1EE65:X 1EE67:=62D,637,64A,643 1EE6B:X 1EE6C:=645,646,633,639,641,635,642",
  "1EE73:X 1EE74:=634,62A,62B,62E 1EE78:X 1EE79:=636,638,63A,66E 1EE7D:X 1EE7E:=6A1 1EE7F:X",
  "1EE80:=627,628,62C,62F,647,648,632,62D,637,64A 1EE8A:X",
  "1EE8B:=644,645,646,633,639,641,635,642,631,634,62A,62B,62E,630,636,638,63A 1EE9C:X",
  "1EEA1:=628,62C,62F 1EEA4:X 1EEA5:=648,632,62D,637,64A 1EEAA:X",
  "1EEAB:=644,645,646,633,639,641,635,642,631,634,62A,62B,62E,630,636,638,63A 1EEBC:X 1EEF0:V",
  "1EEF2:X 1F000:V 1F02C:X 1F030:V 1F094:X 1F0A0:V 1F0AF:X 1F0B1:V 1F0C0:X 1F0C1:V 1F0D0:X 1F0D1:V",
  "1F0F6:X 1F101:=30+2C,31+2C,32+2C,33+2C,34+2C,35+2C,36+2C,37+2C,38+2C,39+2C 1F10B:V",
  "1F110:=28+61+29,28+62+29,28+63+29,28+64+29,28+65+29,28+66+29,28+67+29,28+68+29,28+69+29",
  "1F119:=28+6A+29,28+6B+29,28+6C+29,28+6D+29,28+6E+29,28+6F+29,28+70+29,28+71+29,28+72+29",
  "1F122:=28+73+29,28+74+29,28+75+29,28+76+29,28+77+29,28+78+29,28+79+29,28+7A+29",
  "1F12A:=3014+73+3015,63,72,63+64,77+7A 1F12F:V 1F130:<1F0CF",
  "1F14A:=68+76,6D+76,73+64,73+73,70+70+76,77+63 1F150:V 1F16A:=6D+63,6D+64,6D+72 1F16D:V",
  "1F190:=64+6A 1F191:V 1F1AE:X 1F1E6:V 1F200:=307B+304B,30B3+30B3,30B5 1F203:X",
  "1F210:=624B,5B57,53CC,30C7,4E8C,591A,89E3,5929,4EA4,6620,7121,6599,524D,5F8C,518D,65B0",
  "1F220:=521D,7D42,751F,8CA9,58F0,5439,6F14,6295,6355,4E00,4E09,904A,5DE6,4E2D,53F3,6307",
  "1F230:=8D70,6253,7981,7A7A,5408,6E80,6709,6708,7533,5272,55B6,914D 1F23C:X",
  "1F240:=3014+672C+3015,3014+4E09+3015,3014+4E8C+3015,3014+5B89+3015,3014+70B9+3015",
  "1F245:=3014+6253+3015,3014+76D7+3015,3014+52DD+3015,3014+6557+3015 1F249:X 1F250:=5F97,53EF",
  "1F252:X 1F260:V 1F266:X 1F300:V 1F6D9:X 1F6DC:V 1F6ED:X 1F6F0:V 1F6FD:X 1F700:V 1F7DA:X 1F7E0:V",
  "1F7EC:X 1F7F0:V 1F7F1:X 1F800:V 1F80C:X 1F810:V 1F848:X 1F850:V 1F85A:X 1F860:V 1F888:X 1F890:V",
  "1F8AE:X 1F8B0:V 1F8BC:X 1F8C0:V 1F8C2:X 1F8D0:V 1F8D9:X 1F900:V 1FA58:X 1FA60:V 1FA6E:X 1FA70:V",
  "1FA7D:X 1FA80:V 1FA8B:X 1FA8E:V 1FAC7:X 1FAC8:V 1FAC9:X 1FACD:V 1FADD:X 1FADF:V 1FAEB:X 1FAEF:V",
  "1FAF9:X 1FB00:V 1FB93:X 1FB94:V 1FBF0:<1FBC0 1FBFA:V 1FBFB:X 20000:V 2A6E0:X 2A700:V 2B81E:X",
  "2B820:V 2CEAE:X 2CEB0:V 2EBE1:X 2EBF0:V 2EE5E:X",
  "2F800:=4E3D,4E38,4E41,20122,4F60,4FAE,4FBB,5002,507A,5099,50E7,50CF,349E,2063A,514D",
  "2F80F:=5154,5164,5177,2051C,34B9,5167,518D,2054B,5197,51A4,4ECC,51AC,51B5,291DF,51F5",
  "2F81E:=5203,34DF,523B,5246,5272,5277,3515,52C7,52C9,52E4,52FA,5305,5306,5317,5349,5351",
  "2F82E:=535A,5373,537D,537F,537F,537F,20A2C,7070,53CA,53DF,20B63,53EB,53F1,5406,549E",
  "2F83D:=5438,5448,5468,54A2,54F6,5510,5553,5563,5584,5584,5599,55AB,55B3,55C2,5716,5606",
  "2F84D:=5717,5651,5674,5207,58EE,57CE,57F4,580D,578B,5832,5831,58AC,214E4,58F2,58F7,5906",
  "2F85D:=591A,5922,5962,216A8,216EA,59EC,5A1B,5A27,59D8,5A66,36EE,36FC,5B08,5B3E,5B3E",
  "2F86C:=219C8,5BC3,5BD8,5BE7,5BF3,21B18,5BFF,5C06,5F53,5C22,3781,5C60,5C6E,5CC0,5C8D",
  "2F87B:=21DE4,5D43,21DE6,5D6E,5D6B,5D7C,5DE1,5DE2,382F,5DFD,5E28,5E3D,5E69,3862,22183",
  "2F88A:=387C,5EB0,5EB3,5EB6,5ECA,2A392,5EFE,22331,22331,8201,5F22,5F22,38C7,232B8,261DA",
  "2F899:=5F62,5F6B,38E3,5F9A,5FCD,5FD7,5FF9,6081,393A,391C,6094,226D4,60C7,6148,614C,614E",
  "2F8A9:=614C,617A,618E,61B2,61A4,61AF,61DE,61F2,61F6,6210,621B,625D,62B1,62D4,6350,22B0C",
  "2F8B9:=633D,62FC,6368,6383,63E4,22BF1,6422,63C5,63A9,3A2E,6469,647E,649D,6477,3A6C,654F",
  "2F8C9:=656C,2300A,65E3,66F8,6649,3B19,6691,3B08,3AE4,5192,5195,6700,669C,80AD,43D9,6717",
  "2F8D9:=671B,6721,675E,6753,233C3,3B49,67FA,6785,6852,6885,2346D,688E,681F,6914,3B9D",
  "2F8E8:=6942,69A3,69EA,6AA8,236A3,6ADB,3C18,6B21,238A7,6B54,3C4E,6B72,6B9F,6BBA,6BBB",
  "2F8F7:=23A8D,21D0B,23AFA,6C4E,23CBC,6CBF,6CCD,6C67,6D16,6D3E,6D77,6D41,6D69,6D78,6D85",
  "2F906:=23D1E,6D34,6E2F,6E6E,3D33,6ECB,6EC7,23ED1,6DF9,6F6E,23F5E,23F8E,6FC6,7039,701E",
  "2F915:=701B,3D96,704A,707D,7077,70AD,20525,7145,24263,719C,243AB,7228,7235,7250,24608",
  "2F924:=7280,7295,24735,24814,737A,738B,3EAC,73A5,3EB8,3EB8,7447,745C,7471,7485,74CA",
  "2F933:=3F1B,7524,24C36,753E,24C92,7570,2219F,7610,24FA1,24FB8,25044,3FFC,4008,76F4",
  "2F941:=250F3,250F2,25119,25133,771E,771F,771F,774A,4039,778B,4046,4096,2541D,784E,788C",
  "2F950:=78CC,40E3,25626,7956,2569A,256C5,798F,79EB,412F,7A40,7A4A,7A4F,2597C,25AA7,25AA7",
  "2F95F:=7AEE,4202,25BAB,7BC6,7BC9,4227,25C80,7CD2,42A0,7CE8,7CE3,7D00,25F86,7D63,4301",
  "2F96E:=7DC7,7E02,7E45,4334,26228,26247,4359,262D9,7F7A,2633E,7F95,7FFA,8005,264DA,26523",
  "2F97D:=8060,265A8,8070,2335F,43D5,80B2,8103,440B,813E,5AB5,267A7,267B5,23393,2339C,8201",
  "2F98C:=8204,8F9E,446B,8291,828B,829D,52B3,82B1,82B3,82BD,82E6,26B3C,82E5,831D,8363,83AD",
  "2F99C:=8323,83BD,83E7,8457,8353,83CA,83CC,83DC,26C36,26D6B,26CD5,452B,84F1,84F3,8516",
  "2F9AB:=273CA,8564,26F2C,455D,4561,26FB1,270D2,456B,8650,865C,8667,8669,86A9,8688,870E",
  "2F9BA:=86E2,8779,8728,876B,8786,45D7,87E1,8801,45F9,8860,8863,27667,88D7,88DE,4635,88FA",
  "2F9CA:=34BB,278AE,27966,46BE,46C7,8AA0,8AED,8B8A,8C55,27CA8,8CAB,8CC1,8D1B,8D77,27F2F",
  "2F9D9:=20804,8DCB,8DBC,8DF0,208DE,8ED4,8F38,285D2,285ED,9094,90F1,9111,2872E,911B,9238",
  "2F9E8:=92D7,92D8,927C,93F9,9415,28BFA,958B,4995,95B7,28D77,49E6,96C3,5DB2,9723,29145",
  "2F9F7:=2921A,4A6E,4A76,97E0,2940A,4AB2,29496,980B,980B,9829,295B6,98E2,4B33,9929,99A7",
  "2FA06:=99C2,99FE,4BCE,29B30,9B12,9C40,9CFD,4CCE,4CED,9D67,2A0CE,4CF8,2A105,2A20E,2A291",
  "2FA15:=9EBB,4D56,9EF9,9EFE,9F05,9F0F,9F16,9F3B,2A600 2FA1E:X 30000:V 3134B:X 31350:V 3347A:X",
  "E0100:=,,,,,,,,,,,,,,,,,,,,,,,,,,,,,,,,,,,,,,,,,,,,,,,,,,,,,,,,,,,,,,,,,,,,,,,,,,,,,,,,",
  "E0151:=,,,,,,,,,,,,,,,,,,,,,,,,,,,,,,,,,,,,,,,,,,,,,,,,,,,,,,,,,,,,,,,,,,,,,,,,,,,,,,,,",
  "E01A2:=,,,,,,,,,,,,,,,,,,,,,,,,,,,,,,,,,,,,,,,,,,,,,,,,,,,,,,,,,,,,,,,,,,,,,,,,,,,,, E01F0:X"]

def characterRuns : List (Run CharacterRule) := readRuns CharacterRule.read characterRules

/-- What a character becomes, if it is not refused. -/
def mapCharacter? (c : Char) : Option (List Char) := do
  let run ← runAt? characterRuns c.toNat
  run.holds.replacement? (c.toNat - run.start) c

/-- Whether a character stands for itself. -/
def isKept (c : Char) : Bool := mapCharacter? c == some [c]

end DeviceEnrollment.Url.Domain
