import MarkupHarden.Text.CodePointTable

/-!
# Writing direction

Every character belongs to a class that says which way it is written.  Letters
run to the right or to the left; numbers, marks, signs and blanks take part in
the text around them.
-/

namespace MarkupHarden.Text

inductive Direction where
  | rightward
  | leftward
  | europeanNumber
  | arabicNumber
  | mark
  | sign
  deriving Repr, DecidableEq, Inhabited

/-- The ranges that do not run to the right: `=r` for letters that run to the
left, `=e` and `=a` for European and Arabic numbers, `=m` for marks and `=n`
for signs and blanks. -/
def directionRows : List String :=
  [
    "0-2F=n 30-39=e 3A-40=n 5B-60=n 7B-A9=n AB-B1=n B2-B3=e B4=n B6-B8=n B9=e",
    "BB-BF=n D7=n F7=n 2B9-2BA=n 2C2-2CF=n 2D2-2DF=n 2E5-2ED=n 2EF-2FF=n",
    "300-36F=m 374-375=n 37E=n 384-385=n 387=n 3F6=n 483-489=m 58A=n 58D-58F=n",
    "590=r 591-5BD=m 5BE=r 5BF=m 5C0=r 5C1-5C2=m 5C3=r 5C4-5C5=m 5C6=r 5C7=m",
    "5C8-5FF=r 600-605=a 606-607=n 608=r 609-60A=n 60B=r 60C=n 60D=r 60E-60F=n",
    "610-61A=m 61B-64A=r 64B-65F=m 660-669=a 66A=n 66B-66C=a 66D-66F=r 670=m",
    "671-6D5=r 6D6-6DC=m 6DD=a 6DE=n 6DF-6E4=m 6E5-6E6=r 6E7-6E8=m 6E9=n",
    "6EA-6ED=m 6EE-6EF=r 6F0-6F9=e 6FA-710=r 711=m 712-72F=r 730-74A=m",
    "74B-7A5=r 7A6-7B0=m 7B1-7EA=r 7EB-7F3=m 7F4-7F5=r 7F6-7F9=n 7FA-7FC=r",
    "7FD=m 7FE-815=r 816-819=m 81A=r 81B-823=m 824=r 825-827=m 828=r 829-82D=m",
    "82E-858=r 859-85B=m 85C-88F=r 890-891=a 892-896=r 897-89F=m 8A0-8C9=r",
    "8CA-8E1=m 8E2=a 8E3-902=m 93A=m 93C=m 941-948=m 94D=m 951-957=m 962-963=m",
    "981=m 9BC=m 9C1-9C4=m 9CD=m 9E2-9E3=m 9F2-9F3=n 9FB=n 9FE=m A01-A02=m",
    "A3C=m A41-A42=m A47-A48=m A4B-A4D=m A51=m A70-A71=m A75=m A81-A82=m ABC=m",
    "AC1-AC5=m AC7-AC8=m ACD=m AE2-AE3=m AF1=n AFA-AFF=m B01=m B3C=m B3F=m",
    "B41-B44=m B4D=m B55-B56=m B62-B63=m B82=m BC0=m BCD=m BF3-BFA=n C00=m",
    "C04=m C3C=m C3E-C40=m C46-C48=m C4A-C4D=m C55-C56=m C62-C63=m C78-C7E=n",
    "C81=m CBC=m CCC-CCD=m CE2-CE3=m D00-D01=m D3B-D3C=m D41-D44=m D4D=m",
    "D62-D63=m D81=m DCA=m DD2-DD4=m DD6=m E31=m E34-E3A=m E3F=n E47-E4E=m",
    "EB1=m EB4-EBC=m EC8-ECE=m F18-F19=m F35=m F37=m F39=m F3A-F3D=n F71-F7E=m",
    "F80-F84=m F86-F87=m F8D-F97=m F99-FBC=m FC6=m 102D-1030=m 1032-1037=m",
    "1039-103A=m 103D-103E=m 1058-1059=m 105E-1060=m 1071-1074=m 1082=m",
    "1085-1086=m 108D=m 109D=m 135D-135F=m 1390-1399=n 1400=n 1680=n",
    "169B-169C=n 1712-1714=m 1732-1733=m 1752-1753=m 1772-1773=m 17B4-17B5=m",
    "17B7-17BD=m 17C6=m 17C9-17D3=m 17DB=n 17DD=m 17F0-17F9=n 1800-180A=n",
    "180B-180D=m 180E=n 180F=m 1885-1886=m 18A9=m 1920-1922=m 1927-1928=m",
    "1932=m 1939-193B=m 1940=n 1944-1945=n 19DE-19FF=n 1A17-1A18=m 1A1B=m",
    "1A56=m 1A58-1A5E=m 1A60=m 1A62=m 1A65-1A6C=m 1A73-1A7C=m 1A7F=m",
    "1AB0-1ADD=m 1AE0-1AEB=m 1B00-1B03=m 1B34=m 1B36-1B3A=m 1B3C=m 1B42=m",
    "1B6B-1B73=m 1B80-1B81=m 1BA2-1BA5=m 1BA8-1BA9=m 1BAB-1BAD=m 1BE6=m",
    "1BE8-1BE9=m 1BED=m 1BEF-1BF1=m 1C2C-1C33=m 1C36-1C37=m 1CD0-1CD2=m",
    "1CD4-1CE0=m 1CE2-1CE8=m 1CED=m 1CF4=m 1CF8-1CF9=m 1DC0-1DFF=m 1FBD=n",
    "1FBF-1FC1=n 1FCD-1FCF=n 1FDD-1FDF=n 1FED-1FEF=n 1FFD-1FFE=n 2000-200D=n",
    "200F=r 2010-206F=n 2070=e 2074-2079=e 207A-207E=n 2080-2089=e 208A-208E=n",
    "20A0-20CF=n 20D0-20F0=m 2100-2101=n 2103-2106=n 2108-2109=n 2114=n",
    "2116-2118=n 211E-2123=n 2125=n 2127=n 2129=n 212E=n 213A-213B=n",
    "2140-2144=n 214A-214D=n 2150-215F=n 2189-218B=n 2190-2335=n 237B-2394=n",
    "2396-2429=n 2440-244A=n 2460-2487=n 2488-249B=e 24EA-26AB=n 26AD-27FF=n",
    "2900-2B73=n 2B76-2BFF=n 2CE5-2CEA=n 2CEF-2CF1=m 2CF9-2CFF=n 2D7F=m",
    "2DE0-2DFF=m 2E00-2E5D=n 2E80-2E99=n 2E9B-2EF3=n 2F00-2FD5=n 2FF0-3004=n",
    "3008-3020=n 302A-302D=m 3030=n 3036-3037=n 303D-303F=n 3099-309A=m",
    "309B-309C=n 30A0=n 30FB=n 31C0-31E5=n 31EF=n 321D-321E=n 3250-325F=n",
    "327C-327E=n 32B1-32BF=n 32CC-32CF=n 3377-337A=n 33DE-33DF=n 33FF=n",
    "4DC0-4DFF=n A490-A4C6=n A60D-A60F=n A66F-A672=m A673=n A674-A67D=m",
    "A67E-A67F=n A69E-A69F=m A6F0-A6F1=m A700-A721=n A788=n A802=m A806=m",
    "A80B=m A825-A826=m A828-A82B=n A82C=m A838-A839=n A874-A877=n A8C4-A8C5=m",
    "A8E0-A8F1=m A8FF=m A926-A92D=m A947-A951=m A980-A982=m A9B3=m A9B6-A9B9=m",
    "A9BC-A9BD=m A9E5=m AA29-AA2E=m AA31-AA32=m AA35-AA36=m AA43=m AA4C=m",
    "AA7C=m AAB0=m AAB2-AAB4=m AAB7-AAB8=m AABE-AABF=m AAC1=m AAEC-AAED=m",
    "AAF6=m AB6A-AB6B=n ABE5=m ABE8=m ABED=m FB1D=r FB1E=m FB1F-FB28=r FB29=n",
    "FB2A-FBC2=r FBC3-FBD2=n FBD3-FD3D=r FD3E-FD4F=n FD50-FD8F=r FD90-FD91=n",
    "FD92-FDC7=r FDC8-FDEF=n FDF0-FDFC=r FDFD-FDFF=n FE00-FE0F=m FE10-FE19=n",
    "FE20-FE2F=m FE30-FE52=n FE54-FE66=n FE68-FE6B=n FE70-FEFE=r FEFF=n",
    "FF01-FF0F=n FF10-FF19=e FF1A-FF20=n FF3B-FF40=n FF5B-FF65=n FFE0-FFE6=n",
    "FFE8-FFEE=n FFF0-FFFF=n 10101=n 10140-1018C=n 10190-1019C=n 101A0=n",
    "101FD=m 102E0=m 102E1-102FB=e 10376-1037A=m 10800-1091E=r 1091F=n",
    "10920-10A00=r 10A01-10A03=m 10A04=r 10A05-10A06=m 10A07-10A0B=r",
    "10A0C-10A0F=m 10A10-10A37=r 10A38-10A3A=m 10A3B-10A3E=r 10A3F=m",
    "10A40-10AE4=r 10AE5-10AE6=m 10AE7-10B38=r 10B39-10B3F=n 10B40-10D23=r",
    "10D24-10D27=m 10D28-10D2F=r 10D30-10D39=a 10D3A-10D3F=r 10D40-10D49=a",
    "10D4A-10D68=r 10D69-10D6D=m 10D6E=n 10D6F-10E5F=r 10E60-10E7E=a",
    "10E7F-10EAA=r 10EAB-10EAC=m 10EAD-10ECF=r 10ED0-10ED8=n 10ED9-10EF9=r",
    "10EFA-10EFF=m 10F00-10F45=r 10F46-10F50=m 10F51-10F81=r 10F82-10F85=m",
    "10F86-10FFF=r 11001=m 11038-11046=m 11052-11065=n 11070=m 11073-11074=m",
    "1107F-11081=m 110B3-110B6=m 110B9-110BA=m 110C2=m 11100-11102=m",
    "11127-1112B=m 1112D-11134=m 11173=m 11180-11181=m 111B6-111BE=m",
    "111C9-111CC=m 111CF=m 1122F-11231=m 11234=m 11236-11237=m 1123E=m 11241=m",
    "112DF=m 112E3-112EA=m 11300-11301=m 1133B-1133C=m 11340=m 11366-1136C=m",
    "11370-11374=m 113BB-113C0=m 113CE=m 113D0=m 113D2=m 113E1-113E2=m",
    "11438-1143F=m 11442-11444=m 11446=m 1145E=m 114B3-114B8=m 114BA=m",
    "114BF-114C0=m 114C2-114C3=m 115B2-115B5=m 115BC-115BD=m 115BF-115C0=m",
    "115DC-115DD=m 11633-1163A=m 1163D=m 1163F-11640=m 11660-1166C=n 116AB=m",
    "116AD=m 116B0-116B5=m 116B7=m 1171D=m 1171F=m 11722-11725=m 11727-1172B=m",
    "1182F-11837=m 11839-1183A=m 1193B-1193C=m 1193E=m 11943=m 119D4-119D7=m",
    "119DA-119DB=m 119E0=m 11A01-11A06=m 11A09-11A0A=m 11A33-11A38=m",
    "11A3B-11A3E=m 11A47=m 11A51-11A56=m 11A59-11A5B=m 11A8A-11A96=m",
    "11A98-11A99=m 11B60=m 11B62-11B64=m 11B66=m 11C30-11C36=m 11C38-11C3D=m",
    "11C92-11CA7=m 11CAA-11CB0=m 11CB2-11CB3=m 11CB5-11CB6=m 11D31-11D36=m",
    "11D3A=m 11D3C-11D3D=m 11D3F-11D45=m 11D47=m 11D90-11D91=m 11D95=m 11D97=m",
    "11EF3-11EF4=m 11F00-11F01=m 11F36-11F3A=m 11F40=m 11F42=m 11F5A=m",
    "11FD5-11FF1=n 13440=m 13447-13455=m 1611E-16129=m 1612D-1612F=m",
    "16AF0-16AF4=m 16B30-16B36=m 16F4F=m 16F8F-16F92=m 16FE2=n 16FE4=m",
    "1BC9D-1BC9E=m 1BCA0-1BCA3=n 1CC00-1CCD5=n 1CCF0-1CCF9=e 1CCFA-1CCFC=n",
    "1CD00-1CEB3=n 1CEBA-1CED0=n 1CEE0-1CEF0=n 1CF00-1CF2D=m 1CF30-1CF46=m",
    "1D167-1D169=m 1D173-1D17A=n 1D17B-1D182=m 1D185-1D18B=m 1D1AA-1D1AD=m",
    "1D1E9-1D1EA=n 1D200-1D241=n 1D242-1D244=m 1D245=n 1D300-1D356=n 1D6C1=n",
    "1D6DB=n 1D6FB=n 1D715=n 1D735=n 1D74F=n 1D76F=n 1D789=n 1D7A9=n 1D7C3=n",
    "1D7CE-1D7FF=e 1DA00-1DA36=m 1DA3B-1DA6C=m 1DA75=m 1DA84=m 1DA9B-1DA9F=m",
    "1DAA1-1DAAF=m 1E000-1E006=m 1E008-1E018=m 1E01B-1E021=m 1E023-1E024=m",
    "1E026-1E02A=m 1E08F=m 1E130-1E136=m 1E2AE=m 1E2EC-1E2EF=m 1E2FF=n",
    "1E4EC-1E4EF=m 1E5EE-1E5EF=m 1E6E3=m 1E6E6=m 1E6EE-1E6EF=m 1E6F5=m",
    "1E800-1E8CF=r 1E8D0-1E8D6=m 1E8D7-1E943=r 1E944-1E94A=m 1E94B-1EEEF=r",
    "1EEF0-1EEF1=n 1EEF2-1EFFF=r 1F000-1F02B=n 1F030-1F093=n 1F0A0-1F0AE=n",
    "1F0B1-1F0BF=n 1F0C1-1F0CF=n 1F0D1-1F0F5=n 1F100-1F10A=e 1F10B-1F10F=n",
    "1F12F=n 1F16A-1F16F=n 1F1AD=n 1F260-1F265=n 1F300-1F6D8=n 1F6DC-1F6EC=n",
    "1F6F0-1F6FC=n 1F700-1F7D9=n 1F7E0-1F7EB=n 1F7F0=n 1F800-1F80B=n",
    "1F810-1F847=n 1F850-1F859=n 1F860-1F887=n 1F890-1F8AD=n 1F8B0-1F8BB=n",
    "1F8C0-1F8C1=n 1F8D0-1F8D8=n 1F900-1FA57=n 1FA60-1FA6D=n 1FA70-1FA7C=n",
    "1FA80-1FA8A=n 1FA8E-1FAC6=n 1FAC8=n 1FACD-1FADC=n 1FADF-1FAEA=n",
    "1FAEF-1FAF8=n 1FB00-1FB92=n 1FB94-1FBEF=n 1FBF0-1FBF9=e 1FBFA=n",
    "1FFFE-1FFFF=n 2FFFE-2FFFF=n 3FFFE-3FFFF=n 4FFFE-4FFFF=n 5FFFE-5FFFF=n",
    "6FFFE-6FFFF=n 7FFFE-7FFFF=n 8FFFE-8FFFF=n 9FFFE-9FFFF=n AFFFE-AFFFF=n",
    "BFFFE-BFFFF=n CFFFE-CFFFF=n DFFFE-E00FF=n E0100-E01EF=m E01F0-E0FFF=n",
    "EFFFE-EFFFF=n FFFFE-FFFFF=n 10FFFE-10FFFF=n"
  ]

def directionTable : Array TableEntry :=
  readTable directionRows

/-- The direction of a character; those without an entry run to the right. -/
def direction (c : Char) : Direction :=
  match (lookUp? directionTable c.toNat).map TableEntry.note with
  | some ['=', 'r'] => .leftward
  | some ['=', 'e'] => .europeanNumber
  | some ['=', 'a'] => .arabicNumber
  | some ['=', 'm'] => .mark
  | some ['=', 'n'] => .sign
  | _ => .rightward

end MarkupHarden.Text
