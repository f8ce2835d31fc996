import ContentFilter.Unicode.Table

/-!
# Canonical composition

One and the same letter can be written as a single character or as a base
and its marks. The composed normal form picks the single character
wherever there is one. It is reached in three steps: every character is
split into its base and marks (`decompose`), runs of marks are put in the
order of their combining classes (`reorder`), and then, from left to
right, each character joins the base before it if the two compose and
nothing between them stands in the way (`compose`).

The syllables of Hangul compose by arithmetic; all other pairs are in
`compositions`, a table per second character.
-/

namespace ContentFilter.Unicode

/-- The characters whose combining class is not zero. -/
def combiningClasses : List (Range × Nat) :=
  numbered "0300-0314=E6 0315=E8 0316-0319=DC 031A=E8 031B=D8 031C-0320=DC 0321-0322=CA
    0323-0326=DC 0327-0328=CA 0329-0333=DC 0334-0338=1 0339-033C=DC 033D-0344=E6 0345=F0 0346=E6
    0347-0349=DC 034A-034C=E6 034D-034E=DC 0350-0352=E6 0353-0356=DC 0357=E6 0358=E8 0359-035A=DC
    035B=E6 035C=E9 035D-035E=EA 035F=E9 0360-0361=EA 0362=E9 0363-036F=E6 0483-0487=E6 0591=DC
    0592-0595=E6 0596=DC 0597-0599=E6 059A=DE 059B=DC 059C-05A1=E6 05A2-05A7=DC 05A8-05A9=E6
    05AA=DC 05AB-05AC=E6 05AD=DE 05AE=E4 05AF=E6 05B0=A 05B1=B 05B2=C 05B3=D 05B4=E 05B5=F 05B6=10
    05B7=11 05B8=12 05B9-05BA=13 05BB=14 05BC=15 05BD=16 05BF=17 05C1=18 05C2=19 05C4=E6 05C5=DC
    05C7=12 0610-0617=E6 0618=1E 0619=1F 061A=20 064B=1B 064C=1C 064D=1D 064E=1E 064F=1F 0650=20
    0651=21 0652=22 0653-0654=E6 0655-0656=DC 0657-065B=E6 065C=DC 065D-065E=E6 065F=DC 0670=23
    06D6-06DC=E6 06DF-06E2=E6 06E3=DC 06E4=E6 06E7-06E8=E6 06EA=DC 06EB-06EC=E6 06ED=DC 0711=24
    0730=E6 0731=DC 0732-0733=E6 0734=DC 0735-0736=E6 0737-0739=DC 073A=E6 073B-073C=DC 073D=E6
    073E=DC 073F-0741=E6 0742=DC 0743=E6 0744=DC 0745=E6 0746=DC 0747=E6 0748=DC 0749-074A=E6
    07EB-07F1=E6 07F2=DC 07F3=E6 07FD=DC 0816-0819=E6 081B-0823=E6 0825-0827=E6 0829-082D=E6
    0859-085B=DC 0897-0898=E6 0899-089B=DC 089C-089F=E6 08CA-08CE=E6 08CF-08D3=DC 08D4-08E1=E6
    08E3=DC 08E4-08E5=E6 08E6=DC 08E7-08E8=E6 08E9=DC 08EA-08EC=E6 08ED-08EF=DC 08F0=1B 08F1=1C
    08F2=1D 08F3-08F5=E6 08F6=DC 08F7-08F8=E6 08F9-08FA=DC 08FB-08FF=E6 093C=7 094D=9 0951=E6
    0952=DC 0953-0954=E6 09BC=7 09CD=9 09FE=E6 0A3C=7 0A4D=9 0ABC=7 0ACD=9 0B3C=7 0B4D=9 0BCD=9
    0C3C=7 0C4D=9 0C55=54 0C56=5B 0CBC=7 0CCD=9 0D3B-0D3C=9 0D4D=9 0DCA=9 0E38-0E39=67 0E3A=9
    0E48-0E4B=6B 0EB8-0EB9=76 0EBA=9 0EC8-0ECB=7A 0F18-0F19=DC 0F35=DC 0F37=DC 0F39=D8 0F71=81
    0F72=82 0F74=84 0F7A-0F7D=82 0F80=82 0F82-0F83=E6 0F84=9 0F86-0F87=E6 0FC6=DC 1037=7
    1039-103A=9 108D=DC 135D-135F=E6 1714-1715=9 1734=9 17D2=9 17DD=E6 18A9=E4 1939=DE 193A=E6
    193B=DC 1A17=E6 1A18=DC 1A60=9 1A75-1A7C=E6 1A7F=DC 1AB0-1AB4=E6 1AB5-1ABA=DC 1ABB-1ABC=E6
    1ABD=DC 1ABF-1AC0=DC 1AC1-1AC2=E6 1AC3-1AC4=DC 1AC5-1AC9=E6 1ACA=DC 1ACB-1ADC=E6 1ADD=DC
    1AE0-1AE5=E6 1AE6=DC 1AE7-1AEA=E6 1AEB=EA 1B34=7 1B44=9 1B6B=E6 1B6C=DC 1B6D-1B73=E6
    1BAA-1BAB=9 1BE6=7 1BF2-1BF3=9 1C37=7 1CD0-1CD2=E6 1CD4=1 1CD5-1CD9=DC 1CDA-1CDB=E6
    1CDC-1CDF=DC 1CE0=E6 1CE2-1CE8=1 1CED=DC 1CF4=E6 1CF8-1CF9=E6 1DC0-1DC1=E6 1DC2=DC
    1DC3-1DC9=E6 1DCA=DC 1DCB-1DCC=E6 1DCD=EA 1DCE=D6 1DCF=DC 1DD0=CA 1DD1-1DF5=E6 1DF6=E8
    1DF7-1DF8=E4 1DF9=DC 1DFA=DA 1DFB=E6 1DFC=E9 1DFD=DC 1DFE=E6 1DFF=DC 20D0-20D1=E6 20D2-20D3=1
    20D4-20D7=E6 20D8-20DA=1 20DB-20DC=E6 20E1=E6 20E5-20E6=1 20E7=E6 20E8=DC 20E9=E6 20EA-20EB=1
    20EC-20EF=DC 20F0=E6 2CEF-2CF1=E6 2D7F=9 2DE0-2DFF=E6 302A=DA 302B=E4 302C=E8 302D=DE
    302E-302F=E0 3099-309A=8 A66F=E6 A674-A67D=E6 A69E-A69F=E6 A6F0-A6F1=E6 A806=9 A82C=9 A8C4=9
    A8E0-A8F1=E6 A92B-A92D=DC A953=9 A9B3=7 A9C0=9 AAB0=E6 AAB2-AAB3=E6 AAB4=DC AAB7-AAB8=E6
    AABE-AABF=E6 AAC1=E6 AAF6=9 ABED=9 FB1E=1A FE20-FE26=E6 FE27-FE2D=DC FE2E-FE2F=E6 101FD=DC
    102E0=DC 10376-1037A=E6 10A0D=DC 10A0F=E6 10A38=E6 10A39=1 10A3A=DC 10A3F=9 10AE5=E6 10AE6=DC
    10D24-10D27=E6 10D69-10D6D=E6 10EAB-10EAC=E6 10EFA-10EFB=DC 10EFD-10EFF=DC 10F46-10F47=DC
    10F48-10F4A=E6 10F4B=DC 10F4C=E6 10F4D-10F50=DC 10F82=E6 10F83=DC 10F84=E6 10F85=DC 11046=9
    11070=9 1107F=9 110B9=9 110BA=7 11100-11102=E6 11133-11134=9 11173=7 111C0=9 111CA=7 11235=9
    11236=7 112E9=7 112EA=9 1133B-1133C=7 1134D=9 11366-1136C=E6 11370-11374=E6 113CE-113D0=9
    11442=9 11446=7 1145E=E6 114C2=9 114C3=7 115BF=9 115C0=7 1163F=9 116B6=9 116B7=7 1172B=9
    11839=9 1183A=7 1193D-1193E=9 11943=7 119E0=9 11A34=9 11A47=9 11A99=9 11C3F=9 11D42=7
    11D44-11D45=9 11D97=9 11F41-11F42=9 1612F=9 16AF0-16AF4=1 16B30-16B36=E6 16FF0-16FF1=6 1BC9E=1
    1D165-1D166=D8 1D167-1D169=1 1D16D=E2 1D16E-1D172=D8 1D17B-1D182=DC 1D185-1D189=E6
    1D18A-1D18B=DC 1D1AA-1D1AD=E6 1D242-1D244=E6 1E000-1E006=E6 1E008-1E018=E6 1E01B-1E021=E6
    1E023-1E024=E6 1E026-1E02A=E6 1E08F=E6 1E130-1E136=E6 1E2AE=E6 1E2EC-1E2EF=E6 1E4EC-1E4ED=E8
    1E4EE=DC 1E4EF=E6 1E5EE=E6 1E5EF=DC 1E6E3=E6 1E6E6=E6 1E6EE-1E6EF=E6 1E6F5=E6 1E8D0-1E8D6=DC
    1E944-1E949=E6 1E94A=7"

/-- **The combining class of a character**: zero for bases. -/
def combiningClass (c : Char) : Nat :=
  if c.toNat < 0x300 then 0 else number combiningClasses c

/-- The pairs that compose: for each second character, the first ones and
what each composes to. -/
def compositions : List (Nat × List Run) :=
  [(0x0300, runs "0041=00C0 0045=00C8 0049=00CC 004E=01F8 004F=00D2 0055=00D9 0057=1E80
    0059=1EF2 0061=00E0 0065=00E8 0069=00EC 006E=01F9 006F=00F2 0075=00F9 0077=1E81 0079=1EF3
    00A8=1FED 00C2=1EA6 00CA=1EC0 00D4=1ED2 00DC=01DB 00E2=1EA7 00EA=1EC1 00F4=1ED3 00FC=01DC
    0102-0103=1EB0 0112-0113=1E14 014C-014D=1E50 01A0-01A1=1EDC 01AF-01B0=1EEA 0391=1FBA
    0395-0397/2=1FC8 0399=1FDA 039F=1FF8 03A5=1FEA 03A9=1FFA 03B1=1F70 03B5-03B9/2=1F72 03BF=1F78
    03C5=1F7A 03C9=1F7C 03CA=1FD2 03CB=1FE2 0415=0400 0418=040D 0435=0450 0438=045D 1F00-1F01=1F02
    1F08-1F09=1F0A 1F10-1F11=1F12 1F18-1F19=1F1A 1F20-1F21=1F22 1F28-1F29=1F2A 1F30-1F31=1F32
    1F38-1F39=1F3A 1F40-1F41=1F42 1F48-1F49=1F4A 1F50-1F51=1F52 1F59=1F5B 1F60-1F61=1F62
    1F68-1F69=1F6A 1FBF=1FCD 1FFE=1FDD"),
    (0x0301, runs "0041=00C1 0043=0106 0045=00C9 0047=01F4 0049=00CD 004B=1E30 004C=0139
    004D=1E3E 004E=0143 004F=00D3 0050=1E54 0052=0154 0053=015A 0055=00DA 0057=1E82 0059=00DD
    005A=0179 0061=00E1 0063=0107 0065=00E9 0067=01F5 0069=00ED 006B=1E31 006C=013A 006D=1E3F
    006E=0144 006F=00F3 0070=1E55 0072=0155 0073=015B 0075=00FA 0077=1E83 0079=00FD 007A=017A
    00A8=0385 00C2=1EA4 00C5=01FA 00C6=01FC 00C7=1E08 00CA=1EBE 00CF=1E2E 00D4=1ED0 00D5=1E4C
    00D8=01FE 00DC=01D7 00E2=1EA5 00E5=01FB 00E6=01FD 00E7=1E09 00EA=1EBF 00EF=1E2F 00F4=1ED1
    00F5=1E4D 00F8=01FF 00FC=01D8 0102-0103=1EAE 0112-0113=1E16 014C-014D=1E52 0168-0169=1E78
    01A0-01A1=1EDA 01AF-01B0=1EE8 0391=0386 0395=0388 0397=0389 0399=038A 039F=038C 03A5=038E
    03A9=038F 03B1=03AC 03B5=03AD 03B7=03AE 03B9=03AF 03BF=03CC 03C5=03CD 03C9=03CE 03CA=0390
    03CB=03B0 03D2=03D3 0413=0403 041A=040C 0433=0453 043A=045C 1F00-1F01=1F04 1F08-1F09=1F0C
    1F10-1F11=1F14 1F18-1F19=1F1C 1F20-1F21=1F24 1F28-1F29=1F2C 1F30-1F31=1F34 1F38-1F39=1F3C
    1F40-1F41=1F44 1F48-1F49=1F4C 1F50-1F51=1F54 1F59=1F5D 1F60-1F61=1F64 1F68-1F69=1F6C 1FBF=1FCE
    1FFE=1FDE"),
    (0x0302, runs "0041=00C2 0043=0108 0045=00CA 0047=011C 0048=0124 0049=00CE 004A=0134
    004F=00D4 0053=015C 0055=00DB 0057-0059/2=0174 005A=1E90 0061=00E2 0063=0109 0065=00EA
    0067=011D 0068=0125 0069=00EE 006A=0135 006F=00F4 0073=015D 0075=00FB 0077-0079/2=0175
    007A=1E91 1EA0-1EA1=1EAC 1EB8-1EB9=1EC6 1ECC-1ECD=1ED8"),
    (0x0303, runs "0041=00C3 0045=1EBC 0049=0128 004E=00D1 004F=00D5 0055=0168 0056=1E7C
    0059=1EF8 0061=00E3 0065=1EBD 0069=0129 006E=00F1 006F=00F5 0075=0169 0076=1E7D 0079=1EF9
    00C2=1EAA 00CA=1EC4 00D4=1ED6 00E2=1EAB 00EA=1EC5 00F4=1ED7 0102-0103=1EB4 01A0-01A1=1EE0
    01AF-01B0=1EEE"),
    (0x0304, runs "0041=0100 0045=0112 0047=1E20 0049=012A 004F=014C 0055=016A 0059=0232
    0061=0101 0065=0113 0067=1E21 0069=012B 006F=014D 0075=016B 0079=0233 00C4=01DE 00C6=01E2
    00D5=022C 00D6=022A 00DC=01D5 00E4=01DF 00E6=01E3 00F5=022D 00F6=022B 00FC=01D6 01EA-01EB=01EC
    0226-0227=01E0 022E-022F=0230 0391=1FB9 0399=1FD9 03A5=1FE9 03B1=1FB1 03B9=1FD1 03C5=1FE1
    0418=04E2 0423=04EE 0438=04E3 0443=04EF 1E36-1E37=1E38 1E5A-1E5B=1E5C"),
    (0x0306, runs "0041=0102 0045=0114 0047=011E 0049=012C 004F=014E 0055=016C 0061=0103
    0065=0115 0067=011F 0069=012D 006F=014F 0075=016D 0228-0229=1E1C 0391=1FB8 0399=1FD8 03A5=1FE8
    03B1=1FB0 03B9=1FD0 03C5=1FE0 0410=04D0 0415=04D6 0416=04C1 0418=0419 0423=040E 0430=04D1
    0435=04D7 0436=04C2 0438=0439 0443=045E 1EA0-1EA1=1EB6"),
    (0x0307, runs "0041=0226 0042=1E02 0043=010A 0044=1E0A 0045=0116 0046=1E1E 0047=0120
    0048=1E22 0049=0130 004D=1E40 004E=1E44 004F=022E 0050-0052/2=1E56 0053=1E60 0054=1E6A
    0057=1E86 0058=1E8A 0059=1E8E 005A=017B 0061=0227 0062=1E03 0063=010B 0064=1E0B 0065=0117
    0066=1E1F 0067=0121 0068=1E23 006D=1E41 006E=1E45 006F=022F 0070-0072/2=1E57 0073=1E61
    0074=1E6B 0077=1E87 0078=1E8B 0079=1E8F 007A=017C 015A-015B=1E64 0160-0161=1E66 017F=1E9B
    1E62-1E63=1E68 105D2=105C9 105DA=105E4"),
    (0x0308, runs "0041=00C4 0045=00CB 0048=1E26 0049=00CF 004F=00D6 0055=00DC 0057=1E84
    0058=1E8C 0059=0178 0061=00E4 0065=00EB 0068=1E27 0069=00EF 006F=00F6 0074=1E97 0075=00FC
    0077=1E85 0078=1E8D 0079=00FF 00D5=1E4E 00F5=1E4F 016A-016B=1E7A 0399=03AA 03A5=03AB 03B9=03CA
    03C5=03CB 03D2=03D4 0406=0407 0410=04D2 0415=0401 0416=04DC 0417=04DE 0418=04E4 041E=04E6
    0423=04F0 0427=04F4 042B=04F8 042D=04EC 0430=04D3 0435=0451 0436=04DD 0437=04DF 0438=04E5
    043E=04E7 0443=04F1 0447=04F5 044B=04F9 044D=04ED 0456=0457 04D8-04D9=04DA 04E8-04E9=04EA"),
    (0x0309, runs "0041=1EA2 0045=1EBA 0049=1EC8 004F=1ECE 0055=1EE6 0059=1EF6 0061=1EA3
    0065=1EBB 0069=1EC9 006F=1ECF 0075=1EE7 0079=1EF7 00C2=1EA8 00CA=1EC2 00D4=1ED4 00E2=1EA9
    00EA=1EC3 00F4=1ED5 0102-0103=1EB2 01A0-01A1=1EDE 01AF-01B0=1EEC"),
    (0x030A, runs "0041=00C5 0055=016E 0061=00E5 0075=016F 0077=1E98 0079=1E99"),
    (0x030B, runs "004F=0150 0055=0170 006F=0151 0075=0171 0423=04F2 0443=04F3"),
    (0x030C, runs "0041=01CD 0043=010C 0044=010E 0045=011A 0047=01E6 0048=021E 0049=01CF
    004B=01E8 004C=013D 004E=0147 004F=01D1 0052=0158 0053=0160 0054=0164 0055=01D3 005A=017D
    0061=01CE 0063=010D 0064=010F 0065=011B 0067=01E7 0068=021F 0069=01D0 006A=01F0 006B=01E9
    006C=013E 006E=0148 006F=01D2 0072=0159 0073=0161 0074=0165 0075=01D4 007A=017E 00DC=01D9
    00FC=01DA 01B7=01EE 0292=01EF"),
    (0x030F, runs "0041=0200 0045=0204 0049=0208 004F=020C 0052=0210 0055=0214 0061=0201
    0065=0205 0069=0209 006F=020D 0072=0211 0075=0215 0474-0475=0476"),
    (0x0311, runs "0041=0202 0045=0206 0049=020A 004F=020E 0052=0212 0055=0216 0061=0203
    0065=0207 0069=020B 006F=020F 0072=0213 0075=0217"),
    (0x0313, runs "0391=1F08 0395=1F18 0397=1F28 0399=1F38 039F=1F48 03A9=1F68 03B1=1F00
    03B5=1F10 03B7=1F20 03B9=1F30 03BF=1F40 03C1=1FE4 03C5=1F50 03C9=1F60"),
    (0x0314, runs "0391=1F09 0395=1F19 0397=1F29 0399=1F39 039F=1F49 03A1=1FEC 03A5=1F59
    03A9=1F69 03B1=1F01 03B5=1F11 03B7=1F21 03B9=1F31 03BF=1F41 03C1=1FE5 03C5=1F51 03C9=1F61"),
    (0x031B, runs "004F=01A0 0055=01AF 006F=01A1 0075=01B0"),
    (0x0323, runs "0041=1EA0 0042=1E04 0044=1E0C 0045=1EB8 0048=1E24 0049=1ECA 004B=1E32
    004C=1E36 004D=1E42 004E=1E46 004F=1ECC 0052=1E5A 0053=1E62 0054=1E6C 0055=1EE4 0056=1E7E
    0057=1E88 0059=1EF4 005A=1E92 0061=1EA1 0062=1E05 0064=1E0D 0065=1EB9 0068=1E25 0069=1ECB
    006B=1E33 006C=1E37 006D=1E43 006E=1E47 006F=1ECD 0072=1E5B 0073=1E63 0074=1E6D 0075=1EE5
    0076=1E7F 0077=1E89 0079=1EF5 007A=1E93 01A0-01A1=1EE2 01AF-01B0=1EF0"),
    (0x0324, runs "0055=1E72 0075=1E73"),
    (0x0325, runs "0041=1E00 0061=1E01"),
    (0x0326, runs "0053=0218 0054=021A 0073=0219 0074=021B"),
    (0x0327, runs "0043=00C7 0044=1E10 0045=0228 0047=0122 0048=1E28 004B=0136 004C=013B
    004E=0145 0052=0156 0053=015E 0054=0162 0063=00E7 0064=1E11 0065=0229 0067=0123 0068=1E29
    006B=0137 006C=013C 006E=0146 0072=0157 0073=015F 0074=0163"),
    (0x0328, runs "0041=0104 0045=0118 0049=012E 004F=01EA 0055=0172 0061=0105 0065=0119
    0069=012F 006F=01EB 0075=0173"),
    (0x032D, runs "0044=1E12 0045=1E18 004C=1E3C 004E=1E4A 0054=1E70 0055=1E76 0064=1E13
    0065=1E19 006C=1E3D 006E=1E4B 0074=1E71 0075=1E77"),
    (0x032E, runs "0048=1E2A 0068=1E2B"),
    (0x0330, runs "0045=1E1A 0049=1E2C 0055=1E74 0065=1E1B 0069=1E2D 0075=1E75"),
    (0x0331, runs "0042=1E06 0044=1E0E 004B=1E34 004C=1E3A 004E=1E48 0052=1E5E 0054=1E6E
    005A=1E94 0062=1E07 0064=1E0F 0068=1E96 006B=1E35 006C=1E3B 006E=1E49 0072=1E5F 0074=1E6F
    007A=1E95"),
    (0x0338, runs "003C=226E 003D=2260 003E=226F 2190=219A 2192=219B 2194=21AE 21D0-21D2/2=21CD
    21D4=21CE 2203=2204 2208=2209 220B=220C 2223-2225/2=2224 223C=2241 2243=2244 2245=2247
    2248=2249 224D=226D 2261=2262 2264-2265=2270 2272-2273=2274 2276-2277=2278 227A-227B=2280
    227C-227D=22E0 2282-2283=2284 2286-2287=2288 2291-2292=22E2 22A2=22AC 22A8-22A9=22AD 22AB=22AF
    22B2-22B5=22EA"),
    (0x0342, runs "00A8=1FC1 03B1=1FB6 03B7=1FC6 03B9=1FD6 03C5=1FE6 03C9=1FF6 03CA=1FD7
    03CB=1FE7 1F00-1F01=1F06 1F08-1F09=1F0E 1F20-1F21=1F26 1F28-1F29=1F2E 1F30-1F31=1F36
    1F38-1F39=1F3E 1F50-1F51=1F56 1F59=1F5F 1F60-1F61=1F66 1F68-1F69=1F6E 1FBF=1FCF 1FFE=1FDF"),
    (0x0345, runs "0391=1FBC 0397=1FCC 03A9=1FFC 03AC=1FB4 03AE=1FC4 03B1=1FB3 03B7=1FC3
    03C9=1FF3 03CE=1FF4 1F00-1F0F=1F80 1F20-1F2F=1F90 1F60-1F6F=1FA0 1F70=1FB2 1F74=1FC2 1F7C=1FF2
    1FB6=1FB7 1FC6=1FC7 1FF6=1FF7"),
    (0x0653, runs "0627=0622"),
    (0x0654, runs "0627=0623 0648-064A/2=0624 06C1=06C2 06D2=06D3 06D5=06C0"),
    (0x0655, runs "0627=0625"),
    (0x093C, runs "0928=0929 0930=0931 0933=0934"),
    (0x09BE, runs "09C7=09CB"),
    (0x09D7, runs "09C7=09CC"),
    (0x0B3E, runs "0B47=0B4B"),
    (0x0B56, runs "0B47=0B48"),
    (0x0B57, runs "0B47=0B4C"),
    (0x0BBE, runs "0BC6-0BC7=0BCA"),
    (0x0BD7, runs "0B92=0B94 0BC6=0BCC"),
    (0x0C56, runs "0C46=0C48"),
    (0x0CC2, runs "0CC6=0CCA"),
    (0x0CD5, runs "0CBF=0CC0 0CC6=0CC7 0CCA=0CCB"),
    (0x0CD6, runs "0CC6=0CC8"),
    (0x0D3E, runs "0D46-0D47=0D4A"),
    (0x0D57, runs "0D46=0D4C"),
    (0x0DCA, runs "0DD9=0DDA 0DDC=0DDD"),
    (0x0DCF, runs "0DD9=0DDC"),
    (0x0DDF, runs "0DD9=0DDE"),
    (0x102E, runs "1025=1026"),
    (0x1B35, runs "1B05-1B0D/2=1B06 1B11=1B12 1B3A-1B3C/2=1B3B 1B3E-1B3F=1B40 1B42=1B43"),
    (0x3099, runs "3046=3094 304B-3061/2=304C 3064-3068/2=3065 306F=3070 3072=3073 3075=3076
    3078=3079 307B=307C 309D=309E 30A6=30F4 30AB-30C1/2=30AC 30C4-30C8/2=30C5 30CF=30D0 30D2=30D3
    30D5=30D6 30D8=30D9 30DB=30DC 30EF-30F2=30F7 30FD=30FE"),
    (0x309A, runs "306F=3071 3072=3074 3075=3077 3078=307A 307B=307D 30CF=30D1 30D2=30D4
    30D5=30D7 30D8=30DA 30DB=30DD"),
    (0x110BA, runs "11099-1109B/2=1109A 110A5=110AB"),
    (0x11127, runs "11131-11132=1112E"),
    (0x1133E, runs "11347=1134B"),
    (0x11357, runs "11347=1134C"),
    (0x113B8, runs "113C2=113C7"),
    (0x113BB, runs "11384=11385"),
    (0x113C2, runs "1138B=1138E 113C2=113C5"),
    (0x113C9, runs "11382=11383 11390=11391 113C2=113C8"),
    (0x114B0, runs "114B9=114BC"),
    (0x114BA, runs "114B9=114BB"),
    (0x114BD, runs "114B9=114BE"),
    (0x115AF, runs "115B8-115B9=115BA"),
    (0x11930, runs "11935=11938"),
    (0x1611E, runs "1611E=16121"),
    (0x1611F, runs "1611E=16123 16121-16122=16126 16129=16124"),
    (0x16120, runs "1611E=16125 16121=16128"),
    (0x16129, runs "1611E=16122"),
    (0x16D67, runs "16D63=16D69 16D67-16D69/2=16D68")]

/-! ## Pairs -/

/-- **The syllable of Hangul** that two parts compose to. -/
def composeHangul? (a b : Nat) : Option Nat :=
  if 0x1100 ≤ a && a < 0x1113 && 0x1161 ≤ b && b < 0x1176 then
    some (0xAC00 + ((a - 0x1100) * 21 + (b - 0x1161)) * 28)
  else if 0xAC00 ≤ a && a < 0xD7A4 && (a - 0xAC00) % 28 == 0 && 0x11A8 ≤ b && b < 0x11C3 then
    some (a + (b - 0x11A7))
  else none

/-- **What two characters compose to.** -/
def composePair? (a b : Char) : Option Char :=
  match composeHangul? a.toNat b.toNat with
  | some n => some (Char.ofNat n)
  | none => (compositions.lookup b.toNat).bind fun rs => image? rs a

/-- **The parts of a syllable of Hangul.** -/
def decomposeHangul (n : Nat) : List Nat :=
  let index := n - 0xAC00
  let tail := if index % 28 = 0 then [] else [0x11A7 + index % 28]
  [0x1100 + index / 588, 0x1161 + index % 588 / 28] ++ tail

/-- The character of a run that has the given image. -/
def Run.source? (r : Run) (c : Char) : Option Char :=
  let offset := c.toNat - r.image
  if r.image ≤ c.toNat && offset % r.step == 0 && r.range.first + offset ≤ r.range.last then
    some (Char.ofNat (r.range.first + offset))
  else none

/-- **The two characters that compose to a third.** -/
def decomposePair? (c : Char) : Option (Char × Char) :=
  compositions.findSome? fun (mark, rs) =>
    (rs.findSome? (·.source? c)).map fun base => (base, Char.ofNat mark)

/-- The base and the marks of a character, at most `depth` of them, split off by
a function that tells the last mark. -/
def splitMarks (pair? : Char → Option (Char × Char)) : (depth : Nat) → Char → Text
  | 0, c => [c]
  | depth + 1, c =>
    match pair? c with
    | some (base, mark) => splitMarks pair? depth base ++ [mark]
    | none => [c]

/-- **The parts of a character.** No character stacks more than three
marks on its base. -/
def decompose (c : Char) : Text :=
  if c.toNat < 0xC0 then [c]
  else if 0xAC00 ≤ c.toNat && c.toNat < 0xD7A4 then (decomposeHangul c.toNat).map Char.ofNat
  else splitMarks decomposePair? 4 c

/-! ## Order of marks -/

/-- Put a character before the marks of a higher class. -/
def insertMark (c : Char) : Text → Text
  | [] => [c]
  | d :: t =>
    if combiningClass d ≠ 0 && combiningClass d < combiningClass c then d :: insertMark c t
    else c :: d :: t

/-- **Marks in the order of their classes**; marks of one class keep their
order, and no mark passes a base. -/
def reorder : Text → Text
  | [] => []
  | c :: t => if combiningClass c = 0 then c :: reorder t else insertMark c (reorder t)

/-! ## Composition -/

/-- **Composition being under way**: the base, and the marks that did not
join it in reverse. -/
structure Pending where
  /-- The base that later characters may join. -/
  base : Char
  /-- What stands between the base and the next character, in reverse. -/
  marks : Text

namespace Pending

/-- What is written for a base and its marks. -/
def toText (p : Pending) : Text :=
  p.base :: p.marks.reverse

/-- Whether a character is kept from the base by what stands between. -/
def blocks (p : Pending) (c : Char) : Bool :=
  match p.marks with
  | [] => false
  | m :: _ => combiningClass m = 0 || combiningClass c ≤ combiningClass m

end Pending

/-- Compose behind a base. -/
def composeFrom (p : Pending) : Text → Text
  | [] => p.toText
  | c :: t =>
    match if p.blocks c then none else composePair? p.base c with
    | some d => composeFrom { p with base := d } t
    | none =>
      if combiningClass c = 0 then p.toText ++ composeFrom ⟨c, []⟩ t
      else composeFrom { p with marks := c :: p.marks } t

/-- **Characters composed**, from the first base on. -/
def compose : Text → Text
  | [] => []
  | c :: t => if combiningClass c = 0 then composeFrom ⟨c, []⟩ t else c :: compose t

/-- **The composed normal form.** -/
def composed (t : Text) : Text :=
  compose (reorder (t.flatMap decompose))

end ContentFilter.Unicode
