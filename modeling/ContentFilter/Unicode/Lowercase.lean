import ContentFilter.Unicode.Mark

/-!
# Lower case

The full lower-case mapping of Unicode. It takes characters one by one,
with two peculiarities:

* the capital `İ` has two characters as its lower case, `i` and a dot
  above;
* a capital sigma at the end of a word becomes `ς`, any other one `σ`. It
  is at the end of a word if, passing over what is ignored in questions of
  case (`isCaseIgnorable`), there is a cased letter before it and none
  behind it. A full stop is among what is passed over.

On ASCII texts this is the lower case of the ASCII letters
(`lowercase_eq_lower`).
-/

namespace ContentFilter.Unicode

/-- The letters beyond ASCII with one character as their lower case. -/
def lowercaseRuns : List Run :=
  runs "00C0-00D6=00E0 00D8-00DE=00F8 0100-012E/2=0101 0132-0136/2=0133 0139-0147/2=013A
    014A-0176/2=014B 0178=00FF 0179-017D/2=017A 0181=0253 0182-0184/2=0183 0186=0254 0187=0188
    0189-018A=0256 018B=018C 018E=01DD 018F=0259 0190=025B 0191=0192 0193=0260 0194=0263 0196=0269
    0197=0268 0198=0199 019C=026F 019D=0272 019F=0275 01A0-01A4/2=01A1 01A6=0280 01A7=01A8
    01A9=0283 01AC=01AD 01AE=0288 01AF=01B0 01B1-01B2=028A 01B3-01B5/2=01B4 01B7=0292 01B8=01B9
    01BC=01BD 01C4=01C6 01C5=01C6 01C7=01C9 01C8=01C9 01CA=01CC 01CB-01DB/2=01CC 01DE-01EE/2=01DF
    01F1=01F3 01F2-01F4/2=01F3 01F6=0195 01F7=01BF 01F8-021E/2=01F9 0220=019E 0222-0232/2=0223
    023A=2C65 023B=023C 023D=019A 023E=2C66 0241=0242 0243=0180 0244=0289 0245=028C
    0246-024E/2=0247 0370-0372/2=0371 0376=0377 037F=03F3 0386=03AC 0388-038A=03AD 038C=03CC
    038E-038F=03CD 0391-03A1=03B1 03A3-03AB=03C3 03CF=03D7 03D8-03EE/2=03D9 03F4=03B8 03F7=03F8
    03F9=03F2 03FA=03FB 03FD-03FF=037B 0400-040F=0450 0410-042F=0430 0460-0480/2=0461
    048A-04BE/2=048B 04C0=04CF 04C1-04CD/2=04C2 04D0-052E/2=04D1 0531-0556=0561 10A0-10C5=2D00
    10C7=2D27 10CD=2D2D 13A0-13EF=AB70 13F0-13F5=13F8 1C89=1C8A 1C90-1CBA=10D0 1CBD-1CBF=10FD
    1E00-1E94/2=1E01 1E9E=00DF 1EA0-1EFE/2=1EA1 1F08-1F0F=1F00 1F18-1F1D=1F10 1F28-1F2F=1F20
    1F38-1F3F=1F30 1F48-1F4D=1F40 1F59-1F5F/2=1F51 1F68-1F6F=1F60 1F88-1F8F=1F80 1F98-1F9F=1F90
    1FA8-1FAF=1FA0 1FB8-1FB9=1FB0 1FBA-1FBB=1F70 1FBC=1FB3 1FC8-1FCB=1F72 1FCC=1FC3 1FD8-1FD9=1FD0
    1FDA-1FDB=1F76 1FE8-1FE9=1FE0 1FEA-1FEB=1F7A 1FEC=1FE5 1FF8-1FF9=1F78 1FFA-1FFB=1F7C 1FFC=1FF3
    2126=03C9 212A=006B 212B=00E5 2132=214E 2160-216F=2170 2183=2184 24B6-24CF=24D0 2C00-2C2F=2C30
    2C60=2C61 2C62=026B 2C63=1D7D 2C64=027D 2C67-2C6B/2=2C68 2C6D=0251 2C6E=0271 2C6F=0250
    2C70=0252 2C72=2C73 2C75=2C76 2C7E-2C7F=023F 2C80-2CE2/2=2C81 2CEB-2CED/2=2CEC 2CF2=2CF3
    A640-A66C/2=A641 A680-A69A/2=A681 A722-A72E/2=A723 A732-A76E/2=A733 A779-A77B/2=A77A A77D=1D79
    A77E-A786/2=A77F A78B=A78C A78D=0265 A790-A792/2=A791 A796-A7A8/2=A797 A7AA=0266 A7AB=025C
    A7AC=0261 A7AD=026C A7AE=026A A7B0=029E A7B1=0287 A7B2=029D A7B3=AB53 A7B4-A7C2/2=A7B5
    A7C4=A794 A7C5=0282 A7C6=1D8E A7C7-A7C9/2=A7C8 A7CB=0264 A7CC-A7DA/2=A7CD A7DC=019B A7F5=A7F6
    FF21-FF3A=FF41 10400-10427=10428 104B0-104D3=104D8 10570-1057A=10597 1057C-1058A=105A3
    1058C-10592=105B3 10594-10595=105BB 10C80-10CB2=10CC0 10D50-10D65=10D70 118A0-118BF=118C0
    16E40-16E5F=16E60 16EA0-16EB8=16EBB 1E900-1E921=1E922"

/-- The characters with a case. -/
def casedRanges : List Range :=
  ranges "0041-005A 0061-007A 00AA 00B5 00BA 00C0-00D6 00D8-00F6 00F8-01BA 01BC-01BF 01C4-0293
    0296-02B8 02C0-02C1 02E0-02E4 0345 0370-0373 0376-0377 037A-037D 037F 0386 0388-038A 038C
    038E-03A1 03A3-03F5 03F7-0481 048A-052F 0531-0556 0560-0588 10A0-10C5 10C7 10CD 10D0-10FA
    10FC-10FF 13A0-13F5 13F8-13FD 1C80-1C8A 1C90-1CBA 1CBD-1CBF 1D00-1DBF 1E00-1F15 1F18-1F1D
    1F20-1F45 1F48-1F4D 1F50-1F57 1F59 1F5B 1F5D 1F5F-1F7D 1F80-1FB4 1FB6-1FBC 1FBE 1FC2-1FC4
    1FC6-1FCC 1FD0-1FD3 1FD6-1FDB 1FE0-1FEC 1FF2-1FF4 1FF6-1FFC 2071 207F 2090-209C 2102 2107
    210A-2113 2115 2119-211D 2124 2126 2128 212A-212D 212F-2134 2139 213C-213F 2145-2149 214E
    2160-217F 2183-2184 24B6-24E9 2C00-2CE4 2CEB-2CEE 2CF2-2CF3 2D00-2D25 2D27 2D2D A640-A66D
    A680-A69D A722-A787 A78B-A78E A790-A7DC A7F1-A7F6 A7F8-A7FA AB30-AB5A AB5C-AB69 AB70-ABBF
    FB00-FB06 FB13-FB17 FF21-FF3A FF41-FF5A 10400-1044F 104B0-104D3 104D8-104FB 10570-1057A
    1057C-1058A 1058C-10592 10594-10595 10597-105A1 105A3-105B1 105B3-105B9 105BB-105BC 10780
    10783-10785 10787-107B0 107B2-107BA 10C80-10CB2 10CC0-10CF2 10D50-10D65 10D70-10D85
    118A0-118DF 16E40-16E7F 16EA0-16EB8 16EBB-16ED3 1D400-1D454 1D456-1D49C 1D49E-1D49F 1D4A2
    1D4A5-1D4A6 1D4A9-1D4AC 1D4AE-1D4B9 1D4BB 1D4BD-1D4C3 1D4C5-1D505 1D507-1D50A 1D50D-1D514
    1D516-1D51C 1D51E-1D539 1D53B-1D53E 1D540-1D544 1D546 1D54A-1D550 1D552-1D6A5 1D6A8-1D6C0
    1D6C2-1D6DA 1D6DC-1D6FA 1D6FC-1D714 1D716-1D734 1D736-1D74E 1D750-1D76E 1D770-1D788
    1D78A-1D7A8 1D7AA-1D7C2 1D7C4-1D7CB 1DF00-1DF09 1DF0B-1DF1E 1DF25-1DF2A 1E030-1E06D
    1E900-1E943 1F130-1F149 1F150-1F169 1F170-1F189"

/-- The characters, other than nonspacing marks, that questions of case
pass over. -/
def caseIgnorableRanges : List Range :=
  ranges "0027 002E 003A 005E 0060 00A8 00AD 00AF 00B4 00B7-00B8 02B0-02FF 0374-0375 037A
    0384-0385 0387 0559 055F 05F4 0600-0605 061C 0640 06DD 06E5-06E6 070F 07F4-07F5 07FA 081A 0824
    0828 0888 0890-0891 08C9 08E2 0971 0E46 0EC6 10FC 17D7 180E 1843 1AA7 1C78-1C7D 1D2C-1D6A 1D78
    1D9B-1DBF 1FBD 1FBF-1FC1 1FCD-1FCF 1FDD-1FDF 1FED-1FEF 1FFD-1FFE 200B-200F 2018-2019 2024 2027
    202A-202E 2060-2064 2066-206F 2071 207F 2090-209C 2C7C-2C7D 2D6F 2E2F 3005 3031-3035 303B
    309B-309E 30FC-30FE A015 A4F8-A4FD A60C A67F A69C-A69D A700-A721 A770 A788-A78A A7F1-A7F4
    A7F8-A7F9 A9CF A9E6 AA70 AADD AAF3-AAF4 AB5B-AB5F AB69-AB6B FBB2-FBC2 FE13 FE52 FE55 FEFF FF07
    FF0E FF1A FF3E FF40 FF70 FF9E-FF9F FFE3 FFF9-FFFB 10780-10785 10787-107B0 107B2-107BA 10D4E
    10D6F 10EC5 110BD 110CD 11DD9 13430-1343F 16B40-16B43 16D40-16D42 16D6B-16D6C 16F93-16F9F
    16FE0-16FE1 16FE3 16FF2-16FF3 1AFF0-1AFF3 1AFF5-1AFFB 1AFFD-1AFFE 1BCA0-1BCA3 1D173-1D17A
    1E030-1E06D 1E137-1E13D 1E4EB 1E6FF 1E94B 1F3FB-1F3FF E0001 E0020-E007F"

/-- **A cased letter.** -/
def isCased (c : Char) : Bool :=
  covers casedRanges c

/-- **A character passed over in questions of case.** -/
def isCaseIgnorable (c : Char) : Bool :=
  isNonspacingMark c || covers caseIgnorableRanges c

/-- **The lower case of a character** by itself. -/
def lowercaseChar (c : Char) : Text :=
  if Text.isAsciiChar c then [c.toLower]
  else if c.toNat == 0x130 then ['i', Char.ofNat 0x307]
  else [(image? lowercaseRuns c).getD c]

/-- Whether the first character not passed over is cased. -/
def startsCased (t : Text) : Bool :=
  ((t.dropWhile isCaseIgnorable).head?).any isCased

/-- The lower case of a capital sigma between two texts, the one before it
in reverse. -/
def lowercaseSigma (before after : Text) : Char :=
  if startsCased before && !startsCased after then 'ς' else 'σ'

/-- The lower case of a text that comes behind another one, given in
reverse. -/
def lowercaseFrom (before : Text) : Text → Text
  | [] => []
  | c :: t =>
    (if c = 'Σ' then [lowercaseSigma before t] else lowercaseChar c) ++
      lowercaseFrom (c :: before) t

/-- **The lower case of a text.** -/
def lowercase (t : Text) : Text :=
  lowercaseFrom [] t

/-- An ASCII text is lowered letter by letter. -/
theorem lowercase_eq_lower {t : Text} (h : Text.isAscii t = true) :
    lowercase t = Text.lower t := by
  suffices ∀ before, lowercaseFrom before t = Text.lower t from this []
  induction t with
  | nil => exact fun _ => rfl
  | cons c t ih =>
    intro before
    simp only [Text.isAscii, List.all_cons, Bool.and_eq_true] at h
    have hc : c ≠ 'Σ' := by
      rintro rfl
      exact absurd h.1 (by decide)
    rw [lowercaseFrom, if_neg hc, lowercaseChar, if_pos h.1, ih (by simpa [Text.isAscii] using h.2)]
    rfl

end ContentFilter.Unicode
