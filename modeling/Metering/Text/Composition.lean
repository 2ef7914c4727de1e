import Metering.Text.Ranges

/-!
# Composed characters

The composed form of a text (Unicode normalization form C): every letter and its marks are taken
apart, the marks are put into their order, and what has a character of its own is put together
again. The tables hold the characters that a domain may hold, and so no capital letters.
-/

namespace Metering.Text

/-! ## The order of marks -/

/-- The classes of marks other than zero, each with its marks. -/
def combiningClasses : List (Nat × Ranges) := [
  (1, .ofText "
    334-338 1CD4 1CE2-1CE8 20D2-20D3 20D8-20DA 20E5-20E6 20EA-20EB 10A39 16AF0-16AF4 1BC9E
    1D167-1D169"),
  (6, .ofText "16FF0-16FF1"),
  (7, .ofText "
    93C 9BC A3C ABC B3C C3C CBC 1037 1B34 1BE6 1C37 A9B3 110BA 11173 111CA 11236 112E9
    1133B-1133C 11446 114C3 115C0 116B7 1183A 11943 11D42 1E94A"),
  (8, .ofText "3099-309A"),
  (9, .ofText "
    94D 9CD A4D ACD B4D BCD C4D CCD D3B-D3C D4D DCA E3A EBA F84 1039-103A 1714-1715 1734 17D2
    1A60 1B44 1BAA-1BAB 1BF2-1BF3 2D7F A806 A82C A8C4 A953 A9C0 AAF6 ABED 10A3F 11046 11070
    1107F 110B9 11133-11134 111C0 11235 112EA 1134D 113CE-113D0 11442 114C2 115BF 1163F 116B6
    1172B 11839 1193D-1193E 119E0 11A34 11A47 11A99 11C3F 11D44-11D45 11D97 11F41-11F42 1612F"),
  (10, .ofText "5B0"),
  (11, .ofText "5B1"),
  (12, .ofText "5B2"),
  (13, .ofText "5B3"),
  (14, .ofText "5B4"),
  (15, .ofText "5B5"),
  (16, .ofText "5B6"),
  (17, .ofText "5B7"),
  (18, .ofText "5B8 5C7"),
  (19, .ofText "5B9-5BA"),
  (20, .ofText "5BB"),
  (21, .ofText "5BC"),
  (22, .ofText "5BD"),
  (23, .ofText "5BF"),
  (24, .ofText "5C1"),
  (25, .ofText "5C2"),
  (26, .ofText "FB1E"),
  (27, .ofText "64B 8F0"),
  (28, .ofText "64C 8F1"),
  (29, .ofText "64D 8F2"),
  (30, .ofText "618 64E"),
  (31, .ofText "619 64F"),
  (32, .ofText "61A 650"),
  (33, .ofText "651"),
  (34, .ofText "652"),
  (35, .ofText "670"),
  (36, .ofText "711"),
  (84, .ofText "C55"),
  (91, .ofText "C56"),
  (103, .ofText "E38-E39"),
  (107, .ofText "E48-E4B"),
  (118, .ofText "EB8-EB9"),
  (122, .ofText "EC8-ECB"),
  (129, .ofText "F71"),
  (130, .ofText "F72 F7A-F7D F80"),
  (132, .ofText "F74"),
  (202, .ofText "321-322 327-328 1DD0"),
  (214, .ofText "1DCE"),
  (216, .ofText "31B F39 1D165-1D166 1D16E-1D172"),
  (218, .ofText "1DFA 302A"),
  (220, .ofText "
    316-319 31C-320 323-326 329-333 339-33C 347-349 34D-34E 353-356 359-35A 591 596 59B 5A2-5A7
    5AA 5C5 655-656 65C 65F 6E3 6EA 6ED 731 734 737-739 73B-73C 73E 742 744 746 748 7F2 7FD
    859-85B 899-89B 8CF-8D3 8E3 8E6 8E9 8ED-8EF 8F6 8F9-8FA 952 F18-F19 F35 F37 FC6 108D 193B
    1A18 1A7F 1AB5-1ABA 1ABD 1ABF-1AC0 1AC3-1AC4 1ACA 1ADD 1AE6 1B6C 1CD5-1CD9 1CDC-1CDF 1CED
    1DC2 1DCA 1DCF 1DF9 1DFD 1DFF 20E8 20EC-20EF A92B-A92D AAB4 FE27-FE2D 101FD 102E0 10A0D
    10A3A 10AE6 10EFA-10EFB 10EFD-10EFF 10F46-10F47 10F4B 10F4D-10F50 10F83 10F85 1D17B-1D182
    1D18A-1D18B 1E4EE 1E5EF 1E8D0-1E8D6"),
  (222, .ofText "59A 5AD 1939 302D"),
  (224, .ofText "302E-302F"),
  (226, .ofText "1D16D"),
  (228, .ofText "5AE 18A9 1DF7-1DF8 302B"),
  (230, .ofText "
    300-314 33D-346 34A-34C 350-352 357 35B 363-36F 483-487 592-595 597-599 59C-5A1 5A8-5A9
    5AB-5AC 5AF 5C4 610-617 653-654 657-65B 65D-65E 6D6-6DC 6DF-6E2 6E4 6E7-6E8 6EB-6EC 730
    732-733 735-736 73A 73D 73F-741 743 745 747 749-74A 7EB-7F1 7F3 816-819 81B-823 825-827
    829-82D 897-898 89C-89F 8CA-8CE 8D4-8E1 8E4-8E5 8E7-8E8 8EA-8EC 8F3-8F5 8F7-8F8 8FB-8FF 951
    953-954 9FE F82-F83 F86-F87 135D-135F 17DD 193A 1A17 1A75-1A7C 1AB0-1AB4 1ABB-1ABC 1AC1-1AC2
    1AC5-1AC9 1ACB-1ADC 1AE0-1AE5 1AE7-1AEA 1B6B 1B6D-1B73 1CD0-1CD2 1CDA-1CDB 1CE0 1CF4
    1CF8-1CF9 1DC0-1DC1 1DC3-1DC9 1DCB-1DCC 1DD1-1DF5 1DFB 1DFE 20D0-20D1 20D4-20D7 20DB-20DC
    20E1 20E7 20E9 20F0 2CEF-2CF1 2DE0-2DFF A66F A674-A67D A69E-A69F A6F0-A6F1 A8E0-A8F1 AAB0
    AAB2-AAB3 AAB7-AAB8 AABE-AABF AAC1 FE20-FE26 FE2E-FE2F 10376-1037A 10A0F 10A38 10AE5
    10D24-10D27 10D69-10D6D 10EAB-10EAC 10F48-10F4A 10F4C 10F82 10F84 11100-11102 11366-11374
    1145E 16B30-16B36 1D185-1D189 1D1AA-1D1AD 1D242-1D244 1E000-1E08F 1E130-1E136 1E2AE
    1E2EC-1E2EF 1E4EF 1E5EE 1E6E3 1E6E6 1E6EE-1E6EF 1E6F5 1E944-1E949"),
  (232, .ofText "315 31A 358 1DF6 302C 1E4EC-1E4ED"),
  (233, .ofText "35C 35F 362 1DFC"),
  (234, .ofText "35D-35E 360-361 1AEB 1DCD")
]

/-- The class of a mark, or zero. Marks of one class keep their order. -/
def combiningClass (c : Char) : Nat :=
  if c.toNat < 0x300 then 0
  else ((combiningClasses.find? fun row => row.2.contains c).map (·.1)).getD 0

/-- Puts a character in front of a text in order, behind the marks of lower classes. -/
def placeMark (c : Char) : List Char → List Char
  | [] => [c]
  | d :: rest =>
    if 0 < combiningClass d ∧ combiningClass d < combiningClass c then d :: placeMark c rest
    else c :: d :: rest

/-- The text with the marks of each letter in the order of their classes. -/
def orderMarks (s : List Char) : List Char :=
  s.foldr placeMark []

/-! ## Pairs -/

/-- A character and the two that it is put together from. -/
structure Composite where
  first : Char
  second : Char
  composed : Char

/-- What a word like `61+300>E0` says. -/
def Composite.ofWord? (word : List Char) : Option Composite :=
  match (splitOn (fun c => c == '+' || c == '>') word).map (Char.ofNat ∘ ofHexDigits) with
  | [first, second, composed] => some ⟨first, second, composed⟩
  | _ => none

/-- The characters that are put together from two, in the order of the second one. -/
def composites : List Composite :=
  (words (String.toList "
    61+300>E0 65+300>E8 69+300>EC 6E+300>1F9 6F+300>F2 75+300>F9 77+300>1E81 79+300>1EF3
    E2+300>1EA7 EA+300>1EC1 F4+300>1ED3 FC+300>1DC 103+300>1EB1 113+300>1E15 14D+300>1E51
    1A1+300>1EDD 1B0+300>1EEB 3B1+300>1F70 3B5+300>1F72 3B7+300>1F74 3B9+300>1F76 3BF+300>1F78
    3C5+300>1F7A 3C9+300>1F7C 3CA+300>1FD2 3CB+300>1FE2 435+300>450 438+300>45D 1F00+300>1F02
    1F01+300>1F03 1F10+300>1F12 1F11+300>1F13 1F20+300>1F22 1F21+300>1F23 1F30+300>1F32
    1F31+300>1F33 1F40+300>1F42 1F41+300>1F43 1F50+300>1F52 1F51+300>1F53 1F60+300>1F62
    1F61+300>1F63 61+301>E1 63+301>107 65+301>E9 67+301>1F5 69+301>ED 6B+301>1E31 6C+301>13A
    6D+301>1E3F 6E+301>144 6F+301>F3 70+301>1E55 72+301>155 73+301>15B 75+301>FA 77+301>1E83
    79+301>FD 7A+301>17A E2+301>1EA5 E5+301>1FB E6+301>1FD E7+301>1E09 EA+301>1EBF EF+301>1E2F
    F4+301>1ED1 F5+301>1E4D F8+301>1FF FC+301>1D8 103+301>1EAF 113+301>1E17 14D+301>1E53
    169+301>1E79 1A1+301>1EDB 1B0+301>1EE9 3B1+301>3AC 3B5+301>3AD 3B7+301>3AE 3B9+301>3AF
    3BF+301>3CC 3C5+301>3CD 3C9+301>3CE 3CA+301>390 3CB+301>3B0 433+301>453 43A+301>45C
    1F00+301>1F04 1F01+301>1F05 1F10+301>1F14 1F11+301>1F15 1F20+301>1F24 1F21+301>1F25
    1F30+301>1F34 1F31+301>1F35 1F40+301>1F44 1F41+301>1F45 1F50+301>1F54 1F51+301>1F55
    1F60+301>1F64 1F61+301>1F65 61+302>E2 63+302>109 65+302>EA 67+302>11D 68+302>125 69+302>EE
    6A+302>135 6F+302>F4 73+302>15D 75+302>FB 77+302>175 79+302>177 7A+302>1E91 1EA1+302>1EAD
    1EB9+302>1EC7 1ECD+302>1ED9 61+303>E3 65+303>1EBD 69+303>129 6E+303>F1 6F+303>F5 75+303>169
    76+303>1E7D 79+303>1EF9 E2+303>1EAB EA+303>1EC5 F4+303>1ED7 103+303>1EB5 1A1+303>1EE1
    1B0+303>1EEF 61+304>101 65+304>113 67+304>1E21 69+304>12B 6F+304>14D 75+304>16B 79+304>233
    E4+304>1DF E6+304>1E3 F5+304>22D F6+304>22B FC+304>1D6 1EB+304>1ED 227+304>1E1 22F+304>231
    3B1+304>1FB1 3B9+304>1FD1 3C5+304>1FE1 438+304>4E3 443+304>4EF 1E37+304>1E39 1E5B+304>1E5D
    61+306>103 65+306>115 67+306>11F 69+306>12D 6F+306>14F 75+306>16D 229+306>1E1D 3B1+306>1FB0
    3B9+306>1FD0 3C5+306>1FE0 430+306>4D1 435+306>4D7 436+306>4C2 438+306>439 443+306>45E
    1EA1+306>1EB7 61+307>227 62+307>1E03 63+307>10B 64+307>1E0B 65+307>117 66+307>1E1F
    67+307>121 68+307>1E23 6D+307>1E41 6E+307>1E45 6F+307>22F 70+307>1E57 72+307>1E59
    73+307>1E61 74+307>1E6B 77+307>1E87 78+307>1E8B 79+307>1E8F 7A+307>17C 15B+307>1E65
    161+307>1E67 1E63+307>1E69 105D2+307>105C9 105DA+307>105E4 61+308>E4 65+308>EB 68+308>1E27
    69+308>EF 6F+308>F6 74+308>1E97 75+308>FC 77+308>1E85 78+308>1E8D 79+308>FF F5+308>1E4F
    16B+308>1E7B 3B9+308>3CA 3C5+308>3CB 430+308>4D3 435+308>451 436+308>4DD 437+308>4DF
    438+308>4E5 43E+308>4E7 443+308>4F1 447+308>4F5 44B+308>4F9 44D+308>4ED 456+308>457
    4D9+308>4DB 4E9+308>4EB 61+309>1EA3 65+309>1EBB 69+309>1EC9 6F+309>1ECF 75+309>1EE7
    79+309>1EF7 E2+309>1EA9 EA+309>1EC3 F4+309>1ED5 103+309>1EB3 1A1+309>1EDF 1B0+309>1EED
    61+30A>E5 75+30A>16F 77+30A>1E98 79+30A>1E99 6F+30B>151 75+30B>171 443+30B>4F3 61+30C>1CE
    63+30C>10D 64+30C>10F 65+30C>11B 67+30C>1E7 68+30C>21F 69+30C>1D0 6A+30C>1F0 6B+30C>1E9
    6C+30C>13E 6E+30C>148 6F+30C>1D2 72+30C>159 73+30C>161 74+30C>165 75+30C>1D4 7A+30C>17E
    FC+30C>1DA 292+30C>1EF 61+30F>201 65+30F>205 69+30F>209 6F+30F>20D 72+30F>211 75+30F>215
    475+30F>477 61+311>203 65+311>207 69+311>20B 6F+311>20F 72+311>213 75+311>217 3B1+313>1F00
    3B5+313>1F10 3B7+313>1F20 3B9+313>1F30 3BF+313>1F40 3C1+313>1FE4 3C5+313>1F50 3C9+313>1F60
    3B1+314>1F01 3B5+314>1F11 3B7+314>1F21 3B9+314>1F31 3BF+314>1F41 3C1+314>1FE5 3C5+314>1F51
    3C9+314>1F61 6F+31B>1A1 75+31B>1B0 61+323>1EA1 62+323>1E05 64+323>1E0D 65+323>1EB9
    68+323>1E25 69+323>1ECB 6B+323>1E33 6C+323>1E37 6D+323>1E43 6E+323>1E47 6F+323>1ECD
    72+323>1E5B 73+323>1E63 74+323>1E6D 75+323>1EE5 76+323>1E7F 77+323>1E89 79+323>1EF5
    7A+323>1E93 1A1+323>1EE3 1B0+323>1EF1 75+324>1E73 61+325>1E01 73+326>219 74+326>21B
    63+327>E7 64+327>1E11 65+327>229 67+327>123 68+327>1E29 6B+327>137 6C+327>13C 6E+327>146
    72+327>157 73+327>15F 74+327>163 61+328>105 65+328>119 69+328>12F 6F+328>1EB 75+328>173
    64+32D>1E13 65+32D>1E19 6C+32D>1E3D 6E+32D>1E4B 74+32D>1E71 75+32D>1E77 68+32E>1E2B
    65+330>1E1B 69+330>1E2D 75+330>1E75 62+331>1E07 64+331>1E0F 68+331>1E96 6B+331>1E35
    6C+331>1E3B 6E+331>1E49 72+331>1E5F 74+331>1E6F 7A+331>1E95 3C+338>226E 3D+338>2260
    3E+338>226F 2190+338>219A 2192+338>219B 2194+338>21AE 21D0+338>21CD 21D2+338>21CF
    21D4+338>21CE 2203+338>2204 2208+338>2209 220B+338>220C 2223+338>2224 2225+338>2226
    223C+338>2241 2243+338>2244 2245+338>2247 2248+338>2249 224D+338>226D 2261+338>2262
    2264+338>2270 2265+338>2271 2272+338>2274 2273+338>2275 2276+338>2278 2277+338>2279
    227A+338>2280 227B+338>2281 227C+338>22E0 227D+338>22E1 2282+338>2284 2283+338>2285
    2286+338>2288 2287+338>2289 2291+338>22E2 2292+338>22E3 22A2+338>22AC 22A8+338>22AD
    22A9+338>22AE 22AB+338>22AF 22B2+338>22EA 22B3+338>22EB 22B4+338>22EC 22B5+338>22ED
    3B1+342>1FB6 3B7+342>1FC6 3B9+342>1FD6 3C5+342>1FE6 3C9+342>1FF6 3CA+342>1FD7 3CB+342>1FE7
    1F00+342>1F06 1F01+342>1F07 1F20+342>1F26 1F21+342>1F27 1F30+342>1F36 1F31+342>1F37
    1F50+342>1F56 1F51+342>1F57 1F60+342>1F66 1F61+342>1F67 627+653>622 627+654>623 648+654>624
    64A+654>626 6C1+654>6C2 6D2+654>6D3 6D5+654>6C0 627+655>625 928+93C>929 930+93C>931
    933+93C>934 9C7+9BE>9CB 9C7+9D7>9CC B47+B3E>B4B B47+B56>B48 B47+B57>B4C BC6+BBE>BCA
    BC7+BBE>BCB B92+BD7>B94 BC6+BD7>BCC C46+C56>C48 CC6+CC2>CCA CBF+CD5>CC0 CC6+CD5>CC7
    CCA+CD5>CCB CC6+CD6>CC8 D46+D3E>D4A D47+D3E>D4B D46+D57>D4C DD9+DCA>DDA DDC+DCA>DDD
    DD9+DCF>DDC DD9+DDF>DDE 1025+102E>1026 1B05+1B35>1B06 1B07+1B35>1B08 1B09+1B35>1B0A
    1B0B+1B35>1B0C 1B0D+1B35>1B0E 1B11+1B35>1B12 1B3A+1B35>1B3B 1B3C+1B35>1B3D 1B3E+1B35>1B40
    1B3F+1B35>1B41 1B42+1B35>1B43 3046+3099>3094 304B+3099>304C 304D+3099>304E 304F+3099>3050
    3051+3099>3052 3053+3099>3054 3055+3099>3056 3057+3099>3058 3059+3099>305A 305B+3099>305C
    305D+3099>305E 305F+3099>3060 3061+3099>3062 3064+3099>3065 3066+3099>3067 3068+3099>3069
    306F+3099>3070 3072+3099>3073 3075+3099>3076 3078+3099>3079 307B+3099>307C 309D+3099>309E
    30A6+3099>30F4 30AB+3099>30AC 30AD+3099>30AE 30AF+3099>30B0 30B1+3099>30B2 30B3+3099>30B4
    30B5+3099>30B6 30B7+3099>30B8 30B9+3099>30BA 30BB+3099>30BC 30BD+3099>30BE 30BF+3099>30C0
    30C1+3099>30C2 30C4+3099>30C5 30C6+3099>30C7 30C8+3099>30C9 30CF+3099>30D0 30D2+3099>30D3
    30D5+3099>30D6 30D8+3099>30D9 30DB+3099>30DC 30EF+3099>30F7 30F0+3099>30F8 30F1+3099>30F9
    30F2+3099>30FA 30FD+3099>30FE 306F+309A>3071 3072+309A>3074 3075+309A>3077 3078+309A>307A
    307B+309A>307D 30CF+309A>30D1 30D2+309A>30D4 30D5+309A>30D7 30D8+309A>30DA 30DB+309A>30DD
    11099+110BA>1109A 1109B+110BA>1109C 110A5+110BA>110AB 11131+11127>1112E 11132+11127>1112F
    11347+1133E>1134B 11347+11357>1134C 113C2+113B8>113C7 11384+113BB>11385 1138B+113C2>1138E
    113C2+113C2>113C5 11382+113C9>11383 11390+113C9>11391 113C2+113C9>113C8 114B9+114B0>114BC
    114B9+114BA>114BB 114B9+114BD>114BE 115B8+115AF>115BA 115B9+115AF>115BB 11935+11930>11938
    1611E+1611E>16121 1611E+1611F>16123 16121+1611F>16126 16122+1611F>16127 16129+1611F>16124
    1611E+16120>16125 16121+16120>16128 1611E+16129>16122 16D63+16D67>16D69 16D67+16D67>16D68
    16D69+16D67>16D6A")).filterMap Composite.ofWord?

/-! ## Syllables of the Korean script

A syllable has a leading consonant, a vowel, and perhaps a trailing consonant. The code points of
all 11172 syllables follow each other in the order of these letters.
-/

/-- The letters of a syllable, if the character is one. -/
def syllableLetters? (c : Char) : Option (List Char) :=
  if 0xAC00 ≤ c.toNat ∧ c.toNat < 0xD7A4 then
    let index := c.toNat - 0xAC00
    let lead := Char.ofNat (0x1100 + index / 588)
    let vowel := Char.ofNat (0x1161 + index % 588 / 28)
    some (if index % 28 = 0 then [lead, vowel] else [lead, vowel, .ofNat (0x11A7 + index % 28)])
  else none

/-- The syllable of a leading consonant and a vowel, or of a syllable and a trailing consonant. -/
def syllable? (a b : Char) : Option Char :=
  if 0x1100 ≤ a.toNat ∧ a.toNat < 0x1113 ∧ 0x1161 ≤ b.toNat ∧ b.toNat < 0x1176 then
    some (.ofNat (0xAC00 + (a.toNat - 0x1100) * 588 + (b.toNat - 0x1161) * 28))
  else if 0xAC00 ≤ a.toNat ∧ a.toNat < 0xD7A4 ∧ (a.toNat - 0xAC00) % 28 = 0 ∧
      0x11A8 ≤ b.toNat ∧ b.toNat < 0x11C3 then
    some (.ofNat (a.toNat + (b.toNat - 0x11A7)))
  else none

/-! ## The composed form -/

/-- The two characters that a character is put together from. -/
def pair? (c : Char) : Option (Char × Char) :=
  if c.toNat < 0xC0 then none
  else (composites.find? (·.composed == c)).map fun row => (row.first, row.second)

/-- A character taken apart, its first part once and once more. No character has more parts. -/
def takeApart (c : Char) : List Char :=
  match syllableLetters? c with
  | some letters => letters
  | none =>
    match pair? c with
    | none => [c]
    | some (first, last) =>
      match pair? first with
      | none => [first, last]
      | some (first, middle) => [first, middle, last]

/-- The character that is put together from two. -/
def join? (a b : Char) : Option Char :=
  if b.toNat < 0x300 then none
  else
    match syllable? a b with
    | some c => some c
    | none => (composites.find? fun row => row.first == a && row.second == b).map (·.composed)

/--
Puts a letter together with what follows it. A mark is out of reach behind one that is kept and has
the same class or a higher one, and so is a letter behind any that is kept.
-/
def joinAll (letter : Char) (kept : List Char) : List Char → List Char
  | [] => letter :: kept
  | c :: rest =>
    let reachable := kept.getLast?.all fun last => combiningClass last < combiningClass c
    match if reachable then join? letter c else none with
    | some joined => joinAll joined kept rest
    | none =>
      if combiningClass c = 0 then letter :: kept ++ joinAll c [] rest
      else joinAll letter (kept ++ [c]) rest

/-- The composed form of a text. -/
def composed (s : List Char) : List Char :=
  match orderMarks (s.flatMap takeApart) with
  | [] => []
  | c :: rest => joinAll c [] rest

end Metering.Text
