import TreeKeeper.Character.Category
import TreeKeeper.Character.Word

/-
  The alphabetic characters of Unicode 15, and the cases
  that characters have: the letters of the two categories,
  and numerals and symbols that look like letters.

  Key definitions include:
    * `Character.isAlphabetic`
    * `Character.isUppercase`
    * `Character.isLowercase`
-/

------------------------------------------------------------
-- The Table
------------------------------------------------------------

namespace TreeKeeper

namespace Character

/- Whether characters are alphabetic: `Y` or `N`. -/
def alphabeticLines : List String :=
  ["N65 Y26 N6 Y26 N47 Y1 N10 Y1 N4 Y1 N5 Y23 N1 Y31 N1 Y458",
   "N4 Y12 N14 Y5 N7 Y1 N1 Y1 N86 Y1 N42 Y5 N1 Y2 N2 Y4 N1 Y1",
   "N6 Y1 N1 Y3 N1 Y1 N1 Y20 N1 Y83 N1 Y139 N8 Y166 N1 Y38 N2",
   "Y1 N6 Y41 N39 Y14 N1 Y1 N1 Y2 N1 Y2 N1 Y1 N8 Y27 N4 Y4 N29",
   "Y11 N5 Y56 N1 Y7 N14 Y102 N1 Y8 N4 Y8 N4 Y3 N10 Y3 N2 Y1",
   "N16 Y48 N13 Y101 N24 Y33 N9 Y2 N4 Y1 N5 Y24 N2 Y19 N19 Y25",
   "N7 Y11 N5 Y24 N1 Y6 N17 Y42 N10 Y12 N3 Y7 N6 Y76 N1 Y16 N1",
   "Y3 N4 Y15 N13 Y19 N1 Y8 N2 Y2 N2 Y22 N1 Y7 N1 Y1 N3 Y4 N3",
   "Y8 N2 Y2 N2 Y2 N1 Y1 N8 Y1 N4 Y2 N1 Y5 N12 Y2 N10 Y1 N4 Y3",
   "N1 Y6 N4 Y2 N2 Y22 N1 Y7 N1 Y2 N1 Y2 N1 Y2 N4 Y5 N4 Y2 N2",
   "Y2 N4 Y1 N7 Y4 N1 Y1 N17 Y6 N11 Y3 N1 Y9 N1 Y3 N1 Y22 N1",
   "Y7 N1 Y2 N1 Y5 N3 Y9 N1 Y3 N1 Y2 N3 Y1 N15 Y4 N21 Y4 N4 Y3",
   "N1 Y8 N2 Y2 N2 Y22 N1 Y7 N1 Y2 N1 Y5 N3 Y8 N2 Y2 N2 Y2 N9",
   "Y2 N4 Y2 N1 Y5 N13 Y1 N16 Y2 N1 Y6 N3 Y3 N1 Y4 N3 Y2 N1 Y1",
   "N1 Y2 N3 Y2 N3 Y3 N3 Y12 N4 Y5 N3 Y3 N1 Y3 N3 Y1 N6 Y1 N40",
   "Y13 N1 Y3 N1 Y23 N1 Y16 N3 Y8 N1 Y3 N1 Y3 N8 Y2 N1 Y3 N2",
   "Y1 N2 Y4 N28 Y4 N1 Y8 N1 Y3 N1 Y23 N1 Y10 N1 Y5 N3 Y8 N1",
   "Y3 N1 Y3 N8 Y2 N6 Y2 N1 Y4 N13 Y3 N12 Y13 N1 Y3 N1 Y41 N2",
   "Y8 N1 Y3 N1 Y3 N1 Y1 N5 Y4 N7 Y5 N22 Y6 N1 Y3 N1 Y18 N3",
   "Y24 N1 Y9 N1 Y1 N2 Y7 N8 Y6 N1 Y1 N1 Y8 N18 Y2 N13 Y58 N5",
   "Y7 N6 Y1 N51 Y2 N1 Y1 N1 Y5 N1 Y24 N1 Y1 N1 Y19 N1 Y3 N2",
   "Y5 N1 Y1 N6 Y1 N14 Y4 N32 Y1 N63 Y8 N1 Y36 N4 Y19 N4 Y16",
   "N1 Y36 N67 Y55 N1 Y1 N2 Y5 N16 Y64 N10 Y4 N2 Y38 N1 Y1 N5",
   "Y1 N2 Y43 N1 Y333 N1 Y4 N2 Y7 N1 Y1 N1 Y4 N2 Y41 N1 Y4 N2",
   "Y33 N1 Y4 N2 Y7 N1 Y1 N1 Y4 N2 Y15 N1 Y57 N1 Y4 N2 Y67 N37",
   "Y16 N16 Y86 N2 Y6 N3 Y620 N2 Y17 N1 Y26 N5 Y75 N3 Y11 N7",
   "Y20 N11 Y21 N12 Y20 N12 Y13 N1 Y3 N1 Y2 N12 Y52 N2 Y19 N14",
   "Y1 N4 Y1 N67 Y89 N7 Y43 N5 Y70 N10 Y31 N1 Y12 N4 Y9 N23",
   "Y30 N2 Y5 N11 Y44 N4 Y26 N54 Y28 N4 Y63 N2 Y20 N50 Y1 N23",
   "Y2 N11 Y3 N49 Y52 N1 Y15 N1 Y8 N51 Y42 N2 Y4 N10 Y44 N1",
   "Y11 N14 Y55 N22 Y3 N10 Y36 N2 Y9 N7 Y43 N2 Y3 N41 Y4 N1 Y6",
   "N1 Y2 N3 Y1 N5 Y192 N39 Y14 N11 Y278 N2 Y6 N2 Y38 N2 Y6 N2",
   "Y8 NY7 Y31 N2 Y53 N1 Y7 N1 Y1 N3 Y3 N1 Y7 N3 Y4 N2 Y6 N4",
   "Y13 N5 Y3 N1 Y7 N116 Y1 N13 Y1 N16 Y13 N101 Y1 N4 Y1 N2",
   "Y10 N1 Y1 N3 Y5 N6 YN6 Y4 N1 Y11 N2 Y4 N5 Y5 N4 Y1 N17 Y41",
   "N813 Y52 N1814 Y229 N6 Y4 N3 Y2 N12 Y38 N1 Y1 N5 Y1 N2 Y56",
   "N7 Y1 N16 Y23 N9 Y7 N1 Y7 N1 Y7 N1 Y7 N1 Y7 N1 Y7 N1 Y7 N1",
   "Y7 N1 Y32 N47 Y1 N469 Y3 N25 Y9 N7 Y5 N2 Y5 N4 Y86 N6 Y3",
   "N1 Y90 N1 Y4 N5 Y43 N1 Y94 N17 Y32 N48 Y16 N512 Y6592 N64",
   "Y22157 N67 Y46 N2 Y269 N3 Y16 N10 Y2 N20 Y47 N5 Y8 N3 Y113",
   "N39 Y9 N2 Y103 N2 Y64 N5 Y2 N1 Y1 N1 Y5 N24 Y20 N1 Y33 N24",
   "Y52 N12 Y68 N1 Y1 N44 Y6 N3 Y1 N1 Y3 N10 Y33 N5 Y35 N13",
   "Y29 N3 Y51 N1 Y12 N15 Y1 N16 Y16 N10 Y5 N1 Y55 N9 Y14 N18",
   "Y23 N3 Y69 NY4 N24 Y3 N2 Y16 N2 Y4 N11 Y6 N2 Y6 N2 Y6 N9",
   "Y7 N1 Y7 N1 Y43 N1 Y14 N6 Y123 N21 Y11172 N12 Y23 N4 Y49",
   "N8452 Y366 N2 Y106 N38 Y7 N12 Y5 N5 Y12 N1 Y13 N1 Y5 N1 Y1",
   "N1 Y2 N1 Y2 N1 Y108 N33 Y363 N18 Y64 N2 Y54 N40 Y12 N116",
   "Y5 N1 Y135 N36 Y26 N6 Y26 N11 Y89 N3 Y6 N2 Y6 N2 Y6 N2 Y3",
   "N35 Y12 N1 Y26 N1 Y19 N1 Y2 N1 Y15 N2 Y14 N34 Y123 N69 Y53",
   "N267 Y29 N3 Y49 N47 Y32 N13 Y30 N5 Y43 N5 Y30 N2 Y36 N4 Y8",
   "N1 Y5 N42 Y158 N18 Y36 N4 Y36 N4 Y40 N8 Y52 N12 Y11 N1 Y15",
   "N1 Y7 N1 Y2 N1 Y11 N1 Y15 N1 Y7 N1 Y2 N67 Y311 N9 Y22 N10",
   "Y8 N24 Y6 N1 Y42 N1 Y9 N69 Y6 N2 Y1 N1 Y44 N1 Y2 N3 Y1 N2",
   "Y23 N10 Y23 N9 Y31 N65 Y19 N1 Y2 N10 Y22 N10 Y26 N70 Y56",
   "N6 Y2 N64 Y4 N1 Y2 N5 Y8 N1 Y3 N1 Y29 N42 Y29 N3 Y29 N35",
   "Y8 N1 Y28 N27 Y54 N10 Y22 N10 Y19 N13 Y18 N110 Y73 N55 Y51",
   "N13 Y51 N13 Y40 N344 Y42 N1 Y2 N3 Y2 N78 Y29 N10 Y1 N8 Y22",
   "N42 Y18 N46 Y21 N27 Y23 N9 Y70 N43 Y5 N10 Y57 N9 Y1 N13",
   "Y25 N23 Y51 N17 Y4 N8 Y35 N3 Y1 N9 Y64 N1 Y4 N9 Y2 N10 Y1",
   "N1 Y1 N35 Y18 N1 Y34 N2 Y1 N6 Y4 N62 Y7 N1 Y1 N1 Y4 N1 Y15",
   "N1 Y10 N7 Y57 N23 Y4 N1 Y8 N2 Y2 N2 Y22 N1 Y7 N1 Y2 N1 Y5",
   "N3 Y8 N2 Y2 N2 Y2 N3 Y1 N6 Y1 N5 Y7 N156 Y66 N1 Y3 N1 Y4",
   "N20 Y3 N30 Y66 N2 Y2 N1 Y1 N184 Y54 N2 Y7 N25 Y6 N34 Y63",
   "N1 Y1 N3 Y1 N59 Y54 N2 Y1 N71 Y27 N2 Y14 N21 Y7 N185 Y57",
   "N103 Y64 N31 Y8 N2 Y1 N2 Y8 N1 Y2 N1 Y30 N1 Y2 N2 Y2 N2 Y4",
   "N93 Y8 N2 Y46 N2 Y6 N1 Y1 N1 Y2 N27 Y51 N2 Y10 N17 Y72 N5",
   "Y1 N18 Y73 N263 Y9 N1 Y45 N1 Y7 N1 Y1 N49 Y30 N2 Y22 N1",
   "Y14 N73 Y7 N1 Y2 N1 Y44 N3 Y1 N1 Y2 N1 Y3 N1 Y1 N2 Y2 N24",
   "Y6 N1 Y2 N1 Y37 N1 Y2 N1 Y4 N1 Y1 N327 Y23 N9 Y17 N1 Y41",
   "N3 Y3 N111 Y1 N79 Y922 N102 Y111 N17 Y196 N2636 Y97 N15",
   "Y1072 N17 Y6 N4025 Y583 N8633 Y569 N7 Y31 N17 Y79 N17 Y30",
   "N18 Y48 N16 Y4 N31 Y21 N5 Y19 N688 Y64 N128 Y75 N4 Y57 N7",
   "Y17 N64 Y2 N1 Y1 N12 Y2 N14 Y6136 N8 Y1238 N42 Y9 N8935 Y4",
   "N1 Y7 N1 Y2 N1 Y291 N15 Y1 N29 Y3 N2 Y1 N14 Y4 N8 Y396",
   "N2308 Y107 N5 Y13 N3 Y9 N7 Y10 N4 Y1 N5985 Y85 N1 Y71 N1",
   "Y2 N2 Y1 N2 Y2 N2 Y4 N1 Y12 N1 Y1 N1 Y7 N1 Y65 N1 Y4 N2 Y8",
   "N1 Y7 N1 Y28 N1 Y4 N1 Y5 N1 Y1 N3 Y7 N1 Y340 N2 Y25 N1 Y25",
   "N1 Y31 N1 Y25 N1 Y31 N1 Y25 N1 Y31 N1 Y25 N1 Y31 N1 Y25 N1",
   "Y8 N1844 Y31 N6 Y6 N213 Y7 N1 Y17 N2 Y7 N1 Y2 N1 Y5 N5 Y62",
   "N33 Y1 N112 Y45 N10 Y7 N16 Y1 N321 Y30 N18 Y44 N484 Y28",
   "N756 Y7 N1 Y4 N1 Y2 N1 Y15 N1 Y197 N59 Y68 N3 Y1 N3 Y1",
   "N1204 Y4 N1 Y27 N1 Y2 N1 Y1 N2 Y1 N1 Y10 N1 Y4 NY4 N6 Y1",
   "N4 YN6 Y3 N1 Y2 N1 Y1 N2 YN10 Y2 N1 Y1 N2 Y4 N1 Y7 N1 Y4",
   "N1 Y4 N1 Y1 N1 Y10 N1 Y17 N5 Y3 N1 Y5 N1 Y17 N628 Y26 N6",
   "Y26 N6 Y26 N3702 Y42720 N32 Y4154 N6 Y222 N2 Y5762 N14",
   "Y7473 N3103 Y542 N1506 Y4939 N5 Y4192 N908368"]

/- The runs of alphabetic and of other characters. -/
def alphabeticRuns : List Run :=
  Run.table 1 alphabeticLines

/- Whether a character is alphabetic. -/
def isAlphabetic (c : Char) : Bool :=
  labelAt? alphabeticRuns c.toNat == some "Y"

------------------------------------------------------------
-- Case
------------------------------------------------------------

/- Uppercase characters that are no uppercase letters. -/
def otherUppercase : List (Nat × Nat) :=
  [(0x2160, 0x216F), (0x24B6, 0x24CF), (0x1F130, 0x1F149),
   (0x1F150, 0x1F169), (0x1F170, 0x1F189)]

/- Lowercase characters that are no lowercase letters. -/
def otherLowercase : List (Nat × Nat) :=
  [(0xAA, 0xAA), (0xBA, 0xBA), (0x2B0, 0x2B8), (0x2C0, 0x2C1),
   (0x2E0, 0x2E4), (0x345, 0x345), (0x37A, 0x37A),
   (0x10FC, 0x10FC), (0x1D2C, 0x1D6A), (0x1D78, 0x1D78),
   (0x1D9B, 0x1DBF), (0x2071, 0x2071), (0x207F, 0x207F),
   (0x2090, 0x209C), (0x2170, 0x217F), (0x24D0, 0x24E9),
   (0x2C7C, 0x2C7D), (0xA69C, 0xA69D), (0xA770, 0xA770),
   (0xA7F2, 0xA7F4), (0xA7F8, 0xA7F9), (0xAB5C, 0xAB5F),
   (0xAB69, 0xAB69), (0x10780, 0x10780), (0x10783, 0x10785),
   (0x10787, 0x107B0), (0x107B2, 0x107BA), (0x1E030, 0x1E06D)]

/- Whether a character is uppercase. -/
def isUppercase (c : Char) : Bool :=
  inCategory "Lu" c || inRanges otherUppercase c

/- Whether a character is lowercase. -/
def isLowercase (c : Char) : Bool :=
  inCategory "Ll" c || inRanges otherLowercase c

end Character

end TreeKeeper
