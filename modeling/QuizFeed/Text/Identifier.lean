import QuizFeed.Text.Ranges

/-!
# Characters of identifiers

The properties `XID_Start` and `XID_Continue`. The ASCII half is decided without the tables.
-/

namespace QuizFeed.Text

/-- The characters that start an identifier, as runs. -/
def identifierStartRanges : Ranges :=
  .ofRuns [
    "C1q6qBf1a1415n1v1Oa4ce57111E151233116113111k1Cj1Eb8F61B6216B9C7r44BdBbB321D311f272a321g1",
    "1utCpb1oB192415m419131np7b5o17gBaBqBm31i17afg48222m17113431g1d213e2a186422m17121212v411j",
    "3g9131m17121531i1f2n1b8222m17121531u213f1h116331432111232333cm1Bk8131n1g31q31222u148131n",
    "1a1531u312f2h9131B921g15383o65i3o191127BqBg11d7Bq211151o111a11a12511l4B01Bv81B4r5DjBbk1g",
    "6443132734dc1hB611512Bb1Kd142711142B9142B1142711142f1Bp142C3B5ggCm263Tc2h1q5Cb3b7idjeied",
    "13fBkB3141C3Cp7B9115C6avBhu25bBc4qBmn9BlCi1CtBfh8Bmud2aBcqB4B93aB42b5Bb23B941612315G0C0I",
    "m262B626281111111v2Bl1711331734264d5317Dk1d1gdD51412a11266111111g245541hB9CTnH56432cB611",
    "512Bo71gn9717171717171717R63p975254Cm631Cq145Bb1CuhB0BggQ0GO0C0VUdC3Be2Id3ga2kBfgv2CgB79",
    "2D72Cikh13141ntBkeBiBu63112bsanpt7Bfs1g51aa51B9n318kn313Bi1132252111o32b73c6262697171Bb1",
    "e6DjtKz4cn4BhII4Le2DaB67c5511a1d151112121DcB1Eb6GqiC02BmB8aDn111311111111DuB4q6qbBo2v362",
    "62623B3c1q1j121f2eB2DrC5BlIbt3BhBfB0du5B6au2B44815BaEuiB44B44B88Bkcb1f17121b1f17123BkcJn",
    "9ma8o61Ba19C56211Bc12312nan9vC1j12amaq6qB6Bo62C01f4131tBat3tB381srBmamajdiDeC9BnBjdBjdB4",
    "B6s9nHqBa62g6Bota18mBaiBelrncBlBp221dBdB0pqB4t1218B331cBge4l111B3i1pj2Bv711141f1a7BfB682",
    "22m17121531i1c5ua11211B611p111BcBli4k3uBgk211FoBfB94B4Bgk1BrBbd1C7rB57FpBcDkC0v82128121o",
    "f111Cu82B7g111s1aB871l1bBej1iC9G7B1v91B5h1BhuDg7121B6l1p6121B0e1nBcI4jf11d1B2Ds1CfyqD6Df",
    "hG4CScD1fBBgh6pDyr5S7GVpuBX2Rp7vhCfhuiBgg4vl5jNgBdGjC0B0p2pBcCb51C2dC0211e59HGmB9B0D1DjI",
    "Pt417121J3f1t321e48McCI4Db5d397aFx6Cl1C7122122241c11171C11428171s141511371Kk2p1p1v1p1v1p",
    "1v1p1v1p18BZkv66I5BuEiBda7g1K1uiBcP4sH4u21Gfv1312172592H0714121f1G5BrC471BFk41r1211211a1",
    "41111614111111312112111111111121124171414111a1h53151hEK4BJX0B0EIu2FUe2HJhfTeCN2QuBP2Ewb5",
    "IJa"]

/-- The characters that continue an identifier, as runs. -/
def identifierContinueRanges : Ranges :=
  .ofRuns [
    "Bga7q411qBf1a111215n1v1Oa4ce57111hDl12331165111k1Cj1Eb152F61B6216B98Bd111212118r44tb5Ca4",
    "D6182a1j21gBr2D5eBm41212Beis4b5o177Cb1E12a1j18222m1711342922248142152ca1112316422m171212",
    "12211542233174117gb319131m1712152a131321f42a971318222m1712152922237342152a11g21633143211",
    "1232333c4533142161eagd131n1g291314721312242ag418131n1a152913147253142a13cd131Bj131554752",
    "aa6131i3o191127314611186a22dBq5f1aB7211151o111n2511171a24B01n26ab111114a1B44k1i1B491BpCa",
    "6Ce2B611512Bb1Kd142711142B9142B1142711142f1Bp142C32399eggCm263Tc2h1q5Cb3b7m9mbkcd1312cCk",
    "31422aB131b6Cp7Bb5C6av1c4caB825bBc4q6bB5s4Bv1t2b6ad18e1v2ckCd3ah9cDkcBo8a3Bh2b5Bb23g31B7",
    "5Qm262B626281111111v2Bl1711331734264d5317f2Bh2j1s1d1gdBjd413ch1412a11266111111g245541hB9",
    "CTnH569cB611512Bo71fo97171717171717171B0Q53pf15254Cm22231Cv5Bb1CuhB0BggQ0GO0C0VUdC3Be2Id",
    "3skBg4a1DjB592D72CikBn41jBkcC6aa6o311Bh2B4ct3C1eb6v1Bn9e2a6n3C9o32g25a6262697171Bb1e6Dr1",
    "22a6Kz4cn4BhII4Le2DaB67c55c1d151112121DcB1Eb6GqiC02BmB8a6ggg32o3B1111311111111Duja7q411q",
    "aCq36262623B3c1q1j121f2eB2DrC5BlE81E2t3Bhf1vB0du5Bb5u2B44815BaEu2a6B44B44B88Bkcb1f17121b",
    "1f17123BkcJn9ma8o61Ba19C56211Bc12312nan9vC1j12amaq6qB6Bo62C041258131t2341B0t3tB381upBmam",
    "ajdiDeC9BnBjdBjdB88a6B6351nHqBa1232g6BiB3a18B1vmBalrn9C7vg9Bs71dp7a6Bl1a448B4219C5441d11",
    "B3i1B564Bu711141f1a7Br5a6418222m1712151a22232161572735ba11211B61a11211418d2tCb5a44uC6118",
    "aF6Bm29n6B2C131baB6Bp7a6ksr2f4a67FpBrD5Cal82128121u1229caC682Be2812rBv818Ca31iC9D78CoB1f",
    "a691Bd19faou2m1eC97121Bc3112198a66121B512167a6Bc4aHmn9h1B935dbCl1CfyqD6DfhG4CScD1fBBggma",
    "Dyr5S7GVpBqBW6Rp7v1a6Cf1a6u25bBn94ca9l5jNgBd3aG6C0B0p2pBcCb4Bp7hC0212b79HGmB9B0D1DjIPt41",
    "7121J3f1t321e48McCI4Db5d397a32EChaQ6Be2nQu5368827u4Ek3NrCl1C7122122241c11171C11428171s14",
    "1511371Kk2p1p1v1p1v1p1v1p1v1p182BiQ0Bn4Bi81e1m51fBCgv66Gl71h2712155BuB11DgBd3e2a41K1vhBq",
    "OmBaGmBbG5v1m82H0714121f1G5b7B9Cc4aBF641r1211211a141111614111111312112111111111121124171",
    "414111a1h53151hDJkaBA6BJX0B0EIu2FUe2HJhfTeCN2QuBP2Ewb5IJaVTE6Hg"]

/-- Whether a character is an ASCII letter. -/
def isAsciiLetter (character : Char) : Bool :=
  let code := character.toNat
  (65 ≤ code && code ≤ 90) || (97 ≤ code && code ≤ 122)

/-- Whether a character is an ASCII digit. -/
def isAsciiDigit (character : Char) : Bool :=
  48 ≤ character.toNat && character.toNat ≤ 57

/-- Whether a character may start an identifier. -/
def isIdentifierStart (character : Char) : Bool :=
  if character.toNat < 0x80 then isAsciiLetter character
  else identifierStartRanges.contains character

/-- Whether a character may continue an identifier. -/
def isIdentifierContinue (character : Char) : Bool :=
  if character.toNat < 0x80 then
    isAsciiLetter character || isAsciiDigit character || character == '_'
  else identifierContinueRanges.contains character

end QuizFeed.Text
