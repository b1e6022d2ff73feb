import QuizFeed.Text.Ranges

/-!
# Extending characters

The property `Grapheme_Extend`: characters that attach to the one before them.
-/

namespace QuizFeed.Text

/-- The extending characters as runs. -/
def extendingRanges : Ranges :=
  .ofRuns [
    "Y0DgIj7I7Bd11121211C8bBglg1D57262214B31urCrbBq991o4191315Bb3Br9Bao1B0Bn111484137a2t1Bq11",
    "1248191a2q122Bp142422331u231b2Bp1451241k2m611Bq112148173a2u1Br111c191B8131Bn113531472b2t",
    "1Bq12211331472b2s2Bp211248191a2t1C8141231181Ch127c8D2129b7C92r11111Bne15125b1B491D641612",
    "22p243g4d12261f1Vv3zi4s3t2u2C0217812b91Bd311Dl2B21Dm3429163Gr221Bq1171111286a21BgBe2ck4B",
    "ga43B69c2B0426Bo1123115Bo822Eo31d17416132G6C0Qc1G3B1C-u3Ed1D0B0Ra6D92zOk41aB02Cg2Ig13141",
    "p251En2qid1B68pb11Bc3Bg1242221B41C362222c181Bf1Bj113225211Ba281He12141TZg1X1gggLe2St1H21",
    "El5BU631254B8341F52Rt4C15Jt2Cd6C6bBh4Dr1BmfB9122a3Bh42271Bt3B4518Bu1c2Bk9118421Cv3246121",
    "Et138l2Bp21111c191e735C31261121134311e2Cl82311n1Ch12611211212Hb1246212r2Cl82112Da11128D5",
    "1112415I3912Hl1a441Eg42241B0aB8624819623Bed12G611311G971611Cim271212Dq631121711C823111Kr",
    "2b2Bk553n1FH516fLG8c33CO05Br7BAo1Bv4Ch1b2TFb2ET1Be2nQu5368827u4Ek3BzrBn4Bi81e1m51fBKg71h",
    "271215D41F07Ln1Bt4Ps4Hu2Hj1217251Oq7Dd7YFWlD0E0Hg"]

/-- Whether a character attaches to the one before it; none of ASCII does. -/
def isExtending (character : Char) : Bool :=
  0x80 ≤ character.toNat && extendingRanges.contains character

end QuizFeed.Text
