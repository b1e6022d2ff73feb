import QuizFeed.Text.Ranges

/-!
# Marks

The characters of general category `M`, which modify the character before them.
-/

namespace QuizFeed.Text

/-- The marks as runs. -/
def markRanges : Ranges :=
  .ofRuns [
    "Y0DgIj7I7Bd11121211C8bBglg1D57262214B31urCrbBq991o4191315Bb3Br9Bao1B1Bm31i17a2t3Bo117222",
    "391a2q123Bo115422331u231b3Bo1181313k2m613Bo117222373a2u1Br5331491B85Bn117131472b2t3Bo117",
    "131472b2f1c4Bn217131491a2t3C61461118i2Bt127c8D2129b7C92r1111142Bhk125b1B491D4kn443132734",
    "dc11a4Vv3zi4s3t2u2C0B091Bd311Dl2B21Dmc4cGr5Bpa1t21BgBe2ck5BfhB69c3udBoeBgkEo31l416123G6C",
    "0WgB1C-u3Ed1D0B0Ra6D92zOk41aB02Cg2Ig13141n541Cj2Biiqid1B68pdBc4BfeB41C3ec182Bd3Bi1132252",
    "11B9552Hc812TZg1X1ggg+d1H21El5BU631254B8341F52Rt4C15Jt2Cd6C6bBh4Dq3BlfB9122a4Bdb71Bt3B4e",
    "g2Bc1c3Bge8412Csc6121Etcl4Bn217222391a22735C391121141511e2Ciin1ChkHb729r2CihDadD5fI0fHl6",
    "12241112Ed72731saB8714819bBegG68G7818Cim1eDq631121711C251215Kr49211Bg735n1FH516fLG8iCO05",
    "Br7BAo11Bn74Ch1b2TFb2ET1Be2nQu5368827u4Ek3BzrBn4Bi81e1m51fBKg71h271215D41F07Ln1Bt4Ps4Hu2",
    "Hj1217251Oq7Dd7YFzlHg"]

/-- Whether a character is a mark; none of ASCII is. -/
def isMark (character : Char) : Bool :=
  0x80 ≤ character.toNat && markRanges.contains character

end QuizFeed.Text
