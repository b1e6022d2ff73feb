import QuizFeed.Text.Ranges

/-!
# Printable characters

A character is printable unless it is a control, format, private-use or unassigned character, or
a separator other than the space.
-/

namespace QuizFeed.Text

/-- The printable characters as runs. -/
def printableRanges : Ranges :=
  .ofRuns [
    "B0CvB2c1Wa2647111k1Md1B62Bi231Bn8r46hm1G01Bg2Br2D5eBr2Bh2f1s211b5B07Cb1F118222m171134292",
    "2248142152p2316422m17121212211542233174117ha319131m1712152a131321f42c771318222m171215292",
    "2237342152ia216331432111232333c4533142161el5d131n1g291314721312242a7m131n1a1529131472531",
    "42a13cd131Bj13164g2q131i3o191127314611186a23cBq4tB5211151o111n2511171a24B0C81B44B71B41f1",
    "dB5G611512Lp142711142B9142B1142711142f1Bp142C32B03q6Cm262U01s3Cp7m9o9kcd1312cCu2a6a6e1b6",
    "Cp7Bb5C6av1c4c413Ba25bBc4q6b3Bu2C11t2b6a6e2Be2ckCd1F68Bs3f3Bu5Bb2b8Bb5Qm262B626281111111",
    "v2Bl1f1e261j2319ho8Bfh22r1d3B2eB1fEc4UqmblBYk2Lu5Bd11512Bo72eo97171717171717171DuB2q1Cpc",
    "Gmqg1Bv1Cm2D75Bb1Cu1Cm9Bg1yTd3Bn9KskFo8GtkBs3a6Bo8C68c6Dkbu3Ce1b4B11Bn9e2a2D7osa62626971",
    "71Bs4Du2a6Kz4cn4BhII4Le2DaB67c55q151112121UaB0Ba6Bj1j14451E74Fu362626233717d22c1q1j121f2",
    "eB2Dr534Bd3Co1d31BfBeE2t3Bhfs4B49u5Bb5u1B54eBaEu2a6B44B44B88Bkbc1f17121b1f17123BkcJn9ma8",
    "o61Ba19C56211Bc12312n1C889Bgj125B13r5rB6Bo4k2Bi1258131t234a797C0B0B74c9Bm3t2r5q74c7CgC9B",
    "nBjdBj7Be8a6B63t82Ggv1Ba1322g689B1Be8BamqB6skn9Ce4B49Bu15dp7a6Bl1i8B79D01kbi1BfBu711141f",
    "1b6Br5a6418222m1712151a22232161572735ba11211B61a1121141a1282tCs15uC88aF6Bm2B6B2C5ba6djBq",
    "6a6ksr2f4nFpBsD4Cjc82128121u122c9aC682Be2brC88CjdC97aCm8CoB2ea691Bd1eat3B02m1eC97121Bc31",
    "12198a66121B512167a6Bc4aHmp7h1B93tCl1fBidyrD6Df15bG4CScD3dBBggmaDyr5S7GVpBqBW6Rp7v1a4Ch1",
    "a6u26aC6aa171l5jNgBqG6Cr5p2pBcCb4Bp7hC05b79HGmB9B0D1DjIPt417121J3f1t321e48McCI4Db5d397a2",
    "4Dx0Ht3Nk6nfhfBe2n9DkBsHmaB72Ca8DglC6DqkckcCn9pE7Cl1C7122122241c11171C11428171s141511371",
    "Kk2J42Vuf51fBCgv66Gl71h2712155BuB11DgBd3e2a42K0vhBq51OgBaGmBb41G0v1m82H0714121f1G52gB9Cc",
    "4a42YhC4CcBtG241r1211211a141111614111111312112111111111121124171414111a1h53151hBk2IeBc4D",
    "4cf2f1f1B5aFeBotdBc4972e6Eq+p3h3d3Gq6c41fc4Bo8a6B88u2c42e9B7Ko8e2d3b3Bp114g2c4a7Ej1D7BA5",
    "BJX0B0EIu2FUe2HJhfTeCN2QuBP2Ewb5IJaVTE6Hg"]

/-- Whether a character is shown as itself; the ASCII half is decided without the table. -/
def isPrintable (character : Char) : Bool :=
  let code := character.toNat
  if code < 0x80 then 0x20 ≤ code && code ≤ 0x7E else printableRanges.contains character

end QuizFeed.Text
