import QuizFeed.Text.Classification

/-!
# Canonical composition

`compose` puts a text into its composed canonical form (NFC): characters are taken apart, marks
are put into the order of their combining classes, and what can be joined again is joined.
Characters that only abbreviate another character are not taken apart, because no text that
reaches this module holds one.
-/

namespace QuizFeed.Text

/-- Combining classes other than zero. -/
def combiningClasses : Classification :=
  .ofRows [
    "Y0lH601H804Gs01H801Go05Gs02Ga04Gs02Ga0bGs05104Gs08H601Hg01H603Gs03H602Gs13H604Gs01H601H8",
    "02Gs01H601H902Ha01H902Ha01H90dH6Ij5H6I91Gs04H601Gs03H601Gu01Gs06H606Gs02H601Gs02H601Gu01",
    "H401H601a01b01c01d01e01f01g01h01i02j01k01l01m11n11o01p11H601Gs11iC88H601u01v01B0Bg1r01s0",
    "1t01u01v01B001B101B202H602Gs05H601Gs02H601Gsg1B3D57H624H601Gs01H622H611Gs02H601GsB31B4u1",
    "H601Gs02H601Gs02H603Gs01H602Gs01H601Gs03H601Gs01H601Gs01H601Gs01H601Gs02H6F07H601Gs01H69",
    "1Gso4H619H613H615H6Bb3GsBs1H603Gs04H6Ba5H605Gs0eH611Gs02H601Gs02H601Gs03H603Gs01r01s01t0",
    "3H601Gs02H602Gs05H6Bs17g1931H601Gs02H6D717g19Bg1H6Bt17g19De17g19De17g19Dv19De17g1971Ck01",
    "CrD517g19Dd29g19Ds19Dd2D7019d4DbDc2Dm019d4DqCc2Gsr1Gs11Gs11GoBn1E101E211E454E221E212H601",
    "912H6Bu1GsDg17129Ci1GsWf3H6zk29u19Et19a1H6Gb1H4Ef1Gu01H601GsGr1H601GsC719k8H621GsBg5H606",
    "Gs02H601Gs12Gs02H602Gs05H601Gs04H6D517f19B61H601Gs07H6Bm29Bq17b29C317Eo3H611105Gs02H604G",
    "s01H617141Gs61H632H6G62H601Gs07H601Gs02H601Ha01Gm01Gs01Ga0B5H601H802H401Gs01Gq01H601H901",
    "Gs01H601GsWg2H602104H603102H641H632101H601Gs01H602104Gs01H6C-u3H6Ed19D0B0H6Ra1Gq01H401H8",
    "01Gu02H0D928zOk1H64aH6B02H6Cg2H6Ik19B519En19riH6Bp3GsB519Cv17c19Hf1H612H601Gs22H652H611H",
    "6Bk19Hm19TZg1qY17H607Gs02H6+d1GsH21GsEl5H6BUi1Gs11H6B81H601101Gs419F51H601GsRt4H6M32H6Cg",
    "3GsC62Gs03H601Gs01H604GsBh1H601Gs01H601GsG019B919e19Bp19017C53H6Bg29Bu17Cc19917Da19017Fi",
    "17019Cg27g19o7H635H6Gd19317n1H6D319017Hr19017Du19Dm19017Dj19Id19017I229417Es19Cj19i19Ch1",
    "9N519I217129Ch19N929Szd51Br7H6BFp26TFc11FG62Go03131H205Go88Gs25H602Gsu4H6Ek3H6DNr7H61hH6",
    "27H612H615H6D41H6F07H6Ln1H6Bt4H6Ps2H801Gs01H6-07GsDd6H6017"]

/-- The combining class of a character. -/
def combiningClass (character : Char) : Nat :=
  if character.toNat < 0x300 then 0 else (combiningClasses.classOf character).getD 0

/-- A composite character and the two characters that it consists of. -/
structure Composite where
  whole : Nat
  first : Nat
  second : Nat

/-- The composites that a list of numbers describes: the distance from the previous composite,
then the two parts. -/
def compositeRows (position : Nat) (composites : Array Composite) : List Nat → Array Composite
  | gap :: first :: second :: rest =>
    compositeRows (position + gap) (composites.push ⟨position + gap, first, second⟩) rest
  | _ => composites

/-- The composite characters in ascending order. -/
def composites : Array Composite :=
  compositeRows 0 #[] (runNumbers [
    "G0C1Y01C1Y11C1Y21C1Y31C1Y81C1Ya2C3Z71C5Y01C5Y11C5Y21C5Y81C9Y01C9Y11C9Y21C9Y82CeY31CfY01C",
    "fY11CfY21CfY31CfY83ClY01ClY11ClY21ClY81CpY13D1Y01D1Y11D1Y21D1Y31D1Y81D1Ya2D3Z71D5Y01D5Y1",
    "1D5Y21D5Y81D9Y01D9Y11D9Y21D9Y82DeY31DfY01DfY11DfY21DfY31DfY83DlY01DlY11DlY21DlY81DpY12Dp",
    "Y81C1Y41D1Y41C1Y61D1Y61C1Z81D1Z81C3Y11D3Y11C3Y21D3Y21C3Y71D3Y71C3Yc1D3Yc1C4Yc1D4Yc3C5Y41",
    "D5Y41C5Y61D5Y61C5Y71D5Y71C5Z81D5Z81C5Yc1D5Yc1C7Y21D7Y21C7Y61D7Y61C7Y71D7Y71C7Z71D7Z71C8Y",
    "21D8Y23C9Y31D9Y31C9Y41D9Y41C9Y61D9Y61C9Z81D9Z81C9Y74CaY21DaY21CbZ71DbZ72CcY11DcY11CcZ71D",
    "cZ71CcYc1DcYc5CeY11DeY11CeZ71DeZ71CeYc1DeYc4CfY41DfY41CfY61DfY61CfYb1DfYb3CiY11DiY11CiZ7",
    "1DiZ71CiYc1DiYc1CjY11DjY11CjY21DjY21CjZ71DjZ71CjYc1DjYc1CkZ71DkZ71CkYc1DkYc3ClY31DlY31Cl",
    "Y41DlY41ClY61DlY61ClYa1DlYa1ClYb1DlYb1ClZ81DlZ81CnY21DnY21CpY21DpY21CpY81CqY11DqY11CqY71",
    "DqY71CqYc1DqYcB2CfYr1DfYreClYr1DlYrtC1Yc1D1Yc1C9Yc1D9Yc1CfYc1DfYc1ClYc1DlYc1GsY41HsY41Gs",
    "Y11HsY11GsYc1HsYc1GsY01HsY02G4Y41H4Y41R6Y41R7Y41G6Y41H6Y43C7Yc1D7Yc1CbYc1DbYc1CfZ81DfZ81",
    "PaY41PbY41NnYc1UiYc1DaYc4C7Y11D7Y13CeY01DeY01G5Y11H5Y11G6Y11H6Y11GoY11HoY11C1Yf1D1Yf1C1Y",
    "h1D1Yh1C5Yf1D5Yf1C5Yh1D5Yh1C9Yf1D9Yf1C9Yh1D9Yh1CfYf1DfYf1CfYh1DfYh1CiYf1DiYf1CiYh1DiYh1C",
    "lYf1DlYf1ClYh1DlYh1CjZ61DjZ61CkZ61DkZ63C8Yc1D8Yc7C1Y71D1Y71C5Z71D5Z71GmY41HmY41GlY41HlY4",
    "1CfY71DfY71ReY41RfY41CpY41DpY4KiF8Y11yhY12ylY11ynY11ypY12yvY12z5Y11z9Y11+aY1qypY81z5Y81z",
    "hY11zlY11znY11zpY11+bY1qzpY81+5Y81zvY11+5Y11+9Y15+iY11+iY8BcBAlY01BAlY82BAjY14BA6Y85BAqY",
    "11BAoY01BB3Y6bBAoY6B0BBoY6nBBlY01BBlY82BBjY14BCmY85BBqY11BBoY01BC3Y6oBDkYf1BDlYfCaBAmY61",
    "BBmY6eBAgY61BBgY61BAgY81BBgY83BAlY61BBlY63BGoY81BGpY81BAmY81BBmY81BAnY81BBnY83BAoY41BBoY",
    "41BAoY81BBoY81BAuY81BBuY83BH8Y81BH9Y81BBdY81BCdY81BB3Y41BC3Y41BB3Y81BC3Y81BB3Yb1BC3Yb1BB",
    "7Y81BC7Y83BBbY81BCbY8J9BR7BSj1BR7BSk1BS8BSk1BR7BSl1BSaBSkEqBWlBSk2BW1BSkhBWiBSkSmCJ8CJs8",
    "CJgCJs3CJjCJsEnCO7CNu1CO7COnLsCw7Cwm3Cw7CZu1Cw7CwnC8CyiC+nBmC+6Czu1C+7Czu1C+6C+nDsDC6DCm",
    "DoDFvDGl7DG6DGl1DG6DGm2DG6DG21DGaDGlDvDK6DJu1DK7DJu1DK6DKnEeDOpDOa2DOpDOf1DOsDOa1DOpDOvS",
    "8EB5EBeCX0GY5GZl2GY7GZl2GY9GZl2GYbGZl2GYdGZl4GYhGZlB9GZqGZl2GZsGZl3GZuGZl1GZvGZl2Gw2GZlV",
    "tC1Z51D1Z51C2Y71D2Y71C2Z31D2Z31C2Zh1D2Zh1G7Y11H7Y11C4Y71D4Y71C4Z31D4Z31C4Zh1D4Zh1C4Z71D4",
    "Z71C4Zd1D4Zd1IiY01IjY01IiY11IjY11C5Zd1D5Zd1C5Zg1D5Zg1R8Y61R9Y61C6Y71D6Y71C7Y41D7Y41C8Y71",
    "D8Y71C8Z31D8Z31C8Y81D8Y81C8Z71D8Z71C8Ze1D8Ze1C9Zg1D9Zg1GfY11HfY11CbY11DbY11CbZ31DbZ31CbZ",
    "h1DbZh1CcZ31DcZ31HRmY41HRnY41CcZh1DcZh1CcZd1DcZd1CdY11DdY11CdY71DdY71CdZ31DdZ31CeY71DeY7",
    "1CeZ31DeZ31CeZh1DeZh1CeZd1DeZd1GlY11HlY11GlY81HlY81KcY01KdY01KcY11KdY11CgY11DgY11CgY71Dg",
    "Y71CiY71DiY71CiZ31DiZ31HSqY41HSrY41CiZh1DiZh1CjY71DjY71CjZ31DjZ31KqY71KrY71L0Y71L1Y71HT2",
    "Y71HT3Y71CkY71DkY71CkZ31DkZ31CkZh1DkZh1CkZd1DkZd1ClZ41DlZ41ClZg1DlZg1ClZd1DlZd1L8Y11L9Y1",
    "1LaY81LbY81CmY31DmY31CmZ31DmZ31CnY01DnY01CnY11DnY11CnY81DnY81CnY71DnY71CnZ31DnZ31CoY71Do",
    "Y71CoY81DoY81CpY71DpY71CqY21DqY21CqZ31DqZ31CqZh1DqZh1D8Zh1DkY81DnYa1DpYa2LvY75C1Z31D1Z31",
    "C1Y91D1Y91G2Y11H2Y11G2Y01H2Y01G2Y91H2Y91G2Y31H2Y31HV0Y21HV1Y21I2Y11I3Y11I2Y01I3Y01I2Y91I",
    "3Y91I2Y31I3Y31HV0Y61HV1Y61C5Z31D5Z31C5Y91D5Y91C5Y31D5Y31GaY11HaY11GaY01HaY01GaY91HaY91Ga",
    "Y31HaY31HVoY21HVpY21C9Y91D9Y91C9Z31D9Z31CfZ31DfZ31CfY91DfY91GkY11HkY11GkY01HkY01GkY91HkY",
    "91GkY31HkY31HWcY21HWdY21N0Y11N1Y11N0Y01N1Y01N0Y91N1Y91N0Y31N1Y31N0Z31N1Z31ClZ31DlZ31ClY9",
    "1DlY91NfY11NgY11NfY01NgY01NfY91NgY91NfY31NgY31NfZ31NgZ31CpY01DpY01CpZ31DpZ31CpY91DpY91Cp",
    "Y31DpY37zhYj1zhYk1HY0Y01HY1Y01HY0Y11HY1Y11HY0w21HY1w21yhYj1yhYk1HY8Y01HY9Y01HY8Y11HY9Y11",
    "HY8w21HY9w21zlYj1zlYk1HYgY01HYhY01HYgY11HYhY13ylYj1ylYk1HYoY01HYpY01HYoY11HYpY13znYj1znY",
    "k1HZ0Y01HZ1Y01HZ0Y11HZ1Y11HZ0w21HZ1w21ynYj1ynYk1HZ8Y01HZ9Y01HZ8Y11HZ9Y11HZ8w21HZ9w21zpYj",
    "1zpYk1HZgY01HZhY01HZgY11HZhY11HZgw21HZhw21ypYj1ypYk1HZoY01HZpY01HZoY11HZpY11HZow21HZpw21",
    "zvYj1zvYk1Hw0Y01Hw1Y01Hw0Y11Hw1Y13yvYj1yvYk1Hw8Y01Hw9Y01Hw8Y11Hw9Y13+5Yj1+5Yk1HwgY01HwhY",
    "01HwgY11HwhY11Hwgw21Hwhw22z5Yk2HwpY02HwpY12Hwpw21+9Yj1+9Yk1Hx0Y01Hx1Y01Hx0Y11Hx1Y11Hx0w2",
    "1Hx1w21z9Yj1z9Yk1Hx8Y01Hx9Y01Hx8Y11Hx9Y11Hx8w21Hx9w21zhY02zlY02znY02zpY02zvY02+5Y02+9Y04",
    "HY0w51HY1w51HY2w51HY3w51HY4w51HY5w51HY6w51HY7w51HY8w51HY9w51HYaw51HYbw51HYcw51HYdw51HYew",
    "51HYfw51HZ0w51HZ1w51HZ2w51HZ3w51HZ4w51HZ5w51HZ6w51HZ7w51HZ8w51HZ9w51HZaw51HZbw51HZcw51HZ",
    "dw51HZew51HZfw51Hx0w51Hx1w51Hx2w51Hx3w51Hx4w51Hx5w51Hx6w51Hx7w51Hx8w51Hx9w51Hxaw51Hxbw51",
    "Hxcw51Hxdw51Hxew51Hxfw51zhY61zhY41Hxgw51zhw51zcw52zhw21Hzmw51yhY61yhY41yhY02yhw55F8w21Hx",
    "kw51znw51zew52znw21H+6w51ylY02ynY02ynw51HzvY01HzvY11Hzvw21zpY61zpY41+aY04zpw21+aw21ypY61",
    "ypY41ypY03H-uY01H-uY11H-uw21+5Y61+5Y41+bY02+1Yj1+1Yk1+5w21+bw21z5Y61z5Y41z5Y02z1Yk1F8Y05",
    "Hxsw51+9w51+ew52+9w21H-mw51yvY02z9Y02z9w5MuIMgZo1IMiZojIMkZovIOgZo1IOkZo1IOiZoBlIQ3Zo5IQ",
    "8Zo3IQbZooIR3Zo2IR5ZorIRsZo3IS3Zo3IS5Zo2IS8ZonBtZo2IT1ZobISdZo1BsZo1BuZo1IT4Zo1IT5Zo3ITi",
    "Zo1ITjZo3ITmZo1ITnZo7ITqZo1ITrZo3IU2Zo1IU3Zo3IU6Zo1IU7ZoB3IV2Zo1IV8Zo1IV9Zo1IVbZoBhITsZo",
    "1ITtZo1IUhZo1IUiZo7IViZo1IVjZo1IVkZo1IVlZoDKvMCbMEp2MCdMEp2MCfMEp2MChMEp2MCjMEp2MClMEp2M",
    "CnMEp2MCpMEp2MCrMEp2MCtMEp2MCvMEp2MD1MEp3MD4MEp2MD6MEp2MD8MEp7MDfMEp1MDfMEq2MDiMEp1MDiME",
    "q2MDlMEp1MDlMEq2MDoMEp1MDoMEq2MDrMEp1MDrMEqnMC6MEpaMEtMEpeMFbMEp2MFdMEp2MFfMEp2MFhMEp2MF",
    "jMEp2MFlMEp2MFnMEp2MFpMEp2MFrMEp2MFtMEp2MFvMEp2MG1MEp3MG4MEp2MG6MEp2MG8MEp7MGfMEp1MGfMEq",
    "2MGiMEp1MGiMEq2MGlMEp1MGlMEq2MGoMEp1MGoMEq2MGrMEp1MGrMEqnMF6MEp3MHfMEp1MHgMEp1MHhMEp1MHi",
    "MEp4MHtMEpBVGbCBOiY7rCBOqY7CVmCEEpCEFq2CEErCEFqfCEF5CEFqE3CEJhCEJ71CEJiCEJ7QsCEw7CEZu1CE",
    "w7CEwnBnCEy2CE+92CEy4CEzr9CEybCE+23CEygCE+9BkCE+2CE+22CE+2CEzo1CE+2CE+9HjCFFpCFFq1CFFpCF",
    "Fg2CFFpCFFtHsCFNoCFNf1CFNpCFNfxtCGJlCGJgR-9CYIuCYIu1CYIuCYJ91CYIuCYIv1CYJ9CYIv1CYIuCYJ01",
    "CYJ1CYIv1CYJ2CYIv1CYJ1CYJ0DC0CxL7CxL71CxL3CxL71CxL9CxL7"]).toList

/-- The parts of `point` among the positions from `low` up to, but not including, `high`. -/
def searchComposite (composites : Array Composite) (point low high : Nat) : Option Composite :=
  if low < high then
    let middle := (low + high) / 2
    match composites[middle]? with
    | none => none
    | some composite =>
      if point < composite.whole then searchComposite composites point low middle
      else if composite.whole < point then searchComposite composites point (middle + 1) high
      else some composite
  else none
termination_by high - low

/-- The first of the syllables that are composed of two or three letters by arithmetic. -/
def syllableBase : Nat := 0xAC00

/-- The number of such syllables. -/
def syllableCount : Nat := 11172

/-- The letters of a syllable. -/
def syllableParts (code : Nat) : List Char :=
  let index := code - syllableBase
  let leading := Char.ofNat (0x1100 + index / 588)
  let vowel := Char.ofNat (0x1161 + index % 588 / 28)
  if index % 28 = 0 then [leading, vowel] else [leading, vowel, Char.ofNat (0x11A7 + index % 28)]

/-- Takes a character apart, at most `fuel` levels deep. -/
def takeApart (fuel : Nat) (character : Char) : List Char :=
  let code := character.toNat
  if code < 0xC0 then [character]
  else if syllableBase ≤ code ∧ code < syllableBase + syllableCount then syllableParts code
  else
    match fuel, searchComposite composites code 0 composites.size with
    | fuel + 1, some composite =>
      takeApart fuel (Char.ofNat composite.first) ++ [Char.ofNat composite.second]
    | _, _ => [character]

/-- The greatest number of levels at which a composite is composed of composites. -/
def compositeDepth : Nat := 4

/-- Puts a mark behind all marks of its own class or a lower one. -/
def insertMark (mark : Char) : List Char → List Char
  | [] => [mark]
  | other :: rest =>
    if combiningClass mark < combiningClass other then mark :: other :: rest
    else other :: insertMark mark rest

/-- Orders every run of marks by combining class, keeping the order within a class. -/
def orderMarks : List Char → List Char → List Char
  | run, [] => run
  | run, character :: rest =>
    if combiningClass character = 0 then run ++ character :: orderMarks [] rest
    else orderMarks (insertMark character run) rest

/-- The character that two characters compose. -/
def join? (first second : Char) : Option Char :=
  let a := first.toNat
  let b := second.toNat
  if 0x1100 ≤ a ∧ a < 0x1113 ∧ 0x1161 ≤ b ∧ b < 0x1176 then
    some (Char.ofNat (syllableBase + ((a - 0x1100) * 21 + (b - 0x1161)) * 28))
  else if syllableBase ≤ a ∧ a < syllableBase + syllableCount ∧ (a - syllableBase) % 28 = 0 ∧
      0x11A7 < b ∧ b < 0x11C3 then
    some (Char.ofNat (a + (b - 0x11A7)))
  else
    (composites.find? fun composite => composite.first == a && composite.second == b).map
      fun composite => Char.ofNat composite.whole

/-- Joins the marks behind a starter into it where nothing stands between them. `held` are the
marks that stay, in reverse, and `blocked` is the class of the last of them. -/
def joinMarks (starter : Option Char) (held : List Char) (blocked : Option Nat) :
    List Char → List Char
  | [] => starter.toList ++ held.reverse
  | character :: rest =>
    let number := combiningClass character
    let reachable := match blocked with
      | none => true
      | some previous => previous != 0 && previous < number
    match starter with
    | some base =>
      match if reachable then join? base character else none with
      | some whole => joinMarks (some whole) held blocked rest
      | none =>
        if number = 0 then base :: held.reverse ++ joinMarks (some character) [] none rest
        else joinMarks starter (character :: held) (some number) rest
    | none =>
      if number = 0 then held.reverse ++ joinMarks (some character) [] none rest
      else joinMarks none (character :: held) (some number) rest

/-- The composed canonical form of a text. -/
def compose (characters : List Char) : List Char :=
  if characters.all fun character => character.toNat < 0x300 then characters
  else joinMarks none [] none (orderMarks [] (characters.flatMap (takeApart compositeDepth)))

end QuizFeed.Text
