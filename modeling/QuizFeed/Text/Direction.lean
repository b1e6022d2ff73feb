import QuizFeed.Text.Classification

/-!
# Writing directions

The bidirectional class of a character, as far as the rules for domain names tell classes apart.
-/

namespace QuizFeed.Text

/-- The bidirectional classes that domain names may hold, and `other` for the rest. -/
inductive Direction where
  | left
  | right
  | arabicLetter
  | arabicNumber
  | europeanNumber
  | europeanSeparator
  | commonSeparator
  | europeanTerminator
  | otherNeutral
  | boundaryNeutral
  | nonspacingMark
  deriving DecidableEq, Repr

/-- Every class other than left-to-right, by its number. -/
def directionClasses : Classification :=
  .ofRows [
    "0985e85270360570140150140250a3015067q67q470681q8015017046047127018027026023017137013157n",
    "17v17O1277e72e75971h70Dg9427817527117De17Ec79I0172270160100Bd90100190100290100290100190B",
    "o00620270110260110150110270b90Bg10l90a20160220310190D510790120170690210290170490210a30n1",
    "0190u10r90Cr10b90f10Bb00990200470300190o00490100990100390100590Bb00390400Bg10220610890Ba",
    "10o90120B09Bn19119489419379a29t19Bq19449819k29e26716219229Bp19429429239319u29319b29Bp194",
    "59129419k29d16869119Bq19219149819729b29u19Bt19c19B567016017519319Bn19139539149729b29k772",
    "19Bq19f29k29s29Bp29449819k29t19C819739119Cq19279416789D219299b79C929r19119119047Bje91591",
    "295b91B49919D649169129229p29439g49d19229619f19Vv39Bga7D617Uq27Dl39t29u29u29C0291798192b9",
    "716119ia76b7039018019Dl29B219Dm39429919639417327EoB27n29219Bq191791191192896a9219Bgv9Bh4",
    "9Bg19159119519B899c29B049229139Bo19129319139Bq89229Eo391d9179419619329G6C09Nt17137b37d37",
    "d37d27c381100o77150560f70150q71684680133630240371a3024037hBg60B19f27147127a1713756711711",
    "7117416b274575472g7B9374E270140160J27C5q71Eh7pb7lB870k3CeO271Kj7I0Tk72B071D97H567439777D",
    "v19D0B090Cu7B2q71Cp7cGm7qc75473p7949217527537Cp29027317Cq17G4B47Bp27Bhg7s37Bif7c47F747D3",
    "27v17GO0C07VUgBn7K637Cv490170a9027u29Cg29eB27D617Dp19319419p29147019b26Bq47Cc29qi9d19B68",
    "9pb9Be39Bg19249229B719C369229229c19819Bf19Bj19139229529119Ba29819Dj27Dp19219419TZf100190",
    "a00140B600Pe10i70Dv10170B080d10370g90a76g90B070150170151170150970160270240371170260174Ef",
    "10181270360570140150140250a3015067q67qb7Dq26037026177198057028I117BuCd73d7317Cs19H2190r3",
    "Dq59BE5Iv00170H100390100290500490B800390400190F500290Ci00770O000B410490810a20610J000v20B",
    "c00290j00Bt10390Bg00m10b90v10i00490Dq0119Bmf9bk7a19229a39Bh49229719Bt39B459189Bu19c29Bk9",
    "9a49219Cv39219129619219Et19389l29Bp29319B579359G389239119n19Ck69119429129He49629129r29Cl",
    "89219129vd7Bu19119269119D539249159I399129I029119419Eg49229419B069229B869249819969239Bed9",
    "129Mm79169Ckm9279129129Dq69319129179119C829319119Kr29b29Bk59519119Ei870460h7FCe196f9NUq5",
    "9Br79BAo19Bv49Cf17119TFo29148ESsBe92n9R039988089279u49Br27lC27039017FqCn7y417Bp17Bp17Bp1",
    "7Bp17aBi3Q0Bn94Bi9819e19m591f9BKg791h9279129159D419F079Ln19Bt49f16Pc49YgGg00790Dd00790Z5",
    "00Cg10C000Cg10Fg00Hg10270e10I000Bc74D47cf72f71f71B57ab3057v17Bq67Bt17Fi67Eq+o74h73d73Dn7",
    "4Cv76c7417fc74Bo78a76B878u7227CeKk7ce72d73977Be71778e74977977Ej71Bn7B5a3BA428B--u28B--u2",
    "8B--u28B--u28B--u28B--u28B--u28B--u28B--u28B--u28B--u28B--uI280Hg90DQg8Bx-u28B--u28B--u2",
    "8"]

/-- The bidirectional class with a number; characters without one are written from left to right. -/
def Direction.ofNumber : Option Nat → Direction
  | some 0 => .right
  | some 1 => .arabicLetter
  | some 2 => .arabicNumber
  | some 3 => .europeanNumber
  | some 4 => .europeanSeparator
  | some 5 => .commonSeparator
  | some 6 => .europeanTerminator
  | some 7 => .otherNeutral
  | some 8 => .boundaryNeutral
  | some 9 => .nonspacingMark
  | _ => .left

/-- The bidirectional class of a character. -/
def direction (character : Char) : Direction :=
  .ofNumber (directionClasses.classOf character)

end QuizFeed.Text
