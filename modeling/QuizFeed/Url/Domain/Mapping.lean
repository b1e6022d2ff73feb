import QuizFeed.Text.Ranges

/-!
# Characters of domain names

Before a domain name is looked up its characters are mapped: letters to lower case, compatibility
forms to plain ones, and some characters to nothing. `Mapping.apply` gives the characters that one
character becomes, and none for a character that no domain name may hold.
-/

namespace QuizFeed.Url.Domain

open QuizFeed.Text

/-- A run of characters `first`, `first + stride`, … whose targets differ only in their last
character, which advances by `step`. -/
structure MappedRun where
  first : Nat
  count : Nat
  stride : Nat
  step : Nat
  target : List Nat

/-- The runs that a list of numbers describes. A run is a gap since the last character of the
previous run, a count, a tag, and the target: the tag is four times the length of the target, plus
two if the stride is two, plus one if the target advances with the stride. -/
def mappedRows (fuel position : Nat) (mapped : Array MappedRun) (numbers : List Nat) :
    Array MappedRun :=
  match fuel, numbers with
  | fuel + 1, gap :: count :: tag :: rest =>
    let first := position + gap
    let stride := if tag / 2 % 2 = 1 then 2 else 1
    let step := if tag % 2 = 1 then stride else 0
    let length := tag / 4
    mappedRows fuel (first + (count - 1) * stride + 1)
      (mapped.push ⟨first, count, stride, step, rest.take length⟩) (rest.drop length)
  | _, _ => mapped

/-- The runs of mapped characters in ascending order. -/
def mappedRuns : Array MappedRun :=
  let numbers := (runNumbers [
    "C1q5D1C514B0718B0Y8114D1418B0Y4225Bi018B0Y1014zs218B0Z7014Bh014Df11cBhIC4Bk01cBhIC4Bi01c",
    "BjIC4Bk1n5H0175HoB1o7I1118D9Y7128D9Da027Jl237Jq128DcFn047K2118VsDe0n7Kb114Hv037Lq114Dj11",
    "4Sj027M3114Sk014M8125Sm014Mc214Ot014Sp014Sr014Mi114T0014T3114T9014T8014Mp314Tf014Ti114Tl",
    "037N1114U0014N8114U3214Nd114U8014Ng125Ua027Nk114Ui014Np314Nt738D4Lu038DcDa038DeDa087Oe29",
    "7Ov238D4Dq014Pl114Ml014Nv0k7Pp114Mu197R3714LD5014Rs114Mq014LD6214S2114M0014U9014Uc057S7D",
    "114D8014T6014Da014Di014Tp014Tr014U1014Dn014Dpv29B0Y6018B0Ya018B0Z8018B0Y3018B0Yb214T3014",
    "Dc014Dj014Do014UlCr25Y0114Yj018Y8Y1014zpBa27xh114Vp114xn318B0zp314Br014-j418B0Y101cB0Y8Y",
    "1014zc014Fn035zd114+c125+d1h5zh195+3B314+n014zi014zo014+5014+d014+b014+6014+01c7+p114zq0",
    "14+1014+3114zo014zl114-o114+3014-r235xr0g5BCg0B05BBgBgh7BD19r7BEb114BGf077BG22Bg7BGh2B65",
    "BL1Bg18BL5BM2Hd18BR7BTk018BS8BTk018BW7BTk018BSaBTkWv18CIlCJs018CImCJs018CInCJs018CIsCJs0",
    "18CJ1CJs018CJ2CJs018CJbCJs018CJfCJsDs18CN1CNs018CN2CNs118CNfCNsCj18CRiCRs218CRoCRsB218CQ",
    "mCRs018CQnCRs018CQsCRs218CRbCRsHt18CZ1CZs018CZ2CZsWl18DSdDRiDv18DWdDViB818DVbDUp018DVbDV",
    "1Be14DYbBm18Dw2Dzn918DwcDzn418DwhDzn418DwmDzn418DwrDznc18Dw0Dzl92bDxhDxi018DziDy001cDziD",
    "xhDy0018DzjDy001cDzjDxhDy0718DxhDy0h18DyiDzn918DysDzn418Dz1Dzn418Dz6Dzn418DzbDznc18DygDz",
    "lH6B65LI0114LJ7514LJdBe14EGsXr65E-gCE214BBi014BBk014BBu025BC1014BC2014BCa014BD3014BJSb01",
    "4HEa6Bb5EGg235EHtDc14D1014H6027D2014D5014Ot085D7114Df014R3014Dg014Di025Dk014Dn014D1025Sg",
    "014HI2014D2025D4014Sp025Sr014D7114Db014Dd014Kb014Df014Sk025HIm014Dg025Dk014HIt014Tf014Dm",
    "014HJ5035zi025+6014D9014Di025Dl025zi014+1025+6d14BBtB214Si014D3014Sl014Hg014Ss014D6014Sv",
    "014T1014T5035T8014HLr014Ut014Td014HM5014Uv014Th014Tg045Ti014To025U2014Nb025U9014HIs025Ub",
    "014Dq035Ug014zoC0Cb7HQ1518D1Vu014HT1214Gv1Bg7HV1985HY0865HYga85HZ0885HZg865Hw0b47Hwh885H",
    "x0114zc114zd114ze114zf114+c114+d114+e218HY0zp018HY1zp018HY2zp018HY3zp018HY4zp018HY5zp018",
    "HY6zp018HY7zp018HY0zp018HY1zp018HY2zp018HY3zp018HY4zp018HY5zp018HY6zp018HY7zp018HZ0zp018",
    "HZ1zp018HZ2zp018HZ3zp018HZ4zp018HZ5zp018HZ6zp018HZ7zp018HZ0zp018HZ1zp018HZ2zp018HZ3zp018",
    "HZ4zp018HZ5zp018HZ6zp018HZ7zp018Hx0zp018Hx1zp018Hx2zp018Hx3zp018Hx4zp018Hx5zp018Hx6zp018",
    "Hx7zp018Hx0zp018Hx1zp018Hx2zp018Hx3zp018Hx4zp018Hx5zp018Hx6zp018Hx7zp218Hxgzp018zhzp018z",
    "czp218Hzmzp025Hzg014Hxg014zc018zhzp018B0Yj014zp018B0Yj018B0w201cB0Y8w2018Hxkzp018znzp018",
    "zezp218H+6zp014Hxi014zd014Hxk014ze018znzp02dB0YjY001cB0Yjw2314yg425H+g014Hxm014zf12dB0Yk",
    "Y001cB0Ykw2314zg425H-0014Hxq014+d014H-502dB0Y8Y0014D0218Hxszp018+9zp018+ezp218H-mzp014Hx",
    "o014+c014Hxs014+e018+9zp018B0Y1018B0Yk1b4B0614IAg518B0Zjn14B0318IBiIBi01cIBiIBiIBi118IBl",
    "IBl01cIBlIBlIBl418B1B1118B0Y5818BvBv018BvB1018B1Bvd1gIBiIBiIBiIBi714B0g14Bg014D9265Bk014",
    "Bb014IQi014Bt025B8014De0a5Bg014Bb014IQi014Bt025B8114D1014D5014Df014Do014Sp014D8045Db014D",
    "g025Djb18DiDjCn1cD1BfD301cD1BfDj014D3018FgD311cD3BfDf01cD3BfDl014Sr118FgD6025D7034D8014J",
    "7024D9024Dc114De018DeDf235Dg024Di218DjDd01cDkD5Dc018DkDd114Dq114+9114Dq114Db014H5025D212",
    "4D5014D6014IKe014Dd014Df045BOg014D911cD6D1Do014+0024zj014+0014IQh424D4014D5025D961cBhIC4",
    "Bn01cBhIC4Bp01gBhIC4BhBg01cBhIC4Bj01cBiIC4Bj01cBhIC4Bl01cBiIC4Bl01cBjIC4Bl01cBkIC4Bl01cB",
    "hIC4Bm01cBlIC4Bm01cBhIC4Bo01cBjIC4Bo01cBlIC4Bo01cBnIC4Bo018BhIC4014D9018D9D901cD9D9D9018",
    "D9Dm014Dm018DmD901cDmD9D901gDmD9D9D9018D9Do014Do018DoD901cDoD9D9014Dc025D3014Dd014D9018D",
    "9D901cD9D9D9018D9Dm014Dm018DmD901cDmD9D901gDmD9D9D9018D9Do014Do018DoD901cDoD9D9014Dc025D",
    "3014Dd314IM451cBgIC4BjF218IRbIRb01cIRbIRbIRb118IReIRe01cIReIReIReHo25MA8Jl95Bh0a9BhBg018",
    "BiBg01cB8BhB901cB8BiB901cB8BjB901cB8BkB901cB8BlB901cB8BmB901cB8BnB901cB8BoB901cB8BpB901g",
    "B8BhBgB901gB8BhBhB901gB8BhBiB901gB8BhBjB901gB8BhBkB901gB8BhBlB901gB8BhBmB901gB8BhBnB901g",
    "B8BhBoB901gB8BhBpB901gB8BiBgB9k1cB8D1B901cB8D2B901cB8D3B901cB8D4B901cB8D5B901cB8D6B901cB",
    "8D7B901cB8D8B901cB8D9B901cB8DaB901cB8DbB901cB8DcB901cB8DdB901cB8DeB901cB8DfB901cB8DgB901",
    "cB8DhB901cB8DiB901cB8DjB901cB8DkB901cB8DlB901cB8DmB901cB8DnB901cB8DoB901cB8DpB901cB8DqB9",
    "0q5D10q5D1014BgBJ11gIRbIRbIRbIRbD71cBqBqBt018BtBt01cBtBtBtD518KWtZoJ3Bg5LBgBg14LD1114Tb0",
    "14HLt014Tt237LD8114Sh014Th014Sg014Si114LDj214LDm614Da014Dm025Rv0Bi7LE1827LHc414LHjDs14LL",
    "1Jf14w+dCj14BHyvc14TQ0014TR8014TRm014TRv014TSp014TU5014TUc014TV0014TVq014UJv014UL5014ULb",
    "014UM2014UMm014UNb014UP0014UPl014UQ0014UUr014UXp014UYl014UYq014UZo014Uw1014Uws014Ux9014U",
    "y2014Uzm014U+8014U-3014VWn014VYv014WHb014WI2014WIa014WIl014WJ7014WLj014Wwg014Wy0014W-o01",
    "4XAf014XB2014XBo014XDe014XDh014XOr014XP5014XPh014XPu014XTi014XTq014XTv014XXk014XXu014XYb",
    "014XYj014Xwg014Xx1014Xxj014X+3014YQ8014YRm014YSb014ZJf014ZJk014ZM7014ZMn014ZN4014ZNp014Z",
    "P0014ZP5014ZXg014ZY8014ZZ8014wZ0014wx2014wxp014wzj014w+b014w+k014w+r014xAf014xAk014xBk01",
    "4yDb014yRa014yRm014yRr014yRv014yS7014ySp014ySr014yVc014yy4014yy9014zGs014zH6014zIo014zIv",
    "014zJ8014zJg014zMb014zMi014zTm014zTt014zVe014zVv014zXe014z+r014z-2014z-j014+Jq014+No014+",
    "Nu014+Tk014+Wb014+Xp014-Dj014-Ho014-Zm014-wh014-ya014-zt014BAA1014BAAc014BAAi014BABj014B",
    "ADv014BAE9014BAP3014BAPa014BAPj014BAPs014BAQc014BAQr014BAQv014BATe014BATi014BATo014BBSd0",
    "14BBTb014BCC0014BCCc014BCD3014BCLu014BCMb014BCOi014BCQ0014BDBn014BDC6014BDCl014BDDo014BD",
    "Et014BDL4014BDLg014BDNj014BDVb014BDWa014BDyr014BDzg014BDzl014BEEh014BEK9014BEO6014BEOc01",
    "4BEOh014BFLn014BFM0014BFQs014BFVm014BFVp014BFX8014BFwh014BFwu014BFx2014BFx9014BF+b014BF-",
    "d014BF-j014BGA1014BGF8014BGGr014BGGv014BGMm014BGMp014BGNc014BGV8014BGWo014BGWv014BGZ5014",
    "BGZf014BGZi014BGZs014BGwq014BHH5014BHTl014BHTv014BHV5014BHVr014BHW3014BHWd014BHWh014BHXp",
    "014BHXt014BHYe014BHYj014BHZ0014BHZr014BHwa014BHwi014BHyd014BHys014BHz0Ba14B0114BeBj14MAi",
    "114Uw1025Uw4D029B0MEp218ME8MEaCv18MFjMG8Bh25EI0014ENa014EI2025ENc035EI3065ENg014EIq035EI",
    "6014EJ10a5EI90l5EL1125EIk025EO7014EOc014EOe014EOj014EOn014EOp014EIs014EOt014EOv025EIt014",
    "EJ0025EJ2014EJ7014EJ9055EJb014EJi014EJm014EK0014EK7014EKc025EPh035EKn025EM4014EM8025EMh0",
    "14EMk014EMu014EN1314TQ0014TUc014TQ9014VWr014TQa014TRd014TQb014zJi014TSp014TQp014TQ1014WJ",
    "9014VZg014TVqD01cB8EI0B901cB8EI2B901cB8EI3B901cB8EI5B901cB8EI6B901cB8EI7B901cB8EI9B901cB",
    "8EIbB901cB8EIcB901cB8EIeB901cB8EIfB901cB8EIgB901cB8EIhB901cB8EIiB901cB8BLA0B901cB8BMEoB9",
    "01cB8BMX4B901cB8BNxsB901cB8BOO8B901cB8BPAkB901cB8BQFcB901cB8BRK4B901cB8BRygB901cB8BTB8B9",
    "01cB8BTTkB901cB8BUG0B901cB8BUYcB901cB8BVKoB901cB8BSHsB901gB8BRR4BSA4B901gB8BRR4BVW4B911c",
    "B8TQ0B901cB8TUcB901cB8TQ9B901cB8VWrB901cB8TUkB901cB8ULdB901cB8TQ3B901cB8ULbB901cB8TStB90",
    "1cB8Uw1B901cB8ZY8B901cB8yDbB901cB8xBkB901cB8ZZ8B901cB8BEOhB901cB8VYvB901cB8ZP5B901cB8wBa",
    "B901cB8ZY9B901cB8+JuB901cB8VAdB901cB8yTpB901cB8BDF1B901cB8+KtB901cB8UVkB901cB8TX3B901cB8",
    "VDsB901cB8Wx6B901cB8zX3B901cB8TY1B901cB8BDG7B901cB8UwkB901cB8+LdB901cB8TYhB901cB8BAPaB90",
    "1cB8BAPjB9014VKf014XTs014ZM7014+yf81cDgDkD5099BiBh069BjBg014EI0025EI2035EI5014EI9025EIb0",
    "55EIe014BLA0014BMEo014BMX4014BNxs014BOO8014BPAk014BQFc014BRK4014BRyg014BTB8014BTTk014BUG",
    "0014BUYc014BVKo018BTBoBLH0018BSHsBRwo014BRVg114TQ0014TUc014TQ9014VWr014TUk014ULd014TQ301",
    "4ULb014TSt014Uw1014ZY8014yDb014xBk014ZZ8014BEOh014VYv014ZP5014wBa014ZY9014+Ju014VAd014yT",
    "p014BDF1014+Kt014UVk014+Oo014zJn014WLj014BED9014UJa014Uxg014xH8014BGA5014TYh014UMp014wx3",
    "014TQa014TRd014TQb014XP6014U-j014UZr014Wyn014Wx6014zX3014TY1014BDG7014Uwk014WIs049BjBm0a",
    "9BkBg018BlBg018BhZY8018BiZY8018BjZY8018BkZY8018BlZY8018BmZY8018BnZY8018BoZY8018BpZY801cB",
    "hBgZY801cBhBhZY801cBhBiZY8018D8D701cD5DiD7018D5Dm01cDcDkD4014MF2014MF4014MF6014MF8025MFa",
    "014MFd014MFf014MFh014MFj014MFl014MFn014MFp014MFr014MFt014MFv014MG1014MG4014MG6014MG8065M",
    "Ga014MGi014MGl014MGo014MGr055MGu014MH4014MH6065MH8045MHf018TX4VEc01gMF2MGhMHsMG801gMF2MH",
    "bMGlMF101gMF2MHjMGqMF201cMF2MHsMHb01gMF4MGbMHjMFg01cMF4MHjMG101cMF6MF9MHj01kMF8MFpMFfMHs",
    "MG901gMF8MHsMFbMHs01cMFaMHjMFp01cMFaMHsMH001cMFbMF4MHa01gMFbMH9MG3MG801gMFbMHdMHaMHs01cM",
    "FcMHdMHj01cMFcMHjMGu018MFeMFc01cMFeMGbMHs01gMFdMH5MHaMHs01gMFeMHbMG0MHs018MFdMHd01kMFdMH",
    "dMFgMH9MH001oMFdMHdMH1MHsMG8MHb01kMFdMHdMHfMG3MG801cMFgMH9MH001kMFgMH9MH0MG8MHj01kMFfMHb",
    "MFsMF4MHd01gMFfMHdMHsMGd01cMFhMHsMFp01cMFjMHbMGa01cMFjMHsMGt01gMFlMF4MFfMHb01kMFlMHjMG1M",
    "HsMH001gMFnMHaMHjMFg01cMFrMHjMG101cMFrMHjMG801cMG0MHsMFp018MG7MFn018MG9MHb018MG8MHj018MG",
    "aMGe01cMGeMG3MG801cMGfMF4MG401kMGhMHsMFrMHjMG801cMGhMHsMG401gMGgMHsMHcMHb01kMGkMF2MFpMG8",
    "MHb01cMGkMFfMHb018MGkMFj018MGjMHb01kMGlMF1MH9MG3MG901gMGlMF3MHsMG801kMGmMG3MFnMF7MHb01cM",
    "GlMH9MHj01kMGoMFfMFvMHsMHb018MGqMFt01cMGqMGbMGi01cMGoMHbMG401cMGqMHjMFp01cMGqMHsMFo01cMG",
    "pMHsMFv01gMGtMF4MHjMG801cMGsMHbMG8018MGrMHj01cMGtMHjMG901cMGrMHsMHb01cMGrMHsMHj01gMGuMF4",
    "MFfMHd01cMGuMF4MHb01cMGuMG3MGf01cMGuMHbMFf01kMGuMHjMFnMH7MHj01gMGvMFfMHdMHj018MGvMHa01kM",
    "GvMHaMGgMHsMHb018MH1MFc01gMH1MFcMG8MHj01gMH1MHsMG8MHb01cMH4MHsMG901cMH4MHsMHb01cMH6MF2MH",
    "j01gMHaMG3MG8MHb018MHaMH901cMHbMGkMHs01gMHbMHsMGmMHb018MHcMH001kMHcMHjMG8MFiMHj01cMHfMG3",
    "MG8018BgyFp018BhyFp018BiyFp018BjyFp018BkyFp018BlyFp018BmyFp018BnyFp018BoyFp018BpyFp01cBh",
    "BgyFp01cBhBhyFp01cBhBiyFp01cBhBjyFp01cBhBkyFp01cBhBlyFp01cBhBmyFp01cBhBnyFp01cBhBoyFp01c",
    "BhBpyFp01cBiBgyFp01cBiBhyFp01cBiBiyFp01cBiBjyFp01cBiBkyFp01cD8DgD1018D4D1018D1Dl01cD2D1D",
    "i018DfDm018DgD3018D4Dd02dD4DdBi018D9Dl018XTjYQg018ZRdVEc018WJ7wx3018ZQexFr01gwBaXYfTYq+J",
    "u018DgD1018DeD1018zsD1018DdD1029DbD1018DdD2018D7D201cD3D1Dc01gDbD3D1Dc018DgD6018DeD6029z",
    "sD6018DdD7018DbD7018D8Dq01cDbD8Dq01cDdD8Dq01cD7D8Dq01cDkD8Dq018zsDc018DdDc018D4Dc018DbDc",
    "018D6Dd018DeDd018zsDd018DdDd018D3Dd018DbDd01cDdDdBi01cD3DdBi018DdBi01cDbDdBi01cDdDdBj01c",
    "D3DdBj018DdBj01cDbDdBj01cDdIQlDj01gDdIQlDjBi018DgD101cDbDgD101cDdDgD101cD7DgD101cDiD1D40",
    "1kDiD1D4IQlDj01oDiD1D4IQlDjBi018DgDj018DeDj018zsDj018DdDj018DgDm018DeDm018zsDm018DdDm018",
    "DbDm018DdDm018DgDn018DeDn018zsDn018DdDn018DbDn018DdDn018Db+9018Dd+9118D2Dh029D3D301gD3IQ",
    "lDbD7118D4D2018D7Dp018D8D1018D8Dg018D9De018DbDb018DbDd018DbDk029DcDd01cDcDfD7018DcDo018D",
    "dD201cDdD9Dc01cDdDfDc018DgD811cDgDgDd018DgDi018DjDi018DjDm018DnD201cDmIQlDd01cD1IQlDd018",
    "BhZP5018BiZP5018BjZP5018BkZP5018BlZP5018BmZP5018BnZP5018BoZP5018BpZP501cBhBgZP501cBhBhZP",
    "501cBhBiZP501cBhBjZP501cBhBkZP501cBhBlZP501cBhBmZP501cBhBnZP501cBhBoZP501cBhBpZP501cBiBg",
    "ZP501cBiBhZP501cBiBiZP501cBiBjZP501cBiBkZP501cBiBlZP501cBiBmZP501cBiBnZP501cBiBoZP501cBi",
    "BpZP501cBjBgZP501cBjBhZP501cD7D1DcyS0n7BJS1je7BJU1114BCa014BCcE477BJZ33v7BJZj114BJxf827B",
    "Jxq114HLp057BJxv414BJyc114T5227BJyh3a7BJyn114T6014Ss014T1014Tc014Ta114Uu014U7014Ut014BKw",
    "j087BJzl114BJyk014U2014HMe027BJ+8114T4087BJ+d114Mrk14Dj014D3014D6014Dh014BJ-m214J7014Kjx",
    "214BJZ7014BKZn014Tb014BKwi914Ud6Cg5Ez0TK014BDC8014ZXk014BDWa014BDG8014xWh014TRi014U-5024",
    "BHys014WKh014BEOh014VM7014WK8014YPm014zT9014-y5014BBRv014BBzq014BCHo014BEEf014wQ2014xIr0",
    "14yGp014y+u014BBBt014BELa014BGPh014TU2014Uxl014wY4014yQr014BBRd014BHQu014XKg014x-b014BBO",
    "d014BCL4014YW9014BAOo014BCAv014XWa014ZYn014xLa014yXs014BEGe014Ty6014UNn014UWu014ZG4014wW",
    "j014yQg014zX7014BAA1014BBQ6014BBSs014BDPf014BFZi014BGxf014BHPq014+Ec014+Lv014-N0014BA+90",
    "14BEY4014BHTv014BCWm014WGv014XY4014-D0014BADu014yT2014+Ga014BDG2014BFXn014WGo014XD2014wQ",
    "j014xOq014xYf014-Jf014-Rn014BFSb014UWi014BAEb014UOs014UOc014+Qs014-Nu014BA-h014BFTl014BC",
    "y0014YWf014wQ2014BCXu014TRp014W-7014YAi014yy7014zLg014UYn014+Hr014Tzv014Xz9014TQd014xGc0",
    "14ZLo014-J2014U+3014WCu014zY1014BBC9014BCVa014wzq014BDzg014xE8014YXu014BAX5014Yz0014zL50",
    "14TVe014UL9014UO9014wE1014-H7014BATf014BCWi014BEOf014UXl014VC2014WLj014XXc014ZO5014x-u01",
    "4+Ja014BFNd014BGTa014BHUn014BHWe014UUr014ZW6014wxn014BDx2014XTk014YMg014YQ0014ZEq014xZ30",
    "14yK9014zE9014+Oa014-Pk014BADf014BDZ6014BBHe014BEB3014BEwa014UQn014UV3014VFt014yG8014BCG",
    "2014BCVa014XW9014X-l014Yxr014wze014-Bu014yxl014TX4014VXp014W-7014XNq014YAs014yzi014zD901",
    "4-yq014BAC6014BERk014BFXm014BFw8014BGAo014Tyb014+Ne014BENk014BFVo014YH1014TU6014UGq014W-",
    "e014XBv014ZMp014wQ2014yOe014zS2014BBHs014BEDs014BHyd014ZU8014BFRe014UU9014Zxr014Z-j014xK",
    "1014xUs014zA9014zKp014+Db014-Ig014BGCu014ULd014YRe014BFTo014UBb014XIp014xPa014BDZa014Xyb",
    "014YK4014wAn014yy7014BFU6014UR9014VAf014XD5014ZQj014Zwe014wF8014xH5014zA6014zP2014-xp014",
    "BCGf014BCH1014BEOc014BFX2014UZv014xVq014VAt014yOg014zEo014BBPq014BFV3014BHCn014BHUv014Zy",
    "n014xOb014BAP8014+Wb014+Z0014-Ei014yW0014yEp014BCwo014TW0014BAZm014URq014UQ7014XV6014YWj",
    "014-Gm014Wy5014xIu014ZVk014BDZr014BCCc014BFSd014BCMb014XWj014UK0014VO0214WCq114ZTk214UOu",
    "014yZa014zWa014+Js014+Ku014+L5014+Mf014BFwm014-Fu014-zt114BBQi114BCXo214BEBo014BEHt314BG",
    "Hf014BGHs014BGJ8014BHNk014BEGu014BFVn014Tze014UH7014UKd014UW9014UX4014Uwh014VMt014VQ6014",
    "VT8014WC0014WF8014XD4014XDe014YEk014YL8014YMe014YPi014ZKf014ZP2014ZUh014wE5014xLn014xQq0",
    "14xZ2014yLe014yRb014zB2014+Eh014+Ju014+K9014+K8014+Kg014+Km014+Kt025+Md014+S0014+U1014++",
    "0014-Pk014-Q9014-S1014-xi014BAA5014BAPd024BATp014BBCn014BCIg014BCMm014BCY1014BCZp014BDGj",
    "014BDI8014BDzm014BEBo014BFX3014BF-v014BGBr014YDl014EQXe014BAQo214TR6014UNl014UL8014Ty001",
    "4UK5014UM0014UW7014UXq014VMt014VKl014VMp014VP2014WCq014WFj014WK4014WKk014WT2014WZ8014XWi",
    "014XWp014Xx9014Xzd014YGo014YKe014YI8014YMe014YL0014YPi014YRk014Y+4014ZAs014ZCi014ZKm014Z",
    "Tk014ZYn014ZYr014Zwm014wxp014wzq014xK1014xWr014xWb014xZ2014yAu014yLe014zz7014yRl014yVf01",
    "4yZa014zDh014zI6014zJr014zQt014zQv014zWa014zWr014zXk014zwa014zw0014+Gc014+Vh014++0014-Dr",
    "014-Kr014-Pk014-Zu014BAA5014BAwi014BA-f014BBxp014BCK1014BCM6014BCMm014BCVv014BCXo014BCWb",
    "014BCY1014BCXu014BCXd014BCZp014BCya014BDI8014BDZo014BEDi014BEMp014BETm014BFTs014BFX3014B",
    "Fwm014BF+r014BF-v014BGAb014BGBr014BGYi014BHys014EKCa014EKC4014EM+l014Oyt014QAo014QBp014E",
    "US9014EXGg014E-Wj014BHw3014BHyeB618D6D6018D6D9018D6Dc01cD6D6D901cD6D6Dc028DjDkc18BLkBLm0",
    "18BLkBL5018BLkBLb018BLuBLm018BLkBLd518BOpBNk118BPiBNn014BP2014BOg025BOj035BOr014BP8014BP",
    "a014Bb029BP9BO102dBP9BNsBO1029BOgBNn018BOgBNs018BOhBNs018BOiBNs018BOjBNs018BOkBNs018BOlB",
    "Ns018BOmBNs118BOoBNs018BOpBNs018BOqBNs018BOrBNs018BOsBNs118BOuBNs118BP0BNs018BP1BNs118BP",
    "3BNs018BP4BNs118BP6BNs018BP7BNs018BP8BNs018BP9BNs018BPaBNs018BOlBNp018BOhBNv018BOrBNv018",
    "BP4BNv018BOgBOs024BTh044BTr044BTu044BU0044BTq044BTv044BTp044BV4044BV6044BU4044BU3044BU60",
    "44BU7024BUd024BUc024BUe024BU8024BUo024BUh044BV9044BVf044BVj044BVh024BVq044BVr024BW0044BW",
    "1044BVu024BWi024BWjB144BVd024BW7024BW6024BW8018BW7BTk024BWb024BW5024BW9044BWg024BS9028BR",
    "6BR7028BR6BWl028BR6BS8028BR6BW7028BR6BW6028BR6BW8038BR6BWg038BR6BS9044BWc029BR6BRc018BR6",
    "BS5029BR6BS9039BR8BRc018BR8BS5029BR8BS9039BRaBRc018BRaBS5029BRaBS9018BRbBRc018BRbBS5029B",
    "RbBS9018BRcBRd018BRcBS5018BRdBRc018BRdBS5029BReBRc018BReBS5039BRjBRc018BRjBS5018BRlBRd01",
    "8BRlBS5039BRmBRc018BRmBS5018BRnBRd018BRnBS5018BRoBS5018BRpBRc018BRpBS5018BRqBRc018BRqBS5",
    "039BS1BRc018BS1BS5029BS1BS9018BS2BRd018BS2BS5029BS2BS9018BS3BR7039BS3BRc029BS3BS4029BS3B",
    "S9039BS4BRc018BS4BS5029BS4BS9039BS5BRc018BS5BS5029BS5BS9039BS6BRc018BS6BS5029BS6BS9018BS",
    "7BRc018BS7BS5029BS7BS9039BSaBRc018BSaBS5029BSaBS9018BRgBTg018BRhBTg018BS9BTg01cB0BScBSh0",
    "1cB0BSdBSh01cB0BSeBSh01cB0BSfBSh01cB0BSgBSh01cB0BShBTg029BR6BRh029BR6BS5029BR6BS9029BR8B",
    "Rh029BR8BS5029BR8BS9029BRaBRh029BRaBS5029BRaBS9029BRbBRh029BRbBS5029BRbBS9029BS1BS9029BS",
    "2BS9018BS3BR7029BS3BS4029BS3BS9018BS4BS5029BS4BS9018BS5BR7018BS5BS5029BS6BRh029BS6BS5029",
    "BS6BS9018BS9BTg029BSaBRh029BSaBS5029BSaBS9039BR6BRc018BR6BS5018BR6BS7039BR8BRc018BR8BS50",
    "18BR8BS7039BRaBRc018BRaBS5018BRaBS7018BRbBS5018BRcBRd018BRcBS5018BRdBRc018BRdBS5018BReBR",
    "c018BReBS5039BRjBRc018BRjBS5029BRlBRd018BRlBS5039BRmBRc018BRmBS5018BRnBRd018BRoBS5018BRp",
    "BRc018BRpBS5018BRqBRc018BRqBS5039BS1BRc018BS1BS5018BS2BRd018BS2BS5039BS3BRc029BS3BS4039B",
    "S4BRc018BS4BS5018BS4BS7039BS5BRc018BS5BS5039BS6BRc018BS6BS5018BS6BS7018BS7BRc018BS7BS501",
    "8BS7BTg039BSaBRc018BSaBS5018BSaBS7018BR6BS5018BR6BS7018BR8BS5018BR8BS7018BRaBS5018BRaBS7",
    "018BRbBS5018BRbBS7018BRjBS5018BRjBS7018BRkBS5018BRkBS7029BS3BS4018BS4BS5018BS6BS5018BS6B",
    "S7018BSaBS5018BSaBS701cBS0BSeBSh01cBS0BSfBSh01cBS0BSgBSh029BRnBS9029BRpBS9029BRqBS9029BR",
    "jBS9029BRkBS9029BRdBS9029BRcBS9029BReBS9029BRlBS9029BRmBS9039BRkBRc018BRkBS5018BRkBRh018",
    "BRjBRh018BRlBRh018BRmBRh029BRnBS9029BRpBS9029BRqBS9029BRjBS9029BRkBS9029BRdBS9029BRcBS90",
    "29BReBS9029BRlBS9029BRmBS9039BRkBRc018BRkBS5018BRkBRh018BRjBRh018BRlBRh018BRmBRh039BRkBR",
    "c018BRkBS5018BRjBS7018BRkBS7018BRnBS5039BRjBRc039BRkBRc018BRnBS5018BRoBS5028BR7BSbi1cBRa",
    "BRcBS502cBRaBRdBRc01cBRaBRdBS501cBRaBReBS503dBRaBS5BRc02cBRcBS5BRd01cBRdBS5BSa01cBRdBS5B",
    "S901cBRjBRdBRc01cBRjBRcBRd01cBRjBRcBS902cBRjBS5BRd01cBRjBS5BRc02cBRjBS5BS502cBRlBRdBRd01",
    "cBRlBS5BS502cBRkBRdBS501cBRkBRcBSa02cBRkBS5BRe02cBRkBS5BS501cBRmBRdBS902cBRmBReBS502cBRn",
    "BS5BRd01cBRnBS5BS501cBRnBS5BSa01cBRpBRcBS502cBRpBS5BS501cBRpBS5BS901cBRqBS5BS501cBRqBS5B",
    "Sa01cBRqBS5BS902cBS1BReBS501cBS2BS5BRd01cBS2BS5BS501cBS4BRdBS501cBS4BRdBSa01cBS4BRdBS902",
    "cBS4BRcBRc02cBS4BReBS502cBS4BS5BRd01cBS5BRdBRc01cBS5BRdBS501cBS5BRdBSa01cBS5BRcBRd01cBS5",
    "BRcBS501cBS5BReBRc01cBS5BReBS521cBS5BRcBRe01cBS7BS5BRc01cBS7BS5BS501cBS6BRdBS501cBS6BRdB",
    "S902cBS6BRcBS501cBS6BRcBS901cBS6BS5BSa01cBS6BS5BS902cBSaBS5BS501cBR8BReBSa01cBRaBRcBSa01",
    "cBRaBRcBS901cBRaBReBSa01cBRaBReBS901cBRaBS5BSa01cBRaBS5BS901cBRcBS5BSa01cBRcBRdBS901cBRc",
    "BS5BS901cBRjBReBS901cBRlBRdBSa01cBRkBRdBSa01cBRmBRdBSa01cBS4BRcBSa01cBS4BS5BSa01cBSaBRdB",
    "Sa01cBSaBRcBSa01cBSaBS5BSa01cBS5BS5BSa01cBS2BS5BSa01cBS6BRdBSa01cBS2BS5BRd01cBS4BRdBS501",
    "cBRpBS5BSa01cBS3BS5BSa01cBS6BRcBRd01cBS5BReBSa01cBS4BRcBS501cBS3BS5BS501cBS4BRcBS501cBS6",
    "BRcBRd01cBRcBRdBSa01cBRdBRcBSa01cBS5BRcBSa01cBS1BS5BSa01cBR8BRdBSa01cBS3BS5BS501cBRpBRcB",
    "S501cBRlBS5BS501cBRjBReBSa01cBS6BRcBSaB81cBRlBS4BWi01cBS2BS4BWi01gBR7BS4BS4BS701gBR7BS3B",
    "R8BRh01gBS5BRdBS5BRf01gBRlBS4BRpBS501gBRhBRjBS8BS401gBRpBS4BSaBS701gBS8BRjBS4BS501cBRlBS",
    "4BS901C8BRlBS4BS9B0BR7BS4BS4BS7B0BRpBS4BSaBS7B0BS8BRjBS4BS501B0BRcBS4B0BRcBS4BR7BS4BS701",
    "gBRhBWcBR7BS4j14Bc014MA1125Bq014B1014Bv025MAmo14IAk014IAj024Cv025B8014Dr014Dt025MAk025MA",
    "g025MAa025MA8045MAc214Cr014Ct048B0Y5034Cv014Bc014MA1214Br014Bq014Bv014B1014IAk025B8014Dr",
    "014Dt025MAk014B3014B6025Ba014Bd014Bs014Bu014Bt114Cs025B4014C0418B0BSb018BS0BSb018B0BSc11",
    "8B0BSd118B0BSe018BS0BSe018B0BSf018BS0BSf018B0BSg018BS0BSg018B0BSh018BS0BSh018B0BSi018BS0",
    "BSi025BR1025BR2025BR3025BR4025BR5034BR6024BR7044BR8024BR9044BRa044BRb044BRc044BRd044BRe0",
    "24BRf024BRg024BRh024BRi044BRj044BRk044BRl044BRm044BRn044BRo044BRp044BRq044BS1044BS2044BS",
    "3044BS4044BS5044BS6044BS7024BS8024BS9044BSa028BS4BR2028BS4BR3028BS4BR5028BS4BR74B05B10q5",
    "D10B45Cr025KM5014Be025MAc014MA1014MHr014MHi014MF1014MF3014MF5014MF7014MF9014MH3014MH5014",
    "MH7014MG3014MHs014MF2014MF4014MF6014MF8025MFa014MFd014MFf014MFh014MFj014MFl014MFn014MFp0",
    "14MFr014MFt014MFv014MG1014MG4014MG6014MG8065MGa014MGi014MGl014MGo014MGr055MGu014MH4014MH",
    "6065MH8014MHf014MHj025MEp125EI0014ENa014EI2025ENc035EI3065ENg014EIq035EI6014EJ10a5EI9365",
    "EL1265EL7265ELd235ELj325F2014Fc018B0Y4014F6014F5014IF9114JI2045IMg014JN0014JObBAhB85CBB8",
    "E8B45CBGoEsb5CBMn1f5CBN3175CBNj125CBNrPb25Wg014H6014Up014Sj114V3014BKx6014V5014V4025Sm01",
    "4HMh014So014Su014V9014T4014T2014T0014Ur014J7014Us014T7014U4025Va014Tc014DXY4014BJye014Te",
    "014DXY5014Ue014DXY6014Ho025Tm014Dh014Tq014DXY8025Tt014U0014V8014V6014BKx7014V7014U8014LD",
    "h114Uf025V1014Uo035O0014DXYa014DXYuBG5Bj5CDG0Etm5CDLgCZqB05CGG0VM0B05CxT0C0p5CxVrXQtq5D1",
    "0a5BgBD418DUKnDUL5018DUKoDUL505dDUKoDUL5DULeCm18DUNpDUL5018DUNqDUL501cDUNpDUL5DULe01cDUN",
    "qDUL5DULe01cDUNpDUL5DULf01cDUNqDUL5DULfRvq5D10q5D10q5D1075D11i5D90q5D10q5D1027D1014D4214",
    "D7225Da245De185Dj045D1127D6065D91b5Dg0q5D10q5D1025D1145D4285Da175Dj1q5D1025D1145D4155D91",
    "14Df375Dj1q5D10q5D10q5D10q5D10q5D10q5D10q5D10q5D10q5D10q5D10q5D10q5D10q5D1014Jh014Rn2h5z",
    "h014zo075+3014IQ70h5zh024+3065+4014IQ2014zl014zo014zq014+6014+1014+00h5zh014zo075+3014IQ",
    "70h5zh024+3065+4014IQ2014zl014zo014zq014+6014+1014+00h5zh014zo075+3014IQ70h5zh024+3065+4",
    "014IQ2014zl014zo014zq014+6014+1014+00h5zh014zo075+3014IQ70h5zh024+3065+4014IQ2014zl014zo",
    "014zq014+6014+1014+00h5zh014zo075+3014IQ70h5zh024+3065+4014IQ2014zl014zo014zq014+6014+10",
    "14+0024+t2a5Bg0a5Bg0a5Bg0a5Bg0a5BgCBg95BBg035BBq0b5BBu014BCb025BCd014BJU9014BGp014BCm014",
    "BCo014BH9014BFf014BGf095BBg025BBq025BBu014BC1065BC3025BCa014BEh014BCm014BCl014BCv014BFb0",
    "14BJSh014BFhCEiB25DwJ2BGu25BR7014BRc014BRf114BS8014BRi014BRd014BRn014BSa045BS3014BRj014B",
    "Rp014BS1014BRl014BS2014BRh014BRk025BRa014BRe014BRg014BRm014BRo014BRq014BTe014BVq014BV101",
    "4BTf114BR8014BRc114BS7214BRd114BSa045BS3014BRj014BRp014BS1014BRl014BS2114BRk025BRa014BRe",
    "114BRm114BRq614BRc414BRd114BSa127BS4014BRj014BRp114BRl014BS2114BRk214BRe114BRm114BRq114B",
    "Vq114BTf114BR8014BRc114BS7214BRd014BRn014BSa027BS3014BS6014BRj014BRp014BS1014BRl014BS211",
    "4BRk025BRa014BRe114BRm014BRo014BRq014BTe114BV1125BR7014BRc014BRf025BS7014BRi014BRd014BRn",
    "014BSa135BS4014BRj014BRp014BS1014BRl014BS2014BRh014BRk025BRa014BRe014BRg014BRm014BRo014B",
    "Rq514BR8014BRc014BRf114BS8014BRi014BRd014BRn014BSa135BS4014BRj014BRp014BS1014BRl014BS201",
    "4BRh014BRk025BRa014BRe014BRg014BRm014BRo014BRqS518BgBc018BhBc018BiBc018BjBc018BkBc018BlB",
    "c018BmBc018BnBc018BoBc018BpBc51cB8D1B901cB8D2B901cB8D3B901cB8D4B901cB8D5B901cB8D6B901cB8",
    "D7B901cB8D8B901cB8D9B901cB8DaB901cB8DbB901cB8DcB901cB8DdB901cB8DeB901cB8DfB901cB8DgB901c",
    "B8DhB901cB8DiB901cB8DjB901cB8DkB901cB8DlB901cB8DmB901cB8DnB901cB8DoB901cB8DpB901cB8DqB90",
    "1cMAkDjMAl014D3014Di018D3D4018DnDq1q5D1018D8Dm018DdDm018DjD4018DjDj01cDgDgDm018DnD3q29Dd",
    "D3018DdDiB318D4DaDf18MDrMCb018MFjMFj014MFld14YSb014Wwn014U+c014MG7014TUc014WIq014BCP3014",
    "WJ9014TV4014ZR0014yJ1014ZMp014USd014Xyc014UMd014ZNg014UQt014-K2014zIv014BDF9014WHg014VBp",
    "014xYk014YUl014Ywl014TQ0014TQ9014BECa014XP6014TRd014U-j014YY7014BDLg014YSj014+M1014+Tq01",
    "4VA8014xU0014ZY9014ZY8014zJj014UTi014VNm014BEKd41cMAkZZcMAl01cMAkTQ9MAl01cMAkTUcMAl01cMA",
    "kWy9MAl01cMAkyFpMAl01cMAkYSjMAl01cMAkzWnMAl01cMAkUWtMAl01cMAkZKnMAl714Xyn014U-fCMua5BgB-",
    "A614TRt014TRo014TS1014EAJ2014Tx0014Tze014Tzr014UA2014UDq014UEp014UH7014UGf014NEu014EBRq0",
    "14UKd014UKk014UL4014ULn014EBIs014NFp014UL7014UMd014EBKb014UMn014UN4014TWc014UNc014UNl014",
    "FEOv014UPl014UQ3014NGv014URr014US6014UTi014UTn014NIl014UW7014UW9014UX4014UXq025UY5014UYn",
    "014Uw9014Uwh014Uwq014Uxj014Uxt034Uxv014ECRc014yDg014U+a014U+v014ECx3014U-b014U-h014VA601",
    "4VEu014VBo014VC8014VD8014VF2014VHm014VIg014VKj014VL3024VM4014VMp014VNb014VNj014VO2014VYm",
    "014VQ6014VYn014VSh014VTk014UQ7014WHe014V+e014V-k014WAd014Vyb014WBi014WBh014WFc014EFH4014",
    "WHi014WHn014WI6014WIq014WJ2014WL2014EFV8014EFXa014WPc014WQr014WR7014WOo014WT6014NXe014NX",
    "s014WY8024WZu014EGO8014W+3014W+o014W-7014W-j014EGYo014W-v014XA6014Xwj014XB2014Ny1014XD00",
    "14XDe014XG0014XEd014EHP4014XK3014EHP6014XLe014XLb014XLs025XP1014OBf014XPt014XR8014XRt014",
    "XT9014OD2014EIM3014ODs014XVg014XVj014XVm014XWa014FIyi014XXu024EIZh014BAQ1024XZ2014OG7014",
    "EMVo014EYOq014Xx2014Xxb014OH3014Xyq014X+d014X+n014X-p014YE1014OJq014OIs014YEk014EJWk014Y",
    "G7014YK8014YKc014YKe014YKc014YLq014YMe014YNi014YN4014YNf014YOu014YPi014YPm014YQg014YQr01",
    "4YSt014YVh014YWk014Ywg014EKYc014YZt014YXs014Yx8014Yy3014Y-4014EK-h014ZB2014Y+5014Yz9014O",
    "Re014ZD9014ZDu014ZEt014ZDn014OTc014ZKf014ZLc014EMAa014ZP3014ZXo014ZS9014OYp014ZUh014OY80",
    "14OX4014UMi014UMl014ZY0014ZUs014BAFd014Q+p014ZYn014ZYr014ZZ1014Zwu014Zwj014EM+3014Ow9014",
    "Z-q014Zy5014wCi014wE5014ENDd014wEe014wAv014wIk014Oyt014wK2014wN3014wPa014wV8014ENV3014wW",
    "r014PAo014wZ1014EOF7014wwk014PCe014wxi014wyv025wzq014EOUd014EHIb014EOXq014xCe014EPFs014x",
    "Fv014xGd014xD7014xIm014xJu014xLn014xK1014xL9014xLo014xM5014EPIu014xJk014xRf014xTe014PJj0",
    "14xWb014xW7014EPWh014xPp014xxe014EPwu014EPye014x+6014yBp014yAu014yAr014PMm014yCa014yDt01",
    "4yDn014yFd014EBJ5014yK5014EQT3014yMs014EQzb014yR8014yRl014ySg014ERQ8014yU0014yUl014ERZl0",
    "14ESAk014yxq014yyb014PVc014yz5024PVo014zC7014zCs014zDh014zE5014zGa014PYr014zJ4014ETBm014",
    "zJu014ETEi014zLg014EIMv014zQg014ETz1014ETzo014EUC4014P-s014QA8014zXk014EUHj014EUHi014EUI",
    "p014EUJj025zYu014zYv014zwa014QBp014zyb014QC6014QEm014EVAt014+Ce014+Ec014+Gc014QH3014EVR6",
    "014+Km014EVUq014EVW5014+Mf014+Pb014QJf014+S0014+Sa014+Sf014EWLs024EWV7014+Xe014QQ2014EWz",
    "b014++6014++9014QR7014EXE0014-Gi014QV0014-H8014-H3014-I0014EXy6014-L3014QY1014-O7014-Q20",
    "14-S5014QZk014EYR8014EYS7014Qwp014EYWp014-xq014EYZu014-yl014--q014BAA5014EZGq014EZJ3014B",
    "AD0014EZN8014BADg014EMwv014Q+l014BAFi014BAI3014RAb014BAJu014WVl014EZz7014EZzl014EMyj014E",
    "Mys014BAQ1014BAQ4014BDyu014RDb014BAUh014BAUb014BAUt014UVj014BAVh014BAVj014BAVt014BAX6014",
    "EwZs014BAX5014BAYt014BAx3014BAzd014BAZ3014BAzt014BA-7014BBCn014BAwj014BA+a014BA+c014BA+s",
    "014ExBm014ExLb014ExGl014RJb014BBHh014BBHj014BBIm014Ey+a014BBL4014ExZc014RKt014RL1014Exzh",
    "014EyGi014RLb014BBSg014BBSs014BBT7014BBT9014BBV9014BBU8014BBYe014BBX2014BBxp014BBZ8014BB",
    "xb014BBy6014ROn014BB-1014BCA1014RPp014BCD0014BCD3014EzT7014BCGn014BCGu014RRl014BCHq014NF",
    "r014E+Fe014E+L6014RVu014RW7014BCV0014BCXd014BCya014BDCl014E-F8014BDFb014BDG1014BDIr014BD",
    "Ln014E-Zf014ECA4014BDOb014BDNs014BDPg014ECGu014BDWk014BDZo014FBOi014FBPd014BEEk014BEHh01",
    "4BEIh014FBZe014BEIr014BERo025BEWn014BETs014BE-p014BFAl014FC-q014BFMb014SMl014BFNn014FDLn",
    "014SP6014BFW3014XNi014BFZ3014FEK5014FEQq014STe014STm014BF-0014FFAa014SVi014FFEm024BGAb01",
    "4BGB9014FFNm014BGH2014SZj014BGJ9014BGN7014BGO2014BGPu014S+e014FGZg014BGYi014BHC0014BHHt0",
    "14TGe014THd014BHL7014FIGe014THo014FII5014FIQe014FIUh014BHVr014TKm014BHXp014BHXu014BHY501",
    "4BHYf014BHYm014BHZr014FJQ0"]).toList
  mappedRows numbers.length 0 #[] numbers

/-- The characters that a domain name may hold as they are. -/
def validRanges : Ranges :=
  .ofRuns [
    "0C1qB5B1711121112423131n17B1111111111111111111111111111111111111111111111111113112111111",
    "3111111121111111111111111111111111111111111111111111112111111121112132412133212111112112",
    "112131112317a111111111111112111111111111111112413111111111111111111111111111111111111111",
    "11111111111111111117212211411111111D19v625Cr21391B01111111133i1rB38111111111111111111111",
    "111131211122BjBg111111111111111111111111111111111911111111111111111111111111111111111111",
    "1111111111111111211111111111121111111111111111111111111111111111111111111111111111111111",
    "11111111111111111111111111111111111111B9Be13231Bn8r46hm1Co4D41Bg2Br2D5eBr2Bh2f1s211b5B07",
    "Cb1Dl8B418222m17113429222481842p2316422m171121222115422331a19ha319131m1712152a131321f42c",
    "771318222m17121529222373752ia216331432111232333c4533142161el5d131n1g291314721312242a7m13",
    "1n1a152913147253142a13cd131Bj13164g2q131i3o191127314611186a23cBi174tB5211151o111c1a25111",
    "71a42B0c1Bm14141414141c134211571h14141414141c131f1dB5F0BgBc1D22H8142711142B9142B11427111",
    "42f1Bp142C32B03q6CmaU01s3Cp7m9o9kcd1312cBk2B82a6a6b5a6Cp7Bb5C6av1c4c413Ba25bBc4q6b3Bu2C1",
    "1t2b6a6e2Be2ckCd1F68Bs3f3Bja1Bl88Bb5Bc31b1i1sd1B2B5C011111111111111111111111111111111111",
    "1111111111111111111111111111111111111111111111111111111111111111111111111111111111111111",
    "1111111111111111111111111152211111111111111111111111111111111111111111111111111111111111",
    "11111111111111111111111111111111111111986a88886a88881111111111111Bj241f193328314e1l22115",
    "1c3183212411183d17C181peB1j131b122523111111141b16456Bg315124Es212Ho2HvmbF0BJ11D73D51En2E",
    "aBgBg11321111114112165111111111111111111111111111111111111111111111111111111111111111111",
    "1111111111111111111111111111111181114115Bd11512Bo81eo97171717171717171DuB2q141CjIe11Bj11",
    "351Cm22221Cv6BbD02eC6agC88Bf1M0yEd3Bn9Ksl11111111111111111111111111111111111111111111j11",
    "111111111111111111111111112Cq8B211111111111113111111111111111111111111111111111111111111",
    "1111111111111111111118111121111111141112111311111111111111111111515111111111111111411121",
    "11111111111111q22Bj3a6Bo8C68c6Dkbu3Ce1b4B11Bn9e2a2D7osa6262697171Bc4912CkBe2a6Kz4cn4BhIQ",
    "i21112a1111223Hk1EjB1LbiC02Bm8Bd3B0gl2Bc1Mcc1q1j121f2eB2Dr534Bd3Co1d31BfBeE2t3Bhfs4B49u5",
    "Bb5u1B54eCiDm2aBeB44B88Bkb1B7b1f17123BkcJn9ma8o1Dv6211Bc12312n1C889Bgj125B13r5rB6Bo4k2Bi",
    "1258131t234a797C0B0B74c9Bm3t2r5q74c7CgC9DnBj7Be8a6gpt82Ggv1Ba1322g689B1Be8BamqB6skn9Ce4B",
    "49Bu15dp7a6Bl1i8B79D01kbi1BfBu711141f1b6Br5a6418222m1712151a22232161572735ba11211B61a112",
    "1141a1282tCs15uC88aF6Bm2B6B2C5ba6djBq6a6ksr2f4nFpBsE4Bjc82128121u122c9aC682Be2brC88CjdC9",
    "7aCm8CoB2ea691Bd1eat3B02m1eC97121Bc3112198a66121B512167a6Bc4aHmp7h1B93tCl1fBidyrD6Df15bG",
    "4CScD3dBBggmaDyr5S7GVpBqBW6Rp7v1a4Ch1a6u26aC6aa171l5jNgBqH6BrB0pBcCb4Bp7hC05b79HGmB9B0D1",
    "DjIPt417121J3f1t321e48McCI4Db5d397a24Dx0GmB433Nk6nfhfBe2n9DkBsHmaB72Bl7e8C06BalC6DqkckcC",
    "n9pBE7Ucf51fBCgv66Gl71h271215D41DgBd3e2a42K0vhBq51OgBaGmBb41G0v1m82H0714121f1G52gCbBa4a4",
    "2YhC4CcBtNi2IeBc4D4cf2f1f1B5l5v1B0q3B31tBoqD06Eq+p3h3d3Gq6c41fc4Bo8a6B88u2c42e9B7Ko8e2d3",
    "b3Bp114g2c4a7Ej1Csa1BA5BJX0B0EIu2FUe2HJhfTeEN2Ewb5IJa"]

/-- The characters that a domain name drops. -/
def ignoredRanges : Ranges :=
  .ofRuns [
    "Fd1V11DQf2BSj2Cl5B-r1Ck556EHk1BTErgHf1F01BPHv4FGf8YLy5Hg"]

/-- The last run that starts at `point` or before it, among the positions from `low` up to, but
not including, `high`. -/
def searchMapped (runs : Array MappedRun) (point low high : Nat) (found : Option MappedRun) :
    Option MappedRun :=
  if low < high then
    let middle := (low + high) / 2
    match runs[middle]? with
    | none => found
    | some run =>
      if point < run.first then searchMapped runs point low middle found
      else searchMapped runs point (middle + 1) high (some run)
  else found
termination_by high - low

/-- The characters that a run gives for a scalar value that belongs to it. -/
def MappedRun.apply? (run : MappedRun) (code : Nat) : Option (List Char) :=
  let offset := code - run.first
  if offset % run.stride = 0 ∧ offset / run.stride < run.count then
    let advance := offset / run.stride * run.step
    let last := (run.target.drop (run.target.length - 1)).map (· + advance)
    some ((run.target.take (run.target.length - 1) ++ last).map Char.ofNat)
  else none

/-- Whether a domain name may hold a character as it is, its ASCII part apart. -/
def isValid (character : Char) : Bool :=
  validRanges.contains character

/-- An ASCII capital letter in lower case, and any other character as it is. -/
def lowerAscii (character : Char) : Char :=
  if 65 ≤ character.toNat ∧ character.toNat ≤ 90 then Char.ofNat (character.toNat + 32)
  else character

/-- The characters that a character becomes in a domain name; ASCII is decided without the
tables. -/
def mapCharacter (character : Char) : Option (List Char) :=
  let code := character.toNat
  if code < 0x80 then some [lowerAscii character]
  else if isValid character then some [character]
  else if ignoredRanges.contains character then some []
  else (searchMapped mappedRuns code 0 mappedRuns.size none).bind fun run => run.apply? code

end QuizFeed.Url.Domain
