import QuizFeed.Text.Classification

/-!
# Joining types

How a letter of a cursive script connects to its neighbours.
-/

namespace QuizFeed.Text

/-- The sides on which a letter connects. -/
inductive Joining where
  | left
  | right
  | both
  | transparent
  | none
  deriving DecidableEq, Repr

/-- The joining types, by their numbers. -/
def joiningClasses : Classification :=
  .ofRows [
    "Fd13SiDg3Ij73I7Bd3113123123113C8b31133121410120110120110520410d21720110220l3e22013031131",
    "0g20i10B62011022091012011012011022021111073263223143021a32212f13011013032051042011092011",
    "0120110120110220110r32110b20310f2021042011012021032021062B6b3pB12093913o43193133153i1105",
    "20210120110a20110120310334121421110120215j13122520119830a20311110220210620110f21o31B03Bn",
    "13113483413373a23t13Bq13443813k23q13223Bp13423423233313u23313b23Bp13453123413k23m63113Bq",
    "13213143813723b23u13Bt13c13Bi13313Bn13133533143723b23t13Bq13213613523k23s23Bp23443813k23",
    "t13C813733113Cq13273c83D213293b73C923r13113113Bne31531235b31B43913D643163123223p23433g43",
    "d13223613f13Vv33zi33t23u23u23C0231738132b3913B912333113gCp2c230B22013012Dl33423913633Gr2",
    "3213Bq131731131132836a3213Bgv3Bh43Bg13153113513B893c23B043223133Bo13123313133Bq83223Eo33",
    "1d3173413613323G6C03Qb13223q53Bh53563D0B13C-u33Ed13D0B03Ra43Db23zOk431a3B023Cg23Ig133134",
    "13p23513jBi2010Ch23qi3d13B683pb3Be33Bg13243223B713C363223223c13813Bf13Bj13133223523113Ba",
    "23813He13213413TZg13X1g3gg3Gf13Hp33Q113H213El53BU633123543B833413E0520111111212100510420",
    "10052011032011211023442011Eg12011012031032011022011012021012011n41022Kh100B12011012043M3",
    "23Cg33Bg320110h21b3032011r420210c2043Ba12122031112021022011022112021012411012010Bl13Bmf3",
    "B913223a33Bh43223713Bt33B453183Bu13c23Bk93a43213Cv33213123613213Et13383l23Bp23313B573353",
    "G383233113n13Ck63113423123He43623123r23Cl83213123Da13113263113D533243153I393123I02311341",
    "3Eg43223413B0a3B863243813963233Bed3123Mm73163113Cim3273123123Dq63313123173113C823313113K",
    "r23b23Bk53513113FHdh36f3NUq53Br73BAo13Bv43Ch13TFo23143ESsBe32n3R0339g3273u43Ek33BzrBn34B",
    "i3813e13m531f3BKg731h3273123153D413F073Ln13Bt43Ps43-073B9C42083YFVl13uD03E0Hg3"]

/-- The joining type of a character. -/
def joining (character : Char) : Joining :=
  match joiningClasses.classOf character with
  | some 0 => .left
  | some 1 => .right
  | some 2 => .both
  | some 3 => .transparent
  | _ => .none

end QuizFeed.Text
