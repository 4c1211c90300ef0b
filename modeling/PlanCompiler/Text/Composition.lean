/-
# Text.Composition -- letters and marks that are one character

Many letters with a mark are characters of their own.  The pairs are those that
Unicode lets compose: a mark is listed with the letters it joins and, in the same
order, with what they become.  Pairs with signs that are marks themselves, or of
higher code points, are listed by number.  Korean syllables are composed by
arithmetic.
-/

namespace PlanCompiler.Text

set_option autoImplicit false

/-- The marks with the letters they join, and the letters with that mark. -/
def composedLetters : List (Char × String × String) := [
  ('\u0300', "AEIOUaeiouÜüNnЕИеиĒēŌōWwÂâĂăÊêÔôƠơ",
    "ÀÈÌÒÙàèìòùǛǜǸǹЀЍѐѝḔḕṐṑẀẁẦầẰằỀềỒồỜờ"),
  ('\u0300', "ƯưYyἀἁἈἉἐἑἘἙἠἡἨἩἰἱἸἹὀὁὈὉὐὑὙὠὡὨὩαεη",
    "ỪừỲỳἂἃἊἋἒἓἚἛἢἣἪἫἲἳἺἻὂὃὊὋὒὓὛὢὣὪὫὰὲὴ"),
  ('\u0300', "ιουωΑΕΗ᾿ϊΙ῾ϋΥ¨ΟΩ",
    "ὶὸὺὼᾺῈῊ῍ῒῚ῝ῢῪ῭ῸῺ"),
  ('\u0301', "AEIOUYaeiouyCcLlNnRrSsZzÜüGgÅåÆæØø",
    "ÁÉÍÓÚÝáéíóúýĆćĹĺŃńŔŕŚśŹźǗǘǴǵǺǻǼǽǾǿ"),
  ('\u0301', "¨ΑΕΗΙΟΥΩϊαεηιϋουωϒГКгкÇçĒēÏïKkMmÕõ",
    "΅ΆΈΉΊΌΎΏΐάέήίΰόύώϓЃЌѓќḈḉḖḗḮḯḰḱḾḿṌṍ"),
  ('\u0301', "ŌōPpŨũWwÂâĂăÊêÔôƠơƯưἀἁἈἉἐἑἘἙἠἡἨἩἰἱ",
    "ṒṓṔṕṸṹẂẃẤấẮắẾếỐốỚớỨứἄἅἌἍἔἕἜἝἤἥἬἭἴἵ"),
  ('\u0301', "ἸἹὀὁὈὉὐὑὙὠὡὨὩ᾿῾",
    "ἼἽὄὅὌὍὔὕὝὤὥὬὭ῎῞"),
  ('\u0302', "AEIOUaeiouCcGgHhJjSsWwYyZzẠạẸẹỌọ",
    "ÂÊÎÔÛâêîôûĈĉĜĝĤĥĴĵŜŝŴŵŶŷẐẑẬậỆệỘộ"),
  ('\u0303', "ANOanoIiUuVvÂâĂăEeÊêÔôƠơƯưYy",
    "ÃÑÕãñõĨĩŨũṼṽẪẫẴẵẼẽỄễỖỗỠỡỮữỸỹ"),
  ('\u0304', "AaEeIiOoUuÜüÄäȦȧÆæǪǫÖöÕõȮȯYyИиУуGg",
    "ĀāĒēĪīŌōŪūǕǖǞǟǠǡǢǣǬǭȪȫȬȭȰȱȲȳӢӣӮӯḠḡ"),
  ('\u0304', "ḶḷṚṛαΑιΙυΥ",
    "ḸḹṜṝᾱᾹῑῙῡῩ"),
  ('\u0306', "AaEeGgIiOoUuУИиуЖжАаЕеȨȩẠạαΑιΙυΥ",
    "ĂăĔĕĞğĬĭŎŏŬŭЎЙйўӁӂӐӑӖӗḜḝẶặᾰᾸῐῘῠῨ"),
  ('\u0307', "CcEeGgIZzAaOoBbDdFfHhMmNnPpRrSsŚśŠ",
    "ĊċĖėĠġİŻżȦȧȮȯḂḃḊḋḞḟḢḣṀṁṄṅṖṗṘṙṠṡṤṥṦ"),
  ('\u0307', "šṢṣTtWwXxYyſ",
    "ṧṨṩṪṫẆẇẊẋẎẏẛ"),
  ('\u0308', "AEIOUaeiouyYΙΥιυϒЕІеіАаӘәЖжЗзИиОоӨ",
    "ÄËÏÖÜäëïöüÿŸΪΫϊϋϔЁЇёїӒӓӚӛӜӝӞӟӤӥӦӧӪ"),
  ('\u0308', "өЭэУуЧчЫыHhÕõŪūWwXxt",
    "ӫӬӭӰӱӴӵӸӹḦḧṎṏṺṻẄẅẌẍẗ"),
  ('\u0309', "AaÂâĂăEeÊêIiOoÔôƠơUuƯưYy",
    "ẢảẨẩẲẳẺẻỂểỈỉỎỏỔổỞởỦủỬửỶỷ"),
  ('\u030a', "AaUuwy",
    "ÅåŮůẘẙ"),
  ('\u030b', "OoUuУу",
    "ŐőŰűӲӳ"),
  ('\u030c', "CcDdEeLlNnRrSsTtZzAaIiOoUuÜüGgKkƷʒ",
    "ČčĎďĚěĽľŇňŘřŠšŤťŽžǍǎǏǐǑǒǓǔǙǚǦǧǨǩǮǯ"),
  ('\u030c', "jHh",
    "ǰȞȟ"),
  ('\u030f', "AaEeIiOoRrUuѴѵ",
    "ȀȁȄȅȈȉȌȍȐȑȔȕѶѷ"),
  ('\u0311', "AaEeIiOoRrUu",
    "ȂȃȆȇȊȋȎȏȒȓȖȗ"),
  ('\u0313', "αΑεΕηΗιΙοΟυωΩρ",
    "ἀἈἐἘἠἨἰἸὀὈὐὠὨῤ"),
  ('\u0314', "αΑεΕηΗιΙοΟυΥωΩρΡ",
    "ἁἉἑἙἡἩἱἹὁὉὑὙὡὩῥῬ"),
  ('\u031b', "OoUu",
    "ƠơƯư"),
  ('\u0323', "BbDdHhKkLlMmNnRrSsTtVvWwZzAaEeIiOo",
    "ḄḅḌḍḤḥḲḳḶḷṂṃṆṇṚṛṢṣṬṭṾṿẈẉẒẓẠạẸẹỊịỌọ"),
  ('\u0323', "ƠơUuƯưYy",
    "ỢợỤụỰựỴỵ"),
  ('\u0324', "Uu",
    "Ṳṳ"),
  ('\u0325', "Aa",
    "Ḁḁ"),
  ('\u0326', "SsTt",
    "ȘșȚț"),
  ('\u0327', "CcGgKkLlNnRrSsTtEeDdHh",
    "ÇçĢģĶķĻļŅņŖŗŞşŢţȨȩḐḑḨḩ"),
  ('\u0328', "AaEeIiUuOo",
    "ĄąĘęĮįŲųǪǫ"),
  ('\u032d', "DdEeLlNnTtUu",
    "ḒḓḘḙḼḽṊṋṰṱṶṷ"),
  ('\u032e', "Hh",
    "Ḫḫ"),
  ('\u0330', "EeIiUu",
    "ḚḛḬḭṴṵ"),
  ('\u0331', "BbDdKkLlNnRrTtZzh",
    "ḆḇḎḏḴḵḺḻṈṉṞṟṮṯẔẕẖ"),
  ('\u0338', "←→↔⇐⇔⇒∃∈∋∣∥∼≃≅≈=≡≍<>≤≥≲≳≶≷≺≻⊂⊃⊆⊇⊢⊨",
    "↚↛↮⇍⇎⇏∄∉∌∤∦≁≄≇≉≠≢≭≮≯≰≱≴≵≸≹⊀⊁⊄⊅⊈⊉⊬⊭"),
  ('\u0338', "⊩⊫≼≽⊑⊒⊲⊳⊴⊵",
    "⊮⊯⋠⋡⋢⋣⋪⋫⋬⋭"),
  ('\u0342', "ἀἁἈἉἠἡἨἩἰἱἸἹὐὑὙὠὡὨὩα¨η᾿ιϊ῾υϋω",
    "ἆἇἎἏἦἧἮἯἶἷἾἿὖὗὟὦὧὮὯᾶ῁ῆ῏ῖῗ῟ῦῧῶ"),
  ('\u0345', "ἀἁἂἃἄἅἆἇἈἉἊἋἌἍἎἏἠἡἢἣἤἥἦἧἨἩἪἫἬἭἮἯὠὡ",
    "ᾀᾁᾂᾃᾄᾅᾆᾇᾈᾉᾊᾋᾌᾍᾎᾏᾐᾑᾒᾓᾔᾕᾖᾗᾘᾙᾚᾛᾜᾝᾞᾟᾠᾡ"),
  ('\u0345', "ὢὣὤὥὦὧὨὩὪὫὬὭὮὯὰαάᾶΑὴηήῆΗὼωώῶΩ",
    "ᾢᾣᾤᾥᾦᾧᾨᾩᾪᾫᾬᾭᾮᾯᾲᾳᾴᾷᾼῂῃῄῇῌῲῳῴῷῼ"),
  ('\u0653', "ا",
    "آ"),
  ('\u0654', "اويەہے",
    "أؤئۀۂۓ"),
  ('\u0655', "ا",
    "إ"),
  ('\u093c', "नरळ",
    "ऩऱऴ"),
  ('\u0bd7', "ஒ",
    "ஔ"),
  ('\u102e', "ဥ",
    "ဦ"),
  ('\u1b35', "ᬅᬇᬉᬋᬍᬑ",
    "ᬆᬈᬊᬌᬎᬒ"),
  ('\u3099', "かきくけこさしすせそたちつてとはひふへほうゝカキクケコサシスセソタチ",
    "がぎぐげござじずぜぞだぢづでどばびぶべぼゔゞガギグゲゴザジズゼゾダヂ"),
  ('\u3099', "ツテトハヒフヘホウワヰヱヲヽ",
    "ヅデドバビブベボヴヷヸヹヺヾ"),
  ('\u309a', "はひふへほハヒフヘホ",
    "ぱぴぷぺぽパピプペポ")]

/-- What is joined, what joins it, and what they become. -/
def composedSigns : List (Nat × Nat × Nat) := [
  (0x9c7, 0x9be, 0x9cb), (0x9c7, 0x9d7, 0x9cc), (0xb47, 0xb56, 0xb48), (0xb47, 0xb3e, 0xb4b),
  (0xb47, 0xb57, 0xb4c), (0xbc6, 0xbbe, 0xbca), (0xbc7, 0xbbe, 0xbcb), (0xbc6, 0xbd7, 0xbcc),
  (0xc46, 0xc56, 0xc48), (0xcbf, 0xcd5, 0xcc0), (0xcc6, 0xcd5, 0xcc7), (0xcc6, 0xcd6, 0xcc8),
  (0xcc6, 0xcc2, 0xcca), (0xcca, 0xcd5, 0xccb), (0xd46, 0xd3e, 0xd4a), (0xd47, 0xd3e, 0xd4b),
  (0xd46, 0xd57, 0xd4c), (0xdd9, 0xdca, 0xdda), (0xdd9, 0xdcf, 0xddc), (0xddc, 0xdca, 0xddd),
  (0xdd9, 0xddf, 0xdde), (0x1b3a, 0x1b35, 0x1b3b), (0x1b3c, 0x1b35, 0x1b3d),
  (0x1b3e, 0x1b35, 0x1b40), (0x1b3f, 0x1b35, 0x1b41), (0x1b42, 0x1b35, 0x1b43),
  (0x105d2, 0x307, 0x105c9), (0x105da, 0x307, 0x105e4), (0x11099, 0x110ba, 0x1109a),
  (0x1109b, 0x110ba, 0x1109c), (0x110a5, 0x110ba, 0x110ab), (0x11131, 0x11127, 0x1112e),
  (0x11132, 0x11127, 0x1112f), (0x11347, 0x1133e, 0x1134b), (0x11347, 0x11357, 0x1134c),
  (0x11382, 0x113c9, 0x11383), (0x11384, 0x113bb, 0x11385), (0x1138b, 0x113c2, 0x1138e),
  (0x11390, 0x113c9, 0x11391), (0x113c2, 0x113c2, 0x113c5), (0x113c2, 0x113b8, 0x113c7),
  (0x113c2, 0x113c9, 0x113c8), (0x114b9, 0x114ba, 0x114bb), (0x114b9, 0x114b0, 0x114bc),
  (0x114b9, 0x114bd, 0x114be), (0x115b8, 0x115af, 0x115ba), (0x115b9, 0x115af, 0x115bb),
  (0x11935, 0x11930, 0x11938), (0x1611e, 0x1611e, 0x16121), (0x1611e, 0x16129, 0x16122),
  (0x1611e, 0x1611f, 0x16123), (0x16129, 0x1611f, 0x16124), (0x1611e, 0x16120, 0x16125),
  (0x16121, 0x1611f, 0x16126), (0x16122, 0x1611f, 0x16127), (0x16121, 0x16120, 0x16128),
  (0x16d67, 0x16d67, 0x16d68), (0x16d63, 0x16d67, 0x16d69), (0x16d69, 0x16d67, 0x16d6a)]

structure Composition where
  base : Char
  mark : Char
  whole : Char

def compositions : List Composition :=
  (composedLetters.flatMap fun (mark, bases, wholes) =>
    (bases.toList.zip wholes.toList).map fun (base, whole) => ⟨base, mark, whole⟩)
    ++ composedSigns.map fun (base, mark, whole) => ⟨.ofNat base, .ofNat mark, .ofNat whole⟩

/-- The syllable of a leading consonant and a vowel, or of a syllable without a last consonant and
one. -/
def composeSyllable? (a b : Nat) : Option Nat :=
  if 0x1100 ≤ a ∧ a ≤ 0x1112 ∧ 0x1161 ≤ b ∧ b ≤ 0x1175 then
    some (0xac00 + ((a - 0x1100) * 21 + (b - 0x1161)) * 28)
  else if 0xac00 ≤ a ∧ a ≤ 0xd7a3 ∧ (a - 0xac00) % 28 = 0 ∧ 0x11a8 ≤ b ∧ b ≤ 0x11c2 then
    some (a + (b - 0x11a7))
  else none

/-- The one character that two are. -/
def compose? (a b : Char) : Option Char :=
  match composeSyllable? a.toNat b.toNat with
  | some syllable => some (.ofNat syllable)
  | none => (compositions.find? fun pair => pair.base = a && pair.mark = b).map (·.whole)

/-- The letter and the mark that a character is; none for a syllable. -/
def parts? (c : Char) : Option (Char × Char) :=
  (compositions.find? fun pair => pair.whole = c).map fun pair => (pair.base, pair.mark)

end PlanCompiler.Text
