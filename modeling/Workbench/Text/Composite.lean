import Workbench.Text.CombiningClass

/-!
# Composite characters

A letter with a mark can be one character or two. The table lists the marks and, for each of them,
the letters that it makes up a character with and those characters. Hangul syllables follow a rule
instead: a leading consonant and a vowel make up a syllable, and a trailing consonant may join it.
-/

namespace Workbench
namespace Text

/-- What a mark makes up with letters. -/
structure MarkedLetters where
  /-- The code point of the mark. -/
  mark : Nat
  /-- The letters. -/
  letters : String
  /-- What each of them makes up with the mark. -/
  composites : String

/-- The marks that make up characters with letters. -/
def markedLetters : List MarkedLetters :=
  [⟨0x300,
     "AEINOUWYaeinouwy¨ÂÊÔÜâêôüĂăĒēŌōƠơƯưΑΕΗΙΟΥΩαεηιουωϊϋЕИеиἀἁἈἉἐἑἘἙἠἡἨἩἰἱἸἹὀ" ++
     "ὁὈὉὐὑὙὠὡὨὩ᾿῾",
     "ÀÈÌǸÒÙẀỲàèìǹòùẁỳ῭ẦỀỒǛầềồǜẰằḔḕṐṑỜờỪừᾺῈῊῚῸῪῺὰὲὴὶὸὺὼῒῢЀ" ++
     "ЍѐѝἂἃἊἋἒἓἚἛἢἣἪἫἲἳἺἻὂὃὊὋὒὓὛὢὣὪὫ῍῝"⟩,
   ⟨0x301,
     "ACEGIKLMNOPRSUWYZacegiklmnoprsuwyz¨ÂÅÆÇÊÏÔÕØÜâåæçêïôõøüĂăĒēŌōŨũƠơƯưΑΕΗΙΟΥΩαεηιουωϊϋϒГКгк" ++
     "ἀἁἈἉἐἑἘἙἠἡἨἩἰἱἸἹὀὁὈὉὐὑὙὠὡὨὩ᾿῾",
     "ÁĆÉǴÍḰĹḾŃÓṔŔŚÚẂÝŹáćéǵíḱĺḿńóṕŕśúẃýź΅ẤǺǼḈẾḮỐṌǾǗấǻǽḉếḯốṍǿǘẮắḖḗṒṓṸ" ++
     "ṹỚớỨứΆΈΉΊΌΎΏάέήίόύώΐΰϓЃЌѓќἄἅἌἍἔἕἜἝἤἥἬἭἴἵἼἽὄὅὌὍὔὕὝὤὥὬὭ῎῞"⟩,
   ⟨0x302,
     "ACEGHIJOSUWYZaceghijosuwyzẠạẸẹỌọ",
     "ÂĈÊĜĤÎĴÔŜÛŴŶẐâĉêĝĥîĵôŝûŵŷẑẬậỆệỘộ"⟩,
   ⟨0x303, "AEINOUVYaeinouvyÂÊÔâêôĂăƠơƯư", "ÃẼĨÑÕŨṼỸãẽĩñõũṽỹẪỄỖẫễỗẴẵỠỡỮữ"⟩,
   ⟨0x304,
     "AEGIOUYaegiouyÄÆÕÖÜäæõöüǪǫȦȧȮȯΑΙΥαιυИУиуḶḷṚṛ",
     "ĀĒḠĪŌŪȲāēḡīōūȳǞǢȬȪǕǟǣȭȫǖǬǭǠǡȰȱᾹῙῩᾱῑῡӢӮӣӯḸḹṜṝ"⟩,
   ⟨0x306, "AEGIOUaegiouȨȩΑΙΥαιυАЕЖИУаежиуẠạ", "ĂĔĞĬŎŬăĕğĭŏŭḜḝᾸῘῨᾰῐῠӐӖӁЙЎӑӗӂйўẶặ"⟩,
   ⟨0x307,
     "ABCDEFGHIMNOPRSTWXYZabcdefghmnoprstwxyzŚśŠšſṢṣ𐗒𐗚",
     "ȦḂĊḊĖḞĠḢİṀṄȮṖṘṠṪẆẊẎŻȧḃċḋėḟġḣṁṅȯṗṙṡṫẇẋẏżṤṥṦṧẛṨṩ𐗉𐗤"⟩,
   ⟨0x308,
     "AEHIOUWXYaehiotuwxyÕõŪūΙΥιυϒІАЕЖЗИОУЧЫЭаежзиоучыэіӘәӨө",
     "ÄËḦÏÖÜẄẌŸäëḧïöẗüẅẍÿṎṏṺṻΪΫϊϋϔЇӒЁӜӞӤӦӰӴӸӬӓёӝӟӥӧӱӵӹӭїӚӛӪӫ"⟩,
   ⟨0x309, "AEIOUYaeiouyÂÊÔâêôĂăƠơƯư", "ẢẺỈỎỦỶảẻỉỏủỷẨỂỔẩểổẲẳỞởỬử"⟩,
   ⟨0x30A, "AUauwy", "ÅŮåůẘẙ"⟩,
   ⟨0x30B, "OUouУу", "ŐŰőűӲӳ"⟩,
   ⟨0x30C, "ACDEGHIKLNORSTUZacdeghijklnorstuzÜüƷʒ", "ǍČĎĚǦȞǏǨĽŇǑŘŠŤǓŽǎčďěǧȟǐǰǩľňǒřšťǔžǙǚǮǯ"⟩,
   ⟨0x30F, "AEIORUaeioruѴѵ", "ȀȄȈȌȐȔȁȅȉȍȑȕѶѷ"⟩,
   ⟨0x311, "AEIORUaeioru", "ȂȆȊȎȒȖȃȇȋȏȓȗ"⟩,
   ⟨0x313, "ΑΕΗΙΟΩαεηιορυω", "ἈἘἨἸὈὨἀἐἠἰὀῤὐὠ"⟩,
   ⟨0x314, "ΑΕΗΙΟΡΥΩαεηιορυω", "ἉἙἩἹὉῬὙὩἁἑἡἱὁῥὑὡ"⟩,
   ⟨0x31B, "OUou", "ƠƯơư"⟩,
   ⟨0x323,
     "ABDEHIKLMNORSTUVWYZabdehiklmnorstuvwyzƠơƯư",
     "ẠḄḌẸḤỊḲḶṂṆỌṚṢṬỤṾẈỴẒạḅḍẹḥịḳḷṃṇọṛṣṭụṿẉỵẓỢợỰự"⟩,
   ⟨0x324, "Uu", "Ṳṳ"⟩,
   ⟨0x325, "Aa", "Ḁḁ"⟩,
   ⟨0x326, "STst", "ȘȚșț"⟩,
   ⟨0x327, "CDEGHKLNRSTcdeghklnrst", "ÇḐȨĢḨĶĻŅŖŞŢçḑȩģḩķļņŗşţ"⟩,
   ⟨0x328, "AEIOUaeiou", "ĄĘĮǪŲąęįǫų"⟩,
   ⟨0x32D, "DELNTUdelntu", "ḒḘḼṊṰṶḓḙḽṋṱṷ"⟩,
   ⟨0x32E, "Hh", "Ḫḫ"⟩,
   ⟨0x330, "EIUeiu", "ḚḬṴḛḭṵ"⟩,
   ⟨0x331, "BDKLNRTZbdhklnrtz", "ḆḎḴḺṈṞṮẔḇḏẖḵḻṉṟṯẕ"⟩,
   ⟨0x338,
     "<=>←→↔⇐⇒⇔∃∈∋∣∥∼≃≅≈≍≡≤≥≲≳≶≷≺≻≼≽⊂⊃⊆⊇⊑⊒⊢⊨⊩⊫⊲⊳⊴⊵",
     "≮≠≯↚↛↮⇍⇏⇎∄∉∌∤∦≁≄≇≉≭≢≰≱≴≵≸≹⊀⊁⋠⋡⊄⊅⊈⊉⋢⋣⊬⊭⊮⊯⋪⋫⋬⋭"⟩,
   ⟨0x342,
     "¨αηιυωϊϋἀἁἈἉἠἡἨἩἰἱἸἹὐὑὙὠὡὨὩ᾿῾",
     "῁ᾶῆῖῦῶῗῧἆἇἎἏἦἧἮἯἶἷἾἿὖὗὟὦὧὮὯ῏῟"⟩,
   ⟨0x345,
     "ΑΗΩάήαηωώἀἁἂἃἄἅἆἇἈἉἊἋἌἍἎἏἠἡἢἣἤἥἦἧἨἩἪἫἬἭἮἯὠὡὢὣὤὥὦὧ" ++
     "ὨὩὪὫὬὭὮὯὰὴὼᾶῆῶ",
     "ᾼῌῼᾴῄᾳῃῳῴᾀᾁᾂᾃᾄᾅᾆᾇᾈᾉᾊᾋᾌᾍᾎᾏᾐᾑᾒᾓᾔᾕᾖᾗᾘᾙᾚᾛᾜᾝᾞᾟᾠᾡᾢ" ++
     "ᾣᾤᾥᾦᾧᾨᾩᾪᾫᾬᾭᾮᾯᾲῂῲᾷῇῷ"⟩,
   ⟨0x653, "\u0627", "\u0622"⟩,
   ⟨0x654, "\u0627\u0648\u064a\u06c1\u06d2\u06d5", "\u0623\u0624\u0626\u06c2\u06d3\u06c0"⟩,
   ⟨0x655, "\u0627", "\u0625"⟩,
   ⟨0x93C, "नरळ", "ऩऱऴ"⟩,
   ⟨0x9BE, "\u09c7", "\u09cb"⟩,
   ⟨0x9D7, "\u09c7", "\u09cc"⟩,
   ⟨0xB3E, "\u0b47", "\u0b4b"⟩,
   ⟨0xB56, "\u0b47", "\u0b48"⟩,
   ⟨0xB57, "\u0b47", "\u0b4c"⟩,
   ⟨0xBBE, "\u0bc6\u0bc7", "\u0bca\u0bcb"⟩,
   ⟨0xBD7, "ஒ\u0bc6", "ஔ\u0bcc"⟩,
   ⟨0xC56, "\u0c46", "\u0c48"⟩,
   ⟨0xCC2, "\u0cc6", "\u0cca"⟩,
   ⟨0xCD5, "\u0cbf\u0cc6\u0cca", "\u0cc0\u0cc7\u0ccb"⟩,
   ⟨0xCD6, "\u0cc6", "\u0cc8"⟩,
   ⟨0xD3E, "\u0d46\u0d47", "\u0d4a\u0d4b"⟩,
   ⟨0xD57, "\u0d46", "\u0d4c"⟩,
   ⟨0xDCA, "\u0dd9\u0ddc", "\u0dda\u0ddd"⟩,
   ⟨0xDCF, "\u0dd9", "\u0ddc"⟩,
   ⟨0xDDF, "\u0dd9", "\u0dde"⟩,
   ⟨0x102E, "ဥ", "ဦ"⟩,
   ⟨0x1B35,
     "ᬅᬇᬉᬋᬍᬑ\u1b3a\u1b3c\u1b3e\u1b3f\u1b42",
     "ᬆᬈᬊᬌᬎᬒ\u1b3b\u1b3d\u1b40\u1b41\u1b43"⟩,
   ⟨0x3099,
     "うかきくけこさしすせそたちつてとはひふへほ\u309dウカキクケコサシスセソタチツテトハヒフヘ" ++
     "ホワヰヱヲ\u30fd",
     "ゔがぎぐげござじずぜぞだぢづでどばびぶべぼ\u309eヴガギグゲゴザジズゼゾダヂヅデドバビブベ" ++
     "ボヷヸヹヺ\u30fe"⟩,
   ⟨0x309A, "はひふへほハヒフヘホ", "ぱぴぷぺぽパピプペポ"⟩,
   ⟨0x110BA, "𑂙𑂛𑂥", "𑂚𑂜𑂫"⟩,
   ⟨0x11127, "𑄱𑄲", "𑄮𑄯"⟩,
   ⟨0x1133E, "𑍇", "𑍋"⟩,
   ⟨0x11357, "𑍇", "𑍌"⟩,
   ⟨0x113B8, "𑏂", "𑏇"⟩,
   ⟨0x113BB, "𑎄", "𑎅"⟩,
   ⟨0x113C2, "𑎎", "𑎎𑏅"⟩,
   ⟨0x113C9, "𑎂𑎐𑏂", "𑎃𑎑𑏈"⟩,
   ⟨0x114B0, "𑒹", "𑒼"⟩,
   ⟨0x114BA, "𑒹", "𑒻"⟩,
   ⟨0x114BD, "𑒹", "𑒾"⟩,
   ⟨0x115AF, "𑖸𑖹", "𑖺𑖻"⟩,
   ⟨0x11930, "𑤵", "𑤸"⟩,
   ⟨0x1611E, "𖄞", "𖄡"⟩,
   ⟨0x1611F, "𖄡𖄡𖄩𖄩", "𖄣𖄦𖄧𖄤"⟩,
   ⟨0x16120, "𖄡𖄞", "𖄥𖄨"⟩,
   ⟨0x16129, "𖄞", "𖄢"⟩,
   ⟨0x16D67, "𖵩𖵩", "𖵪𖵧𖵪"⟩]

namespace MarkedLetters

/-- The letters, each with what it makes up with the mark. -/
def pairs (marked : MarkedLetters) : List (Char × Char) :=
  marked.letters.toList.zip marked.composites.toList

end MarkedLetters

/-! ## Hangul syllables -/

/-- A syllable of two parts, or one of two parts and a trailing consonant. -/
def syllable? (first second : Char) : Option Char :=
  let leading := first.toNat
  let after := second.toNat
  if 0x1100 ≤ leading && leading < 0x1113 && 0x1161 ≤ after && after < 0x1176 then
    some (Char.ofNat (0xAC00 + ((leading - 0x1100) * 21 + (after - 0x1161)) * 28))
  else if 0xAC00 ≤ leading && leading < 0xD7A4 && (leading - 0xAC00) % 28 = 0 &&
      0x11A7 < after && after < 0x11C3 then
    some (Char.ofNat (leading + (after - 0x11A7)))
  else none

/-- The two parts that a syllable is made up of. -/
def syllableParts? (c : Char) : Option (Char × Char) :=
  let point := c.toNat
  if 0xAC00 ≤ point && point < 0xD7A4 then
    let place := point - 0xAC00
    if place % 28 = 0 then
      some (Char.ofNat (0x1100 + place / 588), Char.ofNat (0x1161 + place % 588 / 28))
    else some (Char.ofNat (point - place % 28), Char.ofNat (0x11A7 + place % 28))
  else none

/-! ## All composites -/

/-- The character that two characters make up. -/
def composite? (first second : Char) : Option Char :=
  match syllable? first second with
  | some c => some c
  | none =>
    (markedLetters.find? (·.mark = second.toNat)).bind fun marked => marked.pairs.lookup first

/-- The two characters that a character is made up of. -/
def parts? (c : Char) : Option (Char × Char) :=
  if c.toNat < 0xC0 then none
  else match syllableParts? c with
    | some parts => some parts
    | none => markedLetters.findSome? fun marked =>
      (marked.pairs.find? (·.2 = c)).map fun pair => (pair.1, Char.ofNat marked.mark)

end Text
end Workbench
