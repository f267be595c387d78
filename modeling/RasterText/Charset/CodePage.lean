set_option autoImplicit false

/-!
Character sets in which every byte stands for one character. All of them agree with ASCII on the
lower half of the bytes, so a page holds the upper half. A full stop marks a byte that stands for
nothing; no page has it in its upper half otherwise.
-/

namespace RasterText

inductive CodePage where
  | ibm866
  | iso8859p2
  | iso8859p3
  | iso8859p4
  | iso8859p5
  | iso8859p6
  | iso8859p7
  | iso8859p8
  | iso8859p10
  | iso8859p13
  | iso8859p14
  | iso8859p15
  | iso8859p16
  | koi8r
  | koi8u
  | macintosh
  | windows874
  | windows1250
  | windows1251
  | windows1252
  | windows1253
  | windows1254
  | windows1255
  | windows1256
  | windows1257
  | windows1258
  | macCyrillic
  deriving DecidableEq, Repr

def upperControls : List Char := (List.range 32).map fun i => Char.ofNat (0x80 + i)

namespace CodePage

def ibm866Rows : List String := [
  "АБВГДЕЖЗИЙКЛМНОП",
  "РСТУФХЦЧШЩЪЫЬЭЮЯ",
  "абвгдежзийклмноп",
  "░▒▓│┤╡╢╖╕╣║╗╝╜╛┐",
  "└┴┬├─┼╞╟╚╔╩╦╠═╬╧",
  "╨╤╥╙╘╒╓╫╪┘┌█▄▌▐▀",
  "рстуфхцчшщъыьэюя",
  "ЁёЄєЇїЎў°∙·√№¤■\xa0"]

def iso8859p2Rows : List String := [
  "\xa0Ą˘Ł¤ĽŚ§¨ŠŞŤŹ\xadŽŻ",
  "°ą˛ł´ľśˇ¸šşťź˝žż",
  "ŔÁÂĂÄĹĆÇČÉĘËĚÍÎĎ",
  "ĐŃŇÓÔŐÖ×ŘŮÚŰÜÝŢß",
  "ŕáâăäĺćçčéęëěíîď",
  "đńňóôőö÷řůúűüýţ˙"]

def iso8859p3Rows : List String := [
  "\xa0Ħ˘£¤.Ĥ§¨İŞĞĴ\xad.Ż",
  "°ħ²³´µĥ·¸ışğĵ½.ż",
  "ÀÁÂ.ÄĊĈÇÈÉÊËÌÍÎÏ",
  ".ÑÒÓÔĠÖ×ĜÙÚÛÜŬŜß",
  "àáâ.äċĉçèéêëìíîï",
  ".ñòóôġö÷ĝùúûüŭŝ˙"]

def iso8859p4Rows : List String := [
  "\xa0ĄĸŖ¤ĨĻ§¨ŠĒĢŦ\xadŽ¯",
  "°ą˛ŗ´ĩļˇ¸šēģŧŊžŋ",
  "ĀÁÂÃÄÅÆĮČÉĘËĖÍÎĪ",
  "ĐŅŌĶÔÕÖ×ØŲÚÛÜŨŪß",
  "āáâãäåæįčéęëėíîī",
  "đņōķôõö÷øųúûüũū˙"]

def iso8859p5Rows : List String := [
  "\xa0ЁЂЃЄЅІЇЈЉЊЋЌ\xadЎЏ",
  "АБВГДЕЖЗИЙКЛМНОП",
  "РСТУФХЦЧШЩЪЫЬЭЮЯ",
  "абвгдежзийклмноп",
  "рстуфхцчшщъыьэюя",
  "№ёђѓєѕіїјљњћќ§ўџ"]

def iso8859p6Rows : List String := [
  "\xa0...¤.......،\xad..",
  "...........؛...؟",
  ".ءآأؤإئابةتثجحخد",
  "ذرزسشصضطظعغ.....",
  "ـفقكلمنهوىي\u064b\u064c\u064d\u064e\u064f",
  "\u0650\u0651\u0652............."]

def iso8859p7Rows : List String := [
  "\xa0‘’£€₯¦§¨©ͺ«¬\xad.―",
  "°±²³΄΅Ά·ΈΉΊ»Ό½ΎΏ",
  "ΐΑΒΓΔΕΖΗΘΙΚΛΜΝΞΟ",
  "ΠΡ.ΣΤΥΦΧΨΩΪΫάέήί",
  "ΰαβγδεζηθικλμνξο",
  "πρςστυφχψωϊϋόύώ."]

def iso8859p8Rows : List String := [
  "\xa0.¢£¤¥¦§¨©×«¬\xad®¯",
  "°±²³´µ¶·¸¹÷»¼½¾.",
  "................",
  "...............‗",
  "אבגדהוזחטיךכלםמן",
  "נסעףפץצקרשת..\u200e\u200f."]

def iso8859p10Rows : List String := [
  "\xa0ĄĒĢĪĨĶ§ĻĐŠŦŽ\xadŪŊ",
  "°ąēģīĩķ·ļđšŧž―ūŋ",
  "ĀÁÂÃÄÅÆĮČÉĘËĖÍÎÏ",
  "ÐŅŌÓÔÕÖŨØŲÚÛÜÝÞß",
  "āáâãäåæįčéęëėíîï",
  "ðņōóôõöũøųúûüýþĸ"]

def iso8859p13Rows : List String := [
  "\xa0”¢£¤„¦§Ø©Ŗ«¬\xad®Æ",
  "°±²³“µ¶·ø¹ŗ»¼½¾æ",
  "ĄĮĀĆÄÅĘĒČÉŹĖĢĶĪĻ",
  "ŠŃŅÓŌÕÖ×ŲŁŚŪÜŻŽß",
  "ąįāćäåęēčéźėģķīļ",
  "šńņóōõö÷ųłśūüżž’"]

def iso8859p14Rows : List String := [
  "\xa0Ḃḃ£ĊċḊ§Ẁ©ẂḋỲ\xad®Ÿ",
  "ḞḟĠġṀṁ¶ṖẁṗẃṠỳẄẅṡ",
  "ÀÁÂÃÄÅÆÇÈÉÊËÌÍÎÏ",
  "ŴÑÒÓÔÕÖṪØÙÚÛÜÝŶß",
  "àáâãäåæçèéêëìíîï",
  "ŵñòóôõöṫøùúûüýŷÿ"]

def iso8859p15Rows : List String := [
  "\xa0¡¢£€¥Š§š©ª«¬\xad®¯",
  "°±²³Žµ¶·ž¹º»ŒœŸ¿",
  "ÀÁÂÃÄÅÆÇÈÉÊËÌÍÎÏ",
  "ÐÑÒÓÔÕÖ×ØÙÚÛÜÝÞß",
  "àáâãäåæçèéêëìíîï",
  "ðñòóôõö÷øùúûüýþÿ"]

def iso8859p16Rows : List String := [
  "\xa0ĄąŁ€„Š§š©Ș«Ź\xadźŻ",
  "°±ČłŽ”¶·žčș»ŒœŸż",
  "ÀÁÂĂÄĆÆÇÈÉÊËÌÍÎÏ",
  "ĐŃÒÓÔŐÖŚŰÙÚÛÜĘȚß",
  "àáâăäćæçèéêëìíîï",
  "đńòóôőöśűùúûüęțÿ"]

def koi8rRows : List String := [
  "─│┌┐└┘├┤┬┴┼▀▄█▌▐",
  "░▒▓⌠■∙√≈≤≥\xa0⌡°²·÷",
  "═║╒ё╓╔╕╖╗╘╙╚╛╜╝╞",
  "╟╠╡Ё╢╣╤╥╦╧╨╩╪╫╬©",
  "юабцдефгхийклмно",
  "пярстужвьызшэщчъ",
  "ЮАБЦДЕФГХИЙКЛМНО",
  "ПЯРСТУЖВЬЫЗШЭЩЧЪ"]

def koi8uRows : List String := [
  "─│┌┐└┘├┤┬┴┼▀▄█▌▐",
  "░▒▓⌠■∙√≈≤≥\xa0⌡°²·÷",
  "═║╒ёє╔ії╗╘╙╚╛ґў╞",
  "╟╠╡ЁЄ╣ІЇ╦╧╨╩╪ҐЎ©",
  "юабцдефгхийклмно",
  "пярстужвьызшэщчъ",
  "ЮАБЦДЕФГХИЙКЛМНО",
  "ПЯРСТУЖВЬЫЗШЭЩЧЪ"]

def macintoshRows : List String := [
  "ÄÅÇÉÑÖÜáàâäãåçéè",
  "êëíìîïñóòôöõúùûü",
  "†°¢£§•¶ß®©™´¨≠ÆØ",
  "∞±≤≥¥µ∂∑∏π∫ªºΩæø",
  "¿¡¬√ƒ≈∆«»…\xa0ÀÃÕŒœ",
  "–—“”‘’÷◊ÿŸ⁄€‹›ﬁﬂ",
  "‡·‚„‰ÂÊÁËÈÍÎÏÌÓÔ",
  "\uf8ffÒÚÛÙıˆ˜¯˘˙˚¸˝˛ˇ"]

def windows874Rows : List String := [
  "€\x81\x82\x83\x84…\x86\x87\x88\x89\x8a\x8b\x8c\x8d\x8e\x8f",
  "\x90‘’“”•–—\x98\x99\x9a\x9b\x9c\x9d\x9e\x9f",
  "\xa0กขฃคฅฆงจฉชซฌญฎฏ",
  "ฐฑฒณดตถทธนบปผฝพฟ",
  "ภมยรฤลฦวศษสหฬอฮฯ",
  "ะ\u0e31าำ\u0e34\u0e35\u0e36\u0e37\u0e38\u0e39\u0e3a....฿",
  "เแโใไๅๆ\u0e47\u0e48\u0e49\u0e4a\u0e4b\u0e4c\u0e4d\u0e4e๏",
  "๐๑๒๓๔๕๖๗๘๙๚๛...."]

def windows1250Rows : List String := [
  "€\x81‚\x83„…†‡\x88‰Š‹ŚŤŽŹ",
  "\x90‘’“”•–—\x98™š›śťžź",
  "\xa0ˇ˘Ł¤Ą¦§¨©Ş«¬\xad®Ż",
  "°±˛ł´µ¶·¸ąş»Ľ˝ľż",
  "ŔÁÂĂÄĹĆÇČÉĘËĚÍÎĎ",
  "ĐŃŇÓÔŐÖ×ŘŮÚŰÜÝŢß",
  "ŕáâăäĺćçčéęëěíîď",
  "đńňóôőö÷řůúűüýţ˙"]

def windows1251Rows : List String := [
  "ЂЃ‚ѓ„…†‡€‰Љ‹ЊЌЋЏ",
  "ђ‘’“”•–—\x98™љ›њќћџ",
  "\xa0ЎўЈ¤Ґ¦§Ё©Є«¬\xad®Ї",
  "°±Ііґµ¶·ё№є»јЅѕї",
  "АБВГДЕЖЗИЙКЛМНОП",
  "РСТУФХЦЧШЩЪЫЬЭЮЯ",
  "абвгдежзийклмноп",
  "рстуфхцчшщъыьэюя"]

def windows1252Rows : List String := [
  "€\x81‚ƒ„…†‡ˆ‰Š‹Œ\x8dŽ\x8f",
  "\x90‘’“”•–—˜™š›œ\x9džŸ",
  "\xa0¡¢£¤¥¦§¨©ª«¬\xad®¯",
  "°±²³´µ¶·¸¹º»¼½¾¿",
  "ÀÁÂÃÄÅÆÇÈÉÊËÌÍÎÏ",
  "ÐÑÒÓÔÕÖ×ØÙÚÛÜÝÞß",
  "àáâãäåæçèéêëìíîï",
  "ðñòóôõö÷øùúûüýþÿ"]

def windows1253Rows : List String := [
  "€\x81‚ƒ„…†‡\x88‰\x8a‹\x8c\x8d\x8e\x8f",
  "\x90‘’“”•–—\x98™\x9a›\x9c\x9d\x9e\x9f",
  "\xa0΅Ά£¤¥¦§¨©.«¬\xad®―",
  "°±²³΄µ¶·ΈΉΊ»Ό½ΎΏ",
  "ΐΑΒΓΔΕΖΗΘΙΚΛΜΝΞΟ",
  "ΠΡ.ΣΤΥΦΧΨΩΪΫάέήί",
  "ΰαβγδεζηθικλμνξο",
  "πρςστυφχψωϊϋόύώ."]

def windows1254Rows : List String := [
  "€\x81‚ƒ„…†‡ˆ‰Š‹Œ\x8d\x8e\x8f",
  "\x90‘’“”•–—˜™š›œ\x9d\x9eŸ",
  "\xa0¡¢£¤¥¦§¨©ª«¬\xad®¯",
  "°±²³´µ¶·¸¹º»¼½¾¿",
  "ÀÁÂÃÄÅÆÇÈÉÊËÌÍÎÏ",
  "ĞÑÒÓÔÕÖ×ØÙÚÛÜİŞß",
  "àáâãäåæçèéêëìíîï",
  "ğñòóôõö÷øùúûüışÿ"]

def windows1255Rows : List String := [
  "€\x81‚ƒ„…†‡ˆ‰\x8a‹\x8c\x8d\x8e\x8f",
  "\x90‘’“”•–—˜™\x9a›\x9c\x9d\x9e\x9f",
  "\xa0¡¢£₪¥¦§¨©×«¬\xad®¯",
  "°±²³´µ¶·¸¹÷»¼½¾¿",
  "\u05b0\u05b1\u05b2\u05b3\u05b4\u05b5\u05b6\u05b7\u05b8\u05b9\u05ba\u05bb\u05bc\u05bd־\u05bf",
  "׀\u05c1\u05c2׃װױײ׳״.......",
  "אבגדהוזחטיךכלםמן",
  "נסעףפץצקרשת..\u200e\u200f."]

def windows1256Rows : List String := [
  "€پ‚ƒ„…†‡ˆ‰ٹ‹Œچژڈ",
  "گ‘’“”•–—ک™ڑ›œ\u200c\u200dں",
  "\xa0،¢£¤¥¦§¨©ھ«¬\xad®¯",
  "°±²³´µ¶·¸¹؛»¼½¾؟",
  "ہءآأؤإئابةتثجحخد",
  "ذرزسشصض×طظعغـفقك",
  "àلâمنهوçèéêëىيîï",
  "\u064b\u064c\u064d\u064eô\u064f\u0650÷\u0651ù\u0652ûü\u200e\u200fے"]

def windows1257Rows : List String := [
  "€\x81‚\x83„…†‡\x88‰\x8a‹\x8c¨ˇ¸",
  "\x90‘’“”•–—\x98™\x9a›\x9c¯˛\x9f",
  "\xa0.¢£¤.¦§Ø©Ŗ«¬\xad®Æ",
  "°±²³´µ¶·ø¹ŗ»¼½¾æ",
  "ĄĮĀĆÄÅĘĒČÉŹĖĢĶĪĻ",
  "ŠŃŅÓŌÕÖ×ŲŁŚŪÜŻŽß",
  "ąįāćäåęēčéźėģķīļ",
  "šńņóōõö÷ųłśūüżž˙"]

def windows1258Rows : List String := [
  "€\x81‚ƒ„…†‡ˆ‰\x8a‹Œ\x8d\x8e\x8f",
  "\x90‘’“”•–—˜™\x9a›œ\x9d\x9eŸ",
  "\xa0¡¢£¤¥¦§¨©ª«¬\xad®¯",
  "°±²³´µ¶·¸¹º»¼½¾¿",
  "ÀÁÂĂÄÅÆÇÈÉÊË\u0300ÍÎÏ",
  "ĐÑ\u0309ÓÔƠÖ×ØÙÚÛÜƯ\u0303ß",
  "àáâăäåæçèéêë\u0301íîï",
  "đñ\u0323óôơö÷øùúûüư₫ÿ"]

def macCyrillicRows : List String := [
  "АБВГДЕЖЗИЙКЛМНОП",
  "РСТУФХЦЧШЩЪЫЬЭЮЯ",
  "†°Ґ£§•¶І®©™Ђђ≠Ѓѓ",
  "∞±≤≥іµґЈЄєЇїЉљЊњ",
  "јЅ¬√ƒ≈∆«»…\xa0ЋћЌќѕ",
  "–—“”‘’÷„ЎўЏџ№Ёёя",
  "абвгдежзийклмноп",
  "рстуфхцчшщъыьэю€"]

/-- The characters of the bytes from 0x80 on. -/
def upper : CodePage → List Char
  | ibm866 => ibm866Rows.flatMap String.toList
  | iso8859p2 => upperControls ++ iso8859p2Rows.flatMap String.toList
  | iso8859p3 => upperControls ++ iso8859p3Rows.flatMap String.toList
  | iso8859p4 => upperControls ++ iso8859p4Rows.flatMap String.toList
  | iso8859p5 => upperControls ++ iso8859p5Rows.flatMap String.toList
  | iso8859p6 => upperControls ++ iso8859p6Rows.flatMap String.toList
  | iso8859p7 => upperControls ++ iso8859p7Rows.flatMap String.toList
  | iso8859p8 => upperControls ++ iso8859p8Rows.flatMap String.toList
  | iso8859p10 => upperControls ++ iso8859p10Rows.flatMap String.toList
  | iso8859p13 => upperControls ++ iso8859p13Rows.flatMap String.toList
  | iso8859p14 => upperControls ++ iso8859p14Rows.flatMap String.toList
  | iso8859p15 => upperControls ++ iso8859p15Rows.flatMap String.toList
  | iso8859p16 => upperControls ++ iso8859p16Rows.flatMap String.toList
  | koi8r => koi8rRows.flatMap String.toList
  | koi8u => koi8uRows.flatMap String.toList
  | macintosh => macintoshRows.flatMap String.toList
  | windows874 => windows874Rows.flatMap String.toList
  | windows1250 => windows1250Rows.flatMap String.toList
  | windows1251 => windows1251Rows.flatMap String.toList
  | windows1252 => windows1252Rows.flatMap String.toList
  | windows1253 => windows1253Rows.flatMap String.toList
  | windows1254 => windows1254Rows.flatMap String.toList
  | windows1255 => windows1255Rows.flatMap String.toList
  | windows1256 => windows1256Rows.flatMap String.toList
  | windows1257 => windows1257Rows.flatMap String.toList
  | windows1258 => windows1258Rows.flatMap String.toList
  | macCyrillic => macCyrillicRows.flatMap String.toList

end CodePage

end RasterText
