/-!
# Code pages

Character sets in which every byte is one character. The bytes up to 0x7F are ASCII
characters in all of them; the pages say what the others are.
-/

namespace Almanac.Text

/-- A character set of single bytes: its names in lower case, and rows of characters for the last
bytes. In a row a space stands for the character that has the number of the byte, and a question
mark for none. -/
structure CodePage where
  names : List String
  rows : List String
deriving DecidableEq

/-- A page of characters that no standard gives a meaning to. -/
def privatePage : CodePage :=
  ⟨["x-user-defined"], [String.ofList ((List.range 128).map fun i => Char.ofNat (0xF780 + i))]⟩

/-- The pages that can be named. -/
def codePages : List CodePage :=
  privatePage ::
  [⟨["866", "cp866", "csibm866", "ibm866"],
    ["АБВГДЕЖЗИЙКЛМНОП", "РСТУФХЦЧШЩЪЫЬЭЮЯ", "абвгдежзийклмноп", "░▒▓│┤╡╢╖╕╣║╗╝╜╛┐",
     "└┴┬├─┼╞╟╚╔╩╦╠═╬╧", "╨╤╥╙╘╒╓╫╪┘┌█▄▌▐▀", "рстуфхцчшщъыьэюя", "ЁёЄєЇїЎў°∙·√№¤■\u00A0"]⟩,
   ⟨["csisolatin2", "iso-8859-2", "iso-ir-101", "iso8859-2", "iso88592", "iso_8859-2",
     "iso_8859-2:1987", "l2", "latin2"],
    [" Ą˘Ł ĽŚ  ŠŞŤŹ ŽŻ", " ą˛ł ľśˇ šşťź˝žż", "Ŕ  Ă ĹĆ Č Ę Ě  Ď", "ĐŃŇ  Ő  ŘŮ Ű  Ţ ",
     "ŕ  ă ĺć č ę ě  ď", "đńň  ő  řů ű  ţ˙"]⟩,
   ⟨["csisolatin3", "iso-8859-3", "iso-ir-109", "iso8859-3", "iso88593", "iso_8859-3",
     "iso_8859-3:1988", "l3", "latin3"],
    [" Ħ˘  ?Ĥ  İŞĞĴ ?Ż", " ħ    ĥ  ışğĵ ?ż", "   ? ĊĈ         ", "?    Ġ  Ĝ    ŬŜ ",
     "   ? ċĉ         ", "?    ġ  ĝ    ŭŝ˙"]⟩,
   ⟨["csisolatin4", "iso-8859-4", "iso-ir-110", "iso8859-4", "iso88594", "iso_8859-4",
     "iso_8859-4:1988", "l4", "latin4"],
    [" ĄĸŖ ĨĻ  ŠĒĢŦ Ž ", " ą˛ŗ ĩļˇ šēģŧŊžŋ", "Ā      ĮČ Ę Ė  Ī", "ĐŅŌĶ     Ų   ŨŪ ",
     "ā      įč ę ė  ī", "đņōķ     ų   ũū˙"]⟩,
   ⟨["csisolatincyrillic", "cyrillic", "iso-8859-5", "iso-ir-144", "iso8859-5", "iso88595",
     "iso_8859-5", "iso_8859-5:1988"],
    [" ЁЂЃЄЅІЇЈЉЊЋЌ ЎЏ", "АБВГДЕЖЗИЙКЛМНОП", "РСТУФХЦЧШЩЪЫЬЭЮЯ", "абвгдежзийклмноп",
     "рстуфхцчшщъыьэюя", "№ёђѓєѕіїјљњћќ§ўџ"]⟩,
   ⟨["arabic", "asmo-708", "csiso88596e", "csiso88596i", "csisolatinarabic", "ecma-114",
     "iso-8859-6", "iso-8859-6-e", "iso-8859-6-i", "iso-ir-127", "iso8859-6", "iso88596",
     "iso_8859-6", "iso_8859-6:1987"],
    [" ??? ???????، ??", "???????????\u061B???\u061F",
     "?\u0621\u0622\u0623\u0624\u0625\u0626\u0627" ++
      "\u0628\u0629\u062A\u062B\u062C\u062D\u062E\u062F",
     "\u0630\u0631\u0632\u0633\u0634\u0635\u0636\u0637\u0638\u0639\u063A?????",
     "\u0640\u0641\u0642\u0643\u0644\u0645\u0646" ++
      "\u0647\u0648\u0649\u064A\u064B\u064C\u064D\u064E\u064F",
     "\u0650\u0651\u0652?????????????"]⟩,
   ⟨["csisolatingreek", "ecma-118", "elot_928", "greek", "greek8", "iso-8859-7", "iso-ir-126",
     "iso8859-7", "iso88597", "iso_8859-7", "iso_8859-7:1987", "sun_eu_greek"],
    [" ‘’ €₯    ͺ   ?―", "    ΄΅Ά ΈΉΊ Ό ΎΏ", "ΐΑΒΓΔΕΖΗΘΙΚΛΜΝΞΟ", "ΠΡ?ΣΤΥΦΧΨΩΪΫάέήί",
     "ΰαβγδεζηθικλμνξο", "πρςστυφχψωϊϋόύώ?"]⟩,
   ⟨["csiso88598e", "csisolatinhebrew", "hebrew", "iso-8859-8", "iso-8859-8-e", "iso-ir-138",
     "iso8859-8", "iso88598", "iso_8859-8", "iso_8859-8:1988", "visual", "csiso88598i",
     "iso-8859-8-i", "logical"],
    [" ?        ×     ", "          ÷    ?", "????????????????", "???????????????‗",
     "\u05D0\u05D1\u05D2\u05D3\u05D4\u05D5\u05D6" ++
      "\u05D7\u05D8\u05D9\u05DA\u05DB\u05DC\u05DD\u05DE\u05DF",
     "\u05E0\u05E1\u05E2\u05E3\u05E4\u05E5\u05E6\u05E7\u05E8\u05E9\u05EA??\u200E\u200F?"]⟩,
   ⟨["csisolatin6", "iso-8859-10", "iso-ir-157", "iso8859-10", "iso885910", "l6", "latin6"],
    [" ĄĒĢĪĨĶ ĻĐŠŦŽ ŪŊ", " ąēģīĩķ ļđšŧž―ūŋ", "Ā      ĮČ Ę Ė   ", " ŅŌ    Ũ Ų      ",
     "ā      įč ę ė   ", " ņō    ũ ų     ĸ"]⟩,
   ⟨["iso-8859-13", "iso8859-13", "iso885913"],
    [" ”   „  Ø Ŗ    Æ", "    “   ø ŗ    æ", "ĄĮĀĆ  ĘĒČ ŹĖĢĶĪĻ", "ŠŃŅ Ō   ŲŁŚŪ ŻŽ ",
     "ąįāć  ęēč źėģķīļ", "šńņ ō   ųłśū żž’"]⟩,
   ⟨["iso-8859-14", "iso8859-14", "iso885914"],
    [" Ḃḃ ĊċḊ Ẁ ẂḋỲ  Ÿ", "ḞḟĠġṀṁ ṖẁṗẃṠỳẄẅṡ", "                ", "Ŵ      Ṫ      Ŷ ",
     "                ", "ŵ      ṫ      ŷ "]⟩,
   ⟨["csisolatin9", "iso-8859-15", "iso8859-15", "iso885915", "iso_8859-15", "l9"],
    ["    € Š š       ", "    Ž   ž   ŒœŸ ", "                ", "                ",
     "                ", "                "]⟩,
   ⟨["iso-8859-16"],
    [" ĄąŁ€„Š š Ș Ź źŻ", "  ČłŽ”  žčș ŒœŸż", "   Ă Ć          ", "ĐŃ   Ő ŚŰ    ĘȚ ",
     "   ă ć          ", "đń   ő śű    ęț "]⟩,
   ⟨["cskoi8r", "koi", "koi8", "koi8-r", "koi8_r"],
    ["─│┌┐└┘├┤┬┴┼▀▄█▌▐", "░▒▓⌠■∙√≈≤≥\u00A0⌡°²·÷", "═║╒ё╓╔╕╖╗╘╙╚╛╜╝╞", "╟╠╡Ё╢╣╤╥╦╧╨╩╪╫╬©",
     "юабцдефгхийклмно", "пярстужвьызшэщчъ", "ЮАБЦДЕФГХИЙКЛМНО", "ПЯРСТУЖВЬЫЗШЭЩЧЪ"]⟩,
   ⟨["koi8-ru", "koi8-u"],
    ["─│┌┐└┘├┤┬┴┼▀▄█▌▐", "░▒▓⌠■∙√≈≤≥\u00A0⌡°²·÷", "═║╒ёє╔ії╗╘╙╚╛ґў╞", "╟╠╡ЁЄ╣ІЇ╦╧╨╩╪ҐЎ©",
     "юабцдефгхийклмно", "пярстужвьызшэщчъ", "ЮАБЦДЕФГХИЙКЛМНО", "ПЯРСТУЖВЬЫЗШЭЩЧЪ"]⟩,
   ⟨["csmacintosh", "mac", "macintosh", "x-mac-roman"],
    ["ÄÅÇÉÑÖÜáàâäãåçéè", "êëíìîïñóòôöõúùûü", "†°  §•¶ß® ™´¨≠ÆØ", "∞ ≤≥¥ ∂∑∏π∫ªºΩæø",
     "¿¡¬√ƒ≈∆«»…\u00A0ÀÃÕŒœ", "–—“”‘’÷◊ÿŸ⁄€‹›ﬁﬂ", "‡·‚„‰ÂÊÁËÈÍÎÏÌÓÔ", "\uF8FFÒÚÛÙıˆ˜¯˘˙˚¸˝˛ˇ"]⟩,
   ⟨["dos-874", "iso-8859-11", "iso8859-11", "iso885911", "tis-620", "windows-874"],
    ["€    …          ", " ‘’“”•–—        ", " กขฃคฅฆงจฉชซฌญฎฏ", "ฐฑฒณดตถทธนบปผฝพฟ",
     "ภมยรฤลฦวศษสหฬอฮฯ", "ะ\u0E31าำ\u0E34\u0E35\u0E36\u0E37\u0E38\u0E39\u0E3A????฿",
     "เแโใไๅๆ\u0E47\u0E48\u0E49\u0E4A\u0E4B\u0E4C\u0E4D\u0E4E๏", "๐๑๒๓๔๕๖๗๘๙๚๛????"]⟩,
   ⟨["cp1250", "windows-1250", "x-cp1250"],
    ["€ ‚ „…†‡ ‰Š‹ŚŤŽŹ", " ‘’“”•–— ™š›śťžź", " ˇ˘Ł Ą    Ş    Ż", "  ˛ł     ąş Ľ˝ľż",
     "Ŕ  Ă ĹĆ Č Ę Ě  Ď", "ĐŃŇ  Ő  ŘŮ Ű  Ţ ", "ŕ  ă ĺć č ę ě  ď", "đńň  ő  řů ű  ţ˙"]⟩,
   ⟨["cp1251", "windows-1251", "x-cp1251"],
    ["ЂЃ‚ѓ„…†‡€‰Љ‹ЊЌЋЏ", "ђ‘’“”•–— ™љ›њќћџ", " ЎўЈ Ґ  Ё Є    Ї", "  Ііґ   ё№є јЅѕї",
     "АБВГДЕЖЗИЙКЛМНОП", "РСТУФХЦЧШЩЪЫЬЭЮЯ", "абвгдежзийклмноп", "рстуфхцчшщъыьэюя"]⟩,
   ⟨["ansi_x3.4-1968", "ascii", "cp1252", "cp819", "csisolatin1", "ibm819", "iso-8859-1",
     "iso-ir-100", "iso8859-1", "iso88591", "iso_8859-1", "iso_8859-1:1987", "l1", "latin1",
     "us-ascii", "windows-1252", "x-cp1252"],
    ["€ ‚ƒ„…†‡ˆ‰Š‹Œ Ž ", " ‘’“”•–—˜™š›œ žŸ", "                ", "                ",
     "                ", "                ", "                ", "                "]⟩,
   ⟨["cp1253", "windows-1253", "x-cp1253"],
    ["€ ‚ƒ„…†‡ ‰ ‹    ", " ‘’“”•–— ™ ›    ", " ΅Ά       ?    ―", "    ΄   ΈΉΊ Ό ΎΏ",
     "ΐΑΒΓΔΕΖΗΘΙΚΛΜΝΞΟ", "ΠΡ?ΣΤΥΦΧΨΩΪΫάέήί", "ΰαβγδεζηθικλμνξο", "πρςστυφχψωϊϋόύώ?"]⟩,
   ⟨["cp1254", "csisolatin5", "iso-8859-9", "iso-ir-148", "iso8859-9", "iso88599", "iso_8859-9",
     "iso_8859-9:1989", "l5", "latin5", "windows-1254", "x-cp1254"],
    ["€ ‚ƒ„…†‡ˆ‰Š‹Œ   ", " ‘’“”•–—˜™š›œ  Ÿ", "                ", "                ",
     "                ", "Ğ            İŞ ", "                ", "ğ            ış "]⟩,
   ⟨["cp1255", "windows-1255", "x-cp1255"],
    ["€ ‚ƒ„…†‡ˆ‰ ‹    ", " ‘’“”•–—˜™ ›    ", "    ₪     ×     ", "          ÷     ",
     "\u05B0\u05B1\u05B2\u05B3\u05B4\u05B5\u05B6" ++
      "\u05B7\u05B8\u05B9\u05BA\u05BB\u05BC\u05BD\u05BE\u05BF",
     "\u05C0\u05C1\u05C2\u05C3\u05F0\u05F1\u05F2\u05F3\u05F4???????",
     "\u05D0\u05D1\u05D2\u05D3\u05D4\u05D5\u05D6" ++
      "\u05D7\u05D8\u05D9\u05DA\u05DB\u05DC\u05DD\u05DE\u05DF",
     "\u05E0\u05E1\u05E2\u05E3\u05E4\u05E5\u05E6\u05E7\u05E8\u05E9\u05EA??\u200E\u200F?"]⟩,
   ⟨["cp1256", "windows-1256", "x-cp1256"],
    ["€\u067E‚ƒ„…†‡ˆ‰\u0679‹Œ\u0686\u0698\u0688", "\u06AF‘’“”•–—\u06A9™\u0691›œ\u200C\u200D\u06BA",
     " ،        \u06BE     ", "          \u061B    \u061F",
     "\u06C1\u0621\u0622\u0623\u0624\u0625\u0626" ++
      "\u0627\u0628\u0629\u062A\u062B\u062C\u062D\u062E\u062F",
     "\u0630\u0631\u0632\u0633\u0634\u0635\u0636 " ++
      "\u0637\u0638\u0639\u063A\u0640\u0641\u0642\u0643",
     " \u0644 \u0645\u0646\u0647\u0648     \u0649\u064A  ",
     "\u064B\u064C\u064D\u064E \u064F\u0650 \u0651 \u0652  \u200E\u200F\u06D2"]⟩,
   ⟨["cp1257", "windows-1257", "x-cp1257"],
    ["€ ‚ „…†‡ ‰ ‹ ¨ˇ¸", " ‘’“”•–— ™ › ¯˛ ", " ?   ?  Ø Ŗ    Æ", "        ø ŗ    æ",
     "ĄĮĀĆ  ĘĒČ ŹĖĢĶĪĻ", "ŠŃŅ Ō   ŲŁŚŪ ŻŽ ", "ąįāć  ęēč źėģķīļ", "šńņ ō   ųłśū żž˙"]⟩,
   ⟨["cp1258", "windows-1258", "x-cp1258"],
    ["€ ‚ƒ„…†‡ˆ‰ ‹Œ   ", " ‘’“”•–—˜™ ›œ  Ÿ", "                ", "                ",
     "   Ă        \u0300   ", "Đ \u0309  Ơ       Ư\u0303 ", "   ă        \u0301   ",
     "đ \u0323  ơ       ư₫ "]⟩,
   ⟨["x-mac-cyrillic", "x-mac-ukrainian"],
    ["АБВГДЕЖЗИЙКЛМНОП", "РСТУФХЦЧШЩЪЫЬЭЮЯ", "†°Ґ §•¶І® ™Ђђ≠Ѓѓ", "∞ ≤≥і ґЈЄєЇїЉљЊњ",
     "јЅ¬√ƒ≈∆«»…\u00A0ЋћЌќѕ", "–—“”‘’÷„ЎўЏџ№Ёёя", "абвгдежзийклмноп", "рстуфхцчшщъыьэю€"]⟩]

namespace CodePage

/-- The characters of the last bytes. -/
def table (p : CodePage) : Array Char := (p.rows.flatMap String.toList).toArray

/-- The character of a byte, by the characters of the last bytes. -/
def charOf (table : Array Char) (b : UInt8) : Char :=
  let own := Char.ofNat b.toNat
  if b.toNat + table.size < 256 then own
  else
    match table[b.toNat + table.size - 256]? with
    | none => own
    | some c => if c = ' ' then own else if c = '?' then '\uFFFD' else c

/-- The text of bytes. -/
def read (p : CodePage) (bytes : List UInt8) : List Char := bytes.map (charOf p.table)

end CodePage

end Almanac.Text
