import SchemaBridge.Text.CharName.Row

/-!
# Names: letters with marks

The names of the characters from U+1D00 to U+1FFF: phonetic letters, and Latin and Greek letters
with marks.
-/

namespace SchemaBridge.Text.CharName

/-- The rows of names, each with the code of its first character. -/
def letters : List Row :=
  [(0x1D00,
    ["LATIN LETTER SMALL CAPITAL A/4AE/1SMALL LETTER TURNED AE/1LETTER SMALL CAPITAL BARRED B/4C",
     "4D/4ETH/4E/1SMALL LETTER TURNED OPEN E/4I/1LETTER SMALL CAPITAL J/4K/4L WITH STROKE/4M",
     "4REVERSED N/4O/4OPEN O/1SMALL LETTER SIDEWAYS O/4OPEN O/4O WITH STROKE/3TURNED OE",
     "1LETTER SMALL CAPITAL OU/1SMALL LETTER TOP HALF O/3BOTTOM HALF O/1LETTER SMALL CAPITAL P",
     "4REVERSED R/4TURNED R/4T/4U/1SMALL LETTER SIDEWAYS U/4DIAERESIZED U/4TURNED M",
     "1LETTER SMALL CAPITAL V/4W/4Z/4EZH/2VOICED LARYNGEAL SPIRANT/2AIN",
     "GREEK LETTER SMALL CAPITAL GAMMA/4LAMDA/4PI/4RHO/4PSI/CYRILLIC LETTER SMALL CAPITAL EL",
     "MODIFIER LETTER CAPITAL A/3AE/3B/3BARRED B/3D/3E/3REVERSED E/3G/3H/3I/3J/3K/3L/3M/3N",
     "3REVERSED N/3O/3OU/3P/3R/3T/3U/3W/2SMALL A/3TURNED A/3ALPHA/3TURNED AE/3B/3D/3E/3SCHWA",
     "3OPEN E/3TURNED OPEN E/3G/3TURNED I/3K/3M/3ENG/3O/3OPEN O/3TOP HALF O/3BOTTOM HALF O/3P/3T",
     "3U/3SIDEWAYS U/3TURNED M/3V/3AIN/3BETA/3GREEK GAMMA/3DELTA/3GREEK PHI/3CHI",
     "LATIN SUBSCRIPT SMALL LETTER I/4R/4U/4V/GREEK SUBSCRIPT SMALL LETTER BETA/4GAMMA/4RHO/4PHI",
     "4CHI/LATIN SMALL LETTER UE/3B WITH MIDDLE TILDE/3D WITH MIDDLE TILDE/3F WITH MIDDLE TILDE",
     "3M WITH MIDDLE TILDE/3N WITH MIDDLE TILDE/3P WITH MIDDLE TILDE/3R WITH MIDDLE TILDE",
     "5FISHHOOK AND MIDDLE TILDE/3S WITH MIDDLE TILDE/3T WITH MIDDLE TILDE/3Z WITH MIDDLE TILDE",
     "3TURNED G/MODIFIER LETTER CYRILLIC EN/LATIN SMALL LETTER INSULAR G/3TH WITH STRIKETHROUGH",
     "2CAPITAL LETTER I WITH STROKE/2LETTER IOTA WITH STROKE/3P WITH STROKE",
     "2CAPITAL LETTER U WITH STROKE/2LETTER UPSILON WITH STROKE/3B WITH PALATAL HOOK",
     "3D WITH PALATAL HOOK/3F WITH PALATAL HOOK/3G WITH PALATAL HOOK/3K WITH PALATAL HOOK",
     "3L WITH PALATAL HOOK/3M WITH PALATAL HOOK/3N WITH PALATAL HOOK/3P WITH PALATAL HOOK",
     "3R WITH PALATAL HOOK/3S WITH PALATAL HOOK/3ESH WITH PALATAL HOOK/3V WITH PALATAL HOOK",
     "3X WITH PALATAL HOOK/3Z WITH PALATAL HOOK/3A WITH RETROFLEX HOOK",
     "3ALPHA WITH RETROFLEX HOOK/3D WITH HOOK AND TAIL/3E WITH RETROFLEX HOOK",
     "3OPEN E WITH RETROFLEX HOOK/3REVERSED OPEN E WITH RETROFLEX HOOK",
     "3SCHWA WITH RETROFLEX HOOK/3I WITH RETROFLEX HOOK/3OPEN O WITH RETROFLEX HOOK",
     "3ESH WITH RETROFLEX HOOK/3U WITH RETROFLEX HOOK/3EZH WITH RETROFLEX HOOK",
     "MODIFIER LETTER SMALL TURNED ALPHA/3C/4WITH CURL/3ETH/3REVERSED OPEN E/3F",
     "3DOTLESS J WITH STROKE/3SCRIPT G/3TURNED H/3I WITH STROKE/3IOTA/3CAPITAL I/5WITH STROKE",
     "3J WITH CROSSED-TAIL/3L WITH RETROFLEX HOOK/5PALATAL HOOK/3CAPITAL L/3M WITH HOOK",
     "3TURNED M WITH LONG LEG/3N WITH LEFT HOOK/5RETROFLEX HOOK/3CAPITAL N/3BARRED O/3PHI",
     "3S WITH HOOK/3ESH/3T WITH PALATAL HOOK/3U BAR/3UPSILON/3CAPITAL U/3V WITH HOOK/3TURNED V",
     "3Z/4WITH RETROFLEX HOOK/5CURL/3EZH/3THETA/COMBINING DOTTED GRAVE ACCENT/2ACUTE ACCENT",
     "1SNAKE BELOW/1SUSPENSION MARK/1MACRON-ACUTE/1GRAVE-MACRON/1MACRON-GRAVE/1ACUTE-MACRON",
     "1GRAVE-ACUTE-GRAVE/1ACUTE-GRAVE-ACUTE/1LATIN SMALL LETTER R BELOW/1BREVE-MACRON",
     "1MACRON-BREVE/1DOUBLE CIRCUMFLEX ABOVE/1OGONEK ABOVE/1ZIGZAG BELOW/1IS BELOW/1UR ABOVE",
     "1US ABOVE/1LATIN SMALL LETTER FLATTENED OPEN A ABOVE/4AE/4AO/4AV/4C CEDILLA/4INSULAR D",
     "4ETH/4G/2LETTER SMALL CAPITAL G/2SMALL LETTER K/4L/2LETTER SMALL CAPITAL L/5M",
     "2SMALL LETTER N/2LETTER SMALL CAPITAL N/5R/2SMALL LETTER R ROTUNDA/4S/4LONG S/4Z/4ALPHA/4B",
     "4BETA/4SCHWA/4F/4L WITH DOUBLE MIDDLE TILDE/4O WITH LIGHT CENTRALIZATION STROKE/4P/4ESH",
     "4U WITH LIGHT CENTRALIZATION STROKE/4W/4A WITH DIAERESIS/4O WITH DIAERESIS",
     "4U WITH DIAERESIS/1UP TACK ABOVE/1KAVYKA ABOVE RIGHT/3LEFT/1DOT ABOVE LEFT",
     "1WIDE INVERTED BRIDGE BELOW/1DOT BELOW LEFT/1DELETION MARK/1DOUBLE INVERTED BREVE BELOW",
     "1ALMOST EQUAL TO BELOW/1LEFT ARROWHEAD ABOVE/1RIGHT ARROWHEAD AND DOWN ARROWHEAD BELOW",
     "LATIN CAPITAL LETTER A WITH RING BELOW/1SMALL LETTER A WITH RING BELOW",
     "1CAPITAL LETTER B WITH DOT ABOVE/1SMALL LETTER B WITH DOT ABOVE",
     "1CAPITAL LETTER B WITH DOT BELOW/1SMALL LETTER B WITH DOT BELOW",
     "1CAPITAL LETTER B WITH LINE BELOW/1SMALL LETTER B WITH LINE BELOW",
     "1CAPITAL LETTER C WITH CEDILLA AND ACUTE/1SMALL LETTER C WITH CEDILLA AND ACUTE",
     "1CAPITAL LETTER D WITH DOT ABOVE/1SMALL LETTER D WITH DOT ABOVE",
     "1CAPITAL LETTER D WITH DOT BELOW/1SMALL LETTER D WITH DOT BELOW",
     "1CAPITAL LETTER D WITH LINE BELOW/1SMALL LETTER D WITH LINE BELOW",
     "1CAPITAL LETTER D WITH CEDILLA/1SMALL LETTER D WITH CEDILLA",
     "1CAPITAL LETTER D WITH CIRCUMFLEX BELOW/1SMALL LETTER D WITH CIRCUMFLEX BELOW",
     "1CAPITAL LETTER E WITH MACRON AND GRAVE/1SMALL LETTER E WITH MACRON AND GRAVE",
     "1CAPITAL LETTER E WITH MACRON AND ACUTE/1SMALL LETTER E WITH MACRON AND ACUTE",
     "1CAPITAL LETTER E WITH CIRCUMFLEX BELOW/1SMALL LETTER E WITH CIRCUMFLEX BELOW",
     "1CAPITAL LETTER E WITH TILDE BELOW/1SMALL LETTER E WITH TILDE BELOW",
     "1CAPITAL LETTER E WITH CEDILLA AND BREVE/1SMALL LETTER E WITH CEDILLA AND BREVE",
     "1CAPITAL LETTER F WITH DOT ABOVE/1SMALL LETTER F WITH DOT ABOVE",
     "1CAPITAL LETTER G WITH MACRON/1SMALL LETTER G WITH MACRON/1CAPITAL LETTER H WITH DOT ABOVE",
     "1SMALL LETTER H WITH DOT ABOVE/1CAPITAL LETTER H WITH DOT BELOW",
     "1SMALL LETTER H WITH DOT BELOW/1CAPITAL LETTER H WITH DIAERESIS",
     "1SMALL LETTER H WITH DIAERESIS/1CAPITAL LETTER H WITH CEDILLA/1SMALL LETTER H WITH CEDILLA",
     "1CAPITAL LETTER H WITH BREVE BELOW/1SMALL LETTER H WITH BREVE BELOW",
     "1CAPITAL LETTER I WITH TILDE BELOW/1SMALL LETTER I WITH TILDE BELOW",
     "1CAPITAL LETTER I WITH DIAERESIS AND ACUTE/1SMALL LETTER I WITH DIAERESIS AND ACUTE",
     "1CAPITAL LETTER K WITH ACUTE/1SMALL LETTER K WITH ACUTE/1CAPITAL LETTER K WITH DOT BELOW",
     "1SMALL LETTER K WITH DOT BELOW/1CAPITAL LETTER K WITH LINE BELOW",
     "1SMALL LETTER K WITH LINE BELOW/1CAPITAL LETTER L WITH DOT BELOW",
     "1SMALL LETTER L WITH DOT BELOW/1CAPITAL LETTER L WITH DOT BELOW AND MACRON",
     "1SMALL LETTER L WITH DOT BELOW AND MACRON/1CAPITAL LETTER L WITH LINE BELOW",
     "1SMALL LETTER L WITH LINE BELOW/1CAPITAL LETTER L WITH CIRCUMFLEX BELOW",
     "1SMALL LETTER L WITH CIRCUMFLEX BELOW/1CAPITAL LETTER M WITH ACUTE",
     "1SMALL LETTER M WITH ACUTE/1CAPITAL LETTER M WITH DOT ABOVE/1SMALL LETTER M WITH DOT ABOVE",
     "1CAPITAL LETTER M WITH DOT BELOW/1SMALL LETTER M WITH DOT BELOW",
     "1CAPITAL LETTER N WITH DOT ABOVE/1SMALL LETTER N WITH DOT ABOVE",
     "1CAPITAL LETTER N WITH DOT BELOW/1SMALL LETTER N WITH DOT BELOW",
     "1CAPITAL LETTER N WITH LINE BELOW/1SMALL LETTER N WITH LINE BELOW",
     "1CAPITAL LETTER N WITH CIRCUMFLEX BELOW/1SMALL LETTER N WITH CIRCUMFLEX BELOW",
     "1CAPITAL LETTER O WITH TILDE AND ACUTE/1SMALL LETTER O WITH TILDE AND ACUTE",
     "1CAPITAL LETTER O WITH TILDE AND DIAERESIS/1SMALL LETTER O WITH TILDE AND DIAERESIS",
     "1CAPITAL LETTER O WITH MACRON AND GRAVE/1SMALL LETTER O WITH MACRON AND GRAVE",
     "1CAPITAL LETTER O WITH MACRON AND ACUTE/1SMALL LETTER O WITH MACRON AND ACUTE",
     "1CAPITAL LETTER P WITH ACUTE/1SMALL LETTER P WITH ACUTE/1CAPITAL LETTER P WITH DOT ABOVE",
     "1SMALL LETTER P WITH DOT ABOVE/1CAPITAL LETTER R WITH DOT ABOVE",
     "1SMALL LETTER R WITH DOT ABOVE/1CAPITAL LETTER R WITH DOT BELOW",
     "1SMALL LETTER R WITH DOT BELOW/1CAPITAL LETTER R WITH DOT BELOW AND MACRON",
     "1SMALL LETTER R WITH DOT BELOW AND MACRON/1CAPITAL LETTER R WITH LINE BELOW",
     "1SMALL LETTER R WITH LINE BELOW/1CAPITAL LETTER S WITH DOT ABOVE",
     "1SMALL LETTER S WITH DOT ABOVE/1CAPITAL LETTER S WITH DOT BELOW",
     "1SMALL LETTER S WITH DOT BELOW/1CAPITAL LETTER S WITH ACUTE AND DOT ABOVE",
     "1SMALL LETTER S WITH ACUTE AND DOT ABOVE/1CAPITAL LETTER S WITH CARON AND DOT ABOVE",
     "1SMALL LETTER S WITH CARON AND DOT ABOVE/1CAPITAL LETTER S WITH DOT BELOW AND DOT ABOVE",
     "1SMALL LETTER S WITH DOT BELOW AND DOT ABOVE/1CAPITAL LETTER T WITH DOT ABOVE",
     "1SMALL LETTER T WITH DOT ABOVE/1CAPITAL LETTER T WITH DOT BELOW",
     "1SMALL LETTER T WITH DOT BELOW/1CAPITAL LETTER T WITH LINE BELOW",
     "1SMALL LETTER T WITH LINE BELOW/1CAPITAL LETTER T WITH CIRCUMFLEX BELOW",
     "1SMALL LETTER T WITH CIRCUMFLEX BELOW/1CAPITAL LETTER U WITH DIAERESIS BELOW",
     "1SMALL LETTER U WITH DIAERESIS BELOW/1CAPITAL LETTER U WITH TILDE BELOW",
     "1SMALL LETTER U WITH TILDE BELOW/1CAPITAL LETTER U WITH CIRCUMFLEX BELOW",
     "1SMALL LETTER U WITH CIRCUMFLEX BELOW/1CAPITAL LETTER U WITH TILDE AND ACUTE",
     "1SMALL LETTER U WITH TILDE AND ACUTE/1CAPITAL LETTER U WITH MACRON AND DIAERESIS",
     "1SMALL LETTER U WITH MACRON AND DIAERESIS/1CAPITAL LETTER V WITH TILDE",
     "1SMALL LETTER V WITH TILDE/1CAPITAL LETTER V WITH DOT BELOW/1SMALL LETTER V WITH DOT BELOW",
     "1CAPITAL LETTER W WITH GRAVE/1SMALL LETTER W WITH GRAVE/1CAPITAL LETTER W WITH ACUTE",
     "1SMALL LETTER W WITH ACUTE/1CAPITAL LETTER W WITH DIAERESIS/1SMALL LETTER W WITH DIAERESIS",
     "1CAPITAL LETTER W WITH DOT ABOVE/1SMALL LETTER W WITH DOT ABOVE",
     "1CAPITAL LETTER W WITH DOT BELOW/1SMALL LETTER W WITH DOT BELOW",
     "1CAPITAL LETTER X WITH DOT ABOVE/1SMALL LETTER X WITH DOT ABOVE",
     "1CAPITAL LETTER X WITH DIAERESIS/1SMALL LETTER X WITH DIAERESIS",
     "1CAPITAL LETTER Y WITH DOT ABOVE/1SMALL LETTER Y WITH DOT ABOVE",
     "1CAPITAL LETTER Z WITH CIRCUMFLEX/1SMALL LETTER Z WITH CIRCUMFLEX",
     "1CAPITAL LETTER Z WITH DOT BELOW/1SMALL LETTER Z WITH DOT BELOW",
     "1CAPITAL LETTER Z WITH LINE BELOW/1SMALL LETTER Z WITH LINE BELOW/3H WITH LINE BELOW",
     "3T WITH DIAERESIS/3W WITH RING ABOVE/3Y WITH RING ABOVE/3A WITH RIGHT HALF RING",
     "3LONG S WITH DOT ABOVE/6DIAGONAL STROKE/6HIGH STROKE/1CAPITAL LETTER SHARP S",
     "1SMALL LETTER DELTA/1CAPITAL LETTER A WITH DOT BELOW/1SMALL LETTER A WITH DOT BELOW",
     "1CAPITAL LETTER A WITH HOOK ABOVE/1SMALL LETTER A WITH HOOK ABOVE",
     "1CAPITAL LETTER A WITH CIRCUMFLEX AND ACUTE/1SMALL LETTER A WITH CIRCUMFLEX AND ACUTE",
     "1CAPITAL LETTER A WITH CIRCUMFLEX AND GRAVE/1SMALL LETTER A WITH CIRCUMFLEX AND GRAVE",
     "1CAPITAL LETTER A WITH CIRCUMFLEX AND HOOK ABOVE",
     "1SMALL LETTER A WITH CIRCUMFLEX AND HOOK ABOVE/1CAPITAL LETTER A WITH CIRCUMFLEX AND TILDE",
     "1SMALL LETTER A WITH CIRCUMFLEX AND TILDE/1CAPITAL LETTER A WITH CIRCUMFLEX AND DOT BELOW",
     "1SMALL LETTER A WITH CIRCUMFLEX AND DOT BELOW/1CAPITAL LETTER A WITH BREVE AND ACUTE",
     "1SMALL LETTER A WITH BREVE AND ACUTE/1CAPITAL LETTER A WITH BREVE AND GRAVE",
     "1SMALL LETTER A WITH BREVE AND GRAVE/1CAPITAL LETTER A WITH BREVE AND HOOK ABOVE",
     "1SMALL LETTER A WITH BREVE AND HOOK ABOVE/1CAPITAL LETTER A WITH BREVE AND TILDE",
     "1SMALL LETTER A WITH BREVE AND TILDE/1CAPITAL LETTER A WITH BREVE AND DOT BELOW",
     "1SMALL LETTER A WITH BREVE AND DOT BELOW/1CAPITAL LETTER E WITH DOT BELOW",
     "1SMALL LETTER E WITH DOT BELOW/1CAPITAL LETTER E WITH HOOK ABOVE",
     "1SMALL LETTER E WITH HOOK ABOVE/1CAPITAL LETTER E WITH TILDE/1SMALL LETTER E WITH TILDE",
     "1CAPITAL LETTER E WITH CIRCUMFLEX AND ACUTE/1SMALL LETTER E WITH CIRCUMFLEX AND ACUTE",
     "1CAPITAL LETTER E WITH CIRCUMFLEX AND GRAVE/1SMALL LETTER E WITH CIRCUMFLEX AND GRAVE",
     "1CAPITAL LETTER E WITH CIRCUMFLEX AND HOOK ABOVE",
     "1SMALL LETTER E WITH CIRCUMFLEX AND HOOK ABOVE/1CAPITAL LETTER E WITH CIRCUMFLEX AND TILDE",
     "1SMALL LETTER E WITH CIRCUMFLEX AND TILDE/1CAPITAL LETTER E WITH CIRCUMFLEX AND DOT BELOW",
     "1SMALL LETTER E WITH CIRCUMFLEX AND DOT BELOW/1CAPITAL LETTER I WITH HOOK ABOVE",
     "1SMALL LETTER I WITH HOOK ABOVE/1CAPITAL LETTER I WITH DOT BELOW",
     "1SMALL LETTER I WITH DOT BELOW/1CAPITAL LETTER O WITH DOT BELOW",
     "1SMALL LETTER O WITH DOT BELOW/1CAPITAL LETTER O WITH HOOK ABOVE",
     "1SMALL LETTER O WITH HOOK ABOVE/1CAPITAL LETTER O WITH CIRCUMFLEX AND ACUTE",
     "1SMALL LETTER O WITH CIRCUMFLEX AND ACUTE/1CAPITAL LETTER O WITH CIRCUMFLEX AND GRAVE",
     "1SMALL LETTER O WITH CIRCUMFLEX AND GRAVE/1CAPITAL LETTER O WITH CIRCUMFLEX AND HOOK ABOVE",
     "1SMALL LETTER O WITH CIRCUMFLEX AND HOOK ABOVE/1CAPITAL LETTER O WITH CIRCUMFLEX AND TILDE",
     "1SMALL LETTER O WITH CIRCUMFLEX AND TILDE/1CAPITAL LETTER O WITH CIRCUMFLEX AND DOT BELOW",
     "1SMALL LETTER O WITH CIRCUMFLEX AND DOT BELOW/1CAPITAL LETTER O WITH HORN AND ACUTE",
     "1SMALL LETTER O WITH HORN AND ACUTE/1CAPITAL LETTER O WITH HORN AND GRAVE",
     "1SMALL LETTER O WITH HORN AND GRAVE/1CAPITAL LETTER O WITH HORN AND HOOK ABOVE",
     "1SMALL LETTER O WITH HORN AND HOOK ABOVE/1CAPITAL LETTER O WITH HORN AND TILDE",
     "1SMALL LETTER O WITH HORN AND TILDE/1CAPITAL LETTER O WITH HORN AND DOT BELOW",
     "1SMALL LETTER O WITH HORN AND DOT BELOW/1CAPITAL LETTER U WITH DOT BELOW",
     "1SMALL LETTER U WITH DOT BELOW/1CAPITAL LETTER U WITH HOOK ABOVE",
     "1SMALL LETTER U WITH HOOK ABOVE/1CAPITAL LETTER U WITH HORN AND ACUTE",
     "1SMALL LETTER U WITH HORN AND ACUTE/1CAPITAL LETTER U WITH HORN AND GRAVE",
     "1SMALL LETTER U WITH HORN AND GRAVE/1CAPITAL LETTER U WITH HORN AND HOOK ABOVE",
     "1SMALL LETTER U WITH HORN AND HOOK ABOVE/1CAPITAL LETTER U WITH HORN AND TILDE",
     "1SMALL LETTER U WITH HORN AND TILDE/1CAPITAL LETTER U WITH HORN AND DOT BELOW",
     "1SMALL LETTER U WITH HORN AND DOT BELOW/1CAPITAL LETTER Y WITH GRAVE",
     "1SMALL LETTER Y WITH GRAVE/1CAPITAL LETTER Y WITH DOT BELOW/1SMALL LETTER Y WITH DOT BELOW",
     "1CAPITAL LETTER Y WITH HOOK ABOVE/1SMALL LETTER Y WITH HOOK ABOVE",
     "1CAPITAL LETTER Y WITH TILDE/1SMALL LETTER Y WITH TILDE/1CAPITAL LETTER MIDDLE-WELSH LL",
     "1SMALL LETTER MIDDLE-WELSH LL/1CAPITAL LETTER MIDDLE-WELSH V/1SMALL LETTER MIDDLE-WELSH V",
     "1CAPITAL LETTER Y WITH LOOP/1SMALL LETTER Y WITH LOOP/GREEK SMALL LETTER ALPHA WITH PSILI",
     "5DASIA/5PSILI AND VARIA/5DASIA AND VARIA/5PSILI AND OXIA/5DASIA AND OXIA",
     "5PSILI AND PERISPOMENI/5DASIA AND PERISPOMENI/1CAPITAL LETTER ALPHA WITH PSILI/5DASIA",
     "5PSILI AND VARIA/5DASIA AND VARIA/5PSILI AND OXIA/5DASIA AND OXIA/5PSILI AND PERISPOMENI",
     "5DASIA AND PERISPOMENI/1SMALL LETTER EPSILON WITH PSILI/5DASIA/5PSILI AND VARIA",
     "5DASIA AND VARIA/5PSILI AND OXIA/5DASIA AND OXIA"]),
   (0x1F18,
    ["GREEK CAPITAL LETTER EPSILON WITH PSILI/5DASIA/5PSILI AND VARIA/5DASIA AND VARIA",
     "5PSILI AND OXIA/5DASIA AND OXIA"]),
   (0x1F20,
    ["GREEK SMALL LETTER ETA WITH PSILI/5DASIA/5PSILI AND VARIA/5DASIA AND VARIA/5PSILI AND OXIA",
     "5DASIA AND OXIA/5PSILI AND PERISPOMENI/5DASIA AND PERISPOMENI",
     "1CAPITAL LETTER ETA WITH PSILI/5DASIA/5PSILI AND VARIA/5DASIA AND VARIA/5PSILI AND OXIA",
     "5DASIA AND OXIA/5PSILI AND PERISPOMENI/5DASIA AND PERISPOMENI",
     "1SMALL LETTER IOTA WITH PSILI/5DASIA/5PSILI AND VARIA/5DASIA AND VARIA/5PSILI AND OXIA",
     "5DASIA AND OXIA/5PSILI AND PERISPOMENI/5DASIA AND PERISPOMENI",
     "1CAPITAL LETTER IOTA WITH PSILI/5DASIA/5PSILI AND VARIA/5DASIA AND VARIA/5PSILI AND OXIA",
     "5DASIA AND OXIA/5PSILI AND PERISPOMENI/5DASIA AND PERISPOMENI",
     "1SMALL LETTER OMICRON WITH PSILI/5DASIA/5PSILI AND VARIA/5DASIA AND VARIA/5PSILI AND OXIA",
     "5DASIA AND OXIA"]),
   (0x1F48,
    ["GREEK CAPITAL LETTER OMICRON WITH PSILI/5DASIA/5PSILI AND VARIA/5DASIA AND VARIA",
     "5PSILI AND OXIA/5DASIA AND OXIA"]),
   (0x1F50,
    ["GREEK SMALL LETTER UPSILON WITH PSILI/5DASIA/5PSILI AND VARIA/5DASIA AND VARIA",
     "5PSILI AND OXIA/5DASIA AND OXIA/5PSILI AND PERISPOMENI/5DASIA AND PERISPOMENI"]),
   (0x1F59, ["GREEK CAPITAL LETTER UPSILON WITH DASIA"]),
   (0x1F5B, ["GREEK CAPITAL LETTER UPSILON WITH DASIA AND VARIA"]),
   (0x1F5D, ["GREEK CAPITAL LETTER UPSILON WITH DASIA AND OXIA"]),
   (0x1F5F,
    ["GREEK CAPITAL LETTER UPSILON WITH DASIA AND PERISPOMENI/1SMALL LETTER OMEGA WITH PSILI",
     "5DASIA/5PSILI AND VARIA/5DASIA AND VARIA/5PSILI AND OXIA/5DASIA AND OXIA",
     "5PSILI AND PERISPOMENI/5DASIA AND PERISPOMENI/1CAPITAL LETTER OMEGA WITH PSILI/5DASIA",
     "5PSILI AND VARIA/5DASIA AND VARIA/5PSILI AND OXIA/5DASIA AND OXIA/5PSILI AND PERISPOMENI",
     "5DASIA AND PERISPOMENI/1SMALL LETTER ALPHA WITH VARIA/5OXIA/3EPSILON WITH VARIA/5OXIA",
     "3ETA WITH VARIA/5OXIA/3IOTA WITH VARIA/5OXIA/3OMICRON WITH VARIA/5OXIA/3UPSILON WITH VARIA",
     "5OXIA/3OMEGA WITH VARIA/5OXIA"]),
   (0x1F80,
    ["GREEK SMALL LETTER ALPHA WITH PSILI AND YPOGEGRAMMENI/5DASIA AND YPOGEGRAMMENI",
     "5PSILI AND VARIA AND YPOGEGRAMMENI/5DASIA AND VARIA AND YPOGEGRAMMENI",
     "5PSILI AND OXIA AND YPOGEGRAMMENI/5DASIA AND OXIA AND YPOGEGRAMMENI",
     "5PSILI AND PERISPOMENI AND YPOGEGRAMMENI/5DASIA AND PERISPOMENI AND YPOGEGRAMMENI",
     "1CAPITAL LETTER ALPHA WITH PSILI AND PROSGEGRAMMENI/5DASIA AND PROSGEGRAMMENI",
     "5PSILI AND VARIA AND PROSGEGRAMMENI/5DASIA AND VARIA AND PROSGEGRAMMENI",
     "5PSILI AND OXIA AND PROSGEGRAMMENI/5DASIA AND OXIA AND PROSGEGRAMMENI",
     "5PSILI AND PERISPOMENI AND PROSGEGRAMMENI/5DASIA AND PERISPOMENI AND PROSGEGRAMMENI",
     "1SMALL LETTER ETA WITH PSILI AND YPOGEGRAMMENI/5DASIA AND YPOGEGRAMMENI",
     "5PSILI AND VARIA AND YPOGEGRAMMENI/5DASIA AND VARIA AND YPOGEGRAMMENI",
     "5PSILI AND OXIA AND YPOGEGRAMMENI/5DASIA AND OXIA AND YPOGEGRAMMENI",
     "5PSILI AND PERISPOMENI AND YPOGEGRAMMENI/5DASIA AND PERISPOMENI AND YPOGEGRAMMENI",
     "1CAPITAL LETTER ETA WITH PSILI AND PROSGEGRAMMENI/5DASIA AND PROSGEGRAMMENI",
     "5PSILI AND VARIA AND PROSGEGRAMMENI/5DASIA AND VARIA AND PROSGEGRAMMENI",
     "5PSILI AND OXIA AND PROSGEGRAMMENI/5DASIA AND OXIA AND PROSGEGRAMMENI",
     "5PSILI AND PERISPOMENI AND PROSGEGRAMMENI/5DASIA AND PERISPOMENI AND PROSGEGRAMMENI",
     "1SMALL LETTER OMEGA WITH PSILI AND YPOGEGRAMMENI/5DASIA AND YPOGEGRAMMENI",
     "5PSILI AND VARIA AND YPOGEGRAMMENI/5DASIA AND VARIA AND YPOGEGRAMMENI",
     "5PSILI AND OXIA AND YPOGEGRAMMENI/5DASIA AND OXIA AND YPOGEGRAMMENI",
     "5PSILI AND PERISPOMENI AND YPOGEGRAMMENI/5DASIA AND PERISPOMENI AND YPOGEGRAMMENI",
     "1CAPITAL LETTER OMEGA WITH PSILI AND PROSGEGRAMMENI/5DASIA AND PROSGEGRAMMENI",
     "5PSILI AND VARIA AND PROSGEGRAMMENI/5DASIA AND VARIA AND PROSGEGRAMMENI",
     "5PSILI AND OXIA AND PROSGEGRAMMENI/5DASIA AND OXIA AND PROSGEGRAMMENI",
     "5PSILI AND PERISPOMENI AND PROSGEGRAMMENI/5DASIA AND PERISPOMENI AND PROSGEGRAMMENI",
     "1SMALL LETTER ALPHA WITH VRACHY/5MACRON/5VARIA AND YPOGEGRAMMENI/5YPOGEGRAMMENI",
     "5OXIA AND YPOGEGRAMMENI"]),
   (0x1FB6,
    ["GREEK SMALL LETTER ALPHA WITH PERISPOMENI/6AND YPOGEGRAMMENI",
     "1CAPITAL LETTER ALPHA WITH VRACHY/5MACRON/5VARIA/5OXIA/5PROSGEGRAMMENI/1KORONIS",
     "1PROSGEGRAMMENI/1PSILI/1PERISPOMENI/1DIALYTIKA AND PERISPOMENI",
     "1SMALL LETTER ETA WITH VARIA AND YPOGEGRAMMENI/5YPOGEGRAMMENI/5OXIA AND YPOGEGRAMMENI"]),
   (0x1FC6,
    ["GREEK SMALL LETTER ETA WITH PERISPOMENI/6AND YPOGEGRAMMENI",
     "1CAPITAL LETTER EPSILON WITH VARIA/5OXIA/3ETA WITH VARIA/5OXIA/5PROSGEGRAMMENI",
     "1PSILI AND VARIA/3OXIA/3PERISPOMENI/1SMALL LETTER IOTA WITH VRACHY/5MACRON",
     "5DIALYTIKA AND VARIA/7OXIA"]),
   (0x1FD6,
    ["GREEK SMALL LETTER IOTA WITH PERISPOMENI/5DIALYTIKA AND PERISPOMENI",
     "1CAPITAL LETTER IOTA WITH VRACHY/5MACRON/5VARIA/5OXIA"]),
   (0x1FDD,
    ["GREEK DASIA AND VARIA/3OXIA/3PERISPOMENI/1SMALL LETTER UPSILON WITH VRACHY/5MACRON",
     "5DIALYTIKA AND VARIA/7OXIA/3RHO WITH PSILI/5DASIA/3UPSILON WITH PERISPOMENI",
     "5DIALYTIKA AND PERISPOMENI/1CAPITAL LETTER UPSILON WITH VRACHY/5MACRON/5VARIA/5OXIA",
     "3RHO WITH DASIA/1DIALYTIKA AND VARIA/3OXIA/1VARIA"]),
   (0x1FF2,
    ["GREEK SMALL LETTER OMEGA WITH VARIA AND YPOGEGRAMMENI/5YPOGEGRAMMENI",
     "5OXIA AND YPOGEGRAMMENI"]),
   (0x1FF6,
    ["GREEK SMALL LETTER OMEGA WITH PERISPOMENI/6AND YPOGEGRAMMENI",
     "1CAPITAL LETTER OMICRON WITH VARIA/5OXIA/3OMEGA WITH VARIA/5OXIA/5PROSGEGRAMMENI/1OXIA",
     "1DASIA"])]

end SchemaBridge.Text.CharName
