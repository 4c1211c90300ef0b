/-
# Connection.Spelling -- what host names write for other characters

A host name is written in small letters, and characters that only look different
are written alike: a letter in a circle or of full width is the letter, and the
ideographic full stop is a dot.  Some characters are left out, and some no name
has.

The tables follow the compatibility mapping of Unicode 17.0 for names.  They say
what is written where that is, or has in it, an ASCII character, or where marks
come in or go away.  All other characters that are written differently (`replaced`)
stand for letters of their own kind and are left as they are: nothing that
is asked of a name depends on them.
-/
import PlanCompiler.Text.Casing
import PlanCompiler.Text.Printable
import PlanCompiler.Text.Split

namespace PlanCompiler.Spelling

set_option autoImplicit false

/-- Characters that are written as one other, in the order of their code points from the first. -/
def letters : List (Nat × String) := [
  (0xaa, "a"), (0xb2, "23"), (0xb9, "1o"), (0x17f, "s"), (0x2b0, "h"), (0x2b2, "jr"),
  (0x2b7, "wy"), (0x2e1, "lsx"), (0x340, "\u0300\u0301"), (0x343, "\u0313"), (0x345, "ι"),
  (0x37e, ";"), (0x1d2c, "a"), (0x1d2e, "b"), (0x1d30, "de"), (0x1d33, "ghijklmn"), (0x1d3c, "o"),
  (0x1d3e, "prtuwa"), (0x1d47, "bde"), (0x1d4d, "g"), (0x1d4f, "km"), (0x1d52, "o"),
  (0x1d56, "ptu"), (0x1d5b, "v"), (0x1d62, "iruv"), (0x1d9c, "c"), (0x1da0, "f"), (0x1dbb, "z"),
  (0x1fef, "`"), (0x2070, "0i"), (0x2074, "456789+"), (0x207c, "=()n0123456789+"),
  (0x208c, "=()"), (0x2090, "aeox"), (0x2095, "hklmnpst"), (0x2102, "c"), (0x210a, "ghhhh"),
  (0x2110, "iill"), (0x2115, "n"), (0x2119, "pqrrr"), (0x2124, "z"), (0x2128, "z"), (0x212a, "k"),
  (0x212c, "bc"), (0x212f, "eef"), (0x2133, "mo"), (0x2139, "i"), (0x2145, "ddeij"),
  (0x2160, "i"), (0x2164, "v"), (0x2169, "x"), (0x216c, "lcdmi"), (0x2174, "v"), (0x2179, "x"),
  (0x217c, "lcdm"), (0x2460, "123456789"), (0x24b6, "abcdefghijklmnopqrstuvwxyz"),
  (0x24d0, "abcdefghijklmnopqrstuvwxyz"), (0x24ea, "0"), (0x2c7c, "jv"), (0x3002, "."),
  (0xa7f1, "scfq"), (0xfb29, "+"), (0xfe10, ","), (0xfe14, ";!"), (0xfe33, "__()\x7b\x7d"),
  (0xfe4d, "___,"), (0xfe54, ";"), (0xfe57, "!"), (0xfe59, "()\x7b\x7d"), (0xfe60, "&*+-<>="),
  (0xfe69, "$"), (0xff01, "!\""), (0xff04, "$"), (0xff06, "&'()*+,-."), (0xff10, "0123456789"),
  (0xff1b, ";<=>"), (0xff21, "abcdefghijklmnopqrstuvwxyz"),
  (0xff3f, "_`abcdefghijklmnopqrstuvwx"), (0xff59, "yz\x7b"), (0xff5d, "\x7d~"), (0xff61, "."),
  (0xff9e, "\u3099\u309a"), (0x107a5, "q"), (0x1ccd6, "abcdefghijklmnopqrstuvwxyz"),
  (0x1ccf0, "0123456789"), (0x1d400, "abcdefghijklmnopqrstuvwxyz"),
  (0x1d41a, "abcdefghijklmnopqrstuvwxyz"), (0x1d434, "abcdefghijklmnopqrstuvwxyz"),
  (0x1d44e, "abcdefg"), (0x1d456, "ijklmnopqrstuvwxyzabcdefgh"),
  (0x1d470, "ijklmnopqrstuvwxyzabcdefgh"), (0x1d48a, "ijklmnopqrstuvwxyza"), (0x1d49e, "cd"),
  (0x1d4a2, "g"), (0x1d4a5, "jk"), (0x1d4a9, "nopq"), (0x1d4ae, "stuvwxyzabcd"), (0x1d4bb, "f"),
  (0x1d4bd, "hijklmn"), (0x1d4c5, "pqrstuvwxyzabcdefghijklmno"),
  (0x1d4df, "pqrstuvwxyzabcdefghijklmno"), (0x1d4f9, "pqrstuvwxyzab"), (0x1d507, "defg"),
  (0x1d50d, "jklmnopq"), (0x1d516, "stuvwxy"), (0x1d51e, "abcdefghijklmnopqrstuvwxyz"),
  (0x1d538, "ab"), (0x1d53b, "defg"), (0x1d540, "ijklm"), (0x1d546, "o"), (0x1d54a, "stuvwxy"),
  (0x1d552, "abcdefghijklmnopqrstuvwxyz"), (0x1d56c, "abcdefghijklmnopqrstuvwxyz"),
  (0x1d586, "abcdefghijklmnopqrstuvwxyz"), (0x1d5a0, "abcdefghijklmnopqrstuvwxyz"),
  (0x1d5ba, "abcdefghijklmnopqrstuvwxyz"), (0x1d5d4, "abcdefghijklmnopqrstuvwxyz"),
  (0x1d5ee, "abcdefghijklmnopqrstuvwxyz"), (0x1d608, "abcdefghijklmnopqrstuvwxyz"),
  (0x1d622, "abcdefghijklmnopqrstuvwxyz"), (0x1d63c, "abcdefghijklmnopqrstuvwxyz"),
  (0x1d656, "abcdefghijklmnopqrstuvwxyz"), (0x1d670, "abcdefghijklmnopqrstuvwxyz"),
  (0x1d68a, "abcdefghijklmnopqrstuvwxyz"), (0x1d7ce, "01234567890123456789012345"),
  (0x1d7e8, "678901234567890123456789"), (0x1f12b, "cr"), (0x1f130, "abcdefghijklmnopqrstuvwxyz"),
  (0x1fbf0, "0123456789")]

/-- Characters that are written as several, likewise. -/
def words : List (Nat × String) := [
  (0xbc, "1⁄4 1⁄2 3⁄4"), (0x130, "i\u0307"), (0x132, "ij ij"), (0x13f, "l· l·"), (0x149, "ʼn"),
  (0x1c4, "dž dž dž lj lj lj nj nj nj"), (0x1f1, "dz dz dz"), (0x344, "\u0308\u0301"),
  (0xe33, "\u0e4dา"), (0xeb3, "\u0ecdາ"), (0xf73, "\u0f71\u0f72"),
  (0xf75, "\u0f71\u0f74 \u0fb2\u0f80 \u0fb2\u0f71\u0f80 \u0fb3\u0f80 \u0fb3\u0f71\u0f80"),
  (0xf81, "\u0f71\u0f80"), (0xf93, "\u0f92\u0fb7"), (0xf9d, "\u0f9c\u0fb7"),
  (0xfa2, "\u0fa1\u0fb7"), (0xfa7, "\u0fa6\u0fb7"), (0xfac, "\u0fab\u0fb7"),
  (0xfb9, "\u0f90\u0fb5"), (0x1e9a, "aʾ"), (0x203c, "!!"), (0x20a8, "rs"), (0x2103, "°c"),
  (0x2109, "°f"), (0x2116, "no"), (0x2120, "sm tel tm"), (0x213b, "fax"),
  (0x2150, "1⁄7 1⁄9 1⁄10 1⁄3 2⁄3 1⁄5 2⁄5 3⁄5 4⁄5 1⁄6 5⁄6 1⁄8 3⁄8 5⁄8 7⁄8 1⁄"),
  (0x2161, "ii iii iv"), (0x2165, "vi vii viii ix"), (0x216a, "xi xii"), (0x2171, "ii iii iv"),
  (0x2175, "vi vii viii ix"), (0x217a, "xi xii"), (0x2189, "0⁄3"),
  (0x2469, "10 11 12 13 14 15 16 17 18 19 20 (1) (2) (3) (4) (5)"),
  (0x2479, "(6) (7) (8) (9) (10) (11) (12) (13) (14) (15) (16) (17) (18) (19) (20)"),
  (0x249c, "(a) (b) (c) (d) (e) (f) (g) (h) (i) (j) (k) (l) (m) (n) (o) (p)"),
  (0x24ac, "(q) (r) (s) (t) (u) (v) (w) (x) (y) (z)"), (0x2a75, "== ==="),
  (0x3200, "(ᄀ) (ᄂ) (ᄃ) (ᄅ) (ᄆ) (ᄇ) (ᄉ) (ᄋ) (ᄌ) (ᄎ) (ᄏ) (ᄐ) (ᄑ) (ᄒ) (가) (나)"),
  (0x3210, "(다) (라) (마) (바) (사) (아) (자) (차) (카) (타) (파) (하) (주) (오전) (오후)"),
  (0x3220, "(一) (二) (三) (四) (五) (六) (七) (八) (九) (十) (月) (火) (水) (木) (金) (土)"),
  (0x3230, "(日) (株) (有) (社) (名) (特) (財) (祝) (労) (代) (呼) (学) (監) (企) (資) (協)"),
  (0x3240, "(祭) (休) (自) (至)"), (0x3250, "pte 21 22 23 24 25 26 27 28 29 30 31 32 33 34 35"),
  (0x32b1, "36 37 38 39 40 41 42 43 44 45 46 47 48 49 50 1月"),
  (0x32c1, "2月 3月 4月 5月 6月 7月 8月 9月 10月 11月 12月 hg erg ev ltd"),
  (0x3358, "0点 1点 2点 3点 4点 5点 6点 7点 8点 9点 10点 11点 12点 13点 14点 15点"),
  (0x3368, "16点 17点 18点 19点 20点 21点 22点 23点 24点 hpa da au bar ov pc dm"), (0x3378, "dm2 dm3 iu"),
  (0x3380, "pa na μa ma ka kb mb gb cal kcal pf nf μf μg mg kg"),
  (0x3390, "hz khz mhz ghz thz μl ml dl kl fm nm μm mm cm km mm2"),
  (0x33a0, "cm2 m2 km2 mm3 cm3 m3 km3 m∕s m∕s2 pa kpa mpa gpa rad rad∕s rad∕s2"),
  (0x33b0, "ps ns μs ms pv nv μv mv kv mv pw nw μw mw kw mw"), (0x33c0, "kω mω"),
  (0x33c3, "bq cc cd c∕kg"), (0x33c8, "db gy ha hp in kk km kt lm ln log lx mb mil mol ph"),
  (0x33d9, "ppm pr sr sv wb v∕m a∕m 1日 2日 3日 4日 5日 6日 7日 8日 9日"),
  (0x33e9, "10日 11日 12日 13日 14日 15日 16日 17日 18日 19日 20日 21日 22日 23日 24日 25日"),
  (0x33f9, "26日 27日 28日 29日 30日 31日 gal"), (0xfb00, "ff fi fl ffi ffl st st"),
  (0x1f101, "0, 1, 2, 3, 4, 5, 6, 7, 8, 9,"),
  (0x1f110, "(a) (b) (c) (d) (e) (f) (g) (h) (i) (j) (k) (l) (m) (n) (o) (p)"),
  (0x1f120, "(q) (r) (s) (t) (u) (v) (w) (x) (y) (z) 〔s〕"), (0x1f12d, "cd wz"),
  (0x1f14a, "hv mv sd ss ppv wc"), (0x1f16a, "mc md mr"), (0x1f190, "dj"),
  (0x1f240, "〔本〕 〔三〕 〔二〕 〔安〕 〔点〕 〔打〕 〔盗〕 〔勝〕 〔敗〕")]

/-- The characters that are left out. -/
def ignored : Text.Ranges := [
  (0xad, 0xad), (0x34f, 0x34f), (0x115f, 0x1160), (0x17b4, 0x17b5), (0x180b, 0x180f),
  (0x200b, 0x200b), (0x2060, 0x2064), (0x206a, 0x206f), (0x3164, 0x3164), (0xfe00, 0xfe0f),
  (0xfeff, 0xfeff), (0xffa0, 0xffa0), (0x1bca0, 0x1bca3), (0x1d173, 0x1d17a), (0xe0100, 0xe01ef)]

/-- The visible characters that no name has. -/
def refused : Text.Ranges := [
  (0xa8, 0xa8), (0xaf, 0xaf), (0xb4, 0xb4), (0xb8, 0xb8), (0x2d8, 0x2dd), (0x37a, 0x37a),
  (0x384, 0x385), (0x1fbd, 0x1fbd), (0x1fbf, 0x1fc1), (0x1fcd, 0x1fcf), (0x1fdd, 0x1fdf),
  (0x1fed, 0x1fee), (0x1ffd, 0x1ffe), (0x2017, 0x2017), (0x2024, 0x2026), (0x203e, 0x203e),
  (0x2047, 0x2049), (0x2100, 0x2101), (0x2105, 0x2106), (0x2488, 0x249b), (0x2a74, 0x2a74),
  (0x2ff0, 0x2fff), (0x309b, 0x309c), (0x31ef, 0x31ef), (0x33c2, 0x33c2), (0x33c7, 0x33c7),
  (0x33d8, 0x33d8), (0xfc5e, 0xfc63), (0xfdfa, 0xfdfb), (0xfe12, 0xfe13), (0xfe16, 0xfe16),
  (0xfe19, 0xfe19), (0xfe30, 0xfe30), (0xfe47, 0xfe4c), (0xfe52, 0xfe52), (0xfe55, 0xfe56),
  (0xfe5f, 0xfe5f), (0xfe68, 0xfe68), (0xfe6a, 0xfe6b), (0xfe70, 0xfe70), (0xfe72, 0xfe72),
  (0xfe74, 0xfe74), (0xfe76, 0xfe76), (0xfe78, 0xfe78), (0xfe7a, 0xfe7a), (0xfe7c, 0xfe7c),
  (0xfe7e, 0xfe7e), (0xff03, 0xff03), (0xff05, 0xff05), (0xff0f, 0xff0f), (0xff1a, 0xff1a),
  (0xff1f, 0xff20), (0xff3b, 0xff3e), (0xff5c, 0xff5c), (0xffe3, 0xffe3), (0xfffc, 0xfffd),
  (0x1f100, 0x1f100)]

/-- The other characters that are written differently; a range may hold some of the tables above. -/
def replaced : Text.Ranges := [
  (0xb5, 0xb5), (0x2b1, 0x2b6), (0x2e0, 0x2e4), (0x374, 0x374), (0x387, 0x387), (0x3d0, 0x3d6),
  (0x3f0, 0x3f2), (0x3f5, 0x3f5), (0x587, 0x587), (0x675, 0x678), (0x958, 0x95f), (0x9dc, 0x9df),
  (0xa33, 0xa33), (0xa36, 0xa36), (0xa59, 0xa5b), (0xa5e, 0xa5e), (0xb5c, 0xb5d), (0xedc, 0xedd),
  (0xf0c, 0xf0c), (0xf43, 0xf43), (0xf4d, 0xf4d), (0xf52, 0xf52), (0xf57, 0xf57), (0xf5c, 0xf5c),
  (0xf69, 0xf69), (0x10fc, 0x10fc), (0x13f8, 0x13fd), (0x1c80, 0x1c88), (0x1d2d, 0x1d2d),
  (0x1d32, 0x1d32), (0x1d3d, 0x1d4c), (0x1d51, 0x1d6a), (0x1d78, 0x1d78), (0x1d9b, 0x1dbf),
  (0x1e9b, 0x1e9b), (0x1f71, 0x1f71), (0x1f73, 0x1f73), (0x1f75, 0x1f75), (0x1f77, 0x1f77),
  (0x1f79, 0x1f79), (0x1f7b, 0x1f7b), (0x1f7d, 0x1fa7), (0x1fb2, 0x1fb4), (0x1fb7, 0x1fc4),
  (0x1fc7, 0x1fc7), (0x1fd3, 0x1fd3), (0x1fe3, 0x1fe3), (0x1ff2, 0x1ff4), (0x1ff7, 0x1ff7),
  (0x2011, 0x2011), (0x2033, 0x2034), (0x2036, 0x2037), (0x2057, 0x2057), (0x207b, 0x2094),
  (0x2107, 0x2107), (0x210f, 0x210f), (0x2135, 0x2138), (0x213c, 0x2140), (0x222c, 0x222d),
  (0x222f, 0x2230), (0x2329, 0x232a), (0x2a0c, 0x2a0c), (0x2adc, 0x2adc), (0x2d6f, 0x2d6f),
  (0x2e9f, 0x2e9f), (0x2ef3, 0x2fd5), (0x3036, 0x3036), (0x3038, 0x303a), (0x309f, 0x309f),
  (0x30ff, 0x30ff), (0x3131, 0x318e), (0x3192, 0x319f), (0x3244, 0x3247), (0x3260, 0x327e),
  (0x3280, 0x337f), (0xa69c, 0xa69d), (0xa770, 0xa770), (0xa7f8, 0xa7f9), (0xab5c, 0xab5f),
  (0xab69, 0xab69), (0xab70, 0xabbf), (0xf900, 0xfa0d), (0xfa10, 0xfa10), (0xfa12, 0xfa12),
  (0xfa15, 0xfa1e), (0xfa20, 0xfa20), (0xfa22, 0xfa22), (0xfa25, 0xfa26), (0xfa2a, 0xfb1d),
  (0xfb1f, 0xfbb1), (0xfbd3, 0xfd3d), (0xfd50, 0xfd8f), (0xfd92, 0xfdc7), (0xfdf0, 0xfdfc),
  (0xfe11, 0xfe18), (0xfe31, 0xfe44), (0xfe51, 0xfe71), (0xfe77, 0xffee), (0x10781, 0x107ba),
  (0x1d15e, 0x1d164), (0x1d1bb, 0x1d1c0), (0x1d6a4, 0x1d7cb), (0x1e030, 0x1e06d),
  (0x1ee00, 0x1eebb), (0x1f200, 0x1f251), (0x2f800, 0x2fa1d)]

/-- The capitals that are written as themselves. -/
def keptCapitals : Text.Ranges := [
  (0x13a0, 0x13f5)]

/-- The joiners, which names may have between letters. -/
def isJoiner (c : Char) : Bool :=
  c == '\u200c' || c == '\u200d'

def isRefused (c : Char) : Bool :=
  refused.contains c.toNat || (Text.unprintable.contains c.toNat && !isJoiner c)

/-- What a row of a table has for a code point. -/
def inRow {α : Type} (code first : Nat) (row : List α) : Option α :=
  if first ≤ code then row[code - first]? else none

/-- What a character is written as, if the tables say. -/
def listed? (c : Char) : Option (List Char) :=
  match letters.findSome? fun (first, row) => inRow c.toNat first row.toList with
  | some letter => some [letter]
  | none => words.findSome? fun (first, row) => inRow c.toNat first (Text.split ' ' row.toList)

/-- What a name has for a character, unless it cannot have it. -/
def spell? (c : Char) : Option (List Char) :=
  if c.toNat < 0x80 then some [c.toLower]
  else if ignored.contains c.toNat then some []
  else match listed? c with
    | some text => some text
    | none => if isRefused c then none else some [c]

/-- Whether a name may have a character as it is. -/
def isPlain (c : Char) : Bool :=
  if c.toNat < 0x80 then !c.isUpper
  else !(ignored.contains c.toNat || (listed? c).isSome || isRefused c
    || replaced.contains c.toNat
    || (Text.lowerChar c != [c] && !keptCapitals.contains c.toNat))

end PlanCompiler.Spelling
