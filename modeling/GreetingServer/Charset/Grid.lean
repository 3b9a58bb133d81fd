import GreetingServer.Charset.Basic

/-! Grids: sets of thousands of characters, each of which has a code of two bytes. Only the
characters that are Latin-1 or blank are known here, and stand in runs of consecutive codes. Every
other character is one that no byte stands for, and a text with one of them is not told apart. -/
namespace GreetingServer
namespace Charset

/-- The runs of a grid: the code of the first character, and the characters. -/
abbrev Grid := List (Nat × String)

namespace Grid

def find? (g : Grid) (code : Nat) : Option Char :=
  g.findSome? fun run => if run.1 ≤ code then run.2.toList[code - run.1]? else none

/-! The codes of the first grids are those of seven bits a byte. -/

def gb2312 : Grid :=
  [(0x2121, "\u3000"), (0x2127, "¨"), (0x2140, "±×÷"), (0x2163, "°"), (0x2168, "¤"), (0x216c, "§"),
    (0x2822, "á"), (0x2824, "à"), (0x2826, "é"), (0x2828, "è"), (0x282a, "í"), (0x282c, "ì"),
    (0x282e, "ó"), (0x2830, "ò"), (0x2832, "ú"), (0x2834, "ù"), (0x2839, "üê")]

def ksx1001 : Grid :=
  [(0x2121, "\u3000"), (0x2124, "·"), (0x2127, "¨"), (0x2129, "\xad"), (0x213e, "±×÷"),
    (0x2146, "°"), (0x2157, "§"), (0x2225, "´"), (0x222c, "¸"), (0x222e, "¡¿"), (0x2234, "¤"),
    (0x2252, "¶"), (0x2267, "®"), (0x2821, "ÆÐª"), (0x282a, "Ø"), (0x282c, "ºÞ"), (0x2876, "½"),
    (0x2879, "¼¾"), (0x2921, "æ"), (0x2923, "ð"), (0x292a, "ø"), (0x292c, "ßþ"), (0x2976, "¹²³")]

def jisx0208 : Grid :=
  [(0x2121, "\u3000"), (0x212d, "´"), (0x212f, "¨"), (0x215e, "±×÷"), (0x216b, "°"),
    (0x2171, "¢£"), (0x2178, "§"), (0x224c, "¬"), (0x2279, "¶")]

def jisx0212 : Grid :=
  [(0x2231, "¸"), (0x2234, "¯"), (0x2237, "~"), (0x2242, "¡¦¿"), (0x226b, "ºª©®"), (0x2270, "¤"),
    (0x2921, "Æ"), (0x292c, "Ø"), (0x2930, "Þ"), (0x2941, "æ"), (0x2943, "ð"), (0x294c, "ø"),
    (0x294e, "ß"), (0x2950, "þ"), (0x2a21, "ÁÀÄÂ"), (0x2a29, "ÅÃ"), (0x2a2e, "Ç"),
    (0x2a31, "ÉÈËÊ"), (0x2a3f, "ÍÌÏÎ"), (0x2a50, "ÑÓÒÖÔ"), (0x2a58, "Õ"), (0x2a62, "ÚÙÜÛ"),
    (0x2a72, "Ý"), (0x2b21, "áàäâ"), (0x2b29, "åã"), (0x2b2e, "ç"), (0x2b31, "éèëê"),
    (0x2b3f, "íìïî"), (0x2b50, "ñóòöô"), (0x2b58, "õ"), (0x2b62, "úùüû"), (0x2b72, "ýÿ")]

def jisx0213 : Grid :=
  jisx0208 ++ [(0x2922, "\xa0¡¤¦©ª«\xad®¯²³·¸¹º»¼½¾¿ÀÁÂÃÄÅÆÇÈÉÊËÌÍÎÏÐÑÒÓÔÕÖØÙÚÛ"),
    (0x2952, "ÜÝÞßàáâãäåæçèéêëìíîïðñòóôõöøùúûüýþÿ")]

def tilde : Grid := [(0x2232, "~")]

def backslash : Grid := [(0x2140, "\\")]

/-! The codes of the other grids have a first byte beyond ASCII. -/

/-- The codes of a grid of seven bits a byte with the eighth bit set. -/
def raised (g : Grid) : Grid := g.map fun run => (run.1 + 0x8080, run.2)

def gbk : Grid := (0xa1a4, "·") :: raised gb2312

def big5 : Grid :=
  [(0xa140, "\u3000"), (0xa150, "·"), (0xa1b1, "§"), (0xa1d1, "×÷±"), (0xa244, "¥"), (0xa246, "¢£"),
    (0xa258, "°")]

def big5hkscs : Grid :=
  big5 ++ [(0x8857, "Á"), (0x8859, "À"), (0x885b, "É"), (0x885d, "È"), (0x885f, "Ó"),
    (0x8861, "Ò"), (0x8866, "Ê"), (0x8868, "á"), (0x886a, "à"), (0x886d, "é"), (0x886f, "è"),
    (0x8871, "í"), (0x8873, "ì"), (0x8875, "ó"), (0x8877, "ò"), (0x8879, "ú"), (0x887b, "ù"),
    (0x88a2, "ü"), (0x88a7, "ê"), (0xc6d8, "¨"), (0xc8fb, "ø")]

def cp950 : Grid :=
  [(0xa140, "\u3000"), (0xa150, "·"), (0xa1b1, "§"), (0xa1c2, "¯"), (0xa1d1, "×÷±"), (0xa258, "°")]

def cp932 : Grid :=
  [(0x8140, "\u3000"), (0x814c, "´"), (0x814e, "¨"), (0x817d, "±×"), (0x8180, "÷"), (0x818b, "°"),
    (0x8198, "§"), (0x81f7, "¶")]

def johab : Grid :=
  [(0x8441, "\u3000"), (0xd931, "\u3000"), (0xd934, "·"), (0xd937, "¨"), (0xd939, "\xad"),
    (0xd94e, "±×÷"), (0xd956, "°"), (0xd967, "§"), (0xd9a5, "´"), (0xd9ac, "¸"), (0xd9ae, "¡¿"),
    (0xd9b4, "¤"), (0xd9d2, "¶"), (0xd9e7, "®"), (0xdca1, "ÆÐª"), (0xdcaa, "Ø"), (0xdcac, "ºÞ"),
    (0xdcf6, "½"), (0xdcf9, "¼¾"), (0xdd31, "æ"), (0xdd33, "ð"), (0xdd3a, "ø"), (0xdd3c, "ßþ"),
    (0xdd98, "¹²³")]

end Grid
end Charset
end GreetingServer
