import GreetingServer.Charset.Page

/-! Pages whose characters stand at other places than in ASCII. A place without a character has
U+FFFD. -/
namespace GreetingServer
namespace Charset
namespace Page

def controls : List String :=
  ["\x00\x01\x02\x03\x9c\t\x86\x7f\x97\x8d\x8e\x0b\x0c\r\x0e\x0f",
    "\x10\x11\x12\x13\x9d\x85\x08\x87\x18\x19\x92\x8f\x1c\x1d\x1e\x1f",
    "\x80\x81\x82\x83\x84\n\x17\x1b\x88\x89\x8a\x8b\x8c\x05\x06\x07",
    "\x90\x91\x16\x93\x94\x95\x96\x04\x98\x99\x9a\x9b\x14\x15\x9e\x1a"]

def ebcdic : List Page := [
  { name := "cp037"
    aliases := ["037", "csibm037", "ebcdic_cp_ca", "ebcdic_cp_nl", "ebcdic_cp_us", "ebcdic_cp_wt",
      "ibm037", "ibm039"]
    rows := controls ++ [
      " \xa0âäàáãåçñ¢.<(+|",
      "&éêëèíîïìß!$*);¬",
      "\x2d/ÂÄÀÁÃÅÇÑ¦,%_>?",
      "øÉÊËÈÍÎÏÌ\x60:#@\x27=\x22",
      "Øabcdefghi«»ðýþ±",
      "°jklmnopqrªºæ¸Æ¤",
      "µ~stuvwxyz¡¿ÐÝÞ®",
      "^£¥·©§¶¼½¾[]¯¨´×",
      "\x7bABCDEFGHI\xadôöòóõ",
      "\x7dJKLMNOPQR¹ûüùúÿ",
      "\\÷STUVWXYZ²ÔÖÒÓÕ",
      "0123456789³ÛÜÙÚ\x9f"] },
  { name := "cp273"
    aliases := ["273", "csibm273", "ibm273"]
    rows := controls ++ [
      " \xa0â\x7bàáãåçñÄ.<(+!",
      "&éêëèíîïì~Ü$*);^",
      "\x2d/Â[ÀÁÃÅÇÑö,%_>?",
      "øÉÊËÈÍÎÏÌ\x60:#§\x27=\x22",
      "Øabcdefghi«»ðýþ±",
      "°jklmnopqrªºæ¸Æ¤",
      "µßstuvwxyz¡¿ÐÝÞ®",
      "¢£¥·©@¶¼½¾¬|‾¨´×",
      "äABCDEFGHI\xadô¦òóõ",
      "üJKLMNOPQR¹û\x7dùúÿ",
      "Ö÷STUVWXYZ²Ô\\ÒÓÕ",
      "0123456789³Û]ÙÚ\x9f"] },
  { name := "cp424"
    aliases := ["424", "csibm424", "ebcdic_cp_he", "ibm424"]
    rows := controls ++ [
      " \u05d0\u05d1\u05d2\u05d3\u05d4\u05d5\u05d6\u05d7\u05d8¢.<(+|",
      "&\u05d9\u05da\u05db\u05dc\u05dd\u05de\u05df\u05e0\u05e1!$*);¬",
      "\x2d/\u05e2\u05e3\u05e4\u05e5\u05e6\u05e7\u05e8\u05e9¦,%_>?",
      "\ufffd\u05ea\ufffd\ufffd\xa0\ufffd\ufffd\ufffd‗\x60:#@\x27=\x22",
      "\ufffdabcdefghi«»\ufffd\ufffd\ufffd±",
      "°jklmnopqr\ufffd\ufffd\ufffd¸\ufffd¤",
      "µ~stuvwxyz\ufffd\ufffd\ufffd\ufffd\ufffd®",
      "^£¥·©§¶¼½¾[]¯¨´×",
      "\x7bABCDEFGHI\xad\ufffd\ufffd\ufffd\ufffd\ufffd",
      "\x7dJKLMNOPQR¹\ufffd\ufffd\ufffd\ufffd\ufffd",
      "\\÷STUVWXYZ²\ufffd\ufffd\ufffd\ufffd\ufffd",
      "0123456789³\ufffd\ufffd\ufffd\ufffd\x9f"] },
  { name := "cp500"
    aliases := ["500", "csibm500", "ebcdic_cp_be", "ebcdic_cp_ch", "ibm500"]
    rows := controls ++ [
      " \xa0âäàáãåçñ[.<(+!",
      "&éêëèíîïìß]$*);^",
      "\x2d/ÂÄÀÁÃÅÇÑ¦,%_>?",
      "øÉÊËÈÍÎÏÌ\x60:#@\x27=\x22",
      "Øabcdefghi«»ðýþ±",
      "°jklmnopqrªºæ¸Æ¤",
      "µ~stuvwxyz¡¿ÐÝÞ®",
      "¢£¥·©§¶¼½¾¬|¯¨´×",
      "\x7bABCDEFGHI\xadôöòóõ",
      "\x7dJKLMNOPQR¹ûüùúÿ",
      "\\÷STUVWXYZ²ÔÖÒÓÕ",
      "0123456789³ÛÜÙÚ\x9f"] },
  { name := "cp875"
    rows := controls ++ [
      " ΑΒΓΔΕΖΗΘΙ[.<(+!",
      "&ΚΛΜΝΞΟΠΡΣ]$*);^",
      "\x2d/ΤΥΦΧΨΩΪΫ|,%_>?",
      "¨ΆΈΉ\xa0ΊΌΎΏ\x60:#@\x27=\x22",
      "΅abcdefghiαβγδεζ",
      "°jklmnopqrηθικλμ",
      "´~stuvwxyzνξοπρσ",
      "£άέήϊίόύϋώςτυφχψ",
      "\x7bABCDEFGHI\xadωΐΰ‘―",
      "\x7dJKLMNOPQR±½\x1a·’¦",
      "\\\x1aSTUVWXYZ²§\x1a\x1a«¬",
      "0123456789³©\x1a\x1a»\x9f"] },
  { name := "cp1026"
    aliases := ["1026", "csibm1026", "ibm1026"]
    rows := controls ++ [
      " \xa0âäàáãå\x7bñÇ.<(+!",
      "&éêëèíîïìßĞİ*);^",
      "\x2d/ÂÄÀÁÃÅ[Ñş,%_>?",
      "øÉÊËÈÍÎÏÌı:ÖŞ\x27=Ü",
      "Øabcdefghi«»\x7d\x60¦±",
      "°jklmnopqrªºæ¸Æ¤",
      "µöstuvwxyz¡¿]$@®",
      "¢£¥·©§¶¼½¾¬|¯¨´×",
      "çABCDEFGHI\xadô~òóõ",
      "ğJKLMNOPQR¹û\\ùúÿ",
      "ü÷STUVWXYZ²Ô#ÒÓÕ",
      "0123456789³Û\x22ÙÚ\x9f"] },
  { name := "cp1140"
    aliases := ["1140", "ibm1140"]
    rows := controls ++ [
      " \xa0âäàáãåçñ¢.<(+|",
      "&éêëèíîïìß!$*);¬",
      "\x2d/ÂÄÀÁÃÅÇÑ¦,%_>?",
      "øÉÊËÈÍÎÏÌ\x60:#@\x27=\x22",
      "Øabcdefghi«»ðýþ±",
      "°jklmnopqrªºæ¸Æ€",
      "µ~stuvwxyz¡¿ÐÝÞ®",
      "^£¥·©§¶¼½¾[]¯¨´×",
      "\x7bABCDEFGHI\xadôöòóõ",
      "\x7dJKLMNOPQR¹ûüùúÿ",
      "\\÷STUVWXYZ²ÔÖÒÓÕ",
      "0123456789³ÛÜÙÚ\x9f"] }]

end Page
end Charset
end GreetingServer
