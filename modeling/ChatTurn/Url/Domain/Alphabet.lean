import ChatTurn.Unicode.Category
import ChatTurn.Url.Domain.Mapping

namespace ChatTurn.Url.Domain.Alphabet

open Unicode (CharSet)

def refused : CharSet := .ofLines
  ["600-605 61C 6DD 70F 890-891 8E2 1680 200E-200F 2024-2026 2028-202E 2066-2069 2488-249B",
    "2FF0-2FFF 31EF 33C2 33C7 33D8 FE12 FE19 FE30 FE52 FFF9-FFFD 110BD 110CD 13430-1343F 1F100",
    "E0001 E0020-E007F"]

def newer : CharSet := .ofLines
  ["88F C5C CDC 1ACF-1ADD 1AE0-1AEB 20C1 2B96 A7CE-A7CF A7D2 A7D4 A7F1 FBC3-FBD2 FD90-FD91",
    "FDC8-FDCE 10940-10959 10EC5-10EC7 10ED0-10ED8 10EFA-10EFB 11B60-11B67 11DB0-11DDB 11DE0-11DE9",
    "16EA0-16EB8 16EBB-16ED3 16FF2-16FF6 187F8-187FF 18D09-18D1E 18D80-18DF2 1CCFA-1CCFC",
    "1CEBA-1CED0 1CEE0-1CEF0 1E6C0-1E6DE 1E6E0-1E6F5 1E6FE-1E6FF 1F6D8 1F777-1F77A 1F8D0-1F8D8",
    "1FA54-1FA57 1FA8A 1FA8E 1FAC8 1FACD 1FAEA 1FAEF 1FBFA 2B73A-2B73F 2CEA2-2CEAD 323B0-33479"]

def newerNonspacing : CharSet := .ofLines
  ["1ACF-1ADD 1AE0-1AEB 10EFA-10EFB 11B60 11B62-11B64 11B66 1E6E3 1E6E6 1E6EE-1E6EF 1E6F5"]

def newerSpacing : CharSet := .ofLines
  ["11B61 11B65 11B67"]

def written : CharSet :=
  .diff (.union newer Unicode.Category.unassigned.compl)
    (.unions [Unicode.Category.control, Unicode.Category.privateUse, refused])

def has (n : Nat) : Bool := (n < 0x80 || written.has n) && (Mapping.target? n).isNone

def nonspacing : CharSet :=
  .unions [Unicode.Category.nonspacingMark, Unicode.Category.enclosingMark, newerNonspacing]

def mark : CharSet := .unions [Unicode.Category.mark, newerNonspacing, newerSpacing]

end ChatTurn.Url.Domain.Alphabet
