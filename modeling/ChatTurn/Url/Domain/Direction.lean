import ChatTurn.Url.Domain.Alphabet

namespace ChatTurn.Url.Domain

open Unicode (CharSet)

inductive Direction
  | leftToRight
  | rightToLeft
  | europeanNumber
  | arabicNumber
  | mark
  | neutral
  deriving DecidableEq

namespace Direction

def blocks : CharSet := .ofLines ["590-8FF FB1D-FDFF FE70-FEFF 10800-10FFF 1E800-1EFFF"]

def europeanNumbers : CharSet := .ofLines
  ["30-39 6F0-6F9 102E1-102FB"]

def arabicNumbers : CharSet := .ofLines
  ["660-669 66B-66C 10D30-10D39 10E60-10E7E"]

def strongMarks : CharSet := .ofLines
  ["CBF CC6 11A07-11A08 11C3F"]

def neutrals : CharSet := .ofLines
  ["0-8 E-1B 21-2F 3A-60 7B-D7 F7 2B9-2BA 2C2-2CF 2D2-2ED 2EF-2FF 375 3F6 58A-58F 606-607 609-60A",
    "60C 60E-60F 66A 6DE 6E9 7F6-7F9 9F2-9F3 9FB AF1 BF3-BFA C78-C7E E3F F3A-F3D 1390-1399 1400",
    "169B-169C 17DB 17F0-180A 1940-1945 19DE-19FF 200C-20C1 2104-214D 218A-2335 237B-2394 2396-26AB",
    "26AD-27FF 2900-2BFF 2CE5-2CEA 2CF9-2CFF 2E00-3004 3008-3020 3030 3037 303D-303F 30A0 30FB",
    "31C0-31E5 4DC0-4DFF A490-A4C6 A60D-A60F A673 A67E-A67F A700-A721 A788 A828-A82B A838-A839",
    "A874-A877 AB6A-AB6B FBC3-FDFF FE45-FE46 10101 10140-1018C 10190-101A0 1091F 10B39-10B3F 10D6E",
    "10ED0-10ED8 11052-11065 11660-1166C 11FD5-11FF1 16FE2 1CC00-1CEF0 1D1E9-1D241 1D245",
    "1D300-1D356 1E2FF 1EEF0-1F12F 1F16D-1F16F 1F1AD 1F260-1FBFA"]

def of (n : Nat) : Direction :=
  if europeanNumbers.has n then europeanNumber
  else if arabicNumbers.has n then arabicNumber
  else if neutrals.has n then neutral
  else if Alphabet.nonspacing.has n && !strongMarks.has n then mark
  else if blocks.has n then rightToLeft
  else leftToRight

/-- Whether the directions that follow the first one, last to first, let a label end soundly. -/
def endsWell (first : Direction) (rest : List Direction) : Bool :=
  match first, rest.dropWhile (· = mark) with
  | leftToRight, last :: middle =>
    (last = leftToRight ∨ last = europeanNumber) &&
      middle.all fun d => d ≠ rightToLeft ∧ d ≠ arabicNumber
  | rightToLeft, last :: middle =>
    (last = rightToLeft ∨ last = europeanNumber ∨ last = arabicNumber) &&
      middle.all (· ≠ leftToRight) &&
      !((last :: middle).contains europeanNumber && (last :: middle).contains arabicNumber)
  | leftToRight, [] | rightToLeft, [] => true
  | _, _ => false

def isSound (label : List Nat) : Bool :=
  match label.map of with
  | [] => true
  | first :: rest => endsWell first rest.reverse

/-- Only a domain with characters read from right to left must have sound labels. -/
def areSound (labels : List (List Nat)) : Bool :=
  labels.all isSound ||
    !labels.any fun label => label.any fun n => of n = rightToLeft ∨ of n = arabicNumber

end Direction

end ChatTurn.Url.Domain
