import StatsQuery.Unicode.Mark

namespace StatsQuery.Unicode

inductive BidiClass where
  | left
  | right
  | arabicNumber
  | europeanNumber
  | nonspacing
  | neutral
deriving DecidableEq

-- The blocks of scripts that run from right to left, as of Unicode 17.0. Classes that domain names need not tell
-- apart are taken together.
def rightToLeftBlocks : CodePoints := .ofText "
   590-8FF FB1D-FDFF FE70-FEFF 10800-10FFF 1E800-1EFFF"

def arabicNumbers : CodePoints := .ofText "
   660-669 66B-66C 10D30-10D49 10E60-10E7E"

def europeanNumbers : CodePoints := .ofText "
   30-39 6F0-6F9 102E1-102FB"

def neutrals : CodePoints := .ofText "
   21-2F 3A-40 5B-60 7B-D7 F7 2B9-2BA 2C2-2CF 2D2-2ED 2EF-2FF 375 3F6 58A-58F 606-607 609-60A 60C
   60E-60F 66A 6DE 6E9 7F6-7F9 9F2-9F3 9FB AF1 BF3-BFA C78-C7E E3F F3A-F3D 1390-1399 1400 169B-169C
   17DB 17F0-180A 1940-1945 19DE-19FF 200C-20C1 2104-214D 218A-2335 237B-2394 2396-26AB 26AD-27FF
   2900-2BFF 2CE5-2CEA 2CF9-2CFF 2E00-3004 3008-3020 3030 3037 303D-303F 30A0 30FB 31C0-31E5
   4DC0-4DFF A490-A4C6 A60D-A60F A673 A67E-A67F A700-A721 A788 A828-A82B A838-A839 A874-A877
   AB6A-AB6B FBC3-FDFF FE45-FE46 10101 10140-1018C 10190-101A0 1091F 10B39-10B3F 10D6E 10ED0-10ED8
   11052-11065 11660-1166C 11FD5-11FF1 16FE2 1CC00-1CEF0 1D1E9-1D241 1D245 1D300-1D356 1E2FF
   1EEF0-1F12F 1F16D-1F16F 1F1AD 1F260-1FBFA"

-- Nonspacing marks that run from left to right nevertheless.
def leftMarks : CodePoints := .ofText "
   CBF CC6 11A07-11A08 11C3F"

def firstRightToLeft : Nat := 0x590

def bidiClass (c : Char) : BidiClass :=
  if arabicNumbers.contains c then .arabicNumber
  else if europeanNumbers.contains c then .europeanNumber
  else if neutrals.contains c then .neutral
  else if isNonspacing c then (if leftMarks.contains c then .left else .nonspacing)
  else if rightToLeftBlocks.contains c then .right
  else .left

def isRightToLeft (c : Char) : Bool :=
  firstRightToLeft ≤ c.toNat &&
    match bidiClass c with
    | .right | .arabicNumber => true
    | _                      => false

end StatsQuery.Unicode
