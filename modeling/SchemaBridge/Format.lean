import SchemaBridge.Pattern.Matching

/-!
# Named text formats

Ten formats of text, each with its name and the pattern that a whole text has to match. Letters
match in any case. A decimal digit is one of any script wherever a pattern says `digit`, and one of
the ten ASCII ones wherever it gives a range.

* `ofName?_name`: every format is found under its name.
* `matches?_iff`: what it means for a text to have a format.
-/

namespace SchemaBridge

/-- The formats that are known by name. -/
inductive Format where
  | date | dateTime | email | hostname | ipv4 | ipv6 | time | uri | url | uuid
deriving DecidableEq

namespace Format

/-- The name of a format. -/
def name : Format → String
  | date => "date"
  | dateTime => "date-time"
  | email => "email"
  | hostname => "hostname"
  | ipv4 => "ipv4"
  | ipv6 => "ipv6"
  | time => "time"
  | uri => "uri"
  | url => "url"
  | uuid => "uuid"

/-- All formats, in the order of their names. -/
def all : List Format := [date, dateTime, email, hostname, ipv4, ipv6, time, uri, url, uuid]

/-- The format with a given name. -/
def ofName? (name : String) : Option Format := all.find? fun format => format.name == name

theorem ofName?_name (format : Format) : ofName? format.name = some format := by
  cases format <;> decide

/-! ## Parts of patterns -/

open Pattern

/-- A decimal digit of any script. -/
def digit : Pattern := char .digit

/-- An ASCII character between two others. -/
def between (low high : Char) : Pattern := char (.range low high)

/-- An ASCII letter of either case. -/
def letters : CharSet := .caseless (.range 'a' 'z')

/-- Anything but a blank. -/
def solid : Pattern := char (.compl .blank)

/-- A year of four digits, a month and a day. -/
def dayPattern : Pattern :=
  inOrder [digit.exact 4, literal "-", between '0' '1', digit, literal "-", between '0' '3', digit]

/-- Hours, minutes and seconds; the leap second before midnight is one of them. -/
def clockPattern : Pattern :=
  alt
    (inOrder [between '0' '2', digit, literal ":", between '0' '5', digit, literal ":",
      between '0' '5', digit])
    (literal "23:59:60")

/-- A point and the digits of a fraction of a second. -/
def fractionPattern : Pattern := seq (literal ".") digit.oneOrMore

/-- The distance from universal time: none, or signed hours with or without minutes. -/
def zonePattern : Pattern :=
  alt (caselessLiteral "z")
    (inOrder [char (.oneOf "+-"), digit.exact 2,
      (inOrder [(literal ":").optional, digit.exact 2]).optional])

/-- A label of a host name: letters and digits, and up to 61 hyphens, letters and digits between
the first and the last. -/
def labelPattern : Pattern :=
  let ends := CharSet.union letters (.range '0' '9')
  inOrder [char ends,
    (inOrder [(char (.union ends (.one '-'))).between 0 61, char ends]).optional]

/-- Labels with points between them. -/
def labelsPattern : Pattern := seq labelPattern (seq (literal ".") labelPattern).zeroOrMore

/-- A number from 0 to 255 without leading zeros, in digits of any script after the first. -/
def octetPattern : Pattern :=
  oneOf [
    inOrder [literal "25", between '0' '5'],
    inOrder [literal "2", between '0' '4', digit],
    inOrder [literal "1", digit, digit],
    inOrder [(between '1' '9').optional, digit]]

/-- Four octets with points between them. -/
def quadPattern : Pattern := seq ((seq octetPattern (literal ".")).exact 3) octetPattern

/-- A hexadecimal digit of either case. -/
def hexDigit : Pattern := char (.caseless (.union (.range '0' '9') (.range 'a' 'f')))

/-- A group of one to four hexadecimal digits. -/
def group : Pattern := hexDigit.between 1 4

/-- A group and the colon after it. -/
def groupColon : Pattern := seq group (literal ":")

/-- A colon and the group after it. -/
def colonGroup : Pattern := seq (literal ":") group

/-- An address of eight groups, where a run of them may be left out at a double colon and the last
two may be written as a dotted quad. -/
def addressPattern : Pattern :=
  oneOf [
    seq (groupColon.exact 7) group,
    seq (groupColon.between 1 7) (literal ":"),
    seq (groupColon.between 1 6) colonGroup,
    seq (groupColon.between 1 5) (colonGroup.between 1 2),
    seq (groupColon.between 1 4) (colonGroup.between 1 3),
    seq (groupColon.between 1 3) (colonGroup.between 1 4),
    seq (groupColon.between 1 2) (colonGroup.between 1 5),
    seq groupColon (colonGroup.between 1 6),
    seq (literal ":") (alt (colonGroup.between 1 7) (literal ":")),
    seq (groupColon.exact 6) quadPattern,
    inOrder [literal "::",
      (inOrder [caselessLiteral "ffff",
        (inOrder [literal ":", (literal "0").between 1 4]).optional, literal ":"]).optional,
      quadPattern],
    inOrder [groupColon.between 1 4, literal ":", quadPattern]]

/-! ## The formats -/

/-- What a whole text of the format looks like. -/
def pattern : Format → Pattern
  | date => dayPattern
  | time => inOrder [clockPattern, fractionPattern.optional, zonePattern.optional]
  | dateTime =>
    inOrder [dayPattern, char (.caseless (.union (.one 't') .blank)), clockPattern,
      fractionPattern.optional, zonePattern]
  | uri =>
    inOrder [char letters,
      (char (.union letters (.union (.range '0' '9') (.oneOf "+-.")))).zeroOrMore,
      literal ":", (literal "//").optional, solid.zeroOrMore]
  | url =>
    inOrder [
      alt (seq (caselessLiteral "http") (caselessLiteral "s").optional) (caselessLiteral "ftp"),
      literal "://", char (.compl (.union .blank (.oneOf "/$.?#"))), solid.zeroOrMore]
  | email =>
    inOrder [
      (char (.union letters
        (.union (.range '0' '9') (.oneOf ".!#$%&'*+/=?^_`\x7b|\x7d~-")))).oneOrMore,
      literal "@", labelsPattern]
  | hostname =>
    inOrder [
      ahead (inOrder
        [(char .visible).between 1 253, (literal ".").optional, lastLineFinish]),
      labelsPattern, (literal ".").optional]
  | ipv4 => quadPattern
  | ipv6 => seq addressPattern (seq (literal "%") (char .visible).oneOrMore).optional
  | uuid =>
    inOrder [(caselessLiteral "urn:uuid:").optional, hexDigit.exact 8, literal "-",
      (seq (hexDigit.exact 4) (literal "-")).exact 3, hexDigit.exact 12]

/-- The whole text has the format. -/
def matches? (format : Format) (text : String) : Bool := format.pattern.fullMatch text.toList

theorem matches?_iff {format : Format} {text : String} :
    format.matches? text = true ↔ format.pattern.Matches text.toList [] :=
  fullMatch_iff

end Format

end SchemaBridge
