import AdminGrid.Number.Reading
import AdminGrid.Text.Split

/-!
# The path of a link

A link is cut into its scheme, host, path, parameters, query and fragment.  Only the path is kept.
A link whose host is not well formed has none.
-/

namespace AdminGrid.Web

/-! ## Host addresses in brackets

A host in square brackets is an address of eight groups of hexadecimal digits, a run of zero groups
shortened to `::` and the last two groups possibly written as four decimal numbers, or an address of
a future version, marked by the letter `v`. -/

/-- Whether a character is a hexadecimal digit. -/
def isHexDigit (c : Char) : Bool :=
  c.isDigit || ('a' ≤ c && c ≤ 'f') || ('A' ≤ c && c ≤ 'F')

/-- Whether a list is a group of an address. -/
def isGroup (cs : List Char) : Bool :=
  !cs.isEmpty && cs.length ≤ 4 && cs.all isHexDigit

/-- Whether a list is one of the four decimal numbers of an address. -/
def isOctet (cs : List Char) : Bool :=
  !cs.isEmpty && cs.length ≤ 3 && cs.all Char.isDigit &&
    (cs = ['0'] || cs.head? != some '0') && Reading.digitsValue cs ≤ 255

/-- Whether a list is an address of four decimal numbers. -/
def isDottedAddress (cs : List Char) : Bool :=
  let octets := Text.splitList '.' cs
  octets.length = 4 && octets.all isOctet

/-- The groups of an address, its decimal end written as two groups. -/
def groupsOf (cs : List Char) : Option (List (List Char)) :=
  let parts := Text.splitList ':' cs
  if parts.length < 3 then none
  else match parts.getLast? with
    | some last =>
        if last.contains '.' then
          if isDottedAddress last then some (parts.dropLast ++ [['0'], ['0']]) else none
        else some parts
    | none => none

/-- Whether a list is an address of eight groups. -/
def isGroupedAddress (cs : List Char) : Bool :=
  let body := cs.takeWhile (· != '%')
  let zone := cs.dropWhile (· != '%')
  if zone.length = 1 || (zone.drop 1).contains '%' || body.contains '/' then false
  else match groupsOf body with
    | none => false
    | some parts =>
        let inner := (parts.drop 1).dropLast
        let emptyFirst := parts.head? == some []
        let emptyLast := parts.getLast? == some []
        if 9 < parts.length then false
        else match inner.countP List.isEmpty with
          | 0 => parts.length = 8 && parts.all isGroup
          | 1 =>
              let at_ := 1 + inner.findIdx List.isEmpty
              let before := parts.take at_
              let after := parts.drop (at_ + 1)
              (if emptyFirst then before.length = 1 else before.all isGroup) &&
                (if emptyLast then after.length = 1 else after.all isGroup) &&
                (if emptyFirst then 0 else before.length) +
                  (if emptyLast then 0 else after.length) < 8
          | _ => false

/-- Whether a list is an address of a future version. -/
def isFutureAddress (cs : List Char) : Bool :=
  match cs with
  | 'v' :: rest =>
      let version := rest.takeWhile isHexDigit
      match rest.dropWhile isHexDigit with
      | '.' :: address => !version.isEmpty && !address.isEmpty && !address.contains '\n'
      | _ => false
  | _ => false

/-- Whether a list may stand in square brackets as a host. -/
def isBracketedHost (cs : List Char) : Bool :=
  if cs.head? == some 'v' then isFutureAddress cs else isGroupedAddress cs

/-! ## Links -/

/-- Whether a character may stand in a scheme. -/
def isSchemeChar (c : Char) : Bool :=
  c.isAlphanum || c == '+' || c == '-' || c == '.'

/-- The schemes whose last path segment may carry parameters after a semicolon. -/
def schemesWithParameters : List String :=
  ["", "ftp", "hdl", "prospero", "http", "imap", "https", "shttp", "rtsp", "rtsps", "rtspu", "sip",
    "sips", "mms", "sftp", "tel"]

/-- The characters outside ASCII whose compatible plain form holds a mark that ends a host. -/
def unsafeHostChars : List Nat :=
  [8263, 8264, 8265, 8448, 8449, 8453, 8454, 10868, 65043, 65046, 65109, 65110, 65119, 65131,
    65283, 65295, 65306, 65311, 65312]

/-- A link without leading controls and blanks, and without tabs and line ends. -/
def cleaned (link : List Char) : List Char :=
  (link.dropWhile fun c => c.toNat ≤ 32).filter fun c => c != '\t' && c != '\r' && c != '\n'

/-- The scheme of a link in small letters, and what follows it. -/
def splitScheme (cs : List Char) : List Char × List Char :=
  match Text.cutFirstList? ':' cs with
  | some (scheme, rest) =>
      if scheme.head?.any Char.isAlpha && scheme.all isSchemeChar then
        (scheme.map Char.toLower, rest)
      else ([], cs)
  | none => ([], cs)

/-- Whether a host is well formed. -/
def hostOk (host : List Char) : Bool :=
  let opened := host.contains '['
  let closed := host.contains ']'
  opened == closed &&
    (!opened ||
      isBracketedHost (((host.dropWhile (· != '[')).drop 1).takeWhile (· != ']'))) &&
    !(host.any fun c => unsafeHostChars.contains c.toNat)

/-- A path without the parameters of its last segment. -/
def dropParameters (path : List Char) : List Char :=
  match Text.cutLastList? '/' path with
  | some (before, last) => before ++ '/' :: last.takeWhile (· != ';')
  | none => path.takeWhile (· != ';')

/-- The path of a link. -/
def pathOf? (link : String) : Option String :=
  let (scheme, rest) := splitScheme (cleaned link.toList)
  let isHostEnd (c : Char) : Bool := c == '/' || c == '?' || c == '#'
  let (host, rest) := match rest with
    | '/' :: '/' :: rest =>
        (rest.takeWhile fun c => !isHostEnd c, rest.dropWhile fun c => !isHostEnd c)
    | rest => ([], rest)
  if !hostOk host then none
  else
    let path := (rest.takeWhile (· != '#')).takeWhile (· != '?')
    some <| String.ofList <|
      if schemesWithParameters.contains (String.ofList scheme) then dropParameters path else path

end AdminGrid.Web
