import VoxelStream.Decimal
import VoxelStream.Url.Percent

/-!
# Hosts

The host of a web address is a domain, an IPv4 address or an IPv6 address in brackets.  Hosts are
kept in their normal form: domains in lower case, IPv4 addresses as four decimal numbers, IPv6
addresses with their longest run of zeros left out.  A domain whose last label is a number has to
be an IPv4 address.

Labels with characters beyond ASCII are written in punycode.  Before that, capital letters of
Latin, Greek and Cyrillic are lowered, full-width characters are replaced by the ordinary ones and
other full stops by the point.
-/

namespace VoxelStream

namespace Host

/-- The parts of a text between separators.  There is at least one. -/
def splitOn (separator : Char) : List Char → List (List Char)
  | [] => [[]]
  | c :: s =>
    if c = separator then [] :: splitOn separator s
    else
      match splitOn separator s with
      | part :: parts => (c :: part) :: parts
      | [] => [[c]]

/-! ## IPv4 -/

def digitBelow? (base : Nat) (c : Char) : Option Nat :=
  (Decimal.hexValue? c).filter (· < base)

/-- A number in a base.  No digits stand for zero. -/
def number? (base : Nat) (digits : List Char) : Option Nat :=
  (digits.mapM (digitBelow? base)).map fun values => values.foldl (fun n d => n * base + d) 0

/-- One number of an IPv4 address: decimal, octal after a zero, hexadecimal after `0x`. -/
def ipv4Number? : List Char → Option Nat
  | [] => none
  | '0' :: x :: rest =>
    if x = 'x' ∨ x = 'X' then number? 16 rest else number? 8 (x :: rest)
  | digits => number? 10 digits

/-- The labels of a domain, less an empty last one. -/
def labels (domain : List Char) : List (List Char) :=
  let parts := splitOn '.' domain
  if 1 < parts.length ∧ parts.getLast? = some [] then parts.dropLast else parts

/-- Whether the last label is a number. -/
def endsInNumber (domain : List Char) : Bool :=
  match (labels domain).getLast? with
  | none | some [] => false
  | some last => last.all Char.isDigit || (ipv4Number? last).isSome

/-- The address that some numbers stand for.  The last one fills all bytes that are left. -/
def ipv4Value? (numbers : List Nat) : Option Nat :=
  let count := numbers.length
  match numbers.getLast? with
  | none => none
  | some last =>
    if 4 < count ∨ numbers.dropLast.any (255 < ·) ∨ 1 <<< (8 * (5 - count)) ≤ last then none
    else
      let add := fun sum (n, place) => sum + n <<< (8 * (3 - place))
      some (numbers.dropLast.zipIdx.foldl add last)

/-- The four numbers of an address. -/
def ipv4Text (value : Nat) : List Char :=
  s!"{value / 16777216}.{value / 65536 % 256}.{value / 256 % 256}.{value % 256}".toList

/-- An IPv4 address in its normal form. -/
def ipv4? (domain : List Char) : Option (List Char) :=
  (((labels domain).mapM ipv4Number?).bind ipv4Value?).map ipv4Text

/-! ## IPv6 -/

/-- One group of an IPv6 address: up to four hexadecimal digits. -/
def ipv6Group? (digits : List Char) : Option Nat :=
  if digits.isEmpty ∨ 4 < digits.length then none else number? 16 digits

/-- A decimal number of an IPv4 address inside of an IPv6 address. -/
def octet? (digits : List Char) : Option Nat :=
  match digits with
  | [] => none
  | '0' :: _ :: _ => none
  | digits => if digits.all Char.isDigit then (number? 10 digits).filter (· ≤ 255) else none

/-- The groups of a part without a double colon.  The last group may be an IPv4 address. -/
def ipv6Groups? (part : List Char) : Option (List Nat) :=
  if part.isEmpty then some []
  else
    let groups := splitOn ':' part
    match groups.getLast? with
    | none => none
    | some last =>
      if last.contains '.' then
        match (splitOn '.' last).mapM octet?, groups.dropLast.mapM ipv6Group? with
        | some [a, b, c, d], some front => some (front ++ [a * 256 + b, c * 256 + d])
        | _, _ => none
      else groups.mapM ipv6Group?

/-- The text before and after the first double colon. -/
def splitDouble : List Char → Option (List Char × List Char)
  | ':' :: ':' :: s => some ([], s)
  | c :: s => (splitDouble s).map fun (front, back) => (c :: front, back)
  | [] => none

/-- The eight groups of an IPv6 address. -/
def ipv6Value? (s : List Char) : Option (List Nat) :=
  match splitDouble s with
  | none => (ipv6Groups? s).filter (·.length = 8)
  | some (front, back) =>
    if front.contains '.' then none
    else
      match ipv6Groups? front, ipv6Groups? back with
      | some front, some back =>
        if front.length + back.length ≤ 7 then
          some (front ++ List.replicate (8 - front.length - back.length) 0 ++ back)
        else none
      | _, _ => none

def hexText (n : Nat) : List Char := Nat.toDigits 16 n

/-- The first of the longest runs of at least two zero groups: its place and length. -/
def zeroRun (groups : List Nat) : Option (Nat × Nat) :=
  let runs := (List.range groups.length).map fun place =>
    (place, ((groups.drop place).takeWhile (· = 0)).length)
  runs.foldl (fun best run =>
    match best with
    | some (_, length) => if length < run.2 then some run else best
    | none => if 2 ≤ run.2 then some run else none) none

/-- Groups separated by colons. -/
def joinGroups (groups : List Nat) : List Char :=
  List.intercalate [':'] (groups.map hexText)

/-- Eight groups in their normal form. -/
def ipv6Text (groups : List Nat) : List Char :=
  match zeroRun groups with
  | none => joinGroups groups
  | some (place, length) =>
    joinGroups (groups.take place) ++ [':', ':'] ++ joinGroups (groups.drop (place + length))

/-! ## Domains -/

/-- The lower-case form of a capital letter of Latin, Greek or Cyrillic, the ordinary form of a
full-width character, and the point for other full stops. -/
def foldChar (c : Char) : Char :=
  let n := c.toNat
  if 65 ≤ n ∧ n ≤ 90 then Char.ofNat (n + 32)
  else if 0xc0 ≤ n ∧ n ≤ 0xde ∧ n ≠ 0xd7 then Char.ofNat (n + 32)
  else if 0x100 ≤ n ∧ n ≤ 0x137 ∧ n % 2 = 0 ∧ n ≠ 0x130 then Char.ofNat (n + 1)
  else if 0x391 ≤ n ∧ n ≤ 0x3a9 ∧ n ≠ 0x3a2 then Char.ofNat (n + 32)
  else if 0x410 ≤ n ∧ n ≤ 0x42f then Char.ofNat (n + 32)
  else if 0x400 ≤ n ∧ n ≤ 0x40f then Char.ofNat (n + 80)
  else if n = 0x3002 ∨ n = 0xff0e ∨ n = 0xff61 then '.'
  else if 0xff21 ≤ n ∧ n ≤ 0xff3a then Char.ofNat (n - 0xfee0 + 32)
  else if 0xff01 ≤ n ∧ n ≤ 0xff5e then Char.ofNat (n - 0xfee0)
  else c

/-- The next bias of the punycode numbers. -/
def adaptBias (delta points : Nat) (first : Bool) : Nat :=
  let delta := if first then delta / 700 else delta / 2
  reduce 64 (delta + delta / points) 0
where
  /-- Scales a delta down, at most `bound` times. -/
  reduce : Nat → Nat → Nat → Nat
    | 0, delta, k => k + 36 * delta / (delta + 38)
    | bound + 1, delta, k =>
      if 455 < delta then reduce bound (delta / 35) (k + 36) else k + 36 * delta / (delta + 38)

/-- The character of a punycode digit. -/
def punycodeDigit (value : Nat) : Char :=
  Char.ofNat (if value < 26 then 97 + value else 22 + value)

/-- A number in punycode digits of at most `bound` places. -/
def punycodeNumber (bias : Nat) : Nat → Nat → Nat → List Char
  | 0, _, _ => []
  | bound + 1, k, n =>
    let t := if k ≤ bias then 1 else if bias + 26 ≤ k then 26 else k - bias
    if n < t then [punycodeDigit n]
    else punycodeDigit (t + (n - t) % (36 - t))
      :: punycodeNumber bias bound (k + 36) ((n - t) / (36 - t))

/-- What the punycode of a label has written so far. -/
structure PunycodeState where
  /-- Steps since the last number. -/
  delta : Nat
  bias : Nat
  /-- Characters written. -/
  handled : Nat
  /-- The numbers, last one first. -/
  output : List (List Char)

/-- Goes over a label for the code point `n`, of which all lower ones are written. -/
def punycodePass (basic n : Nat) (label : List Nat) (state : PunycodeState) : PunycodeState :=
  label.foldl (fun state c =>
    if c < n then { state with delta := state.delta + 1 }
    else if c = n then
      { delta := 0
        bias := adaptBias state.delta (state.handled + 1) (state.handled = basic)
        handled := state.handled + 1
        output := punycodeNumber state.bias 64 36 state.delta :: state.output }
    else state) state

def punycode (label : List Char) : List Char :=
  let points := label.map Char.toNat
  let basic := label.filter (·.toNat < 128)
  let others := ((points.filter (128 ≤ ·)).mergeSort (· ≤ ·)).eraseDups
  let start : PunycodeState := ⟨0, 72, basic.length, []⟩
  let (last, _) := others.foldl (fun (state, n) m =>
    let state := { state with delta := state.delta + (m - n) * (state.handled + 1) }
    let state := punycodePass basic.length m points state
    ({ state with delta := state.delta + 1 }, m + 1)) (start, 128)
  basic ++ (if basic.isEmpty then [] else ['-']) ++ last.output.reverse.flatten

def asciiLabel (label : List Char) : List Char :=
  if label.all (·.toNat < 128) then label else "xn--".toList ++ punycode label

/-- A domain in ASCII and lower case. -/
def asciiDomain (domain : List Char) : List Char :=
  List.intercalate ['.'] ((splitOn '.' (domain.map foldChar)).map asciiLabel)

/-- Whether a character may not be in a domain. -/
def isForbidden (c : Char) : Bool :=
  c.toNat ≤ 32 || c.toNat = 127 || "#%/:<>?@[\\]^|".toList.contains c

/-- A domain or an IPv4 address in its normal form. -/
def domain? (s : List Char) : Option (List Char) :=
  match String.fromUTF8? ⟨(Percent.decode (String.ofList s).toUTF8.data.toList).toArray⟩ with
  | none => none
  | some decoded =>
    let domain := asciiDomain decoded.toList
    if domain.isEmpty ∨ domain.any isForbidden then none
    else if endsInNumber domain then ipv4? domain
    else some domain

/-! ## Hosts -/

/-- The text inside brackets. -/
def bracketed? (s : List Char) : Option (List Char) :=
  match s with
  | '[' :: rest => if rest.getLast? = some ']' then some rest.dropLast else none
  | _ => none

/-- The host of a web address in its normal form. -/
def special? (s : List Char) : Option (List Char) :=
  if s.head? = some '[' then
    ((bracketed? s).bind ipv6Value?).map fun groups => '[' :: (ipv6Text groups ++ [']'])
  else domain? s

/-- Whether a character may not be in the host of another address. -/
def isForbiddenOpaque (c : Char) : Bool :=
  c.toNat = 0 || "\t\n\r #/:<>?@[\\]^|".toList.contains c

/-- The host of another address.  It may be empty. -/
def opaqueHost? (s : List Char) : Option (List Char) :=
  if s.head? = some '[' then
    ((bracketed? s).bind ipv6Value?).map fun groups => '[' :: (ipv6Text groups ++ [']'])
  else if s.any isForbiddenOpaque then none
  else some (Percent.encode Percent.isPrintable s)

end Host

end VoxelStream
