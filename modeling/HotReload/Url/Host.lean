import HotReload.Text.Lines
import HotReload.Text.Numeral
import HotReload.Url.Percent

/-!
# Hosts

The host of a web URL is a domain or a numeric address. A domain is written in lower
case, and its labels that are not ASCII in their ASCII form. A domain whose last
label is a number is an address of four bytes, in one of several notations; an
address of eight words stands in brackets. Both are written in one canonical way.

The host of any other URL is kept as it is.

International domain names are not processed: only ASCII letters are put into lower
case, other characters are neither mapped to normal ones nor checked, and a label that
is ASCII already is kept without being decoded. So hosts of other characters can come
out in a form that the standard does not give them, and some are accepted that it
refuses.
-/

set_option autoImplicit false

namespace HotReload.Url

/-- Why a text is no URL. -/
inductive UrlFault
  | emptyHost
  | invalidDomain
  /-- The port is no number of 16 bits. -/
  | invalidPort
  /-- The host looks like an address of four bytes and is none. -/
  | invalidIpv4
  /-- The host in brackets is no address. -/
  | invalidIpv6
  /-- The host holds a character that no host may hold. -/
  | invalidHostCharacter
  /-- The text has no scheme. -/
  | relative
  /-- The text has no scheme, and the URL it is read against has no path. -/
  | relativeToOpaque
deriving DecidableEq, Repr

/-- The text of a fault. -/
def UrlFault.message : UrlFault → String
  | .emptyHost => "empty host"
  | .invalidDomain => "invalid international domain name"
  | .invalidPort => "invalid port number"
  | .invalidIpv4 => "invalid IPv4 address"
  | .invalidIpv6 => "invalid IPv6 address"
  | .invalidHostCharacter => "invalid domain character"
  | .relative => "relative URL without a base"
  | .relativeToOpaque => "relative URL with a cannot-be-a-base base"

/-! ## Addresses of four bytes -/

/-- The value of a number in decimal, octal or hexadecimal notation. -/
def addressNumber? : List Char → Option Nat
  | [] => none
  | '0' :: 'x' :: digits | '0' :: 'X' :: digits => Text.valueIn? 16 digits
  | '0' :: digit :: digits => Text.valueIn? 8 (digit :: digits)
  | digits => Text.valueIn? 10 digits

/-- The labels of a domain, without an empty one at the end. -/
def domainLabels (domain : List Char) : List (List Char) :=
  let labels := Text.splitAt '.' domain
  if 1 < labels.length ∧ labels.getLast? = some [] then labels.dropLast else labels

/-- Whether the last label of a domain is a number. -/
def endsInNumber (domain : List Char) : Bool :=
  match (domainLabels domain).getLast? with
  | none => false
  | some label =>
    (!label.isEmpty && label.all Text.isDigit)
      || (match label with
        | '0' :: 'x' :: digits | '0' :: 'X' :: digits => (Text.valueIn? 16 digits).isSome
        | _ => false)

/-- The value of an address: its last number fills the bytes that the others leave. -/
def addressValue? : (numbers : List Nat) → (left : Nat) → Option Nat
  | [], _ => none
  | [last], left => if last < Nat.pow 256 left then some last else none
  | number :: rest, left => do
    let low ← addressValue? rest (left - 1)
    if number < 256 then some (number * Nat.pow 256 (left - 1) + low) else none

/-- An address of four bytes in canonical form. -/
def ipv4Text (value : Nat) : List Char :=
  ['.'].intercalate ([value / 256 / 256 / 256, value / 256 / 256 % 256, value / 256 % 256,
    value % 256].map Text.decimal)

/-- The canonical form of an address of four bytes. -/
def ipv4? (domain : List Char) : Option (List Char) := do
  let labels := domainLabels domain
  if 4 < labels.length then none
  else do
    let numbers ← labels.mapM addressNumber?
    let value ← addressValue? numbers 4
    some (ipv4Text value)

/-! ## Addresses of eight words -/

/-- The words of a part of an address between colons. The last item may be an address
of four bytes. -/
def words? : List (List Char) → Option (List Nat)
  | [] => some []
  | [last] =>
    if last.contains '.' then do
      let numbers ← (Text.splitAt '.' last).mapM fun digits =>
        if digits.isEmpty || (1 < digits.length && digits.head? == some '0') then none
        else Text.valueIn? 10 digits
      match numbers with
      | [a, b, c, d] =>
        if a < 256 ∧ b < 256 ∧ c < 256 ∧ d < 256 then some [a * 256 + b, c * 256 + d] else none
      | _ => none
    else if last.isEmpty || 4 < last.length then none
    else (Text.valueIn? 16 last).map ([·])
  | item :: rest =>
    if item.isEmpty || 4 < item.length then none
    else do
      let word ← Text.valueIn? 16 item
      let words ← words? rest
      some (word :: words)

/-- Splits a text at the first pair of colons. -/
def splitAtPair? : List Char → Option (List Char × List Char)
  | [] => none
  | ':' :: ':' :: rest => some ([], rest)
  | c :: rest => (splitAtPair? rest).map fun parts => (c :: parts.1, parts.2)

/-- The words between single colons; an empty text has none. -/
def colonWords? (cs : List Char) : Option (List Nat) :=
  if cs.isEmpty then some [] else words? (Text.splitAt ':' cs)

/-- The eight words of an address. -/
def ipv6Words? (cs : List Char) : Option (List Nat) :=
  match splitAtPair? cs with
  | none => do
    let words ← colonWords? cs
    if words.length = 8 then some words else none
  | some (front, back) => do
    let frontWords ← if front.contains '.' then none else colonWords? front
    let backWords ← colonWords? back
    let given := frontWords.length + backWords.length
    if given < 8 then some (frontWords ++ List.replicate (8 - given) 0 ++ backWords) else none

/-- The length of the run of zeros at the beginning of some words. -/
def zeroRun (words : List Nat) : Nat :=
  (words.takeWhile (· == 0)).length

/-- The position and the length of the first of the longest runs of zeros. -/
def longestZeroRun : (position : Nat) → List Nat → Nat × Nat
  | _, [] => (0, 0)
  | position, word :: rest =>
    let here := zeroRun (word :: rest)
    let later := longestZeroRun (position + 1) rest
    if later.2 ≤ here then (position, here) else later

/-- Words between colons. -/
def colonText (words : List Nat) : List Char :=
  [':'].intercalate (words.map fun word => Nat.toDigits 16 word)

/-- An address of eight words in canonical form, in brackets. -/
def ipv6Text (words : List Nat) : List Char :=
  let (position, length) := longestZeroRun 0 words
  if length < 2 then '[' :: colonText words ++ [']']
  else
    '[' :: colonText (words.take position) ++ [':', ':']
      ++ colonText (words.drop (position + length)) ++ [']']

/-! ## Domains in ASCII -/

/-- The threshold of a digit in the ASCII form of a label. -/
def threshold (position bias : Nat) : Nat :=
  if position ≤ bias then 1 else if bias + 26 ≤ position then 26 else position - bias

/-- A digit in base 36: letters first, then numerals. -/
def base36Digit (n : Nat) : Char :=
  if n < 26 then Char.ofNat ('a'.toNat + n) else Char.ofNat ('0'.toNat + n - 26)

/-- The digits of a number of variable length, in at most `steps` digits. -/
def variableDigits : (steps : Nat) → (position bias n : Nat) → List Char
  | 0, _, _, _ => []
  | steps + 1, position, bias, n =>
    let limit := threshold position bias
    if n < limit then [base36Digit n]
    else
      base36Digit (limit + (n - limit) % (36 - limit))
        :: variableDigits steps (position + 36) bias ((n - limit) / (36 - limit))

/-- Halves a difference until it is small, in at most `steps` steps. -/
def adaptSteps : (steps : Nat) → (divisions delta : Nat) → Nat
  | 0, divisions, _ => divisions
  | steps + 1, divisions, delta =>
    if 455 < delta then adaptSteps steps (divisions + 36) (delta / 35)
    else divisions + 36 * delta / (delta + 38)

/-- The bias after a character. -/
def adapt (delta handled : Nat) (isFirst : Bool) : Nat :=
  let delta := if isFirst then delta / 700 else delta / 2
  let delta := delta + delta / handled
  adaptSteps delta 0 delta

/-- What is known after some characters of a label. -/
structure Encoder where
  digits : List Char := []
  bias : Nat := 72
  /-- The present difference. -/
  delta : Nat := 0
  /-- The number of handled characters. -/
  handled : Nat

/-- Goes past one character of the label, while the character `n` is placed. -/
def Encoder.pass (basic n : Nat) (encoder : Encoder) (c : Char) : Encoder :=
  if c.toNat < n then { encoder with delta := encoder.delta + 1 }
  else if c.toNat = n then
    { digits := encoder.digits
        ++ variableDigits (encoder.delta + 1) 36 encoder.bias encoder.delta
      bias := adapt encoder.delta (encoder.handled + 1) (encoder.handled == basic)
      delta := 0
      handled := encoder.handled + 1 }
  else encoder

/-- Places the characters of the label in ascending order, from `n` on. -/
def Encoder.place (label : List Char) (basic : Nat) : (encoder : Encoder) → (n : Nat) →
    (others : List Nat) → List Char
  | encoder, _, [] => encoder.digits
  | encoder, n, next :: rest =>
    let encoder := { encoder with
      delta := encoder.delta + (next - n) * (encoder.handled + 1) }
    let encoder := label.foldl (Encoder.pass basic next) encoder
    Encoder.place label basic { encoder with delta := encoder.delta + 1 } (next + 1) rest

/-- The numbers of some characters, ascending and each once. -/
def ascendingNumbers (cs : List Char) : List Nat :=
  (cs.map Char.toNat).mergeSort.eraseDups

/-- The ASCII form of a label of a domain: the bare code of its characters, which are neither mapped
nor checked. -/
def asciiLabel (label : List Char) : List Char :=
  let isAscii := fun (c : Char) => decide (c.toNat < 0x80)
  if label.all isAscii then label
  else
    let basic := label.filter isAscii
    let front := if basic.isEmpty then [] else basic ++ ['-']
    ['x', 'n', '-', '-'] ++ front
      ++ Encoder.place label basic.length { handled := basic.length } 0x80
        (ascendingNumbers (label.filter fun c => !isAscii c))

/-! ## Hosts -/

/-- What no host may hold. -/
def isForbiddenInHost (c : Char) : Bool :=
  c.toNat == 0 || ['\t', '\n', '\r', ' ', '#', '/', ':', '<', '>', '?', '@', '[', '\\', ']',
    '^', '|'].contains c

/-- What no domain may hold. -/
def isForbiddenInDomain (c : Char) : Bool :=
  isForbiddenInHost c || isControl c || c == '%'

/-- An address in brackets. -/
def bracketedHost (cs : List Char) : Except UrlFault (List Char) :=
  if cs.getLast? = some ']' then
    match ipv6Words? (cs.drop 1).dropLast with
    | some words => .ok (ipv6Text words)
    | none => .error .invalidIpv6
  else .error .invalidIpv6

/-- The host of a web URL. Its labels are not processed as international ones. -/
def webHost (cs : List Char) : Except UrlFault (List Char) :=
  if cs.head? = some '[' then bracketedHost cs
  else
    match decode? cs with
    | none => .error .invalidDomain
    | some domain =>
      let domain := ['.'].intercalate
        ((Text.splitAt '.' (domain.map Char.toLower)).map asciiLabel)
      if domain.isEmpty then .error .emptyHost
      else if domain.any isForbiddenInDomain then .error .invalidDomain
      else if endsInNumber domain then
        match ipv4? domain with
        | some address => .ok address
        | none => .error .invalidIpv4
      else .ok domain

/-- The host of a URL that is not of the web. -/
def opaqueHost (cs : List Char) : Except UrlFault (List Char) :=
  if cs.head? = some '[' then bracketedHost cs
  else if cs.any isForbiddenInHost then .error .invalidHostCharacter
  else .ok (encode isControl cs)

end HotReload.Url
