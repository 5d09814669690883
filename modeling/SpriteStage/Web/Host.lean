import SpriteStage.Fault
import SpriteStage.Text.Hex

/-!
# Hosts

A host may stand in a request target before the path: perhaps a user and an at sign, a name or an
address in square brackets, and perhaps a colon and a port. What it names does not matter here, but
it has to be well formed.
-/

namespace SpriteStage.Web.Host

/-- What follows the first place of a character, nothing if there is none. -/
def after (mark : Char) (cs : List Char) : List Char := (cs.dropWhile (· != mark)).drop 1

/-- What follows the last place of a character, all if there is none. -/
def afterLast (mark : Char) (cs : List Char) : List Char :=
  (cs.reverse.takeWhile (· != mark)).reverse

/-- Whether an address begins with the letter for future kinds, digits in base sixteen and a point,
and goes on after that. -/
def isFutureAddress : List Char → Bool
  | 'v' :: rest =>
    let (digits, rest) := rest.span fun c => (Text.hexValue? c).isSome
    !digits.isEmpty && rest.head? == some '.' && 1 < rest.length
  | _ => false

/-- What is wrong with the brackets of a host and the address in them. -/
def bracketProblem? (host : List Char) : Option HostProblem :=
  if host.contains '\x5b' != host.contains '\x5d' then some .unbalanced
  else if host.contains '\x5b' then
    let address := (after '\x5b' host).takeWhile (· != '\x5d')
    if address.head? == some 'v' then
      if isFutureAddress address then none else some .futureAddress
    else if address.contains ':' then none
    else some .noColon
  else none

/-- The port of a host, as it is written. -/
def port (host : List Char) : List Char :=
  let place := afterLast '@' host
  if place.contains '\x5b' then after ':' (after '\x5d' (after '\x5b' place)) else after ':' place

/-- What is wrong with a port; one that is left out is well formed. -/
def portProblem? (port : List Char) : Option HostProblem :=
  if port.isEmpty then none
  else
    match Number.readInt (String.ofList port) with
    | .error _ => some .portText
    | .ok n => if 0 ≤ n && n ≤ 65535 then none else some .portRange

/-- What is wrong with a host. -/
def problem? (host : List Char) : Option HostProblem :=
  bracketProblem? host <|> portProblem? (port host)

end SpriteStage.Web.Host
