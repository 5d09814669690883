import SpriteStage.Text.Hex
import SpriteStage.Text.Utf8
import SpriteStage.Web.Host

/-!
# Request targets

A target is a path, perhaps after a scheme and a host and perhaps before a query and a fragment. In
the path and in the query, a percent sign with two digits in base sixteen is an octet. In a path,
octets that are no text stay as they are written; in a query, they become replacement characters,
and a plus sign is a blank. A slash or a percent sign that a path holds as an octet stays coded
until the path is parted into segments.
-/

namespace SpriteStage.Web

/-- An octet of an encoded text, and how it is written. -/
structure Octet where
  value : UInt8
  written : List Char

/-- Whether the octet is part of a character that stands for itself. -/
def Octet.isLiteral (o : Octet) : Bool := o.written.length == 1

/-- The octets of a character that stands for itself. -/
def literal (c : Char) : List Octet := (Text.encodeUtf8 [c]).map fun b => ⟨b, [c]⟩

/-- The octets of an encoded text. -/
def octets : List Char → List Octet
  | '%' :: a :: b :: rest =>
    match Text.hexValue? a, Text.hexValue? b with
    | some high, some low => ⟨UInt8.ofNat (16 * high + low), ['%', a, b]⟩ :: octets rest
    | _, _ => literal '%' ++ octets (a :: b :: rest)
  | c :: rest => literal c ++ octets rest
  | [] => []

/-- A character of a decoded path, given the first octet of it. -/
def pathChar (first : Octet) (c : Char) : List Char :=
  if first.isLiteral then [c]
  else
    match c with
    | '/' => ['%', '2', 'F']
    | '%' => ['%', '2', '5']
    | c => [c]

/-- Decodes the octets of a path, leaving those that are no text as they are written, at most `fuel`
characters. -/
def decodeOctets : Nat → List Octet → List Char
  | _, [] => []
  | 0, _ => []
  | fuel + 1, first :: rest =>
    match Text.readChar first.value (rest.map (·.value)) with
    | (some c, used) => pathChar first c ++ decodeOctets fuel (rest.drop used)
    | (none, used) =>
      first.written ++ (rest.take used).flatMap (·.written) ++ decodeOctets fuel (rest.drop used)

/-- A path, decoded but for the slashes and percent signs that it holds as octets. -/
def decodePath (cs : List Char) : List Char :=
  let coded := octets cs
  decodeOctets coded.length coded

/-- A text with its coded slashes decoded. -/
def decodeSlashes : List Char → List Char
  | '%' :: '2' :: 'F' :: rest => '/' :: decodeSlashes rest
  | c :: rest => c :: decodeSlashes rest
  | [] => []

/-- A text with its coded percent signs decoded. -/
def decodePercents : List Char → List Char
  | '%' :: '2' :: '5' :: rest => '%' :: decodePercents rest
  | c :: rest => c :: decodePercents rest
  | [] => []

/-- A segment of a decoded path, decoded to the end. -/
def decodeSegment (s : String) : String := String.ofList (decodePercents (decodeSlashes s.toList))

/-- A name or a value in a query, decoded. -/
def decodeField (cs : List Char) : String :=
  let blanks := cs.map fun c => if c == '+' then ' ' else c
  String.ofList (Text.decodeUtf8Lossy ((octets blanks).map (·.value)))

/-- Splits a text at the first place of a character. -/
def splitAt (mark : Char) (cs : List Char) : List Char × List Char :=
  let (before, after) := cs.span (· != mark)
  (before, after.drop 1)

/-- Splits a text at every place of a character. -/
def splitOn (mark : Char) : List Char → List (List Char)
  | [] => [[]]
  | c :: rest =>
    let parts := splitOn mark rest
    if c == mark then [] :: parts else (c :: parts.headD []) :: parts.tail

/-- A target, taken apart: the segments of the path after its first slash, and the fields of the
query. A path that does not begin with a slash has no segments. -/
structure Target where
  segments : List String
  query : List (String × String)

namespace Target

/-- The text without blanks and control characters at its front, and without tabs and line breaks
anywhere. -/
def cleaned (cs : List Char) : List Char :=
  (cs.dropWhile (·.toNat ≤ 0x20)).filter fun c => c != '\t' && c != '\r' && c != '\n'

/-- Whether a character can be part of a scheme. -/
def isSchemeChar (c : Char) : Bool := c.isAlphanum || c == '+' || c == '-' || c == '.'

/-- The text without a scheme and its colon at the front. -/
def withoutScheme (cs : List Char) : List Char :=
  match cs.span (· != ':') with
  | (scheme, ':' :: rest) => if !scheme.isEmpty && scheme.all isSchemeChar then rest else cs
  | _ => cs

/-- Splits a host off, which stands after two slashes. -/
def splitHost : List Char → List Char × List Char
  | '/' :: '/' :: rest => rest.span fun c => c != '/' && c != '?' && c != '#'
  | cs => ([], cs)

/-- The segments of a path. -/
def segmentsOf (path : List Char) : List String :=
  match splitOn '/' (decodePath path) with
  | [] :: segments => segments.map String.ofList
  | _ => []

/-- The fields of a query. -/
def fieldsOf (query : List Char) : List (String × String) :=
  ((splitOn '&' query).filter (!·.isEmpty)).map fun field =>
    let (name, value) := splitAt '=' field
    (decodeField name, decodeField value)

/-- Takes a target apart, whose host has to be well formed. -/
def parse (target : String) : Except Fault Target :=
  let (host, rest) := splitHost (withoutScheme (cleaned target.toList))
  match Host.problem? host with
  | some problem => .error (.badHost problem)
  | none =>
    let (beforeHash, _) := splitAt '#' rest
    let (path, query) := splitAt '?' beforeHash
    .ok { segments := segmentsOf path, query := fieldsOf query }

/-- The first value of a name in the query. -/
def queryValue? (t : Target) (name : String) : Option String := t.query.lookup name

end Target

end SpriteStage.Web
