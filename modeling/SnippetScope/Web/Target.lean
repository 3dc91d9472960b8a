/-
  SnippetScope.Web.Target

  The target of a request: the path and the query of a web address.
-/
import SnippetScope.Web.Escape

namespace SnippetScope.Web

/-! ## Paths -/

/-- Characters that separate the segments of a path. -/
def isSeparator (c : Char) : Bool := c == '/' || c == '\\'

/-- The segments between the separators of a path. -/
def segments : List Char → List (List Char)
  | [] => [[]]
  | c :: rest =>
    if isSeparator c then [] :: segments rest
    else match segments rest with
      | [] => [[c]]
      | segment :: others => (c :: segment) :: others

/-- The dot of a segment, which may be written as an escape. -/
def dropDot? : List Char → Option (List Char)
  | '.' :: rest => some rest
  | '%' :: '2' :: e :: rest => if e = 'e' ∨ e = 'E' then some rest else none
  | _ => none

/-- A segment that stays where it is. -/
def isDot (segment : List Char) : Bool :=
  dropDot? segment = some []

/-- A segment that goes back by one. -/
def isDoubleDot (segment : List Char) : Bool :=
  (dropDot? segment).bind dropDot? = some []

/-- A segment that names a drive. -/
def isDrive : List Char → Bool
  | [letter, mark] => letter.isAlpha && (mark == ':' || mark == '|')
  | _ => false

/-- The segments without the last one; a drive is not left. -/
def leave (path : List (List Char)) : List (List Char) :=
  match path.getLast? with
  | some last => if isDrive last then path else path.dropLast
  | none => path

/-- Follows segments from a path that has been reached. -/
def follow (path : List (List Char)) : List (List Char) → List (List Char)
  | [] => path
  | [last] =>
    if isDoubleDot last then leave path ++ [[]]
    else if isDot last then path ++ [[]]
    else path ++ [last]
  | segment :: rest =>
    if isDoubleDot segment then follow (leave path) rest
    else if isDot segment then follow path rest
    else follow (path ++ [segment]) rest

/-- A path as it is sent. -/
def writePath (path : List Char) : List Char :=
  let written := segments path
  let written := match written with
    | [] :: rest => if rest.isEmpty then written else rest
    | _ => written
  (follow [] (written.map (escape isPathChar))).flatMap ('/' :: ·)

/-! ## Addresses -/

/-- Characters that are left out of an address. -/
def isIgnored (c : Char) : Bool :=
  c == '\t' || c == '\n' || c == '\r'

/-- Characters that may follow the name of a host. -/
def endsHost (c : Char) : Bool :=
  isSeparator c || c == '?' || c == '#'

/-- The target for what follows the host in an address, with one more
    parameter; what follows a hash is not sent.  There is none if the name of
    the host goes on. -/
def target? (afterHost : List Char) (parameter value : List Char) : Option (List Char) :=
  let text := (afterHost.filter (!isIgnored ·)).takeWhile (· != '#')
  if !(((afterHost.filter (!isIgnored ·)).head?.map endsHost).getD true) then none
  else
    let path := text.takeWhile (· != '?')
    let query := escape isQueryChar (text.drop (path.length + 1))
    some (writePath path ++ '?' :: query ++ (if query.isEmpty then [] else ['&'])
      ++ formValue parameter ++ '=' :: formValue value)

end SnippetScope.Web
