import TemplatedRequests.Idna
import TemplatedRequests.Text.Ascii
import TemplatedRequests.Text.Case
import TemplatedRequests.Url.Ipv6
import TemplatedRequests.Url.Percent

/-!
Hosts of addresses: numeric ones, which are checked, and names, which are written in small letters
of ASCII.
-/

namespace TemplatedRequests.Url

inductive BadHost where
  | quad (text : List Char)
  | ipv6 (text : List Char)
  | name (text : List Char)
  deriving DecidableEq, Repr

/-- How far a text is read as four runs of digits with one character between each two: for each
run, whether the text may end within it, and whether it may start next. -/
structure Runs where
  inside : List Bool := [false, false, false, false]
  due : List Bool := [true, false, false, false]

/-- Any character may stand between two runs, a digit as well. -/
def Runs.read (r : Runs) (c : Char) : Runs where
  inside := List.zipWith (fun i d => c.isDigit && (i || d)) r.inside r.due
  due := false :: r.inside.dropLast

def looksNumeric (host : List Char) : Bool :=
  (host.foldl Runs.read {}).inside.getLast? == some true

/-- The text in brackets, if all of a text stands in them. -/
def bracketed? (host : List Char) : Option (List Char) :=
  match host with
  | '[' :: r => if 0 < r.length && r.getLast? == some ']' then some r.dropLast else none
  | _ => none

def readHost (host : List Char) : Except BadHost (List Char) :=
  if host.isEmpty then .ok []
  else if looksNumeric host then if isQuad host then .ok host else .error (.quad host)
  else match bracketed? host with
    | some inside => if isIpv6 inside then .ok inside else .error (.ipv6 host)
    | none =>
      let small := Text.lower host
      if host.all Text.Ascii.holds then .ok (escape hostSafe small)
      else (Idna.encode small).mapError fun _ => .name host

/-- A host as it stands in an address: one with colons stands in brackets. -/
def hostText (host : List Char) : List Char :=
  if host.contains ':' then '[' :: host ++ [']'] else host

/-- A host for readers: the name that a first label in ASCII stands for. -/
def plainHost (host : List Char) : Except Idna.Problem (List Char) :=
  if Idna.Label.mark.isPrefixOf host then (Idna.decode host).map (·.map Char.ofNat) else .ok host

end TemplatedRequests.Url
